import Packaging.Decimal.Shortest

/-! # Double-precision numbers as text

A style says which numbers are written in positional notation and how the others are marked. The
digits are always the shortest that read back. -/

namespace Packaging.Decimal

/-- How numbers are written. -/
structure Style where
  /-- The least power of ten of the leading digit that is written positionally. -/
  least : Int
  /-- The greatest such power. -/
  greatest : Int
  /-- Where a tie between two shortest decimals goes. -/
  tie : Tie
  /-- What is written for a number too great for the format. -/
  infinity : String
  /-- What is written for no number at all. -/
  nan : String

/-- The digits of a number, without leading zeros. -/
def digitsOf (n : Nat) : List Char := Nat.toDigits 10 n

/-- Positional notation with a point and at least one digit on each side of it. -/
def Scientific.positional (s : Scientific) : List Char :=
  let digits := digitsOf s.digits
  let point := digits.length + s.exponent
  if 0 ≤ s.exponent then digits ++ List.replicate s.exponent.toNat '0' ++ ['.', '0']
  else if 0 < point then digits.take point.toNat ++ '.' :: digits.drop point.toNat
  else ['0', '.'] ++ List.replicate (-point).toNat '0' ++ digits

/-- One digit, a point if more follow, and the power of ten with its sign. -/
def Scientific.marked (s : Scientific) : List Char :=
  let digits := digitsOf s.digits
  let power := digits.length - 1 + s.exponent
  let mantissa := match digits with
    | [] => []
    | [d] => [d]
    | d :: rest => d :: '.' :: rest
  mantissa ++ ['e', if power < 0 then '-' else '+'] ++ digitsOf power.natAbs

/-- A decimal in a style. -/
def Style.write (style : Style) (s : Scientific) : List Char :=
  let power := (digitsOf s.digits).length - 1 + s.exponent
  if style.least ≤ power ∧ power ≤ style.greatest then s.positional else s.marked

/-- How many fractions a double-precision number can have: `2 ^ 52`. -/
def fractionCount : Nat := 4503599627370496

/-- A double-precision number in a style, given the bits of its representation: a fraction of 52
bits, a field of 11 bits for the exponent, and the sign. -/
def Style.ofBits (style : Style) (bits : UInt64) : String :=
  let n := bits.toNat
  let sign := if n / fractionCount < 2048 then "" else "-"
  let field : Nat := n / fractionCount % 2048
  let fraction : Nat := n % fractionCount
  if field = 2047 then if fraction = 0 then sign ++ style.infinity else style.nan
  else if field = 0 ∧ fraction = 0 then sign ++ "0.0"
  else
    let number : Binary :=
      if field = 0 then ⟨fraction, -1074, false⟩
      else ⟨fraction + fractionCount, field - 1075, fraction = 0 ∧ 1 < field⟩
    match number.shortest? style.tie with
    | some s => sign ++ String.ofList (style.write s)
    | none => sign ++ "0.0"

/-- A double-precision number in a style. -/
def Style.text (style : Style) (x : Float) : String := style.ofBits x.toBits

end Packaging.Decimal
