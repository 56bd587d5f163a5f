import Packaging.Text.ByteOrder
import Packaging.Url.Domain
import Packaging.Url.Percent

/-! # Hosts

A host is named, or it is given by its number. A number of 32 bits is written as one to four
numbers with points between them, in base 10, 8 or 16; all but the last are bytes. A number of 128
bits is written between brackets as eight pieces of 16 bits in hexadecimal, where two colons stand
for pieces that are zero, and the last two pieces may be written as four bytes. -/

namespace Packaging

open Text

/-- Who an address belongs to. -/
inductive Host where
  | name (cs : List Char)
  /-- A number of 32 bits. -/
  | short (number : Nat)
  /-- Eight numbers of 16 bits. -/
  | long (pieces : List Nat)
  deriving DecidableEq

namespace Host

/-! ## Short numbers -/

/-- The number that digits of a base spell; no digits spell zero. -/
def inBase? (base : Nat) (digits : List Char) : Option Nat :=
  digits.foldlM (fun n c => do
    let d ← Hex.value? c
    if d < base then some (base * n + d) else none) 0

/-- The number that a text is. `0x` and `0` before it give its base. -/
def number? : List Char → Option Nat
  | [] => none
  | '0' :: 'x' :: digits => inBase? 16 digits
  | '0' :: d :: digits => inBase? 8 (d :: digits)
  | digits => inBase? 10 digits

/-- The parts of a name, without an empty last one. -/
def partsOf (cs : List Char) : List (List Char) :=
  let parts := splitAtMarks (· = '.') cs
  if parts.length ≠ 1 ∧ parts.getLast? = some [] then parts.dropLast else parts

/-- Whether a name can only be a number, as its last part is one. -/
def endsInNumber (cs : List Char) : Bool :=
  (partsOf cs).getLast?.any fun part =>
    part ≠ [] && part.all Char.isDigit || (number? part).isSome

/-- The number of parts from which the last takes the bits that are left. -/
def joinParts? : Nat → List Nat → Option Nat
  | _, [] => none
  | bits, [last] => if last < Nat.pow 2 bits then some last else none
  | bits, n :: ns =>
    if n < 256 ∧ 8 < bits then
      (joinParts? (bits - 8) ns).map (n * Nat.pow 2 (bits - 8) + ·)
    else none

/-- The number of 32 bits that a text is. -/
def short? (cs : List Char) : Option Nat := do joinParts? 32 (← (partsOf cs).mapM number?)

/-- The bytes of a number of 32 bits. -/
def bytesOf (number : Nat) : List Nat :=
  [number / 16777216 % 256, number / 65536 % 256, number / 256 % 256, number % 256]

/-! ## Long numbers -/

/-- The byte that decimal digits spell, without leading zeros. -/
def byte? (digits : List Char) : Option Nat :=
  if digits.all Char.isDigit ∧ digits ≠ [] ∧ (digits.head? ≠ some '0' ∨ digits.length = 1) then
    (inBase? 10 digits).filter (· < 256)
  else none

/-- The two pieces that four bytes give. -/
def bytePieces? (cs : List Char) : Option (List Nat) := do
  match ← (splitAtMarks (· = '.') cs).mapM byte? with
  | [a, b, c, d] => some [256 * a + b, 256 * c + d]
  | _ => none

/-- The piece that one to four digits spell. -/
def piece? (digits : List Char) : Option Nat :=
  if 1 ≤ digits.length ∧ digits.length ≤ 4 then inBase? 16 digits else none

/-- The pieces between colons, the last of which may be given as bytes if it is the last of all. -/
def pieces? (isLast : Bool) : List (List Char) → Option (List Nat)
  | [] => some []
  | [part] => if isLast ∧ part.contains '.' then bytePieces? part else (piece? part).map ([·])
  | part :: parts => do return (← piece? part) :: (← pieces? isLast parts)

/-- The texts before and after the first two colons, if there are any. -/
def splitColons? : List Char → Option (List Char × List Char)
  | [] => none
  | ':' :: ':' :: cs => some ([], cs)
  | c :: cs => (splitColons? cs).map fun (before, after) => (c :: before, after)

/-- The pieces of a text between colons; an empty text has none. -/
def side? (isLast : Bool) (cs : List Char) : Option (List Nat) :=
  if cs = [] then some [] else pieces? isLast (splitAtMarks (· = ':') cs)

/-- The pieces that a text gives. -/
def long? (cs : List Char) : Option (List Nat) :=
  match splitColons? cs with
  | some (before, after) => do
    let before ← side? false before
    let after ← side? true after
    let zeros := 8 - (before.length + after.length)
    if zeros = 0 then none else return before ++ List.replicate zeros 0 ++ after
  | none => do
    let pieces ← side? true cs
    if pieces.length = 8 then some pieces else none

/-- How many zeros a list begins with. -/
def zerosOf (pieces : List Nat) : Nat := (pieces.takeWhile (· = 0)).length

/-- The longest run of zeros in a list. -/
def longestZeros : List Nat → Nat
  | [] => 0
  | n :: ns => max (zerosOf (n :: ns)) (longestZeros ns)

/-- Pieces with colons between them. -/
def writePieces (pieces : List Nat) : List Char := [':'].intercalate (pieces.map Hex.ofNat)

/-- Eight pieces, where two colons stand for the first of the longest runs of zeros, given how long
that is and the pieces before in reverse order. -/
def writeLong (run : Nat) (before : List Nat) : List Nat → List Char
  | [] => writePieces before.reverse
  | n :: ns =>
    if 2 ≤ run ∧ zerosOf (n :: ns) = run then
      writePieces before.reverse ++ [':', ':'] ++ writePieces ((n :: ns).drop run)
    else writeLong run (n :: before) ns

/-! ## Hosts -/

/-- A host as it is written in an address. -/
def text : Host → List Char
  | name cs => cs
  | short number => ['.'].intercalate ((bytesOf number).map (Nat.toDigits 10))
  | long pieces => ['['] ++ writeLong (longestZeros pieces) [] pieces ++ [']']

/-- The host that a text after an opening bracket is. -/
def bracketed? (cs : List Char) : Option Host :=
  if cs.getLast? = some ']' then (long? cs.dropLast).map long else none

/-- The host that a text is, if any. Outside brackets, bytes may be encoded. -/
def ofText? (cs : List Char) : Option Host :=
  match cs with
  | '[' :: cs => bracketed? cs
  | cs => do
    let name ← Domain.ofText? (← Text.ofBytes? (Url.decode cs)).toList
    if endsInNumber name then (short? name).map short else some (.name name)

example : (["0x7f.1", "017.256", "[1:0::2:0:0]", "[::1.2.3.4]", "a%41."].map fun s =>
    (ofText? s.toList).map (String.ofList ·.text)) =
      [some "127.0.0.1", some "15.0.1.0", some "[1::2:0:0]", some "[::102:304]", some "aa."] := by
  decide +kernel

example : ["256.0.0.1", "1.2.3.4.5", "4294967296", "09", "[::1.2.3]", "a b", ""].all
    (fun s => ofText? s.toList = none) := by decide +kernel

end Host

end Packaging
