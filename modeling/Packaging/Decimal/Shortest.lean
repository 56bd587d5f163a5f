/-! # The shortest decimal of a binary number

A positive binary number is read back from every decimal in an interval around it, which reaches
halfway to its two neighbours; both ends belong to it when the number's mantissa is even. The
shortest decimal is a point of the coarsest decimal grid that meets the interval, and of two such
points the nearer one. -/

namespace Packaging.Decimal

/-- The positive number `mantissa * 2 ^ exponent`. -/
structure Binary where
  mantissa : Nat
  exponent : Int
  /-- Whether the neighbour below is at half the distance of the neighbour above. -/
  closeBelow : Bool

/-- The number `digits * 10 ^ exponent`. -/
structure Scientific where
  digits : Nat
  exponent : Int
  deriving DecidableEq

/-- Where a tie between two points of a grid goes. -/
inductive Tie where
  | even
  | up

/-- The numbers that read back as a binary number, as a fraction: the number, the two ends, and
their common denominator. -/
structure Neighbourhood where
  low : Nat
  value : Nat
  high : Nat
  unit : Nat
  /-- Whether the ends read back, too. -/
  closed : Bool

/-- The numbers that read back as `b`. -/
def Binary.neighbourhood (b : Binary) : Neighbourhood :=
  let q := b.exponent - 2
  let scale := Nat.pow 2 q.toNat
  { low := (4 * b.mantissa - (if b.closeBelow then 1 else 2)) * scale
    value := 4 * b.mantissa * scale
    high := (4 * b.mantissa + 2) * scale
    unit := Nat.pow 2 (-q).toNat
    closed := b.mantissa % 2 = 0 }

/-- Whether `num / den` lies in a neighbourhood. -/
def Neighbourhood.contains (n : Neighbourhood) (num den : Nat) : Bool :=
  let x := num * n.unit
  if n.closed then n.low * den ≤ x && x ≤ n.high * den else n.low * den < x && x < n.high * den

/-- The point of the grid of multiples of `10 ^ k` that is shown for a number, if one reads back as
that number. -/
def Neighbourhood.onGrid? (n : Neighbourhood) (tie : Tie) (k : Int) : Option Scientific :=
  let up := Nat.pow 10 k.toNat
  let down := Nat.pow 10 (-k).toNat
  -- the number is `num / den` steps of the grid
  let num := n.value * down
  let den := n.unit * up
  let below := num / den
  let hit (steps : Nat) := steps ≠ 0 && n.contains (steps * up) down
  let twice := 2 * (num % den)
  let nearer := if twice < den then below
    else if den < twice then below + 1
    else match tie with
      | .up => below + 1
      | .even => if below % 2 = 0 then below else below + 1
  match hit below, hit (below + 1) with
  | true, true => some ⟨nearer, k⟩
  | true, false => some ⟨below, k⟩
  | false, true => some ⟨below + 1, k⟩
  | false, false => none

/-- The grids from `10 ^ (n - 344)` down are tried until one meets the neighbourhood. -/
def Neighbourhood.search (nb : Neighbourhood) (tie : Tie) : Nat → Option Scientific
  | 0 => none
  | n + 1 => (nb.onGrid? tie (n - 343)).orElse fun _ => nb.search tie n

/-- The shortest decimal that reads back as a double-precision number. -/
def Binary.shortest? (b : Binary) (tie : Tie) : Option Scientific :=
  b.neighbourhood.search tie 653

end Packaging.Decimal
