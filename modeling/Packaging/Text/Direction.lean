import Packaging.Text.Direction.Table
import Packaging.Text.Printable.Table

/-! # The direction of writing

Some scripts are written from right to left. A name that mixes directions could be read in the wrong
order, so its labels must keep to one direction each, from the first character to the last. -/

namespace Packaging.Text

/-- In which direction a character is written. -/
inductive Direction where
  | rightward
  | leftward
  | europeanDigit
  | arabicDigit
  | neutral
  | mark
  deriving DecidableEq

namespace Direction

/-- The direction of a character. -/
def ofChar (c : Char) : Direction :=
  if c.toNat < 0x80 then
    if c.isAlpha then rightward else if c.isDigit then europeanDigit else neutral
  else if extending.contains c then mark
  else if Text.leftward.contains c then leftward
  else if Text.europeanDigits.contains c then europeanDigit
  else if Text.arabicDigits.contains c then arabicDigit
  else if Text.neutral.contains c then neutral
  else rightward

/-- Whether a text with a character of this direction is one where directions matter. -/
def isLeftward (d : Direction) : Bool := d = leftward || d = arabicDigit

/-- Whether a label keeps to one direction. -/
def keeps (label : List Direction) : Bool :=
  let last? := (label.reverse.dropWhile (· = mark)).head?
  match label.head? with
  | none => true
  | some rightward =>
    !label.any isLeftward && last?.any fun d => d = rightward || d = europeanDigit
  | some leftward =>
    !label.contains rightward && !(label.contains europeanDigit && label.contains arabicDigit) &&
      last?.any fun d => d = leftward || d = europeanDigit || d = arabicDigit
  | some _ => false

end Direction

/-- Whether the labels of a name keep to their directions, if directions matter. -/
def keepDirections (labels : List (List Char)) : Bool :=
  let labels := labels.map (·.map Direction.ofChar)
  !labels.any (·.any Direction.isLeftward) || labels.all Direction.keeps

example : keepDirections ["a1-b".toList, "1".toList] ∧
    keepDirections ["\u05d01".toList, "a".toList] ∧
    ¬keepDirections ["\u05d0".toList, "1a".toList] ∧
    ¬keepDirections ["\u05d0a".toList] := by decide +kernel

end Packaging.Text
