import Packaging.Text.Folding.Table
import Packaging.Text.Split

/-! # The plain form of a character

Texts that read the same may be written with different characters: with capital letters or small
ones, in other shapes or widths. Such characters have one plain form in common. -/

namespace Packaging.Text

/-- The plain form of a character beyond ASCII, if it is not plain itself. -/
def plainForm? (c : Char) : Option (List Char) :=
  match moveBy? plainRuns c with
  | some d => some [d]
  | none => do
    let (first, _, words) ← plainWords.find? fun (first, last, _) =>
      first ≤ c.toNat && c.toNat ≤ last
    (splitAtMarks (· = ' ') words.toList)[c.toNat - first]?

/-- The plain form of a character. -/
def plainForm (c : Char) : List Char :=
  if c.toNat < 0x80 then [c.toLower] else (plainForm? c).getD [c]

example : ("AÉĲßﬁ①Ｂ𝔄。1".toList.flatMap plainForm) = "aéijßfi1ba.1".toList := by decide +kernel

end Packaging.Text
