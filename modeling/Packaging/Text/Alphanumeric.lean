import Packaging.Text.Alphanumeric.Table

/-! # Letters and numbers of all scripts -/

namespace Packaging.Text

/-- Whether a character is a letter or a number of some script. -/
def isAlphanumeric (c : Char) : Bool :=
  if c.toNat < 0x80 then c.isAlphanum
  else if c.toNat < 0x10000 then alphanumericBasic.contains c
  else alphanumericBeyond.contains c

example : isAlphanumeric 'a' ∧ isAlphanumeric 'é' ∧ isAlphanumeric '½' ∧ ¬isAlphanumeric '_' := by
  decide +kernel

end Packaging.Text
