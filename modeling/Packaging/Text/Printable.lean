import Packaging.Text.Printable.Table

/-! # Printable characters

A character is shown as itself when it has a glyph and does not join the character before it. -/

namespace Packaging.Text

/-- Whether a character has no glyph. -/
def isHidden (c : Char) : Bool :=
  if c.toNat < 0x10000 then hiddenBasic.contains c else hiddenBeyond.contains c

/-- Whether a character shows as a glyph of its own. -/
def isPrintable (c : Char) : Bool :=
  if c.toNat < 0x7f then 0x20 ≤ c.toNat else !isHidden c && !extending.contains c

example : isPrintable ' ' ∧ ¬isPrintable '\x7f' ∧ isPrintable 'é' ∧ ¬isPrintable '\u200b' := by
  decide +kernel

/-- A letter without a glyph is not printable, and a sound mark of half width is. -/
example : ¬isPrintable '\u115f' ∧ ¬isPrintable '\u0301' ∧ isPrintable '\uff9e' := by
  decide +kernel

end Packaging.Text
