import Packaging.Text.Mark.Table
import Packaging.Text.Printable.Table

/-! # Marks

A mark goes with the character before it. -/

namespace Packaging.Text

/-- Whether a character is a mark. -/
def isMark (c : Char) : Bool := extending.contains c || spacingMarks.contains c

example : isMark '\u0301' ∧ isMark '\u0903' ∧ ¬isMark 'a' := by decide +kernel

end Packaging.Text
