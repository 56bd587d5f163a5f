import Packaging.Text.CodePoints

/-! # Blank characters

The characters of Unicode's property `White_Space`, and the tokens they separate. -/

namespace Packaging.Text

/-- The ranges of `White_Space`. -/
def blankRanges : CodePoints :=
  [(0x09, 0x0d), (0x20, 0x20), (0x85, 0x85), (0xa0, 0xa0), (0x1680, 0x1680), (0x2000, 0x200a),
    (0x2028, 0x2029), (0x202f, 0x202f), (0x205f, 0x205f), (0x3000, 0x3000)]

/-- Whether a character is `White_Space`. -/
def isBlank (c : Char) : Bool := blankRanges.contains c

/-- The longest run of characters that are not blank, after the blanks the text begins with. -/
def firstToken (cs : List Char) : List Char :=
  (cs.dropWhile isBlank).takeWhile fun c => !isBlank c

/-- A text without the blanks around it. -/
def trimBlanks (cs : List Char) : List Char :=
  ((cs.dropWhile isBlank).reverse.dropWhile isBlank).reverse

/-- Whether a text has no character but blanks. -/
def isBlankText (s : String) : Bool := s.toList.all isBlank

example : blankRanges.size = 25 := by decide

/-- A text has a token unless it is blank. -/
theorem firstToken_eq_nil_iff {cs : List Char} : firstToken cs = [] ↔ cs.all isBlank := by
  induction cs with
  | nil => simp [firstToken]
  | cons c cs ih =>
    cases h : isBlank c
    · simp [firstToken, h]
    · simpa [firstToken, h] using ih

end Packaging.Text
