import Packaging.Text.Composition
import Packaging.Text.Joining.Table
import Packaging.Text.Printable.Table

/-! # Joiners

Two characters that do not show join the letters around them, or keep them apart. In a name they may
stand where they change how it looks: after a mark that takes the vowel from a letter, and the one
that keeps apart also between two letters that would join. -/

namespace Packaging.Text

/-- What joins letters. -/
def joiner : Char := '\u200d'

/-- What keeps letters apart. -/
def nonJoiner : Char := '\u200c'

/-- The class of the marks that take the vowel from a letter. -/
def vowelless : Nat := 9

/-- Whether letters would join, given those before a place in reverse order and those after it.
Marks do not keep them apart. -/
def wouldJoin (before after : List Char) : Bool :=
  (before.dropWhile extending.contains).head?.any joiningNext.contains &&
    (after.dropWhile extending.contains).head?.any joiningPrevious.contains

/-- Whether each joiner stands where it may, given the characters before in reverse order. -/
def joinersFit (before : List Char) : List Char → Bool
  | [] => true
  | c :: cs =>
    (c ≠ joiner && c ≠ nonJoiner || before.head?.any (markClass · = vowelless) ||
      c = nonJoiner && wouldJoin before cs) && joinersFit (c :: before) cs

example : joinersFit [] "\u0915\u094d\u200d".toList ∧ ¬joinersFit [] "a\u200db".toList ∧
    joinersFit [] "\u0628\u200c\u0628".toList := by decide +kernel

end Packaging.Text
