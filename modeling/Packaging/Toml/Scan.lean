/-! # Scanning a text from left to right

A scanner takes characters from the front of a text, or fails. Alternatives are tried from the same
place. -/

namespace Packaging.Toml

/-- A scanner of characters. -/
abbrev Scan := StateT (List Char) Option

namespace Scan

variable {α : Type}

/-- The next character, which stays in the text. -/
def peek? : Scan (Option Char) := fun s => some (s.head?, s)

/-- The next character, if it satisfies a condition. -/
def satisfy (p : Char → Bool) : Scan Char
  | c :: s => if p c then some (c, s) else none
  | [] => none

/-- A given character. -/
def char (c : Char) : Scan Unit := do let _ ← satisfy (· == c)

/-- Given characters. -/
def word (w : String) : Scan Unit := w.toList.forM char

/-- The longest run of characters that satisfy a condition. -/
def takeWhile (p : Char → Bool) : Scan (List Char) := fun s => some (s.span p)

/-- The longest run of characters that satisfy a condition, one at least. -/
def takeSome (p : Char → Bool) : Scan (List Char) := do
  let cs ← takeWhile p
  if cs.isEmpty then failure
  return cs

/-- Exactly so many characters that satisfy a condition. -/
def exactly (p : Char → Bool) : Nat → Scan (List Char)
  | 0 => return []
  | n + 1 => do return (← satisfy p) :: (← exactly p n)

/-- What a scanner finds, or nothing where it fails. -/
def opt (scan : Scan α) : Scan (Option α) := (some <$> scan) <|> pure none

/-- The end of the text. -/
def endOfText : Scan Unit
  | [] => some ((), [])
  | _ :: _ => none

/-- Repeats a scanner until it fails, at most so many times. -/
def repeatUpTo (scan : Scan α) : Nat → Scan (List α)
  | 0 => return []
  | n + 1 => do
    match ← opt scan with
    | some a => return a :: (← repeatUpTo scan n)
    | none => return []

/-- Repeats a scanner until it fails. As it takes a character each time, the length of the text
bounds the number of times. -/
def many (scan : Scan α) : Scan (List α) := fun s => repeatUpTo scan s.length s

/-- One thing or more, separated by a character. -/
def separated (scan : Scan α) (separator : Char) : Scan (List α) := do
  return (← scan) :: (← many (do char separator; scan))

end Scan

end Packaging.Toml
