import Packaging.Text.Composition.Table

/-! # Composed texts

A letter with a mark may be written as one character or as two, and two marks that do not touch may
be written in either order. A text is composed when each letter is one character with as many of its
marks as there is a character for, and when the marks stand in the order of their classes. Korean
syllables are composed of two or three letters by a rule. -/

namespace Packaging.Text

/-! ## Two characters and the one that they make -/

/-- The Korean syllable that two letters or a syllable and a letter make. -/
def syllable? (a b : Char) : Option Char :=
  let first := a.toNat - 0x1100
  let vowel := b.toNat - 0x1161
  let last := b.toNat - 0x11a7
  if 0x1100 ≤ a.toNat ∧ first < 19 ∧ 0x1161 ≤ b.toNat ∧ vowel < 21 then
    some (Char.ofNat (0xac00 + (21 * first + vowel) * 28))
  else if 0xac00 ≤ a.toNat ∧ a.toNat ≤ 0xd7a3 ∧ (a.toNat - 0xac00) % 28 = 0 ∧
      0x11a8 ≤ b.toNat ∧ last < 28 then
    some (Char.ofNat (a.toNat + last))
  else none

/-- The character that two make, if any. -/
def joined? (a b : Char) : Option Char :=
  if b.toNat < 0x300 then none
  else match syllable? a b with
    | some c => some c
    | none => do return Char.ofNat (← (← compositions.lookup b.toNat).lookup a.toNat)

/-- The two characters that a Korean syllable is made of. -/
def syllableParts (c : Char) : List Char :=
  let n := c.toNat - 0xac00
  if n % 28 = 0 then [Char.ofNat (0x1100 + n / 588), Char.ofNat (0x1161 + n % 588 / 28)]
  else [Char.ofNat (c.toNat - n % 28), Char.ofNat (0x11a7 + n % 28)]

/-- The two characters that make a character, or the character alone. -/
def parts (c : Char) : List Char :=
  if c.toNat < 0xc0 then [c]
  else if 0xac00 ≤ c.toNat ∧ c.toNat ≤ 0xd7a3 then syllableParts c
  else
    let found := compositions.findSome? fun (second, firsts) =>
      (firsts.find? (·.2 = c.toNat)).map fun (first, _) => [Char.ofNat first, Char.ofNat second]
    found.getD [c]

/-- A text with its characters taken apart. None is made in more than three steps. -/
def decompose (cs : List Char) : List Char :=
  ((cs.flatMap parts).flatMap parts).flatMap parts

/-! ## The order of marks -/

/-- The class of a mark; all other characters have class 0. -/
def markClass (c : Char) : Nat :=
  if c.toNat < 0x300 then 0
  else ((markClasses.find? (·.2.contains c)).map (·.1)).getD 0

/-- A character put before others, behind the marks of lower classes. -/
def insertMark (c : Char) : List Char → List Char
  | [] => [c]
  | d :: cs =>
    if 0 < markClass d ∧ markClass d < markClass c then d :: insertMark c cs else c :: d :: cs

/-- A text with its marks in order. -/
def sortMarks (cs : List Char) : List Char := cs.foldr insertMark []

/-! ## Composed texts -/

/-- Composes a text, given the character that the next ones may join and the marks after it. A mark
joins it unless one of the same or a higher class stands between. -/
def composeFrom (first : Char) (marks : List Char) : List Char → List Char
  | [] => first :: marks
  | c :: cs =>
    let reaches := marks.getLast?.all fun mark => markClass mark < markClass c
    match if reaches then joined? first c else none with
    | some d => composeFrom d marks cs
    | none =>
      if markClass c = 0 then first :: marks ++ composeFrom c [] cs
      else composeFrom first (marks ++ [c]) cs

/-- A text composed. -/
def compose (cs : List Char) : List Char :=
  match sortMarks (decompose cs) with
  | [] => []
  | c :: cs => composeFrom c [] cs

example : compose "e\u0301 a\u0301\u0323 \u1112\u1161\u11ab".toList = "é ạ\u0301 한".toList ∧
    compose "ạ\u0301".toList = "ạ\u0301".toList := by decide +kernel

end Packaging.Text
