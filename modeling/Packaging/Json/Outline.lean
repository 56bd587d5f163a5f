import Packaging.Json.Lexeme

/-! # Outlines of JSON texts

The outline of a text is what can be made of it from left to right, up to the first place where it
stops being JSON. It keeps the fault at that place, and the faults of single numbers and strings, so
that a reader of the outline meets the faults of the text and those of its data in text order.

A reader may open 127 brackets inside one another, but passes over values of any depth. -/

namespace Packaging.Json

open Document

/-- A value without brackets, or what stands where a value should stand. -/
inductive Leaf where
  | word (w : Lexeme (Option Bool))
  | number (n : Lexeme Number)
  | string (s : Lexeme String)
  /-- No value at all. -/
  | nothing (fault : Fault)

/-- Whether nothing can be read after a leaf. -/
def Leaf.isBroken : Leaf → Bool
  | .word w => w.isBroken
  | .number n => n.isBroken
  | .string s => s.isBroken
  | .nothing _ => true

/-- What a message says of a leaf. -/
def Leaf.shape : Leaf → Except Fault Shape
  | .word w => do
    match ← w.value with
    | none => return .null
    | some b => return .boolean b
  | .number n => do (Json.number (← n.value)).view.shape
  | .string s => return .string (← s.value)
  | .nothing fault => throw fault

/-- The outline of a value. -/
inductive Outline where
  | leaf (l : Leaf)
  | array (items : List Outline) (ending : Ending)
  | object (entries : List (Lexeme String × Outline)) (ending : Ending)

namespace Outline

/-- The entries of an object up to the first key that is no text. -/
def readable : List (Lexeme String × Outline) → Ending → List (String × Outline) × Ending
  | [], ending => ([], ending)
  | (key, x) :: entries, ending =>
    match key.value with
    | .ok key => let (entries, ending) := readable entries ending; ((key, x) :: entries, ending)
    | .error fault => ([], .keyless fault (.error fault))

mutual

/-- Passes over a value. -/
def skip : Outline → Except Fault Unit
  | .leaf (.word w) => w.skip
  | .leaf (.number n) => n.skip
  | .leaf (.string s) => s.skip
  | .leaf (.nothing fault) => .error fault
  | .array items ending => do skipItems items; ending.check
  | .object entries ending => do skipEntries entries; ending.check

/-- Passes over the items of an array. -/
def skipItems : List Outline → Except Fault Unit
  | [] => .ok ()
  | x :: items => do x.skip; skipItems items

/-- Passes over the entries of an object. -/
def skipEntries : List (Lexeme String × Outline) → Except Fault Unit
  | [] => .ok ()
  | (key, x) :: entries => do key.skip; x.skip; skipEntries entries

end

mutual

/-- The whole value, if no more than `room` brackets are open inside one another. -/
def keep (room : Nat) : Outline → Except Fault Json
  | .leaf (.word w) => do
    match ← w.value with
    | none => return .null
    | some b => return .boolean b
  | .leaf (.number n) => return .number (← n.value)
  | .leaf (.string s) => return .string (← s.value)
  | .leaf (.nothing fault) => throw fault
  | .array items ending =>
    match room with
    | 0 => throw .malformed
    | room + 1 => do
      let items ← keepItems room items
      ending.check
      return .array items
  | .object entries ending =>
    match room with
    | 0 => throw .malformed
    | room + 1 => do
      let entries ← keepEntries room entries
      ending.check
      return .object entries

/-- The items of an array. -/
def keepItems (room : Nat) : List Outline → Except Fault (List Json)
  | [] => return []
  | x :: items => return (← x.keep room) :: (← keepItems room items)

/-- The entries of an object. -/
def keepEntries (room : Nat) : List (Lexeme String × Outline) → Except Fault (List (String × Json))
  | [] => return []
  | (key, x) :: entries => do
    let key ← key.value
    let x ← x.keep room
    return (key, x) :: (← keepEntries room entries)

end

end Outline

/-- An outline inside a text, with the number of brackets that may still be opened. -/
structure Placed where
  room : Nat
  outline : Outline

namespace Placed

/-- A value from the top. -/
def view (x : Placed) : View Placed :=
  match x.outline with
  | .leaf (.word w) =>
    match w.value with
    | .ok none => .null
    | .ok (some b) => .boolean b
    | .error fault => .faulty fault .malformed
  | .leaf (.number n) =>
    match n.value with
    | .ok (.integer n) => .integer n
    | .ok (.float x) => .float (numberStyle.text x)
    | .error fault => .faulty fault .malformed
  | .leaf (.string s) =>
    match s.value with
    | .ok s => .string s
    | .error fault => .faulty fault fault
  | .leaf (.nothing fault) => .faulty fault fault
  | .array items ending =>
    match x.room with
    | 0 => .faulty .malformed .malformed
    | room + 1 => .sequence (items.map (⟨room, ·⟩)) ending
  | .object entries ending =>
    match x.room with
    | 0 => .faulty .malformed .malformed
    | room + 1 =>
      let (entries, ending) := Outline.readable entries ending
      .map (entries.map fun (key, x) => (key, ⟨room, x⟩)) ending

instance : Format Placed where
  view := view
  skip x := x.outline.skip
  surplus := .error .malformed

end Placed

end Packaging.Json
