import Packaging.Json.Outline

/-! # Reading JSON texts

A text is a sequence of tokens with blanks between them. A machine takes them one by one; its state
holds the containers that are open, the innermost first, and what may come next. The last state
gives the outline of the text. -/

namespace Packaging.Json

open Document

/-- A token of a text. -/
inductive Token where
  | openArray
  | closeArray
  | openObject
  | closeObject
  | comma
  | colon
  | leaf (l : Leaf)

/-- Whether a byte may stand between tokens. -/
def isGap (b : UInt8) : Bool := b = 32 ∨ b = 10 ∨ b = 9 ∨ b = 13

/-- The token that begins with a byte, and the text after it. -/
def tokenFrom (b : UInt8) (rest : List UInt8) : Token × List UInt8 :=
  match Char.ofUInt8 b with
  | '[' => (.openArray, rest)
  | ']' => (.closeArray, rest)
  | '{' => (.openObject, rest)
  | '}' => (.closeObject, rest)
  | ',' => (.comma, rest)
  | ':' => (.colon, rest)
  | '"' => let s := stringFrom [] none rest; (.leaf (.string s.1), s.2)
  | 'n' => let w := wordFrom none [117, 108, 108] rest; (.leaf (.word w.1), w.2)
  | 't' => let w := wordFrom (some true) [114, 117, 101] rest; (.leaf (.word w.1), w.2)
  | 'f' => let w := wordFrom (some false) [97, 108, 115, 101] rest; (.leaf (.word w.1), w.2)
  | '-' => let n := numberFrom (b :: rest); (.leaf (.number n.1), n.2)
  | c =>
    if c.isDigit then let n := numberFrom (b :: rest); (.leaf (.number n.1), n.2)
    else (.leaf (.nothing .malformed), rest)

/-- The first token of a text, and the text after it. -/
def nextToken : List UInt8 → Option (Token × List UInt8)
  | [] => none
  | b :: rest => if isGap b then nextToken rest else some (tokenFrom b rest)

/-- What a message says of a token that stands where a key should stand. -/
def Token.shape : Token → Except Fault Shape
  | .openArray => .ok .sequence
  | .openObject => .ok .map
  | .leaf l => l.shape
  | _ => .error .malformed

/-- A container that is still open, with its complete parts in reverse order. -/
inductive Frame where
  | array (items : List Outline)
  /-- An object whose next value belongs to `key`. -/
  | object (entries : List (Lexeme String × Outline)) (key : Lexeme String)

/-- What may come next. -/
inductive State where
  /-- A value, or the end of an array that was just opened. -/
  | value (frames : List Frame)
  /-- A key, or the end of an object that was just opened. -/
  | key (entries : List (Lexeme String × Outline)) (frames : List Frame)
  | colon (entries : List (Lexeme String × Outline)) (key : Lexeme String) (frames : List Frame)
  /-- A comma or the end of an array. -/
  | item (items : List Outline) (frames : List Frame)
  /-- A comma or the end of an object. -/
  | entry (entries : List (Lexeme String × Outline)) (frames : List Frame)
  /-- The end of the text. -/
  | complete (root : Outline)
  /-- Nothing, after a fault. -/
  | stopped (root : Outline) (trailing : Bool)

/-- The state after a complete value. -/
def State.afterValue (x : Outline) : List Frame → State
  | [] => .complete x
  | .array items :: frames => .item (x :: items) frames
  | .object entries k :: frames => .entry ((k, x) :: entries) frames

/-- The outline of a text that goes no further than `x` inside the open containers. -/
def closeOff (x : Outline) : List Frame → Outline
  | [] => x
  | .array items :: frames => closeOff (.array (items.reverse ++ [x]) .closed) frames
  | .object entries key :: frames =>
    closeOff (.object (entries.reverse ++ [(key, x)]) .closed) frames

/-- The state after a fault inside the open containers. -/
def State.stopAt (x : Outline) (frames : List Frame) : State := .stopped (closeOff x frames) false

/-- The state after one more token. -/
def State.step : State → Token → State
  | .value frames, .leaf l =>
    if l.isBroken then stopAt (.leaf l) frames else afterValue (.leaf l) frames
  | .value frames, .openArray => .value (.array [] :: frames)
  | .value frames, .openObject => .key [] frames
  | .value (.array [] :: frames), .closeArray => afterValue (.array [] .closed) frames
  | .value frames, _ => stopAt (.leaf (.nothing .malformed)) frames
  | .key entries frames, .leaf (.string k) =>
    if k.isBroken then stopAt (.leaf (.nothing .malformed)) (.object entries k :: frames)
    else .colon entries k frames
  | .key [] frames, .closeObject => afterValue (.object [] .closed) frames
  | .key entries frames, t =>
    stopAt (.object entries.reverse (.keyless .malformed t.shape)) frames
  | .colon entries k frames, .colon => .value (.object entries k :: frames)
  | .colon entries k frames, _ =>
    stopAt (.leaf (.nothing .malformed)) (.object entries k :: frames)
  | .item items frames, .comma => .value (.array items :: frames)
  | .item items frames, .closeArray => afterValue (.array items.reverse .closed) frames
  | .item items frames, _ => stopAt (.array items.reverse (.halted .malformed)) frames
  | .entry entries frames, .comma => .key entries frames
  | .entry entries frames, .closeObject => afterValue (.object entries.reverse .closed) frames
  | .entry entries frames, _ => stopAt (.object entries.reverse (.halted .malformed)) frames
  | .complete root, _ => .stopped root true
  | .stopped root trailing, _ => .stopped root trailing

/-- The state at the end of a text, and whether more than one value was found. -/
def State.finish : State → Outline × Bool
  | .value frames => (closeOff (.leaf (.nothing .truncated)) frames, false)
  | .key entries frames =>
    (closeOff (.object entries.reverse (.keyless .truncated (.error .truncated))) frames, false)
  | .colon entries k frames =>
    (closeOff (.leaf (.nothing .truncated)) (.object entries k :: frames), false)
  | .item items frames => (closeOff (.array items.reverse (.halted .truncated)) frames, false)
  | .entry entries frames =>
    (closeOff (.object entries.reverse (.halted .truncated)) frames, false)
  | .complete root => (root, false)
  | .stopped root trailing => (root, trailing)

/-- Whether the machine has stopped. -/
def State.isStopped : State → Bool
  | .stopped _ _ => true
  | _ => false

theorem length_rest_tokenFrom (b : UInt8) (bytes : List UInt8) :
    (tokenFrom b bytes).2.length ≤ bytes.length := by
  unfold tokenFrom
  split <;> (try split) <;>
    simp [length_rest_stringFrom, length_rest_numberFrom, length_rest_wordFrom]

/-- Every token takes a byte at least. -/
theorem length_rest_nextToken {bytes rest : List UInt8} {t : Token}
    (h : nextToken bytes = some (t, rest)) : rest.length < bytes.length := by
  induction bytes with
  | nil => simp [nextToken] at h
  | cons b bytes ih =>
    simp only [nextToken] at h
    split at h
    · have := ih h; simp only [List.length_cons]; omega
    · have := length_rest_tokenFrom b bytes
      rw [Option.some.inj h] at this
      exact Nat.lt_succ_of_le this

/-- The state after the tokens of a text. -/
def State.run (s : State) (bytes : List UInt8) : State :=
  match _h : nextToken bytes with
  | none => s
  | some (t, rest) => if s.isStopped then s else (s.step t).run rest
termination_by bytes.length
decreasing_by exact length_rest_nextToken _h

/-- Reads the one value of a text; more text after it makes the text malformed. -/
def readBytes {α : Type} (read : Placed → Except Fault α) (bytes : List UInt8) :
    Except Fault α := do
  let (root, trailing) := ((State.value []).run bytes).finish
  let x ← read ⟨127, root⟩
  if trailing then throw .malformed
  return x

/-- Reads the one value of a text. -/
def readText {α : Type} (read : Placed → Except Fault α) (text : String) : Except Fault α :=
  readBytes read (Text.bytesOf text)

end Packaging.Json
