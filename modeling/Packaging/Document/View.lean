import Packaging.Document.Fault

/-! # Values seen from the top

A reader looks at a value from the top: a scalar at once, a sequence or a map as the values inside
it, which are read only when they are wanted. A value may stop being one part of the way, because
the text it stands in is faulty; what stands before the fault can still be read, so the first fault
of a text decides, whether it lies in the text or in the data. -/

namespace Packaging.Document

/-- How a sequence or a map goes on after its last readable part. -/
inductive Ending where
  /-- It is complete. -/
  | closed
  /-- Neither the closing bracket nor a comma follows. -/
  | halted (fault : Fault)
  /-- A map whose next key should stand here, and what stands here in its place. -/
  | keyless (fault : Fault) (found : Except Fault Shape)

/-- The fault of an ending, if it has one. -/
def Ending.check : Ending → Except Fault Unit
  | .closed => .ok ()
  | .halted fault => .error fault
  | .keyless fault _ => .error fault

/-- A value of a format seen from the top; `v` is the type of the values inside it. -/
inductive View (v : Type) where
  | null
  | boolean (b : Bool)
  | integer (n : Int)
  | float (text : String)
  | string (s : String)
  | sequence (items : List v) (ending : Ending)
  | map (entries : List (String × v)) (ending : Ending)
  /-- The value is faulty at its very beginning. A reader of a name refuses all but strings and maps
  at their first character, and meets the second fault. -/
  | faulty (fault : Fault) (toNames : Fault)

/-- What a message says of a value. -/
def View.shape {v : Type} : View v → Except Fault Shape
  | .null => .ok .null
  | .boolean b => .ok (.boolean b)
  | .integer n => .ok (.integer n)
  | .float text => .ok (.float text)
  | .string s => .ok (.string s)
  | .sequence _ _ => .ok .sequence
  | .map _ _ => .ok .map
  | .faulty fault _ => .error fault

/-- A format of documents, by the type of its values. -/
class Format (v : Type) where
  /-- A value from the top. -/
  view : v → View v
  /-- Passes over a value that nobody reads. -/
  skip : v → Except Fault Unit
  /-- What becomes of a sequence with more items than wanted. -/
  surplus : Except Fault Unit

section Readers

variable {v α : Type} [Format v]

/-- The fault of a value that is not what is wanted. -/
def mismatch (x : v) (wanted : String) : Except Fault α := do
  throw (.data (.mismatch (← (Format.view x).shape) wanted))

/-- Reads a string. -/
def readString (x : v) : Except Fault String :=
  match Format.view x with
  | .string s => .ok s
  | _ => mismatch x "a string"

/-- Reads a truth value. -/
def readBoolean (x : v) : Except Fault Bool :=
  match Format.view x with
  | .boolean b => .ok b
  | _ => mismatch x "a boolean"

/-- Reads the null value. -/
def readUnit (x : v) : Except Fault Unit :=
  match Format.view x with
  | .null => .ok ()
  | _ => mismatch x "unit"

/-- Reads a value, or nothing from the null value. -/
def readOptional (read : v → Except Fault α) (x : v) : Except Fault (Option α) :=
  match Format.view x with
  | .null => .ok none
  | _ => some <$> read x

/-- Reads the items of a sequence. -/
def readList (read : v → Except Fault α) (x : v) : Except Fault (List α) :=
  match Format.view x with
  | .sequence items ending => do
    let values ← items.mapM read
    ending.check
    return values
  | _ => mismatch x "a sequence"

end Readers

end Packaging.Document
