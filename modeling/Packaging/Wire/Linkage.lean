import Packaging.Document.View
import Packaging.Linkage

/-! # Linkages in documents

A linkage is written as its name. It is read from a string with its name, or from a map whose one
key is its name and has the null value. -/

namespace Packaging.Linkage

open Document

/-- Reads the name of a linkage. -/
def readName (name : String) : Except Fault Linkage :=
  match ofName? name with
  | some l => .ok l
  | none => .error (.data (.unknownVariant name (all.map Linkage.name)))

/-- Reads a linkage. -/
def read {v : Type} [Format v] (x : v) : Except Fault Linkage :=
  match Format.view x with
  | .string s => readName s
  | .map ((name, y) :: more) ending => do
    let l ← readName name
    readUnit y
    match more, ending with
    | [], .closed => return l
    | [], .halted fault => throw fault
    | _, _ => throw .malformed
  | .map [] (.keyless _ found) => do throw (.data (.mismatch (← found) "variant identifier"))
  | .map [] (.halted fault) => .error fault
  | .faulty _ fault => .error fault
  | _ => .error .malformed

/-- A linkage is read back from its name. -/
theorem readName_name (l : Linkage) : readName l.name = .ok l := by
  cases l <;> rfl

end Packaging.Linkage
