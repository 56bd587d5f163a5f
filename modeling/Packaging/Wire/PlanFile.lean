import Packaging.FileSystem.Operations
import Packaging.Toml.Reader
import Packaging.Wire.Plan

/-! # Plan files

A plan file is a TOML document that gives some fields of a plan. It is read as a whole before its
values are looked at, and the plan must be usable. -/

namespace Packaging.Plan

open Document

/-- Why a plan file gives no plan. -/
inductive FileError where
  /-- The file cannot be read. -/
  | io (path : String) (error : IoError)
  /-- The text is no document, or the document is no plan. -/
  | parse (fault : Fault)
  /-- The plan is not usable. -/
  | invalid (error : Plan.Error)
  deriving DecidableEq

/-- The wording of an error. -/
def FileError.message : FileError → String
  | .io path error => "Failed to read " ++ path ++ ": " ++ error.message
  | .parse fault => "Failed to parse matrix config: " ++ fault.message
  | .invalid error => "Invalid matrix config: " ++ error.message

/-- The plan of a document, if it is usable. -/
def ofDocument (x : Toml) : Except FileError Plan := do
  let p ← (Plan.read x).mapError .parse
  p.validate.mapError .invalid
  return p

/-- The plan of the text of a plan file. -/
def ofText (text : String) : Except FileError Plan :=
  match Toml.parse text with
  | some x => ofDocument x
  | none => .error (.parse .malformed)

/-- The plan of a plan file. -/
def load (fs : FileSystem) (path : String) : Except FileError Plan := do
  ofText (← ((FileSystem.readText path) fs).1.mapError (.io path))

end Packaging.Plan
