import Packaging.Document.Fault
import Packaging.FileSystem.Operations

/-! # Work on a release

A piece of work changes the file system, logs messages, and may fail; what it did before it failed
stays done. -/

namespace Packaging

open Document

/-- What was tried with a file or a directory. -/
inductive FileStep where
  | open
  | read
  | write
  | copy
  | create
  | list
  deriving DecidableEq

/-- The failure of a step in words. -/
def FileStep.failure : FileStep → String
  | .open => "Failed to open"
  | .read => "Failed to read"
  | .write => "Failed to write"
  | .copy => "Failed to copy"
  | .create => "Failed to create"
  | .list => "Failed to list"

/-- Why work on a release fails. -/
inductive ReleaseError where
  /-- The text of the matrix gives no matrix. -/
  | matrix (fault : Fault)
  /-- A step with a file fails. -/
  | io (step : FileStep) (path : String) (error : IoError)
  /-- A sidecar gives no digest. -/
  | sidecar (path : String) (error : Digest.Error)
  deriving DecidableEq

/-- The wording of an error. -/
def ReleaseError.message : ReleaseError → String
  | .matrix fault => "Malformed build matrix: " ++ fault.message
  | .io step path error => step.failure ++ " " ++ path ++ ": " ++ error.message
  | .sidecar path error => "Bad checksum file " ++ path ++ ": " ++ error.message

/-- What work on a release changes. -/
structure WorkState where
  files : FileSystem
  /-- The messages so far, the first one first. -/
  log : List String := []

/-- Work on a release. -/
abbrev Work := ExceptT ReleaseError (StateM WorkState)

namespace Work

/-- Does something with a file. -/
def during {α : Type} (step : FileStep) (path : String) (action : FileAction α) : Work α :=
  fun w =>
    let (result, files) := action w.files
    (result.mapError (.io step path), { w with files })

/-- Logs a message. -/
def log (message : String) : Work Unit :=
  modify fun w => { w with log := w.log ++ [message] }

end Work

end Packaging
