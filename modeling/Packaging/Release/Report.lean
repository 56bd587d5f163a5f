import Packaging.Release.Sidecar

/-! # Checking a release

Every sidecar in a directory is compared with the file next to it that has the sidecar's name
without its extension. The report is sorted by the names of the sidecars. -/

namespace Packaging

open FileSystem Text

/-- What is found of the file of a sidecar. -/
inductive Status where
  /-- It has the digest that the sidecar records. -/
  | ok
  /-- It has another digest. -/
  | differs (expected actual : Digest)
  /-- There is no such file. -/
  | missing
  deriving DecidableEq

/-- The files that sidecars belong to, and what was found of them. -/
structure Report where
  entries : List (String × Status)
  deriving DecidableEq

namespace Report

/-- Whether every file is as its sidecar records it. -/
def isOk (r : Report) : Bool := r.entries.all fun e => e.2 = .ok

/-- The entries of files that are not. -/
def failures (r : Report) : List (String × Status) := r.entries.filter fun e => e.2 ≠ .ok

end Report

/-- What is found of the file of a sidecar. -/
def Status.ofFile (path : String) : Work Status := do
  if (← get).files.isFile path then
    match ← checkSidecar path with
    | .agrees => return .ok
    | .differs expected actual => return .differs expected actual
  else return .missing

/-- The names of the sidecars in a directory. -/
def sidecarNames (dir : String) : Work (List String) := do
  let names ← .during .list dir (entryNames dir)
  let files := (← get).files
  return sortByBytes <| names.filter fun name =>
    files.isFile (Path.join dir name) &&
      Path.extension? (Path.join dir name) = some sidecarExtension

/-- Checks the sidecars in a directory. -/
def checkRelease (dir : String) : Work Report := do
  let names ← sidecarNames dir
  let entries ← names.mapM fun name => do
    let path := Path.withoutExtension (Path.join dir name)
    return (path, ← Status.ofFile path)
  return ⟨entries⟩

end Packaging
