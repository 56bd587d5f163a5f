import Packaging.FileSystem.Walk

/-! # Operations on files

An operation changes the file system and may fail; what it did before it failed stays done. To copy
a file is to open it, to open the copy and so to empty it, and then to transfer what the file holds
by then. -/

namespace Packaging

/-- An operation that may fail and may change the file system. -/
abbrev FileAction := ExceptT IoError (StateM FileSystem)

namespace FileSystem

/-- Fails with the error of a result, or goes on with its value. -/
def ofResult {α : Type} : Except IoError α → FileAction α
  | .ok a => return a
  | .error e => throw e

/-- Finds the file or directory that a path leads to. -/
def openPath (p : String) : FileAction Location := do
  match ← ofResult ((← get).walk .open p) with
  | .node loc _ => return loc
  | .vacant _ _ => throw .notFound

/-- The content of an open file. -/
def readAt (loc : Location) : FileAction Content := do
  match (← get).node? loc with
  | some (.file content) => return content
  | _ => throw .isDirectory

/-- Finds or makes the file that a path leads to, and empties it. -/
def createFile (p : String) : FileAction Location := do
  match ← ofResult ((← get).walk .create p) with
  | .node loc (.file _) => modify (·.set loc (.file [])); return loc
  | .vacant dir name => modify (·.set (name :: dir) (.file [])); return name :: dir
  | .node _ _ => throw .isDirectory

/-- Replaces the content of an open file. -/
def writeAt (loc : Location) (content : Content) : FileAction Unit :=
  modify (·.set loc (.file content))

/-- The text of a file. -/
def readText (p : String) : FileAction String := do
  match Text.ofBytes? (← readAt (← openPath p)) with
  | some text => return text
  | none => throw .notText

/-- Writes a text to a file. -/
def writeText (p text : String) : FileAction Unit := do
  writeAt (← createFile p) (Text.bytesOf text)

/-- Whether a location holds a file. -/
def isFileAt (fs : FileSystem) (loc : Location) : Bool :=
  match fs.node? loc with
  | some (.file _) => true
  | _ => false

/-- Copies a file. -/
def copyFile (source target : String) : FileAction Unit := do
  let loc ← openPath source
  if !(← get).isFileAt loc then throw .notRegularFile
  let copy ← createFile target
  writeAt copy (← readAt loc)

/-- Whether a path leads to a file. -/
def isFile (fs : FileSystem) (p : String) : Bool :=
  match fs.walk .open p with
  | .ok (.node _ (.file _)) => true
  | _ => false

/-- Whether a path leads to a directory. -/
def isDirectory (fs : FileSystem) (p : String) : Bool :=
  match fs.walk .open p with
  | .ok (.node _ .directory) => true
  | _ => false

/-- Makes a directory in one that exists. -/
def makeDirectory (p : String) : FileAction Unit := do
  match ← ofResult ((← get).walk .entry p) with
  | .vacant dir name => modify (·.set (name :: dir) .directory)
  | .node _ _ => throw .alreadyExists

/-- Fails with an error, unless the path leads to a directory. -/
def failUnlessDirectory (p : String) (e : IoError) : FileAction Unit := do
  if (← get).isDirectory p then return else throw e

/-- Makes a directory, unless the path leads to one already. -/
def ensureDirectory (p : String) : FileAction Unit := do
  try makeDirectory p
  catch e => failUnlessDirectory p e

/-- A path and the paths of the directories around it, from the inside out. -/
def chain : Nat → String → List String
  | 0, p => [p]
  | n + 1, p =>
    match Path.parent? p with
    | some up => p :: chain n up
    | none => [p]

/-- Makes the first directory of a chain, and before it those around it if it cannot be made without
them. -/
def ensureChain : List String → FileAction Unit
  | [] => throw .notFound
  | p :: around => do
    if p.isEmpty then return
    try makeDirectory p
    catch
      | .notFound => do
        ensureChain around
        ensureDirectory p
      | e => failUnlessDirectory p e

/-- Makes a directory and those around it that are missing. -/
def ensureDirectories (p : String) : FileAction Unit := ensureChain (chain p.length p)

/-- The names of the entries of a directory. -/
def entryNames (p : String) : FileAction (List String) := do
  match ← ofResult ((← get).walk .open p) with
  | .node loc .directory => return (← get).names loc
  | .vacant _ _ => throw .notFound
  | .node _ _ => throw .notDirectory

end FileSystem

end Packaging
