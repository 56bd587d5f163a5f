import Packaging.CommandLine.Run

/-! # The program

What a command may read is loaded into a file system, the command is run on it, and what it changed
is written back. This program has no connection to the network: its transport reaches no one. -/

namespace Packaging.Program

/-- The names on the way to a path, the outermost first. -/
def namesOf (path : String) : List String :=
  (path.splitOn "/").filter fun name => name ≠ "" && name ≠ "."

/-- The path of a location. -/
def pathOf (loc : Location) : String := "/" ++ "/".intercalate loc.reverse

/-- The paths that a command reads or writes. -/
def pathsOf : CommandLine.Command → List String
  | .matrix plan _ _ _ => plan.toList
  | .release _ layout => [layout.prebuiltDir, layout.artifactsDir, layout.releaseDir]
  | .verify dir => [dir]

/-- Loads what stands at a location, and all that is inside it if it is a directory. -/
partial def load (files : FileSystem) (loc : Location) : IO FileSystem := do
  let path := System.mkFilePath [pathOf loc]
  if ← path.isDir then
    (← path.readDir).foldlM (fun files entry => load files (entry.fileName :: loc))
      (files.set loc .directory)
  else if ← path.pathExists then
    return files.set loc (.file (← IO.FS.readBinFile path).toList)
  else return files

/-- Loads the directories on the way along a path, and then what it leads to. -/
def loadPath (files : FileSystem) (path : String) : IO FileSystem := do
  let start := if Path.isAbsolute path then [] else files.current
  let (files, loc) ← (namesOf path).foldlM (fun (files, dir) name => do
    let loc := if name = ".." then dir.tail else name :: dir
    let isDirectory ← (System.mkFilePath [pathOf loc]).isDir
    return (if isDirectory then files.set loc .directory else files, loc)) (files, start)
  load files loc

/-- Writes a node back, unless it was there before. -/
def writeBack (old : FileSystem) (loc : Location) (node : Node) : IO Unit := do
  if old.node? loc = some node then return
  match node with
  | .directory => IO.FS.createDirAll (pathOf loc)
  | .file content => IO.FS.writeBinFile (pathOf loc) ⟨content.toArray⟩
  | .link _ => return

/-- The variables of the environment that the program reads. -/
def environment : IO CommandLine.Environment := do
  let names := ["GITHUB_API_URL", "GITHUB_TOKEN", "RELEASE_MATRIX", CommandLine.filterVariable]
  let values ← names.mapM fun name => do return (name, ← IO.getEnv name)
  return fun name => (List.lookup name values).join

/-- Runs the program on the files of the computer. -/
def run (args : List String) : IO UInt32 := do
  let env ← environment
  let current := (namesOf (← IO.currentDir).toString).reverse
  let paths := match CommandLine.readArguments env args with
    | .ok command => pathsOf command
    | .error _ => []
  let files ← paths.foldlM loadPath { FileSystem.empty with current }
  let outcome := CommandLine.run Http.Transport.unreachable env files args
  for (loc, node) in outcome.files.nodes.toList do writeBack files loc node
  for message in outcome.log do
    IO.eprintln ("INFO " ++ message.part.name ++ ": " ++ message.shown)
  IO.print outcome.output
  match outcome.errorLine? with
  | some line => IO.eprintln line
  | none => pure ()
  return outcome.exit.toUInt32

end Packaging.Program

/-- Runs the program. -/
def main (args : List String) : IO UInt32 := Packaging.Program.run args
