import Std.Data.ExtTreeMap
import Packaging.FileSystem.Path
import Packaging.Text.ByteOrder

/-! # File systems

A file system is a finite map from locations to files, directories and symbolic links, together with
the directory that relative paths begin at. Two file systems with the same nodes are equal. -/

namespace Packaging

/-- Where a node is: the names on the way to it, the innermost first. The root is `[]`. -/
abbrev Location := List String

/-- The content of a file. -/
abbrev Content := List UInt8

/-- What stands at a location. -/
inductive Node where
  | file (content : Content)
  | directory
  | link (target : String)
  deriving DecidableEq

/-- The nodes of a file system and the current directory. All names are texts, so a name whose bytes
are no UTF-8 cannot stand in it, and there are no permission bits: whatever is there can be read and
written. -/
structure FileSystem where
  nodes : Std.ExtTreeMap Location Node
  current : Location

namespace FileSystem

/-- The file system that has nothing but its root. -/
def empty : FileSystem := ⟨∅, []⟩

/-- What stands at a location; the root is a directory. -/
def node? (fs : FileSystem) : Location → Option Node
  | [] => some .directory
  | loc => fs.nodes[loc]?

/-- The file system with a node at a location. -/
def set (fs : FileSystem) (loc : Location) (node : Node) : FileSystem :=
  { fs with nodes := fs.nodes.insert loc node }

/-- The file system without a location and all that is inside it. -/
def remove (fs : FileSystem) (loc : Location) : FileSystem :=
  { fs with nodes := fs.nodes.filter fun l _ => !(loc.isSuffixOf l) }

/-- The names of the nodes inside a directory. -/
def names (fs : FileSystem) (dir : Location) : List String :=
  fs.nodes.keys.filterMap fun
    | [] => none
    | name :: loc => if loc = dir then some name else none

end FileSystem

/-! ## Errors -/

/-- Why an operation on a path fails. -/
inductive IoError where
  | notFound
  | isDirectory
  | notDirectory
  | alreadyExists
  | nameTooLong
  | tooManyLinks
  /-- A file that should be text is not UTF-8. -/
  | notText
  /-- A path with a null character. -/
  | nullInPath
  /-- Something other than a file should be copied. -/
  | notRegularFile
  deriving DecidableEq

namespace IoError

/-- The wording of an error. -/
def message : IoError → String
  | notFound => "No such file or directory (os error 2)"
  | isDirectory => "Is a directory (os error 21)"
  | notDirectory => "Not a directory (os error 20)"
  | alreadyExists => "File exists (os error 17)"
  | nameTooLong => "File name too long (os error 36)"
  | tooManyLinks => "Too many levels of symbolic links (os error 40)"
  | notText => "stream did not contain valid UTF-8"
  | nullInPath => "file name contained an unexpected NUL byte"
  | notRegularFile => "the source path is neither a regular file nor a symlink to a regular file"

end IoError

end Packaging
