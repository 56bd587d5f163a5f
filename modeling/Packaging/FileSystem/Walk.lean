import Packaging.FileSystem.Basic
import Packaging.Text.Split

/-! # Walking along a path

A path is followed part by part from the current directory or the root. Every part but the last must
lead to a directory. Links on the way are followed, forty of them at most; a link at the end is
followed unless the walk looks for the entry itself. -/

namespace Packaging.FileSystem

/-- A part of a path. -/
inductive Part where
  /-- The directory itself. -/
  | here
  /-- The directory above. -/
  | up
  | name (s : String)
  /-- A slash at the end of the path. -/
  | slash
  deriving DecidableEq

/-- The part that a text between slashes is, if any. -/
def partOf? : List Char → Option Part
  | [] => none
  | ['.'] => some .here
  | ['.', '.'] => some .up
  | cs => some (.name (String.ofList cs))

/-- The parts of a path. -/
def partsOf (p : String) : List Part :=
  (Text.splitAtMarks (· = '/') p.toList).filterMap partOf? ++
    if p.toList.getLast? = some '/' then [.slash] else []

/-- What a walk looks for. -/
inductive Purpose where
  /-- What the path leads to. -/
  | open
  /-- What the path leads to, or else the place for a new file. -/
  | create
  /-- The last entry of the path, or else the place for one. -/
  | entry
  deriving DecidableEq

/-- Where a walk ends. -/
inductive Target where
  | node (loc : Location) (node : Node)
  /-- At a directory that has no entry of that name. -/
  | vacant (dir : Location) (name : String)
  deriving DecidableEq

/-- The greatest size of a name in bytes. -/
def nameLimit : Nat := 255

/-- The greatest size of a path in bytes. -/
def pathLimit : Nat := 4095

/-- How many links a walk follows. -/
def linkLimit : Nat := 40

/-- Whether a name with these parts after it is the last one of its path. -/
def isLast (rest : List Part) : Bool := rest.all (· = .slash)

/-- Follows the parts of a path from a directory. At a link that is to be followed, `jump` goes on
with the parts of its target and all parts after the link. -/
def followParts (fs : FileSystem) (purpose : Purpose)
    (jump : Location → List Part → Except IoError Target) :
    Location → List Part → Except IoError Target
  | dir, [] => .ok (.node dir .directory)
  | dir, .here :: rest => fs.followParts purpose jump dir rest
  | dir, .slash :: rest => fs.followParts purpose jump dir rest
  | dir, .up :: rest => fs.followParts purpose jump dir.tail rest
  | dir, .name name :: rest =>
    if purpose = .create ∧ isLast rest ∧ rest ≠ [] then .error .isDirectory
    else if nameLimit < name.utf8ByteSize then .error .nameTooLong
    else match fs.node? (name :: dir) with
      | none => if rest = [] ∨ purpose = .entry ∧ isLast rest then .ok (.vacant dir name)
        else .error .notFound
      | some .directory => fs.followParts purpose jump (name :: dir) rest
      | some (.file content) =>
        if rest = [] ∨ purpose = .entry ∧ isLast rest then .ok (.node (name :: dir) (.file content))
        else .error .notDirectory
      | some (.link target) =>
        if purpose = .entry ∧ isLast rest then .ok (.node (name :: dir) (.link target))
        else jump (if Path.isAbsolute target then [] else dir) (partsOf target ++ rest)

/-- Follows the parts of a path from a directory, and so many links at most. -/
def follow (fs : FileSystem) (purpose : Purpose) :
    Nat → Location → List Part → Except IoError Target
  | 0 => fs.followParts purpose fun _ _ => .error .tooManyLinks
  | links + 1 => fs.followParts purpose (fs.follow purpose links)

/-- Follows a path. -/
def walk (fs : FileSystem) (purpose : Purpose) (p : String) : Except IoError Target :=
  if p.isEmpty then .error .notFound
  else if p.toList.contains '\x00' then .error .nullInPath
  else if pathLimit < p.utf8ByteSize then .error .nameTooLong
  else fs.follow purpose linkLimit (if Path.isAbsolute p then [] else fs.current) (partsOf p)

end Packaging.FileSystem
