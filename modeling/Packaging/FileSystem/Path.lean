import Packaging.Build

/-! # Path texts

A path is a text whose parts are separated by slashes. Parts that are empty or a single point name
nothing; the last part that names something is the name of the file. -/

namespace Packaging.Path

/-- Whether a path begins at the root. -/
def isAbsolute (p : String) : Bool := p.toList.head? = some '/'

/-- A path seen from a directory: an absolute path is kept, any other is appended with a slash
between the two unless the directory is empty or ends with one. -/
def join (dir p : String) : String :=
  if isAbsolute p then p
  else if dir.isEmpty || dir.toList.getLast? = some '/' then dir ++ p
  else dir ++ "/" ++ p

/-- The path of the sidecar of a file. -/
def sidecar (p : String) : String := p ++ "." ++ sidecarExtension

/-- A reversed path without the slashes and single points that end it. -/
def dropEnd : List Char → List Char
  | '/' :: cs => dropEnd cs
  | '.' :: '/' :: cs => dropEnd cs
  | cs => cs

/-- A path as the text before its last part and that part, without the slashes and single points
that end the path. -/
def splitLast (p : String) : List Char × List Char :=
  let cs := dropEnd p.toList.reverse
  ((cs.dropWhile (· ≠ '/')).reverse, (cs.takeWhile (· ≠ '/')).reverse)

/-- Whether a part is the name of a file. -/
def isName (part : List Char) : Bool := part ≠ [] && part ≠ ['.'] && part ≠ ['.', '.']

/-- The name of the file that a path ends with. -/
def fileName? (p : String) : Option String :=
  let part := (splitLast p).2
  if isName part then some (String.ofList part) else none

/-- A name as its stem and its extension, which begins after the last point unless that is the first
character. -/
def splitExtension (name : List Char) : List Char × Option (List Char) :=
  let after := (name.reverse.takeWhile (· ≠ '.')).reverse
  match (name.reverse.dropWhile (· ≠ '.')).reverse.dropLast with
  | [] => (name, none)
  | stem => (stem, some after)

/-- The extension of the file that a path ends with. -/
def extension? (p : String) : Option String :=
  match fileName? p with
  | some name => (splitExtension name.toList).2.map String.ofList
  | none => none

/-- A path without the point and the extension at its end. The extension is cut off first, and then
the point with what may follow it; a path that then ends with no file name stays as it is. -/
def withoutExtension (p : String) : String :=
  let cut := match extension? p with
    | some e => String.ofList (p.toList.take (p.toList.length - e.toList.length))
    | none => p
  let (dir, part) := splitLast cut
  if isName part then String.ofList (dir ++ (splitExtension part).1) else cut

/-- The path of the directory that holds a path's last part; the root and the empty path have
none. -/
def parent? (p : String) : Option String :=
  match splitLast p with
  | (_, []) => none
  | (dir, _) =>
    let up := (dropEnd dir.reverse).reverse
    some (if up.isEmpty && isAbsolute p then "/" else String.ofList up)

example : (["a.gz.sha256", "..sha256", "...sha256", "d/.sha256"].map fun p =>
    (extension? p, withoutExtension p)) =
    [(some "sha256", "a.gz"), (some "sha256", ".."), (some "sha256", ".."),
      (none, "d/.sha256")] := by
  decide +kernel

example : ["a/./b/", "/a", "a", ".", "/", ""].map parent? =
    [some "a", some "/", some "", some "", none, none] := by decide +kernel

end Packaging.Path
