import Packaging.Build
import Packaging.Json.Reader
import Packaging.Json.Printer
import Packaging.Wire.Linkage
import Packaging.Wire.Platform

/-! # The matrix in JSON

A build is written as one object: the entries of its platform and then its own. While an object is
read, its own fields are checked at once and all other entries are kept; at its end the platform is
read from the entries that were kept. A matrix is an array of builds. -/

namespace Packaging

open Document

/-- A format whose values can be kept for later. -/
class KeptFormat (v : Type) extends Format v where
  /-- The whole value. -/
  keep : v → Except Fault Json

instance : KeptFormat Json where
  keep x := .ok x

instance : KeptFormat Json.Placed where
  keep x := x.outline.keep x.room

namespace Build

/-- What a build has besides its platform. -/
structure Details where
  version : String
  commit : String
  sharedLibs : String
  linkage : Linkage
  packageVersion : String
  tarball : String
  prebuilt : Bool

/-- The build of a platform and all else. -/
def ofDetails (platform : Platform) (d : Details) : Build :=
  { platform, version := d.version, commit := d.commit, sharedLibs := d.sharedLibs
    linkage := d.linkage, packageVersion := d.packageVersion, tarball := d.tarball
    prebuilt := d.prebuilt }

/-- The fields of a build besides those of its platform. -/
inductive Field where
  | version
  | commit
  | sharedLibs
  | linkage
  | packageVersion
  | tarball
  | prebuilt
  deriving DecidableEq

namespace Field

/-- The type of a field's value. -/
def Value : Field → Type
  | version | commit | sharedLibs | packageVersion | tarball => String
  | linkage => Linkage
  | prebuilt => Bool

/-- The key of a field. -/
def key : Field → String
  | version => "version"
  | commit => "sha"
  | sharedLibs => "build_shared_libs"
  | linkage => "linkage"
  | packageVersion => "pkg_version"
  | tarball => "tarball"
  | prebuilt => "prebuilt"

/-- The value of a field that is left out. -/
def default? : (f : Field) → Option f.Value
  | sharedLibs => some ""
  | version | commit | packageVersion | tarball | linkage | prebuilt => none

/-- Reads the value of a field. -/
def read {v : Type} [Format v] : (f : Field) → v → Except Fault f.Value
  | version, x | commit, x | sharedLibs, x | packageVersion, x | tarball, x => readString x
  | linkage, x => Linkage.read x
  | prebuilt, x => readBoolean x

end Field

/-- The fields of a build besides those of its platform, in their order. -/
@[reducible] def schema : Schema Details where
  title := "struct BuildConfig"
  Field := Field
  decEq := inferInstance
  fields := [.version, .commit, .sharedLibs, .linkage, .packageVersion, .tarball, .prebuilt]
  mem_fields f := by cases f <;> decide
  key := Field.key
  Value := Field.Value
  default? := Field.default?
  make value :=
    { version := value .version, commit := value .commit, sharedLibs := value .sharedLibs
      linkage := value .linkage, packageVersion := value .packageVersion
      tarball := value .tarball, prebuilt := value .prebuilt }

section Reading

variable {v : Type} [KeptFormat v]

/-- Keeps an entry. -/
def keepEntry (key : String) (x : v) : Except Fault (List (String × Json)) := do
  return [(key, ← KeptFormat.keep x)]

/-- Reads a build from the entries of an object. -/
def ofEntries (entries : List (String × v)) (ending : Ending) : Except Fault Build := do
  let (d, kept) ← schema.collect Field.read keepEntry .empty entries
  ending.check
  let details ← d.complete schema.missing
  let platform ← Platform.schema.ofEntries Platform.Field.read Schema.ignored kept .closed
  return ofDetails platform details

/-- Reads a build. -/
def read (x : v) : Except Fault Build :=
  match Format.view x with
  | .map entries ending => ofEntries entries ending
  | _ => mismatch x schema.title

end Reading

/-- The entries that a build is written as. -/
def entries (b : Build) : List (String × Json) :=
  b.platform.entries ++
    [(Field.key .version, .string b.version), (Field.key .commit, .string b.commit),
      (Field.key .sharedLibs, .string b.sharedLibs),
      (Field.key .linkage, .string b.linkage.name),
      (Field.key .packageVersion, .string b.packageVersion),
      (Field.key .tarball, .string b.tarball), (Field.key .prebuilt, .boolean b.prebuilt)]

/-- A build as a JSON object. -/
def toJson (b : Build) : Json := .object b.entries

end Build

/-- A matrix as a JSON array. -/
def matrixToJson (builds : List Build) : Json := .array (builds.map Build.toJson)

/-- Reads a matrix from the text of a JSON array. -/
def parseMatrix (text : String) : Except Fault (List Build) :=
  Json.readText (readList Build.read) text

end Packaging
