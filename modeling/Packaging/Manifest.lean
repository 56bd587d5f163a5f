import Packaging.Build
import Packaging.Digest
import Packaging.Text.Uppercase

/-! # The manifest of a release

One line for each package: platform, version, linkage, address and digest, separated by commas. The
lines of a manifest stand in the order of their bytes. -/

namespace Packaging

open Text

/-- One line of the manifest. -/
structure Manifest.Row where
  /-- The packaged name of the platform in upper case. -/
  platform : String
  version : String
  /-- The linkage in lower case. -/
  linkage : String
  /-- Where the package can be fetched. -/
  url : String
  digest : Digest
  deriving DecidableEq

/-- The row of a build whose package is published under `base`. -/
def Manifest.Row.ofBuild (b : Build) (base : String) (digest : Digest) : Manifest.Row where
  platform := upper b.packagedName
  version := b.version
  linkage := b.linkage.label
  url := dropTrailing '/' base ++ "/" ++ b.tarball
  digest := digest

/-- A row as a line without its end. -/
def Manifest.Row.csv (r : Manifest.Row) : String :=
  ",".intercalate [r.platform, r.version, r.linkage, r.url, r.digest.text]

/-- The rows of a manifest, in the order they were added. -/
structure Manifest where
  rows : List Manifest.Row := []
  deriving DecidableEq

namespace Manifest

/-- The manifest with one more row. -/
def push (m : Manifest) (row : Row) : Manifest := ⟨m.rows ++ [row]⟩

/-- How many rows a manifest has. -/
def size (m : Manifest) : Nat := m.rows.length

/-- Whether a manifest has no row. -/
def isEmpty (m : Manifest) : Bool := m.rows.isEmpty

/-- The lines of a manifest in the order of their bytes, each with its end. -/
def render (m : Manifest) : String :=
  "\n".intercalate (sortByBytes (m.rows.map Row.csv) ++ [""])

end Manifest

end Packaging
