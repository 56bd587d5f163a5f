import Packaging.Manifest
import Packaging.Release.Layout
import Packaging.Release.Sidecar
import Packaging.Wire.Build

/-! # Assembling a release

Each build's package is copied into the release directory: a published one with its sidecar, any
other without, its sidecar being written anew. Then the manifest is made from the sidecars and
written, with a sidecar of its own. -/

namespace Packaging

open FileSystem

/-- The file name of the manifest. -/
def manifestName : String := "releases.csv"

/-- Where a package comes from. -/
inductive Source where
  /-- It is published already. -/
  | prebuilt
  /-- It was built just now. -/
  | built
  deriving DecidableEq

namespace Source

/-- Where the package of a build comes from. -/
def ofBuild (b : Build) : Source := if b.prebuilt then .prebuilt else .built

/-- The directory that a package is taken from. -/
def directory (layout : Layout) : Source → String
  | .prebuilt => layout.prebuiltDir
  | .built => layout.artifactsDir

/-- The files that are copied for a build. -/
def files (b : Build) : Source → List String
  | .prebuilt => [b.tarball, b.sidecarName]
  | .built => [b.tarball]

end Source

/-- Reads the matrix of a release. -/
def readMatrix (text : String) : Except ReleaseError (List Build) :=
  (parseMatrix text).mapError .matrix

/-- What a finished release consists of. -/
structure Summary where
  /-- How many packages were published already. -/
  prebuilt : Nat
  /-- How many were built just now. -/
  built : Nat
  /-- The path of the manifest. -/
  manifest : String
  /-- The digest of the manifest. -/
  digest : Digest
  deriving DecidableEq

namespace Layout

/-- The path of a build's package in the release. -/
def packagePath (layout : Layout) (b : Build) : String := Path.join layout.releaseDir b.tarball

/-- Copies a file of a directory into the release. -/
def copyInto (layout : Layout) (dir name : String) : Work Unit :=
  .during .copy (Path.join dir name)
    (copyFile (Path.join dir name) (Path.join layout.releaseDir name))

/-- Copies the files of a build into the release, and writes the sidecar of a new package. -/
def stage (layout : Layout) (b : Build) : Work Source := do
  let source := Source.ofBuild b
  (source.files b).forM (layout.copyInto (source.directory layout))
  match source with
  | .prebuilt => Work.log ("prebuilt " ++ b.tarball)
  | .built =>
    let digest ← writeSidecar (layout.packagePath b)
    Work.log ("built " ++ b.tarball ++ " " ++ digest.text)
  return source

/-- The row of a build, made from the sidecar in the release. -/
def row (layout : Layout) (b : Build) : Work Manifest.Row := do
  let digest ← readSidecar (Path.sidecar (layout.packagePath b))
  return .ofBuild b layout.downloadBase digest

/-- The manifest of builds, made from the sidecars in the release. -/
def manifest (layout : Layout) (builds : List Build) : Work Manifest := do
  return ⟨← builds.mapM layout.row⟩

/-- Writes the manifest of builds and its sidecar. -/
def writeManifest (layout : Layout) (builds : List Build) : Work (String × Digest) := do
  let manifest ← layout.manifest builds
  let path := Path.join layout.releaseDir manifestName
  .during .write path (writeText path manifest.render)
  let digest ← writeSidecar path
  Work.log ("wrote " ++ path ++ " (" ++ toString manifest.size ++ " entries)")
  return (path, digest)

/-- Makes the release of builds. -/
def assemble (layout : Layout) (builds : List Build) : Work Summary := do
  .during .create layout.releaseDir (ensureDirectories layout.releaseDir)
  let sources ← builds.mapM layout.stage
  let (manifest, digest) ← layout.writeManifest builds
  return { prebuilt := sources.count .prebuilt, built := sources.count .built, manifest, digest }

end Layout

end Packaging
