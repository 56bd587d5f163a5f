import Packaging.Assets
import Packaging.Linkage
import Packaging.Platform

/-! # Builds

A build is one entry of the matrix: a platform, a version at a commit, and a linkage, with the
names that follow from them. -/

namespace Packaging

open Text

/-- The version that follows the default branch. -/
def mainVersion : String := "main"

/-- How many bytes of a commit hash a package version keeps. -/
def shortCommitSize : Nat := 7

/-- What every package name begins with. -/
def packageStem : String := "tiledb"

/-- The extension that a sidecar adds to the name of its file. -/
def sidecarExtension : String := "sha256"

/-- The front of a commit hash: all of it when its seventh byte ends no character. -/
def shortCommit (commit : String) : String :=
  match takeBytes? shortCommitSize commit.toList with
  | some front => String.ofList front
  | none => commit

/-- The version of a package: library version, commit, and a suffix for static builds. -/
def packageVersion (version commit : String) (linkage : Linkage) : String :=
  version ++ "-" ++ commit ++ linkage.suffix

/-- The file name of a package, given the id of its platform and its version. -/
def tarballName (platformId packageVersion : String) : String :=
  let packaged := packagedName platformId
  packageStem ++ "-" ++ packaged ++ "-" ++ packageVersion ++ "." ++ archiveExtension packaged

/-- The Git reference whose commit a version is built from. -/
def gitRef (version : String) : String :=
  if version = mainVersion then "heads/" ++ mainVersion else "tags/" ++ version

/-- Whether a version is built with a linkage: shared libraries only of the default branch. -/
def isPackaged (version : String) (linkage : Linkage) : Bool :=
  linkage = .static || version = mainVersion

/-- One entry of the matrix. -/
structure Build where
  platform : Platform
  version : String
  /-- The short commit hash. -/
  commit : String
  /-- The value of the build option that asks for shared libraries. -/
  sharedLibs : String
  linkage : Linkage
  packageVersion : String
  /-- The file name of the package. -/
  tarball : String
  /-- Whether the package is published already. -/
  prebuilt : Bool
  deriving DecidableEq, Inhabited

namespace Build

/-- The entry of a platform, a version at a commit, and a linkage, not published yet. -/
def derive (platform : Platform) (version commit : String) (linkage : Linkage) : Build :=
  let short := shortCommit commit
  let packageVersion := Packaging.packageVersion version short linkage
  { platform, version, commit := short, sharedLibs := linkage.sharedLibs, linkage, packageVersion
    tarball := tarballName platform.id packageVersion, prebuilt := false }

/-- The entry, published when its package is among the assets. -/
def markPublished (b : Build) (published : Assets) : Build :=
  { b with prebuilt := published.contains b.tarball }

/-- The name of the platform in package names and in the manifest. -/
def packagedName (b : Build) : String := b.platform.packagedName

/-- The file name of the package's sidecar. -/
def sidecarName (b : Build) : String := b.tarball ++ "." ++ sidecarExtension

end Build

end Packaging
