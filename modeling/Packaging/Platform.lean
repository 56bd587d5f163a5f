import Packaging.Text.Ends

/-! # Platforms

A platform is the template of its builds. In package names one platform goes by another name than
its id, and the archive of a Windows package has its own extension. -/

namespace Packaging

open Text

/-- The template of the builds for one platform. -/
structure Platform where
  /-- The platform's id. -/
  id : String
  /-- The image of the machine that runs the build. -/
  runner : String
  /-- Further arguments for CMake. -/
  cmakeArgs : Option String := none
  /-- The oldest macOS that the build supports. -/
  deploymentTarget : Option String := none
  /-- The vcpkg triplet of the dependencies. -/
  triplet : String
  /-- The container that the build runs in. -/
  container : Option String := none
  deriving DecidableEq, Inhabited

/-- The name of a platform in package names and in the manifest, given its id. -/
def packagedName (id : String) : String :=
  if id = "linux-aarch64" then "linux-arm64" else id

/-- The extension of a package's archive, given the packaged name of its platform. -/
def archiveExtension (packaged : String) : String :=
  if occursIn "windows".toList packaged.toList then "zip" else "tar.gz"

/-- The name of a platform in package names and in the manifest. -/
def Platform.packagedName (p : Platform) : String := Packaging.packagedName p.id

/-- A packaged name is its own packaged name. -/
theorem packagedName_packagedName (id : String) :
    packagedName (packagedName id) = packagedName id := by
  unfold packagedName
  split
  · decide
  · simp [*]

end Packaging
