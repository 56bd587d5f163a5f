import Packaging.Build
import Packaging.Text.Blank

/-! # Plans

A plan says which versions are built on which platforms, where their commits are looked up, and
which release holds the packages. A usable plan names a version and a platform, no version is blank,
and neither versions nor platform ids repeat. -/

namespace Packaging

open Text

/-- What to build and where to look things up. -/
structure Plan where
  versions : List String
  /-- The platforms in the order of the matrix. -/
  platforms : List Platform
  /-- The repository whose references give the commits. -/
  sourceRepository : String
  /-- The repository whose release holds the packages. -/
  releaseRepository : String
  /-- The tag of that release. -/
  releaseTag : String
  deriving DecidableEq

/-- The address that the files of a release are published under. -/
def downloadBase (repository tag : String) : String :=
  "https://github.com/" ++ repository ++ "/releases/download/" ++ tag

namespace Plan

/-- The address that the plan's packages are published under. -/
def downloadBase (p : Plan) : String := Packaging.downloadBase p.releaseRepository p.releaseTag

/-- Why a plan is not usable. -/
inductive Error where
  | noVersions
  | noPlatforms
  | blankVersion
  | repeatedVersion (version : String)
  | repeatedPlatform (id : String)
  deriving DecidableEq

/-- The wording of an error. -/
def Error.message : Error → String
  | .noVersions => "no versions listed"
  | .noPlatforms => "no platforms listed"
  | .blankVersion => "empty version"
  | .repeatedVersion version => s!"duplicate version '{version}'"
  | .repeatedPlatform id => s!"duplicate platform '{id}'"

/-- Checks versions from left to right, given those already seen. -/
def checkVersions (seen : List String) : List String → Except Error Unit
  | [] => .ok ()
  | v :: versions =>
    if isBlankText v then .error .blankVersion
    else if v ∈ seen then .error (.repeatedVersion v)
    else checkVersions (v :: seen) versions

/-- Checks platform ids from left to right, given those already seen. -/
def checkPlatforms (seen : List String) : List String → Except Error Unit
  | [] => .ok ()
  | id :: ids =>
    if id ∈ seen then .error (.repeatedPlatform id) else checkPlatforms (id :: seen) ids

/-- Accepts usable plans; otherwise gives the first fault. -/
def validate (p : Plan) : Except Error Unit := do
  if p.versions.isEmpty then throw .noVersions
  if p.platforms.isEmpty then throw .noPlatforms
  checkVersions [] p.versions
  checkPlatforms [] (p.platforms.map (·.id))

/-- The container of builds on x86-64 Linux. -/
def linuxX64Container : String := "quay.io/pypa/manylinux_2_28_x86_64:2025.03.15-1"

/-- The container of builds on 64-bit ARM Linux. -/
def linuxArm64Container : String := "quay.io/pypa/manylinux_2_28_aarch64:2025.03.15-1"

/-- The platforms of the default plan. -/
def defaultPlatforms : List Platform :=
  [{ id := "linux-x86_64", runner := "ubuntu-20.04", triplet := "x64-linux-release"
     container := linuxX64Container },
   { id := "linux-x86_64-noavx2", runner := "ubuntu-20.04", triplet := "x64-linux-release"
     cmakeArgs := "-DCOMPILER_SUPPORTS_AVX2=OFF", container := linuxX64Container },
   { id := "linux-aarch64", runner := "linux-arm64-ubuntu24", triplet := "arm64-linux-release"
     container := linuxArm64Container },
   { id := "macos-x86_64", runner := "macos-13", triplet := "x64-osx-release"
     cmakeArgs := "-DCMAKE_OSX_ARCHITECTURES=x86_64", deploymentTarget := "11" },
   { id := "macos-arm64", runner := "macos-latest", triplet := "arm64-osx-release"
     cmakeArgs := "-DCMAKE_OSX_ARCHITECTURES=arm64", deploymentTarget := "11" }]

end Plan

/-- The plan that is used for all that is not overridden. -/
def defaultPlan : Plan where
  versions := [mainVersion, "2.27.0"]
  platforms := Plan.defaultPlatforms
  sourceRepository := "TileDB-Inc/TileDB"
  releaseRepository := "TileDB-Inc/tiledb-rs"
  releaseTag := "nightlies"

example : defaultPlan.validate = .ok () := by rfl

end Packaging
