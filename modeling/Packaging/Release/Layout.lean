import Packaging.FileSystem.Path
import Packaging.Plan

/-! # The directories of a release -/

namespace Packaging

/-- Where the files of a release come from, where they go, and where they are published. -/
structure Layout where
  /-- Packages that are published already, with their sidecars. -/
  prebuiltDir : String := "prebuilt"
  /-- Packages that were built just now. -/
  artifactsDir : String := "artifacts"
  /-- The release. -/
  releaseDir : String := "release"
  /-- The address that the release is published under. -/
  downloadBase : String := defaultPlan.downloadBase
  deriving DecidableEq

/-- The default directories inside a directory. -/
def Layout.rootedAt (root : String) : Layout :=
  let layout : Layout := {}
  { layout with
    prebuiltDir := Path.join root layout.prebuiltDir
    artifactsDir := Path.join root layout.artifactsDir
    releaseDir := Path.join root layout.releaseDir }

end Packaging
