import Packaging.Forge.Basic
import Packaging.Plan

/-! # The build matrix

A plan gives one build for each version, linkage and platform, in this order, except shared builds
of released versions. The published files are asked for once and first, then the commit of each
version before its builds are made. -/

namespace Packaging

namespace Plan

/-- The builds of a version at a commit. -/
def buildsOf (p : Plan) (published : Assets) (version commit : String) : List Build :=
  (Linkage.all.filter (isPackaged version)).flatMap fun linkage =>
    p.platforms.map fun platform =>
      (Build.derive platform version commit linkage).markPublished published

/-- Asks for the commit of a version and makes its builds. -/
def resolve (p : Plan) (forge : Forge) (published : Assets) (version : String) :
    Session (List Build) := do
  let ref := gitRef version
  let commit ← Session.ask (.ref ref) (forge.resolveRef ref)
  Session.log (version ++ " -> " ++ commit)
  return p.buildsOf published version commit

/-- Makes the matrix of a plan. -/
def generate (p : Plan) (forge : Forge) : Session (List Build) := do
  let published ← Session.ask .assets forge.releaseAssets
  Session.log s!"{published.size} assets published under {p.releaseTag}"
  let builds := (← p.versions.mapM (p.resolve forge published)).flatten
  let prebuilt := builds.countP (·.prebuilt)
  let missing := builds.length - prebuilt
  Session.log s!"{builds.length} configurations, {prebuilt} prebuilt, {missing} to build"
  return builds

end Plan

end Packaging
