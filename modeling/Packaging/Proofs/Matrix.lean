import Packaging.Matrix
import Packaging.Proofs.Actions

/-!
# What a generated matrix consists of

* `generate_ok`: a matrix that is generated has the builds of each version in turn, at the commit
  that the forge gives for the version.
* `mem_buildsOf`: each of them is derived from a platform, a version and a linkage.
* `names_of_generate`: packages are named after a platform and a version, and marked by their names.
-/

namespace Packaging

open Packaging.Action

/-! ## Sessions -/

namespace Session

variable {α : Type} {lookup : Lookup} {reply : Reply α} {a : α} {j j' : Journal}

theorem ask_ok (h : ask lookup reply j = (.ok a, j')) : reply.outcome = .ok a := by
  rw [ask] at h
  obtain ⟨_, j₁, -, h⟩ := bind_ok h
  cases ho : reply.outcome with
  | ok b => rw [ho] at h; cases h; rfl
  | error e => rw [ho] at h; cases h

end Session

/-! ## Builds of a matrix -/

namespace Plan

variable {p : Plan} {forge : Forge} {published : Assets} {builds : List Build} {j j' : Journal}

theorem resolve_ok {version : String}
    (h : p.resolve forge published version j = (.ok builds, j')) :
    ∃ commit, (forge.resolveRef (gitRef version)).outcome = .ok commit ∧
      builds = p.buildsOf published version commit := by
  rw [resolve] at h
  obtain ⟨commit, j₁, hask, h⟩ := bind_ok h
  obtain ⟨_, j₂, -, h⟩ := bind_ok h
  cases h
  exact ⟨commit, Session.ask_ok hask, rfl⟩

/-- The commit that a forge gives for a version, or nothing. -/
def commitOf (forge : Forge) (version : String) : String :=
  match (forge.resolveRef (gitRef version)).outcome with
  | .ok commit => commit
  | .error _ => ""

theorem mapM_resolve_ok {versions : List String} {found : List (List Build)}
    (h : (versions.mapM (p.resolve forge published)) j = (.ok found, j')) :
    (∀ v ∈ versions, (forge.resolveRef (gitRef v)).outcome = .ok (commitOf forge v)) ∧
      found = versions.map fun v => p.buildsOf published v (commitOf forge v) := by
  induction versions generalizing j found with
  | nil => exact ⟨nofun, (mapM_nil_ok h).1⟩
  | cons v versions ih =>
    obtain ⟨builds, found', j₁, hv, hrest, rfl⟩ := mapM_cons_ok h
    obtain ⟨commit, hcommit, rfl⟩ := resolve_ok hv
    obtain ⟨hall, rfl⟩ := ih hrest
    have hof : commitOf forge v = commit := by rw [commitOf, hcommit]
    refine ⟨fun u hu => ?_, by rw [List.map_cons, hof]⟩
    rcases List.mem_cons.1 hu with rfl | hu
    · rw [hof]; exact hcommit
    · exact hall u hu

/-- **A generated matrix has the builds of each version in turn**, at the commit that the forge
gives for it, marked by the files that the forge lists. -/
theorem generate_ok (h : p.generate forge j = (.ok builds, j')) :
    ∃ published, forge.releaseAssets.outcome = .ok published ∧
      (∀ v ∈ p.versions, (forge.resolveRef (gitRef v)).outcome = .ok (commitOf forge v)) ∧
      builds = p.versions.flatMap fun v => p.buildsOf published v (commitOf forge v) := by
  rw [generate] at h
  obtain ⟨published, j₁, hask, h⟩ := bind_ok h
  obtain ⟨_, j₂, -, h⟩ := bind_ok h
  obtain ⟨found, j₃, hfound, h⟩ := bind_ok h
  obtain ⟨_, j₄, -, h⟩ := bind_ok h
  cases h
  obtain ⟨hall, rfl⟩ := mapM_resolve_ok hfound
  exact ⟨published, Session.ask_ok hask, hall, rfl⟩

theorem mem_buildsOf {version commit : String} {b : Build} :
    b ∈ p.buildsOf published version commit ↔
      ∃ linkage platform, isPackaged version linkage = true ∧ platform ∈ p.platforms ∧
        b = (Build.derive platform version commit linkage).markPublished published := by
  rw [buildsOf, List.mem_flatMap]
  constructor
  · rintro ⟨linkage, hl, hb⟩
    obtain ⟨platform, hp, rfl⟩ := List.mem_map.1 hb
    exact ⟨linkage, platform, (List.mem_filter.1 hl).2, hp, rfl⟩
  · rintro ⟨linkage, platform, hl, hp, rfl⟩
    refine ⟨linkage, List.mem_filter.2 ⟨?_, hl⟩, List.mem_map_of_mem hp⟩
    cases linkage <;> decide

/-- Whatever is generated is named as packages are, and published if its name is. -/
theorem names_of_generate (h : p.generate forge j = (.ok builds, j')) :
    ∃ published : Assets, ∀ b ∈ builds, (∃ id version, b.tarball = tarballName id version) ∧
      b.prebuilt = published.contains b.tarball := by
  obtain ⟨published, -, -, rfl⟩ := generate_ok h
  refine ⟨published, fun b hb => ?_⟩
  obtain ⟨v, -, hb⟩ := List.mem_flatMap.1 hb
  obtain ⟨linkage, platform, -, -, rfl⟩ := mem_buildsOf.1 hb
  exact ⟨⟨_, _, rfl⟩, rfl⟩

end Plan

end Packaging
