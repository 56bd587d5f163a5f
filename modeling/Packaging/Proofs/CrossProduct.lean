import Packaging.Proofs.Build
import Packaging.Proofs.Matrix
import Mathlib.Data.List.Forall2
import Mathlib.Data.List.Infix

/-!
# The matrix as a product

The builds of a matrix are those of all positions in it: a version, a linkage and a platform, where
shared libraries are for the default branch alone.

* `positions_pairwise`, `mem_positions`: the positions of a plan ascend, and none is left out.
* `describes_positions`: the builds of a matrix are what their positions ask for, one by one.
* `length_buildsOf`, `length_flatMap_buildsOf`: how many builds there are.
* `generate_product`: all of this for a generated matrix.
-/

namespace Packaging.Plan

/-- Where a build stands in a matrix. -/
structure Position where
  /-- The place of its version in the plan. -/
  version : Nat
  linkage : Linkage
  /-- The place of its platform in the plan. -/
  platform : Nat

/-- The order of a matrix: by version, then shared before static, then by platform. -/
def Position.Before (x y : Position) : Prop :=
  x.version < y.version ∨ x.version = y.version ∧
    (x.linkage = .dynamic ∧ y.linkage = .static ∨
      x.linkage = y.linkage ∧ x.platform < y.platform)

/-- A plan has a position unless it is for a shared library of a released version. -/
structure HasPosition (p : Plan) (x : Position) : Prop where
  version : x.version < p.versions.length
  platform : x.platform < p.platforms.length
  packaged : x.linkage = .static ∨ p.versions[x.version]? = some "main"

/-- A build is what its position asks for, given what the forge knows. Of the hash of its commit it
has the first seven bytes, or all of it if no character ends with the seventh. -/
structure Describes (p : Plan) (forge : Forge) (published : Assets) (x : Position) (b : Build) :
    Prop where
  platform : p.platforms[x.platform]? = some b.platform
  version : p.versions[x.version]? = some b.version
  linkage : b.linkage = x.linkage
  commit : ∃ commit, (forge.resolveRef
      (if b.version = "main" then "heads/main" else "tags/" ++ b.version)).outcome = .ok commit ∧
    (b.commit.toList <+: commit.toList ∧ (Text.bytesOf b.commit).length = 7 ∨
      b.commit = commit ∧
        ∀ front, front <+: commit.toList → (Text.bytesOfChars front).length ≠ 7)
  sharedLibs : b.sharedLibs = if b.linkage = .dynamic then "ON" else "OFF"
  packageVersion : b.packageVersion =
    b.version ++ "-" ++ b.commit ++ if b.linkage = .static then "-static" else ""
  packagedName : b.packagedName =
    if b.platform.id = "linux-aarch64" then "linux-arm64" else b.platform.id
  tarball : b.tarball = "tiledb-" ++ b.packagedName ++ "-" ++ b.packageVersion ++
    if "windows".toList <:+: b.packagedName.toList then ".zip" else ".tar.gz"
  prebuilt : b.prebuilt = true ↔ b.tarball ∈ published.names

variable {p : Plan} {forge : Forge} {published : Assets} {x : Position} {v commit : String}
  {i k : Nat} {l : Linkage} {q : Platform}

/-! ## Positions -/

/-- The positions of a version that is the `i`-th of its plan. -/
def positionsOf (p : Plan) (v : String) (i : Nat) : List Position :=
  (Linkage.all.filter (isPackaged v)).flatMap fun l =>
    p.platforms.zipIdx.map fun platform => ⟨i, l, platform.2⟩

/-- The positions of a plan, version by version. -/
def positions (p : Plan) : List Position :=
  p.versions.zipIdx.flatMap fun version => p.positionsOf version.1 version.2

theorem zipIdx_pairwise {α : Type} (as : List α) :
    as.zipIdx.Pairwise fun a b => a.2 < b.2 := by
  rw [← List.pairwise_map (f := Prod.snd) (R := (· < ·)), List.zipIdx_map_snd]
  exact List.pairwise_lt_range'

theorem mem_all (l : Linkage) : l ∈ Linkage.all := by cases l <;> decide

theorem isPackaged_iff : isPackaged v l = true ↔ l = .static ∨ v = "main" := by
  rw [isPackaged, Bool.or_eq_true, decide_eq_true_iff, decide_eq_true_iff]
  rfl

theorem mem_positionsOf : x ∈ p.positionsOf v i ↔
    x.version = i ∧ isPackaged v x.linkage = true ∧ x.platform < p.platforms.length := by
  simp only [positionsOf, List.mem_flatMap, List.mem_filter, List.mem_map]
  constructor
  · rintro ⟨l, ⟨-, hl⟩, ⟨q, k⟩, hq, rfl⟩
    obtain ⟨hk, -⟩ := List.getElem?_eq_some_iff.1 (List.mk_mem_zipIdx_iff_getElem?.1 hq)
    exact ⟨rfl, hl, hk⟩
  · rintro ⟨rfl, hl, hk⟩
    exact ⟨x.linkage, ⟨mem_all _, hl⟩, (p.platforms[x.platform], x.platform),
      List.mk_mem_zipIdx_iff_getElem?.2 (List.getElem?_eq_getElem hk), rfl⟩

theorem mem_positions : x ∈ p.positions ↔ p.HasPosition x := by
  simp only [positions, List.mem_flatMap, mem_positionsOf]
  constructor
  · rintro ⟨⟨v, i⟩, hv, rfl, hl, hk⟩
    have hget := List.mk_mem_zipIdx_iff_getElem?.1 hv
    refine ⟨(List.getElem?_eq_some_iff.1 hget).1, hk, ?_⟩
    rw [hget, Option.some.injEq]
    exact isPackaged_iff.1 hl
  · rintro ⟨hi, hk, hl⟩
    have hget := List.getElem?_eq_getElem hi
    refine ⟨(p.versions[x.version], x.version), List.mk_mem_zipIdx_iff_getElem?.2 hget, rfl, ?_, hk⟩
    rw [hget, Option.some.injEq] at hl
    exact isPackaged_iff.2 hl

theorem positionsOf_pairwise : (p.positionsOf v i).Pairwise Position.Before := by
  refine List.pairwise_flatMap.2 ⟨fun l _ => ?_, ?_⟩
  · exact List.pairwise_map.2 ((zipIdx_pairwise p.platforms).imp fun hk =>
      .inr ⟨rfl, .inr ⟨rfl, hk⟩⟩)
  · have hall : Linkage.all.Pairwise fun l l' => l = .dynamic ∧ l' = .static := by decide
    refine (hall.filter _).imp ?_
    rintro l l' ⟨rfl, rfl⟩ x hx y hy
    obtain ⟨_, -, rfl⟩ := List.mem_map.1 hx
    obtain ⟨_, -, rfl⟩ := List.mem_map.1 hy
    exact .inr ⟨rfl, .inl ⟨rfl, rfl⟩⟩

/-- **The positions of a plan ascend.** -/
theorem positions_pairwise (p : Plan) : p.positions.Pairwise Position.Before := by
  refine List.pairwise_flatMap.2 ⟨fun _ _ => positionsOf_pairwise, ?_⟩
  refine (zipIdx_pairwise p.versions).imp fun {a b} hlt x hx y hy => .inl ?_
  rw [(mem_positionsOf.1 hx).1, (mem_positionsOf.1 hy).1]
  exact hlt

/-! ## Builds at their positions -/

theorem archiveExtension_eq (packaged : String) : "." ++ archiveExtension packaged =
    if "windows".toList <:+: packaged.toList then ".zip" else ".tar.gz" := by
  rw [archiveExtension]
  by_cases h : "windows".toList <:+: packaged.toList
  · rw [if_pos h, if_pos (Text.occursIn_iff.2 h)]; rfl
  · rw [if_neg h, if_neg (fun hc => h (Text.occursIn_iff.1 hc))]; rfl

theorem describes_derive (hv : p.versions[i]? = some v) (hq : p.platforms[k]? = some q)
    (hcommit : (forge.resolveRef (gitRef v)).outcome = .ok commit) :
    p.Describes forge published ⟨i, l, k⟩
      ((Build.derive q v commit l).markPublished published) where
  platform := hq
  version := hv
  linkage := rfl
  commit := ⟨commit, hcommit, shortCommit_cases commit⟩
  sharedLibs := by cases l <;> rfl
  packageVersion := by cases l <;> rfl
  packagedName := rfl
  tarball := by
    rw [← archiveExtension_eq, ← String.append_assoc]
    rfl
  prebuilt := decide_eq_true_iff

/-- Lists made item by item are related if what is made of each item is. -/
theorem forall₂_flatMap_zipIdx {α β γ : Type} {R : β → γ → Prop} {as : List α}
    {f : α × Nat → List β} {g : α → List γ}
    (h : ∀ a i, as[i]? = some a → List.Forall₂ R (f (a, i)) (g a)) :
    List.Forall₂ R (as.zipIdx.flatMap f) (as.flatMap g) := by
  have hg : as.flatMap g = as.zipIdx.flatMap fun a => g a.1 := by
    rw [← List.flatMap_map Prod.fst, List.zipIdx_map_fst]
  rw [hg]
  refine List.rel_flatMap (R := fun a b => a = b ∧ a ∈ as.zipIdx)
    (List.forall₂_same.2 fun a ha => ⟨rfl, ha⟩) ?_
  rintro ⟨a, i⟩ _ ⟨rfl, ha⟩
  exact h a i (List.mk_mem_zipIdx_iff_getElem?.1 ha)

theorem describes_positionsOf (hv : p.versions[i]? = some v)
    (hcommit : (forge.resolveRef (gitRef v)).outcome = .ok commit) :
    List.Forall₂ (p.Describes forge published) (p.positionsOf v i)
      (p.buildsOf published v commit) := by
  refine List.rel_flatMap (R := Eq) (List.forall₂_refl _) ?_
  rintro l _ rfl
  simp only [List.map_eq_flatMap]
  exact forall₂_flatMap_zipIdx fun q k hq =>
    .cons (describes_derive hv hq hcommit) .nil

/-- **Builds are what their positions ask for.** -/
theorem describes_positions {commits : String → String}
    (hcommits : ∀ v ∈ p.versions, (forge.resolveRef (gitRef v)).outcome = .ok (commits v)) :
    List.Forall₂ (p.Describes forge published) p.positions
      (p.versions.flatMap fun v => p.buildsOf published v (commits v)) := by
  exact forall₂_flatMap_zipIdx fun v i hv =>
    describes_positionsOf hv (hcommits v (List.mem_of_getElem? hv))

/-! ## How many builds there are -/

theorem length_buildsOf : (p.buildsOf published v commit).length =
    p.platforms.length * if v = mainVersion then 2 else 1 := by
  rw [buildsOf, List.length_flatMap]
  simp only [List.length_map]
  by_cases hv : v = mainVersion
  · have hall : Linkage.all.filter (isPackaged v) = [.dynamic, .static] := by subst v; rfl
    simp only [hall, if_pos hv, List.map_cons, List.map_nil, List.sum_cons, List.sum_nil]
    omega
  · have hstatic : Linkage.all.filter (isPackaged v) = [.static] := by
      simp [Linkage.all, isPackaged, hv]
    simp only [hstatic, if_neg hv, List.map_cons, List.map_nil, List.sum_cons, List.sum_nil]
    omega

theorem length_flatMap_buildsOf (commits : String → String) (versions : List String) :
    (versions.flatMap fun v => p.buildsOf published v (commits v)).length =
      p.platforms.length * (versions.length + versions.count mainVersion) := by
  induction versions with
  | nil => rfl
  | cons v versions ih =>
    rw [List.flatMap_cons, List.length_append, ih, length_buildsOf, List.length_cons,
      List.count_cons, ← Nat.mul_add]
    congr 1
    by_cases hv : v = mainVersion
    · subst v; simp; omega
    · simp [hv]; omega

/-- **A generated matrix is the packaged product of versions, linkages and platforms.** The builds
stand in the order of their positions, none is left out or repeated, and each is what its position
asks for, given the commits and the files that the forge knows. -/
theorem generate_product {builds : List Build} {j j' : Journal}
    (h : p.generate forge j = (.ok builds, j')) :
    ∃ published positions, forge.releaseAssets.outcome = .ok published ∧
      positions.Pairwise Position.Before ∧ (∀ x, x ∈ positions ↔ p.HasPosition x) ∧
      List.Forall₂ (p.Describes forge published) positions builds ∧
      builds.length = p.platforms.length * (p.versions.length + p.versions.count "main") := by
  obtain ⟨published, hassets, hcommits, rfl⟩ := generate_ok h
  exact ⟨published, p.positions, hassets, positions_pairwise p, fun _ => mem_positions,
    describes_positions hcommits, length_flatMap_buildsOf _ _⟩

/-! ### A product with repetitions -/

/-- A plan that lists the default branch twice. -/
def twoBranches : Plan where
  versions := ["main", "1", "main"]
  platforms := [{ id := "linux-aarch64", runner := "r", triplet := "x" },
    { id := "windows-x86_64", runner := "r", triplet := "x" }]
  sourceRepository := "o/s"
  releaseRepository := "o/r"
  releaseTag := "t"

/-- A forge that gives each reference a commit of its own, and has published one package. -/
def branchForge : Forge where
  key := "f"
  resolveRef ref := { outcome := .ok (ref ++ "-commit") }
  releaseAssets := { outcome := .ok (.ofList ["tiledb-linux-arm64-1-tags/1--static.tar.gz"]) }

theorem generate_product_twoBranches :
    ∃ builds j', twoBranches.generate branchForge {} = (.ok builds, j') ∧ builds.length = 10 ∧
      ∃ published positions, branchForge.releaseAssets.outcome = .ok published ∧
        positions.Pairwise Position.Before ∧
        (∀ x, x ∈ positions ↔ twoBranches.HasPosition x) ∧
        List.Forall₂ (twoBranches.Describes branchForge published) positions builds := by
  obtain ⟨builds, h⟩ := Action.exists_of_isOk
    (show (twoBranches.generate branchForge {}).1.isOk = true from by decide +kernel)
  obtain ⟨published, positions, hassets, hsorted, hmem, hdescribes, hlength⟩ := generate_product h
  exact ⟨builds, _, h, hlength, published, positions, hassets, hsorted, hmem, hdescribes⟩

end Packaging.Plan
