import Packaging.Proofs.CrossProduct
import Packaging.Proofs.Wire.Matrix

/-!
# What packages keep of a commit

A package is named after the first seven bytes of a commit's hash, or after the whole hash if no
character ends there. Of the hashes that commits have these are the first seven characters; a forge
may answer with any text.

* `shortCommit_eq_iff`: the hashes of which the first seven characters are kept (`KeepsSeven`).
* `generate_keeps_seven_iff`: the builds that carry the first seven characters of their commits.
* `generate_rederives`: what was kept is kept again (`shortCommit_shortCommit`), so every build can
  be derived from its own fields, also after it was written and read.
-/

namespace Packaging

open Text

variable {commit : String}

/-! ## Short commits -/

/-- The first seven characters of a text, or all of them. -/
def firstSeven (s : String) : String := String.ofList (s.toList.take 7)

/-- The first seven characters of a text take no more than seven bytes, or they are all of it and
none of them ends with the seventh byte. -/
def KeepsSeven (s : String) : Prop :=
  (bytesOf (firstSeven s)).length ≤ 7 ∨
    s.toList.length ≤ 7 ∧ ∀ front, front <+: s.toList → (bytesOfChars front).length ≠ 7

/-- **The hashes of which the first seven characters are kept.** -/
theorem shortCommit_eq_iff : shortCommit commit = firstSeven commit ↔ KeepsSeven commit := by
  rw [KeepsSeven, ← String.toList_inj, bytesOf_eq, firstSeven, String.toList_ofList]
  rcases shortCommit_cases commit with ⟨hkept, hsize⟩ | ⟨hall, hnone⟩
  · rw [bytesOf_eq] at hsize
    have hlength := length_le_length_bytesOfChars (shortCommit commit).toList
    have hfront : (shortCommit commit).toList <+: commit.toList.take 7 :=
      List.prefix_take_iff.2 ⟨hkept, by omega⟩
    constructor
    · intro heq
      rw [← heq]
      exact .inl hsize.le
    · rintro (hle | ⟨-, hnone⟩)
      · exact eq_of_prefix_of_bytes hfront (by omega)
      · exact absurd hsize (hnone _ hkept)
  · rw [hall]
    constructor
    · intro heq
      have hlength := congrArg List.length heq
      rw [List.length_take] at hlength
      exact .inr ⟨by omega, hnone⟩
    · rintro (hle | ⟨hle, -⟩)
      · have hne := hnone _ (List.take_prefix 7 commit.toList)
        have hlength := length_le_length_bytesOfChars (commit.toList.take 7)
        rw [List.length_take] at hlength
        exact (List.take_of_length_le (by omega)).symm
      · exact (List.take_of_length_le hle).symm

theorem length_bytesOfChars_of_ascii {cs : List Char} (h : ∀ c ∈ cs, c.toNat < 0x80) :
    (bytesOfChars cs).length = cs.length := by
  induction cs with
  | nil => rfl
  | cons c cs ih =>
    obtain ⟨hc, hcs⟩ := List.forall_mem_cons.1 h
    rw [bytesOfChars_cons, utf8EncodeChar_of_lt hc, List.singleton_append, List.length_cons,
      ih hcs, List.length_cons]

/-- Of a hash that is ASCII the first seven characters are kept. -/
theorem keepsSeven_of_ascii (h : ∀ c ∈ commit.toList, c.toNat < 0x80) : KeepsSeven commit := by
  left
  rw [bytesOf_eq, firstSeven, String.toList_ofList,
    length_bytesOfChars_of_ascii fun c hc => h c (List.mem_of_mem_take hc)]
  exact List.length_take_le 7 _

/-! ## Commits in a matrix -/

/-- A build is at a commit, and its names have in them what it keeps of the commit's hash. -/
structure Build.Carries (b : Build) (commit : String) : Prop where
  kept : b.commit.toList <+: commit.toList
  packageVersion : b.packageVersion =
    b.version ++ "-" ++ b.commit ++ if b.linkage = .static then "-static" else ""
  tarball : b.tarball = "tiledb-" ++ b.packagedName ++ "-" ++ b.packageVersion ++
    if "windows".toList <:+: b.packagedName.toList then ".zip" else ".tar.gz"

namespace Plan

variable {p : Plan} {forge : Forge} {published : Assets} {builds : List Build} {b : Build}
  {j j' : Journal}

theorem carries_derive (q : Platform) (v commit : String) (l : Linkage) :
    ((Build.derive q v commit l).markPublished published).Carries commit where
  kept := shortCommit_isPrefix commit
  packageVersion := by cases l <;> rfl
  tarball := by
    rw [← archiveExtension_eq, ← String.append_assoc]
    rfl

/-- The commit that a generated build is at, and what it was derived from. -/
theorem mem_generate (h : p.generate forge j = (.ok builds, j')) : ∃ published,
    forge.releaseAssets.outcome = .ok published ∧ ∀ b ∈ builds, ∃ commit,
      (forge.resolveRef (gitRef b.version)).outcome = .ok commit ∧
      b = (Build.derive b.platform b.version commit b.linkage).markPublished published := by
  obtain ⟨published, hassets, hcommits, rfl⟩ := generate_ok h
  refine ⟨published, hassets, fun b hb => ?_⟩
  obtain ⟨v, hv, hb⟩ := List.mem_flatMap.1 hb
  obtain ⟨l, q, -, -, rfl⟩ := mem_buildsOf.1 hb
  exact ⟨_, hcommits v hv, rfl⟩

/-- **The builds that carry the first seven characters of their commits.** Each build of a generated
matrix carries a front of the hash that the forge gives for its version, and these characters if
the hash is ASCII. -/
theorem generate_keeps_seven_iff (h : p.generate forge j = (.ok builds, j')) (hb : b ∈ builds) :
    ∃ commit, (forge.resolveRef (gitRef b.version)).outcome = .ok commit ∧ b.Carries commit ∧
      (b.commit = firstSeven commit ↔ KeepsSeven commit) ∧
      ((∀ c ∈ commit.toList, c.toNat < 0x80) → b.commit = firstSeven commit) := by
  obtain ⟨published, -, hall⟩ := mem_generate h
  obtain ⟨commit, hcommit, heq⟩ := hall b hb
  have hkept : b.commit = shortCommit commit := by rw [heq]; rfl
  refine ⟨commit, hcommit, ?_, ?_, fun hascii => ?_⟩
  · rw [heq]
    exact carries_derive _ _ commit _
  · rw [hkept]
    exact shortCommit_eq_iff
  · rw [hkept]
    exact shortCommit_eq_iff.2 (keepsSeven_of_ascii hascii)

/-- A forge that gives every reference the same commit. -/
def answering (commit : String) (assets : List String) : Forge where
  key := "f"
  resolveRef _ := { outcome := .ok commit }
  releaseAssets := { outcome := .ok (.ofList assets) }

theorem exists_build_of_first {commit kept : String}
    (h : ((twoBranches.generate (answering commit []) {}).1.toOption.bind List.head?).map
      (·.commit) = some kept) :
    ∃ builds j' b, twoBranches.generate (answering commit []) {} = (.ok builds, j') ∧
      b ∈ builds ∧ b.commit = kept := by
  obtain ⟨b, hb, hkept⟩ := Option.map_eq_some_iff.1 h
  obtain ⟨builds, hbuilds, hb⟩ := Option.bind_eq_some_iff.1 hb
  exact ⟨builds, _, b, Action.eq_ok_of_toOption hbuilds, List.mem_of_mem_head? hb, hkept⟩

/-- Six characters are kept of a hash whose first seven take eight bytes. -/
theorem generate_keeps_seven_iff_accented :
    ∃ builds j' b, twoBranches.generate (answering "é23456789" []) {} = (.ok builds, j') ∧
      b ∈ builds ∧ b.commit = "é23456" ∧ b.Carries "é23456789" ∧ ¬ KeepsSeven "é23456789" := by
  obtain ⟨builds, j', b, h, hb, hkept⟩ :=
    @exists_build_of_first "é23456789" "é23456" (by decide +kernel)
  obtain ⟨commit, hcommit, hcarries, hseven, -⟩ := generate_keeps_seven_iff h hb
  cases hcommit
  rw [hkept] at hseven
  exact ⟨builds, j', b, h, hb, hkept, hcarries, fun hc => absurd (hseven.2 hc) (by decide)⟩

/-- **All nine characters of a hash are kept** if none of them ends with the seventh byte. -/
theorem wide_hash_is_kept_whole :
    ∃ builds j' b, twoBranches.generate (answering "日本語日本語日本語" []) {} = (.ok builds, j') ∧
      b ∈ builds ∧ b.commit = "日本語日本語日本語" ∧
      b.commit ≠ firstSeven "日本語日本語日本語" := by
  obtain ⟨builds, j', b, h, hb, hkept⟩ := @exists_build_of_first "日本語日本語日本語"
    "日本語日本語日本語" (by decide +kernel)
  refine ⟨builds, j', b, h, hb, hkept, ?_⟩
  rw [hkept]
  decide

/-- A build is derived again from its own fields and the published files. -/
def Rederived (published : Assets) (b : Build) : Prop :=
  (Build.derive b.platform b.version b.commit b.linkage).markPublished published = b

theorem rederived_derive (q : Platform) (v commit : String) (l : Linkage) :
    Rederived published ((Build.derive q v commit l).markPublished published) := by
  show (Build.derive q v (shortCommit commit) l).markPublished published = _
  simp only [Build.derive, shortCommit_shortCommit]

/-- **Every build of a generated matrix is derived again from its own fields**, also after the
matrix was written, in either layout, and read back. -/
theorem generate_rederives (h : p.generate forge j = (.ok builds, j')) : ∃ published,
    forge.releaseAssets.outcome = .ok published ∧ (∀ b ∈ builds, Rederived published b) ∧
      ∀ json ∈ [(matrixToJson builds).compact, (matrixToJson builds).pretty], ∀ after,
        Json.Blank after.toList → readMatrix (json ++ after) = .ok builds := by
  obtain ⟨published, hassets, hall⟩ := mem_generate h
  have hbuilds : ∀ b ∈ builds, Rederived published b := by
    intro b hb
    obtain ⟨commit, -, heq⟩ := hall b hb
    rw [heq]
    exact rederived_derive _ _ commit _
  refine ⟨published, hassets, hbuilds, fun json hjson after hafter => ?_⟩
  rcases List.mem_cons.1 hjson with rfl | hjson
  · exact readMatrix_text Json.Spacing.blank_compact builds hafter
  · rw [List.mem_singleton.1 hjson]
    exact readMatrix_text Json.Spacing.blank_pretty builds hafter

/-- Also where a hash was kept whole, and for a build that is published. -/
theorem generate_rederives_wide :
    ∃ builds j' published, twoBranches.generate (answering "日本語日本語日本語"
        ["tiledb-linux-arm64-1-日本語日本語日本語-static.tar.gz"]) {} = (.ok builds, j') ∧
      builds.any (·.prebuilt) = true ∧ (∀ b ∈ builds, Rederived published b) ∧
      Json.Blank "\n".toList ∧
      readMatrix ((matrixToJson builds).pretty ++ "\n") = .ok builds := by
  have hrun : (twoBranches.generate (answering "日本語日本語日本語"
      ["tiledb-linux-arm64-1-日本語日本語日本語-static.tar.gz"]) {}).1.toOption.map
        (fun builds => builds.any (·.prebuilt)) = some true := by decide +kernel
  obtain ⟨builds, hbuilds, hprebuilt⟩ := Option.map_eq_some_iff.1 hrun
  have h := Action.eq_ok_of_toOption hbuilds
  obtain ⟨published, -, hall, hread⟩ := generate_rederives h
  have hafter : Json.Blank "\n".toList := by simp [Json.Blank]
  exact ⟨builds, _, published, h, hprebuilt, hall, hafter,
    hread _ (List.mem_cons_of_mem _ List.mem_cons_self) _ hafter⟩

end Plan

end Packaging
