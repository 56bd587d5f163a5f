import Packaging.Plan
import Mathlib.Data.List.Nodup
import Mathlib.Order.Bounds.Defs

/-!
# Which plans are usable, and what is wrong with the others

* `checkVersions_ok_iff`, `checkPlatforms_ok_iff`: a scan passes exactly when its texts are `Fresh`,
  given those seen before it, and no version is blank.
* `validate_eq_ok_iff`: a plan is accepted exactly when it is `Usable`.
* `Scans.error_iff`: a scan fails with the fault at the least index that has one.
* `validate_eq_error_iff`, `validate_exact`: a plan that is not accepted gives its `FirstFault`.
-/

namespace Packaging.Plan

open Text

variable {seen versions ids : List String} {p : Plan}

/-- Texts that do not repeat, and repeat nothing that was seen before. -/
def Fresh (seen xs : List String) : Prop := xs.Nodup ∧ ∀ x ∈ xs, x ∉ seen

theorem fresh_cons_iff {x : String} {xs : List String} :
    Fresh seen (x :: xs) ↔ x ∉ seen ∧ Fresh (x :: seen) xs := by
  rw [Fresh, Fresh, List.nodup_cons, List.forall_mem_cons]
  simp only [List.mem_cons, not_or]
  constructor
  · rintro ⟨⟨hx, hnd⟩, hseen, hnew⟩
    exact ⟨hseen, hnd, fun y hy => ⟨fun hyx => hx (hyx ▸ hy), hnew y hy⟩⟩
  · rintro ⟨hseen, hnd, hnew⟩
    exact ⟨⟨fun hx => (hnew x hx).1 rfl, hnd⟩, hseen, fun y hy => (hnew y hy).2⟩

theorem checkVersions_ok_iff : checkVersions seen versions = .ok () ↔
    (∀ v ∈ versions, isBlankText v = false) ∧ Fresh seen versions := by
  induction versions generalizing seen with
  | nil => simp [checkVersions, Fresh]
  | cons v versions ih =>
    rw [checkVersions, fresh_cons_iff, List.forall_mem_cons]
    by_cases hblank : isBlankText v = true
    · simp [hblank]
    by_cases hseen : v ∈ seen
    · simp [hblank, hseen]
    rw [if_neg hblank, if_neg hseen, ih]
    simp [hblank, hseen]

theorem checkPlatforms_ok_iff : checkPlatforms seen ids = .ok () ↔ Fresh seen ids := by
  induction ids generalizing seen with
  | nil => simp [checkPlatforms, Fresh]
  | cons id ids ih =>
    rw [checkPlatforms, fresh_cons_iff]
    by_cases hseen : id ∈ seen
    · simp [hseen]
    rw [if_neg hseen, ih]
    simp [hseen]

/-- A plan that names versions and platforms, without blanks and repetitions. -/
structure Usable (p : Plan) : Prop where
  versions_ne : p.versions ≠ []
  platforms_ne : p.platforms ≠ []
  not_blank : ∀ v ∈ p.versions, isBlankText v = false
  nodup_versions : p.versions.Nodup
  nodup_ids : (p.platforms.map (·.id)).Nodup

theorem validate_of_noVersions (h : p.versions = []) : p.validate = .error .noVersions := by
  simp only [validate, h, List.isEmpty_nil, if_true]
  rfl

theorem validate_of_noPlatforms (hversions : p.versions ≠ []) (h : p.platforms = []) :
    p.validate = .error .noPlatforms := by
  simp only [validate, h, List.isEmpty_iff, hversions, if_false, if_true]
  rfl

theorem validate_of_ne (hversions : p.versions ≠ []) (hplatforms : p.platforms ≠ []) :
    p.validate = (do
      checkVersions [] p.versions
      checkPlatforms [] (p.platforms.map (·.id))) := by
  simp only [validate, List.isEmpty_iff, hversions, hplatforms, if_false]

/-- **A plan is accepted exactly when it is usable.** -/
theorem validate_eq_ok_iff : p.validate = .ok () ↔ p.Usable := by
  by_cases hversions : p.versions = []
  · rw [validate_of_noVersions hversions]
    exact ⟨nofun, fun hu => absurd hversions hu.versions_ne⟩
  by_cases hplatforms : p.platforms = []
  · rw [validate_of_noPlatforms hversions hplatforms]
    exact ⟨nofun, fun hu => absurd hplatforms hu.platforms_ne⟩
  rw [validate_of_ne hversions hplatforms]
  cases hv : checkVersions [] p.versions with
  | error e =>
    refine ⟨nofun, fun hu => ?_⟩
    have hfresh : Fresh [] p.versions := ⟨hu.nodup_versions, fun _ _ => List.not_mem_nil⟩
    rw [checkVersions_ok_iff.2 ⟨hu.not_blank, hfresh⟩] at hv
    cases hv
  | ok =>
    obtain ⟨hblank, hnd, -⟩ := checkVersions_ok_iff.1 hv
    change checkPlatforms [] (p.platforms.map (·.id)) = .ok () ↔ p.Usable
    rw [checkPlatforms_ok_iff]
    exact ⟨fun hids => ⟨hversions, hplatforms, hblank, hnd, hids.1⟩,
      fun hu => ⟨hu.nodup_ids, fun _ _ => List.not_mem_nil⟩⟩

/-! ## The first fault -/

/-- What is wrong with a version after others: it is blank, or else it is one of them. -/
inductive VersionFault (earlier : List String) (v : String) : Error → Prop where
  | blank : isBlankText v = true → VersionFault earlier v .blankVersion
  | repeated : isBlankText v = false → v ∈ earlier → VersionFault earlier v (.repeatedVersion v)

/-- What is wrong with a platform id after others: it is one of them. -/
inductive IdFault (earlier : List String) (id : String) : Error → Prop where
  | repeated : id ∈ earlier → IdFault earlier id (.repeatedPlatform id)

/-- What is wrong with the text at an index, after those seen before and those at lower indices. -/
def FaultAt (Fault : List String → String → Error → Prop) (seen xs : List String) (i : Nat)
    (e : Error) : Prop :=
  ∃ x, xs[i]? = some x ∧ Fault (seen ++ xs.take i) x e

section Scans

variable {check : List String → List String → Except Error Unit}
  {Fault : List String → String → Error → Prop} {x : String} {xs : List String} {e : Error}

/-- A check goes through texts from left to right, stops at the first one at fault, and remembers
the others. The order in which texts were seen does not matter. -/
structure Scans (check : List String → List String → Except Error Unit)
    (Fault : List String → String → Error → Prop) : Prop where
  nil : ∀ seen, check seen [] = .ok ()
  fault : ∀ {seen x xs e}, Fault seen x e → check seen (x :: xs) = .error e
  pass : ∀ {seen x xs}, (∀ e, ¬ Fault seen x e) → check seen (x :: xs) = check (x :: seen) xs
  perm : ∀ {seen seen' x e}, seen.Perm seen' → Fault seen x e → Fault seen' x e

theorem faultAt_zero_iff : FaultAt Fault seen (x :: xs) 0 e ↔ Fault seen x e := by
  simp [FaultAt]

theorem Scans.faultAt_succ_iff (h : Scans check Fault) {i : Nat} :
    FaultAt Fault seen (x :: xs) (i + 1) e ↔ FaultAt Fault (x :: seen) xs i e := by
  have hperm : (seen ++ x :: xs.take i).Perm (x :: seen ++ xs.take i) := List.perm_middle
  simp only [FaultAt, List.getElem?_cons_succ, List.take_succ_cons]
  exact exists_congr fun y => and_congr_right fun _ => ⟨h.perm hperm, h.perm hperm.symm⟩

/-- **A check fails with the fault at the least index that has one.** -/
theorem Scans.error_iff (h : Scans check Fault) : check seen xs = .error e ↔
    ∃ i, IsLeast {i | ∃ e, FaultAt Fault seen xs i e} i ∧ FaultAt Fault seen xs i e := by
  induction xs generalizing seen with
  | nil => simp [h.nil, FaultAt]
  | cons x xs ih =>
    -- A fault of the first text is the one at index 0. If it has none, the others come one later.
    by_cases hx : ∃ e, Fault seen x e
    · obtain ⟨e', he'⟩ := hx
      rw [h.fault he', Except.error.injEq]
      constructor
      · rintro rfl
        have hzero : FaultAt Fault seen (x :: xs) 0 _ := faultAt_zero_iff.2 he'
        exact ⟨0, ⟨⟨_, hzero⟩, fun _ _ => Nat.zero_le _⟩, hzero⟩
      · rintro ⟨i, hleast, hi⟩
        obtain rfl : i = 0 := Nat.le_zero.1 (hleast.2 ⟨e', faultAt_zero_iff.2 he'⟩)
        have hi : check seen (x :: xs) = .error e := h.fault (faultAt_zero_iff.1 hi)
        rw [h.fault he'] at hi
        exact Except.error.inj hi
    · have hx : ∀ e, ¬ Fault seen x e := fun e he => hx ⟨e, he⟩
      rw [h.pass hx, ih]
      constructor
      · rintro ⟨i, ⟨-, hleast⟩, hi⟩
        have hi := h.faultAt_succ_iff.2 hi
        refine ⟨i + 1, ⟨⟨e, hi⟩, ?_⟩, hi⟩
        rintro (_ | j) ⟨e', hj⟩
        · exact absurd (faultAt_zero_iff.1 hj) (hx e')
        · exact Nat.succ_le_succ (hleast ⟨e', h.faultAt_succ_iff.1 hj⟩)
      · rintro ⟨_ | i, ⟨-, hleast⟩, hi⟩
        · exact absurd (faultAt_zero_iff.1 hi) (hx e)
        · have hi := h.faultAt_succ_iff.1 hi
          refine ⟨i, ⟨⟨e, hi⟩, ?_⟩, hi⟩
          rintro j ⟨e', hj⟩
          exact Nat.le_of_succ_le_succ (hleast ⟨e', h.faultAt_succ_iff.2 hj⟩)

end Scans

theorem scans_checkVersions : Scans checkVersions VersionFault where
  nil _ := rfl
  fault h := by
    cases h with
    | blank hblank => rw [checkVersions, if_pos hblank]
    | repeated hblank hseen => rw [checkVersions, if_neg (by rw [hblank]; nofun), if_pos hseen]
  pass {seen v versions} h := by
    have hblank : ¬ isBlankText v = true := fun hblank => h _ (.blank hblank)
    have hseen : v ∉ seen := fun hseen => h _ (.repeated (Bool.eq_false_iff.2 hblank) hseen)
    rw [checkVersions, if_neg hblank, if_neg hseen]
  perm hperm h := by
    cases h with
    | blank hblank => exact .blank hblank
    | repeated hblank hseen => exact .repeated hblank (hperm.mem_iff.1 hseen)

theorem scans_checkPlatforms : Scans checkPlatforms IdFault where
  nil _ := rfl
  fault h := by
    cases h with
    | repeated hseen => rw [checkPlatforms, if_pos hseen]
  pass h := by rw [checkPlatforms, if_neg fun hseen => h _ (.repeated hseen)]
  perm hperm h := by
    cases h with
    | repeated hseen => exact .repeated (hperm.mem_iff.1 hseen)

/-- The first fault of a plan: it names no version, or else no platform, or else a version is at
fault, or else a platform id is. -/
inductive FirstFault (p : Plan) : Error → Prop where
  | noVersions : p.versions = [] → FirstFault p .noVersions
  | noPlatforms : p.versions ≠ [] → p.platforms = [] → FirstFault p .noPlatforms
  | version {i : Nat} {e : Error} : p.platforms ≠ [] →
      IsLeast {i | ∃ e, FaultAt VersionFault [] p.versions i e} i →
      FaultAt VersionFault [] p.versions i e → FirstFault p e
  | platform {i : Nat} {e : Error} : p.versions ≠ [] →
      (∀ v ∈ p.versions, isBlankText v = false) → p.versions.Nodup →
      IsLeast {i | ∃ e, FaultAt IdFault [] (p.platforms.map (·.id)) i e} i →
      FaultAt IdFault [] (p.platforms.map (·.id)) i e → FirstFault p e

theorem ne_nil_of_faultAt {Fault : List String → String → Error → Prop} {xs : List String} {i : Nat}
    {e : Error} (h : FaultAt Fault seen xs i e) : xs ≠ [] := by
  rintro rfl
  obtain ⟨x, hx, -⟩ := h
  cases hx

theorem validate_of_firstFault {e : Error} (h : p.FirstFault e) : p.validate = .error e := by
  cases h with
  | noVersions hnone => exact validate_of_noVersions hnone
  | noPlatforms hversions hnone => exact validate_of_noPlatforms hversions hnone
  | version hplatforms hleast hfault =>
    rw [validate_of_ne (ne_nil_of_faultAt hfault) hplatforms,
      scans_checkVersions.error_iff.2 ⟨_, hleast, hfault⟩]
    rfl
  | platform hversions hblank hnd hleast hfault =>
    have hplatforms : p.platforms ≠ [] := fun hnone =>
      ne_nil_of_faultAt hfault (by rw [hnone, List.map_nil])
    have hpass : checkVersions [] p.versions = .ok () :=
      checkVersions_ok_iff.2 ⟨hblank, hnd, fun _ _ => List.not_mem_nil⟩
    rw [validate_of_ne hversions hplatforms, hpass]
    exact scans_checkPlatforms.error_iff.2 ⟨_, hleast, hfault⟩

theorem firstFault_of_validate {e : Error} (h : p.validate = .error e) : p.FirstFault e := by
  by_cases hversions : p.versions = []
  · rw [validate_of_noVersions hversions] at h
    cases h
    exact .noVersions hversions
  by_cases hplatforms : p.platforms = []
  · rw [validate_of_noPlatforms hversions hplatforms] at h
    cases h
    exact .noPlatforms hversions hplatforms
  rw [validate_of_ne hversions hplatforms] at h
  cases hv : checkVersions [] p.versions with
  | error e' =>
    rw [hv] at h
    cases h
    obtain ⟨i, hleast, hfault⟩ := scans_checkVersions.error_iff.1 hv
    exact .version hplatforms hleast hfault
  | ok =>
    rw [hv] at h
    obtain ⟨hblank, hnd, -⟩ := checkVersions_ok_iff.1 hv
    obtain ⟨i, hleast, hfault⟩ := scans_checkPlatforms.error_iff.1 h
    exact .platform hversions hblank hnd hleast hfault

/-- **A plan that is not accepted gives its first fault.** -/
theorem validate_eq_error_iff {e : Error} : p.validate = .error e ↔ p.FirstFault e :=
  ⟨firstFault_of_validate, validate_of_firstFault⟩

theorem isBlankText_eq_false_iff {s : String} :
    isBlankText s = false ↔ ∃ c ∈ s.toList, isBlank c = false := by
  simp [isBlankText]

/-- **Validation is exact and reports the first fault**: a plan is accepted exactly when it lists
versions and platforms, every version has a character that is not blank, and neither versions nor
platform ids repeat; otherwise its first fault is reported, by the wording that the fault has. -/
theorem validate_exact (p : Plan) :
    (p.validate = .ok () ↔ p.versions ≠ [] ∧ p.platforms ≠ [] ∧
      (∀ v ∈ p.versions, ∃ c ∈ v.toList, isBlank c = false) ∧ p.versions.Nodup ∧
      (p.platforms.map (·.id)).Nodup) ∧
    (∀ e, p.validate = .error e ↔ p.FirstFault e) ∧
    Error.message .noVersions = "no versions listed" ∧
    Error.message .noPlatforms = "no platforms listed" ∧
    ∀ v, Error.message (.repeatedVersion v) = "duplicate version '" ++ v ++ "'" := by
  refine ⟨?_, fun _ => validate_eq_error_iff, rfl, rfl, fun v => ?_⟩
  · simp only [← isBlankText_eq_false_iff, validate_eq_ok_iff]
    exact ⟨fun h => ⟨h.versions_ne, h.platforms_ne, h.not_blank, h.nodup_versions, h.nodup_ids⟩,
      fun ⟨hv, hp, hblank, hnd, hids⟩ => ⟨hv, hp, hblank, hnd, hids⟩⟩
  · rfl

end Packaging.Plan
