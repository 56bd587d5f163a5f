import Packaging.Proofs.FileSystem.Listing

/-!
# Paths that stay inside a directory

A path that is joined to a directory leads somewhere inside it unless it begins at the root or its
parts lead up out of the directory again.

* `placeFrom_of_depth`, `notMem_placeFrom_of_depth`: parts keep to the directory that they begin in
  exactly if their depth below it is never negative.
* `stays_iff`: the paths that stay inside every directory.
-/

namespace Packaging.FileSystem

open Packaging.Path

/-- A location is inside a directory, maybe several directories down. -/
def Inside (dir loc : Location) : Prop := ∃ front, front ≠ [] ∧ loc = front ++ dir

theorem not_inside_self (dir : Location) : ¬ Inside dir dir := by
  rintro ⟨front, hne, h⟩
  exact hne (List.self_eq_append_left.1 h)

/-- How far below a directory parts lead that begin at a depth below it, unless they leave it. -/
def depthFrom : Nat → List Part → Option Nat
  | depth, [] => some depth
  | depth, .here :: rest => depthFrom depth rest
  | depth, .slash :: rest => depthFrom depth rest
  | 0, .up :: _ => none
  | depth + 1, .up :: rest => depthFrom depth rest
  | depth, .name _ :: rest => depthFrom (depth + 1) rest

/-- Whether a path never leaves the directory that it is seen from and ends below it. -/
def stays (p : String) : Bool :=
  !isAbsolute p && (depthFrom 0 (innerParts p)).any (0 < ·)

variable {dir : Location} {parts : List Part} {depth n : Nat} {name p : String}

theorem placeFrom_of_depth (front dir : Location) (h : depthFrom depth parts = some n)
    (hfront : front.length = depth) :
    ∃ front', front'.length = n ∧ placeFrom (front ++ dir) parts = front' ++ dir := by
  induction parts generalizing depth front with
  | nil =>
    cases h
    exact ⟨front, hfront, rfl⟩
  | cons part rest ih =>
    cases part with
    | here =>
      simp only [depthFrom] at h
      exact ih front h hfront
    | slash =>
      simp only [depthFrom] at h
      exact ih front h hfront
    | name name =>
      simp only [depthFrom] at h
      refine ih (name :: front) h ?_
      rw [List.length_cons, hfront]
    | up =>
      cases front with
      | nil =>
        subst hfront
        cases h
      | cons a front =>
        subst hfront
        simp only [List.length_cons, depthFrom] at h
        exact ih front h rfl

theorem notMem_placeFrom (hdir : name ∉ dir) (hparts : Part.name name ∉ parts) :
    name ∉ placeFrom dir parts := by
  induction parts generalizing dir with
  | nil => exact hdir
  | cons part rest ih =>
    rw [List.mem_cons, not_or] at hparts
    obtain ⟨hpart, hrest⟩ := hparts
    cases part with
    | here => exact ih hdir hrest
    | slash => exact ih hdir hrest
    | up => exact ih (fun hmem => hdir (List.mem_of_mem_tail hmem)) hrest
    | name next =>
      refine ih (fun hmem => ?_) hrest
      rcases List.mem_cons.1 hmem with rfl | hmem
      · exact hpart rfl
      · exact hdir hmem

/-- Parts that leave a directory do not come back, unless they have its name. -/
theorem notMem_placeFrom_of_depth (front : Location) (h : depthFrom depth parts = none)
    (hfront : front.length = depth) (hname : name ∉ front) (hparts : Part.name name ∉ parts) :
    name ∉ placeFrom (front ++ [name]) parts := by
  induction parts generalizing depth front with
  | nil => cases h
  | cons part rest ih =>
    rw [List.mem_cons, not_or] at hparts
    obtain ⟨hpart, hrest⟩ := hparts
    cases part with
    | here =>
      simp only [depthFrom] at h
      exact ih front h hfront hname hrest
    | slash =>
      simp only [depthFrom] at h
      exact ih front h hfront hname hrest
    | name next =>
      simp only [depthFrom] at h
      refine ih (next :: front) h (by rw [List.length_cons, hfront]) (fun hmem => ?_) hrest
      rcases List.mem_cons.1 hmem with rfl | hmem
      · exact hpart rfl
      · exact hname hmem
    | up =>
      cases front with
      | nil =>
        have hroot : name ∉ placeFrom [] rest := notMem_placeFrom List.not_mem_nil hrest
        exact hroot
      | cons a front =>
        subst hfront
        simp only [List.length_cons, depthFrom] at h
        exact ih front h rfl (fun hmem => hname (List.mem_cons_of_mem _ hmem)) hrest

theorem emptyName_notMem_innerParts (p : String) : Part.name "" ∉ innerParts p := fun h =>
  (plainName_of_mem_partsOf (List.mem_append_left _ h)).ne_empty rfl

theorem join_empty (p : String) : join "" p = p := by
  rw [join]
  split
  · rfl
  · exact String.empty_append

/-- **The paths that lead inside whichever directory they are seen from.** -/
theorem stays_iff : stays p = true ↔
    ∀ (fs : FileSystem) (dir : String), Inside (fs.place dir) (fs.place (join dir p)) := by
  constructor
  · intro h fs dir
    simp only [stays, Bool.and_eq_true, Bool.not_eq_true', Option.any_eq_true,
      decide_eq_true_eq] at h
    obtain ⟨hrel, n, hdepth, hpos⟩ := h
    obtain ⟨front, hlength, hplace⟩ := placeFrom_of_depth [] (fs.place dir) hdepth rfl
    refine ⟨front, fun hnil => ?_, ?_⟩
    · rw [hnil, List.length_nil] at hlength
      omega
    · rw [place_join_eq hrel, ← hplace]
      rfl
  · intro h
    -- seen from the current directory, whatever that is
    have hinside : ∀ current : Location, Inside current (FileSystem.place ⟨∅, current⟩ p) := by
      intro current
      have := h ⟨∅, current⟩ ""
      rwa [join_empty] at this
    by_cases habs : isAbsolute p = true
    · have hplace : ∀ current : Location,
          FileSystem.place ⟨∅, current⟩ p = placeFrom [] (partsOf p) := by
        intro current
        rw [place, start, if_pos habs]
      have := hinside (placeFrom [] (partsOf p))
      rw [hplace] at this
      exact absurd this (not_inside_self _)
    have hplace : ∀ current : Location,
        FileSystem.place ⟨∅, current⟩ p = placeFrom current (innerParts p) := by
      intro current
      rw [place_eq_innerParts, start, if_neg habs]
    cases hdepth : depthFrom 0 (innerParts p) with
    | none =>
      obtain ⟨front, -, hfront⟩ := hinside [""]
      rw [hplace] at hfront
      have hnot := notMem_placeFrom_of_depth [] hdepth rfl List.not_mem_nil
        (emptyName_notMem_innerParts p)
      rw [List.nil_append, hfront] at hnot
      exact absurd (List.mem_append_right _ List.mem_cons_self) hnot
    | some n =>
      obtain ⟨front, hlength, hfront⟩ := placeFrom_of_depth [] [] hdepth rfl
      have hroot := hinside []
      rw [hplace] at hroot
      simp only [stays, habs, hdepth, Option.any_some, Bool.not_false, Bool.true_and,
        decide_eq_true_eq]
      cases n with
      | zero =>
        rw [List.length_eq_zero_iff] at hlength
        subst hlength
        rw [List.nil_append] at hfront
        rw [hfront] at hroot
        exact absurd hroot (not_inside_self [])
      | succ n => exact Nat.succ_pos n

theorem stays_of_plainName (h : PlainName name) : stays name = true :=
  stays_iff.2 fun _ _ => ⟨[name], List.cons_ne_nil _ _, place_join h⟩

example : ["a", "a/../b", "./a/", "../a", "a/../..", "/a", "", "."].map stays =
    [true, true, true, false, false, false, false, false] := by decide

end Packaging.FileSystem
