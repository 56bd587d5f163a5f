import Packaging.Proofs.FileSystem.Extensions
import Packaging.Proofs.FileSystem.Listing

/-!
# Where sidecars stand

Whatever a path looks like, that of its sidecar ends in a name, which is that of a file beside or
below the place that the path leads to. What looks like a sidecar in a directory is that of the file
it leads to, if there is such a file.

* `partsOf_sidecar`, `endsInName_sidecar`: the parts of such a path.
* `place_sidecar_ne`: no path leads to the place of its own sidecar.
* `endsInName_of_isFile`: a path that leads to a file ends in a name, even if it meets links.
* `sidecar_withoutExtension`: the sidecar of the file that a sidecar leads to is that sidecar.
-/

namespace Packaging.FileSystem

open Packaging.Path Text

/-! ## The path of a sidecar -/

/-- The path of a sidecar has the parts of the path but for its last piece, which names the
sidecar. -/
theorem partsOf_sidecar (p : String) : ∃ front last, '/' ∉ last.toList ∧
    innerParts p = front ++ (partOf? last.toList).toList ∧
      partsOf (sidecar p) = front ++ [.name (sidecar last)] := by
  obtain ⟨pieces, piece, hsplit, hmore⟩ := @splitAtMarks_append_of_forall (· = '/') p.toList
  have hslash : '/' ∉ (String.ofList piece).toList := by
    rw [String.toList_ofList]
    intro hc
    have hmem : piece ∈ splitAtMarks (· = '/') p.toList :=
      hsplit ▸ List.mem_append_right _ List.mem_cons_self
    exact not_isMark_of_mem_splitAtMarks hmem '/' hc rfl
  have hname : partOf? (sidecar (String.ofList piece)).toList =
      some (.name (sidecar (String.ofList piece))) := partOf?_plain (plainName_sidecar hslash)
  refine ⟨pieces.filterMap partOf?, String.ofList piece, hslash, ?_, ?_⟩
  · rw [innerParts, hsplit, List.filterMap_append, String.toList_ofList]
    cases hpart : partOf? piece <;> simp [hpart]
  · have hinner : splitAtMarks (· = '/') (sidecar p).toList =
        pieces ++ [(sidecar (String.ofList piece)).toList] := by
      have hplain : '/' ∉ '.' :: sidecarExtension.toList := by decide
      rw [toList_sidecar, toList_sidecar, String.toList_ofList]
      exact hmore _ fun d hd => decide_eq_false fun heq => hplain (heq ▸ hd)
    have hlast : (sidecar p).toList.getLast? ≠ some '/' := by
      rw [getLast?_sidecar]
      decide
    rw [partsOf, if_neg hlast, List.append_nil, hinner, List.filterMap_append]
    simp [hname]

theorem endsInName_sidecar (p : String) : EndsInName (partsOf (sidecar p)) := by
  obtain ⟨front, last, -, -, hparts⟩ := partsOf_sidecar p
  rw [hparts]
  exact ⟨_, List.getLast?_concat⟩

/-- **No path leads to the place of its own sidecar**: that has another name, or is further down. -/
theorem place_sidecar_ne (fs : FileSystem) (p : String) : fs.place (sidecar p) ≠ fs.place p := by
  obtain ⟨front, last, -, hinner, hparts⟩ := partsOf_sidecar p
  have hstart : fs.start (sidecar p) = fs.start p := by rw [start, start, isAbsolute_sidecar]
  have hsidecar : fs.place (sidecar p) = sidecar last :: placeFrom (fs.start p) front := by
    rw [place, hstart, hparts, placeFrom_append]
    rfl
  have hplace : fs.place p =
      placeFrom (placeFrom (fs.start p) front) (partOf? last.toList).toList := by
    rw [place_eq_innerParts, hinner, placeFrom_append]
  rw [hsidecar, hplace]
  generalize placeFrom (fs.start p) front = dir
  have hbelow : sidecar last :: dir ≠ dir := List.cons_ne_self _ _
  have hlonger : sidecar last :: dir ≠ dir.tail := by
    intro heq
    have hlength := congrArg List.length heq
    rw [List.length_cons, List.length_tail] at hlength
    omega
  cases hpart : partOf? last.toList with
  | none => exact hbelow
  | some part =>
    cases part with
    | here => exact hbelow
    | slash => exact hbelow
    | up => exact hlonger
    | name name =>
      intro heq
      have hname : name = last := String.toList_inj.1 (partOf?_eq_name hpart).1
      exact sidecar_ne last ((List.cons.inj heq).1.trans hname)

/-! ## Sidecars of the files that they lead to -/

variable {fs : FileSystem} {p dir name : String} {parts : List Part} {start loc : Location}
  {c : Content}

/-- Parts that lead to a file end in a name, if those that links go on with do. -/
theorem endsInName_of_followParts {jump : Location → List Part → Except IoError Target}
    (hjump : ∀ start parts, jump start parts = .ok (.node loc (.file c)) → EndsInName parts)
    (h : fs.followParts .open jump start parts = .ok (.node loc (.file c))) :
    EndsInName parts := by
  induction parts generalizing start with
  | nil => cases h
  | cons part rest ih =>
    cases part with
    | here => exact (ih h).cons
    | slash => exact (ih h).cons
    | up => exact (ih h).cons
    | name next =>
      by_cases hrest : rest = []
      · subst hrest
        exact ⟨next, rfl⟩
      simp only [followParts, reduceCtorEq, false_and, if_false, or_false, if_neg hrest] at h
      split at h
      · cases h
      split at h
      · cases h
      · exact (ih h).cons
      · cases h
      · -- the link goes on with these parts after those of its target
        obtain ⟨last, hlast⟩ := hjump _ _ h
        rw [List.getLast?_append_of_ne_nil _ hrest] at hlast
        exact EndsInName.cons ⟨last, hlast⟩

/-- The same by induction on how many links may be followed. -/
theorem endsInName_of_follow {links : Nat}
    (h : fs.follow .open links start parts = .ok (.node loc (.file c))) : EndsInName parts := by
  induction links generalizing start parts with
  | zero => exact endsInName_of_followParts (fun _ _ hjump => by cases hjump) h
  | succ links ih => exact endsInName_of_followParts (fun _ _ => ih) h

/-- **A path that leads to a file ends in a name**, whatever links it meets. -/
theorem endsInName_of_isFile (h : fs.isFile p = true) : EndsInName (partsOf p) := by
  rw [isFile] at h
  split at h
  case h_2 => cases h
  case h_1 loc c hwalk =>
    by_cases hp : Usable p
    · rw [walk_of_usable hp] at hwalk
      exact endsInName_of_followParts (fun _ _ => endsInName_of_follow) hwalk
    · obtain ⟨e, he⟩ := walk_of_not_usable fs hp .open
      rw [he] at hwalk
      cases hwalk

/-- The directory above is no file. -/
theorem isFile_join_up (fs : FileSystem) (dir : String) : fs.isFile (join dir "..") = false := by
  rw [← Bool.not_eq_true]
  intro h
  obtain ⟨name, hname⟩ := endsInName_of_isFile h
  have hparts : partsOf (join dir "..") = innerParts dir ++ [.up] :=
    partsOf_join_eq (by decide) (by decide)
  rw [hparts, List.getLast?_concat] at hname
  cases hname

/-- **The sidecar of the file that a sidecar leads to is that sidecar.** -/
theorem sidecar_withoutExtension (h : PlainName name)
    (hext : extension? (join dir name) = some sidecarExtension)
    (hfile : fs.isFile (withoutExtension (join dir name)) = true) :
    sidecar (withoutExtension (join dir name)) = join dir name := by
  obtain ⟨stem, hne, rfl⟩ := (extension?_join_eq_some_iff h).1 hext
  by_cases hstem : PlainName stem
  · rw [withoutExtension_sidecar dir hstem, sidecar_join]
  · rw [withoutExtension_sidecar_dots dir (noSlash_of_sidecar h) hne hstem, isFile_join_up] at hfile
    cases hfile

end Packaging.FileSystem
