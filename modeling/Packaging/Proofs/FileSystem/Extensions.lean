import Packaging.Proofs.FileSystem.Names

/-!
# Sidecars and the files they belong to

The sidecar of a file is named after it with one more extension, and without this extension its path
is the path of the file again.

* `splitExtension_eq_some_iff`: which names have an extension.
* `extension?_join_eq_some_iff`: the names with the extension of sidecars are the names of sidecars.
* `withoutExtension_sidecar`: a sidecar without its extension is its file;
  `withoutExtension_sidecar_dots` says what it is if the file has no name.
-/

namespace Packaging.Path

variable {dir name : String} {cs stem ext : List Char}

/-- The last point begins the extension, if there is a stem before it. -/
theorem splitExtension_point (stem : List Char) (hext : '.' ∉ ext) :
    splitExtension (stem ++ '.' :: ext) =
      if stem = [] then ('.' :: ext, none) else (stem, some ext) := by
  have hall : ∀ c ∈ ext.reverse, decide (c ≠ '.') = true := fun c hc =>
    decide_eq_true fun (e : c = '.') => hext (e ▸ List.mem_reverse.1 hc)
  have hrev : (stem ++ '.' :: ext).reverse = ext.reverse ++ '.' :: stem.reverse := by simp
  have htake : ('.' :: stem.reverse).takeWhile (fun c => decide (c ≠ '.')) = [] := rfl
  have hdrop : ('.' :: stem.reverse).dropWhile (fun c => decide (c ≠ '.')) = '.' :: stem.reverse :=
    rfl
  rw [splitExtension, hrev, List.takeWhile_append_of_pos hall, List.dropWhile_append_of_pos hall,
    htake, hdrop, List.append_nil, List.reverse_reverse, List.reverse_cons, List.reverse_reverse,
    List.dropLast_concat]
  cases stem <;> rfl

theorem splitExtension_of_notMem (h : '.' ∉ cs) : splitExtension cs = (cs, none) := by
  have hall : ∀ c ∈ cs.reverse, decide (c ≠ '.') = true := fun c hc =>
    decide_eq_true fun (e : c = '.') => h (e ▸ List.mem_reverse.1 hc)
  have hdrop : (cs.reverse ++ []).dropWhile (fun c => decide (c ≠ '.')) = List.dropWhile _ [] :=
    List.dropWhile_append_of_pos hall
  rw [List.append_nil, List.dropWhile_nil] at hdrop
  rw [splitExtension, hdrop]
  rfl

theorem splitExtension_eq_some_iff :
    (splitExtension cs).2 = some ext ↔ '.' ∉ ext ∧ ∃ stem, stem ≠ [] ∧ cs = stem ++ '.' :: ext := by
  constructor
  · intro h
    by_cases hpoint : '.' ∈ cs
    · obtain ⟨back, front, hrev, hback⟩ := List.eq_append_cons_of_mem (List.mem_reverse.2 hpoint)
      have hcs : cs = front.reverse ++ '.' :: back.reverse := by
        rw [← List.reverse_reverse cs, hrev]
        simp
      have hback' : '.' ∉ back.reverse := fun hc => hback (List.mem_reverse.1 hc)
      rw [hcs, splitExtension_point _ hback'] at h
      split at h
      · cases h
      · next hfront =>
        cases h
        exact ⟨hback', _, hfront, hcs⟩
    · rw [splitExtension_of_notMem hpoint] at h
      cases h
  · rintro ⟨hext, stem, hstem, rfl⟩
    rw [splitExtension_point stem hext, if_neg hstem]

theorem toList_sidecar (s : String) :
    (sidecar s).toList = s.toList ++ '.' :: sidecarExtension.toList := by
  rw [sidecar_eq, String.toList_append]
  rfl

theorem noSlash_of_sidecar (h : PlainName (sidecar name)) : '/' ∉ name.toList := by
  refine fun hslash => h.noSlash ?_
  rw [toList_sidecar]
  exact List.mem_append_left _ hslash

theorem extension?_join (h : PlainName name) :
    extension? (join dir name) = (splitExtension name.toList).2.map String.ofList := by
  rw [extension?, fileName?_join h]

/-- **The names with the extension of sidecars are the names of sidecars.** -/
theorem extension?_join_eq_some_iff (h : PlainName name) :
    extension? (join dir name) = some sidecarExtension ↔
      ∃ stem, stem ≠ "" ∧ name = sidecar stem := by
  have hpoint : '.' ∉ sidecarExtension.toList := by decide
  rw [extension?_join h, Option.map_eq_some_iff]
  constructor
  · rintro ⟨ext, hext, hofList⟩
    obtain ⟨-, stem, hstem, hname⟩ := splitExtension_eq_some_iff.1 hext
    refine ⟨String.ofList stem, fun hc => hstem ?_, ?_⟩
    · rw [← String.toList_ofList (l := stem), hc]
      rfl
    · rw [← String.toList_inj, toList_sidecar, String.toList_ofList, hname, ← hofList,
        String.toList_ofList]
  · rintro ⟨stem, hstem, rfl⟩
    refine ⟨sidecarExtension.toList, ?_, String.ofList_toList⟩
    rw [splitExtension_eq_some_iff]
    exact ⟨hpoint, stem.toList, fun hc => hstem (String.toList_eq_nil_iff.1 hc),
      toList_sidecar stem⟩

theorem PlainName.point (h : PlainName name) : PlainName (name ++ ".") := by
  have hlist : (name ++ ".").toList = name.toList ++ ['.'] := String.toList_append
  refine ⟨?_, ?_⟩
  · rw [hlist, List.mem_append]
    rintro (hc | hc)
    · exact h.noSlash hc
    · exact absurd hc (by decide)
  · have hname := h.isName
    rw [hlist]
    rcases hcs : name.toList with - | ⟨c, - | ⟨d, cs⟩⟩ <;> rw [hcs] at hname
    · exact absurd hname (by decide)
    · simp_all [Path.isName]
    · exact isName_of_length (by simp)

theorem join_point (dir : String) (h : '/' ∉ name.toList) :
    join dir (name ++ ".") = join dir name ++ "." := by
  have hpoint : '/' ∉ (name ++ ".").toList := by
    rw [String.toList_append, List.mem_append]
    rintro (hc | hc)
    · exact h hc
    · exact absurd hc (by decide)
  rw [join, join, isAbsolute_eq_false h, isAbsolute_eq_false hpoint, if_neg Bool.false_ne_true,
    if_neg Bool.false_ne_true]
  split <;> simp only [String.append_assoc]

/-- The extension of a sidecar is cut off first, which leaves the point. -/
theorem withoutExtension_sidecar_eq (dir : String) (h : '/' ∉ name.toList) (hne : name ≠ "")
    {front part : List Char} (hsplit : splitLast (join dir (name ++ ".")) = (front, part)) :
    withoutExtension (join dir (sidecar name)) =
      if isName part then String.ofList (front ++ (splitExtension part).1)
      else join dir (name ++ ".") := by
  have hext : extension? (join dir (sidecar name)) = some sidecarExtension :=
    (extension?_join_eq_some_iff (plainName_sidecar h)).2 ⟨name, hne, rfl⟩
  have hcut : (join dir (sidecar name)).toList.take
      ((join dir (sidecar name)).toList.length - sidecarExtension.toList.length) =
        (join dir (name ++ ".")).toList := by
    have hpath : (join dir (sidecar name)).toList =
        (join dir (name ++ ".")).toList ++ sidecarExtension.toList := by
      rw [← sidecar_join, toList_sidecar, join_point dir h, String.toList_append, List.append_assoc]
      rfl
    rw [hpath, List.length_append, Nat.add_sub_cancel, List.take_left]
  rw [withoutExtension, hext]
  simp only
  rw [hcut, String.ofList_toList, hsplit]

theorem withoutExtension_sidecar_of_point (dir : String) (h : '/' ∉ name.toList) (hne : name ≠ "")
    (hpoint : PlainName (name ++ ".")) :
    withoutExtension (join dir (sidecar name)) = join dir name := by
  obtain ⟨front, hsplit, hfront⟩ := splitLast_join dir hpoint
  have hstem : splitExtension (name ++ ".").toList = (name.toList, some []) := by
    have hne : name.toList ≠ [] := fun hc => hne (String.toList_eq_nil_iff.1 hc)
    rw [String.toList_append]
    exact (splitExtension_point name.toList List.not_mem_nil).trans (if_neg hne)
  rw [withoutExtension_sidecar_eq dir h hne hsplit, if_pos hpoint.isName, hstem,
    ← String.toList_inj, String.toList_ofList]
  rw [join_point dir h, String.toList_append, String.toList_append, ← List.append_assoc] at hfront
  exact (List.append_cancel_right hfront).symm

/-- **A sidecar without its extension is its file.** -/
theorem withoutExtension_sidecar (dir : String) (h : PlainName name) :
    withoutExtension (join dir (sidecar name)) = join dir name :=
  withoutExtension_sidecar_of_point dir h.noSlash h.ne_empty h.point

/-- A stem that is no name leads to the directory above, which is no file. -/
theorem withoutExtension_sidecar_dots (dir : String) (h : '/' ∉ name.toList) (hne : name ≠ "")
    (hname : ¬ PlainName name) : withoutExtension (join dir (sidecar name)) = join dir ".." := by
  have hcases : name = "." ∨ name = ".." := by
    have hnot : Path.isName name.toList = false := Bool.not_eq_true _ ▸ fun hc => hname ⟨h, hc⟩
    rcases eq_of_not_isName hnot with hn | hn | hn
    · exact absurd (String.toList_eq_nil_iff.1 hn) hne
    · exact .inl (String.toList_inj.1 hn)
    · exact .inr (String.toList_inj.1 hn)
  rcases hcases with rfl | rfl
  · obtain ⟨front, hsplit, -⟩ :=
      @splitLast_join_eq ".." dir (by decide) fun _ => rfl
    rw [withoutExtension_sidecar_eq dir h hne hsplit, if_neg (by decide)]
    rfl
  · exact withoutExtension_sidecar_of_point dir h hne ⟨by decide, by decide⟩

end Packaging.Path
