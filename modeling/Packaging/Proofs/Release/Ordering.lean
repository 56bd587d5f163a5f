import Packaging.Proofs.Release.Checking
import Packaging.Proofs.Text.Utf8

/-!
# The order of a report

A report lists files in the order of the names of their sidecars. Without the extension these names
may compare differently: a sidecar that goes on where the extension of another begins can come
first, although its file comes later (`Misplaced`).

* `sidecar_lt_of_misplaced`, `fileOf_lt_iff`: when the order of sidecars is not that of their files.
* `checkRelease_names`: which files a report lists, and in which order.
* `checkRelease_ascending_iff`: the reports that are sorted by the names of their files.
* `compressed_comes_first`: a report that is not.
-/

namespace Packaging

open Packaging.Action FileSystem Packaging.Path Text

variable {w w' : WorkState} {fs : FileSystem} {dir stem s t : String}

/-- The last part of a path. -/
def Path.lastPart (p : String) : String := String.ofList (splitLast p).2

/-- The files of a report ascend strictly in the order of the bytes of their names. -/
def Report.Ascending (r : Report) : Prop :=
  r.entries.Pairwise fun e e' => bytesOf (lastPart e.1) < bytesOf (lastPart e'.1)

instance (r : Report) : Decidable r.Ascending := inferInstanceAs (Decidable (List.Pairwise _ _))

/-! ## The files of sidecars -/

/-- The name that the sidecar of a stem leads to: that of `.` leads to the directory above too. -/
def fileOf (stem : String) : String := if stem = "." then ".." else stem

/-- What the name of a sidecar has after the name that it leads to. -/
def endingOf (stem : String) : String := if stem = "." then "sha256" else ".sha256"

/-- The second file is listed before the first, although its name does not sort before it. -/
inductive Misplaced : String → String → Prop where
  /-- The name goes on, and what follows sorts before the extension. -/
  | continued {name rest : String} : name ≠ "." → rest ≠ "" → bytesOf rest < bytesOf ".sha256" →
      Misplaced name (name ++ rest)
  /-- The name goes on from that of the directory above. -/
  | above {rest : String} : bytesOf rest < bytesOf "sha256" → Misplaced "." (".." ++ rest)

theorem fileOf_append_endingOf (stem : String) : fileOf stem ++ endingOf stem = sidecar stem := by
  unfold fileOf endingOf
  split
  · next h => rw [h]; decide
  · exact (sidecar_eq stem).symm

theorem fileOf_of_ne (h : stem ≠ ".") : fileOf stem = stem ∧ endingOf stem = ".sha256" :=
  ⟨if_neg h, if_neg h⟩

theorem append_ne_point {rest : String} (hs : s ≠ "") (hrest : rest ≠ "") : s ++ rest ≠ "." := by
  intro h
  have hlength := congrArg (fun s : String => s.toList.length) h
  have hs := List.length_pos_iff.2 fun hc => hs (String.toList_eq_nil_iff.1 hc)
  have hrest := List.length_pos_iff.2 fun hc => hrest (String.toList_eq_nil_iff.1 hc)
  simp only [String.toList_append, List.length_append] at hlength
  have hpoint : ".".toList.length = 1 := by decide
  omega

/-- The name of the directory above goes on from no other name of a file. -/
theorem eq_empty_of_append_eq {rest : String} (hs : s ≠ "") (hpoint : s ≠ ".")
    (h : ".." = s ++ rest) : rest = "" := by
  have hlist : ['.', '.'] = s.toList ++ rest.toList := by
    rw [← String.toList_append, ← h]
    rfl
  rcases hcs : s.toList with - | ⟨c, - | ⟨d, cs⟩⟩ <;> rw [hcs] at hlist
  · exact absurd (String.toList_eq_nil_iff.1 hcs) hs
  · obtain ⟨rfl, -⟩ := List.cons.inj hlist
    exact absurd (String.toList_inj.1 hcs) hpoint
  · have hrest : [] = cs ++ rest.toList := (List.cons.inj (List.cons.inj hlist).2).2
    exact String.toList_eq_nil_iff.1 (List.append_eq_nil_iff.1 hrest.symm).2

theorem bytesOf_extension : bytesOf ".sha256" = 0x2e :: bytesOf "sha256" := by decide +kernel

theorem lt_of_mem_bytesOf_extension : ∀ b ∈ bytesOf "sha256", (0x2e : UInt8) < b := by
  decide +kernel

theorem before_extension_iff {rest : String} : bytesOf (rest ++ ".sha256") < bytesOf ".sha256" ↔
    rest ≠ "" ∧ bytesOf rest < bytesOf ".sha256" := by
  rw [bytesOf_append, bytesOf_extension, append_cons_lt_cons_iff lt_of_mem_bytesOf_extension]
  exact and_congr_left fun _ => not_congr ⟨fun h => bytesOf_injective h, fun h => h ▸ rfl⟩

theorem before_bare_extension_iff {rest : String} :
    bytesOf (rest ++ ".sha256") < bytesOf "sha256" ↔ bytesOf rest < bytesOf "sha256" := by
  rw [bytesOf_append, bytesOf_extension, append_cons_lt_iff lt_of_mem_bytesOf_extension]

/-- The name that a sidecar leads to is misplaced just if it goes on from another and sorts, with
what its sidecar has after it, before what the other's has. -/
theorem misplaced_iff (hs : s ≠ "") : Misplaced s t ↔ ∃ rest, fileOf t = fileOf s ++ rest ∧
    bytesOf (rest ++ endingOf t) < bytesOf (endingOf s) := by
  constructor
  · intro h
    cases h with
    | @continued _ rest hpoint hrest hlt =>
      have hne := append_ne_point hs hrest
      rw [(fileOf_of_ne hpoint).1, (fileOf_of_ne hpoint).2, (fileOf_of_ne hne).1,
        (fileOf_of_ne hne).2]
      exact ⟨rest, rfl, before_extension_iff.2 ⟨hrest, hlt⟩⟩
    | @above rest hlt =>
      have hne : ".." ++ rest ≠ "." := fun hc => by simpa using congrArg String.toList hc
      rw [(fileOf_of_ne hne).1, (fileOf_of_ne hne).2]
      exact ⟨rest, rfl, before_bare_extension_iff.2 hlt⟩
  · rintro ⟨rest, hfile, hlt⟩
    by_cases ht : t = "." <;> by_cases hpoint : s = "."
    · subst ht hpoint
      have hrest : rest = "" := String.append_eq_left_iff.1 hfile.symm
      subst hrest
      exact absurd hlt (by decide)
    · subst ht
      rw [(fileOf_of_ne hpoint).1] at hfile
      rw [(fileOf_of_ne hpoint).2, eq_empty_of_append_eq hs hpoint hfile] at hlt
      exact absurd hlt (by decide)
    · subst hpoint
      rw [(fileOf_of_ne ht).1] at hfile
      rw [(fileOf_of_ne ht).2] at hlt
      subst hfile
      exact .above (before_bare_extension_iff.1 hlt)
    · rw [(fileOf_of_ne ht).1, (fileOf_of_ne hpoint).1] at hfile
      rw [(fileOf_of_ne ht).2, (fileOf_of_ne hpoint).2] at hlt
      subst hfile
      obtain ⟨hrest, hlt⟩ := before_extension_iff.1 hlt
      exact .continued hpoint hrest hlt

/-- **A misplaced file is listed too early.** -/
theorem sidecar_lt_of_misplaced (hs : s ≠ "") (h : Misplaced s t) :
    bytesOf (sidecar t) < bytesOf (sidecar s) := by
  obtain ⟨rest, hfile, hlt⟩ := (misplaced_iff hs).1 h
  rw [← fileOf_append_endingOf, ← fileOf_append_endingOf, hfile, String.append_assoc,
    bytesOf_append, bytesOf_append (fileOf s)]
  exact append_lt_append_iff.2 hlt

/-- **Files compare as their sidecars do**, unless one is misplaced. -/
theorem fileOf_lt_iff (hs : s ≠ "") (h : bytesOf (sidecar t) < bytesOf (sidecar s)) :
    bytesOf (fileOf t) < bytesOf (fileOf s) ↔ ¬ Misplaced s t := by
  rw [misplaced_iff hs]
  constructor
  · rintro hlt ⟨rest, hfile, -⟩
    rw [hfile, bytesOf_append] at hlt
    exact List.le_append_left hlt
  · intro hnot
    rw [← fileOf_append_endingOf, ← fileOf_append_endingOf, bytesOf_append, bytesOf_append] at h
    refine (lt_or_append_of_append_lt h).resolve_right fun ⟨us, hus, hlt⟩ => hnot ?_
    obtain ⟨rest, hfile, rfl⟩ := exists_append_of_bytesOf hus
    exact ⟨rest, hfile, by rwa [bytesOf_append]⟩

/-! ## The paths of a report -/

theorem fileOf_cases (hslash : '/' ∉ stem.toList) (hne : stem ≠ "") :
    PlainName stem ∧ fileOf stem = stem ∨ ¬ PlainName stem ∧ fileOf stem = ".." := by
  by_cases hname : PlainName stem
  · have hpoint : stem ≠ "." := by
      rintro rfl
      exact absurd hname.isName (by decide)
    exact .inl ⟨hname, (fileOf_of_ne hpoint).1⟩
  · have hnot : isName stem.toList = false := Bool.not_eq_true _ ▸ fun hc => hname ⟨hslash, hc⟩
    refine .inr ⟨hname, ?_⟩
    rcases eq_of_not_isName hnot with hn | hn | hn
    · exact absurd (String.toList_eq_nil_iff.1 hn) hne
    · exact if_pos (String.toList_inj.1 hn)
    · rw [show stem = ".." from String.toList_inj.1 hn]
      rfl

/-- A sidecar without its extension is the path of the file that it leads to. -/
theorem withoutExtension_sidecar_fileOf (dir : String) (hslash : '/' ∉ stem.toList)
    (hne : stem ≠ "") : withoutExtension (join dir (sidecar stem)) = join dir (fileOf stem) := by
  rcases fileOf_cases hslash hne with ⟨hname, hfile⟩ | ⟨hname, hfile⟩ <;> rw [hfile]
  · exact withoutExtension_sidecar dir hname
  · exact withoutExtension_sidecar_dots dir hslash hne hname

theorem lastPart_fileOf (dir : String) (hslash : '/' ∉ stem.toList) (hne : stem ≠ "") :
    lastPart (join dir (fileOf stem)) = fileOf stem := by
  rcases fileOf_cases hslash hne with ⟨hname, hfile⟩ | ⟨-, hfile⟩ <;> rw [hfile]
  · obtain ⟨front, hsplit, -⟩ := splitLast_join dir hname
    rw [lastPart, hsplit, String.ofList_toList]
  · obtain ⟨front, hsplit, -⟩ := @splitLast_join_eq ".." dir (by decide) fun _ => rfl
    rw [lastPart, hsplit, String.ofList_toList]

/-- A sidecar of this stem is listed in a directory, and its path leads to a file. -/
structure Found (fs : FileSystem) (dir stem : String) : Prop where
  stem_ne : stem ≠ ""
  listed : ∃ loc node, fs.walk .open dir = .ok (.node loc .directory) ∧
    fs.node? (sidecar stem :: loc) = some node
  isFile : fs.isFile (join dir (sidecar stem)) = true

/-- The sidecars that are found, if any are looked for. -/
theorem sidecarNames_ok {names : List String} (hnamed : w.files.WellNamed)
    (h : sidecarNames dir w = (.ok names, w')) :
    w' = w ∧ ∃ stems : List String, names = stems.map sidecar ∧
      (stems.map sidecar).Pairwise (bytesOf · < bytesOf ·) ∧
      ∀ stem, stem ∈ stems ↔ Found w.files dir stem := by
  have hlist := h
  rw [sidecarNames] at hlist
  obtain ⟨listed, w₁, hduring, -⟩ := bind_ok hlist
  obtain ⟨fs₁, hlist, -⟩ := Work.during_ok hduring
  obtain ⟨rfl, loc, hwalk, rfl⟩ := entryNames_ok_iff.1 hlist
  obtain ⟨stems, hrun, hsorted, hmem⟩ := sidecarNames_stems hnamed hlist
  rw [hrun] at h
  cases h
  refine ⟨rfl, stems, rfl, hsorted, fun stem => ?_⟩
  rw [hmem, ← isFile_eq]
  constructor
  · rintro ⟨⟨node, hnode⟩, hne, hfile⟩
    exact ⟨hne, ⟨loc, node, hwalk, hnode⟩, hfile⟩
  · rintro ⟨hne, ⟨loc', node, hwalk', hnode⟩, hfile⟩
    rw [hwalk] at hwalk'
    cases hwalk'
    exact ⟨⟨node, hnode⟩, hne, hfile⟩

theorem entry_path {name : String} {entry : String × Status}
    (h : Status.entry dir name w = (.ok entry, w')) :
    entry.1 = withoutExtension (join dir name) := by
  have hentry : Status.entry dir name = (do
      let status ← Status.ofFile (withoutExtension (join dir name))
      pure (withoutExtension (join dir name), status)) := rfl
  rw [hentry, map_run, Prod.mk.injEq] at h
  obtain ⟨status, -, hpath⟩ := map_ok_iff.1 h.1
  rw [← hpath]

theorem mapM_entry_paths {names : List String} {entries : List (String × Status)}
    (h : (names.mapM (Status.entry dir)) w = (.ok entries, w')) :
    entries.map (·.1) = names.map fun name => withoutExtension (join dir name) := by
  induction names generalizing w entries with
  | nil => rw [(mapM_nil_ok h).1]; rfl
  | cons name names ih =>
    obtain ⟨entry, entries', w₁, hentry, hrest, rfl⟩ := mapM_cons_ok h
    rw [List.map_cons, List.map_cons, entry_path hentry, ih hrest]

/-- **A report lists the files of all sidecars** that are found, in the order of the sidecars. -/
theorem checkRelease_names {r : Report} (hnamed : w.files.WellNamed)
    (h : (checkRelease dir w).1 = .ok r) :
    ∃ stems : List String, (stems.map sidecar).Pairwise (bytesOf · < bytesOf ·) ∧
      (∀ stem, stem ∈ stems ↔ Found w.files dir stem) ∧
      r.entries.map (fun e => lastPart e.1) = stems.map fileOf := by
  have hrun : checkRelease dir w = (.ok r, (checkRelease dir w).2) := Prod.ext h rfl
  rw [checkRelease_eq] at hrun
  obtain ⟨names, w₁, hnames, hrun⟩ := bind_ok hrun
  obtain ⟨entries, w₂, hentries, hrun⟩ := bind_ok hrun
  cases hrun
  obtain ⟨rfl, stems, rfl, hsorted, hmem⟩ := sidecarNames_ok hnamed hnames
  refine ⟨stems, hsorted, hmem, ?_⟩
  have hpaths := congrArg (List.map lastPart) (mapM_entry_paths hentries)
  rw [List.map_map, List.map_map, List.map_map] at hpaths
  refine hpaths.trans (List.map_congr_left fun stem hstem => ?_)
  obtain ⟨hne, ⟨loc, node, -, hnode⟩, -⟩ := (hmem stem).1 hstem
  have hslash := noSlash_of_node hnamed hnode
  rw [Function.comp_apply, Function.comp_apply, withoutExtension_sidecar_fileOf dir hslash hne,
    lastPart_fileOf dir hslash hne]

/-- A list that is sorted by one order is sorted by another just if this one puts its elements in
the order in which the first one does. -/
theorem pairwise_iff_of_sorted {α : Type} {R S : α → α → Prop} {l : List α}
    (hsorted : l.Pairwise R) (hasymm : ∀ {a b}, R a b → ¬ R b a) :
    l.Pairwise S ↔ ∀ a ∈ l, ∀ b ∈ l, R a b → S a b := by
  refine ⟨fun h => ?_, fun h => hsorted.imp_of_mem fun ha hb => h _ ha _ hb⟩
  induction l with
  | nil => exact nofun
  | cons x l ih =>
    obtain ⟨hfirst, hsorted⟩ := List.pairwise_cons.1 hsorted
    obtain ⟨hx, hrest⟩ := List.pairwise_cons.1 h
    intro a ha b hb hab
    rcases List.mem_cons.1 ha with rfl | hal <;> rcases List.mem_cons.1 hb with rfl | hbl
    · exact absurd hab (hasymm hab)
    · exact hx b hbl
    · exact absurd hab (hasymm (hfirst a hal))
    · exact ih hsorted hrest a hal b hbl hab

/-- **A report is sorted by the names of its files** just if no file whose sidecar is found is
misplaced. -/
theorem checkRelease_ascending_iff {r : Report} (hnamed : w.files.WellNamed)
    (h : (checkRelease dir w).1 = .ok r) :
    r.Ascending ↔ ∀ s t, Found w.files dir s → Found w.files dir t → ¬ Misplaced s t := by
  obtain ⟨stems, hsorted, hmem, hnames⟩ := checkRelease_names hnamed h
  have hascending : r.Ascending ↔
      stems.Pairwise fun t s => bytesOf (fileOf t) < bytesOf (fileOf s) := by
    rw [Report.Ascending, ← List.pairwise_map (f := fileOf) (R := (bytesOf · < bytesOf ·)),
      ← hnames, List.pairwise_map]
  rw [hascending, pairwise_iff_of_sorted (List.pairwise_map.1 hsorted) List.lt_asymm]
  constructor
  · intro hfiles s t hs ht hmis
    have hlt := sidecar_lt_of_misplaced hs.stem_ne hmis
    have hfile := hfiles t ((hmem t).2 ht) s ((hmem s).2 hs) hlt
    exact (fileOf_lt_iff hs.stem_ne hlt).1 hfile hmis
  · intro hnone t ht s hs hlt
    have hs := (hmem s).1 hs
    exact (fileOf_lt_iff hs.stem_ne hlt).2 (hnone s t hs ((hmem t).1 ht))

/-- The sidecars of an archive and of its compressed form, without either file. -/
def compressedState : WorkState where
  files := ((empty.set ["d"] .directory).set ["a.tar.sha256", "d"] (.file [])).set
    ["a.tar.gz.sha256", "d"] (.file [])

/-- The sidecars of the directory itself and of the one above. -/
def dotsState : WorkState where
  files := ((empty.set ["d"] .directory).set ["..sha256", "d"] (.file [])).set
    ["...sha256", "d"] (.file [])

theorem plainName_sidecars {name : String}
    (h : name ∈ ["d", "a.tar.sha256", "a.tar.gz.sha256", "..sha256", "...sha256"]) :
    PlainName name :=
  ⟨by revert name; decide, by revert name; decide⟩

theorem wellNamed_compressedState : compressedState.files.WellNamed :=
  ((wellNamed_empty.set (plainName_sidecars (by decide)) _).set (plainName_sidecars (by decide))
    _).set (plainName_sidecars (by decide)) _

theorem wellNamed_dotsState : dotsState.files.WellNamed :=
  ((wellNamed_empty.set (plainName_sidecars (by decide)) _).set (plainName_sidecars (by decide))
    _).set (plainName_sidecars (by decide)) _

/-- Both sidecars lead to the directory above, which is listed twice. -/
theorem checkRelease_ascending_iff_dots :
    dotsState.files.WellNamed ∧
    (checkRelease "d" dotsState).1 = .ok ⟨[("d/..", .missing), ("d/..", .missing)]⟩ ∧
    ∃ s t, Found dotsState.files "d" s ∧ Found dotsState.files "d" t ∧ Misplaced s t := by
  have hcheck : (checkRelease "d" dotsState).1 =
      .ok ⟨[("d/..", .missing), ("d/..", .missing)]⟩ := by decide +kernel
  have hunsorted : ¬ Report.Ascending ⟨[("d/..", .missing), ("d/..", .missing)]⟩ := by
    decide +kernel
  rw [checkRelease_ascending_iff wellNamed_dotsState hcheck] at hunsorted
  exact ⟨wellNamed_dotsState, hcheck, by simpa using hunsorted⟩

/-- **A report of an archive and its compressed form is not sorted** by the names of its files. -/
theorem compressed_comes_first :
    compressedState.files.WellNamed ∧
    (checkRelease "d" compressedState).1 =
      .ok ⟨[("d/a.tar.gz", .missing), ("d/a.tar", .missing)]⟩ ∧
    ¬ Report.Ascending ⟨[("d/a.tar.gz", .missing), ("d/a.tar", .missing)]⟩ :=
  ⟨wellNamed_compressedState, by decide +kernel, by decide +kernel⟩

end Packaging
