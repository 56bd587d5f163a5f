import Packaging.Proofs.Release.Report
import Mathlib.Data.Set.List

/-!
# What a check of a directory reports

Every sidecar in a directory has its entry, in the order of the names, unless one of them is of no
use for a file that is there: then the first of these is the error.

* `entry_run`: what is found of the file that a sidecar belongs to.
* `sidecars_run`: which sidecars are found.
* `checkRelease_exact`: which reports and which errors a check of a directory gives.
* `long_directory_hides_sidecar`: a sidecar that is passed over without an error, although the check
  is of all sidecars in the directory: its path is too long to ask whether it is a file.
-/

namespace Packaging

open Packaging.Action FileSystem Packaging.Path Text

variable {w : WorkState} {fs : FileSystem} {dir stem : String} {c c' : Content} {d d' : Digest}

/-! ## Entries -/

/-- A file is there, and the first token of its sidecar spells a digest. -/
structure Compared (fs : FileSystem) (dir stem : String) (c : Content) (d : Digest) : Prop where
  file : fs.content? (join dir stem) = some c
  token : ∃ text, fs.content? (join dir (sidecar stem)) = some (bytesOf text) ∧
    d.text = String.ofList (firstToken text.toList)

/-- The entry of the file that a sidecar belongs to. -/
structure Reported (fs : FileSystem) (dir stem : String) (entry : String × Status) : Prop where
  path : PlainName stem → entry.1 = join dir stem
  noName : ¬ PlainName stem → entry.1 = join dir ".."
  missing : entry.2 = .missing ↔ fs.content? (join dir stem) = none
  ok : entry.2 = .ok ↔ ∃ c d, Compared fs dir stem c d ∧
    d.text.toList.map Char.toLower = Hex.encode (Sha256.hash c)
  differs : ∀ d d', entry.2 = .differs d d' ↔ ∃ c, Compared fs dir stem c d ∧
    d.text.toList.map Char.toLower ≠ Hex.encode (Sha256.hash c) ∧ d' = .ofContent c

/-- Why a sidecar is of no use for a file that is there. -/
inductive Unreadable (fs : FileSystem) (dir stem : String) : ReleaseError → Prop where
  | notText {c s : Content} : fs.content? (join dir stem) = some c →
      fs.content? (join dir (sidecar stem)) = some s → ofBytes? s = none →
      Unreadable fs dir stem (.io .read (join dir (sidecar stem)) .notText)
  | noDigest {c : Content} {text : String} {e : Digest.Error} :
      fs.content? (join dir stem) = some c →
      fs.content? (join dir (sidecar stem)) = some (bytesOf text) →
      Digest.ofSidecar text = .error e →
      Unreadable fs dir stem (.sidecar (join dir (sidecar stem)) e)

theorem Compared.unique (h : Compared fs dir stem c d) (h' : Compared fs dir stem c' d') :
    c' = c ∧ d' = d := by
  have hfile := h.file
  obtain ⟨text, htext, htoken⟩ := h.token
  obtain ⟨text', htext', htoken'⟩ := h'.token
  rw [h'.file, Option.some.injEq] at hfile
  rw [htext, Option.some.injEq] at htext'
  cases bytesOf_injective htext'
  exact ⟨hfile, Digest.ext_text (htoken'.trans htoken.symm)⟩

theorem Compared.not_unreadable {e : ReleaseError} (h : Compared fs dir stem c d) :
    ¬ Unreadable fs dir stem e := by
  obtain ⟨text, htext, htoken⟩ := h.token
  intro hu
  cases hu with
  | notText _ hs hnone =>
    rw [htext, Option.some.injEq] at hs
    rw [← hs, ofBytes?_bytesOf] at hnone
    cases hnone
  | noDigest _ hs herror =>
    rw [htext, Option.some.injEq] at hs
    rw [← bytesOf_injective hs, Digest.ofSidecar_ok_iff.2 htoken] at herror
    cases herror

theorem Unreadable.unique {e e' : ReleaseError} (h : Unreadable fs dir stem e)
    (h' : Unreadable fs dir stem e') : e' = e := by
  cases h with
  | notText _ hs hnone =>
    cases h' with
    | notText => rfl
    | noDigest _ htext =>
      rw [hs, Option.some.injEq] at htext
      rw [htext, ofBytes?_bytesOf] at hnone
      cases hnone
  | noDigest _ htext herror =>
    cases h' with
    | notText _ hs hnone =>
      rw [htext, Option.some.injEq] at hs
      rw [← hs, ofBytes?_bytesOf] at hnone
      cases hnone
    | noDigest _ htext' herror' =>
      rw [htext, Option.some.injEq] at htext'
      rw [← bytesOf_injective htext', herror] at herror'
      cases herror'
      rfl

/-- The entry of a file is determined by what is there. -/
theorem Reported.unique {entry entry' : String × Status} (h : Reported fs dir stem entry)
    (h' : Reported fs dir stem entry') : entry' = entry := by
  refine Prod.ext ?_ ?_
  · by_cases hname : PlainName stem
    · exact (h'.path hname).trans (h.path hname).symm
    · exact (h'.noName hname).trans (h.noName hname).symm
  · cases hstatus : entry.2 with
    | ok => exact h'.ok.2 (h.ok.1 hstatus)
    | differs d d' => exact (h'.differs d d').2 ((h.differs d d').1 hstatus)
    | missing => exact h'.missing.2 (h.missing.1 hstatus)

theorem Reported.not_unreadable {entry : String × Status} {e : ReleaseError}
    (h : Reported fs dir stem entry) : ¬ Unreadable fs dir stem e := by
  intro hu
  cases hstatus : entry.2 with
  | ok =>
    obtain ⟨c, d, hcompared, -⟩ := h.ok.1 hstatus
    exact hcompared.not_unreadable hu
  | differs d d' =>
    obtain ⟨c, hcompared, -⟩ := (h.differs d d').1 hstatus
    exact hcompared.not_unreadable hu
  | missing =>
    have hnone := h.missing.1 hstatus
    cases hu with
    | notText hc => rw [hnone] at hc; cases hc
    | noDigest hc => rw [hnone] at hc; cases hc

theorem Reported.of_missing {path : String} (hpath : PlainName stem → path = join dir stem)
    (hnoName : ¬ PlainName stem → path = join dir "..")
    (h : fs.content? (join dir stem) = none) : Reported fs dir stem (path, .missing) := by
  have hnot {c : Content} {d : Digest} : ¬ Compared fs dir stem c d := fun hc => by
    rw [hc.file] at h
    cases h
  exact ⟨hpath, hnoName, ⟨fun _ => h, fun _ => rfl⟩, ⟨nofun, fun ⟨_, _, hc, _⟩ => absurd hc hnot⟩,
    fun _ _ => ⟨nofun, fun ⟨_, hc, _⟩ => absurd hc hnot⟩⟩

theorem Reported.of_compared (hname : PlainName stem) (h : Compared fs dir stem c d) :
    Reported fs dir stem (join dir stem, .ofContent d c) := by
  refine ⟨fun _ => rfl, fun hno => absurd hname hno, ?_, ?_, fun d₁ d₂ => ?_⟩
  · refine ⟨fun hm => absurd hm (Layout.Status.ofContent_ne_missing d c), fun hnone => ?_⟩
    rw [h.file] at hnone
    cases hnone
  · constructor
    · intro hok
      rw [Status.ofContent] at hok
      split at hok
      · next heq => exact ⟨c, d, h, heq⟩
      · cases hok
    · rintro ⟨c₁, d₁, h₁, heq⟩
      obtain ⟨rfl, rfl⟩ := h.unique h₁
      exact if_pos heq
  · constructor
    · intro hdiffers
      rw [Status.ofContent] at hdiffers
      split at hdiffers
      · cases hdiffers
      · next hne => cases hdiffers; exact ⟨c, h, hne, rfl⟩
    · rintro ⟨c₁, h₁, hne, rfl⟩
      obtain ⟨rfl, rfl⟩ := h.unique h₁
      exact if_neg hne

/-! ## Runs -/

/-- Looking for the file that a sidecar belongs to. -/
def Status.entry (dir name : String) : Work (String × Status) := do
  let path := withoutExtension (join dir name)
  return (path, ← Status.ofFile path)

theorem checkRelease_eq (dir : String) : checkRelease dir = (do
    let names ← sidecarNames dir
    let entries ← names.mapM (Status.entry dir)
    return ⟨entries⟩) :=
  rfl

theorem ofFile_of_missing {path : String} (h : w.files.content? path = none) :
    Status.ofFile path w = (.ok .missing, w) := by
  have hget : (get : Work WorkState) w = (.ok w, w) := rfl
  have hfile : ¬ w.files.isFile path = true := by
    rw [isFile_eq, h]
    exact Bool.false_ne_true
  rw [Status.ofFile, bind_of_ok hget, if_neg hfile]
  rfl

theorem ofFile_of_error {e : ReleaseError} {path : String}
    (hfile : w.files.content? path = some c)
    (hread : readSidecar (sidecar path) w = (.error e, w)) :
    Status.ofFile path w = (.error e, w) := by
  have hget : (get : Work WorkState) w = (.ok w, w) := rfl
  have hthere : w.files.isFile path = true := by rw [isFile_eq, hfile]; rfl
  have hcheck : checkSidecar path w = (.error e, w) := bind_of_error hread
  rw [Status.ofFile, bind_of_ok hget, if_pos hthere]
  exact bind_of_error hcheck

/-- What is found of a file that is there, by its sidecar. -/
theorem ofFile_of_content {s : Content} (hfs : w.files.LinkFree) (hname : PlainName stem)
    (hc : w.files.content? (join dir stem) = some c)
    (hs : w.files.content? (join dir (sidecar stem)) = some s) :
    (∃ status, Status.ofFile (join dir stem) w = (.ok status, w) ∧
      Reported w.files dir stem (join dir stem, status)) ∨
    ∃ e, Status.ofFile (join dir stem) w = (.error e, w) ∧ Unreadable w.files dir stem e := by
  have hread := readSidecar_of_content hfs (endsInName_join dir hname.sidecar) hs
  rw [← sidecar_join] at hread
  cases htext : ofBytes? s with
  | none =>
    rw [htext] at hread
    refine .inr ⟨_, ofFile_of_error hc hread, ?_⟩
    rw [sidecar_join]
    exact .notText hc hs htext
  | some text =>
    rw [htext] at hread
    have hbytes := bytesOf_of_ofBytes? htext
    rw [← hbytes] at hs
    cases hdigest : Digest.ofSidecar text with
    | error e =>
      simp only [hdigest] at hread
      refine .inr ⟨_, ofFile_of_error hc hread, ?_⟩
      rw [sidecar_join]
      exact .noDigest hc hs hdigest
    | ok d =>
      have hcompared : Compared w.files dir stem c d :=
        ⟨hc, text, hs, Digest.ofSidecar_ok_iff.1 hdigest⟩
      have hcheckable : Checkable w.files (join dir stem) c d := by
        refine ⟨hc, ?_⟩
        rw [sidecar_join, hs, Option.bind_some, recordedDigest?, ofBytes?_bytesOf, Option.map_some,
          hdigest]
      have hrun := ofFile_run hfs hname hcheckable
      rw [hcheckable.status] at hrun
      exact .inl ⟨_, hrun, .of_compared hname hcompared⟩

/-- **What is found of the file that a sidecar belongs to**: its entry, or what makes the sidecar of
no use. Looking for it changes nothing. -/
theorem entry_run {s : Content} (hfs : w.files.LinkFree) (hslash : '/' ∉ stem.toList)
    (hne : stem ≠ "") (hs : w.files.content? (join dir (sidecar stem)) = some s) :
    (∃ entry, Status.entry dir (sidecar stem) w = (.ok entry, w) ∧
      Reported w.files dir stem entry) ∨
    ∃ e, Status.entry dir (sidecar stem) w = (.error e, w) ∧ Unreadable w.files dir stem e := by
  rw [Status.entry]
  by_cases hname : PlainName stem
  case neg =>
    -- the sidecar of `.` or `..` belongs to a directory
    have hnot : Path.isName stem.toList = false :=
      Bool.not_eq_true _ ▸ fun hc => hname ⟨hslash, hc⟩
    have hmissing (name : String) (hslash : '/' ∉ name.toList)
        (hnot : Path.isName name.toList = false) : w.files.content? (join dir name) = none := by
      rw [content?_eq hfs, slot?_join_eq_none hfs hslash hnot]
      rfl
    rw [withoutExtension_sidecar_dots dir hslash hne hname]
    have hrun := ofFile_of_missing (hmissing ".." (by decide) (by decide))
    refine .inl ⟨_, bind_of_ok hrun, ?_⟩
    exact .of_missing (fun hc => absurd hc hname) (fun _ => rfl) (hmissing stem hslash hnot)
  rw [withoutExtension_sidecar dir hname]
  cases hc : w.files.content? (join dir stem) with
  | none =>
    refine .inl ⟨_, bind_of_ok (ofFile_of_missing hc), ?_⟩
    exact .of_missing (fun _ => rfl) (fun hno => absurd hname hno) hc
  | some c =>
    rcases ofFile_of_content hfs hname hc hs with ⟨status, hrun, hreported⟩ | ⟨e, hrun, hunreadable⟩
    · exact .inl ⟨_, bind_of_ok hrun, hreported⟩
    · exact .inr ⟨e, bind_of_error hrun, hunreadable⟩

section Entry

variable {s : Content} (hfs : w.files.LinkFree) (hslash : '/' ∉ stem.toList) (hne : stem ≠ "")
  (hs : w.files.content? (join dir (sidecar stem)) = some s)
include hfs hslash hne hs

theorem entry_unchanged : (Status.entry dir (sidecar stem) w).2 = w := by
  rcases entry_run hfs hslash hne hs with ⟨entry, h, -⟩ | ⟨e, h, -⟩ <;> rw [h]

theorem entry_ok_iff {entry : String × Status} :
    (Status.entry dir (sidecar stem) w).1 = .ok entry ↔ Reported w.files dir stem entry := by
  rcases entry_run hfs hslash hne hs with ⟨entry', h, hreported⟩ | ⟨e, h, hunreadable⟩ <;> rw [h]
  · constructor
    · intro heq
      cases heq
      exact hreported
    · intro hentry
      rw [hentry.unique hreported]
  · exact ⟨nofun, fun hentry => absurd hunreadable hentry.not_unreadable⟩

theorem entry_error_iff {e : ReleaseError} :
    (Status.entry dir (sidecar stem) w).1 = .error e ↔ Unreadable w.files dir stem e := by
  rcases entry_run hfs hslash hne hs with ⟨entry, h, hreported⟩ | ⟨e', h, hunreadable⟩ <;> rw [h]
  · exact ⟨nofun, fun he => absurd he hreported.not_unreadable⟩
  · constructor
    · intro heq
      cases heq
      exact hunreadable
    · intro he
      rw [he.unique hunreadable]

theorem entry_isOk_iff : (Status.entry dir (sidecar stem) w).1.isOk = true ↔
    ∀ e, ¬ Unreadable w.files dir stem e := by
  rcases entry_run hfs hslash hne hs with ⟨entry, h, hreported⟩ | ⟨e, h, hunreadable⟩ <;> rw [h]
  · exact ⟨fun _ e => hreported.not_unreadable, fun _ => rfl⟩
  · exact ⟨nofun, fun hnot => absurd hunreadable (hnot e)⟩

end Entry

/-! ## Checks -/

/-- A sidecar of this stem is directly in a directory, and its path is not too long. Those with
longer paths are missed. -/
structure Sidecared (fs : FileSystem) (dir stem : String) : Prop where
  stem_ne : stem ≠ ""
  file : (fs.file? (sidecar stem :: fs.place dir)).isSome = true
  followable : Followable dir (sidecar stem)

/-- The sidecars that are found in a directory, by their stems. -/
theorem sidecarNames_stems {loc : Location} (hnamed : w.files.WellNamed)
    (hlist : entryNames dir w.files = (.ok (w.files.names loc), w.files)) :
    ∃ stems : List String, sidecarNames dir w = (.ok (stems.map sidecar), w) ∧
      (stems.map sidecar).Pairwise (bytesOf · < bytesOf ·) ∧
      ∀ stem, stem ∈ stems ↔ (∃ node, w.files.node? (sidecar stem :: loc) = some node) ∧
        stem ≠ "" ∧ (w.files.content? (join dir (sidecar stem))).isSome = true := by
  obtain ⟨names, hrun, hsorted, hmem⟩ := sidecarNames_run hnamed hlist
  obtain ⟨stems, rfl⟩ : names ∈ Set.range (List.map sidecar) := by
    rw [Set.range_list_map]
    intro n hn
    obtain ⟨-, ⟨stem, -, rfl⟩, -⟩ := (hmem n).1 hn
    exact ⟨stem, rfl⟩
  refine ⟨stems, hrun, hsorted, fun stem => ?_⟩
  rw [← List.mem_map_of_injective (f := sidecar) fun _ _ => sidecar_injective, hmem]
  refine and_congr_right fun _ => and_congr_left fun _ => ⟨?_, fun hne => ⟨stem, hne, rfl⟩⟩
  rintro ⟨stem', hne, heq⟩
  rwa [sidecar_injective heq]

theorem noSlash_of_node {loc : Location} {node : Node} (hnamed : fs.WellNamed)
    (h : fs.node? (sidecar stem :: loc) = some node) : '/' ∉ stem.toList :=
  noSlash_of_sidecar (hnamed _ _ node h)

/-- **Which sidecars are found** in a directory that can be listed, and in which order. -/
theorem sidecars_run (hfs : w.files.LinkFree) (hnamed : w.files.WellNamed)
    (hlist : (entryNames dir w.files).1.isOk = true) :
    ∃ stems : List String, sidecarNames dir w = (.ok (stems.map sidecar), w) ∧
      (stems.map sidecar).Pairwise (bytesOf · < bytesOf ·) ∧
      (∀ stem, stem ∈ stems ↔ Sidecared w.files dir stem) ∧
      ∀ stem ∈ stems, '/' ∉ stem.toList ∧
        ∃ s, w.files.content? (join dir (sidecar stem)) = some s := by
  obtain ⟨hwalk, hnames⟩ := entryNames_ok hfs hlist
  obtain ⟨stems, hrun, hsorted, hmem⟩ := sidecarNames_stems hnamed hnames
  refine ⟨stems, hrun, hsorted, fun stem => ?_, fun stem hstem => ?_⟩
  · rw [hmem]
    constructor
    · rintro ⟨⟨node, hnode⟩, hne, hfile⟩
      obtain ⟨s, hs⟩ := Option.isSome_iff_exists.1 hfile
      obtain ⟨hfollow, hs⟩ := (content?_of_walk hfs (hnamed _ _ node hnode) hwalk).1 hs
      exact ⟨hne, by rw [hs]; rfl, hfollow⟩
    · rintro ⟨hne, hfile, hfollow⟩
      obtain ⟨s, hs⟩ := Option.isSome_iff_exists.1 hfile
      have hnode := file?_eq_some_iff.1 hs
      have hread := (content?_of_walk hfs (hnamed _ _ _ hnode) hwalk).2 ⟨hfollow, hs⟩
      exact ⟨⟨_, hnode⟩, hne, by rw [hread]; rfl⟩
  · obtain ⟨⟨node, hnode⟩, -, hfile⟩ := (hmem stem).1 hstem
    exact ⟨noSlash_of_node hnamed hnode, Option.isSome_iff_exists.1 hfile⟩

theorem map_mk_ok_iff {x : Except ReleaseError (List (String × Status))} {r : Report} :
    x.map Report.mk = .ok r ↔ x = .ok r.entries := by
  rw [map_ok_iff]
  exact ⟨fun ⟨_, hx, hr⟩ => hr ▸ hx, fun hx => ⟨_, hx, rfl⟩⟩

theorem map_mk_error_iff {x : Except ReleaseError (List (String × Status))} {e : ReleaseError} :
    x.map Report.mk = .error e ↔ x = .error e :=
  map_error_iff

/-- A check gives the results of its entries, and changes nothing. -/
theorem checkRelease_results {stems : List String}
    (hrun : sidecarNames dir w = (.ok (stems.map sidecar), w))
    (h : ∀ stem ∈ stems, (Status.entry dir (sidecar stem) w).2 = w) :
    checkRelease dir w =
      ((stems.mapM fun stem => (Status.entry dir (sidecar stem) w).1).map Report.mk, w) := by
  have hmap : ((stems.map sidecar).mapM (Status.entry dir)) w =
      (stems.mapM fun stem => (Status.entry dir (sidecar stem) w).1, w) := by
    rw [mapM_of_unchanged (List.forall_mem_map.2 h), List.mapM_map]
    rfl
  rw [checkRelease_eq, bind_of_ok hrun, map_run, hmap]

/-- **A check of a directory is exact** for the sidecars that it sees, which are those whose paths are
not too long; the others should be an error, and are missed. It fails on the first sidecar in the
order of the names that is of no use for a file that is there, and otherwise reports the files of
all these sidecars in this order; it changes nothing. -/
theorem checkRelease_exact (hfs : w.files.LinkFree) (hnamed : w.files.WellNamed)
    (hlist : (entryNames dir w.files).1.isOk = true) :
    ∃ stems : List String, (stems.map sidecar).Pairwise (bytesOf · < bytesOf ·) ∧
      (∀ stem, stem ∈ stems ↔ Sidecared w.files dir stem) ∧
      (checkRelease dir w).2 = w ∧
      (∀ r, (checkRelease dir w).1 = .ok r ↔
        List.Forall₂ (Reported w.files dir) stems r.entries) ∧
      ∀ e, (checkRelease dir w).1 = .error e ↔ ∃ done stem rest, stems = done ++ stem :: rest ∧
        (∀ s ∈ done, ∀ e, ¬ Unreadable w.files dir s e) ∧ Unreadable w.files dir stem e := by
  obtain ⟨stems, hrun, hsorted, hmem, hthere⟩ := sidecars_run hfs hnamed hlist
  have hthere : ∀ stem ∈ stems, '/' ∉ stem.toList ∧ stem ≠ "" ∧
      ∃ s, w.files.content? (join dir (sidecar stem)) = some s := fun stem hstem =>
    ⟨(hthere stem hstem).1, ((hmem stem).1 hstem).stem_ne, (hthere stem hstem).2⟩
  have hcheck := checkRelease_results hrun fun stem hstem => by
    obtain ⟨hslash, hne, s, hs⟩ := hthere stem hstem
    exact entry_unchanged hfs hslash hne hs
  refine ⟨stems, hsorted, hmem, by rw [hcheck], fun r => ?_, fun e => ?_⟩ <;> rw [hcheck]
  · rw [map_mk_ok_iff]
    refine mapM_ok_iff fun stem hstem entry => ?_
    obtain ⟨hslash, hne, s, hs⟩ := hthere stem hstem
    exact entry_ok_iff hfs hslash hne hs
  · rw [map_mk_error_iff, mapM_error_iff]
    refine exists_congr fun done => exists_congr fun stem => exists_congr fun rest =>
      and_congr_right fun heq => ?_
    subst heq
    refine and_congr (forall₂_congr fun s hmem => ?_) ?_
    · obtain ⟨hslash, hne, x, hx⟩ := hthere s (List.mem_append_left _ hmem)
      exact entry_isOk_iff hfs hslash hne hx
    · obtain ⟨hslash, hne, x, hx⟩ :=
        hthere stem (List.mem_append_right _ List.mem_cons_self)
      exact entry_error_iff hfs hslash hne hx

/-- The digest of the text `x`. -/
def digestOfX : Digest where
  text := "2d711642b726b04401627ca9fbac32f5c8530fb1903cc4db02258717921a4881"
  size_eq := by decide +kernel
  isHex := by decide +kernel

/-- The digest of the empty text. -/
def digestOfNothing : Digest where
  text := "e3b0c44298fc1c149afbf4c8996fb92427ae41e4649b934ca495991b7852b855"
  size_eq := by decide +kernel
  isHex := by decide +kernel

/-- A file that is as its sidecar says, another that is not, and a sidecar whose file is missing. -/
def mixedState : WorkState where
  files := (((((empty.set ["d"] .directory).set ["a", "d"] (.file (bytesOf "x"))).set
    ["a.sha256", "d"] (.file (bytesOf digestOfX.text))).set ["b", "d"] (.file [])).set
    ["b.sha256", "d"] (.file (bytesOf digestOfX.text))).set ["c.sha256", "d"] (.file [])

/-- A file whose sidecar is empty, and before it an empty sidecar without a file. -/
def brokenState : WorkState where
  files := (((empty.set ["d"] .directory).set ["b.sha256", "d"] (.file [])).set ["c", "d"]
    (.file [])).set ["c.sha256", "d"] (.file [])

theorem linkFree_samples : mixedState.files.LinkFree ∧ brokenState.files.LinkFree :=
  have hne {name : String} {dir : Location} : name :: dir ≠ [] := List.cons_ne_nil _ _
  ⟨(((((linkFree_empty.set_directory hne).set_file hne _).set_file hne _).set_file hne _).set_file
    hne _).set_file hne _,
    (((linkFree_empty.set_directory hne).set_file hne _).set_file hne _).set_file hne _⟩

theorem plainName_samples {name : String}
    (h : name ∈ ["d", "a", "a.sha256", "b", "b.sha256", "c", "c.sha256"]) : PlainName name :=
  ⟨by revert name; decide, by revert name; decide⟩

theorem wellNamed_mixedState : mixedState.files.WellNamed :=
  (((((wellNamed_empty.set (plainName_samples (by decide)) _).set (plainName_samples (by decide))
    _).set (plainName_samples (by decide)) _).set (plainName_samples (by decide)) _).set
    (plainName_samples (by decide)) _).set (plainName_samples (by decide)) _

theorem wellNamed_brokenState : brokenState.files.WellNamed :=
  (((wellNamed_empty.set (plainName_samples (by decide)) _).set (plainName_samples (by decide))
    _).set (plainName_samples (by decide)) _).set (plainName_samples (by decide)) _

/-- What a check of the files reports. -/
def mixedReport : Report :=
  ⟨[("d/a", .ok), ("d/b", .differs digestOfX digestOfNothing), ("d/c", .missing)]⟩

theorem checkRelease_mixed :
    (checkRelease "d" mixedState).1 = .ok mixedReport ∧
    (checkRelease "d" brokenState).1 = .error (.sidecar "d/c.sha256" .empty) := by
  decide +kernel

theorem checkRelease_exact_mixed :
    mixedState.files.LinkFree ∧ mixedState.files.WellNamed ∧
    (entryNames "d" mixedState.files).1.isOk = true ∧
    (∃ stems : List String, (stems.map sidecar).Pairwise (bytesOf · < bytesOf ·) ∧
      (∀ stem, stem ∈ stems ↔ Sidecared mixedState.files "d" stem) ∧
      List.Forall₂ (Reported mixedState.files "d") stems mixedReport.entries) ∧
    brokenState.files.LinkFree ∧ brokenState.files.WellNamed ∧
    (entryNames "d" brokenState.files).1.isOk = true ∧
    ∃ stem, Sidecared brokenState.files "d" stem ∧
      Unreadable brokenState.files "d" stem (.sidecar "d/c.sha256" .empty) := by
  obtain ⟨hreport, herror⟩ := checkRelease_mixed
  have hlist : (entryNames "d" mixedState.files).1.isOk = true := by decide +kernel
  have hlist' : (entryNames "d" brokenState.files).1.isOk = true := by decide +kernel
  obtain ⟨hfs, hfs'⟩ := linkFree_samples
  obtain ⟨stems, hsorted, hmem, -, hok, -⟩ := checkRelease_exact hfs wellNamed_mixedState hlist
  obtain ⟨stems', -, hmem', -, -, hbroken⟩ := checkRelease_exact hfs' wellNamed_brokenState hlist'
  obtain ⟨done, stem, rest, rfl, -, hunreadable⟩ := (hbroken _).1 herror
  have hstem := (hmem' stem).1 (List.mem_append_right _ List.mem_cons_self)
  exact ⟨hfs, wellNamed_mixedState, hlist, ⟨stems, hsorted, hmem, (hok mixedReport).1 hreport⟩,
    hfs', wellNamed_brokenState, hlist', stem, hstem, hunreadable⟩

/-! ## A path that is too long -/

/-- A path with slashes after it. -/
def withSlashes (p : String) : Nat → String
  | 0 => p
  | n + 1 => withSlashes p n ++ "/"

theorem utf8ByteSize_withSlashes (p : String) (n : Nat) :
    (withSlashes p n).utf8ByteSize = p.utf8ByteSize + n := by
  induction n with
  | zero => rfl
  | succ n ih => rw [withSlashes, String.utf8ByteSize_append, ih]; rfl

theorem contains_withSlashes {ch : Char} (hch : ch ≠ '/') {p : String}
    (h : p.toList.contains ch = false) (n : Nat) :
    (withSlashes p n).toList.contains ch = false := by
  induction n with
  | zero => exact h
  | succ n ih =>
    rw [withSlashes, String.toList_append, List.contains_eq_mem, decide_eq_false_iff_not,
      List.mem_append, not_or]
    rw [List.contains_eq_mem, decide_eq_false_iff_not] at ih
    exact ⟨ih, fun hc => hch (List.mem_singleton.1 hc)⟩

theorem innerParts_withSlashes (p : String) (n : Nat) :
    innerParts (withSlashes p n) = innerParts p := by
  induction n with
  | zero => rfl
  | succ n ih =>
    have hmark : splitAtMarks (· = '/') ((withSlashes p n).toList ++ '/' :: []) =
        splitAtMarks (· = '/') (withSlashes p n).toList ++ splitAtMarks (· = '/') [] :=
      splitAtMarks_append rfl _ _
    rw [← ih, innerParts, innerParts, withSlashes, String.toList_append]
    refine (congrArg (List.filterMap partOf?) hmark).trans ?_
    rw [List.filterMap_append]
    exact List.append_nil _

/-- A file with its sidecar. -/
def coveredState : WorkState where
  files := ((empty.set ["d"] .directory).set ["a", "d"] (.file (bytesOf "x"))).set
    ["a.sha256", "d"] (.file (bytesOf digestOfX.text))

/-- The directory of the file, with as many slashes as make its path nearly too long. -/
def longDirectory : String := withSlashes "d" 4090

theorem linkFree_coveredState : coveredState.files.LinkFree :=
  have hne {name : String} {dir : Location} : name :: dir ≠ [] := List.cons_ne_nil _ _
  ((linkFree_empty.set_directory hne).set_file hne _).set_file hne _

theorem wellNamed_coveredState : coveredState.files.WellNamed :=
  ((wellNamed_empty.set (plainName_samples (by decide)) _).set (plainName_samples (by decide))
    _).set (plainName_samples (by decide)) _

theorem getLast?_longDirectory : longDirectory.toList.getLast? = some '/' := by
  show (withSlashes "d" 4089 ++ "/").toList.getLast? = some '/'
  rw [String.toList_append]
  exact List.getLast?_concat

theorem usable_longDirectory : Usable longDirectory := by
  have hsize : longDirectory.utf8ByteSize = 1 + 4090 := utf8ByteSize_withSlashes "d" 4090
  refine ⟨?_, contains_withSlashes (by decide) (by decide) 4090, ?_⟩
  · rw [← Bool.not_eq_true, String.isEmpty_iff]
    intro hempty
    rw [hempty] at hsize
    exact absurd hsize (by decide)
  · rw [hsize]
    decide

theorem walk_longDirectory :
    coveredState.files.walk .open longDirectory = .ok (.node ["d"] .directory) := by
  have hparts : partsOf longDirectory = [.name "d", .slash] := by
    have hinner : innerParts longDirectory = [.name "d"] := by
      rw [longDirectory, innerParts_withSlashes]
      decide
    rw [partsOf, if_pos getLast?_longDirectory]
    exact congrArg (· ++ [Part.slash]) hinner
  have hstart : coveredState.files.start longDirectory = [] := ite_self _
  have hnode : coveredState.files.node? ["d"] = some .directory := by decide +kernel
  rw [walk_of_usable usable_longDirectory, hparts, hstart, followParts, if_neg (by decide),
    if_neg (by decide), hnode]
  rfl

/-- The path of any sidecar in that directory is too long. -/
theorem not_followable_longDirectory (h : '/' ∉ stem.toList) :
    ¬ Followable longDirectory (sidecar stem) := by
  intro hfollow
  have hsize : longDirectory.utf8ByteSize = 1 + 4090 := utf8ByteSize_withSlashes "d" 4090
  have hlimit := hfollow.path.2.2
  have hlast : (longDirectory.isEmpty || longDirectory.toList.getLast? = some '/') = true := by
    rw [getLast?_longDirectory]
    exact Bool.or_true _
  rw [join, isAbsolute_eq_false (plainName_sidecar h).noSlash, if_neg Bool.false_ne_true,
    if_pos hlast, sidecar, String.utf8ByteSize_append, String.utf8ByteSize_append,
    String.utf8ByteSize_append, hsize] at hlimit
  have hpoint : ".".utf8ByteSize = 1 := by decide
  have hextension : sidecarExtension.utf8ByteSize = 6 := by decide
  rw [hpoint, hextension, pathLimit] at hlimit
  omega

/-- **A sidecar is missed if its path is too long**: its directory can be listed and it is in it, but
what the system refuses is taken for no file, so that the check reports nothing and no error. -/
theorem long_directory_hides_sidecar :
    coveredState.files.LinkFree ∧ coveredState.files.WellNamed ∧
    (entryNames longDirectory coveredState.files).1.isOk = true ∧
    coveredState.files.place longDirectory = ["d"] ∧
    coveredState.files.file? ["a", "d"] = some (bytesOf "x") ∧
    coveredState.files.file? ["a.sha256", "d"] = some (bytesOf digestOfX.text) ∧
    (checkRelease longDirectory coveredState).1 = .ok ⟨[]⟩ := by
  have hlist : (entryNames longDirectory coveredState.files).1.isOk = true := by
    rw [entryNames, bind_of_ok get_apply, walk_longDirectory]
    rfl
  obtain ⟨stems, hrun, -, hmem, hthere⟩ :=
    sidecars_run linkFree_coveredState wellNamed_coveredState hlist
  have hnone : stems = [] := by
    refine List.eq_nil_iff_forall_not_mem.2 fun stem hstem => ?_
    exact not_followable_longDirectory (hthere stem hstem).1 ((hmem stem).1 hstem).followable
  subst hnone
  obtain ⟨hplace, -⟩ := slotFrom_of_walk linkFree_coveredState walk_longDirectory
  refine ⟨linkFree_coveredState, wellNamed_coveredState, hlist, hplace.symm, by decide +kernel,
    by decide +kernel, ?_⟩
  rw [checkRelease_results hrun fun stem hstem => absurd hstem List.not_mem_nil]
  rfl

end Packaging
