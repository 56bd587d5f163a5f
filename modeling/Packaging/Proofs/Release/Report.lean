import Packaging.Proofs.Digest
import Packaging.Proofs.FileSystem.Extensions
import Packaging.Proofs.Release.Confinement
import Packaging.Release.Report
import Mathlib.Data.List.Dedup

/-!
# Checking an assembled release

* `ofFile_run`: what is found of a file that has a sidecar.
* `sidecarNames_run`, `checkRelease_run`: which sidecars are found in a directory, and what a check
  of the directory reports if each has its file.
* `checkRelease_assembled`: what a check of an assembled release reports.
-/

namespace Packaging

open Packaging.Action FileSystem Packaging.Path Text

variable {w w' : WorkState} {fs : FileSystem} {dir name : String} {c : Content} {d : Digest}

/-! ## What is found of a file -/

/-- What a digest on record says of a content. -/
def Status.ofContent (d : Digest) (c : Content) : Status :=
  if d.text.toList.map Char.toLower = Hex.encode (Sha256.hash c) then .ok
  else .differs d (.ofContent c)

/-- What is found of a file with a readable sidecar. -/
def Status.at (fs : FileSystem) (p : String) : Status :=
  match fs.content? p, (fs.content? (sidecar p)).bind recordedDigest? with
  | some c, some d => .ofContent d c
  | _, _ => .missing

/-- A file has a sidecar that records a digest. -/
structure Checkable (fs : FileSystem) (p : String) (c : Content) (d : Digest) : Prop where
  content : fs.content? p = some c
  recorded : (fs.content? (sidecar p)).bind recordedDigest? = some d

theorem Checkable.status (h : Checkable fs name c d) : Status.at fs name = .ofContent d c := by
  rw [Status.at, h.content, h.recorded]

/-- **What is found of a file that has a sidecar**; looking for it changes nothing. -/
theorem ofFile_run (hfs : w.files.LinkFree) (hname : PlainName name)
    (h : Checkable w.files (join dir name) c d) :
    Status.ofFile (join dir name) w = (.ok (.at w.files (join dir name)), w) := by
  have hfile : w.files.isFile (join dir name) = true := by rw [isFile_eq, h.content]; rfl
  have hrecorded := h.recorded
  rw [sidecar_join] at hrecorded
  have hread : readSidecar (sidecar (join dir name)) w = (.ok d, w) := by
    rw [sidecar_join]
    rcases readSidecar_run hfs (endsInName_join dir hname.sidecar) with
      ⟨c', d', hc, hd, hread⟩ | ⟨hnone, -⟩
    · rw [hc, Option.bind_some, hd, Option.some.injEq] at hrecorded
      rw [hread, hrecorded]
    · rw [hnone] at hrecorded
      cases hrecorded
  have hhash : hashFile (join dir name) w = (.ok (.ofContent c), w) := by
    rcases hashFile_run hfs (endsInName_join dir hname) with ⟨c', hc, hhash⟩ | ⟨hnone, -⟩
    · rw [h.content, Option.some.injEq] at hc
      rw [hhash, hc]
    · rw [h.content] at hnone
      cases hnone
  have hcheck : checkSidecar (join dir name) w =
      (.ok (if d.agrees (.ofContent c) then .agrees else .differs d (.ofContent c)), w) := by
    rw [checkSidecar, bind_of_ok hread, bind_of_ok hhash]
    rfl
  have hget : (get : Work WorkState) w = (.ok w, w) := rfl
  rw [h.status, Status.ofFile, bind_of_ok hget, if_pos hfile, bind_of_ok hcheck, Status.ofContent]
  simp only [← Digest.agrees_ofContent_iff]
  split <;> rfl

/-! ## Checking a directory -/

/-- **The sidecars that are found in a directory** are the files in it that are named after some
file, each found once, in the order of their names. -/
theorem sidecarNames_run {loc : Location} (hnamed : w.files.WellNamed)
    (hlist : entryNames dir w.files = (.ok (w.files.names loc), w.files)) :
    ∃ names, sidecarNames dir w = (.ok names, w) ∧ names.Pairwise (bytesOf · < bytesOf ·) ∧
      ∀ n, n ∈ names ↔ (∃ node, w.files.node? (n :: loc) = some node) ∧
        (∃ stem, stem ≠ "" ∧ n = sidecar stem) ∧ (w.files.content? (join dir n)).isSome = true := by
  refine ⟨_, bind_of_ok (Work.during_of_ok hlist), ?_, fun n => ?_⟩
  · exact sortByBytes_strict ((nodup_names _ _).filter _)
  · rw [(sortByBytes_perm _).mem_iff, List.mem_filter, Bool.and_eq_true, decide_eq_true_iff,
      isFile_eq, mem_names]
    refine and_congr_right fun ⟨node, hnode⟩ => ?_
    rw [extension?_join_eq_some_iff (hnamed n _ node hnode), and_comm]

/-- The sidecars that are found in a directory with a file. -/
theorem sidecarNames_of_content (hfs : w.files.LinkFree) (hnamed : w.files.WellNamed)
    (hdir : dir ≠ "") (hname : PlainName name) (hc : w.files.content? (join dir name) = some c) :
    ∃ names, sidecarNames dir w = (.ok names, w) ∧ names.Nodup ∧
      ∀ n, n ∈ names ↔ PlainName n ∧ (∃ stem, stem ≠ "" ∧ n = sidecar stem) ∧
        (w.files.content? (join dir n)).isSome = true := by
  obtain ⟨loc, hloc, -⟩ := Option.bind_eq_some_iff.1 ((content?_eq hfs _).symm.trans hc)
  obtain ⟨names, hrun, hsorted, hmem⟩ :=
    sidecarNames_run hnamed (entryNames_run hfs hdir hname hloc)
  refine ⟨names, hrun, hsorted.imp fun hlt heq => ?_, fun n => ?_⟩
  · rw [heq] at hlt
    exact absurd hlt (List.lt_irrefl _)
  rw [hmem]
  constructor
  · rintro ⟨⟨node, hnode⟩, hfound⟩
    exact ⟨hnamed n _ node hnode, hfound⟩
  · rintro ⟨hn, hstem, hfile⟩
    obtain ⟨x, hx⟩ := Option.isSome_iff_exists.1 hfile
    have hplace := file?_place hfs hx
    rw [place_join hn] at hplace
    exact ⟨⟨_, file?_eq_some_iff.1 hplace⟩, hstem, hfile⟩

/-- **A check of a directory reports every sidecar that is found**, if each is the sidecar of a
file that it records a digest of; it changes nothing. -/
theorem checkRelease_run {names : List String} (hfs : w.files.LinkFree)
    (hnames : sidecarNames dir w = (.ok names, w))
    (hall : ∀ n ∈ names, ∃ name c d, n = sidecar name ∧ PlainName name ∧
      Checkable w.files (join dir name) c d) :
    checkRelease dir w = (.ok ⟨names.map fun n =>
      (withoutExtension (join dir n), .at w.files (withoutExtension (join dir n)))⟩, w) := by
  have hentry : ∀ n ∈ names, (do
      let path := withoutExtension (join dir n)
      return (path, ← Status.ofFile path) : Work (String × Status)) w =
        (.ok (withoutExtension (join dir n), .at w.files (withoutExtension (join dir n))), w) := by
    intro n hn
    obtain ⟨name, c, d, rfl, hname, hcheck⟩ := hall n hn
    have hfile := ofFile_run hfs hname hcheck
    rw [← withoutExtension_sidecar dir hname] at hfile
    exact bind_of_ok hfile
  rw [checkRelease, bind_of_ok hnames, bind_of_ok (mapM_of_forall hentry)]
  rfl

theorem map_withoutExtension {names : List String} (dir : String)
    (hplain : ∀ name ∈ names, PlainName name) :
    (names.map sidecar).map (fun n => withoutExtension (join dir n)) = names.map (join dir) := by
  rw [List.map_map]
  refine List.map_congr_left fun name hname => ?_
  rw [Function.comp_apply, withoutExtension_sidecar dir (hplain name hname)]

/-! ## Checking a release -/

namespace Layout

variable {layout : Layout} {builds : List Build} {before after : FileSystem}

/-- The names of the packages of builds, each once, and of their manifest. -/
def fileNames (builds : List Build) : List String :=
  (builds.map (·.tarball)).dedup ++ [manifestName]

/-- What a check reports of a release of builds: each package and the manifest once and nothing
else. Only a published package may differ from its sidecar, and does so as it did before. -/
structure Verified (layout : Layout) (builds : List Build) (before : FileSystem) (r : Report) :
    Prop where
  paths : (r.entries.map (·.1)).Perm ((fileNames builds).map (join layout.releaseDir))
  nothingMissing : ∀ e ∈ r.entries, e.2 ≠ .missing
  manifest : (join layout.releaseDir manifestName, Status.ok) ∈ r.entries
  built : ∀ b ∈ builds, b.prebuilt = false → (layout.packagePath b, Status.ok) ∈ r.entries
  prebuilt : ∀ b ∈ builds, b.prebuilt = true → ∃ c text d,
    before.file? (before.place (join layout.prebuiltDir b.tarball)) = some c ∧
    before.file? (before.place (join layout.prebuiltDir b.sidecarName)) = some (bytesOf text) ∧
    d.text = String.ofList (firstToken text.toList) ∧
    (layout.packagePath b,
      if d.text.toList.map Char.toLower = Hex.encode (Sha256.hash c) then Status.ok
      else .differs d (.ofContent c)) ∈ r.entries

theorem mem_fileNames : name ∈ fileNames builds ↔
    (∃ b ∈ builds, b.tarball = name) ∨ name = manifestName := by
  rw [fileNames, List.mem_append, List.mem_dedup, List.mem_map, List.mem_singleton]

theorem plainName_of_mem_fileNames (happart : Apart builds) (h : name ∈ fileNames builds) :
    PlainName name := by
  rcases mem_fileNames.1 h with ⟨b, hb, rfl⟩ | rfl
  · exact happart.plain b hb
  · exact plainName_manifest

theorem nodup_fileNames (happart : Apart builds) : (fileNames builds).Nodup := by
  refine List.nodup_append.2 ⟨List.nodup_dedup _, List.nodup_singleton _, ?_⟩
  intro name hname n hn heq
  obtain ⟨b, hb, rfl⟩ := List.mem_map.1 (List.mem_dedup.1 hname)
  exact happart.manifest b hb (heq.trans (List.mem_singleton.1 hn))

/-! ### Files with sidecars -/

theorem checkable_join (h : after.content? (join dir name) = some c)
    (h' : (after.content? (join dir (sidecar name))).bind recordedDigest? = some d) :
    Checkable after (join dir name) c d :=
  ⟨h, by rw [sidecar_join, h']⟩

/-- A file next to the sidecar that was written for it. -/
theorem checkable_of_written (h : after.content? (join dir name) = some c)
    (h' : after.content? (join dir (sidecar name)) = some (sidecarContent c name)) :
    Checkable after (join dir name) c (.ofContent c) :=
  checkable_join h (by rw [h', Option.bind_some, recordedDigest?_sidecarContent])

theorem Released.checkable_built {b : Build} (hr : layout.Released builds before after)
    (hb : b ∈ builds) (hnew : b.prebuilt = false) :
    ∃ c, Checkable after (layout.packagePath b) c (.ofContent c) := by
  obtain ⟨c, -, -, hc, hside⟩ := hr.built b hb hnew
  exact ⟨c, checkable_of_written hc hside⟩

theorem Released.checkable_prebuilt {b : Build} (hr : layout.Released builds before after)
    (hb : b ∈ builds) (hpre : b.prebuilt = true) :
    ∃ c text d, Checkable after (layout.packagePath b) c d ∧
      before.file? (before.place (join layout.prebuiltDir b.tarball)) = some c ∧
      before.file? (before.place (join layout.prebuiltDir b.sidecarName)) = some (bytesOf text) ∧
      d.text = String.ofList (firstToken text.toList) := by
  obtain ⟨text, d, htext, hd⟩ := hr.sidecars b hb
  obtain ⟨c, hbefore, -, hc⟩ := hr.prebuilt b hb hpre _ List.mem_cons_self
  obtain ⟨c', hbefore', -, hc'⟩ :=
    hr.prebuilt b hb hpre _ (List.mem_cons_of_mem _ List.mem_cons_self)
  rw [htext, Option.some.injEq] at hc'
  have hside : after.content? (join layout.releaseDir (sidecar b.tarball)) = some (bytesOf text) :=
    htext
  have hrecorded : recordedDigest? (bytesOf text) = some d := by
    rw [recordedDigest?, ofBytes?_bytesOf, Option.map_some, hd]
  exact ⟨c, text, d, checkable_join hc (by rw [hside, Option.bind_some, hrecorded]), hbefore,
    hc' ▸ hbefore', Digest.ofSidecar_ok_iff.1 hd⟩

theorem Released.checkable_manifest (hr : layout.Released builds before after) :
    ∃ c, Checkable after (join layout.releaseDir manifestName) c (.ofContent c) := by
  obtain ⟨c, hc, hside⟩ := hr.manifestSidecar
  exact ⟨c, checkable_of_written hc hside⟩

theorem Released.checkable (hr : layout.Released builds before after)
    (hname : name ∈ fileNames builds) :
    ∃ c d, Checkable after (join layout.releaseDir name) c d := by
  rcases mem_fileNames.1 hname with ⟨b, hb, rfl⟩ | rfl
  · cases hpre : b.prebuilt with
    | false =>
      obtain ⟨c, h⟩ := hr.checkable_built hb hpre
      exact ⟨c, _, h⟩
    | true =>
      obtain ⟨c, -, d, h, -⟩ := hr.checkable_prebuilt hb hpre
      exact ⟨c, d, h⟩
  · obtain ⟨c, h⟩ := hr.checkable_manifest
    exact ⟨c, _, h⟩

theorem Status.ofContent_self (c : Content) : Status.ofContent (.ofContent c) c = .ok := by
  have hlower : (Digest.ofContent c).text.toList.map Char.toLower = Hex.encode (Sha256.hash c) := by
    rw [Digest.ofContent, Digest.ofBytes, String.toList_ofList, Hex.map_toLower_encode]
  rw [Status.ofContent, if_pos hlower]

theorem Status.ofContent_ne_missing (d : Digest) (c : Content) :
    Status.ofContent d c ≠ .missing := by
  rw [Status.ofContent]
  split <;> exact nofun

/-! ### The sidecars of a release -/

/-- The names in a release that end like those of sidecars are the names of the sidecars of its
files, if there were none before. -/
theorem sidecar_of_assembled {summary : Summary} {stem : String}
    (hnames : ∀ b ∈ builds, ∀ p, b.tarball ≠ sidecar p) (hfs : w.files.LinkFree)
    (hnamed : w.files.WellNamed) (hplain : ∀ b ∈ builds, PlainName b.tarball)
    (hnone : w.files.file? (sidecar stem :: w.files.place layout.releaseDir) = none)
    (h : layout.assemble builds w = (.ok summary, w')) (hstem : PlainName (sidecar stem))
    (hfile : (w'.files.content? (join layout.releaseDir (sidecar stem))).isSome = true) :
    stem ∈ fileNames builds := by
  obtain ⟨fs₁, hgrown, hfs₁, hconfined⟩ := assemble_confined hfs hnamed hplain h
  rw [mem_fileNames]
  by_cases hmem : sidecar stem ∈
      builds.flatMap namesOf ++ [manifestName, Path.sidecar manifestName]
  · rcases List.mem_append.1 hmem with hmem | hmem
    · obtain ⟨b, hb, hmem⟩ := List.mem_flatMap.1 hmem
      rcases List.mem_cons.1 hmem with heq | hmem
      · exact absurd heq.symm (hnames b hb stem)
      · exact .inl ⟨b, hb, (sidecar_injective (List.mem_singleton.1 hmem)).symm⟩
    · rcases List.mem_cons.1 hmem with heq | hmem
      · have hlast := getLast?_sidecar stem
        rw [heq] at hlast
        exact absurd hlast (by decide)
      · exact .inr (sidecar_injective (List.mem_singleton.1 hmem))
  · rw [hconfined.other _ hstem hmem] at hfile
    obtain ⟨c, hc⟩ := Option.isSome_iff_exists.1 hfile
    have hplace := file?_place hfs₁ hc
    rw [place_join hstem, hgrown.file?, place_congr hgrown.current, hnone] at hplace
    cases hplace

/-- The sidecars that are found in an assembled release are those of its files. -/
theorem sidecarNames_assembled {summary : Summary} (happart : Apart builds)
    (hnames : ∀ b ∈ builds, ∀ p, b.tarball ≠ sidecar p) (hfs : w.files.LinkFree)
    (hnamed : w.files.WellNamed) (hsep : layout.Separate w.files) (hdir : layout.releaseDir ≠ "")
    (hnone : ∀ stem, stem ≠ "" →
      w.files.file? (sidecar stem :: w.files.place layout.releaseDir) = none)
    (h : layout.assemble builds w = (.ok summary, w')) :
    ∃ names, sidecarNames layout.releaseDir w' = (.ok names, w') ∧
      names.Perm ((fileNames builds).map sidecar) := by
  have hreleased := assemble_released happart hfs hsep h
  obtain ⟨fs₁, -, -, hconfined⟩ := assemble_confined hfs hnamed happart.plain h
  obtain ⟨c, hmanifest⟩ := hreleased.checkable_manifest
  obtain ⟨names, hrun, hnodup, hmem⟩ := sidecarNames_of_content hconfined.linkFree
    hconfined.wellNamed hdir plainName_manifest hmanifest.content
  have hnodup' := (nodup_fileNames happart).map fun _ _ => sidecar_injective
  refine ⟨names, hrun, (List.perm_ext_iff_of_nodup hnodup hnodup').2 fun n => ?_⟩
  rw [hmem, List.mem_map]
  constructor
  · rintro ⟨hplain, ⟨stem, hstem, rfl⟩, hfile⟩
    exact ⟨stem, sidecar_of_assembled hnames hfs hnamed happart.plain (hnone stem hstem) h hplain
      hfile, rfl⟩
  · rintro ⟨name, hname, rfl⟩
    have hplain := plainName_of_mem_fileNames happart hname
    obtain ⟨x, d, hcheck⟩ := hreleased.checkable hname
    refine ⟨hplain.sidecar, ⟨name, hplain.ne_empty, rfl⟩, ?_⟩
    have hrecorded := hcheck.recorded
    rw [sidecar_join] at hrecorded
    obtain ⟨y, hy, -⟩ := Option.bind_eq_some_iff.1 hrecorded
    rw [hy]
    rfl

/-- **A check of an assembled release of a generated matrix** succeeds and reports each package and
the manifest once, none missing; all that was made is as its sidecar says, and a published package
is unless its published sidecar records another digest. -/
theorem checkRelease_assembled {p : Plan} {forge : Forge} {j j' : Journal} {summary : Summary}
    (hgen : p.generate forge j = (.ok builds, j'))
    (hslash : ∀ b ∈ builds, '/' ∉ b.tarball.toList) (hfs : w.files.LinkFree)
    (hnamed : w.files.WellNamed) (hsep : layout.Separate w.files) (hdir : layout.releaseDir ≠ "")
    (hnone : ∀ stem, stem ≠ "" →
      w.files.file? (sidecar stem :: w.files.place layout.releaseDir) = none)
    (h : layout.assemble builds w = (.ok summary, w')) :
    ∃ r, checkRelease layout.releaseDir w' = (.ok r, w') ∧
      layout.Verified builds w.files r := by
  have happart := apart_of_generate hgen hslash
  have hreleased := assemble_released happart hfs hsep h
  obtain ⟨fs₁, -, -, hconfined⟩ := assemble_confined hfs hnamed happart.plain h
  obtain ⟨names, hrun, hperm⟩ := sidecarNames_assembled happart (tarball_ne_sidecar hgen) hfs hnamed
    hsep hdir hnone h
  have hplain {name : String} (hname : name ∈ fileNames builds) :=
    plainName_of_mem_fileNames happart hname
  have hall : ∀ n ∈ names, ∃ name c d, n = sidecar name ∧ PlainName name ∧
      Checkable w'.files (join layout.releaseDir name) c d := by
    intro n hn
    obtain ⟨name, hname, rfl⟩ := List.mem_map.1 (hperm.mem_iff.1 hn)
    obtain ⟨c, d, hcheck⟩ := hreleased.checkable hname
    exact ⟨name, c, d, rfl, hplain hname, hcheck⟩
  refine ⟨_, checkRelease_run hconfined.linkFree hrun hall, ?_⟩
  -- each file has its entry, with the status that its sidecar gives it
  have hentry {name : String} {c : Content} {d : Digest} (hname : name ∈ fileNames builds)
      (hcheck : Checkable w'.files (join layout.releaseDir name) c d) :
      (join layout.releaseDir name, Status.ofContent d c) ∈ names.map fun n =>
        (withoutExtension (join layout.releaseDir n),
          Status.at w'.files (withoutExtension (join layout.releaseDir n))) := by
    refine List.mem_map.2 ⟨sidecar name, hperm.mem_iff.2 (List.mem_map_of_mem hname), ?_⟩
    rw [withoutExtension_sidecar _ (hplain hname), hcheck.status]
  constructor
  case paths =>
    have hpaths := hperm.map fun n => withoutExtension (join layout.releaseDir n)
    rw [map_withoutExtension _ fun name hname => hplain hname] at hpaths
    simp only [List.map_map, Function.comp_def]
    exact hpaths
  case nothingMissing =>
    intro e he
    obtain ⟨n, hn, rfl⟩ := List.mem_map.1 he
    obtain ⟨name, c, d, rfl, hname, hcheck⟩ := hall n hn
    rw [withoutExtension_sidecar _ hname, hcheck.status]
    exact Status.ofContent_ne_missing d c
  case manifest =>
    obtain ⟨c, hcheck⟩ := hreleased.checkable_manifest
    have := hentry (mem_fileNames.2 (.inr rfl)) hcheck
    rwa [Status.ofContent_self] at this
  case built =>
    intro b hb hnew
    obtain ⟨c, hcheck⟩ := hreleased.checkable_built hb hnew
    have := hentry (mem_fileNames.2 (.inl ⟨b, hb, rfl⟩)) hcheck
    rwa [Status.ofContent_self] at this
  case prebuilt =>
    intro b hb hpre
    obtain ⟨c, text, d, hcheck, hpackage, hside, htoken⟩ := hreleased.checkable_prebuilt hb hpre
    exact ⟨c, text, d, hpackage, hside, htoken, hentry (mem_fileNames.2 (.inl ⟨b, hb, rfl⟩)) hcheck⟩

/-! ### A small release, checked -/

theorem wellNamed_sampleState : sampleState.files.WellNamed := by
  have hplain : ∀ name ∈ ["p", "a", "tiledb-p-main-c.tar.gz", "tiledb-p-main-c.tar.gz.sha256",
      "tiledb-p-main-c-static.tar.gz"], PlainName name := fun name h =>
    ⟨by revert name; decide, by revert name; decide⟩
  exact ((((wellNamed_empty.set (hplain _ (by decide)) _).set (hplain _ (by decide)) _).set
    (hplain _ (by decide)) _).set (hplain _ (by decide)) _).set (hplain _ (by decide)) _

/-- There is nothing in the release before it is made. -/
theorem file?_sampleState (name : String) : sampleState.files.file? [name, "r"] = none := by
  have hne {n : String} {dir : Location} : n :: dir ≠ [] := List.cons_ne_nil _ _
  simp only [sampleState, file?, node?_set hne]
  simp [node?, empty]

theorem checkRelease_assembled_sample :
    ∃ j' summary w', samplePlan.generate sampleForge {} = (.ok sampleBuilds, j') ∧
      (∀ b ∈ sampleBuilds, '/' ∉ b.tarball.toList) ∧ sampleState.files.LinkFree ∧
      sampleState.files.WellNamed ∧ sampleLayout.Separate sampleState.files ∧
      sampleLayout.releaseDir ≠ "" ∧
      (∀ stem, stem ≠ "" → sampleState.files.file?
        (sidecar stem :: sampleState.files.place sampleLayout.releaseDir) = none) ∧
      sampleLayout.assemble sampleBuilds sampleState = (.ok summary, w') ∧
      ∃ r, checkRelease sampleLayout.releaseDir w' = (.ok r, w') ∧
        sampleLayout.Verified sampleBuilds sampleState.files r := by
  have hgen := eq_ok_of_toOption generate_sample
  have hslash : ∀ b ∈ sampleBuilds, '/' ∉ b.tarball.toList := by decide +kernel
  have hdir : sampleLayout.releaseDir ≠ "" := by decide
  have hnone : ∀ stem, stem ≠ "" → sampleState.files.file?
      (sidecar stem :: sampleState.files.place sampleLayout.releaseDir) = none :=
    fun stem _ => file?_sampleState (sidecar stem)
  have hok : (sampleLayout.assemble sampleBuilds sampleState).1.isOk = true := by decide +kernel
  obtain ⟨summary, h⟩ := exists_of_isOk hok
  obtain ⟨r, hr, hverified⟩ := checkRelease_assembled hgen hslash linkFree_sampleState
    wellNamed_sampleState separate_sample hdir hnone h
  exact ⟨_, summary, _, hgen, hslash, linkFree_sampleState, wellNamed_sampleState, separate_sample,
    hdir, hnone, h, r, hr, hverified⟩

end Layout

end Packaging
