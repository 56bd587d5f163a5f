import Packaging.Proofs.FileSystem.Writes
import Packaging.Proofs.Release.Assembly

/-!
# What a release writes

When the release is another directory than the packages come from, what staging a build needs and
what it writes is fixed once the release directory is made: no step makes another one possible or
impossible. So a run either fails for want of something that can be named beforehand, or ends with
the writes of its builds and of the manifest done in turn.

* `stage_fill`, `mapM_stage_fill`: staging one build, and staging builds one after another.
* `manifest_run`, `writeManifest_fill`: making the manifest, and writing it.
* `assemble_run`: a release succeeds exactly when it is ready, and then does its writes.
-/

namespace Packaging

open Packaging.Action FileSystem Packaging.Path Text

namespace Layout

variable {layout : Layout} {fs fs₁ : FileSystem} {w w' : WorkState} {builds : List Build}
  {b : Build}
  {writes : List Write}

/-! ## Staging -/

/-- What staging a build needs. -/
structure Stageable (layout : Layout) (fs : FileSystem) (b : Build) : Prop where
  package : (layout.expectedPackage fs b).isSome
  sidecar : (layout.expectedSidecar fs b).isSome
  packageSlot : (fs.slot? (join layout.releaseDir b.tarball)).isSome
  sidecarSlot : (fs.slot? (join layout.releaseDir b.sidecarName)).isSome

/-- What staging a build writes into the release. -/
def writesOf (layout : Layout) (fs : FileSystem) (b : Build) : List Write :=
  [(b.tarball, (layout.expectedPackage fs b).getD []),
    (b.sidecarName, (layout.expectedSidecar fs b).getD [])]

theorem Stageable.fillable (h : layout.Stageable fs b) (hname : PlainName b.tarball) :
    fs.Fillable layout.releaseDir (layout.writesOf fs b) := by
  refine ⟨fun w hw => ?_, fun w hw => ?_⟩ <;>
    simp only [writesOf, List.mem_cons, List.not_mem_nil, or_false] at hw <;>
    rcases hw with rfl | rfl
  · exact hname
  · exact hname.sidecar
  · exact h.packageSlot
  · exact h.sidecarSlot

/-- Writes into the release leave the directories of the packages alone. -/
theorem progress_fill (hfs : fs.LinkFree) (h : fs.Fillable layout.releaseDir writes) :
    layout.Progress fs (fs.fill (fs.place layout.releaseDir) writes) [] :=
  ⟨hfs.fill _ _, h.sameDirs hfs, fun _ _ hname hdir => h.content?_outside hfs hname hdir, nofun,
    nofun⟩

theorem Progress.expected_eq {package sidecar : Content} {loc loc' : Location}
    {done : List Build} (hp : layout.Progress fs₁ fs done) (hsep : layout.Separate fs₁)
    (hname : PlainName b.tarball) (hs : layout.Stages fs b package sidecar loc loc') :
    layout.expectedPackage fs₁ b =
        some (layout.copied fs ((Source.ofBuild b).directory layout) package) ∧
      layout.expectedSidecar fs₁ b = some (layout.stagedSidecar fs b
        (layout.copied fs ((Source.ofBuild b).directory layout) package) sidecar) := by
  obtain ⟨⟨c, hc, hstaged⟩, c', hc', hstaged'⟩ := hp.expected hsep hname hs
  rw [hs.content?_package hp.linkFree hname] at hstaged
  rw [hs.content?_sidecar hp.linkFree] at hstaged'
  exact ⟨hc.trans hstaged.symm, hc'.trans hstaged'.symm⟩

/-- What can be staged from the start can still be staged. -/
theorem Progress.stages {done : List Build} (hp : layout.Progress fs₁ fs done) (hfs : fs₁.LinkFree)
    (hsep : layout.Separate fs₁) (hname : PlainName b.tarball) (hs : layout.Stageable fs₁ b) :
    ∃ package sidecar loc loc', layout.Stages fs b package sidecar loc loc' := by
  have hslot : ∀ p, fs.slot? p = fs₁.slot? p := slot?_congr hfs hp.linkFree hp.sameDirs
  obtain ⟨package, hpackage⟩ := Option.isSome_iff_exists.1 hs.package
  obtain ⟨sidecar, hsidecar⟩ := Option.isSome_iff_exists.1 hs.sidecar
  obtain ⟨loc, hloc⟩ := Option.isSome_iff_exists.1 hs.packageSlot
  obtain ⟨loc', hloc'⟩ := Option.isSome_iff_exists.1 hs.sidecarSlot
  refine ⟨package, sidecar, loc, loc', ?_, fun hof => ?_, (hslot _).trans hloc,
    (hslot _).trans hloc'⟩
  · exact (hp.outside _ _ hname (hsep.directory _)).trans hpackage
  · rw [expectedSidecar, hof] at hsidecar
    exact (hp.outside _ _ hname.sidecar hsep.prebuilt).trans hsidecar

/-- **Staging a build after others** does its own writes, if it is stageable from the start. -/
theorem stage_fill (hfs : fs.LinkFree) (hsep : layout.Separate fs)
    (hwrites : fs.Fillable layout.releaseDir writes)
    (hw : w.files = fs.fill (fs.place layout.releaseDir) writes) (hname : PlainName b.tarball) :
    (layout.Stageable fs b ∧ ∃ w', layout.stage b w = (.ok (Source.ofBuild b), w') ∧
      w'.files = fs.fill (fs.place layout.releaseDir) (writes ++ layout.writesOf fs b)) ∨
    ¬ layout.Stageable fs b ∧ ∃ e w', layout.stage b w = (.error e, w') := by
  -- earlier writes are in the release, so what the build is made from is as it was
  have hp := hw ▸ progress_fill hfs hwrites
  rcases stage_run layout hp.linkFree hname with
    ⟨package, sidecar, loc, loc', w', hs, hw', hrun⟩ | ⟨hmissing, e, w', hrun⟩
  case inr =>
    refine .inr ⟨fun hb => ?_, e, w', hrun⟩
    obtain ⟨package, sidecar, loc, loc', hs⟩ := hp.stages hfs hsep hname hb
    exact hmissing.not_stages hs
  obtain ⟨hpackage, hsidecar⟩ := hp.expected_eq hsep hname hs
  have hloc := slot?_join_eq hp.linkFree hname hs.packageSlot
  have hloc' := slot?_join_eq hp.linkFree hname.sidecar hs.sidecarSlot
  have hslot : ∀ p, w.files.slot? p = fs.slot? p := slot?_congr hfs hp.linkFree hp.sameDirs
  rw [place_congr hp.sameDirs.current] at hloc hloc'
  refine .inl ⟨⟨?_, ?_, ?_, ?_⟩, w', hrun, ?_⟩
  · rw [hpackage]; rfl
  · rw [hsidecar]; rfl
  · rw [← hslot, hs.packageSlot]; rfl
  · rw [← hslot]; exact Option.isSome_iff_exists.2 ⟨loc', hs.sidecarSlot⟩
  · rw [hw', stagedFiles, hw, ← fill_append, writesOf, hpackage, hsidecar, hloc, hloc', hw]
    rfl

/-- What staging builds writes into the release. -/
def stagedWrites (layout : Layout) (fs : FileSystem) (builds : List Build) : List Write :=
  builds.flatMap (layout.writesOf fs)

theorem fillable_stagedWrites (hplain : ∀ b ∈ builds, PlainName b.tarball)
    (h : ∀ b ∈ builds, layout.Stageable fs b) :
    fs.Fillable layout.releaseDir (layout.stagedWrites fs builds) := by
  refine ⟨fun w hw => ?_, fun w hw => ?_⟩ <;> obtain ⟨b, hb, hw⟩ := List.mem_flatMap.1 hw
  · exact ((h b hb).fillable (hplain b hb)).plain w hw
  · exact ((h b hb).fillable (hplain b hb)).slot w hw

/-- **Staging builds** does the writes of each in turn, if all are stageable from the start. -/
theorem mapM_stage_fill (hfs : fs.LinkFree) (hsep : layout.Separate fs)
    (hwrites : fs.Fillable layout.releaseDir writes)
    (hw : w.files = fs.fill (fs.place layout.releaseDir) writes)
    (hplain : ∀ b ∈ builds, PlainName b.tarball) :
    ((∀ b ∈ builds, layout.Stageable fs b) ∧ ∃ w',
      (builds.mapM layout.stage) w = (.ok (builds.map Source.ofBuild), w') ∧
      w'.files =
        fs.fill (fs.place layout.releaseDir) (writes ++ layout.stagedWrites fs builds)) ∨
    (¬ ∀ b ∈ builds, layout.Stageable fs b) ∧
      ∃ e w', (builds.mapM layout.stage) w = (.error e, w') := by
  induction builds generalizing w writes with
  | nil => exact .inl ⟨nofun, w, rfl, by rw [stagedWrites, List.flatMap_nil, List.append_nil, hw]⟩
  | cons b builds ih =>
    have hname := hplain b List.mem_cons_self
    rw [List.mapM_cons]
    rcases stage_fill hfs hsep hwrites hw hname with ⟨hb, w₁, hrun, hw₁⟩ | ⟨hb, e, w₁, hrun⟩
    case inr =>
      exact .inr ⟨fun h => hb (h b List.mem_cons_self), e, w₁, bind_of_error hrun⟩
    rw [bind_of_ok hrun]
    rcases ih (hwrites.append (hb.fillable hname)) hw₁
        (fun c hc => hplain c (List.mem_cons_of_mem _ hc)) with
      ⟨hrest, w₂, hrun', hw₂⟩ | ⟨hrest, e, w₂, hrun'⟩
    · refine .inl ⟨List.forall_mem_cons.2 ⟨hb, hrest⟩, w₂, bind_of_ok hrun', ?_⟩
      rw [hw₂, stagedWrites, stagedWrites, List.flatMap_cons, List.append_assoc]
    · exact .inr ⟨fun h => hrest (List.forall_mem_cons.1 h).2, e, w₂, bind_of_error hrun'⟩

/-! ## The manifest -/

/-- The sidecar of a build in the release records a digest. -/
def Recorded (layout : Layout) (fs : FileSystem) (b : Build) : Prop :=
  ((fs.content? (join layout.releaseDir b.sidecarName)).bind recordedDigest?).isSome

theorem row_run (hfs : w.files.LinkFree) (hname : PlainName b.tarball) :
    (layout.Recorded w.files b ∧ ∃ r, layout.row b w = (.ok r, w)) ∨
    ¬ layout.Recorded w.files b ∧ ∃ e, layout.row b w = (.error e, w) := by
  rw [row, packagePath, sidecar_join]
  rcases readSidecar_run hfs (endsInName_join layout.releaseDir hname.sidecar) with
    ⟨c, d, hc, hd, hread⟩ | ⟨hnone, e, hread⟩
  · refine .inl ⟨?_, _, bind_of_ok hread⟩
    show ((w.files.content? (join layout.releaseDir (Path.sidecar b.tarball))).bind _).isSome
    rw [hc, Option.bind_some, hd]
    rfl
  · refine .inr ⟨fun h => ?_, e, bind_of_error hread⟩
    exact absurd (h.symm.trans (congrArg Option.isSome hnone)) (by simp)

/-- Making the manifest succeeds where every sidecar records a digest, and changes nothing. -/
theorem manifest_run (layout : Layout) (hfs : w.files.LinkFree)
    (hplain : ∀ b ∈ builds, PlainName b.tarball) :
    ((∀ b ∈ builds, layout.Recorded w.files b) ∧ ∃ m, layout.manifest builds w = (.ok m, w) ∧
      bytesOf m.render = layout.manifestContent w.files builds) ∨
    (¬ ∀ b ∈ builds, layout.Recorded w.files b) ∧
      ∃ e, layout.manifest builds w = (.error e, w) := by
  rcases mapM_run_of_unchanged fun b hb => row_run hfs (hplain b hb) with
    ⟨hall, rows, hrun⟩ | ⟨hnot, e, hrun⟩
  · have hmanifest : layout.manifest builds w = (.ok ⟨rows⟩, w) := bind_of_ok hrun
    obtain ⟨-, hcsv, -⟩ := manifest_ok hfs hplain hmanifest
    exact .inl ⟨hall, _, hmanifest, by rw [Manifest.render_eq, manifestContent, hcsv]⟩
  · exact .inr ⟨hnot, e, bind_of_error hrun⟩

/-- What writing a manifest of this content writes into the release. -/
def manifestWrites (c : Content) : List Write :=
  [(manifestName, c), (Path.sidecar manifestName, sidecarContent c manifestName)]

/-- There are slots for the manifest and its sidecar. -/
structure ManifestSlots (layout : Layout) (fs : FileSystem) : Prop where
  manifest : (fs.slot? (join layout.releaseDir manifestName)).isSome
  sidecar : (fs.slot? (join layout.releaseDir (Path.sidecar manifestName))).isSome

theorem ManifestSlots.fillable (h : layout.ManifestSlots fs) (c : Content) :
    fs.Fillable layout.releaseDir (manifestWrites c) := by
  refine ⟨fun w hw => ?_, fun w hw => ?_⟩ <;>
    simp only [manifestWrites, List.mem_cons, List.not_mem_nil, or_false] at hw <;>
    rcases hw with rfl | rfl
  · exact plainName_manifest
  · exact plainName_manifest.sidecar
  · exact h.manifest
  · exact h.sidecar

theorem writeManifest_fill {m : Manifest} (hfs : w.files.LinkFree)
    (hm : layout.manifest builds w = (.ok m, w)) :
    (layout.ManifestSlots w.files ∧ ∃ w', layout.writeManifest builds w =
        (.ok (join layout.releaseDir manifestName, .ofContent (bytesOf m.render)), w') ∧
      w'.files =
        w.files.fill (w.files.place layout.releaseDir) (manifestWrites (bytesOf m.render))) ∨
    ¬ layout.ManifestSlots w.files ∧ ∃ e w', layout.writeManifest builds w = (.error e, w') := by
  rcases writeManifest_run hfs hm with ⟨loc, loc', w', hloc, hloc', hw', hrun⟩ | ⟨hnone, hrun⟩
  · refine .inl ⟨⟨by rw [hloc]; rfl, by rw [hloc']; rfl⟩, w', hrun, ?_⟩
    rw [hw', slot?_join_eq hfs plainName_manifest hloc,
      slot?_join_eq hfs plainName_manifest.sidecar hloc']
    rfl
  · refine .inr ⟨fun ⟨h, h'⟩ => ?_, hrun⟩
    rcases hnone with hnone | hnone
    · rw [hnone] at h; cases h
    · rw [hnone] at h'; cases h'

/-! ## The whole release -/

/-- The file system once the builds are staged. -/
def stagedBuilds (layout : Layout) (fs : FileSystem) (builds : List Build) : FileSystem :=
  fs.fill (fs.place layout.releaseDir) (layout.stagedWrites fs builds)

/-- What the manifest of the staged builds holds. -/
def finalManifest (layout : Layout) (fs : FileSystem) (builds : List Build) : Content :=
  layout.manifestContent (layout.stagedBuilds fs builds) builds

/-- What a release of builds writes, once its directory is made. -/
def releaseWrites (layout : Layout) (fs : FileSystem) (builds : List Build) : List Write :=
  layout.stagedWrites fs builds ++ manifestWrites (layout.finalManifest fs builds)

/-- What is said of a finished release. -/
def summaryOf (layout : Layout) (fs : FileSystem) (builds : List Build) : Summary where
  prebuilt := (builds.map Source.ofBuild).count .prebuilt
  built := (builds.map Source.ofBuild).count .built
  manifest := join layout.releaseDir manifestName
  digest := .ofContent (layout.finalManifest fs builds)

/-- What a release of builds needs, once its directory is made. -/
structure Ready (layout : Layout) (fs : FileSystem) (builds : List Build) : Prop where
  stageable : ∀ b ∈ builds, layout.Stageable fs b
  recorded : ∀ b ∈ builds, layout.Recorded (layout.stagedBuilds fs builds) b
  slots : layout.ManifestSlots fs

theorem Ready.fillable (h : layout.Ready fs builds)
    (hplain : ∀ b ∈ builds, PlainName b.tarball) :
    fs.Fillable layout.releaseDir (layout.releaseWrites fs builds) :=
  (fillable_stagedWrites hplain h.stageable).append (h.slots.fillable _)

theorem assemble_of_error {e : IoError} {fs' : FileSystem} (builds : List Build)
    (h : ensureDirectories layout.releaseDir w.files = (.error e, fs')) :
    ∃ e w', layout.assemble builds w = (.error e, w') :=
  ⟨_, _, bind_of_error (Work.during_of_error h)⟩

/-- **A release succeeds exactly when it is ready once its directory is made**, and then does its
writes and nothing else. -/
theorem assemble_run (hensure : ensureDirectories layout.releaseDir w.files = (.ok (), fs))
    (hfs : fs.LinkFree) (hsep : layout.Separate fs) (hplain : ∀ b ∈ builds, PlainName b.tarball) :
    (layout.Ready fs builds ∧ ∃ w',
      layout.assemble builds w = (.ok (layout.summaryOf fs builds), w') ∧
      w'.files = fs.fill (fs.place layout.releaseDir) (layout.releaseWrites fs builds)) ∨
    ¬ layout.Ready fs builds ∧ ∃ e w', layout.assemble builds w = (.error e, w') := by
  rw [assemble, bind_of_ok (Work.during_of_ok hensure)]
  rcases mapM_stage_fill (w := { w with files := fs }) hfs hsep fillable_nil rfl hplain with
    ⟨hstage, w₂, hrun, hw₂⟩ | ⟨hstage, e, w₂, hrun⟩
  case inr => exact .inr ⟨fun h => hstage h.stageable, e, w₂, bind_of_error hrun⟩
  rw [bind_of_ok hrun]
  rw [List.nil_append] at hw₂
  have hfill := fillable_stagedWrites hplain hstage
  have hfree : w₂.files.LinkFree := hw₂ ▸ hfs.fill _ _
  -- staging makes and removes no directories
  have hslots : layout.ManifestSlots w₂.files ↔ layout.ManifestSlots fs := by
    rw [hw₂]
    constructor <;> rintro ⟨h, h'⟩
    · rw [hfill.slot?_fill hfs] at h h'; exact ⟨h, h'⟩
    · exact ⟨by rw [hfill.slot?_fill hfs]; exact h, by rw [hfill.slot?_fill hfs]; exact h'⟩
  rcases manifest_run layout hfree hplain with ⟨hrec, m, hm, hrender⟩ | ⟨hrec, e, hm⟩
  case inr =>
    refine .inr ⟨fun h => hrec ?_, e, w₂, bind_of_error (bind_of_error hm)⟩
    rw [hw₂]
    exact h.recorded
  rcases writeManifest_fill hfree hm with ⟨hsl, w₃, hwrite, hw₃⟩ | ⟨hsl, e, w₃, hwrite⟩
  case inr =>
    exact .inr ⟨fun h => hsl (hslots.2 h.slots), e, w₃, bind_of_error hwrite⟩
  rw [hrender, hw₂] at hwrite hw₃
  rw [hw₂] at hrec
  refine .inl ⟨⟨hstage, hrec, hslots.1 hsl⟩, w₃, (bind_of_ok hwrite).trans rfl, ?_⟩
  rw [hw₃, place_congr (current_fill _ _ _), fill_append]
  rfl

/-- A release that succeeds was ready once its directory was made, which kept every file. -/
theorem assemble_writes {summary : Summary} (hfs : w.files.LinkFree)
    (hsep : layout.Separate w.files) (hplain : ∀ b ∈ builds, PlainName b.tarball)
    (h : layout.assemble builds w = (.ok summary, w')) :
    ∃ fs, Grown w.files fs ∧ fs.LinkFree ∧ layout.Separate fs ∧ layout.Ready fs builds ∧
      summary = layout.summaryOf fs builds ∧
      w'.files = fs.fill (fs.place layout.releaseDir) (layout.releaseWrites fs builds) := by
  obtain ⟨fs, -, -, hensure, -, -⟩ := assemble_ok h
  have hgrown := grown_of_ensureDirectories hfs hensure
  have hfree := hgrown.linkFree hfs
  have hsep' := hsep.congr hgrown.current
  rcases assemble_run hensure hfree hsep' hplain with ⟨hready, w₁, hrun, hw₁⟩ | ⟨-, e, w₁, hrun⟩
  · rw [hrun] at h
    cases h
    exact ⟨fs, hgrown, hfree, hsep', hready, rfl, hw₁⟩
  · rw [hrun] at h
    cases h

end Layout

end Packaging
