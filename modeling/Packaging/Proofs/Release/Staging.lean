import Packaging.Proofs.Release.Sidecar
import Packaging.Release.Assembly

/-!
# What staging a build does

Staging copies the files of a build into the release and, for a package that was built just now,
writes its sidecar. In a file system without links a step either fails or ends in a file system that
can be written down (`stage_run`): two files of the release change, and nothing else.

A package that is staged from the release directory itself is copied onto itself, and so emptied:
the bytes of its files survive exactly when the directories differ or there are none.
-/

namespace Packaging

open Packaging.Action FileSystem Packaging.Path

namespace Layout

variable {layout : Layout} {w w' : WorkState} {dir name : String}

/-! ## Copying into the release -/

/-- What a file of a directory becomes in the release: a file copied onto itself is emptied. -/
def copied (layout : Layout) (fs : FileSystem) (dir : String) (c : Content) : Content :=
  if fs.place dir = fs.place layout.releaseDir then [] else c

/-- **All that copying a file into the release can do.** -/
theorem copyInto_run (layout : Layout) (dir : String) (hfs : w.files.LinkFree)
    (hname : PlainName name) :
    (∃ c loc, w.files.content? (join dir name) = some c ∧
      w.files.slot? (join layout.releaseDir name) = some loc ∧
      layout.copyInto dir name w =
        (.ok (), { w with files := w.files.set loc (.file (layout.copied w.files dir c)) })) ∨
    (w.files.content? (join dir name) = none ∨
        w.files.slot? (join layout.releaseDir name) = none) ∧
      ∃ e, layout.copyInto dir name w = (.error e, w) := by
  rw [copyInto]
  rcases copyFile_run hfs (endsInName_join dir hname) (join layout.releaseDir name)
    with ⟨loc, dest, c, h1, h2, h3, hcopy⟩ | ⟨hn, e, hcopy⟩
  · refine .inl ⟨c, dest, ?_, h3, ?_⟩
    · rw [content?_eq hfs, h1, Option.bind_some, h2]
    · have hsame : loc = dest ↔ w.files.place dir = w.files.place layout.releaseDir := by
        rw [(slot?_spec hfs h1).1, (slot?_spec hfs h3).1, place_join hname, place_join hname,
          List.cons.injEq, eq_self, true_and]
      rw [Work.during_of_ok hcopy, copied]
      simp only [hsame]
  · exact .inr ⟨hn, _, Work.during_of_error hcopy⟩

/-- A copy that succeeds has a slot in the release, and then something stands in it. -/
theorem slot?_of_copyInto (hfs : w.files.LinkFree)
    (h : layout.copyInto dir name w = (.ok (), w')) :
    ∃ loc c, w.files.slot? (join layout.releaseDir name) = some loc ∧
      w'.files = w.files.set loc (.file c) := by
  obtain ⟨fs, hcopy, rfl⟩ := Work.during_ok h
  exact slot?_of_copyFile hfs hcopy

/-! ## Staging a build -/

/-- What the sidecar of a staged package holds: what the published one becomes, or else the hash of
the package in the release. -/
def stagedSidecar (layout : Layout) (fs : FileSystem) (b : Build) (package sidecar : Content) :
    Content :=
  match Source.ofBuild b with
  | .prebuilt => layout.copied fs layout.prebuiltDir sidecar
  | .built => sidecarContent package b.tarball

/-- What staging a build needs: the package, the published sidecar if there is one, and the slots
of both in the release. -/
structure Stages (layout : Layout) (fs : FileSystem) (b : Build) (package sidecar : Content)
    (loc loc' : Location) : Prop where
  package : fs.content? (join ((Source.ofBuild b).directory layout) b.tarball) = some package
  sidecar : Source.ofBuild b = .prebuilt →
    fs.content? (join layout.prebuiltDir (Path.sidecar b.tarball)) = some sidecar
  packageSlot : fs.slot? (join layout.releaseDir b.tarball) = some loc
  sidecarSlot : fs.slot? (join layout.releaseDir (Path.sidecar b.tarball)) = some loc'

/-- The file system after a build was staged. -/
def stagedFiles (layout : Layout) (fs : FileSystem) (b : Build) (package sidecar : Content)
    (loc loc' : Location) : FileSystem :=
  let package := layout.copied fs ((Source.ofBuild b).directory layout) package
  (fs.set loc (.file package)).set loc' (.file (layout.stagedSidecar fs b package sidecar))

theorem directory_built : Source.built.directory layout = layout.artifactsDir := rfl

theorem directory_prebuilt : Source.prebuilt.directory layout = layout.prebuiltDir := rfl

theorem stage_built {b : Build} (h : Source.ofBuild b = .built) :
    layout.stage b = (do
      layout.copyInto layout.artifactsDir b.tarball
      let digest ← writeSidecar (join layout.releaseDir b.tarball)
      Work.log ("built " ++ b.tarball ++ " " ++ digest.text)
      return .built) := by
  rw [stage, h]
  simp only [Source.files, List.forM, bind_assoc, pure_bind]
  rfl

theorem stage_prebuilt {b : Build} (h : Source.ofBuild b = .prebuilt) :
    layout.stage b = (do
      layout.copyInto layout.prebuiltDir b.tarball
      layout.copyInto layout.prebuiltDir (Path.sidecar b.tarball)
      Work.log ("prebuilt " ++ b.tarball)
      return .prebuilt) := by
  rw [stage, h]
  simp only [Source.files, List.forM, bind_assoc, pure_bind]
  rfl

/-- Something that staging a build needs is missing. -/
def Unstageable (layout : Layout) (fs : FileSystem) (b : Build) : Prop :=
  fs.content? (join ((Source.ofBuild b).directory layout) b.tarball) = none ∨
    fs.slot? (join layout.releaseDir b.tarball) = none ∨
    (Source.ofBuild b = .prebuilt ∧
      fs.content? (join layout.prebuiltDir (Path.sidecar b.tarball)) = none) ∨
    fs.slot? (join layout.releaseDir (Path.sidecar b.tarball)) = none

theorem Unstageable.not_stages {fs : FileSystem} {b : Build} {package sidecar : Content}
    {loc loc' : Location} (h : layout.Unstageable fs b) :
    ¬ layout.Stages fs b package sidecar loc loc' := by
  intro hs
  rcases h with h | h | ⟨hb, h⟩ | h
  · have := hs.package; rw [h] at this; cases this
  · have := hs.packageSlot; rw [h] at this; cases this
  · have := hs.sidecar hb; rw [h] at this; cases this
  · have := hs.sidecarSlot; rw [h] at this; cases this

section StageRun

variable {b : Build}

/-- Copying the package comes first, wherever it comes from. -/
theorem copyPackage_run (layout : Layout) (hfs : w.files.LinkFree) (hname : PlainName b.tarball) :
    (∃ c loc w₁,
      w.files.content? (join ((Source.ofBuild b).directory layout) b.tarball) = some c ∧
      w.files.slot? (join layout.releaseDir b.tarball) = some loc ∧
      w₁.files = w.files.set loc
        (.file (layout.copied w.files ((Source.ofBuild b).directory layout) c)) ∧
      layout.copyInto ((Source.ofBuild b).directory layout) b.tarball w = (.ok (), w₁)) ∨
    layout.Unstageable w.files b ∧
      ∃ e, layout.copyInto ((Source.ofBuild b).directory layout) b.tarball w = (.error e, w) := by
  rcases copyInto_run layout ((Source.ofBuild b).directory layout) hfs hname with
    ⟨c, loc, h1, h2, hcopy⟩ | ⟨hn | hn, e, hcopy⟩
  · exact .inl ⟨c, loc, _, h1, h2, rfl, hcopy⟩
  · exact .inr ⟨.inl hn, e, hcopy⟩
  · exact .inr ⟨.inr (.inl hn), e, hcopy⟩

theorem stage_run_built (layout : Layout) (hsource : Source.ofBuild b = .built)
    (hfs : w.files.LinkFree) (hname : PlainName b.tarball) :
    (∃ package loc loc' w', layout.Stages w.files b package [] loc loc' ∧
      w'.files = layout.stagedFiles w.files b package [] loc loc' ∧
      layout.stage b w = (.ok .built, w')) ∨
    layout.Unstageable w.files b ∧ ∃ e w', layout.stage b w = (.error e, w') := by
  rw [stage_built hsource]
  have hrun := copyPackage_run layout hfs hname
  rw [hsource, directory_built] at hrun
  rcases hrun with ⟨c, loc, w₁, h1, h2, hfs₁, hcopy⟩ | ⟨hn, e, hcopy⟩
  case inr => exact .inr ⟨hn, e, _, bind_of_error hcopy⟩
  rw [bind_of_ok hcopy]
  have hfree : w₁.files.LinkFree := hfs₁ ▸ linkFree_set_slot hfs h2 _
  rcases writeSidecar_run layout.releaseDir hfree hname with
    ⟨c', loc', h3, h4, hwrite⟩ | ⟨hn, e, hwrite⟩
  · rw [hfs₁, content?_set_self hfs h2] at h3
    rw [hfs₁, slot?_set hfs h2] at h4
    cases h3
    refine .inl ⟨c, loc, loc', _, ⟨?_, ?_, h2, h4⟩, ?_, (bind_of_ok hwrite).trans rfl⟩
    · rw [hsource]; exact h1
    · rw [hsource]; nofun
    · rw [stagedFiles, stagedSidecar, hsource]
      exact congrArg (fun fs : FileSystem => fs.set loc' _) hfs₁
  · refine .inr ⟨?_, e, _, bind_of_error hwrite⟩
    rw [hfs₁, content?_set_self hfs h2, slot?_set hfs h2] at hn
    rcases hn with hn | hn
    · cases hn
    · exact .inr (.inr (.inr hn))

theorem stage_run_prebuilt (layout : Layout) (hsource : Source.ofBuild b = .prebuilt)
    (hfs : w.files.LinkFree) (hname : PlainName b.tarball) :
    (∃ package sidecar loc loc' w', layout.Stages w.files b package sidecar loc loc' ∧
      w'.files = layout.stagedFiles w.files b package sidecar loc loc' ∧
      layout.stage b w = (.ok .prebuilt, w')) ∨
    layout.Unstageable w.files b ∧ ∃ e w', layout.stage b w = (.error e, w') := by
  have hside := hname.sidecar
  have hne := Path.sidecar_ne b.tarball
  rw [stage_prebuilt hsource]
  have hrun := copyPackage_run layout hfs hname
  rw [hsource, directory_prebuilt] at hrun
  rcases hrun with ⟨c, loc, w₁, h1, h2, hfs₁, hcopy⟩ | ⟨hn, e, hcopy⟩
  case inr => exact .inr ⟨hn, e, _, bind_of_error hcopy⟩
  rw [bind_of_ok hcopy]
  have hfree : w₁.files.LinkFree := hfs₁ ▸ linkFree_set_slot hfs h2 _
  rcases copyInto_run layout layout.prebuiltDir hfree hside with
    ⟨c', loc', h3, h4, hcopy'⟩ | ⟨hn, e, hcopy'⟩
  · rw [hfs₁, content?_set_join hfs hside hname h2 (.inl hne)] at h3
    rw [hfs₁, slot?_set hfs h2] at h4
    refine .inl ⟨c, c', loc, loc', _, ⟨?_, fun _ => h3, h2, h4⟩, ?_, (bind_of_ok hcopy').trans rfl⟩
    · rw [hsource]; exact h1
    · rw [stagedFiles, stagedSidecar, hsource]
      show w₁.files.set loc' (.file (layout.copied w₁.files layout.prebuiltDir c')) = _
      rw [hfs₁]
      rfl
  · refine .inr ⟨?_, e, _, bind_of_error hcopy'⟩
    rw [hfs₁, content?_set_join hfs hside hname h2 (.inl hne), slot?_set hfs h2] at hn
    rcases hn with hn | hn
    · exact .inr (.inr (.inl ⟨hsource, hn⟩))
    · exact .inr (.inr (.inr hn))

/-- **All that staging a build can do.** -/
theorem stage_run (layout : Layout) (hfs : w.files.LinkFree) (hname : PlainName b.tarball) :
    (∃ package sidecar loc loc' w', layout.Stages w.files b package sidecar loc loc' ∧
      w'.files = layout.stagedFiles w.files b package sidecar loc loc' ∧
      layout.stage b w = (.ok (Source.ofBuild b), w')) ∨
    layout.Unstageable w.files b ∧ ∃ e w', layout.stage b w = (.error e, w') := by
  cases hsource : Source.ofBuild b with
  | built =>
    rcases stage_run_built layout hsource hfs hname with ⟨package, loc, loc', w₁, hs⟩ | hn
    · exact .inl ⟨package, [], loc, loc', w₁, hs⟩
    · exact .inr hn
  | prebuilt => exact stage_run_prebuilt layout hsource hfs hname

end StageRun

/-! ## The file system after staging -/

section Stages

variable {fs : FileSystem} {b : Build} {package sidecar : Content} {loc loc' : Location}

theorem Stages.sidecarSlot_after (hs : layout.Stages fs b package sidecar loc loc')
    (hfs : fs.LinkFree) (c : Content) :
    (fs.set loc (.file c)).slot? (join layout.releaseDir (Path.sidecar b.tarball)) = some loc' := by
  rw [slot?_set hfs hs.packageSlot, hs.sidecarSlot]

theorem Stages.linkFree (hs : layout.Stages fs b package sidecar loc loc') (hfs : fs.LinkFree) :
    (layout.stagedFiles fs b package sidecar loc loc').LinkFree :=
  linkFree_set_slot (linkFree_set_slot hfs hs.packageSlot _) (hs.sidecarSlot_after hfs _) _

theorem Stages.sameDirs (hs : layout.Stages fs b package sidecar loc loc') (hfs : fs.LinkFree) :
    SameDirs fs (layout.stagedFiles fs b package sidecar loc loc') :=
  (sameDirs_set_slot hfs hs.packageSlot _).trans
    (sameDirs_set_slot (linkFree_set_slot hfs hs.packageSlot _) (hs.sidecarSlot_after hfs _) _)

/-- The package in the release after staging. -/
theorem Stages.content?_package (hs : layout.Stages fs b package sidecar loc loc')
    (hfs : fs.LinkFree) (hname : PlainName b.tarball) :
    (layout.stagedFiles fs b package sidecar loc loc').content?
        (join layout.releaseDir b.tarball) =
      some (layout.copied fs ((Source.ofBuild b).directory layout) package) := by
  rw [stagedFiles, content?_set_join (linkFree_set_slot hfs hs.packageSlot _) hname hname.sidecar
    (hs.sidecarSlot_after hfs _) (.inl (Path.sidecar_ne _).symm)]
  exact content?_set_self hfs hs.packageSlot _

/-- The sidecar in the release after staging. -/
theorem Stages.content?_sidecar (hs : layout.Stages fs b package sidecar loc loc')
    (hfs : fs.LinkFree) :
    (layout.stagedFiles fs b package sidecar loc loc').content?
        (join layout.releaseDir (Path.sidecar b.tarball)) =
      some (layout.stagedSidecar fs b
        (layout.copied fs ((Source.ofBuild b).directory layout) package) sidecar) :=
  content?_set_self (linkFree_set_slot hfs hs.packageSlot _) (hs.sidecarSlot_after hfs _) _

/-- Staging a build leaves other names alone, and all names in other places. -/
theorem Stages.content?_other (hs : layout.Stages fs b package sidecar loc loc')
    (hfs : fs.LinkFree) (hb : PlainName b.tarball) (hname : PlainName name)
    (hne : (name ≠ b.tarball ∧ name ≠ Path.sidecar b.tarball) ∨
      fs.place dir ≠ fs.place layout.releaseDir) :
    (layout.stagedFiles fs b package sidecar loc loc').content? (join dir name) =
      fs.content? (join dir name) :=
  content?_set_set_join hfs hname hb hb.sidecar hs.packageSlot hs.sidecarSlot hne _ _

end Stages

/-! ## Staged bytes -/

/-- Only a build whose package has a plain name can be staged, if the name has no slash. -/
theorem plainName_of_stage {b : Build} {source : Source} (hfs : w.files.LinkFree)
    (hslash : '/' ∉ b.tarball.toList) (h : layout.stage b w = (.ok source, w')) :
    PlainName b.tarball := by
  have hslot : ∃ loc, w.files.slot? (join layout.releaseDir b.tarball) = some loc := by
    cases hsource : Source.ofBuild b with
    | built =>
      rw [stage_built hsource] at h
      obtain ⟨_, w₁, hcopy, -⟩ := bind_ok h
      obtain ⟨loc, -, hloc, -⟩ := slot?_of_copyInto hfs hcopy
      exact ⟨loc, hloc⟩
    | prebuilt =>
      rw [stage_prebuilt hsource] at h
      obtain ⟨_, w₁, hcopy, -⟩ := bind_ok h
      obtain ⟨loc, -, hloc, -⟩ := slot?_of_copyInto hfs hcopy
      exact ⟨loc, hloc⟩
  obtain ⟨loc, hloc⟩ := hslot
  refine ⟨hslash, ?_⟩
  by_cases hname : isName b.tarball.toList = true
  · exact hname
  · rw [slot?_join_eq_none hfs hslash (Bool.not_eq_true _ ▸ hname)] at hloc
    cases hloc

/-- The files that a build is staged from become their copies in the release. -/
theorem content?_of_stage {b : Build} {source : Source} (hfs : w.files.LinkFree)
    (hslash : '/' ∉ b.tarball.toList) (h : layout.stage b w = (.ok source, w')) :
    ∀ name ∈ source.files b, ∃ c,
      w.files.content? (join (source.directory layout) name) = some c ∧
      w'.files.content? (join layout.releaseDir name) =
        some (layout.copied w.files (source.directory layout) c) := by
  have hname := plainName_of_stage hfs hslash h
  rcases stage_run layout hfs hname with
    ⟨package, sidecar, loc, loc', w₁, hs, hw₁, hstage⟩ | ⟨-, e, w₁, hstage⟩
  case inr => rw [hstage] at h; cases h
  rw [hstage] at h
  cases h
  have hpackage := hs.content?_package hfs hname
  have hsidecar := hs.content?_sidecar hfs
  rw [← hw₁] at hpackage hsidecar
  rw [stagedSidecar] at hsidecar
  cases hsource : Source.ofBuild b <;> rw [hsource] at hpackage hsidecar
  case built =>
    intro name hmem
    rcases List.mem_singleton.1 hmem
    exact ⟨package, hsource ▸ hs.package, hpackage⟩
  case prebuilt =>
    intro name hmem
    rcases List.mem_cons.1 hmem with rfl | hmem
    · exact ⟨package, hsource ▸ hs.package, hpackage⟩
    · rcases List.mem_singleton.1 hmem
      exact ⟨sidecar, hs.sidecar hsource, hsidecar⟩

/-- **Staged bytes survive exactly when the package comes from another directory or has none.** The
source of a build that was staged had all its files; the release has the same bytes under the same
names if and only if the two directories are different places, or all files were empty. -/
theorem stage_keeps_bytes_iff {b : Build} {source : Source} (hfs : w.files.LinkFree)
    (hslash : '/' ∉ b.tarball.toList) (h : layout.stage b w = (.ok source, w')) :
    (∀ name ∈ source.files b,
      (w.files.content? (join (source.directory layout) name)).isSome) ∧
    ((∀ name ∈ source.files b, w'.files.content? (join layout.releaseDir name) =
        w.files.content? (join (source.directory layout) name)) ↔
      w.files.place (source.directory layout) ≠ w.files.place layout.releaseDir ∨
      ∀ name ∈ source.files b,
        w.files.content? (join (source.directory layout) name) = some []) := by
  have hall := content?_of_stage hfs hslash h
  refine ⟨fun name hmem => ?_, fun hkept => ?_, fun hcond name hmem => ?_⟩
  · obtain ⟨c, hc, -⟩ := hall name hmem
    rw [hc]
    rfl
  · by_cases hsame : w.files.place (source.directory layout) = w.files.place layout.releaseDir
    · refine .inr fun name hmem => ?_
      obtain ⟨c, hc, hcopy⟩ := hall name hmem
      rw [copied, if_pos hsame] at hcopy
      rw [← hkept name hmem, hcopy]
    · exact .inl hsame
  · obtain ⟨c, hc, hcopy⟩ := hall name hmem
    rw [hcopy, hc, copied]
    rcases hcond with hne | hempty
    · rw [if_neg hne]
    · rw [hempty name hmem] at hc
      cases hc
      rw [ite_self]

/-- A layout whose release is its own source of published packages. -/
def inPlace : Layout := { prebuiltDir := "d", releaseDir := "d" }

/-- A published package with a short name. -/
def publishedBuild : Build where
  platform := { id := "linux-x86_64", runner := "r", triplet := "x" }
  version := "1"
  commit := "0"
  sharedLibs := "OFF"
  linkage := .static
  packageVersion := "1-0-static"
  tarball := "t"
  prebuilt := true

/-- A directory with the files of that package. -/
def publishedState : WorkState where
  files := ((empty.set ["d"] .directory).set ["t", "d"] (.file [1])).set ["t.sha256", "d"]
    (.file [2])

theorem linkFree_publishedState : publishedState.files.LinkFree :=
  ((linkFree_empty.set_directory (List.cons_ne_nil _ _)).set_file (List.cons_ne_nil _ _) _).set_file
    (List.cons_ne_nil _ _) _

theorem stage_inPlace :
    (inPlace.stage publishedBuild publishedState).1.toOption = some .prebuilt := by
  decide +kernel

theorem stage_keeps_bytes_iff_inPlace :
    publishedState.files.LinkFree ∧ '/' ∉ publishedBuild.tarball.toList ∧
    ∃ w', inPlace.stage publishedBuild publishedState = (.ok .prebuilt, w') ∧
      (∀ name ∈ Source.prebuilt.files publishedBuild,
        (publishedState.files.content? (join (Source.prebuilt.directory inPlace) name)).isSome) ∧
      ((∀ name ∈ Source.prebuilt.files publishedBuild,
          w'.files.content? (join inPlace.releaseDir name) =
            publishedState.files.content? (join (Source.prebuilt.directory inPlace) name)) ↔
        publishedState.files.place (Source.prebuilt.directory inPlace) ≠
            publishedState.files.place inPlace.releaseDir ∨
          ∀ name ∈ Source.prebuilt.files publishedBuild,
            publishedState.files.content? (join (Source.prebuilt.directory inPlace) name) =
              some []) :=
  have hslash : '/' ∉ publishedBuild.tarball.toList := by decide
  have hstage := eq_ok_of_toOption stage_inPlace
  ⟨linkFree_publishedState, hslash, _, hstage,
    stage_keeps_bytes_iff linkFree_publishedState hslash hstage⟩

/-- A published package that is staged in place is emptied, although staging succeeds. -/
theorem inPlace_loses_bytes :
    publishedState.files.LinkFree ∧ '/' ∉ publishedBuild.tarball.toList ∧
    (inPlace.stage publishedBuild publishedState).1.toOption = some .prebuilt ∧
    publishedState.files.content? (join "d" "t") = some [1] ∧
    (inPlace.stage publishedBuild publishedState).2.files.content? (join "d" "t") = some [] :=
  ⟨linkFree_publishedState, by decide, stage_inPlace, by decide +kernel, by decide +kernel⟩

end Layout

end Packaging
