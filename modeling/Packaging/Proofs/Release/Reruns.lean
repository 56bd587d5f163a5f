import Packaging.Proofs.Release.Confinement
import Packaging.Proofs.Release.Writes

/-!
# Releases that are made again

What a release writes is fixed by the files that its packages come from (`releaseWrites_congr`), and
whatever it reads in its own directory it wrote there before. So what the directory held until then
makes no difference, and a release that is made again on its own result changes nothing.

* `content?_stagedBuilds`: the sidecars that the manifest reads are those that were staged.
* `again_run`: a release is ready to be made on its own result.
* `assemble_independent`: both together.
-/

namespace Packaging

open Packaging.Action FileSystem Packaging.Path Text

namespace Layout

variable {layout : Layout} {fs fs₁ fs₂ : FileSystem} {w w' w₁ w₁' w₂ w₂' : WorkState}
  {builds : List Build} {b : Build}

/-! ## Names -/

/-- Only builds whose packages have plain names can be staged, if the names have no slashes. -/
theorem plainName_of_mapM_stage {sources : List Source} (hfs : w.files.LinkFree)
    (hslash : ∀ b ∈ builds, '/' ∉ b.tarball.toList)
    (h : (builds.mapM layout.stage) w = (.ok sources, w')) :
    ∀ b ∈ builds, PlainName b.tarball := by
  induction builds generalizing w sources with
  | nil => nofun
  | cons b builds ih =>
    obtain ⟨source, sources', w₁, hb, hrest, -⟩ := mapM_cons_ok h
    have hfree := ((stage_touches fun _ => List.mem_map_of_mem).touched hfs hb).linkFree
    exact List.forall_mem_cons.2 ⟨plainName_of_stage hfs (hslash b List.mem_cons_self) hb,
      ih hfree (fun c hc => hslash c (List.mem_cons_of_mem _ hc)) hrest⟩

theorem plainName_of_assemble {summary : Summary} (hfs : w.files.LinkFree)
    (hslash : ∀ b ∈ builds, '/' ∉ b.tarball.toList)
    (h : layout.assemble builds w = (.ok summary, w')) : ∀ b ∈ builds, PlainName b.tarball := by
  obtain ⟨fs, sources, w₂, hensure, hstage, -⟩ := assemble_ok h
  have hgrown := grown_of_ensureDirectories hfs hensure
  exact plainName_of_mapM_stage (w := { w with files := fs }) (hgrown.linkFree hfs) hslash hstage

theorem names_stagedWrites (layout : Layout) (fs : FileSystem) (builds : List Build) :
    (layout.stagedWrites fs builds).map (·.1) = builds.flatMap namesOf :=
  List.map_flatMap

theorem names_releaseWrites (layout : Layout) (fs : FileSystem) (builds : List Build) :
    (layout.releaseWrites fs builds).map (·.1) =
      builds.flatMap namesOf ++ [manifestName, Path.sidecar manifestName] := by
  rw [releaseWrites, List.map_append, names_stagedWrites]
  rfl

/-! ## What is written -/

/-- **The sidecars that the manifest reads are those that were staged.** -/
theorem content?_stagedBuilds (hfs : fs.LinkFree) (hplain : ∀ b ∈ builds, PlainName b.tarball)
    (hstage : ∀ b ∈ builds, layout.Stageable fs b) (hb : b ∈ builds) :
    (layout.stagedBuilds fs builds).content? (join layout.releaseDir b.sidecarName) =
      lastWrite? (layout.stagedWrites fs builds) b.sidecarName := by
  refine (fillable_stagedWrites hplain hstage).content?_written hfs ?_
  rw [names_stagedWrites]
  exact List.mem_flatMap.2 ⟨b, hb, List.mem_cons_of_mem _ List.mem_cons_self⟩

section Congr

variable (hfs₁ : fs₁.LinkFree) (hfs₂ : fs₂.LinkFree) (hplain : ∀ b ∈ builds, PlainName b.tarball)
  (hstage₁ : ∀ b ∈ builds, layout.Stageable fs₁ b) (hstage₂ : ∀ b ∈ builds, layout.Stageable fs₂ b)
  (hsame : ∀ b ∈ builds, layout.expectedPackage fs₁ b = layout.expectedPackage fs₂ b ∧
    layout.expectedSidecar fs₁ b = layout.expectedSidecar fs₂ b)
include hsame

theorem stagedWrites_congr :
    layout.stagedWrites fs₁ builds = layout.stagedWrites fs₂ builds := by
  have hwrites : builds.map (layout.writesOf fs₁) = builds.map (layout.writesOf fs₂) := by
    refine List.map_congr_left fun b hb => ?_
    rw [writesOf, writesOf, (hsame b hb).1, (hsame b hb).2]
  rw [stagedWrites, stagedWrites, List.flatMap_def, List.flatMap_def, hwrites]

include hfs₁ hfs₂ hplain hstage₁ hstage₂

theorem sidecar_congr (hb : b ∈ builds) :
    (layout.stagedBuilds fs₁ builds).content? (join layout.releaseDir b.sidecarName) =
      (layout.stagedBuilds fs₂ builds).content? (join layout.releaseDir b.sidecarName) := by
  rw [content?_stagedBuilds hfs₁ hplain hstage₁ hb, content?_stagedBuilds hfs₂ hplain hstage₂ hb,
    stagedWrites_congr hsame]

theorem finalManifest_congr :
    layout.finalManifest fs₁ builds = layout.finalManifest fs₂ builds := by
  have hrecord : builds.map (layout.record (layout.stagedBuilds fs₁ builds)) =
      builds.map (layout.record (layout.stagedBuilds fs₂ builds)) := by
    refine List.map_congr_left fun b hb => ?_
    rw [record, record, sidecarText, sidecarText,
      sidecar_congr hfs₁ hfs₂ hplain hstage₁ hstage₂ hsame hb]
  rw [finalManifest, finalManifest, manifestContent, manifestContent, hrecord]

/-- **What a release writes is fixed by what its packages and sidecars should hold.** -/
theorem releaseWrites_congr :
    layout.releaseWrites fs₁ builds = layout.releaseWrites fs₂ builds := by
  rw [releaseWrites, releaseWrites, stagedWrites_congr hsame,
    finalManifest_congr hfs₁ hfs₂ hplain hstage₁ hstage₂ hsame]

theorem summaryOf_congr : layout.summaryOf fs₁ builds = layout.summaryOf fs₂ builds := by
  rw [summaryOf, summaryOf, finalManifest_congr hfs₁ hfs₂ hplain hstage₁ hstage₂ hsame]

end Congr

/-! ## Two file systems -/

/-- Two file systems have the same files in the directories that packages come from. -/
def SameSources (layout : Layout) (fs₁ fs₂ : FileSystem) : Prop :=
  ∀ (source : Source) (name : String), PlainName name →
    fs₁.file? (name :: fs₁.place (source.directory layout)) =
      fs₂.file? (name :: fs₂.place (source.directory layout))

theorem SameSources.of_grown {fs₁' fs₂' : FileSystem} (h : layout.SameSources fs₁ fs₂)
    (hgrown₁ : Grown fs₁ fs₁') (hgrown₂ : Grown fs₂ fs₂') : layout.SameSources fs₁' fs₂' := by
  intro source name hname
  rw [hgrown₁.file?, hgrown₂.file?, place_congr hgrown₁.current, place_congr hgrown₂.current]
  exact h source name hname

theorem SameSources.content?_eq (h : layout.SameSources fs₁ fs₂) (hfs₁ : fs₁.LinkFree)
    (hfs₂ : fs₂.LinkFree) (source : Source) {name : String} (hname : PlainName name)
    (h₁ : (fs₁.content? (join (source.directory layout) name)).isSome)
    (h₂ : (fs₂.content? (join (source.directory layout) name)).isSome) :
    fs₁.content? (join (source.directory layout) name) =
      fs₂.content? (join (source.directory layout) name) := by
  obtain ⟨c₁, hc₁⟩ := Option.isSome_iff_exists.1 h₁
  obtain ⟨c₂, hc₂⟩ := Option.isSome_iff_exists.1 h₂
  have hfile₁ := file?_place hfs₁ hc₁
  have hfile₂ := file?_place hfs₂ hc₂
  rw [place_join hname] at hfile₁ hfile₂
  rw [hc₁, hc₂, ← hfile₁, ← hfile₂]
  exact h source name hname

/-- Packages that can be staged in both file systems should get the same files. -/
theorem SameSources.expected_eq (h : layout.SameSources fs₁ fs₂) (hfs₁ : fs₁.LinkFree)
    (hfs₂ : fs₂.LinkFree) (hname : PlainName b.tarball) (h₁ : layout.Stageable fs₁ b)
    (h₂ : layout.Stageable fs₂ b) :
    layout.expectedPackage fs₁ b = layout.expectedPackage fs₂ b ∧
      layout.expectedSidecar fs₁ b = layout.expectedSidecar fs₂ b := by
  have hpackage : layout.expectedPackage fs₁ b = layout.expectedPackage fs₂ b :=
    h.content?_eq hfs₁ hfs₂ _ hname h₁.package h₂.package
  refine ⟨hpackage, ?_⟩
  have hside₁ := h₁.sidecar
  have hside₂ := h₂.sidecar
  rw [expectedSidecar] at hside₁ hside₂
  rw [expectedSidecar, expectedSidecar]
  cases hsource : Source.ofBuild b with
  | built => rw [hpackage]
  | prebuilt =>
    rw [hsource] at hside₁ hside₂
    exact h.content?_eq hfs₁ hfs₂ .prebuilt hname.sidecar hside₁ hside₂

/-! ## The same again -/

section Again

variable (hfs : fs.LinkFree) (hsep : layout.Separate fs)
  (hplain : ∀ b ∈ builds, PlainName b.tarball) (hready : layout.Ready fs builds)
include hfs hsep hplain hready

theorem expected_again (hb : b ∈ builds) :
    let after := fs.fill (fs.place layout.releaseDir) (layout.releaseWrites fs builds)
    layout.expectedPackage after b = layout.expectedPackage fs b ∧
      layout.expectedSidecar after b = layout.expectedSidecar fs b := by
  have hname := hplain b hb
  have houtside := (progress_fill hfs (hready.fillable hplain)).outside
  have hpackage := houtside _ _ hname (hsep.directory (Source.ofBuild b))
  refine ⟨hpackage, ?_⟩
  rw [expectedSidecar, expectedSidecar]
  cases hsource : Source.ofBuild b with
  | built => exact congrArg (Option.map (sidecarContent · b.tarball)) hpackage
  | prebuilt => exact houtside _ _ hname.sidecar hsep.prebuilt

/-- **A release is ready to be made on its own result**, and writes what is there. -/
theorem again_run (log : List String) :
    let after := fs.fill (fs.place layout.releaseDir) (layout.releaseWrites fs builds)
    ∃ w', layout.assemble builds ⟨after, log⟩ = (.ok (layout.summaryOf fs builds), w') ∧
      w'.files = after := by
  intro after
  have hfill := hready.fillable hplain
  have hafter : after.LinkFree := hfs.fill _ _
  have hslot : ∀ p, after.slot? p = fs.slot? p := hfill.slot?_fill hfs
  have hplace : ∀ p, after.place p = fs.place p := place_congr (current_fill _ _ _)
  have hsame : ∀ b ∈ builds, layout.expectedPackage after b = layout.expectedPackage fs b ∧
      layout.expectedSidecar after b = layout.expectedSidecar fs b :=
    fun b hb => expected_again hfs hsep hplain hready hb
  have hstage : ∀ b ∈ builds, layout.Stageable after b := by
    intro b hb
    obtain ⟨hpackage, hsidecar, hslot₁, hslot₂⟩ := hready.stageable b hb
    exact ⟨(hsame b hb).1 ▸ hpackage, (hsame b hb).2 ▸ hsidecar, by rwa [hslot], by rwa [hslot]⟩
  have hready' : layout.Ready after builds := by
    refine ⟨hstage, fun b hb => ?_, by rw [hslot]; exact hready.slots.manifest,
      by rw [hslot]; exact hready.slots.sidecar⟩
    rw [Recorded, sidecar_congr hafter hfs hplain hstage hready.stageable hsame hb]
    exact hready.recorded b hb
  have hwrites : layout.releaseWrites after builds = layout.releaseWrites fs builds :=
    releaseWrites_congr hafter hfs hplain hstage hready.stageable hsame
  -- the manifest stands in the release directory, so there is nothing to make
  have hensure : ensureDirectories layout.releaseDir after = (.ok (), after) := by
    obtain ⟨loc, hloc⟩ := Option.isSome_iff_exists.1 hready'.slots.manifest
    exact ensureDirectories_of_slot hafter plainName_manifest hloc
  have hsep' : layout.Separate after := hsep.congr (current_fill _ _ _)
  rcases assemble_run (w := ⟨after, log⟩) hensure hafter hsep' hplain with
    ⟨-, w', hrun, hw'⟩ | ⟨hnot, -⟩
  · rw [summaryOf_congr hafter hfs hplain hstage hready.stageable hsame] at hrun
    refine ⟨w', hrun, ?_⟩
    rw [hw', hwrites, hplace]
    exact fill_fill_self _ _ _
  · exact absurd hready' hnot

end Again

/-- **A release does not depend on what its directory held before.** Where the same files are in the
directories that packages come from, two releases of the same builds that succeed say the same and
write the same files, and no others; made again on its own result, a release succeeds, says the same
and changes nothing. -/
theorem assemble_independent {summary₁ summary₂ : Summary}
    (hslash : ∀ b ∈ builds, '/' ∉ b.tarball.toList)
    (hfs₁ : w₁.files.LinkFree) (hfs₂ : w₂.files.LinkFree)
    (hsep₁ : layout.Separate w₁.files) (hsep₂ : layout.Separate w₂.files)
    (hsame : layout.SameSources w₁.files w₂.files)
    (h₁ : layout.assemble builds w₁ = (.ok summary₁, w₁'))
    (h₂ : layout.assemble builds w₂ = (.ok summary₂, w₂')) :
    summary₁ = summary₂ ∧
    (∀ name ∈ builds.flatMap namesOf ++ [manifestName, Path.sidecar manifestName], ∃ c,
      w₁'.files.content? (join layout.releaseDir name) = some c ∧
      w₂'.files.content? (join layout.releaseDir name) = some c) ∧
    (∀ loc, (∀ name ∈ builds.flatMap namesOf ++ [manifestName, Path.sidecar manifestName],
        loc ≠ name :: w₁.files.place layout.releaseDir) →
      w₁'.files.file? loc = w₁.files.file? loc) ∧
    ∀ log, ∃ w', layout.assemble builds ⟨w₁'.files, log⟩ = (.ok summary₁, w') ∧
      w'.files = w₁'.files := by
  have hplain := plainName_of_assemble hfs₁ hslash h₁
  obtain ⟨fs₁, hgrown₁, hfree₁, hsep₁', hready₁, rfl, hfiles₁⟩ :=
    assemble_writes hfs₁ hsep₁ hplain h₁
  obtain ⟨fs₂, hgrown₂, hfree₂, -, hready₂, rfl, hfiles₂⟩ :=
    assemble_writes hfs₂ hsep₂ hplain h₂
  have hexpected : ∀ b ∈ builds, layout.expectedPackage fs₁ b = layout.expectedPackage fs₂ b ∧
      layout.expectedSidecar fs₁ b = layout.expectedSidecar fs₂ b := fun b hb =>
    (hsame.of_grown hgrown₁ hgrown₂).expected_eq hfree₁ hfree₂ (hplain b hb)
      (hready₁.stageable b hb) (hready₂.stageable b hb)
  refine ⟨?_, fun name hname => ?_, fun loc hloc => ?_, fun log => ?_⟩
  · exact summaryOf_congr hfree₁ hfree₂ hplain hready₁.stageable hready₂.stageable hexpected
  · have hwrites := releaseWrites_congr hfree₁ hfree₂ hplain hready₁.stageable hready₂.stageable
      hexpected
    rw [← names_releaseWrites layout fs₁] at hname
    obtain ⟨c, hc⟩ := Option.isSome_iff_exists.1 (lastWrite?_isSome_iff.2 hname)
    refine ⟨c, ?_, ?_⟩
    · rw [hfiles₁, (hready₁.fillable hplain).content?_written hfree₁ hname, hc]
    · rw [hwrites] at hname
      rw [hfiles₂, (hready₂.fillable hplain).content?_written hfree₂ hname, ← hwrites, hc]
  · rw [hfiles₁, file?_fill_other, hgrown₁.file?]
    rw [names_releaseWrites, place_congr hgrown₁.current]
    exact hloc
  · rw [hfiles₁]
    exact again_run hfree₁ hsep₁' hplain hready₁ log

/-- A new package, and a published one that is named like the sidecar of the new one. -/
def tangledBuilds : List Build :=
  [{ publishedBuild with prebuilt := false }, { publishedBuild with tarball := "t.sha256" }]

/-- The files of both packages, and no release. -/
def freshState : WorkState where
  files := ((((empty.set ["a"] .directory).set ["p"] .directory).set ["t", "a"] (.file [1])).set
    ["t.sha256", "p"] (.file (List.replicate 64 97))).set ["t.sha256.sha256", "p"]
    (.file (List.replicate 64 98))

/-- The same files, and an old release. -/
def staleState : WorkState where
  files := ((freshState.files.set ["r"] .directory).set ["releases.csv", "r"] (.file [9])).set
    ["t.sha256", "r"] (.file [])

theorem linkFree_freshState : freshState.files.LinkFree :=
  have hne {name : String} {dir : Location} : name :: dir ≠ [] := List.cons_ne_nil _ _
  ((((linkFree_empty.set_directory hne).set_directory hne).set_file hne _).set_file hne _).set_file
    hne _

theorem linkFree_staleState : staleState.files.LinkFree :=
  have hne {name : String} {dir : Location} : name :: dir ≠ [] := List.cons_ne_nil _ _
  ((linkFree_freshState.set_directory hne).set_file hne _).set_file hne _

theorem sameSources_stale : sampleLayout.SameSources freshState.files staleState.files := by
  intro source name _
  have hne {name : String} {dir : Location} : name :: dir ≠ [] := List.cons_ne_nil _ _
  obtain ⟨hplace, hrelease, hroot⟩ : freshState.files.place (source.directory sampleLayout) =
        staleState.files.place (source.directory sampleLayout) ∧
      staleState.files.place (source.directory sampleLayout) ≠ ["r"] ∧
      staleState.files.place (source.directory sampleLayout) ≠ [] := by
    cases source <;> decide
  rw [hplace]
  generalize staleState.files.place (source.directory sampleLayout) = dir at hrelease hroot
  simp [staleState, FileSystem.file?, node?_set hne, hrelease, hroot]

theorem assemble_independent_tangled :
    ∃ summary w₁' w₂', sampleLayout.assemble tangledBuilds freshState = (.ok summary, w₁') ∧
      sampleLayout.assemble tangledBuilds staleState = (.ok summary, w₂') ∧
      (∀ b ∈ tangledBuilds, '/' ∉ b.tarball.toList) ∧
      freshState.files.LinkFree ∧ staleState.files.LinkFree ∧
      sampleLayout.Separate freshState.files ∧ sampleLayout.Separate staleState.files ∧
      sampleLayout.SameSources freshState.files staleState.files ∧
      (∀ name ∈ ["t", "t.sha256", "t.sha256", "t.sha256.sha256", "releases.csv",
          "releases.csv.sha256"], ∃ c,
        w₁'.files.content? (join "r" name) = some c ∧
        w₂'.files.content? (join "r" name) = some c) ∧
      ∃ w', sampleLayout.assemble tangledBuilds ⟨w₁'.files, []⟩ = (.ok summary, w') ∧
        w'.files = w₁'.files := by
  have hslash : ∀ b ∈ tangledBuilds, '/' ∉ b.tarball.toList := by decide
  have hsep : sampleLayout.Separate freshState.files := ⟨by decide, by decide⟩
  have hsep' : sampleLayout.Separate staleState.files := ⟨by decide, by decide⟩
  have hok : (sampleLayout.assemble tangledBuilds freshState).1.isOk = true := by decide +kernel
  have hok' : (sampleLayout.assemble tangledBuilds staleState).1.isOk = true := by decide +kernel
  obtain ⟨summary, h⟩ := exists_of_isOk hok
  obtain ⟨summary', h'⟩ := exists_of_isOk hok'
  obtain ⟨rfl, hfiles, -, hagain⟩ := assemble_independent hslash linkFree_freshState
    linkFree_staleState hsep hsep' sameSources_stale h h'
  exact ⟨summary, _, _, h, h', hslash, linkFree_freshState, linkFree_staleState, hsep, hsep',
    sameSources_stale, hfiles, hagain []⟩

end Layout

end Packaging
