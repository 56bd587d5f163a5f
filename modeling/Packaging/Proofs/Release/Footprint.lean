import Packaging.Proofs.FileSystem.Descent
import Packaging.Proofs.Release.Assembly

/-!
# Where a release writes

Whether it succeeds or not, a release touches the paths of its packages, of their sidecars and of
the manifest, and nothing else (`assemble_touches`); if it succeeds, there is a file at each of them
(`assemble_places`). These paths are joined to the release directory, but the name of a package is
any text, so some lead out of that directory.

* `assemble_footprint`: all changes are inside the release, but for names that lead out of it.
* `climbing_writes_outside`: a package that is written next to the release.
-/

namespace Packaging

open Packaging.Action FileSystem Packaging.Path Text

variable {paths : List String} {p : String} {w w' : WorkState}

/-! ## Work and the file systems before and after it -/

namespace Work

variable {α β : Type} {x : Work α} {f : α → Work β}

/-- Whatever its result, some work takes file systems to related ones. -/
def Moves (R : FileSystem → FileSystem → Prop) (x : Work α) : Prop :=
  Within (fun w w' : WorkState => R w.files w'.files) x

variable {R : FileSystem → FileSystem → Prop}

theorem during_moves {step : FileStep} {action : FileAction α} (h : Within R action) :
    Moves R (during step p action) :=
  fun w => h w.files

theorem moves_of_unchanged (refl : ∀ fs, R fs fs) (h : ∀ w, (x w).2.files = w.files) :
    Moves R x := by
  intro w
  show R w.files (x w).2.files
  rw [h w]
  exact refl _

theorem Moves.bind (trans : ∀ {fs₁ fs₂ fs₃}, R fs₁ fs₂ → R fs₂ fs₃ → R fs₁ fs₃) (hx : Moves R x)
    (hf : ∀ a, Moves R (f a)) : Moves R (x >>= f) :=
  Within.bind (fun h h' => trans h h') hx hf

theorem Moves.mapM (refl : ∀ fs, R fs fs)
    (trans : ∀ {fs₁ fs₂ fs₃}, R fs₁ fs₂ → R fs₂ fs₃ → R fs₁ fs₃) {as : List α}
    (h : ∀ a ∈ as, Moves R (f a)) : Moves R (as.mapM f) :=
  Within.mapM (fun w => refl w.files) (fun h h' => trans h h') h

theorem log_moves (refl : ∀ fs, R fs fs) (message : String) : Moves R (log message) :=
  moves_of_unchanged refl fun _ => rfl

theorem pure_moves (refl : ∀ fs, R fs fs) (a : α) : Moves R (pure a : Work α) :=
  moves_of_unchanged refl fun _ => rfl

/-- Some work touches these paths at most. -/
abbrev Touches (paths : List String) (x : Work α) : Prop := Moves (FileSystem.Touches paths) x

/-- What some work has touched when it ends so. -/
theorem Touches.touched {r : Except ReleaseError α} (hx : Touches paths x) (hfs : w.files.LinkFree)
    (h : x w = (r, w')) : Touched paths w.files w'.files := by
  have := hx w hfs
  rwa [h] at this

theorem during_touches {step : FileStep} {action : FileAction α}
    (h : Within (FileSystem.Touches paths) action) : Touches paths (during step p action) :=
  during_moves h

theorem Touches.bind (hx : Touches paths x) (hf : ∀ a, Touches paths (f a)) :
    Touches paths (x >>= f) :=
  Moves.bind FileSystem.Touches.trans hx hf

theorem Touches.mapM {as : List α} (h : ∀ a ∈ as, Touches paths (f a)) :
    Touches paths (as.mapM f) :=
  Moves.mapM (FileSystem.Touches.refl paths) FileSystem.Touches.trans h

theorem pure_touches (a : α) : Touches paths (pure a : Work α) :=
  pure_moves (FileSystem.Touches.refl paths) a

end Work

section Moves

variable {R : FileSystem → FileSystem → Prop} (refl : ∀ fs, R fs fs)
  (trans : ∀ {fs₁ fs₂ fs₃}, R fs₁ fs₂ → R fs₂ fs₃ → R fs₁ fs₃)
include refl trans

theorem hashFile_moves (p : String) : Work.Moves R (hashFile p) := by
  have hopen : Within R (openPath p) := within_of_unchanged refl fun _ => openPath_unchanged rfl
  have hread : ∀ loc, Within R (readAt loc) := fun loc =>
    within_of_unchanged refl fun _ => readAt_unchanged rfl
  refine (Work.during_moves hopen).bind trans fun loc => ?_
  exact (Work.during_moves (hread loc)).bind trans fun _ => Work.pure_moves refl _

theorem writeSidecar_moves (write : ∀ text, Within R (writeText (Path.sidecar p) text)) :
    Work.Moves R (writeSidecar p) := by
  refine (hashFile_moves refl trans p).bind trans fun _ => ?_
  exact (Work.during_moves (write _)).bind trans fun _ => Work.pure_moves refl _

theorem readSidecar_moves (p : String) : Work.Moves R (readSidecar p) := by
  have hread : Within R (readText p) := within_of_unchanged refl fun _ => readText_unchanged rfl
  refine (Work.during_moves hread).bind trans fun contents => ?_
  split <;> exact Work.moves_of_unchanged refl fun _ => rfl

namespace Layout

variable {layout : Layout} {b : Build}

/-- The names in the release that the files of a build get. -/
def namesOf (b : Build) : List String := [b.tarball, b.sidecarName]

/-- **Staging a build does to the file system what copying its files and writing its sidecar
do.** -/
theorem stage_moves
    (copy : ∀ name ∈ namesOf b, ∀ source,
      Within R (copyFile source (join layout.releaseDir name)))
    (write : ∀ text, Within R (writeText (join layout.releaseDir b.sidecarName) text)) :
    Work.Moves R (layout.stage b) := by
  have hcopy : ∀ name ∈ namesOf b, ∀ dir, Work.Moves R (layout.copyInto dir name) :=
    fun name hname dir => Work.during_moves (copy name hname _)
  have hpackage := hcopy _ List.mem_cons_self
  have hsidecar := hcopy _ (List.mem_cons_of_mem _ List.mem_cons_self)
  have hdone : ∀ (message : String) (source : Source),
      Work.Moves R (do Work.log message; return source) := fun message source =>
    (Work.log_moves refl message).bind trans fun _ => Work.pure_moves refl source
  cases hsource : Source.ofBuild b with
  | built =>
    rw [stage_built hsource]
    refine (hpackage _).bind trans fun _ => ?_
    refine (writeSidecar_moves refl trans ?_).bind trans fun _ => hdone _ _
    rwa [sidecar_join]
  | prebuilt =>
    rw [stage_prebuilt hsource]
    refine (hpackage _).bind trans fun _ => ?_
    exact (hsidecar _).bind trans fun _ => hdone _ _

end Layout

end Moves

/-! ## Work that touches paths -/

theorem hashFile_touches (p : String) : Work.Touches paths (hashFile p) :=
  hashFile_moves (Touches.refl paths) Touches.trans p

theorem writeSidecar_touches (hp : Path.sidecar p ∈ paths) : Work.Touches paths (writeSidecar p) :=
  writeSidecar_moves (Touches.refl paths) Touches.trans (writeText_touches hp)

theorem readSidecar_touches (p : String) : Work.Touches paths (readSidecar p) :=
  readSidecar_moves (Touches.refl paths) Touches.trans p

/-- A sidecar that was written is there. -/
theorem writeSidecar_places {d : Digest} (hfs : w.files.LinkFree)
    (h : writeSidecar p w = (.ok d, w')) :
    (w'.files.file? (w.files.place (Path.sidecar p))).isSome := by
  rw [writeSidecar] at h
  obtain ⟨digest, w₁, hhash, h⟩ := bind_ok h
  obtain ⟨_, w₂, hwrite, h⟩ := bind_ok h
  cases h
  have ht : Touched [] w.files w₁.files := (hashFile_touches p).touched hfs hhash
  obtain ⟨fs, hrun, rfl⟩ := Work.during_ok hwrite
  rcases writeText_run ht.linkFree (Path.sidecar p) _ with ⟨loc, hloc, hok⟩ | ⟨-, e, herr⟩
  · rw [hok] at hrun
    cases hrun
    obtain ⟨hplace, hne, -⟩ := slot?_spec ht.linkFree hloc
    rw [← place_congr ht.current, ← hplace, file?_set hne, if_pos rfl]
    rfl
  · rw [herr] at hrun
    cases hrun

namespace Layout

variable {layout : Layout} {builds : List Build} {b : Build}

/-! ## Staging -/

theorem copyInto_touches {name : String} (hp : join layout.releaseDir name ∈ paths) (dir : String) :
    Work.Touches paths (layout.copyInto dir name) :=
  Work.during_touches (copyFile_touches hp _)

theorem stage_touches (h : ∀ name ∈ namesOf b, join layout.releaseDir name ∈ paths) :
    Work.Touches paths (layout.stage b) :=
  stage_moves (Touches.refl paths) Touches.trans (fun name hname => copyFile_touches (h name hname))
    (writeText_touches (h _ (List.mem_cons_of_mem _ List.mem_cons_self)))

theorem copyInto_places {dir name : String} (hfs : w.files.LinkFree)
    (h : layout.copyInto dir name w = (.ok (), w')) :
    (w'.files.file? (w.files.place (join layout.releaseDir name))).isSome := by
  obtain ⟨loc, c, hloc, hfiles⟩ := slot?_of_copyInto hfs h
  obtain ⟨hplace, hne, -⟩ := slot?_spec hfs hloc
  rw [hfiles, ← hplace, file?_set hne, if_pos rfl]
  rfl

/-- Both files of a build that was staged are there. -/
theorem stage_places {source : Source} (hfs : w.files.LinkFree)
    (h : layout.stage b w = (.ok source, w')) : ∀ name ∈ namesOf b,
      (w'.files.file? (w.files.place (join layout.releaseDir name))).isSome := by
  have hnames : ∀ {P : String → Prop}, P b.tarball → P b.sidecarName →
      ∀ name ∈ namesOf b, P name := by
    intro P hpackage hsidecar name hname
    rcases List.mem_cons.1 hname with rfl | hname
    · exact hpackage
    · rwa [List.mem_singleton.1 hname]
  cases hsource : Source.ofBuild b with
  | built =>
    rw [stage_built hsource] at h
    obtain ⟨_, w₁, hcopy, h⟩ := bind_ok h
    obtain ⟨digest, w₂, hside, h⟩ := bind_ok h
    cases h
    have ht : Touched [join layout.releaseDir b.tarball] w.files w₁.files :=
      (copyInto_touches List.mem_cons_self _).touched hfs hcopy
    have ht' : Touched [Path.sidecar (join layout.releaseDir b.tarball)] w₁.files w₂.files :=
      (writeSidecar_touches List.mem_cons_self).touched ht.linkFree hside
    refine hnames (ht'.kept _ (copyInto_places hfs hcopy)) ?_
    have hplaced := writeSidecar_places ht.linkFree hside
    rwa [sidecar_join, place_congr ht.current] at hplaced
  | prebuilt =>
    rw [stage_prebuilt hsource] at h
    obtain ⟨_, w₁, hcopy, h⟩ := bind_ok h
    obtain ⟨_, w₂, hcopy', h⟩ := bind_ok h
    cases h
    have ht : Touched [join layout.releaseDir b.tarball] w.files w₁.files :=
      (copyInto_touches List.mem_cons_self _).touched hfs hcopy
    have ht' : Touched [join layout.releaseDir (Path.sidecar b.tarball)] w₁.files w₂.files :=
      (copyInto_touches List.mem_cons_self _).touched ht.linkFree hcopy'
    refine hnames (ht'.kept _ (copyInto_places hfs hcopy)) ?_
    have hplaced := copyInto_places ht.linkFree hcopy'
    rwa [place_congr ht.current] at hplaced

/-- The files of all builds that were staged are there. -/
theorem mapM_stage_places {sources : List Source} (hfs : w.files.LinkFree)
    (h : (builds.mapM layout.stage) w = (.ok sources, w')) : ∀ name ∈ builds.flatMap namesOf,
      (w'.files.file? (w.files.place (join layout.releaseDir name))).isSome := by
  induction builds generalizing w sources with
  | nil => nofun
  | cons b builds ih =>
    obtain ⟨source, sources', w₁, hb, hrest, -⟩ := mapM_cons_ok h
    have ht := (stage_touches fun _ => List.mem_map_of_mem).touched hfs hb
    have ht' : Touched ((builds.flatMap namesOf).map (join layout.releaseDir)) w₁.files w'.files :=
      (Work.Touches.mapM fun c hc => stage_touches fun name hname =>
        List.mem_map_of_mem (List.mem_flatMap.2 ⟨c, hc, hname⟩)).touched ht.linkFree hrest
    intro name hname
    rw [List.flatMap_cons] at hname
    rcases List.mem_append.1 hname with hname | hname
    · exact ht'.kept _ (stage_places hfs hb name hname)
    · have := ih ht.linkFree hrest name hname
      rwa [place_congr ht.current] at this

/-! ## The whole release -/

/-- The paths of the packages of a release, of their sidecars and of the manifest. -/
def releasePaths (layout : Layout) (builds : List Build) : List String :=
  (builds.flatMap namesOf ++ [manifestName, Path.sidecar manifestName]).map (join layout.releaseDir)

theorem manifest_touches (layout : Layout) (builds : List Build) :
    Work.Touches paths (layout.manifest builds) := by
  refine (Work.Touches.mapM fun b _ => ?_).bind fun _ => Work.pure_touches _
  exact (readSidecar_touches _).bind fun _ => Work.pure_touches _

theorem writeManifest_touches (layout : Layout) (builds : List Build) :
    Work.Touches (layout.releasePaths builds) (layout.writeManifest builds) := by
  have hmem : ∀ name ∈ [manifestName, Path.sidecar manifestName],
      join layout.releaseDir name ∈ layout.releasePaths builds := fun name hname =>
    List.mem_map_of_mem (List.mem_append_right _ hname)
  refine (manifest_touches layout builds).bind fun m => ?_
  refine (Work.during_touches (writeText_touches (hmem _ List.mem_cons_self) _)).bind fun _ => ?_
  refine (writeSidecar_touches ?_).bind fun digest => ?_
  · rw [sidecar_join]
    exact hmem _ (List.mem_cons_of_mem _ List.mem_cons_self)
  · exact (Work.log_moves (Touches.refl _) _).bind Touches.trans fun _ => Work.pure_touches _

theorem mapM_stage_touches (layout : Layout) (builds : List Build) :
    Work.Touches (layout.releasePaths builds) (builds.mapM layout.stage) :=
  Work.Touches.mapM fun b hb => stage_touches fun _ hname =>
    List.mem_map_of_mem (List.mem_append_left _ (List.mem_flatMap.2 ⟨b, hb, hname⟩))

theorem mapM_stage_makesNoLinks (layout : Layout) (builds : List Build) :
    Within (fun w w' : WorkState => w.files.LinkFree → w'.files.LinkFree)
      (builds.mapM layout.stage) :=
  fun w hfs => (mapM_stage_touches layout builds w hfs).linkFree

theorem ensureDirectories_touches (p : String) :
    Within (FileSystem.Touches paths) (ensureDirectories p) :=
  fun _ hfs => (ensureDirectories_grown hfs p).touched hfs paths

/-- **A release touches its own paths and no others**, whether it succeeds or not. -/
theorem assemble_touches (layout : Layout) (builds : List Build) :
    Work.Touches (layout.releasePaths builds) (layout.assemble builds) := by
  refine (Work.during_touches (ensureDirectories_touches _)).bind fun _ => ?_
  refine (mapM_stage_touches layout builds).bind fun sources => ?_
  exact (writeManifest_touches layout builds).bind fun _ => Work.pure_touches _

/-- The files of all builds of a finished release are there. -/
theorem assemble_places {summary : Summary} (hfs : w.files.LinkFree)
    (h : layout.assemble builds w = (.ok summary, w')) : ∀ name ∈ builds.flatMap namesOf,
      (w'.files.file? (w.files.place (join layout.releaseDir name))).isSome := by
  obtain ⟨fs₁, sources, w₂, hensure, hstage, hmanifest⟩ := assemble_ok h
  have hgrown := grown_of_ensureDirectories hfs hensure
  have hfs₁ := hgrown.linkFree hfs
  have ht := (mapM_stage_touches layout builds).touched (w := { w with files := fs₁ }) hfs₁ hstage
  have ht' := (writeManifest_touches layout builds).touched ht.linkFree hmanifest
  intro name hname
  rw [← place_congr hgrown.current]
  exact ht'.kept _ (mapM_stage_places (w := { w with files := fs₁ }) hfs₁ hstage name hname)

/-- **A release changes files inside its directory, and those of packages whose names lead out of
it.** This holds whether it succeeds or not; if it does, there is a file wherever one of the names
leads. -/
theorem assemble_footprint (layout : Layout) (builds : List Build) (hfs : w.files.LinkFree) :
    (∀ loc, (layout.assemble builds w).2.files.file? loc ≠ w.files.file? loc →
      Inside (w.files.place layout.releaseDir) loc ∨
      ∃ name ∈ builds.flatMap namesOf, stays name = false ∧
        loc = w.files.place (join layout.releaseDir name)) ∧
    ((layout.assemble builds w).1.isOk = true → ∀ name ∈ builds.flatMap namesOf,
      ((layout.assemble builds w).2.files.file?
        (w.files.place (join layout.releaseDir name))).isSome) := by
  refine ⟨fun loc hloc => ?_, fun hok => ?_⟩
  · have hpath : ∃ p ∈ layout.releasePaths builds, loc = w.files.place p := by
      by_cases hpath : ∃ p ∈ layout.releasePaths builds, loc = w.files.place p
      · exact hpath
      · exact absurd ((assemble_touches layout builds w hfs).other loc
          fun p hp heq => hpath ⟨p, hp, heq⟩) hloc
    obtain ⟨p, hp, rfl⟩ := hpath
    obtain ⟨name, hname, rfl⟩ := List.mem_map.1 hp
    -- a name that does not stay is no name of the manifest
    by_cases hstays : stays name = true
    · exact .inl (stays_iff.1 hstays _ _)
    refine .inr ⟨name, (List.mem_append.1 hname).resolve_right fun hmanifest => hstays ?_,
      Bool.not_eq_true _ ▸ hstays, rfl⟩
    rcases List.mem_cons.1 hmanifest with rfl | hmanifest
    · exact stays_of_plainName plainName_manifest
    · rw [List.mem_singleton.1 hmanifest]
      exact stays_of_plainName plainName_manifest.sidecar
  · obtain ⟨summary, h⟩ := exists_of_isOk hok
    exact assemble_places hfs h

/-- A package whose name leads to the directory above. -/
def climbingBuild : Build where
  platform := { id := "p", runner := "r", triplet := "x" }
  version := "1"
  commit := "0"
  sharedLibs := ""
  linkage := .static
  packageVersion := "1"
  tarball := "../x"
  prebuilt := false

/-- The text of the matrix that has only this package. -/
def climbingText : String :=
  "[\x7b\"platform\":\"p\",\"os\":\"r\",\"triplet\":\"x\",\"version\":\"1\",\"sha\":\"0\"," ++
  "\"linkage\":\"Static\",\"pkg_version\":\"1\",\"tarball\":\"../x\",\"prebuilt\":false\x7d]"

/-- A release that is not as deep as the directory that new packages come from. -/
def climbingLayout : Layout := { artifactsDir := "a/b", releaseDir := "r" }

/-- The package, and no release. -/
def climbingState : WorkState where
  files := ((empty.set ["a"] .directory).set ["b", "a"] .directory).set ["x", "a"] (.file [1])

theorem linkFree_climbingState : climbingState.files.LinkFree :=
  have hne {name : String} {dir : Location} : name :: dir ≠ [] := List.cons_ne_nil _ _
  ((linkFree_empty.set_directory hne).set_directory hne).set_file hne _

theorem climbing_run :
    (climbingLayout.assemble [climbingBuild] climbingState).1.isOk = true ∧
      (climbingLayout.assemble [climbingBuild] climbingState).2.files.file? ["x"] = some [1] := by
  decide +kernel

theorem assemble_footprint_climbing :
    climbingState.files.LinkFree ∧
    (climbingLayout.assemble [climbingBuild] climbingState).1.isOk = true ∧
    (∀ loc, (climbingLayout.assemble [climbingBuild] climbingState).2.files.file? loc ≠
        climbingState.files.file? loc →
      Inside (climbingState.files.place "r") loc ∨
      ∃ name ∈ ["../x", "../x.sha256"], stays name = false ∧
        loc = climbingState.files.place (join "r" name)) ∧
    ∀ name ∈ ["../x", "../x.sha256"],
      ((climbingLayout.assemble [climbingBuild] climbingState).2.files.file?
        (climbingState.files.place (join "r" name))).isSome := by
  obtain ⟨hchanged, hplaced⟩ :=
    assemble_footprint climbingLayout [climbingBuild] linkFree_climbingState
  exact ⟨linkFree_climbingState, climbing_run.1, hchanged, hplaced climbing_run.1⟩

/-- A package that is written next to the release, as its name in the matrix says. -/
theorem climbing_writes_outside :
    (readMatrix climbingText).toOption = some [climbingBuild] ∧
    climbingState.files.LinkFree ∧
    (climbingLayout.assemble [climbingBuild] climbingState).1.isOk = true ∧
    climbingState.files.file? ["x"] = none ∧
    (climbingLayout.assemble [climbingBuild] climbingState).2.files.file? ["x"] = some [1] ∧
    ¬ Inside (climbingState.files.place climbingLayout.releaseDir) ["x"] := by
  have houtside : ¬ Inside ["r"] ["x"] := by
    rintro ⟨front, hne, h⟩
    have hlength := congrArg List.length h
    rw [List.length_append] at hlength
    exact hne (List.length_eq_zero_iff.1 (Nat.succ.inj hlength).symm)
  have hplace : climbingState.files.place climbingLayout.releaseDir = ["r"] := by decide
  exact ⟨by decide +kernel, linkFree_climbingState, climbing_run.1, by decide +kernel,
    climbing_run.2, hplace ▸ houtside⟩

end Layout

end Packaging
