import Packaging.CommandLine.Run
import Packaging.Proofs.Release.Footprint

/-!
# What a release that fails leaves behind

A release stops at its first failure. What was staged before stays staged, what comes after is never
looked at, and the manifest is written only once every sidecar has been read.

* `assemble_stage_error`: the first build that cannot be staged decides the error and the files.
* `assemble_row_error`: so does the first build whose sidecar gives no digest.
* `unpublished_of_staging`: staging leaves the manifest alone.
* `failure_publishes_nothing`: all of this together.
* `release_through_manifest`: a release directory that is made by way of the manifest's place.
-/

namespace Packaging

open Packaging.Action FileSystem Packaging.Path

/-! ## Nodes at other places -/

namespace FileSystem

variable {fs fs' : FileSystem} {paths : List String} {p : String} {loc : Location}

/-- What stands elsewhere than at the places of these paths is as it was. -/
structure Spared (paths : List String) (fs fs' : FileSystem) : Prop where
  linkFree : fs'.LinkFree
  current : fs'.current = fs.current
  node? : ∀ loc, (∀ p ∈ paths, loc ≠ fs.place p) → fs'.node? loc = fs.node? loc

/-- File systems without links before an action were changed at these paths only. -/
def Spares (paths : List String) (fs fs' : FileSystem) : Prop := fs.LinkFree → Spared paths fs fs'

theorem Spares.refl (paths : List String) (fs : FileSystem) : Spares paths fs fs :=
  fun hfs => ⟨hfs, rfl, fun _ _ => rfl⟩

theorem Spares.trans {fs'' : FileSystem} (h : Spares paths fs fs') (h' : Spares paths fs' fs'') :
    Spares paths fs fs'' := by
  intro hfs
  have hs := h hfs
  have hs' := h' hs.linkFree
  refine ⟨hs'.linkFree, hs'.current.trans hs.current, fun loc hloc => ?_⟩
  rw [hs'.node? loc (by simpa only [place_congr hs.current] using hloc), hs.node? loc hloc]

theorem spared_set_slot (hfs : fs.LinkFree) (hloc : fs.slot? p = some loc) (hp : p ∈ paths)
    (c : Content) : Spared paths fs (fs.set loc (.file c)) := by
  obtain ⟨hplace, hne, -⟩ := slot?_spec hfs hloc
  refine ⟨linkFree_set_slot hfs hloc c, rfl, fun l hl => ?_⟩
  rw [node?_set hne, if_neg fun heq => hl p hp (heq.trans hplace)]

theorem writeText_spares (hp : p ∈ paths) (text : String) :
    Within (Spares paths) (writeText p text) := by
  intro fs hfs
  rcases writeText_run hfs p text with ⟨loc, hloc, h⟩ | ⟨-, e, h⟩
  · rw [h]; exact spared_set_slot hfs hloc hp _
  · rw [h]; exact Spares.refl paths fs hfs

theorem copyFile_spares (hp : p ∈ paths) (source : String) :
    Within (Spares paths) (copyFile source p) := by
  intro fs hfs
  rcases copyFile_effect hfs source p with ⟨e, h⟩ | ⟨loc, c, r, hloc, h⟩
  · rw [h]; exact Spares.refl paths fs hfs
  · rw [h]; exact spared_set_slot hfs hloc hp c

end FileSystem

namespace Layout

variable {layout : Layout} {w w₁ w₂ : WorkState} {fs : FileSystem} {builds done rest : List Build}
  {b : Build}

/-! ## The manifest -/

/-- The names of the manifest and of its sidecar. -/
def manifestNames : List String := [manifestName, Path.sidecar manifestName]

/-- No file of these builds goes where the manifest or its sidecar belongs. -/
def SparesManifest (layout : Layout) (fs : FileSystem) (builds : List Build) : Prop :=
  ∀ b ∈ builds, ∀ name ∈ namesOf b, ∀ m ∈ manifestNames,
    fs.place (join layout.releaseDir name) ≠ fs.place (join layout.releaseDir m)

/-- The manifest and its sidecar are as they were, but that one which was not there may have become
a directory on the way to the release. -/
def Unpublished (layout : Layout) (fs fs' : FileSystem) : Prop :=
  ∀ m ∈ manifestNames, ∀ loc, loc = fs.place (join layout.releaseDir m) →
    fs'.node? loc = fs.node? loc ∨
      fs.node? loc = none ∧ fs'.node? loc = some .directory ∧
        ∃ p ∈ chain layout.releaseDir.length layout.releaseDir, loc = fs.place p

/-- The paths of the packages of a release and of their sidecars. -/
def stagedPaths (layout : Layout) (builds : List Build) : List String :=
  (builds.flatMap namesOf).map (join layout.releaseDir)

theorem mapM_stage_spares (layout : Layout) (builds : List Build) :
    Work.Moves (Spares (layout.stagedPaths builds)) (builds.mapM layout.stage) := by
  refine Work.Moves.mapM (Spares.refl _) Spares.trans fun b hb => ?_
  have hmem : ∀ name ∈ namesOf b, join layout.releaseDir name ∈ layout.stagedPaths builds :=
    fun name hname => List.mem_map_of_mem (List.mem_flatMap.2 ⟨b, hb, hname⟩)
  refine stage_moves (Spares.refl _) Spares.trans (fun name hname => ?_) ?_
  · exact copyFile_spares (hmem name hname)
  · exact writeText_spares (hmem _ (List.mem_cons_of_mem _ List.mem_cons_self))

/-- **Staging leaves the manifest alone**, whether it succeeds or not. -/
theorem unpublished_of_staging {r : Except ReleaseError (List Source)} (hfs : w.files.LinkFree)
    (hspares : layout.SparesManifest w.files builds)
    (hensure : ensureDirectories layout.releaseDir w.files = (.ok (), fs))
    (hrun : (builds.mapM layout.stage) { w with files := fs } = (r, w₁)) :
    layout.Unpublished w.files w₁.files := by
  obtain ⟨hgrown, hnew⟩ : Grown w.files fs ∧ _ := by
    have := ensureDirectories_growsAt layout.releaseDir w.files hfs
    rwa [hensure] at this
  have hspared : Spared (layout.stagedPaths builds) fs w₁.files := by
    have := mapM_stage_spares layout builds { w with files := fs } (hgrown.linkFree hfs)
    rwa [hrun] at this
  rintro m hm loc rfl
  -- the place of the manifest is none of those that staging fills
  have hstaged := hspared.node? (w.files.place (join layout.releaseDir m)) fun p hp heq => by
    obtain ⟨name, hname, rfl⟩ := List.mem_map.1 hp
    obtain ⟨b, hb, hname⟩ := List.mem_flatMap.1 hname
    rw [place_congr hgrown.current] at heq
    exact hspares b hb name hname m hm heq.symm
  rw [hstaged]
  rcases hgrown.node? (w.files.place (join layout.releaseDir m)) with hsame | ⟨hnone, hdir⟩
  · exact .inl hsame
  · exact .inr ⟨hnone, hdir, hnew _ (by rw [hnone, hdir]; nofun)⟩

/-! ## The first failure -/

/-- **The first build that cannot be staged** decides the error and the files, whatever builds come
after it. -/
theorem assemble_stage_error {sources : List Source} {e : ReleaseError} (rest : List Build)
    (hensure : ensureDirectories layout.releaseDir w.files = (.ok (), fs))
    (hdone : (done.mapM layout.stage) { w with files := fs } = (.ok sources, w₁))
    (hb : layout.stage b w₁ = (.error e, w₂)) :
    layout.assemble (done ++ b :: rest) w = (.error e, w₂) := by
  rw [assemble, bind_of_ok (Work.during_of_ok hensure)]
  exact bind_of_error (mapM_append_error rest hdone hb)

theorem row_of_isOk {c : Build}
    (h : (readSidecar (Path.sidecar (layout.packagePath c)) w).1.isOk = true) :
    ∃ r, layout.row c w = (.ok r, w) := by
  obtain ⟨digest, hread⟩ := exists_of_isOk h
  rw [readSidecar_unchanged] at hread
  exact ⟨_, bind_of_ok hread⟩

/-- **The first build whose sidecar gives no digest** decides the error, and nothing is written. -/
theorem assemble_row_error {sources : List Source} {e : ReleaseError}
    (hensure : ensureDirectories layout.releaseDir w.files = (.ok (), fs))
    (hstage : ((done ++ b :: rest).mapM layout.stage) { w with files := fs } = (.ok sources, w₁))
    (hdone : ∀ c ∈ done, (readSidecar (Path.sidecar (layout.packagePath c)) w₁).1.isOk = true)
    (hb : (readSidecar (Path.sidecar (layout.packagePath b)) w₁).1 = .error e) :
    layout.assemble (done ++ b :: rest) w = (.error e, w₁) := by
  rw [assemble, bind_of_ok (Work.during_of_ok hensure), bind_of_ok hstage]
  obtain ⟨rows, hrows⟩ : ∃ rows, (done.mapM layout.row) w₁ = (.ok rows, w₁) := by
    have hrow : ∀ c ∈ done, ∃ r, layout.row c w₁ = (.ok r, w₁) := fun c hc =>
      row_of_isOk (hdone c hc)
    rcases mapM_run_of_unchanged (P := fun _ => True) fun c hc => .inl ⟨trivial, hrow c hc⟩
      with ⟨-, hrun⟩ | ⟨hnot, -⟩
    · exact hrun
    · exact absurd (fun _ _ => trivial) hnot
  have hread : readSidecar (Path.sidecar (layout.packagePath b)) w₁ = (.error e, w₁) :=
    Prod.ext hb (readSidecar_unchanged _ w₁)
  have hrow : layout.row b w₁ = (.error e, w₁) := bind_of_error hread
  have hmanifest : layout.manifest (done ++ b :: rest) w₁ = (.error e, w₁) :=
    bind_of_error (mapM_append_error rest hrows hrow)
  exact bind_of_error (bind_of_error hmanifest)

/-- **A release that fails publishes nothing.** A matrix that is rejected changes no file. Once the
release directory is made, the first build that cannot be staged, or else the first whose sidecar
gives no digest, decides the error; what was staged before stays, and the manifest is as it was. -/
theorem failure_publishes_nothing (layout : Layout) (hfs : w.files.LinkFree)
    (hspares : layout.SparesManifest w.files builds) :
    (∀ text fault, parseMatrix text = .error fault →
      (CommandLine.runRelease w.files text layout).files = w.files) ∧
    ∀ fs, ensureDirectories layout.releaseDir w.files = (.ok (), fs) →
      (∀ done b rest sources w₁ e w₂, builds = done ++ b :: rest →
        (done.mapM layout.stage) { w with files := fs } = (.ok sources, w₁) →
        layout.stage b w₁ = (.error e, w₂) →
        (∀ rest', layout.assemble (done ++ b :: rest') w = (.error e, w₂)) ∧
          layout.Unpublished w.files w₂.files) ∧
      ∀ done b rest sources w₁ e, builds = done ++ b :: rest →
        (builds.mapM layout.stage) { w with files := fs } = (.ok sources, w₁) →
        (∀ c ∈ done, (readSidecar (Path.sidecar (layout.packagePath c)) w₁).1.isOk = true) →
        (readSidecar (Path.sidecar (layout.packagePath b)) w₁).1 = .error e →
        layout.assemble builds w = (.error e, w₁) ∧ layout.Unpublished w.files w₁.files := by
  refine ⟨fun text fault hparse => ?_, fun fs hensure => ⟨?_, ?_⟩⟩
  · have hread : readMatrix text = .error (.matrix fault) := by rw [readMatrix, hparse]; rfl
    rw [CommandLine.runRelease, hread]
    rfl
  · rintro done b rest sources w₁ e w₂ rfl hdone hb
    refine ⟨fun rest' => assemble_stage_error rest' hensure hdone hb, ?_⟩
    exact unpublished_of_staging hfs hspares hensure (mapM_append_error rest hdone hb)
  · rintro done b rest sources w₁ e rfl hstage hdone hb
    refine ⟨assemble_row_error hensure hstage hdone hb, ?_⟩
    exact unpublished_of_staging hfs hspares hensure hstage

/-- A published package of this name. -/
def publishedAs (name : String) : Build := { publishedBuild with tarball := name }

/-- A release away from the directory of the published packages. -/
def awayLayout : Layout := { prebuiltDir := "d", releaseDir := "r" }

/-- Two packages, of which only the first has a sidecar that records a digest. -/
def unsoundState : WorkState where
  files := ((((empty.set ["d"] .directory).set ["t", "d"] (.file [1])).set ["t.sha256", "d"]
    (.file (List.replicate 64 97))).set ["u", "d"] (.file [2])).set ["u.sha256", "d"] (.file [120])

theorem linkFree_unsoundState : unsoundState.files.LinkFree :=
  have hne {name : String} {dir : Location} : name :: dir ≠ [] := List.cons_ne_nil _ _
  ((((linkFree_empty.set_directory hne).set_file hne _).set_file hne _).set_file hne _).set_file
    hne _

/-- The files once the release directory is made. -/
def madeFiles : FileSystem := (ensureDirectories "r" unsoundState.files).2

theorem madeFiles_eq :
    ensureDirectories awayLayout.releaseDir unsoundState.files = (.ok (), madeFiles) := by
  have hok : (ensureDirectories "r" unsoundState.files).1.isOk = true := by decide +kernel
  obtain ⟨_, hrun⟩ := exists_of_isOk hok
  exact hrun

/-- The first package can be staged, and then there is no second one. -/
theorem stage_missing : ∃ sources w₁ w₂,
    ([publishedAs "t"].mapM awayLayout.stage) { unsoundState with files := madeFiles } =
      (.ok sources, w₁) ∧
    awayLayout.stage (publishedAs "v") w₁ = (.error (.io .copy "d/v" .notFound), w₂) := by
  have hok : (([publishedAs "t"].mapM awayLayout.stage)
      { unsoundState with files := madeFiles }).1.isOk = true := by
    decide +kernel
  have hmissing : (awayLayout.stage (publishedAs "v") (([publishedAs "t"].mapM awayLayout.stage)
      { unsoundState with files := madeFiles }).2).1 = .error (.io .copy "d/v" .notFound) := by
    decide +kernel
  obtain ⟨sources, hrun⟩ := exists_of_isOk hok
  exact ⟨sources, _, _, hrun, eq_error_of_fst hmissing⟩

/-- Both packages can be staged, and the sidecar of the second one is no good. -/
theorem stage_unsound : ∃ sources w₁,
    ([publishedAs "t", publishedAs "u"].mapM awayLayout.stage)
      { unsoundState with files := madeFiles } = (.ok sources, w₁) ∧
    (∀ c ∈ [publishedAs "t"],
      (readSidecar (Path.sidecar (awayLayout.packagePath c)) w₁).1.isOk = true) ∧
    (readSidecar (Path.sidecar (awayLayout.packagePath (publishedAs "u"))) w₁).1 =
      .error (.sidecar "r/u.sha256" (.length 1 "x")) := by
  have hok : (([publishedAs "t", publishedAs "u"].mapM awayLayout.stage)
      { unsoundState with files := madeFiles }).1.isOk = true := by
    decide +kernel
  obtain ⟨sources, hrun⟩ := exists_of_isOk hok
  exact ⟨sources, _, hrun, by decide +kernel, by decide +kernel⟩

theorem sparesManifest_unsound (names : List String) (h : ∀ name ∈ names, name ∈ ["t", "u", "v"]) :
    awayLayout.SparesManifest unsoundState.files (names.map publishedAs) := by
  have hall : ∀ name ∈ ["t", "u", "v"], ∀ file ∈ namesOf (publishedAs name),
      ∀ m ∈ manifestNames, unsoundState.files.place (join awayLayout.releaseDir file) ≠
        unsoundState.files.place (join awayLayout.releaseDir m) := by
    decide +kernel
  intro b hb
  obtain ⟨name, hname, rfl⟩ := List.mem_map.1 hb
  exact hall name (h name hname)

theorem failure_publishes_nothing_unsound :
    unsoundState.files.LinkFree ∧
    (parseMatrix "[").isOk = false ∧
    (CommandLine.runRelease unsoundState.files "[" awayLayout).files = unsoundState.files ∧
    (∃ w₂, awayLayout.assemble [publishedAs "t", publishedAs "v", publishedAs "t"] unsoundState =
        (.error (.io .copy "d/v" .notFound), w₂) ∧
      awayLayout.Unpublished unsoundState.files w₂.files) ∧
    ∃ w₁, awayLayout.assemble [publishedAs "t", publishedAs "u"] unsoundState =
        (.error (.sidecar "r/u.sha256" (.length 1 "x")), w₁) ∧
      awayLayout.Unpublished unsoundState.files w₁.files := by
  have hparse : (parseMatrix "[").isOk = false := by decide +kernel
  obtain ⟨fault, hfault⟩ : ∃ fault, parseMatrix "[" = .error fault := by
    cases h : parseMatrix "[" with
    | error fault => exact ⟨fault, rfl⟩
    | ok builds => rw [h] at hparse; cases hparse
  obtain ⟨hrejected, hfailed⟩ := failure_publishes_nothing awayLayout linkFree_unsoundState
    (sparesManifest_unsound ["t", "v", "t"] (by decide))
  obtain ⟨-, hfailed'⟩ := failure_publishes_nothing awayLayout linkFree_unsoundState
    (sparesManifest_unsound ["t", "u"] (by decide))
  obtain ⟨sources, w₁, w₂, hdone, hmissing⟩ := stage_missing
  obtain ⟨hrun, hunpublished⟩ :=
    (hfailed _ madeFiles_eq).1 _ _ [publishedAs "t"] _ _ _ _ rfl hdone hmissing
  obtain ⟨sources', w₁', hstaged, hread, hunsound⟩ := stage_unsound
  obtain ⟨hrun', hunpublished'⟩ :=
    (hfailed' _ madeFiles_eq).2 _ _ [] _ _ _ rfl hstaged hread hunsound
  exact ⟨linkFree_unsoundState, hparse, hrejected _ _ hfault, ⟨w₂, hrun _, hunpublished⟩, w₁',
    hrun', hunpublished'⟩

/-- A release directory that is reached through the place of its manifest. -/
def windingLayout : Layout := { awayLayout with releaseDir := "r/releases.csv/.." }

/-- **A release whose path leads through the place of its manifest** makes a directory there, also
when no build can be staged. -/
theorem release_through_manifest :
    empty.LinkFree ∧
    windingLayout.SparesManifest empty [publishedAs "v"] ∧
    (windingLayout.assemble [publishedAs "v"] { files := empty }).1 =
      .error (.io .copy "d/v" .notFound) ∧
    empty.node? (empty.place (join windingLayout.releaseDir manifestName)) = none ∧
    (windingLayout.assemble [publishedAs "v"] { files := empty }).2.files.node?
      (empty.place (join windingLayout.releaseDir manifestName)) = some .directory := by
  refine ⟨linkFree_empty, ?_, by decide +kernel, by decide +kernel, by decide +kernel⟩
  unfold SparesManifest
  decide +kernel

end Layout

end Packaging
