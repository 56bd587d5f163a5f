import Packaging.Proofs.Build
import Packaging.Proofs.Matrix
import Packaging.Proofs.Release.Staging

/-!
# Builds staged one after another

What the release should hold of a build is fixed by the source directories, which staging never
touches when the release is another directory. So it is enough that no file of one build stands in
the way of another (`Apart`), which the names of generated packages guarantee.

* `apart_of_generate`: the builds of a generated matrix keep apart.
* `Progress.stage`: one more staged build keeps what was staged before.
* `Progress.mapM_stage`: after all builds were staged, the release holds each of them.
-/

namespace Packaging

open Packaging.Action FileSystem Packaging.Path

/-! ## Builds that keep apart -/

/-- No file of a build stands in the way of a file of another build or of the manifest. -/
structure Apart (builds : List Build) : Prop where
  plain : ∀ b ∈ builds, PlainName b.tarball
  sidecar : ∀ b ∈ builds, ∀ c ∈ builds, b.tarball ≠ Path.sidecar c.tarball
  source : ∀ b ∈ builds, ∀ c ∈ builds, b.tarball = c.tarball → Source.ofBuild b = Source.ofBuild c
  manifest : ∀ b ∈ builds, b.tarball ≠ manifestName
  manifestSidecar : ∀ b ∈ builds, b.tarball ≠ Path.sidecar manifestName
  sidecarManifest : ∀ b ∈ builds, Path.sidecar b.tarball ≠ manifestName

section Generated

variable {p : Plan} {forge : Forge} {builds : List Build} {j j' : Journal}

/-- No generated package is named like a sidecar. -/
theorem tarball_ne_sidecar (h : p.generate forge j = (.ok builds, j')) :
    ∀ b ∈ builds, ∀ p, b.tarball ≠ Path.sidecar p := by
  obtain ⟨published, hnames⟩ := Plan.names_of_generate h
  intro b hb p
  obtain ⟨⟨id, version, ht⟩, -⟩ := hnames b hb
  rw [ht]
  exact tarballName_ne_sidecar p

/-- **The builds of a generated matrix keep apart**, if no package has a slash in its name. -/
theorem apart_of_generate (h : p.generate forge j = (.ok builds, j'))
    (hslash : ∀ b ∈ builds, '/' ∉ b.tarball.toList) : Apart builds := by
  obtain ⟨published, hnames⟩ := Plan.names_of_generate h
  have hsidecar := tarball_ne_sidecar h
  constructor
  case plain =>
    intro b hb
    obtain ⟨⟨id, version, ht⟩, -⟩ := hnames b hb
    have hplain := hslash b hb
    rw [ht] at hplain ⊢
    exact plainName_tarballName hplain
  case sidecar => exact fun b hb c _ => hsidecar b hb _
  case source =>
    intro b hb c hc heq
    rw [Source.ofBuild, Source.ofBuild, (hnames b hb).2, (hnames c hc).2, heq]
  case manifest =>
    intro b hb heq
    obtain ⟨⟨id, version, ht⟩, -⟩ := hnames b hb
    have hhead := @head?_tarballName id version
    rw [← ht, heq] at hhead
    exact absurd hhead (by decide)
  case manifestSidecar => exact fun b hb => hsidecar b hb _
  case sidecarManifest =>
    intro b _ heq
    have hlast := getLast?_sidecar b.tarball
    rw [heq] at hlast
    exact absurd hlast (by decide)

end Generated

/-! ## What the release should hold -/

namespace Layout

variable {layout : Layout} {fs fs₁ : FileSystem} {w w' : WorkState} {builds all done : List Build}
  {b : Build}

/-- The package of a build in its source directory. -/
def expectedPackage (layout : Layout) (fs : FileSystem) (b : Build) : Option Content :=
  fs.content? (join ((Source.ofBuild b).directory layout) b.tarball)

/-- The sidecar that a build should get: the published one, or else the hash of the package. -/
def expectedSidecar (layout : Layout) (fs : FileSystem) (b : Build) : Option Content :=
  match Source.ofBuild b with
  | .prebuilt => fs.content? (join layout.prebuiltDir (Path.sidecar b.tarball))
  | .built => (layout.expectedPackage fs b).map (sidecarContent · b.tarball)

/-- Builds of one package and one source should get the same files. -/
theorem expected_congr {c : Build} (ht : b.tarball = c.tarball)
    (hs : Source.ofBuild b = Source.ofBuild c) :
    layout.expectedPackage fs b = layout.expectedPackage fs c ∧
      layout.expectedSidecar fs b = layout.expectedSidecar fs c := by
  have hp : layout.expectedPackage fs b = layout.expectedPackage fs c := by
    rw [expectedPackage, expectedPackage, ht, hs]
  exact ⟨hp, by rw [expectedSidecar, expectedSidecar, hp, ht, hs]⟩

/-- The release is another directory than both sources. -/
structure Separate (layout : Layout) (fs : FileSystem) : Prop where
  prebuilt : fs.place layout.prebuiltDir ≠ fs.place layout.releaseDir
  artifacts : fs.place layout.artifactsDir ≠ fs.place layout.releaseDir

theorem Separate.directory (h : layout.Separate fs) (source : Source) :
    fs.place (source.directory layout) ≠ fs.place layout.releaseDir := by
  cases source with
  | prebuilt => exact h.prebuilt
  | built => exact h.artifacts

/-- How far staging has come since `fs₁`: other directories are as they were, and the release holds
what it should of the builds that are done. -/
structure Progress (layout : Layout) (fs₁ fs : FileSystem) (done : List Build) : Prop where
  linkFree : fs.LinkFree
  sameDirs : SameDirs fs₁ fs
  outside : ∀ dir name, PlainName name → fs₁.place dir ≠ fs₁.place layout.releaseDir →
    fs.content? (join dir name) = fs₁.content? (join dir name)
  package : ∀ b ∈ done, ∃ c, layout.expectedPackage fs₁ b = some c ∧
    fs.content? (join layout.releaseDir b.tarball) = some c
  sidecar : ∀ b ∈ done, ∃ c, layout.expectedSidecar fs₁ b = some c ∧
    fs.content? (join layout.releaseDir (Path.sidecar b.tarball)) = some c

theorem Progress.start (hfs : fs.LinkFree) : layout.Progress fs fs [] :=
  ⟨hfs, .refl fs, fun _ _ _ _ => rfl, nofun, nofun⟩

/-- A build that is staged now gets what it should. -/
theorem Progress.expected {package sidecar : Content} {loc loc' : Location}
    (hp : layout.Progress fs₁ fs done) (hsep : layout.Separate fs₁) (hname : PlainName b.tarball)
    (hs : layout.Stages fs b package sidecar loc loc') :
    (∃ c, layout.expectedPackage fs₁ b = some c ∧
      (layout.stagedFiles fs b package sidecar loc loc').content?
        (join layout.releaseDir b.tarball) = some c) ∧
    ∃ c, layout.expectedSidecar fs₁ b = some c ∧
      (layout.stagedFiles fs b package sidecar loc loc').content?
        (join layout.releaseDir (Path.sidecar b.tarball)) = some c := by
  have hplace : ∀ dir, fs.place dir = fs₁.place dir := place_congr hp.sameDirs.current
  have hcopied : ∀ source c, layout.copied fs (Source.directory layout source) c = c := by
    intro source c
    rw [copied, hplace, hplace, if_neg (hsep.directory source)]
  have hpackage : layout.expectedPackage fs₁ b = some package := by
    rw [expectedPackage, ← hp.outside _ _ hname (hsep.directory _)]
    exact hs.package
  have hsidecar : layout.expectedSidecar fs₁ b =
      some (layout.stagedSidecar fs b package sidecar) := by
    rw [expectedSidecar, stagedSidecar, hpackage]
    cases hsource : Source.ofBuild b with
    | built => rfl
    | prebuilt =>
      show _ = some (layout.copied fs (Source.directory layout .prebuilt) sidecar)
      rw [hcopied, ← hp.outside _ _ hname.sidecar hsep.prebuilt]
      exact hs.sidecar hsource
  have hpackage' := hs.content?_package hp.linkFree hname
  have hsidecar' := hs.content?_sidecar hp.linkFree
  rw [hcopied] at hpackage' hsidecar'
  exact ⟨⟨_, hpackage, hpackage'⟩, _, hsidecar, hsidecar'⟩

/-- **One more staged build keeps what was staged before.** -/
theorem Progress.stage {source : Source} (hp : layout.Progress fs₁ w.files done)
    (hsep : layout.Separate fs₁) (hall : Apart all) (hdone : ∀ d ∈ done, d ∈ all) (hb : b ∈ all)
    (h : layout.stage b w = (.ok source, w')) :
    source = Source.ofBuild b ∧ layout.Progress fs₁ w'.files (done ++ [b]) := by
  have hname := hall.plain b hb
  rcases stage_run layout hp.linkFree hname with
    ⟨package, sidecar, loc, loc', w₁, hs, hw₁, hstage⟩ | ⟨-, e, w₁, hstage⟩
  case inr => rw [hstage] at h; cases h
  rw [hstage] at h
  cases h
  obtain ⟨hpackage, hsidecar⟩ := hp.expected hsep hname hs
  rw [hw₁]
  refine ⟨rfl, hs.linkFree hp.linkFree, hp.sameDirs.trans (hs.sameDirs hp.linkFree), ?_, ?_, ?_⟩
  · intro dir name hn hdir
    have hplace : ∀ dir, w.files.place dir = fs₁.place dir := place_congr hp.sameDirs.current
    rw [hs.content?_other hp.linkFree hname hn (.inr (by rw [hplace, hplace]; exact hdir))]
    exact hp.outside dir name hn hdir
  -- of several builds of one package the last one stays, which gets the same files
  · intro d hd
    rcases List.mem_append.1 hd with hd | hd
    · by_cases ht : d.tarball = b.tarball
      · rw [(expected_congr ht (hall.source d (hdone d hd) b hb ht)).1, ht]
        exact hpackage
      · rw [hs.content?_other hp.linkFree hname (hall.plain d (hdone d hd))
          (.inl ⟨ht, hall.sidecar d (hdone d hd) b hb⟩)]
        exact hp.package d hd
    · rcases List.mem_singleton.1 hd
      exact hpackage
  · intro d hd
    rcases List.mem_append.1 hd with hd | hd
    · by_cases ht : d.tarball = b.tarball
      · rw [(expected_congr ht (hall.source d (hdone d hd) b hb ht)).2, ht]
        exact hsidecar
      · rw [hs.content?_other hp.linkFree hname (hall.plain d (hdone d hd)).sidecar
          (.inl ⟨(hall.sidecar b hb d (hdone d hd)).symm, fun hc => ht (sidecar_injective hc)⟩)]
        exact hp.sidecar d hd
    · rcases List.mem_singleton.1 hd
      exact hsidecar

/-- **After all builds were staged, the release holds each of them.** -/
theorem Progress.mapM_stage {sources : List Source} (hp : layout.Progress fs₁ w.files done)
    (hsep : layout.Separate fs₁) (hall : Apart all) (hdone : ∀ d ∈ done, d ∈ all)
    (hbuilds : ∀ b ∈ builds, b ∈ all)
    (h : (builds.mapM layout.stage) w = (.ok sources, w')) :
    sources = builds.map Source.ofBuild ∧ layout.Progress fs₁ w'.files (done ++ builds) := by
  induction builds generalizing done w sources with
  | nil =>
    obtain ⟨rfl, rfl⟩ := mapM_nil_ok h
    rw [List.append_nil]
    exact ⟨rfl, hp⟩
  | cons b builds ih =>
    obtain ⟨source, sources', w₁, hb, hrest, rfl⟩ := mapM_cons_ok h
    have hmem := hbuilds b List.mem_cons_self
    obtain ⟨rfl, hp₁⟩ := hp.stage hsep hall hdone hmem hb
    have hdone₁ : ∀ d ∈ done ++ [b], d ∈ all := by
      intro d hd
      rcases List.mem_append.1 hd with hd | hd
      · exact hdone d hd
      · rcases List.mem_singleton.1 hd; exact hmem
    obtain ⟨rfl, hp₂⟩ := ih hp₁ hdone₁ (fun c hc => hbuilds c (List.mem_cons_of_mem _ hc)) hrest
    rw [List.append_assoc, List.singleton_append] at hp₂
    exact ⟨rfl, hp₂⟩

end Layout

end Packaging
