import Packaging.Proofs.Release.Footprint

/-!
# What making a release leaves as it was

* `Confined.set`, `Confined.trans`: filling a name of the release changes nothing else in it.
* `mapM_stage_confined`: staging builds fills their names only.
* `assemble_confined`: a release gets the files of its builds and of the manifest, and keeps what it
  had besides.
-/

namespace Packaging

open Packaging.Action FileSystem Packaging.Path Text

namespace Layout

variable {layout : Layout} {names names' : List String} {fs fs₁ fs₂ : FileSystem}
  {w w' : WorkState} {builds : List Build} {b : Build}

/-! ## Names of the release -/

/-- From the first file system to the second only these names of the release were filled. -/
structure Confined (layout : Layout) (names : List String) (fs fs₁ : FileSystem) : Prop where
  linkFree : fs₁.LinkFree
  wellNamed : fs₁.WellNamed
  current : fs₁.current = fs.current
  other : ∀ name, PlainName name → name ∉ names →
    fs₁.content? (join layout.releaseDir name) = fs.content? (join layout.releaseDir name)

theorem Confined.refl (layout : Layout) (hfs : fs.LinkFree) (hnamed : fs.WellNamed) :
    layout.Confined [] fs fs :=
  ⟨hfs, hnamed, rfl, fun _ _ _ => rfl⟩

theorem Confined.trans (h : layout.Confined names fs fs₁) (h' : layout.Confined names' fs₁ fs₂) :
    layout.Confined (names ++ names') fs fs₂ := by
  refine ⟨h'.linkFree, h'.wellNamed, h'.current.trans h.current, fun name hname hnot => ?_⟩
  rw [List.mem_append, not_or] at hnot
  rw [h'.other name hname hnot.2, h.other name hname hnot.1]

theorem Confined.set {name : String} {loc : Location} (hfs : fs.LinkFree) (hnamed : fs.WellNamed)
    (hname : PlainName name) (hloc : fs.slot? (join layout.releaseDir name) = some loc)
    (c : Content) : layout.Confined [name] fs (fs.set loc (.file c)) := by
  refine ⟨linkFree_set_slot hfs hloc c, hnamed.set_slot hfs hname hloc, rfl, fun n hn hnot => ?_⟩
  exact content?_set_join hfs hn hname hloc (.inl (List.ne_of_not_mem_cons hnot)) c

theorem Confined.set_set {name₁ name₂ : String} {loc₁ loc₂ : Location} (hfs : fs.LinkFree)
    (hnamed : fs.WellNamed) (h₁ : PlainName name₁) (h₂ : PlainName name₂)
    (hloc₁ : fs.slot? (join layout.releaseDir name₁) = some loc₁)
    (hloc₂ : fs.slot? (join layout.releaseDir name₂) = some loc₂) (c₁ c₂ : Content) :
    layout.Confined [name₁, name₂] fs ((fs.set loc₁ (.file c₁)).set loc₂ (.file c₂)) := by
  have hset := Confined.set hfs hnamed h₁ hloc₁ c₁
  rw [← slot?_set hfs hloc₁ c₁] at hloc₂
  exact hset.trans (.set hset.linkFree hset.wellNamed h₂ hloc₂ c₂)

/-! ## Staging -/

theorem stage_confined {source : Source} (hfs : w.files.LinkFree) (hnamed : w.files.WellNamed)
    (hname : PlainName b.tarball) (h : layout.stage b w = (.ok source, w')) :
    layout.Confined (namesOf b) w.files w'.files := by
  rcases stage_run layout hfs hname with
    ⟨package, sidecar, loc, loc', w₁, hs, hw₁, hstage⟩ | ⟨-, e, w₁, hstage⟩
  case inr => rw [hstage] at h; cases h
  rw [hstage] at h
  cases h
  rw [hw₁]
  exact .set_set hfs hnamed hname hname.sidecar hs.packageSlot hs.sidecarSlot _ _

/-- **Staging builds fills their names only.** -/
theorem mapM_stage_confined {sources : List Source} (hfs : w.files.LinkFree)
    (hnamed : w.files.WellNamed) (hplain : ∀ b ∈ builds, PlainName b.tarball)
    (h : (builds.mapM layout.stage) w = (.ok sources, w')) :
    layout.Confined (builds.flatMap namesOf) w.files w'.files := by
  induction builds generalizing w sources with
  | nil =>
    obtain ⟨-, rfl⟩ := mapM_nil_ok h
    exact .refl layout hfs hnamed
  | cons b builds ih =>
    obtain ⟨source, sources', w₁, hb, hrest, rfl⟩ := mapM_cons_ok h
    have hstep := stage_confined hfs hnamed (hplain b List.mem_cons_self) hb
    rw [List.flatMap_cons]
    exact hstep.trans (ih hstep.linkFree hstep.wellNamed
      (fun c hc => hplain c (List.mem_cons_of_mem _ hc)) hrest)

/-! ## The whole release -/

theorem writeManifest_confined {path : String} {digest : Digest} (hfs : w.files.LinkFree)
    (hnamed : w.files.WellNamed) (hplain : ∀ b ∈ builds, PlainName b.tarball)
    (h : layout.writeManifest builds w = (.ok (path, digest), w')) :
    layout.Confined [manifestName, Path.sidecar manifestName] w.files w'.files := by
  obtain ⟨m, w₁, hm, -⟩ := bind_ok h
  obtain ⟨rfl, -, -⟩ := manifest_ok hfs hplain hm
  obtain ⟨-, -, loc, loc', hloc, hloc', hfiles⟩ := writeManifest_files hfs hm h
  rw [hfiles]
  exact .set_set hfs hnamed plainName_manifest plainName_manifest.sidecar hloc hloc' _ _

/-- **A release gets the files of its builds and of the manifest** and, but for directories that are
made on the way to it, keeps what it had besides. -/
theorem assemble_confined {summary : Summary} (hfs : w.files.LinkFree) (hnamed : w.files.WellNamed)
    (hplain : ∀ b ∈ builds, PlainName b.tarball)
    (h : layout.assemble builds w = (.ok summary, w')) :
    ∃ fs₁, Grown w.files fs₁ ∧ fs₁.LinkFree ∧
      layout.Confined (builds.flatMap namesOf ++ [manifestName, Path.sidecar manifestName])
        fs₁ w'.files := by
  obtain ⟨fs₁, sources, w₂, hensure, hstage, hmanifest⟩ := assemble_ok h
  have hgrown := grown_of_ensureDirectories hfs hensure
  obtain ⟨hfs₁, hnamed₁⟩ := ensureDirectories_keepsNames layout.releaseDir w.files ⟨hfs, hnamed⟩
  rw [hensure] at hfs₁ hnamed₁
  have hstaged := mapM_stage_confined (w := { w with files := fs₁ }) hfs₁ hnamed₁ hplain hstage
  exact ⟨fs₁, hgrown, hfs₁, hstaged.trans
    (writeManifest_confined hstaged.linkFree hstaged.wellNamed hplain hmanifest)⟩

end Layout

end Packaging
