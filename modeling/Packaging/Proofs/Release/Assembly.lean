import Packaging.Proofs.Digest
import Packaging.Proofs.Manifest
import Packaging.Proofs.Release.Progress
import Packaging.Proofs.Text.Utf8
import Mathlib.Data.List.DropRight

/-!
# An assembled release

Once all builds are staged, the manifest is made from the sidecars in the release and written next
to them. None of the names of the builds is a name of the manifest, so what was staged stays.

* `row_ok`, `mapM_row_ok`: rows are made from the sidecars, and making them changes nothing.
* `writeManifest_run`, `writeManifest_ok`: the two files that are written for the manifest.
* `assemble_ok`: the steps that make a release.
* `assemble_generated`: what a finished release of a generated matrix consists of.
-/

namespace Packaging

open Packaging.Action FileSystem Packaging.Path Text

namespace Layout

variable {layout : Layout} {fs : FileSystem} {w w' : WorkState} {builds : List Build} {b : Build}

/-! ## Rows -/

/-- The text of a build's sidecar in the release. -/
def sidecarText (layout : Layout) (fs : FileSystem) (b : Build) : String :=
  ((fs.content? (join layout.releaseDir b.sidecarName)).bind ofBytes?).getD ""

/-- The line of the manifest for a build, by the sidecar in the release: the platform's id in upper
case, where one id stands for another, the version, the linkage in lower case, the package under the
download base without the slashes at its end, and the first token of the sidecar. -/
def record (layout : Layout) (fs : FileSystem) (b : Build) : String :=
  ",".intercalate [
    upper (if b.platform.id = "linux-aarch64" then "linux-arm64" else b.platform.id), b.version,
    b.linkage.name.toLower,
    String.ofList (layout.downloadBase.toList.rdropWhile (· = '/')) ++ "/" ++ b.tarball,
    String.ofList (firstToken (layout.sidecarText fs b).toList)]

theorem label_eq_toLower (l : Linkage) : l.label = l.name.toLower := by
  cases l <;> decide +kernel

theorem recordedDigest?_eq_some {c : Content} {d : Digest} (h : recordedDigest? c = some d) :
    ∃ text, ofBytes? c = some text ∧ Digest.ofSidecar text = .ok d := by
  rw [recordedDigest?] at h
  cases ht : ofBytes? c with
  | none => rw [ht] at h; cases h
  | some text =>
    rw [ht, Option.map_some] at h
    cases hd : Digest.ofSidecar text with
    | error e => rw [hd] at h; cases h
    | ok d' => rw [hd] at h; cases h; exact ⟨text, rfl, hd⟩

/-- A row is made from the sidecar in the release, and making it changes nothing. -/
theorem row_ok {r : Manifest.Row} (hfs : w.files.LinkFree) (hname : PlainName b.tarball)
    (h : layout.row b w = (.ok r, w')) :
    w' = w ∧ r.csv = layout.record w.files b ∧
      ∃ text d, w.files.content? (join layout.releaseDir b.sidecarName) = some (bytesOf text) ∧
        Digest.ofSidecar text = .ok d := by
  rw [row, packagePath, sidecar_join] at h
  rcases readSidecar_run hfs (endsInName_join layout.releaseDir hname.sidecar) with
    ⟨c, d, hc, hd, hread⟩ | ⟨-, e, hread⟩
  · rw [bind_of_ok hread] at h
    cases h
    obtain ⟨text, ht, htext⟩ := recordedDigest?_eq_some hd
    have hside : w.files.content? (join layout.releaseDir b.sidecarName) = some c := hc
    refine ⟨rfl, ?_, text, d, ?_, htext⟩
    · rw [record, sidecarText, hside, Option.bind_some, ht, Option.getD_some,
        ← Digest.ofSidecar_ok_iff.1 htext, ← label_eq_toLower]
      rfl
    · rw [hside, bytesOf_of_ofBytes? ht]
  · rw [bind_of_error hread] at h
    cases h

theorem mapM_row_ok {rows : List Manifest.Row} (hfs : w.files.LinkFree)
    (hplain : ∀ b ∈ builds, PlainName b.tarball)
    (h : (builds.mapM layout.row) w = (.ok rows, w')) :
    w' = w ∧ rows.map Manifest.Row.csv = builds.map (layout.record w.files) ∧
      ∀ b ∈ builds, ∃ text d,
        w.files.content? (join layout.releaseDir b.sidecarName) = some (bytesOf text) ∧
          Digest.ofSidecar text = .ok d := by
  induction builds generalizing rows with
  | nil =>
    obtain ⟨rfl, rfl⟩ := mapM_nil_ok h
    exact ⟨rfl, rfl, nofun⟩
  | cons b builds ih =>
    obtain ⟨r, rows', w₁, hb, hrest, rfl⟩ := mapM_cons_ok h
    obtain ⟨rfl, hr, hside⟩ := row_ok hfs (hplain b List.mem_cons_self) hb
    obtain ⟨rfl, hrows, hsides⟩ := ih (fun c hc => hplain c (List.mem_cons_of_mem _ hc)) hrest
    refine ⟨rfl, by rw [List.map_cons, List.map_cons, hr, hrows], fun c hc => ?_⟩
    rcases List.mem_cons.1 hc with rfl | hc
    · exact hside
    · exact hsides c hc

/-! ## The manifest -/

/-- Making a manifest changes nothing; its lines are the records of the builds. -/
theorem manifest_ok {m : Manifest} (hfs : w.files.LinkFree)
    (hplain : ∀ b ∈ builds, PlainName b.tarball)
    (h : layout.manifest builds w = (.ok m, w')) :
    w' = w ∧ m.rows.map Manifest.Row.csv = builds.map (layout.record w.files) ∧
      ∀ b ∈ builds, ∃ text d,
        w.files.content? (join layout.releaseDir b.sidecarName) = some (bytesOf text) ∧
          Digest.ofSidecar text = .ok d := by
  rw [Layout.manifest] at h
  obtain ⟨rows, w₁, hrows, hpure⟩ := bind_ok h
  obtain ⟨rfl, rfl⟩ := pure_ok hpure
  exact mapM_row_ok hfs hplain hrows

theorem plainName_manifest : PlainName manifestName := ⟨by decide, by decide⟩

/-- What the manifest of builds holds, by their sidecars in the release. -/
def manifestContent (layout : Layout) (fs : FileSystem) (builds : List Build) : Content :=
  bytesOf (String.join ((sortByBytes (builds.map (layout.record fs))).map (· ++ "\n")))

/-- A manifest with this content was written into the release with its sidecar, and nothing else. -/
structure ManifestWritten (layout : Layout) (fs fs' : FileSystem) (c : Content) : Prop where
  manifest : fs'.content? (join layout.releaseDir manifestName) = some c
  sidecar : fs'.content? (join layout.releaseDir (Path.sidecar manifestName)) =
    some (sidecarContent c manifestName)
  other : ∀ dir name, PlainName name →
    (name ≠ manifestName ∧ name ≠ Path.sidecar manifestName) ∨
      fs.place dir ≠ fs.place layout.releaseDir →
    fs'.content? (join dir name) = fs.content? (join dir name)

theorem manifestWritten_of_set {loc loc' : Location} (hfs : fs.LinkFree)
    (hloc : fs.slot? (join layout.releaseDir manifestName) = some loc)
    (hloc' : fs.slot? (join layout.releaseDir (Path.sidecar manifestName)) = some loc')
    (c : Content) :
    layout.ManifestWritten fs
      ((fs.set loc (.file c)).set loc' (.file (sidecarContent c manifestName))) c := by
  have hfree := linkFree_set_slot hfs hloc c
  have hside : (fs.set loc (.file c)).slot? (join layout.releaseDir (Path.sidecar manifestName)) =
      some loc' := by rw [slot?_set hfs hloc, hloc']
  constructor
  case manifest =>
    rw [content?_set_join hfree plainName_manifest plainName_manifest.sidecar hside
      (.inl (sidecar_ne _).symm)]
    exact content?_set_self hfs hloc c
  case sidecar => exact content?_set_self hfree hside _
  case other =>
    intro dir name hname hne
    exact content?_set_set_join hfs hname plainName_manifest plainName_manifest.sidecar hloc hloc'
      hne _ _

/-- **All that writing a manifest can do**: its text is written, and then its sidecar. -/
theorem writeManifest_run {m : Manifest} (hfs : w.files.LinkFree)
    (hm : layout.manifest builds w = (.ok m, w)) :
    (∃ loc loc' w', w.files.slot? (join layout.releaseDir manifestName) = some loc ∧
      w.files.slot? (join layout.releaseDir (Path.sidecar manifestName)) = some loc' ∧
      w'.files = (w.files.set loc (.file (bytesOf m.render))).set loc'
        (.file (sidecarContent (bytesOf m.render) manifestName)) ∧
      layout.writeManifest builds w =
        (.ok (join layout.releaseDir manifestName, .ofContent (bytesOf m.render)), w')) ∨
    (w.files.slot? (join layout.releaseDir manifestName) = none ∨
        w.files.slot? (join layout.releaseDir (Path.sidecar manifestName)) = none) ∧
      ∃ e w', layout.writeManifest builds w = (.error e, w') := by
  rw [writeManifest, bind_of_ok hm]
  rcases writeText_run hfs (join layout.releaseDir manifestName) m.render with
    ⟨loc, hloc, hwrite⟩ | ⟨hnone, e, hwrite⟩
  case inr => exact .inr ⟨.inl hnone, _, _, bind_of_error (Work.during_of_error hwrite)⟩
  have hfree := linkFree_set_slot hfs hloc (bytesOf m.render)
  rcases writeSidecar_run layout.releaseDir
      (w := ⟨w.files.set loc (.file (bytesOf m.render)), w.log⟩) hfree plainName_manifest with
    ⟨c, loc', hc, hloc', hside⟩ | ⟨hnone, e, hside⟩
  · rw [content?_set_self hfs hloc] at hc
    cases hc
    rw [slot?_set hfs hloc] at hloc'
    exact .inl ⟨loc, loc', _, hloc, hloc', rfl,
      (bind_of_ok (Work.during_of_ok hwrite)).trans ((bind_of_ok hside).trans rfl)⟩
  · rw [content?_set_self hfs hloc, slot?_set hfs hloc] at hnone
    exact .inr ⟨.inr (hnone.resolve_left (by simp)), e, _,
      (bind_of_ok (Work.during_of_ok hwrite)).trans (bind_of_error hside)⟩

theorem writeManifest_files {m : Manifest} {path : String} {digest : Digest}
    (hfs : w.files.LinkFree) (hm : layout.manifest builds w = (.ok m, w))
    (h : layout.writeManifest builds w = (.ok (path, digest), w')) :
    path = join layout.releaseDir manifestName ∧ digest = .ofContent (bytesOf m.render) ∧
      ∃ loc loc', w.files.slot? (join layout.releaseDir manifestName) = some loc ∧
        w.files.slot? (join layout.releaseDir (Path.sidecar manifestName)) = some loc' ∧
        w'.files = (w.files.set loc (.file (bytesOf m.render))).set loc'
          (.file (sidecarContent (bytesOf m.render) manifestName)) := by
  rcases writeManifest_run hfs hm with
    ⟨loc, loc', w₁, hloc, hloc', hfiles, hrun⟩ | ⟨-, e, w₁, hrun⟩
  case inr => rw [hrun] at h; cases h
  rw [hrun] at h
  cases h
  exact ⟨rfl, rfl, loc, loc', hloc, hloc', hfiles⟩

theorem writeManifest_written {m : Manifest} {path : String} {digest : Digest}
    (hfs : w.files.LinkFree) (hm : layout.manifest builds w = (.ok m, w))
    (h : layout.writeManifest builds w = (.ok (path, digest), w')) :
    path = join layout.releaseDir manifestName ∧ digest = .ofContent (bytesOf m.render) ∧
      layout.ManifestWritten w.files w'.files (bytesOf m.render) := by
  obtain ⟨hpath, hdigest, loc, loc', hloc, hloc', hfiles⟩ := writeManifest_files hfs hm h
  rw [hfiles]
  exact ⟨hpath, hdigest, manifestWritten_of_set hfs hloc hloc' _⟩

/-- A written manifest is made from the sidecars in the release, and gets a sidecar itself. -/
theorem writeManifest_ok {path : String} {digest : Digest} (hfs : w.files.LinkFree)
    (hplain : ∀ b ∈ builds, PlainName b.tarball)
    (h : layout.writeManifest builds w = (.ok (path, digest), w')) :
    path = join layout.releaseDir manifestName ∧
      digest = .ofContent (layout.manifestContent w.files builds) ∧
      layout.ManifestWritten w.files w'.files (layout.manifestContent w.files builds) ∧
      ∀ b ∈ builds, ∃ text d,
        w.files.content? (join layout.releaseDir b.sidecarName) = some (bytesOf text) ∧
          Digest.ofSidecar text = .ok d := by
  obtain ⟨m, w₁, hm, -⟩ := bind_ok h
  obtain ⟨rfl, hcsv, hsides⟩ := manifest_ok hfs hplain hm
  have hrender : bytesOf m.render = layout.manifestContent w₁.files builds := by
    rw [Manifest.render_eq, manifestContent, hcsv]
  rw [← hrender]
  obtain ⟨hpath, hdigest, hwritten⟩ := writeManifest_written hfs hm h
  exact ⟨hpath, hdigest, hwritten, hsides⟩

/-! ## The whole release -/

/-- What a finished release of builds holds. -/
structure Released (layout : Layout) (builds : List Build) (before after : FileSystem) : Prop where
  /-- A published package and its sidecar are copies of the published files. -/
  prebuilt : ∀ b ∈ builds, b.prebuilt = true → ∀ name ∈ [b.tarball, b.sidecarName], ∃ c,
    before.file? (before.place (join layout.prebuiltDir name)) = some c ∧
    after.content? (join layout.prebuiltDir name) = some c ∧
    after.content? (join layout.releaseDir name) = some c
  /-- Any other package is a copy of the built one, and its sidecar is the hash of it. -/
  built : ∀ b ∈ builds, b.prebuilt = false → ∃ c,
    before.file? (before.place (join layout.artifactsDir b.tarball)) = some c ∧
    after.content? (join layout.artifactsDir b.tarball) = some c ∧
    after.content? (join layout.releaseDir b.tarball) = some c ∧
    after.content? (join layout.releaseDir b.sidecarName) = some (sidecarContent c b.tarball)
  /-- Every sidecar is a text that begins with a digest. -/
  sidecars : ∀ b ∈ builds, ∃ text d,
    after.content? (join layout.releaseDir b.sidecarName) = some (bytesOf text) ∧
      Digest.ofSidecar text = .ok d
  /-- The manifest is the records of the builds in the order of bytes, each with a line end. -/
  manifest : ∃ records : List String, records.Perm (builds.map (layout.record after)) ∧
    records.Pairwise (byteLE · · = true) ∧
    after.content? (join layout.releaseDir manifestName) =
      some (bytesOf (String.join (records.map (· ++ "\n"))))
  /-- The manifest has a sidecar too. -/
  manifestSidecar : ∃ c, after.content? (join layout.releaseDir manifestName) = some c ∧
    after.content? (join layout.releaseDir (Path.sidecar manifestName)) =
      some (sidecarContent c manifestName)

section Assemble

variable {fs₁ after : FileSystem} {c : Content}

/-- The manifest stands in the way of no build. -/
theorem ManifestWritten.release (hm : layout.ManifestWritten fs after c) (happart : Apart builds)
    (hb : b ∈ builds) : ∀ name ∈ [b.tarball, b.sidecarName],
    after.content? (join layout.releaseDir name) = fs.content? (join layout.releaseDir name) := by
  intro name hname
  have hne := happart.manifest b hb
  rcases List.mem_cons.1 hname with rfl | hname
  · exact hm.other _ _ (happart.plain b hb) (.inl ⟨hne, happart.manifestSidecar b hb⟩)
  · rcases List.mem_singleton.1 hname
    exact hm.other _ _ (happart.plain b hb).sidecar
      (.inl ⟨happart.sidecarManifest b hb, fun hc => hne (sidecar_injective hc)⟩)

/-- What was in a source directory once the release directory was made, was there before and is
there in the end. -/
theorem Progress.source_kept {before : FileSystem} {dir name : String} {x : Content}
    (hp : layout.Progress fs₁ fs builds) (hfs₁ : fs₁.LinkFree) (hgrown : Grown before fs₁)
    (hm : layout.ManifestWritten fs after c) (hname : PlainName name)
    (hdir : fs₁.place dir ≠ fs₁.place layout.releaseDir)
    (hx : fs₁.content? (join dir name) = some x) :
    before.file? (before.place (join dir name)) = some x ∧
      after.content? (join dir name) = some x := by
  have hplace : ∀ p, fs.place p = fs₁.place p := place_congr hp.sameDirs.current
  constructor
  · rw [← place_congr hgrown.current, ← hgrown.file?]
    exact file?_place hfs₁ hx
  · rw [hm.other dir name hname (.inr (by rw [hplace, hplace]; exact hdir)),
      hp.outside dir name hname hdir, hx]

/-- **Staged builds with a manifest are a release.** -/
theorem Progress.released {before : FileSystem} (hp : layout.Progress fs₁ fs builds)
    (hfs₁ : fs₁.LinkFree) (hgrown : Grown before fs₁) (hsep : layout.Separate fs₁)
    (happart : Apart builds)
    (hm : layout.ManifestWritten fs after (layout.manifestContent fs builds))
    (hsides : ∀ b ∈ builds, ∃ text d,
      fs.content? (join layout.releaseDir b.sidecarName) = some (bytesOf text) ∧
        Digest.ofSidecar text = .ok d) :
    layout.Released builds before after := by
  have hpackage {b : Build} (hb : b ∈ builds) := hm.release happart hb _ List.mem_cons_self
  have hsidecar {b : Build} (hb : b ∈ builds) :=
    hm.release happart hb _ (List.mem_cons_of_mem _ List.mem_cons_self)
  constructor
  case prebuilt =>
    intro b hb hpre name hname
    have hplain := happart.plain b hb
    have hof : Source.ofBuild b = .prebuilt := by rw [Source.ofBuild, hpre]; rfl
    obtain ⟨x, hx, hx'⟩ := hp.package b hb
    obtain ⟨y, hy, hy'⟩ := hp.sidecar b hb
    rw [expectedPackage, hof] at hx
    rw [expectedSidecar, hof] at hy
    rcases List.mem_cons.1 hname with rfl | hname
    · obtain ⟨h₁, h₂⟩ := hp.source_kept hfs₁ hgrown hm hplain hsep.prebuilt hx
      exact ⟨x, h₁, h₂, by rw [hpackage hb, hx']⟩
    · rcases List.mem_singleton.1 hname
      obtain ⟨h₁, h₂⟩ := hp.source_kept hfs₁ hgrown hm hplain.sidecar hsep.prebuilt hy
      exact ⟨y, h₁, h₂, (hsidecar hb).trans hy'⟩
  case built =>
    intro b hb hnew
    have hof : Source.ofBuild b = .built := by rw [Source.ofBuild, hnew]; rfl
    obtain ⟨x, hx, hx'⟩ := hp.package b hb
    obtain ⟨y, hy, hy'⟩ := hp.sidecar b hb
    rw [expectedSidecar, hof, hx] at hy
    rw [expectedPackage, hof] at hx
    cases hy
    obtain ⟨h₁, h₂⟩ := hp.source_kept hfs₁ hgrown hm (happart.plain b hb) hsep.artifacts hx
    exact ⟨x, h₁, h₂, by rw [hpackage hb, hx'], (hsidecar hb).trans hy'⟩
  case sidecars =>
    intro b hb
    rw [hsidecar hb]
    exact hsides b hb
  case manifest =>
    have hrecord : builds.map (layout.record after) = builds.map (layout.record fs) := by
      refine List.map_congr_left fun b hb => ?_
      rw [record, record, sidecarText, sidecarText, hsidecar hb]
    rw [hrecord]
    exact ⟨_, sortByBytes_perm _, sortByBytes_pairwise _, hm.manifest⟩
  case manifestSidecar => exact ⟨_, hm.manifest, hm.sidecar⟩

/-- A release is assembled in three steps that all succeed. -/
theorem assemble_ok {summary : Summary} (h : layout.assemble builds w = (.ok summary, w')) :
    ∃ fs₁ sources w₂, ensureDirectories layout.releaseDir w.files = (.ok (), fs₁) ∧
      (builds.mapM layout.stage) { w with files := fs₁ } = (.ok sources, w₂) ∧
      layout.writeManifest builds w₂ = (.ok (summary.manifest, summary.digest), w') := by
  rw [assemble] at h
  obtain ⟨_, w₁, hduring, h₁⟩ := bind_ok h
  obtain ⟨sources, w₂, hstage, h₂⟩ := bind_ok h₁
  obtain ⟨⟨path, digest⟩, w₃, hmanifest, h₃⟩ := bind_ok h₂
  cases h₃
  obtain ⟨fs₁, hensure, rfl⟩ := Work.during_ok hduring
  exact ⟨fs₁, sources, w₂, hensure, hstage, hmanifest⟩

theorem Separate.congr (hsep : layout.Separate fs) (h : fs₁.current = fs.current) :
    layout.Separate fs₁ :=
  ⟨by rw [place_congr h, place_congr h]; exact hsep.prebuilt,
    by rw [place_congr h, place_congr h]; exact hsep.artifacts⟩

/-- **Assembled builds that keep apart are a release.** -/
theorem assemble_released {summary : Summary} (happart : Apart builds) (hfs : w.files.LinkFree)
    (hsep : layout.Separate w.files) (h : layout.assemble builds w = (.ok summary, w')) :
    layout.Released builds w.files w'.files := by
  obtain ⟨fs₁, sources, w₂, hensure, hstage, hmanifest⟩ := assemble_ok h
  have hgrown := grown_of_ensureDirectories hfs hensure
  have hfs₁ := hgrown.linkFree hfs
  have hsep₁ := hsep.congr hgrown.current
  obtain ⟨-, hprog⟩ := (Progress.start hfs₁).mapM_stage hsep₁ happart
    (fun _ hd => absurd hd List.not_mem_nil) (fun _ hb => hb) hstage
  obtain ⟨-, -, hm, hsides⟩ := writeManifest_ok hprog.linkFree happart.plain hmanifest
  exact hprog.released hfs₁ hgrown hsep₁ happart hm hsides

theorem count_source (source : Source) :
    (builds.map Source.ofBuild).count source =
      builds.countP fun b => decide (Source.ofBuild b = source) := by
  rw [List.count, List.countP_map]
  rfl

theorem count_prebuilt :
    (builds.map Source.ofBuild).count .prebuilt = builds.countP (·.prebuilt) := by
  refine (count_source .prebuilt).trans (List.countP_congr fun b _ => ?_)
  cases hb : b.prebuilt <;> simp [Source.ofBuild, hb]

theorem count_built : (builds.map Source.ofBuild).count .built = builds.countP (!·.prebuilt) := by
  refine (count_source .built).trans (List.countP_congr fun b _ => ?_)
  cases hb : b.prebuilt <;> simp [Source.ofBuild, hb]

end Assemble

/-- **An assembled release of a generated matrix holds what it should.** In a file system without
links, with the release in another directory than the packages come from, every package and every
sidecar of the finished release is the right one, and the manifest records exactly those. -/
theorem assemble_generated {p : Plan} {forge : Forge} {j j' : Journal} {summary : Summary}
    (hgen : p.generate forge j = (.ok builds, j'))
    (hslash : ∀ b ∈ builds, '/' ∉ b.tarball.toList) (hfs : w.files.LinkFree)
    (hsep : layout.Separate w.files) (h : layout.assemble builds w = (.ok summary, w')) :
    layout.Released builds w.files w'.files ∧
      summary.prebuilt = builds.countP (·.prebuilt) ∧
      summary.built = builds.countP (!·.prebuilt) ∧
      summary.manifest = join layout.releaseDir manifestName ∧
      ∃ c, w'.files.content? summary.manifest = some c ∧
        summary.digest.text = String.ofList (Hex.encode (Sha256.hash c)) := by
  have happart := apart_of_generate hgen hslash
  rw [assemble] at h
  obtain ⟨_, w₁, hduring, h₁⟩ := bind_ok h
  obtain ⟨sources, w₂, hstage, h₂⟩ := bind_ok h₁
  obtain ⟨⟨path, digest⟩, w₃, hmanifest, h₃⟩ := bind_ok h₂
  cases h₃
  -- making the release directory keeps every file
  obtain ⟨fs₁, hensure, rfl⟩ := Work.during_ok hduring
  have hgrown : Grown w.files fs₁ := by
    have hg := ensureDirectories_grown hfs layout.releaseDir
    rwa [hensure] at hg
  have hfs₁ := hgrown.linkFree hfs
  have hplace : ∀ dir, fs₁.place dir = w.files.place dir := place_congr hgrown.current
  have hsep₁ : layout.Separate fs₁ :=
    ⟨by rw [hplace, hplace]; exact hsep.prebuilt, by rw [hplace, hplace]; exact hsep.artifacts⟩
  -- staging fills the release, and the manifest leaves it as it is
  obtain ⟨rfl, hprog⟩ := (Progress.start hfs₁).mapM_stage hsep₁ happart
    (fun _ hd => absurd hd List.not_mem_nil) (fun _ hb => hb) hstage
  rw [List.nil_append] at hprog
  obtain ⟨rfl, rfl, hm, hsides⟩ := writeManifest_ok hprog.linkFree happart.plain hmanifest
  have hreleased := hprog.released hfs₁ hgrown hsep₁ happart hm hsides
  exact ⟨hreleased, count_prebuilt, count_built, rfl, _, hm.manifest, rfl⟩

/-! ### A small release -/

/-- A plan with one version and one platform. -/
def samplePlan : Plan where
  versions := ["main"]
  platforms := [{ id := "p", runner := "r", triplet := "x" }]
  sourceRepository := "o/s"
  releaseRepository := "o/r"
  releaseTag := "t"

/-- A forge that has published the shared package of the plan. -/
def sampleForge : Forge where
  key := "f"
  resolveRef _ := { outcome := .ok "c" }
  releaseAssets := { outcome := .ok (.ofList ["tiledb-p-main-c.tar.gz"]) }

/-- The matrix of the plan: a published package and one that is new. -/
def sampleBuilds : List Build :=
  [{ Build.derive { id := "p", runner := "r", triplet := "x" } "main" "c" .dynamic with
      prebuilt := true },
    Build.derive { id := "p", runner := "r", triplet := "x" } "main" "c" .static]

/-- Short names of directories. -/
def sampleLayout : Layout :=
  { prebuiltDir := "p", artifactsDir := "a", releaseDir := "r", downloadBase := "u" }

/-- The files of both packages, and no release. -/
def sampleState : WorkState where
  files := ((((empty.set ["p"] .directory).set ["a"] .directory).set
    ["tiledb-p-main-c.tar.gz", "p"] (.file [1])).set
    ["tiledb-p-main-c.tar.gz.sha256", "p"] (.file (List.replicate 64 97))).set
    ["tiledb-p-main-c-static.tar.gz", "a"] (.file [2])

theorem generate_sample : (samplePlan.generate sampleForge {}).1.toOption = some sampleBuilds := by
  decide +kernel

theorem linkFree_sampleState : sampleState.files.LinkFree :=
  have hne {name : String} {dir : Location} : name :: dir ≠ [] := List.cons_ne_nil _ _
  ((((linkFree_empty.set_directory hne).set_directory hne).set_file hne _).set_file hne _).set_file
    hne _

theorem separate_sample : sampleLayout.Separate sampleState.files := ⟨by decide, by decide⟩

theorem assemble_generated_sample :
    ∃ j' summary w', samplePlan.generate sampleForge {} = (.ok sampleBuilds, j') ∧
      (∀ b ∈ sampleBuilds, '/' ∉ b.tarball.toList) ∧ sampleState.files.LinkFree ∧
      sampleLayout.Separate sampleState.files ∧
      sampleLayout.assemble sampleBuilds sampleState = (.ok summary, w') ∧
      sampleLayout.Released sampleBuilds sampleState.files w'.files ∧
      summary.prebuilt = 1 ∧ summary.built = 1 := by
  have hgen := eq_ok_of_toOption generate_sample
  have hslash : ∀ b ∈ sampleBuilds, '/' ∉ b.tarball.toList := by decide +kernel
  have hok : (sampleLayout.assemble sampleBuilds sampleState).1.isOk = true := by decide +kernel
  obtain ⟨summary, h⟩ := exists_of_isOk hok
  obtain ⟨hreleased, hpre, hbuilt, -⟩ :=
    assemble_generated hgen hslash linkFree_sampleState separate_sample h
  exact ⟨_, summary, _, hgen, hslash, linkFree_sampleState, separate_sample, h, hreleased, hpre,
    hbuilt⟩

end Layout

end Packaging
