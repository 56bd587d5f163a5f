import Packaging.Proofs.PackageNames
import Packaging.Proofs.Release.Confinement
import Packaging.Proofs.Text.Uppercase

/-!
# Reading the manifest of a release

A manifest writes its fields as they are, with commas between them, so it can be read back when no
field has a comma or a line end. Whether that is so is decided by the plan, the commits that the
forge gives and the address of the release.

* `rows_ok`: a manifest has one row for each build, made of the build and a digest.
* `isField_row_iff`: which builds have rows that can be read back.
* `manifest_readsBack_iff`: which releases have manifests that can be.
-/

namespace Packaging

open Packaging.Action FileSystem Packaging.Path Text

namespace Layout

variable {layout : Layout} {w w' : WorkState} {builds : List Build} {b : Build} {base : String}

/-! ## The rows of a manifest -/

theorem readSidecar_ok {p : String} {d : Digest} (h : readSidecar p w = (.ok d, w')) : w' = w := by
  rw [readSidecar] at h
  obtain ⟨text, w₁, hduring, h⟩ := bind_ok h
  obtain ⟨fs, hread, rfl⟩ := Work.during_ok hduring
  cases readText_unchanged hread
  cases hd : Digest.ofSidecar text <;> rw [hd] at h <;> cases h
  rfl

/-- Rows are made one by one, each of a build and a digest, and making them changes nothing. -/
theorem rows_ok {rows : List Manifest.Row} (h : (builds.mapM layout.row) w = (.ok rows, w')) :
    w' = w ∧ List.Forall₂ (fun b r => ∃ d, r = Manifest.Row.ofBuild b layout.downloadBase d)
      builds rows := by
  induction builds generalizing rows with
  | nil =>
    obtain ⟨rfl, rfl⟩ := mapM_nil_ok h
    exact ⟨rfl, .nil⟩
  | cons b builds ih =>
    obtain ⟨r, rows', w₁, hb, hrest, rfl⟩ := mapM_cons_ok h
    obtain ⟨d, w₂, hread, hpure⟩ := bind_ok hb
    obtain ⟨rfl, rfl⟩ := pure_ok hpure
    cases readSidecar_ok hread
    obtain ⟨rfl, hrows⟩ := ih hrest
    exact ⟨rfl, .cons ⟨d, rfl⟩ hrows⟩

end Layout

/-! ## Which texts are fields -/

namespace Manifest

variable {s t : String}

@[simp] theorem isField_append_iff : IsField (s ++ t) ↔ IsField s ∧ IsField t := by
  simp only [IsField, String.toList_append, List.mem_append, not_or]
  exact and_and_and_comm

theorem isField_upper_iff : IsField (upper s) ↔ IsField s := by
  rw [IsField, mem_upper_iff (by decide) (by decide), mem_upper_iff (by decide) (by decide)]
  rfl

theorem mem_dropTrailing_iff {c d : Char} (h : d ≠ c) :
    d ∈ (dropTrailing c s).toList ↔ d ∈ s.toList := by
  rw [dropTrailing, String.toList_ofList, List.mem_reverse]
  refine ⟨fun hd => List.mem_reverse.1 ((List.dropWhile_sublist _).mem hd), fun hd => ?_⟩
  have happ : s.toList.reverse.takeWhile (· == c) ++ s.toList.reverse.dropWhile (· == c) =
      s.toList.reverse := List.takeWhile_append_dropWhile
  rw [← List.mem_reverse, ← happ] at hd
  rcases List.mem_append.1 hd with hd | hd
  · have hc : (d == c) = true := List.all_eq_true.1 List.all_takeWhile d hd
    exact absurd (eq_of_beq hc) h
  · exact hd

theorem isField_dropTrailing_iff : IsField (dropTrailing '/' s) ↔ IsField s := by
  rw [IsField, mem_dropTrailing_iff (by decide), mem_dropTrailing_iff (by decide)]
  rfl

theorem isField_packagedName_iff {id : String} : IsField (packagedName id) ↔ IsField id := by
  rw [packagedName]
  split
  · subst id
    exact iff_of_true ⟨by decide, by decide⟩ ⟨by decide, by decide⟩
  · rfl

theorem isField_digest (d : Digest) : IsField d.text := by
  have hdigits := List.all_eq_true.1 d.isHex
  exact ⟨fun hc => absurd (hdigits _ hc) (by decide), fun hc => absurd (hdigits _ hc) (by decide)⟩

theorem isField_label (l : Linkage) : IsField l.label := by
  cases l <;> exact ⟨by decide, by decide⟩

theorem isField_tarball_iff {id version commit : String} {l : Linkage} :
    IsField (tarballName id (packageVersion version commit l)) ↔
      IsField id ∧ IsField version ∧ IsField commit := by
  have hstem : IsField packageStem := ⟨by decide, by decide⟩
  have hdash : IsField "-" := ⟨by decide, by decide⟩
  have hpoint : IsField "." := ⟨by decide, by decide⟩
  have hsuffix : IsField l.suffix := by cases l <;> exact ⟨by decide, by decide⟩
  have hext : IsField (archiveExtension (packagedName id)) := by
    rcases archiveExtension_cases (packagedName id) with ⟨h, -⟩ | ⟨h, -⟩ <;> rw [h] <;>
      exact ⟨by decide, by decide⟩
  simp only [tarballName, packageVersion, isField_append_iff, isField_packagedName_iff, hstem,
    hdash, hpoint, hsuffix, hext, true_and, and_true]

/-- **A row can be read back** when nothing that it is made of has a mark. -/
theorem isField_row_iff {q : Platform} {v commit base : String} {l : Linkage} {published : Assets}
    {d : Digest} :
    (∀ f ∈ (Row.ofBuild ((Build.derive q v commit l).markPublished published) base d).fields,
        IsField f) ↔
      IsField base ∧ IsField q.id ∧ IsField v ∧ IsField (shortCommit commit) := by
  have hslash : IsField "/" := ⟨by decide, by decide⟩
  simp only [Row.fields, Row.ofBuild, Build.markPublished, Build.derive, Build.packagedName,
    Platform.packagedName, List.forall_mem_cons, List.not_mem_nil, false_implies, implies_true,
    isField_upper_iff, isField_packagedName_iff, isField_append_iff, isField_dropTrailing_iff,
    isField_tarball_iff, isField_label, isField_digest, hslash, and_true, true_and]
  tauto

end Manifest

/-! ## Manifests of releases -/

open Manifest Plan

/-- Nothing that the rows of a release are made of has a comma or a line end. -/
structure Layout.WritesFields (layout : Layout) (p : Plan) (forge : Forge) : Prop where
  base : IsField layout.downloadBase
  platform : ∀ q ∈ p.platforms, IsField q.id
  version : ∀ v ∈ p.versions, IsField v
  commit : ∀ v ∈ p.versions, IsField (shortCommit (commitOf forge v))

namespace Layout

variable {layout : Layout} {w w' : WorkState} {builds : List Build} {p : Plan} {forge : Forge}
  {j j' : Journal} {rows : List Manifest.Row}

theorem forall₂_mem {α β : Type} {R : α → β → Prop} {as : List α} {bs : List β}
    (h : List.Forall₂ R as bs) :
    (∀ a ∈ as, ∃ b ∈ bs, R a b) ∧ ∀ b ∈ bs, ∃ a ∈ as, R a b := by
  induction h with
  | nil => exact ⟨nofun, nofun⟩
  | @cons a b as bs hab _ ih =>
    refine ⟨List.forall_mem_cons.2 ⟨⟨b, List.mem_cons_self, hab⟩, fun a' ha => ?_⟩,
      List.forall_mem_cons.2 ⟨⟨a, List.mem_cons_self, hab⟩, fun b' hb => ?_⟩⟩
    · obtain ⟨b', hb, hr⟩ := ih.1 a' ha
      exact ⟨b', List.mem_cons_of_mem _ hb, hr⟩
    · obtain ⟨a', ha, hr⟩ := ih.2 b' hb
      exact ⟨a', List.mem_cons_of_mem _ ha, hr⟩

/-- Every version has a static build for every platform, so every part of a plan is in a row. -/
theorem forall_isField_rows_iff (hu : p.Usable) (hgen : p.generate forge j = (.ok builds, j'))
    (hrows : List.Forall₂ (fun b r => ∃ d, r = Manifest.Row.ofBuild b layout.downloadBase d)
      builds rows) :
    (∀ r ∈ rows, ∀ f ∈ r.fields, IsField f) ↔ layout.WritesFields p forge := by
  obtain ⟨published, -, -, rfl⟩ := generate_ok hgen
  have hmem {v : String} {q : Platform} (hv : v ∈ p.versions) (hq : q ∈ p.platforms) :
      (Build.derive q v (commitOf forge v) .static).markPublished published ∈
        p.versions.flatMap fun v => p.buildsOf published v (commitOf forge v) :=
    List.mem_flatMap.2 ⟨v, hv, mem_buildsOf.2 ⟨.static, q, rfl, hq, rfl⟩⟩
  constructor
  · intro h
    have hparts {v : String} {q : Platform} (hv : v ∈ p.versions) (hq : q ∈ p.platforms) :
        IsField layout.downloadBase ∧ IsField q.id ∧ IsField v ∧
          IsField (shortCommit (commitOf forge v)) := by
      obtain ⟨r, hr, d, rfl⟩ := (forall₂_mem hrows).1 _ (hmem hv hq)
      exact isField_row_iff.1 (h _ hr)
    obtain ⟨v, hv⟩ := List.exists_mem_of_ne_nil _ hu.versions_ne
    obtain ⟨q, hq⟩ := List.exists_mem_of_ne_nil _ hu.platforms_ne
    exact ⟨(hparts hv hq).1, fun _ hq' => (hparts hv hq').2.1, fun _ hv' => (hparts hv' hq).2.2.1,
      fun _ hv' => (hparts hv' hq).2.2.2⟩
  · intro h r hr
    obtain ⟨b, hb, d, rfl⟩ := (forall₂_mem hrows).2 _ hr
    obtain ⟨v, hv, hb⟩ := List.mem_flatMap.1 hb
    obtain ⟨l, q, -, hq, rfl⟩ := mem_buildsOf.1 hb
    exact isField_row_iff.2 ⟨h.base, h.platform q hq, h.version v hv, h.commit v hv⟩

/-- **The manifest of a release is read back exactly when nothing that its rows are made of has a
comma or a line end**: the address of the release, the ids of the platforms, the versions and their
short commits. -/
theorem manifest_readsBack_iff {summary : Summary} (hvalid : p.validate = .ok ())
    (hgen : p.generate forge j = (.ok builds, j'))
    (h : layout.assemble builds w = (.ok summary, w')) :
    ∃ m : Manifest,
      List.Forall₂ (fun b r => ∃ d, r = Manifest.Row.ofBuild b layout.downloadBase d)
        builds m.rows ∧
      (w.files.LinkFree →
        w'.files.content? (join layout.releaseDir manifestName) = some (bytesOf m.render)) ∧
      (ReadsBack m.render m.rows ↔ layout.WritesFields p forge) := by
  obtain ⟨fs₁, sources, w₂, hensure, hstage, hwrite⟩ := assemble_ok h
  obtain ⟨m, w₃, hm, -⟩ := bind_ok hwrite
  obtain ⟨rows, w₄, hmade, hpure⟩ := bind_ok hm
  obtain ⟨rfl, rfl⟩ := pure_ok hpure
  obtain ⟨rfl, hrows⟩ := rows_ok hmade
  refine ⟨⟨rows⟩, hrows, fun hfs => ?_, ?_⟩
  · have hfs₁ : fs₁.LinkFree := by
      have hgrown := ensureDirectories_grown hfs layout.releaseDir
      rw [hensure] at hgrown
      exact hgrown.linkFree hfs
    have hfs₂ := mapM_stage_makesNoLinks layout builds { w with files := fs₁ } hfs₁
    rw [hstage] at hfs₂
    exact (writeManifest_written hfs₂ hm hwrite).2.2.manifest
  · rw [readsBack_render_iff]
    exact forall_isField_rows_iff (validate_eq_ok_iff.1 hvalid) hgen hrows

/-! ### A version with a comma -/

/-- A plan with a version that has a comma. -/
def commaPlan : Plan where
  versions := ["1,2"]
  platforms := [{ id := "p", runner := "r", triplet := "x" }]
  sourceRepository := "o/s"
  releaseRepository := "o/r"
  releaseTag := "t"

/-- A forge that has published the plan's package. -/
def commaForge : Forge where
  key := "f"
  resolveRef _ := { outcome := .ok "c" }
  releaseAssets := { outcome := .ok (.ofList ["tiledb-p-1,2-c-static.tar.gz"]) }

/-- The matrix of the plan: its published package. -/
def commaBuilds : List Build :=
  [{ Build.derive { id := "p", runner := "r", triplet := "x" } "1,2" "c" .static with
      prebuilt := true }]

/-- The published package with its sidecar, and no release. -/
def commaState : WorkState where
  files := ((empty.set ["p"] .directory).set ["tiledb-p-1,2-c-static.tar.gz", "p"]
    (.file [1])).set ["tiledb-p-1,2-c-static.tar.gz.sha256", "p"] (.file (List.replicate 64 97))

theorem linkFree_commaState : commaState.files.LinkFree :=
  ((linkFree_empty.set_directory (List.cons_ne_nil _ _)).set_file (List.cons_ne_nil _ _) _).set_file
    (List.cons_ne_nil _ _) _

/-- The manifest that is written: its only record has two fields too many. -/
def commaText : String :=
  "P,1,2,static,u/tiledb-p-1,2-c-static.tar.gz," ++ String.ofList (List.replicate 64 'a') ++ "\n"

theorem generate_comma : (commaPlan.generate commaForge {}).1.toOption = some commaBuilds := by
  decide +kernel

theorem assemble_comma : (sampleLayout.assemble commaBuilds commaState).1.isOk = true ∧
    (sampleLayout.assemble commaBuilds commaState).2.files.content? "r/releases.csv" =
      some (bytesOf commaText) := by
  decide +kernel

theorem manifest_readsBack_iff_comma :
    commaPlan.validate = .ok () ∧
    ∃ j' summary w', commaPlan.generate commaForge {} = (.ok commaBuilds, j') ∧
      sampleLayout.assemble commaBuilds commaState = (.ok summary, w') ∧
      ∃ m : Manifest, m.rows.length = 1 ∧
        w'.files.content? (join sampleLayout.releaseDir manifestName) = some (bytesOf m.render) ∧
        (ReadsBack m.render m.rows ↔ sampleLayout.WritesFields commaPlan commaForge) := by
  have hgen := eq_ok_of_toOption generate_comma
  obtain ⟨summary, h⟩ := exists_of_isOk assemble_comma.1
  obtain ⟨m, hrows, hcontent, hiff⟩ := manifest_readsBack_iff rfl hgen h
  exact ⟨rfl, _, summary, _, hgen, h, m, hrows.length_eq.symm, hcontent linkFree_commaState, hiff⟩

/-- An accepted plan whose release has a record of seven fields. -/
theorem comma_splits_fields :
    commaPlan.validate = .ok () ∧
    (commaPlan.generate commaForge {}).1.toOption = some commaBuilds ∧
    (sampleLayout.assemble commaBuilds commaState).1.isOk = true ∧
    ∃ text line,
      (sampleLayout.assemble commaBuilds commaState).2.files.content? "r/releases.csv" =
        some (bytesOf text) ∧
      splitAtMarks (· = '\n') text.toList = [line, []] ∧ (fieldsOf line).length = 7 :=
  ⟨rfl, generate_comma, assemble_comma.1, commaText, commaText.toList.dropLast, assemble_comma.2,
    by decide +kernel, by decide +kernel⟩

end Layout

end Packaging
