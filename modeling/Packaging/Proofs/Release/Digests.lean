import Packaging.Proofs.FileSystem.Sidecars
import Packaging.Proofs.Release.Sidecar
import Packaging.Release.Assembly
import Mathlib.Data.List.DropRight

/-!
# Which digests reach the manifest

The manifest has a row for each build, with the digest from the sidecar in the release. The first
build whose sidecar gives none is an error, and then there is no manifest.

* `row_ok_iff`, `row_isOk_iff`, `row_error_iff`: what a single build gives.
* `manifest_exact`: what a list of builds gives.
-/

namespace Packaging.Layout

open Packaging.Action FileSystem Packaging.Path Text

variable {layout : Layout} {w : WorkState} {b : Build}

/-! ## Rows -/

/-- The sidecar of a build in the release begins with a token of 64 hexadecimal digits. -/
def Attested (layout : Layout) (fs : FileSystem) (b : Build) : Prop :=
  ∃ token : List Char, fs.TokenAt (join layout.releaseDir b.sidecarName) token ∧
    token.length = 64 ∧ ∀ c ∈ token, Hex.isDigit c = true

/-- The row of a build: the platform's id in upper case, where one id stands for another, the
version, the linkage in lower case, the package under the download base without the slashes at its
end, and the digest as the sidecar in the release spells it. -/
structure Transcribed (layout : Layout) (fs : FileSystem) (b : Build) (r : Manifest.Row) :
    Prop where
  platform : r.platform =
    upper (if b.platform.id = "linux-aarch64" then "linux-arm64" else b.platform.id)
  version : r.version = b.version
  linkage : r.linkage = if b.linkage = .dynamic then "dynamic" else "static"
  url : r.url = String.ofList (layout.downloadBase.toList.rdropWhile (· = '/')) ++ "/" ++ b.tarball
  digest : fs.TokenAt (join layout.releaseDir b.sidecarName) r.digest.text.toList

/-- A row is that of a build, but for its digest, if its other fields are. -/
theorem eq_ofBuild_iff {r : Manifest.Row} {base : String} : r = .ofBuild b base r.digest ↔
    r.platform = upper (if b.platform.id = "linux-aarch64" then "linux-arm64" else b.platform.id) ∧
      r.version = b.version ∧ r.linkage = (if b.linkage = .dynamic then "dynamic" else "static") ∧
      r.url = String.ofList (base.toList.rdropWhile (· = '/')) ++ "/" ++ b.tarball := by
  have hlabel : b.linkage.label = if b.linkage = .dynamic then "dynamic" else "static" := by
    cases b.linkage <;> rfl
  rcases r with ⟨platform, version, linkage, url, digest⟩
  rw [Manifest.Row.ofBuild, Manifest.Row.mk.injEq, hlabel, and_iff_left rfl]
  rfl

/-- The path of a sidecar ends in a name, whatever the package is called. -/
theorem endsInName_sidecarName : EndsInName (partsOf (join layout.releaseDir b.sidecarName)) :=
  sidecar_join layout.releaseDir b.tarball ▸ endsInName_sidecar _

theorem row_eq (layout : Layout) (b : Build) (w : WorkState) : layout.row b w =
    ((readSidecar (join layout.releaseDir b.sidecarName) w).1.map
      (Manifest.Row.ofBuild b layout.downloadBase), w) := by
  rw [row, map_run, packagePath, sidecar_join, readSidecar_unchanged]
  rfl

theorem row_unchanged : (layout.row b w).2 = w := by
  rw [row_eq]

section Rows

variable (hfs : w.files.LinkFree)
include hfs

theorem row_ok_iff {r : Manifest.Row} :
    (layout.row b w).1 = .ok r ↔ layout.Transcribed w.files b r := by
  rw [row_eq, map_ok_iff]
  constructor
  · rintro ⟨d, hd, rfl⟩
    obtain ⟨hplatform, hversion, hlinkage, hurl⟩ :=
      eq_ofBuild_iff.1 (rfl : Manifest.Row.ofBuild b layout.downloadBase d = _)
    exact ⟨hplatform, hversion, hlinkage, hurl,
      (readSidecar_ok_iff hfs endsInName_sidecarName).1 hd⟩
  · rintro ⟨hplatform, hversion, hlinkage, hurl, hdigest⟩
    exact ⟨_, (readSidecar_ok_iff hfs endsInName_sidecarName).2 hdigest,
      (eq_ofBuild_iff.2 ⟨hplatform, hversion, hlinkage, hurl⟩).symm⟩

theorem row_isOk_iff : (layout.row b w).1.isOk = true ↔ layout.Attested w.files b := by
  rw [row_eq, isOk_map]
  exact readSidecar_isOk_iff hfs endsInName_sidecarName

theorem row_error_iff {e : ReleaseError} : (layout.row b w).1 = .error e ↔
    NoDigest w.files (join layout.releaseDir b.sidecarName) e := by
  rw [row_eq, map_error_iff]
  exact readSidecar_error_iff hfs endsInName_sidecarName

end Rows

/-! ## Manifests -/

/-- A manifest is made of what the rows of its builds give, and making it changes nothing. -/
theorem manifest_eq (layout : Layout) (builds : List Build) (w : WorkState) :
    layout.manifest builds w =
      ((builds.mapM fun b => (layout.row b w).1).map Manifest.mk, w) := by
  rw [manifest, map_run, mapM_of_unchanged fun _ _ => row_unchanged]

/-- **Which digests reach the manifest.** There is a manifest exactly when the sidecar of each build
is a text whose first token has 64 hexadecimal digits. Its rows are then those of the builds in
their order, with these tokens as they are spelled. Otherwise the first build whose sidecar gives no
digest decides the error. Making the manifest changes nothing. -/
theorem manifest_exact (layout : Layout) (builds : List Build) (hfs : w.files.LinkFree) :
    (layout.manifest builds w).2 = w ∧
    ((layout.manifest builds w).1.isOk = true ↔ ∀ b ∈ builds, layout.Attested w.files b) ∧
    (∀ m, (layout.manifest builds w).1 = .ok m ↔
      List.Forall₂ (layout.Transcribed w.files) builds m.rows) ∧
    ∀ e, (layout.manifest builds w).1 = .error e ↔ ∃ done b rest, builds = done ++ b :: rest ∧
      (∀ c ∈ done, layout.Attested w.files c) ∧
        NoDigest w.files (join layout.releaseDir b.sidecarName) e := by
  rw [manifest_eq]
  refine ⟨rfl, ?_, fun m => ?_, fun e => ?_⟩
  · rw [isOk_map, mapM_isOk_iff]
    exact forall₂_congr fun b _ => row_isOk_iff hfs
  · rw [map_ok_iff, ← mapM_ok_iff fun b _ r => row_ok_iff hfs]
    exact ⟨fun ⟨_, hrows, hm⟩ => hm ▸ hrows, fun hrows => ⟨_, hrows, rfl⟩⟩
  · rw [map_error_iff, mapM_error_iff]
    simp only [row_isOk_iff hfs, row_error_iff hfs]

/-- A digest in upper case. -/
def upperDigest : Digest where
  text := String.ofList (List.replicate 64 'A')
  size_eq := by decide +kernel
  isHex := by decide +kernel

/-- A sidecar that records a digest, one that is too short, and one that is no text. -/
def unevenState : WorkState where
  files := (((empty.set ["d"] .directory).set ["a.sha256", "d"]
    (.file (bytesOf (upperDigest.sidecarLine "a")))).set ["b.sha256", "d"]
    (.file (bytesOf "x y"))).set ["c.sha256", "d"] (.file [0xff])

theorem linkFree_unevenState : unevenState.files.LinkFree :=
  have hne {name : String} {dir : Location} : name :: dir ≠ [] := List.cons_ne_nil _ _
  (((linkFree_empty.set_directory hne).set_file hne _).set_file hne _).set_file hne _

/-- A package of this name. -/
def packageNamed (name : String) : Build := { (default : Build) with tarball := name }

/-- The sidecars are those of a release. -/
def unevenLayout : Layout := { releaseDir := "d" }

/-- The row of the first package. -/
def upperRow : Manifest.Row :=
  .ofBuild (packageNamed "a") unevenLayout.downloadBase upperDigest

theorem manifest_uneven :
    (unevenLayout.manifest [packageNamed "a"] unevenState).1 = .ok ⟨[upperRow]⟩ ∧
    (unevenLayout.manifest [packageNamed "a", packageNamed "b", packageNamed "c"] unevenState).1 =
      .error (.sidecar "d/b.sha256" (.length 1 "x")) ∧
    (unevenLayout.manifest [packageNamed "c", packageNamed "b"] unevenState).1 =
      .error (.io .read "d/c.sha256" .notText) := by
  decide +kernel

theorem manifest_exact_uneven :
    unevenState.files.LinkFree ∧
    (∀ b ∈ [packageNamed "a"], unevenLayout.Attested unevenState.files b) ∧
    List.Forall₂ (unevenLayout.Transcribed unevenState.files) [packageNamed "a"] [upperRow] ∧
    (∃ b : Build, NoDigest unevenState.files (join "d" b.sidecarName)
      (.sidecar "d/b.sha256" (.length 1 "x"))) ∧
    ∃ b : Build, NoDigest unevenState.files (join "d" b.sidecarName)
      (.io .read "d/c.sha256" .notText) := by
  obtain ⟨hok, hshort, htext⟩ := manifest_uneven
  have hfs := linkFree_unevenState
  obtain ⟨-, hattested, hrows, -⟩ := manifest_exact unevenLayout [packageNamed "a"] hfs
  obtain ⟨_, b, _, -, -, hb⟩ := ((manifest_exact unevenLayout _ hfs).2.2.2 _).1 hshort
  obtain ⟨_, c, _, -, -, hc⟩ := ((manifest_exact unevenLayout _ hfs).2.2.2 _).1 htext
  exact ⟨hfs, hattested.1 (by rw [hok]; rfl), (hrows _).1 hok, ⟨b, hb⟩, c, hc⟩

end Packaging.Layout
