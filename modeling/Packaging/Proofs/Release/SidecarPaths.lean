import Packaging.Proofs.FileSystem.Sidecars
import Packaging.Release.Assembly

/-!
# One path for each sidecar

There are three ways to the path of a sidecar: its name is joined to the release directory, the path
of its file is extended, or it is found in a directory, and the path of its file comes from cutting
off the extension. They agree on the text of the path, whatever the directory and the names look
like.

* `Layout.sidecarAt_join`: where the sidecar of a build is copied to, written and read.
* `sidecar_paths_agree`: the three ways.
-/

namespace Packaging

open FileSystem Packaging.Path

namespace Layout

/-- Whatever is done with the sidecar of a build in the release is done at this path. -/
structure SidecarAt (layout : Layout) (b : Build) (path : String) : Prop where
  /-- A published sidecar is copied to it. -/
  copied : ∀ dir, layout.copyInto dir b.sidecarName =
    .during .copy (join dir b.sidecarName) (copyFile (join dir b.sidecarName) path)
  /-- The sidecar of a new package is written to it. -/
  written : writeSidecar (layout.packagePath b) = do
    let digest ← hashFile (layout.packagePath b)
    let name := (fileName? (layout.packagePath b)).getD ""
    .during .write path (writeText path (digest.sidecarLine name))
    return digest
  /-- The row of the manifest is made from what is read there. -/
  read : layout.row b = do
    let digest ← readSidecar path
    return .ofBuild b layout.downloadBase digest

theorem join_sidecarName (layout : Layout) (b : Build) :
    join layout.releaseDir b.sidecarName = sidecar (layout.packagePath b) :=
  (sidecar_join layout.releaseDir b.tarball).symm

/-- A published sidecar is copied to where a new one is written and either is read. -/
theorem sidecarAt_join (layout : Layout) (b : Build) :
    layout.SidecarAt b (join layout.releaseDir b.sidecarName) where
  copied _ := rfl
  written := by rw [join_sidecarName]; rfl
  read := by rw [join_sidecarName]; rfl

end Layout

/-- **All ways to the path of a sidecar agree.** Its name in the release directory is the path of
the package with the extension added; the extension can be cut off again, which leaves the path of
the file; and a name in a directory that has the extension is that of the sidecar of the file that
it leads to, if it leads to one, links or not. -/
theorem sidecar_paths_agree (layout : Layout) (b : Build) (fs : FileSystem) (dir : String) :
    (join layout.releaseDir b.sidecarName = sidecar (layout.packagePath b) ∧
      layout.SidecarAt b (join layout.releaseDir b.sidecarName)) ∧
    (∀ name, PlainName name →
      extension? (join dir (name ++ ".sha256")) = some "sha256" ∧
        withoutExtension (join dir (name ++ ".sha256")) = join dir name) ∧
    ∀ entry, PlainName entry → extension? (join dir entry) = some "sha256" →
      fs.isFile (withoutExtension (join dir entry)) = true →
        sidecar (withoutExtension (join dir entry)) = join dir entry := by
  refine ⟨⟨layout.join_sidecarName b, layout.sidecarAt_join b⟩, fun name hname => ?_,
    fun entry hentry hext hfile => sidecar_withoutExtension hentry hext hfile⟩
  rw [← sidecar_eq]
  have hext : extension? (join dir (sidecar name)) = some sidecarExtension :=
    (extension?_join_eq_some_iff hname.sidecar).2 ⟨name, hname.ne_empty, rfl⟩
  exact ⟨hext, withoutExtension_sidecar dir hname⟩

/-- A directory with a link to a file beside the directory, and the sidecar of the link. -/
def linkedFiles : FileSystem :=
  (((empty.set ["d"] .directory).set ["b"] (.file [])).set ["...", "d"] (.link "../b")).set
    ["....sha256", "d"] (.file [])

/-- A name that is made of points has a sidecar too, and here it is that of a link. -/
theorem sidecar_paths_agree_linked :
    PlainName "..." ∧ PlainName "....sha256" ∧
    extension? (join "d/." "....sha256") = some "sha256" ∧
    linkedFiles.isFile (withoutExtension (join "d/." "....sha256")) = true ∧
    withoutExtension (join "d/." "....sha256") = "d/./..." ∧
    sidecar (withoutExtension (join "d/." "....sha256")) = "d/./....sha256" := by
  obtain ⟨-, hnames, hentries⟩ := sidecar_paths_agree {} default linkedFiles "d/."
  have hname : PlainName "..." := ⟨by decide, by decide⟩
  have hentry : PlainName "....sha256" := ⟨by decide, by decide⟩
  have hfile : linkedFiles.isFile (withoutExtension (join "d/." "....sha256")) = true := by
    decide +kernel
  obtain ⟨hext, hcut⟩ := hnames "..." hname
  exact ⟨hname, hentry, hext, hfile, hcut, hentries "....sha256" hentry hext hfile⟩

end Packaging
