import Packaging.Proofs.Release.Writes

/-!
# Releases of the same builds in another order

Builds that keep apart write different files, or the same content to the same one, and the manifest
is sorted. So neither what a release needs nor what it writes depends on the order of its builds.

* `agreeing_stagedWrites`: what builds that keep apart write agrees.
* `Ready.of_perm`, `releaseFiles_eq_of_perm`: the needs and the files of a release.
* `assemble_perm`: a release of a generated matrix in any order.
-/

namespace Packaging

open Packaging.Action FileSystem Packaging.Path Text

theorem Apart.of_perm {builds builds' : List Build} (h : Apart builds)
    (hperm : builds.Perm builds') : Apart builds' := by
  have hmem : ∀ b ∈ builds', b ∈ builds := fun b => hperm.mem_iff.2
  exact ⟨fun b hb => h.plain b (hmem b hb), fun b hb c hc => h.sidecar b (hmem b hb) c (hmem c hc),
    fun b hb c hc => h.source b (hmem b hb) c (hmem c hc), fun b hb => h.manifest b (hmem b hb),
    fun b hb => h.manifestSidecar b (hmem b hb), fun b hb => h.sidecarManifest b (hmem b hb)⟩

namespace Layout

variable {layout : Layout} {fs : FileSystem} {w : WorkState} {builds builds' : List Build}

/-- **What builds that keep apart write agrees.** -/
theorem agreeing_stagedWrites (h : Apart builds) : Agreeing (layout.stagedWrites fs builds) := by
  intro x hx y hy hname
  obtain ⟨b, hb, hx⟩ := List.mem_flatMap.1 hx
  obtain ⟨c, hc, hy⟩ := List.mem_flatMap.1 hy
  have hexpected (ht : b.tarball = c.tarball) :
      layout.expectedPackage fs b = layout.expectedPackage fs c ∧
        layout.expectedSidecar fs b = layout.expectedSidecar fs c :=
    expected_congr ht (h.source b hb c hc ht)
  simp only [writesOf, List.mem_cons, List.not_mem_nil, or_false] at hx hy
  -- a package may share its name with another one, but never with a sidecar
  rcases hx with rfl | rfl <;> rcases hy with rfl | rfl
  · rw [(hexpected hname).1]
  · exact absurd hname (h.sidecar b hb c hc)
  · exact absurd hname.symm (h.sidecar c hc b hb)
  · rw [(hexpected (sidecar_injective hname)).2]

section Perm

variable (happart : Apart builds) (hperm : builds.Perm builds')
include happart hperm

theorem stagedBuilds_eq_of_perm :
    layout.stagedBuilds fs builds = layout.stagedBuilds fs builds' :=
  fill_eq_of_perm fs _ (agreeing_stagedWrites happart) (hperm.flatMap_right _)

theorem finalManifest_eq_of_perm :
    layout.finalManifest fs builds = layout.finalManifest fs builds' := by
  rw [finalManifest, finalManifest, ← stagedBuilds_eq_of_perm happart hperm, manifestContent,
    manifestContent, sortByBytes_eq_of_perm (hperm.map _)]

theorem releaseFiles_eq_of_perm :
    fs.fill (fs.place layout.releaseDir) (layout.releaseWrites fs builds) =
      fs.fill (fs.place layout.releaseDir) (layout.releaseWrites fs builds') := by
  have hstaged : layout.stagedBuilds fs builds = layout.stagedBuilds fs builds' :=
    stagedBuilds_eq_of_perm happart hperm
  rw [stagedBuilds, stagedBuilds] at hstaged
  rw [releaseWrites, releaseWrites, ← fill_append, ← fill_append, hstaged,
    finalManifest_eq_of_perm happart hperm]

theorem summaryOf_eq_of_perm : layout.summaryOf fs builds = layout.summaryOf fs builds' := by
  rw [summaryOf, summaryOf, finalManifest_eq_of_perm happart hperm,
    (hperm.map Source.ofBuild).count_eq, (hperm.map Source.ofBuild).count_eq]

theorem Ready.of_perm (h : layout.Ready fs builds) : layout.Ready fs builds' := by
  refine ⟨fun b hb => h.stageable b (hperm.mem_iff.2 hb), fun b hb => ?_, h.slots⟩
  rw [← stagedBuilds_eq_of_perm happart hperm]
  exact h.recorded b (hperm.mem_iff.2 hb)

/-- A release of builds that keep apart comes out the same in any order. -/
theorem assemble_eq_of_perm (hfs : w.files.LinkFree) (hsep : layout.Separate w.files) :
    (∃ summary w₁ w₂, layout.assemble builds w = (.ok summary, w₁) ∧
      layout.assemble builds' w = (.ok summary, w₂) ∧ w₁.files = w₂.files) ∨
    ∃ e₁ e₂ w₁ w₂, layout.assemble builds w = (.error e₁, w₁) ∧
      layout.assemble builds' w = (.error e₂, w₂) := by
  rcases hensure : ensureDirectories layout.releaseDir w.files with ⟨e | ⟨⟩, fs⟩
  · obtain ⟨e₁, w₁, h₁⟩ := assemble_of_error builds hensure
    obtain ⟨e₂, w₂, h₂⟩ := assemble_of_error builds' hensure
    exact .inr ⟨e₁, e₂, w₁, w₂, h₁, h₂⟩
  have hgrown := grown_of_ensureDirectories hfs hensure
  have hfree := hgrown.linkFree hfs
  have hsep' := hsep.congr hgrown.current
  have happart' := happart.of_perm hperm
  rcases assemble_run hensure hfree hsep' happart.plain with
    ⟨hready, w₁, hrun₁, hw₁⟩ | ⟨hready, e₁, w₁, hrun₁⟩ <;>
  rcases assemble_run hensure hfree hsep' happart'.plain with
    ⟨hready', w₂, hrun₂, hw₂⟩ | ⟨hready', e₂, w₂, hrun₂⟩
  · rw [← summaryOf_eq_of_perm happart hperm] at hrun₂
    exact .inl ⟨_, w₁, w₂, hrun₁, hrun₂, by rw [hw₁, hw₂, releaseFiles_eq_of_perm happart hperm]⟩
  · exact absurd (hready.of_perm happart hperm) hready'
  · exact absurd (hready'.of_perm happart' hperm.symm) hready
  · exact .inr ⟨e₁, e₂, w₁, w₂, hrun₁, hrun₂⟩

end Perm

/-- **The order of a generated matrix makes no difference to its release.** In a file system without
links, with the release in another directory than the packages come from, a release succeeds in one
order of the builds exactly when it does in any other, and then says the same and leaves the same
files. -/
theorem assemble_perm {p : Plan} {forge : Forge} {j j' : Journal}
    (hgen : p.generate forge j = (.ok builds, j'))
    (hslash : ∀ b ∈ builds, '/' ∉ b.tarball.toList) (hperm : builds.Perm builds')
    (hfs : w.files.LinkFree) (hsep : layout.Separate w.files) :
    (layout.assemble builds w).1.isOk = (layout.assemble builds' w).1.isOk ∧
    ∀ summary summary' w₁ w₂, layout.assemble builds w = (.ok summary, w₁) →
      layout.assemble builds' w = (.ok summary', w₂) →
      summary = summary' ∧ w₁.files = w₂.files := by
  rcases assemble_eq_of_perm (apart_of_generate hgen hslash) hperm hfs hsep with
    ⟨summary, w₁, w₂, h₁, h₂, hfiles⟩ | ⟨e₁, e₂, w₁, w₂, h₁, h₂⟩
  · rw [h₁, h₂]
    refine ⟨rfl, fun s s' v v' hs hs' => ?_⟩
    cases hs
    cases hs'
    exact ⟨rfl, hfiles⟩
  · rw [h₁, h₂]
    exact ⟨rfl, fun s s' v v' hs => by cases hs⟩

theorem assemble_perm_sample :
    ∃ j' summary w₁ w₂, samplePlan.generate sampleForge {} = (.ok sampleBuilds, j') ∧
      (∀ b ∈ sampleBuilds, '/' ∉ b.tarball.toList) ∧
      sampleBuilds.Perm sampleBuilds.reverse ∧ sampleState.files.LinkFree ∧
      sampleLayout.Separate sampleState.files ∧
      sampleLayout.assemble sampleBuilds sampleState = (.ok summary, w₁) ∧
      sampleLayout.assemble sampleBuilds.reverse sampleState = (.ok summary, w₂) ∧
      w₁.files = w₂.files := by
  have hgen := eq_ok_of_toOption generate_sample
  have hslash : ∀ b ∈ sampleBuilds, '/' ∉ b.tarball.toList := by decide +kernel
  have hperm := (List.reverse_perm sampleBuilds).symm
  obtain ⟨hiff, hsame⟩ :=
    assemble_perm hgen hslash hperm linkFree_sampleState separate_sample
  have hok : (sampleLayout.assemble sampleBuilds sampleState).1.isOk = true := by decide +kernel
  obtain ⟨summary, h⟩ := exists_of_isOk hok
  obtain ⟨summary', h'⟩ := exists_of_isOk (hiff ▸ hok)
  obtain ⟨rfl, hfiles⟩ := hsame _ _ _ _ h h'
  exact ⟨_, summary, _, _, hgen, hslash, hperm, linkFree_sampleState, separate_sample, h, h',
    hfiles⟩

end Layout

end Packaging
