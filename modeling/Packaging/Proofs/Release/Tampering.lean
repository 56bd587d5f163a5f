import Packaging.Proofs.FileSystem.Sidecars
import Packaging.Proofs.Release.Sidecar

/-!
# Files that change once their sidecars are written

A sidecar stands apart from its file, so it keeps the digest that was written to it when the file
changes, and what the file holds by then is compared with that digest.

* `readSidecar_of_written`: a sidecar is read as the digest of what its file held.
* `Overwritten.sameDirs`, `Overwritten.content?_sidecar`: another content at a path moves no file
  and does not reach the sidecar.
* `checkSidecar_overwritten`: so that content is compared with the one the sidecar was written for.
* `writeSidecar_detects`: which contents are found to differ, for all paths.
-/

namespace Packaging

open Packaging.Action FileSystem Packaging.Path Text

variable {w w' : WorkState} {fs : FileSystem} {p : String} {c c₀ : Content} {d d' : Digest}

/-! ## Sidecars as they were written -/

theorem readSidecar_of_written {name : String} (hfs : w.files.LinkFree)
    (h : w.files.content? (sidecar p) = some (sidecarContent c name)) :
    readSidecar (sidecar p) w = (.ok (.ofContent c), w) := by
  rcases readSidecar_run hfs (endsInName_sidecar p) with ⟨s, d, hs, hd, hread⟩ | ⟨hnone, -⟩
  · rw [h, Option.some.injEq] at hs
    rw [← hs, recordedDigest?_sidecarContent, Option.some.injEq] at hd
    rw [hread, hd]
  · rw [h, Option.bind_some, recordedDigest?_sidecarContent] at hnone
    cases hnone

theorem checkSidecar_of_ok (hread : readSidecar (sidecar p) w = (.ok d, w))
    (hhash : hashFile p w = (.ok d', w)) :
    checkSidecar p w = (.ok (if d.agrees d' then .agrees else .differs d d'), w) := by
  rw [checkSidecar, bind_of_ok hread, bind_of_ok hhash]
  rfl

/-! ## Other contents -/

namespace FileSystem

/-- Where a path leads there is a file with this content now, and nothing else has changed. -/
structure Overwritten (fs fs' : FileSystem) (p : String) (c : Content) : Prop where
  current : fs'.current = fs.current
  node : fs'.node? (fs.place p) = some (.file c)
  other : ∀ loc, loc ≠ fs.place p → fs'.node? loc = fs.node? loc

theorem overwritten_set (hfile : fs.file? (fs.place p) = some c₀) (c : Content) :
    Overwritten fs (fs.set (fs.place p) (.file c)) p c := by
  have hne : fs.place p ≠ [] := by
    intro hroot
    rw [file?_eq_some_iff, hroot] at hfile
    cases hfile
  exact ⟨rfl, by rw [node?_set hne, if_pos rfl], fun loc hloc => by rw [node?_set hne, if_neg hloc]⟩

namespace Overwritten

variable {fs' : FileSystem} (h : Overwritten fs fs' p c)
include h

theorem file : fs'.file? (fs.place p) = some c := file?_eq_some_iff.2 h.node

theorem file?_other {loc : Location} (hloc : loc ≠ fs.place p) : fs'.file? loc = fs.file? loc := by
  rw [file?, file?, h.other loc hloc]

theorem linkFree (hfs : fs.LinkFree) : fs'.LinkFree := by
  intro loc target hlink
  by_cases hloc : loc = fs.place p
  · rw [hloc, h.node] at hlink
    cases hlink
  · exact hfs loc target (h.other loc hloc ▸ hlink)

theorem sameDirs (hfile : fs.file? (fs.place p) = some c₀) : SameDirs fs fs' := by
  refine ⟨h.current, fun loc => ?_⟩
  by_cases hloc : loc = fs.place p
  · rw [hloc, h.node, file?_eq_some_iff.1 hfile]
    exact iff_of_false nofun nofun
  · rw [h.other loc hloc]

/-- The sidecar of a file has the content that it had. -/
theorem content?_sidecar (hfs : fs.LinkFree) (hfile : fs.file? (fs.place p) = some c₀) :
    fs'.content? (sidecar p) = fs.content? (sidecar p) := by
  rw [content?_eq (h.linkFree hfs), content?_eq hfs,
    slot?_congr hfs (h.linkFree hfs) (h.sameDirs hfile)]
  cases hs : fs.slot? (sidecar p) with
  | none => rfl
  | some slot => exact h.file?_other ((slot?_spec hfs hs).1 ▸ place_sidecar_ne fs p)

end Overwritten

end FileSystem

/-! ## Detection -/

/-- What stands at a path and beside it once the sidecar is written. -/
theorem writeSidecar_leaves (hfs : w.files.LinkFree) (h : writeSidecar p w = (.ok d, w')) :
    ∃ c slot name, w.files.slot? (sidecar p) = some slot ∧
      w'.files = w.files.set slot (.file (sidecarContent c name)) ∧ d = .ofContent c ∧
      w.files.file? (w.files.place p) = some c ∧ w'.files.file? (w.files.place p) = some c ∧
      openPath p w'.files = (.ok (w.files.place p), w'.files) := by
  obtain ⟨loc, c, slot, name, hopen, hc, rfl, hslot, rfl⟩ := writeSidecar_ok hfs h
  obtain rfl := place_of_openPath hfs hopen
  obtain ⟨hside, hne, -, -⟩ := slot?_spec hfs hslot
  have hkept : (w.files.set slot (.file (sidecarContent c name))).file? (w.files.place p) =
      some c := by
    rw [file?_set hne, if_neg fun heq => place_sidecar_ne w.files p (hside ▸ heq.symm), hc]
  refine ⟨c, slot, name, hslot, rfl, rfl, hc, hkept, ?_⟩
  exact openPath_congr hfs (sameDirs_set_slot hfs hslot _) (by rw [hkept]; rfl) hopen

/-- Another content is compared with the one that the sidecar was written for. -/
theorem checkSidecar_overwritten {later : WorkState} {name : String} (hfs : w.files.LinkFree)
    (hside : w.files.content? (sidecar p) = some (sidecarContent c₀ name))
    (hfile : w.files.file? (w.files.place p) = some c₀)
    (hopen : openPath p w.files = (.ok (w.files.place p), w.files))
    (h : Overwritten w.files later.files p c) :
    checkSidecar p later = (.ok (if (Digest.ofContent c₀).agrees (.ofContent c) then .agrees
      else .differs (.ofContent c₀) (.ofContent c)), later) := by
  have hread : readSidecar (sidecar p) later = (.ok (.ofContent c₀), later) :=
    readSidecar_of_written (h.linkFree hfs) ((h.content?_sidecar hfs hfile).trans hside)
  -- the file is no directory, so the way to it is the same
  have hopen' : openPath p later.files = (.ok (w.files.place p), later.files) :=
    openPath_congr hfs (h.sameDirs hfile) (by rw [h.file]; rfl) hopen
  exact checkSidecar_of_ok hread (hashFile_of_openPath hopen' h.file)

/-- **Whatever is put at a path later is compared with what was there when its sidecar was
written.** Writing the sidecar changes nothing else, and it is read as the digest that was written,
64 digits in lower case. A file found there later agrees with it exactly when its hash has these
digits; any other is reported with both digests. -/
theorem writeSidecar_detects (hfs : w.files.LinkFree) (h : writeSidecar p w = (.ok d, w')) :
    (w'.files.current = w.files.current ∧
      ∀ loc, loc ≠ w.files.place (sidecar p) → w'.files.node? loc = w.files.node? loc) ∧
    (d.text.toList.length = 64 ∧ ∀ ch ∈ d.text.toList, ch ∈ "0123456789abcdef".toList) ∧
    (∃ c₀, w.files.file? (w.files.place p) = some c₀ ∧
      d.text.toList = Hex.encode (Sha256.hash c₀)) ∧
    readSidecar (sidecar p) w' = (.ok d, w') ∧
    ∀ c later, Overwritten w'.files later.files p c →
      (checkSidecar p later = (.ok .agrees, later) ↔
        Hex.encode (Sha256.hash c) = d.text.toList) ∧
      (Hex.encode (Sha256.hash c) ≠ d.text.toList → ∃ actual,
        actual.text.toList = Hex.encode (Sha256.hash c) ∧
          checkSidecar p later = (.ok (.differs d actual), later)) := by
  obtain ⟨c₀, slot, name, hslot, hfiles, rfl, hc₀, hkept, hopen⟩ := writeSidecar_leaves hfs h
  obtain ⟨hside, hne, -, -⟩ := slot?_spec hfs hslot
  have hfs' : w'.files.LinkFree := hfiles ▸ linkFree_set_slot hfs hslot _
  have hcurrent : w'.files.current = w.files.current := hfiles ▸ rfl
  have hplace : w'.files.place p = w.files.place p := place_congr hcurrent p
  have hwritten : w'.files.content? (sidecar p) = some (sidecarContent c₀ name) :=
    hfiles ▸ content?_set_self hfs hslot _
  rw [← hplace] at hkept hopen
  refine ⟨⟨hcurrent, fun loc hloc => ?_⟩, ⟨(Digest.ofContent c₀).length_text, fun ch hch => ?_⟩,
    ⟨c₀, hc₀, Digest.toList_ofContent c₀⟩, readSidecar_of_written hfs' hwritten,
    fun c later hlater => ?_⟩
  · rw [hfiles, node?_set hne, if_neg (hside ▸ hloc)]
  · rw [Digest.toList_ofContent] at hch
    exact Hex.mem_of_mem_encode hch
  · have hagrees : (Digest.ofContent c₀).agrees (.ofContent c) = true ↔
        Hex.encode (Sha256.hash c) = (Digest.ofContent c₀).text.toList := by
      rw [Digest.agrees_ofContent_iff, Digest.toList_ofContent, Hex.map_toLower_encode, eq_comm]
    rw [checkSidecar_overwritten hfs' hwritten hkept hopen hlater]
    refine ⟨?_, fun hdiffers => ⟨.ofContent c, Digest.toList_ofContent c, ?_⟩⟩
    · rw [← hagrees]
      split
      · next heq => exact iff_of_true rfl heq
      · next hnot => exact iff_of_false (fun heq => nomatch heq) hnot
    · rw [if_neg fun heq => hdiffers (hagrees.1 heq)]

/-- A file in a directory, with a blank in its name. -/
def loneState : WorkState where
  files := (empty.set ["d"] .directory).set ["a b", "d"] (.file (bytesOf "x"))

theorem linkFree_loneState : loneState.files.LinkFree :=
  (linkFree_empty.set_directory (List.cons_ne_nil _ _)).set_file (List.cons_ne_nil _ _) _

/-- The file has its sidecar, and has this content by now. -/
def tamperedState (c : Content) : WorkState :=
  { files := (writeSidecar "d/a b" loneState).2.files.set ["a b", "d"] (.file c) }

theorem writeSidecar_detects_tampered :
    loneState.files.LinkFree ∧ ∃ d w', writeSidecar "d/a b" loneState = (.ok d, w') ∧
      (∀ c, Overwritten w'.files (tamperedState c).files "d/a b" c) ∧
      checkSidecar "d/a b" (tamperedState (bytesOf "x")) =
        (.ok .agrees, tamperedState (bytesOf "x")) ∧
      ∃ actual, checkSidecar "d/a b" (tamperedState (bytesOf "y")) =
        (.ok (.differs d actual), tamperedState (bytesOf "y")) := by
  have hok : (writeSidecar "d/a b" loneState).1.isOk = true := by decide +kernel
  have hplace : (writeSidecar "d/a b" loneState).2.files.place "d/a b" = ["a b", "d"] := by
    decide +kernel
  have hkept : (writeSidecar "d/a b" loneState).2.files.file? ["a b", "d"] =
      some (bytesOf "x") := by
    decide +kernel
  obtain ⟨d, hrun⟩ := exists_of_isOk hok
  obtain ⟨-, -, ⟨c₀, hc₀, hd⟩, -, hdetects⟩ := writeSidecar_detects linkFree_loneState hrun
  have hover (c : Content) : Overwritten (writeSidecar "d/a b" loneState).2.files
      (tamperedState c).files "d/a b" c := by
    have hset := overwritten_set (p := "d/a b") (hplace.symm ▸ hkept) c
    rwa [hplace] at hset
  have hfile : loneState.files.file? (loneState.files.place "d/a b") = some (bytesOf "x") := by
    decide +kernel
  rw [hfile, Option.some.injEq] at hc₀
  subst hc₀
  have hother : Hex.encode (Sha256.hash (bytesOf "y")) ≠
      Hex.encode (Sha256.hash (bytesOf "x")) := by
    decide +kernel
  obtain ⟨actual, -, hdiffers⟩ := (hdetects _ _ (hover (bytesOf "y"))).2 (hd ▸ hother)
  exact ⟨linkFree_loneState, d, _, hrun, hover, (hdetects _ _ (hover (bytesOf "x"))).1.2 hd.symm,
    actual, hdiffers⟩

end Packaging
