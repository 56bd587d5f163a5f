import Packaging.Proofs.FileSystem.Files
import Packaging.Proofs.FileSystem.Names
import Packaging.Proofs.Release.Reading

/-!
# Sidecars are the hashes of their files

* `hashFile_of_reads`: hashing a file gives what any reads of its content give.
* `hashFile_run`, `writeSidecar_run`, `readSidecar_run`: all that work on sidecars can do.
* `readSidecar_ok_iff`, `readSidecar_isOk_iff`, `readSidecar_error_iff`: which digest a sidecar
  gives, which sidecars give one, and why the others do not.
* `hashFile_ok`, `writeSidecar_ok`: what it took if hashing a file or writing its sidecar succeeds,
  whatever the path looks like.
-/

namespace Packaging

open Packaging.Action FileSystem Sha256

/-! ## Work on files -/

variable {w : WorkState} {p : String}

theorem Work.during_of_ok {α : Type} {step : FileStep} {action : FileAction α} {a : α}
    {fs : FileSystem} (h : action w.files = (.ok a, fs)) :
    Work.during step p action w = (.ok a, { w with files := fs }) := by
  rw [Work.during, h]
  rfl

theorem Work.during_of_error {α : Type} {step : FileStep} {action : FileAction α} {e : IoError}
    {fs : FileSystem} (h : action w.files = (.error e, fs)) :
    Work.during step p action w = (.error (.io step p e), { w with files := fs }) := by
  rw [Work.during, h]
  rfl

theorem Work.during_ok {α : Type} {step : FileStep} {action : FileAction α} {a : α}
    {w' : WorkState} (h : Work.during step p action w = (.ok a, w')) :
    ∃ fs, action w.files = (.ok a, fs) ∧ w' = { w with files := fs } := by
  rcases hr : action w.files with ⟨r, fs⟩
  cases r with
  | error e => rw [Work.during_of_error hr] at h; cases h
  | ok b => rw [Work.during_of_ok hr] at h; cases h; exact ⟨fs, rfl, rfl⟩

theorem hashFile_of_openPath {loc : Location} {c : Content}
    (ho : openPath p w.files = (.ok loc, w.files)) (hc : w.files.file? loc = some c) :
    hashFile p w = (.ok (.ofContent c), w) := by
  rw [hashFile, bind_of_ok (Work.during_of_ok ho),
    bind_of_ok (Work.during_of_ok (readAt_file hc)), get_digestOfReads?]
  rfl

/-- Hashing succeeds where a file can be opened, and changes nothing. -/
theorem hashFile_ok {d : Digest} {w' : WorkState} (h : hashFile p w = (.ok d, w')) :
    w' = w ∧ ∃ loc c, openPath p w.files = (.ok loc, w.files) ∧ w.files.file? loc = some c ∧
      d = .ofContent c := by
  rw [hashFile] at h
  obtain ⟨loc, w₁, hduring, h⟩ := bind_ok h
  obtain ⟨c, w₂, hduring', h⟩ := bind_ok h
  obtain ⟨fs, hopen, rfl⟩ := Work.during_ok hduring
  cases openPath_unchanged hopen
  obtain ⟨fs, hread, rfl⟩ := Work.during_ok hduring'
  cases readAt_unchanged hread
  cases h
  exact ⟨rfl, loc, c, hopen, file?_of_readAt hread, get_digestOfReads? c⟩

/-- **Hashing a file gives what any reads of its content give**: they come to an end, and their
digest is the hash of the whole content in lower-case digits. -/
theorem hashFile_of_reads {c : Content} {reads : List Content} (hr : Reads c reads) :
    ∃ d, digestOfReads? reads = some d ∧ d.text.toList = Text.Hex.encode (hash c) ∧
      (∀ ch ∈ d.text.toList, ch ∈ "0123456789abcdef".toList) ∧
      ∀ {w : WorkState} {p : String} {loc : Location},
        openPath p w.files = (.ok loc, w.files) → w.files.file? loc = some c →
          hashFile p w = (.ok d, w) := by
  refine ⟨.ofContent c, digestOfReads?_of_reads hr, Digest.toList_ofContent c, fun ch hch => ?_,
    hashFile_of_openPath⟩
  rw [Digest.toList_ofContent] at hch
  exact Text.Hex.mem_of_mem_encode hch

/-- The second and third read leave bytes of the first in the buffer. -/
theorem hashFile_of_reads_shrinking :
    Reads [104, 101, 108, 108, 111] [[104, 101, 108], [108], [111], [], [33]] ∧
    ∃ d, digestOfReads? [[104, 101, 108], [108], [111], [], [33]] = some d ∧
      d.text = "2cf24dba5fb0a30e26e83b2ac5b9e29e1b161e5c1fa7425e73043362938b9824" := by
  have hr : Reads [104, 101, 108, 108, 111] [[104, 101, 108], [108], [111], [], [33]] := by
    refine .piece (p := [104, 101, 108]) ?_ ?_ (.piece (p := [108]) ?_ ?_
      (.piece (p := [111]) ?_ ?_ (.done [[33]]))) <;> decide
  obtain ⟨d, hread, htext, -⟩ := hashFile_of_reads hr
  have hhash : Text.Hex.encode (hash [104, 101, 108, 108, 111]) =
      "2cf24dba5fb0a30e26e83b2ac5b9e29e1b161e5c1fa7425e73043362938b9824".toList := by
    decide +kernel
  exact ⟨hr, d, hread, String.toList_injective (htext.trans hhash)⟩

/-- Hashing a file changes nothing and gives the digest of its content. -/
theorem hashFile_run (hfs : w.files.LinkFree) (hp : EndsInName (partsOf p)) :
    (∃ c, w.files.content? p = some c ∧ hashFile p w = (.ok (.ofContent c), w)) ∨
    w.files.content? p = none ∧ ∃ e, hashFile p w = (.error e, w) := by
  rcases openPath_run hfs hp with ⟨loc, c, h1, h2, ho⟩ | ⟨hc, ⟨loc, ho, hd⟩ | ⟨e, ho⟩⟩
  · exact .inl ⟨c, by rw [content?_eq hfs, h1, Option.bind_some, h2], hashFile_of_openPath ho h2⟩
  · refine .inr ⟨hc, .io .read p .isDirectory, ?_⟩
    rw [hashFile, bind_of_ok (Work.during_of_ok ho)]
    exact bind_of_error (Work.during_of_error (readAt_directory hd))
  · exact .inr ⟨hc, _, bind_of_error (Work.during_of_error ho)⟩

/-- What the sidecar of a file with this content and name holds: the hash in lower-case digits, two
spaces, the name and a line end. -/
def sidecarContent (c : Content) (name : String) : Content :=
  Text.bytesOf (String.ofList (Text.Hex.encode (hash c)) ++ "  " ++ name ++ "\n")

/-- **All that writing the sidecar of a file in a directory can do.** -/
theorem writeSidecar_run {name : String} (dir : String) (hfs : w.files.LinkFree)
    (hname : Path.PlainName name) :
    (∃ c loc, w.files.content? (Path.join dir name) = some c ∧
      w.files.slot? (Path.join dir (Path.sidecar name)) = some loc ∧
      writeSidecar (Path.join dir name) w = (.ok (.ofContent c),
        { w with files := w.files.set loc (.file (sidecarContent c name)) })) ∨
    (w.files.content? (Path.join dir name) = none ∨
        w.files.slot? (Path.join dir (Path.sidecar name)) = none) ∧
      ∃ e, writeSidecar (Path.join dir name) w = (.error e, w) := by
  rw [writeSidecar]
  rcases hashFile_run hfs (endsInName_join dir hname) with ⟨c, hc, hh⟩ | ⟨hc, e, hh⟩
  · rw [bind_of_ok hh, Path.fileName?_join hname, Path.sidecar_join]
    rcases writeText_run hfs (Path.join dir (Path.sidecar name))
      ((Digest.ofContent c).sidecarLine name) with ⟨loc, h1, hw⟩ | ⟨h1, e, hw⟩
    · exact .inl ⟨c, loc, hc, h1, bind_of_ok (Work.during_of_ok hw)⟩
    · exact .inr ⟨.inr h1, _, bind_of_error (Work.during_of_error hw)⟩
  · exact .inr ⟨.inl hc, e, bind_of_error hh⟩

/-- Writing a sidecar succeeds where the file can be opened and the sidecar has a slot, which it
fills. -/
theorem writeSidecar_ok {d : Digest} {w' : WorkState} (hfs : w.files.LinkFree)
    (h : writeSidecar p w = (.ok d, w')) :
    ∃ loc c slot name, openPath p w.files = (.ok loc, w.files) ∧ w.files.file? loc = some c ∧
      d = .ofContent c ∧ w.files.slot? (Path.sidecar p) = some slot ∧
      w' = { w with files := w.files.set slot (.file (sidecarContent c name)) } := by
  rw [writeSidecar] at h
  obtain ⟨digest, w₁, hhash, h⟩ := bind_ok h
  obtain ⟨_, w₂, hduring, h⟩ := bind_ok h
  obtain ⟨rfl, loc, c, hopen, hc, rfl⟩ := hashFile_ok hhash
  obtain ⟨fs, hwrite, rfl⟩ := Work.during_ok hduring
  cases h
  rcases writeText_run hfs (Path.sidecar p) _ with ⟨slot, hslot, hok⟩ | ⟨-, e, herror⟩
  · rw [hok] at hwrite
    cases hwrite
    exact ⟨loc, c, slot, _, hopen, hc, rfl, hslot, rfl⟩
  · rw [herror] at hwrite
    cases hwrite

/-- The digest that a sidecar with this content records. -/
def recordedDigest? (c : Content) : Option Digest :=
  match (Text.ofBytes? c).map Digest.ofSidecar with
  | some (.ok d) => some d
  | _ => none

/-- A written sidecar records the digest of the content. -/
theorem recordedDigest?_sidecarContent (c : Content) (name : String) :
    recordedDigest? (sidecarContent c name) = some (.ofContent c) := by
  have hline : sidecarContent c name = Text.bytesOf ((Digest.ofContent c).sidecarLine name) := rfl
  rw [recordedDigest?, hline, Text.ofBytes?_bytesOf, Option.map_some, Digest.ofSidecar_sidecarLine]

/-! ## Reading sidecars -/

/-- Reading a sidecar is reading its text and then the digest in it. -/
theorem readSidecar_eq (p : String) (w : WorkState) : readSidecar p w =
    (match (readText p w.files).1 with
      | .ok text => (Digest.ofSidecar text).mapError (.sidecar p)
      | .error e => .error (.io .read p e), w) := by
  rcases hr : readText p w.files with ⟨r, fs⟩
  cases readText_unchanged hr
  cases r with
  | error e => exact bind_of_error (Work.during_of_error hr)
  | ok text =>
    refine (bind_of_ok (Work.during_of_ok hr)).trans ?_
    cases hd : Digest.ofSidecar text with
    | ok d => simp only [hd]; rfl
    | error e => simp only [hd]; rfl

theorem readSidecar_unchanged (p : String) (w : WorkState) : (readSidecar p w).2 = w := by
  rw [readSidecar_eq]

/-- Reading a sidecar changes nothing and gives the digest that it records. -/
theorem readSidecar_run (hfs : w.files.LinkFree) (hp : EndsInName (partsOf p)) :
    (∃ c d, w.files.content? p = some c ∧ recordedDigest? c = some d ∧
      readSidecar p w = (.ok d, w)) ∨
    (w.files.content? p).bind recordedDigest? = none ∧ ∃ e, readSidecar p w = (.error e, w) := by
  rw [readSidecar_eq]
  rcases readText_run hfs hp with ⟨c, t, hc, ht, hr⟩ | ⟨hn, e, hr⟩
  · rw [hr, hc, Option.bind_some, recordedDigest?, ht, Option.map_some]
    cases hd : Digest.ofSidecar t with
    | ok d =>
      refine .inl ⟨c, d, rfl, by rw [recordedDigest?, ht, Option.map_some, hd], ?_⟩
      simp only [hd]
      rfl
    | error e =>
      refine .inr ⟨rfl, .sidecar p e, ?_⟩
      simp only [hd]
      rfl
  · rw [hr]
    refine .inr ⟨?_, _, rfl⟩
    cases hc : w.files.content? p with
    | none => rfl
    | some c =>
      rw [hc, Option.bind_some] at hn
      rw [Option.bind_some, recordedDigest?, hn]
      rfl

/-- Reading a sidecar that is there fails only if it is no text or records no digest. -/
theorem readSidecar_of_content {c : Content} (hfs : w.files.LinkFree)
    (hp : EndsInName (partsOf p)) (h : w.files.content? p = some c) :
    readSidecar p w =
      (match Text.ofBytes? c with
        | some text => (Digest.ofSidecar text).mapError (.sidecar p)
        | none => .error (.io .read p .notText), w) := by
  rw [readSidecar_eq, readText_of_content hfs hp h]
  cases Text.ofBytes? c <;> rfl

/-- There is a text at a path, and this is its first token. -/
def FileSystem.TokenAt (fs : FileSystem) (p : String) (token : List Char) : Prop :=
  ∃ text, fs.content? p = some (Text.bytesOf text) ∧ Text.BeginsWith token text.toList

/-- Why a sidecar gives no digest: its text cannot be read, or begins with none. -/
inductive NoDigest (fs : FileSystem) (p : String) : ReleaseError → Prop where
  | unread {e : IoError} : ReadFault fs p e → NoDigest fs p (.io .read p e)
  | refused {text : String} {e : Digest.Error} : fs.content? p = some (Text.bytesOf text) →
      Digest.Refused text e → NoDigest fs p (.sidecar p e)

section Reading

variable (hfs : w.files.LinkFree) (hp : EndsInName (partsOf p))
include hfs hp

theorem readSidecar_ok_iff {d : Digest} :
    (readSidecar p w).1 = .ok d ↔ w.files.TokenAt p d.text.toList := by
  simp only [TokenAt, ← readText_ok_iff hfs hp, ← Digest.ofSidecar_ok_iff_beginsWith]
  rw [readSidecar_eq]
  cases (readText p w.files).1 with
  | error e => exact ⟨nofun, nofun⟩
  | ok text => cases hd : Digest.ofSidecar text <;> simp [hd, Except.mapError]

theorem readSidecar_isOk_iff : (readSidecar p w).1.isOk = true ↔ ∃ token : List Char,
    w.files.TokenAt p token ∧ token.length = 64 ∧ ∀ c ∈ token, Text.Hex.isDigit c = true := by
  simp only [isOk_iff_exists, readSidecar_ok_iff hfs hp, ← Digest.exists_toList_text_iff]
  constructor
  · rintro ⟨d, hd⟩
    exact ⟨_, hd, d, rfl⟩
  · rintro ⟨_, hd, d, rfl⟩
    exact ⟨d, hd⟩

theorem readSidecar_error_iff {e : ReleaseError} :
    (readSidecar p w).1 = .error e ↔ NoDigest w.files p e := by
  rw [readSidecar_eq]
  constructor
  · intro h
    cases hr : (readText p w.files).1 with
    | error e' =>
      rw [hr] at h
      cases h
      exact .unread ((readText_error_iff hfs hp).1 hr)
    | ok text =>
      rw [hr] at h
      cases hd : Digest.ofSidecar text with
      | error e' =>
        simp only [hd] at h
        cases h
        exact .refused ((readText_ok_iff hfs hp).1 hr) (Digest.ofSidecar_error_iff.1 hd)
      | ok d => simp only [hd] at h; cases h
  · intro h
    cases h with
    | unread hfault => rw [(readText_error_iff hfs hp).2 hfault]
    | refused htext hrefused =>
      simp only [(readText_ok_iff hfs hp).2 htext, Digest.ofSidecar_error_iff.2 hrefused]
      rfl

end Reading

end Packaging
