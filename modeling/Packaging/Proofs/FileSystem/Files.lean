import Packaging.Proofs.Actions
import Packaging.Proofs.FileSystem.Places
import Packaging.Proofs.Text.Utf8

/-!
# What operations on files do when there are no links

Each operation either fails and leaves the file system as it was, or succeeds and writes one file,
and which of the two it does follows from the contents and slots of its paths.

* `openPath_run`, `createFile_run`: opening and creating.
* `readText_run`, `writeText_run`, `copyFile_run`: reading, writing and copying. A file that is
  copied onto itself is emptied.
* `readText_ok_iff`, `readText_error_iff`: which text a path gives, and why others give none.
* `copyFile_effect`: what a copy leaves, whatever its source is.
* `Touches`: an operation changes the files at its own paths only, also when it fails.
* `ensureDirectories_growsAt`: making directories keeps all that exists, and makes those on the way
  to a path.
-/

namespace Packaging.FileSystem

open Packaging.Action

variable {fs fs' : FileSystem} {loc : Location} {p : String}

/-! ## Opening and creating -/

theorem ofResult_ok {α : Type} (a : α) : ofResult (.ok a) fs = (.ok a, fs) := rfl

theorem ofResult_error {α : Type} (e : IoError) :
    ofResult (α := α) (.error e) fs = (.error e, fs) :=
  rfl

theorem get_apply : (get : FileAction FileSystem) fs = (.ok fs, fs) := rfl

/-- Opening a path finds the file that it leads to, or a directory, or fails. -/
theorem openPath_run (hfs : fs.LinkFree) (hp : EndsInName (partsOf p)) :
    (∃ loc c, fs.slot? p = some loc ∧ fs.file? loc = some c ∧ openPath p fs = (.ok loc, fs)) ∨
    fs.content? p = none ∧
      ((∃ loc, openPath p fs = (.ok loc, fs) ∧ fs.node? loc = some .directory) ∨
        ∃ e, openPath p fs = (.error e, fs)) := by
  have h := walk_open hfs p
  have hc := content?_eq hfs p
  rw [openPath, bind_of_ok get_apply]
  cases hw : fs.walk .open p with
  | error e =>
    rw [hw] at h
    rw [bind_of_error (ofResult_error e)]
    cases h with
    | error h1 => exact .inr ⟨hc.trans h1, .inr ⟨e, rfl⟩⟩
  | ok t =>
    rw [hw] at h
    rw [bind_of_ok (ofResult_ok t)]
    cases h with
    | @file loc c h1 h2 => exact .inl ⟨loc, c, h1, h2, rfl⟩
    | @directory loc h1 h2 => exact .inr ⟨by rw [hc, h1]; rfl, .inl ⟨loc, rfl, h2 hp⟩⟩
    | vacant h1 => exact .inr ⟨hc.trans h1, .inr ⟨_, rfl⟩⟩

theorem openPath_ok_iff :
    openPath p fs = (.ok loc, fs) ↔ ∃ n, fs.walk .open p = .ok (.node loc n) := by
  rw [openPath, bind_of_ok get_apply]
  cases hw : fs.walk .open p with
  | error e => exact ⟨nofun, nofun⟩
  | ok t =>
    rw [bind_of_ok (ofResult_ok t)]
    cases t with
    | node found n =>
      refine ⟨fun h => ?_, fun ⟨n', h⟩ => ?_⟩ <;> cases h
      · exact ⟨n, rfl⟩
      · rfl
    | vacant dir name => exact ⟨nofun, nofun⟩

/-- A file that was opened stands at its path's place. -/
theorem place_of_openPath (hfs : fs.LinkFree) (h : openPath p fs = (.ok loc, fs)) :
    loc = fs.place p := by
  obtain ⟨n, hn⟩ := openPath_ok_iff.1 h
  exact place_of_walk hfs hn

/-- Where the directories are the same, a file can be opened again if it is still there. -/
theorem openPath_congr (hfs : fs.LinkFree) (hdirs : SameDirs fs fs')
    (hfile : (fs'.file? loc).isSome) (h : openPath p fs = (.ok loc, fs)) :
    openPath p fs' = (.ok loc, fs') := by
  obtain ⟨n, hn⟩ := openPath_ok_iff.1 h
  exact openPath_ok_iff.2 (walk_congr hfs hdirs hfile hn)

theorem readAt_file {c : Content} (h : fs.file? loc = some c) : readAt loc fs = (.ok c, fs) := by
  rw [readAt, bind_of_ok get_apply, file?_eq_some_iff.1 h]
  rfl

theorem file?_of_readAt {c : Content} (h : readAt loc fs = (.ok c, fs)) :
    fs.file? loc = some c := by
  rw [readAt, bind_of_ok get_apply] at h
  rcases hn : fs.node? loc with - | c' | - | target <;> rw [hn] at h <;> cases h
  exact file?_eq_some_iff.2 hn

theorem readAt_directory (h : fs.node? loc = some .directory) :
    readAt loc fs = (.error .isDirectory, fs) := by
  rw [readAt, bind_of_ok get_apply, h]
  rfl

/-- Creating a file empties its slot; without a slot it fails. -/
theorem createFile_run (hfs : fs.LinkFree) (p : String) :
    (∃ loc, fs.slot? p = some loc ∧ createFile p fs = (.ok loc, fs.set loc (.file []))) ∨
    fs.slot? p = none ∧ ∃ e, createFile p fs = (.error e, fs) := by
  have h := walk_create hfs p
  rw [createFile, bind_of_ok get_apply]
  cases hw : fs.walk .create p with
  | error e =>
    rw [hw] at h
    rw [bind_of_error (ofResult_error e)]
    cases h with
    | error h1 => exact .inr ⟨h1, e, rfl⟩
  | ok t =>
    rw [hw] at h
    rw [bind_of_ok (ofResult_ok t)]
    cases h with
    | @file loc c h1 _ => exact .inl ⟨loc, h1, rfl⟩
    | @vacant dir name h1 _ => exact .inl ⟨name :: dir, h1, rfl⟩
    | directory h1 => exact .inr ⟨h1, _, rfl⟩

/-! ## Reading, writing and copying -/

/-- The text of the file that a walk has found, or why there is none. -/
def textOf : Except IoError Target → Except IoError String
  | .error e => .error e
  | .ok (.vacant _ _) => .error .notFound
  | .ok (.node _ (.file c)) =>
    match Text.ofBytes? c with
    | some t => .ok t
    | none => .error .notText
  | .ok (.node _ _) => .error .isDirectory

/-- Reading a text gives that of the file which the walk finds. -/
theorem readText_eq (hfs : fs.LinkFree) (hp : EndsInName (partsOf p)) :
    readText p fs = (textOf (fs.walk .open p), fs) := by
  have h := walk_open hfs p
  rw [readText]
  cases hw : fs.walk .open p with
  | error e =>
    have ho : openPath p fs = (.error e, fs) := by
      rw [openPath, bind_of_ok get_apply, hw]
      exact bind_of_error (ofResult_error e)
    exact bind_of_error ho
  | ok t =>
    rw [hw] at h
    cases h with
    | @file loc c _ hc =>
      rw [bind_of_ok (openPath_ok_iff.2 ⟨_, hw⟩), bind_of_ok (readAt_file hc), textOf]
      cases Text.ofBytes? c <;> rfl
    | directory _ hd =>
      rw [bind_of_ok (openPath_ok_iff.2 ⟨_, hw⟩)]
      exact bind_of_error (readAt_directory (hd hp))
    | vacant _ =>
      have ho : openPath p fs = (.error .notFound, fs) := by
        rw [openPath, bind_of_ok get_apply, hw]
        rfl
      exact bind_of_error ho

/-- Reading a text changes nothing, and gives the text of a file that has one. -/
theorem readText_run (hfs : fs.LinkFree) (hp : EndsInName (partsOf p)) :
    (∃ c t, fs.content? p = some c ∧ Text.ofBytes? c = some t ∧ readText p fs = (.ok t, fs)) ∨
    (fs.content? p).bind Text.ofBytes? = none ∧ ∃ e, readText p fs = (.error e, fs) := by
  rw [readText_eq hfs hp, content?]
  rcases fs.walk .open p with e | ⟨loc, c | - | target⟩ | ⟨dir, name⟩
  case ok.node.file =>
    rw [textOf, contentOf, Option.bind_some]
    cases ht : Text.ofBytes? c with
    | none => exact .inr ⟨rfl, _, rfl⟩
    | some t => exact .inl ⟨c, t, rfl, ht, rfl⟩
  all_goals exact .inr ⟨rfl, _, rfl⟩

/-- Reading a file as a text fails only if it is no text. -/
theorem readText_of_content {c : Content} (hfs : fs.LinkFree) (hp : EndsInName (partsOf p))
    (h : fs.content? p = some c) :
    readText p fs =
      (match Text.ofBytes? c with
        | some t => .ok t
        | none => .error .notText, fs) := by
  rw [readText_eq hfs hp]
  unfold content? contentOf at h
  split at h
  · next hw => cases h; rw [hw, textOf]
  · cases h

/-- Why a path gives no text. -/
inductive ReadFault (fs : FileSystem) (p : String) : IoError → Prop where
  | notText {c : Content} : fs.content? p = some c → Text.ofBytes? c = none →
      ReadFault fs p .notText
  | directory : fs.isDirectory p = true → ReadFault fs p .isDirectory
  | vacant {dir : Location} {name : String} : fs.walk .open p = .ok (.vacant dir name) →
      ReadFault fs p .notFound
  | noWay {e : IoError} : fs.walk .open p = .error e → ReadFault fs p e

theorem readText_ok_iff {t : String} (hfs : fs.LinkFree) (hp : EndsInName (partsOf p)) :
    (readText p fs).1 = .ok t ↔ fs.content? p = some (Text.bytesOf t) := by
  rw [readText_eq hfs hp, content?]
  rcases fs.walk .open p with e | ⟨loc, c | - | target⟩ | ⟨dir, name⟩
  case ok.node.file =>
    rw [textOf, contentOf, Option.some.injEq]
    constructor
    · intro h
      split at h
      · next t' ht => cases h; exact (Text.bytesOf_of_ofBytes? ht).symm
      · cases h
    · rintro rfl
      rw [Text.ofBytes?_bytesOf]
  all_goals exact iff_of_false (fun h => by cases h) (fun h => by cases h)

theorem readText_error_iff {e : IoError} (hfs : fs.LinkFree) (hp : EndsInName (partsOf p)) :
    (readText p fs).1 = .error e ↔ ReadFault fs p e := by
  rw [readText_eq hfs hp]
  constructor
  · intro h
    have hwalk := walk_open hfs p
    rcases hw : fs.walk .open p with e' | ⟨loc, c | - | target⟩ | ⟨dir, name⟩ <;> rw [hw] at h hwalk
    case ok.node.file =>
      rw [textOf] at h
      split at h
      · cases h
      · next hnone => cases h; exact .notText (by rw [content?, hw]; rfl) hnone
    case ok.node.link => cases hwalk
    all_goals cases h
    · exact .noWay hw
    · exact .directory (by rw [isDirectory, hw])
    · exact .vacant hw
  · intro h
    cases h with
    | @notText c hc hnone =>
      unfold content? contentOf at hc
      split at hc
      · next hw => cases hc; rw [hw, textOf, hnone]
      · cases hc
    | directory hd =>
      rw [isDirectory] at hd
      split at hd
      · next hw => rw [hw]; rfl
      · cases hd
    | vacant hw => rw [hw]; rfl
    | noWay hw => rw [hw]; rfl

/-- Writing a text fills its slot; without a slot it fails and changes nothing. -/
theorem writeText_run (hfs : fs.LinkFree) (p text : String) :
    (∃ loc, fs.slot? p = some loc ∧
      writeText p text fs = (.ok (), fs.set loc (.file (Text.bytesOf text)))) ∨
    fs.slot? p = none ∧ ∃ e, writeText p text fs = (.error e, fs) := by
  rcases createFile_run hfs p with ⟨loc, h1, hc⟩ | ⟨h1, e, hc⟩
  · refine .inl ⟨loc, h1, ?_⟩
    rw [writeText, bind_of_ok hc]
    show (Except.ok (), (fs.set loc (.file [])).set loc _) = _
    rw [set_set]
  · exact .inr ⟨h1, e, bind_of_error hc⟩

/-- **All that copying a file can do.** The content goes into the slot of the copy, unless the copy
is the file itself, which is then emptied. -/
theorem copyFile_run {source : String} (hfs : fs.LinkFree) (hs : EndsInName (partsOf source))
    (target : String) :
    (∃ loc dest c, fs.slot? source = some loc ∧ fs.file? loc = some c ∧
      fs.slot? target = some dest ∧ copyFile source target fs =
        (.ok (), fs.set dest (.file (if loc = dest then [] else c)))) ∨
    (fs.content? source = none ∨ fs.slot? target = none) ∧
      ∃ e, copyFile source target fs = (.error e, fs) := by
  rw [copyFile]
  rcases openPath_run hfs hs with ⟨loc, c, h1, h2, ho⟩ | ⟨hc, ⟨loc, ho, hd⟩ | ⟨e, ho⟩⟩
  · have hfile : fs.isFileAt loc = true := by rw [isFileAt, file?_eq_some_iff.1 h2]
    rw [bind_of_ok ho, bind_of_ok get_apply, hfile]
    rcases createFile_run hfs target with ⟨dest, h3, hcreate⟩ | ⟨h3, e, hcreate⟩
    · refine .inl ⟨loc, dest, c, h1, h2, h3, ?_⟩
      have hto : dest ≠ [] := (slot?_spec hfs h3).2.1
      -- the file is read after its copy was emptied, so the two may be the same
      have hread : (fs.set dest (.file [])).file? loc = some (if loc = dest then [] else c) := by
        rw [file?_set hto, h2]
        split <;> rfl
      rw [if_neg (show ¬ (!true) = true from Bool.false_ne_true)]
      refine (bind_of_ok hcreate).trans ((bind_of_ok (readAt_file hread)).trans ?_)
      show (Except.ok (), (fs.set dest (.file [])).set dest _) = _
      rw [set_set]
    · exact .inr ⟨.inr h3, e, bind_of_error hcreate⟩
  · have hfile : fs.isFileAt loc = false := by rw [isFileAt, hd]
    rw [bind_of_ok ho, bind_of_ok get_apply, hfile]
    exact .inr ⟨.inl hc, _, rfl⟩
  · rw [bind_of_error ho]
    exact .inr ⟨.inl hc, e, rfl⟩

theorem openPath_unchanged {r : Except IoError Location} (h : openPath p fs = (r, fs')) :
    fs' = fs := by
  rw [openPath, bind_of_ok get_apply] at h
  cases hw : fs.walk .open p with
  | error e => rw [hw] at h; cases h; rfl
  | ok t => rw [hw] at h; cases t <;> (cases h; rfl)

theorem readAt_unchanged {r : Except IoError Content} (h : readAt loc fs = (r, fs')) :
    fs' = fs := by
  rw [readAt, bind_of_ok get_apply] at h
  rcases hn : fs.node? loc with - | c | - | target <;> rw [hn] at h <;> (cases h; rfl)

theorem readText_unchanged {r : Except IoError String} (h : readText p fs = (r, fs')) :
    fs' = fs := by
  rw [readText] at h
  rcases ho : openPath p fs with ⟨_ | found, fs₁⟩ <;> cases openPath_unchanged ho
  · rw [bind_of_error ho] at h; cases h; rfl
  rw [bind_of_ok ho] at h
  rcases hr : readAt found fs with ⟨_ | c, fs₂⟩ <;> cases readAt_unchanged hr
  · rw [bind_of_error hr] at h; cases h; rfl
  rw [bind_of_ok hr] at h
  cases ht : Text.ofBytes? c <;> rw [ht] at h <;> (cases h; rfl)

/-- **What copying leaves, whatever the source is**: nothing new, or something in the slot of the
copy. -/
theorem copyFile_effect (hfs : fs.LinkFree) (source target : String) :
    (∃ e, copyFile source target fs = (.error e, fs)) ∨
    ∃ loc c r, fs.slot? target = some loc ∧
      copyFile source target fs = (r, fs.set loc (.file c)) := by
  rw [copyFile]
  rcases ho : openPath source fs with ⟨e | found, fs₁⟩ <;> cases openPath_unchanged ho
  · exact .inl ⟨e, bind_of_error ho⟩
  rw [bind_of_ok ho, bind_of_ok get_apply]
  split
  · exact .inl ⟨_, rfl⟩
  rcases createFile_run hfs target with ⟨loc, hloc, hcreate⟩ | ⟨-, e, hcreate⟩
  case inr => exact .inl ⟨e, bind_of_error hcreate⟩
  right
  rcases hr : readAt found (fs.set loc (.file [])) with ⟨e | c, fs₂⟩ <;> cases readAt_unchanged hr
  · exact ⟨loc, [], .error e, hloc, (bind_of_ok hcreate).trans (bind_of_error hr)⟩
  · refine ⟨loc, c, .ok (), hloc, (bind_of_ok hcreate).trans ((bind_of_ok hr).trans ?_)⟩
    show (Except.ok (), (fs.set loc (.file [])).set loc _) = _
    rw [set_set]

/-- A copy has a slot if copying succeeds, and then something stands in it. -/
theorem slot?_of_copyFile {source target : String} (hfs : fs.LinkFree)
    (h : copyFile source target fs = (.ok (), fs')) :
    ∃ loc c, fs.slot? target = some loc ∧ fs' = fs.set loc (.file c) := by
  rcases copyFile_effect hfs source target with ⟨e, he⟩ | ⟨loc, c, r, hloc, hr⟩
  · rw [he] at h
    cases h
  · rw [hr] at h
    cases h
    exact ⟨loc, c, hloc, rfl⟩

/-! ## Touching paths -/

/-- Only the files that these paths lead to came or changed, and none went. -/
structure Touched (paths : List String) (fs fs' : FileSystem) : Prop where
  linkFree : fs'.LinkFree
  current : fs'.current = fs.current
  other : ∀ loc, (∀ p ∈ paths, loc ≠ fs.place p) → fs'.file? loc = fs.file? loc
  kept : ∀ loc, (fs.file? loc).isSome → (fs'.file? loc).isSome

/-- File systems without links before an action were touched at these paths only. -/
def Touches (paths : List String) (fs fs' : FileSystem) : Prop :=
  fs.LinkFree → Touched paths fs fs'

section Touches

variable {paths : List String}

theorem Touches.refl (paths : List String) (fs : FileSystem) : Touches paths fs fs :=
  fun hfs => ⟨hfs, rfl, fun _ _ => rfl, fun _ h => h⟩

theorem Touches.trans {fs'' : FileSystem} (h : Touches paths fs fs') (h' : Touches paths fs' fs'') :
    Touches paths fs fs'' := by
  intro hfs
  have ht := h hfs
  have ht' := h' ht.linkFree
  refine ⟨ht'.linkFree, ht'.current.trans ht.current, fun loc hloc => ?_,
    fun loc hloc => ht'.kept loc (ht.kept loc hloc)⟩
  rw [ht'.other loc (by simpa only [place_congr ht.current] using hloc), ht.other loc hloc]

theorem touched_set_slot (hfs : fs.LinkFree) (hloc : fs.slot? p = some loc) (hp : p ∈ paths)
    (c : Content) : Touched paths fs (fs.set loc (.file c)) := by
  obtain ⟨hplace, hne, -⟩ := slot?_spec hfs hloc
  refine ⟨linkFree_set_slot hfs hloc c, rfl, fun l hl => ?_, fun l hl => ?_⟩
  · rw [file?_set hne, if_neg fun e => hl p hp (e.trans hplace)]
  · rw [file?_set hne]
    split
    · rfl
    · exact hl

theorem writeText_touches (hp : p ∈ paths) (text : String) :
    Within (Touches paths) (writeText p text) := by
  intro fs hfs
  rcases writeText_run hfs p text with ⟨loc, hloc, h⟩ | ⟨-, e, h⟩
  · rw [h]; exact touched_set_slot hfs hloc hp _
  · rw [h]; exact Touches.refl paths fs hfs

theorem copyFile_touches (hp : p ∈ paths) (source : String) :
    Within (Touches paths) (copyFile source p) := by
  intro fs hfs
  rcases copyFile_effect hfs source p with ⟨e, h⟩ | ⟨loc, c, r, hloc, h⟩
  · rw [h]; exact Touches.refl paths fs hfs
  · rw [h]; exact touched_set_slot hfs hloc hp c

end Touches

/-! ## Making directories -/

/-- All that exists is kept, and all that is new is a directory. -/
structure Grown (fs fs' : FileSystem) : Prop where
  current : fs'.current = fs.current
  node? : ∀ loc, fs'.node? loc = fs.node? loc ∨
    fs.node? loc = none ∧ fs'.node? loc = some .directory

theorem Grown.refl (fs : FileSystem) : Grown fs fs := ⟨rfl, fun _ => .inl rfl⟩

theorem Grown.trans {fs'' : FileSystem} (h : Grown fs fs') (h' : Grown fs' fs'') :
    Grown fs fs'' := by
  refine ⟨h'.current.trans h.current, fun loc => ?_⟩
  rcases h'.node? loc with e' | ⟨e', d'⟩ <;> rcases h.node? loc with e | ⟨e, d⟩
  · exact .inl (e'.trans e)
  · exact .inr ⟨e, e'.trans d⟩
  · exact .inr ⟨e ▸ e', d'⟩
  · rw [d] at e'; cases e'

theorem Grown.linkFree (h : Grown fs fs') (hfs : fs.LinkFree) : fs'.LinkFree := by
  intro loc target hl
  rcases h.node? loc with e | ⟨-, d⟩
  · exact hfs loc target (e ▸ hl)
  · rw [d] at hl; cases hl

/-- No file comes or goes or changes. -/
theorem Grown.file? (h : Grown fs fs') (loc : Location) : fs'.file? loc = fs.file? loc := by
  rcases h.node? loc with e | ⟨e, d⟩
  · rw [FileSystem.file?, FileSystem.file?, e]
  · rw [FileSystem.file?, FileSystem.file?, e, d]

theorem placeFrom_of_isLast {rest : List Part} (h : isLast rest = true) (dir : Location) :
    placeFrom dir rest = dir := by
  induction rest with
  | nil => rfl
  | cons part rest ih =>
    rw [isLast, List.all_cons, Bool.and_eq_true, decide_eq_true_iff] at h
    obtain ⟨rfl, hrest⟩ := h
    exact ih hrest

/-- A place for a new entry is vacant, and the parts lead to it. -/
theorem followParts_entry (hfs : fs.LinkFree)
    (jump : Location → List Part → Except IoError Target) {parts : List Part} {start dir : Location}
    {name : String} (h : fs.followParts .entry jump start parts = .ok (.vacant dir name)) :
    fs.node? (name :: dir) = none ∧ name :: dir = placeFrom start parts := by
  induction parts generalizing start with
  | nil => cases h
  | cons part rest ih =>
    cases part with
    | here => exact ih h
    | slash => exact ih h
    | up => exact ih h
    | name next =>
      rw [followParts, if_neg (fun hc => by cases hc.1)] at h
      split at h
      · cases h
      · split at h
        · rename_i hnode
          split at h
          · rename_i hrest
            cases h
            have hlast : isLast rest = true := hrest.elim (fun hnil => hnil ▸ rfl) (·.2)
            exact ⟨hnode, (placeFrom_of_isLast hlast _).symm⟩
          · cases h
        · exact ih h
        · split at h <;> cases h
        · rename_i hnode
          exact absurd hnode (hfs _ _)

theorem walk_entry (hfs : fs.LinkFree) {dir : Location} {name : String}
    (h : fs.walk .entry p = .ok (.vacant dir name)) :
    fs.node? (name :: dir) = none ∧ name :: dir = fs.place p := by
  by_cases hp : Usable p
  · rw [walk_of_usable hp] at h
    exact followParts_entry hfs _ h
  · obtain ⟨e, he⟩ := walk_of_not_usable fs hp .entry
    rw [he] at h
    cases h

/-- File systems without links before an action have grown after it, at the places of these paths
only. -/
def GrowsAt (paths : List String) (fs fs' : FileSystem) : Prop :=
  fs.LinkFree → Grown fs fs' ∧
    ∀ loc, fs'.node? loc ≠ fs.node? loc → ∃ p ∈ paths, loc = fs.place p

theorem GrowsAt.refl (paths : List String) (fs : FileSystem) : GrowsAt paths fs fs :=
  fun _ => ⟨.refl fs, fun _ h => absurd rfl h⟩

theorem GrowsAt.trans {paths : List String} {fs'' : FileSystem} (h : GrowsAt paths fs fs')
    (h' : GrowsAt paths fs' fs'') : GrowsAt paths fs fs'' := by
  intro hfs
  obtain ⟨hgrown, hnew⟩ := h hfs
  obtain ⟨hgrown', hnew'⟩ := h' (hgrown.linkFree hfs)
  refine ⟨hgrown.trans hgrown', fun loc hloc => ?_⟩
  by_cases hmid : fs'.node? loc = fs.node? loc
  · obtain ⟨p, hp, hplace⟩ := hnew' loc (hmid ▸ hloc)
    exact ⟨p, hp, hplace.trans (place_congr hgrown.current p)⟩
  · exact hnew loc hmid

theorem Grown.touched (h : Grown fs fs') (hfs : fs.LinkFree) (paths : List String) :
    Touched paths fs fs' :=
  ⟨h.linkFree hfs, h.current, fun loc _ => h.file? loc, fun loc hloc => by rwa [h.file?]⟩

theorem growsAt_set {paths : List String} (hloc : loc ≠ []) (hvacant : fs.node? loc = none)
    (hp : p ∈ paths) (hplace : loc = fs.place p) : GrowsAt paths fs (fs.set loc .directory) := by
  have hnode : ∀ l, (fs.set loc .directory).node? l =
      if l = loc then some .directory else fs.node? l := node?_set hloc .directory
  refine fun _ => ⟨⟨rfl, fun l => ?_⟩, fun l hl => ⟨p, hp, ?_⟩⟩
  · rw [hnode]
    split
    · rename_i heq; exact .inr ⟨heq ▸ hvacant, rfl⟩
    · exact .inl rfl
  · rw [hnode] at hl
    split at hl
    · rename_i heq; exact heq.trans hplace
    · exact absurd rfl hl

theorem makeDirectory_growsAt {paths : List String} (hp : p ∈ paths) :
    Within (GrowsAt paths) (makeDirectory p) := by
  intro fs hfs
  rw [makeDirectory, bind_of_ok get_apply]
  cases hw : fs.walk .entry p with
  | error e => exact GrowsAt.refl paths fs hfs
  | ok t =>
    cases t with
    | node loc n => exact GrowsAt.refl paths fs hfs
    | vacant dir name =>
      obtain ⟨hvacant, hplace⟩ := walk_entry hfs hw
      exact growsAt_set (List.cons_ne_nil _ _) hvacant hp hplace hfs

section Making

variable {R : FileSystem → FileSystem → Prop} (refl : ∀ fs, R fs fs)
include refl

theorem failUnlessDirectory_within (p : String) (e : IoError) :
    Within R (failUnlessDirectory p e) := by
  refine within_of_unchanged refl fun fs => ?_
  rw [failUnlessDirectory, bind_of_ok get_apply]
  split <;> rfl

variable (trans : ∀ {fs₁ fs₂ fs₃}, R fs₁ fs₂ → R fs₂ fs₃ → R fs₁ fs₃)
include trans

theorem ensureDirectory_within (make : Within R (makeDirectory p)) :
    Within R (ensureDirectory p) :=
  .handling (R := R) trans make (failUnlessDirectory_within refl p)

theorem ensureChain_within {ps : List String} (make : ∀ p ∈ ps, Within R (makeDirectory p)) :
    Within R (ensureChain ps) := by
  induction ps with
  | nil => exact within_of_unchanged refl fun _ => rfl
  | cons p around ih =>
    have hp := make p List.mem_cons_self
    unfold ensureChain
    split
    · exact within_of_unchanged refl fun _ => rfl
    · refine .handling (R := R) trans hp fun e => ?_
      split
      · refine .bind (R := R) trans (ih fun q hq => make q (List.mem_cons_of_mem _ hq)) fun _ => ?_
        exact ensureDirectory_within refl trans hp
      · exact failUnlessDirectory_within refl p e

/-- Making a directory and those around it does what making single ones does. -/
theorem ensureDirectories_within
    (make : ∀ q ∈ chain p.length p, Within R (makeDirectory q)) :
    Within R (ensureDirectories p) :=
  ensureChain_within refl trans make

end Making

/-- **Making directories makes them at the places of the path and of those around it**, also when it
fails. -/
theorem ensureDirectories_growsAt (p : String) :
    Within (GrowsAt (chain p.length p)) (ensureDirectories p) :=
  ensureDirectories_within (GrowsAt.refl _) GrowsAt.trans fun _ hq => makeDirectory_growsAt hq

/-- Making directories keeps all that exists, also when it fails. -/
theorem ensureDirectories_grown (hfs : fs.LinkFree) (p : String) :
    Grown fs (ensureDirectories p fs).2 :=
  (ensureDirectories_growsAt p fs hfs).1

theorem grown_of_ensureDirectories {r : Except IoError Unit} (hfs : fs.LinkFree)
    (h : ensureDirectories p fs = (r, fs')) : Grown fs fs' := by
  have hgrown := ensureDirectories_grown hfs p
  rwa [h] at hgrown

end Packaging.FileSystem
