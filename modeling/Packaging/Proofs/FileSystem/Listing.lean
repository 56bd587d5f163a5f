import Packaging.Proofs.FileSystem.Files
import Packaging.Proofs.FileSystem.Names
import Mathlib.Data.List.Nodup

/-!
# What is listed of a directory

The names in the directories of a file system are plain, whatever is done with it (`WellNamed`), so
a listed name and its directory make the path of what is listed.

* `WellNamed.set`, `ensureDirectories_keepsNames`: names stay plain.
* `mem_names`, `nodup_names`: every name in a directory is listed once.
* `content?_of_walk`: what is read through the names in a directory that can be listed.
* `entryNames_ok_iff`: which paths can be listed.
* `entryNames_run`, `ensureDirectories_of_slot`: a directory that files can be in can be listed and
  need not be made.
-/

namespace Packaging.FileSystem

open Packaging.Action Packaging.Path Text

variable {fs fs' : FileSystem} {loc : Location} {p dir name : String}

/-! ## Plain names -/

/-- Whatever stands in a directory has a plain name. -/
def WellNamed (fs : FileSystem) : Prop :=
  ∀ name dir n, fs.node? (name :: dir) = some n → PlainName name

theorem wellNamed_empty : empty.WellNamed := by
  intro name dir n h
  simp [node?, empty] at h

theorem WellNamed.set {dir : Location} (h : fs.WellNamed) (hname : PlainName name) (n : Node) :
    (fs.set (name :: dir) n).WellNamed := by
  intro name' dir' n' hn
  rw [node?_set (List.cons_ne_nil _ _)] at hn
  split at hn
  · next heq => cases heq; exact hname
  · exact h name' dir' n' hn

theorem WellNamed.set_slot {c : Content} (h : fs.WellNamed) (hfs : fs.LinkFree)
    (hname : PlainName name) (hloc : fs.slot? (join dir name) = some loc) :
    (fs.set loc (.file c)).WellNamed := by
  rw [(slot?_spec hfs hloc).1, place_join hname]
  exact h.set hname _

/-! ## Names of parts -/

theorem partOf?_eq_name {cs : List Char} (h : partOf? cs = some (.name name)) :
    name.toList = cs ∧ isName cs = true := by
  unfold partOf? at h
  split at h
  · cases h
  · cases h
  · cases h
  · next h₁ h₂ h₃ =>
    cases h
    refine ⟨String.toList_ofList, ?_⟩
    simp only [isName, Bool.and_eq_true, decide_eq_true_iff]
    exact ⟨⟨h₁, h₂⟩, h₃⟩

/-- The names among the parts of a path are plain. -/
theorem plainName_of_mem_partsOf (h : Part.name name ∈ partsOf p) : PlainName name := by
  rw [partsOf, List.mem_append] at h
  rcases h with h | h
  · obtain ⟨cs, hcs, hpart⟩ := List.mem_filterMap.1 h
    obtain ⟨rfl, hname⟩ := partOf?_eq_name hpart
    exact ⟨fun hc => not_isMark_of_mem_splitAtMarks hcs '/' hc (by decide), hname⟩
  · split at h
    · cases List.mem_singleton.1 h
    · cases h

/-- A vacant place has the name of one of the parts that led to it. -/
theorem followParts_vacant (hfs : fs.LinkFree) {purpose : Purpose}
    (jump : Location → List Part → Except IoError Target) {parts : List Part} {start dir : Location}
    (h : fs.followParts purpose jump start parts = .ok (.vacant dir name)) :
    Part.name name ∈ parts := by
  induction parts generalizing start with
  | nil => cases h
  | cons part rest ih =>
    cases part with
    | here => exact List.mem_cons_of_mem _ (ih h)
    | slash => exact List.mem_cons_of_mem _ (ih h)
    | up => exact List.mem_cons_of_mem _ (ih h)
    | name next =>
      rw [followParts] at h
      split at h
      · cases h
      split at h
      · cases h
      split at h
      · split at h
        · cases h; exact List.mem_cons_self
        · cases h
      · exact List.mem_cons_of_mem _ (ih h)
      · split at h <;> cases h
      · next hnode => exact absurd hnode (hfs _ _)

theorem plainName_of_walk {purpose : Purpose} {dir : Location} (hfs : fs.LinkFree)
    (h : fs.walk purpose p = .ok (.vacant dir name)) : PlainName name := by
  by_cases hp : Usable p
  · rw [walk_of_usable hp] at h
    exact plainName_of_mem_partsOf (followParts_vacant hfs _ h)
  · obtain ⟨e, he⟩ := walk_of_not_usable fs hp purpose
    rw [he] at h
    cases h

/-- No links and no odd names appear. -/
def KeepsNames (fs fs' : FileSystem) : Prop :=
  fs.LinkFree ∧ fs.WellNamed → fs'.LinkFree ∧ fs'.WellNamed

theorem makeDirectory_keepsNames (p : String) : Within KeepsNames (makeDirectory p) := by
  intro fs ⟨hfs, hnamed⟩
  rw [makeDirectory, bind_of_ok get_apply]
  cases hw : fs.walk .entry p with
  | error e => exact ⟨hfs, hnamed⟩
  | ok t =>
    cases t with
    | node loc n => exact ⟨hfs, hnamed⟩
    | vacant dir name =>
      exact ⟨hfs.set_directory (List.cons_ne_nil _ _), hnamed.set (plainName_of_walk hfs hw) _⟩

/-- **Making directories makes no odd names.** -/
theorem ensureDirectories_keepsNames (p : String) : Within KeepsNames (ensureDirectories p) :=
  ensureDirectories_within (R := KeepsNames) (fun _ => id) (fun h h' => h' ∘ h)
    fun q _ => makeDirectory_keepsNames q

/-! ## Names in a directory -/

theorem mem_names {dir : Location} :
    name ∈ fs.names dir ↔ ∃ n, fs.node? (name :: dir) = some n := by
  simp only [names, List.mem_filterMap, Std.ExtTreeMap.mem_keys,
    Std.ExtTreeMap.mem_iff_isSome_getElem?, ← Option.isSome_iff_exists]
  constructor
  · rintro ⟨_ | ⟨name', dir'⟩, hloc, hname⟩
    · cases hname
    · dsimp only at hname
      split at hname
      · next hdir => cases hname; cases hdir; exact hloc
      · cases hname
  · intro h
    exact ⟨name :: dir, h, if_pos rfl⟩

theorem nodup_names (fs : FileSystem) (dir : Location) : (fs.names dir).Nodup := by
  refine List.Nodup.filterMap ?_ Std.ExtTreeMap.nodup_keys
  rintro (_ | ⟨a, x⟩) (_ | ⟨b, y⟩) name ha hb
  · rfl
  · cases ha
  · cases hb
  · dsimp only [Option.mem_def] at ha hb
    split at ha
    · split at hb
      · next hx hy => cases ha; cases hb; rw [hx, hy]
      · cases hb
    · cases ha

theorem isFile_eq (fs : FileSystem) (p : String) : fs.isFile p = (fs.content? p).isSome := by
  rw [isFile, content?]
  rcases fs.walk .open p with e | ⟨loc, c | - | target⟩ | ⟨dir, name⟩ <;> rfl

/-! ## Listing a directory -/

/-- Whatever is on the way to a file is a directory. -/
theorem followParts_of_slotFrom {purpose : Purpose} (hpurpose : purpose ≠ .create)
    (jump : Location → List Part → Except IoError Target) {parts : List Part} {start : Location}
    (h : fs.slotFrom start (parts ++ [.name name]) = some loc) (rest : List Part) :
    fs.followParts purpose jump start (parts ++ rest) =
      fs.followParts purpose jump (placeFrom start parts) rest := by
  induction parts generalizing start with
  | nil => rfl
  | cons part parts ih =>
    cases part with
    | here => exact ih h
    | slash => exact ih h
    | up => exact ih h
    | name next =>
      rw [List.cons_append, slotFrom] at h
      rw [List.cons_append, followParts, if_neg (fun hc => hpurpose hc.1)]
      split at h
      · cases h
      · next hsize =>
        rw [if_neg hsize]
        split at h
        · next hdir =>
          rw [hdir]
          exact ih h
        · rw [if_neg (by simp)] at h
          cases h

theorem join_eq_append (dir : String) (h : '/' ∉ name.toList) : ∃ s, join dir name = dir ++ s := by
  rw [join, isAbsolute_eq_false h, if_neg Bool.false_ne_true]
  split
  · exact ⟨name, rfl⟩
  · exact ⟨"/" ++ name, String.append_assoc⟩

/-- The directory of a path that can be used can be used. -/
theorem usable_of_join (hdir : dir ≠ "") (hname : '/' ∉ name.toList) (h : Usable (join dir name)) :
    Usable dir := by
  obtain ⟨s, hs⟩ := join_eq_append dir hname
  rw [hs] at h
  obtain ⟨-, hnull, hsize⟩ := h
  refine ⟨by simpa using hdir, ?_, ?_⟩
  · rw [String.toList_append, List.contains_eq_mem, decide_eq_false_iff_not, List.mem_append,
      not_or] at hnull
    rw [List.contains_eq_mem, decide_eq_false_iff_not]
    exact hnull.1
  · rw [String.utf8ByteSize_append] at hsize
    exact Nat.le_trans (Nat.le_add_right _ _) hsize

theorem walk_directory (purpose : Purpose) (hpurpose : purpose ≠ .create) (hfs : fs.LinkFree)
    (hdir : dir ≠ "") (hname : PlainName name) (h : fs.slot? (join dir name) = some loc) :
    fs.walk purpose dir = .ok (.node (fs.place dir) .directory) := by
  have husable : Usable (join dir name) := by
    by_cases hu : Usable (join dir name)
    · exact hu
    · rw [slot?_of_not_usable hu] at h
      cases h
  rw [slot?_of_usable hfs husable, start_join (isAbsolute_eq_false hname.noSlash),
    partsOf_join hname] at h
  rw [walk_of_usable (usable_of_join hdir hname.noSlash husable), place_eq_innerParts]
  show fs.followParts _ _ _ (innerParts dir ++ _) = _
  rw [followParts_of_slotFrom hpurpose _ h]
  split <;> rfl

/-- **Listing succeeds just where a walk leads to a directory**, and changes nothing. -/
theorem entryNames_ok_iff {names : List String} :
    entryNames dir fs = (.ok names, fs') ↔ fs' = fs ∧ ∃ loc,
      fs.walk .open dir = .ok (.node loc .directory) ∧ names = fs.names loc := by
  rw [entryNames, bind_of_ok get_apply]
  rcases fs.walk .open dir with e | ⟨loc, c | - | target⟩ | ⟨up, name⟩
  case ok.node.directory =>
    constructor
    · intro h
      cases h
      exact ⟨rfl, loc, rfl, rfl⟩
    · rintro ⟨rfl, _, hloc, rfl⟩
      cases hloc
      rfl
  -- nothing else has names
  all_goals
    refine iff_of_false (fun h => ?_) ?_
    · cases h
    · rintro ⟨-, _, hloc, -⟩
      cases hloc

/-- **A directory that a file can be in can be listed.** -/
theorem entryNames_run (hfs : fs.LinkFree) (hdir : dir ≠ "") (hname : PlainName name)
    (h : fs.slot? (join dir name) = some loc) :
    entryNames dir fs = (.ok (fs.names (fs.place dir)), fs) := by
  have hwalk := walk_directory .open (by decide) hfs hdir hname h
  exact entryNames_ok_iff.2 ⟨rfl, _, hwalk, rfl⟩

/-! ## Files in a directory that is listed -/

theorem followParts_of_isLast (jump : Location → List Part → Except IoError Target)
    {rest : List Part} (h : isLast rest = true) (dir : Location) :
    fs.followParts .open jump dir rest = .ok (.node dir .directory) := by
  induction rest with
  | nil => rfl
  | cons part rest ih =>
    rw [isLast, List.all_cons, Bool.and_eq_true, decide_eq_true_iff] at h
    obtain ⟨rfl, hrest⟩ := h
    exact ih hrest

/-- Parts that lead to a directory lead to the slots in it. -/
theorem slotFrom_of_followParts (hfs : fs.LinkFree)
    (jump : Location → List Part → Except IoError Target) {parts ending : List Part}
    {start : Location} (hending : isLast ending = true)
    (h : fs.followParts .open jump start (parts ++ ending) = .ok (.node loc .directory)) :
    loc = placeFrom start parts ∧
      ∀ rest, fs.slotFrom start (parts ++ rest) = fs.slotFrom loc rest := by
  induction parts generalizing start with
  | nil =>
    rw [List.nil_append, followParts_of_isLast jump hending] at h
    cases h
    exact ⟨rfl, fun _ => rfl⟩
  | cons part parts ih =>
    cases part with
    | here => exact ih h
    | slash => exact ih h
    | up => exact ih h
    | name next =>
      obtain ⟨hsize, ⟨hdir, hrest⟩ | ⟨-, -, c, hc, -⟩⟩ := followParts_name hfs h
      · obtain ⟨hplace, hslot⟩ := ih hrest
        refine ⟨hplace, fun rest => ?_⟩
        rw [List.cons_append, slotFrom, if_neg (Nat.not_lt.2 hsize), if_pos hdir]
        exact hslot rest
      · cases hc

theorem slotFrom_of_walk (hfs : fs.LinkFree)
    (h : fs.walk .open dir = .ok (.node loc .directory)) :
    loc = fs.place dir ∧ ∀ rest,
      fs.slotFrom (fs.start dir) (innerParts dir ++ rest) = fs.slotFrom loc rest := by
  by_cases hdir : Usable dir
  · rw [walk_of_usable hdir, show partsOf dir = innerParts dir ++ _ from rfl] at h
    obtain ⟨hplace, hslot⟩ := slotFrom_of_followParts hfs _ (by split <;> rfl) h
    exact ⟨hplace.trans (place_eq_innerParts dir).symm, hslot⟩
  · obtain ⟨e, he⟩ := walk_of_not_usable fs hdir .open
    rw [he] at h
    cases h

/-- A name in a directory that a walk can follow: neither its path nor the name is too long. -/
structure Followable (dir name : String) : Prop where
  path : Usable (join dir name)
  name : name.utf8ByteSize ≤ nameLimit

/-- **What is read through a name in a directory that can be listed** is the file of that name
there, if a walk can follow the name. -/
theorem content?_of_walk {c : Content} (hfs : fs.LinkFree) (hname : PlainName name)
    (h : fs.walk .open dir = .ok (.node loc .directory)) :
    fs.content? (join dir name) = some c ↔
      Followable dir name ∧ fs.file? (name :: loc) = some c := by
  obtain ⟨-, hslot⟩ := slotFrom_of_walk hfs h
  rw [content?_eq hfs]
  by_cases hpath : Usable (join dir name)
  case neg =>
    rw [slot?_of_not_usable hpath]
    exact iff_of_false (Option.some_ne_none c).symm fun hc => hpath hc.1.path
  rw [slot?_of_usable hfs hpath, start_join (isAbsolute_eq_false hname.noSlash),
    partsOf_join hname, hslot, slotFrom]
  by_cases hlong : nameLimit < name.utf8ByteSize
  · rw [if_pos hlong]
    exact iff_of_false (Option.some_ne_none c).symm fun hc => Nat.not_le.2 hlong hc.1.name
  rw [if_neg hlong]
  have hfollow : Followable dir name := ⟨hpath, Nat.not_lt.1 hlong⟩
  split
  · next hnode =>
    have hnone : fs.file? (name :: loc) = none := by rw [file?, hnode]
    rw [hnone]
    exact iff_of_false (Option.some_ne_none c).symm fun hc => (Option.some_ne_none c).symm hc.2
  · rw [if_pos rfl, Option.bind_some]
    exact ⟨fun hc => ⟨hfollow, hc⟩, fun hc => hc.2⟩

/-- Without links the directory that is listed is the place of the path. -/
theorem entryNames_ok (hfs : fs.LinkFree) (h : (entryNames dir fs).1.isOk = true) :
    fs.walk .open dir = .ok (.node (fs.place dir) .directory) ∧
      entryNames dir fs = (.ok (fs.names (fs.place dir)), fs) := by
  obtain ⟨names, hlist⟩ := exists_of_isOk h
  obtain ⟨-, loc, hwalk, -⟩ := entryNames_ok_iff.1 hlist
  obtain ⟨rfl, -⟩ := slotFrom_of_walk hfs hwalk
  exact ⟨hwalk, entryNames_ok_iff.2 ⟨rfl, _, hwalk, rfl⟩⟩

/-! ## Making a directory that is there -/

theorem chain_eq_cons (n : Nat) (p : String) : ∃ around, chain n p = p :: around := by
  cases n with
  | zero => exact ⟨[], rfl⟩
  | succ n =>
    unfold chain
    split
    · exact ⟨_, rfl⟩
    · exact ⟨[], rfl⟩

/-- **A directory that a file can be in need not be made.** -/
theorem ensureDirectories_of_slot (hfs : fs.LinkFree) (hname : PlainName name)
    (h : fs.slot? (join dir name) = some loc) : ensureDirectories dir fs = (.ok (), fs) := by
  obtain ⟨around, hchain⟩ := chain_eq_cons dir.length dir
  rw [ensureDirectories, hchain]
  unfold ensureChain
  split
  · rfl
  next hdir =>
  have hdir : dir ≠ "" := fun hempty => hdir (by rw [hempty]; rfl)
  have hmake : makeDirectory dir fs = (.error .alreadyExists, fs) := by
    rw [makeDirectory, bind_of_ok get_apply, walk_directory .entry (by decide) hfs hdir hname h]
    rfl
  have hthere : fs.isDirectory dir = true := by
    rw [isDirectory, walk_directory .open (by decide) hfs hdir hname h]
  refine (tryCatch_of_error hmake).trans ?_
  show failUnlessDirectory dir .alreadyExists fs = _
  rw [failUnlessDirectory, bind_of_ok get_apply, hthere]
  rfl

end Packaging.FileSystem
