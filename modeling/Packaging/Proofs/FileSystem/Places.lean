import Packaging.FileSystem.Operations

/-!
# Where paths lead when there are no links

In a file system without links a path names one location whatever exists there (`place`), and the
file that it leads to stands at a location that depends on the directories alone (`slot?`). What a
walk finds follows from the two.

* `slot?_eq_place`: the file that a path leads to stands at the path's place.
* `slot?_congr`: file systems with the same directories agree on where files go.
* `walk_open`, `walk_create`: everything a walk to a file can find.
* `content?_eq`: what is read through a path is the content of the file in its slot.
* `place_of_walk`, `walk_congr`: what a walk finds stands at the path's place, and is found again
  where the directories are the same.
-/

namespace Packaging.FileSystem

variable {fs fs' : FileSystem} {loc : Location} {p : String}

/-! ## Nodes -/

theorem node?_set (hloc : loc ≠ []) (n : Node) (l : Location) :
    (fs.set loc n).node? l = if l = loc then some n else fs.node? l := by
  cases l with
  | nil => rw [if_neg (Ne.symm hloc)]; rfl
  | cons name dir =>
    simp only [node?, set, Std.ExtTreeMap.getElem?_insert, Std.compare_eq_iff_eq]
    by_cases h : loc = name :: dir
    · rw [if_pos h, if_pos h.symm]
    · rw [if_neg h, if_neg (Ne.symm h)]

theorem set_set (n m : Node) : (fs.set loc n).set loc m = fs.set loc m := by
  simp only [set, FileSystem.mk.injEq, and_true]
  apply Std.ExtTreeMap.ext_getElem?
  intro l
  simp only [Std.ExtTreeMap.getElem?_insert]
  split <;> rfl

/-- The content of the file at a location. -/
def file? (fs : FileSystem) (loc : Location) : Option Content :=
  match fs.node? loc with
  | some (.file c) => some c
  | _ => none

theorem file?_eq_some_iff {c : Content} :
    fs.file? loc = some c ↔ fs.node? loc = some (.file c) := by
  unfold file?
  split
  · rename_i h; rw [h, Option.some.injEq, Option.some.injEq, Node.file.injEq]
  · rename_i h; exact ⟨nofun, fun hc => absurd hc (h c)⟩

theorem file?_set (hloc : loc ≠ []) (c : Content) (l : Location) :
    (fs.set loc (.file c)).file? l = if l = loc then some c else fs.file? l := by
  by_cases h : l = loc
  · simp only [file?, node?_set hloc, if_pos h]
  · simp only [file?, node?_set hloc, if_neg h]

/-- There are only files and directories. -/
def LinkFree (fs : FileSystem) : Prop := ∀ loc target, fs.node? loc ≠ some (.link target)

theorem LinkFree.set_file (h : fs.LinkFree) (hloc : loc ≠ []) (c : Content) :
    (fs.set loc (.file c)).LinkFree := by
  intro l target
  rw [node?_set hloc]
  split
  · simp
  · exact h l target

theorem linkFree_empty : empty.LinkFree := by
  intro loc target h
  cases loc with
  | nil => cases h
  | cons name dir => simp [node?, empty] at h

theorem LinkFree.set_directory (h : fs.LinkFree) (hloc : loc ≠ []) :
    (fs.set loc .directory).LinkFree := by
  intro l target
  rw [node?_set hloc]
  split
  · simp
  · exact h l target

/-- Two file systems have the same directories, the current one included. -/
structure SameDirs (fs fs' : FileSystem) : Prop where
  current : fs'.current = fs.current
  directory : ∀ loc, fs'.node? loc = some .directory ↔ fs.node? loc = some .directory

theorem SameDirs.refl (fs : FileSystem) : SameDirs fs fs := ⟨rfl, fun _ => .rfl⟩

theorem SameDirs.trans {fs'' : FileSystem} (h : SameDirs fs fs') (h' : SameDirs fs' fs'') :
    SameDirs fs fs'' :=
  ⟨h'.current.trans h.current, fun loc => (h'.directory loc).trans (h.directory loc)⟩

theorem SameDirs.set_file (hloc : loc ≠ []) (h : fs.node? loc ≠ some .directory) (c : Content) :
    SameDirs fs (fs.set loc (.file c)) := by
  refine ⟨rfl, fun l => ?_⟩
  rw [node?_set hloc]
  split
  · rename_i hl; subst hl; simp [h]
  · rfl

/-! ## Places and slots -/

/-- Where parts lead from a directory if they meet no link. -/
def placeFrom : Location → List Part → Location
  | dir, [] => dir
  | dir, .here :: rest => placeFrom dir rest
  | dir, .slash :: rest => placeFrom dir rest
  | dir, .up :: rest => placeFrom dir.tail rest
  | dir, .name name :: rest => placeFrom (name :: dir) rest

/-- Where a path begins. -/
def start (fs : FileSystem) (p : String) : Location :=
  if Path.isAbsolute p then [] else fs.current

/-- The location that a path names if it meets no link. -/
def place (fs : FileSystem) (p : String) : Location := placeFrom (fs.start p) (partsOf p)

/-- Where the file stands, or would stand, that parts lead to from a directory. -/
def slotFrom (fs : FileSystem) : Location → List Part → Option Location
  | _, [] => none
  | dir, .here :: rest => fs.slotFrom dir rest
  | dir, .slash :: rest => fs.slotFrom dir rest
  | dir, .up :: rest => fs.slotFrom dir.tail rest
  | dir, .name name :: rest =>
    if nameLimit < name.utf8ByteSize then none
    else if fs.node? (name :: dir) = some .directory then fs.slotFrom (name :: dir) rest
    else if rest = [] then some (name :: dir) else none

/-- The file, or the vacant place for one, that a walk has found. -/
def slotOf : Except IoError Target → Option Location
  | .ok (.node loc (.file _)) => some loc
  | .ok (.vacant dir name) => some (name :: dir)
  | _ => none

/-- The content of the file that a walk has found. -/
def contentOf : Except IoError Target → Option Content
  | .ok (.node _ (.file c)) => some c
  | _ => none

/-- Where the file stands, or would stand, that a path leads to. -/
def slot? (fs : FileSystem) (p : String) : Option Location := slotOf (fs.walk .create p)

/-- The content of the file that a path leads to. -/
def content? (fs : FileSystem) (p : String) : Option Content := contentOf (fs.walk .open p)

/-- The last of these parts is a name. -/
def EndsInName (parts : List Part) : Prop := ∃ name, parts.getLast? = some (.name name)

theorem EndsInName.cons {part : Part} {parts : List Part} (h : EndsInName parts) :
    EndsInName (part :: parts) := by
  obtain ⟨name, hname⟩ := h
  refine ⟨name, ?_⟩
  cases parts with
  | nil => cases hname
  | cons q parts => rwa [List.getLast?_cons_cons]

theorem EndsInName.of_cons {part : Part} {parts : List Part} (h : EndsInName (part :: parts))
    (hne : parts ≠ []) : EndsInName parts := by
  obtain ⟨name, hname⟩ := h
  cases parts with
  | nil => exact absurd rfl hne
  | cons q parts => exact ⟨name, by rwa [List.getLast?_cons_cons] at hname⟩

/-- A slot is the place of its parts, and it is no directory. -/
theorem slotFrom_spec {parts : List Part} {dir : Location} (h : fs.slotFrom dir parts = some loc) :
    loc = placeFrom dir parts ∧ loc ≠ [] ∧ fs.node? loc ≠ some .directory ∧ EndsInName parts := by
  induction parts generalizing dir with
  | nil => cases h
  | cons part rest ih =>
    cases part with
    | here => obtain ⟨h1, h2, h3, h4⟩ := ih h; exact ⟨h1, h2, h3, h4.cons⟩
    | slash => obtain ⟨h1, h2, h3, h4⟩ := ih h; exact ⟨h1, h2, h3, h4.cons⟩
    | up => obtain ⟨h1, h2, h3, h4⟩ := ih h; exact ⟨h1, h2, h3, h4.cons⟩
    | name name =>
      simp only [slotFrom] at h
      split at h
      · cases h
      · split at h
        · obtain ⟨h1, h2, h3, h4⟩ := ih h; exact ⟨h1, h2, h3, h4.cons⟩
        · rename_i hdir
          split at h
          · rename_i hrest
            cases h
            subst hrest
            exact ⟨rfl, List.cons_ne_nil _ _, hdir, name, rfl⟩
          · cases h

/-- A name with slashes after it is no slot. -/
theorem slotFrom_of_isLast {part : Part} {rest : List Part} {dir : Location}
    (h : isLast rest = true) (hne : rest ≠ []) : fs.slotFrom dir (part :: rest) = none := by
  rw [Option.eq_none_iff_forall_ne_some]
  intro loc hloc
  obtain ⟨-, -, -, hend⟩ := slotFrom_spec hloc
  obtain ⟨name, hname⟩ := hend.of_cons hne
  have := List.all_eq_true.1 h _ (List.mem_of_getLast? hname)
  simp at this

/-- Slots depend on the directories alone. -/
theorem slotFrom_congr (h : SameDirs fs fs') (parts : List Part) (dir : Location) :
    fs'.slotFrom dir parts = fs.slotFrom dir parts := by
  induction parts generalizing dir with
  | nil => rfl
  | cons part rest ih =>
    cases part with
    | here => exact ih dir
    | slash => exact ih dir
    | up => exact ih dir.tail
    | name name => simp only [slotFrom, h.directory, ih]

/-! ## Walks -/

/-- What a walk to something that exists can find, by the slot of its parts. -/
inductive Opened (fs : FileSystem) (parts : List Part) (slot : Option Location) :
    Except IoError Target → Prop where
  | file {loc : Location} {c : Content} : slot = some loc → fs.file? loc = some c →
      Opened fs parts slot (.ok (.node loc (.file c)))
  | directory {loc : Location} : slot = none →
      (EndsInName parts → fs.node? loc = some .directory) →
      Opened fs parts slot (.ok (.node loc .directory))
  | vacant {dir : Location} {name : String} : slot.bind fs.file? = none →
      Opened fs parts slot (.ok (.vacant dir name))
  | error {e : IoError} : slot.bind fs.file? = none → Opened fs parts slot (.error e)

/-- What a walk to a file that may be missing can find, by the slot of its parts. -/
inductive Created (fs : FileSystem) (slot : Option Location) : Except IoError Target → Prop where
  | file {loc : Location} {c : Content} : slot = some loc → fs.file? loc = some c →
      Created fs slot (.ok (.node loc (.file c)))
  | vacant {dir : Location} {name : String} : slot = some (name :: dir) →
      fs.node? (name :: dir) = none → Created fs slot (.ok (.vacant dir name))
  | directory {loc : Location} : slot = none → Created fs slot (.ok (.node loc .directory))
  | error {e : IoError} : slot = none → Created fs slot (.error e)

theorem Opened.cons {part : Part} {rest : List Part} {slot : Option Location}
    {r : Except IoError Target} (h : Opened fs rest slot r)
    (hlast : rest = [] → EndsInName [part] →
      ∀ loc, r = .ok (.node loc .directory) → fs.node? loc = some .directory) :
    Opened fs (part :: rest) slot r := by
  cases h with
  | file h1 h2 => exact .file h1 h2
  | vacant h1 => exact .vacant h1
  | error h1 => exact .error h1
  | directory h1 h2 =>
    refine .directory h1 fun hend => ?_
    by_cases hrest : rest = []
    · subst hrest; exact hlast rfl hend _ rfl
    · exact h2 (hend.of_cons hrest)

theorem Opened.of_unnamed {part : Part} {rest : List Part} {slot : Option Location}
    {r : Except IoError Target} (h : Opened fs rest slot r) (hpart : ∀ name, part ≠ .name name) :
    Opened fs (part :: rest) slot r := by
  refine h.cons fun _ hend => ?_
  obtain ⟨name, hname⟩ := hend
  exact absurd (Option.some.inj hname) (hpart name)

theorem followParts_open (h : fs.LinkFree)
    (jump : Location → List Part → Except IoError Target) (parts : List Part) (dir : Location) :
    Opened fs parts (fs.slotFrom dir parts) (fs.followParts .open jump dir parts) := by
  induction parts generalizing dir with
  | nil => exact .directory rfl fun ⟨_, hname⟩ => by cases hname
  | cons part rest ih =>
    cases part with
    | here => exact (ih dir).of_unnamed nofun
    | slash => exact (ih dir).of_unnamed nofun
    | up => exact (ih dir.tail).of_unnamed nofun
    | name name =>
      simp only [followParts, slotFrom, reduceCtorEq, false_and, if_false, or_false]
      by_cases hlong : nameLimit < name.utf8ByteSize
      · rw [if_pos hlong, if_pos hlong]
        exact .error rfl
      rw [if_neg hlong, if_neg hlong]
      cases hnode : fs.node? (name :: dir) with
      | none =>
        have hfile : fs.file? (name :: dir) = none := by rw [file?, hnode]
        simp only [reduceCtorEq, if_false]
        split
        · exact .vacant hfile
        · exact .error rfl
      | some node =>
        cases node with
        | link target => exact absurd hnode (h _ _)
        | directory =>
          simp only [if_true]
          refine (ih (name :: dir)).cons fun hrest _ loc hloc => ?_
          subst hrest
          cases hloc
          exact hnode
        | file c =>
          simp only [Option.some.injEq, reduceCtorEq, if_false]
          split
          · exact .file rfl (file?_eq_some_iff.2 hnode)
          · exact .error rfl

theorem followParts_create (h : fs.LinkFree)
    (jump : Location → List Part → Except IoError Target) (parts : List Part) (dir : Location) :
    Created fs (fs.slotFrom dir parts) (fs.followParts .create jump dir parts) := by
  induction parts generalizing dir with
  | nil => exact .directory rfl
  | cons part rest ih =>
    cases part with
    | here => exact ih dir
    | slash => exact ih dir
    | up => exact ih dir.tail
    | name name =>
      by_cases hslash : isLast rest ∧ rest ≠ []
      · rw [followParts, if_pos ⟨rfl, hslash⟩, slotFrom_of_isLast hslash.1 hslash.2]
        exact .error rfl
      simp only [followParts, slotFrom, true_and, reduceCtorEq, false_and, or_false]
      rw [if_neg hslash]
      by_cases hlong : nameLimit < name.utf8ByteSize
      · rw [if_pos hlong, if_pos hlong]
        exact .error rfl
      rw [if_neg hlong, if_neg hlong]
      cases hnode : fs.node? (name :: dir) with
      | none =>
        simp only [reduceCtorEq, if_false]
        split
        · exact .vacant rfl hnode
        · exact .error rfl
      | some node =>
        cases node with
        | link target => exact absurd hnode (h _ _)
        | directory =>
          simp only [if_true]
          exact ih (name :: dir)
        | file c =>
          simp only [Option.some.injEq, reduceCtorEq, if_false]
          split
          · exact .file rfl (file?_eq_some_iff.2 hnode)
          · exact .error rfl

/-- A path that a walk does not refuse at once. -/
def Usable (p : String) : Prop :=
  p.isEmpty = false ∧ p.toList.contains '\x00' = false ∧ p.utf8ByteSize ≤ pathLimit

theorem walk_of_usable (h : Usable p) (purpose : Purpose) :
    fs.walk purpose p = fs.followParts purpose (fs.follow purpose 39) (fs.start p) (partsOf p) := by
  obtain ⟨h1, h2, h3⟩ := h
  rw [walk, h1, h2, if_neg Bool.false_ne_true, if_neg Bool.false_ne_true,
    if_neg (Nat.not_lt.2 h3)]
  rfl

theorem walk_of_not_usable (fs : FileSystem) (h : ¬ Usable p) (purpose : Purpose) :
    ∃ e, fs.walk purpose p = .error e := by
  unfold walk
  split
  · exact ⟨_, rfl⟩
  · split
    · exact ⟨_, rfl⟩
    · split
      · exact ⟨_, rfl⟩
      · rename_i h1 h2 h3
        exact absurd ⟨Bool.not_eq_true _ ▸ h1, Bool.not_eq_true _ ▸ h2, Nat.not_lt.1 h3⟩ h

section Found

variable {jump : Location → List Part → Except IoError Target} {parts : List Part}
  {dir : Location} {n : Node} (hfs : fs.LinkFree)
include hfs

/-- What a walk to something that exists finds at a name and the parts after it. -/
theorem followParts_name {name : String} {rest : List Part}
    (h : fs.followParts .open jump dir (.name name :: rest) = .ok (.node loc n)) :
    name.utf8ByteSize ≤ nameLimit ∧
      (fs.node? (name :: dir) = some .directory ∧
          fs.followParts .open jump (name :: dir) rest = .ok (.node loc n) ∨
        rest = [] ∧ loc = name :: dir ∧
          ∃ c, n = .file c ∧ fs.node? (name :: dir) = some (.file c)) := by
  simp only [followParts, reduceCtorEq, false_and, if_false, or_false] at h
  split at h
  · cases h
  rename_i hsize
  refine ⟨Nat.not_lt.1 hsize, ?_⟩
  cases hnode : fs.node? (name :: dir) with
  | none =>
    rw [hnode] at h
    simp only at h
    split at h <;> cases h
  | some node =>
    rw [hnode] at h
    cases node with
    | link target => exact absurd hnode (hfs _ _)
    | directory => exact .inl ⟨rfl, h⟩
    | file c =>
      simp only at h
      split at h
      · rename_i hrest
        cases h
        exact .inr ⟨hrest, rfl, c, rfl, rfl⟩
      · cases h

/-- What parts lead to stands where they lead if they meet no link. -/
theorem place_of_followParts (h : fs.followParts .open jump dir parts = .ok (.node loc n)) :
    loc = placeFrom dir parts := by
  induction parts generalizing dir with
  | nil => cases h; rfl
  | cons part rest ih =>
    cases part with
    | here => exact ih h
    | slash => exact ih h
    | up => exact ih h
    | name name =>
      obtain ⟨-, ⟨-, hrest⟩ | ⟨rfl, hloc, -⟩⟩ := followParts_name hfs h
      · exact ih hrest
      · exact hloc

/-- Where the directories are the same, parts lead to the same file if it is still there. -/
theorem followParts_congr (hdirs : SameDirs fs fs') (hfile : (fs'.file? loc).isSome)
    (jump' : Location → List Part → Except IoError Target)
    (h : fs.followParts .open jump dir parts = .ok (.node loc n)) :
    ∃ n', fs'.followParts .open jump' dir parts = .ok (.node loc n') := by
  induction parts generalizing dir with
  | nil => cases h; exact ⟨.directory, rfl⟩
  | cons part rest ih =>
    cases part with
    | here => exact ih h
    | slash => exact ih h
    | up => exact ih h
    | name name =>
      obtain ⟨hsize, hfound⟩ := followParts_name hfs h
      rw [followParts, if_neg (fun hc => nomatch hc.1), if_neg (Nat.not_lt.2 hsize)]
      rcases hfound with ⟨hdir, hrest⟩ | ⟨rfl, rfl, -⟩
      · rw [(hdirs.directory _).2 hdir]
        exact ih hrest
      · obtain ⟨c, hc⟩ := Option.isSome_iff_exists.1 hfile
        rw [file?_eq_some_iff.1 hc]
        exact ⟨.file c, if_pos (.inl rfl)⟩

theorem place_of_walk (h : fs.walk .open p = .ok (.node loc n)) : loc = fs.place p := by
  by_cases hp : Usable p
  · rw [walk_of_usable hp] at h
    exact place_of_followParts hfs h
  · obtain ⟨e, he⟩ := walk_of_not_usable fs hp .open
    rw [he] at h
    cases h

/-- **Where the directories are the same, a path leads to the same file** if it is still there. -/
theorem walk_congr (hdirs : SameDirs fs fs') (hfile : (fs'.file? loc).isSome)
    (h : fs.walk .open p = .ok (.node loc n)) : ∃ n', fs'.walk .open p = .ok (.node loc n') := by
  by_cases hp : Usable p
  · rw [walk_of_usable hp] at h
    rw [walk_of_usable hp, start, hdirs.current]
    exact followParts_congr hfs hdirs hfile _ h
  · obtain ⟨e, he⟩ := walk_of_not_usable fs hp .open
    rw [he] at h
    cases h

end Found

theorem slotOf_of_created {slot : Option Location} {r : Except IoError Target}
    (h : Created fs slot r) : slotOf r = slot := by
  cases h with
  | file h1 _ => exact h1.symm
  | vacant h1 _ => exact h1.symm
  | directory h1 => exact h1.symm
  | error h1 => exact h1.symm

theorem slot?_of_usable (hfs : fs.LinkFree) (h : Usable p) :
    fs.slot? p = fs.slotFrom (fs.start p) (partsOf p) := by
  rw [slot?, walk_of_usable h]
  exact slotOf_of_created (followParts_create hfs _ _ _)

theorem slot?_of_not_usable (h : ¬ Usable p) : fs.slot? p = none := by
  obtain ⟨e, he⟩ := walk_of_not_usable fs h .create
  rw [slot?, he]
  rfl

/-- **All that a walk to something that exists can find.** -/
theorem walk_open (hfs : fs.LinkFree) (p : String) :
    Opened fs (partsOf p) (fs.slot? p) (fs.walk .open p) := by
  by_cases h : Usable p
  · rw [slot?_of_usable hfs h, walk_of_usable h]
    exact followParts_open hfs _ _ _
  · obtain ⟨e, he⟩ := walk_of_not_usable fs h .open
    rw [he, slot?_of_not_usable h]
    exact .error rfl

/-- **All that a walk to a file that may be missing can find.** -/
theorem walk_create (hfs : fs.LinkFree) (p : String) :
    Created fs (fs.slot? p) (fs.walk .create p) := by
  by_cases h : Usable p
  · rw [slot?_of_usable hfs h, walk_of_usable h]
    exact followParts_create hfs _ _ _
  · obtain ⟨e, he⟩ := walk_of_not_usable fs h .create
    rw [he, slot?_of_not_usable h]
    exact .error rfl

/-- **What is read through a path is the content of the file in its slot.** -/
theorem content?_eq (hfs : fs.LinkFree) (p : String) :
    fs.content? p = (fs.slot? p).bind fs.file? := by
  have h := walk_open hfs p
  rw [content?]
  cases hw : fs.walk .open p <;> rw [hw] at h <;> cases h
  case error h => exact h.symm
  case ok.file h1 h2 => rw [h1, Option.bind_some, h2]; rfl
  case ok.directory h1 _ => rw [h1]; rfl
  case ok.vacant h => rw [h]; rfl

/-- The file that a path leads to stands at the path's place, in no directory's stead. -/
theorem slot?_spec (hfs : fs.LinkFree) (h : fs.slot? p = some loc) :
    loc = fs.place p ∧ loc ≠ [] ∧ fs.node? loc ≠ some .directory ∧ EndsInName (partsOf p) := by
  by_cases hp : Usable p
  · rw [slot?_of_usable hfs hp] at h
    exact slotFrom_spec h
  · rw [slot?_of_not_usable hp] at h
    cases h

/-- What is read through a path stands at the path's place. -/
theorem file?_place {c : Content} (hfs : fs.LinkFree) (h : fs.content? p = some c) :
    fs.file? (fs.place p) = some c := by
  rw [content?_eq hfs] at h
  obtain ⟨loc, hloc, hc⟩ := Option.bind_eq_some_iff.1 h
  rwa [← (slot?_spec hfs hloc).1]

/-- **File systems with the same directories agree on where files go.** -/
theorem slot?_congr (hfs : fs.LinkFree) (hfs' : fs'.LinkFree) (h : SameDirs fs fs') (p : String) :
    fs'.slot? p = fs.slot? p := by
  by_cases hp : Usable p
  · rw [slot?_of_usable hfs hp, slot?_of_usable hfs' hp, start, h.current]
    exact slotFrom_congr h _ _
  · rw [slot?_of_not_usable hp, slot?_of_not_usable hp]

variable {q : String}

theorem sameDirs_set_slot (hfs : fs.LinkFree) (hq : fs.slot? q = some loc) (c : Content) :
    SameDirs fs (fs.set loc (.file c)) := by
  obtain ⟨-, hloc, hdir, -⟩ := slot?_spec hfs hq
  exact .set_file hloc hdir c

theorem linkFree_set_slot (hfs : fs.LinkFree) (hq : fs.slot? q = some loc) (c : Content) :
    (fs.set loc (.file c)).LinkFree :=
  hfs.set_file (slot?_spec hfs hq).2.1 c

/-- Filling a slot moves no slot. -/
theorem slot?_set (hfs : fs.LinkFree) (hq : fs.slot? q = some loc) (c : Content) (p : String) :
    (fs.set loc (.file c)).slot? p = fs.slot? p :=
  slot?_congr hfs (linkFree_set_slot hfs hq c) (sameDirs_set_slot hfs hq c) p

/-- Filling a slot changes what is read through the paths that lead to it, and nothing else. -/
theorem content?_set (hfs : fs.LinkFree) (hq : fs.slot? q = some loc) (c : Content) (p : String) :
    (fs.set loc (.file c)).content? p =
      if fs.slot? p = some loc then some c else fs.content? p := by
  rw [content?_eq (linkFree_set_slot hfs hq c), slot?_set hfs hq, content?_eq hfs]
  cases hp : fs.slot? p with
  | none => rw [if_neg (by simp)]; rfl
  | some l =>
    rw [Option.bind_some, Option.bind_some, file?_set (slot?_spec hfs hq).2.1]
    simp only [Option.some.injEq]

theorem place_congr (h : fs'.current = fs.current) (p : String) : fs'.place p = fs.place p := by
  rw [place, place, start, start, h]

end Packaging.FileSystem
