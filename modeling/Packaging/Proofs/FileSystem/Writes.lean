import Packaging.Proofs.FileSystem.Names

/-!
# Files written one after another

`fs.fill dir writes` is the file system after files of one directory were written, the first write
first.

* `node?_fill`: of several writes of a name the last one stays, and all else is as it was.
* `fill_fill_self`, `fill_congr`, `fill_eq_of_perm`: writing again changes nothing, and the order of
  writes matters only between writes of one name that differ.
* `Fillable.content?_fill`, `Fillable.content?_outside`: what is read in the directory and elsewhere
  when the writes go into slots.
-/

namespace Packaging.FileSystem

open Packaging.Path

/-- The name of a file in some directory, and the content that the file gets. -/
abbrev Write := String × Content

/-- The file system after files of a directory were written. -/
def fill (fs : FileSystem) (dir : Location) (writes : List Write) : FileSystem :=
  writes.foldl (fun fs w => fs.set (w.1 :: dir) (.file w.2)) fs

/-- What the last write of a name leaves. -/
def lastWrite? (writes : List Write) (name : String) : Option Content :=
  writes.reverse.lookup name

/-- The file that writes in a directory leave at a location. -/
def written? (dir : Location) (writes : List Write) : Location → Option Node
  | [] => none
  | name :: parent => if parent = dir then (lastWrite? writes name).map .file else none

variable {fs : FileSystem} {dir loc : Location} {writes writes' : List Write} {name : String}
  {c : Content}

/-! ## The last write of a name -/

theorem lastWrite?_append (writes writes' : List Write) (name : String) :
    lastWrite? (writes ++ writes') name =
      (lastWrite? writes' name).or (lastWrite? writes name) := by
  rw [lastWrite?, List.reverse_append, List.lookup_append]
  rfl

theorem lastWrite?_singleton (w : Write) (name : String) :
    lastWrite? [w] name = if name = w.1 then some w.2 else none := by
  obtain ⟨n, c⟩ := w
  show [(n, c)].lookup name = _
  rw [List.lookup_cons]
  split
  · next h => rw [if_pos (beq_iff_eq.1 h)]
  · next h => rw [if_neg (beq_eq_false_iff_ne.1 h)]; rfl

theorem mem_of_lastWrite? (h : lastWrite? writes name = some c) : (name, c) ∈ writes := by
  obtain ⟨front, back, hwrites, -⟩ := List.lookup_eq_some_iff.1 h
  have : (name, c) ∈ writes.reverse := by rw [hwrites]; simp
  exact List.mem_reverse.1 this

theorem lastWrite?_isSome_iff : (lastWrite? writes name).isSome ↔ name ∈ writes.map (·.1) := by
  rw [Option.isSome_iff_exists]
  refine ⟨fun ⟨c, h⟩ => List.mem_map_of_mem (f := (·.1)) (mem_of_lastWrite? h), fun h => ?_⟩
  cases hw : lastWrite? writes name with
  | some c => exact ⟨c, rfl⟩
  | none =>
    obtain ⟨w, hmem, rfl⟩ := List.mem_map.1 h
    have := List.lookup_eq_none_iff.1 hw w (List.mem_reverse.2 hmem)
    simp at this

/-- Writes of one name write the same content. -/
def Agreeing (writes : List Write) : Prop :=
  ∀ w ∈ writes, ∀ w' ∈ writes, w.1 = w'.1 → w.2 = w'.2

theorem Agreeing.lastWrite?_eq_some_iff (h : Agreeing writes) :
    lastWrite? writes name = some c ↔ (name, c) ∈ writes := by
  refine ⟨mem_of_lastWrite?, fun hmem => ?_⟩
  have hsome := lastWrite?_isSome_iff.2 (List.mem_map_of_mem (f := (·.1)) hmem)
  obtain ⟨c', hc'⟩ := Option.isSome_iff_exists.1 hsome
  rw [hc', show c' = c from h _ (mem_of_lastWrite? hc') _ hmem rfl]

theorem lastWrite?_eq_of_perm (h : Agreeing writes) (hperm : writes.Perm writes') :
    lastWrite? writes = lastWrite? writes' := by
  have h' : Agreeing writes' := fun w hw w' hw' =>
    h w (hperm.mem_iff.2 hw) w' (hperm.mem_iff.2 hw')
  funext name
  ext c
  rw [h.lastWrite?_eq_some_iff, h'.lastWrite?_eq_some_iff, hperm.mem_iff]

/-! ## The file system after writes -/

theorem fill_append (fs : FileSystem) (dir : Location) (writes writes' : List Write) :
    (fs.fill dir writes).fill dir writes' = fs.fill dir (writes ++ writes') :=
  List.foldl_append.symm

theorem current_fill (fs : FileSystem) (dir : Location) (writes : List Write) :
    (fs.fill dir writes).current = fs.current := by
  induction writes generalizing fs with
  | nil => rfl
  | cons w writes ih => exact ih (fs.set (w.1 :: dir) (.file w.2))

theorem written?_cons (w : Write) (writes : List Write) (loc : Location) :
    written? dir (w :: writes) loc =
      (written? dir writes loc).or (if loc = w.1 :: dir then some (.file w.2) else none) := by
  cases loc with
  | nil => rfl
  | cons name parent =>
    simp only [written?]
    by_cases hdir : parent = dir
    · have hlast := lastWrite?_append [w] writes name
      rw [List.singleton_append, lastWrite?_singleton] at hlast
      rw [if_pos hdir, if_pos hdir, hlast, hdir]
      by_cases hname : name = w.1 <;> cases lastWrite? writes name <;> simp [hname]
    · rw [if_neg hdir, if_neg hdir, if_neg fun h => hdir (List.cons.inj h).2]
      rfl

theorem getElem?_nodes_fill (fs : FileSystem) (dir loc : Location) (writes : List Write) :
    (fs.fill dir writes).nodes[loc]? = (written? dir writes loc).or fs.nodes[loc]? := by
  induction writes generalizing fs with
  | nil => cases loc <;> simp [fill, written?, lastWrite?]
  | cons w writes ih =>
    rw [written?_cons, Option.or_assoc]
    refine (ih (fs.set (w.1 :: dir) (.file w.2))).trans ?_
    congr 1
    simp only [FileSystem.set, Std.ExtTreeMap.getElem?_insert, Std.compare_eq_iff_eq,
      eq_comm (a := loc)]
    split <;> simp

/-- **Of several writes of a name the last one stays**, and all else is as it was. -/
theorem node?_fill (fs : FileSystem) (dir loc : Location) (writes : List Write) :
    (fs.fill dir writes).node? loc = (written? dir writes loc).or (fs.node? loc) := by
  cases loc with
  | nil => rfl
  | cons name parent => exact getElem?_nodes_fill fs dir (name :: parent) writes

theorem file?_fill (fs : FileSystem) (dir : Location) (writes : List Write) (name : String) :
    (fs.fill dir writes).file? (name :: dir) =
      (lastWrite? writes name).or (fs.file? (name :: dir)) := by
  rw [file?, node?_fill, written?, if_pos rfl]
  cases lastWrite? writes name <;> rfl

theorem written?_eq_none (h : ∀ name ∈ writes.map (·.1), loc ≠ name :: dir) :
    written? dir writes loc = none := by
  cases loc with
  | nil => rfl
  | cons name parent =>
    rw [written?]
    split
    · next hdir =>
      cases hw : lastWrite? writes name with
      | none => rfl
      | some c => exact absurd (hdir ▸ rfl) (h name (lastWrite?_isSome_iff.1 (by rw [hw]; rfl)))
    · rfl

theorem file?_fill_other (fs : FileSystem) (h : ∀ name ∈ writes.map (·.1), loc ≠ name :: dir) :
    (fs.fill dir writes).file? loc = fs.file? loc := by
  rw [file?, file?, node?_fill, written?_eq_none h, Option.none_or]

theorem eq_of_nodes {fs' : FileSystem} (hcurrent : fs.current = fs'.current)
    (h : ∀ loc : Location, fs.nodes[loc]? = fs'.nodes[loc]?) : fs = fs' := by
  obtain ⟨nodes, current⟩ := fs
  obtain ⟨nodes', current'⟩ := fs'
  cases hcurrent
  rw [FileSystem.mk.injEq]
  exact ⟨Std.ExtTreeMap.ext_getElem? fun {loc} => h loc, rfl⟩

/-- What is written is what the last writes leave. -/
theorem fill_congr (fs : FileSystem) (dir : Location) (h : lastWrite? writes = lastWrite? writes') :
    fs.fill dir writes = fs.fill dir writes' := by
  refine eq_of_nodes (by rw [current_fill, current_fill]) fun loc => ?_
  rw [getElem?_nodes_fill, getElem?_nodes_fill]
  cases loc with
  | nil => rfl
  | cons name parent => rw [written?, written?, h]

/-- **The order of writes that agree does not matter.** -/
theorem fill_eq_of_perm (fs : FileSystem) (dir : Location) (h : Agreeing writes)
    (hperm : writes.Perm writes') : fs.fill dir writes = fs.fill dir writes' :=
  fill_congr fs dir (lastWrite?_eq_of_perm h hperm)

/-- **Writing the same again changes nothing.** -/
theorem fill_fill_self (fs : FileSystem) (dir : Location) (writes : List Write) :
    (fs.fill dir writes).fill dir writes = fs.fill dir writes := by
  rw [fill_append]
  refine fill_congr fs dir (funext fun name => ?_)
  rw [lastWrite?_append, Option.or_self]

theorem LinkFree.fill (hfs : fs.LinkFree) (dir : Location) (writes : List Write) :
    (fs.fill dir writes).LinkFree := by
  intro loc target
  have hkept := hfs loc target
  rw [node?_fill]
  cases loc with
  | nil => exact hkept
  | cons name parent =>
    rw [written?]
    split
    · cases lastWrite? writes name <;> simp [hkept]
    · simpa using hkept

/-! ## Writes into slots -/

/-- The writes have plain names, and the directory has slots for them. -/
structure Fillable (fs : FileSystem) (dir : String) (writes : List Write) : Prop where
  plain : ∀ w ∈ writes, PlainName w.1
  slot : ∀ w ∈ writes, (fs.slot? (join dir w.1)).isSome

theorem slot?_join_eq {dir : String} (hfs : fs.LinkFree) (hname : PlainName name)
    (h : fs.slot? (join dir name) = some loc) : loc = name :: fs.place dir := by
  rw [(slot?_spec hfs h).1, place_join hname]

section Fillable

variable {dir : String}

theorem fillable_nil : fs.Fillable dir [] := ⟨nofun, nofun⟩

theorem Fillable.append (h : fs.Fillable dir writes) (h' : fs.Fillable dir writes') :
    fs.Fillable dir (writes ++ writes') :=
  ⟨fun w hw => (List.mem_append.1 hw).elim (h.plain w) (h'.plain w),
    fun w hw => (List.mem_append.1 hw).elim (h.slot w) (h'.slot w)⟩

variable (hfs : fs.LinkFree) (h : fs.Fillable dir writes)
include hfs h

theorem Fillable.node?_ne (hname : (lastWrite? writes name).isSome) :
    fs.node? (name :: fs.place dir) ≠ some .directory := by
  obtain ⟨w, hw, rfl⟩ := List.mem_map.1 (lastWrite?_isSome_iff.1 hname)
  obtain ⟨loc, hloc⟩ := Option.isSome_iff_exists.1 (h.slot w hw)
  rw [← slot?_join_eq hfs (h.plain w hw) hloc]
  exact (slot?_spec hfs hloc).2.2.1

theorem Fillable.sameDirs : SameDirs fs (fs.fill (fs.place dir) writes) := by
  refine ⟨current_fill _ _ _, fun loc => ?_⟩
  rw [node?_fill]
  cases loc with
  | nil => rfl
  | cons name parent =>
    rw [written?]
    split
    · next hdir =>
      subst hdir
      cases hw : lastWrite? writes name with
      | none => rfl
      | some c => simp [h.node?_ne hfs (by rw [hw]; rfl)]
    · rfl

theorem Fillable.slot?_fill (p : String) :
    (fs.fill (fs.place dir) writes).slot? p = fs.slot? p :=
  slot?_congr hfs (hfs.fill _ _) (h.sameDirs hfs) p

/-- What is read in the directory is what was written last, or else what was there. -/
theorem Fillable.content?_fill (hname : PlainName name) :
    (fs.fill (fs.place dir) writes).content? (join dir name) =
      (lastWrite? writes name).or (fs.content? (join dir name)) := by
  rw [content?_eq (hfs.fill _ _), content?_eq hfs, h.slot?_fill hfs]
  cases hslot : fs.slot? (join dir name) with
  | some loc =>
    rw [slot?_join_eq hfs hname hslot]
    exact file?_fill _ _ _ _
  | none =>
    -- a name without a slot was not written
    cases hw : lastWrite? writes name with
    | none => rfl
    | some c =>
      have := h.slot _ (mem_of_lastWrite? hw)
      rw [hslot] at this
      cases this

theorem Fillable.content?_written (hname : name ∈ writes.map (·.1)) :
    (fs.fill (fs.place dir) writes).content? (join dir name) = lastWrite? writes name := by
  obtain ⟨w, hw, rfl⟩ := List.mem_map.1 hname
  rw [h.content?_fill hfs (h.plain w hw)]
  exact Option.or_of_isSome (lastWrite?_isSome_iff.2 hname)

/-- What is read in another place is what was there. -/
theorem Fillable.content?_outside {dir' : String} (hname : PlainName name)
    (hdir : fs.place dir' ≠ fs.place dir) :
    (fs.fill (fs.place dir) writes).content? (join dir' name) = fs.content? (join dir' name) := by
  rw [content?_eq (hfs.fill _ _), content?_eq hfs, h.slot?_fill hfs]
  cases hslot : fs.slot? (join dir' name) with
  | none => rfl
  | some loc =>
    rw [slot?_join_eq hfs hname hslot, Option.bind_some, Option.bind_some, file?, node?_fill,
      written?, if_neg hdir]
    rfl

end Fillable

end Packaging.FileSystem
