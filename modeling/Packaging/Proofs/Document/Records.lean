import Packaging.Document.Schema

/-!
# Records are read back from the entries of their fields

A record may be written as one entry for each field, where a field that has its default value may
be left out. If every written value is read back (`Writes`), so is the record, whatever else
stands between the entries of its fields.

* `collect_written`: the draft that the entries of some fields give.
* `collect_others`: entries of other keys go past the draft.
* `ofEntries_written`: the whole record.
-/

namespace Packaging.Document.Schema

variable {α v κ : Type} {s : Schema α} {d : Draft s}
  {read : (f : s.Field) → v → Except Fault (s.Value f)}
  {write : s.Field → Option v} {value : (f : s.Field) → s.Value f}

/-- The entries of some fields, without those that are left out. -/
def written (s : Schema α) (write : s.Field → Option v) (fs : List s.Field) : List (String × v) :=
  fs.filterMap fun f => (write f).map (s.key f, ·)

/-- Every field goes by its own key, a written field is read back, and a field that is left out has
its default value. -/
structure Writes (s : Schema α) (read : (f : s.Field) → v → Except Fault (s.Value f))
    (write : s.Field → Option v) (value : (f : s.Field) → s.Value f) : Prop where
  nodup : s.fields.Nodup
  key : ∀ f, s.ofKey? (s.key f) = some f
  read : ∀ f x, write f = some x → read f x = .ok (value f)
  default : ∀ f, write f = none → s.default? f = some (value f)

/-! ## Drafts -/

theorem Draft.set_self (f : s.Field) (x : s.Value f) : d.set f x f = some x := by
  simp only [Draft.set, dite_true]

theorem Draft.set_of_ne {f g : s.Field} (h : f ≠ g) (x : s.Value f) : d.set f x g = d g := by
  simp only [Draft.set, dif_neg h]

/-- A draft whose fields all have a value is complete. -/
theorem Draft.complete_of_value? {lacking : s.Field → DataFault}
    (h : ∀ f, d.value? f = some (value f)) : d.complete lacking = .ok (s.make value) := by
  unfold Draft.complete
  split
  · rename_i f hf
    have hnone := List.find?_some hf
    rw [h f] at hnone
    cases hnone
  · congr 2
    funext f
    simp only [h, Option.get_some]

/-! ## Entries -/

section Entries

variable {other : String → v → Except Fault (List κ)} {entries : List (String × v)}

theorem collect_field {f : s.Field} {key : String} {x : v} {y : s.Value f}
    (hkey : s.ofKey? key = some f) (hd : d f = none) (hread : read f x = .ok y) :
    s.collect read other d ((key, x) :: entries) = s.collect read other (d.set f y) entries := by
  simp only [collect, hkey, hd, hread]
  rfl

/-- Entries under the keys of no field go past the draft; what is made of them comes first. -/
theorem collect_others {β : Type} {others : List β} (entry : β → String × v) (made : β → List κ)
    (hkey : ∀ a ∈ others, s.ofKey? (entry a).1 = none)
    (hmade : ∀ a ∈ others, other (entry a).1 (entry a).2 = .ok (made a)) :
    s.collect read other d (others.map entry ++ entries) =
      (s.collect read other d entries).map fun r => (r.1, others.flatMap made ++ r.2) := by
  induction others with
  | nil => cases h : s.collect read other d entries <;> simp [h, Except.map]
  | cons a others ih =>
    have ih := ih (fun a' ha => hkey a' (List.mem_cons_of_mem _ ha))
      (fun a' ha => hmade a' (List.mem_cons_of_mem _ ha))
    simp only [List.map_cons, List.cons_append, collect, hkey a List.mem_cons_self,
      hmade a List.mem_cons_self, ih, List.flatMap_cons, List.append_assoc]
    cases s.collect read other d entries <;> rfl

/-- The entries of some fields give those fields their values and leave the others alone. -/
theorem collect_written (other : String → v → Except Fault (List κ)) (d : Draft s)
    (h : s.Writes read write value) {fs : List s.Field} (hfs : fs.Nodup)
    (hd : ∀ f ∈ fs, d f = none) :
    ∃ d' : Draft s, s.collect read other d (s.written write fs) = .ok (d', []) ∧
      ∀ f, d' f = if f ∈ fs ∧ (write f).isSome then some (value f) else d f := by
  induction fs generalizing d with
  | nil => exact ⟨d, rfl, fun f => by simp⟩
  | cons f fs ih =>
    obtain ⟨hf, hfs⟩ := List.nodup_cons.1 hfs
    have hd' : ∀ g ∈ fs, d g = none := fun g hg => hd g (List.mem_cons_of_mem _ hg)
    cases hw : write f with
    | none =>
      obtain ⟨d', hc, hv⟩ := ih d hfs hd'
      refine ⟨d', ?_, fun g => ?_⟩
      · simpa only [written, List.filterMap_cons, hw, Option.map_none] using hc
      · rw [hv g]
        by_cases hg : g = f
        · subst hg; simp [hw, hf]
        · simp [hg]
    | some x =>
      obtain ⟨d', hc, hv⟩ := ih (d.set f (value f)) hfs fun g hg => by
        have hne : f ≠ g := fun e => hf (e ▸ hg)
        rw [Draft.set_of_ne hne, hd' g hg]
      refine ⟨d', ?_, fun g => ?_⟩
      · simp only [written, List.filterMap_cons, hw, Option.map_some]
        rw [collect_field (h.key f) (hd f List.mem_cons_self) (h.read f x hw)]
        exact hc
      · rw [hv g]
        by_cases hg : g = f
        · subst hg; simp [hw, hf, Draft.set_self]
        · simp [hg, Draft.set_of_ne (Ne.symm hg)]

/-- The draft of all fields' entries is complete and gives the record back. -/
theorem collect_written_fields (h : s.Writes read write value)
    (other : String → v → Except Fault (List κ)) :
    ∃ d : Draft s, s.collect read other .empty (s.written write s.fields) = .ok (d, []) ∧
      d.complete s.missing = .ok (s.make value) := by
  obtain ⟨d, hc, hv⟩ := collect_written other .empty h h.nodup fun _ _ => rfl
  refine ⟨d, hc, Draft.complete_of_value? fun f => ?_⟩
  rw [Draft.value?, hv f]
  cases hw : write f with
  | none => simp [Draft.empty, h.default f hw]
  | some x => simp [s.mem_fields f]

end Entries

/-- **A record is read back from the entries of its fields.** -/
theorem ofEntries_written (h : s.Writes read write value)
    (other : String → v → Except Fault Unit) :
    s.ofEntries read other (s.written write s.fields) .closed = .ok (s.make value) := by
  obtain ⟨d, hc, hd⟩ := collect_written_fields h
    fun key x => do other key x; return ([] : List Empty)
  rw [ofEntries, hc]
  exact hd

end Packaging.Document.Schema
