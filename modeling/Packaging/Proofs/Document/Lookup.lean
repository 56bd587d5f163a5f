import Packaging.Proofs.Actions
import Packaging.Proofs.Document.Records
import Mathlib.Tactic.Choose

/-!
# What a record takes from the entries of a map

Which record the entries of a map give depends on the values under the keys of its fields and on
nothing else: a key may stand there once, or not at all if the field has a default (`Held`). The
order of the entries and the entries under other keys do not matter.

* `collect_ok_iff`: the draft that entries give, field by field.
* `ofEntries_ok_iff`: the record that entries give.
* `ofEntries_refused_ok_iff`: the same where entries under other keys are refused.
* `ofItems_ok_iff`: a sequence gives the record that its items give under the keys in their order.
-/

namespace Packaging.Document

variable {v β : Type} {key : String} {entries entries' : List (String × v)}

/-- The values under a key, in the order of the entries. -/
def valuesAt (key : String) (entries : List (String × v)) : List v :=
  entries.filterMap fun e => if e.1 = key then some e.2 else none

@[simp] theorem valuesAt_nil : valuesAt key ([] : List (String × v)) = [] := rfl

theorem valuesAt_cons_self (x : v) :
    valuesAt key ((key, x) :: entries) = x :: valuesAt key entries := by
  simp [valuesAt]

theorem valuesAt_cons_of_ne {key' : String} (h : key' ≠ key) (x : v) :
    valuesAt key ((key', x) :: entries) = valuesAt key entries := by
  simp [valuesAt, h]

/-- Entries under other keys can be left out. -/
theorem valuesAt_filter {p : String → Bool} (h : p key = true) :
    valuesAt key (entries.filter fun e => p e.1) = valuesAt key entries := by
  unfold valuesAt
  rw [List.filterMap_filter]
  congr 1
  funext e
  by_cases he : e.1 = key
  · simp [he, h]
  · simp [he]

theorem valuesAt_perm (h : entries.Perm entries') :
    (valuesAt key entries).Perm (valuesAt key entries') :=
  h.filterMap _

/-! ## One field -/

/-- What the values under its key make of a field: it keeps what it has if there are none, and a
field without a value takes the only one. -/
inductive Takes (read : v → Except Fault β) : Option β → List v → Option β → Prop where
  | nothing (o : Option β) : Takes read o [] o
  | value {x : v} {y : β} (h : read x = .ok y) : Takes read none [x] (some y)

/-- A field has its default and no entry, or one entry and the value read from it. -/
def Held (read : v → Except Fault β) (default : Option β) (xs : List v) (y : β) : Prop :=
  xs = [] ∧ default = some y ∨ ∃ x, xs = [x] ∧ read x = .ok y

theorem bind_ok_iff {ε α : Type} {r : Except ε α} {f : α → Except ε β} {b : β} :
    r >>= f = .ok b ↔ ∃ a, r = .ok a ∧ f a = .ok b := by
  cases r <;> simp [bind, Except.bind]

section Takes

variable {read : v → Except Fault β} {o o' : Option β} {x : v} {xs : List v} {y : β}

theorem takes_nil_iff : Takes read o [] o' ↔ o' = o := by
  constructor
  · intro h
    cases h
    rfl
  · rintro rfl
    exact .nothing _

theorem takes_cons_iff :
    Takes read o (x :: xs) o' ↔ o = none ∧ ∃ y, read x = .ok y ∧ Takes read (some y) xs o' := by
  constructor
  · intro h
    cases h with
    | value hy => exact ⟨rfl, _, hy, .nothing _⟩
  · rintro ⟨rfl, y, hy, h⟩
    cases h
    exact .value hy

theorem held_iff {default : Option β} :
    Held read default xs y ↔ ∃ o, Takes read none xs o ∧ (o <|> default) = some y := by
  constructor
  · rintro (⟨rfl, hy⟩ | ⟨x, rfl, hy⟩)
    · exact ⟨none, .nothing _, hy⟩
    · exact ⟨some y, .value hy, rfl⟩
  · rintro ⟨o, h, ho⟩
    cases h with
    | nothing => exact .inl ⟨rfl, ho⟩
    | value hy => exact .inr ⟨_, rfl, by rw [hy]; exact congrArg Except.ok (Option.some.inj ho)⟩

end Takes

/-! ## All fields -/

namespace Schema

variable {α κ : Type} {s : Schema α} {read : (f : s.Field) → v → Except Fault (s.Value f)}

/-- A field goes by its own key. -/
theorem key_eq_of_ofKey? {f : s.Field} (h : s.ofKey? key = some f) : s.key f = key := by
  simpa using List.find?_some h

theorem Draft.complete_ok_iff {d : Draft s} {lacking : s.Field → DataFault} {a : α} :
    d.complete lacking = .ok a ↔
      ∃ value : (f : s.Field) → s.Value f,
        (∀ f, d.value? f = some (value f)) ∧ s.make value = a := by
  constructor
  · intro h
    unfold Draft.complete at h
    split at h
    · cases h
    · cases h
      exact ⟨_, fun f => (Option.some_get _).symm, rfl⟩
  · rintro ⟨value, hvalue, rfl⟩
    exact Draft.complete_of_value? hvalue

section Entries

variable {made : String × v → List κ} {other : String → v → Except Fault (List κ)}
  {d d' : Draft s} {kept : List κ}

/-- An entry under the key of a field is for that field, which has no value yet. -/
theorem collect_field_ok_iff {f : s.Field} (hk : s.ofKey? key = some f) (x : v) :
    s.collect read other d ((key, x) :: entries) = .ok (d', kept) ↔
      d f = none ∧ ∃ y, read f x = .ok y ∧
        s.collect read other (d.set f y) entries = .ok (d', kept) := by
  cases hd : d f with
  | some y => simp [collect, hk, hd]
  | none =>
    cases hx : read f x with
    | error e => simp [collect, hk, hd, hx, bind, Except.bind]
    | ok y => simp [collect_field hk hd hx]

/-- An entry under another key leaves the draft alone. -/
theorem collect_other_ok_iff {x : v} {new : List κ} (hk : s.ofKey? key = none)
    (hnew : other key x = .ok new) :
    s.collect read other d ((key, x) :: entries) = .ok (d', kept) ↔
      ∃ later, s.collect read other d entries = .ok (d', later) ∧ kept = new ++ later := by
  have hrun : s.collect read other d ((key, x) :: entries) =
      (s.collect read other d entries).map fun r => (r.1, new ++ r.2) := by
    simp only [collect, hk, hnew]
    cases s.collect read other d entries <;> rfl
  rw [hrun, Action.map_ok_iff]
  constructor
  · rintro ⟨⟨d₁, later⟩, hc, h⟩
    cases h
    exact ⟨later, hc, rfl⟩
  · rintro ⟨later, hc, rfl⟩
    exact ⟨(d', later), hc, rfl⟩

/-- A field that was set from an entry has taken that entry, and no other field has. -/
theorem takes_set_iff (hkey : ∀ f, s.ofKey? (s.key f) = some f) {f : s.Field} {x : v}
    {y : s.Value f} (hd : d f = none) (hx : read f x = .ok y) :
    (∀ g, Takes (read g) (d.set f y g) (valuesAt (s.key g) entries) (d' g)) ↔
      ∀ g, Takes (read g) (d g) (valuesAt (s.key g) ((s.key f, x) :: entries)) (d' g) := by
  refine forall_congr' fun g => ?_
  by_cases hg : f = g
  · subst hg
    rw [Draft.set_self, valuesAt_cons_self, takes_cons_iff, hd]
    exact ⟨fun h => ⟨rfl, y, hx, h⟩, fun ⟨_, y', hy', h⟩ => Except.ok.inj (hx.symm.trans hy') ▸ h⟩
  · have hne : s.key f ≠ s.key g := fun h =>
      hg (Option.some.inj ((hkey f).symm.trans (h ▸ hkey g)))
    rw [Draft.set_of_ne hg, valuesAt_cons_of_ne hne]

/-- The draft that entries give is settled field by field; what is made of the entries under other
keys stays in order. -/
theorem collect_ok_iff (hkey : ∀ f, s.ofKey? (s.key f) = some f)
    (hother : ∀ e, other e.1 e.2 = .ok (made e)) :
    s.collect read other d entries = .ok (d', kept) ↔
      (∀ f, Takes (read f) (d f) (valuesAt (s.key f) entries) (d' f)) ∧
        kept = (entries.filter fun e => (s.ofKey? e.1).isNone).flatMap made := by
  induction entries generalizing d kept with
  | nil =>
    simp only [collect, Except.ok.injEq, Prod.mk.injEq, valuesAt_nil, takes_nil_iff,
      List.filter_nil, List.flatMap_nil, eq_comm (a := kept)]
    exact and_congr_left fun _ => ⟨fun h f => congrFun h.symm f, fun h => (funext h).symm⟩
  | cons e entries ih =>
    obtain ⟨key, x⟩ := e
    cases hk : s.ofKey? key with
    | none =>
      have hne (f : s.Field) : key ≠ s.key f := by
        rintro rfl
        rw [hkey f] at hk
        cases hk
      rw [collect_other_ok_iff hk (hother (key, x)),
        List.filter_cons_of_pos (by simp only [hk, Option.isNone_none]), List.flatMap_cons]
      simp only [valuesAt_cons_of_ne (hne _), ih]
      constructor
      · rintro ⟨later, ⟨htakes, rfl⟩, rfl⟩
        exact ⟨htakes, rfl⟩
      · rintro ⟨htakes, rfl⟩
        exact ⟨_, ⟨htakes, rfl⟩, rfl⟩
    | some f =>
      obtain rfl := key_eq_of_ofKey? hk
      rw [collect_field_ok_iff hk,
        List.filter_cons_of_neg (by simp only [hk, Option.isNone_some, Bool.false_eq_true,
          not_false_eq_true])]
      constructor
      · rintro ⟨hd, y, hx, hc⟩
        obtain ⟨htakes, hkept⟩ := ih.1 hc
        exact ⟨(takes_set_iff hkey hd hx).1 htakes, hkept⟩
      · rintro ⟨htakes, hkept⟩
        have hf := htakes f
        rw [valuesAt_cons_self, takes_cons_iff] at hf
        obtain ⟨hd, y, hx, -⟩ := hf
        exact ⟨hd, y, hx, ih.2 ⟨(takes_set_iff hkey hd hx).2 htakes, hkept⟩⟩

/-- The draft of entries is complete where every field is held. -/
theorem complete_collect_ok_iff (hkey : ∀ f, s.ofKey? (s.key f) = some f)
    (hother : ∀ e, other e.1 e.2 = .ok (made e)) {lacking : s.Field → DataFault} {a : α} :
    (∃ d, s.collect read other .empty entries = .ok (d, kept) ∧ d.complete lacking = .ok a) ↔
      (∃ value : (f : s.Field) → s.Value f,
        (∀ f, Held (read f) (s.default? f) (valuesAt (s.key f) entries) (value f)) ∧
          s.make value = a) ∧
        kept = (entries.filter fun e => (s.ofKey? e.1).isNone).flatMap made := by
  simp only [collect_ok_iff hkey hother, Draft.complete_ok_iff, held_iff, Draft.empty]
  constructor
  · rintro ⟨d, ⟨htakes, rfl⟩, value, hvalue, rfl⟩
    exact ⟨⟨value, fun f => ⟨d f, htakes f, hvalue f⟩, rfl⟩, rfl⟩
  · rintro ⟨⟨value, hheld, rfl⟩, rfl⟩
    choose d htakes hvalue using hheld
    exact ⟨d, ⟨htakes, rfl⟩, value, hvalue, rfl⟩

/-- The draft of entries, without anything made of entries under other keys, is complete where every
field is held. -/
theorem collect_bind_complete_ok_iff (hkey : ∀ f, s.ofKey? (s.key f) = some f)
    (lacking : s.Field → DataFault) {a : α} :
    ((s.collect read (fun _ _ => .ok ([] : List Empty)) .empty entries).map Prod.fst >>=
        fun d => d.complete lacking) = .ok a ↔
      ∃ value : (f : s.Field) → s.Value f,
        (∀ f, Held (read f) (s.default? f) (valuesAt (s.key f) entries) (value f)) ∧
          s.make value = a := by
  have hmade (e : String × v) : (.ok ([] : List Empty) : Except Fault (List Empty)) =
      .ok ((fun _ => []) e) := rfl
  have hiff : (∃ d, s.collect read (fun _ _ => .ok ([] : List Empty)) .empty entries =
      .ok (d, []) ∧ d.complete lacking = .ok a) ↔ _ := complete_collect_ok_iff hkey hmade
  rw [and_iff_left (by simp)] at hiff
  rw [← hiff, bind_ok_iff]
  simp only [Action.map_ok_iff]
  constructor
  · rintro ⟨_, ⟨⟨d, kept⟩, hc, rfl⟩, hd⟩
    obtain rfl : kept = [] := List.eq_nil_iff_forall_not_mem.2 nofun
    exact ⟨d, hc, hd⟩
  · rintro ⟨d, hc, hd⟩
    exact ⟨d, ⟨_, hc, rfl⟩, hd⟩

end Entries

variable {d : Draft s}

/-- **Which record the entries of a map give**: all fields are held. -/
theorem ofEntries_ok_iff (hkey : ∀ f, s.ofKey? (s.key f) = some f)
    {other : String → v → Except Fault Unit} (hother : ∀ e : String × v, other e.1 e.2 = .ok ())
    {a : α} :
    s.ofEntries read other entries .closed = .ok a ↔
      ∃ value : (f : s.Field) → s.Value f,
        (∀ f, Held (read f) (s.default? f) (valuesAt (s.key f) entries) (value f)) ∧
          s.make value = a := by
  have hmade : (fun key x => do other key x; return []) =
      fun (_ : String) (_ : v) => (.ok [] : Except Fault (List Empty)) := by
    funext key x
    rw [hother (key, x)]
    rfl
  rw [← collect_bind_complete_ok_iff hkey s.missing, ofEntries, hmade]
  cases s.collect read (fun _ _ => .ok ([] : List Empty)) .empty entries <;> rfl

/-! ## Records that refuse other keys -/

/-- What is made of entries under other keys does not matter where there are none. -/
theorem collect_congr {other other' : String → v → Except Fault (List κ)}
    (h : ∀ e ∈ entries, (s.ofKey? e.1).isSome) :
    s.collect read other d entries = s.collect read other' d entries := by
  induction entries generalizing d with
  | nil => rfl
  | cons e entries ih =>
    obtain ⟨key, x⟩ := e
    obtain ⟨hkey, h⟩ := List.forall_mem_cons.1 h
    obtain ⟨f, hf⟩ := Option.isSome_iff_exists.1 hkey
    simp only [collect, hf, ih h]

theorem ofEntries_congr {other other' : String → v → Except Fault Unit} {ending : Ending}
    (h : ∀ e ∈ entries, (s.ofKey? e.1).isSome) :
    s.ofEntries read other entries ending = s.ofEntries read other' entries ending := by
  rw [ofEntries, ofEntries, collect_congr h]

/-- Where other keys are refused, entries that are read are under the keys of fields. -/
theorem isSome_ofKey?_of_collect {other : String → v → Except Fault (List κ)}
    (hother : ∀ key x new, other key x ≠ .ok new) {r : Draft s × List κ}
    (h : s.collect read other d entries = .ok r) : ∀ e ∈ entries, (s.ofKey? e.1).isSome := by
  induction entries generalizing d with
  | nil => nofun
  | cons e entries ih =>
    obtain ⟨key, x⟩ := e
    cases hk : s.ofKey? key with
    | none =>
      simp only [collect, hk] at h
      obtain ⟨new, hnew, -⟩ := bind_ok_iff.1 h
      exact absurd hnew (hother key x new)
    | some f =>
      obtain ⟨-, y, -, hlater⟩ := (collect_field_ok_iff hk x).1 h
      exact List.forall_mem_cons.2 ⟨by rw [hk]; rfl, ih hlater⟩

/-- **Which record the entries of a map give where other keys are refused**: all entries are under
keys of fields, and all fields are held. -/
theorem ofEntries_refused_ok_iff (hkey : ∀ f, s.ofKey? (s.key f) = some f) {a : α} :
    s.ofEntries read s.refused entries .closed = .ok a ↔
      (∀ e ∈ entries, ∃ f, s.key f = e.1) ∧
      ∃ value : (f : s.Field) → s.Value f,
        (∀ f, Held (read f) (s.default? f) (valuesAt (s.key f) entries) (value f)) ∧
          s.make value = a := by
  have hknown {key : String} : (s.ofKey? key).isSome ↔ ∃ f, s.key f = key := by
    rw [Option.isSome_iff_exists]
    exact exists_congr fun f => ⟨key_eq_of_ofKey?, fun h => h ▸ hkey f⟩
  have hiff : s.ofEntries read (fun _ _ => .ok ()) entries .closed = .ok a ↔ _ :=
    ofEntries_ok_iff hkey fun _ => rfl
  rw [← hiff]
  constructor
  · intro h
    obtain ⟨r, hcollect, -⟩ := bind_ok_iff.1 h
    have hall := isSome_ofKey?_of_collect (fun _ _ _ h => by cases h) hcollect
    exact ⟨fun e he => hknown.1 (hall e he), ofEntries_congr hall ▸ h⟩
  · rintro ⟨hall, h⟩
    exact ofEntries_congr (fun e he => hknown.2 (hall e he)) ▸ h

/-! ## Records from sequences -/

/-- The items of a sequence under the keys of the fields in their order, as far as both go. -/
def named (s : Schema α) (items : List v) : List (String × v) := (s.fields.map s.key).zip items

/-- Items are collected like the entries that have them under the keys of the fields. -/
theorem collectItems_eq_collect (hkey : ∀ f, s.ofKey? (s.key f) = some f)
    (other : String → v → Except Fault (List κ)) {fs : List s.Field} (hfs : fs.Nodup)
    (hd : ∀ f ∈ fs, d f = none) (items : List v) :
    (s.collectItems read d fs items).map Prod.fst =
      (s.collect read other d ((fs.map s.key).zip items)).map Prod.fst := by
  induction fs generalizing d items with
  | nil => rfl
  | cons f fs ih =>
    cases items with
    | nil => rfl
    | cons x items =>
      obtain ⟨hf, hfs⟩ := List.nodup_cons.1 hfs
      rw [List.map_cons, List.zip_cons_cons]
      cases hx : read f x with
      | error e =>
        simp [collectItems, collect, hkey, hd, hx, bind, Except.bind, Except.map]
      | ok y =>
        have hset : ∀ g ∈ fs, d.set f y g = none := fun g hg => by
          rw [Draft.set_of_ne (ne_of_mem_of_not_mem hg hf).symm, hd g (List.mem_cons_of_mem _ hg)]
        rw [collect_field (hkey f) (hd f List.mem_cons_self) hx, ← ih hfs hset]
        simp only [collectItems, hx]
        rfl

/-- **Which record the items of a sequence give**, where more items than fields may stand: the
record that the items under the keys of the fields give. -/
theorem ofItems_ok_iff [Format v] (hkey : ∀ f, s.ofKey? (s.key f) = some f)
    (hfields : s.fields.Nodup) (hsurplus : Format.surplus v = .ok ()) {items : List v} {a : α} :
    s.ofItems read items .closed = .ok a ↔
      ∃ value : (f : s.Field) → s.Value f,
        (∀ f, Held (read f) (s.default? f) (valuesAt (s.key f) (s.named items)) (value f)) ∧
          s.make value = a := by
  have hrun : s.ofItems read items .closed =
      (s.collectItems read .empty s.fields items).map Prod.fst >>=
        fun d => d.complete fun f => .tooShort (s.fields.idxOf f) s.sequenceTitle := by
    rw [ofItems]
    cases s.collectItems read .empty s.fields items with
    | error e => rfl
    | ok r =>
      obtain ⟨d, left⟩ := r
      simp only [hsurplus, Ending.check, ite_self]
      rfl
  rw [hrun, collectItems_eq_collect (d := .empty) hkey (fun _ _ => .ok ([] : List Empty)) hfields
    fun _ _ => rfl]
  exact collect_bind_complete_ok_iff hkey _

end Schema

end Packaging.Document
