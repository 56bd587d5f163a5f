import Packaging.Proofs.Json.Strings

/-!
# Written values are read back

The machine that reads a text meets the written form of a value and ends up behind the value's
outline (`run_write`), whatever containers are open around it and whatever blanks the printer puts
in between. Numbers are left out: only values without numbers are followed.

* `run_write`, `run_writeItems`, `run_writeEntries`: one lemma for each function of the printer.
* `readText_text`: a reader of a written text is given the outline of the value.
-/

namespace Packaging.Json

open Text Document

variable {bytes rest : List UInt8}

/-! ## Steps of the machine -/

namespace State
variable {s : State} {t : Token}

theorem run_token (h : nextToken bytes = some (t, rest)) (hs : s.isStopped = false) :
    s.run bytes = (s.step t).run rest := by
  rw [State.run]
  split <;> simp_all

theorem run_end (h : nextToken bytes = none) : s.run bytes = s := by
  rw [State.run]
  split <;> simp_all

theorem run_gap {b : UInt8} (h : isGap b) : s.run (b :: bytes) = s.run bytes := by
  have hn : nextToken (b :: bytes) = nextToken bytes := by rw [nextToken, if_pos h]
  rw [State.run, State.run, hn]

end State

/-- Characters that are skipped between tokens. -/
def Blank (cs : List Char) : Prop := ∀ c ∈ cs, c = ' ' ∨ c = '\n'

theorem State.run_blank {s : State} {cs : List Char} (h : Blank cs) :
    s.run (bytesOfChars cs ++ bytes) = s.run bytes := by
  induction cs with
  | nil => rfl
  | cons c cs ih =>
    rw [bytesOfChars_cons, List.append_assoc]
    rcases h c List.mem_cons_self with rfl | rfl
    · exact (run_gap rfl).trans (ih fun d hd => h d (List.mem_cons_of_mem _ hd))
    · exact (run_gap rfl).trans (ih fun d hd => h d (List.mem_cons_of_mem _ hd))

/-- A spacing that adds nothing but blanks. -/
structure Spacing.Blank (sp : Spacing) : Prop where
  colon : ∃ gap, sp.colon = ':' :: gap ∧ Json.Blank gap
  gap : ∀ depth, Json.Blank (sp.gap depth)

theorem Spacing.blank_compact : Spacing.compact.Blank :=
  ⟨⟨[], rfl, nofun⟩, fun _ => nofun⟩

theorem Spacing.blank_pretty : Spacing.pretty.Blank where
  colon := ⟨[' '], rfl, by simp [Json.Blank]⟩
  gap depth := by
    intro c hc
    rcases List.mem_cons.1 hc with rfl | hc
    · exact .inr rfl
    · exact .inl (List.eq_of_mem_replicate hc)

mutual

/-- Whether a value has no number inside. -/
def Numberless : Json → Prop
  | .null | .boolean _ | .string _ => True
  | .number _ => False
  | .array items => NumberlessItems items
  | .object entries => NumberlessEntries entries

def NumberlessItems : List Json → Prop
  | [] => True
  | x :: items => x.Numberless ∧ NumberlessItems items

def NumberlessEntries : List (String × Json) → Prop
  | [] => True
  | (_, x) :: entries => x.Numberless ∧ NumberlessEntries entries

end

mutual

/-- The outline of the text of a value. -/
def outline : Json → Outline
  | .null => .leaf (.word (.sound none))
  | .boolean b => .leaf (.word (.sound (some b)))
  | .number n => .leaf (.number (.sound n))
  | .string s => .leaf (.string (.sound s))
  | .array items => .array (outlineItems items) .closed
  | .object entries => .object (outlineEntries entries) .closed

/-- The outlines of items. -/
def outlineItems : List Json → List Outline
  | [] => []
  | x :: items => x.outline :: outlineItems items

/-- The outlines of entries. -/
def outlineEntries : List (String × Json) → List (Lexeme String × Outline)
  | [] => []
  | (key, x) :: entries => (.sound key, x.outline) :: outlineEntries entries

end

theorem numberlessItems_iff {items : List Json} :
    NumberlessItems items ↔ ∀ x ∈ items, x.Numberless := by
  induction items with
  | nil => exact ⟨fun _ _ => nofun, fun _ => trivial⟩
  | cons x items ih => rw [NumberlessItems, ih, List.forall_mem_cons]

theorem numberlessEntries_iff {entries : List (String × Json)} :
    NumberlessEntries entries ↔ ∀ e ∈ entries, e.2.Numberless := by
  induction entries with
  | nil => exact ⟨fun _ _ => nofun, fun _ => trivial⟩
  | cons e entries ih => rw [NumberlessEntries, ih, List.forall_mem_cons]

theorem outlineItems_eq (items : List Json) : outlineItems items = items.map outline := by
  induction items with
  | nil => rfl
  | cons x items ih => simp [outlineItems, ih]

variable {sp : Spacing} (hsp : sp.Blank)
include hsp

theorem run_blank_gap (s : State) (depth : Nat) :
    s.run (bytesOfChars (sp.gap depth) ++ bytes) = s.run bytes :=
  State.run_blank (hsp.gap depth)

/-- A written key takes the machine to the key's value. -/
theorem run_writeKey (entries : List (Lexeme String × Outline)) (key : String)
    (frames : List Frame) :
    (State.key entries frames).run (bytesOfChars (writeString key ++ sp.colon) ++ bytes) =
      (State.value (.object entries (.sound key) :: frames)).run bytes := by
  obtain ⟨gap, hcolon, hgap⟩ := hsp.colon
  rw [bytesOfChars_append, List.append_assoc, State.run_token (nextToken_writeString key) rfl,
    hcolon, bytesOfChars_cons, List.append_assoc]
  exact (State.run_token (t := .colon) rfl rfl).trans (State.run_blank hgap)

mutual

theorem run_write : ∀ (x : Json) (depth : Nat) (frames : List Frame) (rest : List UInt8),
    x.Numberless → (State.value frames).run (bytesOfChars (write sp depth x) ++ rest) =
      (State.afterValue x.outline frames).run rest
  | .null, _, _, _, _ => State.run_token (t := .leaf (.word (.sound none))) rfl rfl
  | .boolean true, _, _, _, _ => State.run_token (t := .leaf (.word (.sound (some true)))) rfl rfl
  | .boolean false, _, _, _, _ => State.run_token (t := .leaf (.word (.sound (some false)))) rfl rfl
  | .string s, _, _, _, _ => State.run_token (nextToken_writeString s) rfl
  | .array [], _, _, _, _ =>
    (State.run_token (t := .openArray) rfl rfl).trans (State.run_token (t := .closeArray) rfl rfl)
  | .array (x :: items), depth, frames, rest, h => by
    simp only [write, bytesOfChars_append, bytesOfChars_cons, List.append_assoc]
    refine (State.run_token (t := .openArray) rfl rfl).trans ?_
    refine (run_blank_gap hsp _ _).trans ?_
    refine (run_write x _ _ _ h.1).trans ?_
    refine (run_writeItems items _ [x.outline] frames _ h.2).trans ?_
    refine (run_blank_gap hsp _ _).trans ?_
    refine (State.run_token (t := .closeArray) rfl rfl).trans ?_
    simp only [State.step, outline, outlineItems, List.reverse_append, List.reverse_reverse,
      List.reverse_singleton, List.singleton_append]
    rfl
  | .object [], _, _, _, _ =>
    (State.run_token (t := .openObject) rfl rfl).trans (State.run_token (t := .closeObject) rfl rfl)
  | .object ((key, x) :: entries), depth, frames, rest, h => by
    simp only [write, bytesOfChars_append, bytesOfChars_cons, List.append_assoc]
    refine (State.run_token (t := .openObject) rfl rfl).trans ?_
    refine (run_blank_gap hsp _ _).trans ?_
    rw [← List.append_assoc, ← bytesOfChars_append]
    refine (run_writeKey hsp _ _ _).trans ?_
    refine (run_write x _ _ _ h.1).trans ?_
    refine (run_writeEntries entries _ [(.sound key, x.outline)] frames _ h.2).trans ?_
    refine (run_blank_gap hsp _ _).trans ?_
    refine (State.run_token (t := .closeObject) rfl rfl).trans ?_
    simp only [State.step, outline, outlineEntries, List.reverse_append, List.reverse_reverse,
      List.reverse_singleton, List.singleton_append]
    rfl

theorem run_writeItems : ∀ (items : List Json) (depth : Nat) (done : List Outline)
    (frames : List Frame) (rest : List UInt8), NumberlessItems items →
    (State.item done frames).run (bytesOfChars (writeItems sp depth items) ++ rest) =
      (State.item ((outlineItems items).reverse ++ done) frames).run rest
  | [], _, _, _, _, _ => rfl
  | x :: items, depth, done, frames, rest, h => by
    simp only [writeItems, bytesOfChars_append, bytesOfChars_cons, List.append_assoc]
    refine (State.run_token (t := .comma) rfl rfl).trans ?_
    refine (run_blank_gap hsp _ _).trans ?_
    refine (run_write x _ _ _ h.1).trans ?_
    refine (run_writeItems items _ (x.outline :: done) frames _ h.2).trans ?_
    simp only [outlineItems, List.reverse_cons, List.append_assoc, List.singleton_append]

theorem run_writeEntries : ∀ (entries : List (String × Json)) (depth : Nat)
    (done : List (Lexeme String × Outline)) (frames : List Frame) (rest : List UInt8),
    NumberlessEntries entries →
    (State.entry done frames).run (bytesOfChars (writeEntries sp depth entries) ++ rest) =
      (State.entry ((outlineEntries entries).reverse ++ done) frames).run rest
  | [], _, _, _, _, _ => rfl
  | (key, x) :: entries, depth, done, frames, rest, h => by
    simp only [writeEntries, bytesOfChars_append, bytesOfChars_cons, List.append_assoc]
    refine (State.run_token (t := .comma) rfl rfl).trans ?_
    refine (run_blank_gap hsp _ _).trans ?_
    rw [← List.append_assoc, ← bytesOfChars_append]
    refine (run_writeKey hsp _ _ _).trans ?_
    refine (run_write x _ _ _ h.1).trans ?_
    refine (run_writeEntries entries _ ((.sound key, x.outline) :: done) frames _ h.2).trans ?_
    simp only [outlineEntries, List.reverse_cons, List.append_assoc, List.singleton_append]

end

/-! ## Whole texts -/

/-- **A reader of a written value is given its outline**, also with blanks after the text. -/
theorem readText_text {α : Type} (read : Placed → Except Fault α) {x : Json} (h : x.Numberless)
    {after : String} (hafter : Blank after.toList) :
    readText read (x.text sp ++ after) = read ⟨127, x.outline⟩ := by
  have hrun : (State.value []).run (bytesOf (x.text sp ++ after)) = .complete x.outline := by
    rw [bytesOf_eq, String.toList_append, text, String.toList_ofList, bytesOfChars_append,
      run_write hsp x 0 [] _ h, ← List.append_nil (bytesOfChars after.toList),
      State.run_blank hafter]
    exact State.run_end rfl
  rw [readText, readBytes, hrun]
  show (read ⟨127, x.outline⟩ >>= fun a => pure a) = _
  rw [bind_pure]

omit hsp

/-- The entries of a written object are read under the object's own keys. -/
theorem readable_outlineEntries (entries : List (String × Json)) :
    Outline.readable (outlineEntries entries) .closed =
      (entries.map fun e => (e.1, e.2.outline), .closed) := by
  induction entries with
  | nil => rfl
  | cons e entries ih =>
    simp only [outlineEntries, Outline.readable, Lexeme.sound, ih, List.map_cons]

/-- A written array is seen as the outlines of its items. -/
theorem view_outline_array (room : Nat) (items : List Json) :
    Placed.view ⟨room + 1, (Json.array items).outline⟩ =
      .sequence (items.map fun x => ⟨room, x.outline⟩) .closed := by
  simp only [Placed.view, outline, outlineItems_eq, List.map_map, Function.comp_def]

/-- A written object is seen as its entries with the outlines of their values. -/
theorem view_outline_object (room : Nat) (entries : List (String × Json)) :
    Placed.view ⟨room + 1, (Json.object entries).outline⟩ =
      .map (entries.map fun e => (e.1, ⟨room, e.2.outline⟩)) .closed := by
  simp only [Placed.view, outline, readable_outlineEntries, List.map_map, Function.comp_def]

end Packaging.Json

