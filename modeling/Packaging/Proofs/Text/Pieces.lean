import Packaging.Text.Split
import Mathlib.Algebra.GroupWithZero.Nat

/-!
# Pieces of texts that are put together

* `splitAtMarks_of_forall`: a text without marks is one piece.
* `splitAtMarks_append`: a mark keeps the pieces before it and after it apart; what has no marks
  goes to the last piece (`splitAtMarks_append_of_forall`).
* `splitAtMarks_intercalate`: texts that were put together are taken apart one by one, so they are
  all there again exactly when they have no marks (`length_flatMap_splitAtMarks_iff`).
* `eq_of_append_mark`: so does the last mark of a text.
* `append_ne_append_of_mem`: a text that is longer at its end has other characters before it.
-/

namespace Packaging.Text

variable {isMark : Char → Bool}

theorem splitAtMarks_ne_nil (cs : List Char) : splitAtMarks isMark cs ≠ [] := by
  intro h
  have := length_splitAtMarks isMark cs
  rw [h] at this
  cases this

theorem splitAtMarks_of_forall {cs : List Char} (h : ∀ c ∈ cs, isMark c = false) :
    splitAtMarks isMark cs = [cs] := by
  induction cs with
  | nil => rfl
  | cons c cs ih =>
    have hc : ¬ isMark c = true := by simp [h c List.mem_cons_self]
    rw [splitAtMarks, if_neg hc, ih fun d hd => h d (List.mem_cons_of_mem _ hd)]

theorem splitAtMarks_append {m : Char} (hm : isMark m = true) (cs ds : List Char) :
    splitAtMarks isMark (cs ++ m :: ds) = splitAtMarks isMark cs ++ splitAtMarks isMark ds := by
  induction cs with
  | nil => simp only [List.nil_append, splitAtMarks, if_pos hm, List.cons_append]
  | cons c cs ih =>
    rw [List.cons_append, splitAtMarks, splitAtMarks, ih]
    split
    · rfl
    · cases hs : splitAtMarks isMark cs with
      | nil => exact absurd hs (splitAtMarks_ne_nil cs)
      | cons piece pieces => rfl

/-- What is put after a text belongs to its last piece, if it has no marks. -/
theorem splitAtMarks_append_of_forall (cs : List Char) : ∃ pieces last,
    splitAtMarks isMark cs = pieces ++ [last] ∧
      ∀ ds, (∀ d ∈ ds, isMark d = false) →
        splitAtMarks isMark (cs ++ ds) = pieces ++ [last ++ ds] := by
  induction cs with
  | nil => exact ⟨[], [], rfl, fun ds hds => splitAtMarks_of_forall hds⟩
  | cons c cs ih =>
    obtain ⟨pieces, last, h, hmore⟩ := ih
    by_cases hc : isMark c = true
    · refine ⟨[] :: pieces, last, ?_, fun ds hds => ?_⟩
      · rw [splitAtMarks, if_pos hc, h]
        rfl
      · rw [List.cons_append, splitAtMarks, if_pos hc, hmore ds hds]
        rfl
    · cases pieces with
      | nil =>
        refine ⟨[], c :: last, ?_, fun ds hds => ?_⟩
        · rw [splitAtMarks, if_neg hc, h]
          rfl
        · rw [List.cons_append, splitAtMarks, if_neg hc, hmore ds hds]
          rfl
      | cons piece pieces =>
        refine ⟨(c :: piece) :: pieces, last, ?_, fun ds hds => ?_⟩
        · rw [splitAtMarks, if_neg hc, h]
          rfl
        · rw [List.cons_append, splitAtMarks, if_neg hc, hmore ds hds]
          rfl

section Intercalate

variable {m : Char} {texts : List (List Char)}

theorem splitAtMarks_intercalate (hne : texts ≠ []) :
    splitAtMarks (· = m) ([m].intercalate texts) = texts.flatMap (splitAtMarks (· = m)) := by
  induction texts with
  | nil => exact absurd rfl hne
  | cons t texts ih =>
    cases texts with
    | nil => rw [List.intercalate_singleton, List.flatMap_cons, List.flatMap_nil, List.append_nil]
    | cons u texts =>
      rw [List.intercalate_cons_cons, List.append_assoc, List.singleton_append,
        splitAtMarks_append (decide_eq_true rfl), ih (List.cons_ne_nil _ _), ← List.flatMap_cons]

theorem flatMap_splitAtMarks_of_forall (h : ∀ t ∈ texts, m ∉ t) :
    texts.flatMap (splitAtMarks (· = m)) = texts := by
  induction texts with
  | nil => rfl
  | cons t texts ih =>
    have ht : ∀ c ∈ t, decide (c = m) = false := fun c hc =>
      decide_eq_false fun e => h t List.mem_cons_self (e ▸ hc)
    rw [List.flatMap_cons, splitAtMarks_of_forall ht,
      ih fun u hu => h u (List.mem_cons_of_mem _ hu)]
    rfl

/-- Each mark in a text makes one more piece. -/
theorem length_flatMap_splitAtMarks (texts : List (List Char)) :
    (texts.flatMap (splitAtMarks (· = m))).length =
      texts.length + (texts.map (List.count m)).sum := by
  induction texts with
  | nil => rfl
  | cons t texts ih =>
    have hcount : t.countP (· = m) = t.count m := by
      rw [List.count]
      exact List.countP_congr fun c _ => by simp
    rw [List.flatMap_cons, List.length_append, length_splitAtMarks, ih, hcount, List.length_cons,
      List.map_cons, List.sum_cons]
    omega

theorem length_flatMap_splitAtMarks_iff :
    (texts.flatMap (splitAtMarks (· = m))).length = texts.length ↔ ∀ t ∈ texts, m ∉ t := by
  rw [length_flatMap_splitAtMarks, Nat.add_eq_left, List.sum_eq_zero_iff_forall_eq_nat]
  simp only [List.forall_mem_map, List.count_eq_zero]

end Intercalate

/-! ## Texts with a common part -/

section Common

variable {m : Char} {a b s t w y : List Char}

theorem eq_of_append_mark (hs : m ∉ s) (ht : m ∉ t) (h : a ++ m :: s = b ++ m :: t) :
    a = b ∧ s = t := by
  rcases List.append_eq_append_iff.1 h with ⟨c, hb, hc⟩ | ⟨c, ha, hc⟩
  · cases c with
    | nil => cases hc; exact ⟨by simpa using hb.symm, rfl⟩
    | cons d c =>
      obtain ⟨-, rfl⟩ := List.cons.inj hc
      exact absurd (List.mem_append_right _ List.mem_cons_self) hs
  · cases c with
    | nil => cases hc; exact ⟨by simpa using ha, rfl⟩
    | cons d c =>
      obtain ⟨-, rfl⟩ := List.cons.inj hc
      exact absurd (List.mem_append_right _ List.mem_cons_self) ht

/-- What stands before `s` ends with a rotation of `y`, so `w` is a part of one. -/
theorem append_ne_append_of_mem (hlen : w.length ≤ y.length) (hw : m ∈ w) (hy : m ∉ y) :
    a ++ w ++ s ≠ b ++ s ++ y := by
  intro h
  rw [List.append_assoc b] at h
  rcases List.append_eq_append_iff.1 h with ⟨c, -, hc⟩ | ⟨c, hc, hrot⟩
  · have hsize := congrArg List.length hc
    have hpos := List.length_pos_of_mem hw
    simp only [List.length_append] at hsize
    omega
  · have hsize := congrArg List.length hrot
    have hcount := congrArg (List.count m) hrot
    simp only [List.length_append] at hsize
    simp only [List.count_append, List.count_eq_zero_of_not_mem hy] at hcount
    have hsuffix : w <:+ c :=
      List.suffix_of_suffix_length_le (List.suffix_append a w) (hc ▸ List.suffix_append b c)
        (by omega)
    have hpos : 0 < c.count m := List.count_pos_iff.2 (hsuffix.mem hw)
    omega

end Common

end Packaging.Text
