import Packaging.Text.ByteOrder

/-!
# Texts sorted by bytes

* `byteLE_total`, `byteLE_trans`: any two texts compare, and order is transitive.
* `sortByBytes_pairwise`, `sortByBytes_strict`: sorted texts ascend.
* `sortByBytes_eq_of_perm`: the order of texts makes no difference to the sorted ones.
* `lt_or_append_of_append_lt`, `append_cons_lt_cons_iff`: what endings of texts do to their order.
-/

namespace Packaging.Text

theorem byteLE_iff {s t : String} : byteLE s t = true ↔ bytesOf s ≤ bytesOf t := decide_eq_true_iff

theorem byteLE_total (s t : String) : byteLE s t = true ∨ byteLE t s = true := by
  rw [byteLE_iff, byteLE_iff]
  exact List.le_total _ _

theorem byteLE_trans {s t u : String} (h : byteLE s t = true) (h' : byteLE t u = true) :
    byteLE s u = true := by
  rw [byteLE_iff] at *
  exact List.le_trans h h'

theorem bytesOf_injective {s t : String} (h : bytesOf s = bytesOf t) : s = t := by
  have hread := ofBytes?_bytesOf s
  rw [h, ofBytes?_bytesOf, Option.some.injEq] at hread
  exact hread.symm

theorem byteLE_antisymm {s t : String} (h : byteLE s t = true) (h' : byteLE t s = true) :
    s = t := by
  rw [byteLE_iff] at h h'
  exact bytesOf_injective (List.le_antisymm h h')

theorem insertByBytes_pairwise {texts : List String} (s : String)
    (h : texts.Pairwise (byteLE · · = true)) :
    (insertByBytes s texts).Pairwise (byteLE · · = true) := by
  induction texts with
  | nil => exact List.pairwise_singleton _ _
  | cons t texts ih =>
    obtain ⟨ht, htexts⟩ := List.pairwise_cons.1 h
    unfold insertByBytes
    split
    · rename_i hle
      refine List.pairwise_cons.2 ⟨fun u hu => ?_, h⟩
      rcases List.mem_cons.1 hu with rfl | hu
      · exact hle
      · exact byteLE_trans hle (ht u hu)
    · rename_i hle
      refine List.pairwise_cons.2 ⟨fun u hu => ?_, ih htexts⟩
      rcases List.mem_cons.1 ((insertByBytes_perm s texts).mem_iff.1 hu) with rfl | hu
      · exact (byteLE_total t u).resolve_right hle
      · exact ht u hu

/-- **Sorted texts ascend.** -/
theorem sortByBytes_pairwise (texts : List String) :
    (sortByBytes texts).Pairwise (byteLE · · = true) := by
  induction texts with
  | nil => exact .nil
  | cons s texts ih => exact insertByBytes_pairwise s ih

/-- Sorted texts that are apart ascend strictly. -/
theorem sortByBytes_strict {texts : List String} (h : texts.Nodup) :
    (sortByBytes texts).Pairwise (bytesOf · < bytesOf ·) := by
  have hnodup : (sortByBytes texts).Pairwise (· ≠ ·) :=
    (sortByBytes_perm texts).nodup_iff.2 h
  refine ((sortByBytes_pairwise texts).and hnodup).imp fun {s t} hst => ?_
  rcases List.le_iff_lt_or_eq.1 (byteLE_iff.1 hst.1) with hlt | heq
  · exact hlt
  · exact absurd (bytesOf_injective heq) hst.2

/-- **Texts in another order are sorted the same.** -/
theorem sortByBytes_eq_of_perm {texts texts' : List String} (h : texts.Perm texts') :
    sortByBytes texts = sortByBytes texts' := by
  refine List.Perm.eq_of_pairwise (fun s t _ _ => byteLE_antisymm) (sortByBytes_pairwise texts)
    (sortByBytes_pairwise texts') ?_
  exact (sortByBytes_perm texts).trans (h.trans (sortByBytes_perm texts').symm)

/-! ## Endings -/

section Endings

variable {x : UInt8} {xs ys us es fs : List UInt8}

theorem append_lt_append_iff : xs ++ us < xs ++ ys ↔ us < ys := by
  induction xs with
  | nil => rfl
  | cons x xs ih => rw [List.cons_append, List.cons_append, List.cons_lt_cons_self, ih]

/-- **Texts compare as they do with endings**, unless the earlier one goes on where the later one
ends. -/
theorem lt_or_append_of_append_lt (h : xs ++ es < ys ++ fs) :
    xs < ys ∨ ∃ us, xs = ys ++ us ∧ us ++ es < fs := by
  induction ys generalizing xs with
  | nil => exact .inr ⟨xs, rfl, h⟩
  | cons y ys ih =>
    cases xs with
    | nil => exact .inl (List.nil_lt_cons y ys)
    | cons x xs =>
      rw [List.cons_append, List.cons_append, List.cons_lt_cons_iff] at h
      rcases h with hlt | ⟨rfl, h⟩
      · exact .inl (List.cons_lt_cons_iff.2 (.inl hlt))
      · rcases ih h with hlt | ⟨us, rfl, hus⟩
        · exact .inl (List.cons_lt_cons_iff.2 (.inr ⟨rfl, hlt⟩))
        · exact .inr ⟨us, rfl, hus⟩

/-- An ending makes no difference before a text whose bytes are all above the ending's first. -/
theorem append_cons_lt_iff (hfs : ∀ b ∈ fs, x < b) : us ++ x :: es < fs ↔ us < fs := by
  induction us generalizing fs with
  | nil =>
    cases fs with
    | nil => exact iff_of_false (List.not_lt_nil _) (List.not_lt_nil _)
    | cons f fs =>
      exact iff_of_true (List.cons_lt_cons_iff.2 (.inl (hfs f List.mem_cons_self)))
        (List.nil_lt_cons f fs)
  | cons u us ih =>
    cases fs with
    | nil => exact iff_of_false (List.not_lt_nil _) (List.not_lt_nil _)
    | cons f fs =>
      rw [List.cons_append, List.cons_lt_cons_iff, List.cons_lt_cons_iff,
        ih fun b hb => hfs b (List.mem_cons_of_mem _ hb)]

/-- A text that is not empty sorts before an ending as it does with that ending after it. -/
theorem append_cons_lt_cons_iff (hes : ∀ b ∈ es, x < b) :
    us ++ x :: es < x :: es ↔ us ≠ [] ∧ us < x :: es := by
  cases us with
  | nil => exact iff_of_false (List.lt_irrefl _) fun h => h.1 rfl
  | cons u us =>
    rw [List.cons_append, List.cons_lt_cons_iff, List.cons_lt_cons_iff, append_cons_lt_iff hes,
      and_iff_right (List.cons_ne_nil u us)]

end Endings

end Packaging.Text
