import Packaging.Text.Uppercase

/-!
# Upper case and marks

The upper case of a character beyond ASCII is made of letters and signs that come after the marks
of ASCII, so upper-casing a text neither adds nor drops one of these marks (`mem_upper_iff`).

* `caseRuns_ge`, `caseExpansions_ge`: the two tables give nothing that comes before `A`.
* `mem_upperChar_iff`: what comes before `A` is the upper case of itself only.
-/

namespace Packaging.Text

/-- The code point that no letter is below. -/
def firstLetter : Nat := 'A'.toNat

theorem caseRuns_ge : ∀ run ∈ caseRuns, (firstLetter : Int) ≤ run.first + run.offset := by
  decide +kernel

theorem caseExpansions_ge :
    ∀ e ∈ caseExpansions, ∀ n ∈ e.2, firstLetter ≤ (Char.ofNat n).toNat := by
  decide +kernel

/-- In ASCII, too, only letters become letters. -/
theorem toUpper_eq_of_lt : ∀ n < 0x80, n < firstLetter ∨
    (Char.ofNat n).toUpper.toNat < firstLetter → (Char.ofNat n).toUpper = Char.ofNat n := by
  decide +kernel

theorem toNat_ofNat_cases (n : Nat) : (Char.ofNat n).toNat = n ∨ (Char.ofNat n).toNat = 0 := by
  by_cases hn : n.isValidChar
  · exact .inl (congrArg Char.toNat (dif_pos hn))
  · exact .inr (congrArg Char.toNat (dif_neg hn))

variable {c d : Char} {s : String}

theorem firstLetter_le_of_moveBy? (h : moveBy? caseRuns c = some d) :
    firstLetter ≤ d.toNat ∨ d.toNat = 0 := by
  obtain ⟨run, hrun, rfl⟩ := Option.map_eq_some_iff.1 h
  have hge := caseRuns_ge run (List.mem_of_find?_eq_some hrun)
  have hcontains := List.find?_some hrun
  simp only [CaseRun.contains, Bool.and_eq_true, decide_eq_true_eq] at hcontains
  have hmove : firstLetter ≤ (c.toNat + run.offset).toNat := by omega
  rcases toNat_ofNat_cases (c.toNat + run.offset).toNat with hn | hn
  · exact .inl (hn.symm ▸ hmove)
  · exact .inr hn

theorem mem_upperChar_iff (hpos : 0 < d.toNat) (hd : d.toNat < firstLetter) :
    d ∈ upperChar c ↔ d = c := by
  unfold upperChar
  split
  · rename_i hc
    have hupper := toUpper_eq_of_lt c.toNat hc
    rw [Char.ofNat_toNat] at hupper
    rw [List.mem_singleton]
    constructor
    · rintro rfl
      exact hupper (.inr hd)
    · rintro rfl
      exact (hupper (.inl hd)).symm
  · rename_i hc
    have hne : d ≠ c := by
      rintro rfl
      exact hc (Nat.lt_trans hd (by decide))
    refine iff_of_false (fun hmem => ?_) hne
    split at hmem
    · rename_i codes hcodes
      obtain ⟨n, hn, rfl⟩ := List.mem_map.1 hmem
      obtain ⟨front, back, htable, -⟩ := List.lookup_eq_some_iff.1 hcodes
      have hentry : (c.toNat, codes) ∈ caseExpansions :=
        htable ▸ List.mem_append_right _ List.mem_cons_self
      exact absurd hd (Nat.not_lt.2 (caseExpansions_ge _ hentry n hn))
    · rw [List.mem_singleton] at hmem
      cases hmove : moveBy? caseRuns c with
      | none => exact hne (by rw [hmem, hmove]; rfl)
      | some e =>
        rw [hmove, Option.getD_some] at hmem
        subst hmem
        rcases firstLetter_le_of_moveBy? hmove with hge | hzero
        · exact absurd hd (Nat.not_lt.2 hge)
        · omega

/-- **Upper-casing keeps the marks of a text.** -/
theorem mem_upper_iff (hpos : 0 < d.toNat) (hd : d.toNat < firstLetter) :
    d ∈ (upper s).toList ↔ d ∈ s.toList := by
  rw [upper, String.toList_ofList, List.mem_flatMap]
  simp only [mem_upperChar_iff hpos hd, exists_eq_right']

end Packaging.Text
