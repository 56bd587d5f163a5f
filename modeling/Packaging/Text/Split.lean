/-! # The pieces of a text

Marks divide a text into pieces, one more than there are marks. -/

namespace Packaging.Text

/-- The texts between the marks of a text. -/
def splitAtMarks (isMark : Char → Bool) : List Char → List (List Char)
  | [] => [[]]
  | c :: cs =>
    if isMark c then [] :: splitAtMarks isMark cs
    else match splitAtMarks isMark cs with
      | piece :: pieces => (c :: piece) :: pieces
      | [] => [[c]]

/-- There is one piece more than there are marks. -/
theorem length_splitAtMarks (isMark : Char → Bool) (cs : List Char) :
    (splitAtMarks isMark cs).length = cs.countP isMark + 1 := by
  induction cs with
  | nil => rfl
  | cons c cs ih =>
    unfold splitAtMarks
    split
    · next hc => simp [ih, hc]
    · next hc =>
      split
      · next h => simp_all
      · next h => simp [h] at ih

/-- No piece has a mark. -/
theorem not_isMark_of_mem_splitAtMarks {isMark : Char → Bool} {cs piece : List Char}
    (h : piece ∈ splitAtMarks isMark cs) : ∀ c ∈ piece, ¬isMark c := by
  induction cs generalizing piece with
  | nil => simp_all [splitAtMarks]
  | cons c cs ih =>
    unfold splitAtMarks at h
    split at h
    · rcases List.mem_cons.1 h with rfl | h
      · simp
      · exact ih h
    · next hc =>
      split at h
      · next first rest hs =>
        rw [hs] at ih
        rcases List.mem_cons.1 h with rfl | h
        · intro d hd
          rcases List.mem_cons.1 hd with rfl | hd
          · exact hc
          · exact ih List.mem_cons_self d hd
        · exact ih (List.mem_cons_of_mem _ h)
      · simp_all

end Packaging.Text
