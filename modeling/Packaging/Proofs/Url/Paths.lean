import Packaging.Proofs.Text.Pieces
import Packaging.Proofs.Url.Percent

/-!
# Paths of addresses

What the path of an address decodes to, compared with the bytes of the text that it is read of.

* `joined_splitAtMarks`: put together again, the segments of a path are its text with slashes for
  backslashes.
* `resolve_cases`: only points among the segments change them, and then fewer bytes are left.
* `decode_pathOf_iff`: a path decodes to its own text exactly when it is `Plain`;
  `length_decode_pathOf_le`: it never decodes to more.
-/

namespace Packaging.Url

open Text

variable {c : Char} {cs ds s : List Char} {before segments : List (List Char)}

/-- Segments as text, a slash before each. -/
def joined (segments : List (List Char)) : List Char := segments.flatMap ('/' :: ·)

theorem joined_cons : joined (s :: segments) = '/' :: s ++ joined segments := List.flatMap_cons

theorem decode_joined_cons :
    decode (joined (s :: segments)) = decode ('/' :: s) ++ decode (joined segments) := by
  cases segments with
  | nil => simp [joined, decode]
  | cons t segments =>
    rw [joined_cons, joined_cons]
    exact decode_append_slash _ _

/-- Encoding the segments does not change what a path decodes to. -/
theorem decode_joined_encode (segments : List (List Char)) :
    decode (joined (segments.map (encode inPath))) = decode (joined segments) := by
  induction segments with
  | nil => rfl
  | cons s segments ih =>
    have hslash : '/' ≠ '%' := by decide
    rw [List.map_cons, decode_joined_cons, decode_joined_cons, ih, decode_cons_of_ne hslash,
      decode_cons_of_ne hslash, decode_encode]

/-! ## Slashes -/

/-- A character with a slash for a backslash. -/
def slashed (c : Char) : Char := if isSlash c then '/' else c

theorem joined_splitAtMarks (cs : List Char) :
    joined (splitAtMarks isSlash cs) = '/' :: cs.map slashed := by
  induction cs with
  | nil => rfl
  | cons c cs ih =>
    rw [splitAtMarks]
    by_cases hc : isSlash c = true
    · rw [if_pos hc, joined_cons, ih, List.map_cons, slashed, if_pos hc]
      rfl
    · rw [if_neg hc, List.map_cons, slashed, if_neg hc]
      cases hs : splitAtMarks isSlash cs with
      | nil => exact absurd hs (splitAtMarks_ne_nil cs)
      | cons piece pieces =>
        rw [hs, joined_cons, List.cons_append, List.cons.injEq] at ih
        rw [joined_cons, ← ih.2]
        rfl

theorem slashed_eq_iff : slashed c = c ↔ c ≠ '\\' := by
  simp only [slashed, isSlash, Bool.or_eq_true, decide_eq_true_iff]
  grind

theorem map_slashed_eq_iff : cs.map slashed = cs ↔ '\\' ∉ cs := by
  induction cs with
  | nil => simp
  | cons c cs ih =>
    rw [List.map_cons, List.cons.injEq, slashed_eq_iff, ih, List.mem_cons, not_or, ne_comm]

theorem length_bytesOfChars_slashed (cs : List Char) :
    (bytesOfChars (cs.map slashed)).length = (bytesOfChars cs).length := by
  have hsize (c : Char) :
      (String.utf8EncodeChar (slashed c)).length = (String.utf8EncodeChar c).length := by
    rw [slashed, isSlash]
    by_cases h : c = '/'
    · subst h; rfl
    · by_cases h' : c = '\\'
      · subst h'; rfl
      · simp [h, h']
  induction cs with
  | nil => rfl
  | cons c cs ih =>
    rw [List.map_cons, bytesOfChars_cons, bytesOfChars_cons, List.length_append,
      List.length_append, hsize, ih]

/-! ## Points -/

/-- Whether a segment is one point or two, encoded or not. -/
def IsPoints (s : List Char) : Prop := points? s = some 1 ∨ points? s = some 2

theorem points?_of_unescaped (hs : Unescaped s) {n : Nat} (h : points? s = some n) :
    s = List.replicate n '.' := by
  have hdigits : Hex.isDigit '2' = true ∧ Hex.isDigit 'e' = true ∧ Hex.isDigit 'E' = true := by
    decide
  fun_induction points? s generalizing n with
  | case1 => cases h; rfl
  | case2 cs ih =>
    obtain ⟨m, hm, rfl⟩ := Option.map_eq_some_iff.1 h
    rw [List.replicate_succ, ← ih (unescaped_cons_iff.1 hs).2 hm]
  | case3 cs ih => exact absurd ⟨[], cs, rfl⟩ (hs '2' 'e' hdigits.1 hdigits.2.1)
  | case4 cs ih => exact absurd ⟨[], cs, rfl⟩ (hs '2' 'E' hdigits.1 hdigits.2.2)
  | case5 => cases h

theorem isPoints_iff (hs : Unescaped s) : IsPoints s ↔ s = ['.'] ∨ s = ['.', '.'] := by
  constructor
  · rintro (h | h)
    · exact .inl (points?_of_unescaped hs h)
    · exact .inr (points?_of_unescaped hs h)
  · rintro (rfl | rfl)
    · exact .inl rfl
    · exact .inr rfl

/-- How many bytes segments decode to, those of the slashes included. -/
def weight (segments : List (List Char)) : Nat := (decode (joined segments)).length

theorem weight_cons : weight (s :: segments) = (decode s).length + 1 + weight segments := by
  have hone : (String.utf8EncodeChar '/').length = 1 := rfl
  rw [weight, weight, decode_joined_cons, decode_cons_of_ne (by decide), List.length_append,
    List.length_append, hone, Nat.add_comm 1]

theorem weight_append (before segments : List (List Char)) :
    weight (before ++ segments) = weight before + weight segments := by
  induction before with
  | nil => exact (Nat.zero_add _).symm
  | cons s before ih =>
    rw [List.cons_append, weight_cons, weight_cons, ih, Nat.add_assoc (_ + 1)]

theorem weight_reverse (segments : List (List Char)) :
    weight segments.reverse = weight segments := by
  induction segments with
  | nil => rfl
  | cons s segments ih =>
    rw [List.reverse_cons, weight_append, ih, weight_cons, weight_cons]
    exact Nat.add_comm (weight segments) _

theorem parent_false (before : List (List Char)) : parent false before = before.tail := by
  unfold parent
  split <;> rfl

theorem child_false (s : List Char) (before : List (List Char)) :
    child false s before = s :: before := rfl

theorem weight_tail_le (segments : List (List Char)) : weight segments.tail ≤ weight segments := by
  cases segments with
  | nil => exact Nat.le_refl _
  | cons s segments => rw [weight_cons]; exact Nat.le_add_left _ _

/-- **Segments without points stay, and points leave fewer bytes.** -/
theorem resolve_cases (before segments : List (List Char)) :
    (∀ s ∈ segments, ¬ IsPoints s) ∧ resolve false before segments = before.reverse ++ segments ∨
      (∃ s ∈ segments, IsPoints s) ∧
        weight (resolve false before segments) < weight before + weight segments := by
  induction segments generalizing before with
  | nil => exact .inl ⟨List.forall_mem_nil _, by rw [resolve, List.append_nil]⟩
  | cons s segments ih =>
    by_cases hs : IsPoints s
    · refine .inr ⟨⟨s, List.mem_cons_self, hs⟩, ?_⟩
      obtain ⟨next, hnext, hresolve⟩ : ∃ next, weight next ≤ weight before ∧
          resolve false before (s :: segments) =
            if segments.isEmpty then ([] :: next).reverse else resolve false next segments := by
        rcases hs with h | h
        · exact ⟨before, Nat.le_refl _, by simp [resolve, h]⟩
        · exact ⟨before.tail, weight_tail_le _, by simp [resolve, h, parent_false]⟩
      have hpos : 0 < (decode s).length := by
        refine List.length_pos_iff.2 (decode_ne_nil ?_)
        rintro rfl
        rcases hs with h | h <;> cases h
      rw [hresolve, weight_cons]
      split
      · rw [weight_reverse, weight_cons]
        show 0 + 1 + weight next < _
        omega
      · have hle : weight (resolve false next segments) ≤ weight next + weight segments := by
          rcases ih next with ⟨-, h⟩ | ⟨-, h⟩
          · exact Nat.le_of_eq (by rw [h, weight_append, weight_reverse])
          · exact Nat.le_of_lt h
        omega
    · have hresolve :
          resolve false before (s :: segments) = resolve false (s :: before) segments := by
        have h := not_or.1 hs
        rw [resolve, if_neg fun hc => hs hc.2]
        split <;> simp_all [child_false]
      rw [hresolve]
      rcases ih (s :: before) with ⟨hall, h⟩ | ⟨⟨t, ht, hpoints⟩, h⟩
      · refine .inl ⟨List.forall_mem_cons.2 ⟨hs, hall⟩, ?_⟩
        rw [h, List.reverse_cons, List.append_assoc]
        rfl
      · refine .inr ⟨⟨t, List.mem_cons_of_mem _ ht, hpoints⟩, ?_⟩
        rw [weight_cons] at h ⊢
        omega

/-! ## What a path decodes to -/

/-- A text that a path decodes to as it stands. -/
structure Plain (cs : List Char) : Prop where
  noBackslash : '\\' ∉ cs
  unescaped : Unescaped cs
  noPoints : ∀ s ∈ splitAtMarks (· = '/') cs, s ≠ ['.'] ∧ s ≠ ['.', '.']

theorem Unescaped.of_infix (h : Unescaped cs) (hs : s <:+: cs) : Unescaped s :=
  fun hi lo hhi hlo hc => h hi lo hhi hlo (hc.trans hs)

theorem infix_joined (h : s ∈ segments) : s <:+: joined segments := by
  obtain ⟨before, after, rfl⟩ := List.append_of_mem h
  exact ⟨joined before ++ ['/'], joined after, by simp [joined]⟩

theorem splitAtMarks_isSlash (h : '\\' ∉ cs) :
    splitAtMarks isSlash cs = splitAtMarks (· = '/') cs := by
  induction cs with
  | nil => rfl
  | cons c cs ih =>
    obtain ⟨hc, hcs⟩ := not_or.1 (mt List.mem_cons.2 h)
    have hslash : isSlash c = decide (c = '/') := by simp [isSlash, Ne.symm hc]
    rw [splitAtMarks, splitAtMarks, hslash, ih hcs]

/-- A text without backslashes is plain if nothing in it is escaped and no segment is points. -/
theorem plain_iff (h : '\\' ∉ cs) :
    Plain cs ↔ Unescaped ('/' :: cs) ∧ ∀ s ∈ splitAtMarks isSlash cs, ¬ IsPoints s := by
  have hmap : joined (splitAtMarks isSlash cs) = '/' :: cs := by
    rw [joined_splitAtMarks, map_slashed_eq_iff.2 h]
  have hcons : Unescaped ('/' :: cs) ↔ Unescaped cs := by
    rw [unescaped_cons_iff, and_iff_right fun hc => by cases hc.1]
  have hpoints (hu : Unescaped ('/' :: cs)) : ∀ s ∈ splitAtMarks isSlash cs,
      (¬ IsPoints s ↔ s ≠ ['.'] ∧ s ≠ ['.', '.']) := fun s hs => by
    rw [isPoints_iff (hu.of_infix (hmap ▸ infix_joined hs)), not_or]
  constructor
  · rintro ⟨-, hu, hno⟩
    have hu' := hcons.2 hu
    exact ⟨hu', fun s hs => (hpoints hu' s hs).2 (hno s (splitAtMarks_isSlash h ▸ hs))⟩
  · rintro ⟨hu, hno⟩
    exact ⟨h, hcons.1 hu, fun s hs =>
      have hs' := splitAtMarks_isSlash h ▸ hs
      (hpoints hu s hs').1 (hno s hs')⟩

/-- A path decodes to its text with slashes for backslashes, or to fewer bytes. -/
theorem decode_pathOf_cases (c : Char) (cs : List Char) :
    (Unescaped ('/' :: cs.map slashed) ∧ ∀ s ∈ splitAtMarks isSlash cs, ¬ IsPoints s) ∧
        decode (joined (pathOf (c :: cs))) = bytesOfChars ('/' :: cs.map slashed) ∨
      ¬ (Unescaped ('/' :: cs.map slashed) ∧ ∀ s ∈ splitAtMarks isSlash cs, ¬ IsPoints s) ∧
        (decode (joined (pathOf (c :: cs)))).length < (bytesOfChars ('/' :: cs)).length := by
  have hpath : decode (joined (pathOf (c :: cs))) =
      decode (joined (resolve false [] (splitAtMarks isSlash cs))) := decode_joined_encode _
  have hlength : (bytesOfChars ('/' :: cs.map slashed)).length =
      (bytesOfChars ('/' :: cs)).length := by
    rw [bytesOfChars_cons, bytesOfChars_cons, List.length_append, List.length_append,
      length_bytesOfChars_slashed]
  have hle := length_decode_le ('/' :: cs.map slashed)
  rw [hpath, ← hlength]
  rcases resolve_cases [] (splitAtMarks isSlash cs) with ⟨hno, h⟩ | ⟨⟨s, hs, hpoints⟩, h⟩
  · rw [h, List.reverse_nil, List.nil_append, joined_splitAtMarks]
    rcases decode_cases ('/' :: cs.map slashed) with ⟨hu, h⟩ | ⟨hu, h⟩
    · exact .inl ⟨⟨hu, hno⟩, h⟩
    · exact .inr ⟨fun hc => hu hc.1, h⟩
  · refine .inr ⟨fun hc => hc.2 s hs hpoints, Nat.lt_of_lt_of_le h ?_⟩
    rw [weight, weight, joined_splitAtMarks]
    exact Nat.le_trans (Nat.le_of_eq (Nat.zero_add _)) hle

/-- **A path decodes to its own text exactly when the text is plain.** -/
theorem decode_pathOf_iff :
    decode (joined (pathOf (c :: cs))) = bytesOfChars ('/' :: cs) ↔ Plain cs := by
  rcases decode_pathOf_cases c cs with ⟨hplain, h⟩ | ⟨hplain, h⟩
  · rw [h]
    constructor
    · intro heq
      have hmap : cs.map slashed = cs := (List.cons.inj (bytesOfChars_injective heq)).2
      rw [hmap] at hplain
      exact (plain_iff (map_slashed_eq_iff.1 hmap)).2 hplain
    · intro hp
      rw [map_slashed_eq_iff.2 hp.noBackslash]
  · refine iff_of_false (fun heq => ?_) fun hp => hplain ?_
    · rw [heq] at h
      exact Nat.lt_irrefl _ h
    · rw [map_slashed_eq_iff.2 hp.noBackslash]
      exact (plain_iff hp.noBackslash).1 hp

theorem length_decode_pathOf_le (c : Char) (cs : List Char) :
    (decode (joined (pathOf (c :: cs)))).length ≤ (bytesOfChars ('/' :: cs)).length := by
  rcases decode_pathOf_cases c cs with ⟨-, h⟩ | ⟨-, h⟩
  · exact Nat.le_of_eq (by
      rw [h, bytesOfChars_cons, bytesOfChars_cons, List.length_append, List.length_append,
        length_bytesOfChars_slashed])
  · exact Nat.le_of_lt h

end Packaging.Url
