import Packaging.Proofs.Text.Hex
import Packaging.Proofs.Text.Utf8
import Packaging.Url

/-!
# Decoding percent signs

A percent sign with two digits after it is decoded to one byte, all else to its own bytes.

* `decode_cases`: a text is its own bytes when nothing in it is escaped, and shorter when something
  is.
* `decode_append_slash`: no escape goes beyond a slash.
* `decode_encode`: what is encoded in a path decodes to what it was.
-/

namespace Packaging.Url

open Text

variable {c hi lo : Char} {cs ds : List Char}

/-- Whether a percent sign before a text would be decoded with what the text begins with. -/
def beginsWithDigits : List Char → Bool
  | hi :: lo :: _ => Hex.isDigit hi && Hex.isDigit lo
  | _ => false

/-- No percent sign of a text is decoded. -/
def Unescaped (cs : List Char) : Prop :=
  ∀ hi lo, Hex.isDigit hi = true → Hex.isDigit lo = true → ¬ ['%', hi, lo] <:+: cs

theorem beginsWithDigits_iff :
    beginsWithDigits cs = true ↔ ∃ hi lo, Hex.isDigit hi = true ∧ Hex.isDigit lo = true ∧
      [hi, lo] <+: cs := by
  unfold beginsWithDigits
  split
  · rename_i a b ds
    simp only [Bool.and_eq_true, List.cons_prefix_cons, List.nil_prefix, and_true]
    constructor
    · rintro ⟨ha, hb⟩
      exact ⟨a, b, ha, hb, rfl, rfl⟩
    · rintro ⟨_, _, ha, hb, rfl, rfl⟩
      exact ⟨ha, hb⟩
  · rename_i hne
    refine iff_of_false Bool.false_ne_true ?_
    rintro ⟨a, b, -, -, ds, rfl⟩
    exact hne a b ds rfl

theorem unescaped_cons_iff :
    Unescaped (c :: cs) ↔ ¬ (c = '%' ∧ beginsWithDigits cs = true) ∧ Unescaped cs := by
  simp only [Unescaped, List.infix_cons_iff, List.cons_prefix_cons, beginsWithDigits_iff]
  grind

theorem unescaped_nil : Unescaped [] := fun _ _ _ _ h => nomatch List.eq_nil_of_infix_nil h

theorem unescaped_of_notMem (h : '%' ∉ cs) : Unescaped cs :=
  fun _ _ _ _ hc => h (hc.subset List.mem_cons_self)

theorem decode?_pair_eq_none_iff :
    Hex.decode? [hi, lo] = none ↔ (Hex.isDigit hi && Hex.isDigit lo) = false := by
  simp only [Hex.decode?, Hex.isDigit]
  cases Hex.value? hi <;> cases Hex.value? lo <;> simp [bind, Option.bind, pure]

theorem decode_cons_of_ne (h : c ≠ '%') :
    decode (c :: cs) = String.utf8EncodeChar c ++ decode cs := by
  rw [decode]
  rintro _ _ _ rfl
  exact absurd rfl h

/-- A percent sign without digits after it stands for itself. -/
theorem decode_percent (h : beginsWithDigits cs = false) :
    decode ('%' :: cs) = String.utf8EncodeChar '%' ++ decode cs := by
  rcases cs with - | ⟨hi, - | ⟨lo, cs⟩⟩
  · rfl
  · rfl
  · rw [decode, decode?_pair_eq_none_iff.2 h]

/-- A percent sign with digits after it stands for one byte. -/
theorem decode_escape (hhi : Hex.isDigit hi = true) (hlo : Hex.isDigit lo = true) :
    ∃ b, ∀ cs, decode ('%' :: hi :: lo :: cs) = b :: decode cs := by
  obtain ⟨m, hm⟩ := Option.isSome_iff_exists.1 hhi
  obtain ⟨n, hn⟩ := Option.isSome_iff_exists.1 hlo
  refine ⟨UInt8.ofNat (16 * m + n), fun cs => ?_⟩
  rw [decode]
  simp [Hex.decode?, hm, hn]

/-- Induction along what is decoded at once. -/
@[elab_as_elim]
theorem escapes_induction {motive : List Char → Prop} (nil : motive [])
    (plain : ∀ c cs, c ≠ '%' → motive cs → motive (c :: cs))
    (percent : ∀ cs, beginsWithDigits cs = false → motive cs → motive ('%' :: cs))
    (escape : ∀ hi lo cs, Hex.isDigit hi = true → Hex.isDigit lo = true → motive cs →
      motive ('%' :: hi :: lo :: cs))
    (cs : List Char) : motive cs := by
  induction cs using decode.induct with
  | case1 => exact nil
  | case2 hi lo cs bytes h ih =>
    cases hdigits : Hex.isDigit hi && Hex.isDigit lo with
    | false => rw [decode?_pair_eq_none_iff.2 hdigits] at h; cases h
    | true =>
      obtain ⟨hhi, hlo⟩ := Bool.and_eq_true_iff.1 hdigits
      exact escape hi lo cs hhi hlo ih
  | case3 hi lo cs h ih => exact percent _ (decode?_pair_eq_none_iff.1 h) ih
  | case4 c cs h ih =>
    by_cases hc : c = '%'
    · subst hc
      refine percent cs ?_ ih
      rcases cs with - | ⟨hi, - | ⟨lo, cs⟩⟩
      · rfl
      · rfl
      · exact absurd rfl (h hi lo cs rfl)
    · exact plain c cs hc ih

theorem length_utf8EncodeChar_pos (c : Char) : 0 < (String.utf8EncodeChar c).length := by
  rw [String.length_utf8EncodeChar]
  exact c.utf8Size_pos

/-- A digit is one byte. -/
theorem utf8EncodeChar_digit (h : Hex.isDigit c = true) :
    (String.utf8EncodeChar c).length = 1 := by
  rw [utf8EncodeChar_of_lt (Hex.toNat_lt_of_isDigit h)]
  rfl

/-- **A text decodes to its own bytes if nothing in it is escaped, and otherwise to fewer.** -/
theorem decode_cases (cs : List Char) :
    Unescaped cs ∧ decode cs = bytesOfChars cs ∨
      ¬ Unescaped cs ∧ (decode cs).length < (bytesOfChars cs).length := by
  induction cs using escapes_induction with
  | nil => exact .inl ⟨unescaped_nil, rfl⟩
  | plain c cs hc ih =>
    have hiff : Unescaped (c :: cs) ↔ Unescaped cs := by
      rw [unescaped_cons_iff, and_iff_right fun h => hc h.1]
    rw [hiff, decode_cons_of_ne hc, bytesOfChars_cons, List.append_right_inj, List.length_append,
      List.length_append, Nat.add_lt_add_iff_left]
    exact ih
  | percent cs h ih =>
    have hiff : Unescaped ('%' :: cs) ↔ Unescaped cs := by
      rw [unescaped_cons_iff, and_iff_right fun hc => by rw [h] at hc; cases hc.2]
    rw [hiff, decode_percent h, bytesOfChars_cons, List.append_right_inj, List.length_append,
      List.length_append, Nat.add_lt_add_iff_left]
    exact ih
  | escape hi lo cs hhi hlo ih =>
    refine .inr ⟨fun h => h hi lo hhi hlo ⟨[], cs, rfl⟩, ?_⟩
    obtain ⟨b, hb⟩ := decode_escape hhi hlo
    have hle : (decode cs).length ≤ (bytesOfChars cs).length := by
      rcases ih with ⟨-, h⟩ | ⟨-, h⟩
      · exact Nat.le_of_eq (congrArg List.length h)
      · exact Nat.le_of_lt h
    have hpercent := length_utf8EncodeChar_pos '%'
    simp only [hb, bytesOfChars_cons, List.length_cons, List.length_append,
      utf8EncodeChar_digit hhi, utf8EncodeChar_digit hlo]
    omega

theorem length_decode_le (cs : List Char) : (decode cs).length ≤ (bytesOfChars cs).length := by
  rcases decode_cases cs with ⟨-, h⟩ | ⟨-, h⟩
  · exact Nat.le_of_eq (congrArg List.length h)
  · exact Nat.le_of_lt h

theorem decode_ne_nil (h : cs ≠ []) : decode cs ≠ [] := by
  rw [← List.length_pos_iff]
  induction cs using escapes_induction with
  | nil => exact absurd rfl h
  | plain c cs hc _ =>
    rw [decode_cons_of_ne hc, List.length_append]
    exact Nat.add_pos_left (length_utf8EncodeChar_pos c) _
  | percent cs hcs _ =>
    rw [decode_percent hcs, List.length_append]
    exact Nat.add_pos_left (length_utf8EncodeChar_pos _) _
  | escape hi lo cs hhi hlo _ =>
    obtain ⟨b, hb⟩ := decode_escape hhi hlo
    rw [hb]
    exact Nat.zero_lt_succ _

/-! ## Slashes -/

theorem beginsWithDigits_append_slash (cs ds : List Char) :
    beginsWithDigits (cs ++ '/' :: ds) = beginsWithDigits cs := by
  have hslash : Hex.isDigit '/' = false := by decide
  rcases cs with - | ⟨hi, - | ⟨lo, cs⟩⟩
  · cases ds <;> simp [beginsWithDigits, hslash]
  · simp [beginsWithDigits, hslash]
  · rfl

/-- **What is escaped never goes beyond a slash.** -/
theorem decode_append_slash (cs ds : List Char) :
    decode (cs ++ '/' :: ds) = decode cs ++ decode ('/' :: ds) := by
  induction cs using escapes_induction with
  | nil => rfl
  | plain c cs hc ih =>
    rw [List.cons_append, decode_cons_of_ne hc, decode_cons_of_ne hc, ih, List.append_assoc]
  | percent cs h ih =>
    have h' : beginsWithDigits (cs ++ '/' :: ds) = false := by
      rw [beginsWithDigits_append_slash, h]
    rw [List.cons_append, decode_percent h, decode_percent h', ih, List.append_assoc]
  | escape hi lo cs hhi hlo ih =>
    obtain ⟨b, hb⟩ := decode_escape hhi hlo
    rw [List.cons_append, List.cons_append, List.cons_append, hb, hb, ih, List.cons_append]

theorem unescaped_append_slash_iff :
    Unescaped (cs ++ '/' :: ds) ↔ Unescaped cs ∧ Unescaped ds := by
  induction cs with
  | nil =>
    rw [List.nil_append, unescaped_cons_iff, and_iff_right (fun h => by cases h.1),
      and_iff_right unescaped_nil]
  | cons c cs ih =>
    rw [List.cons_append, unescaped_cons_iff, unescaped_cons_iff, beginsWithDigits_append_slash, ih,
      and_assoc]

/-! ## Encoding -/

/-- Digits are not encoded. -/
theorem inPath_digit (h : Hex.isDigit c = true) : inPath c = false :=
  Hex.forall_isDigit (P := fun c => inPath c = false) (by decide +kernel) h

theorem encode_cons_of_not (h : inPath c = false) :
    encode inPath (c :: cs) = c :: encode inPath cs := by
  simp [encode, h]

theorem encode_cons_of (h : inPath c = true) :
    encode inPath (c :: cs) =
      (String.utf8EncodeChar c).flatMap encodeByte ++ encode inPath cs := by
  simp [encode, h]

theorem decode_flatMap_encodeByte (bytes : List UInt8) (cs : List Char) :
    decode (bytes.flatMap encodeByte ++ cs) = bytes ++ decode cs := by
  induction bytes with
  | nil => rfl
  | cons b bytes ih =>
    rw [List.flatMap_cons, List.append_assoc, decode_encodeByte_append, ih, List.cons_append]

theorem encode_cons_cases (c : Char) (cs : List Char) :
    encode inPath (c :: cs) = c :: encode inPath cs ∨
      Hex.isDigit c = false ∧ ∃ ds, encode inPath (c :: cs) = '%' :: ds := by
  cases h : inPath c with
  | false => exact .inl (encode_cons_of_not h)
  | true =>
    have hc : Hex.isDigit c = false := Bool.eq_false_iff.2 fun hd => by
      rw [inPath_digit hd] at h
      cases h
    refine .inr ⟨hc, ?_⟩
    obtain ⟨b, bytes, hb⟩ := List.exists_cons_of_length_pos (length_utf8EncodeChar_pos c)
    rw [encode_cons_of h, hb]
    exact ⟨_, rfl⟩

theorem beginsWithDigits_cons_of_not (h : Hex.isDigit c = false) (cs : List Char) :
    beginsWithDigits (c :: cs) = false := by
  cases cs <;> simp [beginsWithDigits, h]

/-- A percent sign is no digit, so what is encoded begins with digits where it did before. -/
theorem beginsWithDigits_encode (cs : List Char) :
    beginsWithDigits (encode inPath cs) = beginsWithDigits cs := by
  have hpercent : Hex.isDigit '%' = false := by decide
  rcases cs with - | ⟨hi, cs⟩
  · rfl
  rcases encode_cons_cases hi cs with h | ⟨hhi, ds, h⟩
  · rcases cs with - | ⟨lo, cs⟩
    · rw [h]; rfl
    rcases encode_cons_cases lo cs with h' | ⟨hlo, ds, h'⟩
    · rw [h, h']; rfl
    · simp [h, h', beginsWithDigits, hpercent, hlo]
  · rw [h, beginsWithDigits_cons_of_not hpercent, beginsWithDigits_cons_of_not hhi]

/-- **What is encoded for a path decodes to what it would have decoded to before.** -/
theorem decode_encode (cs : List Char) : decode (encode inPath cs) = decode cs := by
  induction cs using escapes_induction with
  | nil => rfl
  | plain c cs hc ih =>
    cases h : inPath c with
    | false => rw [encode_cons_of_not h, decode_cons_of_ne hc, decode_cons_of_ne hc, ih]
    | true => rw [encode_cons_of h, decode_flatMap_encodeByte, decode_cons_of_ne hc, ih]
  | percent cs h ih =>
    have h' : beginsWithDigits (encode inPath cs) = false := by rw [beginsWithDigits_encode, h]
    rw [encode_cons_of_not (by decide), decode_percent h, decode_percent h', ih]
  | escape hi lo cs hhi hlo ih =>
    obtain ⟨b, hb⟩ := decode_escape hhi hlo
    rw [encode_cons_of_not (by decide), encode_cons_of_not (inPath_digit hhi),
      encode_cons_of_not (inPath_digit hlo), hb, hb, ih]

end Packaging.Url
