import Packaging.Text.Blank
import Packaging.Text.Hex

/-!
# Hexadecimal digits among characters

* `toNat_lt_of_isDigit`: digits are ASCII, so what holds of all of them is settled by deciding it
  for each ASCII character.
* `isBlank_of_isDigit`: no digit is blank.
* `utf8ByteSize_of_isDigit`: a text of digits has as many bytes as digits.
* `map_toLower_encode`, `mem_of_mem_encode`: bytes are written in lower case.
* `encode_of_decode?`: the bytes that digits of either case spell are written as these digits in
  lower case.
-/

namespace Packaging.Text.Hex

variable {c : Char}

theorem toNat_lt_of_isDigit (h : isDigit c = true) : c.toNat < 0x80 := by
  refine Nat.lt_of_not_le fun hc => ?_
  have hnot (a b : Char) (hb : b.toNat < 0x80) : ¬ (a ≤ c ∧ c ≤ b) := fun hab =>
    Nat.not_le_of_lt (Nat.lt_of_le_of_lt hab.2 hb) hc
  rw [isDigit, value?, if_neg (hnot _ _ (by decide)), if_neg (hnot _ _ (by decide)),
    if_neg (hnot _ _ (by decide))] at h
  cases h

/-- What every ASCII digit has, every digit has. -/
theorem forall_isDigit {P : Char → Prop}
    (hall : ∀ n < 0x80, isDigit (Char.ofNat n) = true → P (Char.ofNat n)) (h : isDigit c = true) :
    P c := by
  have hc := hall c.toNat (toNat_lt_of_isDigit h)
  rw [Char.ofNat_toNat] at hc
  exact hc h

/-- The digits are those of either case. -/
theorem isDigit_iff_mem : isDigit c = true ↔ c ∈ "0123456789abcdefABCDEF".toList := by
  constructor
  · exact forall_isDigit (P := fun c => c ∈ "0123456789abcdefABCDEF".toList) (by decide +kernel)
  · have hall : "0123456789abcdefABCDEF".toList.all isDigit = true := by decide
    exact List.all_eq_true.1 hall c

theorem isBlank_of_isDigit (h : isDigit c = true) : isBlank c = false :=
  forall_isDigit (P := fun c => isBlank c = false) (by decide +kernel) h

theorem utf8Size_of_isDigit (h : isDigit c = true) : c.utf8Size = 1 :=
  forall_isDigit (P := fun c => c.utf8Size = 1) (by decide +kernel) h

theorem utf8ByteSize_of_isDigit {cs : List Char} (h : ∀ c ∈ cs, isDigit c = true) :
    (String.ofList cs).utf8ByteSize = cs.length := by
  induction cs with
  | nil => rfl
  | cons c cs ih =>
    obtain ⟨hc, hcs⟩ := List.forall_mem_cons.1 h
    have hsize : (String.ofList [c]).utf8ByteSize = 1 := by simpa using utf8Size_of_isDigit hc
    rw [← List.singleton_append, String.ofList_append, String.utf8ByteSize_append, hsize, ih hcs,
      List.length_append, List.length_singleton]

/-- The digits that bytes are written in. -/
theorem mem_of_mem_encode {bytes : List UInt8} (h : c ∈ encode bytes) :
    c ∈ "0123456789abcdef".toList := by
  have hdigit : ∀ {n : Nat}, n < 16 → digit n ∈ "0123456789abcdef".toList := by decide
  obtain ⟨b, -, hb⟩ := List.mem_flatMap.1 h
  have hlt := b.toNat_lt
  simp only [encodeByte, List.mem_cons, List.not_mem_nil, or_false] at hb
  rcases hb with rfl | rfl
  · exact hdigit (by omega)
  · exact hdigit (by omega)

theorem toLower_digit : ∀ {n : Nat}, n < 16 → (digit n).toLower = digit n := by decide

theorem map_toLower_encode (bytes : List UInt8) :
    (encode bytes).map Char.toLower = encode bytes := by
  rw [encode, List.map_flatMap]
  congr 1
  funext b
  have hb := b.toNat_lt
  rw [encodeByte, List.map_cons, List.map_cons, toLower_digit (by omega), toLower_digit (by omega)]
  rfl

/-! ## Decoding -/

theorem digit_of_value? {n : Nat} (h : value? c = some n) : n < 16 ∧ digit n = c.toLower := by
  have hall := forall_isDigit
    (P := fun c => (value? c).getD 0 < 16 ∧ digit ((value? c).getD 0) = c.toLower)
    (by decide +kernel) (c := c) (by rw [isDigit, h]; rfl)
  rwa [h] at hall

theorem decode?_cons_eq_some_iff {hi lo : Char} {rest : List Char} {bytes : List UInt8} :
    decode? (hi :: lo :: rest) = some bytes ↔ ∃ m n later, value? hi = some m ∧
      value? lo = some n ∧ decode? rest = some later ∧
      UInt8.ofNat (16 * m + n) :: later = bytes := by
  simp [decode?, Option.bind_eq_some_iff]

/-- **Digits of either case are written again in lower case.** -/
theorem encode_of_decode? {cs : List Char} {bytes : List UInt8} (h : decode? cs = some bytes) :
    encode bytes = cs.map Char.toLower := by
  induction cs using decode?.induct generalizing bytes with
  | case1 => cases h; rfl
  | case2 => cases h
  | case3 hi lo rest ih =>
    obtain ⟨m, n, later, hm, hn, hlater, rfl⟩ := decode?_cons_eq_some_iff.1 h
    obtain ⟨hm, hhi⟩ := digit_of_value? hm
    obtain ⟨hn, hlo⟩ := digit_of_value? hn
    have hbyte : (UInt8.ofNat (16 * m + n)).toNat = 16 * m + n := by
      rw [UInt8.toNat_ofNat', Nat.mod_eq_of_lt (by omega)]
    have hhigh : (16 * m + n) / 16 = m := by omega
    have hlow : (16 * m + n) % 16 = n := by omega
    rw [encode, List.flatMap_cons, ← encode, ih hlater, encodeByte, hbyte, hhigh, hlow, hhi, hlo]
    rfl

/-- Two digits for each byte can be read. -/
theorem exists_decode? {n : Nat} {cs : List Char} (hlength : cs.length = 2 * n)
    (hdigits : ∀ c ∈ cs, isDigit c = true) :
    ∃ bytes, bytes.length = n ∧ decode? cs = some bytes := by
  induction n generalizing cs with
  | zero =>
    obtain rfl := List.length_eq_zero_iff.1 hlength
    exact ⟨[], rfl, rfl⟩
  | succ n ih =>
    match cs, hlength with
    | hi :: lo :: rest, hlength =>
      obtain ⟨hhi, hlo, hrest⟩ : isDigit hi = true ∧ isDigit lo = true ∧
          ∀ c ∈ rest, isDigit c = true := by simpa using hdigits
      obtain ⟨h, hh⟩ := Option.isSome_iff_exists.1 hhi
      obtain ⟨l, hl⟩ := Option.isSome_iff_exists.1 hlo
      obtain ⟨bytes, hbytes, hdecode⟩ := ih (by simpa [Nat.mul_succ] using hlength) hrest
      exact ⟨UInt8.ofNat (16 * h + l) :: bytes, by rw [List.length_cons, hbytes],
        decode?_cons_eq_some_iff.2 ⟨h, l, bytes, hh, hl, hdecode, rfl⟩⟩

/-- Different bytes are written differently. -/
theorem encode_inj {bytes bytes' : List UInt8} : encode bytes = encode bytes' ↔ bytes = bytes' := by
  refine ⟨fun h => ?_, congrArg encode⟩
  have hdecode := congrArg decode? h
  rw [decode?_encode, decode?_encode] at hdecode
  exact Option.some.inj hdecode

end Packaging.Text.Hex
