import Packaging.Text.ByteOrder
import Packaging.Text.Ends

/-!
# Bytes of characters

The bytes of a text are those of its characters, one character after the other
(`bytesOf_eq`), so what a program does with bytes can be followed character by character.

* `bytesOfChars_injective`: different texts have different bytes.
* `exists_append_of_bytesOf`: a text whose bytes begin with those of another begins with that text.
* `utf8EncodeChar_of_lt`: a character below 0x80 is one byte, its code.
* `le_of_mem_utf8EncodeChar`: any other character has no byte below 0x80.
* `takeBytes?_eq_some_iff`: which texts have a front of so many bytes.
-/

namespace Packaging.Text

/-- The bytes of characters, one after the other. -/
def bytesOfChars (cs : List Char) : List UInt8 := cs.flatMap String.utf8EncodeChar

@[simp] theorem bytesOfChars_append (cs ds : List Char) :
    bytesOfChars (cs ++ ds) = bytesOfChars cs ++ bytesOfChars ds := List.flatMap_append

theorem bytesOfChars_cons (c : Char) (cs : List Char) :
    bytesOfChars (c :: cs) = String.utf8EncodeChar c ++ bytesOfChars cs := List.flatMap_cons

theorem bytesOf_ofList (cs : List Char) : bytesOf (String.ofList cs) = bytesOfChars cs := by
  simp only [bytesOf, String.toUTF8_eq_toByteArray, String.toByteArray_ofList, List.utf8Encode,
    List.data_toByteArray, bytesOfChars]

theorem bytesOf_eq (s : String) : bytesOf s = bytesOfChars s.toList := by
  rw [← bytesOf_ofList, String.ofList_toList]

theorem bytesOf_append (s t : String) : bytesOf (s ++ t) = bytesOf s ++ bytesOf t := by
  rw [bytesOf_eq, String.toList_append, bytesOfChars_append, ← bytesOf_eq, ← bytesOf_eq]

/-- No text begins inside a character of another. -/
theorem exists_append_of_bytesOf {s t : String} {bytes : List UInt8}
    (h : bytesOf t = bytesOf s ++ bytes) : ∃ rest, t = s ++ rest ∧ bytesOf rest = bytes := by
  have hencode : s.toList.utf8Encode ++ (⟨bytes.toArray⟩ : ByteArray) = t.toList.utf8Encode := by
    rw [bytesOf_eq, bytesOf_eq] at h
    refine ByteArray.ext (Array.toList_inj.1 ?_)
    simpa [List.utf8Encode, bytesOfChars] using h.symm
  obtain ⟨rest, hrest⟩ := List.isPrefix_of_utf8Encode_append_eq_utf8Encode _ hencode
  obtain rfl : t = s ++ String.ofList rest := by
    rw [← String.toList_inj, String.toList_append, String.toList_ofList, hrest]
  rw [bytesOf_append] at h
  exact ⟨_, rfl, List.append_cancel_left h⟩

theorem bytesOfChars_injective {cs ds : List Char} (h : bytesOfChars cs = bytesOfChars ds) :
    cs = ds := by
  have hread := ofBytes?_bytesOf (String.ofList cs)
  rw [bytesOf_ofList, h, ← bytesOf_ofList, ofBytes?_bytesOf, Option.some.injEq] at hread
  exact (String.ofList_inj.1 hread).symm

/-- A text that bytes spell has these bytes. -/
theorem bytesOf_of_ofBytes? {bytes : List UInt8} {s : String} (h : ofBytes? bytes = some s) :
    bytesOf s = bytes := by
  simp only [ofBytes?, String.fromUTF8?] at h
  split at h
  · cases h
    rfl
  · cases h

theorem utf8EncodeChar_of_lt {c : Char} (h : c.toNat < 0x80) :
    String.utf8EncodeChar c = [UInt8.ofNat c.toNat] := by
  have : c.val.toNat ≤ 0x7f := Nat.le_of_lt_succ h
  simp only [String.utf8EncodeChar, if_pos this]
  rfl

theorem le_of_mem_utf8EncodeChar {c : Char} (h : 0x80 ≤ c.toNat) :
    ∀ b ∈ String.utf8EncodeChar c, 0x80 ≤ b := by
  have : ¬ c.val.toNat ≤ 0x7f := Nat.not_le_of_lt h
  intro b hb
  simp only [String.utf8EncodeChar, if_neg this] at hb
  rw [UInt8.le_iff_toNat_le]
  split at hb
  · simp only [List.mem_cons, List.not_mem_nil, or_false] at hb
    rcases hb with rfl | rfl <;> simp only [UInt8.toNat_ofNat', UInt8.reduceToNat] <;> omega
  · split at hb <;> simp only [List.mem_cons, List.not_mem_nil, or_false] at hb
    · rcases hb with rfl | rfl | rfl <;> simp only [UInt8.toNat_ofNat', UInt8.reduceToNat] <;> omega
    · rcases hb with rfl | rfl | rfl | rfl <;> simp only [UInt8.toNat_ofNat', UInt8.reduceToNat] <;>
        omega

/-! ## Fronts of a text -/

section Fronts

variable {cs ds front : List Char}

theorem length_bytesOfChars_cons (c : Char) (cs : List Char) :
    (bytesOfChars (c :: cs)).length = c.utf8Size + (bytesOfChars cs).length := by
  rw [bytesOfChars_cons, List.length_append, String.length_utf8EncodeChar]

theorem length_le_length_bytesOfChars (cs : List Char) : cs.length ≤ (bytesOfChars cs).length := by
  induction cs with
  | nil => exact Nat.le_refl _
  | cons c cs ih =>
    rw [length_bytesOfChars_cons, List.length_cons]
    have := c.utf8Size_pos
    omega

/-- A front that has all the bytes is the whole text. -/
theorem eq_of_prefix_of_bytes (h : front <+: cs)
    (hsize : (bytesOfChars cs).length ≤ (bytesOfChars front).length) : front = cs := by
  obtain ⟨rest, rfl⟩ := h
  rw [bytesOfChars_append, List.length_append] at hsize
  have hrest := length_le_length_bytesOfChars rest
  rw [List.eq_nil_of_length_eq_zero (l := rest) (by omega), List.append_nil]

/-- **The front of so many bytes** is found just where the text has one. -/
theorem takeBytes?_eq_some_iff {n : Nat} :
    takeBytes? n cs = some front ↔ front <+: cs ∧ (bytesOfChars front).length = n := by
  fun_induction takeBytes? n cs generalizing front with
  | case1 cs =>
    rw [Option.some.injEq]
    constructor
    · rintro rfl
      exact ⟨List.nil_prefix, rfl⟩
    · rintro ⟨-, hsize⟩
      have hlength := length_le_length_bytesOfChars front
      exact (List.eq_nil_of_length_eq_zero (by omega)).symm
  | case2 n =>
    refine iff_of_false nofun ?_
    rintro ⟨hfront, hsize⟩
    rw [List.prefix_nil.1 hfront] at hsize
    cases hsize
  | case3 n c cs hn hle ih =>
    rw [Option.map_eq_some_iff]
    constructor
    · rintro ⟨rest, hrest, rfl⟩
      obtain ⟨hfront, hsize⟩ := ih.1 hrest
      refine ⟨List.cons_prefix_cons.2 ⟨rfl, hfront⟩, ?_⟩
      rw [length_bytesOfChars_cons, hsize]
      omega
    · rintro ⟨hfront, hsize⟩
      cases front with
      | nil => exact absurd hsize.symm hn
      | cons d rest =>
        obtain ⟨rfl, hrest⟩ := List.cons_prefix_cons.1 hfront
        rw [length_bytesOfChars_cons] at hsize
        exact ⟨rest, ih.2 ⟨hrest, by omega⟩, rfl⟩
  | case4 n c cs hn hlt =>
    refine iff_of_false nofun ?_
    rintro ⟨hfront, hsize⟩
    cases front with
    | nil => exact absurd hsize.symm hn
    | cons d rest =>
      obtain ⟨rfl, -⟩ := List.cons_prefix_cons.1 hfront
      rw [length_bytesOfChars_cons] at hsize
      omega

end Fronts

end Packaging.Text
