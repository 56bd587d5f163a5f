import Packaging.Json.Printer
import Packaging.Json.Reader
import Packaging.Proofs.Text.Utf8

/-!
# Written strings are read back

A string between quotes is read byte by byte. The bytes of one escaped character become the bytes
of the character (`stringFrom_escapeChar`); the whole string follows by induction
(`nextToken_writeString`).
-/

namespace Packaging.Json
open Text Document

variable {done bytes rest copied : List UInt8} {fault : Option Fault}

theorem stringFrom_finish (h : nextPiece bytes = .finish rest) :
    stringFrom done fault bytes = (closeString done fault, rest) := by
  rw [stringFrom]
  split <;> simp_all

theorem stringFrom_bytes (h : nextPiece bytes = .bytes copied rest) :
    stringFrom done fault bytes = stringFrom (copied.reverse ++ done) fault rest := by
  rw [stringFrom]
  split <;> simp_all

/-- A byte that stands for itself in a string. -/
def Plain (b : UInt8) : Prop := b ≠ 34 ∧ b ≠ 92 ∧ 32 ≤ b

theorem nextPiece_plain {b : UInt8} (h : Plain b) : nextPiece (b :: rest) = .bytes [b] rest := by
  obtain ⟨hq, hb, hc⟩ := h
  simp only [nextPiece, if_neg hq, if_neg hb, if_neg (UInt8.not_lt.2 hc)]

theorem stringFrom_plain {bs : List UInt8} (h : ∀ b ∈ bs, Plain b) :
    stringFrom done fault (bs ++ rest) = stringFrom (bs.reverse ++ done) fault rest := by
  induction bs generalizing done with
  | nil => rfl
  | cons b bs ih =>
    rw [List.cons_append, stringFrom_bytes (nextPiece_plain (h b List.mem_cons_self)),
      ih fun x hx => h x (List.mem_cons_of_mem _ hx)]
    simp

theorem hexQuad?_control : ∀ n < 32, hexQuad? 48 48 (UInt8.ofNat (Hex.digit (n / 16)).toNat)
    (UInt8.ofNat (Hex.digit (n % 16)).toNat) = some n := by decide

theorem plain_of_mem_utf8EncodeChar {c : Char} (hq : c ≠ '"') (hb : c ≠ '\\')
    (hc : 0x20 ≤ c.toNat) : ∀ b ∈ String.utf8EncodeChar c, Plain b := by
  intro b h
  by_cases hlt : c.toNat < 0x80
  · have other {n : Nat} (hn : n < 0x80) (h : UInt8.ofNat c.toNat = UInt8.ofNat n) :
        c = Char.ofNat n := by
      have := congrArg UInt8.toNat h
      rw [UInt8.toNat_ofNat', UInt8.toNat_ofNat', Nat.mod_eq_of_lt (by omega),
        Nat.mod_eq_of_lt (by omega)] at this
      rw [← this, Char.ofNat_toNat]
    rw [utf8EncodeChar_of_lt hlt, List.mem_singleton] at h
    subst h
    refine ⟨fun h => hq (other (by decide) h), fun h => hb (other (by decide) h), ?_⟩
    rw [UInt8.le_iff_toNat_le, UInt8.toNat_ofNat']
    exact Nat.le_trans hc (by omega)
  · have := le_of_mem_utf8EncodeChar (Nat.le_of_not_lt hlt) b h
    rw [UInt8.le_iff_toNat_le] at this
    refine ⟨?_, ?_, ?_⟩
    · rintro rfl; exact absurd this (by decide)
    · rintro rfl; exact absurd this (by decide)
    · rw [UInt8.le_iff_toNat_le]; exact Nat.le_trans (by decide) this

theorem nextPiece_control {c : Char} (hc : c.toNat < 0x20) :
    nextPiece (bytesOfChars
        ['\\', 'u', '0', '0', Hex.digit (c.toNat / 16), Hex.digit (c.toNat % 16)] ++ rest) =
      .bytes (String.utf8EncodeChar c) rest := by
  have lt {n : Nat} (h : n < 16) : (Hex.digit n).toNat < 0x80 := by
    revert n; decide
  have hbytes : bytesOfChars
      ['\\', 'u', '0', '0', Hex.digit (c.toNat / 16), Hex.digit (c.toNat % 16)] ++ rest =
        92 :: 117 :: 48 :: 48 :: UInt8.ofNat (Hex.digit (c.toNat / 16)).toNat ::
          UInt8.ofNat (Hex.digit (c.toNat % 16)).toNat :: rest := by
    simp only [bytesOfChars_cons, utf8EncodeChar_of_lt (lt (n := c.toNat / 16) (by omega)),
      utf8EncodeChar_of_lt (lt (n := c.toNat % 16) (by omega))]
    rfl
  have hcode : codeBytes c.toNat = String.utf8EncodeChar c := by
    rw [codeBytes, Char.ofNat_toNat]
  rw [hbytes, ← hcode]
  simp only [nextPiece, codePiece, hexQuad?_control _ hc]
  rw [if_neg (by decide), if_pos trivial, if_pos trivial, if_neg (by omega), if_neg (by omega)]

theorem stringFrom_escapeChar (c : Char) :
    stringFrom done fault (bytesOfChars (escapeChar c) ++ rest) =
      stringFrom ((String.utf8EncodeChar c).reverse ++ done) fault rest := by
  unfold escapeChar
  split
  case h_8 _ hq hb _ _ _ _ _ =>
    split
    · rename_i hc
      exact stringFrom_bytes (nextPiece_control hc)
    · rename_i hc
      rw [show bytesOfChars [c] = String.utf8EncodeChar c from List.flatMap_singleton ..]
      exact stringFrom_plain (plain_of_mem_utf8EncodeChar hq hb (Nat.le_of_not_lt hc))
  all_goals exact stringFrom_bytes rfl

theorem stringFrom_escaped (cs : List Char) :
    stringFrom done fault (bytesOfChars (cs.flatMap escapeChar) ++ rest) =
      stringFrom ((bytesOfChars cs).reverse ++ done) fault rest := by
  induction cs generalizing done with
  | nil => rfl
  | cons c cs ih =>
    rw [List.flatMap_cons, bytesOfChars_append, List.append_assoc, stringFrom_escapeChar, ih,
      bytesOfChars_cons, List.reverse_append, List.append_assoc]

theorem nextToken_writeString (s : String) :
    nextToken (bytesOfChars (writeString s) ++ rest) = some (.leaf (.string (.sound s)), rest) := by
  have hbytes : bytesOfChars (writeString s) ++ rest =
      34 :: (bytesOfChars (s.toList.flatMap escapeChar) ++ 34 :: rest) := by
    simp only [writeString, bytesOfChars_cons, bytesOfChars_append, List.append_assoc]
    rfl
  have hread : stringFrom [] none (bytesOfChars (s.toList.flatMap escapeChar) ++ 34 :: rest) =
      (.sound s, rest) := by
    have hend : nextPiece (34 :: rest) = .finish rest := rfl
    rw [stringFrom_escaped, stringFrom_finish hend, List.append_nil, closeString,
      List.reverse_reverse, ← bytesOf_eq, ofBytes?_bytesOf]
  rw [hbytes]
  show some (Token.leaf (.string (stringFrom [] none _).1), (stringFrom [] none _).2) = _
  rw [hread]

end Packaging.Json
