import Packaging.Text.Hex

/-! # Percent signs in addresses

A byte that may not stand in an address is written as a percent sign and two digits. -/

namespace Packaging.Url

open Text

/-- A byte as a percent sign and two upper-case digits. -/
def encodeByte (b : UInt8) : List Char := '%' :: (Hex.encodeByte b).map Char.toUpper

/-- A text with the characters of a set encoded. -/
def encode (set : Char → Bool) (cs : List Char) : List Char :=
  cs.flatMap fun c => if set c then (String.utf8EncodeChar c).flatMap encodeByte else [c]

/-- The bytes of a text, with what is encoded in it decoded. A percent sign without two digits
stands for itself. -/
def decode : List Char → List UInt8
  | [] => []
  | '%' :: hi :: lo :: cs =>
    match Hex.decode? [hi, lo] with
    | some bytes => bytes ++ decode cs
    | none => String.utf8EncodeChar '%' ++ decode (hi :: lo :: cs)
  | c :: cs => String.utf8EncodeChar c ++ decode cs

/-- The two digits of a byte read as that byte. -/
theorem decode?_map_toUpper (b : UInt8) :
    Hex.decode? ((Hex.encodeByte b).map Char.toUpper) = some [b] := by
  have h : ∀ n < 256, Hex.decode? ((Hex.encodeByte (UInt8.ofNat n)).map Char.toUpper) =
      some [UInt8.ofNat n] := by decide +kernel
  simpa using h b.toNat b.toNat_lt

/-- An encoded byte is decoded to itself. -/
theorem decode_encodeByte_append (b : UInt8) (cs : List Char) :
    decode (encodeByte b ++ cs) = b :: decode cs := by
  have h := decode?_map_toUpper b
  obtain ⟨hi, lo, hb⟩ : ∃ hi lo, (Hex.encodeByte b).map Char.toUpper = [hi, lo] := ⟨_, _, rfl⟩
  rw [hb] at h
  simp [encodeByte, hb, decode, h]

example : decode "a%41%4%C3%a9".toList = "aA%4é".toUTF8.toList := by decide +kernel

end Packaging.Url
