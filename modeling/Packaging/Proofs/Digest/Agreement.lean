import Packaging.Proofs.Digest

/-!
# Which digests agree

Digests of either case stand for the bytes of a hash.

* `exists_decode_text`: every digest spells 32 bytes.
* `agrees_iff`: digests agree when they spell the same bytes.
* `agrees_compares_hashes`: agreement as an equivalence of digests, and with the digest of bytes.
-/

namespace Packaging.Digest

open Text

variable {a d : Digest} {bytes : List UInt8}

theorem exists_decode_text (d : Digest) :
    ∃ bytes, bytes.length = 32 ∧ Hex.decode? d.text.toList = some bytes :=
  Hex.exists_decode? d.length_text d.isDigit_text

/-- **Digests agree exactly when they spell the same hash.** -/
theorem agrees_iff : a.agrees d = true ↔ ∃ bytes, bytes.length = 32 ∧
    Hex.decode? a.text.toList = some bytes ∧ Hex.decode? d.text.toList = some bytes := by
  obtain ⟨bytes, hlength, ha⟩ := a.exists_decode_text
  obtain ⟨bytes', -, hd⟩ := d.exists_decode_text
  rw [agrees, beq_iff_eq, ← Hex.encode_of_decode? ha, ← Hex.encode_of_decode? hd, Hex.encode_inj,
    ha, hd]
  constructor
  · rintro rfl
    exact ⟨bytes, hlength, rfl, rfl⟩
  · rintro ⟨_, -, h, h'⟩
    exact (Option.some.inj h).trans (Option.some.inj h').symm

theorem decode?_ofBytes (h : bytes.length = 32) :
    Hex.decode? (ofBytes bytes h).text.toList = some bytes := by
  rw [ofBytes, String.toList_ofList, Hex.decode?_encode]

theorem agrees_ofBytes_iff (h : bytes.length = 32) :
    a.agrees (ofBytes bytes h) = true ↔ Hex.decode? a.text.toList = some bytes := by
  rw [agrees_iff, decode?_ofBytes]
  constructor
  · rintro ⟨_, -, ha, hsame⟩
    rw [ha, Option.some.inj hsame]
  · exact fun ha => ⟨bytes, h, ha, rfl⟩

theorem agrees_equivalence : Equivalence fun a d : Digest => a.agrees d = true where
  refl _ := beq_self_eq_true _
  symm h := beq_iff_eq.2 (beq_iff_eq.1 h).symm
  trans h h' := beq_iff_eq.2 ((beq_iff_eq.1 h).trans (beq_iff_eq.1 h'))

/-- **Comparing digests is comparing hashes**: the digits that 32 bytes are written in are a digest
as they stand and spell these bytes again, and the digests that agree with it are those that spell
them; any two digests agree exactly when both spell one hash of 32 bytes; so agreement is an
equivalence. -/
theorem agrees_compares_hashes :
    (∀ (bytes : List UInt8) (h : bytes.length = 32),
      ofText (String.ofList (Hex.encode bytes)) = .ok (ofBytes bytes h) ∧
      Hex.decode? (ofBytes bytes h).text.toList = some bytes ∧
      ∀ a : Digest, a.agrees (ofBytes bytes h) = true ↔
        Hex.decode? a.text.toList = some bytes) ∧
    (∀ a d : Digest, a.agrees d = true ↔ ∃ bytes, bytes.length = 32 ∧
      Hex.decode? a.text.toList = some bytes ∧ Hex.decode? d.text.toList = some bytes) ∧
    Equivalence fun a d : Digest => a.agrees d = true :=
  ⟨fun _ h => ⟨ofText_text (ofBytes _ h), decode?_ofBytes h, fun _ => agrees_ofBytes_iff h⟩,
    fun _ _ => agrees_iff, agrees_equivalence⟩

/-- A digest in digits of both cases. -/
def mixedDigest : Digest where
  text := "aBAbaBAbaBAbaBAbaBAbaBAbaBAbaBAbaBAbaBAbaBAbaBAbaBAbaBAbaBAbaBAb"
  size_eq := by decide
  isHex := by decide

theorem agrees_compares_hashes_mixed :
    (List.replicate 32 (0xab : UInt8)).length = 32 ∧
    mixedDigest.agrees (ofBytes (List.replicate 32 0xab) (by decide)) = true := by
  obtain ⟨hbytes, -⟩ := agrees_compares_hashes
  obtain ⟨-, -, hagrees⟩ := hbytes (List.replicate 32 0xab) (by decide)
  exact ⟨by decide, (hagrees mixedDigest).2 (by decide)⟩

end Packaging.Digest
