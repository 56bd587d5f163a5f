import Packaging.Proofs.Digest
import Packaging.Proofs.Sha256.Hasher
import Packaging.Release.Sidecar

/-!
# Hashing what reads give

A content is read in pieces that are not empty and fit into the buffer, until a read gives nothing
(`Reads`); where it is cut is up to the reads.

* `take_refill`: what is used of the buffer after a read is the piece that was read, so nothing of
  the pieces before gets into the hash.
* `hashReads_took`: the loop ends, and the hasher has then taken in the whole content.
* `digestOfReads?_of_reads`: the digest is that of the content.
-/

namespace Packaging

open Sha256

/-! ## The digest of a content -/

/-- The digest of a content. -/
def Digest.ofContent (c : Content) : Digest := .ofBytes (hash c) (length_hash c)

theorem Digest.toList_ofContent (c : Content) :
    (Digest.ofContent c).text.toList = Text.Hex.encode (hash c) :=
  String.toList_ofList

theorem Digest.agrees_ofContent_iff {d : Digest} {c : Content} : d.agrees (.ofContent c) = true ↔
    d.text.toList.map Char.toLower = Text.Hex.encode (hash c) := by
  rw [Digest.agrees, beq_iff_eq, Digest.toList_ofContent, Text.Hex.map_toLower_encode]

/-! ## Reads of a content -/

/-- What successive reads give of a content. After the read that gives nothing anything may
follow, as nothing looks at it. -/
inductive Reads : Content → List Content → Prop where
  | done (more : List Content) : Reads [] ([] :: more)
  | piece {p c : Content} {reads : List Content} (nonempty : p ≠ []) (fits : p.length ≤ readSize)
      (rest : Reads c reads) : Reads (p ++ c) (p :: reads)

/-- Reads that fill the buffer while they can are reads of the content. -/
theorem reads_readsOf (c : Content) : Reads c (readsOf c) := by
  fun_induction readsOf c with
  | case1 c h =>
    rw [List.isEmpty_iff.1 h]
    exact .done []
  | case2 c h ih =>
    have hnonempty : c.take readSize ≠ [] := fun he => by
      rcases List.take_eq_nil_iff.1 he with h0 | h0
      · exact absurd h0 (by decide)
      · exact h (List.isEmpty_iff.2 h0)
    have hread := Reads.piece hnonempty (List.length_take_le _ _) ih
    rwa [List.take_append_drop] at hread

/-! ## The buffer and the loop -/

/-- A piece that fits stands at the front of the buffer it was read into. -/
theorem Buffer.take_refill (b : Buffer) {piece : Content} (h : piece.length ≤ readSize) :
    (b.refill piece).bytes.take piece.length = piece := by
  rw [refill, List.take_take, Nat.min_eq_left h, List.take_left]

/-- Reading a content to its end extends the message of the hasher by the content, whatever the
buffer holds. -/
theorem hashReads_took {h : Hasher} {message c : Content} {reads : List Content}
    (ht : h.Took message) (hr : Reads c reads) (b : Buffer) :
    ∃ h', hashReads h b reads = some h' ∧ h'.Took (message ++ c) := by
  induction hr generalizing h message b with
  | done more => exact ⟨h, rfl, by rwa [List.append_nil]⟩
  | piece hnonempty hfits _ ih =>
    rw [hashReads, if_neg (fun he => hnonempty (List.isEmpty_iff.1 he)), ← List.append_assoc]
    simp only [b.take_refill hfits]
    exact ih (ht.update _) _

/-- **However a content is read, its digest is that of the content at once.** -/
theorem digestOfReads?_of_reads {c : Content} {reads : List Content} (hr : Reads c reads) :
    digestOfReads? reads = some (.ofContent c) := by
  obtain ⟨h, hread, htook⟩ := hashReads_took Hasher.took_start hr .blank
  rw [digestOfReads?, hread, Option.map_some]
  simp only [Digest.ofContent, Digest.ofBytes, htook.finish, List.nil_append]

theorem get_digestOfReads? (c : Content) :
    (digestOfReads? (readsOf c)).get (isSome_digestOfReads? c) = .ofContent c :=
  Option.get_of_eq_some _ (digestOfReads?_of_reads (reads_readsOf c))

end Packaging
