import Packaging.Sha256.Hasher

/-!
# Hashing a message in pieces

A hasher that has taken in a message (`Took`) stands where the one-shot hash stands after the
message's whole blocks. Taking in a piece extends the message (`Took.update`), and the finished hash
is that of the message (`Took.finish`), however it was cut into pieces.
-/

namespace Packaging.Sha256

/-- The blocks of a longer message begin with those of its front. -/
theorem State.compressAll_append (s : State) (xs ys : List UInt8) :
    s.compressAll (xs ++ ys) = (s.compressAll xs).1.compressAll ((s.compressAll xs).2 ++ ys) := by
  fun_induction State.compressAll s xs with
  | case1 s xs block h ih =>
    have hlen : 64 ≤ xs.length := by
      simp only [block, List.length_take] at h
      omega
    rw [State.compressAll, List.take_append_of_le_length hlen, dif_pos h,
      List.drop_append_of_le_length hlen]
    exact ih
  | case2 s xs => rfl

namespace Hasher

variable {h : Hasher} {message : List UInt8}

/-- A hasher has taken in a message. -/
structure Took (h : Hasher) (message : List UInt8) : Prop where
  compressAll : State.initial.compressAll message = (h.state, h.pending)
  length : h.taken = message.length

theorem took_start : start.Took [] := by
  refine ⟨?_, rfl⟩
  rw [State.compressAll, dif_neg (by decide)]
  rfl

/-- A piece extends the message. -/
theorem Took.update (ht : h.Took message) (piece : List UInt8) :
    (h.update piece).Took (message ++ piece) := by
  refine ⟨?_, ?_⟩
  · rw [State.compressAll_append, ht.compressAll]
    rfl
  · rw [List.length_append, ← ht.length]
    rfl

/-- **The finished hash is that of the message.** -/
theorem Took.finish (ht : h.Took message) : h.finish = hash message := by
  rw [hash, State.compressAll_append, ht.compressAll, ← ht.length]
  rfl

end Hasher

end Packaging.Sha256
