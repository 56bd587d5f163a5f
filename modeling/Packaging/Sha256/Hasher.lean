import Packaging.Sha256

/-! # Hashing a message as it arrives

A hasher takes a message in pieces of any size. It keeps the state after the whole blocks it has
seen, the bytes of the block that is not full yet, and the number of bytes so far. -/

namespace Packaging.Sha256

/-- What is left after the whole blocks is less than a block. -/
theorem length_compressAll_lt (s : State) (bytes : List UInt8) :
    (s.compressAll bytes).2.length < 64 := by
  fun_induction State.compressAll s bytes with
  | case1 _ _ _ _ ih => exact ih
  | case2 _ bytes block h => simp only [block, List.length_take] at h ⊢; omega

/-- A hash of which part of the message is known. -/
structure Hasher where
  /-- The state after the whole blocks. -/
  state : State
  /-- The bytes after the whole blocks. -/
  pending : List UInt8
  /-- How many bytes were taken in. -/
  taken : Nat
  pending_lt : pending.length < 64

namespace Hasher

/-- The hasher that has seen nothing. -/
def start : Hasher := ⟨.initial, [], 0, by decide⟩

/-- Takes in the next piece of the message. -/
def update (h : Hasher) (piece : List UInt8) : Hasher :=
  let mixed := h.state.compressAll (h.pending ++ piece)
  ⟨mixed.1, mixed.2, h.taken + piece.length, length_compressAll_lt _ _⟩

/-- The hash of all that was taken in. -/
def finish (h : Hasher) : List UInt8 :=
  (h.state.compressAll (h.pending ++ padding h.taken)).1.bytes

/-- A hash has 32 bytes. -/
theorem length_finish (h : Hasher) : h.finish.length = 32 := rfl

end Hasher

end Packaging.Sha256
