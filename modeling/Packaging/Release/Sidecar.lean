import Packaging.Release.Basic
import Packaging.Sha256.Hasher

/-! # Checksums of files

The sidecar of a file stands next to it and holds the SHA-256 of its content. A file is hashed as it
is read, in pieces that go through one buffer of limited size; an empty piece is its end. -/

namespace Packaging

open FileSystem

/-- The greatest number of bytes that one read gives. -/
def readSize : Nat := 65536

/-- What successive reads of a content give, the last one nothing. -/
def readsOf (content : Content) : List Content :=
  if content.isEmpty then [[]] else content.take readSize :: readsOf (content.drop readSize)
termination_by content.length
decreasing_by
  rename_i h
  simp only [List.isEmpty_iff, ← List.length_eq_zero_iff] at h
  simp only [List.length_drop, readSize]
  omega

/-- Reads give nothing in the end. -/
theorem nil_mem_readsOf (content : Content) : [] ∈ readsOf content := by
  fun_induction readsOf content with
  | case1 => exact List.mem_singleton_self _
  | case2 _ _ ih => exact List.mem_cons_of_mem _ ih

/-- The bytes that all pieces of a file are read into. -/
structure Buffer where
  bytes : Content
  length_bytes : bytes.length = readSize

namespace Buffer

/-- The buffer before the first read. -/
def blank : Buffer := ⟨List.replicate readSize 0, List.length_replicate⟩

/-- The buffer after a read: the piece stands at its front, as far as there is room, and what is
behind the piece stays. -/
def refill (b : Buffer) (piece : Content) : Buffer where
  bytes := (piece ++ b.bytes.drop piece.length).take readSize
  length_bytes := by
    rw [List.length_take, List.length_append, List.length_drop, b.length_bytes]
    omega

end Buffer

/-- Takes in the pieces that reads put into a buffer, up to the first empty one; as long as there
was none, there is more to read. -/
def hashReads (h : Sha256.Hasher) (b : Buffer) : List Content → Option Sha256.Hasher
  | [] => none
  | piece :: reads =>
    if piece.isEmpty then some h
    else
      let filled := b.refill piece
      hashReads (h.update (filled.bytes.take piece.length)) filled reads

theorem isSome_hashReads {h : Sha256.Hasher} {b : Buffer} {reads : List Content}
    (hend : [] ∈ reads) : (hashReads h b reads).isSome = true := by
  induction reads generalizing h b with
  | nil => cases hend
  | cons piece reads ih =>
    rw [hashReads]
    split
    · rfl
    · next hpiece =>
      rcases List.mem_cons.1 hend with rfl | hend
      · exact absurd rfl hpiece
      · exact ih hend

/-- The digest of what reads give, if one of them gives nothing. -/
def digestOfReads? (reads : List Content) : Option Digest :=
  (hashReads .start .blank reads).map fun h => Digest.ofBytes h.finish h.length_finish

/-- The reads of a content have a digest. -/
theorem isSome_digestOfReads? (content : Content) :
    (digestOfReads? (readsOf content)).isSome = true := by
  rw [digestOfReads?, Option.isSome_map]
  exact isSome_hashReads (nil_mem_readsOf content)

/-- The digest of a file. -/
def hashFile (path : String) : Work Digest := do
  let loc ← .during .open path (openPath path)
  let content ← .during .read path (readAt loc)
  return (digestOfReads? (readsOf content)).get (isSome_digestOfReads? content)

/-- Writes the sidecar of a file, which names the file without its directory. -/
def writeSidecar (path : String) : Work Digest := do
  let digest ← hashFile path
  let name := (Path.fileName? path).getD ""
  .during .write (Path.sidecar path) (writeText (Path.sidecar path) (digest.sidecarLine name))
  return digest

/-- The digest in a sidecar. -/
def readSidecar (sidecar : String) : Work Digest := do
  let contents ← .during .read sidecar (readText sidecar)
  match Digest.ofSidecar contents with
  | .ok digest => return digest
  | .error error => throw (.sidecar sidecar error)

/-- How a file compares with its sidecar. -/
inductive SidecarCheck where
  | agrees
  | differs (expected actual : Digest)
  deriving DecidableEq

/-- Compares a file with its sidecar. -/
def checkSidecar (path : String) : Work SidecarCheck := do
  let expected ← readSidecar (Path.sidecar path)
  let actual ← hashFile path
  return if expected.agrees actual then .agrees else .differs expected actual

end Packaging
