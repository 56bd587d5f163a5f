import Packaging.Document.View

/-! # Digests in documents

A digest is a string. -/

namespace Packaging.Digest

open Document

/-- Reads a digest. -/
def read {v : Type} [Format v] (x : v) : Except Fault Digest := do
  match ofText (← readString x) with
  | .ok d => return d
  | .error error => throw (.data (.digest error))

end Packaging.Digest
