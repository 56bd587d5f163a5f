import Packaging.Text.ByteOrder

/-! # Published assets

The names of the files already attached to a release: a set, listed in the order of bytes. -/

namespace Packaging

open Text

/-- The names of published files, sorted by bytes and without repeats. -/
structure Assets where
  names : List String
  nodup : names.Nodup
  deriving DecidableEq

namespace Assets

/-- The texts of a list, each once. -/
def distinct : List String → List String
  | [] => []
  | s :: texts =>
    let others := distinct texts
    if s ∈ others then others else s :: others

theorem nodup_distinct (texts : List String) : (distinct texts).Nodup := by
  induction texts with
  | nil => simp [distinct]
  | cons s texts ih => by_cases h : s ∈ distinct texts <;> simp [distinct, h, ih]

theorem mem_distinct {s : String} {texts : List String} : s ∈ distinct texts ↔ s ∈ texts := by
  induction texts with
  | nil => simp [distinct]
  | cons t texts ih =>
    by_cases h : t ∈ distinct texts <;> simp only [distinct, h, if_true, if_false, List.mem_cons]
    · grind
    · rw [ih]

/-- The set of the names of a list. -/
def ofList (names : List String) : Assets where
  names := sortByBytes (distinct names)
  nodup := (sortByBytes_perm _).nodup_iff.2 (nodup_distinct names)

/-- Whether a file of this name is published. -/
def contains (a : Assets) (name : String) : Bool := name ∈ a.names

/-- How many files are published. -/
def size (a : Assets) : Nat := a.names.length

instance : Membership String Assets := ⟨fun a name => name ∈ a.names⟩

/-- A set has exactly the names of the list it was made from. -/
@[simp] theorem mem_ofList {names : List String} {name : String} :
    name ∈ ofList names ↔ name ∈ names :=
  (sortByBytes_perm _).mem_iff.trans mem_distinct

end Assets

end Packaging
