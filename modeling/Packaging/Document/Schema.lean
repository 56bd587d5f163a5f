import Packaging.Document.View

/-! # Records in documents

A schema lists the fields of a record type. A record is read from the entries of a map, each field
at most once, or from the items of a sequence in the order of the fields. A field that is not given
takes its default, if it has one. -/

namespace Packaging.Document

/-- How a type is read field by field. -/
structure Schema (α : Type) where
  /-- What messages call the type. -/
  title : String
  /-- The fields. -/
  Field : Type
  decEq : DecidableEq Field
  /-- The fields in their order. -/
  fields : List Field
  mem_fields : ∀ f, f ∈ fields
  /-- The key of a field. -/
  key : Field → String
  /-- The type of a field's value. -/
  Value : Field → Type
  /-- The value of a field that is not given. -/
  default? : (f : Field) → Option (Value f)
  /-- The record of its fields' values. -/
  make : ((f : Field) → Value f) → α

namespace Schema

variable {α : Type}

instance (s : Schema α) : DecidableEq s.Field := s.decEq

/-- The schema of a record with one field, which must be given. -/
@[reducible] def single (title key : String) : Schema α where
  title := title
  Field := Unit
  decEq := inferInstance
  fields := [()]
  mem_fields _ := List.mem_singleton.2 rfl
  key _ := key
  Value _ := α
  default? _ := none
  make value := value ()

/-- The field of a key. -/
def ofKey? (s : Schema α) (key : String) : Option s.Field := s.fields.find? fun f => s.key f = key

/-! ## Drafts -/

/-- The values of some fields of a record. -/
def Draft (s : Schema α) : Type := (f : s.Field) → Option (s.Value f)

namespace Draft

variable {s : Schema α}

/-- The draft that has no value yet. -/
def empty : Draft s := fun _ => none

/-- The draft with a value for one more field. -/
def set (d : Draft s) (f : s.Field) (x : s.Value f) : Draft s :=
  fun g => if h : f = g then some (h ▸ x) else d g

/-- The value of a field that was given, or else the field's default. -/
def value? (d : Draft s) (f : s.Field) : Option (s.Value f) := d f <|> s.default? f

/-- The record of a draft, unless a field lacks a value: then the fault of the first such field. -/
def complete (d : Draft s) (lacking : s.Field → DataFault) : Except Fault α :=
  match h : s.fields.find? fun f => (d.value? f).isNone with
  | some f => .error (.data (lacking f))
  | none => .ok <| s.make fun f => (d.value? f).get <| by
      simpa [Option.isSome_iff_ne_none] using List.find?_eq_none.1 h f (s.mem_fields f)

end Draft

/-! ## Reading -/

/-- The fault of a map without a field. -/
def missing (s : Schema α) (f : s.Field) : DataFault := .missingField (s.key f)

section Readers

variable {v κ : Type}

/-- Reads the entries of a map from left to right into a draft. A key of a field is checked for
repetition before its value is read; what `other` makes of all other entries is collected. -/
def collect (s : Schema α) (read : (f : s.Field) → v → Except Fault (s.Value f))
    (other : String → v → Except Fault (List κ)) :
    Draft s → List (String × v) → Except Fault (Draft s × List κ)
  | d, [] => .ok (d, [])
  | d, (key, x) :: entries =>
    match s.ofKey? key with
    | some f =>
      if (d f).isSome then .error (.data (.repeatedField key))
      else do collect s read other (d.set f (← read f x)) entries
    | none => do
      let kept ← other key x
      let (d, keptLater) ← collect s read other d entries
      return (d, kept ++ keptLater)

/-- Reads the entries of a map; `other` decides on keys of no field. -/
def ofEntries (s : Schema α) (read : (f : s.Field) → v → Except Fault (s.Value f))
    (other : String → v → Except Fault Unit) (entries : List (String × v)) (ending : Ending) :
    Except Fault α := do
  let (d, _) ←
    s.collect (κ := Empty) read (fun key x => do other key x; return []) .empty entries
  ending.check
  d.complete s.missing

/-- What a sequence for the record should be. -/
def sequenceTitle (s : Schema α) : String :=
  let n := s.fields.length
  s.title ++ s!" with {n} element" ++ if n = 1 then "" else "s"

/-- Pairs fields with the items of a sequence, in order, as far as both go. -/
def collectItems (s : Schema α) (read : (f : s.Field) → v → Except Fault (s.Value f)) :
    Draft s → List s.Field → List v → Except Fault (Draft s × List v)
  | d, f :: fs, x :: items => do collectItems s read (d.set f (← read f x)) fs items
  | d, _, items => .ok (d, items)

/-- Reads the items of a sequence as the fields in their order. -/
def ofItems [Format v] (s : Schema α) (read : (f : s.Field) → v → Except Fault (s.Value f))
    (items : List v) (ending : Ending) : Except Fault α := do
  let (d, left) ← s.collectItems read .empty s.fields items
  if left.isEmpty then ending.check else Format.surplus v
  d.complete fun f => .tooShort (s.fields.idxOf f) s.sequenceTitle

/-- Reads a record from a map or a sequence. -/
def read [Format v] (s : Schema α) (field : (f : s.Field) → v → Except Fault (s.Value f))
    (other : String → v → Except Fault Unit) (x : v) : Except Fault α :=
  match Format.view x with
  | .map entries ending => s.ofEntries field other entries ending
  | .sequence items ending => s.ofItems field items ending
  | _ => mismatch x s.title

/-- Passes over the value of a key that no field has. -/
def ignored [Format v] (_ : String) (x : v) : Except Fault Unit := Format.skip x

/-- Refuses a key that no field has. -/
def refused (s : Schema α) (key : String) (_ : v) : Except Fault Unit :=
  .error (.data (.unknownField key (s.fields.map s.key)))

end Readers

end Schema

end Packaging.Document
