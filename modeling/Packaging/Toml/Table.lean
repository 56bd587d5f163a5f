import Packaging.Toml.Value

/-! # Tables under construction

A document defines its tables piece by piece. A table is begun by its own header, by the header of a
table inside it, or by a key with points; what may be added to it later depends on how it was begun.
No entry is ever given twice. -/

namespace Packaging.Toml

/-- How a table was begun. -/
inductive Origin where
  /-- By its own header, or as the whole document. -/
  | header
  /-- By the header of a table inside it. -/
  | innerHeader
  /-- By a key with points. -/
  | dottedKey
  deriving DecidableEq

/-- What a key of an unfinished table holds. -/
inductive Item where
  | value (x : Toml)
  | table (origin : Origin) (entries : List (String × Item))
  /-- An array of tables given one by one under their own headers, the last one first. -/
  | tables (elements : List (List (String × Item)))

/-- The entries of an unfinished table. -/
abbrev Entries := List (String × Item)

namespace Entries

/-- The entries with another item at a key that is there. -/
def replace (key : String) (item : Item) (entries : Entries) : Entries :=
  entries.map fun e => if e.1 = key then (key, item) else e

/-- The entries without a key. -/
def remove (key : String) (entries : Entries) : Entries := entries.filter fun e => e.1 ≠ key

/-- The entries with a new key at the end. -/
def add (key : String) (item : Item) (entries : Entries) : Option Entries :=
  match entries.lookup key with
  | none => some (entries ++ [(key, item)])
  | some _ => none

/-- Goes down a path of keys and changes the table at its end. Tables that are missing on the way
are begun; in an array of tables the path leads to the last one. A path of a key with points does
not lead into a table that has its own header. -/
def descend {α : Type} (begun : Origin) (change : Origin → Entries → Option (Entries × α)) :
    List String → Origin → Entries → Option (Entries × α)
  | [], origin, entries => change origin entries
  | key :: path, _, entries =>
    match entries.lookup key with
    | none => do
      let (inner, a) ← descend begun change path begun []
      return (entries ++ [(key, .table begun inner)], a)
    | some (.table origin inner) =>
      if begun = .dottedKey ∧ origin = .header then none
      else do
        let (inner, a) ← descend begun change path origin inner
        return (entries.replace key (.table origin inner), a)
    | some (.tables (last :: earlier)) => do
      let (last, a) ← descend begun change path .header last
      return (entries.replace key (.tables (last :: earlier)), a)
    | some (.tables []) => none
    | some (.value _) => none

/-- Adds a value under a key with points. Only tables that such keys began can be reached by more
than one part. -/
def insert (path : List String) (key : String) (x : Toml) (entries : Entries) : Option Entries := do
  let (entries, ()) ← descend .dottedKey
    (fun origin inner =>
      if decide (origin = .dottedKey) = path.isEmpty then none
      else (inner.add key (.value x)).map (·, ()))
    path .header entries
  return entries

end Entries

mutual

/-- A finished item. -/
def Item.toToml : Item → Toml
  | .value x => x
  | .table _ entries => .table (finishEntries entries)
  | .tables elements => .array (finishTables elements [])

/-- The entries of a finished table. -/
def finishEntries : List (String × Item) → List (String × Toml)
  | [] => []
  | (key, item) :: entries => (key, item.toToml) :: finishEntries entries

/-- Finished tables of an array, before those that are finished already. -/
def finishTables : List (List (String × Item)) → List Toml → List Toml
  | [], later => later
  | entries :: elements, later => finishTables elements (.table (finishEntries entries) :: later)

end

/-! ## Headers -/

/-- A document as far as it is read: the tables before the last header, and the table that the last
header began. -/
structure Draft where
  /-- The whole document without the current table. -/
  root : Entries := []
  /-- The keys of the last header but the last one. -/
  path : List String := []
  /-- The last key of the last header; there is none before the first header. -/
  key : Option String := none
  /-- Whether the current table is an element of an array. -/
  isElement : Bool := false
  /-- The entries of the current table. -/
  current : Entries := []

namespace Draft

/-- Puts the current table into its place. -/
def close (d : Draft) : Option Entries :=
  match d.key with
  | none => some d.current
  | some key =>
    if d.isElement then do
      let (root, ()) ← Entries.descend .innerHeader
        (fun _ inner =>
          match inner.lookup key with
          | some (.tables elements) =>
            some (inner.replace key (.tables (d.current :: elements)), ())
          | _ => none)
        d.path .header d.root
      return root
    else do
      let (root, ()) ← Entries.descend .innerHeader
        (fun _ inner => (inner.add key (.table .header d.current)).map (·, ()))
        d.path .header d.root
      return root

/-- Begins a table. One that was begun by inner headers only is taken up again. -/
def beginTable (d : Draft) (path : List String) (key : String) : Option Draft := do
  let root ← d.close
  let (root, current) ← Entries.descend .innerHeader
    (fun _ inner =>
      match inner.lookup key with
      | none => some (inner, [])
      | some (.table .innerHeader entries) => some (inner.remove key, entries)
      | some _ => none)
    path .header root
  return { root, path, key, isElement := false, current }

/-- Begins the next table of an array. -/
def beginElement (d : Draft) (path : List String) (key : String) : Option Draft := do
  let root ← d.close
  let (root, ()) ← Entries.descend .innerHeader
    (fun _ inner =>
      match inner.lookup key with
      | none => some (inner ++ [(key, .tables [])], ())
      | some (.tables _) => some (inner, ())
      | some _ => none)
    path .header root
  return { root, path, key, isElement := true, current := [] }

/-- Adds a value to the current table. -/
def insert (d : Draft) (path : List String) (key : String) (x : Toml) : Option Draft := do
  return { d with current := ← d.current.insert path key x }

end Draft

end Packaging.Toml
