import Packaging.Toml.Scalar
import Packaging.Toml.Table

/-! # Reading TOML documents -/

namespace Packaging.Toml

namespace Scan

/-- A key split into the path before its last part and that part. -/
def splitKey : Scan (List String × String) := do
  let parts ← key
  match parts.getLast? with
  | some last => return (parts.dropLast, last)
  | none => failure

/-- The items of an array, each with the blanks around it. -/
def arrayItems (value : Scan Toml) : Scan (List Toml) := do
  let item : Scan Toml := do arrayBlanks; let x ← value; arrayBlanks; return x
  let items ← opt (separated item ',')
  if items.isSome then let _ ← opt (char ',')
  arrayBlanks
  char ']'
  return items.getD []

/-- The entries of a table in braces, which stand on one line. -/
def inlineEntries (value : Scan Toml) : Scan Toml := do
  let entry : Scan (List String × String × Toml) := do
    let (path, last) ← splitKey
    char '='
    blanks
    let x ← value
    blanks
    return (path, last, x)
  let entries ← opt (separated entry ',')
  blanks
  char '}'
  let add (table : Entries) (e : List String × String × Toml) : Scan Entries :=
    fun s => (table.insert e.1 e.2.1 e.2.2).map (·, s)
  let table ← (entries.getD []).foldlM add []
  return .table (finishEntries table)

/-- A value in which so many brackets may be open inside one another. -/
def value : Nat → Scan Toml
  | 0 => scalar
  | depth + 1 => do
    match ← peek? with
    | some '[' => do char '['; return .array (← arrayItems (value depth))
    | some '{' => do char '{'; inlineEntries (value depth)
    | _ => scalar

/-- What a line adds to the document. -/
def line (d : Draft) : Scan Draft := do
  let lift (next : Option Draft) : Scan Draft := fun s => next.map (·, s)
  match ← peek? with
  | some '#' => do comment; newline <|> endOfText; return d
  | some '\n' => do newline; return d
  | some '\r' => do newline; return d
  | some '[' =>
    (do
      word "[["
      let (path, last) ← splitKey
      word "]]"
      lineEnd
      lift (d.beginElement path last)) <|> do
      char '['
      let (path, last) ← splitKey
      char ']'
      lineEnd
      lift (d.beginTable path last)
  | _ => do
    let (path, last) ← splitKey
    char '='
    blanks
    let x ← value depthLimit
    lineEnd
    lift (d.insert path last x)

/-- The lines of a document, at most so many. -/
def lines : Nat → Draft → Scan Draft
  | 0, d => return d
  | n + 1, d => do
    blanks
    match ← peek? with
    | none => return d
    | some _ => lines n (← line d)

end Scan

/-- The table that a document defines, if the text is a document. A byte order mark may stand at its
beginning; each line takes a character at least. -/
def parse (text : String) : Option Toml := do
  let cs := match text.toList with
    | '\ufeff' :: cs => cs
    | cs => cs
  let (d, rest) ← Scan.lines (cs.length + 1) {} cs
  if rest.isEmpty then return .table (finishEntries (← d.close)) else none

end Packaging.Toml
