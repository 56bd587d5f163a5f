import Packaging.CommandLine.Message
import Packaging.Text.Alphanumeric
import Packaging.Text.Blank
import Packaging.Text.Split

/-! # Which messages are shown

A filter is a list of rules, separated by commas. A rule gives the least grave level that is still
shown, for all messages or for those of one part; the most specific rule about a message decides.
A rule may also ask for a field that a message has, or for what happens inside a named span: every
message has one field, and there are no spans. -/

namespace Packaging.CommandLine

open Text

/-! ## Levels -/

/-- How much is shown, from nothing to everything. -/
inductive Level where
  | off
  | error
  | warn
  | info
  | debug
  | trace
  deriving DecidableEq

namespace Level

/-- The levels, each at the place of its number. -/
def all : List Level := [off, error, warn, info, debug, trace]

/-- The name of a level. -/
def name : Level → String
  | off => "off"
  | error => "error"
  | warn => "warn"
  | info => "info"
  | debug => "debug"
  | trace => "trace"

/-- Whether messages that tell how a run goes on are shown. -/
def showsProgress (l : Level) : Bool := l = info || l = debug || l = trace

/-- The number that decimal digits spell, perhaps after a plus sign. -/
def number? (word : List Char) : Option Nat :=
  let digits := match word with
    | '+' :: digits => digits
    | digits => digits
  if digits ≠ [] ∧ digits.all Char.isDigit then
    some (digits.foldl (fun n c => 10 * n + (c.toNat - '0'.toNat)) 0)
  else none

/-- The level with a number, or with a name in letters of either case. -/
def ofWord? (word : List Char) : Option Level :=
  match number? word with
  | some n => all[n]?
  | none => all.find? fun l => l.name = String.ofList (word.map Char.toLower)

/-- Every level is read back from its name. -/
theorem ofWord?_name (l : Level) : ofWord? l.name.toList = some l := by
  cases l <;> decide +kernel

example : ofWord? "03".toList = some info ∧ ofWord? "Warn".toList = some warn ∧
    ofWord? "6".toList = none := by decide +kernel

end Level

/-! ## Rules -/

/-- A rule of a filter. -/
structure Rule where
  /-- The front of the names of the parts that the rule is about. -/
  part : Option (List Char) := none
  /-- The field that a message must have. -/
  field : Option (List Char) := none
  /-- Whether the rule is about a named span only. -/
  inSpan : Bool := false
  level : Level := .trace
  deriving DecidableEq

namespace Rule

/-- The field that every message has. -/
def messageField : List Char := "message".toList

/-- Whether a rule is about the messages of a part. -/
def concerns (r : Rule) (p : Part) : Bool :=
  !r.inSpan && r.part.all (·.isPrefixOf p.name.toList) && r.field.all (· = messageField)

/-- How specific a rule is: the longer part counts first, then a field. -/
def weight (r : Rule) : Nat :=
  2 * r.part.elim 0 (·.length + 1) + if r.field.isSome then 1 else 0

/-- Whether a character may begin a rule. -/
def isStart (c : Char) : Bool := isAlphanumeric c || ['-', ':', '_'].contains c

/-- A rule with what follows its part, span and field: nothing, or an equals sign and the word of a
level. Without a word everything is shown. -/
def withLevel? (r : Rule) (word : List Char) : List Char → Option Rule
  | [] => some r
  | '=' :: _ =>
    if word = [] then some r else (Level.ofWord? word).map fun level => { r with level }
  | _ => none

/-- The rule that a text is, if any. What it consists of is found in the text without the blanks
around it, but its words are cut from the whole text, at the same places. So a blank before or after
a rule spoils its words. -/
def ofText? (whole : List Char) : Option Rule :=
  let body := trimBlanks whole
  let cut (start size : Nat) : List Char := (whole.drop start).take size
  let name := body.takeWhile fun c => c ≠ '=' && c ≠ '['
  let n := name.length
  match body.head?, body.drop n with
  | none, _ => none
  | some c, [] =>
    if isStart c then
      match Level.ofWord? whole with
      | some level => some { level }
      | none => some { part := some whole }
    else none
  | some c, '[' :: scope =>
    if c = '[' ∨ isStart c then
      let r : Rule := { part := if n = 0 then none else some (cut 0 n) }
      let span := scope.takeWhile fun c => c ≠ ']' && c ≠ '{'
      let s := n + 1 + span.length
      match scope.drop span.length with
      | ']' :: rest => withLevel? { r with inSpan := true } (whole.drop (s + 2)) rest
      | _ :: fields =>
        let field := fields.takeWhile (· ≠ '}')
        let f := s + 1 + field.length
        match field, fields.drop field.length with
        | _ :: _, '}' :: ']' :: rest =>
          withLevel?
            { r with inSpan := span ≠ [], field := some (cut (s + 1) field.length) }
            (whole.drop (f + 3)) rest
        | _, _ => none
      | [] => none
    else none
  | some c, rest =>
    if isStart c then withLevel? { part := some (cut 0 n) } (whole.drop (n + 1)) rest else none

end Rule

/-! ## Filters -/

/-- The rules of a filter, from first to last. -/
abbrev MessageFilter := List Rule

namespace MessageFilter

/-- The filter that shows what is at least as grave as a level. -/
def upTo (level : Level) : MessageFilter := [{ level }]

/-- The filter that a text is, if any; empty rules do not count. -/
def ofText? (text : String) : Option MessageFilter :=
  ((splitAtMarks (· = ',') text.toList).filter (· ≠ [])).mapM Rule.ofText?

/-- The filter of a setting. Without one, or with one that is no filter, the messages that tell how
a run goes on are shown. -/
def ofSetting (setting : Option String) : MessageFilter :=
  (setting.bind ofText?).getD (upTo .info)

/-- The rule that decides about a part: the most specific of those about it, and the last of equally
specific ones. -/
def deciding? (f : MessageFilter) (p : Part) : Option Rule :=
  (f.filter (·.concerns p)).foldl (fun best r =>
    match best with
    | some b => if b.weight ≤ r.weight then some r else some b
    | none => some r) none

/-- Whether a message is shown. -/
def shows (f : MessageFilter) (m : Message) : Bool :=
  (f.deciding? m.part).any (·.level.showsProgress)

/-- The rules that stand side by side decide for one part each. -/
example : (ofText? "warn,tiledb_pkg=info").map (fun f => (f.shows ⟨.matrixCommand, ""⟩,
    f.shows ⟨.matrix, ""⟩)) = some (true, true) := by decide +kernel

end MessageFilter

end Packaging.CommandLine
