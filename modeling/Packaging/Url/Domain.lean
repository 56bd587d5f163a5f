import Packaging.Text.Direction
import Packaging.Text.Folding
import Packaging.Text.Joining
import Packaging.Text.Mark
import Packaging.Text.Printable
import Packaging.Url.Punycode

/-! # Names of hosts

The labels of a name stand between points. Before they are compared, characters take their plain
forms, those that do not show are dropped, and the text is composed. A label with characters beyond
ASCII is then written in Punycode, after a lead that says so. -/

namespace Packaging.Domain

open Text

/-- What a label in Punycode begins with. -/
def lead : List Char := ['x', 'n', '-', '-']

/-- Characters that do not count. -/
def ignored : CodePoints :=
  [(0xad, 0xad), (0x34f, 0x34f), (0x115f, 0x1160), (0x17b4, 0x17b5), (0x180b, 0x180f),
    (0x200b, 0x200b), (0x2060, 0x2064), (0x206a, 0x206f), (0x3164, 0x3164), (0xfe00, 0xfe0f),
    (0xfeff, 0xfeff), (0xffa0, 0xffa0), (0x1bca0, 0x1bca3), (0x1d173, 0x1d17a), (0xe0100, 0xe01ef)]

/-- What a character counts as. -/
def fold (c : Char) : List Char := if ignored.contains c then [] else plainForm c

/-- Whether a character may stand in ASCII in the name of a host. -/
def isPlain (c : Char) : Bool :=
  0x20 < c.toNat && c.toNat < 0x7f &&
    !(['#', '%', '/', ':', '<', '>', '?', '@', '[', '\\', ']', '^', '|'].contains c)

/-- Whether a character may stand in a label. Beyond ASCII it must be shown and count as itself, or
be a joiner. -/
def isAllowed (c : Char) : Bool :=
  if c.toNat < 0x80 then isPlain c
  else c = joiner || c = nonJoiner || !isHidden c && !wordless.contains c && fold c = [c]

/-- Whether characters may be a label. -/
def isLabel (label : List Char) : Bool :=
  label.all isAllowed && !label.head?.any isMark && joinersFit [] label

/-- How many characters a label may have if it is to be written in Punycode. -/
def longest : Nat := 1000

/-- How many characters a label may have if it is written in Punycode already, after its lead. -/
def longestWritten : Nat := 2000

/-- The label that is written so. One in Punycode must need it, and must be composed. -/
def readLabel? (cs : List Char) : Option (List Char) :=
  if lead.isPrefixOf cs then do
    let written := cs.drop lead.length
    let label ← if cs.all isPlain ∧ written.length ≤ longestWritten then Punycode.read? written
      else none
    if label.any (0x80 ≤ ·.toNat) ∧ compose label = label ∧ isLabel label then some label else none
  else if isLabel cs ∧ (cs.all (·.toNat < 0x80) ∨ cs.length ≤ longest) then some cs
  else none

/-- A label in ASCII. -/
def writeLabel (label : List Char) : List Char :=
  if label.all (·.toNat < 0x80) then label else lead ++ Punycode.write label

/-- The name of a host in ASCII, if a text is such a name. -/
def ofText? (cs : List Char) : Option (List Char) := do
  let labels ← (splitAtMarks (· = '.') (compose (cs.flatMap fold))).mapM readLabel?
  let name := ['.'].intercalate (labels.map writeLabel)
  if name ≠ [] ∧ keepDirections labels then some name else none

example : (ofText? "ＦＡß。Example".toList).map String.ofList = some "xn--fa-hia.example" ∧
    (ofText? "e\u0301".toList).map String.ofList = some "xn--9ca" ∧
    ofText? "a%b".toList = none ∧ ofText? "xn--a".toList = none := by decide +kernel

end Packaging.Domain
