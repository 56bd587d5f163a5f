import Packaging.Proofs.Document.Lookup
import Packaging.Wire.Platform

/-!
# Which platform a document holds

A platform is read from a map or from a sequence, and each of its fields from the values under one
key. This holds in every format that passes over what nobody reads.

* `ofEntries_ok_iff`: the platform that the entries of a map hold, field by field.
* `ofItems_ok_iff`: the same for the items of a sequence.
-/

namespace Packaging.Platform

open Document

variable {v : Type} [Format v] {p : Platform}

/-- The value of a field. -/
def fieldValue (p : Platform) : (f : Field) → f.Value
  | .id => p.id
  | .runner => p.runner
  | .cmakeArgs => p.cmakeArgs
  | .deploymentTarget => p.deploymentTarget
  | .triplet => p.triplet
  | .container => p.container

/-- The fields of a platform make it up. -/
theorem exists_fieldValue_iff {P : (f : Field) → f.Value → Prop} :
    (∃ value : (f : Field) → f.Value, (∀ f, P f (value f)) ∧ schema.make value = p) ↔
      ∀ f, P f (p.fieldValue f) := by
  constructor
  · rintro ⟨value, hvalue, rfl⟩ f
    have := hvalue f
    cases f <;> exact this
  · exact fun h => ⟨p.fieldValue, h, rfl⟩

/-- A field goes by its own key. -/
theorem ofKey?_key (f : Field) : schema.ofKey? f.key = some f := by
  cases f <;> rfl

/-- **Entries give the platform whose fields they hold.** -/
theorem ofEntries_ok_iff (hskip : ∀ x : v, Format.skip x = .ok ()) {entries : List (String × v)} :
    schema.ofEntries Field.read Schema.ignored entries .closed = .ok p ↔
      ∀ f : Field, Held f.read f.default? (valuesAt f.key entries) (p.fieldValue f) :=
  (Schema.ofEntries_ok_iff ofKey?_key fun e => hskip e.2).trans exists_fieldValue_iff

/-- **Items give the platform whose fields they hold** under the keys in their order. -/
theorem ofItems_ok_iff (hsurplus : Format.surplus v = .ok ()) {items : List v} :
    schema.ofItems Field.read items .closed = .ok p ↔
      ∀ f : Field, Held f.read f.default? (valuesAt f.key (schema.named items))
        (p.fieldValue f) :=
  (Schema.ofItems_ok_iff ofKey?_key (by decide) hsurplus).trans exists_fieldValue_iff

end Packaging.Platform
