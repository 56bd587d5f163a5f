import Packaging.Plan
import Packaging.Wire.Platform

/-! # Plans in documents

A plan is a record that allows no other keys than its fields. A field that is left out has the value
of the default plan; a list of platforms replaces all the default ones. -/

namespace Packaging.Plan

open Document

/-- The fields of a plan. -/
inductive Field where
  | versions
  | platforms
  | sourceRepository
  | releaseRepository
  | releaseTag
  deriving DecidableEq

namespace Field

/-- The type of a field's value. -/
def Value : Field → Type
  | versions => List String
  | platforms => List Platform
  | sourceRepository | releaseRepository | releaseTag => String

/-- The key of a field. -/
def key : Field → String
  | versions => "versions"
  | platforms => "platforms"
  | sourceRepository => "upstream_repo"
  | releaseRepository => "release_repo"
  | releaseTag => "release_tag"

/-- The value of a field in a plan. -/
def of (p : Plan) : (f : Field) → f.Value
  | versions => p.versions
  | platforms => p.platforms
  | sourceRepository => p.sourceRepository
  | releaseRepository => p.releaseRepository
  | releaseTag => p.releaseTag

/-- Reads the value of a field. -/
def read {v : Type} [Format v] : (f : Field) → v → Except Fault f.Value
  | versions, x => readList readString x
  | platforms, x => readList Platform.read x
  | sourceRepository, x | releaseRepository, x | releaseTag, x => readString x

end Field

/-- The fields of a plan in their order. -/
@[reducible] def schema : Schema Plan where
  title := "struct MatrixConfig"
  Field := Field
  decEq := inferInstance
  fields := [.versions, .platforms, .sourceRepository, .releaseRepository, .releaseTag]
  mem_fields f := by cases f <;> decide
  key := Field.key
  Value := Field.Value
  default? f := some (Field.of defaultPlan f)
  make value :=
    { versions := value .versions, platforms := value .platforms
      sourceRepository := value .sourceRepository, releaseRepository := value .releaseRepository
      releaseTag := value .releaseTag }

/-- Reads a plan. -/
def read {v : Type} [Format v] (x : v) : Except Fault Plan :=
  schema.read Field.read schema.refused x

/-- A plan as a JSON object. -/
def toJson (p : Plan) : Json :=
  .object
    [(Field.key .versions, .array (p.versions.map .string)),
      (Field.key .platforms, .array (p.platforms.map Platform.toJson)),
      (Field.key .sourceRepository, .string p.sourceRepository),
      (Field.key .releaseRepository, .string p.releaseRepository),
      (Field.key .releaseTag, .string p.releaseTag)]

end Packaging.Plan
