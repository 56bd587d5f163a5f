import Packaging.Document.Schema
import Packaging.Json.Value
import Packaging.Platform

/-! # Platforms in documents

A platform is a record. Its optional fields are left out when they have no value, and read as no
value when they are left out or null. -/

namespace Packaging.Platform

open Document

/-- The fields of a platform. -/
inductive Field where
  | id
  | runner
  | cmakeArgs
  | deploymentTarget
  | triplet
  | container
  deriving DecidableEq

namespace Field

/-- The type of a field's value. -/
def Value : Field → Type
  | id | runner | triplet => String
  | cmakeArgs | deploymentTarget | container => Option String

/-- The key of a field. -/
def key : Field → String
  | id => "platform"
  | runner => "os"
  | cmakeArgs => "cmake_args"
  | deploymentTarget => "MACOSX_DEPLOYMENT_TARGET"
  | triplet => "triplet"
  | container => "manylinux"

/-- The value of a field that is left out. -/
def default? : (f : Field) → Option f.Value
  | id | runner | triplet => none
  | cmakeArgs | deploymentTarget | container => some none

/-- Reads the value of a field. -/
def read {v : Type} [Format v] : (f : Field) → v → Except Fault f.Value
  | id, x | runner, x | triplet, x => readString x
  | cmakeArgs, x | deploymentTarget, x | container, x => readOptional readString x

end Field

/-- The fields of a platform in their order. -/
@[reducible] def schema : Schema Platform where
  title := "struct PlatformConfig"
  Field := Field
  decEq := inferInstance
  fields := [.id, .runner, .cmakeArgs, .deploymentTarget, .triplet, .container]
  mem_fields f := by cases f <;> decide
  key := Field.key
  Value := Field.Value
  default? := Field.default?
  make value :=
    { id := value .id, runner := value .runner, cmakeArgs := value .cmakeArgs
      deploymentTarget := value .deploymentTarget, triplet := value .triplet
      container := value .container }

/-- Reads a platform. -/
def read {v : Type} [Format v] (x : v) : Except Fault Platform :=
  schema.read Field.read Schema.ignored x

/-- An entry for a value that may be absent. -/
def optionalEntry (key : String) : Option String → List (String × Json)
  | none => []
  | some s => [(key, .string s)]

/-- The entries that a platform is written as. -/
def entries (p : Platform) : List (String × Json) :=
  [(Field.key .id, .string p.id), (Field.key .runner, .string p.runner)] ++
    optionalEntry (Field.key .cmakeArgs) p.cmakeArgs ++
    optionalEntry (Field.key .deploymentTarget) p.deploymentTarget ++
    [(Field.key .triplet, .string p.triplet)] ++
    optionalEntry (Field.key .container) p.container

/-- A platform as a JSON object. -/
def toJson (p : Platform) : Json := .object p.entries

end Packaging.Platform
