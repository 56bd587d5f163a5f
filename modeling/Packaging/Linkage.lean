/-! # Linkage

A library is built shared or static. -/

namespace Packaging

/-- How the library is linked. -/
inductive Linkage where
  /-- As a shared library. -/
  | dynamic
  /-- As a static library. -/
  | static
  deriving DecidableEq, Inhabited

namespace Linkage

/-- Both linkages, in the order of the matrix. -/
def all : List Linkage := [.dynamic, .static]

/-- The name of a linkage in the matrix. -/
def name : Linkage → String
  | .dynamic => "Dynamic"
  | .static => "Static"

/-- The linkage of a name. -/
def ofName? : String → Option Linkage
  | "Dynamic" => some .dynamic
  | "Static" => some .static
  | _ => none

/-- The name of a linkage in the manifest. -/
def label : Linkage → String
  | .dynamic => "dynamic"
  | .static => "static"

/-- The value of the build option that asks for shared libraries. -/
def sharedLibs : Linkage → String
  | .dynamic => "ON"
  | .static => "OFF"

/-- What a package version ends with. -/
def suffix : Linkage → String
  | .dynamic => ""
  | .static => "-static"

/-- A linkage is read back from its name, and from no other. -/
theorem ofName?_eq_some_iff {s : String} {l : Linkage} : ofName? s = some l ↔ s = l.name := by
  constructor
  · intro h
    unfold ofName? at h
    split at h <;> simp_all [name] <;> subst h <;> rfl
  · rintro rfl
    cases l <;> rfl

end Linkage

end Packaging
