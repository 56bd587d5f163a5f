import Mathlib
import Packaging.Proofs.Actions
import Packaging.Proofs.Wire.Platform
import Packaging.Wire.PlanFile

/-!
# What a plan file overrides

A plan file names fields of a plan (`Overrides`), and its plan is the default one with these fields
replaced, if that is usable.

* `Platform.read_ok_iff`: which values of a document are platforms (`Platform.SpelledBy`).
* `Plan.Names`: a table names fields of a plan, each with a value of its type, and nothing else.
* `Plan.read_table_ok_iff`: the plan of a table that names fields; no other table gives one.
* `Plan.ofText_overrides`: the plan file as a whole.
-/

namespace Packaging

open Document

/-! ## Values -/

namespace Toml

variable {x : Toml}

theorem readString_ok_iff {s : String} : readString x = .ok s ↔ x = .string s := by
  constructor
  · intro h
    cases x <;> cases h
    rfl
  · rintro rfl
    rfl

/-- No value is null, so a value that may be absent is present. -/
theorem readOptional_ok_iff {o : Option String} :
    readOptional readString x = .ok o ↔ ∃ s, x = .string s ∧ o = some s := by
  constructor
  · intro h
    cases x <;> cases h
    exact ⟨_, rfl, rfl⟩
  · rintro ⟨s, rfl, rfl⟩
    rfl

theorem readList_ok_iff {α : Type} {read : Toml → Except Fault α} {as : List α} :
    readList read x = .ok as ↔
      ∃ items, x = .array items ∧ List.Forall₂ (fun x a => read x = .ok a) items as := by
  have harray (items : List Toml) : readList read (.array items) = items.mapM read := by
    show (items.mapM read >>= fun values => pure values) = _
    rw [bind_pure]
  constructor
  · intro h
    cases x with
    | array items =>
      rw [harray] at h
      exact ⟨items, rfl, (Action.mapM_ok_iff fun _ _ _ => Iff.rfl).1 h⟩
    | _ => cases h
  · rintro ⟨items, rfl, hitems⟩
    rw [harray]
    exact (Action.mapM_ok_iff fun _ _ _ => Iff.rfl).2 hitems

theorem readStrings_ok_iff {ss : List String} :
    readList readString x = .ok ss ↔ x = .array (ss.map .string) := by
  have hitems (items : List Toml) :
      List.Forall₂ (fun x s => readString x = .ok s) items ss ↔ items = ss.map .string := by
    simp only [readString_ok_iff]
    rw [← List.forall₂_eq_eq_eq, List.forall₂_map_right_iff]
  rw [readList_ok_iff]
  simp only [hitems, exists_eq_right]

/-! ## Fields -/

variable {xs : List Toml}

theorem held_string_iff {s : String} : Held readString none xs s ↔ xs = [.string s] := by
  simp [Held, readString_ok_iff]

theorem held_optional_iff {o : Option String} :
    Held (readOptional readString) (some none) xs o ↔ xs = (o.map Toml.string).toList := by
  simp only [Held, readOptional_ok_iff]
  cases o with
  | none => simp
  | some s => simp

end Toml

/-! ## Platforms -/

namespace Platform

variable {x : Toml} {p : Platform}

/-- The entries of a table, or the items of an array under the keys of a platform in their order. Of
a date nothing is seen but that it has no entries. -/
def tomlEntries : Toml → List (String × Toml)
  | .table entries => entries
  | .array items =>
    ["platform", "os", "cmake_args", "MACOSX_DEPLOYMENT_TARGET", "triplet", "manylinux"].zip items
  | _ => []

/-- **A value spells out a platform**: under every key that the platform has a value for stands this
value, once, and nothing stands under the others. -/
structure SpelledBy (x : Toml) (p : Platform) : Prop where
  id : valuesAt "platform" (tomlEntries x) = [.string p.id]
  runner : valuesAt "os" (tomlEntries x) = [.string p.runner]
  triplet : valuesAt "triplet" (tomlEntries x) = [.string p.triplet]
  cmakeArgs : valuesAt "cmake_args" (tomlEntries x) = (p.cmakeArgs.map Toml.string).toList
  deploymentTarget : valuesAt "MACOSX_DEPLOYMENT_TARGET" (tomlEntries x) =
    (p.deploymentTarget.map Toml.string).toList
  container : valuesAt "manylinux" (tomlEntries x) = (p.container.map Toml.string).toList

theorem spelledBy_iff : SpelledBy x p ↔
    ∀ f : Field, Held f.read f.default? (valuesAt f.key (tomlEntries x)) (p.fieldValue f) := by
  constructor
  · intro h f
    cases f with
    | id => exact Toml.held_string_iff.2 h.id
    | runner => exact Toml.held_string_iff.2 h.runner
    | cmakeArgs => exact Toml.held_optional_iff.2 h.cmakeArgs
    | deploymentTarget => exact Toml.held_optional_iff.2 h.deploymentTarget
    | triplet => exact Toml.held_string_iff.2 h.triplet
    | container => exact Toml.held_optional_iff.2 h.container
  · intro h
    exact {
      id := Toml.held_string_iff.1 (h .id)
      runner := Toml.held_string_iff.1 (h .runner)
      triplet := Toml.held_string_iff.1 (h .triplet)
      cmakeArgs := Toml.held_optional_iff.1 (h .cmakeArgs)
      deploymentTarget := Toml.held_optional_iff.1 (h .deploymentTarget)
      container := Toml.held_optional_iff.1 (h .container) }

/-- **A value is read as the platform that it spells out.** -/
theorem read_ok_iff : read x = .ok p ↔ SpelledBy x p := by
  rw [spelledBy_iff]
  cases x with
  | table entries => exact ofEntries_ok_iff fun _ => rfl
  | dateTime => exact ofEntries_ok_iff fun _ => rfl
  | array items => exact ofItems_ok_iff rfl
  | _ =>
    refine ⟨fun h => (by cases h), fun h => ?_⟩
    exact absurd (Toml.held_string_iff.1 (h .id)) (by simp [tomlEntries])

end Platform

/-! ## Plans -/

namespace Plan

/-- Values for some fields of a plan. -/
structure Overrides where
  versions : Option (List String) := none
  platforms : Option (List Platform) := none
  sourceRepository : Option String := none
  releaseRepository : Option String := none
  releaseTag : Option String := none

/-- The plan with these fields replaced. -/
def Overrides.over (o : Overrides) (p : Plan) : Plan where
  versions := o.versions.getD p.versions
  platforms := o.platforms.getD p.platforms
  sourceRepository := o.sourceRepository.getD p.sourceRepository
  releaseRepository := o.releaseRepository.getD p.releaseRepository
  releaseTag := o.releaseTag.getD p.releaseTag

/-- The keys of a plan. -/
def keys : List String := ["versions", "platforms", "upstream_repo", "release_repo", "release_tag"]

/-- An array spells out platforms one by one. -/
def SpelledBy (x : Toml) (platforms : List Platform) : Prop :=
  ∃ items, x = .array items ∧ List.Forall₂ Platform.SpelledBy items platforms

/-- **The entries of a table name fields of a plan**: there are no other keys, and under the key of
each field that has a value stands this value, once. -/
structure Names (entries : List (String × Toml)) (o : Overrides) : Prop where
  mem_keys : ∀ e ∈ entries, e.1 ∈ keys
  versions : valuesAt "versions" entries =
    (o.versions.map fun vs => Toml.array (vs.map .string)).toList
  platforms : List.Forall₂ SpelledBy (valuesAt "platforms" entries) o.platforms.toList
  sourceRepository : valuesAt "upstream_repo" entries =
    (o.sourceRepository.map Toml.string).toList
  releaseRepository : valuesAt "release_repo" entries =
    (o.releaseRepository.map Toml.string).toList
  releaseTag : valuesAt "release_tag" entries = (o.releaseTag.map Toml.string).toList

variable {x : Toml} {entries : List (String × Toml)} {o : Overrides} {p : Plan}

/-- A field with a default has the one value that is given, or its default. -/
theorem held_default_iff {v β : Type} {read : v → Except Fault β} {default : β} {xs : List v}
    {y : β} : Held read (some default) xs y ↔
      ∃ given : Option β, List.Forall₂ (fun x y => read x = .ok y) xs given.toList ∧
        given.getD default = y := by
  constructor
  · rintro (⟨rfl, h⟩ | ⟨x, rfl, h⟩)
    · exact ⟨none, .nil, Option.some.inj h⟩
    · exact ⟨some y, .cons h .nil, rfl⟩
  · rintro ⟨_ | y', hgiven, rfl⟩
    · cases hgiven
      exact .inl ⟨rfl, rfl⟩
    · cases hgiven with
      | cons h hnil =>
        cases hnil
        exact .inr ⟨_, rfl, h⟩

theorem read_platforms_ok_iff {platforms : List Platform} :
    readList Platform.read x = .ok platforms ↔ SpelledBy x platforms := by
  simp only [Toml.readList_ok_iff, Platform.read_ok_iff, SpelledBy]

/-- Values that are spelled in one way each. -/
theorem forall₂_eq_toList_iff {β : Type} {write : β → Toml} {xs : List Toml} {given : Option β} :
    List.Forall₂ (fun x y => x = write y) xs given.toList ↔ xs = (given.map write).toList := by
  rw [← List.forall₂_eq_eq_eq, ← List.forall₂_map_right_iff]
  cases given <;> rfl

theorem given_string_iff {xs : List Toml} {given : Option String} :
    List.Forall₂ (fun x s => readString x = .ok s) xs given.toList ↔
      xs = (given.map Toml.string).toList := by
  simp only [Toml.readString_ok_iff]
  exact forall₂_eq_toList_iff

theorem given_strings_iff {xs : List Toml} {given : Option (List String)} :
    List.Forall₂ (fun x ss => readList readString x = .ok ss) xs given.toList ↔
      xs = (given.map fun ss => Toml.array (ss.map .string)).toList := by
  simp only [Toml.readStrings_ok_iff]
  exact forall₂_eq_toList_iff

theorem given_platforms_iff {xs : List Toml} {given : Option (List Platform)} :
    List.Forall₂ (fun x ps => readList Platform.read x = .ok ps) xs given.toList ↔
      List.Forall₂ SpelledBy xs given.toList := by
  simp only [read_platforms_ok_iff]

theorem mem_keys_iff {key : String} : key ∈ keys ↔ ∃ f : Field, f.key = key := by
  have hkeys : keys = schema.fields.map Field.key := rfl
  rw [hkeys, List.mem_map]
  exact exists_congr fun f => and_iff_right (schema.mem_fields f)

/-- **A table is read as the default plan with the fields replaced that it names**, and not at all if
it names none in this way. -/
theorem read_table_ok_iff :
    Plan.read (Toml.table entries) = .ok p ↔ ∃ o, Names entries o ∧ o.over defaultPlan = p := by
  have hkey (f : Field) : schema.ofKey? f.key = some f := by
    cases f <;> rfl
  show schema.ofEntries Field.read schema.refused entries .closed = .ok p ↔ _
  rw [Schema.ofEntries_refused_ok_iff hkey]
  simp only [← mem_keys_iff]
  constructor
  · rintro ⟨hmem, value, hheld, rfl⟩
    -- What is given of each field makes up the overrides; the defaults fill in the rest.
    choose given hgiven hvalue using fun f => held_default_iff.1 (hheld f)
    refine ⟨{ versions := given .versions, platforms := given .platforms
              sourceRepository := given .sourceRepository
              releaseRepository := given .releaseRepository
              releaseTag := given .releaseTag }, ?_, ?_⟩
    · exact {
        mem_keys := hmem
        versions := given_strings_iff.1 (hgiven .versions)
        platforms := given_platforms_iff.1 (hgiven .platforms)
        sourceRepository := given_string_iff.1 (hgiven .sourceRepository)
        releaseRepository := given_string_iff.1 (hgiven .releaseRepository)
        releaseTag := given_string_iff.1 (hgiven .releaseTag) }
    · simp only [← hvalue]
      rfl
  · rintro ⟨o, h, rfl⟩
    refine ⟨h.mem_keys, Field.of (o.over defaultPlan), fun f => held_default_iff.2 ?_, rfl⟩
    cases f with
    | versions => exact ⟨o.versions, given_strings_iff.2 h.versions, rfl⟩
    | platforms => exact ⟨o.platforms, given_platforms_iff.2 h.platforms, rfl⟩
    | sourceRepository => exact ⟨o.sourceRepository, given_string_iff.2 h.sourceRepository, rfl⟩
    | releaseRepository => exact ⟨o.releaseRepository, given_string_iff.2 h.releaseRepository, rfl⟩
    | releaseTag => exact ⟨o.releaseTag, given_string_iff.2 h.releaseTag, rfl⟩

/-! ## Plan files -/

section Files

variable {text : String}

theorem exists_table_of_parse (h : Toml.parse text = some x) : ∃ entries, x = .table entries := by
  obtain ⟨⟨d, rest⟩, -, h⟩ := Option.bind_eq_some_iff.1 h
  dsimp only at h
  split at h
  · obtain ⟨root, -, h⟩ := Option.bind_eq_some_iff.1 h
    exact ⟨_, (Option.some.inj h).symm⟩
  · cases h

theorem ofText_of_names (hparse : Toml.parse text = some (.table entries)) (h : Names entries o) :
    ofText text =
      ((o.over defaultPlan).validate.mapError .invalid).map fun _ => o.over defaultPlan := by
  rw [ofText, hparse]
  show ofDocument (.table entries) = _
  rw [ofDocument, read_table_ok_iff.2 ⟨o, h, rfl⟩]
  show ((o.over defaultPlan).validate.mapError FileError.invalid >>= fun _ =>
    pure (o.over defaultPlan)) = _
  cases (o.over defaultPlan).validate <;> rfl

theorem ofText_of_not_names (hparse : Toml.parse text = some (.table entries))
    (h : ¬ ∃ o, Names entries o) : ∃ fault, ofText text = .error (.parse fault) := by
  rw [ofText, hparse]
  show ∃ fault, ofDocument (.table entries) = _
  cases hread : Plan.read (Toml.table entries) with
  | error fault =>
    refine ⟨fault, ?_⟩
    rw [ofDocument, hread]
    rfl
  | ok p =>
    obtain ⟨o, hnames, -⟩ := read_table_ok_iff.1 hread
    exact absurd ⟨o, hnames⟩ h

/-- **A plan file overrides exactly what it names**: its plan is the default one with the named
fields replaced, where that is usable, and the fault of that plan is reported where it is not. A
table with another key, or with another value under a key, gives no plan. -/
theorem ofText_overrides (hparse : Toml.parse text = some x) :
    ∃ entries, x = .table entries ∧
      (∀ o, Names entries o →
        (∀ p, ofText text = .ok p ↔
          (o.over defaultPlan).validate = .ok () ∧ p = o.over defaultPlan) ∧
        ∀ e, ofText text = .error e ↔
          ∃ reason, (o.over defaultPlan).validate = .error reason ∧ e = .invalid reason) ∧
      ((∃ e ∈ entries, e.1 ∉ keys) → ∃ fault, ofText text = .error (.parse fault)) ∧
      ((¬ ∃ o, Names entries o) → ∃ fault, ofText text = .error (.parse fault)) := by
  obtain ⟨entries, rfl⟩ := exists_table_of_parse hparse
  refine ⟨entries, rfl, fun o h => ?_, fun ⟨e, he, hkey⟩ => ?_, ofText_of_not_names hparse⟩
  · rw [ofText_of_names hparse h]
    cases (o.over defaultPlan).validate with
    | ok => simp [Except.mapError, Except.map, eq_comm]
    | error reason => simp [Except.mapError, Except.map, eq_comm]
  · exact ofText_of_not_names hparse fun ⟨o, h⟩ => hkey (h.mem_keys e he)

/-- A plan file that names a tag and one platform. -/
def taggedText : String :=
  "release_tag = \"t\"\n[[platforms]]\nos = \"r\"\nnote = 1\ntriplet = \"x\"\nplatform = \"p\"\n"

/-- The table of this file. -/
def taggedEntries : List (String × Toml) :=
  [("release_tag", .string "t"), ("platforms", .array [.table
    [("os", .string "r"), ("note", .integer 1), ("triplet", .string "x"),
      ("platform", .string "p")]])]

/-- What the table names; the note inside the platform is passed over. -/
def taggedOverrides : Overrides where
  platforms := some [{ id := "p", runner := "r", triplet := "x" }]
  releaseTag := some "t"

theorem names_tagged : Names taggedEntries taggedOverrides where
  mem_keys := by decide
  versions := rfl
  platforms := by
    refine .cons ⟨_, rfl, .cons ?_ .nil⟩ .nil
    exact {
      id := rfl
      runner := rfl
      triplet := rfl
      cmakeArgs := rfl
      deploymentTarget := rfl
      container := rfl }
  sourceRepository := rfl
  releaseRepository := rfl
  releaseTag := rfl

theorem names_noVersions : Names [("versions", .array [])] { versions := some [] } where
  mem_keys := by decide
  versions := rfl
  platforms := .nil
  sourceRepository := rfl
  releaseRepository := rfl
  releaseTag := rfl

theorem ofText_overrides_tagged :
    Toml.parse taggedText = some (.table taggedEntries) ∧
    ofText taggedText = .ok (taggedOverrides.over defaultPlan) ∧
    ofText "versions = []" = .error (.invalid .noVersions) ∧
    ∃ fault, ofText "verisons = []" = .error (.parse fault) := by
  have htagged : Toml.parse taggedText = some (.table taggedEntries) := by cbv
  have hnone : Toml.parse "versions = []" = some (.table [("versions", .array [])]) := by cbv
  have hmisspelled : Toml.parse "verisons = []" = some (.table [("verisons", .array [])]) := by cbv
  refine ⟨htagged, ?_, ?_, ?_⟩
  · obtain ⟨_, ⟨⟩, hnames, -⟩ := ofText_overrides htagged
    exact ((hnames _ names_tagged).1 _).2 ⟨by decide, rfl⟩
  · obtain ⟨_, ⟨⟩, hnames, -⟩ := ofText_overrides hnone
    exact ((hnames _ names_noVersions).2 _).2 ⟨_, by decide, rfl⟩
  · obtain ⟨_, ⟨⟩, -, hother, -⟩ := ofText_overrides hmisspelled
    exact hother (by decide)

end Files

end Plan

end Packaging
