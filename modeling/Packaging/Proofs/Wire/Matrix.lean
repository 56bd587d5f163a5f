import Packaging.CommandLine.Run
import Packaging.Proofs.Document.Records
import Packaging.Proofs.Json.RoundTrip
import Packaging.Proofs.Wire.Platform

/-!
# A written matrix is read back

The command `matrix` prints builds and the command `assemble` reads them again, so whatever is
printed must be read back without a change, in both layouts of the text.

* `Platform.ofEntries_entries`: a platform, from the entries it is written as.
* `Build.read_outline`: a build, from the outline of its object.
* `readMatrix_text`, `readMatrix_matrixOutput`: a matrix, from its text and from what is printed.
-/

namespace Packaging

open Document Json

/-! ## Platforms -/

namespace Platform

/-- The value of a field as it is written, if it is. -/
def writeField (p : Platform) : Field → Option Json
  | .id => some (.string p.id)
  | .runner => some (.string p.runner)
  | .cmakeArgs => p.cmakeArgs.map .string
  | .deploymentTarget => p.deploymentTarget.map .string
  | .triplet => some (.string p.triplet)
  | .container => p.container.map .string

theorem writeField_string {p : Platform} {f : Field} {x : Json} (h : p.writeField f = some x) :
    ∃ s, x = .string s := by
  cases f <;> simp only [writeField, Option.map_eq_some_iff, Option.some.injEq] at h
  case id => exact ⟨_, h.symm⟩
  case runner => exact ⟨_, h.symm⟩
  case triplet => exact ⟨_, h.symm⟩
  all_goals
    obtain ⟨s, -, rfl⟩ := h
    exact ⟨s, rfl⟩

theorem entries_eq_written (p : Platform) :
    p.entries = schema.written p.writeField schema.fields := by
  obtain ⟨id, runner, cmakeArgs, deploymentTarget, triplet, container⟩ := p
  cases cmakeArgs <;> cases deploymentTarget <;> cases container <;> rfl

/-- The fields of a platform are written as they are read. -/
theorem writes (p : Platform) :
    schema.Writes (Field.read (v := Json)) p.writeField p.fieldValue where
  nodup := by decide
  key := ofKey?_key
  read f x h := by
    have optional {o : Option String} (h : o.map Json.string = some x) :
        readOptional readString x = .ok o := by
      cases o with
      | none => cases h
      | some s => cases h; rfl
    cases f
    case id => cases h; rfl
    case runner => cases h; rfl
    case triplet => cases h; rfl
    case cmakeArgs => exact optional h
    case deploymentTarget => exact optional h
    case container => exact optional h
  default f h := by
    cases f
    case id => cases h
    case runner => cases h
    case triplet => cases h
    all_goals exact congrArg some (Option.map_eq_none_iff.1 h).symm

/-- A platform is read back from the entries it is written as. -/
theorem ofEntries_entries (p : Platform) (other : String → Json → Except Fault Unit) :
    schema.ofEntries Field.read other p.entries .closed = .ok p := by
  rw [entries_eq_written, Schema.ofEntries_written p.writes]
  rfl

end Platform

/-! ## Builds -/

namespace Build

/-- What a build has besides its platform. -/
def details (b : Build) : Details :=
  { version := b.version, commit := b.commit, sharedLibs := b.sharedLibs, linkage := b.linkage
    packageVersion := b.packageVersion, tarball := b.tarball, prebuilt := b.prebuilt }

/-- The value of a field. -/
def fieldValue (b : Build) : (f : Field) → f.Value
  | .version => b.version
  | .commit => b.commit
  | .sharedLibs => b.sharedLibs
  | .linkage => b.linkage
  | .packageVersion => b.packageVersion
  | .tarball => b.tarball
  | .prebuilt => b.prebuilt

/-- The value of a field as it is written. -/
def writeField (b : Build) : Field → Json
  | .version => .string b.version
  | .commit => .string b.commit
  | .sharedLibs => .string b.sharedLibs
  | .linkage => .string b.linkage.name
  | .packageVersion => .string b.packageVersion
  | .tarball => .string b.tarball
  | .prebuilt => .boolean b.prebuilt

/-- An entry of a written object inside so many brackets. -/
def placeEntry (room : Nat) (e : String × Json) : String × Placed := (e.1, ⟨room, e.2.outline⟩)

/-- The fields of a build are written as they are read. -/
theorem writes (room : Nat) (b : Build) :
    schema.Writes (Field.read (v := Placed)) (fun f => some ⟨room, (b.writeField f).outline⟩)
      b.fieldValue where
  nodup := by decide
  key f := by cases f <;> rfl
  read f x h := by
    cases h
    cases f
    case linkage => exact Linkage.readName_name b.linkage
    all_goals rfl
  default f h := by cases h

theorem entries_eq (b : Build) :
    b.entries = b.platform.entries ++ schema.fields.map fun f => (f.key, b.writeField f) := rfl

theorem placeEntry_fields (room : Nat) (b : Build) :
    (schema.fields.map fun f => (f.key, b.writeField f)).map (placeEntry room) =
      schema.written (fun f => some ⟨room, (b.writeField f).outline⟩) schema.fields := rfl

/-- No field of a platform goes by a key of the build's own fields. -/
theorem ofKey?_platform {p : Platform} {e : String × Json} (h : e ∈ p.entries) :
    schema.ofKey? e.1 = none := by
  rw [Platform.entries_eq_written, Schema.written, List.mem_filterMap] at h
  obtain ⟨f, -, hf⟩ := h
  obtain ⟨x, -, rfl⟩ := Option.map_eq_some_iff.1 hf
  cases f <;> rfl

/-- The entries of a platform are kept as they were written. -/
theorem keepEntry_platform {p : Platform} {e : String × Json} (h : e ∈ p.entries) (room : Nat) :
    keepEntry e.1 (⟨room, e.2.outline⟩ : Placed) = .ok [e] := by
  rw [Platform.entries_eq_written, Schema.written, List.mem_filterMap] at h
  obtain ⟨f, -, hf⟩ := h
  obtain ⟨x, hx, rfl⟩ := Option.map_eq_some_iff.1 hf
  obtain ⟨s, rfl⟩ := Platform.writeField_string hx
  rfl

/-- A build is read back from the entries it is written as. -/
theorem ofEntries_entries (room : Nat) (b : Build) :
    ofEntries (b.entries.map (placeEntry room)) .closed = .ok b := by
  obtain ⟨d, hc, hd⟩ := Schema.collect_written_fields (b.writes room) keepEntry
  have hcollect : schema.collect Field.read keepEntry .empty (b.entries.map (placeEntry room)) =
      .ok (d, b.platform.entries) := by
    rw [entries_eq, List.map_append, placeEntry_fields,
      Schema.collect_others (placeEntry room) (fun e => [e])
        (fun _ he => ofKey?_platform he) (fun _ he => keepEntry_platform he room), hc]
    simp only [Except.map, List.flatMap_singleton', List.append_nil]
  simp only [ofEntries, hcollect, hd, Ending.check, Platform.ofEntries_entries, bind, Except.bind,
    pure, Except.pure]
  rfl

/-- **A build is read back from its object**, if there is room for one more bracket. -/
theorem read_outline (room : Nat) (b : Build) :
    read (⟨room + 1, b.toJson.outline⟩ : Placed) = .ok b := by
  have hview : Format.view (⟨room + 1, b.toJson.outline⟩ : Placed) =
      .map (b.entries.map (placeEntry room)) .closed := view_outline_object room b.entries
  rw [read, hview]
  exact ofEntries_entries room b

/-- A build is written without numbers. -/
theorem numberless_toJson (b : Build) : b.toJson.Numberless := by
  show NumberlessEntries b.entries
  rw [numberlessEntries_iff, entries_eq]
  intro e he
  rcases List.mem_append.1 he with he | he
  · rw [Platform.entries_eq_written, Schema.written, List.mem_filterMap] at he
    obtain ⟨f, -, hf⟩ := he
    obtain ⟨x, hx, rfl⟩ := Option.map_eq_some_iff.1 hf
    obtain ⟨s, rfl⟩ := Platform.writeField_string hx
    trivial
  · obtain ⟨f, -, rfl⟩ := List.mem_map.1 he
    cases f <;> trivial

end Build

/-! ## Matrices -/

theorem numberless_matrixToJson (builds : List Build) : (matrixToJson builds).Numberless := by
  show NumberlessItems (builds.map Build.toJson)
  rw [numberlessItems_iff]
  intro x hx
  obtain ⟨b, -, rfl⟩ := List.mem_map.1 hx
  exact b.numberless_toJson

/-- A matrix is read back from the outline of its array. -/
theorem readList_outline (builds : List Build) :
    readList Build.read (⟨127, (matrixToJson builds).outline⟩ : Placed) = .ok builds := by
  have hview : Format.view (⟨127, (matrixToJson builds).outline⟩ : Placed) =
      .sequence (builds.map fun b => ⟨126, b.toJson.outline⟩) .closed := by
    refine (view_outline_array 126 _).trans ?_
    rw [List.map_map]
    rfl
  have hitems : (builds.map fun b => (⟨126, b.toJson.outline⟩ : Placed)).mapM Build.read =
      .ok builds := by
    rw [List.mapM_map]
    refine (congrArg builds.mapM (funext fun b => b.read_outline 125)).trans ?_
    refine (List.mapM_pure (m := Except Fault) (f := id)).trans ?_
    rw [List.map_id]
    rfl
  rw [readList, hview]
  show ((builds.map fun b => (⟨126, b.toJson.outline⟩ : Placed)).mapM Build.read >>= _) = _
  rw [hitems]
  rfl

/-- A written matrix is read back, also with blanks after the text. -/
theorem readMatrix_text {sp : Spacing} (hsp : sp.Blank) (builds : List Build) {after : String}
    (hafter : Json.Blank after.toList) :
    readMatrix ((matrixToJson builds).text sp ++ after) = .ok builds := by
  rw [readMatrix, parseMatrix, readText_text hsp _ (numberless_matrixToJson builds) hafter,
    readList_outline]
  rfl

/-- **What the command `matrix` prints is read back as the same builds**, in both layouts. -/
theorem readMatrix_matrixOutput (pretty : Bool) (builds : List Build) :
    readMatrix (CommandLine.matrixOutput pretty builds) = .ok builds := by
  have hafter : Json.Blank "\n".toList := by simp [Json.Blank]
  cases pretty with
  | true => exact readMatrix_text Spacing.blank_pretty builds hafter
  | false => exact readMatrix_text Spacing.blank_compact builds hafter

end Packaging
