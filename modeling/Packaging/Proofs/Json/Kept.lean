import Packaging.Proofs.Document.Lookup
import Packaging.Wire.Build
import Mathlib.Data.List.Forall2

/-!
# Reading a text is reading the value that the text is

A build is read from the outline of its text, in which values are looked at only as far as they are
wanted. When the whole of a text is a JSON value, the outline looks like that value from the top at
every depth (`view_keep`), and no reader tells the two apart.

* `View.Alike`: two formats look alike from the top, down to related parts.
* `Build.read_of_keep`, `parseMatrix_of_keep`: the readers of builds and of matrices.
-/

namespace Packaging

open Document

/-! ## Alike values -/

/-- Two values look alike from the top; the values inside them are related. -/
inductive Document.View.Alike {v w : Type} (R : v → w → Prop) : View v → View w → Prop where
  | null : Alike R .null .null
  | boolean (b : Bool) : Alike R (.boolean b) (.boolean b)
  | integer (n : Int) : Alike R (.integer n) (.integer n)
  | float (text : String) : Alike R (.float text) (.float text)
  | string (s : String) : Alike R (.string s) (.string s)
  | sequence {xs : List v} {ys : List w} (h : List.Forall₂ R xs ys) (ending : Ending) :
      Alike R (.sequence xs ending) (.sequence ys ending)
  | map {es : List (String × v)} {es' : List (String × w)}
      (h : List.Forall₂ (fun a b => a.1 = b.1 ∧ R a.2 b.2) es es') (ending : Ending) :
      Alike R (.map es ending) (.map es' ending)

namespace Document

section Readers

variable {v w α : Type} [Format v] [Format w] {R : v → w → Prop} {x : v} {y : w}

theorem mismatch_of_alike (h : (Format.view x).Alike R (Format.view y)) (wanted : String) :
    (mismatch x wanted : Except Fault α) = mismatch y wanted := by
  unfold mismatch
  generalize Format.view x = a, Format.view y = b at h ⊢
  cases h <;> rfl

theorem readString_of_alike (h : (Format.view x).Alike R (Format.view y)) :
    readString x = readString y := by
  unfold readString
  rw [mismatch_of_alike h]
  generalize Format.view x = a, Format.view y = b at h ⊢
  cases h <;> rfl

theorem readBoolean_of_alike (h : (Format.view x).Alike R (Format.view y)) :
    readBoolean x = readBoolean y := by
  unfold readBoolean
  rw [mismatch_of_alike h]
  generalize Format.view x = a, Format.view y = b at h ⊢
  cases h <;> rfl

theorem readUnit_of_alike (h : (Format.view x).Alike R (Format.view y)) :
    readUnit x = readUnit y := by
  unfold readUnit
  rw [mismatch_of_alike h]
  generalize Format.view x = a, Format.view y = b at h ⊢
  cases h <;> rfl

/-- Reading the items of related sequences. -/
theorem readList_of_alike {read : v → Except Fault α} {read' : w → Except Fault α}
    (hread : ∀ x y, R x y → read x = read' y) (h : (Format.view x).Alike R (Format.view y)) :
    readList read x = readList read' y := by
  unfold readList
  rw [mismatch_of_alike h]
  generalize Format.view x = a, Format.view y = b at h ⊢
  cases h with
  | sequence h ending =>
    have hitems : ∀ {xs : List v} {ys : List w}, List.Forall₂ R xs ys →
        xs.mapM read = ys.mapM read' := by
      intro xs ys h
      induction h with
      | nil => rfl
      | cons hxy _ ih => rw [List.mapM_cons, List.mapM_cons, hread _ _ hxy, ih]
    simp only [hitems h]
  | _ => rfl

omit [Format v] [Format w] in
/-- Collecting the fields of a record from related entries. -/
theorem Schema.collect_of_alike {κ : Type} {s : Schema α}
    {read : (f : s.Field) → v → Except Fault (s.Value f)}
    {read' : (f : s.Field) → w → Except Fault (s.Value f)}
    {other : String → v → Except Fault (List κ)} {other' : String → w → Except Fault (List κ)}
    (hread : ∀ f x y, R x y → read f x = read' f y)
    (hother : ∀ key x y, R x y → other key x = other' key y)
    {es : List (String × v)} {es' : List (String × w)}
    (h : List.Forall₂ (fun a b => a.1 = b.1 ∧ R a.2 b.2) es es') (d : Draft s) :
    s.collect read other d es = s.collect read' other' d es' := by
  induction h generalizing d with
  | nil => rfl
  | @cons e e' es es' he _ ih =>
    obtain ⟨key, x⟩ := e
    obtain ⟨key', y⟩ := e'
    obtain ⟨rfl, hxy⟩ := he
    unfold Schema.collect
    simp only [hread _ x y hxy, hother key x y hxy, ih]

end Readers

end Document

/-- Linkages are read alike from values that look alike at two depths. -/
theorem Linkage.read_of_alike {v w : Type} [Format v] [Format w] {R : v → w → Prop} {x : v} {y : w}
    (hR : ∀ x y, R x y → (Format.view x).Alike R (Format.view y))
    (h : (Format.view x).Alike R (Format.view y)) : Linkage.read x = Linkage.read y := by
  unfold Linkage.read
  generalize Format.view x = a, Format.view y = b at h ⊢
  cases h with
  | map h ending =>
    cases h with
    | nil => cases ending <;> rfl
    | @cons e e' es es' he hes =>
      obtain ⟨name, x⟩ := e
      obtain ⟨name', y⟩ := e'
      obtain ⟨rfl, hxy⟩ := he
      dsimp only
      rw [readUnit_of_alike (hR x y hxy)]
      cases hes <;> cases ending <;> rfl
  | _ => rfl

/-! ## Texts -/

namespace Json

/-- A placed value is kept as a JSON value. -/
def KeptAs (x : Placed) (y : Json) : Prop := KeptFormat.keep x = .ok y

theorem check_ok {ending : Ending} (h : ending.check = .ok ()) : ending = .closed := by
  cases ending <;> first | rfl | cases h

theorem keepItems_ok {room : Nat} {items : List Outline} {ys : List Json}
    (h : Outline.keepItems room items = .ok ys) :
    List.Forall₂ KeptAs (items.map (⟨room, ·⟩)) ys := by
  induction items generalizing ys with
  | nil => cases h; exact .nil
  | cons x items ih =>
    unfold Outline.keepItems at h
    obtain ⟨y, hx, h⟩ := bind_ok_iff.1 h
    obtain ⟨ys, hxs, h⟩ := bind_ok_iff.1 h
    cases h
    exact .cons hx (ih hxs)

theorem keepEntries_ok {room : Nat} {entries : List (Lexeme String × Outline)}
    {es : List (String × Json)} (h : Outline.keepEntries room entries = .ok es) (ending : Ending) :
    ∃ readable, Outline.readable entries ending = (readable, ending) ∧
      List.Forall₂ (fun a b => a.1 = b.1 ∧ KeptAs a.2 b.2)
        (readable.map fun e => (e.1, ⟨room, e.2⟩)) es := by
  induction entries generalizing es with
  | nil => cases h; exact ⟨[], rfl, .nil⟩
  | cons e entries ih =>
    obtain ⟨key, x⟩ := e
    unfold Outline.keepEntries at h
    obtain ⟨name, hkey, h⟩ := bind_ok_iff.1 h
    obtain ⟨y, hx, h⟩ := bind_ok_iff.1 h
    obtain ⟨es, hes, h⟩ := bind_ok_iff.1 h
    cases h
    obtain ⟨readable, hread, hall⟩ := ih hes
    refine ⟨(name, x) :: readable, ?_, .cons ⟨rfl, hx⟩ hall⟩
    simp only [Outline.readable, hkey, hread]

/-- **An outline looks like the value it is kept as**, and so do the outlines inside it. -/
theorem view_keep {x : Placed} {y : Json} (h : KeptAs x y) :
    (Format.view x).Alike KeptAs (Format.view y) := by
  obtain ⟨room, o⟩ := x
  unfold KeptAs at h
  change o.keep room = .ok y at h
  show (Placed.view ⟨room, o⟩).Alike KeptAs y.view
  unfold Outline.keep at h
  cases o with
  | leaf l =>
    cases l with
    | word w =>
      obtain ⟨b, hw, h⟩ := bind_ok_iff.1 h
      simp only [Placed.view, hw]
      cases b with
      | none => cases h; exact .null
      | some b => cases h; exact .boolean b
    | number n =>
      obtain ⟨n', hn, h⟩ := bind_ok_iff.1 h
      cases h
      simp only [Placed.view, hn]
      cases n' with
      | integer n => exact .integer n
      | float x => exact .float _
    | string s =>
      obtain ⟨s', hs, h⟩ := bind_ok_iff.1 h
      cases h
      simp only [Placed.view, hs]
      exact .string s'
    | nothing fault => cases h
  | array items ending =>
    cases room with
    | zero => cases h
    | succ room =>
      obtain ⟨ys, hys, h⟩ := bind_ok_iff.1 h
      obtain ⟨⟨⟩, hending, h⟩ := bind_ok_iff.1 h
      cases h
      obtain rfl := check_ok hending
      exact .sequence (keepItems_ok hys) .closed
  | object entries ending =>
    cases room with
    | zero => cases h
    | succ room =>
      obtain ⟨es, hes, h⟩ := bind_ok_iff.1 h
      obtain ⟨⟨⟩, hending, h⟩ := bind_ok_iff.1 h
      cases h
      obtain rfl := check_ok hending
      obtain ⟨readable, hread, hall⟩ := keepEntries_ok hes .closed
      simp only [Placed.view, hread]
      exact .map hall .closed

end Json

/-! ## Builds -/

namespace Build

open Json

theorem Field.read_of_keep {x : Placed} {y : Json} (f : Field) (h : KeptAs x y) :
    f.read x = f.read y := by
  have hview := view_keep h
  cases f
  case linkage => exact Linkage.read_of_alike (fun _ _ => view_keep) hview
  case prebuilt => exact readBoolean_of_alike hview
  all_goals exact readString_of_alike hview

theorem keepEntry_of_keep {x : Placed} {y : Json} (key : String) (h : KeptAs x y) :
    keepEntry key x = keepEntry key y := by
  unfold keepEntry
  rw [show KeptFormat.keep x = .ok y from h]
  rfl

/-- A build is read from a text as it is from the value that the text is. -/
theorem read_of_keep {x : Placed} {y : Json} (h : KeptAs x y) : read x = read y := by
  have hview := view_keep h
  unfold read
  rw [mismatch_of_alike hview]
  generalize Format.view x = a, Format.view y = b at hview ⊢
  cases hview with
  | map hes ending =>
    have hcollect := Schema.collect_of_alike (s := schema) (R := KeptAs)
      (fun f _ _ => Field.read_of_keep f) (fun key _ _ => keepEntry_of_keep key) hes .empty
    unfold ofEntries
    dsimp only
    rw [hcollect]
  | _ => rfl

end Build

/-- **A matrix is read from a text as it is from the value that the text is.** -/
theorem parseMatrix_of_keep {text : String} {x : Json}
    (h : Json.readText KeptFormat.keep text = .ok x) :
    parseMatrix text = readList Build.read x := by
  unfold parseMatrix
  unfold Json.readText Json.readBytes at h ⊢
  generalize ((Json.State.value []).run _).finish = outline at h ⊢
  obtain ⟨root, trailing⟩ := outline
  obtain ⟨y, hkeep, h⟩ := bind_ok_iff.1 h
  cases trailing with
  | true => cases h
  | false =>
    cases h
    dsimp only
    rw [readList_of_alike (R := Json.KeptAs) (fun _ _ => Build.read_of_keep) (Json.view_keep hkeep)]
    cases readList Build.read x <;> rfl

end Packaging
