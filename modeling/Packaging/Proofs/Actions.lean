import Mathlib.Data.List.Forall2

/-!
# Actions that may fail and change a state

An action gives a result and the state that it has reached, also when it fails.

* `bind_ok`: what it takes for a sequence of two actions to succeed.
* `map_run`: an action whose result something is made of.
* `mapM_nil_ok`, `mapM_cons_ok`: the same for an action on each item of a list.
* `mapM_of_forall`, `mapM_run_of_unchanged`, `mapM_of_unchanged`: actions that change nothing, on a
  list.
* `mapM_append_error`: an action that fails on an item of a list.
* `mapM_ok_iff`, `mapM_isOk_iff`, `mapM_error_iff`: which results and errors a list has.
* `Within`: what holds of the states before and after an action, whatever its result.
* `Agree`: two actions that give the same from related states.
-/

namespace Packaging.Action

variable {ε σ α β : Type} {x : ExceptT ε (StateM σ) α} {f : α → ExceptT ε (StateM σ) β}
  {s s' : σ} {a : α} {b : β} {e : ε}

theorem bind_of_ok (h : x s = (.ok a, s')) : (x >>= f) s = f a s' := by
  show (ExceptT.bindCont f (x s).1) (x s).2 = _
  rw [h]
  rfl

theorem bind_of_error (h : x s = (.error e, s')) : (x >>= f) s = (.error e, s') := by
  show (ExceptT.bindCont f (x s).1) (x s).2 = _
  rw [h]
  rfl

theorem tryCatch_of_ok {handle : ε → ExceptT ε (StateM σ) α} (h : x s = (.ok a, s')) :
    (tryCatch x handle : ExceptT ε (StateM σ) α) s = (.ok a, s') := by
  show (match (x s).1 with
    | .ok a => pure (.ok a)
    | .error e => handle e : StateM σ (Except ε α)) (x s).2 = _
  rw [h]
  rfl

theorem tryCatch_of_error {handle : ε → ExceptT ε (StateM σ) α} (h : x s = (.error e, s')) :
    (tryCatch x handle : ExceptT ε (StateM σ) α) s = handle e s' := by
  show (match (x s).1 with
    | .ok a => pure (.ok a)
    | .error e => handle e : StateM σ (Except ε α)) (x s).2 = _
  rw [h]

theorem pure_ok {a' : α} (h : (pure a : ExceptT ε (StateM σ) α) s = (.ok a', s')) :
    a' = a ∧ s' = s := by
  cases h
  exact ⟨rfl, rfl⟩

/-- A sequence of two actions succeeds where both do. -/
theorem bind_ok (h : (x >>= f) s = (.ok b, s')) :
    ∃ a s₁, x s = (.ok a, s₁) ∧ f a s₁ = (.ok b, s') := by
  rcases hx : x s with ⟨r, s₁⟩
  cases r with
  | error e => rw [bind_of_error hx] at h; cases h
  | ok a => rw [bind_of_ok hx] at h; exact ⟨a, s₁, rfl, h⟩

/-- A run that has a value has succeeded. -/
theorem eq_ok_of_toOption {r : Except ε α × σ} (h : r.1.toOption = some a) : r = (.ok a, r.2) := by
  obtain ⟨_ | b, s⟩ := r
  · cases h
  · cases h; rfl

theorem eq_error_of_fst {r : Except ε α × σ} (h : r.1 = .error e) : r = (.error e, r.2) := by
  rw [← h]

theorem isOk_iff_exists {r : Except ε α} : r.isOk = true ↔ ∃ a, r = .ok a := by
  cases r with
  | error e => exact ⟨nofun, nofun⟩
  | ok a => exact ⟨fun _ => ⟨a, rfl⟩, fun _ => rfl⟩

/-- A run that is no failure has a value. -/
theorem exists_of_isOk {r : Except ε α × σ} (h : r.1.isOk = true) : ∃ a, r = (.ok a, r.2) := by
  obtain ⟨_ | b, s⟩ := r
  · cases h
  · exact ⟨b, rfl⟩

/-- What is made of a result is made of what the action gives. -/
theorem map_run (x : ExceptT ε (StateM σ) α) (f : α → β) (s : σ) :
    (x >>= fun a => pure (f a)) s = ((x s).1.map f, (x s).2) := by
  rcases hx : x s with ⟨r, s'⟩
  cases r with
  | error e => exact bind_of_error hx
  | ok a => exact bind_of_ok hx

theorem map_ok_iff {r : Except ε α} {f : α → β} :
    r.map f = .ok b ↔ ∃ a, r = .ok a ∧ f a = b := by
  cases r with
  | error e => exact ⟨nofun, nofun⟩
  | ok a => exact ⟨fun h => ⟨a, rfl, Except.ok.inj h⟩, fun ⟨_, h, hb⟩ => by cases h; cases hb; rfl⟩

theorem map_error_iff {r : Except ε α} {f : α → β} : r.map f = .error e ↔ r = .error e := by
  cases r with
  | error e' => exact ⟨fun h => by cases h; rfl, fun h => by cases h; rfl⟩
  | ok a => exact ⟨nofun, nofun⟩

theorem isOk_map (r : Except ε α) (f : α → β) : (r.map f).isOk = r.isOk := by
  cases r <;> rfl

/-! ## Lists -/

variable {g : α → ExceptT ε (StateM σ) β} {as : List α} {bs : List β}

theorem mapM_nil_ok (h : (List.mapM g []) s = (.ok bs, s')) : bs = [] ∧ s' = s := by
  cases h
  exact ⟨rfl, rfl⟩

/-- An action on each item of a list succeeds where it does on the first item and then on the
rest. -/
theorem mapM_cons_ok (h : (List.mapM g (a :: as)) s = (.ok bs, s')) :
    ∃ b bs' s₁, g a s = (.ok b, s₁) ∧ (List.mapM g as) s₁ = (.ok bs', s') ∧ bs = b :: bs' := by
  rw [List.mapM_cons] at h
  obtain ⟨b, s₁, hb, h⟩ := bind_ok h
  obtain ⟨bs', s₂, hbs, h⟩ := bind_ok h
  cases h
  exact ⟨b, bs', s₁, hb, hbs, rfl⟩

/-- An action that succeeds on each item and changes nothing succeeds on the list. -/
theorem mapM_of_forall {f : α → β} (h : ∀ a ∈ as, g a s = (.ok (f a), s)) :
    (as.mapM g) s = (.ok (as.map f), s) := by
  induction as with
  | nil => rfl
  | cons a as ih =>
    rw [List.mapM_cons, bind_of_ok (h a List.mem_cons_self),
      bind_of_ok (ih fun b hb => h b (List.mem_cons_of_mem _ hb))]
    rfl

/-- An action that changes nothing either succeeds on each item of a list or fails on the list. -/
theorem mapM_run_of_unchanged {P : α → Prop}
    (h : ∀ a ∈ as, (P a ∧ ∃ b, g a s = (.ok b, s)) ∨ ¬ P a ∧ ∃ e, g a s = (.error e, s)) :
    ((∀ a ∈ as, P a) ∧ ∃ bs, (as.mapM g) s = (.ok bs, s)) ∨
    (¬ ∀ a ∈ as, P a) ∧ ∃ e, (as.mapM g) s = (.error e, s) := by
  induction as with
  | nil => exact .inl ⟨nofun, [], rfl⟩
  | cons a as ih =>
    rw [List.mapM_cons]
    rcases h a List.mem_cons_self with ⟨ha, b, hrun⟩ | ⟨ha, e, hrun⟩
    case inr => exact .inr ⟨fun hall => ha (hall a List.mem_cons_self), e, bind_of_error hrun⟩
    rw [bind_of_ok hrun]
    rcases ih fun c hc => h c (List.mem_cons_of_mem _ hc) with
      ⟨hrest, bs, hrun'⟩ | ⟨hrest, e, hrun'⟩
    · exact .inl ⟨List.forall_mem_cons.2 ⟨ha, hrest⟩, b :: bs, bind_of_ok hrun'⟩
    · exact .inr ⟨fun hall => hrest (List.forall_mem_cons.1 hall).2, e, bind_of_error hrun'⟩

/-- An action that changes nothing gives on a list what its results on the items give. -/
theorem mapM_of_unchanged (h : ∀ a ∈ as, (g a s).2 = s) :
    (as.mapM g) s = (as.mapM fun a => (g a s).1, s) := by
  induction as with
  | nil => rfl
  | cons a as ih =>
    have hrest := ih fun c hc => h c (List.mem_cons_of_mem _ hc)
    have hrun {r : Except ε β} (hr : (g a s).1 = r) : g a s = (r, s) :=
      Prod.ext hr (h a List.mem_cons_self)
    rw [List.mapM_cons, List.mapM_cons]
    cases hr : (g a s).1 with
    | error e => exact bind_of_error (hrun hr)
    | ok b =>
      rw [bind_of_ok (hrun hr)]
      cases hrs : as.mapM fun a => (g a s).1 with
      | error e => exact bind_of_error (hrs ▸ hrest)
      | ok bs => exact bind_of_ok (hrs ▸ hrest)

/-- An action on a list that fails at an item does not get to the items after it. -/
theorem mapM_append_error (as' : List α) (hdone : (as.mapM g) s = (.ok bs, s'))
    {s'' : σ} (h : g a s' = (.error e, s'')) :
    ((as ++ a :: as').mapM g) s = (.error e, s'') := by
  rw [List.mapM_append, bind_of_ok hdone, List.mapM_cons]
  exact bind_of_error (bind_of_error h)

/-! ## Results of a list -/

section Results

variable {f : α → Except ε β}

theorem mapM_cons_ok_iff : (a :: as).mapM f = .ok bs ↔
    ∃ b bs', f a = .ok b ∧ as.mapM f = .ok bs' ∧ bs = b :: bs' := by
  rw [List.mapM_cons]
  cases ha : f a with
  | error e => simp [bind, Except.bind]
  | ok b =>
    cases has : as.mapM f with
    | error e => simp [bind, Except.bind]
    | ok bs' => simp [bind, Except.bind, pure, Except.pure, eq_comm]

theorem mapM_cons_error_iff : (a :: as).mapM f = .error e ↔
    f a = .error e ∨ (f a).isOk = true ∧ as.mapM f = .error e := by
  rw [List.mapM_cons]
  cases ha : f a with
  | error e' => simp [bind, Except.bind, Except.isOk, Except.toBool]
  | ok b =>
    cases has : as.mapM f with
    | error e' => simp [bind, Except.bind, Except.isOk, Except.toBool]
    | ok bs' => simp [bind, Except.bind, pure, Except.pure]

theorem mapM_isOk_iff : (as.mapM f).isOk = true ↔ ∀ a ∈ as, (f a).isOk = true := by
  induction as with
  | nil => exact ⟨fun _ => List.forall_mem_nil _, fun _ => rfl⟩
  | cons a as ih =>
    rw [List.forall_mem_cons, ← ih, List.mapM_cons]
    cases f a with
    | error e => exact ⟨nofun, fun h => nomatch h.1⟩
    | ok b =>
      cases as.mapM f with
      | error e => exact ⟨nofun, fun h => nomatch h.2⟩
      | ok bs => exact ⟨fun _ => ⟨rfl, rfl⟩, fun _ => rfl⟩

/-- A list has results where each item has one. -/
theorem mapM_ok_iff {R : α → β → Prop} (h : ∀ a ∈ as, ∀ b, f a = .ok b ↔ R a b) :
    as.mapM f = .ok bs ↔ List.Forall₂ R as bs := by
  induction as generalizing bs with
  | nil =>
    rw [List.forall₂_nil_left_iff, List.mapM_nil]
    exact ⟨fun h => (Except.ok.inj h).symm, fun h => h ▸ rfl⟩
  | cons a as ih =>
    have hrest (bs : List β) : as.mapM f = .ok bs ↔ List.Forall₂ R as bs :=
      ih fun c hc => h c (List.mem_cons_of_mem _ hc)
    rw [mapM_cons_ok_iff, List.forall₂_cons_left_iff]
    simp only [h a List.mem_cons_self, hrest]

/-- A list has the error of the first item that has one. -/
theorem mapM_error_iff : as.mapM f = .error e ↔
    ∃ done a rest, as = done ++ a :: rest ∧ (∀ c ∈ done, (f c).isOk = true) ∧ f a = .error e := by
  induction as with
  | nil =>
    refine ⟨nofun, fun ⟨done, a, rest, h, _⟩ => ?_⟩
    cases done <;> cases h
  | cons a as ih =>
    rw [mapM_cons_error_iff, ih]
    constructor
    · rintro (ha | ⟨ha, done, c, rest, rfl, hdone, hc⟩)
      · exact ⟨[], a, as, rfl, List.forall_mem_nil _, ha⟩
      · exact ⟨a :: done, c, rest, rfl, List.forall_mem_cons.2 ⟨ha, hdone⟩, hc⟩
    · rintro ⟨done, c, rest, h, hdone, hc⟩
      cases done with
      | nil =>
        obtain ⟨rfl, rfl⟩ := List.cons.inj h
        exact .inl hc
      | cons d done =>
        obtain ⟨rfl, rfl⟩ := List.cons.inj h
        obtain ⟨ha, hdone⟩ := List.forall_mem_cons.1 hdone
        exact .inr ⟨ha, done, c, rest, rfl, hdone, hc⟩

end Results

/-! ## States before and after -/

/-- Whatever its result, an action takes states to related ones. -/
def Within (R : σ → σ → Prop) (x : ExceptT ε (StateM σ) α) : Prop := ∀ s, R s (x s).2

section Within

variable {R : σ → σ → Prop}

theorem within_of_unchanged (refl : ∀ s, R s s) (h : ∀ s, (x s).2 = s) : Within R x := by
  intro s
  rw [h s]
  exact refl s

theorem Within.bind (trans : ∀ {s₁ s₂ s₃}, R s₁ s₂ → R s₂ s₃ → R s₁ s₃) (hx : Within R x)
    (hf : ∀ a, Within R (f a)) : Within R (x >>= f) := by
  intro s
  have h₁ := hx s
  rcases h : x s with ⟨r, s₁⟩
  rw [h] at h₁
  cases r with
  | error e => rw [bind_of_error h]; exact h₁
  | ok a => rw [bind_of_ok h]; exact trans h₁ (hf a s₁)

theorem Within.mapM (refl : ∀ s, R s s) (trans : ∀ {s₁ s₂ s₃}, R s₁ s₂ → R s₂ s₃ → R s₁ s₃)
    (h : ∀ a ∈ as, Within R (g a)) : Within R (as.mapM g) := by
  induction as with
  | nil => exact within_of_unchanged refl fun _ => rfl
  | cons a as ih =>
    rw [List.mapM_cons]
    refine .bind trans (h a List.mem_cons_self) fun b => ?_
    refine .bind trans (ih fun c hc => h c (List.mem_cons_of_mem _ hc)) fun bs => ?_
    exact within_of_unchanged refl fun _ => rfl

theorem Within.handling (trans : ∀ {s₁ s₂ s₃}, R s₁ s₂ → R s₂ s₃ → R s₁ s₃)
    {handle : ε → ExceptT ε (StateM σ) α} (hx : Within R x) (hh : ∀ e, Within R (handle e)) :
    Within R (tryCatch x handle) := by
  intro s
  have h₁ := hx s
  rcases h : x s with ⟨r, s₁⟩
  rw [h] at h₁
  cases r with
  | ok a => rw [tryCatch_of_ok h]; exact h₁
  | error e => rw [tryCatch_of_error h]; exact trans h₁ (hh e s₁)

end Within

/-! ## Two actions side by side -/

/-- From related states two actions give the same result and reach related states. -/
def Agree (R : σ → σ → Prop) (x y : ExceptT ε (StateM σ) α) : Prop :=
  ∀ s t, R s t → (x s).1 = (y t).1 ∧ R (x s).2 (y t).2

section Agree

variable {R : σ → σ → Prop} {y : ExceptT ε (StateM σ) α} {f' g' : α → ExceptT ε (StateM σ) β}

theorem agree_pure (a : α) : Agree R (pure a : ExceptT ε (StateM σ) α) (pure a) :=
  fun _ _ h => ⟨rfl, h⟩

theorem Agree.bind (hx : Agree R x y) (hf : ∀ a, Agree R (f a) (f' a)) :
    Agree R (x >>= f) (y >>= f') := by
  intro s t hst
  obtain ⟨hr, hst⟩ := hx s t hst
  rcases hxs : x s with ⟨r, s₁⟩
  rcases hyt : y t with ⟨r', t₁⟩
  rw [hxs, hyt] at hr hst
  obtain rfl : r = r' := hr
  cases r with
  | error e =>
    rw [bind_of_error hxs, bind_of_error hyt]
    exact ⟨rfl, hst⟩
  | ok a =>
    rw [bind_of_ok hxs, bind_of_ok hyt]
    exact hf a s₁ t₁ hst

theorem Agree.mapM (h : ∀ a ∈ as, Agree R (g a) (g' a)) : Agree R (as.mapM g) (as.mapM g') := by
  induction as with
  | nil => exact agree_pure []
  | cons a as ih =>
    rw [List.mapM_cons, List.mapM_cons]
    refine (h a List.mem_cons_self).bind fun b => ?_
    exact (ih fun c hc => h c (List.mem_cons_of_mem _ hc)).bind fun bs => agree_pure (b :: bs)

end Agree

end Packaging.Action
