import Mathlib.Data.List.Forall2

/-!
# Steps that may fail

What chains of steps come to: two steps one after the other (`exists_of_bind_eq_ok`, `run_bind`), a
step for every item of a list (`mapM_eq_ok_iff`, `exists_of_mapM_eq_error`, `foldlM_keeps`), and a step whose failure is caught
(`run_tryCatch`).
-/

namespace Tablewright

/-! ## Two steps -/

theorem ok_bind {ε α β : Type} (a : α) (f : α → Except ε β) : (Except.ok a >>= f) = f a := rfl

theorem error_bind {ε α β : Type} (e : ε) (f : α → Except ε β) :
    (Except.error e >>= f) = Except.error e := rfl

theorem exists_of_bind_eq_ok {ε α β : Type} {x : Except ε α} {f : α → Except ε β} {b : β}
    (h : (x >>= f) = .ok b) : ∃ a, x = .ok a ∧ f a = .ok b := by
  cases x with
  | error e => cases h
  | ok a => exact ⟨a, rfl, h⟩

theorem bind_eq_error_iff {ε α β : Type} {x : Except ε α} {f : α → Except ε β} {e : ε} :
    (x >>= f) = .error e ↔ x = .error e ∨ ∃ a, x = .ok a ∧ f a = .error e := by
  cases x <;> simp [ok_bind, error_bind]

theorem mapError_eq_ok_iff {ε ε' α : Type} {f : ε → ε'} {x : Except ε α} {a : α} :
    x.mapError f = .ok a ↔ x = .ok a := by
  cases x <;> simp [Except.mapError]

/-- A step behind a test that would have failed. -/
theorem and_of_throw_eq_ok {ε β : Type} {c : Prop} [Decidable c] {e : ε} {f : Unit → Except ε β}
    {b : β} (h : (if c then throw e >>= f else f ()) = .ok b) : ¬c ∧ f () = .ok b := by
  split at h
  · cases h
  · rename_i hc
    exact ⟨hc, h⟩

/-! ## A step for every item -/

theorem mapM_eq_ok_iff {ε α β : Type} {f : α → Except ε β} {l : List α} {l' : List β} :
    l.mapM f = .ok l' ↔ List.Forall₂ (fun a b => f a = .ok b) l l' := by
  induction l generalizing l' with
  | nil =>
    rw [List.forall₂_nil_left_iff]
    exact ⟨fun h => (Except.ok.inj h).symm, fun h => h ▸ rfl⟩
  | cons a rest ih =>
    rw [List.mapM_cons, List.forall₂_cons_left_iff]
    constructor
    · intro h
      obtain ⟨b, hb, h⟩ := exists_of_bind_eq_ok h
      obtain ⟨bs, hbs, h⟩ := exists_of_bind_eq_ok h
      exact ⟨b, bs, hb, ih.1 hbs, (Except.ok.inj h).symm⟩
    · rintro ⟨b, bs, hb, hbs, rfl⟩
      rw [hb, ih.2 hbs]
      rfl

/-- Steps fail as one of them does. -/
theorem exists_of_mapM_eq_error {ε α β : Type} {f : α → Except ε β} {l : List α} {e : ε}
    (h : l.mapM f = .error e) : ∃ a ∈ l, f a = .error e := by
  induction l with
  | nil => cases h
  | cons a rest ih =>
    rw [List.mapM_cons, bind_eq_error_iff] at h
    rcases h with h | ⟨_, -, h⟩
    · exact ⟨a, by simp, h⟩
    · rcases bind_eq_error_iff.1 h with h | ⟨_, -, h⟩
      · obtain ⟨b, hb, hfail⟩ := ih h
        exact ⟨b, List.mem_cons_of_mem a hb, hfail⟩
      · cases h

theorem mapM_eq_some {α β : Type} {f : α → Option β} {g : α → β} {l : List α}
    (h : ∀ a ∈ l, f a = some (g a)) : l.mapM f = some (l.map g) := by
  induction l with
  | nil => rfl
  | cons a rest ih =>
    rw [List.mapM_cons, h a (by simp), ih fun b hb => h b (by simp [hb])]
    rfl

/-- A test that never fails keeps the items that pass it. -/
theorem filterM_map_eq_ok {ε α β : Type} {f : α → β} {p : β → Except ε Bool} {q : α → Bool}
    {l : List α} (h : ∀ a ∈ l, p (f a) = .ok (q a)) :
    (l.map f).filterM p = .ok ((l.filter q).map f) := by
  have haux : ∀ acc, (l.map f).filterAuxM p acc = .ok (((l.filter q).map f).reverse ++ acc) := by
    induction l with
    | nil => intro acc; rfl
    | cons a rest ih =>
      intro acc
      rw [List.map_cons, List.filterAuxM, h a (by simp), ok_bind, ih fun b hb => h b (by simp [hb])]
      cases hq : q a <;> simp [hq]
  rw [List.filterM, haux, ok_bind]
  simp [pure, Except.pure]

theorem filterM_eq_ok {ε α : Type} {p : α → Except ε Bool} {q : α → Bool} {l : List α}
    (h : ∀ a ∈ l, p a = .ok (q a)) : l.filterM p = .ok (l.filter q) := by
  simpa using filterM_map_eq_ok (f := id) h

/-- A step that never fails is done for every item. -/
theorem mapM_eq_ok {ε α β : Type} {f : α → Except ε β} {g : α → β} {l : List α}
    (h : ∀ a ∈ l, f a = .ok (g a)) : l.mapM f = .ok (l.map g) := by
  induction l with
  | nil => rfl
  | cons a rest ih =>
    rw [List.mapM_cons, h a (by simp), ok_bind, ih fun b hb => h b (by simp [hb])]
    rfl

/-- What every step keeps is kept by all of them. -/
theorem foldlM_keeps {ε α β : Type} {f : β → α → Except ε β} {R : β → β → Prop} {l : List α}
    (refl : ∀ b, R b b) (trans : ∀ {b b' b''}, R b b' → R b' b'' → R b b'')
    (step : ∀ {b b' a}, f b a = .ok b' → R b b') {b b' : β} (h : l.foldlM f b = .ok b') : R b b' := by
  induction l generalizing b with
  | nil =>
    cases h
    exact refl _
  | cons a rest ih =>
    rw [List.foldlM_cons] at h
    cases ha : f b a with
    | error e => simp [ha, error_bind] at h
    | ok b₁ =>
      rw [ha, ok_bind] at h
      exact trans (step ha) (ih h)

/-! ## Steps on a state -/

section State

variable {ε σ α β : Type}

theorem run_bind (step : ExceptT ε (StateM σ) α) (f : α → ExceptT ε (StateM σ) β) (s : σ) :
    (step >>= f).run.run s =
      match step.run.run s with
      | (.ok a, s') => (f a).run.run s'
      | (.error e, s') => (.error e, s') := by
  rw [ExceptT.run_bind, StateT.run_bind]
  generalize step.run.run s = o
  obtain ⟨r, s'⟩ := o
  cases r <;> rfl

theorem run_tryCatch (step : ExceptT ε (StateM σ) α) (handle : ε → ExceptT ε (StateM σ) α) (s : σ) :
    (tryCatch step handle : ExceptT ε (StateM σ) α).run.run s =
      match step.run.run s with
      | (.ok a, s') => (.ok a, s')
      | (.error e, s') => (handle e).run.run s' := by
  have hrun : step.run.run s = StateT.run step s := rfl
  change (ExceptT.tryCatch step handle).run.run s = _
  rw [hrun, ExceptT.tryCatch, ExceptT.run_mk, StateT.run_bind]
  generalize StateT.run step s = o
  obtain ⟨r, s'⟩ := o
  cases r <;> rfl

end State

end Tablewright
