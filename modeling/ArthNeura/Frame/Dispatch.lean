import Mathlib.Data.Option.Basic

set_option autoImplicit false

/-! # Dispatchable calls over a storage state

A call of a pallet reads and writes its storage and may stop at any point with an error. It
is a program of `EStateM ε σ Unit`: a failing program keeps the storage it has reached, so
that a guard placed after a write is visibly placed after it. `dispatch` is the layer the
framework wraps around every call: it commits the storage of a successful call and throws
away that of a failing one.

The lemmas `run_ensure_ok`, `run_okOr_ok`, … invert a successful run by its first statement;
`run_ensure_error`, … do the same for a failing run. The specification of a call is obtained
by rewriting with them, and nothing else unfolds a call.
-/

namespace Frame

/-- Where a call comes from. -/
inductive Origin (AccountId : Type) where
  | root
  | signed (who : AccountId)
  | none
  deriving DecidableEq

/-- The error of a call: a bad origin, an error of the pallet itself, or one that a pallet it
calls has returned. -/
inductive DispatchError (E ε : Type) where
  | badOrigin
  | module (e : E)
  | callee (e : ε)
  deriving DecidableEq

section

variable {E ε ε' σ τ α β AccountId : Type}

/-- `ensure!(p, e)`. -/
def ensure (p : Prop) [Decidable p] (e : ε) : EStateM ε σ Unit :=
  if p then pure () else throw e

/-- `o.ok_or(e)?`. -/
def okOr (o : Option α) (e : ε) : EStateM ε σ α :=
  match o with
  | some a => pure a
  | none => throw e

/-- `ensure_signed(origin)?`. -/
def ensureSigned (origin : Origin AccountId) : EStateM (DispatchError E ε) σ AccountId :=
  match origin with
  | .signed who => pure who
  | _ => throw .badOrigin

/-- Run a program on a part of the state, mapping its errors. -/
def zoom (view : σ → τ) (put : τ → σ → σ) (err : ε → ε') (m : EStateM ε τ α) :
    EStateM ε' σ α := fun s =>
  match m.run (view s) with
  | .ok a t => .ok a (put t s)
  | .error e t => .error (err e) (put t s)

/-- The storage after a call: a failing call is rolled back. -/
def dispatch (m : EStateM ε σ Unit) (s : σ) : σ :=
  match m.run s with
  | .ok _ s' => s'
  | .error _ _ => s

/-- Whether a call succeeds. -/
def succeeds (m : EStateM ε σ Unit) (s : σ) : Bool :=
  match m.run s with
  | .ok _ _ => true
  | .error _ _ => false

/-! ## Reads and writes -/

@[simp] theorem run_get_bind (f : σ → EStateM ε σ β) (s : σ) :
    ((get : EStateM ε σ σ) >>= f).run s = (f s).run s := (rfl)

@[simp] theorem run_modify_bind (g : σ → σ) (f : PUnit → EStateM ε σ β) (s : σ) :
    ((modify g : EStateM ε σ PUnit) >>= f).run s = (f ⟨⟩).run (g s) := (rfl)

/-! ## Successful runs -/

section

variable {s s' s'' : σ} {b : β} {f : α → EStateM ε σ β}

theorem run_bind_ok {x : EStateM ε σ α} :
    (x >>= f).run s = .ok b s'' ↔
      ∃ a s', x.run s = .ok a s' ∧ (f a).run s' = .ok b s'' := by
  rw [EStateM.run_bind]
  cases x.run s with
  | ok a s' =>
      constructor
      · intro h
        exact ⟨a, s', rfl, h⟩
      · rintro ⟨a', t, h, hf⟩
        cases h
        exact hf
  | error e s' => simp

theorem run_modify_ok {g : σ → σ} {u : PUnit} :
    (modify g : EStateM ε σ PUnit).run s = .ok u s' ↔ s' = g s := by
  rw [EStateM.run_modify, EStateM.Result.ok.injEq]
  simp [eq_comm]

theorem run_ensure_ok {p : Prop} [Decidable p] {e : ε} {f : Unit → EStateM ε σ β} :
    (ensure p e >>= f).run s = .ok b s' ↔ p ∧ (f ()).run s = .ok b s' := by
  unfold ensure
  by_cases hp : p
  · rw [if_pos hp]
    exact ⟨fun h => ⟨hp, h⟩, fun h => h.2⟩
  · rw [if_neg hp]
    exact ⟨nofun, fun h => absurd h.1 hp⟩

theorem run_okOr_ok {o : Option α} {e : ε} :
    (okOr o e >>= f).run s = .ok b s' ↔ ∃ a, o = some a ∧ (f a).run s = .ok b s' := by
  cases o with
  | none => exact ⟨nofun, nofun⟩
  | some a =>
      constructor
      · intro h
        exact ⟨a, rfl, h⟩
      · rintro ⟨_, ⟨⟩, h⟩
        exact h

theorem run_ensureSigned_ok {origin : Origin AccountId} {s s' : σ} {b : β}
    {f : AccountId → EStateM (DispatchError E ε) σ β} :
    (ensureSigned origin >>= f).run s = .ok b s' ↔
      ∃ who, origin = .signed who ∧ (f who).run s = .ok b s' := by
  cases origin with
  | signed who =>
      constructor
      · intro h
        exact ⟨who, rfl, h⟩
      · rintro ⟨_, ⟨⟩, h⟩
        exact h
  | root => exact ⟨nofun, nofun⟩
  | none => exact ⟨nofun, nofun⟩

theorem run_zoom_ok {view : σ → τ} {put : τ → σ → σ} {err : ε → ε'} {m : EStateM ε τ α}
    {a : α} :
    (zoom view put err m).run s = .ok a s' ↔
      ∃ t, m.run (view s) = .ok a t ∧ s' = put t s := by
  unfold zoom
  simp only [EStateM.run]
  cases m (view s) with
  | ok b t =>
      simp only [EStateM.Result.ok.injEq]
      constructor
      · rintro ⟨rfl, rfl⟩
        exact ⟨t, ⟨rfl, rfl⟩, rfl⟩
      · rintro ⟨t', ⟨rfl, rfl⟩, rfl⟩
        exact ⟨rfl, rfl⟩
  | error e t => simp

end

/-! ## Failing runs -/

section

variable {s s' s'' : σ} {e e' : ε} {f : α → EStateM ε σ β}

theorem run_bind_error {x : EStateM ε σ α} :
    (x >>= f).run s = .error e s'' ↔
      x.run s = .error e s'' ∨ ∃ a s', x.run s = .ok a s' ∧ (f a).run s' = .error e s'' := by
  rw [EStateM.run_bind]
  cases x.run s with
  | ok a s' =>
      constructor
      · intro h
        exact Or.inr ⟨a, s', rfl, h⟩
      · rintro (h | ⟨a', t, h, hf⟩)
        · cases h
        · cases h
          exact hf
  | error e' s' => simp

theorem run_modify_error {g : σ → σ} :
    ¬ (modify g : EStateM ε σ PUnit).run s = .error e s' := nofun

theorem run_ensure_error {p : Prop} [Decidable p] {f : Unit → EStateM ε σ β} :
    (ensure p e >>= f).run s = .error e' s' ↔
      (¬ p ∧ e' = e ∧ s' = s) ∨ (p ∧ (f ()).run s = .error e' s') := by
  unfold ensure
  by_cases hp : p
  · rw [if_pos hp]
    exact ⟨fun h => Or.inr ⟨hp, h⟩, fun h => h.elim (fun h => absurd hp h.1) (fun h => h.2)⟩
  · rw [if_neg hp]
    constructor
    · rintro ⟨⟩
      exact Or.inl ⟨hp, rfl, rfl⟩
    · rintro (⟨_, rfl, rfl⟩ | h)
      · rfl
      · exact absurd h.1 hp

theorem run_okOr_error {o : Option α} :
    (okOr o e >>= f).run s = .error e' s' ↔
      (o = none ∧ e' = e ∧ s' = s) ∨ ∃ a, o = some a ∧ (f a).run s = .error e' s' := by
  cases o with
  | none =>
      constructor
      · rintro ⟨⟩
        exact Or.inl ⟨rfl, rfl, rfl⟩
      · rintro (⟨_, rfl, rfl⟩ | ⟨_, h, _⟩)
        · rfl
        · cases h
  | some a =>
      constructor
      · intro h
        exact Or.inr ⟨a, rfl, h⟩
      · rintro (⟨h, _⟩ | ⟨_, ⟨⟩, h⟩)
        · cases h
        · exact h

theorem run_ensureSigned_error {origin : Origin AccountId} {s s' : σ} {e : DispatchError E ε}
    {f : AccountId → EStateM (DispatchError E ε) σ β} :
    (ensureSigned origin >>= f).run s = .error e s' ↔
      ((∀ who, origin ≠ .signed who) ∧ e = .badOrigin ∧ s' = s) ∨
        ∃ who, origin = .signed who ∧ (f who).run s = .error e s' := by
  cases origin with
  | signed who =>
      constructor
      · intro h
        exact Or.inr ⟨who, rfl, h⟩
      · rintro (⟨h, _⟩ | ⟨_, ⟨⟩, h⟩)
        · exact absurd rfl (h who)
        · exact h
  | root =>
      constructor
      · rintro ⟨⟩
        exact Or.inl ⟨nofun, rfl, rfl⟩
      · rintro (⟨_, rfl, rfl⟩ | ⟨_, h, _⟩)
        · rfl
        · cases h
  | none =>
      constructor
      · rintro ⟨⟩
        exact Or.inl ⟨nofun, rfl, rfl⟩
      · rintro (⟨_, rfl, rfl⟩ | ⟨_, h, _⟩)
        · rfl
        · cases h

theorem run_zoom_error {view : σ → τ} {put : τ → σ → σ} {err : ε → ε'} {m : EStateM ε τ α}
    {e' : ε'} :
    (zoom view put err m).run s = .error e' s' ↔
      ∃ e t, m.run (view s) = .error e t ∧ e' = err e ∧ s' = put t s := by
  unfold zoom
  simp only [EStateM.run]
  cases m (view s) with
  | ok b t => simp
  | error e t =>
      simp only [EStateM.Result.error.injEq]
      constructor
      · rintro ⟨rfl, rfl⟩
        exact ⟨e, t, ⟨rfl, rfl⟩, rfl, rfl⟩
      · rintro ⟨e₁, t₁, ⟨rfl, rfl⟩, rfl, rfl⟩
        exact ⟨rfl, rfl⟩

end

/-! ## The storage layer -/

theorem succeeds_iff {m : EStateM ε σ Unit} {s : σ} :
    succeeds m s = true ↔ ∃ s', m.run s = .ok () s' := by
  unfold succeeds
  cases m.run s with
  | ok u s' => simp
  | error e s' => simp

theorem dispatch_of_ok {m : EStateM ε σ Unit} {s s' : σ} (h : m.run s = .ok () s') :
    dispatch m s = s' := by
  unfold dispatch
  rw [h]

theorem dispatch_of_not_succeeds {m : EStateM ε σ Unit} {s : σ}
    (h : succeeds m s = false) : dispatch m s = s := by
  unfold succeeds at h
  unfold dispatch
  cases hm : m.run s with
  | ok u s' => rw [hm] at h; cases h
  | error e s' => rfl

/-- **A call either succeeds, and its storage is committed, or fails and changes nothing.** -/
theorem dispatch_cases (m : EStateM ε σ Unit) (s : σ) :
    (∃ s', m.run s = .ok () s' ∧ dispatch m s = s')
      ∨ (succeeds m s = false ∧ dispatch m s = s) := by
  cases h : succeeds m s with
  | true =>
      obtain ⟨s', hs'⟩ := succeeds_iff.mp h
      exact Or.inl ⟨s', hs', dispatch_of_ok hs'⟩
  | false => exact Or.inr ⟨rfl, dispatch_of_not_succeeds h⟩

end

end Frame
