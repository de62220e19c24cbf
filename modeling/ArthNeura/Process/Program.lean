import ArthNeura.Frame.Dispatch

set_option autoImplicit false

/-! # Programs that depend on the outside

A program of the client talks to the operating system and to a chain. Each step of that kind is
given its `Outcome`: the step goes through, fails, or never returns because the process is killed
there. A program is then a function of its state and its outcomes, and a statement about all
outcomes is one about all faults. A program that fails keeps the state it has reached, so what it
leaves behind (`after`) is visible whether it returns or not.

The lemmas `run_external_ok`, `run_attempt_ok`, … invert a run that returns by its first step, and
`not_stops_external`, … do the same for a run that comes so far as to change something.
-/

namespace Process

open Frame

/-- The ways a program ends without a value. -/
inductive Exit (ε : Type) where
  | error (e : ε)
  | panicked
  | killed
  deriving DecidableEq

def Exit.map {ε ε' : Type} (f : ε → ε') : Exit ε → Exit ε'
  | .error e => .error (f e)
  | .panicked => .panicked
  | .killed => .killed

/-- What becomes of a step outside the program. -/
inductive Outcome (α : Type) where
  | ok (a : α)
  | err (e : String)
  | killed

abbrev Program (ε σ α : Type) := EStateM (Exit ε) σ α

section

variable {ε ε' σ τ α β : Type}

def fail (e : ε) : Program ε σ α := throw (.error e)

/-- A step outside the program, and what the program makes of its error. -/
def external (wrap : String → ε) : Outcome α → Program ε σ α
  | .ok a => pure a
  | .err e => fail (wrap e)
  | .killed => throw .killed

/-- A computation that may fail. -/
def attempt (wrap : ε' → ε) : Except ε' α → Program ε σ α
  | .ok a => pure a
  | .error e => fail (wrap e)

/-- A computation that may end in any way. -/
def fromExcept : Except (Exit ε) α → Program ε σ α
  | .ok a => pure a
  | .error e => throw e

/-- What the program makes of an outcome. -/
def Outcome.result (wrap : String → ε) : Outcome α → Except (Exit ε) α
  | .ok a => .ok a
  | .err e => .error (.error (wrap e))
  | .killed => .error .killed

/-- `ok_or`. -/
def orError (e : ε) : Option α → Except ε α
  | some a => .ok a
  | none => .error e

/-- Wrap the errors of a program. -/
def wrapError (wrap : ε' → ε) (m : Program ε' σ α) : Program ε σ α :=
  zoom id (fun s _ => s) (Exit.map wrap) m

/-- The state that a program leaves behind. -/
def after (m : Program ε σ α) (s : σ) : σ :=
  match m.run s with
  | .ok _ s' => s'
  | .error _ s' => s'

theorem external_ok (wrap : String → ε) (a : α) :
    (external wrap (.ok a) : Program ε σ α) = pure a := rfl

theorem attempt_ok (wrap : ε' → ε) (a : α) :
    (attempt wrap (.ok a) : Program ε σ α) = pure a := rfl

/-! ## Computations that may fail -/

section

variable {b : β}

theorem except_bind_ok {x : Except ε α} {f : α → Except ε β} :
    (x >>= f) = .ok b ↔ ∃ a, x = .ok a ∧ f a = .ok b := by
  cases x with
  | ok a =>
      constructor
      · intro h
        exact ⟨a, rfl, h⟩
      · rintro ⟨a', ha, h⟩
        cases ha
        exact h
  | error e =>
      constructor
      · intro h
        cases h
      · rintro ⟨a', ha, -⟩
        cases ha

theorem except_bind_error {x : Except ε α} {f : α → Except ε β} {e : ε} :
    (x >>= f) = .error e ↔ x = .error e ∨ ∃ a, x = .ok a ∧ f a = .error e := by
  cases x with
  | ok a =>
      constructor
      · intro h
        exact Or.inr ⟨a, rfl, h⟩
      · rintro (h | ⟨a', ha, h⟩)
        · cases h
        · cases ha
          exact h
  | error e' =>
      constructor
      · intro h
        cases h
        exact Or.inl rfl
      · rintro (h | ⟨a', ha, -⟩)
        · cases h
          rfl
        · cases ha

theorem orError_ok {e : ε} {o : Option α} {a : α} : orError e o = .ok a ↔ o = some a := by
  cases o <;> simp [orError]

theorem mapError_ok {f : ε' → ε} {x : Except ε' α} {a : α} : x.mapError f = .ok a ↔ x = .ok a := by
  cases x <;> simp [Except.mapError]

theorem mapError_error {f : ε' → ε} {x : Except ε' α} {e : ε} :
    x.mapError f = .error e ↔ ∃ e', x = .error e' ∧ e = f e' := by
  cases x <;> simp [Except.mapError, eq_comm]

theorem Outcome.result_ok {wrap : String → ε} {o : Outcome α} {a : α} :
    o.result wrap = .ok a ↔ o = .ok a := by
  cases o <;> simp [Outcome.result]

end

/-! ## Runs of a computation

The steps that are not writes are all of the form `fromExcept x`. -/

section

variable {s s' : σ} {b : β} {f : α → Program ε σ β}

theorem external_eq (wrap : String → ε) (o : Outcome α) :
    (external wrap o : Program ε σ α) = fromExcept (o.result wrap) := by
  cases o <;> rfl

theorem attempt_eq (wrap : ε' → ε) (x : Except ε' α) :
    (attempt wrap x : Program ε σ α) = fromExcept (x.mapError fun e => .error (wrap e)) := by
  cases x <;> rfl

theorem run_fromExcept_ok {x : Except (Exit ε) α} {a : α} :
    (fromExcept x).run s = .ok a s' ↔ x = .ok a ∧ s' = s := by
  cases x with
  | ok a' =>
      constructor
      · intro h
        cases h
        exact ⟨rfl, rfl⟩
      · rintro ⟨ha, rfl⟩
        cases ha
        rfl
  | error e =>
      constructor
      · intro h
        cases h
      · rintro ⟨ha, -⟩
        cases ha

theorem run_fromExcept_error {x : Except (Exit ε) α} {exit : Exit ε} :
    (fromExcept x : Program ε σ α).run s = .error exit s' ↔ x = .error exit ∧ s' = s := by
  cases x with
  | ok a' =>
      constructor
      · intro h
        cases h
      · rintro ⟨he, -⟩
        cases he
  | error e =>
      constructor
      · intro h
        cases h
        exact ⟨rfl, rfl⟩
      · rintro ⟨he, rfl⟩
        cases he
        rfl

theorem run_fromExcept_bind_ok {x : Except (Exit ε) α} :
    (fromExcept x >>= f).run s = .ok b s' ↔ ∃ a, x = .ok a ∧ (f a).run s = .ok b s' := by
  rw [run_bind_ok]
  constructor
  · rintro ⟨a, t, ha, h⟩
    obtain ⟨hx, rfl⟩ := run_fromExcept_ok.1 ha
    exact ⟨a, hx, h⟩
  · rintro ⟨a, hx, h⟩
    exact ⟨a, s, run_fromExcept_ok.2 ⟨hx, rfl⟩, h⟩

theorem run_fromExcept_bind_error {x : Except (Exit ε) α} {exit : Exit ε} :
    (fromExcept x >>= f).run s = .error exit s' ↔
      (x = .error exit ∧ s' = s) ∨ ∃ a, x = .ok a ∧ (f a).run s = .error exit s' := by
  rw [run_bind_error, run_fromExcept_error]
  constructor
  · rintro (h | ⟨a, t, ha, h⟩)
    · exact Or.inl h
    · obtain ⟨hx, rfl⟩ := run_fromExcept_ok.1 ha
      exact Or.inr ⟨a, hx, h⟩
  · rintro (h | ⟨a, hx, h⟩)
    · exact Or.inl h
    · exact Or.inr ⟨a, s, run_fromExcept_ok.2 ⟨hx, rfl⟩, h⟩

theorem run_external_ok {wrap : String → ε} {o : Outcome α} :
    (external wrap o >>= f).run s = .ok b s' ↔ ∃ a, o = .ok a ∧ (f a).run s = .ok b s' := by
  rw [external_eq, run_fromExcept_bind_ok]
  simp only [Outcome.result_ok]

theorem run_attempt_ok {wrap : ε' → ε} {x : Except ε' α} :
    (attempt wrap x >>= f).run s = .ok b s' ↔ ∃ a, x = .ok a ∧ (f a).run s = .ok b s' := by
  rw [attempt_eq, run_fromExcept_bind_ok]
  simp only [mapError_ok]

theorem run_attempt_error {wrap : ε' → ε} {x : Except ε' α} {exit : Exit ε} :
    (attempt wrap x >>= f).run s = .error exit s' ↔
      (∃ e, x = .error e ∧ exit = .error (wrap e) ∧ s' = s) ∨
        ∃ a, x = .ok a ∧ (f a).run s = .error exit s' := by
  rw [attempt_eq, run_fromExcept_bind_error]
  simp only [mapError_ok, mapError_error]
  constructor
  · rintro (⟨⟨e, hx, hexit⟩, hs⟩ | h)
    · exact Or.inl ⟨e, hx, hexit, hs⟩
    · exact Or.inr h
  · rintro (⟨e, hx, hexit, hs⟩ | h)
    · exact Or.inl ⟨⟨e, hx, hexit⟩, hs⟩
    · exact Or.inr h

end

/-! ## What a program leaves behind -/

section

variable {s s' : σ}

theorem run_wrapError_of_ok {m : Program ε' σ α} {a : α} (wrap : ε' → ε)
    (h : m.run s = .ok a s') : (wrapError wrap m).run s = .ok a s' :=
  run_zoom_ok.2 ⟨s', h, rfl⟩

theorem run_wrapError_of_error {m : Program ε' σ α} {e : Exit ε'} (wrap : ε' → ε)
    (h : m.run s = .error e s') : (wrapError wrap m).run s = .error (e.map wrap) s' :=
  run_zoom_error.2 ⟨e, s', h, rfl, rfl⟩

theorem after_of_ok {m : Program ε σ α} {a : α} (h : m.run s = .ok a s') : after m s = s' := by
  rw [after, h]

theorem after_of_error {m : Program ε σ α} {e : Exit ε} (h : m.run s = .error e s') :
    after m s = s' := by
  rw [after, h]

theorem after_bind_of_ok {m : Program ε σ α} {f : α → Program ε σ β} {a : α}
    (h : m.run s = .ok a s') : after (m >>= f) s = after (f a) s' := by
  rw [after, after, EStateM.run_bind, h]

theorem after_bind_of_error {m : Program ε σ α} {f : α → Program ε σ β} {e : Exit ε}
    (h : m.run s = .error e s') : after (m >>= f) s = s' := by
  rw [after, EStateM.run_bind, h]

/-- Steps that change nothing, one after the other. -/
theorem after_bind_self {m : Program ε σ α} {f : α → Program ε σ β} (hm : after m s = s)
    (hf : ∀ a, after (f a) s = s) : after (m >>= f) s = s := by
  cases hrun : m.run s with
  | ok a t =>
      rw [after_of_ok hrun] at hm
      rw [after_bind_of_ok hrun, hm]
      exact hf a
  | error e t =>
      rw [after_of_error hrun] at hm
      rw [after_bind_of_error hrun, hm]

theorem after_attempt (wrap : ε' → ε) (x : Except ε' α) (s : σ) :
    after (attempt wrap x : Program ε σ α) s = s := by
  cases x <;> rfl

theorem after_get_bind (f : σ → Program ε σ β) (s : σ) : after (get >>= f) s = after (f s) s := rfl

theorem after_bind_pure (m : Program ε σ α) (g : α → β) (s : σ) :
    after (m >>= fun a => pure (g a)) s = after m s := by
  cases hrun : m.run s with
  | ok a t => rw [after_bind_of_ok hrun, after_of_ok hrun]; rfl
  | error e t => rw [after_bind_of_error hrun, after_of_error hrun]

theorem after_zoom (view : σ → τ) (put : τ → σ → σ) (err : Exit ε' → Exit ε)
    (m : Program ε' τ α) (s : σ) :
    after (zoom view put err m) s = put (after m (view s)) s := by
  cases hrun : m.run (view s) with
  | ok a t => rw [after_of_ok (run_zoom_ok.2 ⟨t, hrun, rfl⟩), after_of_ok hrun]
  | error e t => rw [after_of_error (run_zoom_error.2 ⟨e, t, hrun, rfl, rfl⟩), after_of_error hrun]

end

/-! ## Programs that stop before they change anything -/

section

variable {s : σ} {f : α → Program ε σ β}

/-- The program ends without a value, in the state it started from. -/
def Stops (m : Program ε σ α) (s : σ) : Prop := ∃ exit, m.run s = .error exit s

theorem stops_get_bind {f : σ → Program ε σ β} : Stops (get >>= f) s ↔ Stops (f s) s := Iff.rfl

theorem not_stops_ensure {p : Prop} [Decidable p] {exit : Exit ε} {f : Unit → Program ε σ β} :
    ¬ Stops (ensure p exit >>= f) s ↔ p ∧ ¬ Stops (f ()) s := by
  unfold ensure
  by_cases hp : p
  · rw [if_pos hp]
    exact ⟨fun h => ⟨hp, h⟩, fun h => h.2⟩
  · rw [if_neg hp]
    exact ⟨fun h => absurd ⟨exit, rfl⟩ h, fun h => absurd h.1 hp⟩

theorem not_stops_fromExcept {x : Except (Exit ε) α} :
    ¬ Stops (fromExcept x >>= f) s ↔ ∃ a, x = .ok a ∧ ¬ Stops (f a) s := by
  cases x with
  | ok a =>
      constructor
      · intro h
        exact ⟨a, rfl, h⟩
      · rintro ⟨a', ha, h⟩
        cases ha
        exact h
  | error e =>
      constructor
      · intro h
        exact absurd ⟨e, rfl⟩ h
      · rintro ⟨a', ha, -⟩
        cases ha

theorem not_stops_external {wrap : String → ε} {o : Outcome α} :
    ¬ Stops (external wrap o >>= f) s ↔ ∃ a, o = .ok a ∧ ¬ Stops (f a) s := by
  rw [external_eq, not_stops_fromExcept]
  simp only [Outcome.result_ok]

theorem not_stops_attempt {wrap : ε' → ε} {x : Except ε' α} :
    ¬ Stops (attempt wrap x >>= f) s ↔ ∃ a, x = .ok a ∧ ¬ Stops (f a) s := by
  rw [attempt_eq, not_stops_fromExcept]
  simp only [mapError_ok]

end

end

end Process
