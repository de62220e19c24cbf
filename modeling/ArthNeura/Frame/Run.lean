import Mathlib.Data.List.Induction

set_option autoImplicit false

/-! # Runs of a state machine

A machine is a total function `step : σ → ι → σ`; a run is a list of inputs. `exec` is the
state a run ends in, and `trace` lists every input of the run with the state it meets. The
rules below turn a fact about one step into a fact about every run: an invariant
(`exec_invariant`), an invariant that speaks of the past of the run (`exec_history`), a relation
between the first and the last state (`exec_rel`), a bound on the growth of a quantity
(`trace_growth`), and an exact condition on the steps of a run for a property to hold in all its
states (`forall_take_iff`).
-/

namespace Frame

variable {σ ι : Type}

/-- The state after a run. -/
def exec (step : σ → ι → σ) (s : σ) (is : List ι) : σ := is.foldl step s

/-- The inputs of a run, each with the state it meets. -/
def trace (step : σ → ι → σ) : σ → List ι → List (σ × ι)
  | _, [] => []
  | s, i :: is => (s, i) :: trace step (step s i) is

@[simp] theorem exec_nil (step : σ → ι → σ) (s : σ) : exec step s [] = s := rfl

@[simp] theorem exec_cons (step : σ → ι → σ) (s : σ) (i : ι) (is : List ι) :
    exec step s (i :: is) = exec step (step s i) is := rfl

theorem exec_append (step : σ → ι → σ) (s : σ) (is js : List ι) :
    exec step s (is ++ js) = exec step (exec step s is) js := List.foldl_append

theorem trace_append (step : σ → ι → σ) (s : σ) (is js : List ι) :
    trace step s (is ++ js) = trace step s is ++ trace step (exec step s is) js := by
  induction is generalizing s with
  | nil => rfl
  | cons i is ih =>
      rw [List.cons_append, trace, ih (step s i)]
      rfl

theorem mem_trace_of_take {step : σ → ι → σ} {s : σ} {is : List ι} {k : Nat} {p : σ × ι}
    (h : p ∈ trace step s (is.take k)) : p ∈ trace step s is := by
  rw [← List.take_append_drop k is, trace_append]
  exact List.mem_append_left _ h

theorem mem_of_mem_trace {step : σ → ι → σ} {p : σ × ι} :
    ∀ {is : List ι} {s : σ}, p ∈ trace step s is → p.2 ∈ is := by
  intro is
  induction is with
  | nil => intro s hp; cases hp
  | cons i is ih =>
      intro s hp
      rcases List.mem_cons.mp hp with rfl | hp
      · exact List.mem_cons_self ..
      · exact List.mem_cons_of_mem i (ih hp)

/-- What holds in every state of a run holds before and after each of its steps. -/
theorem forall_trace_of_take {step : σ → ι → σ} {P : σ → Prop} :
    ∀ (is : List ι) (s : σ), (∀ k, P (exec step s (is.take k))) →
      ∀ p ∈ trace step s is, P p.1 ∧ P (step p.1 p.2) := by
  intro is
  induction is with
  | nil => intro s _ p hp; cases hp
  | cons i is ih =>
      intro s h p hp
      have h0 : P s := by simpa using h 0
      have h1 : P (step s i) := by simpa using h 1
      rcases List.mem_cons.mp hp with rfl | hp
      · exact ⟨h0, h1⟩
      · exact ih (step s i) (fun k => by simpa using h (k + 1)) p hp

/-- **The invariant rule.** What holds initially and is preserved by every step that meets the
condition `ok` holds after every run whose steps all meet it. -/
theorem exec_invariant {step : σ → ι → σ} (P : σ → Prop) (ok : σ → ι → Prop)
    (hstep : ∀ s i, P s → ok s i → P (step s i)) :
    ∀ (is : List ι) (s : σ), P s → (∀ p ∈ trace step s is, ok p.1 p.2) →
      P (exec step s is) := by
  intro is
  induction is with
  | nil => intro s hs _; exact hs
  | cons i is ih =>
      intro s hs hok
      have hi : ok s i := hok (s, i) (by simp [trace])
      exact ih (step s i) (hstep s i hs hi) (fun p hp => hok p (by simp [trace, hp]))

/-- The invariant rule for every state that a step of the run meets. -/
theorem trace_invariant {step : σ → ι → σ} (P : σ → Prop) (ok : σ → ι → Prop)
    (hstep : ∀ s i, P s → ok s i → P (step s i)) :
    ∀ (is : List ι) (s : σ), P s → (∀ p ∈ trace step s is, ok p.1 p.2) →
      ∀ p ∈ trace step s is, P p.1 := by
  intro is
  induction is with
  | nil => intro s _ _ p hp; cases hp
  | cons i is ih =>
      intro s hs hok p hp
      have hi : ok s i := hok (s, i) (by simp [trace])
      rcases List.mem_cons.mp hp with rfl | hp
      · exact hs
      · exact ih (step s i) (hstep s i hs hi) (fun q hq => hok q (by simp [trace, hq])) p hp

/-- **The history rule.** An invariant of the state and of the steps that led to it. -/
theorem exec_history {step : σ → ι → σ} (P : List (σ × ι) → σ → Prop)
    (hstep : ∀ past s i, P past s → P (past ++ [(s, i)]) (step s i)) (s : σ) (h0 : P [] s)
    (is : List ι) : P (trace step s is) (exec step s is) := by
  -- from the right: the last step extends the history
  induction is using List.reverseRecOn with
  | nil => exact h0
  | append_singleton is i ih =>
      rw [trace_append, exec_append]
      exact hstep _ _ i ih

/-- **The relation rule.** A reflexive and transitive relation that every step respects holds
between the first and the last state of every run. -/
theorem exec_rel {step : σ → ι → σ} (R : σ → σ → Prop) (hrefl : ∀ s, R s s)
    (htrans : ∀ s t u, R s t → R t u → R s u) (hstep : ∀ s i, R s (step s i)) :
    ∀ (is : List ι) (s : σ), R s (exec step s is) := by
  intro is
  induction is with
  | nil => exact hrefl
  | cons i is ih => intro s; exact htrans _ _ _ (hstep s i) (ih (step s i))

/-- **The growth rule.** A quantity that a step raises by one at most is bounded by its initial
value and the length of the run. -/
theorem trace_growth {step : σ → ι → σ} (f : σ → Nat) (hstep : ∀ s i, f (step s i) ≤ f s + 1) :
    ∀ (is : List ι) (s : σ), ∀ p ∈ trace step s is, f (step p.1 p.2) ≤ f s + is.length := by
  intro is
  induction is with
  | nil => intro s p hp; cases hp
  | cons i is ih =>
      intro s p hp
      have hs := hstep s i
      rw [List.length_cons]
      rcases List.mem_cons.mp hp with rfl | hp
      · show f (step s i) ≤ f s + (is.length + 1)
        omega
      · have hrest := ih (step s i) p hp
        omega

/-- **The exact condition rule.** Let `P` hold initially, and let a step from a state with `P`
that meets the background condition `Q` preserve `P` exactly when it meets `ok`. Then `P` holds in
every state of a run exactly when every step of the run meets `ok`. -/
theorem forall_take_iff {step : σ → ι → σ} (P : σ → Prop) (Q ok : σ → ι → Prop)
    (hstep : ∀ s i, Q s i → P s → (P (step s i) ↔ ok s i)) :
    ∀ (is : List ι) (s : σ), P s → (∀ p ∈ trace step s is, Q p.1 p.2) →
      ((∀ k, P (exec step s (is.take k))) ↔ ∀ p ∈ trace step s is, ok p.1 p.2) := by
  intro is
  induction is with
  | nil =>
      intro s hs _
      simp [trace, hs]
  | cons i is ih =>
      intro s hs hQ
      have hQs : Q s i := hQ (s, i) (by simp [trace])
      have hQ' : ∀ p ∈ trace step (step s i) is, Q p.1 p.2 :=
        fun p hp => hQ p (by simp [trace, hp])
      have hiff := hstep s i hQs hs
      constructor
      · intro hP p hp
        have hPi : P (step s i) := by simpa using hP 1
        rcases List.mem_cons.mp hp with rfl | hp
        · exact hiff.mp hPi
        · exact (ih (step s i) hPi hQ').mp (fun k => by simpa using hP (k + 1)) p hp
      · intro hok k
        have hPi : P (step s i) := hiff.mpr (hok (s, i) (by simp [trace]))
        cases k with
        | zero => exact hs
        | succ k =>
            exact (ih (step s i) hPi hQ').mpr (fun p hp => hok p (by simp [trace, hp])) k

end Frame
