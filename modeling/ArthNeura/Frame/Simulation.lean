import ArthNeura.Frame.Run

set_option autoImplicit false

/-! # Forward simulation

A run of a step function is explained by an abstract transition relation: every step of the run is
one abstract transition or none, and the states stay related (`exec_simulation`). How many
transitions there were is counted along, so that a measure of the abstract side bounds the steps of
the run that move (`Path.add_le`).
-/

namespace Frame

variable {D : Type} {R : D → D → Prop}

/-- `n` transitions in a row. -/
inductive Path (R : D → D → Prop) : Nat → D → D → Prop
  | nil (d : D) : Path R 0 d d
  | snoc {n : Nat} {d d' d'' : D} (h : Path R n d d') (hR : R d' d'') : Path R (n + 1) d d''

/-- A measure that every transition lowers bounds the number of transitions. -/
theorem Path.add_le {f : D → Nat} (hf : ∀ d d', R d d' → f d' < f d) {n : Nat} {d d' : D}
    (h : Path R n d d') : n + f d' ≤ f d := by
  induction h with
  | nil d => omega
  | snoc _ hR ih =>
      have hlt := hf _ _ hR
      omega

variable {σ ι : Type} {step : σ → ι → σ}

/-- **The simulation rule.** If every step of a run is matched by one transition where it `moves`,
and by none where it does not, the whole run is matched by as many transitions as steps moved. -/
theorem exec_simulation (Sim : σ → D → Prop) (moves : σ → ι → Bool) (ok : σ → ι → Prop)
    (hmove : ∀ s i d, Sim s d → ok s i → moves s i = true → ∃ d', R d d' ∧ Sim (step s i) d')
    (hstay : ∀ s i d, Sim s d → ok s i → moves s i = false → Sim (step s i) d)
    (s : σ) (d : D) (h0 : Sim s d) (is : List ι) (hok : ∀ p ∈ trace step s is, ok p.1 p.2) :
    ∃ d', Path R ((trace step s is).countP fun p => moves p.1 p.2) d d' ∧
      Sim (exec step s is) d' := by
  -- from the right: the last step extends the path
  induction is using List.reverseRecOn with
  | nil => exact ⟨d, .nil d, h0⟩
  | append_singleton is i ih =>
      rw [trace_append] at hok ⊢
      rw [exec_append, List.countP_append]
      obtain ⟨d', hpath, hsim⟩ := ih fun p hp => hok p (List.mem_append_left _ hp)
      have hlast := hok (exec step s is, i) (List.mem_append_right _ (by simp [trace]))
      cases hm : moves (exec step s is) i with
      | true =>
          obtain ⟨d'', hR, hsim'⟩ := hmove _ i d' hsim hlast hm
          refine ⟨d'', ?_, hsim'⟩
          have hcount : (trace step (exec step s is) [i]).countP (fun p => moves p.1 p.2) = 1 := by
            simp [trace, hm]
          rw [hcount]
          exact hpath.snoc hR
      | false =>
          refine ⟨d', ?_, hstay _ i d' hsim hlast hm⟩
          have hcount : (trace step (exec step s is) [i]).countP (fun p => moves p.1 p.2) = 0 := by
            simp [trace, hm]
          rw [hcount]
          exact hpath

end Frame
