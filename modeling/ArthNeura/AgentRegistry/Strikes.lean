import ArthNeura.AgentRegistry.Effects

set_option autoImplicit false

/-! # Strikes

A guilty verdict is a strike; the strike that reaches the threshold starts the count again and
slashes the deposit. Seen from one DID this is a counter with a threshold (`StrikeStep`), whose
closed form is a division with remainder (`StrikeCount.closed`). `StepEffect.strikeStep` says that
the registry keeps such a counter for every DID, whether it has a profile or not.
-/

namespace AgentRegistry

open Frame

/-! ## A counter with a threshold -/

/-- One step of a `u32` counter with the threshold `T`, and of the list of what it reports. It
counts if `b` is true. The step that reaches the threshold reports the count and starts again. -/
inductive StrikeStep (T : Nat) (b : Bool) (n : Nat) (reports : List Nat) (n' : Nat)
    (reports' : List Nat) : Prop
  | kept (hb : b = false) (hn : n' = n) (hreports : reports' = reports)
  | counted (hb : b = true) (hlt : satAdd n 1 < T) (hn : n' = satAdd n 1)
      (hreports : reports' = reports)
  | reported (hb : b = true) (hle : T ≤ satAdd n 1) (hn : n' = 0)
      (hreports : reports' = reports ++ [satAdd n 1])

/-- After `k` strikes, the counter is at `n` and has reported the threshold each time. -/
structure StrikeCount (T k n : Nat) (reports : List Nat) : Prop where
  lt_threshold : n < T
  exists_reports : ∃ q, reports = List.replicate q T ∧ k = T * q + n

theorem StrikeStep.strikeCount {T k n n' : Nat} {b : Bool} {reports reports' : List Nat}
    (h : StrikeStep T b n reports n' reports') (hT : T ≤ u32Max)
    (hc : StrikeCount T k n reports) : StrikeCount T (k + if b then 1 else 0) n' reports' := by
  obtain ⟨hlt, q, hq, hk⟩ := hc
  -- the count stays below the threshold, which is a `u32`, so `saturating_add` is exact
  have hadd : satAdd n 1 = n + 1 := by
    rw [u32Max] at hT
    exact satAdd_eq (by omega)
  cases h with
  | kept hb hn hreports =>
      subst hb hn hreports
      exact ⟨hlt, q, hq, hk⟩
  | counted hb hbelow hn hreports =>
      subst hb hn hreports
      rw [hadd] at hbelow ⊢
      refine ⟨hbelow, q, hq, ?_⟩
      rw [hk]
      rfl
  | reported hb hle hn hreports =>
      subst hb hn hreports
      rw [hadd] at hle ⊢
      -- the count grows by one at a time, so it meets the threshold and does not jump over it
      have hreached : n + 1 = T := by omega
      refine ⟨by omega, q + 1, ?_, ?_⟩
      · rw [hq, hreached, List.replicate_succ']
      · rw [hk, if_pos rfl, Nat.mul_succ]
        omega

/-- **The closed form of the counter.** -/
theorem StrikeCount.closed {T k n : Nat} {reports : List Nat} (h : StrikeCount T k n reports) :
    n = k % T ∧ reports = List.replicate (k / T) T := by
  obtain ⟨hlt, q, hreports, hk⟩ := h
  have hdiv : k / T = q ∧ k % T = n := by
    rw [Nat.div_mod_unique (by omega)]
    exact ⟨by rw [hk, Nat.add_comm], hlt⟩
  exact ⟨hdiv.2.symm, by rw [hdiv.1, hreports]⟩

/-! ## The strikes of a DID -/

variable {AccountId : Type} [DecidableEq AccountId] {cfg : Config AccountId}

/-- The strike counts that the `DepositSlashed` events for `d` report. -/
def slashReports (d : Did) (events : List (Event AccountId)) : List Nat :=
  events.filterMap fun e =>
    match e with
    | .depositSlashed did _ _ strikesAtSlash => if did = d then some strikesAtSlash else none
    | _ => none

/-- The input is a guilty verdict on `d`, which has a profile. -/
def strikes (d : Did) (st : Storage AccountId) : Input AccountId → Bool
  | .slashReputationForGuiltyDelivery did _ => decide (did = d) && (st.agentProfiles d).isSome
  | _ => false

omit [DecidableEq AccountId] in
theorem slashReports_append (d : Did) (events : List (Event AccountId)) (e : Event AccountId) :
    slashReports d (events ++ [e]) = slashReports d events ++ slashReports d [e] :=
  List.filterMap_append

section

variable {s : State cfg} {d : Did}

theorem strikes_self {n : Nat} {p : AgentProfile AccountId}
    (hp : s.storage.agentProfiles d = some p) :
    strikes d s.storage (.slashReputationForGuiltyDelivery d n : Input AccountId) = true := by
  simp [strikes, hp]

theorem strikes_of_ne {did : Did} {n : Nat} (hd : did ≠ d) :
    strikes d s.storage (.slashReputationForGuiltyDelivery did n : Input AccountId) = false := by
  simp [strikes, hd]

end

/-- **The registry keeps a counter with a threshold for every DID.** -/
theorem StepEffect.strikeStep {s s' : State cfg} {i : Input AccountId} (h : StepEffect s i s')
    (d : Did) :
    StrikeStep cfg.strikeThreshold (strikes d s.storage i)
      (s.storage.disputeStrikes d) (slashReports d s.storage.events)
      (s'.storage.disputeStrikes d) (slashReports d s'.storage.events) := by
  have hquiet : ∀ e : Event AccountId, slashReports d [e] = [] →
      slashReports d (s.storage.events ++ [e]) = slashReports d s.storage.events := by
    intro e he
    rw [slashReports_append, he, List.append_nil]
  cases h with
  | failed | unslashed | newBlock => exact .kept rfl rfl rfl
  | registered | updated | starred | unstarred | deregistered | slashed =>
      exact .kept rfl rfl (hquiet _ rfl)
  | @statusSet did newStatus p hp hst =>
      have hreports := hquiet (.agentStatusChanged did newStatus) rfl
      refine .kept rfl ?_ (Eq.trans (congrArg _ ?_) hreports)
      all_goals by_cases hn : newStatus = .revoked <;> simp [hn]
  | @unstruck did amount hnone =>
      -- the source returns early for a DID without a profile, and this is no strike
      refine .kept ?_ rfl rfl
      by_cases hd : did = d
      · subst hd
        simp [strikes, hnone]
      · exact strikes_of_ne hd
  | @struck did amount p hp hlt =>
      have hreports := hquiet (.reputationSlashed did amount (p.reputationScore - amount)) rfl
      by_cases hd : did = d
      · subst hd
        exact .counted (strikes_self hp) hlt (Function.update_self _ _ _) hreports
      · exact .kept (strikes_of_ne hd) (Function.update_of_ne (Ne.symm hd) _ _) hreports
  | @depositSlashed did amount p hp hle =>
      have hreports := hquiet (.reputationSlashed did amount (p.reputationScore - amount)) rfl
      by_cases hd : did = d
      · subst hd
        refine .reported (strikes_self hp) hle (Function.update_self _ _ _) ?_
        -- two events: the slash of the score is not reported, the slash of the deposit is
        refine (slashReports_append _ _ _).trans ?_
        rw [← hreports]
        simp [slashReports]
      · refine .kept (strikes_of_ne hd) (Function.update_of_ne (Ne.symm hd) _ _) ?_
        refine (slashReports_append _ _ _).trans ?_
        rw [← hreports]
        simp [slashReports, hd]

end AgentRegistry
