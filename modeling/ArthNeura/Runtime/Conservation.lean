import ArthNeura.Runtime.Authority
import ArthNeura.AgentRegistry.Effects

set_option autoImplicit false

/-! # Conservation of funds

Reserving, unreserving and repatriating move funds between balances, whatever the reserve covers
of the amount asked for; only the strike slash destroys any. So the supply and what the
`DepositSlashed` events report have a constant sum (`funds_conserved`). The events tell the truth:
the amount of an event is what the slash has taken from the reserve of the controller.

Accounts are 32 bytes long in the runtime, so there are finitely many of them.
-/

namespace Runtime

open Frame VectorDb

variable {AccountId : Type} [DecidableEq AccountId] {cfg : Config AccountId}

/-! ## What the events report -/

/-- The amount of a `DepositSlashed` event. -/
def slashAmount : AgentRegistry.Event AccountId → Nat
  | .depositSlashed _ _ amount _ => amount
  | _ => 0

/-- The sum of the amounts of the `DepositSlashed` events. -/
def slashedTotal (events : List (AgentRegistry.Event AccountId)) : Nat :=
  (events.map slashAmount).sum

omit [DecidableEq AccountId] in
theorem slashedTotal_append (events : List (AgentRegistry.Event AccountId))
    (e : AgentRegistry.Event AccountId) :
    slashedTotal (events ++ [e]) = slashedTotal events + slashAmount e := by
  simp [slashedTotal]

variable [Fintype AccountId]

/-- The supply, together with what was slashed. -/
def wealth (x : Ext cfg) : Nat := cfg.currency.supply x.ledger + slashedTotal x.registry.events

/-- A step of the registry keeps the supply together with what was slashed. -/
theorem stepEffect_supply {rcfg : AgentRegistry.Config AccountId} {s s' : AgentRegistry.State rcfg}
    {i : AgentRegistry.Input AccountId} (h : AgentRegistry.StepEffect s i s') :
    rcfg.currency.supply s'.ledger + slashedTotal s'.storage.events
      = rcfg.currency.supply s.ledger + slashedTotal s.storage.events := by
  cases h with
  | failed | unslashed | unstruck | newBlock => rfl
  | updated | starred | unstarred | slashed | struck =>
      simp [slashedTotal_append, slashAmount]
  | @statusSet did newStatus p hp hst =>
      by_cases hn : newStatus = .revoked <;> simp [hn, slashedTotal_append, slashAmount]
  | registered hdid hnone hledger hpush =>
      simp [slashedTotal_append, slashAmount, ReservableCurrency.supply_reserve hledger]
  | deregistered hp hst =>
      simp [slashedTotal_append, slashAmount, ReservableCurrency.supply_unreserve]
  | @depositSlashed did amount p hp hle =>
      -- what `slash_reserved` takes is less than the penalty if the reserve is; the event has it
      have hslash := ReservableCurrency.supply_slashReserved p.controller
        rcfg.depositSlashPerStrike s.ledger
      simp only [AgentRegistry.State.insertProfile, AgentRegistry.State.depositEvent,
        AgentRegistry.State.putStrikes, AgentRegistry.State.putLedger, slashedTotal_append,
        slashAmount]
      omega

theorem wealth_registryCall (s : State cfg) (origin : Origin AccountId) (c : AgentRegistry.Call) :
    wealth (step s (.call origin (.agentRegistry c))).ext = wealth s.ext := by
  rcases registryCall_cases s origin c with ⟨t, hrun, hstep⟩ | hstep
  · rw [hstep]
    exact stepEffect_supply (AgentRegistry.call_stepEffect hrun)
  · rw [hstep]

theorem wealth_penalizeFalseDisputer (x : Ext cfg) (did : Did) :
    wealth (ReputationHandlerAdapter.penalizeFalseDisputer did x) = wealth x :=
  stepEffect_supply (AgentRegistry.step_stepEffect x.registryState
    (.slashReputation did cfg.falseDisputeSlash))

theorem wealth_penalizeProvider (x : Ext cfg) (did : Did) :
    wealth (ReputationHandlerAdapter.penalizeProvider did x) = wealth x :=
  stepEffect_supply (AgentRegistry.step_stepEffect x.registryState
    (.slashReputationForGuiltyDelivery did cfg.providerGuiltySlash))

theorem CallEffect.wealth_eq {s s' : State cfg} {origin : Origin AccountId} {c : VectorDb.Call}
    (h : CallEffect s s' origin c) : wealth s'.ext = wealth s.ext := by
  cases h with
  | register _ _ _ _ _ _ _ _ _ _ _ hext => rw [hext]
  | acknowledge _ _ _ _ _ _ _ _ hledger _ hext =>
      rw [hext]
      exact congrArg (· + _) (ReservableCurrency.supply_reserve hledger)
  | close _ _ _ _ _ _ _ _ _ hr _ hext =>
      rw [hext]
      exact congrArg (· + _) (ReservableCurrency.supply_repatriateReserved hr)
  | raise _ _ _ _ _ _ _ _ _ hext => rw [hext]
  | counter _ _ _ _ _ _ _ _ _ _ _ hr _ hext =>
      rw [hext, wealth_penalizeFalseDisputer]
      exact congrArg (· + _) (ReservableCurrency.supply_repatriateReserved hr)
  | finalize _ _ _ _ _ _ _ _ hext =>
      rw [hext, wealth_penalizeProvider]
      exact congrArg (· + _) (ReservableCurrency.supply_unreserve _ _ _)
  | expire _ _ _ _ _ hext => rw [hext]

theorem wealth_step (s : State cfg) (i : Input AccountId) :
    wealth (step s i).ext = wealth s.ext := by
  cases i with
  | newBlocks blocks blockHash => rfl
  | call origin c =>
      cases c with
      | agentRegistry c => exact wealth_registryCall s origin c
      | vectorDb c =>
          rcases dispatch_cases (c.run cfg.vectorDb origin) s with ⟨s', hok, hd⟩ | ⟨-, hd⟩
          · rw [step, hd]
            exact (vectorDb_effect hok).wealth_eq
          · rw [step, hd]

/-! ## The events are true -/

omit [Fintype AccountId] in
/-- What a `DepositSlashed` event of a step stands for: the step is a `finalize_dispute` against
`did`, and after the refund of the escrow the penalty has taken `amount` from the reserve of the
controller `a`. Over the whole step, `a` has lost `amount`. -/
structure TrueSlash (s : State cfg) (i : Input AccountId) (did : Did) (a : AccountId)
    (amount : Nat) : Prop where
  penalty : ∃ who id record, i = .call (.signed who) (.vectorDb (.finalizeDispute id)) ∧
    (step s i).ext = ReputationHandlerAdapter.penalizeProvider did (s.ext.refunded id record) ∧
    cfg.currency.reserved (s.ext.refunded id record).ledger a
      = cfg.currency.reserved (step s i).ext.ledger a + amount
  controller : controllerOf s did = some a
  total : total s a = total (step s i) a + amount
  le_slash : amount ≤ cfg.registry.depositSlashPerStrike

omit [Fintype AccountId] in
/-- A call of the registry slashes no deposit. -/
theorem registryCall_newEvents (s : State cfg) (origin : Origin AccountId)
    (c : AgentRegistry.Call) :
    ∃ new, (step s (.call origin (.agentRegistry c))).ext.registry.events
        = s.ext.registry.events ++ new ∧
      ∀ did a amount strikes, .depositSlashed did a amount strikes ∉ new := by
  rcases registryCall_cases s origin c with ⟨t, hrun, hstep⟩ | hstep
  · obtain ⟨new, hev, hnew⟩ := (AgentRegistry.call_stepEffect hrun).newEvents
    rw [hstep]
    refine ⟨new, hev, fun did a amount strikes hmem => ?_⟩
    obtain ⟨n, hi⟩ := (hnew did a amount strikes hmem).input
    cases hi
  · rw [hstep]
    exact ⟨[], (List.append_nil _).symm, by simp⟩

omit [Fintype AccountId] in
/-- The events of a successful call of `pallet-vector-db`. -/
theorem vectorDbCall_newEvents {s : State cfg} {origin : Origin AccountId} {c : VectorDb.Call}
    (h : CallEffect s (step s (.call origin (.vectorDb c))) origin c) :
    ∃ new, (step s (.call origin (.vectorDb c))).ext.registry.events
        = s.ext.registry.events ++ new ∧
      ∀ did a amount strikes, .depositSlashed did a amount strikes ∈ new →
        TrueSlash s (.call origin (.vectorDb c)) did a amount := by
  cases h.registryEffect with
  | untouched _ hreg =>
      rw [hreg]
      exact ⟨[], (List.append_nil _).symm, by simp⟩
  | @falseDisputer _ x did hext hx =>
      -- the consumer loses reputation only
      obtain ⟨new, hev, hnew⟩ := (AgentRegistry.step_stepEffect x.registryState
        (.slashReputation did cfg.falseDisputeSlash)).newEvents
      rw [hext, ← hx]
      refine ⟨new, hev, fun did a amount strikes hmem => ?_⟩
      obtain ⟨n, hi⟩ := (hnew did a amount strikes hmem).input
      cases hi
  | @provider id cm record hc hcm hext =>
      subst hc
      obtain ⟨new, hev, hnew⟩ := (AgentRegistry.step_stepEffect
        (s.ext.refunded id record).registryState
        (.slashReputationForGuiltyDelivery cm.provider cfg.providerGuiltySlash)).newEvents
      refine ⟨new, by rw [hext]; exact hev, fun did a amount strikes hmem => ?_⟩
      have hreport := hnew did a amount strikes hmem
      obtain ⟨n, hi⟩ := hreport.input
      cases hi
      have hreserved : cfg.currency.reserved (s.ext.refunded id record).ledger a
          = cfg.currency.reserved
            (step s (.call origin (.vectorDb (.finalizeDispute id)))).ext.ledger a + amount := by
        rw [hext]
        exact hreport.reserved
      have hfree : cfg.currency.free
          (step s (.call origin (.vectorDb (.finalizeDispute id)))).ext.ledger a
          = cfg.currency.free (s.ext.refunded id record).ledger a := by
        rw [hext]
        exact hreport.free
      -- the refund moves the escrow back to the free balance of its payer, who may be `a`
      have hrefund : cfg.currency.total (s.ext.refunded id record).ledger a = total s a :=
        ReservableCurrency.total_unreserve _ _ _ a
      obtain ⟨who, ho⟩ : ∃ who, origin = .signed who := by
        cases h with
        | finalize ho => exact ⟨_, ho⟩
      refine ⟨⟨who, id, record, by rw [ho], hext, hreserved⟩, hreport.controller, ?_,
        hreport.le_slash⟩
      rw [← hrefund, total, ReservableCurrency.total, ReservableCurrency.total, hreserved, hfree,
        Nat.add_assoc]

omit [Fintype AccountId] in
theorem step_newEvents (s : State cfg) (i : Input AccountId) :
    ∃ new, (step s i).ext.registry.events = s.ext.registry.events ++ new ∧
      ∀ did a amount strikes, .depositSlashed did a amount strikes ∈ new →
        TrueSlash s i did a amount := by
  cases i with
  | newBlocks blocks blockHash => exact ⟨[], (List.append_nil _).symm, by simp⟩
  | call origin c =>
      cases c with
      | agentRegistry c =>
          obtain ⟨new, hev, hnew⟩ := registryCall_newEvents s origin c
          exact ⟨new, hev, fun did a amount strikes hmem =>
            absurd hmem (hnew did a amount strikes)⟩
      | vectorDb c =>
          rcases dispatch_cases (c.run cfg.vectorDb origin) s with ⟨s', hok, hd⟩ | ⟨-, hd⟩
          · refine vectorDbCall_newEvents ?_
            rw [step, hd]
            exact vectorDb_effect hok
          · have hstep : step s (.call origin (.vectorDb c)) = s := hd
            rw [hstep]
            exact ⟨[], (List.append_nil _).symm, by simp⟩

/-- **Funds are conserved.** In every run, what all accounts own together is the initial amount
minus the sum of the `DepositSlashed` events, and every such event is true. -/
theorem funds_conserved (cfg : Config AccountId) (disputeWindow : Option Nat)
    (blockHash : Nat → Bytes32) (ledger : cfg.currency.Ledger) (run : List (Input AccountId)) :
    (cfg.currency.supply
        (exec step (genesis cfg disputeWindow blockHash ledger) run).ext.ledger
      + slashedTotal
        (exec step (genesis cfg disputeWindow blockHash ledger) run).ext.registry.events
      = cfg.currency.supply ledger) ∧
    ∀ p ∈ trace step (genesis cfg disputeWindow blockHash ledger) run,
      ∃ new, (step p.1 p.2).ext.registry.events = p.1.ext.registry.events ++ new ∧
        ∀ did a amount strikes, .depositSlashed did a amount strikes ∈ new →
          TrueSlash p.1 p.2 did a amount := by
  have hwealth : wealth (exec step (genesis cfg disputeWindow blockHash ledger) run).ext
      = wealth (genesis cfg disputeWindow blockHash ledger).ext :=
    exec_rel (fun s t : State cfg => wealth t.ext = wealth s.ext) (fun _ => rfl)
      (fun _ _ _ hst htu => htu.trans hst) wealth_step run _
  exact ⟨hwealth, fun p _ => step_newEvents p.1 p.2⟩

end Runtime
