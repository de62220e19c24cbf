import ArthNeura.Runtime.Effects

set_option autoImplicit false

/-! # Escrows and deposits share one reserve

The reserve of an account backs its registration deposits and the escrows it has funded, without
a record of which part is which. `Backed` says that it covers both. Locking, releasing and
refunding keep it; a deregistration keeps it if the deposit it returns is whole, and a strike
slash if the deposit of the slashed DID covers it (`KeepsDeposits`). In the runs whose steps are
of this kind every escrow is backed, and is paid out in full (`escrows_backed`).
-/

namespace Runtime

open Frame VectorDb

variable {AccountId : Type} [DecidableEq AccountId] {cfg : Config AccountId}

/-- The reserve of every account covers what is left of its deposits and its locked escrows. -/
def Backed (x : Ext cfg) : Prop := AgentRegistry.Covers x.registryState x.escrow.lockedFor

/-! ## Locking and settling -/

section

variable {x x' : Ext cfg} {id : CommitmentId} {record : Escrow.EscrowRecord AccountId}

/-- The reserve may shrink with what is locked. -/
theorem Backed.of_locked (h : Backed x) (hreg : x'.registry = x.registry)
    (hmove : ∀ a, x.escrow.lockedFor a ≤ cfg.currency.reserved x.ledger a →
      x'.escrow.lockedFor a + cfg.currency.reserved x.ledger a
        ≤ x.escrow.lockedFor a + cfg.currency.reserved x'.ledger a) : Backed x' := by
  intro a
  have ha : x.registryState.depositsLeft a + x.escrow.lockedFor a
      ≤ cfg.currency.reserved x.ledger a := h a
  have hslashed : x'.registryState.slashed = x.registryState.slashed := by
    funext d
    show AgentRegistry.slashedSince x'.registry.events d = _
    rw [hreg]
    rfl
  have hdep : x'.registryState.depositsLeft a = x.registryState.depositsLeft a :=
    AgentRegistry.depositsLeft_congr (congrArg AgentRegistry.Storage.controllerOf hreg) hslashed a
  have hm := hmove a (le_of_add_le_right ha)
  show x'.registryState.depositsLeft a + x'.escrow.lockedFor a
    ≤ cfg.currency.reserved x'.ledger a
  omega

theorem Backed.locked (h : Backed x) {payer payee : AccountId} {amount : Nat}
    {ledger : cfg.currency.Ledger} (hfree : x.escrow.escrows id = none)
    (hledger : cfg.currency.reserve payer amount x.ledger = some ledger) :
    Backed (x.locked id payer payee amount ledger) := by
  refine h.of_locked rfl fun a _ => ?_
  have hsum := Escrow.lockedFor_insert x.escrow id
    ⟨payer, payee, amount, .locked, x.system.blockNumber⟩
    (x.escrow.events ++ [.fundsLocked id payer payee amount]) a
  rw [hfree, Escrow.lockedAmount_locked rfl] at hsum
  have hres := ReservableCurrency.reserved_reserve hledger a
  simp only [Ext.locked, Escrow.lockedAmount] at hsum ⊢
  omega

theorem Backed.released (h : Backed x) {r : cfg.currency.Ledger × Nat}
    (hescrow : x.escrow.escrows id = some record) (hlocked : record.status = .locked)
    (hr : cfg.currency.repatriateReserved record.payer record.payee record.amount x.ledger
      = .ok r) : Backed (x.released id record r.1) := by
  refine h.of_locked rfl fun a hle => ?_
  have hsum := Escrow.lockedFor_insert x.escrow id { record with status := .released }
    (x.escrow.events ++ [.fundsReleased id record.payer record.payee record.amount]) a
  rw [hescrow, Escrow.lockedAmount_locked hlocked, Escrow.lockedAmount_settled (by simp)] at hsum
  have hres := ReservableCurrency.reserved_repatriateReserved hr a
  simp only [Ext.released]
  omega

theorem Backed.refunded (h : Backed x) (hescrow : x.escrow.escrows id = some record)
    (hlocked : record.status = .locked) : Backed (x.refunded id record) := by
  refine h.of_locked rfl fun a hle => ?_
  have hsum := Escrow.lockedFor_insert x.escrow id { record with status := .refunded }
    (x.escrow.events ++ [.fundsRefunded id record.payer record.amount]) a
  rw [hescrow, Escrow.lockedAmount_locked hlocked, Escrow.lockedAmount_settled (by simp)] at hsum
  have hres := ReservableCurrency.reserved_unreserve record.payer record.amount x.ledger a
  simp only [Ext.refunded]
  omega

end

/-! ## Penalties and calls of the registry -/

theorem Backed.penalizeFalseDisputer {x : Ext cfg} (h : Backed x) (did : Did) :
    Backed (ReputationHandlerAdapter.penalizeFalseDisputer did x) :=
  (AgentRegistry.slashReputation_neutral did cfg.falseDisputeSlash x.registryState).covers h

theorem Backed.penalizeProvider {x : Ext cfg} (h : Backed x) (did : Did)
    (hcov : ∀ a, AgentRegistry.StrikesOut x.registryState did a →
      cfg.registry.depositSlashPerStrike
        ≤ cfg.registry.registrationDeposit - x.registryState.slashed did) :
    Backed (ReputationHandlerAdapter.penalizeProvider did x) := by
  rcases AgentRegistry.guiltyDelivery_effect did cfg.providerGuiltySlash x.registryState with
    ⟨a, hout, hsl⟩ | ⟨-, hn⟩
  · exact hsl.covers (hcov a hout) h
  · exact hn.covers h

/-- The condition on a step under which it leaves the escrows alone: a DID is deregistered with
its deposit whole, and a deposit is slashed by no more than is left of it. -/
def KeepsDeposits (s : State cfg) : Input AccountId → Prop
  | .call origin (.agentRegistry (.deregisterAgent did)) =>
      succeeds (AgentRegistry.deregisterAgent origin did) s.ext.registryState = true →
        s.ext.registryState.slashed did = 0
  | .call origin (.vectorDb (.finalizeDispute id)) =>
      succeeds (finalizeDispute cfg.vectorDb origin id) s = true →
        ∀ c a, s.storage.vectorCommitments id = some c →
          AgentRegistry.StrikesOut s.ext.registryState c.provider a →
          cfg.registry.depositSlashPerStrike
            ≤ cfg.registry.registrationDeposit - s.ext.registryState.slashed c.provider
  | _ => True

theorem Backed.registryCall {s : State cfg} (h : Backed s.ext) {origin : Origin AccountId}
    {c : AgentRegistry.Call} (hok : KeepsDeposits s (.call origin (.agentRegistry c))) :
    Backed (step s (.call origin (.agentRegistry c))).ext := by
  rcases registryCall_cases s origin c with ⟨t, hrun, hstep⟩ | hstep
  · rw [hstep]
    rcases AgentRegistry.call_effect hrun with ⟨-, hn⟩ | ⟨-, a, did, -, hr⟩ |
      ⟨did, p, rfl, -, -, -, hde⟩
    · exact hn.covers h
    · exact hr.covers h
    · exact hde.covers (hok (succeeds_iff.mpr ⟨t, hrun⟩)) h
  · rw [hstep]
    exact h

theorem Backed.vectorDbCall {s s' : State cfg} (h : Backed s.ext) {origin : Origin AccountId}
    {c : VectorDb.Call} (hrun : (c.run cfg.vectorDb origin).run s = .ok () s')
    (hok : KeepsDeposits s (.call origin (.vectorDb c))) : Backed s'.ext := by
  cases vectorDb_effect hrun with
  | register _ _ _ _ _ _ _ _ _ _ _ hext => rw [hext]; exact h
  | acknowledge _ _ _ _ _ _ _ hfree hledger _ hext => rw [hext]; exact h.locked hfree hledger
  | close _ _ _ _ _ _ _ hescrow hlocked hr _ hext =>
      rw [hext]
      exact h.released hescrow hlocked hr
  | raise _ _ _ _ _ _ _ _ _ hext => rw [hext]; exact h
  | counter _ _ _ _ _ _ _ _ _ hescrow hlocked hr _ hext =>
      rw [hext]
      exact (h.released hescrow hlocked hr).penalizeFalseDisputer _
  | finalize _ hc _ _ _ hescrow hlocked _ hext =>
      rw [hext]
      -- the refund changes neither the controllers nor the strikes
      exact (h.refunded hescrow hlocked).penalizeProvider _
        (fun a hout => hok (succeeds_iff.mpr ⟨s', hrun⟩) _ a hc hout)
  | expire _ _ _ _ _ hext => rw [hext]; exact h

theorem step_backed {s : State cfg} (h : Backed s.ext) (i : Input AccountId)
    (hok : KeepsDeposits s i) : Backed (step s i).ext := by
  cases i with
  | newBlocks blocks blockHash => exact h
  | call origin c =>
      cases c with
      | agentRegistry c => exact h.registryCall hok
      | vectorDb c =>
          rcases dispatch_cases (c.run cfg.vectorDb origin) s with ⟨s', hrun, hd⟩ | ⟨-, hd⟩
          · rw [step, hd]
            exact h.vectorDbCall hrun hok
          · rw [step, hd]
            exact h

theorem backed_genesis (cfg : Config AccountId) (disputeWindow : Option Nat)
    (blockHash : Nat → Bytes32) (ledger : cfg.currency.Ledger) :
    Backed (genesis cfg disputeWindow blockHash ledger).ext := by
  intro a
  have hdep := AgentRegistry.depositsLeft_genesis ⟨0, blockHash⟩ ledger a
  have hlock : (⟨.empty, []⟩ : Escrow.Storage AccountId).lockedFor a = 0 := by
    rw [Escrow.Storage.lockedFor]
    exact Finset.sum_eq_zero fun _ _ => rfl
  show AgentRegistry.State.depositsLeft (AgentRegistry.genesis cfg.registry ⟨0, blockHash⟩ ledger)
    a + Escrow.Storage.lockedFor ⟨.empty, []⟩ a ≤ _
  rw [hdep, hlock]
  exact Nat.zero_le _

theorem backed_exec {cfg : Config AccountId} {disputeWindow : Option Nat}
    {blockHash : Nat → Bytes32} {ledger : cfg.currency.Ledger} {run : List (Input AccountId)}
    (hok : ∀ p ∈ trace step (genesis cfg disputeWindow blockHash ledger) run,
      KeepsDeposits p.1 p.2) :
    Backed (exec step (genesis cfg disputeWindow blockHash ledger) run).ext :=
  exec_invariant (fun s : State cfg => Backed s.ext) KeepsDeposits
    (fun _ i h hi => step_backed h i hi) run _
    (backed_genesis cfg disputeWindow blockHash ledger) hok

/-! ## Paying out -/

/-- A release of a backed escrow credits the payee with the whole amount. -/
theorem release_exact {x : Ext cfg} (h : Backed x) {id : CommitmentId}
    {t : Escrow.State cfg.currency} (hrun : (Escrow.release id).run x.escrowState = .ok () t) :
    ∃ record, x.escrow.escrows id = some record ∧
      t.storage.events
        = x.escrow.events ++ [.fundsReleased id record.payer record.payee record.amount] ∧
      cfg.currency.free t.ledger record.payee
        = cfg.currency.free x.ledger record.payee + record.amount := by
  obtain ⟨record, hrec, hlocked, r, hr, rfl⟩ := Escrow.release_ok.mp hrun
  refine ⟨record, hrec, rfl, ?_⟩
  have hle : record.amount ≤ cfg.currency.reserved x.ledger record.payer :=
    (Escrow.amount_le_lockedFor hrec hlocked).trans (le_of_add_le_right (h record.payer))
  have hfree := ReservableCurrency.free_repatriateReserved hr record.payee
  rw [if_pos rfl] at hfree
  rw [hfree]
  exact congrArg _ (min_eq_right hle)

/-- A refund of a backed escrow frees the whole amount for the payer. -/
theorem refund_exact {x : Ext cfg} (h : Backed x) {id : CommitmentId}
    {t : Escrow.State cfg.currency} (hrun : (Escrow.refund id).run x.escrowState = .ok () t) :
    ∃ record, x.escrow.escrows id = some record ∧
      t.storage.events = x.escrow.events ++ [.fundsRefunded id record.payer record.amount] ∧
      cfg.currency.free t.ledger record.payer
        = cfg.currency.free x.ledger record.payer + record.amount := by
  obtain ⟨record, hrec, hlocked, rfl⟩ := Escrow.refund_ok.mp hrun
  refine ⟨record, hrec, rfl, ?_⟩
  have hle : record.amount ≤ cfg.currency.reserved x.ledger record.payer :=
    (Escrow.amount_le_lockedFor hrec hlocked).trans (le_of_add_le_right (h record.payer))
  have hfree := ReservableCurrency.free_unreserve record.payer record.amount x.ledger record.payer
  rw [if_pos rfl] at hfree
  exact hfree.trans (congrArg _ (min_eq_right hle))

/-- **Escrows are backed in every run that keeps deposits.** The reserve of every account covers
its locked escrows, and whatever is released or refunded is paid in full. -/
theorem escrows_backed (cfg : Config AccountId) (disputeWindow : Option Nat)
    (blockHash : Nat → Bytes32) (ledger : cfg.currency.Ledger) (run : List (Input AccountId))
    (hok : ∀ p ∈ trace step (genesis cfg disputeWindow blockHash ledger) run,
      KeepsDeposits p.1 p.2) (s : State cfg)
    (hs : s = exec step (genesis cfg disputeWindow blockHash ledger) run) :
    (∀ a, s.ext.escrow.lockedFor a ≤ cfg.currency.reserved s.ext.ledger a) ∧
    (∀ id t, (Escrow.release id).run s.ext.escrowState = .ok () t →
      ∃ record, s.ext.escrow.escrows id = some record ∧
        t.storage.events
          = s.ext.escrow.events ++ [.fundsReleased id record.payer record.payee record.amount] ∧
        cfg.currency.free t.ledger record.payee
          = cfg.currency.free s.ext.ledger record.payee + record.amount) ∧
    (∀ id t, (Escrow.refund id).run s.ext.escrowState = .ok () t →
      ∃ record, s.ext.escrow.escrows id = some record ∧
        t.storage.events = s.ext.escrow.events ++ [.fundsRefunded id record.payer record.amount] ∧
        cfg.currency.free t.ledger record.payer
          = cfg.currency.free s.ext.ledger record.payer + record.amount) := by
  have hb : Backed s.ext := by
    rw [hs]
    exact backed_exec hok
  exact ⟨fun a => le_of_add_le_right (hb a), fun _ _ => release_exact hb,
    fun _ _ => refund_exact hb⟩

theorem escrows_backed_deal :
    (exec step devGenesis dealRun).ext.escrow.lockedFor 2
      ≤ devConfig.currency.reserved (exec step devGenesis dealRun).ext.ledger 2 := by
  refine (escrows_backed devConfig none _ _ dealRun ?_ _ rfl).1 2
  intro p hp
  simp only [dealRun, trace, List.mem_cons, List.not_mem_nil, or_false] at hp
  rcases hp with rfl | rfl | rfl | rfl | rfl <;> trivial

/-- A commitment of key 1 to key 2 in block 1. -/
def guiltyId (n : Nat) : CommitmentId :=
  tailHash (commitmentPreimage (AgentRegistry.keyDid 1) (AgentRegistry.keyDid 2)
    (Bytes32.ofNat n) 1)

/-- The commitment is registered, acknowledged and disputed. -/
def guiltyDeal (n : Nat) : List (Input Nat) :=
  [.call (.signed 1) (.vectorDb (.registerCommitment (AgentRegistry.keyDid 1)
      (AgentRegistry.keyDid 2) (Bytes32.ofNat n) 1 .nil 10 0)),
    .call (.signed 2) (.vectorDb (.acknowledgeCommitment (guiltyId n) (AgentRegistry.keyDid 2))),
    .call (.signed 2) (.vectorDb (.raiseDispute (guiltyId n) (AgentRegistry.keyDid 2) 0
      (Bytes32.ofNat 0) 0))]

/-- A commitment of key 2 to key 3 in block 14402. -/
def unbackedId : CommitmentId :=
  tailHash (commitmentPreimage (AgentRegistry.keyDid 2) (AgentRegistry.keyDid 3)
    (Bytes32.ofNat 11) 14402)

/-- Account 1 has the keys 1 and 3, account 2 has key 2. Ten guilty verdicts on key 1 take 10 of
its 100 tokens. Then account 1 locks 50 tokens with key 3 and deregisters both of its keys. -/
def unbackedRun : List (Input Nat) :=
  [nextBlocks 1,
    .call (.signed 1) (.agentRegistry (AgentRegistry.registerKey 1)),
    .call (.signed 2) (.agentRegistry (AgentRegistry.registerKey 2)),
    .call (.signed 1) (.agentRegistry (AgentRegistry.registerKey 3))]
  ++ (List.range 10).flatMap (fun n => guiltyDeal (n + 1))
  ++ [nextBlocks 14401]
  ++ (List.range 10).map
    (fun n => .call (.signed 9) (.vectorDb (.finalizeDispute (guiltyId (n + 1)))))
  ++ [.call (.signed 2) (.vectorDb (.registerCommitment (AgentRegistry.keyDid 2)
      (AgentRegistry.keyDid 3) (Bytes32.ofNat 11) 1 .nil 10 (50 * AgentRegistry.unit))),
    .call (.signed 1) (.vectorDb (.acknowledgeCommitment unbackedId (AgentRegistry.keyDid 3))),
    .call (.signed 1) (.agentRegistry (.deregisterAgent (AgentRegistry.keyDid 1))),
    .call (.signed 1) (.agentRegistry (.deregisterAgent (AgentRegistry.keyDid 3)))]

/-- The two deregistrations return 200 tokens, of which 10 were slashed before: 40 are left for
the escrow of 50. -/
theorem not_backed_unbackedRun :
    ¬ (exec step devGenesis unbackedRun).ext.escrow.lockedFor 1
      ≤ devConfig.currency.reserved (exec step devGenesis unbackedRun).ext.ledger 1 := by
  intro h
  have hres : devConfig.currency.reserved (exec step devGenesis unbackedRun).ext.ledger 1
      = 40 * AgentRegistry.unit := by decide +kernel
  have hrec : (exec step devGenesis unbackedRun).ext.escrow.escrows unbackedId
      = some ⟨1, 2, 50 * AgentRegistry.unit, .locked, 14402⟩ := by decide +kernel
  have hle : 50 * AgentRegistry.unit ≤ 40 * AgentRegistry.unit :=
    (Escrow.amount_le_lockedFor hrec rfl).trans (h.trans hres.le)
  exact absurd hle (by decide)

end Runtime
