import ArthNeura.Runtime.Effects

set_option autoImplicit false

/-! # Who can spend the money of an account

Calls are authorised by a DID and paid by an account, and a DID can change hands: its controller
deregisters it and somebody else registers the same key. So what a call can take from an account
that did not sign it depends on the past of the run. `Held` is the invariant that carries this
past: the payer of an active commitment still controls the DID of the consumer, or has
deregistered it after locking the escrow. With it, `spends_only` lists everything a call can take
from others.
-/

namespace Runtime

open Frame VectorDb

variable {AccountId : Type} [DecidableEq AccountId] {cfg : Config AccountId}

/-- What an account owns, free and reserved. -/
def total (s : State cfg) (b : AccountId) : Nat := cfg.currency.total s.ext.ledger b

def controllerOf (s : State cfg) (did : Did) : Option AccountId :=
  s.ext.registry.controllerOf did

/-! ## The controllers of DIDs -/

section

variable {s s' : State cfg}

theorem CallEffect.controllerOf_eq {origin : Origin AccountId} {c : VectorDb.Call}
    (h : CallEffect s s' origin c) :
    controllerOf s' = controllerOf s := by
  funext did
  rw [controllerOf, controllerOf]
  cases h.registryEffect with
  | untouched _ hreg => rw [hreg]
  | @falseDisputer _ x did' hext hx =>
      rw [hext, ← hx]
      exact congrFun (AgentRegistry.slashReputation_neutral did' cfg.falseDisputeSlash
        x.registryState).controller did
  | @provider id cm record _ _ hext =>
      rw [hext]
      rcases AgentRegistry.guiltyDelivery_effect cm.provider cfg.providerGuiltySlash
        (s.ext.refunded id record).registryState with ⟨a, -, hsl⟩ | ⟨-, hn⟩
      · exact congrFun hsl.controller did
      · exact congrFun hn.controller did

/-- A call of the registry takes a DID from its controller only if the controller signs. -/
theorem registryCall_controllerOf (origin : Origin AccountId) (c : AgentRegistry.Call)
    {did : Did} {a : AccountId} (h : controllerOf s did = some a) :
    controllerOf (step s (.call origin (.agentRegistry c))) did = some a ∨
      (c = .deregisterAgent did ∧ origin = .signed a ∧
        succeeds (c.run origin) s.ext.registryState = true) := by
  rcases registryCall_cases s origin c with ⟨t, hrun, hstep⟩ | hstep
  · rw [hstep]
    show t.storage.controllerOf did = some a ∨ _
    rcases AgentRegistry.call_effect hrun with ⟨-, hn⟩ | ⟨-, b, new, -, hr⟩ |
      ⟨old, p, rfl, -, ho, -, hde⟩
    · rw [hn.controller]
      exact Or.inl h
    · -- a new DID had no controller
      have hne : did ≠ new := by
        rintro rfl
        cases h.symm.trans hr.fresh
      rw [hr.controller, Function.update_of_ne hne]
      exact Or.inl h
    · by_cases hold : did = old
      · subst hold
        have hp : a = p.controller := Option.some.inj (h.symm.trans hde.registered)
        exact Or.inr ⟨rfl, hp ▸ ho, succeeds_iff.mpr ⟨t, hrun⟩⟩
      · rw [hde.controller, Function.update_of_ne hold]
        exact Or.inl h
  · rw [hstep]
    exact Or.inl h

end

/-! ## The past of a DID -/

/-- A step in which the payer of a locked escrow deregisters the DID. -/
def Abandons (p : State cfg × Input AccountId) (id : CommitmentId)
    (record : Escrow.EscrowRecord AccountId) (did : Did) : Prop :=
  p.2 = .call (.signed record.payer) (.agentRegistry (.deregisterAgent did)) ∧
    succeeds (AgentRegistry.deregisterAgent (.signed record.payer) did)
      p.1.ext.registryState = true ∧
    p.1.ext.escrow.escrows id = some record

/-- The payer of an active commitment controls the DID of the consumer, or has deregistered it
since the escrow was locked. -/
def HeldAt (past : List (State cfg × Input AccountId)) (s : State cfg) (id : CommitmentId) :
    Prop :=
  ∀ c record, (entry s id).commitment = some c → c.status = .active →
    (entry s id).escrow = some record →
    controllerOf s c.consumer = some record.payer ∨ ∃ p ∈ past, Abandons p id record c.consumer

def Held (past : List (State cfg × Input AccountId)) (s : State cfg) : Prop :=
  ∀ id, HeldAt past s id

/-- At an entry that a step does not change, only the controllers matter. -/
theorem HeldAt.keep {past : List (State cfg × Input AccountId)} {s s' : State cfg}
    {i : Input AccountId} {id : CommitmentId} (h : HeldAt past s id)
    (hentry : entry s' id = entry s id)
    (hctrl : ∀ did record, s.ext.escrow.escrows id = some record →
      controllerOf s did = some record.payer →
      controllerOf s' did = some record.payer ∨ Abandons (s, i) id record did) :
    HeldAt (past ++ [(s, i)]) s' id := by
  intro c record hc hst hrec
  rw [hentry] at hc hrec
  rcases h c record hc hst hrec with hp | ⟨p, hp, hab⟩
  · rcases hctrl c.consumer record hrec hp with hp' | hab
    · exact Or.inl hp'
    · exact Or.inr ⟨(s, i), by simp, hab⟩
  · exact Or.inr ⟨p, List.mem_append_left _ hp, hab⟩

/-- A commitment becomes active only by its acknowledgement, which its consumer signs. -/
theorem CallEffect.heldAt {past : List (State cfg × Input AccountId)} {s s' : State cfg}
    {origin : Origin AccountId} {c : VectorDb.Call} (h : CallEffect s s' origin c) :
    HeldAt past s' (c.target cfg.vectorDb s) := by
  have hactive : ∀ {id : CommitmentId} {cm : VectorCommitment} {d r},
      s'.records id = ⟨some cm, d, r⟩ → cm.status ≠ .active → HeldAt past s' id := by
    intro id cm d r hrec hne c' record hc' hst _
    have hcm : c' = cm := Option.some.inj (hc'.symm.trans (congrArg Records.commitment hrec))
    exact absurd (hcm ▸ hst) hne
  have hctrl := h.controllerOf_eq
  cases h with
  | register _ _ _ _ _ _ _ _ hc _ hrec _ =>
      subst hc
      exact hactive hrec (by simp [newCommitment])
  | @acknowledge id did who payee c ledger _ _ _ _ hdid hauth _ _ _ hrec hext =>
      intro c' record hc' _ hescrow
      have hcm := Option.some.inj (hc'.symm.trans (congrArg Records.commitment hrec))
      have hpayer : record.payer = who := by
        have hnew : (entry s' id).escrow = some ⟨who, payee, c.price, .locked, now s⟩ := by
          rw [entry, hext]
          exact StorageMap.insert_self _ _ _
        rw [Option.some.inj (hescrow.symm.trans hnew)]
      left
      rw [hctrl, hpayer, hcm]
      show controllerOf s c.consumer = some who
      rw [hdid]
      exact hauth.1
  | close _ _ _ _ _ _ _ _ _ _ hrec _ => exact hactive hrec (by simp)
  | raise _ _ _ _ _ _ _ _ hrec _ => exact hactive hrec (by simp)
  | counter _ _ _ _ _ _ _ _ _ _ _ _ hrec _ => exact hactive hrec (by simp)
  | finalize _ _ _ _ _ _ _ hrec _ => exact hactive hrec (by simp)
  | expire _ _ _ _ hrec _ =>
      intro c' record hc' _ _
      cases hc'.symm.trans (congrArg Records.commitment hrec)

theorem step_held (past : List (State cfg × Input AccountId)) (s : State cfg)
    (i : Input AccountId) (h : Held past s) : Held (past ++ [(s, i)]) (step s i) := by
  intro id
  cases i with
  | newBlocks blocks blockHash => exact (h id).keep rfl fun _ _ _ hp => Or.inl hp
  | call origin c =>
      cases c with
      | agentRegistry c =>
          refine (h id).keep rfl fun did record hrec hp => ?_
          rcases registryCall_controllerOf origin c hp with hp' | ⟨rfl, rfl, hok⟩
          · exact Or.inl hp'
          · exact Or.inr ⟨rfl, hok, hrec⟩
      | vectorDb c =>
          rcases dispatch_cases (c.run cfg.vectorDb origin) s with ⟨s', hok, hd⟩ | ⟨-, hd⟩
          · rw [step, hd]
            have heff := vectorDb_effect hok
            by_cases hid : id = c.target cfg.vectorDb s
            · rw [hid]
              exact heff.heldAt
            · refine (h id).keep (vectorDb_entry_ne hok hid) fun did record _ hp => Or.inl ?_
              rw [heff.controllerOf_eq]
              exact hp
          · rw [step, hd]
            exact (h id).keep rfl fun _ _ _ hp => Or.inl hp

theorem held_exec (cfg : Config AccountId) (disputeWindow : Option Nat)
    (blockHash : Nat → Bytes32) (ledger : cfg.currency.Ledger) (run : List (Input AccountId)) :
    Held (trace step (genesis cfg disputeWindow blockHash ledger) run)
      (exec step (genesis cfg disputeWindow blockHash ledger) run) :=
  exec_history Held step_held _ (fun _ _ _ hc => by cases hc) run

/-! ## What a call takes from others -/

/-- The two ways in which a call of `who` is meant to take up to an amount from another account:
a disproved dispute pays the provider from the escrow, and a guilty verdict that reaches the
strike threshold slashes the deposit of the provider. -/
inductive Sanctioned (s : State cfg) (who b : AccountId) : Call → Nat → Prop
  | counterDispute {id : CommitmentId} {did : Did} {chunkData : BoundedVec UInt8 maxChunkLen}
      {merkleProof : BoundedVec Bytes32 maxProofDepth} {record : Escrow.EscrowRecord AccountId}
      (hok : succeeds (VectorDb.counterDispute cfg.vectorDb (.signed who) id did chunkData
        merkleProof) s = true)
      (hescrow : s.ext.escrow.escrows id = some record) (hpayer : record.payer = b) :
      Sanctioned s who b (.vectorDb (.counterDispute id did chunkData merkleProof)) record.amount
  | finalizeDispute {id : CommitmentId} {c : VectorCommitment}
      (hok : succeeds (VectorDb.finalizeDispute cfg.vectorDb (.signed who) id) s = true)
      (hc : s.storage.vectorCommitments id = some c)
      (hout : AgentRegistry.StrikesOut s.ext.registryState c.provider b) :
      Sanctioned s who b (.vectorDb (.finalizeDispute id)) cfg.registry.depositSlashPerStrike

/-- The third way: `b` has deregistered the DID of the consumer after locking the escrow, `who`
controls it now, and closes the commitment. -/
inductive Inherited (past : List (State cfg × Input AccountId)) (s : State cfg)
    (who b : AccountId) : Call → Nat → Prop
  | closeCommitment {id : CommitmentId} {did : Did} {finalStreamHash : MerkleRoot}
      {chunkCount : UInt64} {record : Escrow.EscrowRecord AccountId}
      (hok : succeeds (VectorDb.closeCommitment cfg.vectorDb (.signed who) id did finalStreamHash
        chunkCount) s = true)
      (hescrow : s.ext.escrow.escrows id = some record) (hpayer : record.payer = b)
      (hwho : controllerOf s did = some who) (hpast : ∃ p ∈ past, Abandons p id record did) :
      Inherited past s who b (.vectorDb (.closeCommitment id did finalStreamHash chunkCount))
        record.amount

theorem registryCall_total (s : State cfg) (origin : Origin AccountId) (c : AgentRegistry.Call)
    (b : AccountId) : total (step s (.call origin (.agentRegistry c))) b = total s b := by
  rcases registryCall_cases s origin c with ⟨t, hrun, hstep⟩ | hstep
  · rw [hstep]
    show cfg.currency.total t.ledger b = total s b
    rcases AgentRegistry.call_effect hrun with ⟨-, hn⟩ | ⟨-, a, did, -, hr⟩ |
      ⟨did, p, -, -, -, -, hde⟩
    · rw [hn.ledger]
      rfl
    · exact ReservableCurrency.total_reserve hr.reserve b
    · rw [hde.ledger]
      exact ReservableCurrency.total_unreserve _ _ _ b
  · rw [hstep]

/-- A release takes from the payer of the escrow. -/
theorem total_released {x : Ext cfg} {record : Escrow.EscrowRecord AccountId}
    {r : cfg.currency.Ledger × Nat}
    (hr : cfg.currency.repatriateReserved record.payer record.payee record.amount x.ledger
      = .ok r) (b : AccountId) :
    cfg.currency.total x.ledger b ≤ cfg.currency.total r.1 b ∨
      (record.payer = b ∧
        cfg.currency.total x.ledger b ≤ cfg.currency.total r.1 b + record.amount) := by
  have hle := ReservableCurrency.total_repatriateReserved_le hr (b := b)
  by_cases hb : b = record.payer
  · rw [if_pos hb] at hle
    exact Or.inr ⟨hb.symm, hle⟩
  · rw [if_neg hb] at hle
    exact Or.inl hle

/-- A guilty verdict takes from the controller of a provider that reaches the threshold. -/
theorem total_penalizeProvider (x : Ext cfg) (did : Did) (b : AccountId) :
    cfg.currency.total x.ledger b
        ≤ cfg.currency.total (ReputationHandlerAdapter.penalizeProvider did x).ledger b ∨
      (AgentRegistry.StrikesOut x.registryState did b ∧
        cfg.currency.total x.ledger b
          ≤ cfg.currency.total (ReputationHandlerAdapter.penalizeProvider did x).ledger b
            + cfg.registry.depositSlashPerStrike) := by
  rcases AgentRegistry.guiltyDelivery_effect did cfg.providerGuiltySlash x.registryState with
    ⟨a, hout, hsl⟩ | ⟨-, hn⟩
  · have hledger : (ReputationHandlerAdapter.penalizeProvider did x).ledger
        = (cfg.currency.slashReserved a cfg.registry.depositSlashPerStrike x.ledger).1 :=
      hsl.ledger
    have htotal := ReservableCurrency.total_slashReserved a cfg.registry.depositSlashPerStrike
      x.ledger b
    rw [hledger]
    by_cases hb : b = a
    · subst hb
      rw [if_pos rfl] at htotal
      exact Or.inr ⟨hout, by omega⟩
    · rw [if_neg hb] at htotal
      exact Or.inl htotal.ge
  · have hledger : (ReputationHandlerAdapter.penalizeProvider did x).ledger = x.ledger :=
      hn.ledger
    rw [hledger]
    exact Or.inl (Nat.le_refl _)

/-- **A commitment is closed by the payer of its escrow, or after the payer has deregistered the DID
of the consumer**, which the closer controls now. -/
theorem Held.close {past : List (State cfg × Input AccountId)} {s s' : State cfg}
    {who : AccountId} {id : CommitmentId} {did : Did} {finalStreamHash : MerkleRoot}
    {chunkCount : UInt64} {record : Escrow.EscrowRecord AccountId} (hheld : Held past s)
    (hrun : (VectorDb.closeCommitment cfg.vectorDb (.signed who) id did finalStreamHash
      chunkCount).run s = .ok () s')
    (hescrow : s.ext.escrow.escrows id = some record) (hpayer : record.payer ≠ who) :
    controllerOf s did = some who ∧ ∃ p ∈ past, Abandons p id record did := by
  cases vectorDb_effect (c := .closeCommitment id did finalStreamHash chunkCount) hrun with
  | @close _ _ _ _ _ c _ _ ho hc hst _ hdid hauth _ _ _ _ _ _ =>
      cases ho
      have hwho : controllerOf s did = some who := hauth.1
      refine ⟨hwho, ?_⟩
      -- `who` controls the DID, so the payer does not any more
      rcases hheld id c record hc hst hescrow with hp | hpast
      · rw [hdid] at hp
        exact absurd (Option.some.inj (hp.symm.trans hwho)) hpayer
      · rw [hdid] at hpast
        exact hpast

/-- What a successful call of `pallet-vector-db` takes from an account that did not sign it. -/
theorem vectorDbCall_total {past : List (State cfg × Input AccountId)} {s s' : State cfg}
    {who b : AccountId} {c : VectorDb.Call} (hheld : Held past s) (hb : b ≠ who)
    (hrun : (c.run cfg.vectorDb (.signed who)).run s = .ok () s') :
    total s b ≤ total s' b ∨
      ∃ amount, (Sanctioned s who b (.vectorDb c) amount ∨
        Inherited past s who b (.vectorDb c) amount) ∧ total s b ≤ total s' b + amount := by
  have hok := succeeds_iff.mpr ⟨s', hrun⟩
  have hledger : ∀ {x : Ext cfg}, s'.ext = x → total s' b = cfg.currency.total x.ledger b := by
    rintro x rfl
    rfl
  cases vectorDb_effect hrun with
  | register _ _ _ _ _ _ _ _ _ _ _ hext => exact Or.inl (hledger hext).ge
  | acknowledge _ _ _ _ _ _ _ _ hreserve _ hext =>
      rw [hledger hext]
      exact Or.inl (ReservableCurrency.total_reserve hreserve b).ge
  | @close _ _ _ _ _ _ record r _ _ _ _ _ _ _ hescrow _ hr _ hext =>
      rw [hledger hext]
      rcases total_released hr b with hle | ⟨hpayer, hle⟩
      · exact Or.inl hle
      · obtain ⟨hwho, hpast⟩ := hheld.close hrun hescrow (hpayer.trans_ne hb)
        exact Or.inr ⟨_, Or.inr (.closeCommitment hok hescrow hpayer hwho hpast), hle⟩
  | raise _ _ _ _ _ _ _ _ _ hext => exact Or.inl (hledger hext).ge
  | @counter id did _ _ _ c _ record r _ _ _ _ _ _ _ _ _ hescrow _ hr _ hext =>
      have hpenalty : total s' b = cfg.currency.total r.1 b := by
        rw [hledger hext]
        exact congrArg (fun l => cfg.currency.total l b) (AgentRegistry.slashReputation_neutral
          c.consumer cfg.falseDisputeSlash (s.ext.released id record r.1).registryState).ledger
      rw [hpenalty]
      rcases total_released hr b with hle | ⟨hpayer, hle⟩
      · exact Or.inl hle
      · exact Or.inr ⟨record.amount, Or.inl (.counterDispute hok hescrow hpayer), hle⟩
  | @finalize id _ c _ record _ hc _ _ _ _ _ _ hext =>
      have hrefund : cfg.currency.total (s.ext.refunded id record).ledger b = total s b :=
        ReservableCurrency.total_unreserve _ _ _ b
      rw [hledger hext, ← hrefund]
      rcases total_penalizeProvider (s.ext.refunded id record) c.provider b with hle | ⟨hout, hle⟩
      · exact Or.inl hle
      · exact Or.inr ⟨_, Or.inl (.finalizeDispute hok hc hout), hle⟩
  | expire _ _ _ _ _ hext => exact Or.inl (hledger hext).ge

/-- **Who can spend the money of an account.** In every reachable state, a call signed by `who`
leaves what any other account `b` owns, except for what a sanctioned call takes, and for an
escrow that `b` has funded with a DID it deregistered afterwards and `who` controls now. Whatever
its amount, an escrow that `b` has funded is released by a close of `who` only in that case. -/
theorem spends_only (cfg : Config AccountId) (disputeWindow : Option Nat)
    (blockHash : Nat → Bytes32) (ledger : cfg.currency.Ledger) (run : List (Input AccountId))
    (s : State cfg) (hs : s = exec step (genesis cfg disputeWindow blockHash ledger) run)
    (who b : AccountId) (hb : b ≠ who) (c : Call) :
    (total s b ≤ total (step s (.call (.signed who) c)) b ∨
      ∃ amount, (Sanctioned s who b c amount ∨
          Inherited (trace step (genesis cfg disputeWindow blockHash ledger) run) s who b c
            amount) ∧
        total s b ≤ total (step s (.call (.signed who) c)) b + amount) ∧
    ∀ id did finalStreamHash chunkCount record,
      succeeds (VectorDb.closeCommitment cfg.vectorDb (.signed who) id did finalStreamHash
        chunkCount) s = true →
      s.ext.escrow.escrows id = some record → record.payer = b →
      controllerOf s did = some who ∧
        ∃ p ∈ trace step (genesis cfg disputeWindow blockHash ledger) run,
          Abandons p id record did := by
  have hheld : Held (trace step (genesis cfg disputeWindow blockHash ledger) run) s := by
    rw [hs]
    exact held_exec cfg disputeWindow blockHash ledger run
  constructor
  · cases c with
    | agentRegistry c => exact Or.inl (registryCall_total s (.signed who) c b).ge
    | vectorDb c =>
        rcases dispatch_cases (c.run cfg.vectorDb (.signed who)) s with ⟨s', hrun, hd⟩ | ⟨-, hd⟩
        · rw [step, hd]
          exact vectorDbCall_total hheld hb hrun
        · rw [step, hd]
          exact Or.inl (Nat.le_refl _)
  · intro id did finalStreamHash chunkCount record hok hescrow hpayer
    obtain ⟨s', hrun⟩ := succeeds_iff.mp hok
    exact hheld.close hrun hescrow (hpayer.trans_ne hb)

/-- After the deal, account 2 deregisters its key and account 3 registers it. -/
def inheritRun : List (Input Nat) :=
  dealRun ++
    [.call (.signed 2) (.agentRegistry (.deregisterAgent (AgentRegistry.keyDid 2))),
      .call (.signed 3) (.agentRegistry (AgentRegistry.registerKey 2))]

def inheritClose : Call :=
  .vectorDb (.closeCommitment dealId (AgentRegistry.keyDid 2) (Bytes32.ofNat 5) 3)

theorem spends_only_inheritRun :
    Inherited (trace step devGenesis inheritRun) (exec step devGenesis inheritRun) 3 2
      inheritClose (50 * AgentRegistry.unit) := by
  have hdrop : ¬ total (exec step devGenesis inheritRun) 2
      ≤ total (step (exec step devGenesis inheritRun) (.call (.signed 3) inheritClose)) 2 := by
    decide +kernel
  have hrec : (exec step devGenesis inheritRun).ext.escrow.escrows dealId
      = some ⟨2, 1, 50 * AgentRegistry.unit, .locked, 1⟩ := by decide +kernel
  rcases (spends_only devConfig none _ _ inheritRun _ rfl 3 2 (by decide) inheritClose).1 with
    hle | ⟨amount, hsanctioned | hinherited, -⟩
  · exact absurd hle hdrop
  · cases hsanctioned
  · cases hinherited with
    | closeCommitment hok hescrow hpayer hwho hpast =>
        cases hrec.symm.trans hescrow
        exact .closeCommitment hok hrec rfl hwho hpast

/-- The escrow of account 2 is paid out by account 3, and no sanctioned call did it. -/
theorem not_sanctioned_inheritRun :
    ¬ (total (exec step devGenesis inheritRun) 2
        ≤ total (step (exec step devGenesis inheritRun) (.call (.signed 3) inheritClose)) 2 ∨
      ∃ amount, Sanctioned (exec step devGenesis inheritRun) 3 2 inheritClose amount ∧
        total (exec step devGenesis inheritRun) 2
          ≤ total (step (exec step devGenesis inheritRun) (.call (.signed 3) inheritClose)) 2
            + amount) := by
  rintro (hle | ⟨amount, hsanctioned, -⟩)
  · revert hle
    decide +kernel
  · cases hsanctioned

end Runtime
