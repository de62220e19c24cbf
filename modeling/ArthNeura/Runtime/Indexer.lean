import ArthNeura.AgentRegistry.Identity
import ArthNeura.Frame.Replay
import ArthNeura.Runtime.Coherence

set_option autoImplicit false

/-! # What the events tell

An indexer follows the events of the three pallets and never reads storage. This module says
what it can know: for each pallet a view, the part of the storage that the events determine, and
the function that updates it. The main results are `indexer_exact` for `pallet-vector-db` and
`pallet-escrow` and `registry_indexer_exact` for `pallet-agent-registry`: in every reachable state,
replaying the events gives the view of the storage, so that no call, hook or penalty
changes it silently.

What the views leave out is not in any event: the block numbers other than the ones that an event
names, the capabilities, the metadata and the label of an agent, and the price of a commitment,
which becomes visible only with the escrow that is locked for it.
-/

namespace Runtime

open Frame VectorDb

/-! ## `pallet-vector-db` -/

/-- A commitment without its price and the block of its registration. -/
structure CommitmentView where
  commitmentId : CommitmentId
  provider : Did
  consumer : Did
  merkleRoot : MerkleRoot
  totalChunks : UInt64
  metadata : BoundedVec UInt8 VectorDb.maxMetadataLen
  expiresAt : Nat
  status : CommitmentStatus
  acknowledgedAt : Option Nat
  deriving DecidableEq

/-- A dispute without the block in which it was raised. -/
structure DisputeView where
  commitmentId : CommitmentId
  merkleRoot : MerkleRoot
  disputedChunkIndex : ChunkIndex
  receivedChunkHash : Bytes32
  counterDeadline : Nat
  verdict : Option DisputeVerdict
  deriving DecidableEq

/-- A receipt without the block in which it was submitted. -/
structure ReceiptView where
  commitmentId : CommitmentId
  finalStreamHash : MerkleRoot
  chunkCount : UInt64
  deriving DecidableEq

@[ext] structure VectorDbView where
  commitments : StorageMap CommitmentId CommitmentView
  disputes : StorageMap CommitmentId DisputeView
  receipts : StorageMap CommitmentId ReceiptView

def commitmentView (c : VectorCommitment) : CommitmentView :=
  ⟨c.commitmentId, c.provider, c.consumer, c.merkleRoot, c.totalChunks, c.metadata, c.expiresAt,
    c.status, c.acknowledgedAt⟩

def disputeView (d : DisputeRecord) : DisputeView :=
  ⟨d.commitmentId, d.merkleRoot, d.disputedChunkIndex, d.receivedChunkHash, d.counterDeadline,
    d.verdict⟩

def receiptView (r : StreamReceipt) : ReceiptView :=
  ⟨r.commitmentId, r.finalStreamHash, r.chunkCount⟩

namespace VectorDbView

def setStatus (v : VectorDbView) (id : CommitmentId) (status : CommitmentStatus) : VectorDbView :=
  { v with commitments := v.commitments.adjust id fun c => { c with status := status } }

def setVerdict (v : VectorDbView) (id : CommitmentId) (verdict : DisputeVerdict) : VectorDbView :=
  { v.setStatus id .disputeResolved with
    disputes := v.disputes.adjust id fun d => { d with verdict := some verdict } }

def apply (v : VectorDbView) : VectorDb.Event → VectorDbView
  | .commitmentRegistered id provider consumer merkleRoot totalChunks expiresAt metadata =>
      { v with
        commitments := v.commitments.insert id
          ⟨id, provider, consumer, merkleRoot, totalChunks, metadata, expiresAt, .pending, none⟩ }
  | .commitmentAcknowledged id acknowledgedAt =>
      { v with
        commitments := v.commitments.adjust id fun c =>
          { c with status := .active, acknowledgedAt := some acknowledgedAt } }
  | .commitmentSettled id finalStreamHash chunkCount =>
      { v.setStatus id .settled with
        receipts := v.receipts.insert id ⟨id, finalStreamHash, chunkCount⟩ }
  | .disputeRaised id merkleRoot disputedChunkIndex receivedChunkHash counterDeadline =>
      { v.setStatus id .disputed with
        disputes := v.disputes.insert id
          ⟨id, merkleRoot, disputedChunkIndex, receivedChunkHash, counterDeadline, none⟩ }
  | .disputeCountered id verdict => v.setVerdict id verdict
  | .disputeFinalized id verdict _ _ => v.setVerdict id verdict
  | .commitmentExpired id => { v with commitments := v.commitments.remove id }

end VectorDbView

def vectorDbProjection : Projection VectorDb.Storage VectorDb.Event VectorDbView where
  log st := st.events
  view st := ⟨st.vectorCommitments.mapValues commitmentView,
    st.disputeRecords.mapValues disputeView, st.streamReceipts.mapValues receiptView⟩
  apply := VectorDbView.apply

/-- What an observer knows before the first event. -/
def VectorDbView.empty : VectorDbView := ⟨.empty, .empty, .empty⟩

section

open StorageMap

variable {AccountId Env : Type} [DecidableEq AccountId] {vcfg : VectorDb.Config AccountId Env}

/-- **A successful call of `pallet-vector-db` deposits one event, which accounts for everything it
does to the view**, in any environment. -/
theorem vectorDbCall_event {origin : Origin AccountId} {call : VectorDb.Call}
    {s s' : VectorDb.State Env} (h : (call.run vcfg origin).run s = .ok () s') :
    ∃ e, s'.storage.events = s.storage.events ++ [e] ∧
      vectorDbProjection.view s'.storage
        = (vectorDbProjection.view s.storage).apply e := by
  cases call with
  | registerCommitment provider consumer merkleRoot totalChunks metadata expires price =>
      obtain ⟨-, -, -, -, -, -, -, -, -, -, rfl⟩ := registerCommitment_ok.mp h
      exact ⟨_, rfl, VectorDbView.ext (mapValues_insert commitmentView ..) rfl rfl⟩
  | acknowledgeCommitment id did =>
      obtain ⟨-, -, c, hc, -, -, -, -, -, -, ext, -, rfl⟩ := acknowledgeCommitment_ok.mp h
      exact ⟨_, rfl, VectorDbView.ext (mapValues_rewrite hc rfl) rfl rfl⟩
  | closeCommitment id did hash count =>
      obtain ⟨-, -, c, hc, -, -, -, -, -, ext, -, rfl⟩ := closeCommitment_ok.mp h
      exact ⟨_, rfl, VectorDbView.ext (mapValues_rewrite hc rfl) rfl
        (mapValues_insert receiptView ..)⟩
  | raiseDispute id did index hash count =>
      obtain ⟨-, -, c, hc, -, -, -, -, -, -, rfl⟩ := (raiseDispute_ok count).mp h
      exact ⟨_, rfl, VectorDbView.ext (mapValues_rewrite hc rfl) (mapValues_insert disputeView ..)
        rfl⟩
  | counterDispute id did chunkData merkleProof =>
      obtain ⟨-, -, c, hc, -, -, -, d, hd, -, -, -, ext, -, rfl⟩ := counterDispute_ok.mp h
      exact ⟨_, rfl, VectorDbView.ext (mapValues_rewrite hc rfl) (mapValues_rewrite hd rfl) rfl⟩
  | finalizeDispute id =>
      obtain ⟨-, -, c, hc, -, d, hd, -, ext, -, rfl⟩ := finalizeDispute_ok.mp h
      exact ⟨_, rfl, VectorDbView.ext (mapValues_rewrite hc rfl) (mapValues_rewrite hd rfl) rfl⟩
  | expireCommitment id =>
      obtain ⟨-, -, c, hc, -, -, rfl⟩ := expireCommitment_ok.mp h
      exact ⟨_, rfl, VectorDbView.ext (mapValues_remove commitmentView ..) rfl rfl⟩

end

/-! ## `pallet-escrow` -/

section

variable {AccountId : Type}

/-- An escrow without the block in which it was locked. -/
structure EscrowView (AccountId : Type) where
  payer : AccountId
  payee : AccountId
  amount : Nat
  status : Escrow.EscrowStatus
  deriving DecidableEq

def escrowView (record : Escrow.EscrowRecord AccountId) : EscrowView AccountId :=
  ⟨record.payer, record.payee, record.amount, record.status⟩

abbrev EscrowsView (AccountId : Type) := StorageMap Escrow.EscrowId (EscrowView AccountId)

/-- A refund is reported without the payee, who is known from the lock. -/
def EscrowsView.apply (v : EscrowsView AccountId) : Escrow.Event AccountId → EscrowsView AccountId
  | .fundsLocked id payer payee amount => v.insert id ⟨payer, payee, amount, .locked⟩
  | .fundsReleased id payer payee amount => v.insert id ⟨payer, payee, amount, .released⟩
  | .fundsRefunded id _ _ => v.adjust id fun e => { e with status := .refunded }

def escrowProjection :
    Projection (Escrow.Storage AccountId) (Escrow.Event AccountId) (EscrowsView AccountId) where
  log st := st.events
  view st := st.escrows.mapValues escrowView
  apply := EscrowsView.apply

variable [DecidableEq AccountId] {cfg : Config AccountId} {x : Ext cfg} {id : CommitmentId}
  {record : Escrow.EscrowRecord AccountId}

theorem locked_logged (payer payee : AccountId) (amount : Nat) (ledger : cfg.currency.Ledger) :
    escrowProjection.Logged x.escrow (x.locked id payer payee amount ledger).escrow :=
  Projection.logged_event _ rfl (StorageMap.mapValues_insert escrowView ..)

theorem released_logged (ledger : cfg.currency.Ledger) :
    escrowProjection.Logged x.escrow (x.released id record ledger).escrow :=
  Projection.logged_event _ rfl (StorageMap.mapValues_insert escrowView ..)

theorem refunded_logged (h : x.escrow.escrows id = some record) :
    escrowProjection.Logged x.escrow (x.refunded id record).escrow :=
  Projection.logged_event _ rfl (StorageMap.mapValues_rewrite (f := escrowView) h rfl)

theorem CallEffect.escrow_logged {s s' : State cfg} {origin : Origin AccountId}
    {call : VectorDb.Call} (h : CallEffect s s' origin call) :
    escrowProjection.Logged s.ext.escrow s'.ext.escrow := by
  cases h with
  | register _ _ _ _ _ _ _ _ _ _ _ hext => rw [hext]; exact .refl _
  | acknowledge _ _ _ _ _ _ _ _ _ _ hext => rw [hext]; exact locked_logged ..
  | close _ _ _ _ _ _ _ _ _ _ _ hext => rw [hext]; exact released_logged _
  | raise _ _ _ _ _ _ _ _ _ hext => rw [hext]; exact .refl _
  | counter _ _ _ _ _ _ _ _ _ _ _ _ _ hext =>
      rw [hext, penalizeFalseDisputer_escrow]
      exact released_logged _
  | finalize _ _ _ _ _ hescrow _ _ hext =>
      rw [hext, penalizeProvider_escrow]
      exact refunded_logged hescrow
  | expire _ _ _ _ _ hext => rw [hext]; exact .refl _

end

/-! ## `pallet-agent-registry` -/

section

open AgentRegistry (AgentProfile AgentStatus StepEffect)

variable {AccountId : Type}

/-- An agent without what it says about itself. -/
structure AgentView (AccountId : Type) where
  controller : AccountId
  status : AgentStatus
  reputationScore : Nat

/-- The agents, and the DIDs of every controller in the order of their registration. -/
@[ext] structure RegistryView (AccountId : Type) where
  agents : StorageMap Did (AgentView AccountId)
  controllerAgents : AccountId → List Did

def agentView (p : AgentProfile AccountId) : AgentView AccountId :=
  ⟨p.controller, p.status, p.reputationScore⟩

namespace RegistryView

def empty : RegistryView AccountId := ⟨.empty, fun _ => []⟩

/-- Change the score of an agent. -/
def rescore (v : RegistryView AccountId) (did : Did) (f : Nat → Nat) : RegistryView AccountId :=
  { v with
    agents := v.agents.adjust did fun a => { a with reputationScore := f a.reputationScore } }

variable [DecidableEq AccountId]

/-- A slash names the new score; the other changes of a score are known from their events. -/
def apply (v : RegistryView AccountId) : AgentRegistry.Event AccountId → RegistryView AccountId
  | .agentRegistered did controller =>
      ⟨v.agents.insert did ⟨controller, .active, 0⟩,
        Function.update v.controllerAgents controller (v.controllerAgents controller ++ [did])⟩
  | .agentStatusChanged did newStatus =>
      { v with agents := v.agents.adjust did fun a => { a with status := newStatus } }
  | .starGiven _ receiver => v.rescore receiver (satAdd · 1)
  | .starRemoved _ receiver => v.rescore receiver (· - 1)
  | .agentDeregistered did controller =>
      ⟨v.agents.remove did, Function.update v.controllerAgents controller
        ((v.controllerAgents controller).filter (· ≠ did))⟩
  | .reputationSlashed did _ newScore => v.rescore did fun _ => newScore
  | .agentProfileUpdated _ => v
  | .depositSlashed _ _ _ _ => v

end RegistryView

/-- Who has given whom a star, by the events. -/
def applyStar (v : Did → Did → Bool) : AgentRegistry.Event AccountId → Did → Did → Bool
  | .starGiven giver receiver =>
      Function.update v giver (Function.update (v giver) receiver true)
  | .starRemoved giver receiver =>
      Function.update v giver (Function.update (v giver) receiver false)
  | _ => v

variable [DecidableEq AccountId]

def registryProjection : Projection (AgentRegistry.Storage AccountId)
    (AgentRegistry.Event AccountId) (RegistryView AccountId) where
  log st := st.events
  view st := ⟨st.agentProfiles.mapValues agentView, fun a => (st.controllerAgents a).val⟩
  apply := RegistryView.apply

def starProjection : Projection (AgentRegistry.Storage AccountId)
    (AgentRegistry.Event AccountId) (Did → Did → Bool) where
  log st := st.events
  view st giver receiver := decide (0 < st.starGivers giver receiver)
  apply := applyStar

/-- The DIDs of the controllers after one list is replaced. -/
theorem val_update {f : AccountId → BoundedVec Did AgentRegistry.maxAgentsPerController}
    {a : AccountId} {dids : BoundedVec Did AgentRegistry.maxAgentsPerController} {l : List Did}
    (h : dids.val = l) :
    (fun b => (Function.update f a dids b).val) = Function.update (fun b => (f b).val) a l := by
  funext b
  by_cases hb : b = a
  · subst hb
    rw [Function.update_self, Function.update_self, h]
  · rw [Function.update_of_ne hb, Function.update_of_ne hb]

/-- A star that is written changes one pair. -/
theorem decide_update (f : Did → Did → Nat) (giver receiver : Did) (block : Nat) :
    (fun g r => decide (0 < Function.update f giver (Function.update (f giver) receiver block) g r))
      = Function.update (fun g r => decide (0 < f g r)) giver
          (Function.update (fun r => decide (0 < f giver r)) receiver (decide (0 < block))) := by
  funext g r
  by_cases hg : g = giver
  · subst hg
    rw [Function.update_self, Function.update_self]
    by_cases hr : r = receiver
    · subst hr
      rw [Function.update_self, Function.update_self]
    · rw [Function.update_of_ne hr, Function.update_of_ne hr]
  · rw [Function.update_of_ne hg, Function.update_of_ne hg]

section

open StorageMap Projection

variable {rcfg : AgentRegistry.Config AccountId} {s s' : AgentRegistry.State rcfg}
  {i : AgentRegistry.Input AccountId}

/-- **The events of a step of the registry account for the agents and their controllers.** -/
theorem stepEffect_logged (h : StepEffect s i s') :
    registryProjection.Logged s.storage s'.storage := by
  cases h with
  | failed | unslashed | unstruck | newBlock => exact .refl _
  | @registered a _ _ _ capabilities metadata label did ledger dids hdid hnone hledger hpush =>
      exact logged_event _ rfl (RegistryView.ext (mapValues_insert agentView ..)
        (val_update (BoundedVec.tryPush_val hpush)))
  | @updated did capabilities metadata label p hp hst =>
      refine logged_event _ rfl (RegistryView.ext ?_ rfl)
      -- the view does not see what has changed
      have hsame := mapValues_rewrite (f := agentView) (g := id)
        (w := { p with capabilities := capabilities, metadata := metadata, label := label }) hp rfl
      refine hsame.trans ?_
      rw [adjust, Option.map_id, id, Function.update_eq_self]
      rfl
  | @statusSet did newStatus p hp hst =>
      by_cases hn : newStatus = .revoked
      · simp only [if_pos hn]
        exact logged_event _ rfl (RegistryView.ext (mapValues_rewrite hp rfl) rfl)
      · simp only [if_neg hn]
        exact logged_event _ rfl (RegistryView.ext (mapValues_rewrite hp rfl) rfl)
  | starred _ _ hp _ _ _ | unstarred _ _ hp | slashed hp | struck hp _ =>
      exact logged_event _ rfl (RegistryView.ext (mapValues_rewrite hp rfl) rfl)
  | deregistered hp hst =>
      exact logged_event _ rfl (RegistryView.ext (mapValues_remove agentView ..) (val_update rfl))
  | depositSlashed hp hle =>
      -- the second event tells of the deposit, which is not in the view
      exact ⟨[_, _], List.append_assoc _ [_] [_], RegistryView.ext (mapValues_rewrite hp rfl) rfl⟩

/-- The events of a step account for the stars, unless a star is given in block 0: its block is
then taken for no star. -/
theorem stepEffect_starLogged (h : StepEffect s i s')
    (hblock : ∀ a giver receiver, i = .call (.signed a) (.giveStar giver receiver) →
      0 < s.system.blockNumber) : starProjection.Logged s.storage s'.storage := by
  cases h with
  | failed | unslashed | unstruck | newBlock => exact .refl _
  | registered | updated | deregistered | slashed | struck => exact logged_event _ rfl rfl
  | @statusSet did newStatus p hp hst =>
      by_cases hn : newStatus = .revoked
      · simp only [if_pos hn]
        exact logged_event _ rfl rfl
      · simp only [if_neg hn]
        exact logged_event _ rfl rfl
  | @starred a giver receiver p _ _ _ _ _ _ =>
      refine logged_event _ rfl ((decide_update ..).trans ?_)
      rw [decide_eq_true (hblock a giver receiver rfl)]
      rfl
  | unstarred => exact logged_event _ rfl (decide_update ..)
  | depositSlashed hp hle => exact ⟨[_, _], List.append_assoc _ [_] [_], rfl⟩

end

end

/-! ## Steps of the runtime -/

section

variable {AccountId : Type} [DecidableEq AccountId] {cfg : Config AccountId}

/-- A step of the runtime leaves the registry alone or is one of its steps; it gives a star only as
the call of that name. -/
theorem step_registry (s : State cfg) (i : Input AccountId) :
    (step s i).ext.registry = s.ext.registry ∨
    ∃ (t : AgentRegistry.State cfg.registry) (j : AgentRegistry.Input AccountId),
      t.storage = s.ext.registry ∧ t.system.blockNumber = now s ∧
      (step s i).ext.registry = (AgentRegistry.step t j).storage ∧
      ∀ a giver receiver, j = .call (.signed a) (.giveStar giver receiver) →
        i = .call (.signed a) (.agentRegistry (.giveStar giver receiver)) := by
  cases i with
  | newBlocks blocks blockHash => exact Or.inl rfl
  | call origin c =>
      cases c with
      | agentRegistry c =>
          refine Or.inr ⟨s.ext.registryState, .call origin c, rfl, rfl, rfl, ?_⟩
          rintro a giver receiver ⟨⟩
          rfl
      | vectorDb c =>
          rcases dispatch_cases (c.run cfg.vectorDb origin) s with ⟨s', hok, hd⟩ | ⟨-, hd⟩
          · rw [step, hd]
            have heff := vectorDb_effect hok
            have hblock : s'.ext.system.blockNumber = now s := by rw [heff.system, now]
            cases heff.registryEffect with
            | untouched _ hreg => exact Or.inl hreg
            | @falseDisputer _ x did hext hx =>
                rw [hext] at hblock ⊢
                exact Or.inr ⟨x.registryState, .slashReputation did cfg.falseDisputeSlash, hx,
                  hblock, rfl, by rintro _ _ _ ⟨⟩⟩
            | @provider id cm record _ _ hext =>
                rw [hext] at hblock ⊢
                exact Or.inr ⟨(s.ext.refunded id record).registryState,
                  .slashReputationForGuiltyDelivery cm.provider cfg.providerGuiltySlash, rfl,
                  hblock, rfl, by rintro _ _ _ ⟨⟩⟩
          · rw [step, hd]
            exact Or.inl rfl

/-- Every pallet has told what has changed in its view. -/
structure Told (s t : State cfg) : Prop where
  vectorDb : vectorDbProjection.Logged s.storage t.storage
  escrow : escrowProjection.Logged s.ext.escrow t.ext.escrow
  registry : registryProjection.Logged s.ext.registry t.ext.registry

theorem Told.refl (s : State cfg) : Told s s := ⟨.refl _, .refl _, .refl _⟩

theorem Told.trans {s t u : State cfg} (hst : Told s t) (htu : Told t u) : Told s u where
  vectorDb := hst.vectorDb.trans htu.vectorDb
  escrow := hst.escrow.trans htu.escrow
  registry := hst.registry.trans htu.registry

theorem step_told (s : State cfg) (i : Input AccountId) : Told s (step s i) := by
  have hregistry : registryProjection.Logged s.ext.registry (step s i).ext.registry := by
    rcases step_registry s i with heq | ⟨t, j, ht, -, heq, -⟩
    · rw [heq]
      exact .refl _
    · rw [heq, ← ht]
      exact stepEffect_logged (AgentRegistry.step_stepEffect t j)
  rcases step_effect s i with ⟨origin, c, rfl, hsucc, heff, -⟩ | hp
  · obtain ⟨s', hok⟩ := succeeds_iff.mp hsucc
    have hstep : step s (.call origin (.vectorDb c)) = s' := dispatch_of_ok hok
    obtain ⟨e, hlog, hview⟩ := vectorDbCall_event hok
    refine ⟨?_, heff.escrow_logged, hregistry⟩
    rw [hstep]
    exact Projection.logged_event e hlog hview
  · refine ⟨?_, ?_, hregistry⟩
    · rw [hp.storage]
      exact .refl _
    · rw [hp.escrow]
      exact .refl _

/-- Whether a step is a call of `pallet-vector-db` that goes through. -/
def goesThrough (s : State cfg) : Input AccountId → Bool
  | .call origin (.vectorDb c) => succeeds (c.run cfg.vectorDb origin) s
  | _ => false

/-- One event for each call that goes through. -/
theorem step_events_length (s : State cfg) (i : Input AccountId) :
    (step s i).storage.events.length
      = s.storage.events.length + if goesThrough s i then 1 else 0 := by
  cases i with
  | newBlocks blocks blockHash => rfl
  | call origin c =>
      cases c with
      | agentRegistry c => rfl
      | vectorDb c =>
          rw [goesThrough, step]
          rcases dispatch_cases (c.run cfg.vectorDb origin) s with ⟨s', hok, hd⟩ | ⟨hfail, hd⟩
          · obtain ⟨e, hlog, -⟩ := vectorDbCall_event hok
            rw [hd, hlog, List.length_append, if_pos (succeeds_iff.mpr ⟨s', hok⟩)]
            rfl
          · rw [hd, hfail]
            rfl

theorem events_length (run : List (Input AccountId)) :
    ∀ s : State cfg, (exec step s run).storage.events.length
      = s.storage.events.length + (trace step s run).countP fun p => goesThrough p.1 p.2 := by
  induction run with
  | nil => intro s; rfl
  | cons i run ih =>
      intro s
      rw [exec_cons, ih (step s i), step_events_length, trace, List.countP_cons]
      show _ = _ + (_ + if goesThrough s i then 1 else 0)
      omega

/-- Past `Pending`, the price of a commitment is the amount of its escrow. -/
theorem price_of_aligned {s : State cfg} (hal : AllAligned s) {id : CommitmentId}
    {c : VectorCommitment} (hc : s.storage.vectorCommitments id = some c)
    (hst : c.status ≠ .pending) :
    ∃ e, escrowProjection.view s.ext.escrow id = some e ∧ e.amount = c.price := by
  have hstatus := ((aligned_some hc).mp (hal id)).2
  have hescrow : ∃ status, EscrowIs (entry s id).escrow status c.price := by
    cases hcs : c.status with
    | pending => exact absurd hcs hst
    | active => exact ⟨_, (hstatus.active hcs).1⟩
    | disputed => exact ⟨_, (hstatus.disputed hcs).1⟩
    | settled =>
        rw [StatusAligned, hcs] at hstatus
        exact ⟨_, hstatus.1⟩
    | disputeResolved =>
        rw [StatusAligned, hcs] at hstatus
        obtain ⟨⟨d, -, ⟨-, hreleased⟩ | ⟨-, hrefunded⟩⟩, -⟩ := hstatus
        · exact ⟨_, hreleased⟩
        · exact ⟨_, hrefunded⟩
    | expired =>
        rw [StatusAligned, hcs] at hstatus
        exact hstatus.elim
  obtain ⟨status, record, hrec, -, hamount⟩ := hescrow
  have hrec' : s.ext.escrow.escrows id = some record := hrec
  refine ⟨escrowView record, ?_, hamount⟩
  show (s.ext.escrow.escrows id).map escrowView = _
  rw [hrec', Option.map_some]

/-- Two offers that differ in the price only look alike to an observer. -/
theorem register_price_hidden (s : State cfg) (origin : Origin AccountId) (provider consumer : Did)
    (merkleRoot : MerkleRoot) (totalChunks : UInt64)
    (metadata : BoundedVec UInt8 VectorDb.maxMetadataLen) (expires p q : Nat) :
    let offer := fun price => step s (.call origin (.vectorDb (.registerCommitment provider consumer
      merkleRoot totalChunks metadata expires price)))
    (offer p).storage.events = (offer q).storage.events ∧ (offer p).ext = (offer q).ext := by
  intro offer
  have hsame : ∀ price price' s', (registerCommitment cfg.vectorDb origin provider consumer
      merkleRoot totalChunks metadata expires price).run s = .ok () s' →
      (offer price).storage.events = (offer price').storage.events ∧
        (offer price).ext = (offer price').ext := by
    intro price price' s' hok
    obtain ⟨who, ho, hself, htotal, hroot, hauth, hcons, hexp, hmax, hnone, hs'⟩ :=
      registerCommitment_ok.mp hok
    have hok' : (registerCommitment cfg.vectorDb origin provider consumer merkleRoot totalChunks
        metadata expires price').run s = .ok () _ := registerCommitment_ok.mpr
      ⟨who, ho, hself, htotal, hroot, hauth, hcons, hexp, hmax, hnone, rfl⟩
    have hp : offer price = s' := dispatch_of_ok hok
    have hq : offer price' = _ := dispatch_of_ok hok'
    rw [hp, hq, hs']
    exact ⟨rfl, rfl⟩
  rcases dispatch_cases (registerCommitment cfg.vectorDb origin provider consumer merkleRoot
      totalChunks metadata expires p) s with ⟨s', hok, -⟩ | ⟨-, hd⟩
  · exact hsame p q s' hok
  · rcases dispatch_cases (registerCommitment cfg.vectorDb origin provider consumer merkleRoot
        totalChunks metadata expires q) s with ⟨s', hok, -⟩ | ⟨-, hd'⟩
    · obtain ⟨hevents, hext⟩ := hsame q p s' hok
      exact ⟨hevents.symm, hext.symm⟩
    · have hp : offer p = s := hd
      have hq : offer q = s := hd'
      rw [hp, hq]
      exact ⟨rfl, rfl⟩

/-! ## Runs of the runtime -/

theorem told_exec (s : State cfg) (run : List (Input AccountId)) : Told s (exec step s run) :=
  exec_rel Told Told.refl (fun _ _ _ => Told.trans) step_told run s

/-- **An indexer of commitments and escrows is exact.** In every reachable state, replaying the
events of `pallet-vector-db` and of `pallet-escrow` gives the commitments, disputes, receipts and
escrows in storage; the calls that went through and the events are equally many. An indexer
knows the price of every commitment that has been acknowledged; of an offer it cannot, since offers
that differ in the price only have the same events. -/
theorem indexer_exact (cfg : Config AccountId) (disputeWindow : Option Nat)
    (blockHash : Nat → Bytes32) (ledger : cfg.currency.Ledger) (run : List (Input AccountId)) :
    let start := genesis cfg disputeWindow blockHash ledger
    let s := exec step start run
    vectorDbProjection.view s.storage = vectorDbProjection.replay .empty s.storage.events ∧
    escrowProjection.view s.ext.escrow = escrowProjection.replay .empty s.ext.escrow.events ∧
    s.storage.events.length = (trace step start run).countP (fun p => goesThrough p.1 p.2) ∧
    (∀ id c, s.storage.vectorCommitments id = some c → c.status ≠ .pending →
      ∃ e, escrowProjection.replay .empty s.ext.escrow.events id = some e ∧
        e.amount = c.price) ∧
    (∀ origin provider consumer merkleRoot totalChunks metadata expires p q,
      let offer := fun price => step s (.call origin (.vectorDb (.registerCommitment provider
        consumer merkleRoot totalChunks metadata expires price)))
      (offer p).storage.events = (offer q).storage.events ∧ (offer p).ext = (offer q).ext) := by
  intro start s
  have htold : Told start s := told_exec start run
  have hescrow := htold.escrow.view_eq rfl
  refine ⟨htold.vectorDb.view_eq rfl, hescrow, ?_, fun id c hc hst => ?_, ?_⟩
  · have hlength := events_length run start
    rwa [show start.storage.events.length = 0 from rfl, Nat.zero_add] at hlength
  · have hprice := price_of_aligned (allAligned_exec cfg disputeWindow blockHash ledger run) hc hst
    rwa [hescrow] at hprice
  · exact fun origin provider consumer merkleRoot totalChunks metadata expires p q =>
      register_price_hidden s origin provider consumer merkleRoot totalChunks metadata expires p q

/-- After `dealRun` the events show the deal: it is active, and its escrow tells the price. -/
example :
    ((vectorDbProjection.replay .empty (exec step devGenesis dealRun).storage.events).commitments
      dealId).map (·.status) = some .active ∧
    (escrowProjection.replay .empty (exec step devGenesis dealRun).ext.escrow.events dealId).map
      (·.amount) = some (50 * AgentRegistry.unit) := by
  decide +kernel

/-! ## The registry -/

theorem step_verified (s : State cfg) (i : Input AccountId)
    (h : AgentRegistry.Verified s.ext.registry) :
    AgentRegistry.Verified (step s i).ext.registry := by
  rcases step_registry s i with heq | ⟨t, j, ht, -, heq, -⟩
  · rw [heq]
    exact h
  · intro d q hq
    rw [heq] at hq
    have hmove := (AgentRegistry.step_stepEffect t j).profileStep d
    rw [hq] at hmove
    cases hp : t.storage.agentProfiles d with
    | none =>
        rw [hp] at hmove
        obtain ⟨_, _, _, _, _, _, _, _, -, rfl, -⟩ := hmove.created
        exact ⟨rfl, rfl⟩
    | some p =>
        rw [hp] at hmove
        rw [ht] at hp
        obtain ⟨hdid, hverified⟩ := h d p hp
        have hid := hmove.changed.identity
        exact ⟨hid.did.trans hdid, hid.isVerified.trans hverified⟩

/-- Where all profiles are verified, an agent can trade exactly if it is active. -/
theorem isActiveVerified_eq {x : Ext cfg} (h : AgentRegistry.Verified x.registry) (did : Did) :
    AgentRegistryAdapter.isActiveVerified x did
      = ((registryProjection.view x.registry).agents did).any fun a =>
          decide (a.status = .active) := by
  rw [AgentRegistryAdapter.isActiveVerified]
  show _ = ((x.registry.agentProfiles did).map agentView).any _
  cases hp : x.registry.agentProfiles did with
  | none => rfl
  | some p =>
      rw [Option.map_some, Option.map_some, Option.getD_some, (h did p hp).2, Bool.and_true]
      rfl

theorem starLogged_exec (start : State cfg) (run : List (Input AccountId))
    (hblock : ∀ p ∈ trace step start run, ∀ a giver receiver,
      p.2 = .call (.signed a) (.agentRegistry (.giveStar giver receiver)) → 0 < now p.1) :
    starProjection.Logged start.ext.registry (exec step start run).ext.registry := by
  refine exec_invariant (fun s : State cfg => starProjection.Logged start.ext.registry
    s.ext.registry) (fun s i => ∀ a giver receiver,
      i = .call (.signed a) (.agentRegistry (.giveStar giver receiver)) → 0 < now s) ?_ run start
    (.refl _) hblock
  intro s i h hnow
  refine h.trans ?_
  rcases step_registry s i with heq | ⟨t, j, ht, hnum, heq, hstar⟩
  · rw [heq]
    exact .refl _
  · rw [heq, ← ht]
    refine stepEffect_starLogged (AgentRegistry.step_stepEffect t j) ?_
    intro a giver receiver hj
    rw [hnum]
    exact hnow a giver receiver (hstar a giver receiver hj)

/-- **An indexer of agents is exact.** In every reachable state, replaying the events of
`pallet-agent-registry` gives the controller, the status and the score of every agent and the DIDs
of every controller, penalties by disputes included; so it tells which agents the other pallets
accept. If no star is given in block 0, it also gives the stars. -/
theorem registry_indexer_exact (cfg : Config AccountId) (disputeWindow : Option Nat)
    (blockHash : Nat → Bytes32) (ledger : cfg.currency.Ledger) (run : List (Input AccountId)) :
    let start := genesis cfg disputeWindow blockHash ledger
    let s := exec step start run
    let index := registryProjection.replay .empty s.ext.registry.events
    registryProjection.view s.ext.registry = index ∧
    (∀ did, cfg.vectorDb.controllerOf s.ext did = (index.agents did).map (·.controller)) ∧
    (∀ did, cfg.vectorDb.isActiveVerified s.ext did
      = (index.agents did).any fun a => decide (a.status = .active)) ∧
    ((∀ p ∈ trace step start run, ∀ a giver receiver,
        p.2 = .call (.signed a) (.agentRegistry (.giveStar giver receiver)) → 0 < now p.1) →
      starProjection.view s.ext.registry
        = starProjection.replay (fun _ _ => false) s.ext.registry.events) := by
  intro start s index
  have hview : registryProjection.view s.ext.registry = index :=
    (told_exec start run).registry.view_eq rfl
  have hverified : AgentRegistry.Verified s.ext.registry :=
    exec_invariant (fun s : State cfg => AgentRegistry.Verified s.ext.registry) (fun _ _ => True)
      (fun s i h _ => step_verified s i h) run start nofun (fun _ _ => trivial)
  refine ⟨hview, fun did => ?_, fun did => ?_, fun hblock => ?_⟩
  · rw [← hview]
    show _ = ((s.ext.registry.agentProfiles did).map agentView).map _
    rw [Option.map_map]
    rfl
  · rw [← hview]
    exact isActiveVerified_eq hverified did
  · exact (starLogged_exec start run hblock).view_eq rfl

end

end Runtime
