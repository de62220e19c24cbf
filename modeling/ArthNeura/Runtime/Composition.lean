import ArthNeura.AgentRegistry.Deposits
import ArthNeura.Escrow.Pallet
import ArthNeura.VectorDb.Lifecycle

set_option autoImplicit false

/-! # The composed runtime

The three pallets over one ledger, wired by the adapters of the runtime. The state is the storage
of `pallet-vector-db` with the rest of the runtime (`Ext`) next to it; the adapters make `Ext` the
environment of the pallet, so that everything proved about the pallet against an arbitrary
environment holds here (`exists_vectorDb_input`).

`Ext.hooks` is a ghost: the calls of the adapters that have gone through, in order. No modelled
function reads it. -/

namespace Runtime

open Frame

/-- The constants of the runtime, and the libraries it is linked against. -/
structure Config (AccountId : Type) [DecidableEq AccountId] where
  registry : AgentRegistry.Config AccountId
  disputeWindow : Nat
  maxCommitmentLifetime : Nat
  providerGuiltySlash : Nat
  falseDisputeSlash : Nat
  rsMerkle : Merkle.RsMerkle Bytes32

/-- A call of an adapter. -/
inductive HookCall (AccountId : Type) where
  | lock (escrowId : Bytes32) (payer payee : AccountId) (amount : Nat)
  | release (escrowId : Bytes32)
  | refund (escrowId : Bytes32)
  | penalizeProvider (did : Bytes32)
  | penalizeFalseDisputer (did : Bytes32)
  deriving DecidableEq

variable {AccountId : Type} [DecidableEq AccountId]

abbrev Config.currency (cfg : Config AccountId) : ReservableCurrency AccountId :=
  cfg.registry.currency

/-- The runtime without the storage of `pallet-vector-db`. -/
structure Ext (cfg : Config AccountId) where
  system : System
  ledger : cfg.currency.Ledger
  registry : AgentRegistry.Storage AccountId
  escrow : Escrow.Storage AccountId
  hooks : List (HookCall AccountId)

variable {cfg : Config AccountId}

namespace Ext

/-- What `pallet-agent-registry` sees. -/
def registryState (x : Ext cfg) : AgentRegistry.State cfg.registry :=
  ⟨x.registry, x.system, x.ledger⟩

def putRegistry (t : AgentRegistry.State cfg.registry) (x : Ext cfg) : Ext cfg :=
  { x with registry := t.storage, ledger := t.ledger }

/-- What `pallet-escrow` sees. -/
def escrowState (x : Ext cfg) : Escrow.State cfg.currency :=
  ⟨x.escrow, x.system.blockNumber, x.ledger⟩

def putEscrow (t : Escrow.State cfg.currency) (x : Ext cfg) : Ext cfg :=
  { x with escrow := t.storage, ledger := t.ledger }

def recordHook (h : HookCall AccountId) (x : Ext cfg) : Ext cfg :=
  { x with hooks := x.hooks ++ [h] }

end Ext

/-! ## The adapters -/

namespace AgentRegistryAdapter

def controllerOf (x : Ext cfg) (did : Bytes32) : Option AccountId :=
  (x.registry.agentProfiles did).map fun profile => profile.controller

def isActiveVerified (x : Ext cfg) (did : Bytes32) : Bool :=
  ((x.registry.agentProfiles did).map fun profile =>
    decide (profile.status = .active) && profile.isVerified).getD false

end AgentRegistryAdapter

abbrev EscrowError (cfg : Config AccountId) := DispatchError Escrow.Error cfg.currency.Error

namespace EscrowAdapter

/-- Call `pallet-escrow` and record the call if it goes through. -/
def forward (h : HookCall AccountId) (m : Escrow.EscrowM cfg.currency Unit) :
    EStateM (EscrowError cfg) (Ext cfg) Unit := do
  zoom Ext.escrowState Ext.putEscrow id m
  modify (Ext.recordHook h)

def lock (escrowId : Bytes32) (payer payee : AccountId) (amount : Nat) :
    EStateM (EscrowError cfg) (Ext cfg) Unit :=
  forward (.lock escrowId payer payee amount) (Escrow.lock escrowId payer payee amount)

def release (escrowId : Bytes32) : EStateM (EscrowError cfg) (Ext cfg) Unit :=
  forward (.release escrowId) (Escrow.release escrowId)

def refund (escrowId : Bytes32) : EStateM (EscrowError cfg) (Ext cfg) Unit :=
  forward (.refund escrowId) (Escrow.refund escrowId)

end EscrowAdapter

namespace ReputationHandlerAdapter

def penalizeProvider (did : Bytes32) (x : Ext cfg) : Ext cfg :=
  (x.putRegistry (AgentRegistry.slashReputationForGuiltyDelivery did cfg.providerGuiltySlash
    x.registryState)).recordHook (.penalizeProvider did)

def penalizeFalseDisputer (did : Bytes32) (x : Ext cfg) : Ext cfg :=
  (x.putRegistry (AgentRegistry.slashReputation did cfg.falseDisputeSlash
    x.registryState)).recordHook (.penalizeFalseDisputer did)

end ReputationHandlerAdapter

/-- The configuration of `pallet-vector-db` in the runtime. -/
def Config.vectorDb (cfg : Config AccountId) : VectorDb.Config AccountId (Ext cfg) where
  disputeWindow := cfg.disputeWindow
  maxCommitmentLifetime := cfg.maxCommitmentLifetime
  blake2_256 := cfg.registry.blake2_256
  rsMerkle := cfg.rsMerkle
  blockNumber x := x.system.blockNumber
  controllerOf := AgentRegistryAdapter.controllerOf
  isActiveVerified := AgentRegistryAdapter.isActiveVerified
  EscrowError := EscrowError cfg
  lock := EscrowAdapter.lock
  release := EscrowAdapter.release
  refund := EscrowAdapter.refund
  penalizeProvider := ReputationHandlerAdapter.penalizeProvider
  penalizeFalseDisputer := ReputationHandlerAdapter.penalizeFalseDisputer

/-! ## Runs -/

abbrev State (cfg : Config AccountId) := VectorDb.State (Ext cfg)

inductive Call where
  | agentRegistry (c : AgentRegistry.Call)
  | vectorDb (c : VectorDb.Call)

/-- A call, or some new blocks. The hashes of blocks are not determined by the state. -/
inductive Input (AccountId : Type) where
  | call (origin : Origin AccountId) (c : Call)
  | newBlocks (blocks : Nat) (blockHash : Nat → Bytes32)

def step (s : State cfg) : Input AccountId → State cfg
  | .call origin (.agentRegistry c) =>
      s.putExt (s.ext.putRegistry (dispatch (c.run origin) s.ext.registryState))
  | .call origin (.vectorDb c) => dispatch (c.run cfg.vectorDb origin) s
  | .newBlocks blocks blockHash =>
      s.putExt { s.ext with system := ⟨satAdd s.ext.system.blockNumber blocks, blockHash⟩ }

/-- The state before the first block: the window of the chain specification and any ledger. -/
def genesis (cfg : Config AccountId) (disputeWindow : Option Nat) (blockHash : Nat → Bytes32)
    (ledger : cfg.currency.Ledger) : State cfg :=
  VectorDb.genesis disputeWindow
    { system := ⟨0, blockHash⟩
      ledger := ledger
      registry := AgentRegistry.Storage.genesis AccountId
      escrow := ⟨.empty, []⟩
      hooks := [] }

/-- The records that `pallet-vector-db` and `pallet-escrow` keep under one identifier. -/
structure Entry (AccountId : Type) where
  commitment : Option VectorDb.VectorCommitment
  dispute : Option VectorDb.DisputeRecord
  receipt : Option VectorDb.StreamReceipt
  escrow : Option (Escrow.EscrowRecord AccountId)

def entry (s : State cfg) (id : Bytes32) : Entry AccountId :=
  ⟨s.storage.vectorCommitments id, s.storage.disputeRecords id, s.storage.streamReceipts id,
    s.ext.escrow.escrows id⟩

/-- The current block. -/
def now (s : State cfg) : Nat := s.ext.system.blockNumber

/-- A step of the runtime is a step of `pallet-vector-db` in some environment. -/
theorem exists_vectorDb_input (s : State cfg) (i : Input AccountId) :
    ∃ j : VectorDb.Input AccountId (Ext cfg), step s i = VectorDb.step cfg.vectorDb s j := by
  cases i with
  | call origin c =>
      cases c with
      | agentRegistry c => exact ⟨.environment _, rfl⟩
      | vectorDb c => exact ⟨.call origin c, rfl⟩
  | newBlocks blocks blockHash => exact ⟨.environment _, rfl⟩

/-- A run of the runtime is a run of `pallet-vector-db` in some environment. -/
theorem exists_vectorDb_run (run : List (Input AccountId)) :
    ∀ s : State cfg, ∃ js, exec step s run = exec (VectorDb.step cfg.vectorDb) s js := by
  induction run with
  | nil => exact fun s => ⟨[], rfl⟩
  | cons i run ih =>
      intro s
      obtain ⟨j, hj⟩ := exists_vectorDb_input s i
      obtain ⟨js, hjs⟩ := ih (step s i)
      refine ⟨j :: js, ?_⟩
      rw [exec_cons, exec_cons, ← hj, hjs]

/-! ## What the adapters do -/

/-- The rest of the runtime after a lock. -/
def Ext.locked (id : Bytes32) (payer payee : AccountId) (amount : Nat)
    (ledger : cfg.currency.Ledger) (x : Ext cfg) : Ext cfg :=
  { x with
    ledger := ledger
    escrow :=
      { escrows := x.escrow.escrows.insert id
          ⟨payer, payee, amount, .locked, x.system.blockNumber⟩
        events := x.escrow.events ++ [.fundsLocked id payer payee amount] }
    hooks := x.hooks ++ [.lock id payer payee amount] }

/-- The rest of the runtime after a release. -/
def Ext.released (id : Bytes32) (record : Escrow.EscrowRecord AccountId)
    (ledger : cfg.currency.Ledger) (x : Ext cfg) : Ext cfg :=
  { x with
    ledger := ledger
    escrow :=
      { escrows := x.escrow.escrows.insert id { record with status := .released }
        events := x.escrow.events
          ++ [.fundsReleased id record.payer record.payee record.amount] }
    hooks := x.hooks ++ [.release id] }

/-- The rest of the runtime after a refund. -/
def Ext.refunded (id : Bytes32) (record : Escrow.EscrowRecord AccountId) (x : Ext cfg) : Ext cfg :=
  { x with
    ledger := (cfg.currency.unreserve record.payer record.amount x.ledger).1
    escrow :=
      { escrows := x.escrow.escrows.insert id { record with status := .refunded }
        events := x.escrow.events ++ [.fundsRefunded id record.payer record.amount] }
    hooks := x.hooks ++ [.refund id] }

theorem forward_ok {h : HookCall AccountId} {m : Escrow.EscrowM cfg.currency Unit}
    {x x' : Ext cfg} :
    (EscrowAdapter.forward h m).run x = .ok () x' ↔
      ∃ t, m.run x.escrowState = .ok () t ∧ x' = (x.putEscrow t).recordHook h := by
  rw [EscrowAdapter.forward, run_bind_ok]
  constructor
  · rintro ⟨_, y, hm, hmod⟩
    obtain ⟨t, ht, rfl⟩ := run_zoom_ok.mp hm
    exact ⟨t, ht, run_modify_ok.mp hmod⟩
  · rintro ⟨t, ht, rfl⟩
    exact ⟨(), _, run_zoom_ok.mpr ⟨t, ht, rfl⟩, run_modify_ok.mpr rfl⟩

theorem lock_ok {id : Bytes32} {payer payee : AccountId} {amount : Nat} {x x' : Ext cfg} :
    (cfg.vectorDb.lock id payer payee amount).run x = .ok () x' ↔
      x.escrow.escrows id = none ∧
      ∃ ledger, cfg.currency.reserve payer amount x.ledger = some ledger ∧
        x' = x.locked id payer payee amount ledger := by
  refine forward_ok.trans ?_
  simp only [Escrow.lock_ok]
  constructor
  · rintro ⟨t, ⟨hnone, ledger, hres, rfl⟩, rfl⟩
    exact ⟨hnone, ledger, hres, rfl⟩
  · rintro ⟨hnone, ledger, hres, rfl⟩
    exact ⟨_, ⟨hnone, ledger, hres, rfl⟩, rfl⟩

theorem release_ok {id : Bytes32} {x x' : Ext cfg} :
    (cfg.vectorDb.release id).run x = .ok () x' ↔
      ∃ record, x.escrow.escrows id = some record ∧ record.status = .locked ∧
      ∃ r, cfg.currency.repatriateReserved record.payer record.payee record.amount x.ledger
          = .ok r ∧
        x' = x.released id record r.1 := by
  refine forward_ok.trans ?_
  simp only [Escrow.release_ok]
  constructor
  · rintro ⟨t, ⟨record, hrec, hst, r, hr, rfl⟩, rfl⟩
    exact ⟨record, hrec, hst, r, hr, rfl⟩
  · rintro ⟨record, hrec, hst, r, hr, rfl⟩
    exact ⟨_, ⟨record, hrec, hst, r, hr, rfl⟩, rfl⟩

theorem refund_ok {id : Bytes32} {x x' : Ext cfg} :
    (cfg.vectorDb.refund id).run x = .ok () x' ↔
      ∃ record, x.escrow.escrows id = some record ∧ record.status = .locked ∧
        x' = x.refunded id record := by
  refine forward_ok.trans ?_
  simp only [Escrow.refund_ok]
  constructor
  · rintro ⟨t, ⟨record, hrec, hst, rfl⟩, rfl⟩
    exact ⟨record, hrec, hst, rfl⟩
  · rintro ⟨record, hrec, hst, rfl⟩
    exact ⟨_, ⟨record, hrec, hst, rfl⟩, rfl⟩

/-! The record under the identifier of the call, and the escrows after a penalty. -/

section

variable (x : Ext cfg) (id : Bytes32) (record : Escrow.EscrowRecord AccountId)

@[simp] theorem locked_escrows (payer payee : AccountId) (amount : Nat)
    (ledger : cfg.currency.Ledger) :
    (x.locked id payer payee amount ledger).escrow.escrows id =
      some ⟨payer, payee, amount, .locked, x.system.blockNumber⟩ :=
  StorageMap.insert_self _ _ _

@[simp] theorem released_escrows (ledger : cfg.currency.Ledger) :
    (x.released id record ledger).escrow.escrows id = some { record with status := .released } :=
  StorageMap.insert_self _ _ _

@[simp] theorem refunded_escrows :
    (x.refunded id record).escrow.escrows id = some { record with status := .refunded } :=
  StorageMap.insert_self _ _ _

@[simp] theorem penalizeProvider_escrow (did : Bytes32) :
    (ReputationHandlerAdapter.penalizeProvider did x).escrow = x.escrow := rfl

@[simp] theorem penalizeFalseDisputer_escrow (did : Bytes32) :
    (ReputationHandlerAdapter.penalizeFalseDisputer did x).escrow = x.escrow := rfl

end

/-! ## The constants of the runtime -/

/-- The runtime with its constants, over the plain ledger and with cryptography that can be
evaluated. -/
def devConfig : Config Nat where
  registry := AgentRegistry.devConfig
  disputeWindow := 14400
  maxCommitmentLifetime := 100800
  providerGuiltySlash := 5
  falseDisputeSlash := 2
  rsMerkle := Merkle.layered Bytes32

def devGenesis : State devConfig :=
  genesis devConfig none (fun _ => Bytes32.ofNat 0)
    (AgentRegistry.devLedger (1000 * AgentRegistry.unit))

def nextBlocks (blocks : Nat) : Input Nat := .newBlocks blocks fun _ => Bytes32.ofNat 0

/-- The identifier of the commitment of `dealRun`. -/
def dealId : Bytes32 :=
  tailHash (VectorDb.commitmentPreimage (AgentRegistry.keyDid 1) (AgentRegistry.keyDid 2)
    (Bytes32.ofNat 5) 1)

/-- At block 1, accounts 1 and 2 register an agent each; the first one commits to three chunks
for 50 tokens, expiring after ten blocks, and the second one acknowledges. -/
def dealRun : List (Input Nat) :=
  [nextBlocks 1,
    .call (.signed 1) (.agentRegistry (AgentRegistry.registerKey 1)),
    .call (.signed 2) (.agentRegistry (AgentRegistry.registerKey 2)),
    .call (.signed 1) (.vectorDb (.registerCommitment (AgentRegistry.keyDid 1)
      (AgentRegistry.keyDid 2) (Bytes32.ofNat 5) 3 .nil 10 (50 * AgentRegistry.unit))),
    .call (.signed 2) (.vectorDb (.acknowledgeCommitment dealId (AgentRegistry.keyDid 2)))]

end Runtime
