import ArthNeura.OffchainAgentRegistry.Registration
import ArthNeura.Runtime.Metadata

set_option autoImplicit false

/-! # The transactions of the registry client

The functions of the client that change the registry, from their arguments to the result that the
caller sees. As in the client of `pallet-vector-db`, names, order and types of the arguments are
checked against the pallet by nobody; here the client checks no lengths either. The client has an
enumeration of its own for the status of an agent, which it hands over by name, and it takes the
capabilities of a new agent as a `u32` where the pallet has 64 bits.

`registry_client_exact` says for all six calls that the chain reads the call that was meant, with
all its arguments, that the client reports success exactly if the pallet has performed it, and that
a DID it returns is the one that is registered.
-/

namespace OffchainAgentRegistry

open Frame Scale
open AgentRegistry (Did)
open Runtime (pallets boundedVec SubmitError findEvent finalizedSuccess included)

/-! ## The dynamic calls -/

def palletName : String := "AgentRegistry"

/-- The status of an agent, as the client has it. -/
inductive AgentStatus where
  | active
  | suspended
  | revoked

def AgentStatus.variantName : AgentStatus → String
  | .active => "Active"
  | .suspended => "Suspended"
  | .revoked => "Revoked"

/-- The transaction of `register_agent` and `submit_signed_registration`. -/
def registerAgentTx (pubkey signature : Bytes) (signedAtBlock capabilities : UInt32)
    (metadata label : Bytes) : DynamicCall :=
  ⟨palletName, "register_agent",
    [.fromBytes pubkey, .fromBytes signature, .u128 signedAtBlock.toNat, .u128 capabilities.toNat,
      .fromBytes metadata, .fromBytes label]⟩

def updateProfileTx (did : Did) (capabilities : UInt64) (metadata label : Bytes) : DynamicCall :=
  ⟨palletName, "update_profile",
    [.fromBytes did.toList, .u128 capabilities.toNat, .fromBytes metadata, .fromBytes label]⟩

def setAgentStatusTx (did : Did) (newStatus : AgentStatus) : DynamicCall :=
  ⟨palletName, "set_agent_status",
    [.fromBytes did.toList, .unnamedVariant newStatus.variantName []]⟩

def giveStarTx (giverDid receiver : Did) : DynamicCall :=
  ⟨palletName, "give_star", [.fromBytes giverDid.toList, .fromBytes receiver.toList]⟩

def removeStarTx (giverDid receiver : Did) : DynamicCall :=
  ⟨palletName, "remove_star", [.fromBytes giverDid.toList, .fromBytes receiver.toList]⟩

def deregisterAgentTx (did : Did) : DynamicCall :=
  ⟨palletName, "deregister_agent", [.fromBytes did.toList]⟩

/-- What one of the functions puts into its transaction. -/
inductive Submission where
  | registerAgent (pubkey signature : Bytes) (signedAtBlock capabilities : UInt32)
      (metadata label : Bytes)
  | updateProfile (did : Did) (capabilities : UInt64) (metadata label : Bytes)
  | setAgentStatus (did : Did) (newStatus : AgentStatus)
  | giveStar (giverDid receiver : Did)
  | removeStar (giverDid receiver : Did)
  | deregisterAgent (did : Did)

namespace Submission

def tx : Submission → DynamicCall
  | .registerAgent pubkey signature signedAtBlock capabilities metadata label =>
      registerAgentTx pubkey signature signedAtBlock capabilities metadata label
  | .updateProfile did capabilities metadata label =>
      updateProfileTx did capabilities metadata label
  | .setAgentStatus did newStatus => setAgentStatusTx did newStatus
  | .giveStar giverDid receiver => giveStarTx giverDid receiver
  | .removeStar giverDid receiver => removeStarTx giverDid receiver
  | .deregisterAgent did => deregisterAgentTx did

/-- The event that the function waits for. -/
def event : Submission → String
  | .registerAgent .. => "AgentRegistered"
  | .updateProfile .. => "AgentProfileUpdated"
  | .setAgentStatus .. => "AgentStatusChanged"
  | .giveStar .. => "StarGiven"
  | .removeStar .. => "StarRemoved"
  | .deregisterAgent _ => "AgentDeregistered"

/-- What a successful function returns. The DID of a new agent is derived by the client, not taken
from the event. -/
def result (blake2_256 : Bytes → Bytes32) : Submission → Option Did
  | .registerAgent pubkey _ _ _ _ _ => some (deriveDid blake2_256 pubkey)
  | _ => none

/-- One of the functions, on a chain that includes its transaction in state `s` and answers with
`events`. -/
def submit {AccountId : Type} [DecidableEq AccountId] {cfg : Runtime.Config AccountId}
    (sub : Submission) (signer : AccountId) (s : Runtime.State cfg) (events : List EventDetails) :
    Except SubmitError (Option Did) :=
  if finalizedSuccess s signer sub.tx then
    match findEvent events palletName sub.event with
    | none => .error .eventMissing
    | some _ => .ok (sub.result cfg.registry.blake2_256)
  else .error .subxt

end Submission

/-! ## What the chain reads -/

/-- The status of the pallet that is meant. -/
def AgentStatus.toPallet : AgentStatus → AgentRegistry.AgentStatus
  | .active => .active
  | .suspended => .suspended
  | .revoked => .revoked

namespace Submission

/-- The call that a function means. -/
def call : Submission → Option AgentRegistry.Call
  | .registerAgent pubkey signature signedAtBlock capabilities metadata label => do
      return .registerAgent (← boundedVec _ pubkey) (← boundedVec _ signature) signedAtBlock.toNat
        capabilities.toUInt64 (← boundedVec _ metadata) (← boundedVec _ label)
  | .updateProfile did capabilities metadata label => do
      return .updateProfile did capabilities (← boundedVec _ metadata) (← boundedVec _ label)
  | .setAgentStatus did newStatus => some (.setAgentStatus did newStatus.toPallet)
  | .giveStar giverDid receiver => some (.giveStar giverDid receiver)
  | .removeStar giverDid receiver => some (.removeStar giverDid receiver)
  | .deregisterAgent did => some (.deregisterAgent did)

/-- The lengths of the vectors fit into their encoding. -/
def Sized : Submission → Prop
  | .registerAgent pubkey signature _ _ metadata label =>
      pubkey.length < 4294967296 ∧ signature.length < 4294967296 ∧
        metadata.length < 4294967296 ∧ label.length < 4294967296
  | .updateProfile _ _ metadata label => metadata.length < 4294967296 ∧ label.length < 4294967296
  | _ => True

end Submission

/-- A call of `pallet-agent-registry` that is composed from the values of its arguments. -/
theorem bind_decodeCall (c : CallType Runtime.Call) (hc : c ∈ Runtime.agentRegistryPallet.calls)
    (a : c.Args) (ha : c.fields.codec.Valid a) :
    (encodeCall pallets ⟨palletName, c.name, c.fields.values a⟩).bind (decodeCall pallets)
      = c.call a :=
  encodeCall_bind_decodeCall (p := Runtime.agentRegistryPallet) Runtime.pallets_wellFormed
    (List.mem_cons_self ..) hc ha

open Runtime in
theorem tx_decodes {sub : Submission} (h : sub.Sized) :
    (encodeCall pallets sub.tx).bind (decodeCall pallets) = sub.call.map .agentRegistry := by
  cases sub with
  | registerAgent pubkey signature signedAtBlock capabilities metadata label =>
      obtain ⟨hpubkey, hsignature, hmetadata, hlabel⟩ := h
      refine (bind_decodeCall registerAgentType (by simp [agentRegistryPallet])
        (pubkey, signature, signedAtBlock.toNat, capabilities.toUInt64, metadata, label)
        ?_).trans ?_
      · exact ⟨valid_byteVec hpubkey, valid_byteVec hsignature, signedAtBlock.toNat_lt,
          Codec.valid_u64 _, valid_byteVec hmetadata, valid_byteVec hlabel⟩
      · simp only [registerAgentType, Submission.call, Option.bind_eq_bind, Option.map_bind,
          Function.comp_def]
        rfl
  | updateProfile did capabilities metadata label =>
      refine (bind_decodeCall updateProfileType (by simp [agentRegistryPallet])
        (did, capabilities, metadata, label) ?_).trans ?_
      · exact ⟨valid_bytes32 did, Codec.valid_u64 _, valid_byteVec h.1, valid_byteVec h.2⟩
      · simp only [updateProfileType, Submission.call, Option.bind_eq_bind, Option.map_bind,
          Function.comp_def]
        rfl
  | setAgentStatus did newStatus =>
      have hvalue : Value.unnamedVariant newStatus.variantName []
          = agentStatus.value newStatus.toPallet := by cases newStatus <;> rfl
      rw [Submission.tx, setAgentStatusTx, hvalue]
      exact bind_decodeCall setAgentStatusType (by simp [agentRegistryPallet])
        (did, newStatus.toPallet) ⟨valid_bytes32 did, valid_agentStatus _⟩
  | giveStar giverDid receiver =>
      exact bind_decodeCall giveStarType (by simp [agentRegistryPallet])
        (giverDid, receiver) ⟨valid_bytes32 giverDid, valid_bytes32 receiver⟩
  | removeStar giverDid receiver =>
      exact bind_decodeCall removeStarType (by simp [agentRegistryPallet])
        (giverDid, receiver) ⟨valid_bytes32 giverDid, valid_bytes32 receiver⟩
  | deregisterAgent did =>
      exact bind_decodeCall deregisterAgentType (by simp [agentRegistryPallet])
        did (valid_bytes32 did)

/-! ## What the client hears -/

def eventName {AccountId : Type} : AgentRegistry.Event AccountId → String
  | .agentRegistered .. => "AgentRegistered"
  | .agentProfileUpdated _ => "AgentProfileUpdated"
  | .agentStatusChanged .. => "AgentStatusChanged"
  | .starGiven .. => "StarGiven"
  | .starRemoved .. => "StarRemoved"
  | .agentDeregistered .. => "AgentDeregistered"
  | .reputationSlashed .. => "ReputationSlashed"
  | .depositSlashed .. => "DepositSlashed"

section

variable {AccountId : Type} [DecidableEq AccountId] {cfg : Runtime.Config AccountId}

/-- The events of `pallet-agent-registry` from one state to a later one. -/
def registryDeposited (s s' : Runtime.State cfg) : List (AgentRegistry.Event AccountId) :=
  s'.ext.registry.events.drop s.ext.registry.events.length

/-- The events of a block that holds a call from `s` to `s'`: those of the registry in their order,
between any others. -/
def Delivered (s s' : Runtime.State cfg) (events : List EventDetails) : Prop :=
  (events.filter fun e => e.pallet = palletName).map EventDetails.variant
    = (registryDeposited s s').map eventName

/-- A call that goes through deposits one event, which is the one that the function waits for. -/
theorem event_of_ok {sub : Submission} {call : AgentRegistry.Call} (hcall : sub.call = some call)
    {origin : Origin AccountId} {s s' : AgentRegistry.State cfg.registry}
    (h : (call.run origin).run s = .ok () s') :
    ∃ e, s'.storage.events = s.storage.events ++ [e] ∧ eventName e = sub.event := by
  cases sub with
  | registerAgent pubkey signature signedAtBlock capabilities metadata label =>
      simp only [Submission.call, Option.bind_eq_bind, Option.bind_eq_some_iff] at hcall
      obtain ⟨pubkey, -, signature, -, metadata, -, label, -, ⟨⟩⟩ := hcall
      obtain ⟨-, -, -, -, -, -, key, -, sig, -, -, ledger, -, dids, -, rfl⟩ :=
        AgentRegistry.registerAgent_ok.mp h
      exact ⟨_, rfl, rfl⟩
  | updateProfile did capabilities metadata label =>
      simp only [Submission.call, Option.bind_eq_bind, Option.bind_eq_some_iff] at hcall
      obtain ⟨metadata, -, label, -, ⟨⟩⟩ := hcall
      obtain ⟨-, -, p, -, -, -, rfl⟩ := AgentRegistry.updateProfile_ok.mp h
      exact ⟨_, rfl, rfl⟩
  | setAgentStatus did newStatus =>
      obtain rfl := Option.some.inj hcall
      obtain ⟨-, -, p, -, -, -, rfl⟩ := AgentRegistry.setAgentStatus_ok.mp h
      refine ⟨.agentStatusChanged did newStatus.toPallet, ?_, rfl⟩
      cases newStatus <;> rfl
  | giveStar giverDid receiver =>
      obtain rfl := Option.some.inj hcall
      obtain ⟨-, -, -, -, p, -, -, -, -, rfl⟩ := AgentRegistry.giveStar_ok.mp h
      exact ⟨_, rfl, rfl⟩
  | removeStar giverDid receiver =>
      obtain rfl := Option.some.inj hcall
      obtain ⟨-, -, -, -, p, -, rfl⟩ := AgentRegistry.removeStar_ok.mp h
      exact ⟨_, rfl, rfl⟩
  | deregisterAgent did =>
      obtain rfl := Option.some.inj hcall
      obtain ⟨-, -, p, -, -, -, rfl⟩ := AgentRegistry.deregisterAgent_ok.mp h
      exact ⟨_, rfl, rfl⟩

/-- The DID that a call registers. -/
def registeredDid (cfg : Runtime.Config AccountId) : AgentRegistry.Call → Option Did
  | .registerAgent pubkey _ _ _ _ _ => some (AgentRegistry.didOf cfg.registry pubkey.val)
  | _ => none

theorem result_eq_registeredDid {sub : Submission} {call : AgentRegistry.Call}
    (hcall : sub.call = some call) :
    sub.result cfg.registry.blake2_256 = registeredDid cfg call := by
  cases sub with
  | registerAgent pubkey signature signedAtBlock capabilities metadata label =>
      simp only [Submission.call, Option.bind_eq_bind, Option.bind_eq_some_iff,
        Runtime.boundedVec_eq_some] at hcall
      obtain ⟨pubkey, rfl, signature, -, metadata, -, label, -, ⟨⟩⟩ := hcall
      rfl
  | updateProfile did capabilities metadata label =>
      simp only [Submission.call, Option.bind_eq_bind, Option.bind_eq_some_iff] at hcall
      obtain ⟨metadata, -, label, -, ⟨⟩⟩ := hcall
      rfl
  | setAgentStatus | giveStar | removeStar | deregisterAgent =>
      obtain rfl := Option.some.inj hcall
      rfl

/-- The event of a call is found between the events of other pallets. -/
theorem findEvent_of_delivered {s s' : Runtime.State cfg} {events : List EventDetails}
    (hev : Delivered s s' events) {e : AgentRegistry.Event AccountId}
    (hdep : registryDeposited s s' = [e]) :
    ∃ d, findEvent events palletName (eventName e) = some d := by
  rw [Delivered, hdep, List.map_singleton, List.map_eq_singleton_iff] at hev
  obtain ⟨d, hfilter, hname⟩ := hev
  refine ⟨d, ?_⟩
  rw [Runtime.findEvent_eq, hfilter]
  simp [hname]

/-- What the chain reports for a call that it reads. -/
theorem finalizedSuccess_of_call {sub : Submission} (hsize : sub.Sized) {call : AgentRegistry.Call}
    (hcall : sub.call = some call) (signer : AccountId) (s : Runtime.State cfg) :
    finalizedSuccess s signer sub.tx =
      succeeds (call.run (.signed signer)) s.ext.registryState := by
  rw [finalizedSuccess, tx_decodes hsize, hcall]
  rfl

/-- What the transaction does to the chain. -/
theorem included_tx {sub : Submission} (hsize : sub.Sized) (signer : AccountId)
    (s : Runtime.State cfg) :
    included s signer sub.tx = sub.call.elim s fun call =>
      Runtime.step s (.call (.signed signer) (.agentRegistry call)) := by
  rw [included, tx_decodes hsize]
  cases sub.call <;> rfl

theorem included_of_call {sub : Submission} (hsize : sub.Sized) {call : AgentRegistry.Call}
    (hcall : sub.call = some call) (signer : AccountId) (s : Runtime.State cfg) :
    included s signer sub.tx = Runtime.step s (.call (.signed signer) (.agentRegistry call)) := by
  rw [included_tx hsize, hcall]
  rfl

theorem submit_of_call {sub : Submission} (hsize : sub.Sized) {call : AgentRegistry.Call}
    (hcall : sub.call = some call) {signer : AccountId} {s : Runtime.State cfg}
    {events : List EventDetails}
    (hev : Delivered s (Runtime.step s (.call (.signed signer) (.agentRegistry call))) events) :
    sub.submit signer s events =
      if succeeds (call.run (.signed signer)) s.ext.registryState then
        .ok (registeredDid cfg call)
      else .error .subxt := by
  rw [Submission.submit, finalizedSuccess_of_call hsize hcall]
  by_cases hok : succeeds (call.run (.signed signer)) s.ext.registryState = true
  · obtain ⟨t, ht⟩ := succeeds_iff.mp hok
    obtain ⟨e, hevents, hname⟩ := event_of_ok hcall ht
    have hstep : Runtime.step s (.call (.signed signer) (.agentRegistry call))
        = s.putExt (s.ext.putRegistry t) := by
      rw [Runtime.step, dispatch_of_ok ht]
    have hdep : registryDeposited s (s.putExt (s.ext.putRegistry t)) = [e] := by
      show t.storage.events.drop s.ext.registry.events.length = [e]
      rw [hevents]
      exact List.drop_left
    obtain ⟨d, hd⟩ := findEvent_of_delivered (hstep ▸ hev) hdep
    rw [if_pos hok, if_pos hok, ← hname, hd, result_eq_registeredDid hcall]
  · rw [if_neg hok, if_neg hok]

/-- **A function of the registry client submits the call it means, and reports success exactly if
the pallet has performed it**, in every state of the chain, for all arguments with vectors of less
than 2³² entries and whatever other events stand in the block. The transaction is read as that call,
or not at all if a vector exceeds its bound, and its inclusion is the step of that call. A DID that
the function returns is the one that the pallet derives from the same key. -/
theorem registry_client_exact (sub : Submission) (hsize : sub.Sized) (signer : AccountId)
    (s : Runtime.State cfg) (events : List EventDetails)
    (hev : ∀ call, sub.call = some call →
      Delivered s (Runtime.step s (.call (.signed signer) (.agentRegistry call))) events) :
    (encodeCall pallets sub.tx).bind (decodeCall pallets) = sub.call.map .agentRegistry ∧
    (included s signer sub.tx = sub.call.elim s fun call =>
      Runtime.step s (.call (.signed signer) (.agentRegistry call))) ∧
    sub.submit signer s events =
      match sub.call with
      | none => .error .subxt
      | some call =>
          if succeeds (call.run (.signed signer)) s.ext.registryState then
            .ok (registeredDid cfg call)
          else .error .subxt := by
  refine ⟨tx_decodes hsize, included_tx hsize signer s, ?_⟩
  cases hcall : sub.call with
  | none =>
      rw [Submission.submit, finalizedSuccess, tx_decodes hsize, hcall, Option.map_none]
      rfl
  | some call => exact submit_of_call hsize hcall (hev call hcall)

end

/-- An agent registers through the client in block 1. -/
def keySubmission : Submission := .registerAgent [1] [] 1 0 [] []

theorem keySubmission_call : keySubmission.call = some (AgentRegistry.registerKey 1) := rfl

theorem registry_client_exact_key :
    let s := exec Runtime.step Runtime.devGenesis (Runtime.dealRun.take 1)
    keySubmission.submit 1 s
      [⟨"Balances", "Reserved", [], [], []⟩, ⟨"AgentRegistry", "AgentRegistered", [], [], []⟩]
        = .ok (some (AgentRegistry.keyDid 1)) := by
  intro s
  have hev : ∀ call, keySubmission.call = some call →
      Delivered s (Runtime.step s (.call (.signed 1) (.agentRegistry call)))
        [⟨"Balances", "Reserved", [], [], []⟩,
          ⟨"AgentRegistry", "AgentRegistered", [], [], []⟩] := by
    intro call hcall
    obtain rfl := Option.some.inj hcall
    rw [Delivered]
    decide +kernel
  have hsize : keySubmission.Sized := by
    refine ⟨?_, ?_, ?_, ?_⟩ <;> decide
  rw [(registry_client_exact keySubmission hsize 1 s _ hev).2.2]
  simp only [keySubmission_call]
  rw [if_pos (by decide +kernel)]
  rfl

end OffchainAgentRegistry
