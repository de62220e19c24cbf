import ArthNeura.Runtime.Composition
import ArthNeura.Scale.Dynamic

set_option autoImplicit false

/-! # The calls of the runtime as bytes

The signatures of the thirteen calls of `pallet-agent-registry` and `pallet-vector-db`: names,
indices, and the types of the arguments in their order. They are at once the metadata that a client
looks a call up in and the decoder of the chain, with the format of the bytes as in `Scale.Codec`.

The calls of the other pallets of the runtime are not part of the model; their indices are not
read. The last sections describe what a client sees of the runtime: the events of
`pallet-vector-db` with their fields, and the result of a transaction.
-/

namespace Runtime

open Frame Scale

/-! ## The types of the arguments -/

def bytes32 : WireField Bytes32 := WireField.byte.array 32

def byteVec : WireField Bytes := WireField.byte.seq

def bytes32Vec : WireField (List Bytes32) := bytes32.seq

def blockNumber : WireField Nat := .uint 4

def balance : WireField Nat := .uint 16

/-- The variants of `AgentStatus`, in the order of their declaration. -/
def statusNames : List String := ["Active", "Suspended", "Revoked"]

def statusTag : AgentRegistry.AgentStatus → UInt8
  | .active => 0
  | .suspended => 1
  | .revoked => 2

def statusOfTag (b : UInt8) : Option AgentRegistry.AgentStatus :=
  if b = 0 then some .active
  else if b = 1 then some .suspended
  else if b = 2 then some .revoked
  else none

def statusName : AgentRegistry.AgentStatus → String
  | .active => "Active"
  | .suspended => "Suspended"
  | .revoked => "Revoked"

theorem statusOfTag_statusTag (status : AgentRegistry.AgentStatus) :
    statusOfTag (statusTag status) = some status := by
  cases status <;> rfl

def agentStatus : WireField AgentRegistry.AgentStatus :=
  .enum statusNames statusTag statusOfTag statusName statusOfTag_statusTag (by
    intro status
    cases status <;> decide)

theorem valid_bytes32 (v : Bytes32) : bytes32.codec.Valid v :=
  Codec.valid_array fun _ _ => trivial

theorem valid_byteVec {bs : Bytes} (h : bs.length < 4294967296) : byteVec.codec.Valid bs :=
  ⟨h, fun _ _ => trivial⟩

theorem valid_bytes32Vec {l : List Bytes32} (h : l.length < 4294967296) :
    bytes32Vec.codec.Valid l :=
  ⟨h, fun v _ => valid_bytes32 v⟩

theorem valid_agentStatus (status : AgentRegistry.AgentStatus) : agentStatus.codec.Valid status :=
  trivial

/-- A vector whose length is within its bound. -/
def boundedVec {α : Type} (n : Nat) (l : List α) : Option (BoundedVec α n) :=
  if h : l.length ≤ n then some ⟨l, h⟩ else none

theorem boundedVec_eq_some {α : Type} {n : Nat} {l : List α} {v : BoundedVec α n} :
    boundedVec n l = some v ↔ l = v.val := by
  rw [boundedVec, Option.dite_none_right_eq_some]
  constructor
  · rintro ⟨_, hv⟩
    exact congrArg Subtype.val (Option.some.inj hv)
  · rintro rfl
    exact ⟨v.property, rfl⟩

theorem valid_boundedVec {n : Nat} (hn : n < 4294967296) (v : BoundedVec UInt8 n) :
    byteVec.codec.Valid v.val :=
  valid_byteVec (v.property.trans_lt hn)

/-! ## `pallet-agent-registry` -/

def registerAgentType : CallType Call where
  name := "register_agent"
  index := 0
  Args := Bytes × Bytes × Nat × UInt64 × Bytes × Bytes
  fields := .cons byteVec (.cons byteVec (.cons blockNumber (.cons .u64 (.cons byteVec
    (.last byteVec)))))
  call := fun (pubkey, signature, signedAtBlock, capabilities, metadata, label) => do
    return .agentRegistry (.registerAgent (← boundedVec _ pubkey) (← boundedVec _ signature)
      signedAtBlock capabilities (← boundedVec _ metadata) (← boundedVec _ label))

def updateProfileType : CallType Call where
  name := "update_profile"
  index := 1
  Args := Bytes32 × UInt64 × Bytes × Bytes
  fields := .cons bytes32 (.cons .u64 (.cons byteVec (.last byteVec)))
  call := fun (did, capabilities, metadata, label) => do
    return .agentRegistry (.updateProfile did capabilities (← boundedVec _ metadata)
      (← boundedVec _ label))

def setAgentStatusType : CallType Call where
  name := "set_agent_status"
  index := 2
  Args := Bytes32 × AgentRegistry.AgentStatus
  fields := .cons bytes32 (.last agentStatus)
  call := fun (did, newStatus) => some (.agentRegistry (.setAgentStatus did newStatus))

def giveStarType : CallType Call where
  name := "give_star"
  index := 3
  Args := Bytes32 × Bytes32
  fields := .cons bytes32 (.last bytes32)
  call := fun (giverDid, receiver) => some (.agentRegistry (.giveStar giverDid receiver))

def removeStarType : CallType Call where
  name := "remove_star"
  index := 4
  Args := Bytes32 × Bytes32
  fields := .cons bytes32 (.last bytes32)
  call := fun (giverDid, receiver) => some (.agentRegistry (.removeStar giverDid receiver))

def deregisterAgentType : CallType Call where
  name := "deregister_agent"
  index := 5
  Args := Bytes32
  fields := .last bytes32
  call did := some (.agentRegistry (.deregisterAgent did))

def agentRegistryPallet : PalletType Call where
  name := "AgentRegistry"
  index := 8
  calls := [registerAgentType, updateProfileType, setAgentStatusType, giveStarType, removeStarType,
    deregisterAgentType]

/-! ## `pallet-vector-db` -/

def registerCommitmentType : CallType Call where
  name := "register_commitment"
  index := 0
  Args := Bytes32 × Bytes32 × Bytes32 × UInt64 × Bytes × Nat × Nat
  fields := .cons bytes32 (.cons bytes32 (.cons bytes32 (.cons .u64 (.cons byteVec
    (.cons blockNumber (.last balance))))))
  call := fun (providerDid, consumerDid, merkleRoot, totalChunks, metadata, expiresInBlocks,
      price) => do
    return .vectorDb (.registerCommitment providerDid consumerDid merkleRoot totalChunks
      (← boundedVec _ metadata) expiresInBlocks price)

def acknowledgeCommitmentType : CallType Call where
  name := "acknowledge_commitment"
  index := 1
  Args := Bytes32 × Bytes32
  fields := .cons bytes32 (.last bytes32)
  call := fun (commitmentId, consumerDid) =>
    some (.vectorDb (.acknowledgeCommitment commitmentId consumerDid))

def closeCommitmentType : CallType Call where
  name := "close_commitment"
  index := 2
  Args := Bytes32 × Bytes32 × Bytes32 × UInt64
  fields := .cons bytes32 (.cons bytes32 (.cons bytes32 (.last .u64)))
  call := fun (commitmentId, consumerDid, finalStreamHash, chunkCount) =>
    some (.vectorDb (.closeCommitment commitmentId consumerDid finalStreamHash chunkCount))

def raiseDisputeType : CallType Call where
  name := "raise_dispute"
  index := 3
  Args := Bytes32 × Bytes32 × UInt64 × Bytes32 × UInt64
  fields := .cons bytes32 (.cons bytes32 (.cons .u64 (.cons bytes32 (.last .u64))))
  call := fun (commitmentId, consumerDid, disputedChunkIndex, receivedChunkHash, chunkCount) =>
    some (.vectorDb (.raiseDispute commitmentId consumerDid disputedChunkIndex receivedChunkHash
      chunkCount))

def counterDisputeType : CallType Call where
  name := "counter_dispute"
  index := 4
  Args := Bytes32 × Bytes32 × Bytes × List Bytes32
  fields := .cons bytes32 (.cons bytes32 (.cons byteVec (.last bytes32Vec)))
  call := fun (commitmentId, providerDid, chunkData, merkleProof) => do
    return .vectorDb (.counterDispute commitmentId providerDid (← boundedVec _ chunkData)
      (← boundedVec _ merkleProof))

def finalizeDisputeType : CallType Call where
  name := "finalize_dispute"
  index := 5
  Args := Bytes32
  fields := .last bytes32
  call commitmentId := some (.vectorDb (.finalizeDispute commitmentId))

def expireCommitmentType : CallType Call where
  name := "expire_commitment"
  index := 6
  Args := Bytes32
  fields := .last bytes32
  call commitmentId := some (.vectorDb (.expireCommitment commitmentId))

def vectorDbPallet : PalletType Call where
  name := "VectorDb"
  index := 9
  calls := [registerCommitmentType, acknowledgeCommitmentType, closeCommitmentType,
    raiseDisputeType, counterDisputeType, finalizeDisputeType, expireCommitmentType]

/-! ## The runtime -/

def pallets : List (PalletType Call) := [agentRegistryPallet, vectorDbPallet]

theorem pallets_wellFormed : WellFormed pallets where
  names := by decide
  indices := by decide
  callNames := List.forall_mem_cons.mpr ⟨by decide, List.forall_mem_singleton.mpr (by decide)⟩
  callIndices := List.forall_mem_cons.mpr ⟨by decide, List.forall_mem_singleton.mpr (by decide)⟩

/-! ## The events of `pallet-vector-db` -/

section

open VectorDb

/-- The variants of `DisputeVerdict`, in the order of their declaration. -/
def verdictNames : List String := ["ProviderGuilty", "ClaimantUnsubstantiated"]

def verdictTag : DisputeVerdict → UInt8
  | .providerGuilty => 0
  | .claimantUnsubstantiated => 1

def verdictOfTag (b : UInt8) : Option DisputeVerdict :=
  if b = 0 then some .providerGuilty
  else if b = 1 then some .claimantUnsubstantiated
  else none

def verdictName : DisputeVerdict → String
  | .providerGuilty => "ProviderGuilty"
  | .claimantUnsubstantiated => "ClaimantUnsubstantiated"

theorem verdictOfTag_verdictTag (verdict : DisputeVerdict) :
    verdictOfTag (verdictTag verdict) = some verdict := by
  cases verdict <;> rfl

def disputeVerdict : WireField DisputeVerdict :=
  .enum verdictNames verdictTag verdictOfTag verdictName verdictOfTag_verdictTag (by
    intro verdict
    cases verdict <;> decide)

def commitmentRegisteredFields :
    WireFields (Bytes32 × Bytes32 × Bytes32 × Bytes32 × UInt64 × Nat × Bytes) :=
  .cons bytes32 (.cons bytes32 (.cons bytes32 (.cons bytes32 (.cons .u64 (.cons blockNumber
    (.last byteVec))))))

/-- An event with its fields. -/
def vectorDbEvent {α : Type} (variant : String) (fieldNames : List String) (fields : WireFields α)
    (a : α) : EventDetails :=
  ⟨vectorDbPallet.name, variant, fieldNames, fields.tys, fields.codec.encode a⟩

theorem fieldValues_vectorDbEvent {α : Type} {variant : String} {fieldNames : List String}
    {fields : WireFields α} {a : α} (h : fields.codec.Valid a) :
    (vectorDbEvent variant fieldNames fields a).fieldValues
      = some (.named (fieldNames.zip (fields.values a))) := by
  have hdec := fields.decodeArgs_encode a [] h
  rw [List.append_nil] at hdec
  exact congrArg (Option.map _) hdec

def eventDetails : VectorDb.Event → EventDetails
  | .commitmentRegistered commitmentId provider consumer merkleRoot totalChunks expiresAt
      metadata =>
      vectorDbEvent "CommitmentRegistered"
        ["commitment_id", "provider", "consumer", "merkle_root", "total_chunks", "expires_at",
          "metadata"]
        commitmentRegisteredFields
        (commitmentId, provider, consumer, merkleRoot, totalChunks, expiresAt, metadata.val)
  | .commitmentAcknowledged commitmentId acknowledgedAt =>
      vectorDbEvent "CommitmentAcknowledged" ["commitment_id", "acknowledged_at"]
        (.cons bytes32 (.last blockNumber)) (commitmentId, acknowledgedAt)
  | .commitmentSettled commitmentId finalStreamHash chunkCount =>
      vectorDbEvent "CommitmentSettled" ["commitment_id", "final_stream_hash", "chunk_count"]
        (.cons bytes32 (.cons bytes32 (.last .u64))) (commitmentId, finalStreamHash, chunkCount)
  | .disputeRaised commitmentId merkleRoot disputedChunkIndex receivedChunkHash counterDeadline =>
      vectorDbEvent "DisputeRaised"
        ["commitment_id", "merkle_root", "disputed_chunk_index", "received_chunk_hash",
          "counter_deadline"]
        (.cons bytes32 (.cons bytes32 (.cons .u64 (.cons bytes32 (.last blockNumber)))))
        (commitmentId, merkleRoot, disputedChunkIndex, receivedChunkHash, counterDeadline)
  | .disputeCountered commitmentId verdict =>
      vectorDbEvent "DisputeCountered" ["commitment_id", "verdict"]
        (.cons bytes32 (.last disputeVerdict)) (commitmentId, verdict)
  | .disputeFinalized commitmentId verdict provider consumer =>
      vectorDbEvent "DisputeFinalized" ["commitment_id", "verdict", "provider", "consumer"]
        (.cons bytes32 (.cons disputeVerdict (.cons bytes32 (.last bytes32))))
        (commitmentId, verdict, provider, consumer)
  | .commitmentExpired commitmentId =>
      vectorDbEvent "CommitmentExpired" ["commitment_id"] (.last bytes32) commitmentId

end

/-! ## Transactions -/

section

variable {AccountId : Type} [DecidableEq AccountId] {cfg : Config AccountId}

/-- Whether the chain reports success for a call. -/
def callSucceeds (s : State cfg) (origin : Origin AccountId) : Call → Bool
  | .agentRegistry c => succeeds (c.run origin) s.ext.registryState
  | .vectorDb c => succeeds (c.run cfg.vectorDb origin) s

/-- Whether a client that submits a dynamic call in state `s` hears of its success: it has to be
encoded, read by the chain, and dispatched. -/
def finalizedSuccess (s : State cfg) (signer : AccountId) (tx : DynamicCall) : Bool :=
  ((encodeCall pallets tx).bind (decodeCall pallets)).any (callSucceeds s (.signed signer))

/-- The state of the chain after a dynamic call. -/
def included (s : State cfg) (signer : AccountId) (tx : DynamicCall) : State cfg :=
  ((encodeCall pallets tx).bind (decodeCall pallets)).elim s
    fun call => step s (.call (.signed signer) call)

inductive SubmitError where
  | subxt
  | eventMissing
  deriving DecidableEq

/-- The event that a client looks for, among all events of its transaction. -/
def findEvent (events : List EventDetails) (pallet variant : String) : Option EventDetails :=
  events.find? fun e => e.pallet = pallet ∧ e.variant = variant

theorem findEvent_eq (events : List EventDetails) (pallet variant : String) :
    findEvent events pallet variant
      = (events.filter fun e => e.pallet = pallet).find? fun e => e.variant = variant := by
  rw [findEvent, List.find?_filter]
  simp only [decide_eq_true_eq]

end

end Runtime
