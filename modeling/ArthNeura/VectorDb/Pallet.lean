import ArthNeura.Frame.Dispatch
import ArthNeura.Frame.Storage
import ArthNeura.Merkle.Layered

set_option autoImplicit false

/-! # `pallet-vector-db`

Commitments to Merkle roots and the adjudication of disputes about them: storage and the seven
calls, translated statement by statement. The pallet is generic in the rest of the runtime
(`Ext`): it reads the block number and the agent registry, and calls the escrow and reputation
hooks, through the functions of `Config`. The hooks act on the rest of the runtime only.
-/

namespace VectorDb

open Frame

/-! ## Types -/

def maxMetadataLen : Nat := 256
def maxChunkLen : Nat := 1024
def maxProofDepth : Nat := 32

abbrev Did := Bytes32
abbrev MerkleRoot := Bytes32
abbrev ChunkIndex := UInt64
abbrev CommitmentId := Bytes32

inductive CommitmentStatus where
  | pending
  | active
  | settled
  | disputed
  | disputeResolved
  | expired
  deriving DecidableEq

structure VectorCommitment where
  commitmentId : CommitmentId
  provider : Did
  consumer : Did
  merkleRoot : MerkleRoot
  totalChunks : UInt64
  metadata : BoundedVec UInt8 maxMetadataLen
  status : CommitmentStatus
  createdAt : Nat
  expiresAt : Nat
  acknowledgedAt : Option Nat
  price : Nat
  deriving DecidableEq

structure StreamReceipt where
  commitmentId : CommitmentId
  finalStreamHash : MerkleRoot
  chunkCount : UInt64
  submittedAt : Nat
  deriving DecidableEq

inductive DisputeVerdict where
  | providerGuilty
  | claimantUnsubstantiated
  deriving DecidableEq

structure DisputeRecord where
  commitmentId : CommitmentId
  merkleRoot : MerkleRoot
  receivedChunkHash : Bytes32
  disputedChunkIndex : ChunkIndex
  raisedAt : Nat
  counterDeadline : Nat
  verdict : Option DisputeVerdict
  deriving DecidableEq

inductive Event where
  | commitmentRegistered (commitmentId : CommitmentId) (provider consumer : Did)
      (merkleRoot : MerkleRoot) (totalChunks : UInt64) (expiresAt : Nat)
      (metadata : BoundedVec UInt8 maxMetadataLen)
  | commitmentAcknowledged (commitmentId : CommitmentId) (acknowledgedAt : Nat)
  | commitmentSettled (commitmentId : CommitmentId) (finalStreamHash : MerkleRoot)
      (chunkCount : UInt64)
  | disputeRaised (commitmentId : CommitmentId) (merkleRoot : MerkleRoot)
      (disputedChunkIndex : ChunkIndex) (receivedChunkHash : Bytes32) (counterDeadline : Nat)
  | disputeCountered (commitmentId : CommitmentId) (verdict : DisputeVerdict)
  | disputeFinalized (commitmentId : CommitmentId) (verdict : DisputeVerdict)
      (provider consumer : Did)
  | commitmentExpired (commitmentId : CommitmentId)
  deriving DecidableEq

inductive Error where
  | commitmentAlreadyExists
  | commitmentNotFound
  | notProvider
  | notConsumer
  | providerNotEligible
  | consumerNotEligible
  | selfTrade
  | expiryMustBePositive
  | expiryTooFar
  | commitmentExpiredError
  | notPending
  | notActive
  | notDisputed
  | alreadyFinalized
  | streamHashMismatch
  | invalidMerkleProof
  | disputeAlreadyRaised
  | disputeWindowStillOpen
  | disputeWindowExpired
  | notYetExpired
  | totalChunksMustBePositive
  | invalidMerkleRoot
  | chunkIndexOutOfBounds
  deriving DecidableEq

/-- The configuration of the pallet: constants, the libraries it is linked against, and the
traits `AgentLookup`, `EscrowHandler` and `ReputationHandler`. -/
structure Config (AccountId Ext : Type) where
  disputeWindow : Nat
  maxCommitmentLifetime : Nat
  blake2_256 : Bytes → Bytes32
  rsMerkle : Merkle.RsMerkle Bytes32
  blockNumber : Ext → Nat
  controllerOf : Ext → Did → Option AccountId
  isActiveVerified : Ext → Did → Bool
  EscrowError : Type
  lock : CommitmentId → AccountId → AccountId → Nat → EStateM EscrowError Ext Unit
  release : CommitmentId → EStateM EscrowError Ext Unit
  refund : CommitmentId → EStateM EscrowError Ext Unit
  penalizeProvider : Did → Ext → Ext
  penalizeFalseDisputer : Did → Ext → Ext

/-- The storage of the pallet, with every event it has deposited so far. -/
structure Storage where
  vectorCommitments : StorageMap CommitmentId VectorCommitment
  activeCommitmentCount : Nat
  streamReceipts : StorageMap CommitmentId StreamReceipt
  disputeRecords : StorageMap CommitmentId DisputeRecord
  disputeWindowOverride : Option Nat
  events : List Event

/-- The storage before the first block, with the dispute window of the chain specification. -/
def Storage.genesis (disputeWindow : Option Nat) : Storage where
  vectorCommitments := .empty
  activeCommitmentCount := 0
  streamReceipts := .empty
  disputeRecords := .empty
  disputeWindowOverride := disputeWindow
  events := []

structure State (Ext : Type) where
  storage : Storage
  ext : Ext

variable {AccountId Ext : Type} [DecidableEq AccountId]

abbrev VectorDbM (cfg : Config AccountId Ext) :=
  EStateM (DispatchError Error cfg.EscrowError) (State Ext)

/-! ## The hasher and the proof check -/

/-- The hash functions of the tree. A node without a sibling is promoted as it is. -/
def blake2bHasher (blake2_256 : Bytes → Bytes32) : Merkle.Hasher Bytes32 where
  hash data := blake2_256 data
  concatAndHash left right :=
    match right with
    | some r => blake2_256 (left.toList ++ r.toList)
    | none => left

/-- `n as usize` in the deployed runtime, where `usize` has 32 bits. -/
def asUsize (n : UInt64) : Nat := n.toNat % 2 ^ 32

/-- The proof check of `counter_dispute`. -/
def proofVerifies (cfg : Config AccountId Ext) (commitment : VectorCommitment)
    (dispute : DisputeRecord) (chunkData : Bytes) (merkleProof : List Bytes32) : Bool :=
  cfg.rsMerkle.verify (blake2bHasher cfg.blake2_256) merkleProof commitment.merkleRoot
    (asUsize dispute.disputedChunkIndex) (cfg.blake2_256 chunkData)
    (asUsize commitment.totalChunks)

/-! ## Storage access -/

@[simp] def State.insertCommitment (id : CommitmentId) (c : VectorCommitment) (s : State Ext) :
    State Ext :=
  { s with storage :=
      { s.storage with vectorCommitments := s.storage.vectorCommitments.insert id c } }

@[simp] def State.removeCommitment (id : CommitmentId) (s : State Ext) : State Ext :=
  { s with storage :=
      { s.storage with vectorCommitments := s.storage.vectorCommitments.remove id } }

@[simp] def State.insertReceipt (id : CommitmentId) (r : StreamReceipt) (s : State Ext) :
    State Ext :=
  { s with storage := { s.storage with streamReceipts := s.storage.streamReceipts.insert id r } }

@[simp] def State.insertDispute (id : CommitmentId) (d : DisputeRecord) (s : State Ext) :
    State Ext :=
  { s with storage := { s.storage with disputeRecords := s.storage.disputeRecords.insert id d } }

@[simp] def State.mutateActiveCommitmentCount (f : Nat → Nat) (s : State Ext) : State Ext :=
  { s with storage :=
      { s.storage with activeCommitmentCount := f s.storage.activeCommitmentCount } }

@[simp] def State.depositEvent (e : Event) (s : State Ext) : State Ext :=
  { s with storage := { s.storage with events := s.storage.events ++ [e] } }

@[simp] def State.putExt (ext : Ext) (s : State Ext) : State Ext := { s with ext := ext }

variable {cfg : Config AccountId Ext}

/-- A call of an escrow hook, `?` included. -/
def escrowHook (m : EStateM cfg.EscrowError Ext Unit) : VectorDbM cfg Unit :=
  zoom State.ext State.putExt .callee m

def effectiveDisputeWindow (cfg : Config AccountId Ext) (st : Storage) : Nat :=
  st.disputeWindowOverride.getD cfg.disputeWindow

/-! ## Calls -/

/-- The bytes of `ArthNeura-Vector-v1`. -/
def commitmentDomain : Bytes :=
  [65, 114, 116, 104, 78, 101, 117, 114, 97, 45, 86, 101, 99, 116, 111, 114, 45, 118, 49]

def commitmentPreimage (provider consumer : Did) (merkleRoot : MerkleRoot)
    (currentBlock : Nat) : Bytes :=
  commitmentDomain ++ provider.toList ++ consumer.toList ++ merkleRoot.toList
    ++ encodeU32 currentBlock

def registerCommitment (cfg : Config AccountId Ext) (origin : Origin AccountId)
    (providerDid consumerDid : Did) (merkleRoot : MerkleRoot) (totalChunks : UInt64)
    (metadata : BoundedVec UInt8 maxMetadataLen) (expiresInBlocks price : Nat) :
    VectorDbM cfg Unit := do
  let caller ← ensureSigned origin
  -- 1. self-trades
  ensure (providerDid ≠ consumerDid) (.module .selfTrade)
  ensure (totalChunks > 0) (.module .totalChunksMustBePositive)
  ensure (merkleRoot ≠ List.Vector.replicate 32 0) (.module .invalidMerkleRoot)
  -- 2. the provider's controller
  let providerController ← okOr (cfg.controllerOf (← get).ext providerDid)
    (.module .providerNotEligible)
  ensure (providerController = caller) (.module .notProvider)
  -- 3. both agents
  ensure (cfg.isActiveVerified (← get).ext providerDid) (.module .providerNotEligible)
  ensure (cfg.isActiveVerified (← get).ext consumerDid) (.module .consumerNotEligible)
  -- 4. the expiry
  let currentBlock := cfg.blockNumber (← get).ext
  ensure (expiresInBlocks > 0) (.module .expiryMustBePositive)
  ensure (expiresInBlocks ≤ cfg.maxCommitmentLifetime) (.module .expiryTooFar)
  let expiresAt := satAdd currentBlock expiresInBlocks
  -- 5. the identifier
  let commitmentId :=
    cfg.blake2_256 (commitmentPreimage providerDid consumerDid merkleRoot currentBlock)
  ensure (¬ (← get).storage.vectorCommitments.containsKey commitmentId)
    (.module .commitmentAlreadyExists)
  -- 6. the record
  modify (State.insertCommitment commitmentId
    { commitmentId := commitmentId, provider := providerDid, consumer := consumerDid,
      merkleRoot := merkleRoot, totalChunks := totalChunks, metadata := metadata,
      status := .pending, createdAt := currentBlock, expiresAt := expiresAt,
      acknowledgedAt := none, price := price })
  modify (State.mutateActiveCommitmentCount (satAdd · 1))
  modify (State.depositEvent (.commitmentRegistered commitmentId providerDid consumerDid
    merkleRoot totalChunks expiresAt metadata))

/-- The checks on the consumer that three of the calls share. -/
def ensureConsumer (caller : AccountId) (consumerDid : Did) : VectorDbM cfg Unit := do
  let consumerController ← okOr (cfg.controllerOf (← get).ext consumerDid)
    (.module .consumerNotEligible)
  ensure (consumerController = caller) (.module .notConsumer)
  ensure (cfg.isActiveVerified (← get).ext consumerDid) (.module .consumerNotEligible)
  pure ()

def acknowledgeCommitment (cfg : Config AccountId Ext) (origin : Origin AccountId)
    (commitmentId : CommitmentId) (consumerDid : Did) : VectorDbM cfg Unit := do
  let caller ← ensureSigned origin
  let commitment ← okOr ((← get).storage.vectorCommitments commitmentId)
    (.module .commitmentNotFound)
  ensure (commitment.status = .pending) (.module .notPending)
  let currentBlock := cfg.blockNumber (← get).ext
  ensure (currentBlock < commitment.expiresAt) (.module .commitmentExpiredError)
  ensure (commitment.consumer = consumerDid) (.module .notConsumer)
  ensureConsumer caller consumerDid
  -- the escrow is locked before the transition is written
  let providerController ← okOr (cfg.controllerOf (← get).ext commitment.provider)
    (.module .providerNotEligible)
  escrowHook (cfg.lock commitmentId caller providerController commitment.price)
  modify (State.insertCommitment commitmentId
    { commitment with status := .active, acknowledgedAt := some currentBlock })
  modify (State.depositEvent (.commitmentAcknowledged commitmentId currentBlock))

def closeCommitment (cfg : Config AccountId Ext) (origin : Origin AccountId)
    (commitmentId : CommitmentId) (consumerDid : Did) (finalStreamHash : MerkleRoot)
    (chunkCount : UInt64) : VectorDbM cfg Unit := do
  let caller ← ensureSigned origin
  let commitment ← okOr ((← get).storage.vectorCommitments commitmentId)
    (.module .commitmentNotFound)
  ensure (commitment.status = .active) (.module .notActive)
  let currentBlock := cfg.blockNumber (← get).ext
  ensure (currentBlock < commitment.expiresAt) (.module .commitmentExpiredError)
  ensure (commitment.consumer = consumerDid) (.module .notConsumer)
  ensureConsumer caller consumerDid
  ensure (finalStreamHash = commitment.merkleRoot) (.module .streamHashMismatch)
  modify (State.insertReceipt commitmentId
    { commitmentId := commitmentId, finalStreamHash := finalStreamHash,
      chunkCount := chunkCount, submittedAt := currentBlock })
  modify (State.insertCommitment commitmentId { commitment with status := .settled })
  modify (State.mutateActiveCommitmentCount (· - 1))
  escrowHook (cfg.release commitmentId)
  modify (State.depositEvent (.commitmentSettled commitmentId finalStreamHash chunkCount))

def raiseDispute (cfg : Config AccountId Ext) (origin : Origin AccountId)
    (commitmentId : CommitmentId) (consumerDid : Did) (disputedChunkIndex : ChunkIndex)
    (receivedChunkHash : Bytes32) (_chunkCount : UInt64) : VectorDbM cfg Unit := do
  let caller ← ensureSigned origin
  let commitment ← okOr ((← get).storage.vectorCommitments commitmentId)
    (.module .commitmentNotFound)
  ensure (commitment.status = .active) (.module .notActive)
  ensure (commitment.consumer = consumerDid) (.module .notConsumer)
  let currentBlock := cfg.blockNumber (← get).ext
  ensure (currentBlock < commitment.expiresAt) (.module .commitmentExpiredError)
  ensureConsumer caller consumerDid
  ensure (¬ (← get).storage.disputeRecords.containsKey commitmentId)
    (.module .disputeAlreadyRaised)
  ensure (disputedChunkIndex < commitment.totalChunks) (.module .chunkIndexOutOfBounds)
  let counterDeadline := satAdd currentBlock (effectiveDisputeWindow cfg (← get).storage)
  modify (State.insertDispute commitmentId
    { commitmentId := commitmentId, merkleRoot := commitment.merkleRoot,
      receivedChunkHash := receivedChunkHash, disputedChunkIndex := disputedChunkIndex,
      raisedAt := currentBlock, counterDeadline := counterDeadline, verdict := none })
  modify (State.insertCommitment commitmentId { commitment with status := .disputed })
  modify (State.depositEvent (.disputeRaised commitmentId commitment.merkleRoot
    disputedChunkIndex receivedChunkHash counterDeadline))

def counterDispute (cfg : Config AccountId Ext) (origin : Origin AccountId)
    (commitmentId : CommitmentId) (providerDid : Did) (chunkData : BoundedVec UInt8 maxChunkLen)
    (merkleProof : BoundedVec Bytes32 maxProofDepth) : VectorDbM cfg Unit := do
  let caller ← ensureSigned origin
  let commitment ← okOr ((← get).storage.vectorCommitments commitmentId)
    (.module .commitmentNotFound)
  ensure (commitment.status = .disputed) (.module .notDisputed)
  ensure (commitment.provider = providerDid) (.module .notProvider)
  let providerController ← okOr (cfg.controllerOf (← get).ext providerDid)
    (.module .providerNotEligible)
  ensure (providerController = caller) (.module .notProvider)
  ensure (cfg.isActiveVerified (← get).ext providerDid) (.module .providerNotEligible)
  let currentBlock := cfg.blockNumber (← get).ext
  let dispute ← okOr ((← get).storage.disputeRecords commitmentId)
    (.module .commitmentNotFound)
  ensure (currentBlock ≤ dispute.counterDeadline) (.module .disputeWindowExpired)
  ensure (dispute.disputedChunkIndex < commitment.totalChunks) (.module .chunkIndexOutOfBounds)
  ensure (proofVerifies cfg commitment dispute chunkData.val merkleProof.val)
    (.module .invalidMerkleProof)
  let verdict := .claimantUnsubstantiated
  modify (State.insertDispute commitmentId { dispute with verdict := some verdict })
  modify (State.insertCommitment commitmentId { commitment with status := .disputeResolved })
  modify (State.mutateActiveCommitmentCount (· - 1))
  escrowHook (cfg.release commitmentId)
  modify fun s => s.putExt (cfg.penalizeFalseDisputer commitment.consumer s.ext)
  modify (State.depositEvent (.disputeCountered commitmentId verdict))

def finalizeDispute (cfg : Config AccountId Ext) (origin : Origin AccountId)
    (commitmentId : CommitmentId) : VectorDbM cfg Unit := do
  let _ ← ensureSigned origin
  let commitment ← okOr ((← get).storage.vectorCommitments commitmentId)
    (.module .commitmentNotFound)
  ensure (commitment.status = .disputed) (.module .notDisputed)
  let currentBlock := cfg.blockNumber (← get).ext
  let dispute ← okOr ((← get).storage.disputeRecords commitmentId)
    (.module .commitmentNotFound)
  ensure (currentBlock > dispute.counterDeadline) (.module .disputeWindowStillOpen)
  let provider := commitment.provider
  let consumer := commitment.consumer
  let verdict := .providerGuilty
  modify (State.insertDispute commitmentId { dispute with verdict := some verdict })
  modify (State.insertCommitment commitmentId { commitment with status := .disputeResolved })
  modify (State.mutateActiveCommitmentCount (· - 1))
  escrowHook (cfg.refund commitmentId)
  modify fun s => s.putExt (cfg.penalizeProvider provider s.ext)
  modify (State.depositEvent (.disputeFinalized commitmentId verdict provider consumer))

def expireCommitment (cfg : Config AccountId Ext) (origin : Origin AccountId)
    (commitmentId : CommitmentId) : VectorDbM cfg Unit := do
  let _ ← ensureSigned origin
  let commitment ← okOr ((← get).storage.vectorCommitments commitmentId)
    (.module .commitmentNotFound)
  ensure (commitment.status = .pending ∨ commitment.status = .active) (.module .alreadyFinalized)
  let currentBlock := cfg.blockNumber (← get).ext
  ensure (currentBlock ≥ commitment.expiresAt) (.module .notYetExpired)
  -- the escrow of an active commitment is not touched
  modify (State.removeCommitment commitmentId)
  modify (State.mutateActiveCommitmentCount (· - 1))
  modify (State.depositEvent (.commitmentExpired commitmentId))

/-! ## The calls as data -/

inductive Call where
  | registerCommitment (providerDid consumerDid : Did) (merkleRoot : MerkleRoot)
      (totalChunks : UInt64) (metadata : BoundedVec UInt8 maxMetadataLen)
      (expiresInBlocks price : Nat)
  | acknowledgeCommitment (commitmentId : CommitmentId) (consumerDid : Did)
  | closeCommitment (commitmentId : CommitmentId) (consumerDid : Did)
      (finalStreamHash : MerkleRoot) (chunkCount : UInt64)
  | raiseDispute (commitmentId : CommitmentId) (consumerDid : Did)
      (disputedChunkIndex : ChunkIndex) (receivedChunkHash : Bytes32) (chunkCount : UInt64)
  | counterDispute (commitmentId : CommitmentId) (providerDid : Did)
      (chunkData : BoundedVec UInt8 maxChunkLen) (merkleProof : BoundedVec Bytes32 maxProofDepth)
  | finalizeDispute (commitmentId : CommitmentId)
  | expireCommitment (commitmentId : CommitmentId)

def Call.run (cfg : Config AccountId Ext) (origin : Origin AccountId) : Call → VectorDbM cfg Unit
  | .registerCommitment providerDid consumerDid merkleRoot totalChunks metadata
      expiresInBlocks price =>
      VectorDb.registerCommitment cfg origin providerDid consumerDid merkleRoot totalChunks metadata
        expiresInBlocks price
  | .acknowledgeCommitment id consumerDid =>
      VectorDb.acknowledgeCommitment cfg origin id consumerDid
  | .closeCommitment id consumerDid finalStreamHash chunkCount =>
      VectorDb.closeCommitment cfg origin id consumerDid finalStreamHash chunkCount
  | .raiseDispute id consumerDid disputedChunkIndex receivedChunkHash chunkCount =>
      VectorDb.raiseDispute cfg origin id consumerDid disputedChunkIndex receivedChunkHash
        chunkCount
  | .counterDispute id providerDid chunkData merkleProof =>
      VectorDb.counterDispute cfg origin id providerDid chunkData merkleProof
  | .finalizeDispute id => VectorDb.finalizeDispute cfg origin id
  | .expireCommitment id => VectorDb.expireCommitment cfg origin id

end VectorDb
