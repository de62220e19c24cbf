import ArthNeura.Frame.Dispatch
import ArthNeura.Frame.Storage
import ArthNeura.Frame.Currency

set_option autoImplicit false

/-! # `pallet-agent-registry`

The registry of agents: storage, the six calls and the two penalty functions, translated
statement by statement. The hash function, the signature scheme and the encoding of accounts
are parameters (`Config`); the currency is any `ReservableCurrency`.
-/

namespace AgentRegistry

open Frame

/-! ## Types -/

def maxMetadataLen : Nat := 256
def maxLabelLen : Nat := 64
def maxPubkeyLen : Nat := 1952
def maxSigLen : Nat := 3309
def replayWindow : Nat := 64
def maxAgentsPerController : Nat := 64

abbrev Did := Bytes32
abbrev CapabilityBitmap := UInt64

inductive AgentStatus where
  | active
  | suspended
  | revoked
  deriving DecidableEq

inductive QuantumScheme where
  | mlDsa65
  deriving DecidableEq

structure AgentProfile (AccountId : Type) where
  did : Did
  controller : AccountId
  capabilities : CapabilityBitmap
  reputationScore : Nat
  status : AgentStatus
  registeredAt : Nat
  isVerified : Bool
  quantumScheme : QuantumScheme
  metadata : BoundedVec UInt8 maxMetadataLen
  label : BoundedVec UInt8 maxLabelLen

inductive Event (AccountId : Type) where
  | agentRegistered (did : Did) (controller : AccountId)
  | agentProfileUpdated (did : Did)
  | agentStatusChanged (did : Did) (newStatus : AgentStatus)
  | starGiven (giver receiver : Did)
  | starRemoved (giver receiver : Did)
  | agentDeregistered (did : Did) (controller : AccountId)
  | reputationSlashed (did : Did) (amount newScore : Nat)
  | depositSlashed (did : Did) (controller : AccountId) (amount strikesAtSlash : Nat)
  deriving DecidableEq

inductive Error where
  | didAlreadyRegistered
  | didNotFound
  | notController
  | agentRevoked
  | tooManyAgentsForController
  | cooldownNotExpired
  | notStarred
  | cannotStarSelf
  | cannotStarSameController
  | invalidPubkeyLength
  | invalidSignatureLength
  | invalidChallengeBlock
  | challengeExpired
  | invalidQuantumProof
  | insufficientBalanceForDeposit
  | agentAlreadyRevoked
  deriving DecidableEq

/-- The configuration of the pallet, with the cryptography it is linked against. -/
structure Config (AccountId : Type) [DecidableEq AccountId] where
  currency : ReservableCurrency AccountId
  starCooldown : Nat
  registrationDeposit : Nat
  strikeThreshold : Nat
  depositSlashPerStrike : Nat
  blake2_256 : Bytes → Bytes32
  encodeAccountId : AccountId → Bytes
  VerifyingKey : Type
  Signature : Type
  /-- `VerifyingKey::new_from_slice`. -/
  newFromSlice : Bytes → Option VerifyingKey
  /-- `Signature::try_from`. -/
  signatureTryFrom : Bytes → Option Signature
  verify : VerifyingKey → Bytes → Signature → Bool

/-- The storage of the pallet, with every event it has deposited so far. -/
structure Storage (AccountId : Type) where
  agentProfiles : StorageMap Did (AgentProfile AccountId)
  controllerAgents : AccountId → BoundedVec Did maxAgentsPerController
  activeAgentCount : Nat
  /-- The block of the last star; zero if there is none, or if it was removed. -/
  starGivers : Did → Did → Nat
  disputeStrikes : Did → Nat
  events : List (Event AccountId)

/-- The storage before the first block. -/
def Storage.genesis (AccountId : Type) : Storage AccountId where
  agentProfiles := .empty
  controllerAgents := fun _ => .nil
  activeAgentCount := 0
  starGivers := fun _ _ => 0
  disputeStrikes := fun _ => 0
  events := []

variable {AccountId : Type} [DecidableEq AccountId] {cfg : Config AccountId}

/-- What the pallet sees of the chain. -/
structure State (cfg : Config AccountId) where
  storage : Storage AccountId
  system : System
  ledger : cfg.currency.Ledger

/-- The pallet calls no other pallet whose errors it would pass on. -/
abbrev RegistryError := DispatchError Error Empty

abbrev RegistryM (cfg : Config AccountId) := EStateM RegistryError (State cfg)

/-! ## Storage access -/

@[simp] def State.insertProfile (did : Did) (p : AgentProfile AccountId) (s : State cfg) :
    State cfg :=
  { s with storage := { s.storage with agentProfiles := s.storage.agentProfiles.insert did p } }

@[simp] def State.removeProfile (did : Did) (s : State cfg) : State cfg :=
  { s with storage := { s.storage with agentProfiles := s.storage.agentProfiles.remove did } }

@[simp] def State.putControllerAgents (a : AccountId) (dids : BoundedVec Did maxAgentsPerController)
    (s : State cfg) : State cfg :=
  { s with storage :=
      { s.storage with controllerAgents := Function.update s.storage.controllerAgents a dids } }

@[simp] def State.mutateActiveAgentCount (f : Nat → Nat) (s : State cfg) : State cfg :=
  { s with storage := { s.storage with activeAgentCount := f s.storage.activeAgentCount } }

@[simp] def State.putStar (giver receiver : Did) (block : Nat) (s : State cfg) : State cfg :=
  { s with storage :=
      { s.storage with
        starGivers := Function.update s.storage.starGivers giver
          (Function.update (s.storage.starGivers giver) receiver block) } }

@[simp] def State.putStrikes (did : Did) (strikes : Nat) (s : State cfg) : State cfg :=
  { s with storage :=
      { s.storage with disputeStrikes := Function.update s.storage.disputeStrikes did strikes } }

@[simp] def State.putLedger (ledger : cfg.currency.Ledger) (s : State cfg) : State cfg :=
  { s with ledger := ledger }

@[simp] def State.depositEvent (e : Event AccountId) (s : State cfg) : State cfg :=
  { s with storage := { s.storage with events := s.storage.events ++ [e] } }

/-! ## Calls -/

/-- The bytes of `ArthNeura-DID-v1`. -/
def didDomain : Bytes :=
  [65, 114, 116, 104, 78, 101, 117, 114, 97, 45, 68, 73, 68, 45, 118, 49]

def didOf (cfg : Config AccountId) (pubkey : Bytes) : Did := cfg.blake2_256 (didDomain ++ pubkey)

/-- The SCALE encoding of the challenge tuple. -/
def challenge (cfg : Config AccountId) (genesisHash : Bytes32) (did : Did)
    (controller : AccountId) (signedAtBlock : Nat) (signedAtHash : Bytes32) : Bytes :=
  genesisHash.toList ++ did.toList ++ cfg.encodeAccountId controller
    ++ encodeU32 signedAtBlock ++ signedAtHash.toList

def registerAgent (origin : Origin AccountId) (pubkey : BoundedVec UInt8 maxPubkeyLen)
    (signature : BoundedVec UInt8 maxSigLen) (signedAtBlock : Nat)
    (capabilities : CapabilityBitmap) (metadata : BoundedVec UInt8 maxMetadataLen)
    (label : BoundedVec UInt8 maxLabelLen) : RegistryM cfg Unit := do
  let controller ← ensureSigned origin
  -- 1. the DID
  let did := didOf cfg pubkey.val
  ensure (¬ (← get).storage.agentProfiles.containsKey did) (.module .didAlreadyRegistered)
  let agentCount := ((← get).storage.controllerAgents controller).val.length
  ensure (agentCount < 64) (.module .tooManyAgentsForController)
  -- 2. the replay window
  let currentBlock := (← get).system.blockNumber
  ensure (signedAtBlock ≤ currentBlock) (.module .invalidChallengeBlock)
  ensure (currentBlock - signedAtBlock ≤ replayWindow) (.module .challengeExpired)
  -- 3. the challenge
  let genesisHash := (← get).system.blockHash 0
  let signedAtHash := (← get).system.blockHash signedAtBlock
  let challenge := challenge cfg genesisHash did controller signedAtBlock signedAtHash
  -- 4. and 5. the proof of key possession
  let verifyingKey ← okOr (cfg.newFromSlice pubkey.val) (.module .invalidPubkeyLength)
  let parsedSignature ← okOr (cfg.signatureTryFrom signature.val)
    (.module .invalidSignatureLength)
  ensure (cfg.verify verifyingKey challenge parsedSignature) (.module .invalidQuantumProof)
  -- 6. the deposit
  let ledger ← okOr (cfg.currency.reserve controller cfg.registrationDeposit (← get).ledger)
    (.module .insufficientBalanceForDeposit)
  modify (State.putLedger ledger)
  modify (State.insertProfile did
    { did := did, controller := controller, capabilities := capabilities, reputationScore := 0,
      status := .active, registeredAt := currentBlock, isVerified := true,
      quantumScheme := .mlDsa65, metadata := metadata, label := label })
  let dids ← okOr (((← get).storage.controllerAgents controller).tryPush did)
    (.module .tooManyAgentsForController)
  modify (State.putControllerAgents controller dids)
  modify (State.mutateActiveAgentCount (satAdd · 1))
  modify (State.depositEvent (.agentRegistered did controller))

def updateProfile (origin : Origin AccountId) (did : Did) (capabilities : CapabilityBitmap)
    (metadata : BoundedVec UInt8 maxMetadataLen) (label : BoundedVec UInt8 maxLabelLen) :
    RegistryM cfg Unit := do
  let caller ← ensureSigned origin
  let profile ← okOr ((← get).storage.agentProfiles did) (.module .didNotFound)
  ensure (profile.controller = caller) (.module .notController)
  ensure (profile.status ≠ .revoked) (.module .agentRevoked)
  modify (State.insertProfile did
    { profile with capabilities := capabilities, metadata := metadata, label := label })
  modify (State.depositEvent (.agentProfileUpdated did))

def setAgentStatus (origin : Origin AccountId) (did : Did) (newStatus : AgentStatus) :
    RegistryM cfg Unit := do
  let caller ← ensureSigned origin
  let profile ← okOr ((← get).storage.agentProfiles did) (.module .didNotFound)
  ensure (profile.controller = caller) (.module .notController)
  ensure (profile.status ≠ .revoked) (.module .agentRevoked)
  modify (State.insertProfile did { profile with status := newStatus })
  modify fun s => if newStatus = .revoked then s.mutateActiveAgentCount (· - 1) else s
  modify (State.depositEvent (.agentStatusChanged did newStatus))

/-- `AgentProfiles::try_mutate` with a change of the score. -/
def tryMutateScore (did : Did) (f : Nat → Nat) : RegistryM cfg Unit := do
  let profile ← okOr ((← get).storage.agentProfiles did) (.module .didNotFound)
  modify (State.insertProfile did { profile with reputationScore := f profile.reputationScore })

def giveStar (origin : Origin AccountId) (giverDid receiver : Did) : RegistryM cfg Unit := do
  let giver ← ensureSigned origin
  let giverDids := (← get).storage.controllerAgents giver
  ensure (giverDid ∈ giverDids.val) (.module .notController)
  ensure (giverDid ≠ receiver) (.module .cannotStarSelf)
  let receiverProfile ← okOr ((← get).storage.agentProfiles receiver) (.module .didNotFound)
  ensure (receiverProfile.status ≠ .revoked) (.module .agentRevoked)
  ensure (receiverProfile.controller ≠ giver) (.module .cannotStarSameController)
  -- the cooldown: zero means that there is no star
  let lastStar := (← get).storage.starGivers giverDid receiver
  let currentBlock := (← get).system.blockNumber
  ensure (lastStar > 0 → currentBlock ≥ satAdd lastStar cfg.starCooldown)
    (.module .cooldownNotExpired)
  modify (State.putStar giverDid receiver currentBlock)
  tryMutateScore receiver (satAdd · 1)
  modify (State.depositEvent (.starGiven giverDid receiver))

def removeStar (origin : Origin AccountId) (giverDid receiver : Did) : RegistryM cfg Unit := do
  let giver ← ensureSigned origin
  let giverDids := (← get).storage.controllerAgents giver
  ensure (giverDid ∈ giverDids.val) (.module .notController)
  let lastStar := (← get).storage.starGivers giverDid receiver
  ensure (lastStar > 0) (.module .notStarred)
  modify (State.putStar giverDid receiver 0)
  tryMutateScore receiver (· - 1)
  modify (State.depositEvent (.starRemoved giverDid receiver))

def deregisterAgent (origin : Origin AccountId) (did : Did) : RegistryM cfg Unit := do
  let controller ← ensureSigned origin
  let profile ← okOr ((← get).storage.agentProfiles did) (.module .didNotFound)
  ensure (profile.controller = controller) (.module .notController)
  ensure (profile.status ≠ .revoked) (.module .agentAlreadyRevoked)
  -- the whole deposit is unreserved, whatever was slashed from it before
  modify fun s =>
    s.putLedger (cfg.currency.unreserve controller cfg.registrationDeposit s.ledger).1
  modify fun s => s.putControllerAgents controller
    ((s.storage.controllerAgents controller).retain (· ≠ did))
  modify (State.removeProfile did)
  modify (State.mutateActiveAgentCount (· - 1))
  modify (State.depositEvent (.agentDeregistered did controller))

/-! ## Penalties

Both functions are called by other pallets and cannot fail: an unknown DID is skipped. -/

def slashReputation (did : Did) (amount : Nat) (s : State cfg) : State cfg :=
  match s.storage.agentProfiles did with
  | none => s
  | some profile =>
      let newScore := profile.reputationScore - amount
      (s.insertProfile did { profile with reputationScore := newScore }).depositEvent
        (.reputationSlashed did amount newScore)

def slashReputationForGuiltyDelivery (did : Did) (amount : Nat) (s : State cfg) : State cfg :=
  let s := slashReputation did amount s
  match s.storage.agentProfiles did with
  | none => s
  | some profile =>
      let strikes := satAdd (s.storage.disputeStrikes did) 1
      let s := s.putStrikes did strikes
      if strikes < cfg.strikeThreshold then s
      else
        let s := s.putStrikes did 0
        let slashAmount := cfg.depositSlashPerStrike
        let slashed := cfg.currency.slashReserved profile.controller slashAmount s.ledger
        let removed := slashAmount - slashed.2
        (s.putLedger slashed.1).depositEvent
          (.depositSlashed did profile.controller removed strikes)

/-! ## The calls as data -/

inductive Call where
  | registerAgent (pubkey : BoundedVec UInt8 maxPubkeyLen)
      (signature : BoundedVec UInt8 maxSigLen) (signedAtBlock : Nat)
      (capabilities : CapabilityBitmap) (metadata : BoundedVec UInt8 maxMetadataLen)
      (label : BoundedVec UInt8 maxLabelLen)
  | updateProfile (did : Did) (capabilities : CapabilityBitmap)
      (metadata : BoundedVec UInt8 maxMetadataLen) (label : BoundedVec UInt8 maxLabelLen)
  | setAgentStatus (did : Did) (newStatus : AgentStatus)
  | giveStar (giverDid receiver : Did)
  | removeStar (giverDid receiver : Did)
  | deregisterAgent (did : Did)

def Call.run (origin : Origin AccountId) : Call → RegistryM cfg Unit
  | .registerAgent pubkey signature signedAtBlock capabilities metadata label =>
      AgentRegistry.registerAgent origin pubkey signature signedAtBlock capabilities metadata label
  | .updateProfile did capabilities metadata label =>
      AgentRegistry.updateProfile origin did capabilities metadata label
  | .setAgentStatus did newStatus => AgentRegistry.setAgentStatus origin did newStatus
  | .giveStar giverDid receiver => AgentRegistry.giveStar origin giverDid receiver
  | .removeStar giverDid receiver => AgentRegistry.removeStar origin giverDid receiver
  | .deregisterAgent did => AgentRegistry.deregisterAgent origin did

end AgentRegistry
