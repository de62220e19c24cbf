import ArthNeura.VectorDb.Pallet

set_option autoImplicit false

/-! # The mock runtime of `pallet-vector-db`

The environment in which the pallet is tested: a table of agents, and handlers that record
their calls. It has no currency and no registry behind it, so that a run of the pallet alone
can be evaluated. -/

namespace VectorDb

open Frame

inductive EscrowCall where
  | lock (escrowId : CommitmentId) (payer payee : Nat) (amount : Nat)
  | release (escrowId : CommitmentId)
  | refund (escrowId : CommitmentId)
  deriving DecidableEq

inductive ReputationCall where
  | provider (did : Did)
  | falseDisputer (did : Did)
  deriving DecidableEq

structure MockExt where
  blockNumber : Nat
  /-- The controller of a DID, and whether the DID is active and verified. -/
  agents : Did → Option (Nat × Bool)
  reputationCalls : List ReputationCall
  escrowCalls : List EscrowCall
  escrowLockShouldFail : Bool

inductive MockEscrowError where
  | mockEscrowLockFailure
  deriving DecidableEq

def MockExt.recordEscrow (e : EscrowCall) : EStateM MockEscrowError MockExt Unit :=
  modify fun ext => { ext with escrowCalls := ext.escrowCalls ++ [e] }

def MockExt.recordReputation (r : ReputationCall) (ext : MockExt) : MockExt :=
  { ext with reputationCalls := ext.reputationCalls ++ [r] }

def mockConfig : Config Nat MockExt where
  disputeWindow := 10
  maxCommitmentLifetime := 1000
  blake2_256 := tailHash
  rsMerkle := Merkle.layered Bytes32
  blockNumber ext := ext.blockNumber
  controllerOf ext did := (ext.agents did).map (·.1)
  isActiveVerified ext did := ((ext.agents did).map (·.2)).getD false
  EscrowError := MockEscrowError
  lock escrowId payer payee amount := do
    ensure (¬ (← get).escrowLockShouldFail) .mockEscrowLockFailure
    MockExt.recordEscrow (.lock escrowId payer payee amount)
  release escrowId := MockExt.recordEscrow (.release escrowId)
  refund escrowId := MockExt.recordEscrow (.refund escrowId)
  penalizeProvider did := MockExt.recordReputation (.provider did)
  penalizeFalseDisputer did := MockExt.recordReputation (.falseDisputer did)

/-- The DID with first byte `n`. -/
def testDid (n : UInt8) : Did := ⟨n :: List.replicate 31 0, rfl⟩

/-- Block `n`, with the provider `testDid 1` of account 1 and the consumer `testDid 2` of
account 2. -/
def testExt (n : Nat) : MockExt where
  blockNumber := n
  agents did :=
    if did = testDid 1 then some (1, true) else if did = testDid 2 then some (2, true) else none
  reputationCalls := []
  escrowCalls := []
  escrowLockShouldFail := false

end VectorDb
