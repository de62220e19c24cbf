import ArthNeura.AgentRegistry.Deposits
import ArthNeura.Frame.Scale

set_option autoImplicit false

/-! # The registration challenge

The client signs a challenge that it encodes from raw byte arrays; the pallet encodes the same
challenge from typed values and verifies the signature over it. The two encodings agree
(`challenge_eq`), and the challenge names everything that an acceptance depends on: the chain, the
agent, the controller and the block of the signature. So a signature that is good for one message
only is good for one registration only, up to a second try of the same account within the window
(`registration_not_replayable`). The hash of the block in which the call is executed is not known
yet and reads as zero, which separates the registrations in the block of the signature from all
others.
-/

namespace OffchainAgentRegistry

open Frame AgentRegistry

/-! ## The client -/

/-- The bytes of `ArthNeura-DID-v1`. -/
def didDomainTag : Bytes :=
  [65, 114, 116, 104, 78, 101, 117, 114, 97, 45, 68, 73, 68, 45, 118, 49]

def deriveDid (blake2_256 : Bytes → Bytes32) (pubkeyBytes : Bytes) : Did :=
  blake2_256 (didDomainTag ++ pubkeyBytes)

/-- The challenge that the client signs. -/
def challenge (genesisHash did controller : Bytes32) (signedAtBlock : UInt32)
    (signedAtHash : Bytes32) : Bytes :=
  encode (genesisHash, did, controller, signedAtBlock, signedAtHash)

/-! ## The challenge of the pallet -/

section

variable {AccountId : Type} [DecidableEq AccountId] [Encode AccountId]

omit [DecidableEq AccountId] [Encode AccountId] in
theorem toNat_ofNat_u32 {n : Nat} (h : n ≤ u32Max) : (UInt32.ofNat n).toNat = n := by
  rw [UInt32.toNat_ofNat']
  exact Nat.mod_eq_of_lt (Nat.lt_succ_of_le h)

/-- The pallet encodes a tuple of typed values. -/
theorem challenge_eq_encode {cfg : Config AccountId} (henc : cfg.encodeAccountId = encode)
    (genesisHash : Bytes32) (did : Did) (controller : AccountId) {signedAtBlock : Nat}
    (hblock : signedAtBlock ≤ u32Max) (signedAtHash : Bytes32) :
    AgentRegistry.challenge cfg genesisHash did controller signedAtBlock signedAtHash
      = encode (H256.mk genesisHash, did, controller, UInt32.ofNat signedAtBlock,
          H256.mk signedAtHash) := by
  have hencode : encode (UInt32.ofNat signedAtBlock) = encodeU32 signedAtBlock :=
    congrArg encodeU32 (toNat_ofNat_u32 hblock)
  rw [AgentRegistry.challenge, henc, ← hencode, List.append_assoc, List.append_assoc,
    List.append_assoc]
  rfl

/-- The challenge determines what it was made of. -/
theorem challenge_inj {cfg : Config AccountId} (henc : cfg.encodeAccountId = encode)
    {genesisHash genesisHash' : Bytes32} {did did' : Did} {a a' : AccountId} {n n' : Nat}
    {h h' : Bytes32} (hn : n ≤ u32Max) (hn' : n' ≤ u32Max)
    (heq : AgentRegistry.challenge cfg genesisHash did a n h
      = AgentRegistry.challenge cfg genesisHash' did' a' n' h') :
    genesisHash = genesisHash' ∧ a = a' ∧ n = n' ∧ h = h' := by
  rw [challenge_eq_encode henc _ _ _ hn, challenge_eq_encode henc _ _ _ hn'] at heq
  have htuple := encode_injective heq
  simp only [Prod.mk.injEq, H256.mk.injEq] at htuple
  obtain ⟨hg, -, ha, hblock, hh⟩ := htuple
  have hnat := congrArg UInt32.toNat hblock
  rw [toNat_ofNat_u32 hn, toNat_ofNat_u32 hn'] at hnat
  exact ⟨hg, ha, hnat, hh⟩

end

/-- **Client and pallet encode the same challenge**, the one from raw arrays and the other from
typed values. -/
theorem challenge_eq {cfg : Config AccountId32} (henc : cfg.encodeAccountId = encode)
    (genesisHash did controller : Bytes32) (signedAtBlock : UInt32) (signedAtHash : Bytes32) :
    challenge genesisHash did controller signedAtBlock signedAtHash
      = AgentRegistry.challenge cfg genesisHash did ⟨controller⟩ signedAtBlock.toNat
          signedAtHash := by
  rw [challenge_eq_encode henc _ _ _ (Nat.le_of_lt_succ signedAtBlock.toNat_lt),
    UInt32.ofNat_toNat]
  rfl

/-! ## Chains -/

variable {AccountId : Type} [DecidableEq AccountId]

def blockHashCount : Nat := 2400

/-- A chain that runs the pallet: its currency and constants, and the hashes of its blocks. -/
structure Chain (AccountId : Type) [DecidableEq AccountId] where
  currency : ReservableCurrency AccountId
  starCooldown : Nat
  registrationDeposit : Nat
  strikeThreshold : Nat
  depositSlashPerStrike : Nat
  blockHash : Nat → Bytes32
  blockHash_ne_zero : ∀ n, blockHash n ≠ List.Vector.replicate 32 0

/-- The pallet on a chain, with the cryptography of `cfg`. -/
def Chain.config (chain : Chain AccountId) (cfg : Config AccountId) : Config AccountId :=
  { cfg with
    currency := chain.currency
    starCooldown := chain.starCooldown
    registrationDeposit := chain.registrationDeposit
    strikeThreshold := chain.strikeThreshold
    depositSlashPerStrike := chain.depositSlashPerStrike }

/-- What `frame_system` shows to a call in a block of the chain: the hashes of the genesis block
and of the last finished blocks, and zero for the current one. Block numbers are `u32`. -/
structure Chain.Shows (chain : Chain AccountId) (system : System) : Prop where
  genesis : system.blockHash 0 = chain.blockHash 0
  finished : ∀ n, n < system.blockNumber → system.blockNumber ≤ n + blockHashCount →
    system.blockHash n = chain.blockHash n
  current : system.blockHash system.blockNumber = List.Vector.replicate 32 0
  blockNumber_le : system.blockNumber ≤ u32Max

/-- On the chain, in the block `block`, a registration of `pubkey` with `signature` goes through. -/
def Accepts (cfg : Config AccountId) (chain : Chain AccountId)
    (pubkey : BoundedVec UInt8 maxPubkeyLen) (signature : BoundedVec UInt8 maxSigLen)
    (controller : AccountId) (signedAtBlock block : Nat) : Prop :=
  ∃ (s : State (chain.config cfg)) (capabilities : CapabilityBitmap)
    (metadata : BoundedVec UInt8 maxMetadataLen) (label : BoundedVec UInt8 maxLabelLen),
    chain.Shows s.system ∧ s.system.blockNumber = block ∧
      succeeds (registerAgent (.signed controller) pubkey signature signedAtBlock capabilities
        metadata label) s = true

/-- What an acceptance has verified. The hash in the challenge is zero exactly in the block of the
signature. -/
structure Verified (cfg : Config AccountId) (chain : Chain AccountId) (pubkey signature : Bytes)
    (controller : AccountId) (signedAtBlock block : Nat) (signedAtHash : Bytes32) : Prop where
  signed_le : signedAtBlock ≤ block
  le_window : block ≤ signedAtBlock + 64
  le_max : block ≤ u32Max
  zero_iff : signedAtHash = List.Vector.replicate 32 0 ↔ block = signedAtBlock
  verify : ∃ key sig, cfg.newFromSlice pubkey = some key ∧
    cfg.signatureTryFrom signature = some sig ∧
    cfg.verify key (AgentRegistry.challenge cfg (chain.blockHash 0) (didOf cfg pubkey) controller
      signedAtBlock signedAtHash) sig = true

theorem Accepts.verified {cfg : Config AccountId} {chain : Chain AccountId}
    {pubkey : BoundedVec UInt8 maxPubkeyLen} {signature : BoundedVec UInt8 maxSigLen}
    {controller : AccountId} {signedAtBlock block : Nat}
    (h : Accepts cfg chain pubkey signature controller signedAtBlock block) :
    ∃ signedAtHash, Verified cfg chain pubkey.val signature.val controller signedAtBlock block
      signedAtHash := by
  obtain ⟨s, capabilities, metadata, label, hshows, rfl, hok⟩ := h
  obtain ⟨t, hrun⟩ := succeeds_iff.mp hok
  obtain ⟨a, ha, -, -, hle, hwindow, key, hkey, sig, hsig, hverify, -⟩ := registerAgent_ok.mp hrun
  cases ha
  rw [hshows.genesis] at hverify
  refine ⟨s.system.blockHash signedAtBlock, hle, ?_, hshows.blockNumber_le, ?_,
    key, sig, hkey, hsig, hverify⟩
  · rw [replayWindow] at hwindow
    omega
  · constructor
    · intro hzero
      by_contra hne
      -- an earlier block of the window is finished, and its hash is known
      have hlt : signedAtBlock < s.system.blockNumber := by omega
      have hcount : s.system.blockNumber ≤ signedAtBlock + blockHashCount := by
        rw [replayWindow] at hwindow
        rw [blockHashCount]
        omega
      rw [hshows.finished _ hlt hcount] at hzero
      exact chain.blockHash_ne_zero _ hzero
    · intro heq
      rw [← heq]
      exact hshows.current

/-- **A registration proof cannot be replayed.** Let a key and a signature be good for one message
only, and let chains be told apart by their genesis hashes. All registrations with one key and
signature are on the same chain, by the same controller and for the same block of the signature;
they are within the window, and either all of them or none are in that block. -/
theorem registration_not_replayable [Encode AccountId] (cfg : Config AccountId)
    (henc : cfg.encodeAccountId = encode)
    (hverify : ∀ key m m' sig, cfg.verify key m sig = true → cfg.verify key m' sig = true → m = m')
    (chains : Set (Chain AccountId))
    (hgenesis : ∀ c ∈ chains, ∀ c' ∈ chains, c.blockHash 0 = c'.blockHash 0 → c = c') :
    (∀ chain ∈ chains, ∀ chain' ∈ chains, ∀ pubkey signature a a' signedAt signedAt' n m,
      Accepts cfg chain pubkey signature a signedAt n →
      Accepts cfg chain' pubkey signature a' signedAt' m →
        chain' = chain ∧ chain'.blockHash 0 = chain.blockHash 0 ∧ a' = a ∧
        signedAt' = signedAt ∧ signedAt ≤ m ∧ m ≤ signedAt + 64 ∧
        (m = signedAt ↔ n = signedAt)) ∧
    (∀ (rcfg : Config AccountId32), rcfg.encodeAccountId = encode →
      ∀ genesisHash did controller signedAtBlock signedAtHash,
        challenge genesisHash did controller signedAtBlock signedAtHash
          = AgentRegistry.challenge rcfg genesisHash did ⟨controller⟩ signedAtBlock.toNat
              signedAtHash) := by
  refine ⟨?_, fun rcfg hrenc => challenge_eq hrenc⟩
  intro chain hchain chain' hchain' pubkey signature a a' signedAt signedAt' n m h h'
  obtain ⟨hash, hv⟩ := h.verified
  obtain ⟨hash', hv'⟩ := h'.verified
  obtain ⟨key, sig, hkey, hsig, hgood⟩ := hv.verify
  obtain ⟨key', sig', hkey', hsig', hgood'⟩ := hv'.verify
  cases hkey.symm.trans hkey'
  cases hsig.symm.trans hsig'
  have hmessage := hverify _ _ _ _ hgood' hgood
  obtain ⟨hg, ha, hs, hhash⟩ := challenge_inj henc (hv'.signed_le.trans hv'.le_max)
    (hv.signed_le.trans hv.le_max) hmessage
  subst ha hs hhash
  refine ⟨hgenesis _ hchain' _ hchain hg, hg, rfl, rfl, hv'.signed_le, hv'.le_window, ?_⟩
  rw [← hv'.zero_iff, hv.zero_iff]

/-- The pallet over the accounts of the runtime, with a signature scheme that can be evaluated: the
signature of a message is the message. -/
def signConfig : Config AccountId32 where
  currency := Balances AccountId32
  starCooldown := 1200
  registrationDeposit := 100 * unit
  strikeThreshold := 10
  depositSlashPerStrike := 10 * unit
  blake2_256 := tailHash
  encodeAccountId := encode
  VerifyingKey := Bytes
  Signature := Bytes
  newFromSlice := some
  signatureTryFrom := some
  verify _ message sig := decide (message = sig)

/-- A chain on which all finished blocks have the same hash. -/
def testChain : Chain AccountId32 where
  currency := Balances AccountId32
  starCooldown := 1200
  registrationDeposit := 100 * unit
  strikeThreshold := 10
  depositSlashPerStrike := 10 * unit
  blockHash _ := Bytes32.ofNat 1
  blockHash_ne_zero _ := by decide

/-- The state of `testChain` at block `n`, before any registration. -/
def testState (n : Nat) : State (testChain.config signConfig) where
  storage := .genesis AccountId32
  system := ⟨n, fun k => if k = n then List.Vector.replicate 32 0 else Bytes32.ofNat 1⟩
  ledger _ := ⟨1000 * unit, 0⟩

def testAccount : AccountId32 := ⟨Bytes32.ofNat 7⟩

/-- The signature of the key of one byte, for `testAccount` and block 2. -/
def testSignature : BoundedVec UInt8 maxSigLen :=
  ⟨challenge (Bytes32.ofNat 1) (deriveDid tailHash [1]) testAccount.bytes 2 (Bytes32.ofNat 1),
    by decide +kernel⟩

theorem registration_not_replayable_test :
    Accepts signConfig testChain ⟨[1], by decide⟩ testSignature testAccount 2 3 ∧
      ∀ a m, Accepts signConfig testChain ⟨[1], by decide⟩ testSignature a 2 m →
        a = testAccount ∧ m ≤ 66 := by
  have haccepts : Accepts signConfig testChain ⟨[1], by decide⟩ testSignature testAccount 2 3 := by
    refine ⟨testState 3, 0, .nil, .nil, ⟨rfl, fun n hn _ => if_neg hn.ne, rfl, by decide⟩, rfl, ?_⟩
    decide +kernel
  refine ⟨haccepts, fun a m h => ?_⟩
  have hverify : ∀ key m m' sig, signConfig.verify key m sig = true →
      signConfig.verify key m' sig = true → m = m' := by
    intro _ m m' (sig : Bytes) hm hm'
    have hm : m = sig := of_decide_eq_true hm
    have hm' : m' = sig := of_decide_eq_true hm'
    rw [hm, hm']
  have hsame := (registration_not_replayable signConfig rfl hverify {testChain}
    (fun c hc c' hc' _ => hc.trans hc'.symm)).1 testChain rfl testChain rfl _ _ _ _ _ _ _ _
    haccepts h
  exact ⟨hsame.2.2.1, hsame.2.2.2.2.2.1⟩

end OffchainAgentRegistry
