import ArthNeura.VectorDb.Lifecycle

set_option autoImplicit false

/-! # Which leaf a dispute is judged at

`raise_dispute` records an index below `total_chunks`, both of 64 bits. `counter_dispute` casts
the two to `usize`, which has 32 bits in the runtime, and takes a proof of at most
`maxProofDepth` hashes. A commitment can be judged at the index on record exactly if it has
fewer than `2^32` chunks (`adjudicable_iff`): up to there the casts are exact and 32 hashes are
enough; beyond, the number of leaves is not the one passed to the verifier.
-/

namespace VectorDb

open Frame

/-- The leaf index and the number of leaves that the proof of a dispute at `index` is verified
for. -/
def verifiedAt (c : VectorCommitment) (index : ChunkIndex) : Nat × Nat :=
  (asUsize index, asUsize c.totalChunks)

variable {AccountId Ext : Type}

theorem proofVerifies_eq (cfg : Config AccountId Ext) (c : VectorCommitment) (d : DisputeRecord)
    (chunkData : Bytes) (merkleProof : List Bytes32) :
    proofVerifies cfg c d chunkData merkleProof =
      cfg.rsMerkle.verify (blake2bHasher cfg.blake2_256) merkleProof c.merkleRoot
        (verifiedAt c d.disputedChunkIndex).1 (cfg.blake2_256 chunkData)
        (verifiedAt c d.disputedChunkIndex).2 := rfl

/-- A dispute at `index` of the commitment is judged at that index. -/
structure Adjudicable (cfg : Config AccountId Ext) (c : VectorCommitment)
    (index : ChunkIndex) : Prop where
  /-- The proof is verified for the recorded index and number of chunks. -/
  exact : verifiedAt c index = (index.toNat, c.totalChunks.toNat)
  /-- A dispute at another index is verified at another leaf. -/
  apart : ∀ j : ChunkIndex, j < c.totalChunks → j ≠ index →
    (verifiedAt c j).1 ≠ (verifiedAt c index).1
  /-- The inclusion proofs of a tree of that many leaves fit into the call. -/
  submittable : ∀ leaves : List Bytes32, leaves.length = c.totalChunks.toNat →
    ∀ i < leaves.length,
      (cfg.rsMerkle.proofHashes
        (cfg.rsMerkle.fromLeaves (blake2bHasher cfg.blake2_256) leaves) i).length ≤ maxProofDepth

theorem adjudicable_of_lt (cfg : Config AccountId Ext) {c : VectorCommitment}
    {index : ChunkIndex} (hindex : index < c.totalChunks) (h : c.totalChunks.toNat < 2 ^ 32) :
    Adjudicable cfg c index := by
  have hcast : ∀ j : ChunkIndex, j < c.totalChunks → asUsize j = j.toNat := by
    intro j hj
    have hlt : j.toNat < c.totalChunks.toNat := UInt64.lt_iff_toNat_lt.mp hj
    exact asUsize_of_lt (by omega)
  constructor
  · rw [verifiedAt, hcast index hindex, asUsize_of_lt h]
  · intro j hj hne heq
    have hnat : j.toNat = index.toNat := by
      rw [← hcast j hj, ← hcast index hindex]
      exact heq
    exact hne (UInt64.toNat_inj.mp hnat)
  · intro leaves hlen i hi
    rw [cfg.rsMerkle.proofHashes_fromLeaves _ _ _ hi]
    exact Merkle.inclusionProof_length_le _ i (show leaves.length ≤ 2 ^ 32 by omega)

theorem lt_of_adjudicable {cfg : Config AccountId Ext} {c : VectorCommitment}
    {index : ChunkIndex} (h : Adjudicable cfg c index) : c.totalChunks.toNat < 2 ^ 32 := by
  have hcount : asUsize c.totalChunks = c.totalChunks.toNat := congrArg Prod.snd h.exact
  rw [← hcount]
  exact Nat.mod_lt _ (Nat.two_pow_pos 32)

variable [DecidableEq AccountId] {cfg : Config AccountId Ext} {origin : Origin AccountId}

/-- **Adjudication at the recorded index.** A dispute accepted at `index` is recorded at
`index`, its counter is verified for `verifiedAt c index`, and the dispute is judged at the
recorded index iff the commitment has fewer than `2^32` chunks. -/
theorem adjudicable_iff {s s' : State Ext} {id : CommitmentId} {consumerDid : Did}
    {index : ChunkIndex} {hash : Bytes32} {chunkCount : UInt64} {c : VectorCommitment}
    (hc : s.storage.vectorCommitments id = some c)
    (hraise : (raiseDispute cfg origin id consumerDid index hash chunkCount).run s = .ok () s') :
    (∃ c' d, s'.storage.vectorCommitments id = some c' ∧ s'.storage.disputeRecords id = some d ∧
      ∀ chunkData merkleProof, proofVerifies cfg c' d chunkData merkleProof =
        cfg.rsMerkle.verify (blake2bHasher cfg.blake2_256) merkleProof c.merkleRoot
          (verifiedAt c index).1 (cfg.blake2_256 chunkData) (verifiedAt c index).2) ∧
    (Adjudicable cfg c index ↔ c.totalChunks.toNat < 2 ^ 32) := by
  obtain ⟨-, -, c₀, hc₀, -, -, -, -, -, hindex, rfl⟩ := (raiseDispute_ok chunkCount).mp hraise
  obtain rfl : c₀ = c := Option.some.inj (hc₀.symm.trans hc)
  constructor
  · refine ⟨_, _, StorageMap.insert_self .., StorageMap.insert_self .., ?_⟩
    intro chunkData merkleProof
    exact proofVerifies_eq cfg { c₀ with status := .disputed } _ chunkData merkleProof
  · exact ⟨lt_of_adjudicable, adjudicable_of_lt cfg hindex⟩

def acknowledgedId : CommitmentId :=
  tailHash (commitmentPreimage (testDid 1) (testDid 2) (Bytes32.ofNat 5) 1)

/-- Block 2 of a run in which the commitment to `totalChunks` chunks was registered in block 1
and then acknowledged. -/
def acknowledgedState (totalChunks : UInt64) : State MockExt :=
  exec (step mockConfig) (genesis none (testExt 1))
    [.call (.signed 1) (.registerCommitment (testDid 1) (testDid 2) (Bytes32.ofNat 5) totalChunks
        .nil 9 50), .environment (testExt 2),
      .call (.signed 2) (.acknowledgeCommitment acknowledgedId (testDid 2))]

/-- The consumer disputes chunk `index` of the acknowledged commitment. -/
def testDispute (index : ChunkIndex) : VectorDbM mockConfig Unit :=
  raiseDispute mockConfig (.signed 2) acknowledgedId (testDid 2) index (Bytes32.ofNat 0) 0

theorem adjudicable_three_chunks : ∃ c s',
    (acknowledgedState 3).storage.vectorCommitments acknowledgedId = some c ∧
    (testDispute 2).run (acknowledgedState 3) = .ok () s' ∧ Adjudicable mockConfig c 2 := by
  have htotal : ((acknowledgedState 3).storage.vectorCommitments acknowledgedId).map
      (·.totalChunks) = some 3 := by decide +kernel
  have hraise : succeeds (testDispute 2) (acknowledgedState 3) = true := by decide +kernel
  obtain ⟨c, hc, hct⟩ := Option.map_eq_some_iff.mp htotal
  obtain ⟨s', hs'⟩ := succeeds_iff.mp hraise
  refine ⟨c, s', hc, hs', (adjudicable_iff hc hs').2.mpr ?_⟩
  rw [hct]
  decide

/-- A commitment to `2^32 + 1` chunks is admitted, and can be disputed at index 0 and at index
`2^32`. Both disputes are verified at leaf 0 of a tree with one leaf, and the inclusion proof of
leaf 0 is too long for the call. -/
theorem misjudged_long_commitment : ∃ c,
    (acknowledgedState 4294967297).storage.vectorCommitments acknowledgedId = some c ∧
    succeeds (testDispute 0) (acknowledgedState 4294967297) = true ∧
    succeeds (testDispute 4294967296) (acknowledgedState 4294967297) = true ∧
    verifiedAt c 4294967296 = (0, 1) ∧ verifiedAt c 0 = (0, 1) ∧
    (∀ leaves : List Bytes32, leaves.length = c.totalChunks.toNat →
      maxProofDepth < (mockConfig.rsMerkle.proofHashes
        (mockConfig.rsMerkle.fromLeaves (blake2bHasher mockConfig.blake2_256) leaves)
          0).length) ∧
    ¬ Adjudicable mockConfig c 4294967296 := by
  have htotal : ((acknowledgedState 4294967297).storage.vectorCommitments acknowledgedId).map
      (·.totalChunks) = some 4294967297 := by decide +kernel
  obtain ⟨c, hc, hct⟩ := Option.map_eq_some_iff.mp htotal
  have hlast : verifiedAt c 4294967296 = (0, 1) := by rw [verifiedAt, hct]; decide
  refine ⟨c, hc, by decide +kernel, by decide +kernel, hlast, ?_, ?_, ?_⟩
  · rw [verifiedAt, hct]
    decide
  · intro leaves hlen
    have hpos : 2 ^ 32 < leaves.length := by
      rw [hlen, hct]
      decide
    exact Merkle.lt_inclusionProof_length _ hpos
  · intro h
    have hexact := h.exact
    rw [hlast, Prod.mk.injEq] at hexact
    exact absurd hexact.1 (by decide)

end VectorDb
