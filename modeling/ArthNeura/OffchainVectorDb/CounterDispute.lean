import ArthNeura.OffchainVectorDb.Registrations
import ArthNeura.Process.Program

set_option autoImplicit false

/-! # Reading a commitment back

When a commitment is disputed, the provider loads its chunks from the store, rebuilds the tree and
submits the disputed chunk with its inclusion proof. All of it rests on the directory that was
staged and moved when the commitment was registered. `persist` does not clear the directory it
writes to, so files of an earlier attempt may stand behind the chunks and are moved along; the
chunks are read back all the same, and the tree over them is the one that was committed to
(`stored_chunks_reproduce_tree`).
-/

namespace OffchainVectorDb

open Frame
open VectorDb (Did CommitmentId)

def maxProofDepth : Nat := 32

/-- The errors before the submission. -/
inductive CounterDisputeError where
  | chunkTooLarge (len bound : Nat)
  | proofTooDeep (len bound : Nat)
  | chunkIndexOutOfBounds (index total : Nat)
  | storage (e : IoError)

section

variable (lib : Merkle.RsMerkle Bytes32) (blake2_256 : Bytes → Bytes32)

/-- `counter_dispute` of the client up to the submission: the call it composes. -/
def prepareCounterDispute (store : FsChunkStore) (commitmentId : CommitmentId) (providerDid : Did)
    (disputedChunkIndex totalChunks : Nat) :
    Except (Process.Exit CounterDisputeError) VectorDb.Call :=
  if disputedChunkIndex ≥ totalChunks then
    .error (.error (.chunkIndexOutOfBounds disputedChunkIndex totalChunks))
  else
    match loadAllChunks store commitmentId totalChunks with
    | .error e => .error (.error (.storage e))
    | .ok chunks =>
        match chunks[disputedChunkIndex]? with
        -- indexing out of bounds panics; `load_all_chunks` returns `total_chunks` chunks
        | none => .error .panicked
        | some targetChunk =>
            if hlen : targetChunk.length > maxChunkLen then
              .error (.error (.chunkTooLarge targetChunk.length maxChunkLen))
            else
              match buildMerkleTree lib blake2_256 chunks with
              -- `expect` on the root
              | none => .error .panicked
              | some (_, tree) =>
                  let proofHashes := generateInclusionProof lib tree disputedChunkIndex
                  if hproof : proofHashes.length > maxProofDepth then
                    .error (.error (.proofTooDeep proofHashes.length maxProofDepth))
                  else
                    .ok (.counterDispute commitmentId providerDid
                      ⟨targetChunk, Nat.le_of_not_lt hlen⟩ ⟨proofHashes, Nat.le_of_not_lt hproof⟩)

end

/-! ## A directory that was staged and moved -/

section

variable {store store' : FsChunkStore} {stagingId commitmentId : CommitmentId}
  {chunks : List Bytes}

theorem rekey_persist_spec (hnew : store commitmentId = none)
    (h : (store.persist stagingId chunks).rekey stagingId commitmentId = .ok store') :
    (∃ dir, store' commitmentId = some dir ∧ dir.Holds chunks) ∧
    (stagingId ≠ commitmentId → store' stagingId = none) ∧
    ∀ id, id ≠ commitmentId → id ≠ stagingId → store' id = store id := by
  have hfree : stagingId ≠ commitmentId → store.persist stagingId chunks commitmentId = none := by
    intro hne
    rw [persist_ne store chunks (Ne.symm hne)]
    exact hnew
  obtain ⟨hdir, hgone, hframe⟩ := rekey_spec (StorageMap.insert_self ..) hfree h
  refine ⟨⟨_, hdir, Dir.holds_writeChunks chunks _⟩, hgone, fun id hid hkey => ?_⟩
  exact (hframe id hid hkey).trans (persist_ne store chunks hkey)

end

/-- **Stored chunks reproduce the committed tree.** Whatever the store holds, if chunks are staged
under any key and moved to the name of a commitment that has no directory yet, they are read back
in order; the tree built over them has the root of every registration of these chunks; and nothing
but the two directories has changed. -/
theorem stored_chunks_reproduce_tree (lib : Merkle.RsMerkle Bytes32) (blake2_256 : Bytes → Bytes32)
    (store : FsChunkStore) (stagingId commitmentId : CommitmentId) (chunks : List Bytes)
    (hne : chunks ≠ []) (hnew : store commitmentId = none) (store' : FsChunkStore)
    (h : (store.persist stagingId chunks).rekey stagingId commitmentId = .ok store') :
    ∃ loaded, loadAllChunks store' commitmentId chunks.length = .ok loaded ∧ loaded = chunks ∧
      (∃ root tree, buildMerkleTree lib blake2_256 loaded = some (root, tree) ∧
        ∀ req p, prepare lib blake2_256 req = .ok p → p.chunks = chunks →
          ∃ metadata, p.tx = .registerCommitment req.providerDid req.consumerDid root
            (UInt64.ofNat loaded.length) metadata req.expiresInBlocks req.price) ∧
      (stagingId ≠ commitmentId → store' stagingId = none) ∧
      (∀ id, id ≠ commitmentId → id ≠ stagingId → store' id = store id) := by
  obtain ⟨⟨dir, hdir, hholds⟩, hgone, hframe⟩ := rekey_persist_spec hnew h
  obtain ⟨tree, htree⟩ := merkleRoot_spec chunks hne
  refine ⟨chunks, loadAllChunks_of_holds hdir hholds, rfl, ⟨_, tree, htree, ?_⟩, hgone,
    hframe⟩
  intro req p hp hchunks
  obtain ⟨hmeta, -, -, -, htx⟩ := prepare_ok hp
  subst hchunks
  exact ⟨_, htx⟩

/-- A staging directory that an earlier attempt has left, with more chunks. -/
def leftoverStore : FsChunkStore :=
  FsChunkStore.persist .empty (Bytes32.ofNat 7) [[9], [9], [9]]

theorem stored_chunks_reproduce_tree_leftover :
    ∃ store', (leftoverStore.persist (Bytes32.ofNat 7) [[1], [2]]).rekey (Bytes32.ofNat 7)
        (Bytes32.ofNat 8) = .ok store' ∧
      loadAllChunks store' (Bytes32.ofNat 8) 2 = .ok [[1], [2]] := by
  have hne : Bytes32.ofNat 8 ≠ Bytes32.ofNat 7 := by decide +kernel
  have hnew : leftoverStore (Bytes32.ofNat 8) = none := by
    rw [leftoverStore, persist_ne _ _ hne]
    rfl
  have hfree : leftoverStore.persist (Bytes32.ofNat 7) [[1], [2]] (Bytes32.ofNat 8) = none := by
    rw [persist_ne _ _ hne]
    exact hnew
  have hrekey := rekey_ok (StorageMap.insert_self ..) hfree
  obtain ⟨loaded, hload, rfl, -⟩ := stored_chunks_reproduce_tree (Merkle.layered Bytes32) tailHash
    leftoverStore (Bytes32.ofNat 7) (Bytes32.ofNat 8) [[1], [2]] (by decide) hnew _ hrekey
  exact ⟨_, hrekey, hload⟩

/-! ## The call that refutes a dispute -/

/-- From a directory that holds the chunks, within the bounds of the chain, the client composes
the call with the disputed chunk and its proof in the tree over all chunks. -/
theorem prepareCounterDispute_of_holds (lib : Merkle.RsMerkle Bytes32)
    (blake2_256 : Bytes → Bytes32) {store : FsChunkStore} {commitmentId : CommitmentId} {dir : Dir}
    {chunks : List Bytes} (hdir : store commitmentId = some dir) (hholds : dir.Holds chunks)
    (hlen : chunks.length ≤ 2 ^ 32) (providerDid : Did) {i : Nat} (hi : i < chunks.length)
    (hsize : chunks[i].length ≤ VectorDb.maxChunkLen) :
    ∃ root tree, buildMerkleTree lib blake2_256 chunks = some (root, tree) ∧
      ∃ hproof : (generateInclusionProof lib tree i).length ≤ VectorDb.maxProofDepth,
        prepareCounterDispute lib blake2_256 store commitmentId providerDid i chunks.length =
          .ok (.counterDispute commitmentId providerDid ⟨chunks[i], hsize⟩
            ⟨generateInclusionProof lib tree i, hproof⟩) := by
  have hne : chunks ≠ [] := by
    rintro rfl
    exact absurd hi (Nat.not_lt_zero i)
  obtain ⟨root, htree⟩ := exists_buildMerkleTree lib blake2_256 hne
  have hproof : (generateInclusionProof lib (lib.fromLeaves (blake2bHasher blake2_256)
      (chunks.map blake2_256)) i).length ≤ VectorDb.maxProofDepth :=
    generateInclusionProof_length_le lib blake2_256 hlen hi
  refine ⟨root, _, htree, hproof, ?_⟩
  rw [prepareCounterDispute, if_neg (Nat.not_le.mpr hi), loadAllChunks_of_holds hdir hholds]
  have hsize' : ¬ chunks[i].length > maxChunkLen := Nat.not_lt.mpr hsize
  have hproof' : ¬ (generateInclusionProof lib (lib.fromLeaves (blake2bHasher blake2_256)
      (chunks.map blake2_256)) i).length > maxProofDepth := Nat.not_lt.mpr hproof
  simp only [List.getElem?_eq_getElem hi, htree]
  rw [dif_neg hsize', dif_neg hproof']

/-- **The stored chunks refute every dispute.** If the chain has a dispute about one of the chunks
that the directory holds, the client composes a call for it whose proof the chain accepts. -/
theorem prepareCounterDispute_verifies {AccountId Ext : Type} {cfg : VectorDb.Config AccountId Ext}
    {store : FsChunkStore} {commitmentId : CommitmentId} {dir : Dir} {chunks : List Bytes}
    (hdir : store commitmentId = some dir) (hholds : dir.Holds chunks)
    (hlen : chunks.length < 2 ^ 32) (providerDid : Did) {i : Nat} (hi : i < chunks.length)
    (hsize : chunks[i].length ≤ VectorDb.maxChunkLen) {c : VectorDb.VectorCommitment}
    {d : VectorDb.DisputeRecord} (hdispute : Disputes cfg chunks i c d) :
    ∃ chunkData merkleProof,
      prepareCounterDispute cfg.rsMerkle cfg.blake2_256 store commitmentId providerDid i
          c.totalChunks.toNat
        = .ok (.counterDispute commitmentId providerDid chunkData merkleProof) ∧
      VectorDb.proofVerifies cfg c d chunkData.val merkleProof.val = true := by
  obtain ⟨root, tree, htree, hproof, hcall⟩ := prepareCounterDispute_of_holds cfg.rsMerkle
    cfg.blake2_256 hdir hholds hlen.le providerDid hi hsize
  obtain ⟨-, rfl⟩ := buildMerkleTree_eq_some.mp htree
  rw [hdispute.total]
  exact ⟨_, _, hcall, proofVerifies_inclusionProof hlen hi hdispute⟩

end OffchainVectorDb
