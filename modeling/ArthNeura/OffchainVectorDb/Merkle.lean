import ArthNeura.VectorDb.Mock
import ArthNeura.VectorDb.Spec
import Mathlib.Data.Set.Function

set_option autoImplicit false

/-! # The off-chain client's Merkle trees and the proof check of the chain

The client builds the tree with a hasher of its own and submits proof hashes without positions;
the chain recomputes the root along the path of the recorded index. The two sides meet in
`counter_dispute`:

* `counterDispute_binding`: whatever is submitted, an accepted proof shows the disputed chunk;
* `counterDispute_honest`: what the client computes from its chunks is accepted.

A hash with 32 bytes of output has collisions among the inputs of 64 bytes, so nothing is assumed
of all of them: the assumption is about the nodes hashed in the tree and on the submitted path
(`nodeInputs`). -/

namespace OffchainVectorDb

open Frame

/-! ## The client -/

/-- The hash functions of the client, a copy of the pallet's over its own `blake2_256`. -/
def blake2bHasher (blake2_256 : Bytes → Bytes32) : Merkle.Hasher Bytes32 where
  hash data := blake2_256 data
  concatAndHash left right :=
    match right with
    | some r => blake2_256 (left.toList ++ r.toList)
    | none => left

section

variable (lib : Merkle.RsMerkle Bytes32) (blake2_256 : Bytes → Bytes32)

/-- The root and the tree over the chunks. `none` where the program stops because there is no
root. -/
def buildMerkleTree (chunks : List Bytes) : Option (Bytes32 × lib.Tree) :=
  let leaves := chunks.map (blake2bHasher blake2_256).hash
  let tree := lib.fromLeaves (blake2bHasher blake2_256) leaves
  (lib.root tree).map fun root => (root, tree)

def generateInclusionProof (tree : lib.Tree) (leafIndex : Nat) : List Bytes32 :=
  lib.proofHashes tree leafIndex

variable {lib blake2_256} {chunks : List Bytes}

theorem buildMerkleTree_eq_some {root : Bytes32} {tree : lib.Tree} :
    buildMerkleTree lib blake2_256 chunks = some (root, tree) ↔
      Merkle.treeRoot (blake2bHasher blake2_256).concatAndHash (chunks.map blake2_256)
        = some root ∧
      tree = lib.fromLeaves (blake2bHasher blake2_256) (chunks.map blake2_256) := by
  simp only [buildMerkleTree, Option.map_eq_some_iff, Prod.mk.injEq, lib.root_fromLeaves]
  constructor
  · rintro ⟨r, hr, rfl, rfl⟩
    exact ⟨hr, rfl⟩
  · rintro ⟨hr, rfl⟩
    exact ⟨root, hr, rfl, rfl⟩

/-- A tree over at least one chunk has a root. -/
theorem exists_buildMerkleTree (lib : Merkle.RsMerkle Bytes32) (blake2_256 : Bytes → Bytes32)
    (h : chunks ≠ []) :
    ∃ root, buildMerkleTree lib blake2_256 chunks = some (root,
      lib.fromLeaves (blake2bHasher blake2_256) (chunks.map blake2_256)) := by
  have hne : chunks.map blake2_256 ≠ [] := by simpa using h
  obtain ⟨root, hroot⟩ := Merkle.treeRoot_ne_none (blake2bHasher blake2_256).concatAndHash hne
  exact ⟨root, buildMerkleTree_eq_some.mpr ⟨hroot, rfl⟩⟩

theorem generateInclusionProof_length_le (lib : Merkle.RsMerkle Bytes32)
    (blake2_256 : Bytes → Bytes32) {i k : Nat} (hlen : chunks.length ≤ 2 ^ k)
    (hi : i < chunks.length) :
    (generateInclusionProof lib (lib.fromLeaves (blake2bHasher blake2_256)
      (chunks.map blake2_256)) i).length ≤ k := by
  rw [generateInclusionProof, lib.proofHashes_fromLeaves _ _ _ (by simpa using hi)]
  apply Merkle.inclusionProof_length_le
  rw [List.length_map]
  exact hlen

/-- The hashers of client and pallet agree if their hash functions do. -/
theorem blake2bHasher_eq (blake2_256 : Bytes → Bytes32) :
    blake2bHasher blake2_256 = VectorDb.blake2bHasher blake2_256 := rfl

end

/-! ## Collisions among nodes -/

/-- The inputs of the hash function for the given pairs of children. -/
def nodeInputs (pairs : List (Bytes32 × Bytes32)) : Set Bytes :=
  { input | ∃ p ∈ pairs, p.1.toList ++ p.2.toList = input }

/-- Both children can be read off the input of their parent. -/
theorem pair_of_append {p q : Bytes32 × Bytes32}
    (h : p.1.toList ++ p.2.toList = q.1.toList ++ q.2.toList) : p = q := by
  have hlen : p.1.toList.length = q.1.toList.length := by simp
  obtain ⟨h1, h2⟩ := List.append_inj h hlen
  exact Prod.ext (List.Vector.toList_injective h1) (List.Vector.toList_injective h2)

theorem noCollision_of_injOn {blake2_256 : Bytes → Bytes32} {tree path : List (Bytes32 × Bytes32)}
    (h : Set.InjOn blake2_256 (nodeInputs (tree ++ path))) :
    Merkle.NoCollision (blake2bHasher blake2_256).concatAndHash tree path := by
  intro p hp q hq heq
  apply pair_of_append
  exact h ⟨p, List.mem_append_left _ hp, rfl⟩ ⟨q, List.mem_append_right _ hq, rfl⟩ heq

/-! ## The proof check of the chain -/

variable {AccountId Ext : Type} {cfg : VectorDb.Config AccountId Ext}

/-- The commitment and the dispute are about chunk `i` of `chunks`. -/
structure Disputes (cfg : VectorDb.Config AccountId Ext) (chunks : List Bytes) (i : Nat)
    (c : VectorDb.VectorCommitment) (d : VectorDb.DisputeRecord) : Prop where
  root : ∃ tree, buildMerkleTree cfg.rsMerkle cfg.blake2_256 chunks = some (c.merkleRoot, tree)
  total : c.totalChunks.toNat = chunks.length
  index : d.disputedChunkIndex.toNat = i

/-- The pairs of nodes hashed in the tree over the chunks. -/
def chunkPairs (blake2_256 : Bytes → Bytes32) (chunks : List Bytes) : List (Bytes32 × Bytes32) :=
  Merkle.treePairs (blake2bHasher blake2_256).concatAndHash (chunks.map blake2_256)

/-- The pairs of nodes that the chain hashes to check a proof for chunk `i` of `n`. -/
def proofPairs (blake2_256 : Bytes → Bytes32) (i n : Nat) (chunkData : Bytes)
    (merkleProof : List Bytes32) : List (Bytes32 × Bytes32) :=
  Merkle.pathPairs (blake2bHasher blake2_256).concatAndHash i n (blake2_256 chunkData) merkleProof

section

variable {chunks : List Bytes} {i : Nat} {c : VectorDb.VectorCommitment}
  {d : VectorDb.DisputeRecord}

/-- The check of the chain is the recomputation of the root at leaf `i` of `chunks.length`. -/
theorem proofVerifies_iff (hlen : chunks.length < 2 ^ 32) (hi : i < chunks.length)
    (h : Disputes cfg chunks i c d) (chunkData : Bytes) (merkleProof : List Bytes32) :
    VectorDb.proofVerifies cfg c d chunkData merkleProof = true ↔
      Merkle.pathRoot (blake2bHasher cfg.blake2_256).concatAndHash i chunks.length
        (cfg.blake2_256 chunkData) merkleProof = some c.merkleRoot := by
  have hindex : VectorDb.asUsize d.disputedChunkIndex = i := by
    rw [VectorDb.asUsize_of_lt (by rw [h.index]; omega), h.index]
  have htotal : VectorDb.asUsize c.totalChunks = chunks.length := by
    rw [VectorDb.asUsize_of_lt (by rw [h.total]; exact hlen), h.total]
  rw [VectorDb.proofVerifies, hindex, htotal, cfg.rsMerkle.verify_iff _ _ _ _ _ _ hi,
    blake2bHasher_eq]

theorem leaf_of_proofVerifies (hlen : chunks.length < 2 ^ 32) (hi : i < chunks.length)
    (h : Disputes cfg chunks i c d) {chunkData : Bytes} {merkleProof : List Bytes32}
    (hinj : Set.InjOn cfg.blake2_256 (nodeInputs (chunkPairs cfg.blake2_256 chunks
      ++ proofPairs cfg.blake2_256 i chunks.length chunkData merkleProof)))
    (hver : VectorDb.proofVerifies cfg c d chunkData merkleProof = true) :
    cfg.blake2_256 chunkData = cfg.blake2_256 chunks[i] := by
  obtain ⟨tree, htree⟩ := h.root
  obtain ⟨hroot, -⟩ := buildMerkleTree_eq_some.mp htree
  have hpath := (proofVerifies_iff hlen hi h chunkData merkleProof).mp hver
  have hleaves : (chunks.map cfg.blake2_256).length = chunks.length := List.length_map ..
  have hcol : Merkle.NoCollision (blake2bHasher cfg.blake2_256).concatAndHash
      (chunkPairs cfg.blake2_256 chunks)
      (proofPairs cfg.blake2_256 i chunks.length chunkData merkleProof) :=
    noCollision_of_injOn hinj
  rw [← hleaves] at hpath
  rw [proofPairs, ← hleaves] at hcol
  have hleaf : (chunks.map cfg.blake2_256)[i]? = some (cfg.blake2_256 chunkData) :=
    Merkle.eq_leaf_of_pathRoot (fun _ => rfl) (by rw [hleaves]; exact hi) hcol hpath hroot
  rw [List.getElem?_map, List.getElem?_eq_getElem hi] at hleaf
  exact (Option.some.inj hleaf).symm

theorem proofVerifies_inclusionProof (hlen : chunks.length < 2 ^ 32) (hi : i < chunks.length)
    (h : Disputes cfg chunks i c d) :
    VectorDb.proofVerifies cfg c d chunks[i]
      (generateInclusionProof cfg.rsMerkle
        (cfg.rsMerkle.fromLeaves (blake2bHasher cfg.blake2_256) (chunks.map cfg.blake2_256)) i)
      = true := by
  obtain ⟨tree, htree⟩ := h.root
  obtain ⟨hroot, -⟩ := buildMerkleTree_eq_some.mp htree
  have hleaves : (chunks.map cfg.blake2_256).length = chunks.length := List.length_map ..
  have hleaf : (chunks.map cfg.blake2_256)[i]? = some (cfg.blake2_256 chunks[i]) := by
    rw [List.getElem?_map, List.getElem?_eq_getElem hi]
    rfl
  have hpath := Merkle.pathRoot_inclusionProof (blake2bHasher cfg.blake2_256).concatAndHash hleaf
  rw [hleaves, hroot] at hpath
  rw [proofVerifies_iff hlen hi h, generateInclusionProof,
    cfg.rsMerkle.proofHashes_fromLeaves _ _ _ (by rw [hleaves]; exact hi)]
  exact hpath

/-- **Soundness of adjudication.** For a commitment to the root of `chunks` and a dispute at
index `i`, a proof that the check of `counter_dispute` accepts shows the chunk `i`; in
particular so does every successful `counter_dispute`. -/
theorem counterDispute_binding [DecidableEq AccountId] (hlen : chunks.length < 2 ^ 32)
    (hi : i < chunks.length) (h : Disputes cfg chunks i c d) (chunkData : Bytes)
    (merkleProof : List Bytes32)
    (hinj : Set.InjOn cfg.blake2_256 (nodeInputs (chunkPairs cfg.blake2_256 chunks
      ++ proofPairs cfg.blake2_256 i chunks.length chunkData merkleProof))) :
    (VectorDb.proofVerifies cfg c d chunkData merkleProof = true →
      cfg.blake2_256 chunkData = cfg.blake2_256 chunks[i]) ∧
    (∀ origin id providerDid (hdata : chunkData.length ≤ VectorDb.maxChunkLen)
        (hproof : merkleProof.length ≤ VectorDb.maxProofDepth) (s s' : VectorDb.State Ext),
      s.storage.vectorCommitments id = some c → s.storage.disputeRecords id = some d →
      (VectorDb.counterDispute cfg origin id providerDid ⟨chunkData, hdata⟩
        ⟨merkleProof, hproof⟩).run s = .ok () s' →
      cfg.blake2_256 chunkData = cfg.blake2_256 chunks[i]) := by
  refine ⟨leaf_of_proofVerifies hlen hi h hinj, ?_⟩
  intro origin id providerDid hdata hproof s s' hc hd hok
  obtain ⟨-, -, c', hc', -, -, -, d', hd', -, -, hver, -⟩ := VectorDb.counterDispute_ok.mp hok
  rw [hc, Option.some.injEq] at hc'
  rw [hd, Option.some.injEq] at hd'
  subst hc' hd'
  exact leaf_of_proofVerifies hlen hi h hinj hver

/-- Three chunks, so that the last one is promoted unhashed. -/
def testChunks : List Bytes := [[1], [2], [3]]

/-- The commitment to `testChunks` that is under dispute. -/
def testCommitment : VectorDb.VectorCommitment where
  commitmentId := Bytes32.ofNat 9
  provider := VectorDb.testDid 1
  consumer := VectorDb.testDid 2
  merkleRoot := ((buildMerkleTree (Merkle.layered Bytes32) tailHash testChunks).map
    (·.1)).getD (Bytes32.ofNat 0)
  totalChunks := 3
  metadata := .nil
  status := .disputed
  createdAt := 1
  expiresAt := 10
  acknowledgedAt := some 2
  price := 50

/-- A dispute about the last of the three chunks. -/
def testDispute : VectorDb.DisputeRecord where
  commitmentId := Bytes32.ofNat 9
  merkleRoot := testCommitment.merkleRoot
  receivedChunkHash := Bytes32.ofNat 0
  disputedChunkIndex := 2
  raisedAt := 3
  counterDeadline := 13
  verdict := none

theorem disputes_test : Disputes VectorDb.mockConfig testChunks 2 testCommitment testDispute := by
  refine ⟨?_, by decide +kernel, by decide +kernel⟩
  have hne : testChunks ≠ [] := by decide
  obtain ⟨root, htree⟩ := exists_buildMerkleTree VectorDb.mockConfig.rsMerkle
    VectorDb.mockConfig.blake2_256 hne
  have hroot : testCommitment.merkleRoot = root := by
    show ((buildMerkleTree VectorDb.mockConfig.rsMerkle VectorDb.mockConfig.blake2_256
      testChunks).map (·.1)).getD (Bytes32.ofNat 0) = root
    rw [htree]
    rfl
  rw [hroot]
  exact ⟨_, htree⟩

/-- The proof of the last chunk of `testChunks`. -/
def testProof : List Bytes32 :=
  Merkle.inclusionProof (blake2bHasher tailHash).concatAndHash (testChunks.map tailHash) 2

/-- The nodes of the tree over `testChunks` and of the proof do not collide. -/
theorem injOn_test : Set.InjOn VectorDb.mockConfig.blake2_256 (nodeInputs
    (chunkPairs VectorDb.mockConfig.blake2_256 testChunks ++
      proofPairs VectorDb.mockConfig.blake2_256 2 testChunks.length [3] testProof)) := by
  rintro _ ⟨p, hp, rfl⟩ _ ⟨q, hq, rfl⟩ h
  have hall : (chunkPairs tailHash testChunks ++ proofPairs tailHash 2 3 [3] testProof).all
      (fun p => (chunkPairs tailHash testChunks ++ proofPairs tailHash 2 3 [3] testProof).all
        fun q => decide (tailHash (p.1.toList ++ p.2.toList)
          = tailHash (q.1.toList ++ q.2.toList) → p = q)) = true := by
    decide +kernel
  have hq' := List.all_eq_true.mp (List.all_eq_true.mp hall p hp) q hq
  rw [of_decide_eq_true hq' h]

theorem counterDispute_binding_test :
    VectorDb.mockConfig.blake2_256 [3] = VectorDb.mockConfig.blake2_256 testChunks[2] :=
  (counterDispute_binding (by decide) (by decide) disputes_test [3] _ injOn_test).1
    (by decide +kernel)

/-- **Completeness of adjudication.** From at least one and fewer than `2^32` chunks of at most
`MAX_CHUNK_LEN` bytes, the client builds a tree, and a proof for every chunk that is short
enough to be submitted. The check of `counter_dispute` accepts it, so that within the window
the call of the provider's controller succeeds whenever the escrow can be released. -/
theorem counterDispute_honest [DecidableEq AccountId] (cfg : VectorDb.Config AccountId Ext)
    (spCoreBlake2 : Bytes → Bytes32) (hsame : spCoreBlake2 = cfg.blake2_256)
    (chunks : List Bytes) (hlen : chunks.length < 2 ^ 32)
    (hsize : ∀ chunk ∈ chunks, chunk.length ≤ VectorDb.maxChunkLen) (i : Nat)
    (hi : i < chunks.length) :
    ∃ root tree, buildMerkleTree cfg.rsMerkle spCoreBlake2 chunks = some (root, tree) ∧
      ∃ (hdata : chunks[i].length ≤ VectorDb.maxChunkLen)
        (hproof : (generateInclusionProof cfg.rsMerkle tree i).length ≤ VectorDb.maxProofDepth),
      ∀ c d, c.merkleRoot = root → c.totalChunks.toNat = chunks.length →
        d.disputedChunkIndex.toNat = i →
        VectorDb.proofVerifies cfg c d chunks[i] (generateInclusionProof cfg.rsMerkle tree i)
          = true ∧
        ∀ (s : VectorDb.State Ext) id caller ext, s.storage.vectorCommitments id = some c →
          c.status = .disputed → VectorDb.Authorized cfg s.ext caller c.provider →
          s.storage.disputeRecords id = some d →
          cfg.blockNumber s.ext ≤ d.counterDeadline →
          (cfg.release id).run s.ext = .ok () ext →
          succeeds (VectorDb.counterDispute cfg (.signed caller) id c.provider
            ⟨chunks[i], hdata⟩ ⟨generateInclusionProof cfg.rsMerkle tree i, hproof⟩) s = true := by
  subst hsame
  have hne : chunks ≠ [] := by
    rintro rfl
    exact absurd hi (Nat.not_lt_zero i)
  obtain ⟨root, htree⟩ := exists_buildMerkleTree cfg.rsMerkle cfg.blake2_256 hne
  have hproof : (generateInclusionProof cfg.rsMerkle (cfg.rsMerkle.fromLeaves
      (blake2bHasher cfg.blake2_256) (chunks.map cfg.blake2_256)) i).length
      ≤ VectorDb.maxProofDepth :=
    generateInclusionProof_length_le cfg.rsMerkle cfg.blake2_256 hlen.le hi
  refine ⟨root, _, htree, hsize _ (List.getElem_mem hi), hproof, ?_⟩
  intro c d hroot htotal hindex
  subst hroot
  have hver := proofVerifies_inclusionProof hlen hi ⟨⟨_, htree⟩, htotal, hindex⟩
  refine ⟨hver, ?_⟩
  intro s id caller ext hc hst hauth hd hdeadline hrel
  have hbound : d.disputedChunkIndex < c.totalChunks := by
    rw [UInt64.lt_iff_toNat_lt, hindex, htotal]
    exact hi
  exact succeeds_iff.mpr ⟨_, VectorDb.counterDispute_ok.mpr
    ⟨caller, rfl, c, hc, hst, rfl, hauth, d, hd, hdeadline, hbound, hver, ext, hrel, rfl⟩⟩

theorem counterDispute_honest_test :
    ∃ root tree, buildMerkleTree VectorDb.mockConfig.rsMerkle tailHash testChunks
        = some (root, tree) ∧
      (testCommitment.merkleRoot = root → VectorDb.proofVerifies VectorDb.mockConfig
        testCommitment testDispute [3]
        (generateInclusionProof VectorDb.mockConfig.rsMerkle tree 2) = true) := by
  obtain ⟨root, tree, htree, hdata, hproof, hall⟩ := counterDispute_honest VectorDb.mockConfig
    tailHash rfl testChunks (by decide) (by decide) 2 (by decide)
  exact ⟨root, tree, htree, fun hroot =>
    (hall testCommitment testDispute hroot (by decide) (by decide)).1⟩

end

end OffchainVectorDb
