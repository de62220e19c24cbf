import ArthNeura.Merkle.Binding
import ArthNeura.OffchainVectorDb.Chunking
import ArthNeura.VectorDb.Lifecycle

set_option autoImplicit false

/-! # What a commitment says about the payload

A commitment carries the root of the tree and the number of chunks. Together the two determine the
chunks, and for a payload cut by size the payload (`root_and_total_bind_payload`). The root alone
does not: leaves and nodes are hashed alike, so that the pairs of hashes that the tree hashes in its
first layer are chunks with the same root, half as many. A provider that states half the number of
its chunks may therefore answer every dispute with two hashes and need not show a byte of the
payload (`halved_total_answers_with_hashes`). The number of chunks is not part of the identifier
either.
-/

namespace OffchainVectorDb

open Frame

/-! ## The root and the number of chunks -/

section

variable {lib : Merkle.RsMerkle Bytes32} {blake2_256 : Bytes → Bytes32}
  {chunks chunks' : List Bytes}

/-- What is hashed for the trees over two lists of chunks. -/
def treeInputs (blake2_256 : Bytes → Bytes32) (chunks chunks' : List Bytes) : Set Bytes :=
  { chunk | chunk ∈ chunks ++ chunks' } ∪
    nodeInputs (chunkPairs blake2_256 chunks ++ chunkPairs blake2_256 chunks')

theorem chunks_eq_of_root {root : Bytes32} {tree tree' : lib.Tree}
    (hinj : Set.InjOn blake2_256 (treeInputs blake2_256 chunks chunks'))
    (hlen : chunks.length = chunks'.length)
    (h : buildMerkleTree lib blake2_256 chunks = some (root, tree))
    (h' : buildMerkleTree lib blake2_256 chunks' = some (root, tree')) : chunks = chunks' := by
  obtain ⟨hroot, -⟩ := buildMerkleTree_eq_some.mp h
  obtain ⟨hroot', -⟩ := buildMerkleTree_eq_some.mp h'
  have hcol : Merkle.NoCollision (blake2bHasher blake2_256).concatAndHash
      (chunkPairs blake2_256 chunks) (chunkPairs blake2_256 chunks') :=
    noCollision_of_injOn (hinj.mono Set.subset_union_right)
  have hleaves : chunks.map blake2_256 = chunks'.map blake2_256 :=
    Merkle.eq_of_treeRoot (fun _ => rfl) (by simpa using hlen) hcol (hroot.trans hroot'.symm)
  -- the leaves are the hashes of the chunks
  refine List.ext_getElem hlen fun i hi hi' => ?_
  have hhash := List.getElem_of_eq hleaves (by simpa using hi)
  rw [List.getElem_map, List.getElem_map] at hhash
  apply hinj ?_ ?_ hhash
  · exact Or.inl (List.mem_append_left _ (List.getElem_mem hi))
  · exact Or.inl (List.mem_append_right _ (List.getElem_mem hi'))

/-- The number of chunks of a call, as a `u64`. -/
theorem length_eq_of_ofNat {m n : Nat} (hm : m < UInt64.size) (hn : n < UInt64.size)
    (h : UInt64.ofNat m = UInt64.ofNat n) : m = n := by
  have heq := congrArg UInt64.toNat h
  rwa [UInt64.toNat_ofNat_of_lt' hm, UInt64.toNat_ofNat_of_lt' hn] at heq

/-- **Root and number of chunks bind the payload.** If the calls prepared for two requests agree on
the root and on the number of chunks, the requests have the same chunks, and two requests that cut
their payload by size have the same payload; unless something that was hashed collides. -/
theorem root_and_total_bind_payload (lib : Merkle.RsMerkle Bytes32) (blake2_256 : Bytes → Bytes32)
    (req req' : Request) (p p' : Prepared) (hp : prepare lib blake2_256 req = .ok p)
    (hp' : prepare lib blake2_256 req' = .ok p')
    (hinj : Set.InjOn blake2_256 (treeInputs blake2_256 p.chunks p'.chunks))
    (hlen : p.chunks.length < UInt64.size) (hlen' : p'.chunks.length < UInt64.size)
    (root : VectorDb.MerkleRoot) (total : UInt64)
    (htx : ∃ provider consumer metadata expires price, p.tx
      = .registerCommitment provider consumer root total metadata expires price)
    (htx' : ∃ provider consumer metadata expires price, p'.tx
      = .registerCommitment provider consumer root total metadata expires price) :
    p.chunks = p'.chunks ∧
    (req.mode = .bytes → req'.mode = .bytes → req.payload = req'.payload) := by
  obtain ⟨_, -, -, -, heq⟩ := prepare_ok hp
  obtain ⟨_, -, -, -, heq'⟩ := prepare_ok hp'
  obtain ⟨_, _, _, _, _, htx⟩ := htx
  obtain ⟨_, _, _, _, _, htx'⟩ := htx'
  rw [heq] at htx
  rw [heq'] at htx'
  injection htx with _ _ hroot htotal
  injection htx' with _ _ hroot' htotal'
  obtain ⟨tree, htree⟩ := merkleRoot_spec p.chunks p.chunks_ne_nil
  obtain ⟨tree', htree'⟩ := merkleRoot_spec p'.chunks p'.chunks_ne_nil
  rw [hroot] at htree
  rw [hroot'] at htree'
  have hcount := length_eq_of_ofNat hlen hlen' (htotal.trans htotal'.symm)
  have hchunks := chunks_eq_of_root hinj hcount htree htree'
  refine ⟨hchunks, fun hmode hmode' => ?_⟩
  rw [prepare_bytes_ok hmode hp, prepare_bytes_ok hmode' hp'] at hchunks
  calc req.payload
      = (slices maxChunkLen req.payload).flatten := (flatten_slices (by decide) _).symm
    _ = (slices maxChunkLen req'.payload).flatten := by rw [hchunks]
    _ = req'.payload := flatten_slices (by decide) _

/-- A payload cut by rows. -/
def rowsRequest (payload : Bytes) : Request where
  providerDid := VectorDb.testDid 1
  consumerDid := VectorDb.testDid 2
  payload := payload
  metadata := []
  expiresInBlocks := 9
  price := 5
  mode := .rows

theorem injOn_rows : Set.InjOn tailHash (treeInputs tailHash [[1], [2]] [[1], [2]]) := by
  have hall : ∀ x ∈ treeInputs tailHash [[1], [2]] [[1], [2]], x ∈ [[1], [2]] ++
      (chunkPairs tailHash [[1], [2]]).map fun p => p.1.toList ++ p.2.toList := by
    rintro x (hx | ⟨p, hp, rfl⟩)
    · exact List.mem_append_left _ ((List.mem_append.mp hx).elim id id)
    · exact List.mem_append_right _
        (List.mem_map.mpr ⟨p, (List.mem_append.mp hp).elim id id, rfl⟩)
  have hnodup : (([[1], [2]] ++ (chunkPairs tailHash [[1], [2]]).map
      fun p : Bytes32 × Bytes32 => p.1.toList ++ p.2.toList).map tailHash).Nodup := by
    decide +kernel
  intro x hx y hy heq
  exact List.inj_on_of_nodup_map hnodup (hall x hx) (hall y hy) heq

/-- Two rows, with and without carriage return. -/
theorem root_and_total_bind_payload_rows :
    ∃ p p', prepare (Merkle.layered Bytes32) tailHash (rowsRequest [1, 10, 2]) = .ok p ∧
      prepare (Merkle.layered Bytes32) tailHash (rowsRequest [1, 13, 10, 2]) = .ok p' ∧
      p.chunks = p'.chunks :=
  ⟨_, _, rfl, rfl, (root_and_total_bind_payload (Merkle.layered Bytes32) tailHash
    (rowsRequest [1, 10, 2]) (rowsRequest [1, 13, 10, 2]) _ _ rfl rfl injOn_rows
    (by decide +kernel) (by decide +kernel) _ _ ⟨_, _, _, _, _, rfl⟩ ⟨_, _, _, _, _, rfl⟩).1⟩

end

/-! ## Half the number of chunks -/

/-- The chunks that stand for the first layer of the tree: the two hashes of every pair of chunks,
and the last chunk if it has no partner. -/
def foldChunks (blake2_256 : Bytes → Bytes32) : List Bytes → List Bytes
  | [] => []
  | [chunk] => [chunk]
  | a :: b :: chunks =>
      ((blake2_256 a).toList ++ (blake2_256 b).toList) :: foldChunks blake2_256 chunks

section

variable (blake2_256 : Bytes → Bytes32)

/-- Their leaves are the first layer of the tree over the chunks. -/
theorem map_foldChunks : ∀ chunks : List Bytes, (foldChunks blake2_256 chunks).map blake2_256 =
    Merkle.nextLayer (blake2bHasher blake2_256).concatAndHash (chunks.map blake2_256)
  | [] => rfl
  | [_] => rfl
  | a :: b :: chunks => by
      rw [foldChunks, List.map_cons, map_foldChunks chunks]
      rfl

theorem length_foldChunks (chunks : List Bytes) :
    (foldChunks blake2_256 chunks).length = (chunks.length + 1) / 2 := by
  have h := congrArg List.length (map_foldChunks blake2_256 chunks)
  rwa [Merkle.nextLayer_length, List.length_map, List.length_map] at h

theorem length_of_mem_foldChunks : ∀ {chunks : List Bytes},
    (∀ chunk ∈ chunks, chunk.length ≤ maxChunkLen) →
    ∀ chunk ∈ foldChunks blake2_256 chunks, chunk.length ≤ maxChunkLen
  | [], _, _, hmem => absurd hmem List.not_mem_nil
  | [_], h, chunk, hmem => h chunk hmem
  | a :: b :: chunks, h, chunk, hmem => by
      rw [foldChunks, List.mem_cons] at hmem
      rcases hmem with rfl | hmem
      · rw [List.length_append, List.Vector.toList_length, List.Vector.toList_length]
        decide
      · exact length_of_mem_foldChunks
          (fun x hx => h x (List.mem_cons_of_mem _ (List.mem_cons_of_mem _ hx))) chunk hmem

/-- The folded chunk `i` shows the hashes of the chunks `2i` and `2i + 1`, or is chunk `2i` where
that is the last one. -/
theorem getElem?_foldChunks : ∀ (chunks : List Bytes) (i : Nat) (a : Bytes),
    chunks[2 * i]? = some a →
    (foldChunks blake2_256 chunks)[i]? = some (chunks[2 * i + 1]?.elim a fun b =>
      (blake2_256 a).toList ++ (blake2_256 b).toList)
  | [], i, a, ha => by simp at ha
  | [x], i, a, ha => by
      cases i with
      | zero => simpa [foldChunks] using ha
      | succ i => simp [Nat.mul_succ] at ha
  | x :: y :: chunks, 0, a, ha => by
      simp only [Nat.mul_zero, List.getElem?_cons_zero, Option.some.injEq] at ha
      rw [foldChunks, ha]
      rfl
  | x :: y :: chunks, i + 1, a, ha => by
      rw [Nat.mul_succ, List.getElem?_cons_succ, List.getElem?_cons_succ] at ha
      rw [foldChunks, List.getElem?_cons_succ, getElem?_foldChunks chunks i a ha]
      rfl

/-- Folding keeps the root. -/
theorem buildMerkleTree_foldChunks {lib : Merkle.RsMerkle Bytes32} {chunks : List Bytes}
    (h2 : 2 ≤ chunks.length) {root : Bytes32} {tree : lib.Tree}
    (h : buildMerkleTree lib blake2_256 chunks = some (root, tree)) :
    ∃ tree', buildMerkleTree lib blake2_256 (foldChunks blake2_256 chunks)
      = some (root, tree') := by
  obtain ⟨hroot, -⟩ := buildMerkleTree_eq_some.mp h
  refine ⟨_, buildMerkleTree_eq_some.mpr ⟨?_, rfl⟩⟩
  rw [map_foldChunks, Merkle.treeRoot_nextLayer _ (by simpa using h2)]
  exact hroot

end

variable {AccountId Ext : Type} [DecidableEq AccountId]

/-- **Half the number of chunks is answered with hashes.** Take a commitment to the root of at least
two chunks that states half their number. In every state, a dispute about any index is countered
with data that consists of two hashes, or of the last chunk where it has no partner: the call of the
provider's controller succeeds within the window whenever the escrow can be released. -/
theorem halved_total_answers_with_hashes (cfg : VectorDb.Config AccountId Ext)
    (chunks : List Bytes) (h2 : 2 ≤ chunks.length) (hlen : chunks.length < 2 ^ 32)
    (hsize : ∀ chunk ∈ chunks, chunk.length ≤ maxChunkLen) (c : VectorDb.VectorCommitment)
    (hroot : ∃ tree, buildMerkleTree cfg.rsMerkle cfg.blake2_256 chunks
      = some (c.merkleRoot, tree))
    (htotal : c.totalChunks.toNat = (chunks.length + 1) / 2) (s : VectorDb.State Ext)
    (id : VectorDb.CommitmentId) (caller : AccountId) (d : VectorDb.DisputeRecord) (ext : Ext)
    (hc : s.storage.vectorCommitments id = some c) (hst : c.status = .disputed)
    (hauth : VectorDb.Authorized cfg s.ext caller c.provider)
    (hd : s.storage.disputeRecords id = some d) (hindex : d.disputedChunkIndex < c.totalChunks)
    (hdeadline : cfg.blockNumber s.ext ≤ d.counterDeadline)
    (hrel : (cfg.release id).run s.ext = .ok () ext) :
    ∃ chunkData merkleProof,
      succeeds (VectorDb.counterDispute cfg (.signed caller) id c.provider chunkData merkleProof) s
        = true ∧
      ((∃ a b, chunks[2 * d.disputedChunkIndex.toNat]? = some a ∧
          chunks[2 * d.disputedChunkIndex.toNat + 1]? = some b ∧
          chunkData.val = (cfg.blake2_256 a).toList ++ (cfg.blake2_256 b).toList) ∨
        2 * d.disputedChunkIndex.toNat + 1 = chunks.length ∧
          ∃ a, chunks[2 * d.disputedChunkIndex.toNat]? = some a ∧ chunkData.val = a) := by
  obtain ⟨tree, htree⟩ := hroot
  obtain ⟨tree', htree'⟩ := buildMerkleTree_foldChunks cfg.blake2_256 h2 htree
  have hfold := length_foldChunks cfg.blake2_256 chunks
  have hi : d.disputedChunkIndex.toNat < (foldChunks cfg.blake2_256 chunks).length := by
    rw [hfold, ← htotal]
    exact hindex
  have hfold32 : (foldChunks cfg.blake2_256 chunks).length < 2 ^ 32 := by omega
  -- the folded chunks are chunks of the commitment like any others
  have hdisputes : Disputes cfg (foldChunks cfg.blake2_256 chunks) d.disputedChunkIndex.toNat c d :=
    ⟨⟨tree', htree'⟩, htotal.trans hfold.symm, rfl⟩
  have hver := proofVerifies_inclusionProof hfold32 hi hdisputes
  have hdata := length_of_mem_foldChunks cfg.blake2_256 hsize _ (List.getElem_mem hi)
  have hproof := generateInclusionProof_length_le cfg.rsMerkle cfg.blake2_256 hfold32.le hi
  refine ⟨⟨_, hdata⟩, ⟨_, hproof⟩, succeeds_iff.mpr ⟨_, VectorDb.counterDispute_ok.mpr
    ⟨caller, rfl, c, hc, hst, rfl, hauth, d, hd, hdeadline, hindex, hver, ext, hrel, rfl⟩⟩, ?_⟩
  have hfirst : 2 * d.disputedChunkIndex.toNat < chunks.length := by omega
  have ha := List.getElem?_eq_getElem hfirst
  have hget := getElem?_foldChunks cfg.blake2_256 chunks _ _ ha
  rw [List.getElem?_eq_getElem hi, Option.some.injEq] at hget
  by_cases hpair : 2 * d.disputedChunkIndex.toNat + 1 < chunks.length
  · have hb := List.getElem?_eq_getElem hpair
    rw [hb] at hget
    exact Or.inl ⟨_, _, ha, hb, hget⟩
  · rw [List.getElem?_eq_none (not_lt.mp hpair)] at hget
    exact Or.inr ⟨by omega, _, ha, hget⟩

/-- The commitment of `testCommitment` with half the number of chunks. -/
def halvedCommitment : VectorDb.VectorCommitment := { testCommitment with totalChunks := 2 }

def halvedDispute : VectorDb.DisputeRecord := { testDispute with disputedChunkIndex := 0 }

/-- The commitment, with a dispute about its first chunk. -/
def halvedState : VectorDb.State VectorDb.MockExt :=
  ((VectorDb.genesis none (VectorDb.testExt 5)).insertCommitment (Bytes32.ofNat 9)
    halvedCommitment).insertDispute (Bytes32.ofNat 9) halvedDispute

theorem halved_total_answers_with_hashes_test :
    ∃ chunkData merkleProof, succeeds (VectorDb.counterDispute VectorDb.mockConfig (.signed 1)
      (Bytes32.ofNat 9) (VectorDb.testDid 1) chunkData merkleProof) halvedState = true := by
  obtain ⟨chunkData, merkleProof, h, -⟩ := halved_total_answers_with_hashes VectorDb.mockConfig
    testChunks (by decide) (by decide) (by decide) halvedCommitment disputes_test.root
    (by decide) halvedState (Bytes32.ofNat 9) 1 halvedDispute _ rfl rfl
    ⟨by decide +kernel, by decide +kernel⟩ rfl (by decide) (by decide) rfl
  exact ⟨chunkData, merkleProof, h⟩

end OffchainVectorDb
