import ArthNeura.OffchainVectorDb.Merkle

set_option autoImplicit false

/-! # What the client prepares before it registers a commitment

`register_commitment` of the client checks the metadata, splits the payload into chunks, by rows
or by size, builds the Merkle tree over them and composes the call of the pallet. The chunks are
staged under the hash of the payload (`stagingId`), which depends neither on the way the payload
was split nor on the parties of the deal.
-/

namespace OffchainVectorDb

open Frame
open VectorDb (Did MerkleRoot CommitmentId)

def maxChunkLen : Nat := 1024

def maxMetadataLen : Nat := 256

/-- The errors before the submission. -/
inductive RegisterCommitmentError where
  | metadataTooLarge (len bound : Nat)
  | emptyPayload
  deriving DecidableEq

/-- The environment variable `CHUNK_MODE`: `rows`, or anything else. -/
inductive ChunkMode where
  | rows
  | bytes
  deriving DecidableEq

/-- `payload.chunks(size)`, with the length of the payload as fuel. -/
def slicesAux (size : Nat) : Nat → Bytes → List Bytes
  | 0, _ => []
  | fuel + 1, l => if l.isEmpty then [] else l.take size :: slicesAux size fuel (l.drop size)

def slices (size : Nat) (payload : Bytes) : List Bytes := slicesAux size payload.length payload

/-- Drop one trailing `\r`. -/
def stripCr (line : Bytes) : Bytes := if line.getLast? = some 13 then line.dropLast else line

/-- The loop over the rows. A row that is too long is reported as an empty payload. -/
def rowChunks : List Bytes → Except RegisterCommitmentError (List Bytes)
  | [] => .ok []
  | line :: lines =>
      let line := stripCr line
      if line.isEmpty then rowChunks lines
      else if line.length > maxChunkLen then .error .emptyPayload
      else do
        let out ← rowChunks lines
        return line :: out

/-- The chunks of a payload that is not empty; there is at least one. -/
def chunkPayload (mode : ChunkMode) (payload : Bytes) (hne : payload ≠ []) :
    Except RegisterCommitmentError { chunks : List Bytes // chunks ≠ [] } :=
  match mode with
  | .rows => do
      -- `\n` is byte 10
      let out ← rowChunks (payload.splitOn 10)
      if h : out = [] then .error .emptyPayload else .ok ⟨out, h⟩
  | .bytes =>
      .ok ⟨slices maxChunkLen payload, by
        cases payload with
        | nil => exact absurd rfl hne
        | cons b l => simp [slices, slicesAux]⟩

/-- The arguments of a registration. -/
structure Request where
  providerDid : Did
  consumerDid : Did
  payload : Bytes
  metadata : Bytes
  expiresInBlocks : Nat
  price : Nat
  mode : ChunkMode

/-- What is ready before the first effect: the chunks with their staging key, and the call. -/
structure Prepared where
  stagingId : CommitmentId
  chunks : List Bytes
  chunks_ne_nil : chunks ≠ []
  tx : VectorDb.Call

section

variable (lib : Merkle.RsMerkle Bytes32) (blake2_256 : Bytes → Bytes32)

/-- The root over at least one chunk. -/
def merkleRoot (chunks : List Bytes) (hne : chunks ≠ []) : MerkleRoot :=
  ((buildMerkleTree lib blake2_256 chunks).get (by
    obtain ⟨root, hroot⟩ := exists_buildMerkleTree lib blake2_256 hne
    rw [hroot]
    rfl)).1

def prepare (req : Request) : Except RegisterCommitmentError Prepared :=
  if hmeta : req.metadata.length > maxMetadataLen then
    .error (.metadataTooLarge req.metadata.length maxMetadataLen)
  else if hne : req.payload = [] then .error .emptyPayload
  else do
    let chunks ← chunkPayload req.mode req.payload hne
    return {
      stagingId := (blake2bHasher blake2_256).hash req.payload
      chunks := chunks.val
      chunks_ne_nil := chunks.property
      tx := .registerCommitment req.providerDid req.consumerDid
        (merkleRoot lib blake2_256 chunks.val chunks.property) (UInt64.ofNat chunks.val.length)
        ⟨req.metadata, Nat.le_of_not_lt hmeta⟩ req.expiresInBlocks req.price }

variable {lib blake2_256}

/-- What a successful preparation consists of. -/
theorem prepare_ok {req : Request} {p : Prepared} (h : prepare lib blake2_256 req = .ok p) :
    ∃ (hmeta : req.metadata.length ≤ maxMetadataLen) (hne : req.payload ≠ []),
      chunkPayload req.mode req.payload hne = .ok ⟨p.chunks, p.chunks_ne_nil⟩ ∧
      p.stagingId = blake2_256 req.payload ∧
      p.tx = .registerCommitment req.providerDid req.consumerDid
        (merkleRoot lib blake2_256 p.chunks p.chunks_ne_nil) (UInt64.ofNat p.chunks.length)
        ⟨req.metadata, hmeta⟩ req.expiresInBlocks req.price := by
  unfold prepare at h
  split at h
  · cases h
  · next hmeta =>
      split at h
      · cases h
      · next hne =>
          refine ⟨Nat.le_of_not_lt hmeta, hne, ?_⟩
          cases hchunks : chunkPayload req.mode req.payload hne with
          | error e =>
              rw [hchunks] at h
              cases h
          | ok chunks =>
              rw [hchunks] at h
              cases h
              exact ⟨rfl, rfl, rfl⟩

theorem prepare_stagingId {req : Request} {p : Prepared}
    (h : prepare lib blake2_256 req = .ok p) : p.stagingId = blake2_256 req.payload := by
  obtain ⟨-, -, -, hkey, -⟩ := prepare_ok h
  exact hkey

theorem prepare_bytes_ok {req : Request} (hmode : req.mode = .bytes) {p : Prepared}
    (h : prepare lib blake2_256 req = .ok p) : p.chunks = slices maxChunkLen req.payload := by
  obtain ⟨-, hne, hchunks, -⟩ := prepare_ok h
  rw [hmode] at hchunks
  injection hchunks with hval
  exact (congrArg Subtype.val hval).symm

theorem merkleRoot_spec (chunks : List Bytes) (hne : chunks ≠ []) :
    ∃ tree, buildMerkleTree lib blake2_256 chunks
      = some (merkleRoot lib blake2_256 chunks hne, tree) := by
  obtain ⟨root, hroot⟩ := exists_buildMerkleTree lib blake2_256 hne
  refine ⟨lib.fromLeaves (blake2bHasher blake2_256) (chunks.map blake2_256), ?_⟩
  have hget : merkleRoot lib blake2_256 chunks hne = root := by
    simp only [merkleRoot, hroot, Option.get_some]
  rw [hget]
  exact hroot

end

/-! ## Slices of equal size -/

section

variable {size : Nat}

theorem slicesAux_of_le (hsize : 0 < size) :
    ∀ (fuel : Nat) (l : Bytes), l.length ≤ fuel → slicesAux size fuel l = slices size l := by
  intro fuel
  induction fuel using Nat.strongRecOn with
  | ind fuel ih =>
      intro l hl
      cases l with
      | nil => cases fuel <;> rfl
      | cons b l =>
          cases fuel with
          | zero => exact absurd hl (Nat.not_succ_le_zero _)
          | succ fuel =>
              have hdrop : ((b :: l).drop size).length ≤ l.length := by
                simp only [List.length_drop, List.length_cons]
                omega
              rw [List.length_cons] at hl
              rw [slices, List.length_cons, slicesAux, slicesAux,
                ih fuel (Nat.lt_succ_self fuel) _ (by omega), ih l.length (by omega) _ hdrop]

theorem slices_nil : slices size [] = [] := rfl

/-- The first slice, and the slices of the rest. -/
theorem slices_of_ne_nil (hsize : 0 < size) {l : Bytes} (hl : l ≠ []) :
    slices size l = l.take size :: slices size (l.drop size) := by
  cases l with
  | nil => exact absurd rfl hl
  | cons b l =>
      have hdrop : ((b :: l).drop size).length ≤ l.length := by
        simp only [List.length_drop, List.length_cons]
        omega
      rw [← slicesAux_of_le hsize l.length _ hdrop]
      rfl

/-- Induction from the rest behind the first slice. -/
theorem slices_induction (hsize : 0 < size) {motive : Bytes → Prop} (nil : motive [])
    (slice : ∀ l, l ≠ [] → motive (l.drop size) → motive l) (l : Bytes) : motive l := by
  induction hn : l.length using Nat.strongRecOn generalizing l with
  | ind n ih =>
      by_cases hl : l = []
      · rw [hl]
        exact nil
      · refine slice l hl (ih _ ?_ _ rfl)
        have hpos := List.length_pos_iff.mpr hl
        rw [List.length_drop]
        omega

theorem flatten_slices (hsize : 0 < size) (l : Bytes) : (slices size l).flatten = l := by
  induction l using slices_induction hsize with
  | nil => rfl
  | slice l hl ih =>
      rw [slices_of_ne_nil hsize hl, List.flatten_cons, ih, List.take_append_drop]

theorem length_of_mem_slices (hsize : 0 < size) (l : Bytes) :
    ∀ chunk ∈ slices size l, 1 ≤ chunk.length ∧ chunk.length ≤ size := by
  induction l using slices_induction hsize with
  | nil => exact fun chunk h => absurd h List.not_mem_nil
  | slice l hl ih =>
      intro chunk hchunk
      rw [slices_of_ne_nil hsize hl, List.mem_cons] at hchunk
      rcases hchunk with rfl | hchunk
      · have hpos := List.length_pos_iff.mpr hl
        rw [List.length_take]
        omega
      · exact ih chunk hchunk

/-- Slice `k` starts at byte `k * size`. -/
theorem getElem?_slices (hsize : 0 < size) (l : Bytes) : ∀ k, (slices size l)[k]? =
    if k * size < l.length then some ((l.drop (k * size)).take size) else none := by
  induction l using slices_induction hsize with
  | nil => exact fun k => rfl
  | slice l hl ih =>
      intro k
      rw [slices_of_ne_nil hsize hl]
      cases k with
      | zero =>
          have hpos := List.length_pos_iff.mpr hl
          rw [Nat.zero_mul, if_pos hpos]
          rfl
      | succ k =>
          have hlt : k * size < (l.drop size).length ↔ (k + 1) * size < l.length := by
            rw [List.length_drop, Nat.succ_mul]
            omega
          rw [List.getElem?_cons_succ, ih k, if_congr hlt rfl rfl, List.drop_drop,
            Nat.succ_mul, Nat.add_comm size]

end

end OffchainVectorDb
