import ArthNeura.OffchainVectorDb.Chunking

set_option autoImplicit false

/-! # Slicing a file

`slice_file_into_chunks` makes a chunk of what each read call returns. A read call may return fewer
bytes than the buffer holds, and then the chunk is short and all later ones are shifted
(`shortReads_shift`). The result is the split of the content into slices, which the registration
uses, exactly if every call fills the buffer or reaches the end of the file
(`sliceFileIntoChunks_eq_iff`).
-/

namespace OffchainVectorDb

open Frame

/-- An open file and how the operating system answers the read calls: call number `k`, with a
buffer of `size` bytes and when `rest` has not been read yet, gives some bytes of the rest, none
only at the end of the file, or an error. -/
structure OpenFile (ε : Type) (size : Nat) where
  content : Bytes
  read : Nat → Bytes → Except ε Nat
  read_le : ∀ {k rest n}, read k rest = .ok n → n ≤ min size rest.length
  read_pos : ∀ {k rest n}, read k rest = .ok n → 0 < size → rest ≠ [] → 0 < n

section

variable {ε : Type} {size : Nat}

/-- The loop of `slice_file_into_chunks`, from read call `k` on. -/
def readChunks (file : OpenFile ε size) (k : Nat) (rest : Bytes) : Except ε (List Bytes) :=
  match h : file.read k rest with
  | .error e => .error e
  | .ok 0 => .ok []
  | .ok (n + 1) => do
      -- `buffer[..bytes_read]`: the buffer is not filled up first
      let chunks ← readChunks file (k + 1) (rest.drop (n + 1))
      return rest.take (n + 1) :: chunks
termination_by rest.length
decreasing_by
  have hle := file.read_le h
  rw [List.length_drop]
  omega

def sliceFileIntoChunks (opened : Except ε (OpenFile ε size)) : Except ε (List Bytes) := do
  let file ← opened
  readChunks file 0 file.content

/-- From call `k` on, every call fills the buffer or reaches the end of the file. -/
def ReadsFull (file : OpenFile ε size) (k : Nat) (rest : Bytes) : Prop :=
  ∀ j, j * size < rest.length →
    file.read (k + j) (rest.drop (j * size)) = .ok (min size (rest.length - j * size))

variable {file : OpenFile ε size}

theorem readChunks_zero {k : Nat} {rest : Bytes} (h : file.read k rest = .ok 0) :
    readChunks file k rest = .ok [] := by
  rw [readChunks]
  split
  · next e he => rw [h] at he; cases he
  · rfl
  · next n hn => rw [h] at hn; cases hn

theorem readChunks_succ {k n : Nat} {rest : Bytes} (h : file.read k rest = .ok (n + 1)) :
    readChunks file k rest = do
      let chunks ← readChunks file (k + 1) (rest.drop (n + 1))
      return rest.take (n + 1) :: chunks := by
  rw [readChunks]
  split
  · next e he => rw [h] at he; cases he
  · next h0 => rw [h] at h0; cases h0
  · next m hm =>
      rw [h] at hm
      cases hm
      rfl

theorem readsFull_nil (k : Nat) : ReadsFull file k [] :=
  fun _ hj => absurd hj (Nat.not_lt_zero _)

/-- The first call is full, and so are those behind the first slice. -/
theorem readsFull_iff {k : Nat} {rest : Bytes} (hrest : rest ≠ []) :
    ReadsFull file k rest ↔ file.read k rest = .ok (min size rest.length) ∧
      ReadsFull file (k + 1) (rest.drop size) := by
  have hpos := List.length_pos_iff.mpr hrest
  -- call `j` behind the first slice is call `j + 1` of all
  have hshift : ∀ j, (j * size < (rest.drop size).length ↔ (j + 1) * size < rest.length) ∧
      (rest.drop size).drop (j * size) = rest.drop ((j + 1) * size) ∧
      (rest.drop size).length - j * size = rest.length - (j + 1) * size := by
    intro j
    rw [List.length_drop, List.drop_drop, Nat.succ_mul, Nat.add_comm size]
    exact ⟨by omega, rfl, by omega⟩
  constructor
  · intro h
    refine ⟨?_, fun j hj => ?_⟩
    · have h0 := h 0 (by omega)
      rwa [Nat.zero_mul, Nat.add_zero, List.drop_zero, Nat.sub_zero] at h0
    · obtain ⟨hlt, hdrop, hsub⟩ := hshift j
      rw [hdrop, hsub, Nat.add_assoc, Nat.add_comm 1]
      exact h (j + 1) (hlt.mp hj)
  · rintro ⟨h0, h⟩ j hj
    cases j with
    | zero => rwa [Nat.zero_mul, Nat.add_zero, List.drop_zero, Nat.sub_zero]
    | succ j =>
        obtain ⟨hlt, hdrop, hsub⟩ := hshift j
        have hj' := h j (hlt.mpr hj)
        rwa [hdrop, hsub, Nat.add_assoc, Nat.add_comm 1] at hj'

/-- A piece of the rest is its first slice exactly if it is as long. -/
theorem take_eq_take_iff {n : Nat} {rest : Bytes} (hn : n ≤ min size rest.length) :
    rest.take n = rest.take size ↔ n = min size rest.length := by
  constructor
  · intro h
    have hlen := congrArg List.length h
    rw [List.length_take, List.length_take] at hlen
    omega
  · intro h
    rw [h, List.take_eq_take_iff]
    omega

theorem drop_min (rest : Bytes) : rest.drop (min size rest.length) = rest.drop size := by
  by_cases h : size ≤ rest.length
  · rw [Nat.min_eq_left h]
  · rw [List.drop_eq_nil_of_le (by omega), List.drop_eq_nil_of_le (by omega)]

/-- **The loop from any call on.** If no call fails, the loop returns the rest in pieces that fit
the buffer, and they are its slices exactly if every call is full. -/
theorem readChunks_spec (hsize : 0 < size) (hok : ∀ k rest, ∃ n, file.read k rest = .ok n) :
    ∀ (rest : Bytes) (k : Nat), ∃ chunks, readChunks file k rest = .ok chunks ∧
      chunks.flatten = rest ∧ (∀ chunk ∈ chunks, 1 ≤ chunk.length ∧ chunk.length ≤ size) ∧
      (chunks = slices size rest ↔ ReadsFull file k rest) := by
  intro rest
  induction hn : rest.length using Nat.strongRecOn generalizing rest with
  | ind len ih =>
      intro k
      obtain ⟨n, hread⟩ := hok k rest
      have hle := file.read_le hread
      by_cases hrest : rest = []
      · subst hrest
        have h0 : n = 0 := Nat.le_zero.mp (hle.trans (Nat.min_le_right _ _))
        subst h0
        exact ⟨[], readChunks_zero hread, rfl, fun _ h => absurd h List.not_mem_nil,
          fun _ => readsFull_nil k, fun _ => slices_nil.symm⟩
      · have hpos := file.read_pos hread hsize hrest
        cases n with
        | zero => exact absurd hpos (Nat.lt_irrefl 0)
        | succ n =>
            obtain ⟨chunks, hchunks, hflat, hlen, hiff⟩ := ih (rest.drop (n + 1)).length
              (by rw [List.length_drop]; omega) (rest.drop (n + 1)) rfl (k + 1)
            refine ⟨rest.take (n + 1) :: chunks, ?_, ?_, ?_, ?_⟩
            · rw [readChunks_succ hread, hchunks]
              rfl
            · rw [List.flatten_cons, hflat, List.take_append_drop]
            · intro chunk hchunk
              rcases List.mem_cons.mp hchunk with rfl | hchunk
              · rw [List.length_take]
                omega
              · exact hlen chunk hchunk
            · rw [slices_of_ne_nil hsize hrest, List.cons.injEq, readsFull_iff hrest, hread,
                Except.ok.injEq, take_eq_take_iff hle]
              -- after a full call the rest is that behind the first slice
              refine and_congr_right fun hfull => ?_
              rw [hfull, drop_min] at hiff
              exact hiff

/-- Byte `o` of the content is byte `o % size` of slice `o / size`. -/
theorem getElem?_slices_div (hsize : 0 < size) (l : Bytes) {o : Nat} (ho : o < l.length) :
    ((slices size l)[o / size]?).bind (·[o % size]?) = some l[o] := by
  have hdiv := Nat.div_add_mod' o size
  have hmod := Nat.mod_lt o hsize
  rw [getElem?_slices hsize, if_pos (by omega), Option.bind_some, List.getElem?_take_of_lt hmod,
    List.getElem?_drop, hdiv, List.getElem?_eq_getElem ho]

end

/-- **File slicing agrees with the chunks of a registration exactly if every read is full.** For
any content, buffer size and reader without errors, the file is cut into pieces that fit the
buffer; the pieces are the slices of the content, those that a registration in the byte mode
makes, exactly if every call fills the buffer or reaches the end of the file. In the slices, a byte
is found by its offset. -/
theorem sliceFileIntoChunks_eq_iff (lib : Merkle.RsMerkle Bytes32) (blake2_256 : Bytes → Bytes32)
    {ε : Type} {size : Nat} (hsize : 0 < size) (file : OpenFile ε size)
    (hok : ∀ k rest, ∃ n, file.read k rest = .ok n) :
    ∃ chunks, sliceFileIntoChunks (.ok file) = .ok chunks ∧ chunks.flatten = file.content ∧
      (∀ chunk ∈ chunks, 1 ≤ chunk.length ∧ chunk.length ≤ size) ∧
      (chunks = slices size file.content ↔ ReadsFull file 0 file.content) ∧
      (∀ req p, size = maxChunkLen → req.mode = .bytes → req.payload = file.content →
        prepare lib blake2_256 req = .ok p →
        (chunks = p.chunks ↔ ReadsFull file 0 file.content)) ∧
      (∀ o (ho : o < file.content.length),
        ((slices size file.content)[o / size]?).bind (·[o % size]?) = some file.content[o]) := by
  obtain ⟨chunks, hchunks, hflat, hlen, hiff⟩ := readChunks_spec hsize hok file.content 0
  refine ⟨chunks, hchunks, hflat, hlen, hiff, fun req p hmax hmode hpayload hp => ?_,
    fun o ho => ?_⟩
  · rw [prepare_bytes_ok hmode hp, hpayload, ← hmax]
    exact hiff
  · exact getElem?_slices_div hsize file.content ho

/-- A file that gives at most `n` bytes a call and never fails. -/
def cappedFile (content : Bytes) (n size : Nat) (hn : 0 < n) (hle : n ≤ size) :
    OpenFile Empty size where
  content := content
  read _ rest := .ok (min n rest.length)
  read_le := by
    intro _ rest m h
    cases h
    omega
  read_pos := by
    intro _ rest m h _ hrest
    cases h
    have hpos := List.length_pos_iff.mpr hrest
    omega

theorem sliceFileIntoChunks_eq_iff_capped :
    sliceFileIntoChunks (.ok (cappedFile [1, 2, 3] 2 2 (by decide) (by decide)))
      = .ok [[1, 2], [3]] := by
  obtain ⟨chunks, hchunks, -, -, hiff, -⟩ := sliceFileIntoChunks_eq_iff (Merkle.layered Bytes32)
    tailHash (by decide) (cappedFile [1, 2, 3] 2 2 (by decide) (by decide))
    (fun _ rest => ⟨min 2 rest.length, rfl⟩)
  have hfull : ReadsFull (cappedFile [1, 2, 3] 2 2 (by decide) (by decide)) 0 [1, 2, 3] := by
    intro j _
    show Except.ok (min 2 ([1, 2, 3].drop (j * 2)).length) = _
    rw [List.length_drop]
  rw [hchunks, hiff.mpr hfull]
  rfl

/-- One byte a call: three chunks, where the content has two slices. -/
theorem shortReads_shift :
    sliceFileIntoChunks (.ok (cappedFile [1, 2, 3] 1 2 (by decide) (by decide)))
      = .ok [[1], [2], [3]] ∧
    sliceFileIntoChunks (.ok (cappedFile [1, 2, 3] 1 2 (by decide) (by decide)))
      ≠ .ok (slices 2 [1, 2, 3]) := by
  have hrun : sliceFileIntoChunks (.ok (cappedFile [1, 2, 3] 1 2 (by decide) (by decide)))
      = .ok [[1], [2], [3]] := by
    show readChunks _ 0 [1, 2, 3] = _
    rw [readChunks_succ (n := 0) rfl, readChunks_succ (n := 0) rfl, readChunks_succ (n := 0) rfl,
      readChunks_zero rfl]
    rfl
  have hslices : slices 2 [1, 2, 3] = [[1, 2], [3]] := rfl
  refine ⟨hrun, ?_⟩
  rw [hrun, hslices]
  simp

end OffchainVectorDb
