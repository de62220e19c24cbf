import ArthNeura.OffchainVectorDb.Registrations
import Mathlib.Logic.Relation

set_option autoImplicit false

/-! # Row chunks are canonical

In the row mode a payload is cut at its line feeds, a trailing `\r` is dropped from every row, and
empty rows are skipped. What the client registers is then a function of the rows that carry data
(`outcome_rows`): payloads that differ in their line ends or in blank lines only have the same
chunks, the same root and the same call (`outcome_relined`), and only the key they are staged
under tells them apart.
-/

namespace OffchainVectorDb

open Frame

/-- The rows of a payload: what stands between line feeds, less one trailing `\r` each. -/
def rows (payload : Bytes) : List Bytes := (payload.splitOn 10).map stripCr

/-- The rows that carry data. -/
def dataRows (payload : Bytes) : List Bytes := (rows payload).filter (· ≠ [])

/-- Every line feed with a `\r` before it. -/
def toCrlf (payload : Bytes) : Bytes := payload.flatMap fun b => if b = 10 then [13, 10] else [b]

/-- One change to the lines of a payload: another line end, a blank line, a final line feed. -/
inductive Relined : Bytes → Bytes → Prop
  | crlf (payload : Bytes) (h : 13 ∉ payload) : Relined payload (toCrlf payload)
  | blankFirst (payload : Bytes) : Relined payload (10 :: payload)
  | blank (a b : Bytes) : Relined (a ++ 10 :: b) (a ++ 10 :: 10 :: b)
  | finalNewline (payload : Bytes) : Relined payload (payload ++ [10])

/-! ## Segments between line feeds -/

/-- Induction over the lines of a payload. -/
theorem line_induction {motive : Bytes → Prop} (last : ∀ a, (10 : UInt8) ∉ a → motive a)
    (line : ∀ a b, (10 : UInt8) ∉ a → motive b → motive (a ++ 10 :: b)) (payload : Bytes) :
    motive payload := by
  induction hn : payload.length using Nat.strongRecOn generalizing payload with
  | ind n ih =>
      by_cases hmem : (10 : UInt8) ∈ payload
      · obtain ⟨a, b, rfl, ha⟩ := List.eq_append_cons_of_mem hmem
        refine line a b ha (ih b.length ?_ b rfl)
        rw [← hn, List.length_append, List.length_cons]
        omega
      · exact last payload hmem

theorem newline_notMem_of_mem_splitOn (payload : Bytes) :
    ∀ line ∈ payload.splitOn 10, (10 : UInt8) ∉ line := by
  induction payload using line_induction with
  | last a ha =>
      intro line hline
      rw [List.splitOn_eq_singleton ha, List.mem_singleton] at hline
      rw [hline]
      exact ha
  | line a b ha ih =>
      intro line hline
      rw [List.splitOn_append_cons_self_of_not_mem ha, List.mem_cons] at hline
      rcases hline with rfl | hline
      · exact ha
      · exact ih line hline

/-! ## Rows -/

/-- However a payload is put together from lines, these lines give its rows. -/
theorem rows_intercalate {lines : List Bytes} (hne : lines ≠ [])
    (hfree : ∀ line ∈ lines, (10 : UInt8) ∉ line) :
    rows ([10].intercalate lines) = lines.map stripCr := by
  rw [rows, List.splitOn_intercalate 10 hfree hne]

theorem rows_append (a b : Bytes) : rows (a ++ 10 :: b) = rows a ++ rows b := by
  rw [rows, List.splitOn_append_cons_self, List.map_append, ← rows, ← rows]

theorem rows_of_notMem {a : Bytes} (h : (10 : UInt8) ∉ a) : rows a = [stripCr a] := by
  rw [rows, List.splitOn_eq_singleton h, List.map_singleton]

theorem stripCr_append (line : Bytes) : stripCr (line ++ [13]) = line := by
  rw [stripCr, if_pos List.getLast?_concat, List.dropLast_concat]

theorem stripCr_of_notMem {line : Bytes} (h : (13 : UInt8) ∉ line) : stripCr line = line :=
  if_neg fun hlast => h (List.mem_of_getLast? hlast)

theorem stripCr_sublist (line : Bytes) : (stripCr line).Sublist line := by
  rw [stripCr]
  split
  · exact List.dropLast_sublist line
  · exact List.Sublist.refl line

theorem newline_notMem_of_mem_rows {payload row : Bytes} (h : row ∈ rows payload) :
    (10 : UInt8) ∉ row := by
  obtain ⟨line, hline, rfl⟩ := List.mem_map.mp h
  exact fun hmem => newline_notMem_of_mem_splitOn payload line hline
    ((stripCr_sublist line).subset hmem)

theorem toCrlf_of_notMem {a : Bytes} (h : (10 : UInt8) ∉ a) : toCrlf a = a := by
  induction a with
  | nil => rfl
  | cons b a ih =>
      rw [List.mem_cons, not_or] at h
      rw [toCrlf, List.flatMap_cons, if_neg (Ne.symm h.1), ← toCrlf, ih h.2]
      rfl

theorem toCrlf_append {a : Bytes} (h : (10 : UInt8) ∉ a) (b : Bytes) :
    toCrlf (a ++ 10 :: b) = (a ++ [13]) ++ 10 :: toCrlf b := by
  rw [toCrlf, List.flatMap_append, List.flatMap_cons, ← toCrlf, ← toCrlf, toCrlf_of_notMem h]
  simp

/-- A `\r` before the line feeds is dropped again. -/
theorem rows_toCrlf (payload : Bytes) (h : (13 : UInt8) ∉ payload) :
    rows (toCrlf payload) = rows payload := by
  induction payload using line_induction with
  | last a ha => rw [toCrlf_of_notMem ha]
  | line a b ha ih =>
      simp only [List.mem_append, List.mem_cons, not_or] at h
      have ha' : (10 : UInt8) ∉ a ++ [13] := by simpa using ha
      rw [toCrlf_append ha, rows_append, rows_append, ih h.2.2, rows_of_notMem ha',
        rows_of_notMem ha, stripCr_append, stripCr_of_notMem h.1]

theorem dataRows_append (a b : Bytes) : dataRows (a ++ 10 :: b) = dataRows a ++ dataRows b := by
  rw [dataRows, rows_append, List.filter_append, ← dataRows, ← dataRows]

theorem dataRows_nil : dataRows [] = [] := by decide

theorem dataRows_relined {payload payload' : Bytes} (h : Relined payload payload') :
    dataRows payload' = dataRows payload := by
  have hblank : ∀ b, dataRows (10 :: b) = dataRows b := by
    intro b
    have hsplit := dataRows_append [] b
    rwa [dataRows_nil] at hsplit
  cases h with
  | crlf _ hcr => rw [dataRows, rows_toCrlf payload hcr, ← dataRows]
  | blankFirst => exact hblank payload
  | blank a b => rw [dataRows_append, dataRows_append, hblank]
  | finalNewline => rw [dataRows_append, dataRows_nil, List.append_nil]

theorem dataRows_eqvGen {payload payload' : Bytes}
    (h : Relation.EqvGen Relined payload payload') : dataRows payload' = dataRows payload := by
  induction h with
  | rel p q hpq => exact dataRows_relined hpq
  | refl p => rfl
  | symm p q _ ih => exact ih.symm
  | trans p q r _ _ hpq hqr => exact hqr.trans hpq

/-! ## The loop over the rows -/

theorem rowChunks_eq (lines : List Bytes) :
    rowChunks lines =
      if (lines.map stripCr).any (fun row => maxChunkLen < row.length) then .error .emptyPayload
      else .ok ((lines.map stripCr).filter (· ≠ [])) := by
  induction lines with
  | nil => rfl
  | cons line lines ih =>
      rw [rowChunks, ih]
      -- the order of the tests: an empty row is skipped, then the length is tested
      by_cases hempty : stripCr line = []
      · simp [hempty]
      · by_cases hlong : maxChunkLen < (stripCr line).length
        · simp [hempty, hlong]
        · simp only [List.isEmpty_iff, hempty, if_false, hlong, List.map_cons, List.any_cons,
            decide_false, Bool.false_or, ne_eq, not_false_eq_true, decide_true,
            List.filter_cons_of_pos]
          split <;> rfl

/-- The rows cannot be registered: there are none, or one of them is too long. -/
def Unfit (chunks : List Bytes) : Prop := chunks = [] ∨ ∃ row ∈ chunks, maxChunkLen < row.length

instance (chunks : List Bytes) : Decidable (Unfit chunks) :=
  inferInstanceAs (Decidable (_ ∨ _))

theorem unfit_of_eq_nil {chunks : List Bytes} (h : chunks = []) : Unfit chunks := Or.inl h

theorem mem_dataRows {payload row : Bytes} :
    row ∈ dataRows payload ↔ row ∈ rows payload ∧ row ≠ [] := by
  rw [dataRows, List.mem_filter, decide_eq_true_iff]

theorem unfit_dataRows (payload : Bytes) : Unfit (dataRows payload) ↔
    (∀ row ∈ rows payload, row = []) ∨ ∃ row ∈ rows payload, maxChunkLen < row.length := by
  have hnone : dataRows payload = [] ↔ ∀ row ∈ rows payload, row = [] := by
    rw [dataRows, List.filter_eq_nil_iff]
    simp
  have hlong : (∃ row ∈ dataRows payload, maxChunkLen < row.length) ↔
      ∃ row ∈ rows payload, maxChunkLen < row.length := by
    constructor
    · rintro ⟨row, hrow, hlen⟩
      exact ⟨row, (mem_dataRows.mp hrow).1, hlen⟩
    · rintro ⟨row, hrow, hlen⟩
      refine ⟨row, mem_dataRows.mpr ⟨hrow, ?_⟩, hlen⟩
      rintro rfl
      exact absurd hlen (Nat.not_lt_zero _)
  rw [Unfit, hnone, hlong]

theorem chunkPayload_rows (payload : Bytes) (hne : payload ≠ []) :
    chunkPayload .rows payload hne =
      if h : Unfit (dataRows payload) then .error .emptyPayload
      else .ok ⟨dataRows payload, fun hnil => h (unfit_of_eq_nil hnil)⟩ := by
  have hany : (rows payload).any (fun row => maxChunkLen < row.length) = true ↔
      ∃ row ∈ rows payload, maxChunkLen < row.length := by
    simp
  have hloop := rowChunks_eq (payload.splitOn 10)
  rw [← rows, ← dataRows] at hloop
  rw [chunkPayload, hloop]
  by_cases hlong : ∃ row ∈ rows payload, maxChunkLen < row.length
  · rw [if_pos (hany.mpr hlong), dif_pos ((unfit_dataRows payload).mpr (Or.inr hlong))]
    rfl
  · rw [if_neg (fun h => hlong (hany.mp h))]
    by_cases hnil : dataRows payload = []
    · rw [dif_pos (unfit_of_eq_nil hnil)]
      exact dif_pos hnil
    · have hfit : ¬ Unfit (dataRows payload) := by
        rintro (h | h)
        · exact hnil h
        · obtain ⟨row, hrow, hlen⟩ := h
          exact hlong ⟨row, (mem_dataRows.mp hrow).1, hlen⟩
      rw [dif_neg hfit]
      exact dif_neg hnil

/-! ## What is registered -/

section

variable (lib : Merkle.RsMerkle Bytes32) (blake2_256 : Bytes → Bytes32)

/-- What the preparation ends in, up to the staging key: the chunks and the call. -/
def outcome (req : Request) : Except RegisterCommitmentError (List Bytes × VectorDb.Call) :=
  (prepare lib blake2_256 req).map fun p => (p.chunks, p.tx)

/-- The outcome for the rows that carry data. -/
def rowsOutcome (req : Request) (chunks : List Bytes) :
    Except RegisterCommitmentError (List Bytes × VectorDb.Call) :=
  if hmeta : req.metadata.length ≤ maxMetadataLen then
    if h : Unfit chunks then .error .emptyPayload
    else
      .ok (chunks, .registerCommitment req.providerDid req.consumerDid
        (merkleRoot lib blake2_256 chunks fun hnil => h (unfit_of_eq_nil hnil))
        (UInt64.ofNat chunks.length) ⟨req.metadata, hmeta⟩ req.expiresInBlocks req.price)
  else .error (.metadataTooLarge req.metadata.length maxMetadataLen)

variable {lib blake2_256}

theorem outcome_rows {req : Request} (hmode : req.mode = .rows) :
    outcome lib blake2_256 req = rowsOutcome lib blake2_256 req (dataRows req.payload) := by
  rw [outcome, prepare, rowsOutcome]
  by_cases hmeta : req.metadata.length ≤ maxMetadataLen
  · rw [dif_neg (Nat.not_lt.mpr hmeta), dif_pos hmeta]
    by_cases hne : req.payload = []
    · have hnil : dataRows req.payload = [] := by rw [hne, dataRows_nil]
      rw [dif_pos hne, dif_pos (unfit_of_eq_nil hnil)]
      rfl
    · rw [dif_neg hne]
      simp only [hmode, chunkPayload_rows]
      by_cases hfit : Unfit (dataRows req.payload)
      · rw [dif_pos hfit, dif_pos hfit]
        rfl
      · rw [dif_neg hfit, dif_neg hfit]
        rfl
  · rw [dif_pos (Nat.lt_of_not_le hmeta), dif_neg hmeta]
    rfl

/-- The outcome does not depend on line ends and blank lines. -/
theorem outcome_relined {req : Request} (hmode : req.mode = .rows) {payload : Bytes}
    (h : Relation.EqvGen Relined req.payload payload) :
    outcome lib blake2_256 { req with payload := payload } = outcome lib blake2_256 req := by
  rw [outcome_rows hmode, outcome_rows (show Request.mode { req with payload := payload } = .rows
    from hmode)]
  show rowsOutcome lib blake2_256 req (dataRows payload) = _
  rw [dataRows_eqvGen h]

theorem prepare_rows_ok {req : Request} (hmode : req.mode = .rows) {p : Prepared}
    (h : prepare lib blake2_256 req = .ok p) :
    p.chunks = dataRows req.payload ∧ ¬ Unfit (dataRows req.payload) := by
  have hout : outcome lib blake2_256 req = .ok (p.chunks, p.tx) := by
    rw [outcome, h]
    rfl
  rw [outcome_rows hmode, rowsOutcome] at hout
  split at hout
  · split at hout
    · cases hout
    · next hfit =>
        injection hout with hpair
        injection hpair with hchunks _
        exact ⟨hchunks.symm, hfit⟩
  · cases hout

theorem prepare_rows_error_iff {req : Request} (hmode : req.mode = .rows)
    (hmeta : req.metadata.length ≤ maxMetadataLen) :
    (∃ e, prepare lib blake2_256 req = .error e) ↔ Unfit (dataRows req.payload) := by
  constructor
  · rintro ⟨e, he⟩
    by_contra hfit
    have hout : outcome lib blake2_256 req = rowsOutcome lib blake2_256 req
        (dataRows req.payload) := outcome_rows hmode
    rw [outcome, he, rowsOutcome, dif_pos hmeta, dif_neg hfit] at hout
    cases hout
  · intro hunfit
    cases h : prepare lib blake2_256 req with
    | error e => exact ⟨e, rfl⟩
    | ok p => exact absurd hunfit (prepare_rows_ok hmode h).2

/-- A registration whose preparation fails gives up with the store as it was. -/
theorem step_persist_of_error {requests : Nat → Request} {s : State} {r : Nat}
    {e : RegisterCommitmentError} (h : prepare lib blake2_256 (requests r) = .error e)
    (hidle : s.phase r = .idle) (written : Option (List Bytes)) :
    step lib blake2_256 requests s (.persist r written) = s.advance r s.store .failed := by
  rw [step]
  simp only [hidle, h]

end

/-- **Chunking is canonical and within the bounds of the chain.** The rows are the lines of the
payload, less a trailing `\r`. In the row mode, the client gives up before it touches the store or
the chain exactly if no row carries data or a row is too long; else the chunks are the rows that
carry data. Other line ends, blank lines and a final line feed change nothing. In the byte mode the
chunks are the payload, cut into pieces. -/
theorem chunking_canonical (lib : Merkle.RsMerkle Bytes32) (blake2_256 : Bytes → Bytes32)
    (req : Request) :
    (∀ lines, lines ≠ [] → (∀ line ∈ lines, (10 : UInt8) ∉ line) →
      [10].intercalate lines = req.payload → rows req.payload = lines.map stripCr) ∧
    (req.mode = .rows → req.metadata.length ≤ maxMetadataLen →
      ((∃ e, prepare lib blake2_256 req = .error e) ↔
        (∀ row ∈ rows req.payload, row = []) ∨
          ∃ row ∈ rows req.payload, VectorDb.maxChunkLen < row.length) ∧
      (∀ p, prepare lib blake2_256 req = .ok p →
        p.chunks = (rows req.payload).filter (· ≠ []) ∧
        ∀ chunk ∈ p.chunks, 1 ≤ chunk.length ∧ chunk.length ≤ VectorDb.maxChunkLen ∧
          (10 : UInt8) ∉ chunk)) ∧
    (∀ e, prepare lib blake2_256 req = .error e →
      ∀ requests s r written, requests r = req → s.phase r = .idle →
        step lib blake2_256 requests s (.persist r written) = s.advance r s.store .failed) ∧
    (req.mode = .rows → ∀ payload, Relation.EqvGen Relined req.payload payload →
      outcome lib blake2_256 { req with payload := payload } = outcome lib blake2_256 req) ∧
    (req.mode = .bytes → ∀ p, prepare lib blake2_256 req = .ok p →
      p.chunks.flatten = req.payload ∧
      ∀ chunk ∈ p.chunks, 1 ≤ chunk.length ∧ chunk.length ≤ VectorDb.maxChunkLen) := by
  refine ⟨fun lines hne hfree hjoin => ?_, fun hmode hmeta => ⟨?_, fun p hp => ?_⟩, ?_,
    fun hmode payload h => ?_, fun hmode p hp => ?_⟩
  · rw [← hjoin]
    exact rows_intercalate hne hfree
  · rw [prepare_rows_error_iff hmode hmeta, unfit_dataRows]
    rfl
  · obtain ⟨hchunks, hfit⟩ := prepare_rows_ok hmode hp
    refine ⟨hchunks, fun chunk hchunk => ?_⟩
    rw [hchunks] at hchunk
    obtain ⟨hrow, hne⟩ := mem_dataRows.mp hchunk
    refine ⟨List.length_pos_iff.mpr hne, ?_, newline_notMem_of_mem_rows hrow⟩
    by_contra hlong
    exact hfit (Or.inr ⟨chunk, hchunk, Nat.lt_of_not_le hlong⟩)
  · intro e he requests s r written hreq hidle
    subst hreq
    exact step_persist_of_error he hidle written
  · exact outcome_relined hmode h
  · have hpos : 0 < maxChunkLen := by decide
    rw [prepare_bytes_ok hmode hp]
    exact ⟨flatten_slices hpos req.payload, length_of_mem_slices hpos req.payload⟩

end OffchainVectorDb
