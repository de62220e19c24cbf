import ArthNeura.VectorDb.Lifecycle

set_option autoImplicit false

/-! # How the calls of `pallet-vector-db` fail

Most errors of a call are about its caller: wrong arguments, missing rights, the wrong time. The
others are about the records themselves, and `Explained` says what they assert of them. A state
in which none of these assertions holds cannot return such an error, whatever is called
(`call_explained`). -/

namespace VectorDb

open Frame

variable {AccountId Ext : Type} [DecidableEq AccountId] {cfg : Config AccountId Ext}
  {origin : Origin AccountId} {s s' : State Ext} {id : CommitmentId}
  {e : DispatchError Error cfg.EscrowError}

omit [DecidableEq AccountId] in
theorem escrowHook_error {m : EStateM cfg.EscrowError Ext Unit} {f : Unit → VectorDbM cfg Unit} :
    (escrowHook m >>= f).run s = .error e s' ↔
      (∃ e₀ x, m.run s.ext = .error e₀ x ∧ e = .callee e₀ ∧ s' = s.putExt x) ∨
      ∃ ext, m.run s.ext = .ok () ext ∧ (f ()).run (s.putExt ext) = .error e s' := by
  rw [run_bind_error]
  constructor
  · rintro (h | ⟨_, t, h, hf⟩)
    · exact Or.inl (run_zoom_error.mp h)
    · obtain ⟨ext, hm, rfl⟩ := run_zoom_ok.mp h
      exact Or.inr ⟨ext, hm, hf⟩
  · rintro (h | ⟨ext, hm, hf⟩)
    · exact Or.inl (run_zoom_error.mpr h)
    · exact Or.inr ⟨(), _, run_zoom_ok.mpr ⟨ext, hm, rfl⟩, hf⟩

/-- What an error of a call on `id` says about the records under `id`, for the errors that are
not explained by the caller's own arguments and rights. -/
def Explained (cfg : Config AccountId Ext) (s : State Ext) (id : CommitmentId) :
    DispatchError Error cfg.EscrowError → Prop
  | .module .commitmentNotFound =>
      s.storage.vectorCommitments id = none ∨
        ∃ c, s.storage.vectorCommitments id = some c ∧ c.status = .disputed ∧
          s.storage.disputeRecords id = none
  | .module .disputeAlreadyRaised =>
      ∃ c, s.storage.vectorCommitments id = some c ∧ c.status = .active ∧
        s.storage.disputeRecords id ≠ none
  | .module .chunkIndexOutOfBounds =>
      ∃ c, s.storage.vectorCommitments id = some c ∧ (c.status = .active ∨
        (c.status = .disputed ∧ ∃ d, s.storage.disputeRecords id = some d ∧
          ¬ d.disputedChunkIndex < c.totalChunks))
  | .callee e =>
      ∃ c x, s.storage.vectorCommitments id = some c ∧
        ((c.status = .pending ∧ ∃ payer payee,
            (cfg.lock id payer payee c.price).run s.ext = .error e x) ∨
          ((c.status = .active ∨ c.status = .disputed) ∧
            (cfg.release id).run s.ext = .error e x) ∨
          (c.status = .disputed ∧ (cfg.refund id).run s.ext = .error e x))
  | _ => True

theorem ensureConsumer_error {caller : AccountId} {did : Did} {f : Unit → VectorDbM cfg Unit}
    (h : (ensureConsumer caller did >>= f).run s = .error e s') :
    e = .module .consumerNotEligible ∨ e = .module .notConsumer ∨
      (f ()).run s = .error e s' := by
  simp only [ensureConsumer, bind_assoc, pure_bind, run_get_bind, run_okOr_error,
    run_ensure_error] at h
  rcases h with ⟨-, rfl, -⟩ | ⟨a, -, ⟨-, rfl, -⟩ | ⟨-, ⟨-, rfl, -⟩ | ⟨-, h⟩⟩⟩
  · exact Or.inl rfl
  · exact Or.inr (Or.inl rfl)
  · exact Or.inl rfl
  · exact Or.inr (Or.inr h)

/-- The checks on the consumer say nothing about the records. -/
theorem explained_of_ensureConsumer {caller : AccountId} {did : Did} {f : Unit → VectorDbM cfg Unit}
    (h : (ensureConsumer caller did >>= f).run s = .error e s')
    (hf : (f ()).run s = .error e s' → Explained cfg s id e) : Explained cfg s id e := by
  rcases ensureConsumer_error h with rfl | rfl | h
  · trivial
  · trivial
  · exact hf h

theorem registerCommitment_explained {providerDid consumerDid : Did} {merkleRoot : MerkleRoot}
    {totalChunks : UInt64} {metadata : BoundedVec UInt8 maxMetadataLen}
    {expiresInBlocks price : Nat}
    (h : (registerCommitment cfg origin providerDid consumerDid merkleRoot totalChunks metadata
      expiresInBlocks price).run s = .error e s') : Explained cfg s id e := by
  simp only [registerCommitment, run_get_bind, run_modify_bind, run_ensureSigned_error,
    run_okOr_error, run_ensure_error, run_modify_error, and_false, or_false] at h
  rcases h with ⟨-, rfl, -⟩ | ⟨who, -, ⟨-, rfl, -⟩ | ⟨-, ⟨-, rfl, -⟩ | ⟨-, ⟨-, rfl, -⟩ |
    ⟨-, ⟨-, rfl, -⟩ | ⟨a, -, ⟨-, rfl, -⟩ | ⟨-, ⟨-, rfl, -⟩ | ⟨-, ⟨-, rfl, -⟩ | ⟨-, ⟨-, rfl, -⟩ |
    ⟨-, ⟨-, rfl, -⟩ | ⟨-, -, rfl, -⟩⟩⟩⟩⟩⟩⟩⟩⟩⟩ <;> trivial

theorem acknowledgeCommitment_explained {consumerDid : Did}
    (h : (acknowledgeCommitment cfg origin id consumerDid).run s = .error e s') :
    Explained cfg s id e := by
  simp only [acknowledgeCommitment, run_get_bind, run_ensureSigned_error, run_okOr_error,
    run_ensure_error] at h
  rcases h with ⟨-, rfl, -⟩ | ⟨who, -, ⟨hc, rfl, -⟩ | ⟨c, hc, ⟨-, rfl, -⟩ | ⟨hst, ⟨-, rfl, -⟩ |
    ⟨-, ⟨-, rfl, -⟩ | ⟨-, h⟩⟩⟩⟩⟩
  · trivial
  · exact Or.inl hc
  · trivial
  · trivial
  · trivial
  · refine explained_of_ensureConsumer h fun h => ?_
    simp only [run_get_bind, run_okOr_error, escrowHook_error, run_modify_bind,
      run_modify_error, and_false, exists_false, or_false] at h
    rcases h with ⟨-, rfl, -⟩ | ⟨payee, -, e₀, x, hx, rfl, -⟩
    · trivial
    · exact ⟨c, x, hc, Or.inl ⟨hst, who, payee, hx⟩⟩

theorem closeCommitment_explained {consumerDid : Did} {finalStreamHash : MerkleRoot}
    {chunkCount : UInt64}
    (h : (closeCommitment cfg origin id consumerDid finalStreamHash chunkCount).run s
      = .error e s') : Explained cfg s id e := by
  simp only [closeCommitment, run_get_bind, run_ensureSigned_error, run_okOr_error,
    run_ensure_error] at h
  rcases h with ⟨-, rfl, -⟩ | ⟨who, -, ⟨hc, rfl, -⟩ | ⟨c, hc, ⟨-, rfl, -⟩ | ⟨hst, ⟨-, rfl, -⟩ |
    ⟨-, ⟨-, rfl, -⟩ | ⟨-, h⟩⟩⟩⟩⟩
  · trivial
  · exact Or.inl hc
  · trivial
  · trivial
  · trivial
  · refine explained_of_ensureConsumer h fun h => ?_
    simp only [run_ensure_error, escrowHook_error, run_modify_bind, run_modify_error,
      and_false, exists_false, or_false] at h
    rcases h with ⟨-, rfl, -⟩ | ⟨-, e₀, x, hx, rfl, -⟩
    · trivial
    · exact ⟨c, x, hc, Or.inr (Or.inl ⟨Or.inl hst, hx⟩)⟩

theorem raiseDispute_explained {consumerDid : Did} {index : ChunkIndex} {hash : Bytes32}
    (chunkCount : UInt64)
    (h : (raiseDispute cfg origin id consumerDid index hash chunkCount).run s = .error e s') :
    Explained cfg s id e := by
  simp only [raiseDispute, run_get_bind, run_ensureSigned_error, run_okOr_error,
    run_ensure_error] at h
  rcases h with ⟨-, rfl, -⟩ | ⟨who, -, ⟨hc, rfl, -⟩ | ⟨c, hc, ⟨-, rfl, -⟩ | ⟨hst, ⟨-, rfl, -⟩ |
    ⟨-, ⟨-, rfl, -⟩ | ⟨-, h⟩⟩⟩⟩⟩
  · trivial
  · exact Or.inl hc
  · trivial
  · trivial
  · trivial
  · refine explained_of_ensureConsumer h fun h => ?_
    simp only [run_get_bind, run_ensure_error, run_modify_bind, run_modify_error, and_false,
      or_false, not_not] at h
    rcases h with ⟨hd, rfl, -⟩ | ⟨-, -, rfl, -⟩
    · refine ⟨c, hc, hst, fun hnone => ?_⟩
      rw [StorageMap.containsKey_eq_false.mpr hnone] at hd
      cases hd
    · exact ⟨c, hc, Or.inl hst⟩

theorem counterDispute_explained {providerDid : Did} {chunkData : BoundedVec UInt8 maxChunkLen}
    {merkleProof : BoundedVec Bytes32 maxProofDepth}
    (h : (counterDispute cfg origin id providerDid chunkData merkleProof).run s = .error e s') :
    Explained cfg s id e := by
  simp only [counterDispute, run_get_bind, run_modify_bind, run_ensureSigned_error,
    run_okOr_error, run_ensure_error, escrowHook_error, run_modify_error, and_false,
    exists_false, or_false] at h
  rcases h with ⟨-, rfl, -⟩ | ⟨who, -, ⟨hc, rfl, -⟩ | ⟨c, hc, ⟨-, rfl, -⟩ | ⟨hst, ⟨-, rfl, -⟩ |
    ⟨-, ⟨-, rfl, -⟩ | ⟨a, -, ⟨-, rfl, -⟩ | ⟨-, ⟨-, rfl, -⟩ | ⟨-, ⟨hd, rfl, -⟩ | ⟨d, hd,
    ⟨-, rfl, -⟩ | ⟨-, ⟨hidx, rfl, -⟩ | ⟨-, ⟨-, rfl, -⟩ | ⟨-, e₀, x, hx, rfl, -⟩⟩⟩⟩⟩⟩⟩⟩⟩⟩⟩
  · trivial
  · exact Or.inl hc
  · trivial
  · trivial
  · trivial
  · trivial
  · trivial
  · exact Or.inr ⟨c, hc, hst, hd⟩
  · trivial
  · exact ⟨c, hc, Or.inr ⟨hst, d, hd, hidx⟩⟩
  · trivial
  · exact ⟨c, x, hc, Or.inr (Or.inl ⟨Or.inr hst, hx⟩)⟩

omit [DecidableEq AccountId] in
theorem finalizeDispute_explained (h : (finalizeDispute cfg origin id).run s = .error e s') :
    Explained cfg s id e := by
  simp only [finalizeDispute, run_get_bind, run_modify_bind, run_ensureSigned_error,
    run_okOr_error, run_ensure_error, escrowHook_error, run_modify_error, and_false,
    exists_false, or_false] at h
  rcases h with ⟨-, rfl, -⟩ | ⟨who, -, ⟨hc, rfl, -⟩ | ⟨c, hc, ⟨-, rfl, -⟩ | ⟨hst, ⟨hd, rfl, -⟩ |
    ⟨d, hd, ⟨-, rfl, -⟩ | ⟨-, e₀, x, hx, rfl, -⟩⟩⟩⟩⟩
  · trivial
  · exact Or.inl hc
  · trivial
  · exact Or.inr ⟨c, hc, hst, hd⟩
  · trivial
  · exact ⟨c, x, hc, Or.inr (Or.inr ⟨hst, hx⟩)⟩

omit [DecidableEq AccountId] in
theorem expireCommitment_explained (h : (expireCommitment cfg origin id).run s = .error e s') :
    Explained cfg s id e := by
  simp only [expireCommitment, run_get_bind, run_modify_bind, run_ensureSigned_error,
    run_okOr_error, run_ensure_error, run_modify_error, and_false, or_false] at h
  rcases h with ⟨-, rfl, -⟩ | ⟨who, -, ⟨hc, rfl, -⟩ | ⟨c, hc, ⟨-, rfl, -⟩ | ⟨-, -, rfl, -⟩⟩⟩
  · trivial
  · exact Or.inl hc
  · trivial
  · trivial

/-- **What an error of a call says about the records under its identifier.** -/
theorem call_explained {c : Call} (h : (c.run cfg origin).run s = .error e s') :
    Explained cfg s (c.target cfg s) e := by
  cases c with
  | registerCommitment => exact registerCommitment_explained h
  | acknowledgeCommitment => exact acknowledgeCommitment_explained h
  | closeCommitment => exact closeCommitment_explained h
  | raiseDispute _ _ _ _ chunkCount => exact raiseDispute_explained chunkCount h
  | counterDispute => exact counterDispute_explained h
  | finalizeDispute => exact finalizeDispute_explained h
  | expireCommitment => exact expireCommitment_explained h

end VectorDb
