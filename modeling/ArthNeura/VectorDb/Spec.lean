import ArthNeura.VectorDb.Pallet

set_option autoImplicit false

/-! # What the calls of `pallet-vector-db` do

One lemma for each call: the guards it passes and the state it commits. `Authorized` is the
check that the caller controls an active and verified agent.
-/

namespace VectorDb

open Frame

variable {AccountId Ext : Type} [DecidableEq AccountId] {cfg : Config AccountId Ext}

theorem asUsize_of_lt {n : UInt64} (h : n.toNat < 2 ^ 32) : asUsize n = n.toNat :=
  Nat.mod_eq_of_lt h

/-- `caller` controls `did`, and `did` is active and verified. -/
def Authorized (cfg : Config AccountId Ext) (ext : Ext) (caller : AccountId) (did : Did) : Prop :=
  cfg.controllerOf ext did = some caller ∧ cfg.isActiveVerified ext did = true

variable {origin : Origin AccountId} {s s' : State Ext} {u : Unit} {id : CommitmentId}

omit [DecidableEq AccountId] in
theorem escrowHook_ok {m : EStateM cfg.EscrowError Ext Unit} {f : Unit → VectorDbM cfg Unit} :
    (escrowHook m >>= f).run s = .ok u s' ↔
      ∃ ext, m.run s.ext = .ok () ext ∧ (f ()).run (s.putExt ext) = .ok u s' := by
  rw [run_bind_ok]
  constructor
  · rintro ⟨_, t, h, hf⟩
    obtain ⟨ext, hm, rfl⟩ := run_zoom_ok.mp h
    exact ⟨ext, hm, hf⟩
  · rintro ⟨ext, hm, hf⟩
    exact ⟨(), _, run_zoom_ok.mpr ⟨ext, hm, rfl⟩, hf⟩

theorem ensureConsumer_ok {caller : AccountId} {did : Did} {f : Unit → VectorDbM cfg Unit} :
    (ensureConsumer caller did >>= f).run s = .ok u s' ↔
      Authorized cfg s.ext caller did ∧ (f ()).run s = .ok u s' := by
  simp only [ensureConsumer, bind_assoc, pure_bind, run_get_bind, run_okOr_ok, run_ensure_ok]
  constructor
  · rintro ⟨a, ha, rfl, hv, hf⟩
    exact ⟨⟨ha, hv⟩, hf⟩
  · rintro ⟨⟨ha, hv⟩, hf⟩
    exact ⟨caller, ha, rfl, hv, hf⟩

theorem registerCommitment_ok {providerDid consumerDid : Did} {merkleRoot : MerkleRoot}
    {totalChunks : UInt64} {metadata : BoundedVec UInt8 maxMetadataLen}
    {expiresInBlocks price : Nat} :
    (registerCommitment cfg origin providerDid consumerDid merkleRoot totalChunks
        metadata expiresInBlocks price).run s = .ok u s' ↔
      ∃ caller, origin = .signed caller ∧
      providerDid ≠ consumerDid ∧ 0 < totalChunks ∧ merkleRoot ≠ List.Vector.replicate 32 0 ∧
      Authorized cfg s.ext caller providerDid ∧
      cfg.isActiveVerified s.ext consumerDid = true ∧
      0 < expiresInBlocks ∧ expiresInBlocks ≤ cfg.maxCommitmentLifetime ∧
      s.storage.vectorCommitments (cfg.blake2_256 (commitmentPreimage providerDid consumerDid
        merkleRoot (cfg.blockNumber s.ext))) = none ∧
      s' = ((s.insertCommitment (cfg.blake2_256 (commitmentPreimage providerDid consumerDid
          merkleRoot (cfg.blockNumber s.ext)))
        { commitmentId := cfg.blake2_256 (commitmentPreimage providerDid consumerDid merkleRoot
            (cfg.blockNumber s.ext))
          provider := providerDid, consumer := consumerDid, merkleRoot := merkleRoot,
          totalChunks := totalChunks, metadata := metadata, status := .pending,
          createdAt := cfg.blockNumber s.ext,
          expiresAt := satAdd (cfg.blockNumber s.ext) expiresInBlocks,
          acknowledgedAt := none, price := price }).mutateActiveCommitmentCount
            (satAdd · 1)).depositEvent
        (.commitmentRegistered (cfg.blake2_256 (commitmentPreimage providerDid consumerDid
            merkleRoot (cfg.blockNumber s.ext))) providerDid consumerDid merkleRoot totalChunks
          (satAdd (cfg.blockNumber s.ext) expiresInBlocks) metadata) := by
  simp only [registerCommitment, run_ensureSigned_ok, run_get_bind, run_modify_bind,
    run_ensure_ok, run_okOr_ok, run_modify_ok, Bool.not_eq_true,
    StorageMap.containsKey_eq_false]
  constructor
  · rintro ⟨caller, ho, hne, hpos, hroot, a, ha, rfl, hv, hcons, he, hmax, hnone, rfl⟩
    exact ⟨a, ho, hne, hpos, hroot, ⟨ha, hv⟩, hcons, he, hmax, hnone, rfl⟩
  · rintro ⟨caller, ho, hne, hpos, hroot, ⟨ha, hv⟩, hcons, he, hmax, hnone, rfl⟩
    exact ⟨caller, ho, hne, hpos, hroot, caller, ha, rfl, hv, hcons, he, hmax, hnone, rfl⟩

theorem acknowledgeCommitment_ok {consumerDid : Did} :
    (acknowledgeCommitment cfg origin id consumerDid).run s = .ok u s' ↔
      ∃ caller, origin = .signed caller ∧
      ∃ c, s.storage.vectorCommitments id = some c ∧ c.status = .pending ∧
      cfg.blockNumber s.ext < c.expiresAt ∧ c.consumer = consumerDid ∧
      Authorized cfg s.ext caller consumerDid ∧
      ∃ providerController, cfg.controllerOf s.ext c.provider = some providerController ∧
      ∃ ext, (cfg.lock id caller providerController c.price).run s.ext = .ok () ext ∧
      s' = ((s.putExt ext).insertCommitment id
        { c with status := .active,
                 acknowledgedAt := some (cfg.blockNumber s.ext) }).depositEvent
          (.commitmentAcknowledged id (cfg.blockNumber s.ext)) := by
  simp only [acknowledgeCommitment, run_ensureSigned_ok, run_get_bind, run_modify_bind,
    run_ensure_ok, run_okOr_ok, run_modify_ok, ensureConsumer_ok, escrowHook_ok]

theorem closeCommitment_ok {consumerDid : Did} {finalStreamHash : MerkleRoot}
    {chunkCount : UInt64} :
    (closeCommitment cfg origin id consumerDid finalStreamHash chunkCount).run s
        = .ok u s' ↔
      ∃ caller, origin = .signed caller ∧
      ∃ c, s.storage.vectorCommitments id = some c ∧ c.status = .active ∧
      cfg.blockNumber s.ext < c.expiresAt ∧ c.consumer = consumerDid ∧
      Authorized cfg s.ext caller consumerDid ∧ finalStreamHash = c.merkleRoot ∧
      ∃ ext, (cfg.release id).run s.ext = .ok () ext ∧
      s' = ((((s.insertReceipt id
          { commitmentId := id, finalStreamHash := finalStreamHash, chunkCount := chunkCount,
            submittedAt := cfg.blockNumber s.ext }).insertCommitment id
          { c with status := .settled }).mutateActiveCommitmentCount (· - 1)).putExt
            ext).depositEvent (.commitmentSettled id finalStreamHash chunkCount) := by
  simp only [closeCommitment, run_ensureSigned_ok, run_get_bind, run_modify_bind,
    run_ensure_ok, run_okOr_ok, run_modify_ok, ensureConsumer_ok, escrowHook_ok]
  rfl

theorem raiseDispute_ok {consumerDid : Did} {disputedChunkIndex : ChunkIndex}
    {receivedChunkHash : Bytes32} (chunkCount : UInt64) :
    (raiseDispute cfg origin id consumerDid disputedChunkIndex receivedChunkHash
        chunkCount).run s = .ok u s' ↔
      ∃ caller, origin = .signed caller ∧
      ∃ c, s.storage.vectorCommitments id = some c ∧ c.status = .active ∧
      c.consumer = consumerDid ∧ cfg.blockNumber s.ext < c.expiresAt ∧
      Authorized cfg s.ext caller consumerDid ∧ s.storage.disputeRecords id = none ∧
      disputedChunkIndex < c.totalChunks ∧
      s' = ((s.insertDispute id
          { commitmentId := id, merkleRoot := c.merkleRoot,
            receivedChunkHash := receivedChunkHash, disputedChunkIndex := disputedChunkIndex,
            raisedAt := cfg.blockNumber s.ext,
            counterDeadline := satAdd (cfg.blockNumber s.ext)
              (effectiveDisputeWindow cfg s.storage),
            verdict := none }).insertCommitment id { c with status := .disputed }).depositEvent
          (.disputeRaised id c.merkleRoot disputedChunkIndex receivedChunkHash
            (satAdd (cfg.blockNumber s.ext) (effectiveDisputeWindow cfg s.storage))) := by
  simp only [raiseDispute, run_ensureSigned_ok, run_get_bind, run_modify_bind, run_ensure_ok,
    run_okOr_ok, run_modify_ok, ensureConsumer_ok, Bool.not_eq_true,
    StorageMap.containsKey_eq_false]

theorem counterDispute_ok {providerDid : Did} {chunkData : BoundedVec UInt8 maxChunkLen}
    {merkleProof : BoundedVec Bytes32 maxProofDepth} :
    (counterDispute cfg origin id providerDid chunkData merkleProof).run s
        = .ok u s' ↔
      ∃ caller, origin = .signed caller ∧
      ∃ c, s.storage.vectorCommitments id = some c ∧ c.status = .disputed ∧
      c.provider = providerDid ∧ Authorized cfg s.ext caller providerDid ∧
      ∃ d, s.storage.disputeRecords id = some d ∧
      cfg.blockNumber s.ext ≤ d.counterDeadline ∧ d.disputedChunkIndex < c.totalChunks ∧
      proofVerifies cfg c d chunkData.val merkleProof.val = true ∧
      ∃ ext, (cfg.release id).run s.ext = .ok () ext ∧
      s' = ((((s.insertDispute id
          { d with verdict := some .claimantUnsubstantiated }).insertCommitment id
          { c with status := .disputeResolved }).mutateActiveCommitmentCount (· - 1)).putExt
            (cfg.penalizeFalseDisputer c.consumer ext)).depositEvent
              (.disputeCountered id .claimantUnsubstantiated) := by
  simp only [counterDispute, run_ensureSigned_ok, run_get_bind, run_modify_bind, run_ensure_ok,
    run_okOr_ok, run_modify_ok, escrowHook_ok]
  constructor
  · rintro ⟨caller, ho, c, hc, hst, hp, a, ha, rfl, hv, d, hd, hdl, hidx, hproof, ext, hext, rfl⟩
    exact ⟨a, ho, c, hc, hst, hp, ⟨ha, hv⟩, d, hd, hdl, hidx, hproof, ext, hext, rfl⟩
  · rintro ⟨caller, ho, c, hc, hst, hp, ⟨ha, hv⟩, d, hd, hdl, hidx, hproof, ext, hext, rfl⟩
    exact ⟨caller, ho, c, hc, hst, hp, caller, ha, rfl, hv, d, hd, hdl, hidx, hproof, ext, hext,
      rfl⟩

omit [DecidableEq AccountId] in
theorem finalizeDispute_ok :
    (finalizeDispute cfg origin id).run s = .ok u s' ↔
      ∃ caller, origin = .signed caller ∧
      ∃ c, s.storage.vectorCommitments id = some c ∧ c.status = .disputed ∧
      ∃ d, s.storage.disputeRecords id = some d ∧
      cfg.blockNumber s.ext > d.counterDeadline ∧
      ∃ ext, (cfg.refund id).run s.ext = .ok () ext ∧
      s' = ((((s.insertDispute id
          { d with verdict := some .providerGuilty }).insertCommitment id
          { c with status := .disputeResolved }).mutateActiveCommitmentCount (· - 1)).putExt
            (cfg.penalizeProvider c.provider ext)).depositEvent
              (.disputeFinalized id .providerGuilty c.provider c.consumer) := by
  simp only [finalizeDispute, run_ensureSigned_ok, run_get_bind, run_modify_bind, run_ensure_ok,
    run_okOr_ok, run_modify_ok, escrowHook_ok]
  rfl

omit [DecidableEq AccountId] in
theorem expireCommitment_ok :
    (expireCommitment cfg origin id).run s = .ok u s' ↔
      ∃ caller, origin = .signed caller ∧
      ∃ c, s.storage.vectorCommitments id = some c ∧
      (c.status = .pending ∨ c.status = .active) ∧ cfg.blockNumber s.ext ≥ c.expiresAt ∧
      s' = ((s.removeCommitment id).mutateActiveCommitmentCount (· - 1)).depositEvent
        (.commitmentExpired id) := by
  simp only [expireCommitment, run_ensureSigned_ok, run_get_bind, run_modify_bind,
    run_ensure_ok, run_okOr_ok, run_modify_ok]

/-! ## Identifiers -/

/-- The preimage of an identifier determines what it was made of. -/
theorem commitmentPreimage_inj {p p' c c' : Did} {r r' : MerkleRoot} {b b' : Nat}
    (hb : b ≤ u32Max) (hb' : b' ≤ u32Max)
    (h : commitmentPreimage p c r b = commitmentPreimage p' c' r' b') :
    p = p' ∧ c = c' ∧ r = r' ∧ b = b' := by
  simp only [commitmentPreimage, List.append_assoc, List.append_cancel_left_eq] at h
  obtain ⟨hp, h⟩ := List.append_inj h (by simp)
  obtain ⟨hc, h⟩ := List.append_inj h (by simp)
  obtain ⟨hr, h⟩ := List.append_inj h (by simp)
  exact ⟨List.Vector.toList_injective hp, List.Vector.toList_injective hc,
    List.Vector.toList_injective hr,
    encodeU32_inj (Nat.lt_succ_of_le hb) (Nat.lt_succ_of_le hb') h⟩

end VectorDb
