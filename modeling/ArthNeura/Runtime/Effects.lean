import ArthNeura.Runtime.Composition

set_option autoImplicit false

/-! # What a step of the runtime does

`CallEffect` says once what a successful call of `pallet-vector-db` has checked and what it has
done, the escrow and the reputation hooks included, in terms of the records under its identifier
and of the rest of the runtime. All other steps leave the records of both pallets alone
(`Passive`). The invariants of the runtime are derived from `step_effect`. -/

namespace Runtime

open Frame VectorDb

variable {AccountId : Type} [DecidableEq AccountId] {cfg : Config AccountId}

/-- The commitment that `register_commitment` stores. -/
def newCommitment (s : State cfg) (provider consumer : Did) (merkleRoot : MerkleRoot)
    (totalChunks : UInt64) (metadata : BoundedVec UInt8 maxMetadataLen)
    (expiresInBlocks price : Nat) : VectorCommitment where
  commitmentId :=
    cfg.registry.blake2_256 (commitmentPreimage provider consumer merkleRoot (now s))
  provider := provider
  consumer := consumer
  merkleRoot := merkleRoot
  totalChunks := totalChunks
  metadata := metadata
  status := .pending
  createdAt := now s
  expiresAt := satAdd (now s) expiresInBlocks
  acknowledgedAt := none
  price := price

/-- The entry of a state from its parts. -/
theorem entry_eq {s : State cfg} {id : CommitmentId} {c : Option VectorCommitment}
    {d : Option DisputeRecord} {r : Option StreamReceipt} (h : s.records id = ⟨c, d, r⟩) :
    entry s id = ⟨c, d, r, s.ext.escrow.escrows id⟩ := by
  rw [VectorDb.State.records, Records.mk.injEq] at h
  obtain ⟨h1, h2, h3⟩ := h
  rw [entry, h1, h2, h3]

/-- A successful call of `pallet-vector-db`, from `s` to `s'`. -/
inductive CallEffect (s s' : State cfg) (origin : Origin AccountId) : VectorDb.Call → Prop
  | register {who : AccountId} {provider consumer : Did} {merkleRoot : MerkleRoot}
      {totalChunks : UInt64} {metadata : BoundedVec UInt8 maxMetadataLen}
      {expiresInBlocks price : Nat} {c : VectorCommitment}
      (ho : origin = .signed who) (hself : provider ≠ consumer) (htotal : 0 < totalChunks)
      (hroot : merkleRoot ≠ List.Vector.replicate 32 0)
      (hauth : Authorized cfg.vectorDb s.ext who provider)
      (hconsumer : cfg.vectorDb.isActiveVerified s.ext consumer = true)
      (hexpires : 0 < expiresInBlocks) (hmax : expiresInBlocks ≤ cfg.maxCommitmentLifetime)
      (hc : c = newCommitment s provider consumer merkleRoot totalChunks metadata
        expiresInBlocks price)
      (hnone : s.storage.vectorCommitments c.commitmentId = none)
      (hrec : s'.records c.commitmentId = ⟨some c, s.storage.disputeRecords c.commitmentId,
        s.storage.streamReceipts c.commitmentId⟩)
      (hext : s'.ext = s.ext) :
      CallEffect s s' origin (.registerCommitment provider consumer merkleRoot totalChunks
        metadata expiresInBlocks price)
  | acknowledge {id : CommitmentId} {did : Did} {who payee : AccountId} {c : VectorCommitment}
      {ledger : cfg.currency.Ledger}
      (ho : origin = .signed who) (hc : s.storage.vectorCommitments id = some c)
      (hst : c.status = .pending) (hnow : now s < c.expiresAt) (hdid : c.consumer = did)
      (hauth : Authorized cfg.vectorDb s.ext who did)
      (hpayee : cfg.vectorDb.controllerOf s.ext c.provider = some payee)
      (hfree : s.ext.escrow.escrows id = none)
      (hledger : cfg.currency.reserve who c.price s.ext.ledger = some ledger)
      (hrec : s'.records id =
        ⟨some { c with status := .active, acknowledgedAt := some (now s) },
          s.storage.disputeRecords id, s.storage.streamReceipts id⟩)
      (hext : s'.ext = s.ext.locked id who payee c.price ledger) :
      CallEffect s s' origin (.acknowledgeCommitment id did)
  | close {id : CommitmentId} {did : Did} {finalStreamHash : MerkleRoot} {chunkCount : UInt64}
      {who : AccountId} {c : VectorCommitment} {record : Escrow.EscrowRecord AccountId}
      {r : cfg.currency.Ledger × Nat}
      (ho : origin = .signed who) (hc : s.storage.vectorCommitments id = some c)
      (hst : c.status = .active) (hnow : now s < c.expiresAt) (hdid : c.consumer = did)
      (hauth : Authorized cfg.vectorDb s.ext who did) (hhash : finalStreamHash = c.merkleRoot)
      (hescrow : s.ext.escrow.escrows id = some record) (hlocked : record.status = .locked)
      (hr : cfg.currency.repatriateReserved record.payer record.payee record.amount s.ext.ledger
        = .ok r)
      (hrec : s'.records id = ⟨some { c with status := .settled }, s.storage.disputeRecords id,
        some ⟨id, finalStreamHash, chunkCount, now s⟩⟩)
      (hext : s'.ext = s.ext.released id record r.1) :
      CallEffect s s' origin (.closeCommitment id did finalStreamHash chunkCount)
  | raise {id : CommitmentId} {did : Did} {index : ChunkIndex} {hash : Bytes32}
      {chunkCount : UInt64} {who : AccountId} {c : VectorCommitment}
      (ho : origin = .signed who) (hc : s.storage.vectorCommitments id = some c)
      (hst : c.status = .active) (hdid : c.consumer = did) (hnow : now s < c.expiresAt)
      (hauth : Authorized cfg.vectorDb s.ext who did)
      (hnone : s.storage.disputeRecords id = none) (hindex : index < c.totalChunks)
      (hrec : s'.records id = ⟨some { c with status := .disputed },
        some ⟨id, c.merkleRoot, hash, index, now s,
          satAdd (now s) (effectiveDisputeWindow cfg.vectorDb s.storage), none⟩,
        s.storage.streamReceipts id⟩)
      (hext : s'.ext = s.ext) :
      CallEffect s s' origin (.raiseDispute id did index hash chunkCount)
  | counter {id : CommitmentId} {did : Did} {chunkData : BoundedVec UInt8 maxChunkLen}
      {merkleProof : BoundedVec Bytes32 maxProofDepth} {who : AccountId} {c : VectorCommitment}
      {d : DisputeRecord} {record : Escrow.EscrowRecord AccountId} {r : cfg.currency.Ledger × Nat}
      (ho : origin = .signed who) (hc : s.storage.vectorCommitments id = some c)
      (hst : c.status = .disputed) (hdid : c.provider = did)
      (hauth : Authorized cfg.vectorDb s.ext who did)
      (hd : s.storage.disputeRecords id = some d) (hdeadline : now s ≤ d.counterDeadline)
      (hindex : d.disputedChunkIndex < c.totalChunks)
      (hproof : proofVerifies cfg.vectorDb c d chunkData.val merkleProof.val = true)
      (hescrow : s.ext.escrow.escrows id = some record) (hlocked : record.status = .locked)
      (hr : cfg.currency.repatriateReserved record.payer record.payee record.amount s.ext.ledger
        = .ok r)
      (hrec : s'.records id = ⟨some { c with status := .disputeResolved },
        some { d with verdict := some .claimantUnsubstantiated }, s.storage.streamReceipts id⟩)
      (hext : s'.ext = ReputationHandlerAdapter.penalizeFalseDisputer c.consumer
        (s.ext.released id record r.1)) :
      CallEffect s s' origin (.counterDispute id did chunkData merkleProof)
  | finalize {id : CommitmentId} {who : AccountId} {c : VectorCommitment} {d : DisputeRecord}
      {record : Escrow.EscrowRecord AccountId}
      (ho : origin = .signed who) (hc : s.storage.vectorCommitments id = some c)
      (hst : c.status = .disputed) (hd : s.storage.disputeRecords id = some d)
      (hdeadline : now s > d.counterDeadline)
      (hescrow : s.ext.escrow.escrows id = some record) (hlocked : record.status = .locked)
      (hrec : s'.records id = ⟨some { c with status := .disputeResolved },
        some { d with verdict := some .providerGuilty }, s.storage.streamReceipts id⟩)
      (hext : s'.ext = ReputationHandlerAdapter.penalizeProvider c.provider
        (s.ext.refunded id record)) :
      CallEffect s s' origin (.finalizeDispute id)
  | expire {id : CommitmentId} {who : AccountId} {c : VectorCommitment}
      (ho : origin = .signed who) (hc : s.storage.vectorCommitments id = some c)
      (hst : c.status = .pending ∨ c.status = .active) (hnow : now s ≥ c.expiresAt)
      (hrec : s'.records id =
        ⟨none, s.storage.disputeRecords id, s.storage.streamReceipts id⟩)
      (hext : s'.ext = s.ext) :
      CallEffect s s' origin (.expireCommitment id)

/-- **The effect of a successful call of `pallet-vector-db`.** -/
theorem vectorDb_effect {origin : Origin AccountId} {c : VectorDb.Call} {s s' : State cfg}
    (h : (c.run cfg.vectorDb origin).run s = .ok () s') : CallEffect s s' origin c := by
  cases c with
  | registerCommitment provider consumer root total metadata expires price =>
      obtain ⟨who, ho, hself, htotal, hroot, hauth, hcons, hexp, hmax, hnone, rfl⟩ :=
        registerCommitment_ok.mp h
      exact .register ho hself htotal hroot hauth hcons hexp hmax rfl hnone
        (by simp [State.records, newCommitment, now, Config.vectorDb]) rfl
  | acknowledgeCommitment id did =>
      obtain ⟨who, ho, c, hc, hst, hnow, hdid, hauth, payee, hpayee, ext, hlock, rfl⟩ :=
        acknowledgeCommitment_ok.mp h
      obtain ⟨hfree, ledger, hledger, rfl⟩ := lock_ok.mp hlock
      exact .acknowledge ho hc hst hnow hdid hauth hpayee hfree hledger
        (by simp [State.records, now, Config.vectorDb]) rfl
  | closeCommitment id did hash count =>
      obtain ⟨who, ho, c, hc, hst, hnow, hdid, hauth, hhash, ext, hrel, rfl⟩ :=
        closeCommitment_ok.mp h
      obtain ⟨record, hescrow, hlocked, r, hr, rfl⟩ := release_ok.mp hrel
      exact .close ho hc hst hnow hdid hauth hhash hescrow hlocked hr
        (by simp [State.records, now, Config.vectorDb]) rfl
  | raiseDispute id did index hash count =>
      obtain ⟨who, ho, c, hc, hst, hdid, hnow, hauth, hnone, hindex, rfl⟩ :=
        (raiseDispute_ok count).mp h
      exact .raise ho hc hst hdid hnow hauth hnone hindex
        (by simp [State.records, now, Config.vectorDb]) rfl
  | counterDispute id did chunkData merkleProof =>
      obtain ⟨who, ho, c, hc, hst, hdid, hauth, d, hd, hdl, hindex, hproof, ext, hrel, rfl⟩ :=
        counterDispute_ok.mp h
      obtain ⟨record, hescrow, hlocked, r, hr, rfl⟩ := release_ok.mp hrel
      exact .counter ho hc hst hdid hauth hd hdl hindex hproof hescrow hlocked hr
        (by simp [State.records]) rfl
  | finalizeDispute id =>
      obtain ⟨who, ho, c, hc, hst, d, hd, hdl, ext, href, rfl⟩ := finalizeDispute_ok.mp h
      obtain ⟨record, hescrow, hlocked, rfl⟩ := refund_ok.mp href
      exact .finalize ho hc hst hd hdl hescrow hlocked (by simp [State.records]) rfl
  | expireCommitment id =>
      obtain ⟨who, ho, c, hc, hst, hnow, rfl⟩ := expireCommitment_ok.mp h
      exact .expire ho hc hst hnow (by simp [State.records]) rfl

/-! ## What a successful call leaves alone -/

section

variable {s s' : State cfg} {origin : Origin AccountId} {c : VectorDb.Call}

theorem CallEffect.system (h : CallEffect s s' origin c) : s'.ext.system = s.ext.system := by
  cases h <;> simp only [*] <;> rfl

theorem CallEffect.escrow_ne (h : CallEffect s s' origin c) {j : CommitmentId}
    (hj : j ≠ c.target cfg.vectorDb s) :
    s'.ext.escrow.escrows j = s.ext.escrow.escrows j := by
  cases h with
  | register _ _ _ _ _ _ _ _ _ _ _ hext => rw [hext]
  | acknowledge _ _ _ _ _ _ _ _ _ _ hext => rw [hext]; exact StorageMap.insert_ne hj
  | close _ _ _ _ _ _ _ _ _ _ _ hext => rw [hext]; exact StorageMap.insert_ne hj
  | raise _ _ _ _ _ _ _ _ _ hext => rw [hext]
  | counter _ _ _ _ _ _ _ _ _ _ _ _ _ hext => rw [hext]; exact StorageMap.insert_ne hj
  | finalize _ _ _ _ _ _ _ _ hext => rw [hext]; exact StorageMap.insert_ne hj
  | expire _ _ _ _ _ hext => rw [hext]

end

/-! ## What a successful call does to the registry -/

/-- The only calls of `pallet-vector-db` that the registry notices are the two that end a dispute:
each of them causes a penalty, after it has settled the escrow. -/
inductive RegistryEffect (s s' : State cfg) (c : VectorDb.Call) : Prop
  | untouched (hc : ∀ id, c ≠ .finalizeDispute id) (hreg : s'.ext.registry = s.ext.registry)
  | falseDisputer (hc : ∀ id, c ≠ .finalizeDispute id) {x : Ext cfg} {did : Did}
      (hext : s'.ext = ReputationHandlerAdapter.penalizeFalseDisputer did x)
      (hx : x.registry = s.ext.registry)
  | provider {id : CommitmentId} {cm : VectorCommitment}
      {record : Escrow.EscrowRecord AccountId} (hc : c = .finalizeDispute id)
      (hcm : s.storage.vectorCommitments id = some cm)
      (hext : s'.ext = ReputationHandlerAdapter.penalizeProvider cm.provider
        (s.ext.refunded id record))

theorem CallEffect.registryEffect {s s' : State cfg} {origin : Origin AccountId}
    {c : VectorDb.Call} (h : CallEffect s s' origin c) : RegistryEffect s s' c := by
  cases h with
  | register _ _ _ _ _ _ _ _ _ _ _ hext => exact .untouched (by simp) (by rw [hext])
  | acknowledge _ _ _ _ _ _ _ _ _ _ hext => exact .untouched (by simp) (by rw [hext]; rfl)
  | close _ _ _ _ _ _ _ _ _ _ _ hext => exact .untouched (by simp) (by rw [hext]; rfl)
  | raise _ _ _ _ _ _ _ _ _ hext => exact .untouched (by simp) (by rw [hext])
  | counter _ _ _ _ _ _ _ _ _ _ _ _ _ hext => exact .falseDisputer (by simp) hext rfl
  | finalize _ hc _ _ _ _ _ _ hext => exact .provider rfl hc hext
  | expire _ _ _ _ _ hext => exact .untouched (by simp) (by rw [hext])

/-! ## Steps -/

/-- A step that leaves the records of both pallets and the hooks alone. -/
structure Passive (s s' : State cfg) : Prop where
  storage : s'.storage = s.storage
  escrow : s'.ext.escrow = s.ext.escrow
  hooks : s'.ext.hooks = s.ext.hooks

theorem Passive.entry {s s' : State cfg} (h : Passive s s') (id : CommitmentId) :
    entry s' id = entry s id := by
  rw [Runtime.entry, Runtime.entry, h.storage, h.escrow]

theorem vectorDb_entry_ne {origin : Origin AccountId} {c : VectorDb.Call} {s s' : State cfg}
    (h : (c.run cfg.vectorDb origin).run s = .ok () s') {j : CommitmentId}
    (hj : j ≠ c.target cfg.vectorDb s) : entry s' j = entry s j := by
  have hrec : s'.records j = s.records j := (call_transition h).2.1 j hj
  rw [VectorDb.State.records, VectorDb.State.records, Records.mk.injEq] at hrec
  obtain ⟨h1, h2, h3⟩ := hrec
  rw [Runtime.entry, Runtime.entry, h1, h2, h3, (vectorDb_effect h).escrow_ne hj]

/-- **A step is a successful call of `pallet-vector-db`, which changes one entry, or leaves all
of them alone.** -/
theorem step_effect (s : State cfg) (i : Input AccountId) :
    (∃ origin c, i = .call origin (.vectorDb c) ∧
      succeeds (c.run cfg.vectorDb origin) s = true ∧ CallEffect s (step s i) origin c ∧
      ∀ j, j ≠ c.target cfg.vectorDb s → entry (step s i) j = entry s j) ∨
    Passive s (step s i) := by
  cases i with
  | newBlocks blocks blockHash => exact Or.inr ⟨rfl, rfl, rfl⟩
  | call origin c =>
      cases c with
      | agentRegistry c => exact Or.inr ⟨rfl, rfl, rfl⟩
      | vectorDb c =>
          rcases dispatch_cases (c.run cfg.vectorDb origin) s with ⟨s', hok, hd⟩ | ⟨-, hd⟩
          · rw [step, hd]
            exact Or.inl ⟨origin, c, rfl, succeeds_iff.mpr ⟨s', hok⟩, vectorDb_effect hok,
              fun j hj => vectorDb_entry_ne hok hj⟩
          · rw [step, hd]
            exact Or.inr ⟨rfl, rfl, rfl⟩

/-- A call of the registry commits what the pallet does, or nothing. -/
theorem registryCall_cases (s : State cfg) (origin : Origin AccountId) (c : AgentRegistry.Call) :
    (∃ t, (c.run origin).run s.ext.registryState = .ok () t ∧
      step s (.call origin (.agentRegistry c)) = s.putExt (s.ext.putRegistry t)) ∨
    step s (.call origin (.agentRegistry c)) = s := by
  rcases dispatch_cases (c.run origin) s.ext.registryState with ⟨t, hrun, hd⟩ | ⟨-, hd⟩
  · rw [step, hd]
    exact Or.inl ⟨t, hrun, rfl⟩
  · rw [step, hd]
    exact Or.inr rfl

/-- Blocks do not go back, and stay below the maximum. -/
theorem now_step {s : State cfg} (h : now s ≤ u32Max) (i : Input AccountId) :
    now s ≤ now (step s i) ∧ now (step s i) ≤ u32Max := by
  cases i with
  | newBlocks blocks blockHash => exact ⟨le_satAdd h, satAdd_le _ _⟩
  | call origin c =>
      cases c with
      | agentRegistry c => exact ⟨Nat.le_refl _, h⟩
      | vectorDb c =>
          have hnow : now (step s (.call origin (.vectorDb c))) = now s := by
            rcases dispatch_cases (c.run cfg.vectorDb origin) s with ⟨s', hok, hd⟩ | ⟨-, hd⟩
            · rw [step, hd, now, now, (vectorDb_effect hok).system]
            · rw [step, hd]
          exact ⟨hnow.ge, hnow.le.trans h⟩

end Runtime
