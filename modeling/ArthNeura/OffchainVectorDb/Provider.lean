import ArthNeura.OffchainVectorDb.World

set_option autoImplicit false

/-! # What the provider can defend

The provider is after winning every dispute about a chunk that it has delivered. It can do so
exactly for the commitments whose chunks it has moved to their identifier: for those the client
composes a call that the chain accepts, however the run went on, and for the others the client finds
no chunks (`provider_wins_disputes`). In particular a registration whose outcome the client did not
hear leaves a commitment on the chain that cannot be defended.
-/

namespace OffchainVectorDb

open Frame
open VectorDb (Did CommitmentId VectorCommitment DisputeRecord)
open Runtime (now hashes)

variable {AccountId : Type} [DecidableEq AccountId] {cfg : Runtime.Config AccountId}

/-! ## Disputes -/

/-- A dispute that `caller` may still answer for the provider, and whose escrow can be paid out. -/
structure Answerable (s : Runtime.State cfg) (id : CommitmentId) (caller : AccountId)
    (c : VectorCommitment) (d : DisputeRecord) (record : Escrow.EscrowRecord AccountId) : Prop where
  commitment : s.storage.vectorCommitments id = some c
  status : c.status = .disputed
  dispute : s.storage.disputeRecords id = some d
  deadline : now s ≤ d.counterDeadline
  authorized : VectorDb.Authorized cfg.vectorDb s.ext caller c.provider
  escrow : s.ext.escrow.escrows id = some record
  payable : ∃ r, cfg.currency.repatriateReserved record.payer record.payee record.amount
    s.ext.ledger = .ok r

section

variable {U : Set Bytes} {requests : Nat → Request} {store₀ : FsChunkStore} {w : World cfg}

/-- A dispute under an identifier that was issued for the chunks is about one of them. -/
theorem Registered.disputes {s : Runtime.State cfg} {p : Prepared} {id : CommitmentId}
    (h : Registered U s p id) (hlen : p.chunks.length < 2 ^ 32) {c : VectorCommitment}
    (hc : s.storage.vectorCommitments id = some c) (d : DisputeRecord) :
    Disputes cfg.vectorDb p.chunks d.disputedChunkIndex.toNat c d := by
  obtain ⟨c₀, ha, rfl, hroot, htotal⟩ := h
  have hterms := ha.stored c hc
  refine ⟨?_, ?_, rfl⟩
  · rw [hterms.merkleRoot, hroot]
    exact merkleRoot_spec p.chunks p.chunks_ne_nil
  · rw [hterms.totalChunks, htotal, UInt64.toNat_ofNat']
    exact Nat.mod_eq_of_lt (hlen.trans (by decide))

/-- The chunks that were moved to an identifier answer every dispute about it. -/
theorem Tied.counter (h : Tied U requests store₀ w) {r : Nat} {p : Prepared} {id : CommitmentId}
    {result : Except IoError Unit} (hr : w.client.phase r = .rekeyed p id result)
    (hlen : p.chunks.length < 2 ^ 32) {caller : AccountId} {c : VectorCommitment}
    {d : DisputeRecord} {record : Escrow.EscrowRecord AccountId}
    (ha : Answerable w.chain id caller c d record) :
    ∃ call, prepareCounterDispute cfg.rsMerkle cfg.registry.blake2_256 w.client.store id
        c.provider d.disputedChunkIndex.toNat c.totalChunks.toNat = .ok call ∧
      Runtime.entry (Runtime.step w.chain (.call (.signed caller) (.vectorDb call))) id =
        ⟨some { c with status := .disputeResolved },
          some { d with verdict := some .claimantUnsubstantiated },
          w.chain.storage.streamReceipts id, some { record with status := .released }⟩ := by
  have hlinked := h.linked r
  have hsound := h.sound.phase r
  rw [hr] at hlinked hsound
  obtain ⟨⟨hp, hreg⟩, -⟩ := hlinked
  obtain ⟨dir, hdir, hholds⟩ := hsound
  have hdisputes := hreg.disputes hlen ha.commitment d
  -- the escrow is locked and the index is in range, as for every disputed commitment
  obtain ⟨⟨record', hrec, hlocked, -⟩, ⟨d', hd', -, -, hindex⟩, -⟩ :=
    ((Runtime.aligned_some ha.commitment).mp (h.aligned id)).2.disputed ha.status
  cases ha.escrow.symm.trans hrec
  cases ha.dispute.symm.trans hd'
  have hi : d.disputedChunkIndex.toNat < p.chunks.length := by
    rw [← hdisputes.total]
    exact hindex
  have hsize := prepare_chunk_length hp _ (List.getElem_mem hi)
  obtain ⟨chunkData, merkleProof, hcall, hproof⟩ :=
    prepareCounterDispute_verifies hdir hholds hlen c.provider hi hsize hdisputes
  obtain ⟨x, hx⟩ := ha.payable
  have hrelease := Runtime.release_ok.mpr ⟨record, ha.escrow, hlocked, x, hx, rfl⟩
  obtain ⟨s', hok⟩ : ∃ s', ((VectorDb.Call.counterDispute id c.provider chunkData merkleProof).run
      cfg.vectorDb (.signed caller)).run w.chain = .ok () s' :=
    ⟨_, VectorDb.counterDispute_ok.mpr ⟨caller, rfl, c, ha.commitment, ha.status, rfl,
      ha.authorized, d, ha.dispute, ha.deadline, hindex, hproof, _, hrelease, rfl⟩⟩
  refine ⟨_, hcall, ?_⟩
  rw [Runtime.step, dispatch_of_ok hok]
  cases Runtime.vectorDb_effect hok with
  | counter _ hc _ _ _ hd _ _ _ hescrow _ _ hrec hext =>
      cases ha.commitment.symm.trans hc
      cases ha.dispute.symm.trans hd
      cases ha.escrow.symm.trans hescrow
      rw [Runtime.entry_eq hrec, hext, Runtime.penalizeFalseDisputer_escrow,
        Runtime.released_escrows]

/-- The client has no chunks for a commitment that none of its registrations has been moved to. -/
theorem Tied.notFound (hU : Apart cfg U requests store₀) (h : Tied U requests store₀ w)
    {id : CommitmentId} {c : VectorCommitment}
    (hc : w.chain.storage.vectorCommitments id = some c)
    (hr : ∀ r p result, w.client.phase r ≠ .rekeyed p id result) (providerDid : Did)
    {index total : Nat} (hindex : index < total) :
    prepareCounterDispute cfg.rsMerkle cfg.registry.blake2_256 w.client.store id providerDid
      index total = .error (.error (.storage .notFound)) := by
  obtain ⟨hmem, hid, -⟩ := (h.issued id).stored c hc
  have hnone : w.client.store id = none := by
    by_contra hdir
    rcases h.dirs id hdir with hstore | ⟨r, heq⟩ | ⟨r, p, result, hr'⟩
    · exact hstore (hid ▸ hU.store _ hmem)
    · exact hU.payload r _ hmem (heq.symm.trans hid.symm)
    · exact hr r p result hr'
  obtain ⟨total, rfl⟩ : ∃ n, total = n + 1 := ⟨total - 1, by omega⟩
  have hload : loadAllChunks w.client.store id (total + 1) = .error .notFound := by
    rw [loadAllChunks, List.range_succ_eq_map, List.mapM_cons, FsChunkStore.loadChunk, hnone]
    rfl
  rw [prepareCounterDispute, if_neg (Nat.not_le.mpr hindex), hload]

end

/-! ## Whole runs -/

namespace World

/-- The chain before its first block, and a client that has started no registration. -/
def start (cfg : Runtime.Config AccountId) (disputeWindow : Option Nat)
    (blockHash : Nat → Bytes32) (ledger : cfg.currency.Ledger) (store : FsChunkStore) :
    World cfg :=
  ⟨Runtime.genesis cfg disputeWindow blockHash ledger, initial store⟩

/-- The preimages of identifiers that the chain hashes in a run. -/
def preimages (requests : Nat → Request) (signers : Nat → AccountId) (w : World cfg)
    (run : List (Action AccountId)) : List Bytes :=
  (trace (step requests signers) w run).filterMap fun q =>
    (chainInput signers q.1 q.2).bind (hashes q.1.chain)

end World

theorem tied_start (U : Set Bytes) (requests : Nat → Request) (disputeWindow : Option Nat)
    (blockHash : Nat → Bytes32) (ledger : cfg.currency.Ledger) (store : FsChunkStore) :
    Tied U requests store (World.start cfg disputeWindow blockHash ledger store) where
  time := Nat.zero_le _
  aligned := Runtime.allAligned_genesis cfg disputeWindow blockHash ledger
  issued _ := ⟨nofun, fun _ h => absurd rfl h, nofun⟩
  sound := sound_initial store
  linked _ := trivial
  dirs _ hd := Or.inl hd

/-- **The provider wins the disputes about what it has kept.** In every run of the chain and of any
number of registrations of the provider, in any order and with any transactions of others in
between, where the hash keeps apart what has to be, the block number does not saturate and no two
registrations stage their chunks under one key at a time, in every state: a registration whose
chunks were moved has kept them, and if they are less than 2³² in number, then for every dispute
about its commitment that may still be answered the client composes a call that resolves the dispute
in its favour and releases the escrow; for every other commitment on the chain the client fails to
find the chunks. -/
theorem provider_wins_disputes (cfg : Runtime.Config AccountId) (disputeWindow : Option Nat)
    (blockHash : Nat → Bytes32) (ledger : cfg.currency.Ledger) (store : FsChunkStore)
    (requests : Nat → Request) (signers : Nat → AccountId) (run : List (Action AccountId))
    (hU : Apart cfg { b | b ∈ World.preimages requests signers
      (World.start cfg disputeWindow blockHash ledger store) run } requests store)
    (hrun : ∀ q ∈ trace (World.step requests signers)
      (World.start cfg disputeWindow blockHash ledger store) run, Orderly requests q.1 q.2)
    (k : Nat) (w : World cfg)
    (hw : w = exec (World.step requests signers)
      (World.start cfg disputeWindow blockHash ledger store) (run.take k)) :
    (∀ r p id result, w.client.phase r = .rekeyed p id result →
      result = .ok () ∧ loadAllChunks w.client.store id p.chunks.length = .ok p.chunks ∧
      ∀ caller c d record, p.chunks.length < 2 ^ 32 → Answerable w.chain id caller c d record →
        ∃ call, prepareCounterDispute cfg.rsMerkle cfg.registry.blake2_256 w.client.store id
            c.provider d.disputedChunkIndex.toNat c.totalChunks.toNat = .ok call ∧
          Runtime.entry (Runtime.step w.chain (.call (.signed caller) (.vectorDb call))) id =
            ⟨some { c with status := .disputeResolved },
              some { d with verdict := some .claimantUnsubstantiated },
              w.chain.storage.streamReceipts id, some { record with status := .released }⟩) ∧
    (∀ id c, w.chain.storage.vectorCommitments id = some c →
      (∀ r p result, w.client.phase r ≠ .rekeyed p id result) →
      ∀ did index, index < c.totalChunks.toNat →
        prepareCounterDispute cfg.rsMerkle cfg.registry.blake2_256 w.client.store id did index
          c.totalChunks.toNat = .error (.error (.storage .notFound))) := by
  -- the preimages of the whole run stay fixed while the world moves
  generalize hgen : { b | b ∈ World.preimages requests signers
    (World.start cfg disputeWindow blockHash ledger store) run } = U at hU
  have htied : Tied U requests store w := by
    rw [hw]
    refine exec_invariant (Tied U requests store)
      (fun w a => Orderly requests w a ∧ ∀ i, World.chainInput signers w a = some i →
        ∀ b, hashes w.chain i = some b → b ∈ U)
      (fun w a h hok => h.step hU a hok.1 hok.2) (run.take k) _
      (tied_start U requests disputeWindow blockHash ledger store) fun q hq => ?_
    have hmem := mem_trace_of_take hq
    refine ⟨hrun q hmem, fun i hi b hb => ?_⟩
    rw [← hgen]
    exact List.mem_filterMap.mpr ⟨q, hmem, by rw [hi]; exact hb⟩
  constructor
  · intro r p id result hr
    have hlinked := htied.linked r
    rw [hr] at hlinked
    exact ⟨hlinked.2, htied.sound.noneLost r p id result hr,
      fun caller c d record hlen ha => htied.counter hr hlen ha⟩
  · intro id c hc hr did index hindex
    exact htied.notFound hU hc hr did hindex

/-- One payload, offered by agent 1 to agent 2. -/
def offer (_ : Nat) : Request where
  providerDid := AgentRegistry.keyDid 1
  consumerDid := AgentRegistry.keyDid 2
  payload := [1, 2, 3]
  metadata := []
  expiresInBlocks := 10
  price := 50 * AgentRegistry.unit
  mode := .bytes

/-- The identifier of the commitment of `offer` in block 1. -/
def offerId : CommitmentId :=
  tailHash (VectorDb.commitmentPreimage (AgentRegistry.keyDid 1) (AgentRegistry.keyDid 2)
    (tailHash [1, 2, 3]) 1)

/-- Both agents register, the provider carries its registration through, and the consumer
acknowledges and disputes the first chunk. -/
def offerRun : List (Action Nat) :=
  [.chain (Runtime.nextBlocks 1),
    .chain (.call (.signed 1) (.agentRegistry (AgentRegistry.registerKey 1))),
    .chain (.call (.signed 2) (.agentRegistry (AgentRegistry.registerKey 2))),
    .persist 0 none, .submit 0 .heard, .rekey 0,
    .chain (.call (.signed 2) (.vectorDb
      (.acknowledgeCommitment offerId (AgentRegistry.keyDid 2)))),
    .chain (.call (.signed 2) (.vectorDb (.raiseDispute offerId (AgentRegistry.keyDid 2) 0
      (Bytes32.ofNat 9) 1)))]

def offerStart : World Runtime.devConfig :=
  World.start Runtime.devConfig none (fun _ => Bytes32.ofNat 0)
    (AgentRegistry.devLedger (1000 * AgentRegistry.unit)) .empty

def offerEnd : World Runtime.devConfig :=
  exec (World.step offer fun _ => 1) offerStart (offerRun.take 8)

theorem preimages_offerRun : World.preimages offer (fun _ => 1) offerStart offerRun =
    [VectorDb.commitmentPreimage (AgentRegistry.keyDid 1) (AgentRegistry.keyDid 2)
      (tailHash [1, 2, 3]) 1] := by decide +kernel

theorem apart_offerRun : Apart Runtime.devConfig
    { b | b ∈ World.preimages offer (fun _ => 1) offerStart offerRun } offer .empty := by
  rw [preimages_offerRun]
  refine ⟨fun a ha b hb _ => ?_, fun r b hb => ?_, fun b _ => rfl⟩
  · exact (List.mem_singleton.mp ha).trans (List.mem_singleton.mp hb).symm
  · rw [List.mem_singleton.mp hb]
    show tailHash [1, 2, 3] ≠ offerId
    decide +kernel

theorem orderly_offerRun :
    ∀ q ∈ trace (World.step offer fun _ => 1) offerStart offerRun, Orderly offer q.1 q.2 := by
  intro q hq
  simp only [offerRun, trace, List.mem_cons, List.not_mem_nil, or_false] at hq
  rcases hq with rfl | rfl | rfl | rfl | rfl | rfl | rfl | rfl
  case inr.inr.inr.inl =>
    -- no other registration has started
    refine ⟨by decide +kernel, fun _ _ _ _ _ _ _ _ => ?_⟩
    rintro ⟨⟩
  all_goals
    refine ⟨by decide +kernel, ?_⟩
    rintro _ _ _ ⟨⟩

theorem phase_offerEnd : ∃ p result, offerEnd.client.phase 0 = .rekeyed p offerId result ∧
    p.chunks.length = 1 := by
  have h : (match offerEnd.client.phase 0 with
    | .rekeyed p id _ => decide (id = offerId ∧ p.chunks.length = 1)
    | _ => false) = true := by decide +kernel
  split at h
  · next p id result hr =>
      obtain ⟨rfl, hlen⟩ := of_decide_eq_true h
      exact ⟨p, result, hr, hlen⟩
  · cases h

theorem answerable_offerEnd : ∃ c d record, Answerable offerEnd.chain offerId 1 c d record := by
  have hc : (offerEnd.chain.storage.vectorCommitments offerId).any
      (fun c => c.status = .disputed ∧ c.provider = AgentRegistry.keyDid 1) = true := by
    decide +kernel
  have hd : (offerEnd.chain.storage.disputeRecords offerId).any
      (fun d => now offerEnd.chain ≤ d.counterDeadline) = true := by decide +kernel
  have he : (offerEnd.chain.ext.escrow.escrows offerId).any
      (fun record => (Runtime.devConfig.currency.repatriateReserved record.payer record.payee
        record.amount offerEnd.chain.ext.ledger).toBool) = true := by decide +kernel
  have hauth : Runtime.devConfig.vectorDb.controllerOf offerEnd.chain.ext (AgentRegistry.keyDid 1)
        = some 1 ∧
      Runtime.devConfig.vectorDb.isActiveVerified offerEnd.chain.ext (AgentRegistry.keyDid 1)
        = true := by decide +kernel
  obtain ⟨c, hc, hst⟩ := (Option.any_eq_true ..).mp hc
  obtain ⟨d, hd, hdeadline⟩ := (Option.any_eq_true ..).mp hd
  obtain ⟨record, he, hpay⟩ := (Option.any_eq_true ..).mp he
  obtain ⟨hst, hprovider⟩ := of_decide_eq_true hst
  refine ⟨c, d, record, hc, hst, hd, of_decide_eq_true hdeadline, hprovider ▸ hauth, he, ?_⟩
  cases hr : Runtime.devConfig.currency.repatriateReserved record.payer record.payee record.amount
    offerEnd.chain.ext.ledger with
  | ok x => exact ⟨x, rfl⟩
  | error e =>
      rw [hr] at hpay
      cases hpay

/-- The client of agent 1 answers the dispute of `offerRun`. -/
theorem provider_wins_disputes_offer :
    ∃ c d, offerEnd.chain.storage.vectorCommitments offerId = some c ∧
      offerEnd.chain.storage.disputeRecords offerId = some d ∧
      ∃ call, prepareCounterDispute Runtime.devConfig.rsMerkle Runtime.devConfig.registry.blake2_256
          offerEnd.client.store offerId c.provider d.disputedChunkIndex.toNat c.totalChunks.toNat
            = .ok call ∧
        (Runtime.entry (Runtime.step offerEnd.chain (.call (.signed 1) (.vectorDb call)))
          offerId).dispute = some { d with verdict := some .claimantUnsubstantiated } := by
  obtain ⟨p, result, hr, hlen⟩ := phase_offerEnd
  obtain ⟨c, d, record, ha⟩ := answerable_offerEnd
  obtain ⟨-, -, hwins⟩ := (provider_wins_disputes Runtime.devConfig none _ _ .empty offer
    (fun _ => 1) offerRun apart_offerRun orderly_offerRun 8 offerEnd rfl).1 0 p offerId result hr
  obtain ⟨call, hcall, hentry⟩ := hwins 1 c d record (by omega) ha
  exact ⟨c, d, ha.commitment, ha.dispute, call, hcall, congrArg Runtime.Entry.dispute hentry⟩

end OffchainVectorDb
