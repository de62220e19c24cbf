import ArthNeura.VectorDb.Lifecycle

set_option autoImplicit false

/-! # Identifiers are issued once

An identifier is the hash of the provider, the consumer, the root and the block of a
registration. `register_commitment` refuses an identifier only while a commitment is stored
under it, and `expire_commitment` deletes commitments. An identifier is nevertheless issued
once: it is bound to its block, and a commitment cannot expire in the block that registered it.
The records under an identifier that has not been issued are therefore all empty.

The argument needs blocks that do not go back and leave room for a whole lifetime
(`Timely`): with a saturated block number a commitment may expire at once, and its
identifier could be issued again in the same block.
-/

namespace VectorDb

open Frame

variable {AccountId Ext : Type} [DecidableEq AccountId]

/-- The preimage of the identifier that a step issues. -/
def registeredPreimage (cfg : Config AccountId Ext) (s : State Ext) :
    Input AccountId Ext → Option Bytes
  | .call origin (.registerCommitment provider consumer merkleRoot totalChunks metadata expires
      price) =>
      if succeeds (registerCommitment cfg origin provider consumer merkleRoot totalChunks metadata
          expires price) s then
        some (commitmentPreimage provider consumer merkleRoot (cfg.blockNumber s.ext))
      else none
  | _ => none

/-- The preimages of the identifiers issued by a history, in order. -/
def registeredPreimages (cfg : Config AccountId Ext)
    (past : List (State Ext × Input AccountId Ext)) : List Bytes :=
  past.filterMap fun p => registeredPreimage cfg p.1 p.2

/-- The identifiers issued by a history, in order. -/
def issuedIds (cfg : Config AccountId Ext) (past : List (State Ext × Input AccountId Ext)) :
    List CommitmentId :=
  (registeredPreimages cfg past).map cfg.blake2_256

/-- A history in which no block number goes back, every block leaves room for the longest
lifetime, and the hash separates the preimages of the issued identifiers. -/
structure Timely (cfg : Config AccountId Ext) (past : List (State Ext × Input AccountId Ext)) :
    Prop where
  mono : ∀ p ∈ past, cfg.blockNumber p.1.ext ≤ cfg.blockNumber (step cfg p.1 p.2).ext
  room : ∀ p ∈ past, cfg.blockNumber p.1.ext + cfg.maxCommitmentLifetime < 2 ^ 32
  injOn : Set.InjOn cfg.blake2_256 { b | b ∈ registeredPreimages cfg past }

variable {cfg : Config AccountId Ext}

theorem registeredPreimages_append (past : List (State Ext × Input AccountId Ext)) (s : State Ext)
    (i : Input AccountId Ext) :
    registeredPreimages cfg (past ++ [(s, i)]) =
      registeredPreimages cfg past ++ (registeredPreimage cfg s i).toList := by
  rw [registeredPreimages, List.filterMap_append]
  cases h : registeredPreimage cfg s i <;> simp [registeredPreimages, h]

theorem Timely.of_append {past : List (State Ext × Input AccountId Ext)} {s : State Ext}
    {i : Input AccountId Ext} (h : Timely cfg (past ++ [(s, i)])) : Timely cfg past where
  mono p hp := h.mono p (List.mem_append_left _ hp)
  room p hp := h.room p (List.mem_append_left _ hp)
  injOn := by
    refine h.injOn.mono fun b hb => ?_
    show b ∈ registeredPreimages cfg (past ++ [(s, i)])
    rw [registeredPreimages_append]
    exact List.mem_append_left _ hb

/-! ## Steps -/

section

variable {s : State Ext} {i : Input AccountId Ext} {id : CommitmentId}

/-- What a step that issues an identifier finds and stores. -/
theorem registeredPreimage_eq_some {b : Bytes} (h : registeredPreimage cfg s i = some b) :
    (∃ provider consumer merkleRoot,
      b = commitmentPreimage provider consumer merkleRoot (cfg.blockNumber s.ext)) ∧
    s.storage.vectorCommitments (cfg.blake2_256 b) = none ∧
    ∃ c, (step cfg s i).storage.vectorCommitments (cfg.blake2_256 b) = some c ∧
      (cfg.blockNumber s.ext + cfg.maxCommitmentLifetime < 2 ^ 32 →
        cfg.blockNumber s.ext < c.expiresAt) := by
  unfold registeredPreimage at h
  split at h
  · next origin provider consumer merkleRoot totalChunks metadata expires price =>
      obtain ⟨hsucc, hb⟩ := Option.ite_none_right_eq_some.mp h
      obtain rfl := Option.some.inj hb
      obtain ⟨s', hok⟩ := succeeds_iff.mp hsucc
      have hstep : step cfg s (.call origin (.registerCommitment provider consumer merkleRoot
          totalChunks metadata expires price)) = s' := dispatch_of_ok hok
      obtain ⟨-, -, -, -, -, -, -, hpos, hle, hnone, rfl⟩ := registerCommitment_ok.mp hok
      refine ⟨⟨provider, consumer, merkleRoot, rfl⟩, hnone, ?_⟩
      rw [hstep]
      refine ⟨_, StorageMap.insert_self .., fun hroom => ?_⟩
      show _ < satAdd (cfg.blockNumber s.ext) expires
      rw [satAdd_eq (by omega)]
      omega
  · cases h

/-- Every call but a registration finds its commitment. -/
theorem stored_or_register {origin : Origin AccountId} {c : Call} {s' : State Ext}
    (h : (c.run cfg origin).run s = .ok () s') :
    s.storage.vectorCommitments (c.target cfg s) ≠ none ∨
    ∃ b, registeredPreimage cfg s (.call origin c) = some b ∧
      cfg.blake2_256 b = c.target cfg s := by
  cases c with
  | registerCommitment provider consumer merkleRoot totalChunks metadata expires price =>
      exact Or.inr ⟨_, if_pos (succeeds_iff.mpr ⟨s', h⟩), rfl⟩
  | acknowledgeCommitment id consumerDid =>
      obtain ⟨-, -, c, hc, -⟩ := acknowledgeCommitment_ok.mp h
      exact Or.inl (Option.ne_none_iff_exists'.mpr ⟨c, hc⟩)
  | closeCommitment id consumerDid finalStreamHash chunkCount =>
      obtain ⟨-, -, c, hc, -⟩ := closeCommitment_ok.mp h
      exact Or.inl (Option.ne_none_iff_exists'.mpr ⟨c, hc⟩)
  | raiseDispute id consumerDid index hash chunkCount =>
      obtain ⟨-, -, c, hc, -⟩ := (raiseDispute_ok chunkCount).mp h
      exact Or.inl (Option.ne_none_iff_exists'.mpr ⟨c, hc⟩)
  | counterDispute id providerDid chunkData merkleProof =>
      obtain ⟨-, -, c, hc, -⟩ := counterDispute_ok.mp h
      exact Or.inl (Option.ne_none_iff_exists'.mpr ⟨c, hc⟩)
  | finalizeDispute id =>
      obtain ⟨-, -, c, hc, -⟩ := finalizeDispute_ok.mp h
      exact Or.inl (Option.ne_none_iff_exists'.mpr ⟨c, hc⟩)
  | expireCommitment id =>
      obtain ⟨-, -, c, hc, -⟩ := expireCommitment_ok.mp h
      exact Or.inl (Option.ne_none_iff_exists'.mpr ⟨c, hc⟩)

/-- Where no commitment is stored, the records change only if the identifier is issued. -/
theorem records_of_none (hnone : s.storage.vectorCommitments id = none) :
    (step cfg s i).records id = s.records id ∨
    ∃ b, registeredPreimage cfg s i = some b ∧ cfg.blake2_256 b = id := by
  cases i with
  | environment ext => exact Or.inl rfl
  | call origin c =>
      rcases dispatch_cases (c.run cfg origin) s with ⟨s', hok, hd⟩ | ⟨-, hd⟩
      · by_cases hid : id = c.target cfg s
        · subst hid
          rcases stored_or_register hok with hsome | hissue
          · exact absurd hnone hsome
          · exact Or.inr hissue
        · rw [step, hd]
          exact Or.inl ((call_transition hok).2.1 id hid)
      · rw [step, hd]
        exact Or.inl rfl

/-- A stored commitment keeps the block of its expiry, and is removed in that block or later. -/
theorem expiresAt_step {c : VectorCommitment} (hc : s.storage.vectorCommitments id = some c) :
    (∃ c', (step cfg s i).storage.vectorCommitments id = some c' ∧
      c'.expiresAt = c.expiresAt) ∨
    ((step cfg s i).storage.vectorCommitments id = none ∧
      c.expiresAt ≤ cfg.blockNumber s.ext) := by
  cases hc' : (step cfg s i).storage.vectorCommitments id with
  | some c' =>
      refine Or.inl ⟨c', rfl, ?_⟩
      rcases step_transition cfg s i id with heq | ⟨htr, -⟩
      · have hsame : some c' = some c := hc'.symm.trans ((congrArg Records.commitment heq).trans hc)
        rw [Option.some.inj hsame]
      · exact (htr.sameTerms hc hc').expiresAt
  | none =>
      refine Or.inr ⟨rfl, ?_⟩
      rcases step_transition cfg s i id with heq | ⟨-, origin, call, rfl, -, hexpire⟩
      · cases hc.symm.trans ((congrArg Records.commitment heq).symm.trans hc')
      · obtain rfl := hexpire hc'
        rcases dispatch_cases ((Call.expireCommitment id).run cfg origin) s with
          ⟨s', hok, -⟩ | ⟨-, hd⟩
        · obtain ⟨-, -, c₀, hc₀, -, hexp, -⟩ := expireCommitment_ok.mp hok
          cases hc.symm.trans hc₀
          exact hexp
        · rw [step, hd, hc] at hc'
          cases hc'

end

/-! ## Runs -/

/-- The identifier `id` was issued in block `block`, and is not issued again in this block. -/
structure IssuedAt (cfg : Config AccountId Ext) (s : State Ext) (id : CommitmentId)
    (block : Nat) : Prop where
  le : block ≤ cfg.blockNumber s.ext
  stored : ∀ c, s.storage.vectorCommitments id = some c → block < c.expiresAt
  retired : s.storage.vectorCommitments id = none → block < cfg.blockNumber s.ext

theorem IssuedAt.step {s : State Ext} {i : Input AccountId Ext} {id : CommitmentId} {block : Nat}
    (h : IssuedAt cfg s id block)
    (hmono : cfg.blockNumber s.ext ≤ cfg.blockNumber (step cfg s i).ext)
    (hfresh : ∀ b, registeredPreimage cfg s i = some b → cfg.blake2_256 b ≠ id) :
    IssuedAt cfg (VectorDb.step cfg s i) id block := by
  have hle : block ≤ cfg.blockNumber (VectorDb.step cfg s i).ext := h.le.trans hmono
  cases hc : s.storage.vectorCommitments id with
  | none =>
      have hlt := h.retired hc
      rcases records_of_none (i := i) hc with heq | ⟨b, hb, hid⟩
      · have hc' : (VectorDb.step cfg s i).storage.vectorCommitments id = none :=
          (congrArg Records.commitment heq).trans hc
        refine ⟨hle, fun c hsome => ?_, fun _ => hlt.trans_le hmono⟩
        cases hc'.symm.trans hsome
      · exact absurd hid (hfresh b hb)
  | some c =>
      have hlt := h.stored c hc
      rcases expiresAt_step (i := i) hc with ⟨c', hc', hexp⟩ | ⟨hc', hexp⟩
      · refine ⟨hle, fun c₀ hc₀ => ?_, fun hnone => ?_⟩
        · cases hc'.symm.trans hc₀
          rw [hexp]
          exact hlt
        · cases hc'.symm.trans hnone
      · refine ⟨hle, fun c₀ hc₀ => ?_, fun _ => ?_⟩
        · cases hc'.symm.trans hc₀
        · exact (hlt.trans_le hexp).trans_le hmono

/-- What holds after a history that ends in `s`. -/
structure IssuedOnce (cfg : Config AccountId Ext) (past : List (State Ext × Input AccountId Ext))
    (s : State Ext) : Prop where
  nodup : (issuedIds cfg past).Nodup
  origin : ∀ b ∈ registeredPreimages cfg past, ∃ provider consumer merkleRoot block,
    b = commitmentPreimage provider consumer merkleRoot block ∧
      IssuedAt cfg s (cfg.blake2_256 b) block
  blank : ∀ id, id ∉ issuedIds cfg past → s.records id = ⟨none, none, none⟩
  /-- An identifier had no records at all when it was issued. -/
  clean : ∀ p ∈ past, ∀ b, registeredPreimage cfg p.1 p.2 = some b →
    p.1.records (cfg.blake2_256 b) = ⟨none, none, none⟩

/-- A step that issues an identifier issues a new one. -/
theorem IssuedOnce.fresh {past : List (State Ext × Input AccountId Ext)} {s : State Ext}
    {i : Input AccountId Ext} {b : Bytes} (h : IssuedOnce cfg past s)
    (ht : Timely cfg (past ++ [(s, i)])) (hmax : cfg.blockNumber s.ext ≤ u32Max)
    (hb : registeredPreimage cfg s i = some b) : cfg.blake2_256 b ∉ issuedIds cfg past := by
  intro hin
  obtain ⟨b', hb', hid⟩ := List.mem_map.mp hin
  -- two issued preimages with one hash are one preimage
  have hbb : b' = b := by
    refine ht.injOn ?_ ?_ hid
    · show b' ∈ registeredPreimages cfg (past ++ [(s, i)])
      rw [registeredPreimages_append]
      exact List.mem_append_left _ hb'
    · show b ∈ registeredPreimages cfg (past ++ [(s, i)])
      rw [registeredPreimages_append, hb]
      exact List.mem_append_right _ (List.mem_singleton_self b)
  obtain ⟨⟨p, c, r, heq⟩, hnone, -⟩ := registeredPreimage_eq_some hb
  obtain ⟨p', c', r', block, heq', hat⟩ := h.origin b' hb'
  rw [hid] at hat
  have hlt := hat.retired hnone
  have hsame : commitmentPreimage p' c' r' block =
      commitmentPreimage p c r (cfg.blockNumber s.ext) := by rw [← heq', hbb, heq]
  obtain ⟨-, -, -, hblock⟩ := commitmentPreimage_inj (hat.le.trans hmax) hmax hsame
  exact absurd hblock hlt.ne

theorem issuedOnce_step {past : List (State Ext × Input AccountId Ext)} {s : State Ext}
    {i : Input AccountId Ext} (ht : Timely cfg (past ++ [(s, i)])) (h : IssuedOnce cfg past s) :
    IssuedOnce cfg (past ++ [(s, i)]) (step cfg s i) := by
  have hlast : (s, i) ∈ past ++ [(s, i)] := List.mem_append_right _ (List.mem_singleton_self _)
  have hmono : cfg.blockNumber s.ext ≤ cfg.blockNumber (step cfg s i).ext := ht.mono _ hlast
  have hroom : cfg.blockNumber s.ext + cfg.maxCommitmentLifetime < 2 ^ 32 := ht.room _ hlast
  have hmax : cfg.blockNumber s.ext ≤ u32Max := by rw [u32Max]; omega
  have hids : issuedIds cfg (past ++ [(s, i)]) =
      issuedIds cfg past ++ (registeredPreimage cfg s i).toList.map cfg.blake2_256 := by
    rw [issuedIds, registeredPreimages_append, List.map_append]
    rfl
  refine ⟨?_, ?_, ?_, ?_⟩
  · rw [hids]
    cases hb : registeredPreimage cfg s i with
    | none => simpa using h.nodup
    | some b =>
        have hnew := h.fresh ht hmax hb
        rw [Option.toList_some, List.map_singleton, List.nodup_append]
        refine ⟨h.nodup, List.nodup_singleton _, fun x hx y hy hxy => ?_⟩
        rw [hxy, List.mem_singleton.mp hy] at hx
        exact hnew hx
  · intro b hb
    rw [registeredPreimages_append, List.mem_append, Option.mem_toList] at hb
    rcases hb with hb | hb
    · obtain ⟨p, c, r, block, heq, hat⟩ := h.origin b hb
      refine ⟨p, c, r, block, heq, hat.step hmono fun b' hb' hid => ?_⟩
      exact h.fresh ht hmax hb' (hid ▸ List.mem_map_of_mem hb)
    · obtain ⟨⟨p, c, r, heq⟩, -, c', hc', hexp⟩ := registeredPreimage_eq_some hb
      refine ⟨p, c, r, cfg.blockNumber s.ext, heq, hmono, fun c₀ hc₀ => ?_, fun hnone => ?_⟩
      · cases hc'.symm.trans hc₀
        exact hexp hroom
      · cases hc'.symm.trans hnone
  · intro id hid
    rw [hids, List.mem_append, not_or] at hid
    have hblank := h.blank id hid.1
    have hstep : (step cfg s i).records id = s.records id ∨
        ∃ b, registeredPreimage cfg s i = some b ∧ cfg.blake2_256 b = id :=
      records_of_none (congrArg Records.commitment hblank)
    rcases hstep with heq | ⟨b, hb, rfl⟩
    · rw [heq, hblank]
    · exact absurd (by simp [hb]) hid.2
  · intro p hp b hb
    rcases List.mem_append.mp hp with hp | hp
    · exact h.clean p hp b hb
    · obtain rfl := List.mem_singleton.mp hp
      exact h.blank _ (h.fresh ht hmax hb)

theorem issuedOnce_exec (cfg : Config AccountId Ext) (disputeWindow : Option Nat) (ext : Ext)
    (run : List (Input AccountId Ext))
    (ht : Timely cfg (trace (step cfg) (genesis disputeWindow ext) run)) :
    IssuedOnce cfg (trace (step cfg) (genesis disputeWindow ext) run)
      (exec (step cfg) (genesis disputeWindow ext) run) := by
  refine exec_history (fun past s => Timely cfg past → IssuedOnce cfg past s)
    (fun past s i ih ht => issuedOnce_step ht (ih ht.of_append)) _ (fun _ => ?_) run ht
  exact ⟨List.nodup_nil, fun b hb => absurd hb List.not_mem_nil, fun _ _ => rfl,
    fun p hp => absurd hp List.not_mem_nil⟩

/-- A commitment of block 1 is purged in block 5, and the same deal is registered again. -/
def purgedRun : List (Input Nat MockExt) :=
  let register := Call.registerCommitment (testDid 1) (testDid 2) (Bytes32.ofNat 5) 3 .nil 3 50
  [.call (.signed 1) register, .call (.signed 1) register, .environment (testExt 5),
    .call (.signed 3) (.expireCommitment
      (tailHash (commitmentPreimage (testDid 1) (testDid 2) (Bytes32.ofNat 5) 1))),
    .call (.signed 1) register]

theorem registeredPreimages_purgedRun :
    registeredPreimages mockConfig (trace (step mockConfig) (genesis none (testExt 1)) purgedRun) =
      [commitmentPreimage (testDid 1) (testDid 2) (Bytes32.ofNat 5) 1,
        commitmentPreimage (testDid 1) (testDid 2) (Bytes32.ofNat 5) 5] := by
  decide +kernel

theorem timely_purgedRun :
    Timely mockConfig (trace (step mockConfig) (genesis none (testExt 1)) purgedRun) where
  mono := by decide +kernel
  room := by decide +kernel
  injOn := by
    rw [registeredPreimages_purgedRun]
    have hne : tailHash (commitmentPreimage (testDid 1) (testDid 2) (Bytes32.ofNat 5) 1) ≠
        tailHash (commitmentPreimage (testDid 1) (testDid 2) (Bytes32.ofNat 5) 5) := by
      decide +kernel
    intro a ha b hb hab
    rcases List.mem_pair.mp ha with rfl | rfl <;> rcases List.mem_pair.mp hb with rfl | rfl
    · rfl
    · exact absurd hab hne
    · exact absurd hab.symm hne
    · rfl

/-- Different deals have different preimages, whatever blocks they are registered in. -/
theorem commitmentPreimage_ne {q q' : Did × Did × MerkleRoot × Nat} (hq : q.2.2.2 < 2 ^ 32)
    (hq' : q'.2.2.2 < 2 ^ 32) (hne : q ≠ q') :
    commitmentPreimage q.1 q.2.1 q.2.2.1 q.2.2.2 ≠
      commitmentPreimage q'.1 q'.2.1 q'.2.2.1 q'.2.2.2 := by
  intro h
  obtain ⟨hp, hc, hr, hb⟩ := commitmentPreimage_inj (Nat.le_of_lt_succ hq) (Nat.le_of_lt_succ hq') h
  exact hne (Prod.ext hp (Prod.ext hc (Prod.ext hr hb)))

end VectorDb
