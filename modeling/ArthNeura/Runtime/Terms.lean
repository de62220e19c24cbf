import ArthNeura.Runtime.Coherence

set_option autoImplicit false

/-! # The terms behind an identifier

Whoever has registered a commitment keeps its identifier, and relies on it to mean the same deal
for ever: whatever is stored under the identifier later on has the terms of the registration.
Provider, consumer and root are part of the hashed preimage, but the number of chunks and the price
are not; they stay because the identifier is bound to its block and is not issued again, not even
after the commitment has expired (`Anchored.step`).
-/

namespace Runtime

open Frame VectorDb

variable {AccountId : Type} [DecidableEq AccountId] {cfg : Config AccountId}

theorem SameTerms.trans {a b c : VectorCommitment} (hab : SameTerms a b) (hbc : SameTerms b c) :
    SameTerms a c where
  commitmentId := hbc.commitmentId.trans hab.commitmentId
  provider := hbc.provider.trans hab.provider
  consumer := hbc.consumer.trans hab.consumer
  merkleRoot := hbc.merkleRoot.trans hab.merkleRoot
  totalChunks := hbc.totalChunks.trans hab.totalChunks
  metadata := hbc.metadata.trans hab.metadata
  price := hbc.price.trans hab.price
  createdAt := hbc.createdAt.trans hab.createdAt
  expiresAt := hbc.expiresAt.trans hab.expiresAt

/-- The identifier of `c₀` stands for the terms of `c₀`. The hash is taken to separate the preimages
in `U`. -/
structure Anchored (U : Set Bytes) (c₀ : VectorCommitment) (s : State cfg) : Prop where
  mem : preimageOf c₀ ∈ U
  hash : cfg.registry.blake2_256 (preimageOf c₀) = c₀.commitmentId
  room : c₀.createdAt < c₀.expiresAt
  past : c₀.createdAt ≤ now s
  stored : ∀ c, s.storage.vectorCommitments c₀.commitmentId = some c → SameTerms c₀ c
  /-- A commitment does not expire in the block of its registration. -/
  gone : s.storage.vectorCommitments c₀.commitmentId = none → c₀.createdAt < now s

section

variable {U : Set Bytes} {c₀ : VectorCommitment} {s s' : State cfg}

theorem Anchored.keep (h : Anchored U c₀ s)
    (hc : s'.storage.vectorCommitments c₀.commitmentId
      = s.storage.vectorCommitments c₀.commitmentId) (hnow : now s ≤ now s') :
    Anchored U c₀ s' where
  mem := h.mem
  hash := h.hash
  room := h.room
  past := h.past.trans hnow
  stored c hc' := h.stored c (hc ▸ hc')
  gone hnone := (h.gone (hc ▸ hnone)).trans_le hnow

/-- A commitment that keeps its terms. -/
theorem Anchored.rewrite (h : Anchored U c₀ s) {c c' : VectorCommitment}
    (hc : s.storage.vectorCommitments c₀.commitmentId = some c)
    (hc' : s'.storage.vectorCommitments c₀.commitmentId = some c') (hterms : SameTerms c c')
    (hnow : now s' = now s) :
    Anchored U c₀ s' where
  mem := h.mem
  hash := h.hash
  room := h.room
  past := h.past.trans hnow.ge
  stored c'' hc'' := by
    cases hc'.symm.trans hc''
    exact SameTerms.trans (h.stored c hc) hterms
  gone hnone := by cases hc'.symm.trans hnone

/-- The block of a new commitment, if its preimage hashes to the identifier of `c₀`. -/
theorem Anchored.not_reissued (h : Anchored U c₀ s) (hinj : Set.InjOn cfg.registry.blake2_256 U)
    (hmax : now s ≤ u32Max) {provider consumer : Did} {merkleRoot : MerkleRoot}
    (hU : commitmentPreimage provider consumer merkleRoot (now s) ∈ U)
    (hid : cfg.registry.blake2_256 (commitmentPreimage provider consumer merkleRoot (now s))
      = c₀.commitmentId) :
    s.storage.vectorCommitments c₀.commitmentId ≠ none := by
  intro hnone
  have hlt := h.gone hnone
  have hpre := hinj hU h.mem (hid.trans h.hash.symm)
  obtain ⟨-, -, -, hblock⟩ := commitmentPreimage_inj hmax (hlt.le.trans hmax) hpre
  omega

theorem CallEffect.anchored {origin : Origin AccountId} {call : VectorDb.Call}
    (h : CallEffect s s' origin call) (hinj : Set.InjOn cfg.registry.blake2_256 U)
    (hU : ∀ b, hashes s (.call origin (.vectorDb call)) = some b → b ∈ U) (hmax : now s ≤ u32Max)
    (hid : c₀.commitmentId = call.target cfg.vectorDb s) (ha : Anchored U c₀ s) :
    Anchored U c₀ s' := by
  have hnow : now s' = now s := by rw [now, now, h.system]
  cases h with
  | register _ _ _ _ _ _ _ _ hc hnone _ _ =>
      subst hc
      refine absurd ?_ (ha.not_reissued hinj hmax (hU _ rfl) hid.symm)
      rw [hid]
      exact hnone
  | acknowledge _ hc _ _ _ _ _ _ _ hrec _ =>
      obtain rfl : c₀.commitmentId = _ := hid
      exact ha.rewrite hc (congrArg Records.commitment hrec)
        ⟨rfl, rfl, rfl, rfl, rfl, rfl, rfl, rfl, rfl⟩ hnow
  | close _ hc _ _ _ _ _ _ _ _ hrec _ =>
      obtain rfl : c₀.commitmentId = _ := hid
      exact ha.rewrite hc (congrArg Records.commitment hrec)
        ⟨rfl, rfl, rfl, rfl, rfl, rfl, rfl, rfl, rfl⟩ hnow
  | raise _ hc _ _ _ _ _ _ hrec _ =>
      obtain rfl : c₀.commitmentId = _ := hid
      exact ha.rewrite hc (congrArg Records.commitment hrec)
        ⟨rfl, rfl, rfl, rfl, rfl, rfl, rfl, rfl, rfl⟩ hnow
  | counter _ hc _ _ _ _ _ _ _ _ _ _ hrec _ =>
      obtain rfl : c₀.commitmentId = _ := hid
      exact ha.rewrite hc (congrArg Records.commitment hrec)
        ⟨rfl, rfl, rfl, rfl, rfl, rfl, rfl, rfl, rfl⟩ hnow
  | finalize _ hc _ _ _ _ _ hrec _ =>
      obtain rfl : c₀.commitmentId = _ := hid
      exact ha.rewrite hc (congrArg Records.commitment hrec)
        ⟨rfl, rfl, rfl, rfl, rfl, rfl, rfl, rfl, rfl⟩ hnow
  | expire _ hc _ hexp hrec _ =>
      obtain rfl : c₀.commitmentId = _ := hid
      have hgone := congrArg Records.commitment hrec
      refine ⟨ha.mem, ha.hash, ha.room, ha.past.trans hnow.ge, fun c' hc' => ?_, fun _ => ?_⟩
      · cases hgone.symm.trans hc'
      · -- it has expired, so its block has passed
        have hterms := (ha.stored _ hc).expiresAt
        have hroom := ha.room
        omega

/-- **An identifier keeps its terms.** -/
theorem Anchored.step (h : Anchored U c₀ s) (hinj : Set.InjOn cfg.registry.blake2_256 U)
    (hmax : now s ≤ u32Max) (i : Input AccountId) (hU : ∀ b, hashes s i = some b → b ∈ U) :
    Anchored U c₀ (step s i) := by
  have hnow := (now_step hmax i).1
  rcases step_effect s i with ⟨origin, c, rfl, -, heff, hframe⟩ | hp
  · by_cases hid : c₀.commitmentId = c.target cfg.vectorDb s
    · exact heff.anchored hinj hU hmax hid h
    · exact h.keep (congrArg Entry.commitment (hframe _ hid)) hnow
  · exact h.keep (congrArg Entry.commitment (hp.entry _)) hnow

/-- A registration that goes through anchors its terms. -/
theorem anchored_register {origin : Origin AccountId} {provider consumer : Did}
    {merkleRoot : MerkleRoot} {totalChunks : UInt64}
    {metadata : BoundedVec UInt8 maxMetadataLen} {expiresInBlocks price : Nat}
    (hok : (registerCommitment cfg.vectorDb origin provider consumer merkleRoot totalChunks
      metadata expiresInBlocks price).run s = .ok () s')
    (hU : commitmentPreimage provider consumer merkleRoot (now s) ∈ U) (hmax : now s < u32Max) :
    Anchored U (newCommitment s provider consumer merkleRoot totalChunks metadata
      expiresInBlocks price) s' := by
  have heff := vectorDb_effect (c := .registerCommitment provider consumer merkleRoot totalChunks
    metadata expiresInBlocks price) hok
  have hnow : now s' = now s := by rw [now, now, heff.system]
  cases heff with
  | register _ _ _ _ _ _ hexpires _ hc _ hrec _ =>
      subst hc
      have hstored := congrArg Records.commitment hrec
      refine ⟨hU, rfl, ?_, hnow.ge, fun c hc => ?_, fun hnone => ?_⟩
      · show now s < satAdd (now s) expiresInBlocks
        rw [satAdd]
        omega
      · cases hstored.symm.trans hc
        exact .refl _
      · cases hstored.symm.trans hnone

end

end Runtime
