import ArthNeura.OffchainVectorDb.Rows
import ArthNeura.OffchainVectorDb.CounterDispute
import ArthNeura.Runtime.Terms

set_option autoImplicit false

/-! # The client of a provider, and the chain

The registrations of a provider (`Registrations`) next to the composed runtime: a submission puts
the prepared call on the chain, between the calls of everybody else, and the identifier that the
client moves its chunks to is the one in the event of that call. A transaction may be lost, and it
may be included without the client hearing of it.

`Registrations` takes it for granted that the chain issues new identifiers. Here this is derived
from the hash (`Tied.fresh`), and every directory of the store is tied to what the chain has issued
(`Tied`, preserved by `Tied.step`).
-/

namespace OffchainVectorDb

open Frame
open VectorDb (Did CommitmentId VectorCommitment)
open Runtime (Anchored AllAligned Issued now hashes)

variable {AccountId : Type} [DecidableEq AccountId] {cfg : Runtime.Config AccountId}

/-- The chain, and the client of the provider with its store. -/
structure World (cfg : Runtime.Config AccountId) where
  chain : Runtime.State cfg
  client : State

inductive Delivery where
  /-- The transaction does not reach the chain. -/
  | lost
  /-- The transaction is included, and the client loses the connection. -/
  | unheard
  | heard

/-- A step of the chain without the client, or a step of registration `r`. -/
inductive Action (AccountId : Type) where
  | chain (i : Runtime.Input AccountId)
  | persist (r : Nat) (written : Option (List Bytes))
  | submit (r : Nat) (delivery : Delivery)
  | rekey (r : Nat)

/-- The events of `pallet-vector-db` from one state to a later one. -/
def deposited (s s' : Runtime.State cfg) : List VectorDb.Event :=
  s'.storage.events.drop s.storage.events.length

theorem deposited_of_append {s s' : Runtime.State cfg} {new : List VectorDb.Event}
    (h : s'.storage.events = s.storage.events ++ new) : deposited s s' = new := by
  rw [deposited, h, List.drop_left]

/-- The first field of the first `CommitmentRegistered` event. -/
def registeredId (events : List VectorDb.Event) : Option CommitmentId :=
  events.findSome? fun
    | .commitmentRegistered id _ _ _ _ _ _ => some id
    | _ => none

namespace World

variable (requests : Nat → Request) (signers : Nat → AccountId)

/-- The transaction of a prepared registration. -/
def transaction (r : Nat) (p : Prepared) : Runtime.Input AccountId :=
  .call (.signed (signers r)) (.vectorDb p.tx)

/-- What an action puts on the chain. -/
def chainInput (w : World cfg) : Action AccountId → Option (Runtime.Input AccountId)
  | .chain i => some i
  | .submit _ .lost => none
  | .submit r _ =>
      match w.client.phase r with
      | .staged p => some (transaction signers r p)
      | _ => none
  | .persist _ _ | .rekey _ => none

/-- What the client hears of its transaction: `wait_for_finalized_success` fails unless the call
went through, and the identifier is read from the events of the call. -/
def outcome (w : World cfg) (r : Nat) : Delivery → Option CommitmentId
  | .heard =>
      match w.client.phase r with
      | .staged p =>
          registeredId (deposited w.chain (Runtime.step w.chain (transaction signers r p)))
      | _ => none
  | .lost | .unheard => none

/-- The step of the client in an action. -/
def clientInput (w : World cfg) : Action AccountId → Option Input
  | .chain _ => none
  | .persist r written => some (.persist r written)
  | .submit r delivery => some (.submit r (outcome signers w r delivery))
  | .rekey r => some (.rekey r)

def step (w : World cfg) (a : Action AccountId) : World cfg where
  chain := (chainInput signers w a).elim w.chain (Runtime.step w.chain)
  client := (clientInput signers w a).elim w.client
    (OffchainVectorDb.step cfg.rsMerkle cfg.registry.blake2_256 requests w.client)

variable {requests signers} {w : World cfg}

theorem step_persist (r : Nat) (written : Option (List Bytes)) :
    step requests signers w (.persist r written) = ⟨w.chain,
      OffchainVectorDb.step cfg.rsMerkle cfg.registry.blake2_256 requests w.client
        (.persist r written)⟩ := rfl

theorem step_submit (r : Nat) (delivery : Delivery) :
    step requests signers w (.submit r delivery) =
      ⟨(chainInput signers w (.submit r delivery)).elim w.chain (Runtime.step w.chain),
        OffchainVectorDb.step cfg.rsMerkle cfg.registry.blake2_256 requests w.client
          (.submit r (outcome signers w r delivery))⟩ := rfl

theorem step_rekey (r : Nat) :
    step requests signers w (.rekey r) = ⟨w.chain,
      OffchainVectorDb.step cfg.rsMerkle cfg.registry.blake2_256 requests w.client
        (.rekey r)⟩ := rfl

theorem outcome_eq_some {r : Nat} {delivery : Delivery} {id : CommitmentId}
    (h : outcome signers w r delivery = some id) :
    ∃ p, w.client.phase r = .staged p ∧
      chainInput signers w (.submit r delivery) = some (transaction signers r p) ∧
      registeredId (deposited w.chain (Runtime.step w.chain (transaction signers r p)))
        = some id := by
  cases delivery with
  | lost => cases h
  | unheard => cases h
  | heard =>
      cases hp : w.client.phase r with
      | staged p =>
          simp only [outcome, hp] at h
          exact ⟨p, rfl, by simp only [chainInput, hp], h⟩
      | idle | accepted _ _ | rekeyed _ _ _ | failed =>
          simp only [outcome, hp] at h
          cases h

end World

/-! ## What the client prepares -/

theorem prepare_chunk_length {lib : Merkle.RsMerkle Bytes32} {blake2_256 : Bytes → Bytes32}
    {req : Request} {p : Prepared} (h : prepare lib blake2_256 req = .ok p) :
    ∀ chunk ∈ p.chunks, chunk.length ≤ maxChunkLen := by
  intro chunk hchunk
  cases hmode : req.mode with
  | bytes =>
      rw [prepare_bytes_ok hmode h] at hchunk
      exact (length_of_mem_slices (by decide) req.payload chunk hchunk).2
  | rows =>
      obtain ⟨heq, hfit⟩ := prepare_rows_ok hmode h
      rw [heq] at hchunk
      by_contra hlong
      exact hfit (Or.inr ⟨chunk, hchunk, Nat.lt_of_not_le hlong⟩)

/-! ## Steps of the client -/

section

variable (lib : Merkle.RsMerkle Bytes32) (blake2_256 : Bytes → Bytes32) (requests : Nat → Request)

theorem step_persist_cases (s : State) (r : Nat) (written : Option (List Bytes)) :
    step lib blake2_256 requests s (.persist r written) = s ∨
    ∃ store ph, step lib blake2_256 requests s (.persist r written) = s.advance r store ph ∧
      s.phase r = .idle ∧
      (ph = .failed ∨ ∃ p, prepare lib blake2_256 (requests r) = .ok p ∧ ph = .staged p) ∧
      ∀ d, store d ≠ none → s.store d ≠ none ∨ d = blake2_256 (requests r).payload := by
  have hpersist : ∀ p, prepare lib blake2_256 (requests r) = .ok p → ∀ chunks d,
      s.store.persist p.stagingId chunks d ≠ none →
      s.store d ≠ none ∨ d = blake2_256 (requests r).payload := by
    intro p hp chunks d hd
    by_cases hkey : d = p.stagingId
    · exact Or.inr (hkey.trans (prepare_stagingId hp))
    · rw [persist_ne s.store chunks hkey] at hd
      exact Or.inl hd
  rw [step]
  split
  · next hidle =>
      refine Or.inr ?_
      split
      · exact ⟨_, _, rfl, hidle, Or.inl rfl, fun d hd => Or.inl hd⟩
      · next p hp =>
          split
          · exact ⟨_, _, rfl, hidle, Or.inr ⟨p, hp, rfl⟩, hpersist p hp _⟩
          · exact ⟨_, _, rfl, hidle, Or.inl rfl, hpersist p hp _⟩
  · exact Or.inl rfl

theorem step_submit_cases (s : State) (r : Nat) (outcome : Option CommitmentId) :
    step lib blake2_256 requests s (.submit r outcome) = s ∨
    ∃ p, s.phase r = .staged p ∧ step lib blake2_256 requests s (.submit r outcome)
      = s.advance r s.store (outcome.elim .failed (.accepted p)) := by
  rw [step]
  split
  · next p hp =>
      refine Or.inr ⟨p, hp, ?_⟩
      cases outcome with
      | none => rfl
      | some id => rfl
  · exact Or.inl rfl

/-- The move of a registration that has what it relies on. -/
theorem step_rekey_cases {s : State} (h : Sound s) (r : Nat) :
    step lib blake2_256 requests s (.rekey r) = s ∨
    ∃ p id dir, s.phase r = .accepted p id ∧ step lib blake2_256 requests s (.rekey r)
      = s.advance r ((s.store.remove p.stagingId).insert id dir) (.rekeyed p id (.ok ())) := by
  rw [step]
  split
  · next p id hp =>
      have hph := h.phase r
      rw [hp] at hph
      obtain ⟨⟨dir, hdir, -⟩, hnone⟩ := hph
      rw [rekey_ok hdir hnone]
      exact Or.inr ⟨p, id, dir, hp, rfl⟩
  · exact Or.inl rfl

end

/-! ## What ties the client to the chain -/

/-- The key under which a registration has chunks staged. -/
def Phase.staging : Phase → Option CommitmentId
  | .staged p => some p.stagingId
  | .accepted p _ => some p.stagingId
  | .idle | .rekeyed _ _ _ | .failed => none

/-- The chain has issued `id` for the chunks of the registration. -/
def Registered (U : Set Bytes) (chain : Runtime.State cfg) (p : Prepared) (id : CommitmentId) :
    Prop :=
  ∃ c₀ : VectorCommitment, Anchored U c₀ chain ∧ c₀.commitmentId = id ∧
    c₀.merkleRoot = merkleRoot cfg.rsMerkle cfg.registry.blake2_256 p.chunks p.chunks_ne_nil ∧
    c₀.totalChunks = UInt64.ofNat p.chunks.length

/-- What the phase of a registration says about its request and about the chain. -/
def Phase.Linked (U : Set Bytes) (chain : Runtime.State cfg) (req : Request) : Phase → Prop
  | .idle | .failed => True
  | .staged p => prepare cfg.rsMerkle cfg.registry.blake2_256 req = .ok p
  | .accepted p id =>
      prepare cfg.rsMerkle cfg.registry.blake2_256 req = .ok p ∧ Registered U chain p id
  | .rekeyed p id result =>
      (prepare cfg.rsMerkle cfg.registry.blake2_256 req = .ok p ∧ Registered U chain p id) ∧
        result = .ok ()

/-- Where a directory of the store comes from. -/
def Accounted (blake2_256 : Bytes → Bytes32) (requests : Nat → Request) (store₀ : FsChunkStore)
    (s : State) (d : CommitmentId) : Prop :=
  store₀ d ≠ none ∨ (∃ r, d = blake2_256 (requests r).payload) ∨
    ∃ r p result, s.phase r = .rekeyed p d result

/-- The invariant of provider and chain, with the preimages of the identifiers taken from `U`. -/
structure Tied (U : Set Bytes) (requests : Nat → Request) (store₀ : FsChunkStore)
    (w : World cfg) : Prop where
  time : now w.chain ≤ u32Max
  aligned : AllAligned w.chain
  issued : ∀ id, Issued U w.chain id
  sound : Sound w.client
  linked : ∀ r, (w.client.phase r).Linked U w.chain (requests r)
  dirs : ∀ d, w.client.store d ≠ none →
    Accounted cfg.registry.blake2_256 requests store₀ w.client d

/-- The hash keeps apart what has to be kept apart: the preimages of identifiers from each other and
from the payloads, and the directories that the store starts with from new identifiers. -/
structure Apart (cfg : Runtime.Config AccountId) (U : Set Bytes) (requests : Nat → Request)
    (store₀ : FsChunkStore) : Prop where
  inj : Set.InjOn cfg.registry.blake2_256 U
  payload : ∀ r, ∀ b ∈ U,
    cfg.registry.blake2_256 (requests r).payload ≠ cfg.registry.blake2_256 b
  store : ∀ b ∈ U, store₀ (cfg.registry.blake2_256 b) = none

/-- The conditions on an action: the block number does not saturate, and no registration that comes
to stage its chunks does so under a key that another one has in use. -/
structure Orderly (requests : Nat → Request) (w : World cfg) (a : Action AccountId) : Prop where
  time : now w.chain < u32Max
  separate : ∀ r written p, a = .persist r written → w.client.phase r = .idle →
    prepare cfg.rsMerkle cfg.registry.blake2_256 (requests r) = .ok p →
    ∀ r' ≠ r, (w.client.phase r').staging ≠ some p.stagingId

section

variable {U : Set Bytes} {requests : Nat → Request} {signers : Nat → AccountId}
  {store₀ : FsChunkStore} {w : World cfg} {s s' : Runtime.State cfg}

theorem Registered.mem {p : Prepared} {id : CommitmentId} (h : Registered U s p id) :
    ∃ b ∈ U, cfg.registry.blake2_256 b = id := by
  obtain ⟨c₀, ha, hid, -⟩ := h
  exact ⟨_, ha.mem, ha.hash.trans hid⟩

/-- The chain moves on. -/
theorem Phase.Linked.mono {req : Request} {ph : Phase} (h : ph.Linked U s req)
    (hs : ∀ c₀, Anchored U c₀ s → Anchored U c₀ s') : ph.Linked U s' req := by
  have hreg : ∀ p id, Registered U s p id → Registered U s' p id := by
    rintro p id ⟨c₀, ha, hterms⟩
    exact ⟨c₀, hs c₀ ha, hterms⟩
  cases ph with
  | idle | failed => trivial
  | staged p => exact h
  | accepted p id => exact ⟨h.1, hreg p id h.2⟩
  | rekeyed p id result => exact ⟨⟨h.1.1, hreg p id h.1.2⟩, h.2⟩

/-- The directories of a registration: its staging key, and the identifier it was given. -/
theorem Phase.Linked.mem_dirs {req : Request} {ph : Phase} (h : ph.Linked U s req)
    {d : CommitmentId} (hd : d ∈ ph.dirs) :
    (ph.staging = some d ∧ d = cfg.registry.blake2_256 req.payload) ∨
      ∃ p, Registered U s p d := by
  cases ph with
  | idle | failed => exact absurd hd List.not_mem_nil
  | staged p =>
      rw [List.mem_singleton.mp hd]
      exact Or.inl ⟨rfl, prepare_stagingId h⟩
  | accepted p id =>
      rcases List.mem_pair.mp hd with rfl | rfl
      · exact Or.inl ⟨rfl, prepare_stagingId h.1⟩
      · exact Or.inr ⟨p, h.2⟩
  | rekeyed p id result =>
      rw [List.mem_singleton.mp hd]
      exact Or.inr ⟨p, h.1.2⟩

/-- One registration moves on, and had not been moved before. -/
theorem accounted_advance {s : State} {r : Nat} (store : FsChunkStore) {ph : Phase}
    (hr : ∀ p id result, s.phase r ≠ .rekeyed p id result) {d : CommitmentId}
    (h : Accounted cfg.registry.blake2_256 requests store₀ s d) :
    Accounted cfg.registry.blake2_256 requests store₀ (s.advance r store ph) d := by
  rcases h with h | h | ⟨r', p, result, hr'⟩
  · exact Or.inl h
  · exact Or.inr (Or.inl h)
  · have hne : r' ≠ r := by
      rintro rfl
      exact hr p d result hr'
    refine Or.inr (Or.inr ⟨r', p, result, ?_⟩)
    rw [advance_phase_ne _ _ _ hne]
    exact hr'

/-- **The client moves on.** The chain stays as it is. -/
theorem Tied.advance (h : Tied U requests store₀ w) {r : Nat} {store : FsChunkStore} {ph : Phase}
    (hsound : Sound (w.client.advance r store ph)) (hph : ph.Linked U w.chain (requests r))
    (hr : ∀ p id result, w.client.phase r ≠ .rekeyed p id result)
    (hstore : ∀ d, store d ≠ none → w.client.store d ≠ none ∨
      d = cfg.registry.blake2_256 (requests r).payload ∨ ∃ p result, ph = .rekeyed p d result) :
    Tied U requests store₀ ⟨w.chain, w.client.advance r store ph⟩ where
  time := h.time
  aligned := h.aligned
  issued := h.issued
  sound := hsound
  linked r' := by
    by_cases hrr : r' = r
    · subst hrr
      rw [advance_phase_self]
      exact hph
    · rw [advance_phase_ne _ _ _ hrr]
      exact h.linked r'
  dirs d hd := by
    rcases hstore d hd with hd | rfl | ⟨p, result, rfl⟩
    · exact accounted_advance store hr (h.dirs d hd)
    · exact Or.inr (Or.inl ⟨r, rfl⟩)
    · exact Or.inr (Or.inr ⟨r, p, result, advance_phase_self ..⟩)

/-- **The chain moves on**, whoever has sent the call. -/
theorem Tied.chain_step (hU : Apart cfg U requests store₀) (h : Tied U requests store₀ w)
    (i : Runtime.Input AccountId) (hmem : ∀ b, hashes w.chain i = some b → b ∈ U) :
    Tied U requests store₀ ⟨Runtime.step w.chain i, w.client⟩ where
  time := (Runtime.now_step h.time i).2
  aligned := Runtime.step_allAligned h.aligned i
  issued := Runtime.step_issued hU.inj h.time h.issued i hmem
  sound := h.sound
  linked r := (h.linked r).mono fun _ ha => ha.step hU.inj h.time i hmem
  dirs := h.dirs

theorem Tied.chain_elim (hU : Apart cfg U requests store₀) (h : Tied U requests store₀ w)
    (o : Option (Runtime.Input AccountId))
    (hmem : ∀ i, o = some i → ∀ b, hashes w.chain i = some b → b ∈ U) :
    Tied U requests store₀ ⟨o.elim w.chain (Runtime.step w.chain), w.client⟩ := by
  cases o with
  | none => exact h
  | some i => exact h.chain_step hU i (hmem i rfl)

/-! ## Steps of the provider -/

theorem Tied.persist (hU : Apart cfg U requests store₀) (h : Tied U requests store₀ w) {r : Nat}
    {written : Option (List Bytes)} (hw : Orderly requests w (.persist r written)) :
    Tied U requests store₀ (World.step requests signers w (.persist r written)) := by
  -- the staging key is no identifier that another registration was given
  have hsep : Separate cfg.rsMerkle cfg.registry.blake2_256 requests w.client
      (.persist r written) := by
    intro hidle p hp r' hne hmem
    rcases (h.linked r').mem_dirs hmem with ⟨hkey, -⟩ | ⟨_, hreg⟩
    · exact hw.separate r written p rfl hidle hp r' hne hkey
    · obtain ⟨b, hb, hid⟩ := hreg.mem
      rw [prepare_stagingId hp] at hid
      exact hU.payload r b hb hid.symm
  have hsound : Sound (step cfg.rsMerkle cfg.registry.blake2_256 requests w.client
    (.persist r written)) := step_persist h.sound hsep
  rw [World.step_persist]
  rcases step_persist_cases cfg.rsMerkle cfg.registry.blake2_256 requests w.client r
    written with heq | ⟨store, ph, heq, hidle, hph, hstore⟩
  · rw [heq]
    exact h
  · rw [heq] at hsound ⊢
    refine h.advance hsound ?_ (by simp [hidle]) fun d hd => ?_
    · rcases hph with rfl | ⟨p, hp, rfl⟩
      · trivial
      · exact hp
    · exact (hstore d hd).imp_right Or.inl

theorem Tied.rekey (h : Tied U requests store₀ w) (r : Nat) :
    Tied U requests store₀ (World.step requests signers w (.rekey r)) := by
  have hsound : Sound (step cfg.rsMerkle cfg.registry.blake2_256 requests w.client (.rekey r)) :=
    step_rekey h.sound r
  rw [World.step_rekey]
  rcases step_rekey_cases cfg.rsMerkle cfg.registry.blake2_256 requests h.sound r with
    heq | ⟨p, id, dir, hp, heq⟩
  · rw [heq]
    exact h
  · have hlinked := h.linked r
    rw [hp] at hlinked
    rw [heq] at hsound ⊢
    refine h.advance hsound ⟨hlinked, rfl⟩ (by simp [hp]) fun d hd => ?_
    by_cases hid : d = id
    · subst hid
      exact Or.inr (Or.inr ⟨p, _, rfl⟩)
    · rw [StorageMap.insert_ne hid] at hd
      refine Or.inl fun hnone => hd ?_
      by_cases hkey : d = p.stagingId
      · rw [hkey, StorageMap.remove_self]
      · rw [StorageMap.remove_ne hkey]
        exact hnone

/-- A transaction from whose events the client reads an identifier went through: the identifier is
new, and stands for the terms of the registration. -/
theorem registeredId_transaction {r : Nat} {p : Prepared} {id : CommitmentId}
    (hp : prepare cfg.rsMerkle cfg.registry.blake2_256 (requests r) = .ok p)
    (hid : registeredId (deposited s (Runtime.step s (World.transaction signers r p))) = some id)
    (hmem : ∀ b, hashes s (World.transaction signers r p) = some b → b ∈ U)
    (hmax : now s < u32Max) :
    Registered U (Runtime.step s (World.transaction signers r p)) p id ∧
    ∃ provider consumer root,
      VectorDb.commitmentPreimage provider consumer root (now s) ∈ U ∧
      cfg.registry.blake2_256 (VectorDb.commitmentPreimage provider consumer root (now s)) = id ∧
      s.storage.vectorCommitments id = none := by
  obtain ⟨hmeta, -, -, -, htx⟩ := prepare_ok hp
  rw [World.transaction] at hid hmem ⊢
  rcases dispatch_cases (p.tx.run cfg.vectorDb (.signed (signers r))) s with
    ⟨s', hok, hs'⟩ | ⟨-, hs'⟩
  · rw [Runtime.step, hs'] at hid ⊢
    rw [htx] at hok hmem
    have hU := hmem _ rfl
    have hanchored := Runtime.anchored_register hok hU hmax
    obtain ⟨-, -, -, -, -, -, -, -, -, hnone, rfl⟩ := VectorDb.registerCommitment_ok.mp hok
    rw [deposited_of_append rfl] at hid
    obtain rfl := Option.some.inj hid
    exact ⟨⟨_, hanchored, rfl, rfl, rfl⟩, _, _, _, hU, rfl, hnone⟩
  · -- a call that fails deposits no event
    rw [Runtime.step, hs', deposited, List.drop_length] at hid
    cases hid

/-- A new identifier is one that no registration was given before, and no directory has. -/
theorem Tied.fresh (hU : Apart cfg U requests store₀) (h : Tied U requests store₀ w)
    {provider consumer : Did} {root : VectorDb.MerkleRoot} {id : CommitmentId}
    (hmem : VectorDb.commitmentPreimage provider consumer root (now w.chain) ∈ U)
    (hid : cfg.registry.blake2_256
      (VectorDb.commitmentPreimage provider consumer root (now w.chain)) = id)
    (hnone : w.chain.storage.vectorCommitments id = none) :
    w.client.store id = none ∧ ∀ r, id ∉ (w.client.phase r).dirs := by
  have hnew : ∀ p, ¬ Registered U w.chain p id := by
    rintro p ⟨c₀, ha, rfl, -⟩
    exact ha.not_reissued hU.inj h.time hmem hid hnone
  have hkey : ∀ r, cfg.registry.blake2_256 (requests r).payload ≠ id :=
    fun r heq => hU.payload r _ hmem (heq.trans hid.symm)
  constructor
  · by_contra hdir
    rcases h.dirs id hdir with hstore | ⟨r, heq⟩ | ⟨r, p, result, hr⟩
    · exact hstore (hid ▸ hU.store _ hmem)
    · exact hkey r heq.symm
    · have hlinked := h.linked r
      rw [hr] at hlinked
      exact hnew p hlinked.1.2
  · intro r hd
    rcases (h.linked r).mem_dirs hd with ⟨-, heq⟩ | ⟨p, hreg⟩
    · exact hkey r heq.symm
    · exact hnew p hreg

theorem Tied.submit (hU : Apart cfg U requests store₀) (h : Tied U requests store₀ w) {r : Nat}
    {delivery : Delivery} (hw : Orderly requests w (.submit r delivery))
    (hmem : ∀ i, World.chainInput signers w (.submit r delivery) = some i →
      ∀ b, hashes w.chain i = some b → b ∈ U) :
    Tied U requests store₀ (World.step requests signers w (.submit r delivery)) := by
  -- first the chain takes the transaction, then the client its outcome
  have hchain := h.chain_elim hU _ hmem
  rw [World.step_submit]
  cases hout : World.outcome signers w r delivery with
  | none =>
      rcases step_submit_cases cfg.rsMerkle cfg.registry.blake2_256 requests w.client r
        none with heq | ⟨p, hp, heq⟩
      · rw [heq]
        exact hchain
      · rw [heq]
        exact hchain.advance (h.sound.fail fun _ _ _ _ => rfl) trivial (by simp [hp])
          fun d hd => Or.inl hd
  | some id =>
      obtain ⟨p, hp, hinput, hid⟩ := World.outcome_eq_some hout
      have hlinked := h.linked r
      rw [hp] at hlinked
      obtain ⟨hreg, provider, consumer, root, hU', hhash, hnone⟩ :=
        registeredId_transaction hlinked hid (hmem _ hinput) hw.time
      have hsound : Sound (step cfg.rsMerkle cfg.registry.blake2_256 requests w.client
        (.submit r (some id))) := step_submit h.sound (h.fresh hU hU' hhash hnone)
      rw [hinput] at hchain ⊢
      rcases step_submit_cases cfg.rsMerkle cfg.registry.blake2_256 requests w.client r
        (some id) with heq | ⟨p', hp', heq⟩
      · rw [heq]
        exact hchain
      · cases hp.symm.trans hp'
        rw [heq] at hsound ⊢
        exact hchain.advance hsound ⟨hlinked, hreg⟩ (by simp [hp]) fun d hd => Or.inl hd

/-- The invariant holds of every step of the world. -/
theorem Tied.step (hU : Apart cfg U requests store₀) (h : Tied U requests store₀ w)
    (a : Action AccountId) (hw : Orderly requests w a)
    (hmem : ∀ i, World.chainInput signers w a = some i → ∀ b, hashes w.chain i = some b → b ∈ U) :
    Tied U requests store₀ (World.step requests signers w a) := by
  cases a with
  | chain i => exact h.chain_step hU i (hmem i rfl)
  | persist r written => exact h.persist hU hw
  | submit r delivery => exact h.submit hU hw hmem
  | rekey r => exact h.rekey r

end

end OffchainVectorDb
