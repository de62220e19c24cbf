import ArthNeura.VectorDb.Spec
import ArthNeura.VectorDb.Mock
import ArthNeura.Frame.Run

set_option autoImplicit false

/-! # The life of a commitment

The records stored under one identifier (`Records`) move by the transition relation
`Transition`, one constructor for each call that has something to change. A successful call is
one transition at its own identifier and changes nothing at any other (`call_transition`);
everything about whole runs is an induction over this one fact, for every registry, escrow and
block history, since the rest of the runtime may be replaced at will between two calls.
-/

namespace VectorDb

open Frame

variable {AccountId Ext : Type} [DecidableEq AccountId] {cfg : Config AccountId Ext}

/-- What is stored under one identifier. -/
structure Records where
  commitment : Option VectorCommitment
  dispute : Option DisputeRecord
  receipt : Option StreamReceipt
  deriving DecidableEq

def State.records (s : State Ext) (id : CommitmentId) : Records :=
  ⟨s.storage.vectorCommitments id, s.storage.disputeRecords id, s.storage.streamReceipts id⟩

/-- The transitions of the records under one identifier. -/
inductive Transition : Records → Records → Prop
  | register {d r} (c : VectorCommitment) (hst : c.status = .pending)
      (hack : c.acknowledgedAt = none) : Transition ⟨none, d, r⟩ ⟨some c, d, r⟩
  | acknowledge {c d r} (hst : c.status = .pending) (now : Nat) :
      Transition ⟨some c, d, r⟩
        ⟨some { c with status := .active, acknowledgedAt := some now }, d, r⟩
  | close {c d r} (hst : c.status = .active) (receipt : StreamReceipt) :
      Transition ⟨some c, d, r⟩ ⟨some { c with status := .settled }, d, some receipt⟩
  | raise {c r} (hst : c.status = .active) (dispute : DisputeRecord) :
      Transition ⟨some c, none, r⟩ ⟨some { c with status := .disputed }, some dispute, r⟩
  | resolve {c d r} (hst : c.status = .disputed) (verdict : DisputeVerdict) :
      Transition ⟨some c, some d, r⟩
        ⟨some { c with status := .disputeResolved }, some { d with verdict := some verdict }, r⟩
  | expire {c d r} (hst : c.status = .pending ∨ c.status = .active) :
      Transition ⟨some c, d, r⟩ ⟨none, d, r⟩

/-- The identifier a call acts on. -/
def Call.target (cfg : Config AccountId Ext) (s : State Ext) : Call → CommitmentId
  | .registerCommitment providerDid consumerDid merkleRoot _ _ _ _ =>
      cfg.blake2_256 (commitmentPreimage providerDid consumerDid merkleRoot
        (cfg.blockNumber s.ext))
  | .acknowledgeCommitment id _ => id
  | .closeCommitment id _ _ _ => id
  | .raiseDispute id _ _ _ _ => id
  | .counterDispute id _ _ _ => id
  | .finalizeDispute id => id
  | .expireCommitment id => id

/-- **A successful call is one transition at its own identifier.** A commitment is removed only
by `expire_commitment`. -/
theorem call_transition {origin : Origin AccountId} {c : Call} {s s' : State Ext}
    (h : (c.run cfg origin).run s = .ok () s') :
    Transition (s.records (c.target cfg s)) (s'.records (c.target cfg s)) ∧
    (∀ j, j ≠ c.target cfg s → s'.records j = s.records j) ∧
    ((s'.records (c.target cfg s)).commitment = none →
      c = .expireCommitment (c.target cfg s)) := by
  cases c with
  | registerCommitment providerDid consumerDid merkleRoot totalChunks metadata expires price =>
      obtain ⟨-, -, -, -, -, -, -, -, -, hnone, rfl⟩ := registerCommitment_ok.mp h
      refine ⟨?_, fun j hj => ?_, fun hn => ?_⟩
      · simp only [Call.target, State.records, hnone]
        simpa [State.records] using Transition.register _ rfl rfl
      · simp only [Call.target] at hj
        simp [State.records, hj]
      · simp [Call.target, State.records] at hn
  | acknowledgeCommitment id consumerDid =>
      obtain ⟨-, -, c, hc, hst, -, -, -, -, -, ext, -, rfl⟩ := acknowledgeCommitment_ok.mp h
      refine ⟨?_, fun j hj => ?_, fun hn => ?_⟩
      · simpa [Call.target, State.records, hc] using Transition.acknowledge hst _
      · simp only [Call.target] at hj
        simp [State.records, hj]
      · simp [Call.target, State.records] at hn
  | closeCommitment id consumerDid finalStreamHash chunkCount =>
      obtain ⟨-, -, c, hc, hst, -, -, -, -, ext, -, rfl⟩ := closeCommitment_ok.mp h
      refine ⟨?_, fun j hj => ?_, fun hn => ?_⟩
      · simpa [Call.target, State.records, hc] using Transition.close hst _
      · simp only [Call.target] at hj
        simp [State.records, hj]
      · simp [Call.target, State.records] at hn
  | raiseDispute id consumerDid index hash chunkCount =>
      obtain ⟨-, -, c, hc, hst, -, -, -, hnone, -, rfl⟩ := (raiseDispute_ok chunkCount).mp h
      refine ⟨?_, fun j hj => ?_, fun hn => ?_⟩
      · simpa [Call.target, State.records, hc, hnone] using Transition.raise hst _
      · simp only [Call.target] at hj
        simp [State.records, hj]
      · simp [Call.target, State.records] at hn
  | counterDispute id providerDid chunkData merkleProof =>
      obtain ⟨-, -, c, hc, hst, -, -, d, hd, -, -, -, ext, -, rfl⟩ := counterDispute_ok.mp h
      refine ⟨?_, fun j hj => ?_, fun hn => ?_⟩
      · simpa [Call.target, State.records, hc, hd] using Transition.resolve hst _
      · simp only [Call.target] at hj
        simp [State.records, hj]
      · simp [Call.target, State.records] at hn
  | finalizeDispute id =>
      obtain ⟨-, -, c, hc, hst, d, hd, -, ext, -, rfl⟩ := finalizeDispute_ok.mp h
      refine ⟨?_, fun j hj => ?_, fun hn => ?_⟩
      · simpa [Call.target, State.records, hc, hd] using Transition.resolve hst _
      · simp only [Call.target] at hj
        simp [State.records, hj]
      · simp [Call.target, State.records] at hn
  | expireCommitment id =>
      obtain ⟨-, -, c, hc, hst, -, rfl⟩ := expireCommitment_ok.mp h
      refine ⟨?_, fun j hj => ?_, fun _ => rfl⟩
      · simpa [Call.target, State.records, hc] using Transition.expire hst
      · simp only [Call.target] at hj
        simp [State.records, hj]

/-- No call sets the dispute window. -/
theorem call_disputeWindowOverride {origin : Origin AccountId} {c : Call} {s s' : State Ext}
    (h : (c.run cfg origin).run s = .ok () s') :
    s'.storage.disputeWindowOverride = s.storage.disputeWindowOverride := by
  cases c with
  | registerCommitment providerDid consumerDid merkleRoot totalChunks metadata expires price =>
      obtain ⟨-, -, -, -, -, -, -, -, -, -, rfl⟩ := registerCommitment_ok.mp h
      rfl
  | acknowledgeCommitment id consumerDid =>
      obtain ⟨-, -, _, -, -, -, -, -, -, -, _, -, rfl⟩ := acknowledgeCommitment_ok.mp h
      rfl
  | closeCommitment id consumerDid finalStreamHash chunkCount =>
      obtain ⟨-, -, _, -, -, -, -, -, -, _, -, rfl⟩ := closeCommitment_ok.mp h
      rfl
  | raiseDispute id consumerDid index hash chunkCount =>
      obtain ⟨-, -, _, -, -, -, -, -, -, -, rfl⟩ := (raiseDispute_ok chunkCount).mp h
      rfl
  | counterDispute id providerDid chunkData merkleProof =>
      obtain ⟨-, -, _, -, -, -, -, _, -, -, -, -, _, -, rfl⟩ := counterDispute_ok.mp h
      rfl
  | finalizeDispute id =>
      obtain ⟨-, -, _, -, -, _, -, -, _, -, rfl⟩ := finalizeDispute_ok.mp h
      rfl
  | expireCommitment id =>
      obtain ⟨-, -, _, -, -, -, rfl⟩ := expireCommitment_ok.mp h
      rfl

/-! ## What one transition preserves -/

def VectorCommitment.Terminal (c : VectorCommitment) : Prop :=
  c.status = .settled ∨ c.status = .disputeResolved

/-- The edges of the life cycle; a commitment is also registered and removed. -/
inductive StatusEdge : CommitmentStatus → CommitmentStatus → Prop
  | acknowledged : StatusEdge .pending .active
  | settled : StatusEdge .active .settled
  | disputed : StatusEdge .active .disputed
  | resolved : StatusEdge .disputed .disputeResolved

/-- Two versions of a commitment agree on the terms of the deal. -/
structure SameTerms (c c' : VectorCommitment) : Prop where
  commitmentId : c'.commitmentId = c.commitmentId
  provider : c'.provider = c.provider
  consumer : c'.consumer = c.consumer
  merkleRoot : c'.merkleRoot = c.merkleRoot
  totalChunks : c'.totalChunks = c.totalChunks
  metadata : c'.metadata = c.metadata
  price : c'.price = c.price
  createdAt : c'.createdAt = c.createdAt
  expiresAt : c'.expiresAt = c.expiresAt

theorem SameTerms.refl (c : VectorCommitment) : SameTerms c c :=
  ⟨rfl, rfl, rfl, rfl, rfl, rfl, rfl, rfl, rfl⟩

theorem StatusEdge.ne_pending {a b : CommitmentStatus} (h : StatusEdge a b) : b ≠ .pending := by
  cases h <;> decide

namespace Transition

variable {x y : Records} {c c' : VectorCommitment}

theorem status_edge (h : Transition x y) (hx : x.commitment = some c)
    (hy : y.commitment = some c') : StatusEdge c.status c'.status := by
  cases h with
  | register => cases hx
  | acknowledge hst now => cases hx; cases hy; rw [hst]; exact .acknowledged
  | close hst r => cases hx; cases hy; rw [hst]; exact .settled
  | raise hst d => cases hx; cases hy; rw [hst]; exact .disputed
  | resolve hst v => cases hx; cases hy; rw [hst]; exact .resolved
  | expire => cases hy

theorem sameTerms (h : Transition x y) (hx : x.commitment = some c)
    (hy : y.commitment = some c') : SameTerms c c' := by
  cases h with
  | register => cases hx
  | acknowledge | close | raise | resolve => cases hx; cases hy; constructor <;> rfl
  | expire => cases hy

/-- Only `acknowledge_commitment` writes the block of the acknowledgement. -/
theorem acknowledgedAt (h : Transition x y) (hx : x.commitment = some c)
    (hy : y.commitment = some c') (hun : c.status = .pending → c.acknowledgedAt = none) :
    c'.acknowledgedAt ≠ c.acknowledgedAt ↔ c.status = .pending ∧ c'.status = .active := by
  cases h with
  | register => cases hx
  | acknowledge hst now =>
      cases hx; cases hy
      simp [hst, hun hst]
  | close hst | raise hst | resolve hst => cases hx; cases hy; simp [hst]
  | expire => cases hy

theorem registered (h : Transition x y) (hx : x.commitment = none)
    (hy : y.commitment = some c') : c'.status = .pending ∧ c'.acknowledgedAt = none := by
  cases h with
  | register c hst hack => cases hy; exact ⟨hst, hack⟩
  | acknowledge | close | raise | resolve => cases hx
  | expire => cases hy

theorem removed (h : Transition x y) (hx : x.commitment = some c)
    (hy : y.commitment = none) : c.status = .pending ∨ c.status = .active := by
  cases h with
  | register | acknowledge | close | raise | resolve => cases hy
  | expire hst => cases hx; exact hst

/-- Nothing happens to a terminal commitment. -/
theorem not_terminal (h : Transition x y) (hx : x.commitment = some c) : ¬ c.Terminal := by
  cases h with
  | register => cases hx
  | acknowledge hst | close hst | raise hst | resolve hst =>
      cases hx
      simp [VectorCommitment.Terminal, hst]
  | expire hst =>
      cases hx
      rcases hst with hst | hst <;> simp [VectorCommitment.Terminal, hst]

end Transition

/-! ## Runs -/

/-- Either a call, or any change of the rest of the runtime: new blocks, calls of other
pallets. -/
inductive Input (AccountId Ext : Type) where
  | call (origin : Origin AccountId) (c : Call)
  | environment (ext : Ext)

def step (cfg : Config AccountId Ext) (s : State Ext) : Input AccountId Ext → State Ext
  | .call origin c => dispatch (c.run cfg origin) s
  | .environment ext => s.putExt ext

def genesis (disputeWindow : Option Nat) (ext : Ext) : State Ext :=
  ⟨Storage.genesis disputeWindow, ext⟩

/-- A step leaves the records under `id` alone or is one transition of them; in the second
case it is a call on `id`. -/
theorem step_transition (cfg : Config AccountId Ext) (s : State Ext) (i : Input AccountId Ext)
    (id : CommitmentId) :
    (step cfg s i).records id = s.records id ∨
    (Transition (s.records id) ((step cfg s i).records id) ∧
      ∃ origin c, i = .call origin c ∧ c.target cfg s = id ∧
        (((step cfg s i).records id).commitment = none → c = .expireCommitment id)) := by
  cases i with
  | environment ext => exact Or.inl rfl
  | call origin c =>
      rcases dispatch_cases (c.run cfg origin) s with ⟨s', hok, hd⟩ | ⟨-, hd⟩
      · obtain ⟨htr, hframe, hrem⟩ := call_transition hok
        rw [step, hd]
        by_cases hid : id = c.target cfg s
        · subst hid
          exact Or.inr ⟨htr, origin, c, rfl, rfl, hrem⟩
        · exact Or.inl (hframe id hid)
      · rw [step, hd]
        exact Or.inl rfl

/-- A pending commitment has not been acknowledged. -/
def PendingUnacknowledged (s : State Ext) : Prop :=
  ∀ id c, s.storage.vectorCommitments id = some c → c.status = .pending →
    c.acknowledgedAt = none

theorem pendingUnacknowledged_genesis (disputeWindow : Option Nat) (ext : Ext) :
    PendingUnacknowledged (genesis disputeWindow ext) := by
  intro id c hc
  cases hc

theorem step_pendingUnacknowledged (s : State Ext) (i : Input AccountId Ext)
    (h : PendingUnacknowledged s) : PendingUnacknowledged (step cfg s i) := by
  intro id c' hc' hst'
  have hy : ((step cfg s i).records id).commitment = some c' := hc'
  rcases step_transition cfg s i id with heq | ⟨htr, -⟩
  · rw [heq] at hy
    exact h id c' hy hst'
  · cases hx : (s.records id).commitment with
    | none => exact (htr.registered hx hy).2
    | some c =>
        -- no edge of the life cycle leads to `Pending`
        exact absurd hst' (htr.status_edge hx hy).ne_pending

/-- A terminal commitment is final, with its dispute and its receipt. -/
theorem step_terminal (s : State Ext) (i : Input AccountId Ext) (id : CommitmentId)
    {c : VectorCommitment} (hc : s.storage.vectorCommitments id = some c) (ht : c.Terminal) :
    (step cfg s i).records id = s.records id := by
  rcases step_transition cfg s i id with heq | ⟨htr, -⟩
  · exact heq
  · exact absurd ht (htr.not_terminal hc)

theorem exec_terminal (run : List (Input AccountId Ext)) (s : State Ext) (id : CommitmentId)
    {c : VectorCommitment} (hc : s.storage.vectorCommitments id = some c) (ht : c.Terminal) :
    (exec (step cfg) s run).records id = s.records id := by
  have hc' : (s.records id).commitment = some c := hc
  refine exec_rel (fun s t : State Ext =>
      (s.records id).commitment = some c → t.records id = s.records id)
    (fun _ _ => rfl) (fun s t u hst htu h => ?_) (fun s i h => step_terminal s i id h ht) run s hc'
  have h1 := hst h
  rw [htu (by rw [h1]; exact h), h1]

/-- What a step may do to the records stored under `id`. -/
structure LawfulStep (cfg : Config AccountId Ext) (s : State Ext) (i : Input AccountId Ext)
    (id : CommitmentId) : Prop where
  /-- A stored commitment keeps its status or moves along an edge. -/
  status : ∀ c c', s.storage.vectorCommitments id = some c →
    (step cfg s i).storage.vectorCommitments id = some c' →
    c'.status = c.status ∨ StatusEdge c.status c'.status
  /-- It is removed only by `expire_commitment`, while it is pending or active. -/
  removed : ∀ c, s.storage.vectorCommitments id = some c →
    (step cfg s i).storage.vectorCommitments id = none →
    (c.status = .pending ∨ c.status = .active) ∧
      ∃ origin, i = .call origin (.expireCommitment id)
  /-- A new commitment is pending. -/
  registered : ∀ c', s.storage.vectorCommitments id = none →
    (step cfg s i).storage.vectorCommitments id = some c' →
    c'.status = .pending ∧ c'.acknowledgedAt = none
  terms : ∀ c c', s.storage.vectorCommitments id = some c →
    (step cfg s i).storage.vectorCommitments id = some c' → SameTerms c c'
  acknowledgedAt : ∀ c c', s.storage.vectorCommitments id = some c →
    (step cfg s i).storage.vectorCommitments id = some c' →
    (c'.acknowledgedAt ≠ c.acknowledgedAt ↔ c.status = .pending ∧ c'.status = .active)
  /-- A call on another identifier changes nothing here. -/
  frame : ∀ origin c, i = .call origin c → c.target cfg s ≠ id →
    (step cfg s i).records id = s.records id

theorem lawfulStep_of_eq {s : State Ext} {i : Input AccountId Ext} {id : CommitmentId}
    (heq : (step cfg s i).records id = s.records id) : LawfulStep cfg s i id := by
  have hcomm : (step cfg s i).storage.vectorCommitments id = s.storage.vectorCommitments id :=
    congrArg Records.commitment heq
  have same : ∀ {c c'}, s.storage.vectorCommitments id = some c →
      (step cfg s i).storage.vectorCommitments id = some c' → c' = c := by
    intro c c' hc hc'
    rw [hcomm, hc] at hc'
    exact (Option.some.inj hc').symm
  refine ⟨fun c c' hc hc' => ?_, fun c hc hn => ?_, fun c' hn hc' => ?_, fun c c' hc hc' => ?_,
    fun c c' hc hc' => ?_, fun _ _ _ _ => heq⟩
  · exact Or.inl (by rw [same hc hc'])
  · rw [hcomm, hc] at hn
    cases hn
  · rw [hcomm, hn] at hc'
    cases hc'
  · rw [same hc hc']
    exact SameTerms.refl c
  · rw [same hc hc']
    refine ⟨fun h => absurd rfl h, fun h => ?_⟩
    rw [h.1] at h
    cases h.2

theorem step_lawful {s : State Ext} (h : PendingUnacknowledged s) (i : Input AccountId Ext)
    (id : CommitmentId) : LawfulStep cfg s i id := by
  rcases step_transition cfg s i id with heq | ⟨htr, origin, c, hi, hid, hrem⟩
  · exact lawfulStep_of_eq heq
  · refine ⟨fun c c' hc hc' => Or.inr (htr.status_edge hc hc'), fun c hc hn => ?_,
      fun c' hn hc' => htr.registered hn hc', fun c c' hc hc' => htr.sameTerms hc hc',
      fun c c' hc hc' => htr.acknowledgedAt hc hc' (h id c hc), fun origin' c' hi' hne => ?_⟩
    · refine ⟨htr.removed hc hn, origin, ?_⟩
      rw [hi, hrem hn]
    · -- the step is a transition at `id`, so `id` is its target
      rw [hi] at hi'
      cases hi'
      exact absurd hid hne

/-- **The life of a commitment.** Every step of a run of the pallet is lawful at every
identifier, and once a commitment is settled or its dispute resolved, its three records are the
same in every later state. -/
theorem commitment_lifecycle (cfg : Config AccountId Ext) (disputeWindow : Option Nat) (ext : Ext)
    (run : List (Input AccountId Ext)) (id : CommitmentId) :
    (∀ p ∈ trace (step cfg) (genesis disputeWindow ext) run, LawfulStep cfg p.1 p.2 id) ∧
    (∀ (k l : Nat) (c : VectorCommitment),
      (exec (step cfg) (genesis disputeWindow ext) (run.take k)).storage.vectorCommitments id
        = some c → c.Terminal →
      (exec (step cfg) (genesis disputeWindow ext) (run.take (k + l))).records id
        = (exec (step cfg) (genesis disputeWindow ext) (run.take k)).records id) := by
  constructor
  · intro p hp
    refine step_lawful ?_ p.2 id
    exact trace_invariant PendingUnacknowledged (fun _ _ => True)
      (fun s i hs _ => step_pendingUnacknowledged s i hs) run _
      (pendingUnacknowledged_genesis disputeWindow ext) (fun _ _ => trivial) p hp
  · intro k l c hc ht
    rw [List.take_add, exec_append]
    exact exec_terminal _ _ id hc ht

/-- A commitment that is registered at block 1, acknowledged and closed at block 2; then its
dispute, expiry and second registration are attempted. -/
def settledRun : List (Input Nat MockExt) :=
  let id := tailHash (commitmentPreimage (testDid 1) (testDid 2) (Bytes32.ofNat 5) 1)
  let register := Call.registerCommitment (testDid 1) (testDid 2) (Bytes32.ofNat 5) 3 .nil 9 50
  [.call (.signed 1) register, .environment (testExt 2),
    .call (.signed 2) (.acknowledgeCommitment id (testDid 2)),
    .call (.signed 2) (.closeCommitment id (testDid 2) (Bytes32.ofNat 5) 3),
    .call (.signed 2) (.raiseDispute id (testDid 2) 0 (Bytes32.ofNat 0) 3),
    .environment (testExt 10), .call (.signed 3) (.expireCommitment id),
    .environment (testExt 1), .call (.signed 1) register]

theorem commitment_lifecycle_settledRun :
    (exec (step mockConfig) (genesis none (testExt 1)) (settledRun.take 9)).records
        (tailHash (commitmentPreimage (testDid 1) (testDid 2) (Bytes32.ofNat 5) 1))
      = (exec (step mockConfig) (genesis none (testExt 1)) (settledRun.take 4)).records
        (tailHash (commitmentPreimage (testDid 1) (testDid 2) (Bytes32.ofNat 5) 1)) := by
  have hstatus : ((exec (step mockConfig) (genesis none (testExt 1))
      (settledRun.take 4)).storage.vectorCommitments (tailHash (commitmentPreimage (testDid 1)
        (testDid 2) (Bytes32.ofNat 5) 1))).map (·.status) = some .settled := by
    decide +kernel
  obtain ⟨c, hc, hst⟩ := Option.map_eq_some_iff.mp hstatus
  exact (commitment_lifecycle mockConfig none (testExt 1) settledRun _).2 4 5 c hc (Or.inl hst)

end VectorDb
