import ArthNeura.Runtime.Coherence

set_option autoImplicit false

/-! # The timeline of a commitment

The blocks that the records of a commitment carry are in order (`Timely`), and the guards on
blocks fit together: a dispute has its whole response window, also past the expiry of the
commitment, and in the window the provider can only be cleared, after it only be found guilty
(`WindowStep`). Block numbers are assumed to stay far enough below the maximum for the sums with
the window and the lifetime not to saturate.
-/

namespace Runtime

open Frame VectorDb

variable {AccountId : Type} [DecidableEq AccountId] {cfg : Config AccountId}

/-- The blocks in the records of a stored commitment `c` are in order, for the dispute window
`window` and the maximal lifetime `lifetime`. -/
structure Timely (window lifetime : Nat) (c : VectorCommitment) (e : Entry AccountId) : Prop where
  created : c.createdAt < c.expiresAt ∧ c.expiresAt ≤ c.createdAt + lifetime
  acknowledged : ∀ t, c.acknowledgedAt = some t → c.createdAt ≤ t ∧ t < c.expiresAt
  receipt : ∀ r, e.receipt = some r →
    ∃ t, c.acknowledgedAt = some t ∧ t ≤ r.submittedAt ∧ r.submittedAt < c.expiresAt
  dispute : ∀ d, e.dispute = some d →
    ∃ t, c.acknowledgedAt = some t ∧ t ≤ d.raisedAt ∧ d.raisedAt < c.expiresAt
  deadline : ∀ d, e.dispute = some d → d.counterDeadline = d.raisedAt + window

omit [DecidableEq AccountId] in
/-- A verdict changes no block. -/
theorem Timely.resolved {window lifetime : Nat} {c : VectorCommitment} {e : Entry AccountId}
    {d : DisputeRecord} (h : Timely window lifetime c e) (hd : e.dispute = some d)
    (verdict : DisputeVerdict) (escrow : Option (Escrow.EscrowRecord AccountId)) :
    Timely window lifetime { c with status := .disputeResolved }
      ⟨some { c with status := .disputeResolved }, some { d with verdict := some verdict },
        e.receipt, escrow⟩ := by
  refine ⟨h.created, h.acknowledged, h.receipt, fun d' hd' => ?_, fun d' hd' => ?_⟩
  · cases hd'
    exact h.dispute d hd
  · cases hd'
    exact h.deadline d hd

/-- The dispute window in force. Only the genesis configuration sets it. -/
def disputeWindow (s : State cfg) : Nat := effectiveDisputeWindow cfg.vectorDb s.storage

/-- The invariant: the blocks of the records are in order, and none is in the future. -/
def TimelyAt (s : State cfg) (id : CommitmentId) : Prop :=
  ∀ c, (entry s id).commitment = some c →
    Timely (disputeWindow s) cfg.maxCommitmentLifetime c (entry s id) ∧ c.createdAt ≤ now s ∧
      ∀ t, c.acknowledgedAt = some t → t ≤ now s

/-- No sum of the block number with the window or the lifetime saturates. -/
def Unsaturated (s : State cfg) : Prop :=
  now s + max (disputeWindow s) cfg.maxCommitmentLifetime < 2 ^ 32

/-! ## One step -/

section

variable {s s' : State cfg} {origin : Origin AccountId} {call : VectorDb.Call}

/-- The invariant at an entry that is known by its records. -/
theorem timelyAt_of_records {id : CommitmentId} {c : VectorCommitment} {d : Option DisputeRecord}
    {r : Option StreamReceipt} (hrec : s'.records id = ⟨some c, d, r⟩)
    (h : Timely (disputeWindow s') cfg.maxCommitmentLifetime c
      ⟨some c, d, r, s'.ext.escrow.escrows id⟩)
    (hcreated : c.createdAt ≤ now s') (hack : ∀ t, c.acknowledgedAt = some t → t ≤ now s') :
    TimelyAt s' id := by
  intro c' hc'
  rw [entry_eq hrec] at hc' ⊢
  cases hc'
  exact ⟨h, hcreated, hack⟩

/-- The entry a successful call acts on stays in order. -/
theorem CallEffect.timely (h : CallEffect s s' origin call)
    (hal : Aligned (call.target cfg.vectorDb s) (entry s (call.target cfg.vectorDb s)))
    (ht : TimelyAt s (call.target cfg.vectorDb s)) (hu : Unsaturated s) (hnow : now s' = now s)
    (hw : disputeWindow s' = disputeWindow s) : TimelyAt s' (call.target cfg.vectorDb s) := by
  have hmax : now s + disputeWindow s < 2 ^ 32 ∧ now s + cfg.maxCommitmentLifetime < 2 ^ 32 := by
    rw [Unsaturated] at hu
    omega
  cases h with
  | @register _ _ _ _ _ _ expires _ c _ _ _ _ _ _ hexp hlife hc hnone hrec _ =>
      subst hc
      obtain ⟨hd, hr⟩ := (aligned_none hnone).mp hal
      have hadd : satAdd (now s) expires = now s + expires := satAdd_eq (by omega)
      refine timelyAt_of_records hrec ⟨?_, by simp [newCommitment], fun r h => ?_,
        fun d h => ?_, fun d h => ?_⟩ hnow.ge (by simp [newCommitment])
      · show now s < satAdd (now s) expires ∧ satAdd (now s) expires ≤ now s + _
        omega
      · cases h.symm.trans hr
      · cases h.symm.trans hd
      · cases h.symm.trans hd
  | acknowledge _ hc hst hlt _ _ _ _ _ hrec _ =>
      obtain ⟨hti, hcreated, -⟩ := ht _ hc
      -- a pending commitment has no dispute and no receipt that could be out of order
      obtain ⟨-, hd, hr⟩ := ((aligned_some hc).mp hal).2.pending hst
      refine timelyAt_of_records hrec ⟨hti.created, fun t h => ?_, fun r h => ?_, fun d h => ?_,
        fun d h => ?_⟩ (hcreated.trans hnow.ge) (fun t h => ?_)
      · cases h
        exact ⟨hcreated, hlt⟩
      · cases h.symm.trans hr
      · cases h.symm.trans hd
      · cases h.symm.trans hd
      · cases h
        exact hnow.ge
  | close _ hc hst hlt _ _ _ _ _ _ hrec _ =>
      obtain ⟨hti, hcreated, hack⟩ := ht _ hc
      -- an active commitment was acknowledged, at a block that is not in the future
      obtain ⟨-, hsome, hd, -⟩ := ((aligned_some hc).mp hal).2.active hst
      obtain ⟨t, hat⟩ := Option.ne_none_iff_exists'.mp hsome
      refine timelyAt_of_records hrec ⟨hti.created, hti.acknowledged, fun r h => ?_,
        fun d h => ?_, fun d h => ?_⟩ (hcreated.trans hnow.ge)
        (fun t h => (hack t h).trans hnow.ge)
      · cases h
        exact ⟨t, hat, hack t hat, hlt⟩
      · cases h.symm.trans hd
      · cases h.symm.trans hd
  | raise _ hc hst _ hlt _ _ _ hrec _ =>
      obtain ⟨hti, hcreated, hack⟩ := ht _ hc
      obtain ⟨-, hsome, -, hr⟩ := ((aligned_some hc).mp hal).2.active hst
      obtain ⟨t, hat⟩ := Option.ne_none_iff_exists'.mp hsome
      refine timelyAt_of_records hrec ⟨hti.created, hti.acknowledged, fun r h => ?_,
        fun d h => ?_, fun d h => ?_⟩ (hcreated.trans hnow.ge)
        (fun t h => (hack t h).trans hnow.ge)
      · cases h.symm.trans hr
      · cases h
        exact ⟨t, hat, hack t hat, hlt⟩
      · -- the deadline is `saturating_add`, which is exact by `Unsaturated`
        cases h
        rw [hw]
        exact satAdd_eq hmax.1
  | counter _ hc _ _ _ hd _ _ _ _ _ _ hrec _ =>
      obtain ⟨hti, hcreated, hack⟩ := ht _ hc
      rw [← hw] at hti
      exact timelyAt_of_records hrec (hti.resolved hd _ _) (hcreated.trans hnow.ge)
        (fun t h => (hack t h).trans hnow.ge)
  | finalize _ hc _ hd _ _ _ hrec _ =>
      obtain ⟨hti, hcreated, hack⟩ := ht _ hc
      rw [← hw] at hti
      exact timelyAt_of_records hrec (hti.resolved hd _ _) (hcreated.trans hnow.ge)
        (fun t h => (hack t h).trans hnow.ge)
  | expire _ _ _ _ hrec _ =>
      intro c' hc'
      cases hc'.symm.trans (congrArg Entry.commitment (entry_eq hrec))

end

theorem step_disputeWindow (s : State cfg) (i : Input AccountId) :
    disputeWindow (step s i) = disputeWindow s := by
  cases i with
  | newBlocks blocks blockHash => rfl
  | call origin c =>
      cases c with
      | agentRegistry c => rfl
      | vectorDb c =>
          rcases dispatch_cases (c.run cfg.vectorDb origin) s with ⟨s', hok, hd⟩ | ⟨-, hd⟩
          · rw [step, hd, disputeWindow, disputeWindow, effectiveDisputeWindow,
              effectiveDisputeWindow, call_disputeWindowOverride hok]
          · rw [step, hd]

/-- The invariant of a run. -/
structure Timed (s : State cfg) : Prop where
  aligned : AllAligned s
  timely : ∀ id, TimelyAt s id
  bounded : now s ≤ u32Max

/-- An entry that a step does not change stays in order as time goes on. -/
theorem TimelyAt.keep {s s' : State cfg} {id : CommitmentId} (h : TimelyAt s id)
    (hentry : entry s' id = entry s id) (hnow : now s ≤ now s')
    (hw : disputeWindow s' = disputeWindow s) : TimelyAt s' id := by
  intro c hc
  rw [hentry] at hc ⊢
  obtain ⟨hti, hcreated, hack⟩ := h c hc
  rw [hw]
  exact ⟨hti, hcreated.trans hnow, fun t ht => (hack t ht).trans hnow⟩

theorem step_timed {s : State cfg} (h : Timed s) (i : Input AccountId) (hu : Unsaturated s) :
    Timed (step s i) := by
  obtain ⟨hnow, hbound⟩ := now_step h.bounded i
  have hw := step_disputeWindow s i
  refine ⟨step_allAligned h.aligned i, fun id => ?_, hbound⟩
  rcases step_effect s i with ⟨origin, c, -, -, heff, hframe⟩ | hp
  · by_cases hid : id = c.target cfg.vectorDb s
    · have hsame : now (step s i) = now s := congrArg System.blockNumber heff.system
      rw [hid]
      exact heff.timely (h.aligned _) (h.timely _) hu hsame hw
    · exact (h.timely id).keep (hframe id hid) hnow hw
  · exact (h.timely id).keep (hp.entry id) hnow hw

theorem timed_genesis (cfg : Config AccountId) (window : Option Nat) (blockHash : Nat → Bytes32)
    (ledger : cfg.currency.Ledger) : Timed (genesis cfg window blockHash ledger) :=
  ⟨allAligned_genesis cfg window blockHash ledger, (fun _ _ hc => by cases hc), Nat.zero_le _⟩

/-! ## The response window -/

/-- What a step may do to a dispute: a verdict against the provider is written only after the
window and one for the provider only in it, and a disputed commitment stays stored. In the window
nothing changes but by `counter_dispute`. -/
structure WindowStep (window : Nat) (s : State cfg) (i : Input AccountId) (id : CommitmentId) :
    Prop where
  guilty : ∀ d, (entry (step s i) id).dispute = some d → (entry s id).dispute ≠ some d →
    d.verdict = some .providerGuilty → d.raisedAt + window < now s
  unsubstantiated : ∀ d, (entry (step s i) id).dispute = some d →
    (entry s id).dispute ≠ some d → d.verdict = some .claimantUnsubstantiated →
    now s ≤ d.raisedAt + window
  stored : ∀ c, (entry s id).commitment = some c → c.status = .disputed →
    (entry (step s i) id).commitment ≠ none
  kept : ∀ c d, (entry s id).commitment = some c → c.status = .disputed →
    (entry s id).dispute = some d → now s ≤ d.raisedAt + window →
    ((entry (step s i) id).commitment = some c ∧ (entry (step s i) id).dispute = some d) ∨
      ((∃ origin did chunkData merkleProof,
          i = .call origin (.vectorDb (.counterDispute id did chunkData merkleProof))) ∧
        (entry (step s i) id).commitment = some { c with status := .disputeResolved })

theorem windowStep_of_entry {window : Nat} {s : State cfg} {i : Input AccountId}
    {id : CommitmentId} (h : entry (step s i) id = entry s id) : WindowStep window s i id := by
  refine ⟨fun d hd hne _ => ?_, fun d hd hne _ => ?_, fun c hc _ => ?_, fun c d hc _ hd _ => ?_⟩
  · rw [h] at hd
    exact absurd hd hne
  · rw [h] at hd
    exact absurd hd hne
  · rw [h, hc]
    exact Option.some_ne_none _
  · rw [h]
    exact Or.inl ⟨hc, hd⟩

/-- A step that meets no dispute and writes no verdict. -/
theorem windowStep_of_undisputed {window : Nat} {s : State cfg} {i : Input AccountId}
    {id : CommitmentId} (hst : ∀ c, (entry s id).commitment = some c → c.status ≠ .disputed)
    (hd : ∀ d, (entry (step s i) id).dispute = some d → (entry s id).dispute ≠ some d →
      d.verdict = none) : WindowStep window s i id := by
  refine ⟨fun d hd' hne hv => ?_, fun d hd' hne hv => ?_, fun c hc h => absurd h (hst c hc),
    fun c d hc h => absurd h (hst c hc)⟩
  · cases hv.symm.trans (hd d hd' hne)
  · cases hv.symm.trans (hd d hd' hne)

theorem CallEffect.windowStep {s : State cfg} {origin : Origin AccountId} {call : VectorDb.Call}
    (h : CallEffect s (step s (.call origin (.vectorDb call))) origin call)
    (ht : TimelyAt s (call.target cfg.vectorDb s)) :
    WindowStep (disputeWindow s) s (.call origin (.vectorDb call))
      (call.target cfg.vectorDb s) := by
  have hundisputed : ∀ {id : CommitmentId} {c : VectorCommitment},
      s.storage.vectorCommitments id = some c → c.status ≠ .disputed →
      ∀ c', (entry s id).commitment = some c' → c'.status ≠ .disputed := by
    intro id c hc hne c' hc'
    cases hc.symm.trans hc'
    exact hne
  have hsame : ∀ {id : CommitmentId} {c' : Option VectorCommitment} {r : Option StreamReceipt},
      (step s (.call origin (.vectorDb call))).records id
        = ⟨c', s.storage.disputeRecords id, r⟩ →
      ∀ d, (entry (step s (.call origin (.vectorDb call))) id).dispute = some d →
        (entry s id).dispute ≠ some d → d.verdict = none := by
    intro id c' r hrec d hd hne
    rw [entry_eq hrec] at hd
    exact absurd hd hne
  cases h with
  | register _ _ _ _ _ _ _ _ hc hnone hrec _ =>
      subst hc
      exact windowStep_of_undisputed (fun c' hc' => by cases hc'.symm.trans hnone) (hsame hrec)
  | acknowledge _ hc hst _ _ _ _ _ _ hrec _ =>
      exact windowStep_of_undisputed (hundisputed hc (by rw [hst]; decide)) (hsame hrec)
  | close _ hc hst _ _ _ _ _ _ _ hrec _ =>
      exact windowStep_of_undisputed (hundisputed hc (by rw [hst]; decide)) (hsame hrec)
  | raise _ hc hst _ _ _ _ _ hrec _ =>
      refine windowStep_of_undisputed (hundisputed hc (by rw [hst]; decide)) fun d hd _ => ?_
      rw [Call.target, entry_eq hrec] at hd
      cases hd
      rfl
  | @counter id did chunkData merkleProof who c d record r _ hc hst _ _ hd hdl _ _ _ _ _ hrec _ =>
      have hdeadline : d.counterDeadline = d.raisedAt + disputeWindow s :=
        (ht c hc).1.deadline d hd
      rw [hdeadline] at hdl
      have hentry := entry_eq hrec
      refine ⟨fun d' hd' _ hv => ?_, fun d' hd' _ _ => ?_, fun c' _ _ => ?_,
        fun c' d' hc' _ _ _ => Or.inr ?_⟩
      · -- the verdict is for the provider
        rw [Call.target, hentry] at hd'
        cases hd'
        cases hv
      · rw [Call.target, hentry] at hd'
        cases hd'
        exact hdl
      · rw [Call.target, hentry]
        exact Option.some_ne_none _
      · cases hc.symm.trans hc'
        refine ⟨⟨origin, did, chunkData, merkleProof, rfl⟩, ?_⟩
        rw [Call.target, hentry]
  | @finalize id who c d record _ hc hst hd hdl _ _ hrec _ =>
      have hdeadline : d.counterDeadline = d.raisedAt + disputeWindow s :=
        (ht c hc).1.deadline d hd
      rw [hdeadline] at hdl
      have hentry := entry_eq hrec
      refine ⟨fun d' hd' _ _ => ?_, fun d' hd' _ hv => ?_, fun c' _ _ => ?_,
        fun c' d' hc' _ hd' hle => ?_⟩
      · rw [Call.target, hentry] at hd'
        cases hd'
        exact hdl
      · rw [Call.target, hentry] at hd'
        cases hd'
        cases hv
      · rw [Call.target, hentry]
        exact Option.some_ne_none _
      · -- the window is over
        cases hd.symm.trans hd'
        exact absurd hle (Nat.not_le_of_gt hdl)
  | expire _ hc hst _ hrec _ =>
      refine windowStep_of_undisputed (hundisputed hc ?_) (hsame hrec)
      rcases hst with hst | hst <;> rw [hst] <;> decide

theorem Timed.windowStep {s : State cfg} (h : Timed s) (i : Input AccountId)
    (id : CommitmentId) : WindowStep (disputeWindow s) s i id := by
  rcases step_effect s i with ⟨origin, c, rfl, -, heff, hframe⟩ | hp
  · by_cases hid : id = c.target cfg.vectorDb s
    · rw [hid]
      exact heff.windowStep (h.timely _)
    · exact windowStep_of_entry (hframe id hid)
  · exact windowStep_of_entry (hp.entry id)

/-! ## Runs -/

/-- **The timeline of a commitment.** While block numbers are so small that neither the window
nor the lifetime makes them saturate, the records of every stored commitment are in order, and
every dispute has its whole window. -/
theorem timeline (cfg : Config AccountId) (window : Option Nat) (blockHash : Nat → Bytes32)
    (ledger : cfg.currency.Ledger) (run : List (Input AccountId)) (W : Nat)
    (hW : W = window.getD cfg.disputeWindow)
    (hblocks : ∀ p ∈ trace step (genesis cfg window blockHash ledger) run,
      now p.1 + max W cfg.maxCommitmentLifetime < 2 ^ 32) :
    (∀ id c, (exec step (genesis cfg window blockHash ledger) run).storage.vectorCommitments id
        = some c →
      Timely W cfg.maxCommitmentLifetime c
        (entry (exec step (genesis cfg window blockHash ledger) run) id)) ∧
    ∀ p ∈ trace step (genesis cfg window blockHash ledger) run, ∀ id,
      WindowStep W p.1 p.2 id := by
  have hstep : ∀ (s : State cfg) (i : Input AccountId), Timed s ∧ disputeWindow s = W →
      now s + max W cfg.maxCommitmentLifetime < 2 ^ 32 →
      Timed (step s i) ∧ disputeWindow (step s i) = W := by
    rintro s i ⟨ht, hw⟩ hu
    have hu' : Unsaturated s := by
      rw [Unsaturated, hw]
      exact hu
    exact ⟨step_timed ht i hu', (step_disputeWindow s i).trans hw⟩
  have h0 : Timed (genesis cfg window blockHash ledger) ∧
      disputeWindow (genesis cfg window blockHash ledger) = W :=
    ⟨timed_genesis cfg window blockHash ledger, hW.symm⟩
  constructor
  · intro id c hc
    obtain ⟨ht, hw⟩ := exec_invariant (fun s : State cfg => Timed s ∧ disputeWindow s = W)
      (fun s _ => now s + max W cfg.maxCommitmentLifetime < 2 ^ 32) hstep run _ h0 hblocks
    rw [← hw]
    exact (ht.timely id c hc).1
  · intro p hp id
    obtain ⟨ht, hw⟩ := trace_invariant (fun s : State cfg => Timed s ∧ disputeWindow s = W)
      (fun s _ => now s + max W cfg.maxCommitmentLifetime < 2 ^ 32) hstep run _ h0 hblocks p hp
    rw [← hw]
    exact ht.windowStep p.2 id

/-- The deal is disputed in the last block before its expiry, and expiring it is attempted in the
last block of the window. -/
def lateRun : List (Input Nat) :=
  dealRun ++ [nextBlocks 9,
    .call (.signed 2) (.vectorDb (.raiseDispute dealId (AgentRegistry.keyDid 2) 0
      (Bytes32.ofNat 0) 0)),
    nextBlocks 14400,
    .call (.signed 9) (.vectorDb (.expireCommitment dealId))]

theorem timeline_lateRun :
    (entry (step (exec step devGenesis (lateRun.take 8))
      (.call (.signed 9) (.vectorDb (.expireCommitment dealId)))) dealId).commitment ≠ none := by
  have hblocks : ∀ p ∈ trace step devGenesis lateRun,
      now p.1 + max 14400 devConfig.maxCommitmentLifetime < 2 ^ 32 := by
    intro p hp
    have hall : ∀ q ∈ (trace step devGenesis lateRun).map (fun p => now p.1),
        q + max 14400 devConfig.maxCommitmentLifetime < 2 ^ 32 := by decide +kernel
    exact hall (now p.1) (List.mem_map_of_mem hp)
  have hstatus : ((exec step devGenesis (lateRun.take 8)).storage.vectorCommitments dealId).map
      (·.status) = some .disputed := by decide +kernel
  obtain ⟨c, hc, hst⟩ := Option.map_eq_some_iff.mp hstatus
  have hmem : (exec step devGenesis (lateRun.take 8),
      Input.call (.signed 9) (.vectorDb (.expireCommitment dealId)))
      ∈ trace step devGenesis lateRun := by
    simp [lateRun, dealRun, trace]
  exact ((timeline devConfig none _ _ lateRun 14400 rfl hblocks).2 _ hmem dealId).stored c hc hst

end Runtime
