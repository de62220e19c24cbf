import ArthNeura.Runtime.Coherence

set_option autoImplicit false

/-! # Settling a commitment

What becomes of the money locked for a commitment. `finalize_dispute` cannot be blocked
(`finalizeDispute_succeeds_iff`), every commitment is settled at most once, with the hooks that
belong to it (`exactly_once`), and a locked escrow keeps a commitment through which it can be
settled exactly as long as no active commitment is expired (`noStranded_iff`).
-/

namespace Runtime

open Frame VectorDb

variable {AccountId : Type} [DecidableEq AccountId] {cfg : Config AccountId}

/-! ## Finalization cannot be blocked -/

theorem finalizeDispute_succeeds {s : State cfg} (hal : AllAligned s) (who : AccountId)
    (id : CommitmentId) :
    succeeds (finalizeDispute cfg.vectorDb (.signed who) id) s = true ↔
      ∃ c d, s.storage.vectorCommitments id = some c ∧ c.status = .disputed ∧
        s.storage.disputeRecords id = some d ∧ now s > d.counterDeadline := by
  rw [succeeds_iff]
  constructor
  · rintro ⟨s', h⟩
    obtain ⟨-, -, c, hc, hst, d, hd, hnow, -⟩ := finalizeDispute_ok.mp h
    exact ⟨c, d, hc, hst, hd, hnow⟩
  · rintro ⟨c, d, hc, hst, hd, hnow⟩
    -- a disputed commitment has a locked escrow, and the refund of a locked escrow succeeds
    obtain ⟨⟨record, hrec, hlocked, -⟩, -⟩ := ((aligned_some hc).mp (hal id)).2.disputed hst
    have hrefund := refund_ok.mpr ⟨record, hrec, hlocked, rfl⟩
    exact ⟨_, finalizeDispute_ok.mpr ⟨who, rfl, c, hc, hst, d, hd, hnow, _, hrefund, rfl⟩⟩

/-- **Finalization cannot be blocked.** In every reachable state and for every signer,
`finalize_dispute` succeeds exactly on a disputed commitment whose counter deadline has
passed. -/
theorem finalizeDispute_succeeds_iff (cfg : Config AccountId) (disputeWindow : Option Nat)
    (blockHash : Nat → Bytes32) (ledger : cfg.currency.Ledger) (run : List (Input AccountId))
    (who : AccountId) (id : CommitmentId) :
    succeeds (finalizeDispute cfg.vectorDb (.signed who) id)
        (exec step (genesis cfg disputeWindow blockHash ledger) run) = true ↔
      ∃ c d,
        (exec step (genesis cfg disputeWindow blockHash ledger) run).storage.vectorCommitments id
          = some c ∧ c.status = .disputed ∧
        (exec step (genesis cfg disputeWindow blockHash ledger) run).storage.disputeRecords id
          = some d ∧
        now (exec step (genesis cfg disputeWindow blockHash ledger) run) > d.counterDeadline :=
  finalizeDispute_succeeds (allAligned_exec cfg disputeWindow blockHash ledger run) who id

/-! ## Resolutions -/

/-- The three ways to settle a commitment. -/
inductive Resolution where
  | closed
  | countered
  | finalized
  deriving DecidableEq

/-- Whether the escrow is released; otherwise it is refunded. -/
def Resolution.releases : Resolution → Bool
  | .finalized => false
  | _ => true

/-- How a call would settle the commitment `id`. -/
def resolution (id : CommitmentId) : VectorDb.Call → Option Resolution
  | .closeCommitment id' _ _ _ => if id' = id then some .closed else none
  | .counterDispute id' _ _ _ => if id' = id then some .countered else none
  | .finalizeDispute id' => if id' = id then some .finalized else none
  | _ => none

/-- How a step settles the commitment `id`: a failing call does not. -/
def resolves (s : State cfg) (i : Input AccountId) (id : CommitmentId) : Option Resolution :=
  match i with
  | .call origin (.vectorDb c) =>
      if succeeds (c.run cfg.vectorDb origin) s then resolution id c else none
  | _ => none

/-- The settlements of `id` in a run, in order. -/
def resolutions (s : State cfg) (run : List (Input AccountId)) (id : CommitmentId) :
    List Resolution :=
  (trace step s run).filterMap fun p => resolves p.1 p.2 id

theorem resolutions_cons (s : State cfg) (i : Input AccountId) (run : List (Input AccountId))
    (id : CommitmentId) :
    resolutions s (i :: run) id = (resolves s i id).toList ++ resolutions (step s i) run id := by
  rw [resolutions, trace, List.filterMap_cons]
  cases resolves s i id <;> rfl

theorem resolves_of_ok {s s' : State cfg} {origin : Origin AccountId} {c : VectorDb.Call}
    (h : (c.run cfg.vectorDb origin).run s = .ok () s') (id : CommitmentId) :
    resolves s (.call origin (.vectorDb c)) id = resolution id c := by
  rw [resolves, if_pos (succeeds_iff.mpr ⟨s', h⟩)]

/-- A settlement is a successful call. -/
theorem resolves_eq_some {s : State cfg} {i : Input AccountId} {id : CommitmentId}
    {r : Resolution} :
    resolves s i id = some r ↔
      ∃ origin c s', i = .call origin (.vectorDb c) ∧
        (c.run cfg.vectorDb origin).run s = .ok () s' ∧ resolution id c = some r := by
  constructor
  · intro h
    unfold resolves at h
    split at h
    · rename_i origin c
      obtain ⟨hok, hres⟩ := Option.ite_none_right_eq_some.mp h
      obtain ⟨s', hs'⟩ := succeeds_iff.mp hok
      exact ⟨origin, c, s', rfl, hs', hres⟩
    · cases h
  · rintro ⟨origin, c, s', rfl, hok, hres⟩
    rw [resolves_of_ok hok, hres]

/-! ## At most once -/

theorem exec_terminal (run : List (Input AccountId)) (s : State cfg) (id : CommitmentId)
    {c : VectorCommitment} (hc : s.storage.vectorCommitments id = some c) (ht : c.Terminal) :
    (exec step s run).records id = s.records id := by
  obtain ⟨js, hjs⟩ := exists_vectorDb_run run s
  rw [hjs]
  exact VectorDb.exec_terminal js s id hc ht

/-- A settlement turns a commitment that is not terminal into a terminal one. -/
theorem resolves_some {s : State cfg} {i : Input AccountId} {id : CommitmentId} {r : Resolution}
    (h : resolves s i id = some r) :
    (∃ c, s.storage.vectorCommitments id = some c ∧ ¬ c.Terminal) ∧
    (∃ c', (step s i).storage.vectorCommitments id = some c' ∧ c'.Terminal) := by
  obtain ⟨origin, call, s', rfl, hok, hres⟩ := resolves_eq_some.mp h
  rw [step, dispatch_of_ok hok]
  cases vectorDb_effect hok with
  | register | acknowledge | raise | expire => cases hres
  | close _ hc hst _ _ _ _ _ _ _ hrec _ =>
      obtain ⟨rfl, -⟩ := Option.ite_none_right_eq_some.mp hres
      refine ⟨⟨_, hc, ?_⟩, _, congrArg Records.commitment hrec, Or.inl rfl⟩
      simp [VectorCommitment.Terminal, hst]
  | counter _ hc hst _ _ _ _ _ _ _ _ _ hrec _ =>
      obtain ⟨rfl, -⟩ := Option.ite_none_right_eq_some.mp hres
      refine ⟨⟨_, hc, ?_⟩, _, congrArg Records.commitment hrec, Or.inr rfl⟩
      simp [VectorCommitment.Terminal, hst]
  | finalize _ hc hst _ _ _ _ hrec _ =>
      obtain ⟨rfl, -⟩ := Option.ite_none_right_eq_some.mp hres
      refine ⟨⟨_, hc, ?_⟩, _, congrArg Records.commitment hrec, Or.inr rfl⟩
      simp [VectorCommitment.Terminal, hst]

/-- A terminal commitment is not settled again. -/
theorem resolutions_terminal (run : List (Input AccountId)) :
    ∀ (s : State cfg) (id : CommitmentId) {c : VectorCommitment},
      s.storage.vectorCommitments id = some c → c.Terminal → resolutions s run id = [] := by
  induction run with
  | nil => intro s id c _ _; rfl
  | cons i run ih =>
      intro s id c hc ht
      have hnone : resolves s i id = none := by
        rw [Option.eq_none_iff_forall_ne_some]
        intro r hr
        obtain ⟨⟨c', hc', hnt⟩, -⟩ := resolves_some hr
        cases hc.symm.trans hc'
        exact hnt ht
      have hstep : (step s i).storage.vectorCommitments id = some c := by
        have hrec : (step s i).records id = s.records id := exec_terminal [i] s id hc ht
        exact (congrArg Records.commitment hrec).trans hc
      rw [resolutions_cons, hnone, ih (step s i) id hstep ht]
      rfl

theorem resolutions_length_le (run : List (Input AccountId)) (id : CommitmentId) :
    ∀ s : State cfg, (resolutions s run id).length ≤ 1 := by
  induction run with
  | nil => intro s; exact Nat.zero_le _
  | cons i run ih =>
      intro s
      rw [resolutions_cons]
      cases hr : resolves s i id with
      | none => exact ih (step s i)
      | some r =>
          -- from here on the commitment is terminal
          obtain ⟨-, c', hc', ht⟩ := resolves_some hr
          rw [resolutions_terminal run (step s i) id hc' ht]
          exact Nat.le_refl 1

/-! ## The hooks -/

/-- The hooks a step calls: those of a settlement, and locks otherwise. -/
inductive NewHooks (s : State cfg) (i : Input AccountId) : List (HookCall AccountId) → Prop
  | closed {id : CommitmentId} (h : resolves s i id = some .closed) :
      NewHooks s i [.release id]
  | countered {id : CommitmentId} {c : VectorCommitment}
      (h : resolves s i id = some .countered) (hc : s.storage.vectorCommitments id = some c)
      (hst : c.status = .disputed) :
      NewHooks s i [.release id, .penalizeFalseDisputer c.consumer]
  | finalized {id : CommitmentId} {c : VectorCommitment}
      (h : resolves s i id = some .finalized) (hc : s.storage.vectorCommitments id = some c)
      (hst : c.status = .disputed) :
      NewHooks s i [.refund id, .penalizeProvider c.provider]
  | locked {id : CommitmentId} {payer payee : AccountId} {amount : Nat}
      (h : ∀ id, resolves s i id = none) : NewHooks s i [.lock id payer payee amount]
  | none (h : ∀ id, resolves s i id = none) : NewHooks s i []

theorem vectorDb_newHooks {s s' : State cfg} {origin : Origin AccountId} {c : VectorDb.Call}
    (h : (c.run cfg.vectorDb origin).run s = .ok () s') :
    ∃ new, NewHooks s (.call origin (.vectorDb c)) new ∧ s'.ext.hooks = s.ext.hooks ++ new := by
  have hres := resolves_of_ok h
  cases vectorDb_effect h with
  | register _ _ _ _ _ _ _ _ _ _ _ hext =>
      exact ⟨[], .none hres, by rw [hext, List.append_nil]⟩
  | acknowledge _ _ _ _ _ _ _ _ _ _ hext =>
      exact ⟨_, .locked hres, by rw [hext]; rfl⟩
  | close _ _ _ _ _ _ _ _ _ _ _ hext =>
      exact ⟨_, .closed ((hres _).trans (if_pos rfl)), by rw [hext]; rfl⟩
  | raise _ _ _ _ _ _ _ _ _ hext =>
      exact ⟨[], .none hres, by rw [hext, List.append_nil]⟩
  | counter _ hc hst _ _ _ _ _ _ _ _ _ _ hext =>
      refine ⟨_, .countered ((hres _).trans (if_pos rfl)) hc hst, ?_⟩
      rw [hext]
      exact List.append_assoc _ [_] [_]
  | finalize _ hc hst _ _ _ _ _ hext =>
      refine ⟨_, .finalized ((hres _).trans (if_pos rfl)) hc hst, ?_⟩
      rw [hext]
      exact List.append_assoc _ [_] [_]
  | expire _ _ _ _ _ hext =>
      exact ⟨[], .none hres, by rw [hext, List.append_nil]⟩

/-- **Every step calls the hooks of its settlement, and no others.** -/
theorem step_newHooks (s : State cfg) (i : Input AccountId) :
    ∃ new, NewHooks s i new ∧ (step s i).ext.hooks = s.ext.hooks ++ new := by
  cases i with
  | newBlocks blocks blockHash =>
      exact ⟨[], .none fun _ => rfl, (List.append_nil _).symm⟩
  | call origin c =>
      cases c with
      | agentRegistry c => exact ⟨[], .none fun _ => rfl, (List.append_nil _).symm⟩
      | vectorDb c =>
          rcases dispatch_cases (c.run cfg.vectorDb origin) s with ⟨s', hok, hd⟩ | ⟨hfail, hd⟩
          · rw [step, hd]
            exact vectorDb_newHooks hok
          · rw [step, hd]
            refine ⟨[], .none fun id => ?_, (List.append_nil _).symm⟩
            rw [resolves, hfail]
            rfl

theorem target_of_resolution {s : State cfg} {id : CommitmentId} {c : VectorDb.Call}
    {r : Resolution} (h : resolution id c = some r) : c.target cfg.vectorDb s = id := by
  cases c with
  | closeCommitment | counterDispute | finalizeDispute =>
      exact (Option.ite_none_right_eq_some.mp h).1
  | registerCommitment | acknowledgeCommitment | raiseDispute | expireCommitment => cases h

/-- A step settles one commitment at most. -/
theorem resolves_other {s : State cfg} {i : Input AccountId} {id id' : CommitmentId}
    {r : Resolution} (h : resolves s i id' = some r) (hne : id' ≠ id) :
    resolves s i id = none := by
  rw [Option.eq_none_iff_forall_ne_some]
  intro r' h'
  obtain ⟨origin, c, -, rfl, -, hres⟩ := resolves_eq_some.mp h
  obtain ⟨_, c', -, heq, -, hres'⟩ := resolves_eq_some.mp h'
  cases heq
  have htarget : c.target cfg.vectorDb s = id' := target_of_resolution hres
  exact hne (htarget.symm.trans (target_of_resolution hres'))

/-- The releases and refunds among the hooks of a step are those of its settlement. -/
theorem NewHooks.count {s : State cfg} {i : Input AccountId} {new : List (HookCall AccountId)}
    (h : NewHooks s i new) (id : CommitmentId) :
    new.count (.release id) = (resolves s i id).toList.countP Resolution.releases ∧
    new.count (.refund id) = (resolves s i id).toList.countP (fun r => !r.releases) := by
  cases h with
  | @closed id' h =>
      by_cases hid : id' = id
      · subst hid
        simp [h, Resolution.releases]
      · simp [resolves_other h hid, hid]
  | @countered id' c h _ _ =>
      by_cases hid : id' = id
      · subst hid
        simp [h, Resolution.releases]
      · simp [resolves_other h hid, hid]
  | @finalized id' c h _ _ =>
      by_cases hid : id' = id
      · subst hid
        simp [h, Resolution.releases]
      · simp [resolves_other h hid, hid]
  | locked h => simp [h]
  | none h => simp [h]

theorem hooks_count (run : List (Input AccountId)) (id : CommitmentId) :
    ∀ s : State cfg,
      (exec step s run).ext.hooks.count (.release id) =
        s.ext.hooks.count (.release id) + (resolutions s run id).countP Resolution.releases ∧
      (exec step s run).ext.hooks.count (.refund id) =
        s.ext.hooks.count (.refund id)
          + (resolutions s run id).countP (fun r => !r.releases) := by
  induction run with
  | nil => intro s; exact ⟨rfl, rfl⟩
  | cons i run ih =>
      intro s
      obtain ⟨new, hnew, hhooks⟩ := step_newHooks s i
      obtain ⟨hrel, href⟩ := hnew.count id
      obtain ⟨ihrel, ihref⟩ := ih (step s i)
      rw [hhooks, List.count_append] at ihrel ihref
      rw [exec_cons, resolutions_cons, List.countP_append, List.countP_append]
      omega

/-- A verdict belongs to a resolved dispute. -/
theorem terminal_of_verdict {s : State cfg} (hal : AllAligned s) {id : CommitmentId}
    {d : DisputeRecord} {v : DisputeVerdict} (hd : s.storage.disputeRecords id = some d)
    (hv : d.verdict = some v) : ∃ c, s.storage.vectorCommitments id = some c ∧ c.Terminal := by
  have hid := hal id
  have hd' : (entry s id).dispute = some d := hd
  cases hc : s.storage.vectorCommitments id with
  | none =>
      have hnone := ((aligned_none hc).mp hid).1
      cases hnone.symm.trans hd'
  | some c =>
      refine ⟨c, rfl, ?_⟩
      have hst := ((aligned_some hc).mp hid).2
      cases hcs : c.status with
      | pending => cases (hst.pending hcs).2.1.symm.trans hd'
      | active => cases (hst.active hcs).2.2.1.symm.trans hd'
      | disputed =>
          obtain ⟨-, ⟨d', hsome, hnone, -⟩, -⟩ := hst.disputed hcs
          cases hsome.symm.trans hd'
          cases hnone.symm.trans hv
      | settled => exact Or.inl hcs
      | disputeResolved => exact Or.inr hcs
      | expired =>
          rw [StatusAligned, hcs] at hst
          exact hst.elim

/-- What a run does to settle the commitment `id`. -/
structure ExactlyOnce (s : State cfg) (run : List (Input AccountId)) (id : CommitmentId) :
    Prop where
  /-- At most one of the three calls succeeds, and at most once. -/
  once : (resolutions s run id).length ≤ 1
  /-- The escrow is released once for a closed or countered commitment, -/
  releases : (exec step s run).ext.hooks.count (.release id) =
    (resolutions s run id).countP Resolution.releases
  /-- and refunded once for a finalized one. -/
  refunds : (exec step s run).ext.hooks.count (.refund id) =
    (resolutions s run id).countP (fun r => !r.releases)
  /-- A verdict is final. -/
  verdict : ∀ k l d v, (exec step s (run.take k)).storage.disputeRecords id = some d →
    d.verdict = some v → (exec step s (run.take (k + l))).storage.disputeRecords id = some d
  /-- Each step calls the hooks of its settlement, the penalty of a resolved dispute included,
  and no others. -/
  hooks : ∀ p ∈ trace step s run, ∃ new, NewHooks p.1 p.2 new ∧
    (step p.1 p.2).ext.hooks = p.1.ext.hooks ++ new

/-- **Exactly-once resolution.** -/
theorem exactly_once (cfg : Config AccountId) (disputeWindow : Option Nat)
    (blockHash : Nat → Bytes32) (ledger : cfg.currency.Ledger) (run : List (Input AccountId))
    (id : CommitmentId) :
    ExactlyOnce (genesis cfg disputeWindow blockHash ledger) run id := by
  obtain ⟨hrel, href⟩ := hooks_count run id (genesis cfg disputeWindow blockHash ledger)
  refine ⟨resolutions_length_le run id _, ?_, ?_, fun k l d v hd hv => ?_,
    fun p _ => step_newHooks p.1 p.2⟩
  · exact hrel.trans (Nat.zero_add _)
  · exact href.trans (Nat.zero_add _)
  · obtain ⟨c, hc, ht⟩ := terminal_of_verdict
      (allAligned_exec cfg disputeWindow blockHash ledger (run.take k)) hd hv
    rw [List.take_add, exec_append]
    have hrec := exec_terminal ((run.drop k).take l) _ id hc ht
    exact (congrArg Records.dispute hrec).trans hd

/-! ## Stranded escrows -/

/-- A locked escrow has a commitment through which it can be released or refunded. -/
def Handled (e : Entry AccountId) : Prop :=
  ∀ record, e.escrow = some record → record.status = .locked →
    ∃ c, e.commitment = some c ∧ (c.status = .active ∨ c.status = .disputed)

def NoStranded (s : State cfg) : Prop := ∀ id, Handled (entry s id)

/-- The step expires an active commitment. -/
def ExpiresActive (s : State cfg) : Input AccountId → Prop
  | .call (.signed _) (.vectorDb (.expireCommitment id)) =>
      ∃ c, s.storage.vectorCommitments id = some c ∧ c.status = .active ∧ c.expiresAt ≤ now s
  | _ => False

/-- The entry a successful call acts on is handled, unless it was active and is expired. -/
theorem CallEffect.handled {s s' : State cfg} {origin : Origin AccountId} {call : VectorDb.Call}
    (h : CallEffect s s' origin call) (hs : Handled (entry s (call.target cfg.vectorDb s)))
    (hok : ¬ ExpiresActive s (.call origin (.vectorDb call))) :
    Handled (entry s' (call.target cfg.vectorDb s)) := by
  intro record hescrow hlocked
  cases h with
  | register _ _ _ _ _ _ _ _ hc hnone hrec hext =>
      subst hc
      rw [entry, hext] at hescrow
      obtain ⟨c', hc', -⟩ := hs record hescrow hlocked
      cases hnone.symm.trans hc'
  | acknowledge _ _ _ _ _ _ _ _ _ hrec _ =>
      exact ⟨_, congrArg Records.commitment hrec, Or.inl rfl⟩
  | close _ _ _ _ _ _ _ _ _ _ _ hext =>
      simp only [entry, Call.target, hext, released_escrows, Option.some.injEq] at hescrow
      subst hescrow
      cases hlocked
  | raise _ _ _ _ _ _ _ _ hrec _ =>
      exact ⟨_, congrArg Records.commitment hrec, Or.inr rfl⟩
  | counter _ _ _ _ _ _ _ _ _ _ _ _ _ hext =>
      simp only [entry, Call.target, hext, penalizeFalseDisputer_escrow, released_escrows,
        Option.some.injEq] at hescrow
      subst hescrow
      cases hlocked
  | finalize _ _ _ _ _ _ _ _ hext =>
      simp only [entry, Call.target, hext, penalizeProvider_escrow, refunded_escrows,
        Option.some.injEq] at hescrow
      subst hescrow
      cases hlocked
  | expire ho hc hst hnow _ hext =>
      rw [entry, hext] at hescrow
      obtain ⟨c', hc', hst'⟩ := hs record hescrow hlocked
      cases hc.symm.trans hc'
      rcases hst with hp | ha
      · rcases hst' with h | h <;> cases hp.symm.trans h
      · subst ho
        exact absurd ⟨_, hc, ha, hnow⟩ hok

/-- A step keeps all escrows handled exactly when it does not expire an active commitment. -/
theorem step_noStranded_iff {s : State cfg} (hal : AllAligned s) (h : NoStranded s)
    (i : Input AccountId) : NoStranded (step s i) ↔ ¬ ExpiresActive s i := by
  constructor
  · intro h' hexp
    unfold ExpiresActive at hexp
    split at hexp
    · rename_i who id
      obtain ⟨c, hc, ha, hnow⟩ := hexp
      have hok : (expireCommitment cfg.vectorDb (.signed who) id).run s = .ok () _ :=
        expireCommitment_ok.mpr ⟨who, rfl, c, hc, Or.inr ha, hnow, rfl⟩
      obtain ⟨⟨record, hrec, hlocked, -⟩, -⟩ := ((aligned_some hc).mp (hal id)).2.active ha
      have hid := h' id
      rw [step, Call.run, dispatch_of_ok hok] at hid
      obtain ⟨c', hc', -⟩ := hid record hrec hlocked
      cases (StorageMap.remove_self s.storage.vectorCommitments id).symm.trans hc'
    · exact hexp
  · intro hok id
    rcases step_effect s i with ⟨origin, c, rfl, -, heff, hframe⟩ | hp
    · by_cases hid : id = c.target cfg.vectorDb s
      · subst hid
        exact heff.handled (h _) hok
      · rw [hframe id hid]
        exact h id
    · rw [hp.entry]
      exact h id

/-- **No escrow is stranded exactly in the runs that expire no active commitment.** -/
theorem noStranded_iff (cfg : Config AccountId) (disputeWindow : Option Nat)
    (blockHash : Nat → Bytes32) (ledger : cfg.currency.Ledger) (run : List (Input AccountId)) :
    (∀ k, NoStranded (exec step (genesis cfg disputeWindow blockHash ledger) (run.take k))) ↔
      ∀ p ∈ trace step (genesis cfg disputeWindow blockHash ledger) run,
        ¬ ExpiresActive p.1 p.2 := by
  refine forall_take_iff NoStranded (fun s _ => AllAligned s) (fun s i => ¬ ExpiresActive s i)
    (fun s i hal h => step_noStranded_iff hal h i) run _ (fun id record h => by cases h) ?_
  exact trace_invariant AllAligned (fun _ _ => True) (fun _ i h _ => step_allAligned h i) run _
    (allAligned_genesis cfg disputeWindow blockHash ledger) (fun _ _ => trivial)

/-- Account 9 expires the commitment of `dealRun` ten blocks later; the 50 tokens of account 2
stay locked without a commitment. -/
theorem stranded_dealRun : ¬ NoStranded (exec step devGenesis (dealRun ++ [nextBlocks 10,
    .call (.signed 9) (.vectorDb (.expireCommitment dealId))])) := by
  intro h
  have hescrow : ((exec step devGenesis (dealRun ++ [nextBlocks 10,
      .call (.signed 9) (.vectorDb (.expireCommitment dealId))])).ext.escrow.escrows dealId).map
        (·.status) = some .locked := by decide +kernel
  have hgone : (exec step devGenesis (dealRun ++ [nextBlocks 10,
      .call (.signed 9) (.vectorDb (.expireCommitment dealId))])).storage.vectorCommitments dealId
        = none := by decide +kernel
  obtain ⟨record, hrec, hlocked⟩ := Option.map_eq_some_iff.mp hescrow
  obtain ⟨c, hc, -⟩ := h dealId record hrec hlocked
  cases hgone.symm.trans hc

end Runtime
