import ArthNeura.VectorDb.Lifecycle

set_option autoImplicit false

/-! # The counter of active commitments

`ActiveCommitmentCount` is kept up to date by hand, with saturating arithmetic that would hide a
mistake. It is exact: a call changes it by as much as it changes the number of the commitments
that are pending, active or disputed (`call_count`). So it never saturates below, and above only
if more commitments are live at once than the counter can hold.
-/

namespace VectorDb

open Frame

variable {AccountId Ext : Type} [DecidableEq AccountId] {cfg : Config AccountId Ext}

/-- Pending, active or disputed. -/
def VectorCommitment.live (c : VectorCommitment) : Bool :=
  decide (c.status = .pending ∨ c.status = .active ∨ c.status = .disputed)

/-- The number of the live commitments. -/
noncomputable def State.liveCount (s : State Ext) : Nat :=
  s.storage.vectorCommitments.count VectorCommitment.live

/-- The calls that add a live commitment. -/
def Call.opens : Call → Bool
  | .registerCommitment .. => true
  | _ => false

/-- The calls that end a live commitment. -/
def Call.closes : Call → Bool
  | .closeCommitment .. | .counterDispute .. | .finalizeDispute .. | .expireCommitment .. => true
  | _ => false

/-- A successful call, from `s` to `s'`, changes the counter as it changes the live commitments. -/
inductive CountEffect (s s' : State Ext) (c : Call) : Prop
  | opened (hc : c.opens = true) (hlive : s'.liveCount = s.liveCount + 1)
      (hcount : s'.storage.activeCommitmentCount = satAdd s.storage.activeCommitmentCount 1)
  | closed (hc : c.closes = true) (hlive : s'.liveCount + 1 = s.liveCount)
      (hcount : s'.storage.activeCommitmentCount = s.storage.activeCommitmentCount - 1)
  | kept (hopens : c.opens = false) (hcloses : c.closes = false)
      (hlive : s'.liveCount = s.liveCount)
      (hcount : s'.storage.activeCommitmentCount = s.storage.activeCommitmentCount)

/-- Rewriting a live commitment. -/
theorem liveCount_insert {s : State Ext} {m : StorageMap CommitmentId VectorCommitment}
    {id : CommitmentId} {c : VectorCommitment} (hc : s.storage.vectorCommitments id = some c)
    (hlive : c.live = true) (c' : VectorCommitment)
    (hm : m = s.storage.vectorCommitments.insert id c') :
    m.count VectorCommitment.live + 1 = s.liveCount + (if c'.live then 1 else 0) := by
  have h := s.storage.vectorCommitments.count_insert VectorCommitment.live id c'
  rw [hc, Option.any_some, hlive, if_pos rfl] at h
  rw [hm]
  exact h

/-- Storing a live commitment where there was none. -/
theorem liveCount_new {s : State Ext} {m : StorageMap CommitmentId VectorCommitment}
    {id : CommitmentId} (hnone : s.storage.vectorCommitments id = none) (c : VectorCommitment)
    (hlive : c.live = true) (hm : m = s.storage.vectorCommitments.insert id c) :
    m.count VectorCommitment.live = s.liveCount + 1 := by
  have h := s.storage.vectorCommitments.count_insert VectorCommitment.live id c
  rw [hnone, hlive, if_pos rfl] at h
  rw [hm]
  exact h

theorem call_count {origin : Origin AccountId} {c : Call} {s s' : State Ext}
    (h : (c.run cfg origin).run s = .ok () s') : CountEffect s s' c := by
  cases c with
  | registerCommitment providerDid consumerDid merkleRoot totalChunks metadata expires price =>
      obtain ⟨-, -, -, -, -, -, -, -, -, hnone, rfl⟩ := registerCommitment_ok.mp h
      exact .opened rfl (liveCount_new hnone _ rfl rfl) rfl
  | acknowledgeCommitment id consumerDid =>
      obtain ⟨-, -, c, hc, hst, -, -, -, -, -, ext, -, rfl⟩ := acknowledgeCommitment_ok.mp h
      have hlive : c.live = true := by simp [VectorCommitment.live, hst]
      -- pending before and active after
      refine .kept rfl rfl (Nat.succ.inj ?_) rfl
      exact liveCount_insert hc hlive _ rfl
  | closeCommitment id consumerDid finalStreamHash chunkCount =>
      obtain ⟨-, -, c, hc, hst, -, -, -, -, ext, -, rfl⟩ := closeCommitment_ok.mp h
      have hlive : c.live = true := by simp [VectorCommitment.live, hst]
      exact .closed rfl (liveCount_insert hc hlive _ rfl) rfl
  | raiseDispute id consumerDid index hash chunkCount =>
      obtain ⟨-, -, c, hc, hst, -, -, -, hnone, -, rfl⟩ := (raiseDispute_ok chunkCount).mp h
      have hlive : c.live = true := by simp [VectorCommitment.live, hst]
      refine .kept rfl rfl (Nat.succ.inj ?_) rfl
      exact liveCount_insert hc hlive _ rfl
  | counterDispute id providerDid chunkData merkleProof =>
      obtain ⟨-, -, c, hc, hst, -, -, d, hd, -, -, -, ext, -, rfl⟩ := counterDispute_ok.mp h
      have hlive : c.live = true := by simp [VectorCommitment.live, hst]
      exact .closed rfl (liveCount_insert hc hlive _ rfl) rfl
  | finalizeDispute id =>
      obtain ⟨-, -, c, hc, hst, d, hd, -, ext, -, rfl⟩ := finalizeDispute_ok.mp h
      have hlive : c.live = true := by simp [VectorCommitment.live, hst]
      exact .closed rfl (liveCount_insert hc hlive _ rfl) rfl
  | expireCommitment id =>
      obtain ⟨-, -, c, hc, hst, -, rfl⟩ := expireCommitment_ok.mp h
      have hlive : c.live = true := by
        rcases hst with hst | hst <;> simp [VectorCommitment.live, hst]
      -- the only call that deletes the commitment
      have hcount := s.storage.vectorCommitments.count_remove VectorCommitment.live id
      rw [hc, Option.any_some, hlive, if_pos rfl] at hcount
      exact .closed rfl hcount rfl

/-! ## Runs -/

/-- A step adds at most one live commitment. -/
theorem liveCount_step_le (cfg : Config AccountId Ext) (s : State Ext)
    (i : Input AccountId Ext) : (step cfg s i).liveCount ≤ s.liveCount + 1 := by
  cases i with
  | environment ext => exact Nat.le_succ _
  | call origin c =>
      rcases dispatch_cases (c.run cfg origin) s with ⟨s', hok, hd⟩ | ⟨-, hd⟩
      · rw [step, hd]
        cases call_count hok with
        | opened _ hlive _ => exact hlive.le
        | closed _ hlive _ => omega
        | kept _ _ hlive _ => omega
      · rw [step, hd]
        exact Nat.le_succ _

/-- The counter is exact. -/
def CountExact (s : State Ext) : Prop := s.storage.activeCommitmentCount = s.liveCount

/-- What a successful call does to an exact counter: no operation saturates. -/
structure ExactStep (s s' : State Ext) (c : Call) : Prop where
  counted : CountExact s'
  opens : c.opens = true →
    s'.storage.activeCommitmentCount = s.storage.activeCommitmentCount + 1
  closes : c.closes = true →
    s'.storage.activeCommitmentCount + 1 = s.storage.activeCommitmentCount

theorem CountEffect.exactStep {s s' : State Ext} {c : Call} (h : CountEffect s s' c)
    (hs : CountExact s) (hlt : s'.liveCount < 2 ^ 32) : ExactStep s s' c := by
  rw [CountExact] at hs
  cases h with
  | opened hc hlive hcount =>
      rw [satAdd_eq (by omega)] at hcount
      refine ⟨?_, fun _ => hcount, fun hcl => ?_⟩
      · rw [CountExact]
        omega
      · cases c <;> simp_all [Call.opens, Call.closes]
  | closed hc hlive hcount =>
      refine ⟨?_, fun hop => ?_, fun _ => by omega⟩
      · rw [CountExact]
        omega
      · cases c <;> simp_all [Call.opens, Call.closes]
  | kept hopens hcloses hlive hcount =>
      refine ⟨?_, fun hop => ?_, fun hcl => ?_⟩
      · rw [CountExact]
        omega
      · rw [hopens] at hop
        cases hop
      · rw [hcloses] at hcl
        cases hcl

theorem step_countExact (s : State Ext) (i : Input AccountId Ext) (h : CountExact s)
    (hlt : (step cfg s i).liveCount < 2 ^ 32) : CountExact (step cfg s i) := by
  cases i with
  | environment ext => exact h
  | call origin c =>
      rcases dispatch_cases (c.run cfg origin) s with ⟨s', hok, hd⟩ | ⟨-, hd⟩
      · rw [step, hd] at hlt ⊢
        exact ((call_count hok).exactStep h hlt).counted
      · rw [step, hd]
        exact h

theorem countExact_genesis (disputeWindow : Option Nat) (ext : Ext) :
    CountExact (genesis disputeWindow ext) := (StorageMap.count_empty _).symm

/-- **The counter of active commitments is exact** in every run of the pallet in which fewer than
`2^32` commitments are live at once, and none of its saturating operations saturates. -/
theorem activeCommitmentCount_exact (cfg : Config AccountId Ext) (disputeWindow : Option Nat)
    (ext : Ext) (run : List (Input AccountId Ext))
    (hlive : ∀ p ∈ trace (step cfg) (genesis disputeWindow ext) run,
      (step cfg p.1 p.2).liveCount < 2 ^ 32) :
    CountExact (exec (step cfg) (genesis disputeWindow ext) run) ∧
    ∀ p ∈ trace (step cfg) (genesis disputeWindow ext) run, ∀ origin c,
      p.2 = .call origin c → succeeds (c.run cfg origin) p.1 = true →
        ExactStep p.1 (step cfg p.1 p.2) c := by
  constructor
  · exact exec_invariant CountExact (fun s i => (step cfg s i).liveCount < 2 ^ 32)
      step_countExact run _ (countExact_genesis disputeWindow ext) hlive
  · intro p hp origin c hi hok
    have hexact : CountExact p.1 :=
      trace_invariant CountExact (fun s i => (step cfg s i).liveCount < 2 ^ 32)
        step_countExact run _ (countExact_genesis disputeWindow ext) hlive p hp
    obtain ⟨s', hrun⟩ := succeeds_iff.mp hok
    have hlt := hlive p hp
    rw [hi, step, dispatch_of_ok hrun] at hlt ⊢
    exact (call_count hrun).exactStep hexact hlt

theorem activeCommitmentCount_exact_settledRun :
    CountExact (exec (step mockConfig) (genesis none (testExt 1)) settledRun) := by
  refine (activeCommitmentCount_exact mockConfig none (testExt 1) settledRun fun p hp => ?_).1
  have hgrowth := trace_growth State.liveCount (liveCount_step_le mockConfig) settledRun
    (genesis none (testExt 1)) p hp
  have hstart : (genesis none (testExt 1)).liveCount = 0 := StorageMap.count_empty _
  have hlength : settledRun.length = 9 := rfl
  omega

end VectorDb
