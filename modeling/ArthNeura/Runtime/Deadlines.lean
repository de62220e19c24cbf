import ArthNeura.Runtime.Settlement
import ArthNeura.Runtime.Timeline

set_option autoImplicit false

/-! # No deal stays open for ever

A commitment that nobody touches is open until somebody ends it, but nobody can keep it open: from a
block on that is fixed when it is registered, a single call of any account ends it, whatever the
parties have done in the meantime, and no approval of either side is asked for
(`deal_can_be_ended`). The last block is late because a dispute may be raised in the last block
before the expiry and has its own window.
-/

namespace Runtime

open Frame VectorDb

variable {AccountId : Type} [DecidableEq AccountId] {cfg : Config AccountId}

/-- The call that ends an open commitment of the given status after its time. -/
def endingCall (id : CommitmentId) : CommitmentStatus → VectorDb.Call
  | .disputed => .finalizeDispute id
  | .pending | .active | .settled | .disputeResolved | .expired => .expireCommitment id

section

variable {s : State cfg} {id : CommitmentId} {c : VectorCommitment}

/-- A commitment that is pending or active can be purged from the block of its expiry on. -/
theorem expire_ends (hc : s.storage.vectorCommitments id = some c)
    (hst : c.status = .pending ∨ c.status = .active) (hexp : c.expiresAt ≤ now s)
    (who : AccountId) :
    (entry (step s (.call (.signed who) (.vectorDb (.expireCommitment id)))) id).commitment
      = none := by
  obtain ⟨s', hok⟩ : ∃ s', ((VectorDb.Call.expireCommitment id).run cfg.vectorDb
      (.signed who)).run s = .ok () s' :=
    ⟨_, expireCommitment_ok.mpr ⟨who, rfl, c, hc, hst, hexp, rfl⟩⟩
  rw [step, dispatch_of_ok hok]
  cases vectorDb_effect hok with
  | expire _ _ _ _ hrec _ => rw [entry_eq hrec]

/-- A dispute can be decided after its deadline. -/
theorem finalize_ends (hal : AllAligned s) (hc : s.storage.vectorCommitments id = some c)
    (hst : c.status = .disputed) {d : DisputeRecord} (hd : s.storage.disputeRecords id = some d)
    (hlate : d.counterDeadline < now s) (who : AccountId) :
    (entry (step s (.call (.signed who) (.vectorDb (.finalizeDispute id)))) id).commitment
      = some { c with status := .disputeResolved } := by
  have hsucc := (finalizeDispute_succeeds hal who id).mpr ⟨c, d, hc, hst, hd, hlate⟩
  obtain ⟨s', hok⟩ := succeeds_iff.mp hsucc
  have hstep : step s (.call (.signed who) (.vectorDb (.finalizeDispute id))) = s' :=
    dispatch_of_ok hok
  rw [hstep]
  cases vectorDb_effect (c := .finalizeDispute id) hok with
  | finalize _ hc' _ _ _ _ _ hrec _ =>
      cases hc.symm.trans hc'
      rw [entry_eq hrec]

/-- All deadlines of a commitment lie within its lifetime and one window. -/
theorem Timed.ended (h : Timed s) (hc : s.storage.vectorCommitments id = some c)
    (hopen : ¬ c.Terminal)
    (hlate : c.createdAt + cfg.maxCommitmentLifetime + disputeWindow s < now s)
    (who : AccountId) :
    ∀ c', (entry (step s (.call (.signed who) (.vectorDb (endingCall id c.status)))) id).commitment
      = some c' → c'.Terminal := by
  intro c' hc'
  obtain ⟨htimely, -, -⟩ := h.timely id c hc
  have hal := ((aligned_some hc).mp (h.aligned id)).2
  have hexp : c.expiresAt ≤ now s := by
    have hcreated := htimely.created
    omega
  cases hst : c.status with
  | pending =>
      rw [hst, endingCall, expire_ends hc (Or.inl hst) hexp who] at hc'
      cases hc'
  | active =>
      rw [hst, endingCall, expire_ends hc (Or.inr hst) hexp who] at hc'
      cases hc'
  | disputed =>
      obtain ⟨-, ⟨d, hd, -⟩, -⟩ := hal.disputed hst
      -- the dispute was raised before the expiry, and its deadline is one window later
      obtain ⟨t, -, -, hraised⟩ := htimely.dispute d hd
      have hdeadline := htimely.deadline d hd
      have hlate' : d.counterDeadline < now s := by
        have hcreated := htimely.created
        omega
      rw [hst, endingCall, finalize_ends h.aligned hc hst hd hlate' who] at hc'
      cases hc'
      exact Or.inr rfl
  | settled => exact absurd (Or.inl hst) hopen
  | disputeResolved => exact absurd (Or.inr hst) hopen
  | expired =>
      rw [StatusAligned, hst] at hal
      exact hal.elim

end

/-- **No deal stays open for ever.** While block numbers are so small that neither the window nor
the lifetime makes them saturate, in every reachable state: once the lifetime and one window have
passed since a commitment was registered, one call of any account ends it, if it is still open:
whatever is then stored under the identifier is settled or resolved. -/
theorem deal_can_be_ended (cfg : Config AccountId) (window : Option Nat)
    (blockHash : Nat → Bytes32) (ledger : cfg.currency.Ledger) (run : List (Input AccountId))
    (W : Nat) (hW : W = window.getD cfg.disputeWindow)
    (hblocks : ∀ p ∈ trace step (genesis cfg window blockHash ledger) run,
      now p.1 + max W cfg.maxCommitmentLifetime < 2 ^ 32)
    (s : State cfg) (hs : s = exec step (genesis cfg window blockHash ledger) run)
    (id : CommitmentId) (c : VectorCommitment) (hc : s.storage.vectorCommitments id = some c)
    (hopen : ¬ c.Terminal) (hlate : c.createdAt + cfg.maxCommitmentLifetime + W < now s)
    (who : AccountId) :
    ∀ c', (step s (.call (.signed who) (.vectorDb
      (endingCall id c.status)))).storage.vectorCommitments id = some c' → c'.Terminal := by
  have hstep : ∀ (s : State cfg) (i : Input AccountId), Timed s ∧ disputeWindow s = W →
      now s + max W cfg.maxCommitmentLifetime < 2 ^ 32 →
      Timed (step s i) ∧ disputeWindow (step s i) = W := by
    rintro s i ⟨ht, hw⟩ hu
    refine ⟨step_timed ht i ?_, (step_disputeWindow s i).trans hw⟩
    rw [Unsaturated, hw]
    exact hu
  obtain ⟨ht, hw⟩ := exec_invariant (fun s : State cfg => Timed s ∧ disputeWindow s = W)
    (fun s _ => now s + max W cfg.maxCommitmentLifetime < 2 ^ 32) hstep run _
    ⟨timed_genesis cfg window blockHash ledger, hW.symm⟩ hblocks
  rw [← hs] at ht hw
  rw [← hw] at hlate
  exact ht.ended hc hopen hlate who

/-- The deal of `dealRun` is disputed, and left alone until the time is over. -/
def neglectedRun : List (Input Nat) :=
  dealRun ++ [nextBlocks 9,
    .call (.signed 2) (.vectorDb (.raiseDispute dealId (AgentRegistry.keyDid 2) 0
      (Bytes32.ofNat 0) 0)),
    nextBlocks 200000]

theorem deal_can_be_ended_neglected :
    ∃ c', (step (exec step devGenesis neglectedRun) (.call (.signed 9) (.vectorDb
      (.finalizeDispute dealId)))).storage.vectorCommitments dealId = some c' ∧ c'.Terminal := by
  have hblocks : ∀ p ∈ trace step devGenesis neglectedRun,
      now p.1 + max 14400 devConfig.maxCommitmentLifetime < 2 ^ 32 := by
    have hall : ∀ q ∈ (trace step devGenesis neglectedRun).map (fun p => now p.1),
        q + max 14400 devConfig.maxCommitmentLifetime < 2 ^ 32 := by decide +kernel
    exact fun p hp => hall (now p.1) (List.mem_map_of_mem hp)
  have hdeal : ((exec step devGenesis neglectedRun).storage.vectorCommitments dealId).any
      (fun c => c.status = .disputed ∧ c.createdAt = 1) = true := by decide +kernel
  have hnow : now (exec step devGenesis neglectedRun) = 200010 := by decide +kernel
  obtain ⟨c, hc, hst⟩ := (Option.any_eq_true ..).mp hdeal
  obtain ⟨hst, hcreated⟩ := of_decide_eq_true hst
  have hopen : ¬ c.Terminal := by simp [VectorCommitment.Terminal, hst]
  have hlate : c.createdAt + devConfig.maxCommitmentLifetime + 14400
      < now (exec step devGenesis neglectedRun) := by
    rw [hnow, hcreated]
    decide
  have hend := deal_can_be_ended devConfig none _ _ neglectedRun 14400 rfl hblocks _ rfl dealId c hc
    hopen hlate 9
  rw [hst] at hend
  have hkept : ((step (exec step devGenesis neglectedRun) (.call (.signed 9) (.vectorDb
      (.finalizeDispute dealId)))).storage.vectorCommitments dealId).isSome = true := by
    decide +kernel
  obtain ⟨c', hc'⟩ := Option.isSome_iff_exists.mp hkept
  exact ⟨c', hc', hend c' hc'⟩

end Runtime
