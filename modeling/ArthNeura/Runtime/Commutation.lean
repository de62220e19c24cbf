import ArthNeura.VectorDb.ActiveCount
import ArthNeura.Runtime.Effects

set_option autoImplicit false

/-! # Calls on different commitments commute

Two calls of `pallet-vector-db` on different identifiers share the counter of active commitments
and the registry, besides the ledger. Both orders of two such calls, if both go through, have
the same outcome (`calls_commute`):

* what a call writes under its identifier is determined by what it finds there, by the block, by
  the dispute window and by the controllers (`CallEffect.entry_determined`), and the other call
  changes none of these;
* a call lowers the counter by one or leaves it alone;
* what the registry sees of a call is a `Penalty`, again determined by the entry, and penalties
  commute (`Penalty.act_comm`): scores are lowered by amounts that do not depend on the score,
  and every strike is the same step of the counter of its DID.
-/

namespace Runtime

open Frame VectorDb

/-! ## Penalties -/

/-- What the penalties of a DID depend on and change: the controller and the score of its
profile, and its strikes. -/
structure Standing (AccountId : Type) where
  profile : Option (AccountId × Nat)
  strikes : Nat

namespace Standing

variable {AccountId : Type}

def slash (amount : Nat) (x : Standing AccountId) : Standing AccountId :=
  { x with profile := x.profile.map fun p => (p.1, p.2 - amount) }

/-- A strike counts only for a DID with a profile; at the threshold the count starts again. -/
def strike (threshold : Nat) (x : Standing AccountId) : Standing AccountId :=
  if x.profile.isSome then
    { x with strikes := if satAdd x.strikes 1 < threshold then satAdd x.strikes 1 else 0 }
  else x

theorem slash_comm (a b : Nat) (x : Standing AccountId) :
    (x.slash a).slash b = (x.slash b).slash a := by
  rcases x with ⟨_ | ⟨controller, score⟩, strikes⟩
  · rfl
  · simp only [slash, Option.map_some]
    rw [Nat.sub_right_comm]

theorem strike_slash (threshold a : Nat) (x : Standing AccountId) :
    (x.slash a).strike threshold = (x.strike threshold).slash a := by
  rcases x with ⟨_ | ⟨controller, score⟩, strikes⟩
  · rfl
  · rfl

theorem slash_controller (a : Nat) (x : Standing AccountId) :
    (x.slash a).profile.map Prod.fst = x.profile.map Prod.fst := by
  rcases x with ⟨_ | ⟨controller, score⟩, strikes⟩
  · rfl
  · rfl

theorem strike_profile (threshold : Nat) (x : Standing AccountId) :
    (x.strike threshold).profile = x.profile := by
  unfold strike
  split
  · rfl
  · rfl

end Standing

/-- The two verdicts, with the DID that is punished. -/
inductive Penalty where
  | falseDisputer (did : Did)
  | provider (did : Did)

variable {AccountId : Type} [DecidableEq AccountId] {cfg : Config AccountId}

namespace Penalty

def did : Penalty → Did
  | .falseDisputer did => did
  | .provider did => did

/-- The effect on the standing of the punished DID. -/
def punish (cfg : Config AccountId) (x : Standing AccountId) : Penalty → Standing AccountId
  | .falseDisputer _ => x.slash cfg.falseDisputeSlash
  | .provider _ => (x.slash cfg.providerGuiltySlash).strike cfg.registry.strikeThreshold

/-- The effect on the standing of `d`. -/
def act (cfg : Config AccountId) (d : Did) (x : Standing AccountId) (p : Penalty) :
    Standing AccountId :=
  if d = p.did then p.punish cfg x else x

theorem punish_comm (x : Standing AccountId) (p q : Penalty) :
    q.punish cfg (p.punish cfg x) = p.punish cfg (q.punish cfg x) := by
  cases p with
  | falseDisputer a =>
      cases q with
      | falseDisputer b => rfl
      | provider b =>
          show ((x.slash _).slash _).strike _ = ((x.slash _).strike _).slash _
          rw [Standing.slash_comm, Standing.strike_slash]
  | provider a =>
      cases q with
      | falseDisputer b =>
          show ((x.slash _).strike _).slash _ = ((x.slash _).slash _).strike _
          rw [← Standing.strike_slash, Standing.slash_comm]
      | provider b => rfl

/-- **Penalties commute.** -/
theorem act_comm (d : Did) (x : Standing AccountId) (p q : Penalty) :
    q.act cfg d (p.act cfg d x) = p.act cfg d (q.act cfg d x) := by
  unfold act
  by_cases hp : d = p.did
  · by_cases hq : d = q.did
    · rw [if_pos hp, if_pos hq, if_pos hq, if_pos hp, punish_comm]
    · rw [if_pos hp, if_neg hq, if_neg hq, if_pos hp]
  · rw [if_neg hp, if_neg hp]

/-- No penalty changes the controller of a profile. -/
theorem act_controller (d : Did) (x : Standing AccountId) (p : Penalty) :
    (p.act cfg d x).profile.map Prod.fst = x.profile.map Prod.fst := by
  unfold act
  split
  · cases p with
    | falseDisputer a => exact x.slash_controller _
    | provider a =>
        show ((x.slash _).strike _).profile.map Prod.fst = _
        rw [Standing.strike_profile, Standing.slash_controller]
  · rfl

end Penalty

/-- The standing of `d` in the registry. -/
def standing (st : AgentRegistry.Storage AccountId) (d : Did) : Standing AccountId :=
  ⟨(st.agentProfiles d).map fun p => (p.controller, p.reputationScore), st.disputeStrikes d⟩

section

open AgentRegistry (slashReputation slashReputationForGuiltyDelivery slashReputation_none
  slashReputation_some guiltyDelivery_none guiltyDelivery_below guiltyDelivery_reached)

theorem standing_slashReputation (s : AgentRegistry.State cfg.registry) (did d : Did)
    (amount : Nat) :
    standing (slashReputation did amount s).storage d =
      if d = did then (standing s.storage d).slash amount else standing s.storage d := by
  cases hp : s.storage.agentProfiles did with
  | none =>
      rw [slashReputation_none amount hp]
      by_cases hd : d = did
      · subst hd
        rw [if_pos rfl, standing, hp]
        rfl
      · rw [if_neg hd]
  | some p =>
      rw [slashReputation_some amount hp]
      by_cases hd : d = did
      · subst hd
        simp [standing, Standing.slash, hp]
      · simp [standing, hd]

theorem standing_guiltyDelivery (s : AgentRegistry.State cfg.registry) (did d : Did)
    (amount : Nat) :
    standing (slashReputationForGuiltyDelivery did amount s).storage d =
      if d = did then
        ((standing s.storage d).slash amount).strike cfg.registry.strikeThreshold
      else standing s.storage d := by
  cases hp : s.storage.agentProfiles did with
  | none =>
      rw [guiltyDelivery_none amount hp]
      by_cases hd : d = did
      · subst hd
        rw [if_pos rfl, standing, hp]
        rfl
      · rw [if_neg hd]
  | some p =>
      by_cases hlt : satAdd (s.storage.disputeStrikes did) 1 < cfg.registry.strikeThreshold
      · rw [guiltyDelivery_below amount hp hlt]
        by_cases hd : d = did
        · subst hd
          simp [standing, Standing.slash, Standing.strike, hp, hlt, slashReputation_some amount hp]
        · simp [standing, hd, slashReputation_some amount hp]
      · rw [guiltyDelivery_reached amount hp (Nat.le_of_not_lt hlt)]
        by_cases hd : d = did
        · subst hd
          simp [standing, Standing.slash, Standing.strike, hp, hlt, slashReputation_some amount hp]
        · simp [standing, hd, slashReputation_some amount hp]

end

/-! ## What a call does, and what it depends on -/

/-- The penalty that a call causes, by the commitment it finds. -/
def penaltyOf : VectorDb.Call → Option VectorCommitment → Option Penalty
  | .counterDispute .., some c => some (.falseDisputer c.consumer)
  | .finalizeDispute _, some c => some (.provider c.provider)
  | _, _ => none

/-- No penalty changes nothing. -/
def actOn (cfg : Config AccountId) (d : Did) (x : Standing AccountId) :
    Option Penalty → Standing AccountId
  | none => x
  | some p => p.act cfg d x

theorem actOn_comm (d : Did) (x : Standing AccountId) (p q : Option Penalty) :
    actOn cfg d (actOn cfg d x p) q = actOn cfg d (actOn cfg d x q) p := by
  cases p with
  | none => rfl
  | some p =>
      cases q with
      | none => rfl
      | some q => exact Penalty.act_comm d x p q

section

variable {s s' t t' : State cfg} {origin : Origin AccountId} {c : VectorDb.Call}

theorem CallEffect.standing (h : CallEffect s s' origin c) (d : Did) :
    Runtime.standing s'.ext.registry d =
      actOn cfg d (Runtime.standing s.ext.registry d)
        (penaltyOf c (entry s (c.target cfg.vectorDb s)).commitment) := by
  cases h with
  | register _ _ _ _ _ _ _ _ _ _ _ hext => rw [hext]; rfl
  | acknowledge _ _ _ _ _ _ _ _ _ _ hext => rw [hext]; rfl
  | close _ _ _ _ _ _ _ _ _ _ _ hext => rw [hext]; rfl
  | raise _ _ _ _ _ _ _ _ _ hext => rw [hext]; rfl
  | @counter id did chunkData merkleProof who cm dr record r _ hc _ _ _ _ _ _ _ _ _ _ _ hext =>
      have hcommitment : (entry s id).commitment = some cm := hc
      rw [hext, Call.target, hcommitment]
      exact standing_slashReputation (s.ext.released id record r.1).registryState cm.consumer d _
  | @finalize id who cm dr record _ hc _ _ _ _ _ _ hext =>
      have hcommitment : (entry s id).commitment = some cm := hc
      rw [hext, Call.target, hcommitment]
      exact standing_guiltyDelivery (s.ext.refunded id record).registryState cm.provider d _
  | expire _ _ _ _ _ hext => rw [hext]; rfl

/-- No call changes the controller of a DID. -/
theorem CallEffect.controllerOf (h : CallEffect s s' origin c) (d : Did) :
    AgentRegistryAdapter.controllerOf s'.ext d = AgentRegistryAdapter.controllerOf s.ext d := by
  have hview : ∀ x : Ext cfg, AgentRegistryAdapter.controllerOf x d =
      (Runtime.standing x.registry d).profile.map Prod.fst := by
    intro x
    rw [AgentRegistryAdapter.controllerOf, Runtime.standing, Option.map_map]
    rfl
  rw [hview, hview, h.standing d]
  cases penaltyOf c (entry s (c.target cfg.vectorDb s)).commitment with
  | none => rfl
  | some p => exact p.act_controller d _

theorem target_eq_of_not_opens (hc : c.opens = false) :
    c.target cfg.vectorDb t = c.target cfg.vectorDb s := by
  cases c with
  | registerCommitment => cases hc
  | _ => rfl

/-- Two states that a call cannot tell apart. -/
structure Alike (c : VectorDb.Call) (s t : State cfg) : Prop where
  entry : entry t (c.target cfg.vectorDb s) = entry s (c.target cfg.vectorDb s)
  now : now t = now s
  window : t.storage.disputeWindowOverride = s.storage.disputeWindowOverride
  controllerOf : ∀ d, AgentRegistryAdapter.controllerOf t.ext d =
    AgentRegistryAdapter.controllerOf s.ext d

/-- **What a call writes under its identifier is determined by what it finds.** -/
theorem CallEffect.entry_determined (h : CallEffect s s' origin c) (h' : CallEffect t t' origin c)
    (hc : c.opens = false) (ha : Alike c s t) :
    Runtime.entry t' (c.target cfg.vectorDb s) = Runtime.entry s' (c.target cfg.vectorDb s) := by
  obtain ⟨hentry, hnow, hwindow, hctl⟩ := ha
  rw [Runtime.entry, Runtime.entry, Entry.mk.injEq] at hentry
  obtain ⟨hcom, hdis, hrcp, hesc⟩ := hentry
  have hblock : t.ext.system.blockNumber = s.ext.system.blockNumber := hnow
  cases h with
  | register => cases hc
  | acknowledge ho hcm _ _ _ _ hpayee _ _ hrec hext =>
      cases h' with
      | acknowledge ho' hcm' _ _ _ _ hpayee' _ _ hrec' hext' =>
          cases ho.symm.trans ho'
          cases hcm.symm.trans (hcom.symm.trans hcm')
          cases hpayee.symm.trans ((hctl _).symm.trans hpayee')
          rw [Call.target] at hdis hrcp ⊢
          rw [entry_eq hrec, entry_eq hrec', hext, hext', locked_escrows, locked_escrows, hdis,
            hrcp, hnow, hblock]
  | close _ hcm _ _ _ _ _ hescrow _ _ hrec hext =>
      cases h' with
      | close _ hcm' _ _ _ _ _ hescrow' _ _ hrec' hext' =>
          cases hcm.symm.trans (hcom.symm.trans hcm')
          cases hescrow.symm.trans (hesc.symm.trans hescrow')
          rw [Call.target] at hdis ⊢
          rw [entry_eq hrec, entry_eq hrec', hext, hext', released_escrows, released_escrows, hdis,
            hnow]
  | raise _ hcm _ _ _ _ _ _ hrec hext =>
      cases h' with
      | raise _ hcm' _ _ _ _ _ _ hrec' hext' =>
          cases hcm.symm.trans (hcom.symm.trans hcm')
          rw [Call.target] at hrcp hesc ⊢
          rw [entry_eq hrec, entry_eq hrec', hext, hext', hrcp, hesc, hnow,
            effectiveDisputeWindow, effectiveDisputeWindow, hwindow]
  | counter _ hcm _ _ _ hd _ _ _ hescrow _ _ hrec hext =>
      cases h' with
      | counter _ hcm' _ _ _ hd' _ _ _ hescrow' _ _ hrec' hext' =>
          cases hcm.symm.trans (hcom.symm.trans hcm')
          cases hd.symm.trans (hdis.symm.trans hd')
          cases hescrow.symm.trans (hesc.symm.trans hescrow')
          rw [Call.target] at hrcp ⊢
          rw [entry_eq hrec, entry_eq hrec', hext, hext', penalizeFalseDisputer_escrow,
            penalizeFalseDisputer_escrow, released_escrows, released_escrows, hrcp]
  | finalize _ hcm _ hd _ hescrow _ hrec hext =>
      cases h' with
      | finalize _ hcm' _ hd' _ hescrow' _ hrec' hext' =>
          cases hcm.symm.trans (hcom.symm.trans hcm')
          cases hd.symm.trans (hdis.symm.trans hd')
          cases hescrow.symm.trans (hesc.symm.trans hescrow')
          rw [Call.target] at hrcp ⊢
          rw [entry_eq hrec, entry_eq hrec', hext, hext', penalizeProvider_escrow,
            penalizeProvider_escrow, refunded_escrows, refunded_escrows, hrcp]
  | expire _ _ _ _ hrec hext =>
      cases h' with
      | expire _ _ _ _ hrec' hext' =>
          rw [Call.target] at hdis hrcp hesc ⊢
          rw [entry_eq hrec, entry_eq hrec', hext, hext', hdis, hrcp, hesc]

/-- A call other than a registration lowers the counter by one or leaves it alone. -/
theorem activeCommitmentCount_eq (h : (c.run cfg.vectorDb origin).run s = .ok () s')
    (hc : c.opens = false) :
    s'.storage.activeCommitmentCount =
      s.storage.activeCommitmentCount - if c.closes then 1 else 0 := by
  cases call_count h with
  | opened hop => rw [hc] at hop; cases hop
  | closed hcl _ hcount => rw [hcount, hcl, if_pos rfl]
  | kept _ hcl _ hcount => rw [hcount, hcl]; rfl

end

/-! ## Two calls -/

/-- Two states agree on the records of the commitments and of the escrows, on the counter, and on
the scores and strikes of the registry. -/
structure SameOutcome (s t : State cfg) : Prop where
  vectorCommitments : s.storage.vectorCommitments = t.storage.vectorCommitments
  disputeRecords : s.storage.disputeRecords = t.storage.disputeRecords
  streamReceipts : s.storage.streamReceipts = t.storage.streamReceipts
  activeCommitmentCount : s.storage.activeCommitmentCount = t.storage.activeCommitmentCount
  escrows : s.ext.escrow.escrows = t.ext.escrow.escrows
  reputationScores : ∀ did, (s.ext.registry.agentProfiles did).map (·.reputationScore) =
    (t.ext.registry.agentProfiles did).map (·.reputationScore)
  disputeStrikes : s.ext.registry.disputeStrikes = t.ext.registry.disputeStrikes

theorem sameOutcome_of {s t : State cfg} (hentry : ∀ id, entry s id = entry t id)
    (hcount : s.storage.activeCommitmentCount = t.storage.activeCommitmentCount)
    (hstanding : ∀ d, standing s.ext.registry d = standing t.ext.registry d) :
    SameOutcome s t where
  vectorCommitments := funext fun id => congrArg Entry.commitment (hentry id)
  disputeRecords := funext fun id => congrArg Entry.dispute (hentry id)
  streamReceipts := funext fun id => congrArg Entry.receipt (hentry id)
  activeCommitmentCount := hcount
  escrows := funext fun id => congrArg Entry.escrow (hentry id)
  reputationScores did := by
    have h := congrArg (fun x => x.profile.map Prod.snd) (hstanding did)
    simp only [standing, Option.map_map] at h
    exact h
  disputeStrikes := funext fun d => congrArg Standing.strikes (hstanding d)

section

variable {s s₁ s₂ s₁₂ s₂₁ : State cfg} {o₁ o₂ : Origin AccountId} {c₁ c₂ : VectorDb.Call}

/-- After a call on another identifier, a call finds what it would have found before. -/
theorem alike_after (h₂ : (c₂.run cfg.vectorDb o₂).run s = .ok () s₂)
    (hne : c₁.target cfg.vectorDb s ≠ c₂.target cfg.vectorDb s) : Alike c₁ s s₂ where
  entry := vectorDb_entry_ne h₂ hne
  now := by rw [now, now, (vectorDb_effect h₂).system]
  window := call_disputeWindowOverride h₂
  controllerOf d := (vectorDb_effect h₂).controllerOf d

theorem sameOutcome_of_ok (hc₁ : c₁.opens = false) (hc₂ : c₂.opens = false)
    (hne : c₁.target cfg.vectorDb s ≠ c₂.target cfg.vectorDb s)
    (h₁ : (c₁.run cfg.vectorDb o₁).run s = .ok () s₁)
    (h₁₂ : (c₂.run cfg.vectorDb o₂).run s₁ = .ok () s₁₂)
    (h₂ : (c₂.run cfg.vectorDb o₂).run s = .ok () s₂)
    (h₂₁ : (c₁.run cfg.vectorDb o₁).run s₂ = .ok () s₂₁) : SameOutcome s₁₂ s₂₁ := by
  have ha₁ : Alike c₁ s s₂ := alike_after h₂ hne
  have ha₂ : Alike c₂ s s₁ := alike_after h₁ hne.symm
  have ht₁ : c₁.target cfg.vectorDb s₂ = c₁.target cfg.vectorDb s := target_eq_of_not_opens hc₁
  have ht₂ : c₂.target cfg.vectorDb s₁ = c₂.target cfg.vectorDb s := target_eq_of_not_opens hc₂
  have hw₁ := (vectorDb_effect h₁).entry_determined (vectorDb_effect h₂₁) hc₁ ha₁
  have hw₂ := (vectorDb_effect h₂).entry_determined (vectorDb_effect h₁₂) hc₂ ha₂
  refine sameOutcome_of (fun id => ?_) ?_ (fun d => ?_)
  · by_cases hid₁ : id = c₁.target cfg.vectorDb s
    · subst hid₁
      rw [hw₁]
      exact vectorDb_entry_ne h₁₂ (by rw [ht₂]; exact hne)
    · by_cases hid₂ : id = c₂.target cfg.vectorDb s
      · subst hid₂
        rw [hw₂]
        exact (vectorDb_entry_ne h₂₁ (by rw [ht₁]; exact hid₁)).symm
      · calc entry s₁₂ id = entry s₁ id := vectorDb_entry_ne h₁₂ (by rw [ht₂]; exact hid₂)
          _ = entry s id := vectorDb_entry_ne h₁ hid₁
          _ = entry s₂ id := (vectorDb_entry_ne h₂ hid₂).symm
          _ = entry s₂₁ id := (vectorDb_entry_ne h₂₁ (by rw [ht₁]; exact hid₁)).symm
  · rw [activeCommitmentCount_eq h₁₂ hc₂, activeCommitmentCount_eq h₁ hc₁,
      activeCommitmentCount_eq h₂₁ hc₁, activeCommitmentCount_eq h₂ hc₂, Nat.sub_right_comm]
  · rw [(vectorDb_effect h₁₂).standing d, (vectorDb_effect h₁).standing d,
      (vectorDb_effect h₂₁).standing d, (vectorDb_effect h₂).standing d, ht₁, ht₂, ha₁.entry,
      ha₂.entry, actOn_comm]

end

/-- **Calls on different commitments commute.** From every state, if two calls other than
registrations, on different identifiers, go through in both orders, then both orders end in the
same records, counter, scores and strikes. -/
theorem calls_commute (s : State cfg) (o₁ o₂ : Origin AccountId) (c₁ c₂ : VectorDb.Call)
    (hc₁ : c₁.opens = false) (hc₂ : c₂.opens = false)
    (hne : c₁.target cfg.vectorDb s ≠ c₂.target cfg.vectorDb s)
    (h₁ : succeeds (c₁.run cfg.vectorDb o₁) s = true)
    (h₁₂ : succeeds (c₂.run cfg.vectorDb o₂) (step s (.call o₁ (.vectorDb c₁))) = true)
    (h₂ : succeeds (c₂.run cfg.vectorDb o₂) s = true)
    (h₂₁ : succeeds (c₁.run cfg.vectorDb o₁) (step s (.call o₂ (.vectorDb c₂))) = true) :
    SameOutcome (exec step s [.call o₁ (.vectorDb c₁), .call o₂ (.vectorDb c₂)])
      (exec step s [.call o₂ (.vectorDb c₂), .call o₁ (.vectorDb c₁)]) := by
  obtain ⟨s₁, hs₁⟩ := succeeds_iff.mp h₁
  obtain ⟨s₂, hs₂⟩ := succeeds_iff.mp h₂
  have hstep₁ : step s (.call o₁ (.vectorDb c₁)) = s₁ := dispatch_of_ok hs₁
  have hstep₂ : step s (.call o₂ (.vectorDb c₂)) = s₂ := dispatch_of_ok hs₂
  rw [hstep₁] at h₁₂
  rw [hstep₂] at h₂₁
  obtain ⟨s₁₂, hs₁₂⟩ := succeeds_iff.mp h₁₂
  obtain ⟨s₂₁, hs₂₁⟩ := succeeds_iff.mp h₂₁
  have hstep₁₂ : step s₁ (.call o₂ (.vectorDb c₂)) = s₁₂ := dispatch_of_ok hs₁₂
  have hstep₂₁ : step s₂ (.call o₁ (.vectorDb c₁)) = s₂₁ := dispatch_of_ok hs₂₁
  rw [exec_cons, exec_cons, exec_nil, hstep₁, hstep₁₂, exec_cons, exec_cons, exec_nil, hstep₂,
    hstep₂₁]
  exact sameOutcome_of_ok hc₁ hc₂ hne hs₁ hs₁₂ hs₂ hs₂₁

def secondDealId : Bytes32 :=
  tailHash (commitmentPreimage (AgentRegistry.keyDid 1) (AgentRegistry.keyDid 2)
    (Bytes32.ofNat 6) 1)

/-- The parties of `dealRun` make a second deal, the consumer disputes both, and the provider does
not answer in time. -/
def disputedRun : List (Input Nat) :=
  dealRun ++
  [.call (.signed 1) (.vectorDb (.registerCommitment (AgentRegistry.keyDid 1)
      (AgentRegistry.keyDid 2) (Bytes32.ofNat 6) 3 .nil 10 AgentRegistry.unit)),
    .call (.signed 2) (.vectorDb (.acknowledgeCommitment secondDealId (AgentRegistry.keyDid 2))),
    .call (.signed 2) (.vectorDb (.raiseDispute dealId (AgentRegistry.keyDid 2) 0
      (Bytes32.ofNat 0) 3)),
    .call (.signed 2) (.vectorDb (.raiseDispute secondDealId (AgentRegistry.keyDid 2) 1
      (Bytes32.ofNat 0) 3)),
    nextBlocks 14401]

/-- Two guilty verdicts on one provider in one block. -/
theorem calls_commute_disputedRun :
    SameOutcome
      (exec step (exec step devGenesis disputedRun)
        [.call (.signed 9) (.vectorDb (.finalizeDispute dealId)),
          .call (.signed 8) (.vectorDb (.finalizeDispute secondDealId))])
      (exec step (exec step devGenesis disputedRun)
        [.call (.signed 8) (.vectorDb (.finalizeDispute secondDealId)),
          .call (.signed 9) (.vectorDb (.finalizeDispute dealId))]) :=
  calls_commute (exec step devGenesis disputedRun) (.signed 9) (.signed 8)
    (.finalizeDispute dealId) (.finalizeDispute secondDealId) rfl rfl (by decide +kernel)
    (by decide +kernel) (by decide +kernel) (by decide +kernel) (by decide +kernel)

end Runtime
