import ArthNeura.AgentRegistry.Identity
import ArthNeura.AgentRegistry.Strikes
import ArthNeura.Runtime.Effects

set_option autoImplicit false

/-! # The registry seen from the runtime

The other pallets see an agent through the adapters. A revoked agent is not active to them, for
ever (`identity_immutable`); and of the two penalties that they can cause only the one of
`finalize_dispute` is a strike, so that the strikes of a DID can be read off the history of its
disputes (`strikes_accounted`).
-/

namespace Runtime

open Frame

variable {AccountId : Type} [DecidableEq AccountId] {cfg : Config AccountId}

/-! ## Identity -/

/-- A revoked agent is not active. -/
theorem isActiveVerified_revoked {x : Ext cfg} {d : AgentRegistry.Did}
    {p : AgentRegistry.AgentProfile AccountId} (hp : x.registry.agentProfiles d = some p)
    (hst : p.status = .revoked) : AgentRegistryAdapter.isActiveVerified x d = false := by
  rw [AgentRegistryAdapter.isActiveVerified, hp, Option.map_some, Option.getD_some, hst]
  rfl

section

open AgentRegistry (Did AgentProfile newProfile FieldChange SameIdentity Deregistration RevokedAs)

/-- **An agent keeps its identity, and a revocation is final.** In every run of
`pallet-agent-registry`:
each step creates a profile only as the registration of its DID, removes one only as a
deregistration signed by its controller, and changes a profile only as far as `FieldChange` says;
a profile keeps its identity until it is deregistered, and it is verified;
and a revoked profile stays as it is, its DID cannot be registered again, and to the other pallets
it is not active. -/
theorem identity_immutable (cfg : Config AccountId) (system : System)
    (ledger : cfg.currency.Ledger) (run : List (AgentRegistry.Input AccountId)) :
    let s := fun run =>
      exec AgentRegistry.step (AgentRegistry.genesis cfg.registry system ledger) run
    (∀ r ∈ trace AgentRegistry.step (AgentRegistry.genesis cfg.registry system ledger) run, ∀ d,
      (∀ q, r.1.storage.agentProfiles d = none →
        (AgentRegistry.step r.1 r.2).storage.agentProfiles d = some q →
        ∃ a pubkey signature signedAtBlock capabilities metadata label block,
          AgentRegistry.didOf cfg.registry pubkey.val = d ∧
          q = newProfile d a capabilities block metadata label ∧
          r.2 = .call (.signed a)
            (.registerAgent pubkey signature signedAtBlock capabilities metadata label)) ∧
      (∀ p, r.1.storage.agentProfiles d = some p →
        (AgentRegistry.step r.1 r.2).storage.agentProfiles d = none →
        r.2 = .call (.signed p.controller) (.deregisterAgent d)) ∧
      (∀ p q, r.1.storage.agentProfiles d = some p →
        (AgentRegistry.step r.1 r.2).storage.agentProfiles d = some q → FieldChange d r.2 p q)) ∧
    (∀ d p, (s run).storage.agentProfiles d = some p →
      p.did = d ∧ p.isVerified = true ∧
      ∀ later, (∀ r ∈ trace AgentRegistry.step (s run) later, ¬ Deregistration d r.1 r.2) →
        ∃ q, (s (run ++ later)).storage.agentProfiles d = some q ∧ SameIdentity p q) ∧
    (∀ d p, (s run).storage.agentProfiles d = some p → p.status = .revoked →
      ∀ later, RevokedAs d p (s (run ++ later)).storage ∧
        (∀ origin pubkey signature signedAtBlock capabilities metadata label,
          AgentRegistry.didOf cfg.registry pubkey.val = d →
          succeeds (AgentRegistry.registerAgent origin pubkey signature signedAtBlock capabilities
            metadata label) (s (run ++ later)) = false) ∧
        ∀ x : Ext cfg, x.registry = (s (run ++ later)).storage →
          AgentRegistryAdapter.isActiveVerified x d = false) := by
  intro s
  refine ⟨?_, ?_, ?_⟩
  · intro r _ d
    have hmove := (AgentRegistry.step_stepEffect r.1 r.2).profileStep d
    refine ⟨fun q hnone hq => ?_, fun p hp hnone => ?_, fun p q hp hq => ?_⟩
    · rw [hnone, hq] at hmove
      exact hmove.created
    · rw [hp, hnone] at hmove
      exact hmove.removed.2
    · rw [hp, hq] at hmove
      exact hmove.changed
  · intro d p hp
    obtain ⟨hdid, hverified⟩ := AgentRegistry.verified_exec system ledger run d p hp
    refine ⟨hdid, hverified, fun later hlater => ?_⟩
    obtain ⟨q, hq, hid⟩ := AgentRegistry.identity_exec hp later hlater
    rw [← exec_append] at hq
    exact ⟨q, hq, hid⟩
  · intro d p hp hst later
    have hrevoked := AgentRegistry.revokedAs_exec hp hst later
    rw [← exec_append] at hrevoked
    have ⟨q, hq, hqst, _⟩ := hrevoked
    refine ⟨hrevoked, ?_, fun x hx => ?_⟩
    · intro origin pubkey signature signedAtBlock capabilities metadata label hdid
      subst hdid
      exact AgentRegistry.registerAgent_fails hq
    · exact isActiveVerified_revoked (by rw [hx]; exact hq) hqst

end

/-! ## Strikes -/

section

open VectorDb (Did)

/-- The input is a `finalize_dispute` that goes through, on a commitment with provider `d`, which
has a profile. -/
def guiltyVerdict (d : Did) (s : State cfg) : Input AccountId → Bool
  | .call origin (.vectorDb (.finalizeDispute id)) =>
      succeeds (VectorDb.finalizeDispute cfg.vectorDb origin id) s
        && (s.storage.vectorCommitments id).any (fun c => decide (c.provider = d))
        && (s.ext.registry.agentProfiles d).isSome
  | _ => false

/-- The number of guilty verdicts on `d` among the steps of a run. -/
def guiltyVerdicts (d : Did) (past : List (State cfg × Input AccountId)) : Nat :=
  past.countP fun p => guiltyVerdict d p.1 p.2

/-- What a step of the runtime does to the strikes of `d`. -/
abbrev StrikeStep (d : Did) (s : State cfg) (i : Input AccountId) (s' : State cfg) : Prop :=
  AgentRegistry.StrikeStep cfg.registry.strikeThreshold (guiltyVerdict d s i)
    (s.ext.registry.disputeStrikes d) (AgentRegistry.slashReports d s.ext.registry.events)
    (s'.ext.registry.disputeStrikes d) (AgentRegistry.slashReports d s'.ext.registry.events)

theorem guiltyVerdict_of_ne {c : VectorDb.Call} (hc : ∀ id, c ≠ .finalizeDispute id) (d : Did)
    (s : State cfg) (origin : Origin AccountId) :
    guiltyVerdict d s (.call origin (.vectorDb c)) = false := by
  cases c with
  | finalizeDispute id => exact absurd rfl (hc id)
  | _ => rfl

theorem CallEffect.strikeStep {s s' : State cfg} {origin : Origin AccountId} {c : VectorDb.Call}
    (h : CallEffect s s' origin c) (hok : succeeds (c.run cfg.vectorDb origin) s = true) (d : Did) :
    StrikeStep d s (.call origin (.vectorDb c)) s' := by
  cases h.registryEffect with
  | untouched hc hreg =>
      rw [StrikeStep, hreg]
      exact .kept (guiltyVerdict_of_ne hc d s origin) rfl rfl
  | @falseDisputer hc x did hext hx =>
      -- this penalty does not count
      have hstep := (AgentRegistry.step_stepEffect x.registryState
        (.slashReputation did cfg.falseDisputeSlash)).strikeStep d
      rw [StrikeStep, hext, ← hx, guiltyVerdict_of_ne hc d s origin]
      exact hstep
  | @provider id cm record hc hcm hext =>
      subst hc
      have hstep := (AgentRegistry.step_stepEffect (s.ext.refunded id record).registryState
        (.slashReputationForGuiltyDelivery cm.provider cfg.providerGuiltySlash)).strikeStep d
      -- the refund before the penalty leaves the registry alone
      have hverdict : guiltyVerdict d s (.call origin (.vectorDb (.finalizeDispute id)))
          = AgentRegistry.strikes d s.ext.registry
            (.slashReputationForGuiltyDelivery cm.provider cfg.providerGuiltySlash :
              AgentRegistry.Input AccountId) := by
        rw [guiltyVerdict, show succeeds (VectorDb.finalizeDispute cfg.vectorDb origin id) s = true
          from hok, hcm, Option.any_some, Bool.true_and]
        rfl
      rw [StrikeStep, hext, hverdict]
      exact hstep

theorem step_strikeStep (d : Did) (s : State cfg) (i : Input AccountId) :
    StrikeStep d s i (step s i) := by
  cases i with
  | newBlocks blocks blockHash => exact .kept rfl rfl rfl
  | call origin c =>
      cases c with
      | agentRegistry c =>
          rcases registryCall_cases s origin c with ⟨t, hrun, hstep⟩ | hstep
          · rw [hstep]
            exact (AgentRegistry.call_stepEffect hrun).strikeStep d
          · rw [hstep]
            exact .kept rfl rfl rfl
      | vectorDb c =>
          rcases dispatch_cases (c.run cfg.vectorDb origin) s with ⟨s', hrun, hd⟩ | ⟨hfail, hd⟩
          · rw [step, hd]
            exact (vectorDb_effect hrun).strikeStep (succeeds_iff.mpr ⟨s', hrun⟩) d
          · rw [step, hd]
            refine .kept ?_ rfl rfl
            -- a call that fails is no verdict
            cases c with
            | finalizeDispute id =>
                rw [guiltyVerdict, show succeeds (VectorDb.finalizeDispute cfg.vectorDb origin id) s
                  = false from hfail, Bool.false_and, Bool.false_and]
            | _ => rfl

/-- **The strikes of a DID are the guilty verdicts on it, modulo the threshold.** Let `k` be the
number of the `finalize_dispute` calls of a run that have gone through, on commitments with
provider `d`, while `d` had a profile, and let `T` be the threshold, a positive `u32`. Then `d` is
at `k % T` strikes, and `k / T` events have reported a slash of its deposit, each with `T`
strikes. -/
theorem strikes_accounted (cfg : Config AccountId) (hone : 1 ≤ cfg.registry.strikeThreshold)
    (hmax : cfg.registry.strikeThreshold ≤ u32Max) (disputeWindow : Option Nat)
    (blockHash : Nat → Bytes32) (ledger : cfg.currency.Ledger) (run : List (Input AccountId))
    (d : Did) :
    let k := guiltyVerdicts d (trace step (genesis cfg disputeWindow blockHash ledger) run)
    let T := cfg.registry.strikeThreshold
    (exec step (genesis cfg disputeWindow blockHash ledger) run).ext.registry.disputeStrikes d
        = k % T ∧
    AgentRegistry.slashReports d
        (exec step (genesis cfg disputeWindow blockHash ledger) run).ext.registry.events
      = List.replicate (k / T) T := by
  intro k T
  have hcount : AgentRegistry.StrikeCount T k
      ((exec step (genesis cfg disputeWindow blockHash ledger) run).ext.registry.disputeStrikes d)
      (AgentRegistry.slashReports d
        (exec step (genesis cfg disputeWindow blockHash ledger) run).ext.registry.events) := by
    refine exec_history (fun past (s : State cfg) =>
      AgentRegistry.StrikeCount T (guiltyVerdicts d past) (s.ext.registry.disputeStrikes d)
        (AgentRegistry.slashReports d s.ext.registry.events)) (fun past s i h => ?_)
      (genesis cfg disputeWindow blockHash ledger) ⟨hone, 0, rfl, rfl⟩ run
    rw [guiltyVerdicts, List.countP_append, List.countP_singleton]
    exact (step_strikeStep d s i).strikeCount hmax h
  exact hcount.closed

/-- The deal is disputed and the provider does not answer; a second `finalize_dispute` fails. -/
def convictRun : List (Input Nat) :=
  dealRun ++ [.call (.signed 2) (.vectorDb (.raiseDispute dealId (AgentRegistry.keyDid 2) 0
      (Bytes32.ofNat 0) 0)),
    nextBlocks 14401,
    .call (.signed 9) (.vectorDb (.finalizeDispute dealId)),
    .call (.signed 9) (.vectorDb (.finalizeDispute dealId))]

theorem strikes_accounted_convictRun :
    guiltyVerdicts (AgentRegistry.keyDid 1) (trace step devGenesis convictRun) = 1 ∧
      (exec step devGenesis convictRun).ext.registry.disputeStrikes (AgentRegistry.keyDid 1)
        = 1 := by
  have hk : guiltyVerdicts (AgentRegistry.keyDid 1) (trace step devGenesis convictRun) = 1 := by
    decide +kernel
  have haccounted := (strikes_accounted devConfig (by decide) (by decide) none
    (fun _ => Bytes32.ofNat 0) (AgentRegistry.devLedger (1000 * AgentRegistry.unit)) convictRun
    (AgentRegistry.keyDid 1)).1
  exact ⟨hk, haccounted.trans (congrArg (· % 10) hk)⟩

end

end Runtime
