import ArthNeura.AgentRegistry.Effects

set_option autoImplicit false

/-! # The life of a profile

What a step can do to the profile of one DID, and who has to sign it (`ProfileStep`). Every call
rewrites the whole profile; what it changes is seen here field by field. From the registration to
the deregistration the identity of an agent is fixed (`identity_exec`), and a revocation is final
(`revokedAs_exec`).
-/

namespace AgentRegistry

open Frame

variable {AccountId : Type} [DecidableEq AccountId] {cfg : Config AccountId}

/-- The inputs that concern the score of `d`: a star for it, given or removed, or a penalty. -/
def Input.scores (d : Did) : Input AccountId → Prop
  | .call _ (.giveStar _ receiver) => receiver = d
  | .call _ (.removeStar _ receiver) => receiver = d
  | .slashReputation did _ => did = d
  | .slashReputationForGuiltyDelivery did _ => did = d
  | _ => False

/-- What an input may do to the profile of the DID `d`. -/
inductive ProfileStep (cfg : Config AccountId) (d : Did) : Input AccountId →
    Option (AgentProfile AccountId) → Option (AgentProfile AccountId) → Prop
  | same (i : Input AccountId) (o : Option (AgentProfile AccountId)) : ProfileStep cfg d i o o
  | register (a : AccountId) (pubkey : BoundedVec UInt8 maxPubkeyLen)
      (signature : BoundedVec UInt8 maxSigLen) (signedAtBlock : Nat)
      (capabilities : CapabilityBitmap) (metadata : BoundedVec UInt8 maxMetadataLen)
      (label : BoundedVec UInt8 maxLabelLen) (block : Nat) (hdid : didOf cfg pubkey.val = d) :
      ProfileStep cfg d
        (.call (.signed a)
          (.registerAgent pubkey signature signedAtBlock capabilities metadata label))
        none (some (newProfile d a capabilities block metadata label))
  | update (p : AgentProfile AccountId) (capabilities : CapabilityBitmap)
      (metadata : BoundedVec UInt8 maxMetadataLen) (label : BoundedVec UInt8 maxLabelLen)
      (hst : p.status ≠ .revoked) :
      ProfileStep cfg d
        (.call (.signed p.controller) (.updateProfile d capabilities metadata label)) (some p)
        (some { p with capabilities := capabilities, metadata := metadata, label := label })
  | setStatus (p : AgentProfile AccountId) (newStatus : AgentStatus) (hst : p.status ≠ .revoked) :
      ProfileStep cfg d (.call (.signed p.controller) (.setAgentStatus d newStatus)) (some p)
        (some { p with status := newStatus })
  | score (p : AgentProfile AccountId) (n : Nat) (i : Input AccountId) (hi : i.scores d) :
      ProfileStep cfg d i (some p) (some { p with reputationScore := n })
  | deregister (p : AgentProfile AccountId) (hst : p.status ≠ .revoked) :
      ProfileStep cfg d (.call (.signed p.controller) (.deregisterAgent d)) (some p) none

theorem StepEffect.profileStep {s s' : State cfg} {i : Input AccountId} (h : StepEffect s i s')
    (d : Did) : ProfileStep cfg d i (s.storage.agentProfiles d) (s'.storage.agentProfiles d) := by
  have hwrite := fun {did : Did} {o : Option (AgentProfile AccountId)}
    (hmove : ProfileStep cfg did i (s.storage.agentProfiles did) o) =>
      update_rel (R := fun did => ProfileStep cfg did i) (fun _ => .same i) hmove d
  cases h with
  | failed | unslashed | unstruck | newBlock => exact .same _ _
  | @registered a pubkey _ _ capabilities metadata label did ledger dids hdid hnone hledger hpush =>
      refine hwrite ?_
      rw [hnone]
      exact .register a pubkey _ _ capabilities metadata label _ hdid.symm
  | @updated did capabilities metadata label p hp hst =>
      refine hwrite ?_
      rw [hp]
      exact .update p capabilities metadata label hst
  | @statusSet did newStatus p hp hst =>
      have hprofiles : ((let t := s.insertProfile did { p with status := newStatus }
          if newStatus = .revoked then t.mutateActiveAgentCount (· - 1) else t).depositEvent
            (.agentStatusChanged did newStatus)).storage.agentProfiles
          = s.storage.agentProfiles.insert did { p with status := newStatus } := by
        by_cases hn : newStatus = .revoked <;> simp [hn]
      rw [hprofiles]
      refine hwrite ?_
      rw [hp]
      exact .setStatus p newStatus hst
  | starred _ _ hp _ _ _ | unstarred _ _ hp | slashed hp | struck hp _ | depositSlashed hp _ =>
      refine hwrite ?_
      rw [hp]
      exact .score _ _ _ rfl
  | @deregistered did p hp hst =>
      refine hwrite ?_
      rw [hp]
      exact .deregister p hst

/-- What a step may change in a profile that it does not remove, and who has to sign. -/
structure FieldChange (d : Did) (i : Input AccountId) (p q : AgentProfile AccountId) : Prop where
  identity : SameIdentity p q
  content : (q.capabilities, q.metadata, q.label) ≠ (p.capabilities, p.metadata, p.label) →
    ∃ capabilities metadata label,
      i = .call (.signed p.controller) (.updateProfile d capabilities metadata label)
  status : q.status ≠ p.status →
    ∃ newStatus, i = .call (.signed p.controller) (.setAgentStatus d newStatus)
  score : q.reputationScore ≠ p.reputationScore → i.scores d

section

variable {d : Did} {i : Input AccountId} {p q : AgentProfile AccountId}

theorem ProfileStep.created (h : ProfileStep cfg d i none (some q)) :
    ∃ a pubkey signature signedAtBlock capabilities metadata label block,
      didOf cfg pubkey.val = d ∧ q = newProfile d a capabilities block metadata label ∧
      i = .call (.signed a)
        (.registerAgent pubkey signature signedAtBlock capabilities metadata label) := by
  cases h with
  | register a pubkey signature signedAtBlock capabilities metadata label block hdid =>
      exact ⟨a, pubkey, signature, signedAtBlock, capabilities, metadata, label, block, hdid, rfl,
        rfl⟩

theorem ProfileStep.removed (h : ProfileStep cfg d i (some p) none) :
    p.status ≠ .revoked ∧ i = .call (.signed p.controller) (.deregisterAgent d) := by
  cases h with
  | deregister p hst => exact ⟨hst, rfl⟩

theorem ProfileStep.changed (h : ProfileStep cfg d i (some p) (some q)) : FieldChange d i p q := by
  cases h with
  | same _ _ =>
      exact ⟨.refl p, fun hne => absurd rfl hne, fun hne => absurd rfl hne,
        fun hne => absurd rfl hne⟩
  | update _ capabilities metadata label hst =>
      exact ⟨⟨rfl, rfl, rfl, rfl, rfl⟩, fun _ => ⟨capabilities, metadata, label, rfl⟩,
        fun hne => absurd rfl hne, fun hne => absurd rfl hne⟩
  | setStatus _ newStatus hst =>
      exact ⟨⟨rfl, rfl, rfl, rfl, rfl⟩, fun hne => absurd rfl hne, fun _ => ⟨newStatus, rfl⟩,
        fun hne => absurd rfl hne⟩
  | score _ n _ hi =>
      exact ⟨⟨rfl, rfl, rfl, rfl, rfl⟩, fun hne => absurd rfl hne, fun hne => absurd rfl hne,
        fun _ => hi⟩

end

/-! ## From the registration to the deregistration -/

/-- The input is a deregistration of `d` that goes through. -/
def Deregistration (d : Did) (s : State cfg) (i : Input AccountId) : Prop :=
  ∃ origin, i = .call origin (.deregisterAgent d) ∧ succeeds (deregisterAgent origin d) s = true

theorem identity_exec {s : State cfg} {d : Did} {p : AgentProfile AccountId}
    (hp : s.storage.agentProfiles d = some p) (later : List (Input AccountId))
    (hlater : ∀ r ∈ trace step s later, ¬ Deregistration d r.1 r.2) :
    ∃ q, (exec step s later).storage.agentProfiles d = some q ∧ SameIdentity p q := by
  refine exec_invariant (fun t : State cfg => ∃ q, t.storage.agentProfiles d = some q ∧
    SameIdentity p q) (fun t i => ¬ Deregistration d t i) ?_ later s
    ⟨p, hp, .refl p⟩ hlater
  rintro t i ⟨q, hq, hid⟩ hno
  have hmove := (step_stepEffect t i).profileStep d
  rw [hq] at hmove
  cases hr : (step t i).storage.agentProfiles d with
  | some r =>
      rw [hr] at hmove
      exact ⟨r, rfl, hid.trans hmove.changed.identity⟩
  | none =>
      -- the profile is gone, so the call was a deregistration, and it has gone through
      rw [hr] at hmove
      obtain ⟨hst, rfl⟩ := hmove.removed
      refine absurd ⟨_, rfl, ?_⟩ hno
      exact succeeds_iff.mpr ⟨_, deregisterAgent_ok.mpr ⟨_, rfl, q, hq, rfl, hst, rfl⟩⟩

/-- A stored profile is stored under its DID and is verified. -/
def Verified (st : Storage AccountId) : Prop :=
  ∀ d p, st.agentProfiles d = some p → p.did = d ∧ p.isVerified = true

theorem verified_exec (system : System) (ledger : cfg.currency.Ledger)
    (run : List (Input AccountId)) :
    Verified (exec step (genesis cfg system ledger) run).storage := by
  refine exec_invariant (fun s : State cfg => Verified s.storage) (fun _ _ => True) ?_ run _ ?_
    (fun _ _ => trivial)
  · intro s i hs _ d q hq
    have hmove := (step_stepEffect s i).profileStep d
    rw [hq] at hmove
    cases hp : s.storage.agentProfiles d with
    | none =>
        rw [hp] at hmove
        obtain ⟨_, _, _, _, _, _, _, _, -, rfl, -⟩ := hmove.created
        exact ⟨rfl, rfl⟩
    | some p =>
        rw [hp] at hmove
        obtain ⟨hdid, hverified⟩ := hs d p hp
        have hid := hmove.changed.identity
        exact ⟨hid.did.trans hdid, hid.isVerified.trans hverified⟩
  · intro d p hp
    cases hp

/-! ## Revocation is final -/

/-- The profile of `d` is revoked; its controller, capabilities, metadata and label are those of
`p`. -/
def RevokedAs (d : Did) (p : AgentProfile AccountId) (st : Storage AccountId) : Prop :=
  ∃ q, st.agentProfiles d = some q ∧ q.status = .revoked ∧ SameIdentity p q ∧
    (q.capabilities, q.metadata, q.label) = (p.capabilities, p.metadata, p.label)

theorem ProfileStep.revoked {d : Did} {i : Input AccountId} {p : AgentProfile AccountId}
    {o : Option (AgentProfile AccountId)} (h : ProfileStep cfg d i (some p) o)
    (hst : p.status = .revoked) :
    ∃ q, o = some q ∧ q.status = .revoked ∧ SameIdentity p q ∧
      (q.capabilities, q.metadata, q.label) = (p.capabilities, p.metadata, p.label) := by
  cases h with
  | same _ _ => exact ⟨p, rfl, hst, .refl p, rfl⟩
  | score _ n _ hi => exact ⟨_, rfl, hst, ⟨rfl, rfl, rfl, rfl, rfl⟩, rfl⟩
  | update _ _ _ _ hlive => exact absurd hst hlive
  | setStatus _ _ hlive => exact absurd hst hlive
  | deregister _ hlive => exact absurd hst hlive

theorem revokedAs_exec {s : State cfg} {d : Did} {p : AgentProfile AccountId}
    (hp : s.storage.agentProfiles d = some p) (hst : p.status = .revoked)
    (later : List (Input AccountId)) : RevokedAs d p (exec step s later).storage := by
  refine exec_invariant (fun t : State cfg => RevokedAs d p t.storage) (fun _ _ => True) ?_ later s
    ⟨p, hp, hst, .refl p, rfl⟩ (fun _ _ => trivial)
  rintro t i ⟨q, hq, hqst, hid, hcontent⟩ -
  have hmove := (step_stepEffect t i).profileStep d
  rw [hq] at hmove
  obtain ⟨r, hr, hrst, hid', hcontent'⟩ := hmove.revoked hqst
  exact ⟨r, hr, hrst, hid.trans hid', hcontent'.trans hcontent⟩

/-- A DID with a profile cannot be registered. -/
theorem registerAgent_fails {s : State cfg} {p : AgentProfile AccountId}
    {origin : Origin AccountId} {pubkey : BoundedVec UInt8 maxPubkeyLen}
    {signature : BoundedVec UInt8 maxSigLen} {signedAtBlock : Nat}
    {capabilities : CapabilityBitmap} {metadata : BoundedVec UInt8 maxMetadataLen}
    {label : BoundedVec UInt8 maxLabelLen}
    (hp : s.storage.agentProfiles (didOf cfg pubkey.val) = some p) :
    succeeds (registerAgent origin pubkey signature signedAtBlock capabilities metadata label) s
      = false := by
  rw [← Bool.not_eq_true, succeeds_iff]
  rintro ⟨t, ht⟩
  obtain ⟨_, -, hnone, -⟩ := registerAgent_ok.mp ht
  rw [hp] at hnone
  cases hnone

end AgentRegistry
