import ArthNeura.AgentRegistry.Deposits

set_option autoImplicit false

/-! # What a step of the registry does

`StepEffect` says once what each step of a run of the pallet has checked and which state it
leads to, failing calls and penalties for unknown DIDs included. What the calls do to the
profiles, to the index of the controllers and to the counter of agents is the coarser
`TableChange`: a profile is rewritten in place, added or removed.
-/

namespace AgentRegistry

open Frame

variable {AccountId : Type} [DecidableEq AccountId] {cfg : Config AccountId}

/-- The profile that `register_agent` stores. -/
def newProfile (did : Did) (controller : AccountId) (capabilities : CapabilityBitmap)
    (registeredAt : Nat) (metadata : BoundedVec UInt8 maxMetadataLen)
    (label : BoundedVec UInt8 maxLabelLen) : AgentProfile AccountId where
  did := did
  controller := controller
  capabilities := capabilities
  reputationScore := 0
  status := .active
  registeredAt := registeredAt
  isVerified := true
  quantumScheme := .mlDsa65
  metadata := metadata
  label := label

/-- A step from `s`, with the state it leads to. -/
inductive StepEffect (s : State cfg) : Input AccountId → State cfg → Prop
  | failed {origin : Origin AccountId} {c : Call} (h : succeeds (c.run origin) s = false) :
      StepEffect s (.call origin c) s
  | registered {a : AccountId} {pubkey : BoundedVec UInt8 maxPubkeyLen}
      {signature : BoundedVec UInt8 maxSigLen} {signedAtBlock : Nat}
      {capabilities : CapabilityBitmap} {metadata : BoundedVec UInt8 maxMetadataLen}
      {label : BoundedVec UInt8 maxLabelLen} {did : Did} {ledger : cfg.currency.Ledger}
      {dids : BoundedVec Did maxAgentsPerController}
      (hdid : did = didOf cfg pubkey.val) (hnone : s.storage.agentProfiles did = none)
      (hledger : cfg.currency.reserve a cfg.registrationDeposit s.ledger = some ledger)
      (hpush : (s.storage.controllerAgents a).tryPush did = some dids) :
      StepEffect s (.call (.signed a)
        (.registerAgent pubkey signature signedAtBlock capabilities metadata label))
        (((((s.putLedger ledger).insertProfile did
          (newProfile did a capabilities s.system.blockNumber metadata label)).putControllerAgents
            a dids).mutateActiveAgentCount (satAdd · 1)).depositEvent (.agentRegistered did a))
  | updated {did : Did} {capabilities : CapabilityBitmap}
      {metadata : BoundedVec UInt8 maxMetadataLen} {label : BoundedVec UInt8 maxLabelLen}
      {p : AgentProfile AccountId}
      (hp : s.storage.agentProfiles did = some p) (hst : p.status ≠ .revoked) :
      StepEffect s (.call (.signed p.controller) (.updateProfile did capabilities metadata label))
        ((s.insertProfile did
          { p with
            capabilities := capabilities, metadata := metadata, label := label }).depositEvent
              (.agentProfileUpdated did))
  | statusSet {did : Did} {newStatus : AgentStatus} {p : AgentProfile AccountId}
      (hp : s.storage.agentProfiles did = some p) (hst : p.status ≠ .revoked) :
      StepEffect s (.call (.signed p.controller) (.setAgentStatus did newStatus))
        ((let t := s.insertProfile did { p with status := newStatus }
          if newStatus = .revoked then t.mutateActiveAgentCount (· - 1) else t).depositEvent
            (.agentStatusChanged did newStatus))
  | starred {a : AccountId} {giver receiver : Did} {p : AgentProfile AccountId}
      (hgiver : giver ∈ (s.storage.controllerAgents a).val) (hself : giver ≠ receiver)
      (hp : s.storage.agentProfiles receiver = some p) (hst : p.status ≠ .revoked)
      (ha : p.controller ≠ a)
      (hcool : s.storage.starGivers giver receiver > 0 →
        s.system.blockNumber ≥ satAdd (s.storage.starGivers giver receiver) cfg.starCooldown) :
      StepEffect s (.call (.signed a) (.giveStar giver receiver))
        (((s.putStar giver receiver s.system.blockNumber).insertProfile receiver
          { p with reputationScore := satAdd p.reputationScore 1 }).depositEvent
            (.starGiven giver receiver))
  | unstarred {a : AccountId} {giver receiver : Did} {p : AgentProfile AccountId}
      (hgiver : giver ∈ (s.storage.controllerAgents a).val)
      (hstar : s.storage.starGivers giver receiver > 0)
      (hp : s.storage.agentProfiles receiver = some p) :
      StepEffect s (.call (.signed a) (.removeStar giver receiver))
        (((s.putStar giver receiver 0).insertProfile receiver
          { p with reputationScore := p.reputationScore - 1 }).depositEvent
            (.starRemoved giver receiver))
  | deregistered {did : Did} {p : AgentProfile AccountId}
      (hp : s.storage.agentProfiles did = some p) (hst : p.status ≠ .revoked) :
      StepEffect s (.call (.signed p.controller) (.deregisterAgent did))
        (((((s.putLedger (cfg.currency.unreserve p.controller cfg.registrationDeposit
          s.ledger).1).putControllerAgents p.controller
            ((s.storage.controllerAgents p.controller).retain (· ≠ did))).removeProfile
              did).mutateActiveAgentCount (· - 1)).depositEvent
                (.agentDeregistered did p.controller))
  | unslashed {did : Did} {amount : Nat} (hnone : s.storage.agentProfiles did = none) :
      StepEffect s (.slashReputation did amount) s
  | slashed {did : Did} {amount : Nat} {p : AgentProfile AccountId}
      (hp : s.storage.agentProfiles did = some p) :
      StepEffect s (.slashReputation did amount)
        ((s.insertProfile did
          { p with reputationScore := p.reputationScore - amount }).depositEvent
            (.reputationSlashed did amount (p.reputationScore - amount)))
  | unstruck {did : Did} {amount : Nat} (hnone : s.storage.agentProfiles did = none) :
      StepEffect s (.slashReputationForGuiltyDelivery did amount) s
  | struck {did : Did} {amount : Nat} {p : AgentProfile AccountId}
      (hp : s.storage.agentProfiles did = some p)
      (hlt : satAdd (s.storage.disputeStrikes did) 1 < cfg.strikeThreshold) :
      StepEffect s (.slashReputationForGuiltyDelivery did amount)
        (((s.insertProfile did
          { p with reputationScore := p.reputationScore - amount }).depositEvent
            (.reputationSlashed did amount (p.reputationScore - amount))).putStrikes did
              (satAdd (s.storage.disputeStrikes did) 1))
  | depositSlashed {did : Did} {amount : Nat} {p : AgentProfile AccountId}
      (hp : s.storage.agentProfiles did = some p)
      (hle : cfg.strikeThreshold ≤ satAdd (s.storage.disputeStrikes did) 1) :
      StepEffect s (.slashReputationForGuiltyDelivery did amount)
        (((((s.insertProfile did
          { p with reputationScore := p.reputationScore - amount }).depositEvent
            (.reputationSlashed did amount (p.reputationScore - amount))).putStrikes
              did 0).putLedger
              (cfg.currency.slashReserved p.controller cfg.depositSlashPerStrike
                s.ledger).1).depositEvent
          (.depositSlashed did p.controller
            (min (cfg.currency.reserved s.ledger p.controller) cfg.depositSlashPerStrike)
            (satAdd (s.storage.disputeStrikes did) 1)))
  | newBlock (system : System) : StepEffect s (.newBlock system) { s with system := system }

/-- The effect of a successful call. -/
theorem call_stepEffect {s s' : State cfg} {origin : Origin AccountId} {c : Call}
    (h : (c.run origin).run s = .ok () s') : StepEffect s (.call origin c) s' := by
  cases c with
  | registerAgent pubkey signature signedAtBlock capabilities metadata label =>
      obtain ⟨a, rfl, hnone, -, -, -, -, -, -, -, -, ledger, hledger, dids, hpush, rfl⟩ :=
        registerAgent_ok.mp h
      exact .registered rfl hnone hledger hpush
  | updateProfile did capabilities metadata label =>
      obtain ⟨_, rfl, p, hp, rfl, hst, rfl⟩ := updateProfile_ok.mp h
      exact .updated hp hst
  | setAgentStatus did newStatus =>
      obtain ⟨_, rfl, p, hp, rfl, hst, rfl⟩ := setAgentStatus_ok.mp h
      exact .statusSet hp hst
  | giveStar giver receiver =>
      obtain ⟨a, rfl, hgiver, hself, p, hp, hst, ha, hcool, rfl⟩ := giveStar_ok.mp h
      exact .starred hgiver hself hp hst ha hcool
  | removeStar giver receiver =>
      obtain ⟨a, rfl, hgiver, hstar, p, hp, rfl⟩ := removeStar_ok.mp h
      exact .unstarred hgiver hstar hp
  | deregisterAgent did =>
      obtain ⟨_, rfl, p, hp, rfl, hst, rfl⟩ := deregisterAgent_ok.mp h
      exact .deregistered hp hst

/-- **The effect of a step.** -/
theorem step_stepEffect (s : State cfg) (i : Input AccountId) : StepEffect s i (step s i) := by
  cases i with
  | call origin c =>
      rcases dispatch_cases (c.run origin) s with ⟨s', hok, hd⟩ | ⟨hfail, hd⟩
      · rw [step, hd]
        exact call_stepEffect hok
      · rw [step, hd]
        exact .failed hfail
  | slashReputation did amount =>
      rw [step]
      cases hp : s.storage.agentProfiles did with
      | none =>
          rw [slashReputation_none amount hp]
          exact .unslashed hp
      | some p =>
          rw [slashReputation_some amount hp]
          exact .slashed hp
  | slashReputationForGuiltyDelivery did amount =>
      rw [step]
      cases hp : s.storage.agentProfiles did with
      | none =>
          rw [guiltyDelivery_none amount hp]
          exact .unstruck hp
      | some p =>
          by_cases hle : cfg.strikeThreshold ≤ satAdd (s.storage.disputeStrikes did) 1
          · rw [guiltyDelivery_reached amount hp hle, slashReputation_some amount hp]
            exact .depositSlashed hp hle
          · have hlt := Nat.lt_of_not_le hle
            rw [guiltyDelivery_below amount hp hlt, slashReputation_some amount hp]
            exact .struck hp hlt
  | newBlock system => exact .newBlock system

/-! ## The tables -/

/-- The fields that a registration fixes. -/
structure SameIdentity (p q : AgentProfile AccountId) : Prop where
  did : q.did = p.did
  controller : q.controller = p.controller
  registeredAt : q.registeredAt = p.registeredAt
  quantumScheme : q.quantumScheme = p.quantumScheme
  isVerified : q.isVerified = p.isVerified

omit [DecidableEq AccountId] in
theorem SameIdentity.refl (p : AgentProfile AccountId) : SameIdentity p p :=
  ⟨rfl, rfl, rfl, rfl, rfl⟩

omit [DecidableEq AccountId] in
theorem SameIdentity.trans {p q r : AgentProfile AccountId} (hpq : SameIdentity p q)
    (hqr : SameIdentity q r) : SameIdentity p r where
  did := hqr.did.trans hpq.did
  controller := hqr.controller.trans hpq.controller
  registeredAt := hqr.registeredAt.trans hpq.registeredAt
  quantumScheme := hqr.quantumScheme.trans hpq.quantumScheme
  isVerified := hqr.isVerified.trans hpq.isVerified

/-- Not revoked. -/
def AgentProfile.live (p : AgentProfile AccountId) : Bool := decide (p.status ≠ .revoked)

/-- What a step does to the profiles, the index of the controllers and the counter of agents. -/
inductive TableChange (st st' : Storage AccountId) : Prop
  | kept (hprofiles : st'.agentProfiles = st.agentProfiles)
      (hagents : st'.controllerAgents = st.controllerAgents)
      (hcount : st'.activeAgentCount = st.activeAgentCount)
  | rewritten (did : Did) (p q : AgentProfile AccountId) (hp : st.agentProfiles did = some p)
      (hid : SameIdentity p q) (hdead : p.live = false → q.live = false)
      (hprofiles : st'.agentProfiles = st.agentProfiles.insert did q)
      (hagents : st'.controllerAgents = st.controllerAgents)
      (hcount : st'.activeAgentCount
        = st.activeAgentCount - (if p.live = true ∧ q.live = false then 1 else 0))
  | registered (did : Did) (q : AgentProfile AccountId)
      (dids : BoundedVec Did maxAgentsPerController) (hnone : st.agentProfiles did = none)
      (hdid : q.did = did) (hlive : q.live = true)
      (hpush : (st.controllerAgents q.controller).tryPush did = some dids)
      (hprofiles : st'.agentProfiles = st.agentProfiles.insert did q)
      (hagents : st'.controllerAgents = Function.update st.controllerAgents q.controller dids)
      (hcount : st'.activeAgentCount = satAdd st.activeAgentCount 1)
  | deregistered (did : Did) (p : AgentProfile AccountId) (hp : st.agentProfiles did = some p)
      (hlive : p.live = true) (hprofiles : st'.agentProfiles = st.agentProfiles.remove did)
      (hagents : st'.controllerAgents = Function.update st.controllerAgents p.controller
        ((st.controllerAgents p.controller).retain (· ≠ did)))
      (hcount : st'.activeAgentCount = st.activeAgentCount - 1)

/-- A profile rewritten with its identity and its status. -/
theorem tableChange_rewrite {st st' : Storage AccountId} {did : Did}
    {p q : AgentProfile AccountId} (hp : st.agentProfiles did = some p)
    (hprofiles : st'.agentProfiles = st.agentProfiles.insert did q) (hid : SameIdentity p q)
    (hst : q.status = p.status) (hagents : st'.controllerAgents = st.controllerAgents)
    (hcount : st'.activeAgentCount = st.activeAgentCount) : TableChange st st' := by
  have hlive : q.live = p.live := by rw [AgentProfile.live, AgentProfile.live, hst]
  refine .rewritten did p q hp hid (fun h => hlive.trans h) hprofiles hagents ?_
  have hsame : ¬ (p.live = true ∧ q.live = false) := by
    rw [hlive]
    simp
  rw [if_neg hsame]
  exact hcount

theorem StepEffect.tableChange {s s' : State cfg} {i : Input AccountId} (h : StepEffect s i s') :
    TableChange s.storage s'.storage := by
  have hlive : ∀ {p : AgentProfile AccountId}, p.status ≠ .revoked → p.live = true :=
    fun hst => decide_eq_true hst
  cases h with
  | failed | unslashed | unstruck | newBlock => exact .kept rfl rfl rfl
  | updated hp _ | starred _ _ hp _ _ _ | unstarred _ _ hp | slashed hp | struck hp _
  | depositSlashed hp _ =>
      exact tableChange_rewrite hp rfl ⟨rfl, rfl, rfl, rfl, rfl⟩ rfl rfl rfl
  | @statusSet did newStatus p hp hst =>
      refine .rewritten did p { p with status := newStatus } hp ⟨rfl, rfl, rfl, rfl, rfl⟩
        (fun hdead => ?_) ?_ ?_ ?_
      · rw [hlive hst] at hdead
        cases hdead
      all_goals by_cases hn : newStatus = .revoked <;> simp [hn, hst, AgentProfile.live]
  | @registered a _ _ _ capabilities metadata label did ledger dids hdid hnone hledger hpush =>
      exact .registered did (newProfile did a capabilities s.system.blockNumber metadata label)
        dids hnone rfl rfl hpush rfl rfl rfl
  | @deregistered did p hp hst => exact .deregistered did p hp (hlive hst) rfl rfl rfl

/-! ## What the events report -/

/-- A `DepositSlashed` event tells the truth: a verdict on `did` has taken `amount` from the
reserve of its controller `a`, and nothing else from `a`. -/
structure SlashReport (s : State cfg) (i : Input AccountId) (s' : State cfg) (did : Did)
    (a : AccountId) (amount : Nat) : Prop where
  input : ∃ n, i = .slashReputationForGuiltyDelivery did n
  controller : s.storage.controllerOf did = some a
  reserved : cfg.currency.reserved s.ledger a = cfg.currency.reserved s'.ledger a + amount
  free : cfg.currency.free s'.ledger a = cfg.currency.free s.ledger a
  le_slash : amount ≤ cfg.depositSlashPerStrike

/-- A step only adds events, and every `DepositSlashed` among them is true. -/
theorem StepEffect.newEvents {s s' : State cfg} {i : Input AccountId} (h : StepEffect s i s') :
    ∃ new, s'.storage.events = s.storage.events ++ new ∧
      ∀ did a amount strikes, .depositSlashed did a amount strikes ∈ new →
        SlashReport s i s' did a amount := by
  cases h with
  | failed | unslashed | unstruck | newBlock => exact ⟨[], by simp, by simp⟩
  | registered | updated | starred | unstarred | deregistered | slashed | struck =>
      exact ⟨[_], rfl, by simp⟩
  | @statusSet did newStatus p hp hst =>
      refine ⟨[.agentStatusChanged did newStatus], ?_, by simp⟩
      by_cases hn : newStatus = .revoked <;> simp [hn]
  | @depositSlashed did n p hp hle =>
      refine ⟨[_, _], List.append_assoc _ [_] [_], ?_⟩
      intro d a amount strikes hmem
      simp only [List.mem_cons, reduceCtorEq, Event.depositSlashed.injEq, List.not_mem_nil,
        or_false, false_or] at hmem
      obtain ⟨rfl, rfl, rfl, -⟩ := hmem
      have hcontroller : s.storage.controllerOf d = some p.controller := by
        rw [Storage.controllerOf, hp]
        rfl
      refine ⟨⟨n, rfl⟩, hcontroller, ?_, ?_, min_le_right _ _⟩
      · show cfg.currency.reserved s.ledger p.controller = cfg.currency.reserved
          (cfg.currency.slashReserved p.controller cfg.depositSlashPerStrike s.ledger).1
            p.controller + _
        rw [ReservableCurrency.reserved_slashReserved, if_pos rfl]
        omega
      · exact congrFun (cfg.currency.slashReserved_free _ _ _) p.controller

end AgentRegistry
