import ArthNeura.AgentRegistry.Pallet

set_option autoImplicit false

/-! # What the calls of `pallet-agent-registry` do

One lemma for each call: the guards it passes and the state it commits. The lemmas about the
rest of the development use these and never unfold a call.
-/

namespace AgentRegistry

open Frame

variable {AccountId : Type} [DecidableEq AccountId] {cfg : Config AccountId}
  {origin : Origin AccountId} {s s' : State cfg} {u : Unit}

theorem registerAgent_ok {pubkey : BoundedVec UInt8 maxPubkeyLen}
    {signature : BoundedVec UInt8 maxSigLen} {signedAtBlock : Nat}
    {capabilities : CapabilityBitmap} {metadata : BoundedVec UInt8 maxMetadataLen}
    {label : BoundedVec UInt8 maxLabelLen} :
    (registerAgent origin pubkey signature signedAtBlock capabilities metadata label).run s
        = .ok u s' ↔
      ∃ controller, origin = .signed controller ∧
      s.storage.agentProfiles (didOf cfg pubkey.val) = none ∧
      (s.storage.controllerAgents controller).val.length < 64 ∧
      signedAtBlock ≤ s.system.blockNumber ∧
      s.system.blockNumber - signedAtBlock ≤ replayWindow ∧
      ∃ key, cfg.newFromSlice pubkey.val = some key ∧
      ∃ sig, cfg.signatureTryFrom signature.val = some sig ∧
      cfg.verify key (challenge cfg (s.system.blockHash 0) (didOf cfg pubkey.val) controller
        signedAtBlock (s.system.blockHash signedAtBlock)) sig = true ∧
      ∃ ledger, cfg.currency.reserve controller cfg.registrationDeposit s.ledger = some ledger ∧
      ∃ dids, (s.storage.controllerAgents controller).tryPush (didOf cfg pubkey.val)
        = some dids ∧
      s' = ((((s.putLedger ledger).insertProfile (didOf cfg pubkey.val)
        { did := didOf cfg pubkey.val, controller := controller, capabilities := capabilities,
          reputationScore := 0, status := .active, registeredAt := s.system.blockNumber,
          isVerified := true, quantumScheme := .mlDsa65, metadata := metadata,
          label := label }).putControllerAgents controller dids).mutateActiveAgentCount
            (satAdd · 1)).depositEvent (.agentRegistered (didOf cfg pubkey.val) controller) := by
  simp only [registerAgent, run_ensureSigned_ok, run_get_bind, run_modify_bind, run_ensure_ok,
    run_okOr_ok, run_modify_ok]
  simp [StorageMap.containsKey_eq_false]

theorem updateProfile_ok {did : Did} {capabilities : CapabilityBitmap}
    {metadata : BoundedVec UInt8 maxMetadataLen} {label : BoundedVec UInt8 maxLabelLen} :
    (updateProfile origin did capabilities metadata label).run s = .ok u s' ↔
      ∃ caller, origin = .signed caller ∧
      ∃ p, s.storage.agentProfiles did = some p ∧ p.controller = caller ∧ p.status ≠ .revoked ∧
      s' = (s.insertProfile did
        { p with capabilities := capabilities, metadata := metadata, label := label }).depositEvent
          (.agentProfileUpdated did) := by
  simp only [updateProfile, run_ensureSigned_ok, run_get_bind, run_modify_bind, run_ensure_ok,
    run_okOr_ok, run_modify_ok]

theorem setAgentStatus_ok {did : Did} {newStatus : AgentStatus} :
    (setAgentStatus origin did newStatus).run s = .ok u s' ↔
      ∃ caller, origin = .signed caller ∧
      ∃ p, s.storage.agentProfiles did = some p ∧ p.controller = caller ∧ p.status ≠ .revoked ∧
      s' = (let t := s.insertProfile did { p with status := newStatus }
        if newStatus = .revoked then t.mutateActiveAgentCount (· - 1) else t).depositEvent
          (.agentStatusChanged did newStatus) := by
  simp only [setAgentStatus, run_ensureSigned_ok, run_get_bind, run_modify_bind, run_ensure_ok,
    run_okOr_ok, run_modify_ok]

theorem tryMutateScore_ok {did : Did} {f : Nat → Nat} {k : Unit → RegistryM cfg Unit} :
    (tryMutateScore did f >>= k).run s = .ok u s' ↔
      ∃ p, s.storage.agentProfiles did = some p ∧
      (k ()).run (s.insertProfile did { p with reputationScore := f p.reputationScore })
        = .ok u s' := by
  simp only [tryMutateScore, bind_assoc, run_get_bind, run_okOr_ok, run_modify_bind]

theorem giveStar_ok {giverDid receiver : Did} :
    (giveStar origin giverDid receiver).run s = .ok u s' ↔
      ∃ giver, origin = .signed giver ∧
      giverDid ∈ (s.storage.controllerAgents giver).val ∧ giverDid ≠ receiver ∧
      ∃ p, s.storage.agentProfiles receiver = some p ∧ p.status ≠ .revoked ∧
      p.controller ≠ giver ∧
      (s.storage.starGivers giverDid receiver > 0 →
        s.system.blockNumber ≥ satAdd (s.storage.starGivers giverDid receiver) cfg.starCooldown) ∧
      s' = ((s.putStar giverDid receiver s.system.blockNumber).insertProfile receiver
        { p with reputationScore := satAdd p.reputationScore 1 }).depositEvent
          (.starGiven giverDid receiver) := by
  simp only [giveStar, run_ensureSigned_ok, run_get_bind, run_modify_bind, run_ensure_ok,
    run_okOr_ok, run_modify_ok, tryMutateScore_ok]
  constructor
  · rintro ⟨giver, ho, hg, hne, p, hp, hst, hc, hcool, p', hp', rfl⟩
    have : p' = p := Option.some.inj (hp'.symm.trans hp)
    subst this
    exact ⟨giver, ho, hg, hne, p', hp, hst, hc, hcool, rfl⟩
  · rintro ⟨giver, ho, hg, hne, p, hp, hst, hc, hcool, rfl⟩
    exact ⟨giver, ho, hg, hne, p, hp, hst, hc, hcool, p, hp, rfl⟩

theorem removeStar_ok {giverDid receiver : Did} :
    (removeStar origin giverDid receiver).run s = .ok u s' ↔
      ∃ giver, origin = .signed giver ∧
      giverDid ∈ (s.storage.controllerAgents giver).val ∧
      s.storage.starGivers giverDid receiver > 0 ∧
      ∃ p, s.storage.agentProfiles receiver = some p ∧
      s' = ((s.putStar giverDid receiver 0).insertProfile receiver
        { p with reputationScore := p.reputationScore - 1 }).depositEvent
          (.starRemoved giverDid receiver) := by
  simp only [removeStar, run_ensureSigned_ok, run_get_bind, run_modify_bind, run_ensure_ok,
    run_modify_ok, tryMutateScore_ok]
  rfl

theorem deregisterAgent_ok {did : Did} :
    (deregisterAgent origin did).run s = .ok u s' ↔
      ∃ controller, origin = .signed controller ∧
      ∃ p, s.storage.agentProfiles did = some p ∧ p.controller = controller ∧
      p.status ≠ .revoked ∧
      s' = ((((s.putLedger
          (cfg.currency.unreserve controller cfg.registrationDeposit s.ledger).1).putControllerAgents
          controller ((s.storage.controllerAgents controller).retain (· ≠ did))).removeProfile
          did).mutateActiveAgentCount (· - 1)).depositEvent
            (.agentDeregistered did controller) := by
  simp only [deregisterAgent, run_ensureSigned_ok, run_get_bind, run_modify_bind, run_ensure_ok,
    run_okOr_ok, run_modify_ok]
  rfl

/-! ## The penalties -/

theorem slashReputation_none {did : Did} (amount : Nat)
    (h : s.storage.agentProfiles did = none) : slashReputation did amount s = s := by
  rw [slashReputation, h]

theorem slashReputation_some {did : Did} (amount : Nat) {p : AgentProfile AccountId}
    (h : s.storage.agentProfiles did = some p) :
    slashReputation did amount s =
      (s.insertProfile did
        { p with reputationScore := p.reputationScore - amount }).depositEvent
          (.reputationSlashed did amount (p.reputationScore - amount)) := by
  rw [slashReputation, h]

theorem guiltyDelivery_none {did : Did} (amount : Nat)
    (h : s.storage.agentProfiles did = none) :
    slashReputationForGuiltyDelivery did amount s = s := by
  rw [slashReputationForGuiltyDelivery, slashReputation_none amount h]
  simp only [h]

/-- Below the threshold the strike is counted. -/
theorem guiltyDelivery_below {did : Did} (amount : Nat) {p : AgentProfile AccountId}
    (h : s.storage.agentProfiles did = some p)
    (hlt : satAdd (s.storage.disputeStrikes did) 1 < cfg.strikeThreshold) :
    slashReputationForGuiltyDelivery did amount s =
      (slashReputation did amount s).putStrikes did
        (satAdd (s.storage.disputeStrikes did) 1) := by
  rw [slashReputationForGuiltyDelivery, slashReputation_some amount h]
  simp [hlt]

/-- At the threshold the count starts again and the deposit is slashed. -/
theorem guiltyDelivery_reached {did : Did} (amount : Nat) {p : AgentProfile AccountId}
    (h : s.storage.agentProfiles did = some p)
    (hle : cfg.strikeThreshold ≤ satAdd (s.storage.disputeStrikes did) 1) :
    slashReputationForGuiltyDelivery did amount s =
      (((slashReputation did amount s).putStrikes did 0).putLedger
        (cfg.currency.slashReserved p.controller cfg.depositSlashPerStrike s.ledger).1).depositEvent
          (.depositSlashed did p.controller
            (min (cfg.currency.reserved s.ledger p.controller) cfg.depositSlashPerStrike)
            (satAdd (s.storage.disputeStrikes did) 1)) := by
  have hrest := cfg.currency.slashReserved_rest p.controller cfg.depositSlashPerStrike s.ledger
  have hmin : cfg.depositSlashPerStrike
      - (cfg.currency.slashReserved p.controller cfg.depositSlashPerStrike s.ledger).2
      = min (cfg.currency.reserved s.ledger p.controller) cfg.depositSlashPerStrike := by
    rw [hrest]
    omega
  rw [slashReputationForGuiltyDelivery, slashReputation_some amount h]
  simp [Nat.not_lt.mpr hle, hmin]

end AgentRegistry
