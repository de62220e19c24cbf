import ArthNeura.AgentRegistry.Effects

set_option autoImplicit false

/-! # The tables of the registry

Three tables describe one set of agents: the profiles, the index from controllers to DIDs, and the
counter of the agents that are not revoked. They are written by separate statements and read by
different calls. In every run the index and the profiles agree (`Indexed`). The counter is exact
(`CountExact`) as long as fewer than `2^32` agents are registered. An increment that saturates is
lost, and the counter stays too low when the agents become fewer again
(`activeAgentCount_crowdedRun`).
-/

namespace AgentRegistry

open Frame

variable {AccountId : Type} [DecidableEq AccountId] {cfg : Config AccountId}

/-! ## Profiles and index -/

/-- The index lists exactly the DIDs of each controller, once, and profiles are stored under
their own DID. -/
structure Indexed (st : Storage AccountId) : Prop where
  mem_iff : ∀ d a, d ∈ (st.controllerAgents a).val ↔ st.controllerOf d = some a
  nodup : ∀ a, (st.controllerAgents a).val.Nodup
  did_eq : ∀ d p, st.agentProfiles d = some p → p.did = d

omit [DecidableEq AccountId] in
theorem indexed_genesis : Indexed (Storage.genesis AccountId) where
  mem_iff d a := by simp [Storage.genesis, BoundedVec.nil, Storage.controllerOf]
  nodup a := List.nodup_nil
  did_eq d p h := by cases h

section

variable {st st' : Storage AccountId}

omit [DecidableEq AccountId] in
/-- One more profile is written under its own DID. -/
theorem Indexed.did_eq_insert (h : Indexed st) {did : Did} {q : AgentProfile AccountId}
    (hq : q.did = did) {d : Did} {r : AgentProfile AccountId}
    (hr : st.agentProfiles.insert did q d = some r) : r.did = d := by
  by_cases hd : d = did
  · subst hd
    rw [StorageMap.insert_self, Option.some.injEq] at hr
    rw [← hr, hq]
  · rw [StorageMap.insert_ne hd] at hr
    exact h.did_eq d r hr

omit [DecidableEq AccountId] in
theorem Indexed.rewritten (h : Indexed st) {did : Did} {p q : AgentProfile AccountId}
    (hp : st.agentProfiles did = some p) (hid : SameIdentity p q)
    (hprofiles : st'.agentProfiles = st.agentProfiles.insert did q)
    (hagents : st'.controllerAgents = st.controllerAgents) : Indexed st' := by
  have hcontroller : st'.controllerOf = st.controllerOf := by
    rw [← controllerOf_insert hp hid.controller, ← hprofiles]
    rfl
  refine ⟨fun d a => ?_, fun a => ?_, fun d r hr => ?_⟩
  · rw [hagents, hcontroller]
    exact h.mem_iff d a
  · rw [hagents]
    exact h.nodup a
  · rw [hprofiles] at hr
    exact h.did_eq_insert (hid.did.trans (h.did_eq did p hp)) hr

theorem Indexed.registered (h : Indexed st) {did : Did} {q : AgentProfile AccountId}
    {dids : BoundedVec Did maxAgentsPerController} (hnone : st.agentProfiles did = none)
    (hdid : q.did = did) (hpush : (st.controllerAgents q.controller).tryPush did = some dids)
    (hprofiles : st'.agentProfiles = st.agentProfiles.insert did q)
    (hagents : st'.controllerAgents = Function.update st.controllerAgents q.controller dids) :
    Indexed st' := by
  have hval : dids.val = (st.controllerAgents q.controller).val ++ [did] :=
    BoundedVec.tryPush_val hpush
  -- a DID without a profile is in no list
  have hfresh : ∀ a, did ∉ (st.controllerAgents a).val := by
    intro a hmem
    rw [h.mem_iff, Storage.controllerOf, hnone] at hmem
    cases hmem
  refine ⟨fun d a => ?_, fun a => ?_, fun d r hr => ?_⟩
  · rw [hagents, Storage.controllerOf, hprofiles]
    have hold := h.mem_iff d a
    rw [Storage.controllerOf] at hold
    by_cases ha : a = q.controller
    · subst ha
      rw [Function.update_self, hval, List.mem_append, List.mem_singleton]
      by_cases hd : d = did
      · subst hd
        simp
      · rw [StorageMap.insert_ne hd, hold]
        simp [hd]
    · rw [Function.update_of_ne ha, hold]
      by_cases hd : d = did
      · subst hd
        simp [hnone, Ne.symm ha]
      · rw [StorageMap.insert_ne hd]
  · rw [hagents]
    by_cases ha : a = q.controller
    · subst ha
      rw [Function.update_self, hval]
      exact (h.nodup q.controller).append (List.nodup_singleton did)
        (List.disjoint_singleton.mpr (hfresh q.controller))
    · rw [Function.update_of_ne ha]
      exact h.nodup a
  · rw [hprofiles] at hr
    exact h.did_eq_insert hdid hr

theorem Indexed.deregistered (h : Indexed st) {did : Did} {p : AgentProfile AccountId}
    (hp : st.agentProfiles did = some p)
    (hprofiles : st'.agentProfiles = st.agentProfiles.remove did)
    (hagents : st'.controllerAgents = Function.update st.controllerAgents p.controller
      ((st.controllerAgents p.controller).retain (· ≠ did))) : Indexed st' := by
  have hretain : ((st.controllerAgents p.controller).retain (· ≠ did)).val
      = (st.controllerAgents p.controller).val.filter (· ≠ did) := rfl
  refine ⟨fun d a => ?_, fun a => ?_, fun d r hr => ?_⟩
  · rw [hagents, Storage.controllerOf, hprofiles]
    have hold := h.mem_iff d a
    rw [Storage.controllerOf] at hold
    by_cases hd : d = did
    · subst hd
      rw [StorageMap.remove_self]
      by_cases ha : a = p.controller
      · subst ha
        rw [Function.update_self, hretain]
        simp
      · rw [Function.update_of_ne ha, hold, hp]
        simp [Ne.symm ha]
    · rw [StorageMap.remove_ne hd, ← hold]
      by_cases ha : a = p.controller
      · subst ha
        rw [Function.update_self, hretain]
        simp [hd]
      · rw [Function.update_of_ne ha]
  · rw [hagents]
    by_cases ha : a = p.controller
    · subst ha
      rw [Function.update_self, hretain]
      exact (h.nodup p.controller).filter _
    · rw [Function.update_of_ne ha]
      exact h.nodup a
  · rw [hprofiles] at hr
    by_cases hd : d = did
    · subst hd
      rw [StorageMap.remove_self] at hr
      cases hr
    · rw [StorageMap.remove_ne hd] at hr
      exact h.did_eq d r hr

theorem TableChange.indexed (hc : TableChange st st') (h : Indexed st) : Indexed st' := by
  cases hc with
  | kept hprofiles hagents _ =>
      have hcontroller : st'.controllerOf = st.controllerOf := by
        funext d
        rw [Storage.controllerOf, hprofiles]
        rfl
      refine ⟨fun d a => ?_, fun a => ?_, fun d p hp => ?_⟩
      · rw [hagents, hcontroller]
        exact h.mem_iff d a
      · rw [hagents]
        exact h.nodup a
      · rw [hprofiles] at hp
        exact h.did_eq d p hp
  | rewritten did p q hp hid _ hprofiles hagents _ => exact h.rewritten hp hid hprofiles hagents
  | registered did q dids hnone hdid _ hpush hprofiles hagents _ =>
      exact h.registered hnone hdid hpush hprofiles hagents
  | deregistered did p hp _ hprofiles hagents _ => exact h.deregistered hp hprofiles hagents

end

theorem indexed_exec (system : System) (ledger : cfg.currency.Ledger)
    (run : List (Input AccountId)) : Indexed (exec step (genesis cfg system ledger) run).storage :=
  exec_invariant (fun s : State cfg => Indexed s.storage) (fun _ _ => True)
    (fun s i hs _ => (step_stepEffect s i).tableChange.indexed hs) run _ indexed_genesis
    fun _ _ => trivial

/-! ## What depends on the agreement -/

section

variable {s s' : State cfg} {a : AccountId} {giver receiver did : Did}

/-- The list has room whenever the guard has passed, so every failure of `register_agent` comes
before the deposit is reserved: the state at the error is the one before the call. -/
theorem registerAgent_error {origin : Origin AccountId} {pubkey : BoundedVec UInt8 maxPubkeyLen}
    {signature : BoundedVec UInt8 maxSigLen} {signedAtBlock : Nat}
    {capabilities : CapabilityBitmap} {metadata : BoundedVec UInt8 maxMetadataLen}
    {label : BoundedVec UInt8 maxLabelLen} {e : RegistryError}
    (h : (registerAgent origin pubkey signature signedAtBlock capabilities metadata label).run s
      = .error e s') : s' = s := by
  simp only [registerAgent, run_ensureSigned_error, run_get_bind, run_modify_bind,
    run_ensure_error, run_okOr_error, run_modify_error, and_false, exists_false, or_false] at h
  rcases h with ⟨-, -, rfl⟩ | ⟨a, -, ⟨-, -, rfl⟩ | ⟨-, ⟨-, -, rfl⟩ | ⟨hroom, ⟨-, -, rfl⟩ |
    ⟨-, ⟨-, -, rfl⟩ | ⟨-, ⟨-, -, rfl⟩ | ⟨key, -, ⟨-, -, rfl⟩ | ⟨sig, -, ⟨-, -, rfl⟩ |
    ⟨-, ⟨-, -, rfl⟩ | ⟨ledger, -, hfull, -⟩⟩⟩⟩⟩⟩⟩⟩⟩
  all_goals try rfl
  rw [BoundedVec.tryPush_eq_none] at hfull
  exact absurd hroom (Nat.not_lt.mpr hfull)

/-- The test of the index, before anything that does not fail with its error, refuses the origin
exactly when it is not the controller of the giver. -/
theorem ensure_giver_notController (h : Indexed s.storage) {rest : Unit → RegistryM cfg Unit}
    (hrest : ∀ t, (rest ()).run s ≠ .error (.module .notController) t) :
    (∃ t, (ensure (giver ∈ (s.storage.controllerAgents a).val) (.module .notController)
        >>= rest).run s = .error (.module .notController) t) ↔
      s.storage.controllerOf giver ≠ some a := by
  rw [Ne, ← h.mem_iff giver a]
  constructor
  · rintro ⟨t, ht⟩
    rcases run_ensure_error.mp ht with ⟨hmem, -⟩ | ⟨-, hlate⟩
    · exact hmem
    · exact absurd hlate (hrest t)
  · intro hmem
    exact ⟨s, run_ensure_error.mpr (Or.inl ⟨hmem, rfl, rfl⟩)⟩

theorem giveStar_notController (h : Indexed s.storage) :
    (∃ t, (giveStar (.signed a) giver receiver).run s = .error (.module .notController) t) ↔
      s.storage.controllerOf giver ≠ some a := by
  refine ensure_giver_notController h fun t ht => ?_
  simp only [tryMutateScore, bind_assoc, run_get_bind, run_modify_bind, run_ensure_error,
    run_okOr_error, run_modify_error, DispatchError.module.injEq, reduceCtorEq, false_and,
    and_false, exists_false, or_false] at ht

theorem removeStar_notController (h : Indexed s.storage) :
    (∃ t, (removeStar (.signed a) giver receiver).run s = .error (.module .notController) t) ↔
      s.storage.controllerOf giver ≠ some a := by
  refine ensure_giver_notController h fun t ht => ?_
  simp only [tryMutateScore, bind_assoc, run_get_bind, run_modify_bind, run_ensure_error,
    run_okOr_error, run_modify_error, DispatchError.module.injEq, reduceCtorEq, false_and,
    and_false, exists_false, or_false] at ht

end

/-- **Profiles and index agree in every run of the pallet.** A DID is in the list of an account
exactly when it has a profile with this controller; a list has no duplicates and at most 64
entries; a profile is stored under its DID. So the ownership test of the two star calls is the
test of the controller, and `register_agent` does not fail after the deposit is reserved. -/
theorem index_agrees (cfg : Config AccountId) (system : System) (ledger : cfg.currency.Ledger)
    (run : List (Input AccountId)) :
    let s := exec step (genesis cfg system ledger) run
    (∀ d a, d ∈ (s.storage.controllerAgents a).val ↔
      ∃ p, s.storage.agentProfiles d = some p ∧ p.controller = a) ∧
    (∀ a, (s.storage.controllerAgents a).val.Nodup ∧
      (s.storage.controllerAgents a).val.length ≤ 64) ∧
    (∀ d p, s.storage.agentProfiles d = some p → p.did = d) ∧
    (∀ a giver receiver,
      ((∃ t, (giveStar (.signed a) giver receiver).run s = .error (.module .notController) t) ↔
        s.storage.controllerOf giver ≠ some a) ∧
      ((∃ t, (removeStar (.signed a) giver receiver).run s = .error (.module .notController) t) ↔
        s.storage.controllerOf giver ≠ some a)) ∧
    (∀ origin pubkey signature signedAtBlock capabilities metadata label e t,
      (registerAgent origin pubkey signature signedAtBlock capabilities metadata label).run s
        = .error e t → t = s) := by
  intro s
  have hs : Indexed s.storage := indexed_exec system ledger run
  refine ⟨fun d a => ?_, fun a => ⟨hs.nodup a, (s.storage.controllerAgents a).property⟩, hs.did_eq,
    fun a giver receiver => ⟨giveStar_notController hs, removeStar_notController hs⟩, ?_⟩
  · rw [hs.mem_iff, Storage.controllerOf, Option.map_eq_some_iff]
  · intro origin pubkey signature signedAtBlock capabilities metadata label e t herror
    exact registerAgent_error herror

/-! ## The counter of agents -/

/-- The number of the registered agents. -/
noncomputable def Storage.agentCount (st : Storage AccountId) : Nat :=
  st.agentProfiles.count fun _ => true

/-- The number of the registered agents that are not revoked. -/
noncomputable def Storage.liveCount (st : Storage AccountId) : Nat :=
  st.agentProfiles.count AgentProfile.live

def CountExact (st : Storage AccountId) : Prop := st.activeAgentCount = st.liveCount

section

variable {st st' : Storage AccountId}

omit [DecidableEq AccountId] in
theorem liveCount_le_agentCount (st : Storage AccountId) : st.liveCount ≤ st.agentCount :=
  StorageMap.count_le_count _ fun _ _ => rfl

omit [DecidableEq AccountId] in
/-- A live agent is counted. -/
theorem liveCount_pos {did : Did} {p : AgentProfile AccountId}
    (hp : st.agentProfiles did = some p) (hlive : p.live = true) : 0 < st.liveCount := by
  have hcount := st.agentProfiles.count_remove AgentProfile.live did
  rw [hp, Option.any_some, hlive, if_pos rfl] at hcount
  rw [Storage.liveCount]
  omega

/-- The counter follows the live agents; no operation on it saturates. -/
theorem TableChange.countExact (hc : TableChange st st') (h : CountExact st)
    (hlt : st'.agentCount < 2 ^ 32) : CountExact st' := by
  have hle := liveCount_le_agentCount st'
  rw [CountExact] at h ⊢
  cases hc with
  | kept hprofiles _ hcount =>
      rw [hcount, h, Storage.liveCount, Storage.liveCount, hprofiles]
  | rewritten did p q hp _ hdead hprofiles _ hcount =>
      have hmove := st.agentProfiles.count_insert AgentProfile.live did q
      rw [hp, Option.any_some, ← hprofiles] at hmove
      have hlive : st'.liveCount + (if p.live then 1 else 0)
          = st.liveCount + (if q.live then 1 else 0) := hmove
      rw [hcount, h]
      cases hpl : p.live with
      | false =>
          rw [hpl, hdead hpl] at hlive
          simpa using hlive.symm
      | true =>
          cases hql : q.live with
          | false =>
              -- a revocation
              rw [hpl, hql] at hlive
              simp only [if_true, Bool.false_eq_true, if_false] at hlive ⊢
              simp only [and_self, if_true]
              omega
          | true =>
              rw [hpl, hql] at hlive
              simpa using hlive.symm
  | registered did q dids hnone _ hql _ hprofiles _ hcount =>
      have hmove := st.agentProfiles.count_insert AgentProfile.live did q
      rw [hnone, Option.any_none, hql, ← hprofiles] at hmove
      have hlive : st'.liveCount = st.liveCount + 1 := hmove
      rw [hcount, h, hlive]
      exact satAdd_eq (by omega)
  | deregistered did p hp hpl hprofiles _ hcount =>
      have hmove := st.agentProfiles.count_remove AgentProfile.live did
      rw [hp, Option.any_some, hpl, if_pos rfl, ← hprofiles] at hmove
      have hlive : st'.liveCount + 1 = st.liveCount := hmove
      rw [hcount, h]
      omega

end

/-- The calls that take an agent off the counter. -/
def Call.lowers : Call → Bool
  | .deregisterAgent _ => true
  | .setAgentStatus _ newStatus => decide (newStatus = .revoked)
  | _ => false

/-- A call that takes an agent off the counter has found it alive, so the counter is not zero. -/
theorem StepEffect.lowers {s s' : State cfg} {origin : Origin AccountId} {c : Call}
    (h : StepEffect s (.call origin c) s') (hexact : CountExact s.storage)
    (hok : succeeds (c.run origin) s = true) (hc : c.lowers = true) :
    s'.storage.activeAgentCount + 1 = s.storage.activeAgentCount := by
  have hpos : ∀ {did : Did} {p : AgentProfile AccountId}, s.storage.agentProfiles did = some p →
      p.status ≠ .revoked → 0 < s.storage.activeAgentCount := by
    intro did p hp hst
    rw [show s.storage.activeAgentCount = s.storage.liveCount from hexact]
    exact liveCount_pos hp (decide_eq_true hst)
  cases h with
  | failed hfail =>
      rw [hfail] at hok
      cases hok
  | statusSet hp hst =>
      have hn := of_decide_eq_true hc
      subst hn
      exact Nat.sub_add_cancel (hpos hp hst)
  | deregistered hp hst => exact Nat.sub_add_cancel (hpos hp hst)
  | registered | updated | starred | unstarred => cases hc

/-- **The counter of active agents is exact** in every run in which fewer than `2^32` agents are
registered at any time, and its saturating decrements do not saturate. -/
theorem activeAgentCount_exact (cfg : Config AccountId) (system : System)
    (ledger : cfg.currency.Ledger) (run : List (Input AccountId))
    (hagents : ∀ p ∈ trace step (genesis cfg system ledger) run,
      (step p.1 p.2).storage.agentCount < 2 ^ 32) :
    (exec step (genesis cfg system ledger) run).storage.activeAgentCount
        = (exec step (genesis cfg system ledger) run).storage.liveCount ∧
    ∀ p ∈ trace step (genesis cfg system ledger) run, ∀ origin c,
      p.2 = .call origin c → succeeds (c.run origin) p.1 = true → c.lowers = true →
        (step p.1 p.2).storage.activeAgentCount + 1 = p.1.storage.activeAgentCount := by
  have hstep : ∀ (s : State cfg) (i : Input AccountId), CountExact s.storage →
      (step s i).storage.agentCount < 2 ^ 32 → CountExact (step s i).storage :=
    fun s i hs hlt => (step_stepEffect s i).tableChange.countExact hs hlt
  have hgenesis : CountExact (genesis cfg system ledger).storage :=
    (StorageMap.count_empty _).symm
  constructor
  · exact exec_invariant (fun s : State cfg => CountExact s.storage)
      (fun s i => (step s i).storage.agentCount < 2 ^ 32) hstep run _ hgenesis hagents
  · intro p hp origin c hi hok hc
    have hexact := trace_invariant (fun s : State cfg => CountExact s.storage)
      (fun s i => (step s i).storage.agentCount < 2 ^ 32) hstep run _ hgenesis hagents p hp
    have heffect := step_stepEffect p.1 p.2
    rw [hi] at heffect ⊢
    exact heffect.lowers hexact hok hc

/-- A step registers at most one agent. -/
theorem agentCount_step_le (s : State cfg) (i : Input AccountId) :
    (step s i).storage.agentCount ≤ s.storage.agentCount + 1 := by
  rw [Storage.agentCount, Storage.agentCount]
  cases (step_stepEffect s i).tableChange with
  | kept hprofiles =>
      rw [hprofiles]
      exact Nat.le_succ _
  | rewritten did p q _ _ _ hprofiles | registered did q dids _ _ _ _ hprofiles =>
      have hmove := s.storage.agentProfiles.count_insert (fun _ => true) did q
      rw [← hprofiles, if_pos rfl] at hmove
      omega
  | deregistered did p _ _ hprofiles =>
      have hmove := s.storage.agentProfiles.count_remove (fun _ => true) did
      rw [← hprofiles] at hmove
      omega

/-- Accounts 7 and 8 register an agent each. The first one is suspended, deregistered and
registered again by account 9; the second one is revoked, so that its deregistration fails. -/
def statusRun : List (Input Nat) :=
  [.call (.signed 7) (registerKey 1),
    .call (.signed 8) (registerKey 2),
    .call (.signed 7) (.setAgentStatus (keyDid 1) .suspended),
    .call (.signed 7) (.deregisterAgent (keyDid 1)),
    .call (.signed 9) (registerKey 1),
    .call (.signed 8) (.setAgentStatus (keyDid 2) .revoked),
    .call (.signed 8) (.deregisterAgent (keyDid 2))]

theorem activeAgentCount_exact_statusRun :
    (exec step siblingStart statusRun).storage.liveCount = 1 := by
  have hcount : (exec step siblingStart statusRun).storage.activeAgentCount = 1 := by
    decide +kernel
  have hexact := activeAgentCount_exact devConfig devSystem (devLedger (1000 * unit)) statusRun
    (fun p hp => by
      have hgrowth := trace_growth (fun s : State devConfig => s.storage.agentCount)
        agentCount_step_le statusRun siblingStart p hp
      have hstart : siblingStart.storage.agentCount = 0 := StorageMap.count_empty _
      have hlength : statusRun.length = 7 := rfl
      omega)
  exact hexact.1.symm.trans hcount

/-! ## A crowd -/

/-- The registration of the `i`-th key of four bytes. -/
def registerNumbered (i : Nat) : Call :=
  .registerAgent ⟨encodeU32 i, by simp [encodeU32, maxPubkeyLen]⟩ .nil 1 0 .nil .nil

def numberedDid (i : Nat) : Did := didOf devConfig (encodeU32 i)

theorem numberedDid_inj {i j : Nat} (hi : i < 2 ^ 32) (hj : j < 2 ^ 32)
    (h : numberedDid i = numberedDid j) : i = j := by
  have hlist : (numberedDid i).toList = (numberedDid j).toList := congrArg List.Vector.toList h
  -- the last bytes of the preimage come first in the hash
  have htake : ∀ k, (numberedDid k).toList.take 4 = (encodeU32 k).reverse := by
    intro k
    show (((didDomain ++ encodeU32 k).reverse ++ List.replicate 32 0).take 32).take 4 = _
    rw [List.take_take, List.reverse_append]
    simp [encodeU32]
  have hreverse : (encodeU32 i).reverse = (encodeU32 j).reverse := by
    rw [← htake i, ← htake j, hlist]
  exact encodeU32_inj hi hj (List.reverse_injective hreverse)

/-- The first `n` accounts register an agent each. -/
def crowd (n : Nat) : List (Input Nat) :=
  (List.range n).map fun i => .call (.signed i) (registerNumbered i)

/-- The state after the registrations of a crowd. Accounts and keys from `n` on are unused, and the
counter has stopped at its maximum. -/
structure Crowded (n : Nat) (s : State devConfig) : Prop where
  system : s.system = devSystem
  free : ∀ i, n ≤ i → devConfig.currency.free s.ledger i = 1000 * unit
  agents : ∀ i, n ≤ i → s.storage.controllerAgents i = .nil
  fresh : ∀ i, n ≤ i → i < 2 ^ 32 → s.storage.agentProfiles (numberedDid i) = none
  first : 0 < n → ∃ p, s.storage.agentProfiles (numberedDid 0) = some p ∧ p.controller = 0 ∧
    p.status = .active
  agentCount : s.storage.agentCount = n
  liveCount : s.storage.liveCount = n
  counter : s.storage.activeAgentCount = min n u32Max

theorem crowded_zero : Crowded 0 siblingStart where
  system := rfl
  free _ _ := rfl
  agents _ _ := rfl
  fresh _ _ _ := rfl
  first h := absurd h (Nat.lt_irrefl 0)
  agentCount := StorageMap.count_empty _
  liveCount := StorageMap.count_empty _
  counter := rfl

/-- The next account can register the next key. -/
theorem Crowded.register_ok {n : Nat} {s : State devConfig} (h : Crowded n s) (hn : n < 2 ^ 32) :
    ∃ ledger dids, (∀ i, i ≠ n → devConfig.currency.free ledger i
        = devConfig.currency.free s.ledger i) ∧
      ((registerNumbered n).run (.signed n)).run s = .ok ()
        (((((s.putLedger ledger).insertProfile (numberedDid n)
          (newProfile (numberedDid n) n 0 s.system.blockNumber .nil .nil)).putControllerAgents n
            dids).mutateActiveAgentCount (satAdd · 1)).depositEvent
              (.agentRegistered (numberedDid n) n)) := by
  have hle : devConfig.registrationDeposit ≤ devConfig.currency.free s.ledger n := by
    rw [h.free n (Nat.le_refl n)]
    decide
  have hreserve : ∃ ledger, devConfig.currency.reserve n devConfig.registrationDeposit s.ledger
      = some ledger := ⟨_, if_pos hle⟩
  obtain ⟨ledger, hledger⟩ := hreserve
  have hpush : ∃ dids, (s.storage.controllerAgents n).tryPush (numberedDid n) = some dids := by
    rw [h.agents n (Nat.le_refl n)]
    exact ⟨_, rfl⟩
  obtain ⟨dids, hdids⟩ := hpush
  refine ⟨ledger, dids, fun i hi => ?_, registerAgent_ok.mpr ⟨n, rfl, h.fresh n (Nat.le_refl n) hn,
    ?_, ?_, ?_, _, rfl, _, rfl, rfl, ledger, hledger, dids, hdids, rfl⟩⟩
  · rw [devConfig.currency.reserve_free hledger, Function.update_of_ne hi]
  · rw [h.agents n (Nat.le_refl n)]
    decide
  · rw [h.system]
    decide
  · rw [h.system]
    decide

theorem Crowded.step {n : Nat} {s : State devConfig} (h : Crowded n s) (hn : n < 2 ^ 32) :
    Crowded (n + 1) (step s (.call (.signed n) (registerNumbered n))) := by
  obtain ⟨ledger, dids, hfree, hrun⟩ := h.register_ok hn
  have hnew := h.fresh n (Nat.le_refl n) hn
  rw [AgentRegistry.step, dispatch_of_ok hrun]
  refine ⟨h.system, fun i hi => ?_, fun i hi => ?_, fun i hi hlt => ?_, fun _ => ?_, ?_, ?_, ?_⟩
  · exact (hfree i (by omega)).trans (h.free i (by omega))
  · exact (Function.update_of_ne (by omega) ..).trans (h.agents i (by omega))
  · have hne : numberedDid i ≠ numberedDid n := fun heq => by
      have := numberedDid_inj hlt hn heq
      omega
    exact (StorageMap.insert_ne hne).trans (h.fresh i (by omega) hlt)
  · by_cases h0 : n = 0
    · subst h0
      exact ⟨newProfile (numberedDid 0) 0 0 s.system.blockNumber .nil .nil,
        StorageMap.insert_self s.storage.agentProfiles (numberedDid 0) _, rfl, rfl⟩
    · obtain ⟨p, hp, hcontroller, hstatus⟩ := h.first (by omega)
      have hne : numberedDid 0 ≠ numberedDid n := fun heq =>
        h0 (numberedDid_inj (by omega) hn heq).symm
      exact ⟨p, (StorageMap.insert_ne hne).trans hp, hcontroller, hstatus⟩
  · have hmove := s.storage.agentProfiles.count_insert (fun _ => true) (numberedDid n)
      (newProfile (numberedDid n) n 0 s.system.blockNumber .nil .nil)
    rw [hnew] at hmove
    exact hmove.trans (congrArg (· + 1) h.agentCount)
  · have hmove := s.storage.agentProfiles.count_insert AgentProfile.live (numberedDid n)
      (newProfile (numberedDid n) n 0 s.system.blockNumber .nil .nil)
    rw [hnew] at hmove
    exact hmove.trans (congrArg (· + 1) h.liveCount)
  · show satAdd s.storage.activeAgentCount 1 = min (n + 1) u32Max
    rw [h.counter, satAdd]
    omega

theorem crowded_crowd (n : Nat) (hn : n ≤ 2 ^ 32) :
    Crowded n (exec step siblingStart (crowd n)) := by
  induction n with
  | zero => exact crowded_zero
  | succ n ih =>
      rw [crowd, List.range_succ, List.map_append, exec_append]
      exact (ih (Nat.le_of_succ_le hn)).step hn

/-- The first agent of a crowd of `2^32` is deregistered. The last registration was not counted, so
that the counter is one too low. -/
theorem Crowded.deregister {s : State devConfig} (h : Crowded (2 ^ 32) s) :
    let s' := AgentRegistry.step s (.call (.signed 0) (.deregisterAgent (numberedDid 0)))
    s'.storage.agentCount = 2 ^ 32 - 1 ∧ s'.storage.liveCount = 2 ^ 32 - 1 ∧
      s'.storage.activeAgentCount = 2 ^ 32 - 2 := by
  obtain ⟨p, hp, hcontroller, hstatus⟩ := h.first (by omega)
  have hst : p.status ≠ .revoked := by
    rw [hstatus]
    decide
  have hrun : ((Call.deregisterAgent (numberedDid 0)).run (.signed 0)).run s = .ok () _ :=
    deregisterAgent_ok.mpr ⟨0, rfl, p, hp, hcontroller, hst, rfl⟩
  have hlive : p.live = true := decide_eq_true hst
  have hagents := s.storage.agentProfiles.count_remove (fun _ => true) (numberedDid 0)
  have hlives := s.storage.agentProfiles.count_remove AgentProfile.live (numberedDid 0)
  rw [hp, Option.any_some, if_pos rfl] at hagents
  rw [hp, Option.any_some, hlive, if_pos rfl] at hlives
  intro s'
  have hs' : s' = _ := dispatch_of_ok hrun
  rw [hs']
  refine ⟨?_, ?_, ?_⟩
  · exact Nat.eq_sub_of_add_eq (hagents.trans h.agentCount)
  · exact Nat.eq_sub_of_add_eq (hlives.trans h.liveCount)
  · show s.storage.activeAgentCount - 1 = _
    rw [h.counter, u32Max]
    omega

/-- `2^32` agents are registered, and the first one is deregistered. -/
def crowdedRun : List (Input Nat) :=
  crowd (2 ^ 32) ++ [.call (.signed 0) (.deregisterAgent (numberedDid 0))]

/-- The counter stays wrong when there are fewer than `2^32` agents again. -/
theorem activeAgentCount_crowdedRun :
    let s := exec step siblingStart crowdedRun
    s.storage.agentCount = 2 ^ 32 - 1 ∧ s.storage.liveCount = 2 ^ 32 - 1 ∧
      s.storage.activeAgentCount = 2 ^ 32 - 2 := by
  have hcrowd := crowded_crowd (2 ^ 32) (Nat.le_refl _)
  rw [crowdedRun, exec_append, exec_cons, exec_nil]
  exact hcrowd.deregister

end AgentRegistry
