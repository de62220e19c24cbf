import ArthNeura.AgentRegistry.Effects

set_option autoImplicit false

/-! # Stars

A star is a row of the ledger `StarGivers` and a point of the score of its receiver, kept in
different tables with different lives: a deregistration deletes the score and leaves the rows.

The rows are worth their points (`StarsCovered`) in every state of a run without penalties
exactly when no DID is registered that still has a star (`starsCovered_iff`). An agent that has
been starred, leaves and comes back starts with a score of zero, and a star removed from it then
is a point that somebody else has given.

The cooldown is kept in the rows alone. Over any window of its length the stars that a DID has
given to another one outnumber those it has taken back by one at most (`star_rate`).
-/

namespace AgentRegistry

open Frame

variable {AccountId : Type} [DecidableEq AccountId] {cfg : Config AccountId}

/-! ## The row of a pair -/

/-- The two penalties of the score. -/
def Input.penalty : Input AccountId → Bool
  | .slashReputation _ _ => true
  | .slashReputationForGuiltyDelivery _ _ => true
  | _ => false

/-- The input is a star of `g` for `r` that goes through. -/
def givesStar (g r : Did) (s : State cfg) : Input AccountId → Bool
  | .call origin (.giveStar giver receiver) =>
      decide (giver = g ∧ receiver = r) && succeeds (giveStar origin giver receiver) s
  | _ => false

/-- The input is a removal of the star of `g` for `r` that goes through. -/
def removesStar (g r : Did) (s : State cfg) : Input AccountId → Bool
  | .call origin (.removeStar giver receiver) =>
      decide (giver = g ∧ receiver = r) && succeeds (removeStar origin giver receiver) s
  | _ => false

/-- What a step does to the row of `g` and `r`. -/
inductive StarStep (g r : Did) (s : State cfg) (i : Input AccountId) (s' : State cfg) : Prop
  | given (hgives : givesStar g r s i = true) (hremoves : removesStar g r s i = false)
      (hcool : s.storage.starGivers g r > 0 →
        s.system.blockNumber ≥ satAdd (s.storage.starGivers g r) cfg.starCooldown)
      (hrow : s'.storage.starGivers g r = s.system.blockNumber)
  | removed (hgives : givesStar g r s i = false) (hremoves : removesStar g r s i = true)
      (hrow : s'.storage.starGivers g r = 0)
  | kept (hgives : givesStar g r s i = false) (hremoves : removesStar g r s i = false)
      (hrow : s'.storage.starGivers g r = s.storage.starGivers g r)

theorem putStar_self (s : State cfg) (g r : Did) (block : Nat) :
    (s.putStar g r block).storage.starGivers g r = block := by simp

theorem putStar_of_ne (s : State cfg) {giver receiver g r : Did} (block : Nat)
    (h : ¬ (giver = g ∧ receiver = r)) :
    (s.putStar giver receiver block).storage.starGivers g r = s.storage.starGivers g r := by
  show Function.update s.storage.starGivers giver _ g r = _
  by_cases hg : g = giver
  · subst hg
    have hr : r ≠ receiver := fun hr => h ⟨rfl, hr.symm⟩
    rw [Function.update_self, Function.update_of_ne hr]
  · rw [Function.update_of_ne hg]

/-- A penalty concerns the score and not the stars. -/
theorem StepEffect.starGivers_penalty {s s' : State cfg} {i : Input AccountId}
    (h : StepEffect s i s') (hi : i.penalty = true) :
    s'.storage.starGivers = s.storage.starGivers := by
  cases h with
  | unslashed | slashed | unstruck | struck | depositSlashed => rfl
  | failed | registered | updated | statusSet | starred | unstarred | deregistered | newBlock =>
      cases hi

theorem step_starStep (g r : Did) (s : State cfg) (i : Input AccountId) :
    StarStep g r s i (step s i) := by
  cases i with
  | newBlock system => exact .kept rfl rfl rfl
  | slashReputation did amount =>
      have hrows := (step_stepEffect s (.slashReputation did amount)).starGivers_penalty rfl
      exact .kept rfl rfl (congrFun (congrFun hrows g) r)
  | slashReputationForGuiltyDelivery did amount =>
      have hrows :=
        (step_stepEffect s (.slashReputationForGuiltyDelivery did amount)).starGivers_penalty rfl
      exact .kept rfl rfl (congrFun (congrFun hrows g) r)
  | call origin c =>
      rcases dispatch_cases (c.run origin) s with ⟨s', hrun, hd⟩ | ⟨hfail, hd⟩
      · rw [step, hd]
        have hok : succeeds (c.run origin) s = true := succeeds_iff.mpr ⟨s', hrun⟩
        cases call_stepEffect hrun with
        | failed hfail =>
            rw [hfail] at hok
            cases hok
        | registered | updated | deregistered => exact .kept rfl rfl rfl
        | @statusSet did newStatus p hp hst =>
            refine .kept rfl rfl ?_
            by_cases hn : newStatus = .revoked <;> simp [hn]
        | @starred a giver receiver p _ _ _ _ _ hcool =>
            by_cases hpair : giver = g ∧ receiver = r
            · obtain ⟨rfl, rfl⟩ := hpair
              refine .given ?_ rfl hcool (putStar_self s giver receiver _)
              simp only [givesStar, and_self, decide_true, Bool.true_and]
              exact hok
            · refine .kept ?_ rfl (putStar_of_ne s _ hpair)
              simp only [givesStar, decide_eq_false hpair, Bool.false_and]
        | @unstarred a giver receiver p _ _ _ =>
            by_cases hpair : giver = g ∧ receiver = r
            · obtain ⟨rfl, rfl⟩ := hpair
              refine .removed rfl ?_ (putStar_self s giver receiver _)
              simp only [removesStar, and_self, decide_true, Bool.true_and]
              exact hok
            · refine .kept rfl ?_ (putStar_of_ne s _ hpair)
              simp only [removesStar, decide_eq_false hpair, Bool.false_and]
      · rw [step, hd]
        cases c with
        | giveStar giver receiver =>
            refine .kept ?_ rfl rfl
            rw [givesStar, show succeeds (giveStar origin giver receiver) s = false from hfail,
              Bool.and_false]
        | removeStar giver receiver =>
            refine .kept rfl ?_ rfl
            rw [removesStar, show succeeds (removeStar origin giver receiver) s = false from hfail,
              Bool.and_false]
        | _ => exact .kept rfl rfl rfl

/-! ## Stars and scores -/

/-- The number of the DIDs that have a live star for `r`. -/
noncomputable def Storage.starCount (st : Storage AccountId) (r : Did) : Nat :=
  (Finset.univ.filter fun g => 0 < st.starGivers g r).card

omit [DecidableEq AccountId] in
theorem starCount_eq_zero {st : Storage AccountId} {r : Did} :
    st.starCount r = 0 ↔ ∀ g, st.starGivers g r = 0 := by
  rw [Storage.starCount, Finset.card_eq_zero, Finset.filter_eq_empty_iff]
  simp

/-- Writing the row of `g` and `r` changes the stars of `r` only. -/
theorem starCount_putStar (s : State cfg) (g r : Did) (block : Nat) (r' : Did) :
    (s.putStar g r block).storage.starCount r' + (if 0 < s.storage.starGivers g r' then 1 else 0)
      = s.storage.starCount r'
        + (if 0 < Function.update (s.storage.starGivers g) r block r' then 1 else 0) := by
  rw [Storage.starCount, Storage.starCount, Finset.card_filter, Finset.card_filter]
  exact sum_update (fun _ row => if 0 < row r' then 1 else 0) s.storage.starGivers g
    (Function.update (s.storage.starGivers g) r block)

theorem starCount_putStar_of_ne (s : State cfg) (g : Did) {r r' : Did} (block : Nat)
    (hr : r' ≠ r) : (s.putStar g r block).storage.starCount r' = s.storage.starCount r' := by
  have hcount := starCount_putStar s g r block r'
  rw [Function.update_of_ne hr] at hcount
  exact Nat.add_right_cancel hcount

/-- Every live star is worth a point of the score of its receiver. -/
def StarsCovered (st : Storage AccountId) : Prop :=
  ∀ r p, st.agentProfiles r = some p → st.starCount r ≤ p.reputationScore

/-- The input gives no star to an agent whose score cannot be raised. -/
def starFits (s : State cfg) : Input AccountId → Bool
  | .call _ (.giveStar _ receiver) =>
      (s.storage.agentProfiles receiver).all fun p => decide (p.reputationScore < u32Max)
  | _ => true

/-- The condition on a step under which stars stay covered: a DID that is registered has no
star. -/
def RegistersUnstarred (s : State cfg) : Input AccountId → Prop
  | .call origin
      (.registerAgent pubkey signature signedAtBlock capabilities metadata label) =>
      succeeds (registerAgent origin pubkey signature signedAtBlock capabilities metadata label) s
        = true → ∀ g, s.storage.starGivers g (didOf cfg pubkey.val) = 0
  | _ => True

section

variable {st st' : Storage AccountId}

omit [DecidableEq AccountId] in
/-- Rewriting the profile of `r` with `q` keeps the other receivers covered. -/
theorem StarsCovered.insert (h : StarsCovered st) {r : Did} {q : AgentProfile AccountId}
    (hprofiles : st'.agentProfiles = st.agentProfiles.insert r q)
    (hother : ∀ r', r' ≠ r → st'.starCount r' = st.starCount r') :
    StarsCovered st' ↔ st'.starCount r ≤ q.reputationScore := by
  constructor
  · intro hc
    exact hc r q (by rw [hprofiles, StorageMap.insert_self])
  · intro hr r' p hp
    rw [hprofiles] at hp
    by_cases hd : r' = r
    · subst hd
      rw [StorageMap.insert_self, Option.some.injEq] at hp
      rw [← hp]
      exact hr
    · rw [StorageMap.insert_ne hd] at hp
      rw [hother r' hd]
      exact h r' p hp

end

/-- A rewritten profile with the old score, and no change of the stars. -/
theorem StarsCovered.rewrite {s s' : State cfg} (h : StarsCovered s.storage) {r : Did}
    {p q : AgentProfile AccountId} (hp : s.storage.agentProfiles r = some p)
    (hprofiles : s'.storage.agentProfiles = s.storage.agentProfiles.insert r q)
    (hstars : s'.storage.starGivers = s.storage.starGivers)
    (hscore : q.reputationScore = p.reputationScore) : StarsCovered s'.storage := by
  have hcount : ∀ r', s'.storage.starCount r' = s.storage.starCount r' := by
    intro r'
    rw [Storage.starCount, Storage.starCount, hstars]
  rw [h.insert hprofiles fun r' _ => hcount r', hcount, hscore]
  exact h r p hp

/-- A new star raises the score as well. -/
theorem StarsCovered.starred {s : State cfg} (h : StarsCovered s.storage) {g r : Did} {block : Nat}
    {p : AgentProfile AccountId} (hp : s.storage.agentProfiles r = some p)
    (hmax : p.reputationScore < u32Max) :
    StarsCovered ((s.putStar g r block).insertProfile r
      { p with reputationScore := satAdd p.reputationScore 1 }).storage := by
  have hcovered := h r p hp
  have hcount := starCount_putStar s g r block r
  have hscore : satAdd p.reputationScore 1 = p.reputationScore + 1 := by
    rw [u32Max] at hmax
    exact satAdd_eq (by omega)
  refine (h.insert rfl fun r' hr => ?_).mpr ?_
  · exact starCount_putStar_of_ne s g block hr
  · show (s.putStar g r block).storage.starCount r ≤ satAdd p.reputationScore 1
    rw [hscore]
    split_ifs at hcount <;> omega

/-- A removed star is one star less, and one point. -/
theorem StarsCovered.unstarred {s : State cfg} (h : StarsCovered s.storage) {g r : Did}
    {p : AgentProfile AccountId} (hstar : s.storage.starGivers g r > 0)
    (hp : s.storage.agentProfiles r = some p) :
    StarsCovered ((s.putStar g r 0).insertProfile r
        { p with reputationScore := p.reputationScore - 1 }).storage ∧
      p.reputationScore - 1 + 1 = p.reputationScore := by
  have hcovered := h r p hp
  have hcount := starCount_putStar s g r 0 r
  rw [Function.update_self, if_pos hstar, if_neg (Nat.lt_irrefl 0)] at hcount
  constructor
  · refine (h.insert rfl fun r' hr => ?_).mpr ?_
    · exact starCount_putStar_of_ne s g 0 hr
    · show (s.putStar g r 0).storage.starCount r ≤ p.reputationScore - 1
      omega
  · omega

/-- **A successful call keeps the stars covered exactly when it registers no DID that has a
star.** -/
theorem StepEffect.starsCovered_call {s s' : State cfg} {origin : Origin AccountId} {c : Call}
    (h : StepEffect s (.call origin c) s') (hok : succeeds (c.run origin) s = true)
    (hfits : starFits s (.call origin c) = true) (hs : StarsCovered s.storage) :
    StarsCovered s'.storage ↔ RegistersUnstarred s (.call origin c) := by
  cases h with
  | failed hfail =>
      rw [hfail] at hok
      cases hok
  | @registered a pubkey _ _ capabilities metadata label did _ _ hdid hnone _ _ =>
      -- the new profile starts with score 0, the rows of its DID may be older
      subst hdid
      refine Iff.trans (hs.insert rfl fun _ _ => rfl) ?_
      show s.storage.starCount (didOf cfg pubkey.val) ≤ 0 ↔ _
      rw [Nat.le_zero, starCount_eq_zero]
      exact ⟨fun hfresh _ => hfresh, fun hfresh => hfresh hok⟩
  | updated hp _ => exact iff_of_true (hs.rewrite hp rfl rfl rfl) trivial
  | @statusSet did newStatus p hp _ =>
      refine iff_of_true (hs.rewrite (q := { p with status := newStatus }) hp ?_ ?_ rfl) trivial
      all_goals by_cases hn : newStatus = .revoked <;> simp [hn]
  | starred _ _ hp _ _ _ =>
      rw [starFits, hp, Option.all_some] at hfits
      exact iff_of_true (hs.starred hp (of_decide_eq_true hfits)) trivial
  | unstarred _ hstar hp => exact iff_of_true (hs.unstarred hstar hp).1 trivial
  | @deregistered did p hp _ =>
      -- the rows stay, but without a profile there is nothing to cover
      refine iff_of_true ?_ trivial
      intro r q hq
      refine hs r q ?_
      by_cases hr : r = did
      · subst hr
        cases (StorageMap.remove_self s.storage.agentProfiles r).symm.trans hq
      · exact (StorageMap.remove_ne hr).symm.trans hq

theorem step_starsCovered_iff (s : State cfg) (i : Input AccountId)
    (hi : i.penalty = false ∧ starFits s i = true) (hs : StarsCovered s.storage) :
    StarsCovered (step s i).storage ↔ RegistersUnstarred s i := by
  cases i with
  | slashReputation did amount => cases hi.1
  | slashReputationForGuiltyDelivery did amount => cases hi.1
  | newBlock system => exact iff_of_true hs trivial
  | call origin c =>
      rcases dispatch_cases (c.run origin) s with ⟨s', hrun, hd⟩ | ⟨hfail, hd⟩
      · rw [step, hd]
        exact (call_stepEffect hrun).starsCovered_call (succeeds_iff.mpr ⟨s', hrun⟩) hi.2 hs
      · rw [step, hd]
        refine iff_of_true hs ?_
        cases c with
        | registerAgent pubkey signature signedAtBlock capabilities metadata label =>
            intro hok
            cases hok.symm.trans hfail
        | _ => trivial

/-- **A live star is worth a point, exactly in the runs that register no DID that still has a
star.** Let a run have no penalties and no star for a score at the maximum. The stars are covered
in all its states exactly when each of its registrations is of a DID without a star; and then
every removal of a star takes exactly one point. -/
theorem starsCovered_iff (cfg : Config AccountId) (system : System) (ledger : cfg.currency.Ledger)
    (run : List (Input AccountId))
    (hrun : ∀ p ∈ trace step (genesis cfg system ledger) run,
      p.2.penalty = false ∧ starFits p.1 p.2 = true) :
    ((∀ k, StarsCovered (exec step (genesis cfg system ledger) (run.take k)).storage) ↔
      ∀ p ∈ trace step (genesis cfg system ledger) run, RegistersUnstarred p.1 p.2) ∧
    ((∀ p ∈ trace step (genesis cfg system ledger) run, RegistersUnstarred p.1 p.2) →
      ∀ p ∈ trace step (genesis cfg system ledger) run, ∀ origin g r,
        p.2 = .call origin (.removeStar g r) → succeeds (removeStar origin g r) p.1 = true →
          ∃ before after, p.1.storage.agentProfiles r = some before ∧
            (step p.1 p.2).storage.agentProfiles r = some after ∧
            after.reputationScore + 1 = before.reputationScore) := by
  have hgenesis : StarsCovered (genesis cfg system ledger).storage := fun r p hp => by cases hp
  constructor
  · exact forall_take_iff (fun s : State cfg => StarsCovered s.storage)
      (fun s i => i.penalty = false ∧ starFits s i = true) RegistersUnstarred
      step_starsCovered_iff run _ hgenesis hrun
  · intro hfresh p hp origin g r hi hok
    have hcovered : StarsCovered p.1.storage :=
      trace_invariant (fun s : State cfg => StarsCovered s.storage)
        (fun s i => (i.penalty = false ∧ starFits s i = true) ∧ RegistersUnstarred s i)
        (fun s i hs h => (step_starsCovered_iff s i h.1 hs).mpr h.2) run _ hgenesis
        (fun q hq => ⟨hrun q hq, hfresh q hq⟩) p hp
    obtain ⟨t, ht⟩ := succeeds_iff.mp hok
    obtain ⟨a, -, -, hstar, before, hbefore, rfl⟩ := removeStar_ok.mp ht
    refine ⟨before, { before with reputationScore := before.reputationScore - 1 }, hbefore, ?_,
      (hcovered.unstarred hstar hbefore).2⟩
    rw [hi, step, Call.run, dispatch_of_ok ht]
    exact StorageMap.insert_self _ _ _

/-- Accounts 7, 8 and 9 register an agent each, and the first one stars the second one. The second
one leaves and comes back, the third one stars it, and the first one removes its star. -/
def staleStarRun : List (Input Nat) :=
  [.call (.signed 7) (registerKey 1),
    .call (.signed 8) (registerKey 2),
    .call (.signed 9) (registerKey 3),
    .call (.signed 7) (.giveStar (keyDid 1) (keyDid 2)),
    .call (.signed 8) (.deregisterAgent (keyDid 2)),
    .call (.signed 8) (registerKey 2),
    .call (.signed 9) (.giveStar (keyDid 3) (keyDid 2)),
    .call (.signed 7) (.removeStar (keyDid 1) (keyDid 2))]

/-- The star of the third agent is alive, and the point that it has given is gone. -/
theorem not_starsCovered_staleStarRun :
    (∀ i ∈ staleStarRun, i.penalty = false) ∧
      ¬ StarsCovered (exec step siblingStart staleStarRun).storage := by
  refine ⟨by decide, fun h => ?_⟩
  have hstar : 0 < (exec step siblingStart staleStarRun).storage.starGivers (keyDid 3) (keyDid 2) :=
    by decide +kernel
  have hscore : ((exec step siblingStart staleStarRun).storage.agentProfiles (keyDid 2)).map
      (·.reputationScore) = some 0 := by decide +kernel
  obtain ⟨p, hp, hzero⟩ := Option.map_eq_some_iff.mp hscore
  have hle := h (keyDid 2) p hp
  rw [hzero, Nat.le_zero, starCount_eq_zero] at hle
  rw [hle (keyDid 3)] at hstar
  cases hstar

/-- Two agents register, and a star is given and removed. -/
def starRun : List (Input Nat) :=
  [.call (.signed 7) (registerKey 1),
    .call (.signed 8) (registerKey 2),
    .call (.signed 7) (.giveStar (keyDid 1) (keyDid 2)),
    .call (.signed 7) (.removeStar (keyDid 1) (keyDid 2))]

theorem starsCovered_iff_starRun :
    StarsCovered (exec step siblingStart (starRun.take 4)).storage := by
  have hfits : ∀ q ∈ (trace step siblingStart starRun).map fun p => (p.2.penalty, starFits p.1 p.2),
      q = (false, true) := by decide +kernel
  refine (starsCovered_iff devConfig devSystem (devLedger (1000 * unit)) starRun
    fun p hp => ?_).1.mpr (fun p hp => ?_) 4
  · have hq := hfits _ (List.mem_map_of_mem hp)
    exact ⟨congrArg Prod.fst hq, congrArg Prod.snd hq⟩
  · have hall : p = (siblingStart, .call (.signed 7) (registerKey 1)) ∨
        p = (exec step siblingStart (starRun.take 1), .call (.signed 8) (registerKey 2)) ∨
        p = (exec step siblingStart (starRun.take 2),
          .call (.signed 7) (.giveStar (keyDid 1) (keyDid 2))) ∨
        p = (exec step siblingStart (starRun.take 3),
          .call (.signed 7) (.removeStar (keyDid 1) (keyDid 2))) := by
      simpa [trace, starRun, siblingStart] using hp
    rcases hall with rfl | rfl | rfl | rfl
    · intro _ g
      rfl
    · -- a registration gives no star
      intro _ g
      cases step_starStep g (keyDid 2) siblingStart (.call (.signed 7) (registerKey 1)) with
      | given hgives => cases hgives
      | removed _ hremoves => cases hremoves
      | kept _ _ hrow => exact hrow
    · trivial
    · trivial

/-! ## The rate of stars -/

/-- The blocks of a run: block numbers do not decrease, and everything else happens in blocks from
1 on in which the cooldown does not saturate. -/
def InTime (s : State cfg) : Input AccountId → Prop
  | .newBlock system => s.system.blockNumber ≤ system.blockNumber
  | _ => 1 ≤ s.system.blockNumber ∧ s.system.blockNumber + cfg.starCooldown < 2 ^ 32

instance (s : State cfg) (i : Input AccountId) : Decidable (InTime s i) :=
  match i with
  | .newBlock system => inferInstanceAs (Decidable (s.system.blockNumber ≤ system.blockNumber))
  | .call _ _ | .slashReputation _ _ | .slashReputationForGuiltyDelivery _ _ =>
      inferInstanceAs (Decidable (1 ≤ s.system.blockNumber ∧
        s.system.blockNumber + cfg.starCooldown < 2 ^ 32))

/-- The state is in one of the blocks of the cooldown window that starts at `b`. -/
def inWindow (b : Nat) (s : State cfg) : Bool :=
  decide (b ≤ s.system.blockNumber ∧ s.system.blockNumber < b + cfg.starCooldown)

/-- The number of stars of `g` for `r` given in the window. -/
def starsGiven (g r : Did) (b : Nat) (past : List (State cfg × Input AccountId)) : Nat :=
  past.countP fun p => inWindow b p.1 && givesStar g r p.1 p.2

/-- The number of stars of `g` for `r` removed in the window. -/
def starsRemoved (g r : Did) (b : Nat) (past : List (State cfg × Input AccountId)) : Nat :=
  past.countP fun p => inWindow b p.1 && removesStar g r p.1 p.2

/-- The invariant of the window that starts at `b`, for the steps of the `past` and the state they
lead to. As long as the window is open, a star given in it and not removed is the row of the
pair. -/
structure RateLimited (g r : Did) (b : Nat) (past : List (State cfg × Input AccountId))
    (s : State cfg) : Prop where
  row_le : s.storage.starGivers g r ≤ s.system.blockNumber
  before : s.system.blockNumber < b → starsGiven g r b past = 0
  during : s.system.blockNumber < b + cfg.starCooldown → starsGiven g r b past
    ≤ starsRemoved g r b past
      + (if 0 < s.storage.starGivers g r ∧ b ≤ s.storage.starGivers g r then 1 else 0)
  total : starsGiven g r b past ≤ starsRemoved g r b past + 1

/-- Only a new block changes the block number. -/
theorem StepEffect.system_eq {s s' : State cfg} {i : Input AccountId} (h : StepEffect s i s')
    (hi : ∀ system, i ≠ .newBlock system) : s'.system = s.system := by
  cases h with
  | newBlock system => exact absurd rfl (hi system)
  | @statusSet did newStatus p hp hst => by_cases hn : newStatus = .revoked <;> simp [hn]
  | _ => rfl

theorem InTime.cases {s : State cfg} {i : Input AccountId} (h : InTime s i) :
    (∃ system, i = .newBlock system ∧ s.system.blockNumber ≤ system.blockNumber) ∨
      ((step s i).system = s.system ∧ 1 ≤ s.system.blockNumber ∧
        s.system.blockNumber + cfg.starCooldown < 2 ^ 32) := by
  have hsystem := (step_stepEffect s i).system_eq
  cases i with
  | newBlock system => exact Or.inl ⟨system, rfl, h⟩
  | _ => exact Or.inr ⟨hsystem (by simp), h⟩

theorem starsGiven_append (g r : Did) (b : Nat) (past : List (State cfg × Input AccountId))
    (s : State cfg) (i : Input AccountId) :
    starsGiven g r b (past ++ [(s, i)]) = starsGiven g r b past
      + (if (inWindow b s && givesStar g r s i) = true then 1 else 0) := by
  rw [starsGiven, List.countP_append, List.countP_singleton]
  rfl

theorem starsRemoved_append (g r : Did) (b : Nat) (past : List (State cfg × Input AccountId))
    (s : State cfg) (i : Input AccountId) :
    starsRemoved g r b (past ++ [(s, i)]) = starsRemoved g r b past
      + (if (inWindow b s && removesStar g r s i) = true then 1 else 0) := by
  rw [starsRemoved, List.countP_append, List.countP_singleton]
  rfl

section

variable {g r : Did} {b : Nat} {past : List (State cfg × Input AccountId)} {s s' : State cfg}
  {i : Input AccountId}

/-- A step that does not concern the pair. The window may close, but it does not open again. -/
theorem RateLimited.quiet (h : RateLimited g r b past s) (hgives : givesStar g r s i = false)
    (hremoves : removesStar g r s i = false)
    (hrow : s'.storage.starGivers g r = s.storage.starGivers g r)
    (hle : s.system.blockNumber ≤ s'.system.blockNumber) :
    RateLimited g r b (past ++ [(s, i)]) s' := by
  have hgiven := starsGiven_append g r b past s i
  have hremoved := starsRemoved_append g r b past s i
  rw [hgives, Bool.and_false, if_neg Bool.false_ne_true, Nat.add_zero] at hgiven
  rw [hremoves, Bool.and_false, if_neg Bool.false_ne_true, Nat.add_zero] at hremoved
  refine ⟨?_, fun hb => ?_, fun hb => ?_, ?_⟩
  · rw [hrow]
    exact le_trans h.row_le hle
  · rw [hgiven]
    exact h.before (lt_of_le_of_lt hle hb)
  · rw [hgiven, hremoved, hrow]
    exact h.during (lt_of_le_of_lt hle hb)
  · rw [hgiven, hremoved]
    exact h.total

/-- A star given while the window is open: the cooldown has passed, so the row of the pair is from
before the window. -/
theorem RateLimited.row_before (h : RateLimited g r b past s)
    (hmax : s.system.blockNumber + cfg.starCooldown < 2 ^ 32)
    (hopen : s.system.blockNumber < b + cfg.starCooldown)
    (hcool : s.storage.starGivers g r > 0 →
      s.system.blockNumber ≥ satAdd (s.storage.starGivers g r) cfg.starCooldown) :
    ¬ (0 < s.storage.starGivers g r ∧ b ≤ s.storage.starGivers g r) := by
  rintro ⟨hpos, hb⟩
  have hrow := h.row_le
  have hwait := hcool hpos
  rw [satAdd_eq (by omega)] at hwait
  omega

theorem RateLimited.given (h : RateLimited g r b past s) (hgives : givesStar g r s i = true)
    (hremoves : removesStar g r s i = false)
    (hcool : s.storage.starGivers g r > 0 →
      s.system.blockNumber ≥ satAdd (s.storage.starGivers g r) cfg.starCooldown)
    (hrow : s'.storage.starGivers g r = s.system.blockNumber) (hsystem : s'.system = s.system)
    (hone : 1 ≤ s.system.blockNumber)
    (hmax : s.system.blockNumber + cfg.starCooldown < 2 ^ 32) :
    RateLimited g r b (past ++ [(s, i)]) s' := by
  have hgiven := starsGiven_append g r b past s i
  have hremoved := starsRemoved_append g r b past s i
  rw [hgives, Bool.and_true, inWindow] at hgiven
  rw [hremoves, Bool.and_false, if_neg Bool.false_ne_true, Nat.add_zero] at hremoved
  have hbefore := h.before
  have htotal := h.total
  by_cases hw : b ≤ s.system.blockNumber ∧ s.system.blockNumber < b + cfg.starCooldown
  · -- no star of the window is left, so this one may be given
    rw [if_pos (decide_eq_true hw)] at hgiven
    have hduring := h.during hw.2
    rw [if_neg (h.row_before hmax hw.2 hcool)] at hduring
    refine ⟨?_, fun hb => ?_, fun hb => ?_, by omega⟩
    · rw [hrow, hsystem]
    · rw [hsystem] at hb
      omega
    · rw [hgiven, hremoved, hrow, if_pos ⟨hone, hw.1⟩]
      omega
  · rw [if_neg fun h => hw (of_decide_eq_true h), Nat.add_zero] at hgiven
    refine ⟨?_, fun hb => ?_, fun hb => ?_, by omega⟩
    · rw [hrow, hsystem]
    · rw [hsystem] at hb
      rw [hgiven]
      exact hbefore hb
    · -- the window has not been opened yet
      rw [hsystem] at hb
      have hzero := hbefore (by omega)
      rw [hgiven, hzero]
      exact Nat.zero_le _

theorem RateLimited.removed (h : RateLimited g r b past s) (hgives : givesStar g r s i = false)
    (hremoves : removesStar g r s i = true) (hrow : s'.storage.starGivers g r = 0)
    (hsystem : s'.system = s.system) : RateLimited g r b (past ++ [(s, i)]) s' := by
  have hgiven := starsGiven_append g r b past s i
  have hremoved := starsRemoved_append g r b past s i
  rw [hgives, Bool.and_false, if_neg Bool.false_ne_true, Nat.add_zero] at hgiven
  rw [hremoves, Bool.and_true, inWindow] at hremoved
  have hbefore := h.before
  have htotal := h.total
  refine ⟨?_, fun hb => ?_, fun hb => ?_, by omega⟩
  · rw [hrow]
    exact Nat.zero_le _
  · rw [hsystem] at hb
    rw [hgiven]
    exact hbefore hb
  · rw [hsystem] at hb
    by_cases hw : b ≤ s.system.blockNumber ∧ s.system.blockNumber < b + cfg.starCooldown
    · rw [if_pos (decide_eq_true hw)] at hremoved
      omega
    · have hzero := hbefore (by omega)
      rw [hgiven, hzero]
      exact Nat.zero_le _

/-- **One step keeps the rate.** -/
theorem RateLimited.step (h : RateLimited g r b past s) (hi : InTime s i) :
    RateLimited g r b (past ++ [(s, i)]) (step s i) := by
  rcases hi.cases with ⟨system, rfl, hle⟩ | ⟨hsystem, hone, hmax⟩
  · exact h.quiet rfl rfl rfl hle
  · cases step_starStep g r s i with
    | given hgives hremoves hcool hrow =>
        exact h.given hgives hremoves hcool hrow hsystem hone hmax
    | removed hgives hremoves hrow => exact h.removed hgives hremoves hrow hsystem
    | kept hgives hremoves hrow => exact h.quiet hgives hremoves hrow (by rw [hsystem])

end

/-- **Stars are limited to one in a cooldown.** In every run and for every window of the length of
the cooldown, the stars that `g` has given to `r` in the window outnumber those it has removed in
the window by one at most, whatever happens to the two agents in between. -/
theorem star_rate (cfg : Config AccountId) (system : System) (ledger : cfg.currency.Ledger)
    (run : List (Input AccountId))
    (hrun : ∀ p ∈ trace step (genesis cfg system ledger) run, InTime p.1 p.2) (g r : Did)
    (b : Nat) :
    starsGiven g r b (trace step (genesis cfg system ledger) run)
      ≤ starsRemoved g r b (trace step (genesis cfg system ledger) run) + 1 := by
  have hlimited := exec_history
    (fun past (s : State cfg) => (∀ p ∈ past, InTime p.1 p.2) → RateLimited g r b past s)
    (fun past s i h hpast => ?_) (genesis cfg system ledger) (fun _ => ?_) run hrun
  · exact hlimited.total
  · exact (h fun p hp => hpast p (List.mem_append_left _ hp)).step
      (hpast (s, i) (List.mem_append_right _ (List.mem_singleton.mpr rfl)))
  · exact ⟨Nat.zero_le _, fun _ => rfl, fun _ => Nat.zero_le _, Nat.zero_le _⟩

/-- In block 1 account 7 gives a star, removes it and gives it again; the next block is 1201. -/
def rateRun : List (Input Nat) :=
  starRun ++ [.call (.signed 7) (.giveStar (keyDid 1) (keyDid 2)),
    .newBlock ⟨1201, fun _ => Bytes32.ofNat 0⟩,
    .call (.signed 7) (.giveStar (keyDid 1) (keyDid 2))]

theorem star_rate_rateRun :
    starsGiven (keyDid 1) (keyDid 2) 1 (trace step siblingStart rateRun) = 2 ∧
      starsGiven (keyDid 1) (keyDid 2) 1 (trace step siblingStart rateRun)
        ≤ starsRemoved (keyDid 1) (keyDid 2) 1 (trace step siblingStart rateRun) + 1 :=
  ⟨by decide +kernel, star_rate devConfig devSystem (devLedger (1000 * unit)) rateRun
    (by decide +kernel) (keyDid 1) (keyDid 2) 1⟩

end AgentRegistry
