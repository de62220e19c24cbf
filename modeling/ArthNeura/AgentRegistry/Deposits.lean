import ArthNeura.AgentRegistry.Spec
import ArthNeura.Frame.Run

set_option autoImplicit false

/-! # Registration deposits

Deposits live in one reserve for each account, without a record for each DID. What is left of
the deposit of a DID is therefore a ghost quantity: the deposit minus what `DepositSlashed`
events have taken since the DID was registered (`slashedSince`). A step of the pallet has one
of four effects on deposits, `Neutral`, `Registers`, `Deregisters` and `Slashes`; everything
about reserves is derived from them.

The reserve of an account is the sum of what is left of its deposits (`Isolated`) in all
states of a run exactly when every deregistration returns an unslashed deposit and every slash
is covered by the deposit of the slashed DID, up to steps that have no sibling to harm
(`isolated_iff_depositSafe`).
-/

namespace AgentRegistry

open Frame

/-! ## Ghost quantities -/

section

variable {AccountId : Type}

/-- The effect of one event on what was slashed from the deposit of `d`. -/
def slashedBy (d : Did) (taken : Nat) : Event AccountId → Nat
  | .agentRegistered did _ => if did = d then 0 else taken
  | .depositSlashed did _ amount _ => if did = d then taken + amount else taken
  | _ => taken

/-- The total of the `DepositSlashed` amounts for `d` since its last registration. -/
def slashedSince (events : List (Event AccountId)) (d : Did) : Nat :=
  events.foldl (slashedBy d) 0

theorem slashedSince_append (events : List (Event AccountId)) (e : Event AccountId) (d : Did) :
    slashedSince (events ++ [e]) d = slashedBy d (slashedSince events d) e := by
  rw [slashedSince, List.foldl_append]
  rfl

/-- The controller of a registered DID. -/
def Storage.controllerOf (st : Storage AccountId) (d : Did) : Option AccountId :=
  (st.agentProfiles d).map (·.controller)

/-- Rewriting a profile without its controller changes no controller. -/
theorem controllerOf_insert {st : Storage AccountId} {did : Did} {p q : AgentProfile AccountId}
    (hp : st.agentProfiles did = some p) (hq : q.controller = p.controller) :
    (fun d => ((st.agentProfiles.insert did q) d).map (·.controller)) = st.controllerOf := by
  funext d
  by_cases hd : d = did
  · subst hd
    simp [Storage.controllerOf, hp, hq]
  · simp [Storage.controllerOf, StorageMap.insert_ne hd]

end

variable {AccountId : Type} [DecidableEq AccountId] {cfg : Config AccountId}

def State.slashed (s : State cfg) (d : Did) : Nat := slashedSince s.storage.events d

/-- What is left of the deposit of `d`, if `a` controls `d`. -/
def State.depositLeft (s : State cfg) (a : AccountId) (d : Did) : Nat :=
  if s.storage.controllerOf d = some a then cfg.registrationDeposit - s.slashed d else 0

/-- What is left of the deposits of all DIDs of `a`. -/
noncomputable def State.depositsLeft (s : State cfg) (a : AccountId) : Nat := ∑ d, s.depositLeft a d

/-- What is left of the deposits of the DIDs of `a` other than `did`. -/
noncomputable def State.siblingsLeft (s : State cfg) (a : AccountId) (did : Did) : Nat :=
  ∑ d ∈ Finset.univ.erase did, s.depositLeft a d

theorem State.depositsLeft_eq (s : State cfg) (a : AccountId) (did : Did) :
    s.depositsLeft a = s.depositLeft a did + s.siblingsLeft a did :=
  (Finset.add_sum_erase _ _ (Finset.mem_univ did)).symm

/-! ## The four effects of a step on deposits -/

section Effects

variable (s s' : State cfg)

structure Neutral : Prop where
  ledger : s'.ledger = s.ledger
  controller : s'.storage.controllerOf = s.storage.controllerOf
  slashed : s'.slashed = s.slashed

structure Registers (a : AccountId) (did : Did) : Prop where
  fresh : s.storage.controllerOf did = none
  reserve : cfg.currency.reserve a cfg.registrationDeposit s.ledger = some s'.ledger
  controller : s'.storage.controllerOf = Function.update s.storage.controllerOf did (some a)
  slashed : s'.slashed = Function.update s.slashed did 0

structure Deregisters (a : AccountId) (did : Did) : Prop where
  registered : s.storage.controllerOf did = some a
  ledger : s'.ledger = (cfg.currency.unreserve a cfg.registrationDeposit s.ledger).1
  controller : s'.storage.controllerOf = Function.update s.storage.controllerOf did none
  slashed : s'.slashed = s.slashed

structure Slashes (a : AccountId) (did : Did) : Prop where
  registered : s.storage.controllerOf did = some a
  ledger : s'.ledger = (cfg.currency.slashReserved a cfg.depositSlashPerStrike s.ledger).1
  controller : s'.storage.controllerOf = s.storage.controllerOf
  slashed : s'.slashed = Function.update s.slashed did
    (s.slashed did + min (cfg.currency.reserved s.ledger a) cfg.depositSlashPerStrike)

end Effects

theorem Neutral.refl (s : State cfg) : Neutral s s := ⟨rfl, rfl, rfl⟩

section Calls

variable {origin : Origin AccountId} {s s' : State cfg}

/-- A rewritten profile and one event that concerns no deposit. -/
theorem neutral_of_insert {did : Did} {p q : AgentProfile AccountId} {e : Event AccountId}
    (hp : s.storage.agentProfiles did = some p)
    (hprof : s'.storage.agentProfiles = s.storage.agentProfiles.insert did q)
    (hq : q.controller = p.controller)
    (hev : s'.storage.events = s.storage.events ++ [e]) (hledger : s'.ledger = s.ledger)
    (he : ∀ d n, slashedBy d n e = n) : Neutral s s' := by
  refine ⟨hledger, ?_, ?_⟩
  · rw [← controllerOf_insert hp hq]
    funext d
    rw [Storage.controllerOf, hprof]
  · funext d
    rw [State.slashed, hev, slashedSince_append, he]
    rfl

/-- The effect of a successful call. -/
theorem call_effect {c : Call} (h : (c.run origin).run s = .ok () s') :
    ((∀ did, c ≠ .deregisterAgent did) ∧ Neutral s s') ∨
    ((∀ did, c ≠ .deregisterAgent did) ∧
      ∃ a did, origin = .signed a ∧ Registers s s' a did) ∨
    (∃ did p, c = .deregisterAgent did ∧ s.storage.agentProfiles did = some p ∧
      origin = .signed p.controller ∧ p.status ≠ .revoked ∧
      Deregisters s s' p.controller did) := by
  cases c with
  | registerAgent pubkey signature signedAtBlock capabilities metadata label =>
      obtain ⟨a, ho, hnone, -, -, -, -, -, -, -, -, ledger, hledger, dids, -, rfl⟩ :=
        registerAgent_ok.mp h
      refine Or.inr (Or.inl ⟨by simp, a, didOf cfg pubkey.val, ho, ⟨?_, hledger, ?_, ?_⟩⟩)
      · rw [Storage.controllerOf, hnone]
        rfl
      · funext d
        by_cases hd : d = didOf cfg pubkey.val
        · subst hd
          simp [Storage.controllerOf]
        · simp [Storage.controllerOf, StorageMap.insert_ne hd, Function.update_of_ne hd]
      · funext d
        by_cases hd : d = didOf cfg pubkey.val
        · subst hd
          simp [State.slashed, slashedSince_append, slashedBy]
        · simp [State.slashed, slashedSince_append, slashedBy, Function.update_of_ne hd,
            Ne.symm hd]
  | updateProfile did capabilities metadata label =>
      obtain ⟨-, -, p, hp, -, -, rfl⟩ := updateProfile_ok.mp h
      exact Or.inl ⟨by simp, neutral_of_insert hp rfl rfl rfl rfl (fun _ _ => rfl)⟩
  | setAgentStatus did newStatus =>
      obtain ⟨-, -, p, hp, -, -, rfl⟩ := setAgentStatus_ok.mp h
      refine Or.inl ⟨by simp, neutral_of_insert (q := { p with status := newStatus })
        (e := .agentStatusChanged did newStatus) hp ?_ rfl ?_ ?_ (fun _ _ => rfl)⟩
      · by_cases hn : newStatus = .revoked <;> simp [hn]
      · by_cases hn : newStatus = .revoked <;> simp [hn]
      · by_cases hn : newStatus = .revoked <;> simp [hn]
  | giveStar giverDid receiver =>
      obtain ⟨-, -, -, -, p, hp, -, -, -, rfl⟩ := giveStar_ok.mp h
      exact Or.inl ⟨by simp, neutral_of_insert hp rfl rfl rfl rfl (fun _ _ => rfl)⟩
  | removeStar giverDid receiver =>
      obtain ⟨-, -, -, -, p, hp, rfl⟩ := removeStar_ok.mp h
      exact Or.inl ⟨by simp, neutral_of_insert hp rfl rfl rfl rfl (fun _ _ => rfl)⟩
  | deregisterAgent did =>
      obtain ⟨a, ho, p, hp, rfl, hst, rfl⟩ := deregisterAgent_ok.mp h
      refine Or.inr (Or.inr ⟨did, p, rfl, hp, ho, hst, ⟨?_, rfl, ?_, ?_⟩⟩)
      · rw [Storage.controllerOf, hp, Option.map_some]
      · funext d
        by_cases hd : d = did
        · subst hd
          simp [Storage.controllerOf]
        · simp [Storage.controllerOf, StorageMap.remove_ne hd, Function.update_of_ne hd]
      · funext d
        simp [State.slashed, slashedSince_append, slashedBy]

theorem slashReputation_neutral (did : Did) (amount : Nat) (s : State cfg) :
    Neutral s (slashReputation did amount s) := by
  cases hp : s.storage.agentProfiles did with
  | none =>
      rw [slashReputation_none amount hp]
      exact Neutral.refl s
  | some p =>
      rw [slashReputation_some amount hp]
      exact neutral_of_insert hp rfl rfl rfl rfl (fun _ _ => rfl)

/-- A guilty verdict on `did` slashes the deposit of its controller `a`. -/
def StrikesOut (s : State cfg) (did : Did) (a : AccountId) : Prop :=
  s.storage.controllerOf did = some a ∧
    cfg.strikeThreshold ≤ satAdd (s.storage.disputeStrikes did) 1

theorem guiltyDelivery_effect (did : Did) (amount : Nat) (s : State cfg) :
    (∃ a, StrikesOut s did a ∧ Slashes s (slashReputationForGuiltyDelivery did amount s) a did) ∨
      ((∀ a, ¬ StrikesOut s did a) ∧
        Neutral s (slashReputationForGuiltyDelivery did amount s)) := by
  cases hp : s.storage.agentProfiles did with
  | none =>
      refine Or.inr ⟨fun a h => ?_, ?_⟩
      · rw [StrikesOut, Storage.controllerOf, hp] at h
        cases h.1
      · rw [guiltyDelivery_none amount hp]
        exact Neutral.refl s
  | some p =>
      have hc : s.storage.controllerOf did = some p.controller := by
        rw [Storage.controllerOf, hp]
        rfl
      have hn := slashReputation_neutral did amount s
      by_cases hle : cfg.strikeThreshold ≤ satAdd (s.storage.disputeStrikes did) 1
      · refine Or.inl ⟨p.controller, ⟨hc, hle⟩, ?_⟩
        rw [guiltyDelivery_reached amount hp hle]
        refine ⟨hc, rfl, hn.controller, ?_⟩
        funext d
        have hs : slashedSince (slashReputation did amount s).storage.events d = s.slashed d :=
          congrFun hn.slashed d
        by_cases hd : d = did
        · subst hd
          simp [State.slashed, slashedSince_append, slashedBy, hs]
        · simp [State.slashed, slashedSince_append, slashedBy, hs, Function.update_of_ne hd,
            Ne.symm hd]
      · refine Or.inr ⟨fun a h => hle h.2, ?_⟩
        rw [guiltyDelivery_below amount hp (Nat.lt_of_not_le hle)]
        exact ⟨hn.ledger, hn.controller, hn.slashed⟩

end Calls

/-! ## Isolated deposits -/

/-- The reserve of every account is what is left of the deposits of its DIDs, and no deposit
is slashed by more than there is of it. -/
structure Isolated (s : State cfg) : Prop where
  reserved : ∀ a, cfg.currency.reserved s.ledger a = s.depositsLeft a
  covered : ∀ d, s.storage.controllerOf d ≠ none → s.slashed d ≤ cfg.registrationDeposit

section Effects

variable {s s' : State cfg} {a : AccountId} {did : Did}

theorem siblingsLeft_congr (b : AccountId)
    (hc : ∀ d, d ≠ did → s'.storage.controllerOf d = s.storage.controllerOf d)
    (hx : ∀ d, d ≠ did → s'.slashed d = s.slashed d) :
    s'.siblingsLeft b did = s.siblingsLeft b did := by
  rw [State.siblingsLeft, State.siblingsLeft]
  refine Finset.sum_congr rfl fun d hd => ?_
  have hne : d ≠ did := Finset.ne_of_mem_erase hd
  rw [State.depositLeft, State.depositLeft, hc d hne, hx d hne]

theorem depositsLeft_congr (hc : s'.storage.controllerOf = s.storage.controllerOf)
    (hx : s'.slashed = s.slashed) (b : AccountId) : s'.depositsLeft b = s.depositsLeft b := by
  have hleft : s'.depositLeft b = s.depositLeft b := by
    funext d
    rw [State.depositLeft, State.depositLeft, hc, hx]
  rw [State.depositsLeft, State.depositsLeft, hleft]

theorem Neutral.depositsLeft (h : Neutral s s') (b : AccountId) :
    s'.depositsLeft b = s.depositsLeft b := depositsLeft_congr h.controller h.slashed b

theorem Neutral.isolated (h : Neutral s s') (hi : Isolated s) : Isolated s' := by
  refine ⟨fun b => ?_, fun d hd => ?_⟩
  · rw [h.ledger, hi.reserved b, h.depositsLeft]
  · rw [h.controller] at hd
    rw [h.slashed]
    exact hi.covered d hd

theorem Registers.depositsLeft (h : Registers s s' a did) (b : AccountId) :
    s'.depositsLeft b = s.depositsLeft b + if b = a then cfg.registrationDeposit else 0 := by
  have hsib : s'.siblingsLeft b did = s.siblingsLeft b did :=
    siblingsLeft_congr b (fun d hd => by rw [h.controller, Function.update_of_ne hd])
      (fun d hd => by rw [h.slashed, Function.update_of_ne hd])
  have hold : s.depositLeft b did = 0 := by
    rw [State.depositLeft, h.fresh, if_neg (by simp)]
  have hnew : s'.depositLeft b did = if b = a then cfg.registrationDeposit else 0 := by
    rw [State.depositLeft, h.controller, h.slashed, Function.update_self, Function.update_self]
    simp [eq_comm]
  rw [s'.depositsLeft_eq b did, s.depositsLeft_eq b did, hsib, hold, hnew]
  omega

theorem Registers.reserved (h : Registers s s' a did) (b : AccountId) :
    cfg.currency.reserved s'.ledger b =
      cfg.currency.reserved s.ledger b + if b = a then cfg.registrationDeposit else 0 := by
  rw [ReservableCurrency.reserved_reserve h.reserve]

theorem Registers.isolated (h : Registers s s' a did) (hi : Isolated s) : Isolated s' := by
  refine ⟨fun b => ?_, fun d hd => ?_⟩
  · rw [h.reserved, h.depositsLeft, hi.reserved b]
  · rw [h.slashed]
    rw [h.controller] at hd
    by_cases hdd : d = did
    · subst hdd
      rw [Function.update_self]
      exact Nat.zero_le _
    · rw [Function.update_of_ne hdd] at hd ⊢
      exact hi.covered d hd

theorem depositLeft_of_controller (h : s.storage.controllerOf did = some a) (b : AccountId) :
    s.depositLeft b did = if b = a then cfg.registrationDeposit - s.slashed did else 0 := by
  rw [State.depositLeft, h]
  simp [eq_comm]

/-- What is left of the deposit of the deregistered DID is gone. -/
theorem Deregisters.depositsLeft (h : Deregisters s s' a did) (b : AccountId) :
    s'.depositsLeft b = s.siblingsLeft b did := by
  have hsib : s'.siblingsLeft b did = s.siblingsLeft b did :=
    siblingsLeft_congr b (fun d hd => by rw [h.controller, Function.update_of_ne hd])
      (fun d _ => by rw [h.slashed])
  have hgone : s'.depositLeft b did = 0 := by
    rw [State.depositLeft, h.controller, Function.update_self, if_neg (by simp)]
  rw [s'.depositsLeft_eq b did, hsib, hgone, Nat.zero_add]

/-- The deposits of the controller of `did`, and of another account. -/
theorem depositsLeft_controller (h : s.storage.controllerOf did = some a) (b : AccountId) :
    s.depositsLeft b =
      (if b = a then cfg.registrationDeposit - s.slashed did else 0) + s.siblingsLeft b did := by
  rw [s.depositsLeft_eq b did, depositLeft_of_controller h]

theorem Deregisters.reserved (h : Deregisters s s' a did) (b : AccountId) :
    cfg.currency.reserved s'.ledger b =
      cfg.currency.reserved s.ledger b - if b = a then cfg.registrationDeposit else 0 := by
  rw [h.ledger, ReservableCurrency.reserved_unreserve]

/-- A deregistration returns a whole deposit: the reserve stays right exactly when the deposit
was whole, or when there is nothing else in the reserve to take the rest from. -/
theorem Deregisters.isolated_iff (h : Deregisters s s' a did) (hi : Isolated s) :
    Isolated s' ↔ s.slashed did = 0 ∨ s.siblingsLeft a did = 0 := by
  have hcov := hi.covered did (by rw [h.registered]; simp)
  have ha := hi.reserved a
  rw [depositsLeft_controller h.registered, if_pos rfl] at ha
  constructor
  · intro hi'
    have ha' := hi'.reserved a
    rw [h.reserved, h.depositsLeft, if_pos rfl] at ha'
    omega
  · intro hsafe
    refine ⟨fun b => ?_, fun d hd => ?_⟩
    · rw [h.reserved, h.depositsLeft]
      by_cases hba : b = a
      · subst hba
        rw [if_pos rfl]
        omega
      · rw [if_neg hba, hi.reserved b, depositsLeft_controller h.registered, if_neg hba]
        omega
    · rw [h.slashed]
      rw [h.controller] at hd
      by_cases hdd : d = did
      · subst hdd
        exact hcov
      · rw [Function.update_of_ne hdd] at hd
        exact hi.covered d hd

/-- What a slash has taken so far, the slash included. -/
theorem Slashes.slashed_self (h : Slashes s s' a did) :
    s'.slashed did = s.slashed did
      + min (cfg.currency.reserved s.ledger a) cfg.depositSlashPerStrike := by
  rw [h.slashed, Function.update_self]

theorem Slashes.depositsLeft (h : Slashes s s' a did) (b : AccountId) :
    s'.depositsLeft b =
      (if b = a then cfg.registrationDeposit - s'.slashed did else 0) + s.siblingsLeft b did := by
  have hsib : s'.siblingsLeft b did = s.siblingsLeft b did :=
    siblingsLeft_congr b (fun d _ => by rw [h.controller])
      (fun d hd => by rw [h.slashed, Function.update_of_ne hd])
  have hreg : s'.storage.controllerOf did = some a := by rw [h.controller, h.registered]
  rw [depositsLeft_controller hreg, hsib]

theorem Slashes.reserved (h : Slashes s s' a did) (b : AccountId) :
    cfg.currency.reserved s'.ledger b =
      cfg.currency.reserved s.ledger b - if b = a then cfg.depositSlashPerStrike else 0 := by
  rw [h.ledger, ReservableCurrency.reserved_slashReserved]

/-- A slash takes from the whole reserve: it stays right exactly when the deposit of the
slashed DID covers the slash, or when there is nothing else in the reserve. -/
theorem Slashes.isolated_iff (h : Slashes s s' a did) (hi : Isolated s) :
    Isolated s' ↔
      cfg.depositSlashPerStrike ≤ cfg.registrationDeposit - s.slashed did ∨
        s.siblingsLeft a did = 0 := by
  have hcov := hi.covered did (by rw [h.registered]; simp)
  have hslashed := h.slashed_self
  have ha := hi.reserved a
  rw [depositsLeft_controller h.registered, if_pos rfl] at ha
  constructor
  · intro hi'
    have hcov' := hi'.covered did (by rw [h.controller, h.registered]; simp)
    omega
  · intro hsafe
    refine ⟨fun b => ?_, fun d hd => ?_⟩
    · rw [h.reserved, h.depositsLeft]
      by_cases hba : b = a
      · subst hba
        rw [if_pos rfl, if_pos rfl]
        omega
      · rw [if_neg hba, if_neg hba, hi.reserved b, depositsLeft_controller h.registered,
          if_neg hba]
        omega
    · rw [h.controller] at hd
      by_cases hdd : d = did
      · subst hdd
        omega
      · rw [h.slashed, Function.update_of_ne hdd]
        exact hi.covered d hd

/-! ## Deposits next to other reserves -/

/-- The reserve of every account covers what is left of its deposits and `other` amounts. -/
def Covers (s : State cfg) (other : AccountId → Nat) : Prop :=
  ∀ a, s.depositsLeft a + other a ≤ cfg.currency.reserved s.ledger a

variable {other : AccountId → Nat}

theorem Neutral.covers (h : Neutral s s') (hc : Covers s other) : Covers s' other := by
  intro b
  rw [h.depositsLeft, h.ledger]
  exact hc b

theorem Registers.covers (h : Registers s s' a did) (hc : Covers s other) : Covers s' other := by
  intro b
  have hb := hc b
  rw [h.depositsLeft, h.reserved]
  omega

theorem Deregisters.covers (h : Deregisters s s' a did) (hwhole : s.slashed did = 0)
    (hc : Covers s other) : Covers s' other := by
  intro b
  have hb := hc b
  rw [depositsLeft_controller h.registered, hwhole] at hb
  rw [h.depositsLeft, h.reserved]
  by_cases hba : b = a
  · rw [if_pos hba] at hb ⊢
    omega
  · rw [if_neg hba] at hb ⊢
    omega

theorem Slashes.covers (h : Slashes s s' a did)
    (hcov : cfg.depositSlashPerStrike ≤ cfg.registrationDeposit - s.slashed did)
    (hc : Covers s other) : Covers s' other := by
  intro b
  have hb := hc b
  have hslashed := h.slashed_self
  rw [depositsLeft_controller h.registered] at hb
  rw [h.depositsLeft, h.reserved]
  by_cases hba : b = a
  · subst hba
    rw [if_pos rfl] at hb ⊢
    rw [if_pos rfl]
    omega
  · rw [if_neg hba] at hb ⊢
    rw [if_neg hba]
    omega

end Effects

/-! ## Runs of the pallet alone -/

inductive Input (AccountId : Type) where
  | call (origin : Origin AccountId) (c : Call)
  | slashReputation (did : Did) (amount : Nat)
  | slashReputationForGuiltyDelivery (did : Did) (amount : Nat)
  | newBlock (system : System)

def step (s : State cfg) : Input AccountId → State cfg
  | .call origin c => dispatch (c.run origin) s
  | .slashReputation did amount => slashReputation did amount s
  | .slashReputationForGuiltyDelivery did amount => slashReputationForGuiltyDelivery did amount s
  | .newBlock system => { s with system := system }

def genesis (cfg : Config AccountId) (system : System) (ledger : cfg.currency.Ledger) :
    State cfg := ⟨Storage.genesis AccountId, system, ledger⟩

/-- The condition on a step under which it leaves the deposits of siblings alone. It restricts
only deregistrations that pass their guards and verdicts that reach the strike threshold. -/
def DepositSafe (s : State cfg) : Input AccountId → Prop
  | .call origin (.deregisterAgent did) =>
      ∀ p, s.storage.agentProfiles did = some p → origin = .signed p.controller →
        p.status ≠ .revoked → s.slashed did = 0 ∨ s.siblingsLeft p.controller did = 0
  | .slashReputationForGuiltyDelivery did _ =>
      ∀ a, StrikesOut s did a →
        cfg.depositSlashPerStrike ≤ cfg.registrationDeposit - s.slashed did ∨
          s.siblingsLeft a did = 0
  | _ => True

theorem depositSafe_of_not_deregister {s : State cfg} {origin : Origin AccountId} {c : Call}
    (h : ∀ did, c ≠ .deregisterAgent did) : DepositSafe s (.call origin c) := by
  cases c with
  | deregisterAgent did => exact absurd rfl (h did)
  | _ => trivial

theorem depositsLeft_genesis (system : System) (ledger : cfg.currency.Ledger) (a : AccountId) :
    (genesis cfg system ledger).depositsLeft a = 0 := by
  have hzero : ∀ d, (genesis cfg system ledger).depositLeft a d = 0 := fun d => rfl
  rw [State.depositsLeft, Finset.sum_eq_zero (fun d _ => hzero d)]

theorem isolated_genesis (system : System) {ledger : cfg.currency.Ledger}
    (h : ∀ a, cfg.currency.reserved ledger a = 0) : Isolated (genesis cfg system ledger) := by
  refine ⟨fun a => ?_, fun d hd => absurd rfl hd⟩
  rw [depositsLeft_genesis]
  exact h a

/-- A successful call that is not a deregistration keeps deposits isolated, and so does a
failing one; a deregistration does exactly when it is safe. -/
theorem call_isolated_iff {s : State cfg} (hi : Isolated s) (origin : Origin AccountId)
    (c : Call) : Isolated (dispatch (c.run origin) s) ↔ DepositSafe s (.call origin c) := by
  rcases dispatch_cases (c.run origin) s with ⟨s', hok, hd⟩ | ⟨hfail, hd⟩
  · rw [hd]
    rcases call_effect hok with ⟨hc, hn⟩ | ⟨hc, a, did, -, hr⟩ | ⟨did, p, rfl, hp, ho, hst, hde⟩
    · exact ⟨fun _ => depositSafe_of_not_deregister hc, fun _ => hn.isolated hi⟩
    · exact ⟨fun _ => depositSafe_of_not_deregister hc, fun _ => hr.isolated hi⟩
    · rw [hde.isolated_iff hi]
      constructor
      · intro h q hq _ _
        rw [hp, Option.some.injEq] at hq
        subst hq
        exact h
      · intro h
        exact h p hp ho hst
  · rw [hd]
    refine ⟨fun _ => ?_, fun _ => hi⟩
    cases c with
    | deregisterAgent did =>
        intro p hp ho hst
        have : succeeds (deregisterAgent origin did) s = true :=
          succeeds_iff.mpr ⟨_, deregisterAgent_ok.mpr ⟨_, ho, p, hp, rfl, hst, rfl⟩⟩
        rw [Call.run, this] at hfail
        cases hfail
    | _ => trivial

theorem step_isolated_iff {s : State cfg} (hi : Isolated s) (i : Input AccountId) :
    Isolated (step s i) ↔ DepositSafe s i := by
  cases i with
  | call origin c => exact call_isolated_iff hi origin c
  | slashReputation did amount =>
      exact ⟨fun _ => trivial, fun _ => (slashReputation_neutral did amount s).isolated hi⟩
  | slashReputationForGuiltyDelivery did amount =>
      rcases guiltyDelivery_effect did amount s with ⟨a, hout, hsl⟩ | ⟨hno, hn⟩
      · refine (hsl.isolated_iff hi).trans ⟨fun h b hb => ?_, fun h => h a hout⟩
        have : a = b := Option.some.inj (hout.1.symm.trans hb.1)
        subst this
        exact h
      · exact ⟨fun _ a ha => absurd ha (hno a), fun _ => hn.isolated hi⟩
  | newBlock system =>
      have hn : Neutral s (step s (.newBlock system)) := ⟨rfl, rfl, rfl⟩
      exact ⟨fun _ => trivial, fun _ => hn.isolated hi⟩

/-- **Deposits are isolated in every state of a run exactly when its steps are safe.** -/
theorem isolated_iff_depositSafe (system : System) {ledger : cfg.currency.Ledger}
    (h : ∀ a, cfg.currency.reserved ledger a = 0) (run : List (Input AccountId)) :
    (∀ k, Isolated (exec step (genesis cfg system ledger) (run.take k))) ↔
      ∀ p ∈ trace step (genesis cfg system ledger) run, DepositSafe p.1 p.2 :=
  forall_take_iff Isolated (fun _ _ => True) DepositSafe (fun _ i _ hi => step_isolated_iff hi i)
    run _ (isolated_genesis system h) (fun _ _ => trivial)

/-! ## The constants of the runtime -/

/-- One token. -/
def unit : Nat := 1000000000000

/-- The pallet with the constants of the runtime, over the plain ledger and with cryptography
that can be evaluated. -/
def devConfig : Config Nat where
  currency := Balances Nat
  starCooldown := 1200
  registrationDeposit := 100 * unit
  strikeThreshold := 10
  depositSlashPerStrike := 10 * unit
  blake2_256 := tailHash
  encodeAccountId a := encodeU32 a
  VerifyingKey := Bytes
  Signature := Bytes
  newFromSlice := some
  signatureTryFrom := some
  verify _ _ _ := true

def devSystem : System := ⟨1, fun _ => Bytes32.ofNat 0⟩

/-- Every account starts with the same free balance. -/
def devLedger (free : Nat) : Nat → AccountData := fun _ => ⟨free, 0⟩

/-- The registration of the key of one byte. -/
def registerKey (key : UInt8) : Call :=
  .registerAgent ⟨[key], by simp [maxPubkeyLen]⟩ .nil 1 0 .nil .nil

def keyDid (key : UInt8) : Did := didOf devConfig [key]

/-- Account 7 registers two DIDs; `strikes` guilty verdicts are reached on the first one, which
is then deregistered. -/
def siblingRun (strikes : Nat) : List (Input Nat) :=
  [.call (.signed 7) (registerKey 1), .call (.signed 7) (registerKey 2)]
    ++ List.replicate strikes (.slashReputationForGuiltyDelivery (keyDid 1) 5)
    ++ [.call (.signed 7) (.deregisterAgent (keyDid 1))]

def siblingStart : State devConfig := genesis devConfig devSystem (devLedger (1000 * unit))

theorem isolated_siblingRun :
    Isolated (exec step siblingStart ((siblingRun 1).take 4)) := by
  refine (isolated_iff_depositSafe devSystem (fun _ => rfl) (siblingRun 1)).mpr ?_ 4
  intro p hp
  have hall : p = (siblingStart, .call (.signed 7) (registerKey 1)) ∨
      p = (exec step siblingStart ((siblingRun 1).take 1), .call (.signed 7) (registerKey 2)) ∨
      p = (exec step siblingStart ((siblingRun 1).take 2),
        .slashReputationForGuiltyDelivery (keyDid 1) 5) ∨
      p = (exec step siblingStart ((siblingRun 1).take 3),
        .call (.signed 7) (.deregisterAgent (keyDid 1))) := by
    simpa [trace, siblingRun, siblingStart] using hp
  rcases hall with rfl | rfl | rfl | rfl
  · trivial
  · trivial
  · -- one strike is below the threshold
    intro a ha
    exact absurd ha.2 (by decide +kernel)
  · -- nothing was slashed from the deposit that is returned
    intro _ _ _ _
    exact Or.inl (by decide +kernel)

/-- Ten verdicts take 10 units from the deposit of the first DID. Its deregistration returns
100 all the same, so that only 90 are left for the whole deposit of the second one. -/
theorem not_isolated_siblingRun : ¬ Isolated (exec step siblingStart (siblingRun 10)) := by
  intro h
  have hres : devConfig.currency.reserved (exec step siblingStart (siblingRun 10)).ledger 7
      = 90 * unit := by decide +kernel
  have hleft : (exec step siblingStart (siblingRun 10)).depositLeft 7 (keyDid 2) = 100 * unit := by
    decide +kernel
  have hle : (exec step siblingStart (siblingRun 10)).depositLeft 7 (keyDid 2)
      ≤ (exec step siblingStart (siblingRun 10)).depositsLeft 7 := by
    rw [State.depositsLeft_eq _ 7 (keyDid 2)]
    exact Nat.le_add_right _ _
  rw [← h.reserved 7, hres, hleft, unit] at hle
  omega

end AgentRegistry
