import ArthNeura.Frame.Dispatch
import ArthNeura.Frame.Storage
import ArthNeura.Frame.Currency

set_option autoImplicit false

/-! # `pallet-escrow`

Locking, releasing and refunding funds under an identifier. The three entry points are
internal functions and not extrinsics: they have no origin, and their caller is trusted.
-/

namespace Escrow

open Frame

abbrev EscrowId := Bytes32

inductive EscrowStatus where
  | locked
  | released
  | refunded
  deriving DecidableEq

structure EscrowRecord (AccountId : Type) where
  payer : AccountId
  payee : AccountId
  amount : Nat
  status : EscrowStatus
  lockedAt : Nat
  deriving DecidableEq

inductive Event (AccountId : Type) where
  | fundsLocked (escrowId : EscrowId) (payer payee : AccountId) (amount : Nat)
  | fundsReleased (escrowId : EscrowId) (payer payee : AccountId) (amount : Nat)
  | fundsRefunded (escrowId : EscrowId) (payer : AccountId) (amount : Nat)
  deriving DecidableEq

inductive Error where
  | escrowAlreadyExists
  | escrowNotFound
  | escrowNotLocked
  | insufficientBalanceForEscrow
  deriving DecidableEq

/-- The storage of the pallet, with every event it has deposited so far. -/
structure Storage (AccountId : Type) where
  escrows : StorageMap EscrowId (EscrowRecord AccountId)
  events : List (Event AccountId)

variable {AccountId : Type} [DecidableEq AccountId] {C : ReservableCurrency AccountId}

/-- What the pallet sees of the chain: its storage, the block number and the currency. -/
structure State (C : ReservableCurrency AccountId) where
  storage : Storage AccountId
  blockNumber : Nat
  ledger : C.Ledger

abbrev EscrowM (C : ReservableCurrency AccountId) :=
  EStateM (DispatchError Error C.Error) (State C)

def putLedger (ledger : C.Ledger) : EscrowM C Unit := modify fun s => { s with ledger := ledger }

def insertEscrow (escrowId : EscrowId) (record : EscrowRecord AccountId) : EscrowM C Unit :=
  modify fun s =>
    { s with storage := { s.storage with escrows := s.storage.escrows.insert escrowId record } }

def depositEvent (e : Event AccountId) : EscrowM C Unit :=
  modify fun s => { s with storage := { s.storage with events := s.storage.events ++ [e] } }

def lock (escrowId : EscrowId) (payer payee : AccountId) (amount : Nat) : EscrowM C Unit := do
  ensure (¬ (← get).storage.escrows.containsKey escrowId) (.module .escrowAlreadyExists)
  let ledger ← okOr (C.reserve payer amount (← get).ledger)
    (.module .insufficientBalanceForEscrow)
  putLedger ledger
  let currentBlock := (← get).blockNumber
  insertEscrow escrowId
    { payer := payer, payee := payee, amount := amount, status := .locked,
      lockedAt := currentBlock }
  depositEvent (.fundsLocked escrowId payer payee amount)

/-- The currency's own error is passed on. -/
def repatriateReserved (p q : AccountId) (amount : Nat) : EscrowM C Unit := do
  match C.repatriateReserved p q amount (← get).ledger with
  | .ok r => putLedger r.1
  | .error e => throw (.callee e)

def release (escrowId : EscrowId) : EscrowM C Unit := do
  let record ← okOr ((← get).storage.escrows escrowId) (.module .escrowNotFound)
  ensure (record.status = .locked) (.module .escrowNotLocked)
  repatriateReserved record.payer record.payee record.amount
  insertEscrow escrowId { record with status := .released }
  depositEvent (.fundsReleased escrowId record.payer record.payee record.amount)

def refund (escrowId : EscrowId) : EscrowM C Unit := do
  let record ← okOr ((← get).storage.escrows escrowId) (.module .escrowNotFound)
  ensure (record.status = .locked) (.module .escrowNotLocked)
  -- the amount that could not be unreserved is dropped
  putLedger (C.unreserve record.payer record.amount (← get).ledger).1
  insertEscrow escrowId { record with status := .refunded }
  depositEvent (.fundsRefunded escrowId record.payer record.amount)

/-! ## What the three functions do -/

variable {id : EscrowId} {s s' : State C} {u : Unit}

theorem lock_ok {payer payee : AccountId} {amount : Nat} :
    (lock id payer payee amount).run s = .ok u s' ↔
      s.storage.escrows id = none ∧
      ∃ ledger, C.reserve payer amount s.ledger = some ledger ∧
        s' = { s with
          storage :=
            { escrows := s.storage.escrows.insert id ⟨payer, payee, amount, .locked, s.blockNumber⟩
              events := s.storage.events ++ [.fundsLocked id payer payee amount] }
          ledger := ledger } := by
  simp only [lock, putLedger, insertEscrow, depositEvent, run_get_bind, run_modify_bind,
    run_ensure_ok, run_okOr_ok, run_modify_ok]
  simp [StorageMap.containsKey_eq_false]

theorem repatriateReserved_ok {p q : AccountId} {amount : Nat} {f : Unit → EscrowM C Unit} :
    (repatriateReserved p q amount >>= f).run s = .ok u s' ↔
      ∃ r, C.repatriateReserved p q amount s.ledger = .ok r ∧
        (f ()).run { s with ledger := r.1 } = .ok u s' := by
  simp only [repatriateReserved, bind_assoc, run_get_bind]
  cases hr : C.repatriateReserved p q amount s.ledger with
  | ok r =>
      constructor
      · intro h
        exact ⟨r, rfl, h⟩
      · rintro ⟨_, ⟨⟩, h⟩
        exact h
  | error e => exact ⟨nofun, nofun⟩

theorem release_ok :
    (release id).run s = .ok u s' ↔
      ∃ record, s.storage.escrows id = some record ∧ record.status = .locked ∧
      ∃ r, C.repatriateReserved record.payer record.payee record.amount s.ledger = .ok r ∧
        s' = { s with
          storage :=
            { escrows := s.storage.escrows.insert id { record with status := .released }
              events := s.storage.events
                ++ [.fundsReleased id record.payer record.payee record.amount] }
          ledger := r.1 } := by
  simp only [release, insertEscrow, depositEvent, run_get_bind, run_modify_bind, run_ensure_ok,
    run_okOr_ok, run_modify_ok, repatriateReserved_ok]

theorem refund_ok :
    (refund id).run s = .ok u s' ↔
      ∃ record, s.storage.escrows id = some record ∧ record.status = .locked ∧
        s' = { s with
          storage :=
            { escrows := s.storage.escrows.insert id { record with status := .refunded }
              events := s.storage.events ++ [.fundsRefunded id record.payer record.amount] }
          ledger := (C.unreserve record.payer record.amount s.ledger).1 } := by
  simp only [refund, putLedger, insertEscrow, depositEvent, run_get_bind, run_modify_bind,
    run_ensure_ok, run_okOr_ok, run_modify_ok]

/-! ## How they fail -/

variable {e : DispatchError Error C.Error}

theorem lock_error {payer payee : AccountId} {amount : Nat}
    (h : (lock id payer payee amount).run s = .error e s') :
    (e = .module .escrowAlreadyExists ∧ s.storage.escrows id ≠ none) ∨
      e = .module .insufficientBalanceForEscrow := by
  simp only [lock, putLedger, insertEscrow, depositEvent, run_get_bind, run_modify_bind,
    run_ensure_error, run_okOr_error, run_modify_error, and_false, exists_false, or_false] at h
  rcases h with ⟨hkey, rfl, -⟩ | ⟨-, -, rfl, -⟩
  · refine Or.inl ⟨rfl, fun hnone => hkey ?_⟩
    rw [StorageMap.containsKey_eq_false.mpr hnone]
    decide
  · exact Or.inr rfl

theorem repatriateReserved_error {p q : AccountId} {amount : Nat} {f : Unit → EscrowM C Unit} :
    (repatriateReserved p q amount >>= f).run s = .error e s' ↔
      (∃ e', C.repatriateReserved p q amount s.ledger = .error e' ∧ e = .callee e' ∧ s' = s) ∨
        ∃ r, C.repatriateReserved p q amount s.ledger = .ok r ∧
          (f ()).run { s with ledger := r.1 } = .error e s' := by
  simp only [repatriateReserved, bind_assoc, run_get_bind]
  cases hr : C.repatriateReserved p q amount s.ledger with
  | ok r =>
      constructor
      · intro h
        exact Or.inr ⟨r, rfl, h⟩
      · rintro (⟨_, ⟨⟩, _⟩ | ⟨_, ⟨⟩, h⟩)
        exact h
  | error e' =>
      constructor
      · rintro ⟨⟩
        exact Or.inl ⟨e', rfl, rfl, rfl⟩
      · rintro (⟨_, ⟨⟩, rfl, rfl⟩ | ⟨_, ⟨⟩, _⟩)
        rfl

/-- A failing release that finds a locked record has failed in the currency. -/
theorem release_error {record : EscrowRecord AccountId}
    (hrec : s.storage.escrows id = some record) (hst : record.status = .locked)
    (h : (release id).run s = .error e s') : ∃ e', e = .callee e' := by
  simp only [release, insertEscrow, depositEvent, run_get_bind, run_modify_bind,
    run_ensure_error, run_okOr_error, repatriateReserved_error, run_modify_error, and_false,
    exists_false, or_false] at h
  rcases h with ⟨hnone, -⟩ | ⟨r, hr, ⟨hne, -⟩ | ⟨-, e', -, rfl, -⟩⟩
  · rw [hrec] at hnone
    cases hnone
  · rw [hrec, Option.some.injEq] at hr
    subst hr
    exact absurd hst hne
  · exact ⟨e', rfl⟩

/-! ## What is locked for an account -/

/-- The amount that a record locks for the payer `a`. -/
def lockedAmount (a : AccountId) : Option (EscrowRecord AccountId) → Nat
  | some record => if record.status = .locked ∧ a = record.payer then record.amount else 0
  | none => 0

/-- The total of the amounts of the locked records with payer `a`. -/
noncomputable def Storage.lockedFor (st : Storage AccountId) (a : AccountId) : Nat :=
  ∑ id, lockedAmount a (st.escrows id)

/-- Writing a record changes the total by the new amount minus the old one. -/
theorem lockedFor_insert (st : Storage AccountId) (id : EscrowId)
    (record : EscrowRecord AccountId) (events : List (Event AccountId)) (a : AccountId) :
    Storage.lockedFor ⟨st.escrows.insert id record, events⟩ a + lockedAmount a (st.escrows id)
      = st.lockedFor a + lockedAmount a (some record) :=
  sum_update (fun _ => lockedAmount a) st.escrows id (some record)

theorem lockedAmount_settled {record : EscrowRecord AccountId} (h : record.status ≠ .locked)
    (a : AccountId) : lockedAmount a (some record) = 0 := if_neg fun hl => h hl.1

theorem lockedAmount_locked {record : EscrowRecord AccountId} (h : record.status = .locked)
    (a : AccountId) :
    lockedAmount a (some record) = if a = record.payer then record.amount else 0 := by
  simp [lockedAmount, h]

/-- A locked record is part of the total. -/
theorem amount_le_lockedFor {st : Storage AccountId} {record : EscrowRecord AccountId}
    (hrec : st.escrows id = some record) (h : record.status = .locked) :
    record.amount ≤ st.lockedFor record.payer := by
  have hsum := Finset.add_sum_erase Finset.univ
    (fun id => lockedAmount record.payer (st.escrows id)) (Finset.mem_univ id)
  rw [Storage.lockedFor, ← hsum, hrec, lockedAmount_locked h, if_pos rfl]
  exact Nat.le_add_right _ _

end Escrow
