import ArthNeura.Escrow.Pallet
import ArthNeura.Frame.Run

set_option autoImplicit false

/-! # The escrow pallet on its own

All escrows of a payer share one anonymous reserve. When nothing else uses the reserves, the
reserve of an account is the total of its locked escrows, and every payout is exact. The pallet is
run here as a component: any sequence of `lock`, `release` and `refund`, by a caller that does not
roll back. `StepEffect` lists what a step can do, and the two properties are derived from it:
the balances are those that the records say (`Exact`), and a record moves along its own life cycle
(`RecordStep`), which ends when it is settled.
-/

namespace Escrow

open Frame

variable {AccountId : Type} [DecidableEq AccountId] {C : ReservableCurrency AccountId}

/-! ## The component as a machine -/

inductive Call (AccountId : Type) where
  | lock (escrowId : EscrowId) (payer payee : AccountId) (amount : Nat)
  | release (escrowId : EscrowId)
  | refund (escrowId : EscrowId)
  deriving DecidableEq

def Call.escrowId : Call AccountId → EscrowId
  | .lock escrowId _ _ _ => escrowId
  | .release escrowId => escrowId
  | .refund escrowId => escrowId

def Call.run : Call AccountId → EscrowM C Unit
  | .lock escrowId payer payee amount => Escrow.lock escrowId payer payee amount
  | .release escrowId => Escrow.release escrowId
  | .refund escrowId => Escrow.refund escrowId

inductive Input (AccountId : Type) where
  | call (c : Call AccountId)
  | newBlock (blockNumber : Nat)
  deriving DecidableEq

/-- The state a call leaves behind, also when it fails. -/
def after (m : EscrowM C Unit) (s : State C) : State C :=
  match m.run s with
  | .ok _ s' => s'
  | .error _ s' => s'

def step (s : State C) : Input AccountId → State C
  | .call c => after c.run s
  | .newBlock blockNumber => { s with blockNumber := blockNumber }

def genesis (blockNumber : Nat) (ledger : C.Ledger) : State C :=
  { storage := ⟨.empty, []⟩, blockNumber := blockNumber, ledger := ledger }

/-! ## What a step does -/

variable {s s' : State C}

/-- No write of the three functions is followed by a statement that can fail. -/
theorem call_error {c : Call AccountId} {e : DispatchError Error C.Error}
    (h : c.run.run s = .error e s') : s' = s := by
  cases c with
  | lock id payer payee amount =>
      simp only [Call.run, lock, putLedger, insertEscrow, depositEvent, run_get_bind,
        run_modify_bind, run_ensure_error, run_okOr_error, run_modify_error, and_false,
        exists_false, or_false] at h
      rcases h with ⟨-, -, rfl⟩ | ⟨-, -, -, rfl⟩ <;> rfl
  | release id =>
      simp only [Call.run, release, insertEscrow, depositEvent, run_get_bind, run_modify_bind,
        run_ensure_error, run_okOr_error, repatriateReserved_error, run_modify_error, and_false,
        exists_false, or_false] at h
      rcases h with ⟨-, -, rfl⟩ | ⟨r, -, ⟨-, -, rfl⟩ | ⟨-, e', -, -, rfl⟩⟩ <;> rfl
  | refund id =>
      simp only [Call.run, refund, putLedger, insertEscrow, depositEvent, run_get_bind,
        run_modify_bind, run_ensure_error, run_okOr_error, run_modify_error, and_false,
        or_false] at h
      rcases h with ⟨-, -, rfl⟩ | ⟨r, -, -, -, rfl⟩ <;> rfl

/-- Everything that a step can do. -/
inductive StepEffect (s : State C) : Input AccountId → State C → Prop
  | failed {c : Call AccountId} (h : succeeds (c.run (C := C)) s = false) :
      StepEffect s (.call c) s
  | locked {id : EscrowId} {payer payee : AccountId} {amount : Nat} {ledger : C.Ledger}
      (hnone : s.storage.escrows id = none)
      (hledger : C.reserve payer amount s.ledger = some ledger) :
      StepEffect s (.call (.lock id payer payee amount))
        { s with
          storage :=
            { escrows := s.storage.escrows.insert id ⟨payer, payee, amount, .locked, s.blockNumber⟩
              events := s.storage.events ++ [.fundsLocked id payer payee amount] }
          ledger := ledger }
  | released {id : EscrowId} {record : EscrowRecord AccountId} {r : C.Ledger × Nat}
      (hrec : s.storage.escrows id = some record) (hst : record.status = .locked)
      (hr : C.repatriateReserved record.payer record.payee record.amount s.ledger = .ok r) :
      StepEffect s (.call (.release id))
        { s with
          storage :=
            { escrows := s.storage.escrows.insert id { record with status := .released }
              events := s.storage.events
                ++ [.fundsReleased id record.payer record.payee record.amount] }
          ledger := r.1 }
  | refunded {id : EscrowId} {record : EscrowRecord AccountId}
      (hrec : s.storage.escrows id = some record) (hst : record.status = .locked) :
      StepEffect s (.call (.refund id))
        { s with
          storage :=
            { escrows := s.storage.escrows.insert id { record with status := .refunded }
              events := s.storage.events ++ [.fundsRefunded id record.payer record.amount] }
          ledger := (C.unreserve record.payer record.amount s.ledger).1 }
  | newBlock (blockNumber : Nat) :
      StepEffect s (.newBlock blockNumber) { s with blockNumber := blockNumber }

theorem call_stepEffect {c : Call AccountId} (h : c.run.run s = .ok () s') :
    StepEffect s (.call c) s' := by
  cases c with
  | lock id payer payee amount =>
      obtain ⟨hnone, ledger, hledger, rfl⟩ := lock_ok.mp h
      exact .locked hnone hledger
  | release id =>
      obtain ⟨record, hrec, hst, r, hr, rfl⟩ := release_ok.mp h
      exact .released hrec hst hr
  | refund id =>
      obtain ⟨record, hrec, hst, rfl⟩ := refund_ok.mp h
      exact .refunded hrec hst

theorem step_stepEffect (s : State C) (i : Input AccountId) : StepEffect s i (step s i) := by
  cases i with
  | newBlock n => exact .newBlock n
  | call c =>
      show StepEffect s (.call c) (after c.run s)
      unfold after
      cases hrun : (c.run (C := C)).run s with
      | ok u t => exact call_stepEffect hrun
      | error e t =>
          have hfails : succeeds (c.run (C := C)) s = false := by
            unfold Frame.succeeds
            rw [hrun]
          rw [show t = s from call_error hrun]
          exact .failed hfails

/-! ## The balances -/

/-- The amount that a released record has moved, counted for the account that is its `party`. -/
def releasedAmount (party : EscrowRecord AccountId → AccountId) (a : AccountId) :
    Option (EscrowRecord AccountId) → Nat
  | some record => if record.status = .released ∧ a = party record then record.amount else 0
  | none => 0

/-- The total of the amounts of the released records of which `a` is the `party`. -/
noncomputable def Storage.released (st : Storage AccountId)
    (party : EscrowRecord AccountId → AccountId) (a : AccountId) : Nat :=
  ∑ id, releasedAmount party a (st.escrows id)

theorem released_insert (st : Storage AccountId) (party : EscrowRecord AccountId → AccountId)
    (id : EscrowId) (record : EscrowRecord AccountId) (events : List (Event AccountId))
    (a : AccountId) :
    Storage.released ⟨st.escrows.insert id record, events⟩ party a
        + releasedAmount party a (st.escrows id)
      = st.released party a + releasedAmount party a (some record) :=
  sum_update (fun _ => releasedAmount party a) st.escrows id (some record)

/-- The balances of an account are those that the records say: its reserve is what it has locked,
and its free balance is the initial one without what it has locked or paid and with what it has
been paid. -/
structure Exact (free₀ : AccountId → Nat) (s : State C) (a : AccountId) : Prop where
  reserved : C.reserved s.ledger a = s.storage.lockedFor a
  free : C.free s.ledger a + (s.storage.lockedFor a + s.storage.released (·.payer) a)
    = free₀ a + s.storage.released (·.payee) a

theorem exact_genesis (blockNumber : Nat) {ledger : C.Ledger}
    (hfresh : ∀ a, C.reserved ledger a = 0) (a : AccountId) :
    Exact (C.free ledger) (genesis blockNumber ledger) a := by
  have hzero : ∀ f : Option (EscrowRecord AccountId) → Nat, f none = 0 →
      ∑ id, f ((genesis blockNumber ledger).storage.escrows id) = 0 :=
    fun f hf => Finset.sum_eq_zero fun _ _ => hf
  have hlocked : (genesis blockNumber ledger).storage.lockedFor a = 0 := hzero _ rfl
  have hreleased : ∀ party, (genesis blockNumber ledger).storage.released party a = 0 :=
    fun party => hzero _ rfl
  constructor
  · rw [hlocked]
    exact hfresh a
  · rw [hlocked, hreleased, hreleased]
    rfl

/-- Writing a record keeps the balances of an account exact if the ledger moves with what the
record says about the account. -/
theorem Exact.write {free₀ : AccountId → Nat} {a : AccountId} (hs : Exact free₀ s a)
    {id : EscrowId} {record : EscrowRecord AccountId} {events : List (Event AccountId)}
    {ledger : C.Ledger}
    (hreserved : C.reserved ledger a + lockedAmount a (s.storage.escrows id)
      = C.reserved s.ledger a + lockedAmount a (some record))
    (hfree : C.free ledger a + (lockedAmount a (some record)
          + releasedAmount (·.payer) a (some record))
          + releasedAmount (·.payee) a (s.storage.escrows id)
      = C.free s.ledger a + (lockedAmount a (s.storage.escrows id)
          + releasedAmount (·.payer) a (s.storage.escrows id))
          + releasedAmount (·.payee) a (some record)) :
    Exact free₀
      { s with storage := ⟨s.storage.escrows.insert id record, events⟩, ledger := ledger } a := by
  have hlocked := lockedFor_insert s.storage id record events a
  have hpaid := released_insert s.storage (·.payer) id record events a
  have hgot := released_insert s.storage (·.payee) id record events a
  have hr := hs.reserved
  have hf := hs.free
  constructor
  · dsimp only
    omega
  · dsimp only
    omega

/-- The reserve is the total over all locked records of the payer, so a settlement finds the
amount of its record there. -/
theorem Exact.amount_le {free₀ : AccountId → Nat} {id : EscrowId}
    {record : EscrowRecord AccountId} (hs : Exact free₀ s record.payer)
    (hrec : s.storage.escrows id = some record) (hst : record.status = .locked) :
    record.amount ≤ C.reserved s.ledger record.payer := by
  rw [hs.reserved]
  exact amount_le_lockedFor hrec hst

/-- A settlement takes the amount of the record out of the reserve of its payer. -/
theorem Exact.reserved_settle {free₀ : AccountId → Nat} {id : EscrowId} {a : AccountId}
    {record : EscrowRecord AccountId} {status : EscrowStatus} {ledger : C.Ledger}
    (hs : Exact free₀ s record.payer) (hrec : s.storage.escrows id = some record)
    (hst : record.status = .locked) (hstatus : status ≠ .locked)
    (hreserved : C.reserved ledger a =
      C.reserved s.ledger a - if a = record.payer then record.amount else 0) :
    C.reserved ledger a + lockedAmount a (s.storage.escrows id)
      = C.reserved s.ledger a + lockedAmount a (some { record with status := status }) := by
  have hle := hs.amount_le hrec hst
  simp only [hrec, hst, hstatus, hreserved, lockedAmount, true_and, false_and, if_false]
  split_ifs with ha
  · subst ha
    omega
  · omega

/-- **One step keeps the balances exact**, also where payer and payee are the same account. -/
theorem StepEffect.exact {free₀ : AccountId → Nat} {i : Input AccountId}
    (h : StepEffect s i s') (hs : ∀ a, Exact free₀ s a) (a : AccountId) : Exact free₀ s' a := by
  cases h with
  | failed _ => exact hs a
  | newBlock n => exact ⟨(hs a).reserved, (hs a).free⟩
  | locked hnone hledger =>
      -- `reserve` has checked the free balance, so its subtraction is exact
      have hle := C.reserve_le hledger
      have hreserved := ReservableCurrency.reserved_reserve hledger a
      have hfree := ReservableCurrency.free_reserve hledger a
      refine (hs a).write ?_ ?_
      · simpa [hnone, lockedAmount] using hreserved
      · simp only [hnone, hfree, lockedAmount, releasedAmount, true_and, reduceCtorEq, false_and,
          if_false]
        split_ifs with ha
        · subst ha
          omega
        · omega
  | released hrec hst hr =>
      have hle := (hs _).amount_le hrec hst
      have hreserved := ReservableCurrency.reserved_repatriateReserved hr a
      have hfree := ReservableCurrency.free_repatriateReserved hr a
      rw [Nat.min_eq_right hle] at hfree
      refine (hs a).write ?_ ?_
      · exact (hs _).reserved_settle hrec hst (by decide) hreserved
      · -- `a` may be payer, payee, both or neither; the record then counts on the same sides
        simp only [hrec, hst, hfree, lockedAmount, releasedAmount, true_and, reduceCtorEq,
          false_and, if_false]
        omega
  | @refunded id record hrec hst =>
      have hle := (hs _).amount_le hrec hst
      have hreserved := ReservableCurrency.reserved_unreserve record.payer record.amount s.ledger a
      have hfree := ReservableCurrency.free_unreserve record.payer record.amount s.ledger a
      rw [Nat.min_eq_right hle] at hfree
      refine (hs a).write ?_ ?_
      · exact (hs _).reserved_settle hrec hst (by decide) hreserved
      · simp only [hrec, hst, hfree, lockedAmount, releasedAmount, true_and, reduceCtorEq,
          false_and, if_false]
        omega

theorem exact_exec (blockNumber : Nat) {ledger : C.Ledger} (hfresh : ∀ a, C.reserved ledger a = 0)
    (run : List (Input AccountId)) (a : AccountId) :
    Exact (C.free ledger) (exec step (genesis blockNumber ledger) run) a :=
  exec_invariant (fun s : State C => ∀ a, Exact (C.free ledger) s a) (fun _ _ => True)
    (fun s i hs _ => (step_stepEffect s i).exact hs) run _ (exact_genesis blockNumber hfresh)
    (fun _ _ => trivial) a

/-! ## The records -/

/-- What an input may do to the record under an identifier: nothing, or one move of its life
cycle, if the input names it. -/
inductive RecordStep (id : EscrowId) : Input AccountId →
    Option (EscrowRecord AccountId) → Option (EscrowRecord AccountId) → Prop
  | same (i : Input AccountId) (o : Option (EscrowRecord AccountId)) : RecordStep id i o o
  | lock (payer payee : AccountId) (amount lockedAt : Nat) :
      RecordStep id (.call (.lock id payer payee amount)) none
        (some ⟨payer, payee, amount, .locked, lockedAt⟩)
  | release (record : EscrowRecord AccountId) (h : record.status = .locked) :
      RecordStep id (.call (.release id)) (some record) (some { record with status := .released })
  | refund (record : EscrowRecord AccountId) (h : record.status = .locked) :
      RecordStep id (.call (.refund id)) (some record) (some { record with status := .refunded })

theorem StepEffect.recordStep {i : Input AccountId} (h : StepEffect s i s') (id : EscrowId) :
    RecordStep id i (s.storage.escrows id) (s'.storage.escrows id) := by
  have hwrite := fun {j : EscrowId} {o : Option (EscrowRecord AccountId)}
    (hmove : RecordStep j i (s.storage.escrows j) o) =>
      update_rel (R := fun j => RecordStep j i) (fun _ => .same i) hmove id
  cases h with
  | failed _ => exact .same _ _
  | newBlock n => exact .same _ _
  | @locked j payer payee amount ledger hnone hledger =>
      refine hwrite ?_
      rw [hnone]
      exact .lock payer payee amount s.blockNumber
  | @released j record r hrec hst hr =>
      refine hwrite ?_
      rw [hrec]
      exact .release record hst
  | @refunded j record hrec hst =>
      refine hwrite ?_
      rw [hrec]
      exact .refund record hst

/-- The record under an identifier is settled: released or refunded. -/
def Settled (id : EscrowId) (record : EscrowRecord AccountId) (s : State C) : Prop :=
  s.storage.escrows id = some record ∧ record.status ≠ .locked

omit [DecidableEq AccountId] in
theorem RecordStep.settled {id : EscrowId} {i : Input AccountId} {record : EscrowRecord AccountId}
    {o : Option (EscrowRecord AccountId)} (h : RecordStep id i (some record) o)
    (hst : record.status ≠ .locked) : o = some record := by
  cases h with
  | same _ _ => rfl
  | release _ hl => exact absurd hl hst
  | refund _ hl => exact absurd hl hst

theorem Settled.exec {id : EscrowId} {record : EscrowRecord AccountId} (h : Settled id record s)
    (run : List (Input AccountId)) : Settled id record (exec step s run) := by
  refine exec_invariant (Settled id record) (fun _ _ => True) (fun s i hs _ => ?_) run s h
    fun _ _ => trivial
  have hmove := (step_stepEffect s i).recordStep id
  rw [hs.1] at hmove
  exact ⟨hmove.settled hs.2, hs.2⟩

/-- No call on a settled record succeeds. -/
theorem Settled.fails {id : EscrowId} {record : EscrowRecord AccountId} (h : Settled id record s)
    {c : Call AccountId} (hc : c.escrowId = id) : succeeds (c.run (C := C)) s = false := by
  obtain ⟨hrec, hst⟩ := h
  rw [← Bool.not_eq_true, succeeds_iff]
  rintro ⟨t, hrun⟩
  subst hc
  cases c with
  | lock id payer payee amount =>
      obtain ⟨hnone, -⟩ := lock_ok.mp hrun
      rw [show s.storage.escrows id = some record from hrec] at hnone
      cases hnone
  | release id =>
      obtain ⟨r, hr, hlocked, -⟩ := release_ok.mp hrun
      rw [show s.storage.escrows id = some record from hrec] at hr
      cases hr
      exact hst hlocked
  | refund id =>
      obtain ⟨r, hr, hlocked, -⟩ := refund_ok.mp hrun
      rw [show s.storage.escrows id = some record from hrec] at hr
      cases hr
      exact hst hlocked

/-- **The pallet is exact, and each escrow is independent of the others.** Start from a ledger
without reserves and run any sequence of calls. In the state reached, the balances of every
account are those that the records say; each step has moved the record it names along its life
cycle and no other; a settled record stays as it is for ever, and no call on it succeeds; and a
call that fails changes nothing. -/
theorem ledger_exact (blockNumber : Nat) (ledger : C.Ledger)
    (hfresh : ∀ a, C.reserved ledger a = 0) (run : List (Input AccountId)) :
    (∀ a, Exact (C.free ledger) (exec step (genesis blockNumber ledger) run) a) ∧
    (∀ p ∈ trace step (genesis blockNumber ledger) run, ∀ id,
      RecordStep id p.2 (p.1.storage.escrows id) ((step p.1 p.2).storage.escrows id)) ∧
    (∀ id record, Settled id record (exec step (genesis blockNumber ledger) run) →
      ∀ later, Settled id record (exec step (genesis blockNumber ledger) (run ++ later)) ∧
        ∀ c : Call AccountId, c.escrowId = id →
          succeeds (c.run (C := C)) (exec step (genesis blockNumber ledger) (run ++ later))
            = false) ∧
    (∀ (c : Call AccountId) e t,
      c.run.run (exec step (genesis blockNumber ledger) run) = .error e t →
        t = exec step (genesis blockNumber ledger) run) := by
  refine ⟨exact_exec blockNumber hfresh run, ?_, ?_, ?_⟩
  · intro p _ id
    exact (step_stepEffect p.1 p.2).recordStep id
  · intro id record hsettled later
    have hlater := hsettled.exec later
    rw [← exec_append] at hlater
    exact ⟨hlater, fun c hc => hlater.fails hc⟩
  · intro c e t herror
    exact call_error herror

/-- Account 1 locks 60 for account 2 under identifier 1 and 40 for itself under identifier 2; a
second lock of identifier 1 fails; the first escrow is released, the second one refunded. -/
def twoEscrowsRun : List (Input Nat) :=
  [.call (.lock (Bytes32.ofNat 1) 1 2 60),
    .call (.lock (Bytes32.ofNat 2) 1 1 40),
    .call (.lock (Bytes32.ofNat 1) 2 1 5),
    .newBlock 2,
    .call (.release (Bytes32.ofNat 1)),
    .call (.refund (Bytes32.ofNat 2))]

/-- One token each, far more than the locks and the existential deposit. -/
def oneToken : (Balances Nat).Ledger := fun _ => ⟨1000000000000, 0⟩

theorem ledger_exact_twoEscrowsRun :
    Settled (Bytes32.ofNat 1) ⟨1, 2, 60, .released, 1⟩
        (exec step (genesis (C := Balances Nat) 1 oneToken) twoEscrowsRun) ∧
      ∀ later, Settled (Bytes32.ofNat 1) ⟨1, 2, 60, .released, 1⟩
        (exec step (genesis (C := Balances Nat) 1 oneToken) (twoEscrowsRun ++ later)) := by
  have hsettled : Settled (Bytes32.ofNat 1) ⟨1, 2, 60, .released, 1⟩
      (exec step (genesis (C := Balances Nat) 1 oneToken) twoEscrowsRun) :=
    ⟨by decide +kernel, by decide⟩
  have hexact := ledger_exact (C := Balances Nat) 1 oneToken (fun _ => rfl) twoEscrowsRun
  exact ⟨hsettled, fun later => (hexact.2.2.1 _ _ hsettled later).1⟩

end Escrow
