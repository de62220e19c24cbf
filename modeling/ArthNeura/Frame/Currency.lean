import Mathlib.Algebra.BigOperators.Group.Finset.Piecewise
import Mathlib.Algebra.Order.Group.Nat
import Mathlib.Algebra.Order.Group.Unbundled.Basic
import Mathlib.Logic.Function.Basic
import Mathlib.Tactic.SplitIfs

set_option autoImplicit false

/-! # Reservable currencies

The currency is not part of the pallets: they know it through the trait
`ReservableCurrency`, and so does the development. An instance consists of a type of ledgers,
the free and the reserved balance of every account, the four operations on reserves, and the
documented behaviour of these operations as laws. `reserve` is all or nothing and may fail for
reasons of its own (locks, existential deposit); `unreserve`, `slash_reserved` and
`repatriate_reserved` act on what there is and report the rest. Dust is left out.

`Balances` is the plain ledger of free and reserved balances, an instance of the laws.
-/

namespace Frame

structure ReservableCurrency (AccountId : Type) [DecidableEq AccountId] where
  Ledger : Type
  Error : Type
  free : Ledger → AccountId → Nat
  reserved : Ledger → AccountId → Nat
  /-- Move an amount from free to reserved. -/
  reserve : AccountId → Nat → Ledger → Option Ledger
  /-- Move an amount from reserved to free; also returns what could not be moved. -/
  unreserve : AccountId → Nat → Ledger → Ledger × Nat
  /-- Burn an amount of the reserve; also returns what could not be burned. -/
  slashReserved : AccountId → Nat → Ledger → Ledger × Nat
  /-- Move an amount from the reserve of the first account to the free balance of the second;
  also returns what could not be moved. -/
  repatriateReserved : AccountId → AccountId → Nat → Ledger → Except Error (Ledger × Nat)
  reserve_le : ∀ {a v l l'}, reserve a v l = some l' → v ≤ free l a
  reserve_free : ∀ {a v l l'}, reserve a v l = some l' →
    free l' = Function.update (free l) a (free l a - v)
  reserve_reserved : ∀ {a v l l'}, reserve a v l = some l' →
    reserved l' = Function.update (reserved l) a (reserved l a + v)
  unreserve_free : ∀ a v l, free (unreserve a v l).1 =
    Function.update (free l) a (free l a + min (reserved l a) v)
  unreserve_reserved : ∀ a v l, reserved (unreserve a v l).1 =
    Function.update (reserved l) a (reserved l a - v)
  unreserve_rest : ∀ a v l, (unreserve a v l).2 = v - reserved l a
  slashReserved_free : ∀ a v l, free (slashReserved a v l).1 = free l
  slashReserved_reserved : ∀ a v l, reserved (slashReserved a v l).1 =
    Function.update (reserved l) a (reserved l a - v)
  slashReserved_rest : ∀ a v l, (slashReserved a v l).2 = v - reserved l a
  repatriateReserved_free : ∀ {p q v l r}, repatriateReserved p q v l = .ok r →
    free r.1 = Function.update (free l) q (free l q + min (reserved l p) v)
  repatriateReserved_reserved : ∀ {p q v l r}, repatriateReserved p q v l = .ok r →
    reserved r.1 = Function.update (reserved l) p (reserved l p - v)
  repatriateReserved_rest : ∀ {p q v l r}, repatriateReserved p q v l = .ok r →
    r.2 = v - reserved l p

namespace ReservableCurrency

variable {AccountId : Type} [DecidableEq AccountId] (C : ReservableCurrency AccountId)

/-- Everything an account owns. -/
def total (l : C.Ledger) (a : AccountId) : Nat := C.free l a + C.reserved l a

variable {C}

/-! The laws account by account. -/

theorem update_add (f : AccountId → Nat) (a : AccountId) (v : Nat) (b : AccountId) :
    Function.update f a (f a + v) b = f b + if b = a then v else 0 := by
  by_cases hb : b = a
  · subst hb
    rw [Function.update_self, if_pos rfl]
  · rw [Function.update_of_ne hb, if_neg hb, Nat.add_zero]

theorem update_sub (f : AccountId → Nat) (a : AccountId) (v : Nat) (b : AccountId) :
    Function.update f a (f a - v) b = f b - if b = a then v else 0 := by
  by_cases hb : b = a
  · subst hb
    rw [Function.update_self, if_pos rfl]
  · rw [Function.update_of_ne hb, if_neg hb, Nat.sub_zero]

theorem free_reserve {a : AccountId} {v : Nat} {l l' : C.Ledger} (h : C.reserve a v l = some l')
    (b : AccountId) : C.free l' b = C.free l b - if b = a then v else 0 := by
  rw [C.reserve_free h, update_sub]

theorem reserved_reserve {a : AccountId} {v : Nat} {l l' : C.Ledger}
    (h : C.reserve a v l = some l') (b : AccountId) :
    C.reserved l' b = C.reserved l b + if b = a then v else 0 := by
  rw [C.reserve_reserved h, update_add]

theorem free_unreserve (a : AccountId) (v : Nat) (l : C.Ledger) (b : AccountId) :
    C.free (C.unreserve a v l).1 b
      = C.free l b + if b = a then min (C.reserved l a) v else 0 := by
  rw [C.unreserve_free, update_add]

theorem reserved_unreserve (a : AccountId) (v : Nat) (l : C.Ledger) (b : AccountId) :
    C.reserved (C.unreserve a v l).1 b = C.reserved l b - if b = a then v else 0 := by
  rw [C.unreserve_reserved, update_sub]

theorem reserved_slashReserved (a : AccountId) (v : Nat) (l : C.Ledger) (b : AccountId) :
    C.reserved (C.slashReserved a v l).1 b = C.reserved l b - if b = a then v else 0 := by
  rw [C.slashReserved_reserved, update_sub]

theorem free_repatriateReserved {p q : AccountId} {v : Nat} {l : C.Ledger} {r : C.Ledger × Nat}
    (h : C.repatriateReserved p q v l = .ok r) (b : AccountId) :
    C.free r.1 b = C.free l b + if b = q then min (C.reserved l p) v else 0 := by
  rw [C.repatriateReserved_free h, update_add]

theorem reserved_repatriateReserved {p q : AccountId} {v : Nat} {l : C.Ledger}
    {r : C.Ledger × Nat} (h : C.repatriateReserved p q v l = .ok r) (b : AccountId) :
    C.reserved r.1 b = C.reserved l b - if b = p then v else 0 := by
  rw [C.repatriateReserved_reserved h, update_sub]

/-! What an account owns in total. -/

theorem total_reserve {a : AccountId} {v : Nat} {l l' : C.Ledger}
    (h : C.reserve a v l = some l') (b : AccountId) : C.total l' b = C.total l b := by
  have hle := C.reserve_le h
  rw [total, total, free_reserve h, reserved_reserve h]
  by_cases hb : b = a
  · subst hb
    rw [if_pos rfl]
    omega
  · rw [if_neg hb]
    omega

theorem total_unreserve (a : AccountId) (v : Nat) (l : C.Ledger) (b : AccountId) :
    C.total (C.unreserve a v l).1 b = C.total l b := by
  rw [total, total, free_unreserve, reserved_unreserve]
  by_cases hb : b = a
  · subst hb
    rw [if_pos rfl, if_pos rfl]
    omega
  · rw [if_neg hb, if_neg hb]
    omega

/-- A slash takes at most the amount asked for, and only from the slashed account. -/
theorem total_slashReserved (a : AccountId) (v : Nat) (l : C.Ledger) (b : AccountId) :
    C.total (C.slashReserved a v l).1 b
      = C.total l b - (if b = a then min (C.reserved l a) v else 0) := by
  rw [total, total, C.slashReserved_free, reserved_slashReserved]
  by_cases hb : b = a
  · subst hb
    rw [if_pos rfl, if_pos rfl]
    omega
  · rw [if_neg hb, if_neg hb]
    omega

/-- A repatriation takes only from the first account. -/
theorem total_repatriateReserved_le {p q : AccountId} {v : Nat} {l : C.Ledger}
    {r : C.Ledger × Nat} (h : C.repatriateReserved p q v l = .ok r) {b : AccountId} :
    C.total l b ≤ C.total r.1 b + (if b = p then v else 0) := by
  rw [total, total, free_repatriateReserved h, reserved_repatriateReserved h]
  omega

/-! What all accounts own together. -/

section

variable [Fintype AccountId]

/-- The sum of all free and reserved balances. -/
def supply (C : ReservableCurrency AccountId) (l : C.Ledger) : Nat := ∑ a, C.total l a

theorem supply_reserve {a : AccountId} {v : Nat} {l l' : C.Ledger}
    (h : C.reserve a v l = some l') : C.supply l' = C.supply l :=
  Finset.sum_congr rfl fun b _ => total_reserve h b

theorem supply_unreserve (a : AccountId) (v : Nat) (l : C.Ledger) :
    C.supply (C.unreserve a v l).1 = C.supply l :=
  Finset.sum_congr rfl fun b _ => total_unreserve a v l b

/-- A slash destroys what it takes. -/
theorem supply_slashReserved (a : AccountId) (v : Nat) (l : C.Ledger) :
    C.supply (C.slashReserved a v l).1 + min (C.reserved l a) v = C.supply l := by
  have hpoint : ∀ b, C.total (C.slashReserved a v l).1 b
      + (if b = a then min (C.reserved l a) v else 0) = C.total l b := by
    intro b
    rw [total_slashReserved]
    by_cases hb : b = a
    · subst hb
      rw [if_pos rfl, total]
      omega
    · rw [if_neg hb]
      rfl
  calc C.supply (C.slashReserved a v l).1 + min (C.reserved l a) v
      = ∑ b, (C.total (C.slashReserved a v l).1 b
          + if b = a then min (C.reserved l a) v else 0) := by
        rw [Finset.sum_add_distrib, Finset.sum_ite_eq' Finset.univ a, if_pos (Finset.mem_univ a)]
        rfl
    _ = C.supply l := Finset.sum_congr rfl fun b _ => hpoint b

/-- A repatriation moves what there is from one account to the other, which may be the same. -/
theorem supply_repatriateReserved {p q : AccountId} {v : Nat} {l : C.Ledger}
    {r : C.Ledger × Nat} (h : C.repatriateReserved p q v l = .ok r) :
    C.supply r.1 = C.supply l := by
  have hpoint : ∀ b, C.total r.1 b + (if b = p then min (C.reserved l p) v else 0)
      = C.total l b + (if b = q then min (C.reserved l p) v else 0) := by
    intro b
    rw [total, total, free_repatriateReserved h, reserved_repatriateReserved h]
    by_cases hb : b = p
    · subst hb
      rw [if_pos rfl, if_pos rfl]
      omega
    · rw [if_neg hb, if_neg hb]
      omega
  have hsum : ∑ b, (C.total r.1 b + if b = p then min (C.reserved l p) v else 0)
      = ∑ b, (C.total l b + if b = q then min (C.reserved l p) v else 0) :=
    Finset.sum_congr rfl fun b _ => hpoint b
  rw [Finset.sum_add_distrib, Finset.sum_add_distrib, Finset.sum_ite_eq' Finset.univ p,
    Finset.sum_ite_eq' Finset.univ q, if_pos (Finset.mem_univ p),
    if_pos (Finset.mem_univ q)] at hsum
  exact Nat.add_right_cancel hsum

end

end ReservableCurrency

/-! ## The plain ledger -/

/-- An account of the plain ledger. -/
structure AccountData where
  free : Nat
  reserved : Nat
  deriving DecidableEq

inductive BalancesError where
  | deadAccount
  deriving DecidableEq

/-- The plain ledger. `reserve` needs the free balance; a repatriation needs an existing
beneficiary, unless nothing is to be moved. -/
def Balances (AccountId : Type) [DecidableEq AccountId] : ReservableCurrency AccountId where
  Ledger := AccountId → AccountData
  Error := BalancesError
  free l a := (l a).free
  reserved l a := (l a).reserved
  reserve a v l :=
    if v ≤ (l a).free then
      some (Function.update l a ⟨(l a).free - v, (l a).reserved + v⟩)
    else none
  unreserve a v l :=
    (Function.update l a ⟨(l a).free + min (l a).reserved v, (l a).reserved - v⟩,
      v - (l a).reserved)
  slashReserved a v l :=
    (Function.update l a ⟨(l a).free, (l a).reserved - v⟩, v - (l a).reserved)
  repatriateReserved p q v l :=
    let m := min (l p).reserved v
    if v ≠ 0 ∧ p ≠ q ∧ (l q).free + (l q).reserved = 0 then .error .deadAccount
    else
      let taken := Function.update l p ⟨(l p).free, (l p).reserved - v⟩
      .ok (Function.update taken q ⟨(taken q).free + m, (taken q).reserved⟩,
        v - (l p).reserved)
  reserve_le h := by
    split_ifs at h with hv
    exact hv
  reserve_free h := by
    split_ifs at h with hv
    cases h
    funext b
    simp only [Function.update_apply]
    split_ifs <;> rfl
  reserve_reserved h := by
    split_ifs at h with hv
    cases h
    funext b
    simp only [Function.update_apply]
    split_ifs <;> rfl
  unreserve_free a v l := by
    funext b
    simp only [Function.update_apply]
    split_ifs <;> rfl
  unreserve_reserved a v l := by
    funext b
    simp only [Function.update_apply]
    split_ifs <;> rfl
  unreserve_rest _ _ _ := rfl
  slashReserved_free a v l := by
    funext b
    simp only [Function.update_apply]
    split_ifs with hb
    · rw [hb]
    · rfl
  slashReserved_reserved a v l := by
    funext b
    simp only [Function.update_apply]
    split_ifs <;> rfl
  slashReserved_rest _ _ _ := rfl
  repatriateReserved_free {p q v l r} h := by
    simp only at h
    split_ifs at h with hd
    cases h
    funext b
    simp only [Function.update_apply]
    split_ifs with hb hqp <;> simp_all
  repatriateReserved_reserved {p q v l r} h := by
    simp only at h
    split_ifs at h with hd
    cases h
    funext b
    simp only [Function.update_apply]
    split_ifs <;> simp_all
  repatriateReserved_rest {p q v l r} h := by
    simp only at h
    split_ifs at h with hd
    cases h
    rfl

end Frame
