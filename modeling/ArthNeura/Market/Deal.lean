import ArthNeura.Frame.Simulation

set_option autoImplicit false

/-! # What a deal is

The purpose of the runtime, without any of its parts: a provider offers data for a price, a consumer
funds the deal, and the price goes to the provider or back to the consumer, after a contest if there
is one. A deal that is neither closed nor contested in time is abandoned, and the price stays where
it is. Parties and price are fixed when the deal is funded.
-/

namespace Market

open Frame

variable {A : Type}

inductive Deal (A : Type) where
  | unborn
  | offered (price : Nat)
  /-- Nobody has funded the offer in time. -/
  | lapsed
  | funded (price : Nat) (payer payee : A)
  | contested (price : Nat) (payer payee : A)
  /-- The price has gone to the payee. -/
  | paid (price : Nat) (payer payee : A)
  /-- The price has gone back to the payer. -/
  | returned (price : Nat) (payer payee : A)
  /-- The price is held for ever. -/
  | abandoned (price : Nat) (payer payee : A)
  deriving DecidableEq

inductive Step : Deal A → Deal A → Prop
  | offer (price : Nat) : Step .unborn (.offered price)
  | lapse (price : Nat) : Step (.offered price) .lapsed
  | fund (price : Nat) (payer payee : A) : Step (.offered price) (.funded price payer payee)
  | pay (price : Nat) (payer payee : A) :
      Step (.funded price payer payee) (.paid price payer payee)
  | abandon (price : Nat) (payer payee : A) :
      Step (.funded price payer payee) (.abandoned price payer payee)
  | contest (price : Nat) (payer payee : A) :
      Step (.funded price payer payee) (.contested price payer payee)
  | clear (price : Nat) (payer payee : A) :
      Step (.contested price payer payee) (.paid price payer payee)
  | convict (price : Nat) (payer payee : A) :
      Step (.contested price payer payee) (.returned price payer payee)

/-- The longest way to the end of a deal. -/
def Deal.stepsLeft : Deal A → Nat
  | .unborn => 4
  | .offered _ => 3
  | .funded _ _ _ => 2
  | .contested _ _ _ => 1
  | .lapsed | .paid _ _ _ | .returned _ _ _ | .abandoned _ _ _ => 0

theorem Step.stepsLeft_lt {d d' : Deal A} (h : Step d d') : d'.stepsLeft < d.stepsLeft := by
  cases h <;> simp [Deal.stepsLeft]

theorem add_stepsLeft_le {n : Nat} {d d' : Deal A} (h : Path Step n d d') :
    n + d'.stepsLeft ≤ d.stepsLeft :=
  h.add_le (f := Deal.stepsLeft) fun _ _ => Step.stepsLeft_lt

/-- Price and parties of a deal that was funded. -/
def Deal.terms : Deal A → Option (Nat × A × A)
  | .unborn | .offered _ | .lapsed => none
  | .funded price payer payee | .contested price payer payee | .paid price payer payee
  | .returned price payer payee | .abandoned price payer payee => some (price, payer, payee)

theorem Step.terms_eq {d d' : Deal A} (h : Step d d') {t : Nat × A × A} (ht : d.terms = some t) :
    d'.terms = some t := by
  cases h with
  | offer _ | lapse _ | fund _ _ _ => cases ht
  | pay _ _ _ | abandon _ _ _ | contest _ _ _ | clear _ _ _ | convict _ _ _ => exact ht

/-- The terms of a funded deal never change. -/
theorem terms_eq_of_path {n : Nat} {d d' : Deal A} (h : Path Step n d d') {t : Nat × A × A}
    (ht : d.terms = some t) : d'.terms = some t := by
  induction h with
  | nil d => exact ht
  | snoc _ hstep ih => exact hstep.terms_eq (ih ht)

end Market
