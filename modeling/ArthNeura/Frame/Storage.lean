import Mathlib.Algebra.BigOperators.Group.Finset.Basic
import Mathlib.Algebra.BigOperators.Group.Finset.Piecewise
import Mathlib.Data.Vector.Basic
import Mathlib.Data.Fintype.Vector
import Mathlib.Data.FinEnum

set_option autoImplicit false

/-! # Storage maps, bounded vectors, byte strings and fixed-width counters

The data types that storage is made of. A `StorageMap` is a partial function; its keys are fixed
length byte strings, so that a total over all stored values is a sum over a finite type
(`sum_update`) and the stored values with a property can be counted (`StorageMap.count`).
Counters and block numbers are natural numbers with the saturating arithmetic of `u32`
(`satAdd`).
-/

namespace Frame

/-! ## Storage maps -/

/-- A map with `OptionQuery`: `none` where nothing is stored. -/
abbrev StorageMap (K V : Type) := K → Option V

namespace StorageMap

def empty {K V : Type} : StorageMap K V := fun _ => none

def containsKey {K V : Type} (m : StorageMap K V) (k : K) : Bool := (m k).isSome

@[simp] theorem empty_apply {K V : Type} (k : K) : (empty : StorageMap K V) k = none := rfl

theorem containsKey_eq_false {K V : Type} {m : StorageMap K V} {k : K} :
    m.containsKey k = false ↔ m k = none :=
  Option.isSome_eq_false_iff.trans Option.isNone_iff_eq_none

variable {K V : Type} [DecidableEq K]

def insert (m : StorageMap K V) (k : K) (v : V) : StorageMap K V :=
  Function.update m k (some v)

def remove (m : StorageMap K V) (k : K) : StorageMap K V := Function.update m k none

@[simp] theorem insert_self (m : StorageMap K V) (k : K) (v : V) : m.insert k v k = some v :=
  Function.update_self _ _ _

@[simp] theorem insert_ne {m : StorageMap K V} {k j : K} {v : V} (h : j ≠ k) :
    m.insert k v j = m j := Function.update_of_ne h _ _

@[simp] theorem remove_self (m : StorageMap K V) (k : K) : m.remove k k = none :=
  Function.update_self _ _ _

@[simp] theorem remove_ne {m : StorageMap K V} {k j : K} (h : j ≠ k) :
    m.remove k j = m j := Function.update_of_ne h _ _

end StorageMap

/-- A write that is related to the old value at its key is related to it everywhere, because the
other values stay. -/
theorem update_rel {K W : Type} [DecidableEq K] {R : K → W → W → Prop}
    (hrefl : ∀ k w, R k w w) {m : K → W} {k : K} {w : W} (h : R k (m k) w) (j : K) :
    R j (m j) (Function.update m k w j) := by
  by_cases hj : j = k
  · subst hj
    rw [Function.update_self]
    exact h
  · rw [Function.update_of_ne hj]
    exact hrefl j (m j)

/-- **Writing one key changes a total by the new value minus the old one.** The old value is
on the left so that the statement needs no subtraction. -/
theorem sum_update {K W : Type} [DecidableEq K] [Fintype K] (f : K → W → Nat) (m : K → W)
    (k : K) (w : W) :
    (∑ j, f j (Function.update m k w j)) + f k (m k) = (∑ j, f j (m j)) + f k w := by
  have hnew := Finset.add_sum_erase Finset.univ
    (fun j => f j (Function.update m k w j)) (Finset.mem_univ k)
  have hold := Finset.add_sum_erase Finset.univ (fun j => f j (m j)) (Finset.mem_univ k)
  have hrest : ∑ j ∈ Finset.univ.erase k, f j (Function.update m k w j)
      = ∑ j ∈ Finset.univ.erase k, f j (m j) := by
    refine Finset.sum_congr rfl fun j hj => ?_
    rw [Function.update_of_ne (Finset.ne_of_mem_erase hj)]
  simp only [Function.update_self] at hnew
  omega

/-- The number of keys whose value satisfies `p`. -/
noncomputable def StorageMap.count {K V : Type} [Fintype K] (m : StorageMap K V) (p : V → Bool) :
    Nat := (Finset.univ.filter fun k => (m k).any p = true).card

namespace StorageMap

variable {K V : Type} [DecidableEq K] [Fintype K]

/-- Writing one key changes the count by what the new value and the old one contribute. -/
theorem count_update (m : StorageMap K V) (p : V → Bool) (k : K) (o : Option V) :
    count (Function.update m k o) p + (if (m k).any p then 1 else 0)
      = m.count p + (if o.any p then 1 else 0) := by
  rw [count, count, Finset.card_filter, Finset.card_filter]
  exact sum_update (fun _ w => if w.any p = true then 1 else 0) m k o

theorem count_insert (m : StorageMap K V) (p : V → Bool) (k : K) (v : V) :
    (m.insert k v).count p + (if (m k).any p then 1 else 0)
      = m.count p + (if p v then 1 else 0) := count_update m p k (some v)

theorem count_remove (m : StorageMap K V) (p : V → Bool) (k : K) :
    (m.remove k).count p + (if (m k).any p then 1 else 0) = m.count p := count_update m p k none

omit [DecidableEq K] in
theorem count_empty (p : V → Bool) : (empty : StorageMap K V).count p = 0 := by
  rw [count, Finset.card_eq_zero, Finset.filter_eq_empty_iff]
  intro k _
  simp

omit [DecidableEq K] in
theorem count_le_count (m : StorageMap K V) {p q : V → Bool} (h : ∀ v, p v = true → q v = true) :
    m.count p ≤ m.count q := by
  refine Finset.card_le_card fun k hk => ?_
  rw [Finset.mem_filter, Option.any_eq_true] at hk ⊢
  obtain ⟨hk, v, hv, hp⟩ := hk
  exact ⟨hk, v, hv, h v hp⟩

end StorageMap

/-! ## Bounded vectors -/

/-- A vector of at most `n` elements. -/
abbrev BoundedVec (α : Type) (n : Nat) := { l : List α // l.length ≤ n }

namespace BoundedVec

variable {α : Type} {n : Nat}

def nil : BoundedVec α n := ⟨[], Nat.zero_le n⟩

/-- `try_push`: append one element if there is room. -/
def tryPush (v : BoundedVec α n) (a : α) : Option (BoundedVec α n) :=
  if h : v.val.length < n then some ⟨v.val ++ [a], by simpa using Nat.succ_le_of_lt h⟩ else none

theorem tryPush_val {v w : BoundedVec α n} {a : α} (h : v.tryPush a = some w) :
    w.val = v.val ++ [a] := by
  unfold tryPush at h
  split at h
  · cases h
    rfl
  · cases h

theorem tryPush_eq_none {v : BoundedVec α n} {a : α} : v.tryPush a = none ↔ n ≤ v.val.length := by
  rw [tryPush, dite_eq_right_iff]
  simp

/-- `retain`: keep the elements that satisfy `p`. -/
def retain (v : BoundedVec α n) (p : α → Bool) : BoundedVec α n :=
  ⟨v.val.filter p, (List.length_filter_le p v.val).trans v.property⟩

end BoundedVec

/-! ## Byte strings -/

abbrev Bytes := List UInt8

/-- `[u8; 32]`. -/
abbrev Bytes32 := List.Vector UInt8 32

-- not the enumeration of all vectors, which the elaborator would try to unfold
noncomputable instance : Fintype Bytes32 := Fintype.ofFinite Bytes32

/-- The 32 bytes of a number below `2^256`, most significant first. -/
def Bytes32.ofNat (n : Nat) : Bytes32 :=
  ⟨(List.range 32).map fun i => UInt8.ofNat (n / 256 ^ (31 - i)), by simp⟩

/-- A hash that can be evaluated: the last 32 bytes, in reverse order. -/
def tailHash (b : Bytes) : Bytes32 := ⟨(b.reverse ++ List.replicate 32 0).take 32, by simp⟩

/-- The little-endian encoding of a `u32`. -/
def encodeU32 (n : Nat) : Bytes :=
  [UInt8.ofNat n, UInt8.ofNat (n / 256), UInt8.ofNat (n / 65536), UInt8.ofNat (n / 16777216)]

theorem encodeU32_inj {m n : Nat} (hm : m < 2 ^ 32) (hn : n < 2 ^ 32)
    (h : encodeU32 m = encodeU32 n) : m = n := by
  simp only [encodeU32, List.cons.injEq, and_true] at h
  obtain ⟨h0, h1, h2, h3⟩ := h
  have toMod : ∀ {a b : Nat}, UInt8.ofNat a = UInt8.ofNat b → a % 256 = b % 256 := by
    intro a b hab
    simpa [UInt8.toNat_ofNat'] using congrArg UInt8.toNat hab
  have e0 := toMod h0
  have e1 := toMod h1
  have e2 := toMod h2
  have e3 := toMod h3
  omega

/-! ## `u32` arithmetic and block numbers -/

def u32Max : Nat := 4294967295

/-- `u32::saturating_add`. -/
def satAdd (a b : Nat) : Nat := min (a + b) u32Max

theorem satAdd_eq {a b : Nat} (h : a + b < 2 ^ 32) : satAdd a b = a + b := by
  rw [satAdd, u32Max]
  omega

theorem le_satAdd {a b : Nat} (h : a ≤ u32Max) : a ≤ satAdd a b :=
  le_min (Nat.le_add_right a b) h

theorem satAdd_le (a b : Nat) : satAdd a b ≤ u32Max := min_le_right _ _

/-- What the pallets read of `frame_system`. The hash of a block that is not known, the current
one included, is zero. -/
structure System where
  blockNumber : Nat
  blockHash : Nat → Bytes32

end Frame
