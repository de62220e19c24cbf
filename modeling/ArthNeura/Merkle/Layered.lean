import Mathlib.Data.List.Basic
import Mathlib.Algebra.Order.Group.Nat
import Mathlib.Tactic.Ring

set_option autoImplicit false

/-! # Layered Merkle trees

The tree over a list of leaves is built layer by layer. A layer is paired from the left, and
an unpaired last node is promoted by `c a none`. The shape of the path from leaf `i` to the
root is then fixed by `i` and the number of leaves alone, which is what makes a proof without
positions sound:

* `pathRoot_inclusionProof`: the siblings of a leaf recompute the root;
* `eq_leaf_of_pathRoot`: whatever hashes are supplied, a recomputed root equal to the root of
  the tree forces the value to be leaf `i`, unless a pair hashed on the path collides with a
  pair hashed in the tree;
* `inclusionProof_length_le`: a tree of at most `2^k` leaves has proofs of at most `k` hashes,
  and `lt_inclusionProof_length`: with more leaves the proof of leaf 0 is longer.

The functions with suffix `Aux` carry the number of layers still to go as fuel; the length of
the first layer is always enough.
-/

namespace Merkle

variable {H : Type}

/-- The hash functions of a tree: of a leaf's data, and of a node with its children. -/
structure Hasher (H : Type) where
  hash : List UInt8 → H
  concatAndHash : H → Option H → H

/-! ## Layers -/

/-- The parents of a layer. -/
def nextLayer (c : H → Option H → H) : List H → List H
  | [] => []
  | [a] => [c a none]
  | a :: b :: l => c a (some b) :: nextLayer c l

/-- The pairs hashed to obtain the parents of a layer. -/
def layerPairs : List H → List (H × H)
  | a :: b :: l => (a, b) :: layerPairs l
  | _ => []

theorem nextLayer_length (c : H → Option H → H) :
    ∀ l : List H, (nextLayer c l).length = (l.length + 1) / 2
  | [] => by simp [nextLayer]
  | [_] => by simp [nextLayer]
  | a :: b :: l => by
      rw [nextLayer, List.length_cons, nextLayer_length c l, List.length_cons, List.length_cons]
      omega

/-- The parent `k` is made of the nodes `2k` and `2k + 1`, the second one if it exists. -/
theorem nextLayer_getElem? (c : H → Option H → H) :
    ∀ (l : List H) (k : Nat),
      (nextLayer c l)[k]? = (l[2 * k]?).map (fun a => c a l[2 * k + 1]?)
  | [], k => by simp [nextLayer]
  | [a], k => by
      cases k with
      | zero => simp [nextLayer]
      | succ k => simp [nextLayer, Nat.mul_add]
  | a :: b :: l, k => by
      cases k with
      | zero => simp [nextLayer]
      | succ k =>
          rw [nextLayer, List.getElem?_cons_succ, nextLayer_getElem? c l k]
          have h : 2 * (k + 1) = 2 * k + 1 + 1 := by ring
          rw [h, List.getElem?_cons_succ, List.getElem?_cons_succ, List.getElem?_cons_succ,
            List.getElem?_cons_succ]

theorem mem_layerPairs :
    ∀ {l : List H} {k : Nat} {a b : H}, l[2 * k]? = some a → l[2 * k + 1]? = some b →
      (a, b) ∈ layerPairs l
  | [], _, _, _, h, _ => by simp at h
  | [_], k, _, _, _, h => by simp at h
  | x :: y :: l, 0, a, b, ha, hb => by
      simp only [Nat.mul_zero, List.getElem?_cons_zero, Option.some.injEq, Nat.zero_add,
        List.getElem?_cons_succ] at ha hb
      simp [layerPairs, ha, hb]
  | x :: y :: l, k + 1, a, b, ha, hb => by
      have h : 2 * (k + 1) = 2 * k + 1 + 1 := by ring
      rw [h, List.getElem?_cons_succ, List.getElem?_cons_succ] at ha hb
      exact List.mem_cons_of_mem _ (mem_layerPairs ha hb)

/-! ## Roots, paths and proofs -/

def rootAux (c : H → Option H → H) : Nat → List H → Option H
  | 0, l => l.head?
  | d + 1, l => if l.length ≤ 1 then l.head? else rootAux c d (nextLayer c l)

/-- Recompute the root from node `i` of a layer of `n` nodes. A hash of the proof is consumed
wherever the node has a sibling; what is left of the proof at the end is ignored. -/
def pathAux (c : H → Option H → H) : Nat → Nat → Nat → H → List H → Option H
  | 0, _, _, v, _ => some v
  | d + 1, i, n, v, proof =>
      if n ≤ 1 then some v
      else if i % 2 = 1 then
        match proof with
        | [] => none
        | h :: rest => pathAux c d (i / 2) ((n + 1) / 2) (c h (some v)) rest
      else if i + 1 < n then
        match proof with
        | [] => none
        | h :: rest => pathAux c d (i / 2) ((n + 1) / 2) (c v (some h)) rest
      else pathAux c d (i / 2) ((n + 1) / 2) (c v none) proof

theorem pathAux_succ (c : H → Option H → H) (d i n : Nat) (v : H) (proof : List H) :
    pathAux c (d + 1) i n v proof =
      if n ≤ 1 then some v
      else if i % 2 = 1 then
        match proof with
        | [] => none
        | h :: rest => pathAux c d (i / 2) ((n + 1) / 2) (c h (some v)) rest
      else if i + 1 < n then
        match proof with
        | [] => none
        | h :: rest => pathAux c d (i / 2) ((n + 1) / 2) (c v (some h)) rest
      else pathAux c d (i / 2) ((n + 1) / 2) (c v none) proof := by
  cases proof <;> rfl

/-- The sibling of node `i`, if the layer has one. -/
def sibling? (l : List H) (i : Nat) : Option H := if i % 2 = 1 then l[i - 1]? else l[i + 1]?

def proofAux (c : H → Option H → H) : Nat → Nat → List H → List H
  | 0, _, _ => []
  | d + 1, i, l =>
      if l.length ≤ 1 then []
      else (sibling? l i).toList ++ proofAux c d (i / 2) (nextLayer c l)

/-- The pairs hashed in the whole tree. -/
def treePairsAux (c : H → Option H → H) : Nat → List H → List (H × H)
  | 0, _ => []
  | d + 1, l =>
      if l.length ≤ 1 then [] else layerPairs l ++ treePairsAux c d (nextLayer c l)

/-- The pairs hashed by `pathAux`. -/
def pathPairsAux (c : H → Option H → H) : Nat → Nat → Nat → H → List H → List (H × H)
  | 0, _, _, _, _ => []
  | d + 1, i, n, v, proof =>
      if n ≤ 1 then []
      else if i % 2 = 1 then
        match proof with
        | [] => []
        | h :: rest => (h, v) :: pathPairsAux c d (i / 2) ((n + 1) / 2) (c h (some v)) rest
      else if i + 1 < n then
        match proof with
        | [] => []
        | h :: rest => (v, h) :: pathPairsAux c d (i / 2) ((n + 1) / 2) (c v (some h)) rest
      else pathPairsAux c d (i / 2) ((n + 1) / 2) (c v none) proof

theorem pathPairsAux_succ (c : H → Option H → H) (d i n : Nat) (v : H) (proof : List H) :
    pathPairsAux c (d + 1) i n v proof =
      if n ≤ 1 then []
      else if i % 2 = 1 then
        match proof with
        | [] => []
        | h :: rest => (h, v) :: pathPairsAux c d (i / 2) ((n + 1) / 2) (c h (some v)) rest
      else if i + 1 < n then
        match proof with
        | [] => []
        | h :: rest => (v, h) :: pathPairsAux c d (i / 2) ((n + 1) / 2) (c v (some h)) rest
      else pathPairsAux c d (i / 2) ((n + 1) / 2) (c v none) proof := by
  cases proof <;> rfl

/-- The root of the tree over `leaves`; `none` for the empty tree. -/
def treeRoot (c : H → Option H → H) (leaves : List H) : Option H :=
  rootAux c leaves.length leaves

/-- The root recomputed from value `v` at leaf `i` of `n`; `none` if a hash is missing. -/
def pathRoot (c : H → Option H → H) (i n : Nat) (v : H) (proof : List H) : Option H :=
  pathAux c n i n v proof

/-- The siblings on the path of leaf `i`, bottom up. -/
def inclusionProof (c : H → Option H → H) (leaves : List H) (i : Nat) : List H :=
  proofAux c leaves.length i leaves

def treePairs (c : H → Option H → H) (leaves : List H) : List (H × H) :=
  treePairsAux c leaves.length leaves

def pathPairs (c : H → Option H → H) (i n : Nat) (v : H) (proof : List H) : List (H × H) :=
  pathPairsAux c n i n v proof

theorem treeRoot_ne_none (c : H → Option H → H) {leaves : List H} (h : leaves ≠ []) :
    ∃ r, treeRoot c leaves = some r := by
  have key : ∀ (d : Nat) (l : List H), 0 < l.length → ∃ r, rootAux c d l = some r := by
    intro d
    induction d with
    | zero =>
        intro l hl
        obtain ⟨a, t, rfl⟩ := List.exists_cons_of_length_pos hl
        exact ⟨a, rfl⟩
    | succ d ih =>
        intro l hl
        rw [rootAux]
        by_cases h1 : l.length ≤ 1
        · obtain ⟨a, t, rfl⟩ := List.exists_cons_of_length_pos hl
          exact ⟨a, by rw [if_pos h1]; rfl⟩
        · rw [if_neg h1]
          exact ih _ (by rw [nextLayer_length]; omega)
  exact key _ _ (List.length_pos_of_ne_nil h)

/-! ## The length of a proof -/

theorem proofAux_length_le (c : H → Option H → H) :
    ∀ (k d i : Nat) (l : List H), l.length ≤ 2 ^ k → (proofAux c d i l).length ≤ k := by
  intro k
  induction k with
  | zero =>
      intro d i l hl
      cases d with
      | zero => exact Nat.zero_le _
      | succ d => rw [proofAux, if_pos (by simpa using hl)]; exact Nat.zero_le _
  | succ k ih =>
      intro d i l hl
      cases d with
      | zero => exact Nat.zero_le _
      | succ d =>
          rw [proofAux]
          by_cases h1 : l.length ≤ 1
          · rw [if_pos h1]; exact Nat.zero_le _
          · have hnext : (nextLayer c l).length ≤ 2 ^ k := by
              rw [nextLayer_length]
              rw [Nat.pow_succ] at hl
              omega
            have hsib : (sibling? l i).toList.length ≤ 1 := by
              cases sibling? l i with
              | none => exact Nat.zero_le _
              | some a => exact Nat.le_refl _
            have hrest := ih d (i / 2) (nextLayer c l) hnext
            rw [if_neg h1, List.length_append]
            omega

/-- **A tree of at most `2^k` leaves has proofs of at most `k` hashes.** -/
theorem inclusionProof_length_le (c : H → Option H → H) {leaves : List H} {k : Nat} (i : Nat)
    (h : leaves.length ≤ 2 ^ k) : (inclusionProof c leaves i).length ≤ k :=
  proofAux_length_le c k _ i leaves h

/-- Leaf 0 has a sibling in every layer but the last one. -/
theorem lt_proofAux_length (c : H → Option H → H) :
    ∀ (k d : Nat) (l : List H), l.length ≤ d + 1 → 2 ^ k < l.length →
      k < (proofAux c d 0 l).length := by
  intro k
  induction k with
  | zero =>
      intro d l hd hl
      rw [Nat.pow_zero] at hl
      obtain ⟨d, rfl⟩ : ∃ d', d = d' + 1 := ⟨d - 1, by omega⟩
      have hsib : sibling? l 0 = some l[1] := List.getElem?_eq_getElem hl
      rw [proofAux, if_neg (by omega), hsib, List.length_append]
      exact Nat.lt_of_lt_of_le Nat.zero_lt_one (Nat.le_add_right 1 _)
  | succ k ih =>
      intro d l hd hl
      have hpow : 0 < 2 ^ k := Nat.two_pow_pos k
      rw [Nat.pow_succ] at hl
      obtain ⟨d, rfl⟩ : ∃ d', d = d' + 1 := ⟨d - 1, by omega⟩
      have hsib : sibling? l 0 = some l[1] := List.getElem?_eq_getElem (by omega)
      have hrest := ih d (nextLayer c l) (by rw [nextLayer_length]; omega)
        (by rw [nextLayer_length]; omega)
      rw [proofAux, if_neg (by omega), hsib, List.length_append]
      show k + 1 < 1 + (proofAux c d 0 (nextLayer c l)).length
      omega

/-- **A tree of more than `2^k` leaves has a proof of more than `k` hashes.** -/
theorem lt_inclusionProof_length (c : H → Option H → H) {leaves : List H} {k : Nat}
    (h : 2 ^ k < leaves.length) : k < (inclusionProof c leaves 0).length :=
  lt_proofAux_length c k _ leaves (Nat.le_succ _) h

/-! ## Completeness -/

/-- The parent of node `i`, by the side on which its sibling stands. -/
theorem nextLayer_parent (c : H → Option H → H) {l : List H} {i : Nat} {v : H}
    (hv : l[i]? = some v) :
    (i % 2 = 1 → ∃ h, l[i - 1]? = some h ∧ (nextLayer c l)[i / 2]? = some (c h (some v))) ∧
    (¬ i % 2 = 1 → (nextLayer c l)[i / 2]? = some (c v l[i + 1]?)) := by
  have hi : i < l.length := (List.getElem?_eq_some_iff.mp hv).1
  constructor
  · intro hodd
    have h2 : 2 * (i / 2) = i - 1 := by omega
    have h3 : i - 1 + 1 = i := by omega
    have hlt : i - 1 < l.length := by omega
    refine ⟨l[i - 1], List.getElem?_eq_getElem hlt, ?_⟩
    rw [nextLayer_getElem?, h2, h3, hv, List.getElem?_eq_getElem hlt]
    rfl
  · intro heven
    have h2 : 2 * (i / 2) = i := by omega
    rw [nextLayer_getElem?, h2, hv]
    rfl

theorem pathAux_proofAux (c : H → Option H → H) :
    ∀ (d i : Nat) (l : List H) (v : H), l.length ≤ d + 1 → l[i]? = some v →
      pathAux c d i l.length v (proofAux c d i l) = rootAux c d l := by
  intro d
  induction d with
  | zero =>
      intro i l v hl hv
      have hi : i < l.length := (List.getElem?_eq_some_iff.mp hv).1
      have hi0 : i = 0 := by omega
      subst hi0
      rw [pathAux, rootAux, List.head?_eq_getElem?, hv]
  | succ d ih =>
      intro i l v hl hv
      have hi : i < l.length := (List.getElem?_eq_some_iff.mp hv).1
      rw [pathAux_succ, rootAux, proofAux]
      by_cases h1 : l.length ≤ 1
      · have hi0 : i = 0 := by omega
        subst hi0
        rw [if_pos h1, if_pos h1, List.head?_eq_getElem?, hv]
      · have hlen : (l.length + 1) / 2 = (nextLayer c l).length := (nextLayer_length c l).symm
        have hfuel : (nextLayer c l).length ≤ d + 1 := by rw [nextLayer_length]; omega
        obtain ⟨hodd, heven⟩ := nextLayer_parent c hv
        rw [if_neg h1, if_neg h1, if_neg h1, hlen]
        by_cases hp : i % 2 = 1
        · obtain ⟨h, hsib, hpar⟩ := hodd hp
          rw [if_pos hp, sibling?, if_pos hp, hsib]
          exact ih (i / 2) (nextLayer c l) _ hfuel hpar
        · have hpar := heven hp
          rw [if_neg hp, sibling?, if_neg hp]
          by_cases hlast : i + 1 < l.length
          · rw [List.getElem?_eq_getElem hlast] at hpar ⊢
            rw [if_pos hlast]
            exact ih (i / 2) (nextLayer c l) _ hfuel hpar
          · rw [List.getElem?_eq_none (Nat.le_of_not_lt hlast)] at hpar ⊢
            rw [if_neg hlast]
            exact ih (i / 2) (nextLayer c l) _ hfuel hpar

/-- **Completeness.** The siblings of leaf `i` recompute the root. -/
theorem pathRoot_inclusionProof (c : H → Option H → H) {leaves : List H} {i : Nat} {v : H}
    (hv : leaves[i]? = some v) :
    pathRoot c i leaves.length v (inclusionProof c leaves i) = treeRoot c leaves :=
  pathAux_proofAux c _ i leaves v (Nat.le_succ _) hv

/-! ## Soundness -/

/-- A pair of the path and a pair of the tree with the same hash are the same pair. -/
def NoCollision (c : H → Option H → H) (tree path : List (H × H)) : Prop :=
  ∀ p ∈ tree, ∀ q ∈ path, c p.1 (some p.2) = c q.1 (some q.2) → p = q

theorem NoCollision.mono {c : H → Option H → H} {tree tree' path path' : List (H × H)}
    (h : NoCollision c tree path) (htree : tree' ⊆ tree) (hpath : path' ⊆ path) :
    NoCollision c tree' path' :=
  fun p hp q hq => h p (htree hp) q (hpath hq)

/-- Two neighbours of a layer with the hash of the first pair of the path are that pair. -/
theorem NoCollision.eq_pair {c : H → Option H → H} {l : List H} {tree path : List (H × H)}
    {q : H × H} {k : Nat} {a b : H} (h : NoCollision c (layerPairs l ++ tree) (q :: path))
    (ha : l[2 * k]? = some a) (hb : l[2 * k + 1]? = some b)
    (heq : c a (some b) = c q.1 (some q.2)) : (a, b) = q :=
  h (a, b) (List.mem_append_left _ (mem_layerPairs ha hb)) q List.mem_cons_self heq

/-- A right child `i` has the pair `(l[i - 1], l[i])`. -/
theorem NoCollision.right_child {c : H → Option H → H} {l : List H} {tree path : List (H × H)}
    {i : Nat} {h v : H} (hcol : NoCollision c (layerPairs l ++ tree) ((h, v) :: path))
    (hi : i < l.length) (hodd : i % 2 = 1)
    (hparent : (nextLayer c l)[i / 2]? = some (c h (some v))) : l[i]? = some v := by
  have hv := List.getElem?_eq_getElem hi
  obtain ⟨a, ha, hpar⟩ := (nextLayer_parent c hv).1 hodd
  rw [hpar, Option.some.injEq] at hparent
  have h2 : 2 * (i / 2) = i - 1 := by omega
  have h3 : i - 1 + 1 = i := by omega
  have heq : (a, l[i]) = (h, v) := by
    refine hcol.eq_pair (k := i / 2) ?_ ?_ hparent
    · rw [h2]
      exact ha
    · rw [h2, h3]
      exact hv
  rw [hv, (Prod.mk.inj heq).2]

/-- A left child `i` with a sibling has the pair `(l[i], l[i + 1])`. -/
theorem NoCollision.left_child {c : H → Option H → H} {l : List H} {tree path : List (H × H)}
    {i : Nat} {h v : H} (hcol : NoCollision c (layerPairs l ++ tree) ((v, h) :: path))
    (hlast : i + 1 < l.length) (heven : ¬ i % 2 = 1)
    (hparent : (nextLayer c l)[i / 2]? = some (c v (some h))) : l[i]? = some v := by
  have hv := List.getElem?_eq_getElem (Nat.lt_of_succ_lt hlast)
  have hpar := (nextLayer_parent c hv).2 heven
  rw [hpar, List.getElem?_eq_getElem hlast, Option.some.injEq] at hparent
  have h2 : 2 * (i / 2) = i := by omega
  have heq : (l[i], l[i + 1]) = (v, h) := by
    refine hcol.eq_pair (k := i / 2) ?_ ?_ hparent
    · rw [h2]
      exact hv
    · rw [h2]
      exact List.getElem?_eq_getElem hlast
  rw [hv, (Prod.mk.inj heq).1]

/-- The last node, if it has no sibling, is promoted as it is. -/
theorem last_child {c : H → Option H → H} (hpromote : ∀ a, c a none = a) {l : List H} {i : Nat}
    {v : H} (hi : i < l.length) (heven : ¬ i % 2 = 1) (hlast : ¬ i + 1 < l.length)
    (hparent : (nextLayer c l)[i / 2]? = some (c v none)) : l[i]? = some v := by
  have hv := List.getElem?_eq_getElem hi
  have hpar := (nextLayer_parent c hv).2 heven
  rw [hpar, List.getElem?_eq_none (Nat.le_of_not_lt hlast), hpromote, hpromote] at hparent
  rw [hv, hparent]

theorem pathAux_sound (c : H → Option H → H) (hpromote : ∀ a, c a none = a) :
    ∀ (d i : Nat) (l : List H) (v : H) (proof : List H) (r : H),
      l.length ≤ d + 1 → i < l.length →
      NoCollision c (treePairsAux c d l) (pathPairsAux c d i l.length v proof) →
      pathAux c d i l.length v proof = some r → rootAux c d l = some r → l[i]? = some v := by
  intro d
  induction d with
  | zero =>
      intro i l v proof r hl hi _ hpath hroot
      have hi0 : i = 0 := by omega
      subst hi0
      rw [pathAux] at hpath
      rw [rootAux, List.head?_eq_getElem?] at hroot
      rw [hroot, hpath]
  | succ d ih =>
      intro i l v proof r hl hi hcol hpath hroot
      rw [pathAux_succ] at hpath
      rw [rootAux] at hroot
      rw [treePairsAux, pathPairsAux_succ] at hcol
      by_cases h1 : l.length ≤ 1
      · have hi0 : i = 0 := by omega
        subst hi0
        rw [if_pos h1] at hpath hroot
        rw [List.head?_eq_getElem?] at hroot
        rw [hroot, hpath]
      -- by the induction, the parent of node `i` is what the path computes for it
      have hlen : (l.length + 1) / 2 = (nextLayer c l).length := (nextLayer_length c l).symm
      have hfuel : (nextLayer c l).length ≤ d + 1 := by rw [nextLayer_length]; omega
      have hi2 : i / 2 < (nextLayer c l).length := by rw [nextLayer_length]; omega
      rw [if_neg h1] at hpath hroot
      rw [if_neg h1, if_neg h1] at hcol
      rw [hlen] at hpath hcol
      by_cases hp : i % 2 = 1
      · rw [if_pos hp] at hpath hcol
        cases proof with
        | nil => cases hpath
        | cons h rest =>
            exact hcol.right_child hi hp (ih _ _ _ rest r hfuel hi2
              (hcol.mono (List.subset_append_right _ _) (List.subset_cons_self _ _)) hpath hroot)
      rw [if_neg hp] at hpath hcol
      by_cases hlast : i + 1 < l.length
      · rw [if_pos hlast] at hpath hcol
        cases proof with
        | nil => cases hpath
        | cons h rest =>
            exact hcol.left_child hlast hp (ih _ _ _ rest r hfuel hi2
              (hcol.mono (List.subset_append_right _ _) (List.subset_cons_self _ _)) hpath hroot)
      · rw [if_neg hlast] at hpath hcol
        exact last_child hpromote hi hp hlast (ih _ _ _ proof r hfuel hi2
          (hcol.mono (List.subset_append_right _ _) (List.Subset.refl _)) hpath hroot)

/-- **Soundness.** If some hashes recompute the root of the tree from value `v` at leaf `i`,
then `v` is leaf `i`, provided no pair hashed on the way collides with one of the tree. -/
theorem eq_leaf_of_pathRoot {c : H → Option H → H} (hpromote : ∀ a, c a none = a)
    {leaves : List H} {i : Nat} {v r : H} {proof : List H} (hi : i < leaves.length)
    (hcol : NoCollision c (treePairs c leaves) (pathPairs c i leaves.length v proof))
    (hpath : pathRoot c i leaves.length v proof = some r)
    (hroot : treeRoot c leaves = some r) : leaves[i]? = some v :=
  pathAux_sound c hpromote _ i leaves v proof r (Nat.le_succ _) hi hcol hpath hroot

/-! ## The Merkle library

The programs use trees through a library. What they rely on is its documented behaviour: the
tree is the layered one, a proof lists the siblings bottom up, and verification recomputes the
root along the path that the index and the number of leaves determine. -/

structure RsMerkle (H : Type) where
  Tree : Type
  fromLeaves : Hasher H → List H → Tree
  root : Tree → Option H
  /-- The hashes of the proof of one leaf. -/
  proofHashes : Tree → Nat → List H
  /-- Verify proof hashes against a root, for one leaf given by index and hash, in a tree with a
  given number of leaves. -/
  verify : Hasher H → List H → H → Nat → H → Nat → Bool
  root_fromLeaves : ∀ h l, root (fromLeaves h l) = treeRoot h.concatAndHash l
  proofHashes_fromLeaves : ∀ h l i, i < l.length →
    proofHashes (fromLeaves h l) i = inclusionProof h.concatAndHash l i
  verify_iff : ∀ h proof r i leaf n, i < n →
    (verify h proof r i leaf n = true ↔ pathRoot h.concatAndHash i n leaf proof = some r)

/-- The library as the layered tree itself. -/
def layered (H : Type) [DecidableEq H] : RsMerkle H where
  Tree := (H → Option H → H) × List H
  fromLeaves h l := (h.concatAndHash, l)
  root t := treeRoot t.1 t.2
  proofHashes t i := inclusionProof t.1 t.2 i
  verify h proof r i leaf n := decide (pathRoot h.concatAndHash i n leaf proof = some r)
  root_fromLeaves _ _ := rfl
  proofHashes_fromLeaves _ _ _ _ := rfl
  verify_iff _ _ _ _ _ _ _ := decide_eq_true_iff

end Merkle
