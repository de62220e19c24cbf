import ArthNeura.Merkle.Layered

set_option autoImplicit false

/-! # What the root of a layered tree determines

Among lists of one length the root determines the leaves, unless pairs collide
(`eq_of_treeRoot`). Without the length it does not: a layer of the tree has the same root as the
layer below it (`treeRoot_nextLayer`), and nothing in a root tells a leaf from an inner node.
-/

namespace Merkle

variable {H : Type}

/-! ## A layer has the root of the layer below it -/

/-- Enough fuel is as good as more. -/
theorem rootAux_congr (c : H → Option H → H) :
    ∀ (d d' : Nat) (l : List H), l.length ≤ d + 1 → l.length ≤ d' + 1 →
      rootAux c d l = rootAux c d' l := by
  intro d
  induction d with
  | zero =>
      intro d' l hl _
      cases d' with
      | zero => rfl
      | succ d' => rw [rootAux, rootAux, if_pos (by omega)]
  | succ d ih =>
      intro d' l hl hl'
      cases d' with
      | zero => rw [rootAux, rootAux, if_pos (by omega)]
      | succ d' =>
          rw [rootAux, rootAux]
          by_cases h1 : l.length ≤ 1
          · rw [if_pos h1, if_pos h1]
          · rw [if_neg h1, if_neg h1]
            apply ih
            · rw [nextLayer_length]
              omega
            · rw [nextLayer_length]
              omega

theorem treeRoot_nextLayer (c : H → Option H → H) {l : List H} (h : 2 ≤ l.length) :
    treeRoot c (nextLayer c l) = treeRoot c l := by
  have hlen := nextLayer_length c l
  obtain ⟨d, hd⟩ : ∃ d, l.length = d + 1 := ⟨l.length - 1, by omega⟩
  calc treeRoot c (nextLayer c l)
      = rootAux c d (nextLayer c l) := rootAux_congr c _ _ _ (by omega) (by omega)
    _ = rootAux c (d + 1) l := by rw [rootAux, if_neg (by omega)]
    _ = treeRoot c l := by rw [treeRoot, hd]

/-! ## The leaves are determined by the root and their number -/

theorem nextLayer_inj {c : H → Option H → H} (hpromote : ∀ a, c a none = a) :
    ∀ {l l' : List H}, l.length = l'.length → NoCollision c (layerPairs l) (layerPairs l') →
      nextLayer c l = nextLayer c l' → l = l'
  | [], l', hlen, _, _ => (List.length_eq_zero_iff.mp hlen.symm).symm
  | [a], l', hlen, _, heq => by
      obtain ⟨b, rfl⟩ := List.length_eq_one_iff.mp hlen.symm
      rw [nextLayer, nextLayer, hpromote, hpromote] at heq
      exact heq
  | a :: b :: l, a' :: b' :: l', hlen, hcol, heq => by
      rw [nextLayer, nextLayer, List.cons.injEq] at heq
      have hpair : (a, b) = (a', b') :=
        hcol (a, b) List.mem_cons_self (a', b') List.mem_cons_self heq.1
      have hrest : l = l' := by
        refine nextLayer_inj hpromote (by simpa using hlen) ?_ heq.2
        exact hcol.mono (List.subset_cons_self _ _) (List.subset_cons_self _ _)
      rw [Prod.mk.injEq] at hpair
      rw [hpair.1, hpair.2, hrest]
  | a :: b :: l, [], hlen, _, _ => by cases hlen
  | a :: b :: l, [_], hlen, _, _ => by simp at hlen

theorem eq_of_head? {l l' : List H} (h1 : l.length ≤ 1) (hlen : l.length = l'.length)
    (h : l.head? = l'.head?) : l = l' := by
  match l, l' with
  | [], [] => rfl
  | [a], [b] => simpa using h
  | _ :: _ :: _, _ => simp at h1
  | [], _ :: _ => simp at hlen
  | [_], [] => simp at hlen
  | [_], _ :: _ :: _ => simp at hlen

theorem eq_of_rootAux {c : H → Option H → H} (hpromote : ∀ a, c a none = a) :
    ∀ (d : Nat) (l l' : List H), l.length ≤ d + 1 → l.length = l'.length →
      NoCollision c (treePairsAux c d l) (treePairsAux c d l') →
      rootAux c d l = rootAux c d l' → l = l' := by
  intro d
  induction d with
  | zero =>
      intro l l' hl hlen _ hroot
      exact eq_of_head? hl hlen hroot
  | succ d ih =>
      intro l l' hl hlen hcol hroot
      rw [rootAux, rootAux, ← hlen] at hroot
      rw [treePairsAux, treePairsAux, ← hlen] at hcol
      by_cases h1 : l.length ≤ 1
      · rw [if_pos h1, if_pos h1] at hroot
        exact eq_of_head? h1 hlen hroot
      · rw [if_neg h1, if_neg h1] at hroot hcol
        -- the parents are equal, and from them the layer itself
        have hnext : nextLayer c l = nextLayer c l' := by
          apply ih _ _ ?_ ?_ ?_ hroot
          · rw [nextLayer_length]
            omega
          · rw [nextLayer_length, nextLayer_length, hlen]
          · exact hcol.mono (List.subset_append_right _ _) (List.subset_append_right _ _)
        apply nextLayer_inj hpromote hlen ?_ hnext
        exact hcol.mono (List.subset_append_left _ _) (List.subset_append_left _ _)

/-- **The root binds the leaves, given their number.** -/
theorem eq_of_treeRoot {c : H → Option H → H} (hpromote : ∀ a, c a none = a) {l l' : List H}
    (hlen : l.length = l'.length) (hcol : NoCollision c (treePairs c l) (treePairs c l'))
    (hroot : treeRoot c l = treeRoot c l') : l = l' := by
  rw [treePairs, treePairs, ← hlen] at hcol
  rw [treeRoot, treeRoot, ← hlen] at hroot
  exact eq_of_rootAux hpromote _ l l' (Nat.le_succ _) hlen hcol hroot

end Merkle
