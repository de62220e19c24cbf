import ArthNeura.Frame.Run
import ArthNeura.Frame.Storage

set_option autoImplicit false

/-! # Replaying a log of events

A pallet deposits events, and they are all that an observer of the chain is told. A `Projection`
says what the observer wants to know of a state (`view`) and how it follows the events
(`apply`). A change of the state is *logged* if the events it adds turn the old view into the
new one. Logged changes compose, so whoever replays the log of a state that was reached by logged
changes, and started with an empty log, has the view of that state (`Logged.view_eq`).

What observers keep are storage maps with a part of every value left out (`mapValues`), in which
an event overwrites a value, removes it, or changes it in place (`adjust`).
-/

namespace Frame

structure Projection (σ E V : Type) where
  log : σ → List E
  view : σ → V
  apply : V → E → V

namespace Projection

variable {σ E V : Type} (P : Projection σ E V)

/-- The view after some events. -/
def replay (v : V) (events : List E) : V := events.foldl P.apply v

/-- The new events of `t` account for the new view. -/
def Logged (s t : σ) : Prop :=
  ∃ new, P.log t = P.log s ++ new ∧ P.view t = P.replay (P.view s) new

variable {P}

theorem Logged.refl (s : σ) : P.Logged s s := ⟨[], (List.append_nil _).symm, rfl⟩

theorem Logged.trans {s t u : σ} (hst : P.Logged s t) (htu : P.Logged t u) : P.Logged s u := by
  obtain ⟨new, hlog, hview⟩ := hst
  obtain ⟨new', hlog', hview'⟩ := htu
  refine ⟨new ++ new', ?_, ?_⟩
  · rw [hlog', hlog, List.append_assoc]
  · rw [hview', hview, replay, replay, replay, List.foldl_append]

/-- A change that one event accounts for. -/
theorem logged_event {s t : σ} (e : E) (hlog : P.log t = P.log s ++ [e])
    (hview : P.view t = P.apply (P.view s) e) : P.Logged s t := ⟨[e], hlog, hview⟩

/-- **Replaying the log.** -/
theorem Logged.view_eq {s t : σ} (h : P.Logged s t) (hempty : P.log s = []) :
    P.view t = P.replay (P.view s) (P.log t) := by
  obtain ⟨new, hlog, hview⟩ := h
  rw [hempty, List.nil_append] at hlog
  rw [hlog]
  exact hview

end Projection

/-! ## Maps with a part of every value -/

namespace StorageMap

variable {K V W : Type}

def mapValues (f : V → W) (m : StorageMap K V) : StorageMap K W := fun k => (m k).map f

variable [DecidableEq K]

/-- Change the value under one key, if there is one. -/
def adjust (m : StorageMap K V) (k : K) (g : V → V) : StorageMap K V :=
  Function.update m k ((m k).map g)

@[simp] theorem mapValues_insert (f : V → W) (m : StorageMap K V) (k : K) (v : V) :
    mapValues f (m.insert k v) = (mapValues f m).insert k (f v) := by
  funext j
  by_cases hj : j = k
  · subst hj
    rw [mapValues, insert_self, insert_self]
    rfl
  · rw [mapValues, insert_ne hj, insert_ne hj]
    rfl

@[simp] theorem mapValues_remove (f : V → W) (m : StorageMap K V) (k : K) :
    mapValues f (m.remove k) = (mapValues f m).remove k := by
  funext j
  by_cases hj : j = k
  · subst hj
    rw [mapValues, remove_self, remove_self]
    rfl
  · rw [mapValues, remove_ne hj, remove_ne hj]
    rfl

/-- Where there is a value, changing it is writing the changed one. -/
theorem adjust_eq_insert {m : StorageMap K V} {k : K} {v : V} (h : m k = some v) (g : V → V) :
    m.adjust k g = m.insert k (g v) := by
  rw [adjust, h]
  rfl

/-- A value is rewritten in place, and `f` sees the change `g` of it. -/
theorem mapValues_rewrite {f : V → W} {m : StorageMap K V} {k : K} {v w : V} {g : W → W}
    (h : m k = some v) (hg : f w = g (f v)) :
    mapValues f (m.insert k w) = (mapValues f m).adjust k g := by
  have hf : mapValues f m k = some (f v) := by rw [mapValues, h, Option.map_some]
  rw [mapValues_insert, adjust_eq_insert hf, hg]

end StorageMap

end Frame
