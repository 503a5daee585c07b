import Mathlib.Logic.Function.Basic
import Skribbl.Lib.FilterKeys

/-!
# Maps of maps

* `TwoLevel` — a map whose values are maps; `TwoLevel.find` — the value under two keys.
* `TwoLevel.set` — a value is put under two keys, and the inner map is made if there is none.
* `TwoLevel.sweep` — some inner keys are deleted everywhere, with the inner maps that become empty.
* `TwoLevel.NoEmpty` — no inner map is empty.

Principal results: `find_set`, `find_sweep` — the values afterwards; `NoEmpty.set`, `NoEmpty.sweep`
— no inner map is empty afterwards.
-/

set_option autoImplicit false

/-- A map of maps. -/
abbrev TwoLevel (κ ι α : Type) := κ → Option (AList fun _ : ι => α)

namespace TwoLevel

variable {κ ι α : Type} [DecidableEq κ] [DecidableEq ι]

omit [DecidableEq κ] in
/-- The value under two keys. -/
def find (m : TwoLevel κ ι α) (k : κ) (i : ι) : Option α := (m k).bind (·.lookup i)

/-- A value under two keys. -/
def set (m : TwoLevel κ ι α) (k : κ) (i : ι) (a : α) : TwoLevel κ ι α :=
  Function.update m k (some (((m k).getD ∅).insert i a))

/-- An inner map without some keys, unless nothing is left. -/
def prune (dead : List ι) (l : AList fun _ : ι => α) : Option (AList fun _ : ι => α) :=
  let l := l.filterKeys (· ∉ dead)
  if l.entries.isEmpty then none else some l

/-- Some inner keys are deleted everywhere. -/
def sweep (m : TwoLevel κ ι α) (dead : List ι) : TwoLevel κ ι α := fun k => (m k).bind (prune dead)

/-- No inner map is empty. -/
def NoEmpty (m : TwoLevel κ ι α) : Prop := ∀ k l, m k = some l → l.entries ≠ []

theorem lookup_of_isEmpty {l : AList fun _ : ι => α} (h : l.entries = []) (i : ι) :
    l.lookup i = none := by
  unfold AList.lookup
  rw [h]
  rfl

/-- What is left of an inner map. -/
theorem lookup_prune (dead : List ι) (l : AList fun _ : ι => α) (i : ι) :
    (prune dead l).bind (·.lookup i) = if i ∈ dead then none else l.lookup i := by
  have hlookup : (l.filterKeys (· ∉ dead)).lookup i = if i ∈ dead then none else l.lookup i := by
    rw [AList.lookup_filterKeys]
    by_cases hi : i ∈ dead <;> simp [hi]
  unfold prune
  dsimp only
  split
  · rename_i hempty
    rw [← hlookup, lookup_of_isEmpty (List.isEmpty_iff.mp hempty)]
    rfl
  · exact hlookup

omit [DecidableEq κ] in
theorem find_sweep (m : TwoLevel κ ι α) (dead : List ι) (k : κ) (i : ι) :
    (m.sweep dead).find k i = if i ∈ dead then none else m.find k i := by
  unfold find sweep
  cases m k with
  | none => simp
  | some l => exact lookup_prune dead l i

theorem find_set (m : TwoLevel κ ι α) (k k' : κ) (i i' : ι) (a : α) :
    (m.set k i a).find k' i' = if k' = k ∧ i' = i then some a else m.find k' i' := by
  unfold find set
  by_cases hk : k' = k
  · subst hk
    rw [Function.update_self, Option.bind_some, AList.lookup_insert_if]
    by_cases hi : i' = i
    · simp [hi]
    · cases hm : m k' with
      | none => simp [hi]
      | some l => simp [hi]
  · rw [Function.update_of_ne hk, if_neg fun h => hk h.1]

theorem NoEmpty.set {m : TwoLevel κ ι α} (h : m.NoEmpty) (k : κ) (i : ι) (a : α) :
    (m.set k i a).NoEmpty := by
  intro k' l hl
  unfold TwoLevel.set at hl
  by_cases hk : k' = k
  · subst hk
    rw [Function.update_self] at hl
    cases hl
    intro hnil
    have hlookup := lookup_of_isEmpty hnil i
    rw [AList.lookup_insert] at hlookup
    cases hlookup
  · rw [Function.update_of_ne hk] at hl
    exact h k' l hl

omit [DecidableEq κ] in
theorem NoEmpty.sweep (m : TwoLevel κ ι α) (dead : List ι) : (m.sweep dead).NoEmpty := by
  intro k l hl
  unfold TwoLevel.sweep at hl
  obtain ⟨l', -, hprune⟩ := Option.bind_eq_some_iff.mp hl
  unfold prune at hprune
  dsimp only at hprune
  split at hprune
  · cases hprune
  · rename_i hne
    cases hprune
    exact fun hnil => hne (List.isEmpty_iff.mpr hnil)

end TwoLevel
