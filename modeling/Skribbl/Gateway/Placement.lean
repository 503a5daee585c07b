import Mathlib.Algebra.Order.Ring.Rat
import Mathlib.Logic.Relation
import Mathlib.Tactic.Linarith
import Mathlib.Tactic.Ring

/-!
# Placing rooms on workers (`selectLeastLoadedWorker`, `report_worker_load`)

The workers report their connections to the sorted set `worker_load`.  A gateway that looks for a
worker reads the first of it and then adds five to its score, in two commands of Redis; any number
of gateways may do so at once.

* `Placement` — `worker_load`, and how many calls have read a worker and not yet added to its score.
* `Placement.Places` — calls of `selectLeastLoadedWorker`, of which at most `P` are at the same
  worker between their two commands.

Principal results: `balanced_of_run` — between reports no worker gets more than `5 * P` ahead of
another, unless its own score was that high before; `unlisted_of_run` — a worker that has been
delisted is selected again only if it reports, or a call had read it before and added to its score
afterwards.
-/

set_option autoImplicit false

namespace Skribbl.Gateway

/-- `worker_load` by the workers' ids, and for each worker the calls of `selectLeastLoadedWorker`
that have read it and not yet added to its score. -/
structure Placement where
  workerLoad : String → Option ℚ := fun _ => none
  chosen : String → Nat := fun _ => 0

namespace Placement

variable {s s' s₀ : Placement} {id : String} {P : Nat} {x y : ℚ}

/-- `ZRANGE worker_load 0 0` may return the worker: it has the least score.  Redis takes the least
id of several such workers, but nothing depends on which it is. -/
def First (s : Placement) (id : String) : Prop :=
  ∃ x, s.workerLoad id = some x ∧ ∀ i y, s.workerLoad i = some y → x ≤ y

/-- `ZINCRBY worker_load 5`, which enters a worker that is not there. -/
def zincrBy (s : Placement) (id : String) : Placement where
  workerLoad := Function.update s.workerLoad id (some ((s.workerLoad id).getD 0 + 5))
  chosen := Function.update s.chosen id (s.chosen id - 1)

/-- What happens. -/
inductive PlacementAction where
  | zrange (id : String)
  | zincrBy (id : String)
  /-- `report_worker_load`. -/
  | report (id : String) (connections : Nat) (jitter : ℚ)
  /-- `set_worker_draining` and `CleanupDeadWorker`. -/
  | zrem (id : String)
  /-- The key is not refreshed for two minutes. -/
  | expire

/-- When it can happen. -/
def Possible (s : Placement) : PlacementAction → Prop
  | .zrange id => s.First id
  | .zincrBy id => 0 < s.chosen id
  | .report _ _ jitter => 0 ≤ jitter ∧ jitter ≤ 99 / 100
  | .zrem _ => True
  | .expire => True

def step (s : Placement) : PlacementAction → Placement
  | .zrange id => { s with chosen := Function.update s.chosen id (s.chosen id + 1) }
  | .zincrBy id => s.zincrBy id
  | .report id connections jitter =>
    { s with workerLoad := Function.update s.workerLoad id (some (connections + jitter)) }
  | .zrem id => { s with workerLoad := Function.update s.workerLoad id none }
  | .expire => { s with workerLoad := fun _ => none }

/-- One step that meets a condition. -/
def Step (cond : Placement → PlacementAction → Prop) (s s' : Placement) : Prop :=
  ∃ a, s.Possible a ∧ cond s a ∧ s' = s.step a

/-- A run: any number of steps. -/
def Run (cond : Placement → PlacementAction → Prop) : Placement → Placement → Prop :=
  Relation.ReflTransGen (Step cond)

/-! ## Balance -/

/-- Only calls of `selectLeastLoadedWorker`, with at most `P` at the same worker. -/
def Places (P : Nat) (s : Placement) : PlacementAction → Prop
  | .zrange id => s.chosen id < P
  | .zincrBy _ => True
  | _ => False

/-- With what is going to be added to its score, no worker is more than `5 * P` ahead of another,
unless it was that high in `s₀`; only workers that are listed are read. -/
structure Balanced (s₀ : Placement) (P : Nat) (s : Placement) : Prop where
  bound : ∀ i x j y, s.workerLoad i = some x → s.workerLoad j = some y →
    ∃ x₀, s₀.workerLoad i = some x₀ ∧ x + 5 * s.chosen i ≤ max x₀ (y + 5 * P)
  listed : ∀ id, 0 < s.chosen id → ∃ x, s.workerLoad id = some x

theorem Balanced.start (hchosen : ∀ id, s₀.chosen id = 0) : Balanced s₀ P s₀ := by
  refine ⟨fun i x j y hx _ => ⟨x, hx, ?_⟩, fun id hid => absurd (hchosen id) hid.ne'⟩
  rw [hchosen i, Nat.cast_zero, mul_zero, add_zero]
  exact le_max_left x _

/-- A call reads the first worker. -/
theorem Balanced.zrange (h : Balanced s₀ P s) (hfirst : s.First id) (hP : s.chosen id < P) :
    Balanced s₀ P (s.step (.zrange id)) := by
  obtain ⟨z, hz, hleast⟩ := hfirst
  constructor
  · intro i x j y hx hy
    obtain ⟨x₀, hx₀, hbound⟩ := h.bound i x j y hx hy
    refine ⟨x₀, hx₀, ?_⟩
    change x + 5 * (Function.update s.chosen id (s.chosen id + 1) i : Nat) ≤ _
    by_cases hi : i = id
    · subst hi
      have hxy : x ≤ y := by
        cases hx.symm.trans hz
        exact hleast j y hy
      have hchosen : ((s.chosen i + 1 : Nat) : ℚ) ≤ P := by exact_mod_cast hP
      rw [Function.update_self]
      exact le_max_of_le_right (by linarith)
    · rw [Function.update_of_ne hi]
      exact hbound
  · intro i hi
    by_cases hne : i = id
    · exact ⟨z, hne ▸ hz⟩
    · exact h.listed i ((Function.update_of_ne hne (s.chosen id + 1) s.chosen).symm ▸ hi)

/-- A call adds to the score what was counted already. -/
theorem Balanced.zincrBy (h : Balanced s₀ P s) (hchosen : 0 < s.chosen id) :
    Balanced s₀ P (s.zincrBy id) := by
  obtain ⟨z, hz⟩ := h.listed id hchosen
  -- for the others the worker is further ahead than before
  have hgrows : ∀ j y, (s.zincrBy id).workerLoad j = some y →
      ∃ y', s.workerLoad j = some y' ∧ y' ≤ y := by
    intro j y hy
    by_cases hj : j = id
    · subst hj
      have hsum : some ((s.workerLoad j).getD 0 + 5) = some y :=
        (Function.update_self j _ s.workerLoad).symm.trans hy
      rw [hz] at hsum
      cases hsum
      exact ⟨z, hz, by change z ≤ z + 5; linarith⟩
    · exact ⟨y, (Function.update_of_ne hj _ s.workerLoad).symm.trans hy, le_rfl⟩
  constructor
  · intro i x j y hx hy
    obtain ⟨y', hy', hle⟩ := hgrows j y hy
    have hbound : ∀ x', s.workerLoad i = some x' →
        ∃ x₀, s₀.workerLoad i = some x₀ ∧ x' + 5 * s.chosen i ≤ max x₀ (y + 5 * P) := by
      intro x' hx'
      obtain ⟨x₀, hx₀, hle₀⟩ := h.bound i x' j y' hx' hy'
      exact ⟨x₀, hx₀, hle₀.trans (max_le_max_left x₀ (by linarith))⟩
    change ∃ x₀, _ ∧ x + 5 * (Function.update s.chosen id (s.chosen id - 1) i : Nat) ≤ _
    by_cases hi : i = id
    · subst hi
      have hsum : some ((s.workerLoad i).getD 0 + 5) = some x :=
        (Function.update_self i _ s.workerLoad).symm.trans hx
      rw [hz] at hsum
      cases hsum
      have hcast : ((s.chosen i - 1 : Nat) : ℚ) = s.chosen i - 1 := by
        rw [Nat.cast_sub hchosen, Nat.cast_one]
      obtain ⟨x₀, hx₀, hle₀⟩ := hbound z hz
      refine ⟨x₀, hx₀, ?_⟩
      rw [Function.update_self, hcast]
      change z + 5 + 5 * ((s.chosen i : ℚ) - 1) ≤ _
      calc z + 5 + 5 * ((s.chosen i : ℚ) - 1) = z + 5 * s.chosen i := by ring
        _ ≤ max x₀ (y + 5 * P) := hle₀
    · rw [Function.update_of_ne hi]
      exact hbound x ((Function.update_of_ne hi _ s.workerLoad).symm.trans hx)
  · intro i hi
    by_cases hne : i = id
    · rw [hne]
      exact ⟨_, Function.update_self ..⟩
    · obtain ⟨x, hx⟩ := h.listed i ((Function.update_of_ne hne _ s.chosen).symm ▸ hi)
      exact ⟨x, (Function.update_of_ne hne _ s.workerLoad).trans hx⟩

theorem Balanced.run (h : Balanced s₀ P s) (hrun : Run (Places P) s s') : Balanced s₀ P s' := by
  induction hrun with
  | refl => exact h
  | tail _ hstep ih =>
    obtain ⟨a, hpossible, hplaces, rfl⟩ := hstep
    cases a with
    | zrange id => exact ih.zrange hpossible hplaces
    | zincrBy id => exact ih.zincrBy hpossible
    | _ => exact hplaces.elim

/-- **Placing keeps the balance**: while nobody reports and at most `P` calls at once are at the
same worker, no worker's score gets more than `5 * P` above that of another, unless it was that high
itself at the start. -/
theorem balanced_of_run (h : Run (Places P) s₀ s) (hchosen : ∀ id, s₀.chosen id = 0) {i : String}
    (hx : s.workerLoad id = some x) (hy : s.workerLoad i = some y) :
    ∃ x₀, s₀.workerLoad id = some x₀ ∧ x ≤ max x₀ (y + 5 * P) := by
  have hbalanced : Balanced s₀ P s := (Balanced.start hchosen).run h
  obtain ⟨x₀, hx₀, hbound⟩ := hbalanced.bound id x i y hx hy
  have hpending : (0 : ℚ) ≤ 5 * s.chosen id := by positivity
  refine ⟨x₀, hx₀, ?_⟩
  calc x ≤ x + 5 * s.chosen id := by linarith
    _ ≤ max x₀ (y + 5 * P) := hbound

/-- Two workers without connections. -/
def twoIdle : Placement where
  workerLoad id := if id = "a" ∨ id = "b" then some 0 else none

theorem twoIdle_load (h : twoIdle.workerLoad id = some x) : x = 0 := by
  unfold twoIdle at h
  dsimp only at h
  split at h
  · exact (Option.some.inj h).symm
  · cases h

/-- The first of them takes a room. -/
theorem balanced_twoIdle :
    ((twoIdle.step (.zrange "a")).step (.zincrBy "a")).workerLoad "a" = some 5 ∧
      ∃ x₀, twoIdle.workerLoad "a" = some x₀ ∧ (5 : ℚ) ≤ max x₀ (0 + 5 * (1 : Nat)) := by
  have hfirst : twoIdle.First "a" :=
    ⟨0, rfl, fun i y hy => (twoIdle_load hy).ge⟩
  have hread : Run (Places 1) twoIdle (twoIdle.step (.zrange "a")) :=
    .single ⟨.zrange "a", hfirst, Nat.one_pos, rfl⟩
  have hadded := hread.tail ⟨.zincrBy "a", Nat.one_pos, trivial, rfl⟩
  have ha : ((twoIdle.step (.zrange "a")).step (.zincrBy "a")).workerLoad "a" = some 5 := by
    change some ((some (0 : ℚ)).getD 0 + 5) = some 5
    norm_num
  have hb : ((twoIdle.step (.zrange "a")).step (.zincrBy "a")).workerLoad "b" = some 0 := rfl
  exact ⟨ha, balanced_of_run hadded (fun _ => rfl) ha hb⟩

/-! ## Delisted workers -/

/-- Everything but a report of the worker. -/
def Silent (id : String) (_ : Placement) : PlacementAction → Prop
  | .report i _ _ => i ≠ id
  | _ => True

/-- A worker that is not listed, and that no call has read without adding to its score. -/
def Unlisted (id : String) (s : Placement) : Prop := s.workerLoad id = none ∧ s.chosen id = 0

/-- It is not read then, and so its score is not added to. -/
theorem Unlisted.step (h : Unlisted id s) (hstep : Step (Silent id) s s') : Unlisted id s' := by
  obtain ⟨hload, hchosen⟩ := h
  obtain ⟨a, hpossible, hsilent, rfl⟩ := hstep
  cases a with
  | zrange i =>
    have hne : id ≠ i := by
      rintro rfl
      obtain ⟨x, hx, -⟩ := hpossible
      cases hload.symm.trans hx
    exact ⟨hload, (Function.update_of_ne hne ..).trans hchosen⟩
  | zincrBy i =>
    have hne : id ≠ i := by
      rintro rfl
      exact hpossible.ne' hchosen
    exact ⟨(Function.update_of_ne hne ..).trans hload, (Function.update_of_ne hne ..).trans hchosen⟩
  | report i connections jitter =>
    exact ⟨(Function.update_of_ne hsilent.symm ..).trans hload, hchosen⟩
  | zrem i =>
    refine ⟨?_, hchosen⟩
    change Function.update s.workerLoad i none id = none
    by_cases hi : id = i
    · rw [hi, Function.update_self]
    · rw [Function.update_of_ne hi, hload]
  | expire => exact ⟨rfl, hchosen⟩

/-- **A delisted worker stays out**: a worker that is not in `worker_load`, and whose score no call
is about to add to, is neither listed nor selected again before it reports, whatever else
happens. -/
theorem unlisted_of_run (h : Run (Silent id) s s') (hload : s.workerLoad id = none)
    (hchosen : s.chosen id = 0) : s'.workerLoad id = none ∧ s'.chosen id = 0 := by
  have hunlisted : Unlisted id s' := by
    induction h with
    | refl => exact ⟨hload, hchosen⟩
    | tail _ hstep ih => exact ih.step hstep
  exact hunlisted

/-- A worker is delisted, and another one is read. -/
theorem unlisted_twoIdle :
    ((twoIdle.step (.zrem "a")).step (.zrange "b")).workerLoad "a" = none ∧
      ((twoIdle.step (.zrem "a")).step (.zrange "b")).chosen "a" = 0 := by
  have hfirst : (twoIdle.step (.zrem "a")).First "b" := by
    refine ⟨0, rfl, fun i y hy => ?_⟩
    by_cases hi : i = "a"
    · rw [hi] at hy
      cases hy
    · exact (twoIdle_load ((Function.update_of_ne hi ..).symm.trans hy)).ge
  have hread : Run (Silent "a") (twoIdle.step (.zrem "a")) _ :=
    .single ⟨.zrange "b", hfirst, trivial, rfl⟩
  exact unlisted_of_run hread rfl rfl

-- a call that had read the worker lists it again, as if it had five connections
example :
    (((twoIdle.step (.zrange "a")).step (.zrem "a")).zincrBy "a").workerLoad "a" = some 5 := by
  change some ((none : Option ℚ).getD 0 + 5) = some 5
  norm_num

end Placement

end Skribbl.Gateway
