import Mathlib.Data.List.Duplicate
import Mathlib.Data.List.GetD
import Mathlib.Data.List.Perm.Subperm

/-!
# Sampling without replacement

`pick` takes the elements of a list one after another, each at a random place.  Principal results:
`nodup_pick`, `exists_pick_twice` — what is picked is distinct whatever the random numbers, unless
an element occurs twice in the list.
-/

set_option autoImplicit false

namespace Sampling

variable {α : Type}

/-- `k` elements of the list, each at the place that the next random number names. -/
def pick : List Nat → List α → Nat → List α
  | _, _, 0 => []
  | _, [], _ + 1 => []
  | o, a :: l, k + 1 =>
    (a :: l).getD (o.headD 0 % (l.length + 1)) a ::
      pick o.tail ((a :: l).eraseIdx (o.headD 0 % (l.length + 1))) k

variable {o o' : List Nat} {l : List α} {k : Nat}

/-- The element at the first place, and the others. -/
theorem getD_cons_eraseIdx_perm (a : α) (l : List α) {i : Nat} (hi : i < l.length + 1) :
    ((a :: l).getD i a :: (a :: l).eraseIdx i).Perm (a :: l) := by
  rw [List.getD_eq_getElem _ _ (by simpa using hi)]
  exact List.getElem_cons_eraseIdx_perm (by simpa using hi)

/-- What is picked is part of the list. -/
theorem pick_perm (hk : k ≤ l.length) : ∃ t, (pick o l k ++ t).Perm l := by
  induction k generalizing o l with
  | zero => exact ⟨l, .refl _⟩
  | succ k ih =>
    cases l with
    | nil => exact absurd hk (by simp)
    | cons a l =>
      have hi : o.headD 0 % (l.length + 1) < l.length + 1 := Nat.mod_lt _ l.length.succ_pos
      have hlen : k ≤ ((a :: l).eraseIdx (o.headD 0 % (l.length + 1))).length := by
        rw [List.length_eraseIdx_of_lt (by simpa using hi)]
        simpa using hk
      obtain ⟨t, ht⟩ := ih (o := o.tail) hlen
      exact ⟨t, (ht.cons _).trans (getD_cons_eraseIdx_perm a l hi)⟩

theorem length_pick (hk : k ≤ l.length) : (pick o l k).length = k := by
  induction k generalizing o l with
  | zero => rfl
  | succ k ih =>
    cases l with
    | nil => exact absurd hk (by simp)
    | cons a l =>
      have hi : o.headD 0 % (l.length + 1) < l.length + 1 := Nat.mod_lt _ l.length.succ_pos
      rw [pick, List.length_cons, ih]
      rw [List.length_eraseIdx_of_lt (by simpa using hi)]
      simpa using hk

theorem mem_of_mem_pick (hk : k ≤ l.length) {a : α} (ha : a ∈ pick o l k) : a ∈ l := by
  obtain ⟨t, ht⟩ := pick_perm (o := o) hk
  exact ht.subset (List.mem_append_left t ha)

theorem nodup_pick (hk : k ≤ l.length) (hl : l.Nodup) : (pick o l k).Nodup := by
  obtain ⟨t, ht⟩ := pick_perm (o := o) hk
  exact (ht.nodup_iff.mpr hl).of_append_left

/-- Only the first `k` random numbers matter. -/
theorem pick_append (ho : o.length = k) (o' : List Nat) (l : List α) :
    pick (o ++ o') l k = pick o l k := by
  induction k generalizing o l with
  | zero => rfl
  | succ k ih =>
    cases l with
    | nil => rfl
    | cons a l =>
      cases o with
      | nil => cases ho
      | cons i o =>
        change _ :: pick (o ++ o') _ k = _ :: pick o _ k
        rw [ih (Nat.succ.inj ho)]
        rfl

/-- Any element may be picked first. -/
theorem pick_first {a : α} (ha : a ∈ l) (hk : k + 1 ≤ l.length) :
    ∃ (i : Nat) (l' : List α), (a :: l').Perm l ∧ k ≤ l'.length ∧
      ∀ o, pick (i :: o) l (k + 1) = a :: pick o l' k := by
  obtain ⟨i, hi, rfl⟩ := List.mem_iff_getElem.mp ha
  cases l with
  | nil => cases ha
  | cons b l =>
    have hmod : i % (l.length + 1) = i := Nat.mod_eq_of_lt hi
    refine ⟨i, (b :: l).eraseIdx i, List.getElem_cons_eraseIdx_perm hi, ?_, fun o => ?_⟩
    · rw [List.length_eraseIdx_of_lt hi]
      simpa using hk
    · change (b :: l).getD (i % (l.length + 1)) b :: pick o ((b :: l).eraseIdx
        (i % (l.length + 1))) k = _
      rw [hmod, List.getD_eq_getElem _ _ hi]

/-- An element that occurs twice may be picked twice. -/
theorem exists_pick_twice (hl : ¬l.Nodup) (hk : 2 ≤ k) (hle : k ≤ l.length) :
    ∃ o : List Nat, o.length = k ∧ ¬(pick o l k).Nodup := by
  obtain ⟨a, ha⟩ := List.exists_duplicate_iff_not_nodup.mpr hl
  obtain ⟨t, ht⟩ := (List.duplicate_iff_sublist.mp ha).exists_perm_append
  obtain ⟨k, rfl⟩ := Nat.exists_eq_add_of_le' hk
  obtain ⟨i, l₁, hperm, hlen, hfirst⟩ := pick_first ha.mem hle
  have hmem : a ∈ l₁ :=
    ((List.Perm.cons_inv (hperm.trans ht)).symm.subset List.mem_cons_self)
  obtain ⟨j, l₂, -, -, hsecond⟩ := pick_first hmem hlen
  refine ⟨i :: j :: List.replicate k 0, by simp, fun hnodup => ?_⟩
  rw [hfirst, hsecond] at hnodup
  exact (List.nodup_cons.mp hnodup).1 List.mem_cons_self

end Sampling
