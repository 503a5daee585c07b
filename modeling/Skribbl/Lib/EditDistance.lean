import Mathlib.Data.List.Basic
import Mathlib.Order.Lattice
import Mathlib.Tactic.Cases

/-!
# Edit distance

* `Edit` — one insertion, deletion or substitution; `Edits n s t` — `n` of them turn `s` into `t`.
* `dist` — the recursion on both first elements.

Principal result: `dist_le_iff` — `dist s t` edits are enough, and fewer are not.  The distance is a
metric: `dist_symm`, `dist_le_add`.
-/

set_option autoImplicit false

namespace EditDistance

variable {α : Type}

/-- One edit. -/
inductive Edit : List α → List α → Prop
  | insert (a : α) (l r : List α) : Edit (l ++ r) (l ++ a :: r)
  | delete (a : α) (l r : List α) : Edit (l ++ a :: r) (l ++ r)
  | substitute (a b : α) (l r : List α) : Edit (l ++ a :: r) (l ++ b :: r)

/-- `n` edits, one after the other. -/
inductive Edits : Nat → List α → List α → Prop
  | refl (s : List α) : Edits 0 s s
  | tail {n : Nat} {s t u : List α} : Edits n s t → Edit t u → Edits (n + 1) s u

theorem Edit.symm {s t : List α} (h : Edit s t) : Edit t s := by
  cases h with
  | insert a l r => exact .delete a l r
  | delete a l r => exact .insert a l r
  | substitute a b l r => exact .substitute b a l r

/-- An edit behind a first element. -/
theorem Edit.cons {s t : List α} (c : α) (h : Edit s t) : Edit (c :: s) (c :: t) := by
  cases h with
  | insert a l r => exact .insert a (c :: l) r
  | delete a l r => exact .delete a (c :: l) r
  | substitute a b l r => exact .substitute a b (c :: l) r

theorem Edits.trans {m n : Nat} {s t u : List α} (h : Edits m s t) (h' : Edits n t u) :
    Edits (m + n) s u := by
  induction h' with
  | refl => exact h
  | tail _ he ih => exact (ih h).tail he

theorem Edits.single {s t : List α} (h : Edit s t) : Edits 1 s t := (Edits.refl s).tail h

theorem Edits.head {n : Nat} {s t u : List α} (he : Edit s t) (h : Edits n t u) :
    Edits (n + 1) s u := by
  rw [Nat.add_comm]
  exact (Edits.single he).trans h

theorem Edits.symm {n : Nat} {s t : List α} (h : Edits n s t) : Edits n t s := by
  induction h with
  | refl => exact .refl _
  | tail _ he ih => exact ih.head he.symm

theorem Edits.cons {n : Nat} {s t : List α} (c : α) (h : Edits n s t) :
    Edits n (c :: s) (c :: t) := by
  induction h with
  | refl => exact .refl _
  | tail _ he ih => exact ih.tail (he.cons c)

variable [DecidableEq α]

/-- The edit distance, by recursion on both first elements. -/
def dist : List α → List α → Nat
  | [], t => t.length
  | s, [] => s.length
  | a :: s, b :: t =>
    min (min (dist s (b :: t) + 1) (dist (a :: s) t + 1)) (dist s t + if a = b then 0 else 1)

@[simp] theorem dist_nil_left (t : List α) : dist [] t = t.length := by simp [dist]

@[simp] theorem dist_nil_right (s : List α) : dist s [] = s.length := by cases s <;> simp [dist]

theorem dist_cons (a b : α) (s t : List α) :
    dist (a :: s) (b :: t) =
      min (min (dist s (b :: t) + 1) (dist (a :: s) t + 1))
        (dist s t + if a = b then 0 else 1) := by
  rw [dist]

theorem dist_self (s : List α) : dist s s = 0 := by
  induction s with
  | nil => simp
  | cons a s ih => simp [dist_cons, ih]

theorem dist_symm (s t : List α) : dist s t = dist t s := by
  induction s generalizing t with
  | nil => simp
  | cons a s ihs =>
    induction t with
    | nil => simp
    | cons b t iht =>
      have hab : (if a = b then 0 else 1) = if b = a then 0 else 1 := by simp only [eq_comm]
      rw [dist_cons, dist_cons, ihs (b :: t), ihs t, iht, hab]
      omega

/-! ## Enough edits -/

omit [DecidableEq α] in
theorem edits_to_nil (s : List α) : Edits s.length s [] := by
  induction s with
  | nil => exact .refl _
  | cons a s ih => exact ih.head (.delete a [] s)

/-- The distance is attained. -/
theorem edits_dist (s t : List α) : Edits (dist s t) s t := by
  induction s generalizing t with
  | nil => simpa using (edits_to_nil t).symm
  | cons a s ihs =>
    induction t with
    | nil => simpa using edits_to_nil (a :: s)
    | cons b t iht =>
      rw [dist_cons]
      rcases le_total (min (dist s (b :: t) + 1) (dist (a :: s) t + 1))
        (dist s t + if a = b then 0 else 1) with h | h
      · rw [min_eq_left h]
        rcases le_total (dist s (b :: t) + 1) (dist (a :: s) t + 1) with h | h
        · rw [min_eq_left h]
          exact (ihs (b :: t)).head (.delete a [] s)
        · rw [min_eq_right h]
          exact iht.tail (.insert b [] t)
      · rw [min_eq_right h]
        split
        · rename_i hab
          exact hab ▸ (ihs t).cons a
        · exact ((ihs t).cons a).tail (.substitute a b [] t)

/-! ## No fewer edits -/

/-- One more element at the front costs at most one edit, and saves at most one. -/
theorem dist_cons_left (a : α) (s t : List α) :
    dist (a :: s) t ≤ dist s t + 1 ∧ dist s t ≤ dist (a :: s) t + 1 := by
  induction t generalizing a s with
  | nil =>
    rw [dist_nil_right, dist_nil_right, List.length_cons]
    omega
  | cons b t ih =>
    have h₁ := ih a s
    rw [dist_cons]
    constructor
    · omega
    · have h₂ : dist s (b :: t) ≤ dist s t + 1 := by
        cases s with
        | nil => simp
        | cons c s =>
          rw [dist_cons]
          omega
      omega

/-- Two first elements cost one edit at most. -/
theorem dist_substitute (a b : α) (s u : List α) : dist (a :: s) u ≤ dist (b :: s) u + 1 := by
  induction u with
  | nil => simp
  | cons c u ih =>
    rw [dist_cons, dist_cons]
    split <;> split <;> omega

/-- An edit that costs one at most does so behind any first element. -/
theorem dist_behind {s t : List α} (h : ∀ u, dist s u ≤ dist t u + 1) (c : α) (u : List α) :
    dist (c :: s) u ≤ dist (c :: t) u + 1 := by
  induction u with
  | nil => simpa using h []
  | cons b u ih =>
    have h₁ := h (b :: u)
    have h₂ := h u
    rw [dist_cons, dist_cons]
    omega

theorem dist_after {s t : List α} (h : ∀ u, dist s u ≤ dist t u + 1) (l u : List α) :
    dist (l ++ s) u ≤ dist (l ++ t) u + 1 := by
  induction l generalizing u with
  | nil => exact h u
  | cons c l ih => exact dist_behind ih c u

/-- One edit changes the distance by one at most. -/
theorem dist_edit {s t : List α} (u : List α) (h : Edit s t) : dist s u ≤ dist t u + 1 := by
  cases h with
  | insert a l r => exact dist_after (fun u => (dist_cons_left a r u).2) l u
  | delete a l r => exact dist_after (fun u => (dist_cons_left a r u).1) l u
  | substitute a b l r => exact dist_after (dist_substitute a b r) l u

/-- **The distance is the least number of edits.** -/
theorem dist_le_of_edits {n : Nat} {s t : List α} (h : Edits n s t) : dist s t ≤ n := by
  suffices ∀ u, dist s u ≤ dist t u + n by simpa [dist_self] using this t
  induction h with
  | refl => exact fun u => Nat.le_refl _
  | tail _ he ih =>
    intro u
    have h₁ := ih u
    have h₂ := dist_edit u he
    omega

theorem dist_le_iff {n : Nat} {s t : List α} : dist s t ≤ n ↔ ∃ m ≤ n, Edits m s t := by
  refine ⟨fun h => ⟨dist s t, h, edits_dist s t⟩, fun h => ?_⟩
  obtain ⟨m, hm, hedits⟩ := h
  exact (dist_le_of_edits hedits).trans hm

theorem dist_le_add (s t u : List α) : dist s u ≤ dist s t + dist t u :=
  dist_le_of_edits ((edits_dist s t).trans (edits_dist t u))

/-! ## From the other end -/

omit [DecidableEq α] in
theorem Edit.reverse {s t : List α} (h : Edit s t) : Edit s.reverse t.reverse := by
  cases h with
  | insert a l r => simpa using Edit.insert a r.reverse l.reverse
  | delete a l r => simpa using Edit.delete a r.reverse l.reverse
  | substitute a b l r => simpa using Edit.substitute a b r.reverse l.reverse

omit [DecidableEq α] in
theorem Edits.reverse {n : Nat} {s t : List α} (h : Edits n s t) :
    Edits n s.reverse t.reverse := by
  induction h with
  | refl => exact .refl _
  | tail _ he ih => exact ih.tail he.reverse

theorem dist_reverse (s t : List α) : dist s.reverse t.reverse = dist s t := by
  apply Nat.le_antisymm
  · exact dist_le_of_edits (edits_dist s t).reverse
  · have h := (edits_dist s.reverse t.reverse).reverse
    rw [List.reverse_reverse, List.reverse_reverse] at h
    exact dist_le_of_edits h

/-- The recursion on both last elements. -/
theorem dist_snoc (a b : α) (s t : List α) :
    dist (s ++ [a]) (t ++ [b]) =
      min (min (dist s (t ++ [b]) + 1) (dist (s ++ [a]) t + 1))
        (dist s t + if a = b then 0 else 1) := by
  rw [← dist_reverse s (t ++ [b]), ← dist_reverse (s ++ [a]) t, ← dist_reverse s t,
    ← dist_reverse (s ++ [a]) (t ++ [b])]
  simp only [List.reverse_append, List.reverse_singleton, List.singleton_append]
  exact dist_cons a b s.reverse t.reverse

end EditDistance
