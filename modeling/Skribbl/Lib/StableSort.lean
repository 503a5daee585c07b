import Mathlib.Data.List.Nodup

/-!
# Stable sorting

`IsStableSort le l s` — `s` is `l` in the order `le`, and elements that are equal in this order are
in the order of `l`.  Principal result: `isStableSort_mergeSort`.
-/

set_option autoImplicit false

variable {α : Type} {le : α → α → Bool} {l s : List α}

/-- `s` is `l` sorted, and the sort is stable. -/
structure IsStableSort (le : α → α → Bool) (l s : List α) : Prop where
  perm : s.Perm l
  sorted : s.Pairwise fun a b => le a b
  stable : ∀ a b, List.Sublist [a, b] s → le b a → List.Sublist [a, b] l

/-- Two elements of a list are in one order or the other. -/
theorem pair_sublist_or {a b : α} (ha : a ∈ l) (hb : b ∈ l) (hab : a ≠ b) :
    List.Sublist [a, b] l ∨ List.Sublist [b, a] l := by
  induction l with
  | nil => cases ha
  | cons c l ih =>
    rcases List.mem_cons.mp ha with rfl | ha'
    · refine .inl ((List.singleton_sublist.mpr ?_).cons_cons a)
      exact (List.mem_cons.mp hb).resolve_left hab.symm
    rcases List.mem_cons.mp hb with rfl | hb'
    · exact .inr ((List.singleton_sublist.mpr ha').cons_cons b)
    · exact (ih ha' hb').imp (List.Sublist.cons c) (List.Sublist.cons c)

/-- In a list without duplicates they are in one order only. -/
theorem not_pair_sublist {a b : α} (hl : l.Nodup) (hab : List.Sublist [a, b] l) :
    ¬List.Sublist [b, a] l := by
  induction l with
  | nil => cases hab
  | cons c l ih =>
    obtain ⟨hc, hl⟩ := List.nodup_cons.mp hl
    intro hba
    have hmem : ∀ {x y}, List.Sublist [x, y] l → x ∈ l ∧ y ∈ l := fun h =>
      ⟨h.subset List.mem_cons_self, h.subset (by simp)⟩
    rcases List.sublist_cons_iff.mp hab with hab' | ⟨t, ht, hab'⟩
    · rcases List.sublist_cons_iff.mp hba with hba' | ⟨t, ht, hba'⟩
      · exact ih hl hab' hba'
      · cases ht
        exact hc (hmem hab').2
    · cases ht
      rcases List.sublist_cons_iff.mp hba with hba' | ⟨t, ht, hba'⟩
      · exact hc (hmem hba').2
      · cases ht
        exact hc (hab'.subset List.mem_cons_self)

/-- **Merge sort is stable.** -/
theorem isStableSort_mergeSort (trans : ∀ a b c, le a b → le b c → le a c)
    (total : ∀ a b, le a b || le b a) (hl : l.Nodup) : IsStableSort le l (l.mergeSort le) := by
  have hperm := List.mergeSort_perm l le
  have hnodup : (l.mergeSort le).Nodup := hperm.nodup_iff.mpr hl
  refine ⟨hperm, List.pairwise_mergeSort trans total l, fun a b hab hle => ?_⟩
  have ha : a ∈ l := hperm.subset (hab.subset List.mem_cons_self)
  have hb : b ∈ l := hperm.subset (hab.subset (by simp))
  have hne : a ≠ b := by
    rintro rfl
    exact List.nodup_iff_sublist.mp hnodup a hab
  refine (pair_sublist_or ha hb hne).resolve_right fun hba => ?_
  exact not_pair_sublist hnodup hab (List.pair_sublist_mergeSort trans total hle hba)
