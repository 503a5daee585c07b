import Mathlib.Data.List.AList

/-!
# Dropping keys from an association list

* `AList.filterKeys` — keep the entries whose key passes a test; `lookup_filterKeys` is its lookup.
* `AList.values` — the values, in order; `mem_values` finds each by a lookup.
-/

set_option autoImplicit false

namespace AList

variable {α β : Type} [DecidableEq α]

/-- Keep the entries whose key passes the test. -/
def filterKeys (p : α → Bool) (s : AList fun _ : α => β) : AList fun _ : α => β :=
  ⟨s.entries.filter fun e => p e.1, s.nodupKeys.sublist List.filter_sublist⟩

@[simp] theorem lookup_filterKeys (p : α → Bool) (s : AList fun _ : α => β) (a : α) :
    (s.filterKeys p).lookup a = if p a then s.lookup a else none := by
  cases hp : p a with
  | true =>
    rw [if_pos rfl]
    cases hl : s.lookup a with
    | some b =>
      rw [← Option.mem_def, mem_lookup_iff] at hl ⊢
      exact List.mem_filter.mpr ⟨hl, hp⟩
    | none =>
      rw [Option.eq_none_iff_forall_ne_some]
      intro b hb
      rw [← Option.mem_def, mem_lookup_iff] at hb
      have := mem_lookup_iff.mpr (List.mem_filter.mp hb).1
      rw [hl] at this
      cases this
  | false =>
    rw [if_neg Bool.false_ne_true, Option.eq_none_iff_forall_ne_some]
    intro b hb
    rw [← Option.mem_def, mem_lookup_iff] at hb
    have := (List.mem_filter.mp hb).2
    rw [hp] at this
    cases this

/-- The values, in the order of their entries. -/
def values (s : AList fun _ : α => β) : List β := s.entries.map fun e => e.2

theorem mem_values {s : AList fun _ : α => β} {b : β} :
    b ∈ s.values ↔ ∃ a, s.lookup a = some b := by
  simp only [values, List.mem_map]
  constructor
  · rintro ⟨⟨a, b⟩, h, rfl⟩
    exact ⟨a, mem_lookup_iff.mpr h⟩
  · rintro ⟨a, h⟩
    exact ⟨⟨a, b⟩, mem_lookup_iff.mp h, rfl⟩

theorem lookup_insert_if (s : AList fun _ : α => β) (a a' : α) (b : β) :
    (s.insert a b).lookup a' = if a' = a then some b else s.lookup a' := by
  split
  · rename_i h; rw [h, lookup_insert]
  · rename_i h; rw [lookup_insert_ne h]

theorem lookup_erase_if (s : AList fun _ : α => β) (a a' : α) :
    (s.erase a).lookup a' = if a' = a then none else s.lookup a' := by
  split
  · rename_i h; rw [h, lookup_erase]
  · rename_i h; rw [lookup_erase_ne h]

end AList
