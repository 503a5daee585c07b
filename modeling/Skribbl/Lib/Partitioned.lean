import Mathlib.Data.List.Nodup
import Mathlib.Data.List.Perm.Basic
import Mathlib.Logic.Function.Basic
import Mathlib.Tactic.SplitIfs

/-!
# A map that is kept as a whole and in parts

* `Partitioned` — an association list of all entries, and for each of the registered parts the list
  of its own entries.

Principal results: `Partitioned.add`, `drop`, `removePart`, `addPart` — the changes that keep the
whole and the parts together.
-/

set_option autoImplicit false

namespace AssocList

variable {ι κ ρ β : Type} [DecidableEq κ]

/-- Every entry belongs to a registered part, and each registered part has its own entries.  A part
is registered under a name. -/
structure Partitioned (parts : List (κ × ρ)) (partOf : β → κ) (all : List (ι × β))
    (own : ρ → List (ι × β)) : Prop where
  keys : (all.map (·.1)).Nodup
  registered : ∀ x ∈ all, partOf x.2 ∈ parts.map (·.1)
  own : ∀ y ∈ parts, own y.2 = all.filter fun x => partOf x.2 = y.1

variable {parts : List (κ × ρ)} {partOf : β → κ} {all : List (ι × β)} {own own' : ρ → List (ι × β)}

theorem Partitioned.empty (parts : List (κ × ρ)) (partOf : β → κ) :
    Partitioned parts partOf ([] : List (ι × β)) fun _ => [] :=
  ⟨List.nodup_nil, nofun, fun _ _ => rfl⟩

/-- Entries with the same key are the same. -/
theorem Partitioned.entry_unique (h : Partitioned parts partOf all own) {x y : ι × β}
    (hx : x ∈ all) (hy : y ∈ all) (hkey : x.1 = y.1) : x = y :=
  List.inj_on_of_nodup_map h.keys hx hy hkey

/-- **A new entry** of a registered part. -/
theorem Partitioned.add [DecidableEq ρ] (h : Partitioned parts partOf all own) {y : κ × ρ}
    (hy : y ∈ parts)
    (hinj : ∀ y' ∈ parts, y'.2 = y.2 ↔ y'.1 = y.1) {i : ι} {b : β} (hi : i ∉ all.map (·.1))
    (hb : partOf b = y.1) :
    Partitioned parts partOf (all ++ [(i, b)])
      (Function.update own y.2 (own y.2 ++ [(i, b)])) where
  keys := by
    rw [List.map_append]
    exact h.keys.append (List.nodup_singleton i) (by simpa using hi)
  registered x hx := by
    rcases List.mem_append.mp hx with hx | hx
    · exact h.registered x hx
    · rw [List.mem_singleton.mp hx, hb]
      exact List.mem_map_of_mem hy
  own y' hy' := by
    rw [List.filter_append]
    by_cases hsame : y'.2 = y.2
    · have hname := (hinj y' hy').mp hsame
      simp [hsame, h.own y hy, hname, hb]
    · have hname : ¬y.1 = y'.1 := fun heq => hsame ((hinj y' hy').mpr heq.symm)
      simp [Function.update_of_ne hsame, h.own y' hy', hb, hname]

/-- **An entry goes**, from the whole and from its part. -/
theorem Partitioned.drop [DecidableEq ι] [DecidableEq ρ] (h : Partitioned parts partOf all own)
    (i : ι) {r : ρ}
    (hr : ∀ y ∈ parts, ∀ x ∈ all, x.1 = i → partOf x.2 = y.1 → y.2 = r) :
    Partitioned parts partOf (all.filter (·.1 ≠ i))
      (Function.update own r ((own r).filter (·.1 ≠ i))) where
  keys := h.keys.sublist (List.filter_sublist.map _)
  registered x hx := h.registered x (List.mem_filter.mp hx).1
  own y hy := by
    have hcomm : ((all.filter fun x => partOf x.2 = y.1).filter (·.1 ≠ i)) =
        (all.filter (·.1 ≠ i)).filter fun x => partOf x.2 = y.1 := by
      rw [List.filter_filter, List.filter_filter]
      exact List.filter_congr fun x _ => Bool.and_comm _ _
    by_cases hsame : y.2 = r
    · subst hsame
      rw [Function.update_self, h.own y hy, hcomm]
    · rw [Function.update_of_ne hsame, h.own y hy, ← hcomm]
      refine (List.filter_eq_self.mpr fun x hx => ?_).symm
      obtain ⟨hmem, hpart⟩ := List.mem_filter.mp hx
      simp only [decide_eq_true_eq] at hpart ⊢
      exact fun hkey => hsame (hr y hy x hmem hkey hpart)

/-- **A part goes** with its entries. -/
theorem Partitioned.removePart (h : Partitioned parts partOf all own) (k : κ) :
    Partitioned (parts.filter (·.1 ≠ k)) partOf (all.filter fun x => partOf x.2 ≠ k) own where
  keys := h.keys.sublist (List.filter_sublist.map _)
  registered x hx := by
    obtain ⟨hmem, hne⟩ := List.mem_filter.mp hx
    obtain ⟨y, hy, heq⟩ := List.mem_map.mp (h.registered x hmem)
    exact List.mem_map.mpr ⟨y, List.mem_filter.mpr ⟨hy, by simpa [heq] using hne⟩, heq⟩
  own y hy := by
    obtain ⟨hmem, hne⟩ := List.mem_filter.mp hy
    rw [h.own y hmem, List.filter_filter]
    refine List.filter_congr fun x _ => ?_
    by_cases hpart : partOf x.2 = y.1
    · simpa [hpart] using hne
    · simp [hpart]

/-- **A new part**, without entries. -/
theorem Partitioned.addPart (h : Partitioned parts partOf all own) {k : κ} {r : ρ}
    (hk : k ∉ parts.map (·.1)) (hr : own r = []) :
    Partitioned (parts ++ [(k, r)]) partOf all own where
  keys := h.keys
  registered x hx := by
    rw [List.map_append]
    exact List.mem_append_left _ (h.registered x hx)
  own y hy := by
    rcases List.mem_append.mp hy with hy | hy
    · exact h.own y hy
    · obtain rfl : y = (k, r) := List.mem_singleton.mp hy
      rw [hr]
      refine (List.filter_eq_nil_iff.mpr fun x hx => ?_).symm
      simp only [decide_eq_true_eq]
      exact fun heq => hk (heq ▸ h.registered x hx)

/-- Only the entries of registered parts count. -/
theorem Partitioned.congr (h : Partitioned parts partOf all own)
    (hown : ∀ y ∈ parts, own' y.2 = own y.2) : Partitioned parts partOf all own' :=
  ⟨h.keys, h.registered, fun y hy => (hown y hy).trans (h.own y hy)⟩

end AssocList
