import Mathlib.Data.List.Range
import Mathlib.Logic.Function.Basic

/-!
# Slices over shared backing arrays

The slices of Go: a slice is a window on a backing array in the heap, and several slices may share
one array.

* `Heap.make` / `Slice.tail` / `Heap.append` — `make([]T, 0, n)`, `s[1:]` and `append(s, x)`.
* `Heap.contents` — the elements of a slice.

Principal results: `contents_make`, `contents_tail`, `contents_append` — what the operations do to
the slice itself; `append_apart` — a slice on another backing array keeps its elements.
-/

set_option autoImplicit false

namespace Slices

/-- A window on a backing array: the elements from `off`, `len` of them, with room for `cap`. -/
structure Slice where
  array : Nat
  off : Nat
  len : Nat
  cap : Nat

/-- `s[1:]` of a slice that is not empty. -/
def Slice.tail (s : Slice) : Slice := ⟨s.array, s.off + 1, s.len - 1, s.cap - 1⟩

/-- The backing arrays, and the name of the next one. -/
structure Heap (α : Type) where
  cells : Nat → Nat → α
  next : Nat

variable {α : Type} [Inhabited α] {H : Heap α} {s : Slice}

/-- A heap without an array. -/
def Heap.empty : Heap α := ⟨fun _ _ => default, 0⟩

/-- The elements of a slice. -/
def Heap.contents (H : Heap α) (s : Slice) : List α :=
  (List.range s.len).map fun i => H.cells s.array (s.off + i)

/-- `make([]T, 0, n)`. -/
def Heap.make (H : Heap α) (n : Nat) : Heap α × Slice :=
  (⟨Function.update H.cells H.next fun _ => default, H.next + 1⟩, ⟨H.next, 0, 0, n⟩)

/-- A new backing array with the elements of a slice at its front. -/
def Heap.copy (H : Heap α) (s : Slice) (i : Nat) : α :=
  if i < s.len then H.cells s.array (s.off + i) else default

/-- `append(s, x)`: in place while there is room, and else in a new array, whose capacity is
`grow` of the old one. -/
def Heap.append (grow : Nat → Nat) (H : Heap α) (s : Slice) (x : α) : Heap α × Slice :=
  if s.len < s.cap then
    (⟨Function.update H.cells s.array
        (Function.update (H.cells s.array) (s.off + s.len) x), H.next⟩,
      { s with len := s.len + 1 })
  else
    (⟨Function.update H.cells H.next (Function.update (H.copy s) s.len x), H.next + 1⟩,
      ⟨H.next, 0, s.len + 1, max (grow s.cap) (s.len + 1)⟩)

/-- The slice is on an array of the heap. -/
def Slice.Valid (H : Heap α) (s : Slice) : Prop := s.array < H.next

omit [Inhabited α] in
@[simp] theorem length_contents : (H.contents s).length = s.len := by simp [Heap.contents]

omit [Inhabited α] in
theorem contents_congr {H' : Heap α} (h : H'.cells s.array = H.cells s.array) :
    H'.contents s = H.contents s := by
  simp [Heap.contents, h]

theorem contents_make (n : Nat) : (H.make n).1.contents (H.make n).2 = [] := rfl

theorem valid_make (n : Nat) : (H.make n).2.Valid (H.make n).1 := Nat.lt_succ_self _

omit [Inhabited α] in
theorem contents_tail : H.contents s.tail = (H.contents s).drop 1 := by
  apply List.ext_getElem
  · simp [Heap.contents, Slice.tail]
  · intro i _ _
    simp [Heap.contents, Slice.tail, Nat.add_assoc, Nat.add_comm 1 i]

/-- An array that is allocated later is another one. -/
theorem make_apart (h : s.Valid H) (n : Nat) : (H.make n).1.contents s = H.contents s :=
  contents_congr (Function.update_of_ne (Nat.ne_of_lt h) _ _)

/-- **An append adds one element at the end.** -/
theorem contents_append (grow : Nat → Nat) (H : Heap α) (s : Slice) (x : α) :
    (H.append grow s x).1.contents (H.append grow s x).2 = H.contents s ++ [x] := by
  unfold Heap.append
  split
  · simp only [Heap.contents, Function.update_self, List.range_succ, List.map_append,
      List.map_singleton]
    congr 1
    apply List.map_congr_left
    intro i hi
    apply Function.update_of_ne
    have := List.mem_range.mp hi
    omega
  · simp only [Heap.contents, Function.update_self, List.range_succ, List.map_append,
      List.map_singleton, Nat.zero_add]
    congr 1
    apply List.map_congr_left
    intro i hi
    have hlt := List.mem_range.mp hi
    rw [Function.update_of_ne (Nat.ne_of_lt hlt)]
    exact if_pos hlt

theorem valid_append (grow : Nat → Nat) (h : s.Valid H) (x : α) :
    (H.append grow s x).2.Valid (H.append grow s x).1 := by
  unfold Heap.append
  split
  · exact h
  · exact Nat.lt_succ_self _

theorem next_append (grow : Nat → Nat) (H : Heap α) (s : Slice) (x : α) :
    H.next ≤ (H.append grow s x).1.next := by
  unfold Heap.append
  split
  · exact Nat.le_refl _
  · exact Nat.le_succ _

/-- An append moves its slice to a new array, or leaves it on its own. -/
theorem array_append (grow : Nat → Nat) (H : Heap α) (s : Slice) (x : α) :
    (H.append grow s x).2.array = s.array ∨ (H.append grow s x).2.array = H.next := by
  unfold Heap.append
  split
  · exact .inl rfl
  · exact .inr rfl

/-- **A slice on another array keeps its elements.** -/
theorem append_apart (grow : Nat → Nat) {t : Slice} (ht : t.Valid H) (hne : t.array ≠ s.array)
    (x : α) : (H.append grow s x).1.contents t = H.contents t := by
  unfold Heap.append
  split
  · exact contents_congr (Function.update_of_ne hne _ _)
  · exact contents_congr (Function.update_of_ne (Nat.ne_of_lt ht) _ _)

end Slices
