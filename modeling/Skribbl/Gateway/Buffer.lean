import Skribbl.Lib.Slices

/-!
# The reconnect buffer (`gateway/buffer.go`)

`MessageBuffer` holds the messages for a stream that is down.  Its slice shares its backing array
with the slices that it was cut from, and a drained slice belongs to the caller.

* `MessageBuffer.push` / `MessageBuffer.drain` — `Push` and `Drain`.
* `batches` — the messages pushed between one drain and the next.

Principal result: `buffer_run` — every drain hands over the last messages of its batch, and
`Dropped` counts the others.
-/

set_option autoImplicit false

namespace Skribbl.Gateway.Buffer

open Slices

variable {M : Type} [Inhabited M]

/-- `MessageBuffer`, with the heap that its slice lives in. -/
structure MessageBuffer (M : Type) where
  heap : Heap M
  messages : Slice
  maxSize : Nat
  dropped : Nat

/-- `NewMessageBuffer`. -/
def newMessageBuffer (maxSize : Nat) : MessageBuffer M :=
  let (heap, messages) := Heap.empty.make maxSize
  ⟨heap, messages, maxSize, 0⟩

/-- The slice that a push appends to: a full one without its oldest message. -/
def MessageBuffer.window (b : MessageBuffer M) : Slice :=
  if b.maxSize ≤ b.messages.len then b.messages.tail else b.messages

/-- `Push`. -/
def MessageBuffer.push (grow : Nat → Nat) (b : MessageBuffer M) (msg : M) : MessageBuffer M :=
  let messages := b.window
  let dropped := if b.maxSize ≤ b.messages.len then b.dropped + 1 else b.dropped
  let appended := b.heap.append grow messages msg
  ⟨appended.1, appended.2, b.maxSize, dropped⟩

/-- `Drain`. -/
def MessageBuffer.drain (b : MessageBuffer M) : Slice × MessageBuffer M :=
  let msgs := b.messages
  let (heap, messages) := b.heap.make b.maxSize
  (msgs, { b with heap := heap, messages := messages })

/-- `Len` and `Dropped` read the buffer. -/
def MessageBuffer.length (b : MessageBuffer M) : Nat := b.messages.len

/-! ## Runs -/

inductive Op (M : Type) where
  | push (msg : M)
  | drain

/-- A buffer with the slices that it has handed over. -/
structure Run (M : Type) where
  buffer : MessageBuffer M
  drained : List Slice

def Run.step (grow : Nat → Nat) (x : Run M) : Op M → Run M
  | .push msg => { x with buffer := x.buffer.push grow msg }
  | .drain => ⟨x.buffer.drain.2, x.drained ++ [x.buffer.drain.1]⟩

/-- The calls on a new buffer. -/
def run (grow : Nat → Nat) (maxSize : Nat) (ops : List (Op M)) : Run M :=
  ops.foldl (Run.step grow) ⟨newMessageBuffer maxSize, []⟩

/-- All messages that are pushed. -/
def pushed (ops : List (Op M)) : List M :=
  ops.filterMap fun op =>
    match op with
    | .push msg => some msg
    | .drain => none

/-- The messages of each batch that is drained, and those pushed since the last drain. -/
def batches (ops : List (Op M)) : List (List M) × List M :=
  ops.foldl (fun x op =>
    match op with
    | .push msg => (x.1, x.2 ++ [msg])
    | .drain => (x.1 ++ [x.2], [])) ([], [])

/-- The last `n` elements. -/
def lastN {α : Type} (n : Nat) (l : List α) : List α := l.drop (l.length - n)

theorem lastN_sublist {α : Type} (n : Nat) (l : List α) : (lastN n l).Sublist l :=
  List.drop_sublist _ _

@[simp] theorem lastN_nil {α : Type} (n : Nat) : lastN n ([] : List α) = [] := List.drop_nil

@[simp] theorem length_lastN {α : Type} (n : Nat) (l : List α) :
    (lastN n l).length = min l.length n := by
  simp only [lastN, List.length_drop]
  omega

/-- What a push leaves of a full window, and of one that is not. -/
theorem lastN_append {α : Type} {n : Nat} (hn : 0 < n) (l : List α) (a : α) :
    lastN n (l ++ [a]) =
      (if n ≤ (lastN n l).length then (lastN n l).drop 1 else lastN n l) ++ [a] := by
  have hle : (l ++ [a]).length - n ≤ l.length := by
    simp only [List.length_append, List.length_singleton]
    omega
  rw [length_lastN]
  unfold lastN
  rw [List.drop_append_of_le_length hle]
  split
  · rw [List.drop_drop]
    congr 2
    simp only [List.length_append, List.length_singleton]
    omega
  · congr 2
    simp only [List.length_append, List.length_singleton]
    omega

/-- The slices that were handed over are whole, and apart from the buffer's own. -/
structure Run.Inv (cap : Nat) (ops : List (Op M)) (x : Run M) : Prop where
  maxSize : x.buffer.maxSize = cap
  held : x.buffer.heap.contents x.buffer.messages = lastN cap (batches ops).2
  valid : x.buffer.messages.Valid x.buffer.heap
  drained : x.drained.map x.buffer.heap.contents = (batches ops).1.map (lastN cap)
  apart : ∀ t ∈ x.drained, t.Valid x.buffer.heap ∧ t.array ≠ x.buffer.messages.array
  dropped : x.buffer.dropped + ((batches ops).1.map (lastN cap)).flatten.length +
    (lastN cap (batches ops).2).length = (pushed ops).length

variable {cap : Nat} {ops : List (Op M)} {x : Run M}

omit [Inhabited M]

theorem batches_push (msg : M) :
    batches (ops ++ [.push msg]) = ((batches ops).1, (batches ops).2 ++ [msg]) := by
  simp [batches, List.foldl_append]

theorem batches_drain :
    batches (ops ++ [.drain]) = ((batches ops).1 ++ [(batches ops).2], []) := by
  simp [batches, List.foldl_append]

theorem pushed_push (msg : M) : pushed (ops ++ [.push msg]) = pushed ops ++ [msg] := by
  simp [pushed]

theorem pushed_drain : pushed (ops ++ [.drain]) = pushed ops := by simp [pushed]

/-- The batches are the messages that were pushed. -/
theorem batches_pushed (ops : List (Op M)) :
    (batches ops).1.flatten ++ (batches ops).2 = pushed ops := by
  induction ops using List.reverseRecOn with
  | nil => rfl
  | append_singleton ops op ih =>
    cases op with
    | push msg => rw [batches_push, pushed_push, ← ih, List.append_assoc]
    | drain => simp [batches_drain, pushed_drain, ← ih]

theorem window_array (b : MessageBuffer M) : b.window.array = b.messages.array := by
  unfold MessageBuffer.window
  split <;> rfl

variable [Inhabited M]

theorem Run.Inv.push (h : x.Inv cap ops) (hpos : 0 < cap) (grow : Nat → Nat) (msg : M) :
    (x.step grow (.push msg)).Inv cap (ops ++ [.push msg]) := by
  have hlen : x.buffer.messages.len = (lastN cap (batches ops).2).length := by
    rw [← h.held, length_contents]
  have hwindow : x.buffer.heap.contents x.buffer.window =
      if cap ≤ (lastN cap (batches ops).2).length then (lastN cap (batches ops).2).drop 1
      else lastN cap (batches ops).2 := by
    unfold MessageBuffer.window
    rw [h.maxSize, hlen, ← h.held]
    split
    · exact contents_tail
    · rfl
  have hvalid : x.buffer.window.Valid x.buffer.heap :=
    (congrArg (· < x.buffer.heap.next) (window_array x.buffer)).mpr h.valid
  -- the slices of the callers are on other arrays than the one that is appended to
  have hkept : ∀ t ∈ x.drained, (x.buffer.heap.append grow x.buffer.window msg).1.contents t =
      x.buffer.heap.contents t := fun t ht =>
    append_apart grow (h.apart t ht).1 (window_array x.buffer ▸ (h.apart t ht).2) msg
  simp only [Run.step, MessageBuffer.push]
  constructor
  · exact h.maxSize
  · rw [contents_append, hwindow, batches_push, lastN_append hpos]
  · exact valid_append grow hvalid msg
  · rw [batches_push, ← h.drained]
    exact List.map_congr_left hkept
  · intro t ht
    obtain ⟨hlt, hne⟩ := h.apart t ht
    refine ⟨Nat.lt_of_lt_of_le hlt (next_append grow _ _ _), ?_⟩
    rcases array_append grow x.buffer.heap x.buffer.window msg with heq | heq
    · rw [heq, window_array]
      exact hne
    · rw [heq]
      exact Nat.ne_of_lt hlt
  · have hdropped := h.dropped
    rw [length_lastN] at hdropped
    simp only [batches_push, pushed_push, length_lastN, List.length_append, List.length_singleton,
      h.maxSize, hlen]
    split <;> omega

theorem Run.Inv.drain (h : x.Inv cap ops) (grow : Nat → Nat) :
    (x.step grow .drain).Inv cap (ops ++ [.drain]) := by
  have hkept : ∀ t : Slice, t.Valid x.buffer.heap →
      (x.buffer.heap.make x.buffer.maxSize).1.contents t = x.buffer.heap.contents t :=
    fun t ht => make_apart ht _
  simp only [Run.step, MessageBuffer.drain]
  constructor
  · exact h.maxSize
  · rw [contents_make, batches_drain, lastN_nil]
  · exact valid_make _
  · rw [batches_drain, List.map_append, List.map_append, ← h.drained, List.map_singleton,
      List.map_singleton, hkept _ h.valid, h.held]
    congr 1
    exact List.map_congr_left fun t ht => hkept t (h.apart t ht).1
  · intro t ht
    have hlt : t.Valid x.buffer.heap := by
      rcases List.mem_append.mp ht with ht | ht
      · exact (h.apart t ht).1
      · rw [List.mem_singleton.mp ht]
        exact h.valid
    exact ⟨Nat.lt_succ_of_lt hlt, Nat.ne_of_lt hlt⟩
  · have hdropped := h.dropped
    rw [batches_drain, pushed_drain, ← hdropped]
    simp [Nat.add_assoc]

theorem Run.Inv.step (h : x.Inv cap ops) (hpos : 0 < cap) (grow : Nat → Nat) (op : Op M) :
    (x.step grow op).Inv cap (ops ++ [op]) := by
  cases op with
  | push msg => exact h.push hpos grow msg
  | drain => exact h.drain grow

theorem inv_run (hpos : 0 < cap) (grow : Nat → Nat) (ops : List (Op M)) :
    (run grow cap ops).Inv cap ops := by
  induction ops using List.reverseRecOn with
  | nil =>
    constructor
    · rfl
    · exact (lastN_nil cap).symm
    · exact valid_make _
    · rfl
    · intro t ht
      cases ht
    · simp [run, newMessageBuffer, batches, pushed]
  | append_singleton ops op ih =>
    rw [run, List.foldl_append]
    exact ih.step hpos grow op

/-- What is taken of each batch, and of the messages behind them, is taken in order. -/
theorem lastN_flatten_sublist {α : Type} (n : Nat) (ls : List (List α)) (l : List α) :
    ((ls.map (lastN n)).flatten ++ lastN n l).Sublist (ls.flatten ++ l) := by
  refine List.Sublist.append ?_ (lastN_sublist n l)
  induction ls with
  | nil => exact .slnil
  | cons l ls ih => exact (lastN_sublist n l).append ih

/-- **Every drain hands over the last messages of its batch,** whatever happens to the buffer
afterwards; what is handed over or held is part of what was pushed, in order, and `Dropped` counts
the rest. -/
theorem buffer_run (hpos : 0 < cap) (grow : Nat → Nat) (ops : List (Op M)) :
    let x := run grow cap ops
    let returned := x.drained.map x.buffer.heap.contents
    let held := x.buffer.heap.contents x.buffer.messages
    x.buffer.length ≤ cap ∧ returned = (batches ops).1.map (lastN cap) ∧
      held = lastN cap (batches ops).2 ∧ (returned.flatten ++ held).Sublist (pushed ops) ∧
      x.buffer.dropped + returned.flatten.length + held.length = (pushed ops).length := by
  have h := inv_run hpos grow ops
  dsimp only
  rw [h.drained, h.held]
  refine ⟨?_, rfl, rfl, ?_, h.dropped⟩
  · have hlen : (run grow cap ops).buffer.messages.len = (lastN cap (batches ops).2).length := by
      rw [← h.held, length_contents]
    rw [MessageBuffer.length, hlen, length_lastN]
    exact Nat.min_le_right _ _
  · rw [← batches_pushed]
    exact lastN_flatten_sublist cap _ _

/-- A buffer for two messages that is drained, overflows and is drained again. -/
theorem buffer_run_two :
    let ops : List (Op Nat) := [.push 1, .drain, .push 2, .push 3, .push 4, .drain, .push 5]
    let x := run (2 * ·) 2 ops
    x.drained.map x.buffer.heap.contents = [[1], [3, 4]] ∧ x.buffer.dropped = 1 := by
  have hpos : 0 < 2 := by decide
  have h := buffer_run hpos (2 * ·)
    ([.push 1, .drain, .push 2, .push 3, .push 4, .drain, .push 5] : List (Op Nat))
  exact ⟨h.2.1, by decide⟩

end Skribbl.Gateway.Buffer
