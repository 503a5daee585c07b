import Mathlib.Data.List.Basic
import Mathlib.Logic.Function.Basic

/-!
# The books of a bounded queue

* `Offer` — a message with its producer and its class; `Discard` — a discarded message with the
  queue as it was at that time.
* `Books` — what producers have offered, the queue, what the consumer has taken, what has been
  discarded, and how many discards have been counted under each class.
* `Books.Ordered` — what is delivered and queued of each producer comes in the order in which it was
  offered.
* `Books.Spares` — a message of one class is discarded only when no message of the other is queued.
* `Books.Counted` — each discard is counted under its own class.

Principal results: `Ordered.offer`, `push`, `dismiss`, `take`, `evict` — the operations of a queue
keep the order; `spares_refuse`, `spares_evict` — what they do to the discards; `foldl_iff` — from a
step to a run.
-/

set_option autoImplicit false

/-- A message of a producer. -/
structure Offer (π κ α : Type) where
  producer : π
  cls : κ
  payload : α
  deriving DecidableEq

/-- A discarded message, and the queue before. -/
structure Discard (π κ α : Type) where
  item : Offer π κ α
  queue : List (Offer π κ α)
  deriving DecidableEq

structure Books (π κ α : Type) where
  offered : List (Offer π κ α) := []
  queue : List (Offer π κ α) := []
  delivered : List (Offer π κ α) := []
  discarded : List (Discard π κ α) := []
  counted : κ → Nat := fun _ => 0

namespace Books

variable {π κ α : Type} {b : Books π κ α} {x : Offer π κ α}

/-! ## Operations -/

def offer (b : Books π κ α) (x : Offer π κ α) : Books π κ α :=
    { b with offered := b.offered ++ [x] }

def push (b : Books π κ α) (x : Offer π κ α) : Books π κ α := { b with queue := b.queue ++ [x] }

/-- The consumer takes the oldest message. -/
def take (b : Books π κ α) : Books π κ α :=
  { b with queue := b.queue.drop 1, delivered := b.delivered ++ b.queue.take 1 }

/-- A message is discarded instead of queued. -/
def refuse (b : Books π κ α) (x : Offer π κ α) : Books π κ α :=
  { b with discarded := b.discarded ++ [⟨x, b.queue⟩] }

/-- The oldest message is discarded. -/
def evict (b : Books π κ α) : Books π κ α :=
  { b with
    queue := b.queue.drop 1
    discarded := b.discarded ++ (b.queue.take 1).map (⟨·, b.queue⟩) }

def count [DecidableEq κ] (b : Books π κ α) (k : κ) : Books π κ α :=
  { b with counted := Function.update b.counted k (b.counted k + 1) }

/-! ## Order -/

section Order

variable [DecidableEq π] {pending : π → Option (Offer π κ α)} {p : π}

/-- The messages of a producer. -/
def ofProducer (p : π) (l : List (Offer π κ α)) : List (Offer π κ α) := l.filter (·.producer = p)

theorem ofProducer_append (p : π) (l l' : List (Offer π κ α)) :
    ofProducer p (l ++ l') = ofProducer p l ++ ofProducer p l' := List.filter_append _ _

/-- What is delivered, queued and pending of each producer comes in the order of the offers. -/
def Ordered (b : Books π κ α) (pending : π → Option (Offer π κ α)) : Prop :=
  ∀ p, (ofProducer p (b.delivered ++ b.queue) ++ (pending p).toList).Sublist
    (ofProducer p b.offered)

/-- A producer that has no message pending offers one. -/
theorem Ordered.offer (h : b.Ordered pending) (hx : pending x.producer = none) :
    (b.offer x).Ordered (Function.update pending x.producer (some x)) := by
  intro q
  have hq := h q
  change (ofProducer q (b.delivered ++ b.queue) ++ _).Sublist (ofProducer q (b.offered ++ [x]))
  rw [ofProducer_append q b.offered]
  by_cases hsame : q = x.producer
  · subst hsame
    rw [hx, Option.toList_none, List.append_nil] at hq
    have hone : ofProducer x.producer [x] = [x] := by simp [ofProducer]
    rw [Function.update_self, Option.toList_some, hone]
    exact hq.append (List.Sublist.refl _)
  · have hone : ofProducer q [x] = [] := by simp [ofProducer, Ne.symm hsame]
    rw [Function.update_of_ne hsame, hone, List.append_nil]
    exact hq

/-- The pending message is put into the queue. -/
theorem Ordered.push (h : b.Ordered pending) (hx : pending x.producer = some x) :
    (b.push x).Ordered (Function.update pending x.producer none) := by
  intro q
  have hq := h q
  change (ofProducer q (b.delivered ++ (b.queue ++ [x])) ++ _).Sublist (ofProducer q b.offered)
  rw [← List.append_assoc, ofProducer_append q (b.delivered ++ b.queue)]
  by_cases hsame : q = x.producer
  · subst hsame
    have hone : ofProducer x.producer [x] = [x] := by simp [ofProducer]
    rw [hx, Option.toList_some] at hq
    rw [Function.update_self, Option.toList_none, List.append_nil, hone]
    exact hq
  · have hone : ofProducer q [x] = [] := by simp [ofProducer, Ne.symm hsame]
    rw [Function.update_of_ne hsame, hone, List.append_nil]
    exact hq

/-- The pending message is given up. -/
theorem Ordered.dismiss (h : b.Ordered pending) (p : π) :
    b.Ordered (Function.update pending p none) := by
  intro q
  by_cases hsame : q = p
  · subst hsame
    rw [Function.update_self, Option.toList_none, List.append_nil]
    exact (List.sublist_append_left _ _).trans (h q)
  · rw [Function.update_of_ne hsame]
    exact h q

theorem Ordered.take (h : b.Ordered pending) : b.take.Ordered pending := by
  intro q
  have hsame : b.take.delivered ++ b.take.queue = b.delivered ++ b.queue := by
    simp only [Books.take, List.append_assoc, List.take_append_drop]
  rw [hsame]
  exact h q

theorem Ordered.evict (h : b.Ordered pending) : b.evict.Ordered pending := by
  intro q
  refine List.Sublist.trans (List.Sublist.append ?_ (List.Sublist.refl _)) (h q)
  exact ((List.Sublist.refl _).append (List.drop_sublist 1 _)).filter _

theorem Ordered.refuse (h : b.Ordered pending) (x : Offer π κ α) :
    (b.refuse x).Ordered pending := h

theorem Ordered.count [DecidableEq κ] (h : b.Ordered pending) (k : κ) :
    (b.count k).Ordered pending := h

/-- What is delivered of a producer comes in the order of the offers. -/
theorem Ordered.delivered (h : b.Ordered pending) (p : π) :
    (ofProducer p b.delivered).Sublist (ofProducer p b.offered) := by
  have hall := h p
  rw [ofProducer_append, List.append_assoc] at hall
  exact (List.sublist_append_left _ _).trans hall

end Order

/-! ## Discards -/

section Discards

variable {must may : κ}

/-- A `must` message is discarded only when no `may` message is queued. -/
def Spares (must may : κ) (b : Books π κ α) : Prop :=
  ∀ d ∈ b.discarded, d.item.cls = must → ∀ y ∈ d.queue, y.cls ≠ may

theorem spares_refuse : (b.refuse x).Spares must may ↔
    b.Spares must may ∧ (x.cls = must → ∀ y ∈ b.queue, y.cls ≠ may) := by
  unfold Spares refuse
  rw [List.forall_mem_append, List.forall_mem_singleton]

theorem spares_evict : b.evict.Spares must may ↔
    b.Spares must may ∧ ∀ y ∈ b.queue.head?, y.cls = must → ∀ z ∈ b.queue, z.cls ≠ may := by
  unfold Spares evict
  rw [List.forall_mem_append]
  cases b.queue <;> simp

variable [DecidableEq κ]

/-- How many discarded messages are of a class. -/
def lost (b : Books π κ α) (k : κ) : Nat := b.discarded.countP (·.item.cls = k)

/-- Each discard is counted under its own class. -/
def Counted (b : Books π κ α) : Prop := ∀ k, b.counted k = b.lost k

theorem lost_refuse (k : κ) : (b.refuse x).lost k = b.lost k + if x.cls = k then 1 else 0 := by
  simp [lost, refuse, List.countP_append, List.countP_cons]

theorem lost_evict (k : κ) : b.evict.lost k =
    b.lost k + b.queue.head?.elim 0 fun y => if y.cls = k then 1 else 0 := by
  unfold lost evict
  rw [List.countP_append]
  cases b.queue <;> simp [List.countP_cons]

theorem counted_count (k k' : κ) : (b.count k).counted k' =
    b.counted k' + if k = k' then 1 else 0 := by
  change Function.update b.counted k (b.counted k + 1) k' = _
  by_cases h : k = k'
  · rw [← h, Function.update_self, if_pos rfl]
  · rw [Function.update_of_ne (Ne.symm h), if_neg h, Nat.add_zero]

end Discards

/-! ## Runs -/

/-- What a step keeps just when it meets a condition, a run keeps just when all its steps meet
it. -/
theorem foldl_iff {σ ι : Type} (step : σ → ι → σ) (Inv P : σ → Prop) {cond : σ → ι → Prop}
    {all : σ → List ι → Prop} (hnil : ∀ s, all s [])
    (hcons : ∀ s i is, all s (i :: is) ↔ cond s i ∧ all (step s i) is)
    (hinv : ∀ s i, Inv s → Inv (step s i))
    (hstep : ∀ s i, Inv s → (P (step s i) ↔ P s ∧ cond s i)) {s : σ} (h : Inv s) (is : List ι) :
    P (is.foldl step s) ↔ P s ∧ all s is := by
  induction is generalizing s with
  | nil => exact (and_iff_left (hnil s)).symm
  | cons i is ih => rw [List.foldl_cons, ih (hinv s i h), hstep s i h, and_assoc, hcons]

end Books
