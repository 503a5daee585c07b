import Skribbl.Gateway.FanOut
import Skribbl.Lib.Books

/-!
# Backpressure (`enqueueNonBlocking`, `_enqueue_with_backpressure`)

Both sides of a stream put messages into a bounded queue.  A lossy message that finds it full is
dropped; a control message evicts the oldest message, of whatever class.

* `SendCh` — a session's queue in the gateway with the calls of `enqueueNonBlocking` in progress and
  the counters of `fanout.go`; `SendCh.step` — one `select` of a call, or the `writePump` receives.
* `StreamQueue` — the queue of a stream in the worker; the consumer is the outbound loop of
  `RoomStream`.
* `Protected` — delivered messages keep their order, a control message is discarded only when no
  lossy one is queued, and each discarded message is counted under its class.
* `SendCh.Heeds`, `StreamQueue.Heeds` — what a step meets in the queue.

Principal results: `backpressure_iff` — exactly the runs in which each step heeds this protect the
messages; `control_evicted` — a control message is discarded for another and counted as a lossy one.
-/

set_option autoImplicit false

namespace Skribbl.System

open Gateway

/-- Order is kept, control messages are spared and every discard is counted as what it is. -/
structure Protected {π M : Type} [DecidableEq π] (b : Books π MessageClass M) : Prop where
  order : ∀ p, (b.delivered.filter (·.producer = p)).Sublist (b.offered.filter (·.producer = p))
  spares : b.Spares .control .lossy
  counted : b.Counted

variable {π M : Type}

/-! ## The gateway's queue of a session -/

/-- The `select` that a call of `enqueueNonBlocking` comes to next. -/
inductive Select where
  | send
  | evict
  | resend
  deriving DecidableEq

/-- A session's `SendCh`, the calls that enqueue on it, and the dispatcher's counters.  The counters
of dropped messages are in the books. -/
structure SendCh (π M : Type) where
  books : Books π MessageClass M := {}
  calls : π → Option (Select × Offer π MessageClass M) := fun _ => none
  fanoutDelivered : MessageClass → Nat := fun _ => 0
  deliveredCount : Nat := 0
  droppedCount : Nat := 0

/-- What may happen to a session's queue. -/
inductive SendCh.Action (π M : Type) where
  /-- A goroutine calls `enqueueNonBlocking`. -/
  | call (p : π) (c : MessageClass) (payload : M)
  /-- Its call executes the next `select`. -/
  | select (p : π)
  /-- The `writePump` receives a message. -/
  | receive

namespace SendCh

variable [DecidableEq π]

/-- The channel of a new session. -/
def new : SendCh π M := {}

/-- The channel takes the message, and the call ends. -/
def sent (s : SendCh π M) (x : Offer π MessageClass M) : SendCh π M :=
  { s with
    books := s.books.push x
    calls := Function.update s.calls x.producer none
    fanoutDelivered := Function.update s.fanoutDelivered x.cls (s.fanoutDelivered x.cls + 1)
    deliveredCount := s.deliveredCount + 1 }

/-- The message is dropped under a class, and the call ends. -/
def dropped (s : SendCh π M) (x : Offer π MessageClass M) (c : MessageClass) : SendCh π M :=
  { s with
    books := (s.books.refuse x).count c
    calls := Function.update s.calls x.producer none
    droppedCount := s.droppedCount + 1 }

/-- The next `select` of a call of `enqueueNonBlocking` for the message `x`. -/
def enqueueNonBlocking (cap : Nat) (s : SendCh π M) (x : Offer π MessageClass M) :
    Select → SendCh π M
  | .send =>
    if s.books.queue.length < cap then s.sent x
    else if x.cls ≠ .control then s.dropped x x.cls
    else { s with calls := Function.update s.calls x.producer (some (.evict, x)) }
  | .evict =>
    { s with
      books := if s.books.queue = [] then s.books else s.books.evict.count .lossy
      calls := Function.update s.calls x.producer (some (.resend, x)) }
  | .resend =>
    if s.books.queue.length < cap then s.sent x else s.dropped x .control

def step (cap : Nat) (s : SendCh π M) : Action π M → SendCh π M
  | .call p c payload =>
    (s.calls p).elim
      { s with
        books := s.books.offer ⟨p, c, payload⟩
        calls := Function.update s.calls p (some (.send, ⟨p, c, payload⟩)) }
      fun _ => s
  | .select p => (s.calls p).elim s fun call => s.enqueueNonBlocking cap call.2 call.1
  | .receive => { s with books := s.books.take }

/-- The channel after some actions. -/
def run (cap : Nat) (s : SendCh π M) (as : List (Action π M)) : SendCh π M :=
  as.foldl (step cap) s

/-- An eviction takes a lossy message, and a control message that is dropped for all that leaves no
lossy one behind. -/
def Heeds (cap : Nat) (s : SendCh π M) : Action π M → Prop
  | .select p => ∀ call ∈ s.calls p, match call.1 with
    | .send => True
    | .evict => ∀ y ∈ s.books.queue.head?, y.cls = .lossy
    | .resend => cap ≤ s.books.queue.length → ∀ y ∈ s.books.queue, y.cls ≠ .lossy
  | _ => True

/-- Each action of a run heeds the queue. -/
def AllHeed (cap : Nat) (s : SendCh π M) : List (Action π M) → Prop
  | [] => True
  | a :: as => s.Heeds cap a ∧ (s.step cap a).AllHeed cap as

/-- What is pending, and how far the counters may be off. -/
structure Inv (s : SendCh π M) : Prop where
  ordered : s.books.Ordered fun p => (s.calls p).map (·.2)
  producer : ∀ p, ∀ call ∈ s.calls p, call.2.producer = p
  control : ∀ p, ∀ call ∈ s.calls p, call.1 ≠ .send → call.2.cls = .control
  lossy_le : s.books.lost .lossy ≤ s.books.counted .lossy
  total : s.books.counted .lossy + s.books.counted .control =
    s.books.lost .lossy + s.books.lost .control

variable {cap : Nat} {s : SendCh π M} {x : Offer π MessageClass M} {c : Select}

theorem pending_update (calls : π → Option (Select × Offer π MessageClass M)) (p : π)
    (call : Option (Select × Offer π MessageClass M)) :
    (fun q => (Function.update calls p call q).map (·.2)) =
      Function.update (fun q => (calls q).map (·.2)) p (call.map (·.2)) := by
  funext q
  by_cases hq : q = p
  · rw [hq, Function.update_self, Function.update_self]
  · rw [Function.update_of_ne hq, Function.update_of_ne hq]

/-- What holds of all calls still does when one changes. -/
theorem forall_update {P : π → Select × Offer π MessageClass M → Prop}
    {calls : π → Option (Select × Offer π MessageClass M)} (h : ∀ p, ∀ call ∈ calls p, P p call)
    {p : π} {o : Option (Select × Offer π MessageClass M)} (ho : ∀ call ∈ o, P p call) :
    ∀ q, ∀ call ∈ Function.update calls p o q, P q call := by
  intro q call hcall
  by_cases hq : q = p
  · subst hq
    rw [Function.update_self] at hcall
    exact ho call hcall
  · rw [Function.update_of_ne hq] at hcall
    exact h q call hcall

theorem Inv.sent (h : s.Inv) (hx : s.calls x.producer = some (c, x)) : (s.sent x).Inv where
  ordered := by
    change (s.books.push x).Ordered _
    unfold SendCh.sent
    rw [pending_update]
    exact h.ordered.push (by rw [hx]; rfl)
  producer := forall_update h.producer nofun
  control := forall_update h.control nofun
  lossy_le := h.lossy_le
  total := h.total

theorem Inv.dropped (h : s.Inv) (x : Offer π MessageClass M) : (s.dropped x x.cls).Inv where
  ordered := by
    change ((s.books.refuse x).count x.cls).Ordered _
    unfold SendCh.dropped
    rw [pending_update]
    exact ((h.ordered.refuse x).dismiss x.producer).count x.cls
  producer := forall_update h.producer nofun
  control := forall_update h.control nofun
  lossy_le := by
    have hle := h.lossy_le
    change ((s.books.refuse x).lost _) ≤ ((s.books.refuse x).count x.cls).counted _
    rw [Books.lost_refuse, Books.counted_count]
    exact Nat.add_le_add_right hle _
  total := by
    have htotal := h.total
    change ((s.books.refuse x).count x.cls).counted _ + ((s.books.refuse x).count x.cls).counted _ =
      (s.books.refuse x).lost _ + (s.books.refuse x).lost _
    simp only [Books.lost_refuse, Books.counted_count]
    change s.books.counted _ + _ + (s.books.counted _ + _) = _
    omega

/-- A call for a control message goes on. -/
theorem Inv.goesOn (h : s.Inv) (hx : s.calls x.producer = some (c, x)) (hcls : x.cls = .control)
    (c' : Select) :
    Inv { s with calls := Function.update s.calls x.producer (some (c', x)) } where
  ordered := by
    change s.books.Ordered fun q => (Function.update s.calls x.producer (some (c', x)) q).map _
    rw [pending_update]
    have hsame : Function.update (fun q => (s.calls q).map (·.2)) x.producer (some x) =
        fun q => (s.calls q).map (·.2) := by
      rw [Function.update_eq_self_iff, hx]
      rfl
    rw [Option.map_some, hsame]
    exact h.ordered
  producer := forall_update h.producer fun call hcall => by cases hcall; rfl
  control := forall_update h.control fun call hcall _ => by cases hcall; exact hcls
  lossy_le := h.lossy_le
  total := h.total

/-- An eviction is counted as lossy. -/
theorem Inv.evicted (h : s.Inv) (hne : s.books.queue ≠ []) :
    Inv { s with books := s.books.evict.count .lossy } where
  ordered := h.ordered.evict.count .lossy
  producer := h.producer
  control := h.control
  lossy_le := by
    have hle := h.lossy_le
    obtain ⟨y, hy⟩ : ∃ y, s.books.queue.head? = some y := ⟨_, List.head?_eq_some_head hne⟩
    change s.books.evict.lost _ ≤ (s.books.evict.count .lossy).counted _
    rw [Books.lost_evict, Books.counted_count, hy, Option.elim_some, if_pos rfl]
    change _ ≤ s.books.counted _ + 1
    split_ifs <;> omega
  total := by
    have htotal := h.total
    obtain ⟨y, hy⟩ : ∃ y, s.books.queue.head? = some y := ⟨_, List.head?_eq_some_head hne⟩
    change (s.books.evict.count .lossy).counted _ + (s.books.evict.count .lossy).counted _ =
      s.books.evict.lost _ + s.books.evict.lost _
    simp only [Books.lost_evict, Books.counted_count, hy, Option.elim_some]
    change s.books.counted _ + _ + (s.books.counted _ + _) = _
    cases y.cls <;> simp <;> omega

theorem Inv.enqueue (h : s.Inv) (hx : s.calls x.producer = some (c, x)) :
    (s.enqueueNonBlocking cap x c).Inv := by
  have hcontrol : c ≠ .send → x.cls = .control := h.control _ _ hx
  cases c with
  | send =>
    simp only [enqueueNonBlocking]
    by_cases hroom : s.books.queue.length < cap
    · rw [if_pos hroom]
      exact h.sent hx
    · rw [if_neg hroom]
      by_cases hcls : x.cls = .control
      · rw [if_neg (not_not.mpr hcls)]
        exact h.goesOn hx hcls .evict
      · rw [if_pos hcls]
        exact h.dropped x
  | evict =>
    have hcls := hcontrol nofun
    simp only [enqueueNonBlocking]
    by_cases hempty : s.books.queue = []
    · rw [if_pos hempty]
      exact h.goesOn hx hcls .resend
    · rw [if_neg hempty]
      exact (h.evicted hempty).goesOn hx hcls .resend
  | resend =>
    simp only [enqueueNonBlocking]
    by_cases hroom : s.books.queue.length < cap
    · rw [if_pos hroom]
      exact h.sent hx
    · rw [if_neg hroom]
      exact hcontrol nofun ▸ h.dropped x

/-- A message is offered. -/
theorem Inv.called (h : s.Inv) (hx : s.calls x.producer = none) :
    Inv { s with
      books := s.books.offer x
      calls := Function.update s.calls x.producer (some (.send, x)) } where
  ordered := by
    change (s.books.offer x).Ordered fun q =>
      (Function.update s.calls x.producer (some (.send, x)) q).map (·.2)
    rw [pending_update]
    exact h.ordered.offer (by rw [hx]; rfl)
  producer := forall_update h.producer fun call hcall => by cases hcall; rfl
  control := forall_update h.control fun call hcall hne => by cases hcall; exact absurd rfl hne
  lossy_le := h.lossy_le
  total := h.total

theorem Inv.step (h : s.Inv) (cap : Nat) (a : Action π M) : (s.step cap a).Inv := by
  cases a with
  | call p c payload =>
    cases hp : s.calls p with
    | some call =>
      simp only [SendCh.step, hp, Option.elim_some]
      exact h
    | none =>
      simp only [SendCh.step, hp, Option.elim_none]
      exact h.called (x := ⟨p, c, payload⟩) hp
  | select p =>
    cases hp : s.calls p with
    | none =>
      simp only [SendCh.step, hp, Option.elim_none]
      exact h
    | some call =>
      have hproducer : call.2.producer = p := h.producer p call hp
      simp only [SendCh.step, hp, Option.elim_some]
      exact h.enqueue (by rw [hproducer]; exact hp)
  | receive => exact ⟨h.ordered.take, h.producer, h.control, h.lossy_le, h.total⟩

theorem inv_new : (new : SendCh π M).Inv where
  ordered p := by simp [Books.ofProducer, new]
  producer := nofun
  control := nofun
  lossy_le := le_rfl
  total := rfl

/-- A dropped message is counted under its class. -/
theorem fair_dropped (x : Offer π MessageClass M) :
    (s.dropped x x.cls).books.Spares .control .lossy ∧ (s.dropped x x.cls).books.Counted ↔
      (s.books.Spares .control .lossy ∧ s.books.Counted) ∧
        (x.cls = .control → ∀ y ∈ s.books.queue, y.cls ≠ .lossy) := by
  have hspares : (s.dropped x x.cls).books.Spares .control .lossy ↔
      s.books.Spares .control .lossy ∧ (x.cls = .control → ∀ y ∈ s.books.queue, y.cls ≠ .lossy) :=
    Books.spares_refuse
  have hcounted : (s.dropped x x.cls).books.Counted ↔ s.books.Counted := by
    refine forall_congr' fun k => ?_
    change ((s.books.refuse x).count x.cls).counted k = (s.books.refuse x).lost k ↔ _
    rw [Books.counted_count, Books.lost_refuse]
    exact Nat.add_right_cancel_iff
  rw [hspares, hcounted]
  tauto

/-- An eviction that takes a control message spoils the counters for good. -/
theorem fair_evict (h : s.Inv) (hne : s.books.queue ≠ []) :
    (s.books.evict.count .lossy).Spares .control .lossy ∧ (s.books.evict.count .lossy).Counted ↔
      (s.books.Spares .control .lossy ∧ s.books.Counted) ∧
        ∀ y ∈ s.books.queue.head?, y.cls = .lossy := by
  obtain ⟨y, hy⟩ : ∃ y, s.books.queue.head? = some y := ⟨_, List.head?_eq_some_head hne⟩
  have hspares : (s.books.evict.count .lossy).Spares .control .lossy ↔
      s.books.Spares .control .lossy ∧
        (y.cls = .control → ∀ z ∈ s.books.queue, z.cls ≠ .lossy) := by
    change s.books.evict.Spares .control .lossy ↔ _
    rw [Books.spares_evict, hy]
    simp
  have hcounted : ∀ k, (s.books.evict.count .lossy).counted k =
      (s.books.evict.count .lossy).lost k ↔
        s.books.counted k + (if MessageClass.lossy = k then 1 else 0) =
          s.books.lost k + if y.cls = k then 1 else 0 := by
    intro k
    rw [Books.counted_count]
    change _ = s.books.evict.lost k ↔ _
    rw [Books.lost_evict, hy]
    rfl
  rw [hspares, hy]
  simp only [Option.mem_def, Option.some.injEq, forall_eq']
  unfold Books.Counted
  simp only [hcounted]
  have hle := h.lossy_le
  have htotal := h.total
  cases hcls : y.cls with
  | lossy => simp
  | control =>
    simp only [reduceCtorEq, and_false, iff_false, not_and, not_forall]
    exact fun _ => ⟨.lossy, by simp; omega⟩

/-- **A step keeps the books in order if and only if it heeds the queue.** -/
theorem fair_step (h : s.Inv) (cap : Nat) (a : Action π M) :
    (s.step cap a).books.Spares .control .lossy ∧ (s.step cap a).books.Counted ↔
      (s.books.Spares .control .lossy ∧ s.books.Counted) ∧ s.Heeds cap a := by
  cases a with
  | call p c payload =>
    cases hp : s.calls p with
    | none =>
      simp only [SendCh.step, Heeds, hp, Option.elim_none, and_true]
      rfl
    | some call => simp only [SendCh.step, Heeds, hp, Option.elim_some, and_true]
  | receive => exact (and_iff_left trivial).symm
  | select p =>
    cases hp : s.calls p with
    | none =>
      simp only [SendCh.step, Heeds, hp, Option.elim_none]
      exact (and_iff_left nofun).symm
    | some call =>
      obtain ⟨c, x⟩ := call
      have hcontrol : c ≠ .send → x.cls = .control := h.control p _ hp
      simp only [SendCh.step, Heeds, hp, Option.elim_some, Option.mem_def, Option.some.injEq,
        forall_eq']
      cases c with
      | send =>
        simp only [enqueueNonBlocking, and_true]
        by_cases hroom : s.books.queue.length < cap
        · rw [if_pos hroom]
          rfl
        · rw [if_neg hroom]
          by_cases hcls : x.cls = .control
          · rw [if_neg (not_not.mpr hcls)]
          · rw [if_pos hcls, fair_dropped]
            exact and_iff_left fun hx => absurd hx hcls
      | evict =>
        simp only [enqueueNonBlocking]
        by_cases hempty : s.books.queue = []
        · rw [if_pos hempty, hempty]
          exact (and_iff_left nofun).symm
        · rw [if_neg hempty]
          exact fair_evict h hempty
      | resend =>
        simp only [enqueueNonBlocking]
        by_cases hroom : s.books.queue.length < cap
        · rw [if_pos hroom]
          exact (and_iff_left fun hfull => absurd hroom (Nat.not_lt.mpr hfull)).symm
        · have hcls := hcontrol nofun
          have hdropped := fair_dropped (s := s) x
          rw [hcls] at hdropped
          rw [if_neg hroom, hdropped]
          simp only [forall_const, Nat.not_lt.mp hroom]

theorem Inv.run (h : s.Inv) (cap : Nat) (as : List (Action π M)) : (s.run cap as).Inv := by
  induction as generalizing s with
  | nil => exact h
  | cons a as ih => exact ih (h.step cap a)

theorem fair_run (h : s.Inv) (cap : Nat) (as : List (Action π M)) :
    (s.run cap as).books.Spares .control .lossy ∧ (s.run cap as).books.Counted ↔
      (s.books.Spares .control .lossy ∧ s.books.Counted) ∧ s.AllHeed cap as :=
  Books.foldl_iff (SendCh.step cap) SendCh.Inv
    (fun s => s.books.Spares .control .lossy ∧ s.books.Counted) (fun _ => trivial)
    (fun _ _ _ => .rfl) (fun _ a h => h.step cap a) (fun _ a h => fair_step h cap a) h as

theorem protected_iff (cap : Nat) (as : List (Action π M)) :
    Protected ((SendCh.new : SendCh π M).run cap as).books ↔
    (SendCh.new : SendCh π M).AllHeed cap as := by
  have hfair := fair_run inv_new cap as
  have hnew : (SendCh.new : SendCh π M).books.Spares .control .lossy ∧
      (SendCh.new : SendCh π M).books.Counted :=
    ⟨nofun, fun _ => rfl⟩
  rw [and_iff_right hnew] at hfair
  rw [← hfair]
  exact ⟨fun h => ⟨h.spares, h.counted⟩, fun h => ⟨(inv_new.run cap as).ordered.delivered,
    h.1, h.2⟩⟩

/-- A call that nothing interrupts does what the fan-out does to the queue. -/
theorem enqueue_uninterrupted (cap : Nat) (s : SendCh π M) (p : π) (c : MessageClass) (payload : M)
    (hp : s.calls p = none) :
    (s.run cap [.call p c payload, .select p, .select p, .select p]).books.queue.map (·.payload) =
      Gateway.enqueueNonBlocking cap (s.books.queue.map (·.payload)) payload c := by
  simp only [run, List.foldl, step, hp, Option.elim_none, Function.update_self, Option.elim_some,
    enqueueNonBlocking, Gateway.enqueueNonBlocking, List.length_map]
  by_cases hroom : s.books.queue.length < cap
  · simp [hroom, sent, Books.offer, Books.push]
  · cases c with
    | lossy => simp [hroom, dropped, Books.offer, Books.refuse, Books.count]
    | control =>
      cases hqueue : s.books.queue with
      | nil =>
        have hcap : cap = 0 := by simpa [hqueue] using hroom
        simp [hcap, hqueue, dropped, Books.offer, Books.refuse, Books.count]
      | cons y l =>
        rw [hqueue] at hroom
        simp only [Books.offer, hqueue, if_neg hroom, Books.evict, Books.count, sent, dropped]
        by_cases hroom' : l.length < cap
        · simp [hroom', Books.push]
        · simp [hroom', Books.refuse]

end SendCh

/-! ## The worker's queue of a stream -/

/-- A stream's `send_queue`; its messages are put there one at a time. -/
abbrev StreamQueue (M : Type) := Books Unit MessageClass M

/-- What may happen to a stream's queue. -/
inductive StreamQueue.Action (M : Type) where
  /-- `_enqueue_with_backpressure`. -/
  | send (msg : M) (lossy : Bool)
  /-- `await send_queue.put`, by which `_process_inbound` hands on its own errors and the end of the
  stream. -/
  | put (msg : M)
  /-- The outbound loop of `RoomStream` gets a message. -/
  | get

namespace StreamQueue

variable {maxsize : Int} {b : StreamQueue M}

/-- An empty queue. -/
def new : StreamQueue M := {}

/-- `Queue.full`: a queue whose `maxsize` is not positive has no bound. -/
def Full (maxsize : Int) (b : StreamQueue M) : Prop := 0 < maxsize ∧ maxsize ≤ b.queue.length

instance (maxsize : Int) (b : StreamQueue M) : Decidable (b.Full maxsize) :=
  inferInstanceAs (Decidable (_ ∧ _))

/-- The class of a message. -/
def classOf (lossy : Bool) : MessageClass := if lossy then .lossy else .control

/-- `_enqueue_with_backpressure`. -/
def enqueueWithBackpressure (maxsize : Int) (b : StreamQueue M) (msg : M) (lossy : Bool) :
    StreamQueue M :=
  let x : Offer Unit MessageClass M := ⟨(), classOf lossy, msg⟩
  let offered := b.offer x
  if ¬b.Full maxsize then offered.push x
  else if lossy then offered.refuse x
  else
    let evicted := offered.evict
    if ¬Full maxsize evicted then evicted.push x else evicted.refuse x

/-- A `put` waits as long as the queue is full. -/
def step (maxsize : Int) (b : StreamQueue M) : Action M → StreamQueue M
  | .send msg lossy => b.enqueueWithBackpressure maxsize msg lossy
  | .put msg =>
    if b.Full maxsize then b else (b.offer ⟨(), .control, msg⟩).push ⟨(), .control, msg⟩
  | .get => b.take

/-- The queue after some actions. -/
def run (maxsize : Int) (b : StreamQueue M) (as : List (Action M)) : StreamQueue M :=
  as.foldl (step maxsize) b

/-- A message that is sent finds room. -/
def Heeds (maxsize : Int) (b : StreamQueue M) : Action M → Prop
  | .send _ _ => ¬b.Full maxsize
  | _ => True

def AllHeed (maxsize : Int) (b : StreamQueue M) : List (Action M) → Prop
  | [] => True
  | a :: as => b.Heeds maxsize a ∧ (b.step maxsize a).AllHeed maxsize as

/-- A control message that finds no room finds a lossy one first in the queue, or none in it. -/
def Yields (maxsize : Int) (b : StreamQueue M) : Action M → Prop
  | .send _ false => b.Full maxsize → ∀ y ∈ b.queue.head?, y.cls = .control →
      ∀ z ∈ b.queue, z.cls ≠ .lossy
  | _ => True

def AllYield (maxsize : Int) (b : StreamQueue M) : List (Action M) → Prop
  | [] => True
  | a :: as => b.Yields maxsize a ∧ (b.step maxsize a).AllYield maxsize as

/-- The queue is within its bound, in the order of the offers, and nothing has been counted. -/
structure Inv (maxsize : Int) (b : StreamQueue M) : Prop where
  ordered : b.Ordered fun _ => none
  bound : 0 < maxsize → (b.queue.length : Int) ≤ maxsize
  counted : ∀ c, b.counted c = 0

/-- Between two actions no message is pending. -/
theorem pending_settled (x : Offer Unit MessageClass M) :
    (fun _ => none : Unit → Option (Offer Unit MessageClass M)) =
      Function.update (Function.update (fun _ => none) x.producer (some x)) x.producer none := by
  funext p
  simp

/-- An offer that is put into the queue at once. -/
theorem ordered_send (h : b.Ordered fun _ => none) (x : Offer Unit MessageClass M) :
    ((b.offer x).push x).Ordered fun _ => none := by
  rw [pending_settled x]
  exact (h.offer rfl).push (by rw [Function.update_self])

/-- An offer that is discarded at once. -/
theorem ordered_refuse (h : b.Ordered fun _ => none) (x : Offer Unit MessageClass M) :
    ((b.offer x).refuse x).Ordered fun _ => none := by
  rw [pending_settled x]
  exact ((h.offer rfl).dismiss x.producer).refuse x

/-- An offer for which the oldest message goes. -/
theorem ordered_replace (h : b.Ordered fun _ => none) (x : Offer Unit MessageClass M) :
    (((b.offer x).evict).push x).Ordered fun _ => none := by
  rw [pending_settled x]
  exact (h.offer rfl).evict.push (by rw [Function.update_self])

/-- After an eviction there is room. -/
theorem Inv.room (h : b.Inv maxsize) (hfull : b.Full maxsize) (x : Offer Unit MessageClass M) :
    ¬Full maxsize (b.offer x).evict := by
  rintro ⟨hpos, hle⟩
  have hbound := h.bound hpos
  have hlen : (b.offer x).evict.queue.length = b.queue.length - 1 := by
    simp [Books.evict, Books.offer]
  have hqueue := hfull.2
  omega

theorem send_room (hroom : ¬b.Full maxsize) (msg : M) (lossy : Bool) :
    b.enqueueWithBackpressure maxsize msg lossy =
      (b.offer ⟨(), classOf lossy, msg⟩).push ⟨(), classOf lossy, msg⟩ := by
  unfold enqueueWithBackpressure
  exact if_pos hroom

theorem send_lossy (hfull : b.Full maxsize) (msg : M) :
    b.enqueueWithBackpressure maxsize msg true =
      (b.offer ⟨(), .lossy, msg⟩).refuse ⟨(), .lossy, msg⟩ := by
  unfold enqueueWithBackpressure
  exact if_neg (not_not.mpr hfull)

theorem Inv.send_control (h : b.Inv maxsize) (hfull : b.Full maxsize) (msg : M) :
    b.enqueueWithBackpressure maxsize msg false =
      ((b.offer ⟨(), .control, msg⟩).evict).push ⟨(), .control, msg⟩ := by
  unfold enqueueWithBackpressure
  exact (if_neg (not_not.mpr hfull)).trans (if_pos (h.room hfull _))

/-- A message more is within the bound where there is room. -/
theorem length_push (hroom : ¬b.Full maxsize) (hpos : 0 < maxsize) (x : Offer Unit MessageClass M) :
    (((b.offer x).push x).queue.length : Int) ≤ maxsize := by
  have hlen : ((b.offer x).push x).queue.length = b.queue.length + 1 := by
    simp [Books.push, Books.offer]
  have hlt : ¬maxsize ≤ b.queue.length := fun hle => hroom ⟨hpos, hle⟩
  omega

theorem Inv.step (h : b.Inv maxsize) (a : Action M) : Inv maxsize (b.step maxsize a) := by
  cases a with
  | send msg lossy =>
    unfold StreamQueue.step
    by_cases hfull : b.Full maxsize
    · cases lossy with
      | true =>
        simp only [send_lossy hfull]
        exact ⟨ordered_refuse h.ordered _, h.bound, h.counted⟩
      | false =>
        simp only [h.send_control hfull]
        refine ⟨ordered_replace h.ordered _, fun hpos => ?_, h.counted⟩
        exact length_push (h.room hfull ⟨(), .control, msg⟩) hpos ⟨(), .control, msg⟩
    · simp only [send_room hfull]
      exact ⟨ordered_send h.ordered _, fun hpos => length_push hfull hpos _, h.counted⟩
  | put msg =>
    unfold StreamQueue.step
    by_cases hfull : b.Full maxsize
    · simp only [if_pos hfull]
      exact h
    · simp only [if_neg hfull]
      exact ⟨ordered_send h.ordered _, fun hpos => length_push hfull hpos _, h.counted⟩
  | get =>
    refine ⟨h.ordered.take, fun hpos => ?_, h.counted⟩
    have hbound := h.bound hpos
    have hlen : b.take.queue.length = b.queue.length - 1 := by simp [Books.take]
    change (b.take.queue.length : Int) ≤ maxsize
    omega

/-- Nothing is counted, so every discard is missing. -/
theorem Inv.counted_iff (h : b.Inv maxsize) : b.Counted ↔ b.discarded = [] := by
  constructor
  · intro hcounted
    refine List.eq_nil_iff_forall_not_mem.mpr fun d hd => ?_
    have hlost : b.lost d.item.cls = 0 := by rw [← hcounted, h.counted]
    exact List.countP_eq_zero.mp hlost d hd (decide_eq_true rfl)
  · intro hnil k
    rw [h.counted, Books.lost, hnil, List.countP_nil]

/-- **A step discards nothing if and only if its message finds room.** -/
theorem discarded_step (h : b.Inv maxsize) (a : Action M) :
    (b.step maxsize a).discarded = [] ↔ b.discarded = [] ∧ b.Heeds maxsize a := by
  cases a with
  | send msg lossy =>
    unfold StreamQueue.step Heeds
    by_cases hfull : b.Full maxsize
    · have hne : b.queue ≠ [] := fun hnil => by
        have hle := hfull.2
        have hpos := hfull.1
        simp only [hnil, List.length_nil, Nat.cast_zero] at hle
        omega
      simp only [hfull, not_true_eq_false, and_false, iff_false]
      cases lossy with
      | true =>
        rw [send_lossy hfull]
        simp [Books.refuse]
      | false =>
        rw [h.send_control hfull]
        simp [Books.push, Books.evict, Books.offer, hne]
    · simp only [send_room hfull, hfull, not_false_eq_true, and_true]
      rfl
  | put msg =>
    unfold StreamQueue.step Heeds
    by_cases hfull : b.Full maxsize
    · simp only [if_pos hfull, and_true]
    · simp only [if_neg hfull, and_true]
      rfl
  | get => exact (and_iff_left trivial).symm

/-- **A step spares the control messages if and only if it yields to them.** -/
theorem spares_step (h : b.Inv maxsize) (a : Action M) :
    (b.step maxsize a).Spares .control .lossy ↔
      b.Spares .control .lossy ∧ b.Yields maxsize a := by
  cases a with
  | send msg lossy =>
    unfold StreamQueue.step
    by_cases hfull : b.Full maxsize
    · cases lossy with
      | true =>
        simp only [send_lossy hfull, Books.spares_refuse, Yields]
        exact and_congr_right fun _ => ⟨fun _ => trivial, fun _ => nofun⟩
      | false =>
        simp only [h.send_control hfull, Yields, hfull, forall_const]
        exact Books.spares_evict
    · simp only [send_room hfull]
      refine (and_iff_left ?_).symm
      cases lossy with
      | true => trivial
      | false => exact fun h => absurd h hfull
  | put msg =>
    unfold StreamQueue.step Yields
    by_cases hfull : b.Full maxsize
    · simp only [if_pos hfull, and_true]
    · simp only [if_neg hfull, and_true]
      rfl
  | get => exact (and_iff_left trivial).symm

theorem Inv.run (h : b.Inv maxsize) (as : List (Action M)) : Inv maxsize (b.run maxsize as) := by
  induction as generalizing b with
  | nil => exact h
  | cons a as ih => exact ih (h.step a)

theorem discarded_run (h : b.Inv maxsize) (as : List (Action M)) :
    (b.run maxsize as).discarded = [] ↔ b.discarded = [] ∧ b.AllHeed maxsize as :=
  Books.foldl_iff (StreamQueue.step maxsize) (StreamQueue.Inv maxsize) (fun b => b.discarded = [])
    (fun _ => trivial) (fun _ _ _ => .rfl) (fun _ a h => h.step a)
    (fun _ a h => discarded_step h a) h as

theorem spares_run (h : b.Inv maxsize) (as : List (Action M)) :
    (b.run maxsize as).Spares .control .lossy ↔
      b.Spares .control .lossy ∧ b.AllYield maxsize as :=
  Books.foldl_iff (StreamQueue.step maxsize) (StreamQueue.Inv maxsize)
    (fun b => b.Spares .control .lossy) (fun _ => trivial) (fun _ _ _ => .rfl)
    (fun _ a h => h.step a) (fun _ a h => spares_step h a) h as

theorem inv_new (maxsize : Int) : Inv maxsize (StreamQueue.new : StreamQueue M) where
  ordered p := by simp [Books.ofProducer, new]
  bound hpos := by
    change ((0 : Nat) : Int) ≤ maxsize
    omega
  counted _ := rfl

theorem protected_iff (maxsize : Int) (as : List (Action M)) :
    Protected ((StreamQueue.new : StreamQueue M).run maxsize as) ↔
    (StreamQueue.new : StreamQueue M).AllHeed maxsize as := by
  have hinv := (inv_new (M := M) maxsize).run as
  have hnothing := discarded_run (inv_new maxsize) as
  have hnew : (StreamQueue.new : StreamQueue M).discarded = [] := rfl
  rw [and_iff_right hnew, ← hinv.counted_iff] at hnothing
  rw [← hnothing]
  refine ⟨fun h => h.counted, fun h => ⟨hinv.ordered.delivered, ?_, h⟩⟩
  have hnil := hinv.counted_iff.mp h
  intro d hd
  rw [hnil] at hd
  exact nomatch hd

end StreamQueue

/-! ## Both queues -/

/-- **Backpressure protects exactly the runs that heed the queue.**  In the gateway, an eviction
must take a lossy message, and then the control counter stays at zero exactly when no control
message is lost; the worker counts nothing, so a message that is sent must find room. -/
theorem backpressure_iff [DecidableEq π] (cap : Nat) (as : List (SendCh.Action π M))
    (maxsize : Int) (bs : List (StreamQueue.Action M)) :
    ((Protected ((SendCh.new : SendCh π M).run cap as).books ↔
    (SendCh.new : SendCh π M).AllHeed cap as) ∧
      ((SendCh.new : SendCh π M).AllHeed cap as →
        (((SendCh.new : SendCh π M).run cap as).books.counted .control = 0 ↔
          ∀ d ∈ ((SendCh.new : SendCh π M).run cap as).books.discarded, d.item.cls ≠ .control))) ∧
    (Protected ((StreamQueue.new : StreamQueue M).run maxsize bs) ↔
    (StreamQueue.new : StreamQueue M).AllHeed maxsize bs) ∧
    (((StreamQueue.new : StreamQueue M).run maxsize bs).Spares .control .lossy ↔
      (StreamQueue.new : StreamQueue M).AllYield maxsize bs) ∧
    ((StreamQueue.new : StreamQueue M).run maxsize bs).delivered.Sublist
      ((StreamQueue.new : StreamQueue M).run maxsize bs).offered := by
  have hgateway := SendCh.protected_iff (M := M) (π := π) cap as
  have hworker := (StreamQueue.inv_new (M := M) maxsize).run bs
  refine ⟨⟨hgateway, fun hheed => ?_⟩, StreamQueue.protected_iff maxsize bs, ?_, ?_⟩
  · rw [(hgateway.mpr hheed).counted, Books.lost, List.countP_eq_zero]
    simp
  · rw [StreamQueue.spares_run (StreamQueue.inv_new maxsize)]
    apply and_iff_right
    intro d hd
    exact absurd hd List.not_mem_nil
  · have hall := hworker.ordered.delivered ()
    simpa [Books.ofProducer] using hall

/-- Two messages, a control message and a lossy one, fill the queue; then comes a control
message. -/
def overtaking : List (SendCh.Action Unit Nat) :=
  [.call () .control 0, .select (), .call () .lossy 1, .select (), .call () .control 2, .select (),
    .select (), .select ()]

/-- The control message at the head is evicted and counted as a lossy one, and the worker evicts it
as well. -/
theorem control_evicted :
    ((SendCh.new.run 2 overtaking).books.discarded =
        [⟨⟨(), .control, 0⟩, [⟨(), .control, 0⟩, ⟨(), .lossy, 1⟩]⟩] ∧
      (SendCh.new.run 2 overtaking).books.counted .control = 0 ∧
      ¬Protected (SendCh.new.run 2 overtaking).books) ∧
    ¬Protected (StreamQueue.new.run 2 [.send 0 false, .send 1 true, .send 2 false]) := by
  have hdiscarded : (SendCh.new.run 2 overtaking).books.discarded =
      [⟨⟨(), .control, 0⟩, [⟨(), .control, 0⟩, ⟨(), .lossy, 1⟩]⟩] := rfl
  have hworker : (StreamQueue.new.run 2 [.send 0 false, .send 1 true, .send 2 false]).discarded =
      [⟨⟨(), .control, 0⟩, [⟨(), .control, 0⟩, ⟨(), .lossy, 1⟩]⟩] := by decide
  refine ⟨⟨hdiscarded, rfl, fun h => ?_⟩, fun h => ?_⟩
  · have hspared := h.spares _ (hdiscarded ▸ List.mem_singleton_self _) rfl ⟨(), .lossy, 1⟩
    exact hspared (by simp) rfl
  · have hspared := h.spares _ (hworker ▸ List.mem_singleton_self _) rfl ⟨(), .lossy, 1⟩
    exact hspared (by simp) rfl

end Skribbl.System
