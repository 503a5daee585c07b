import Skribbl.Gateway.ReadLoop

/-!
# The streams of one worker (`gateway/stream_manager.go`, `gateway/lifecycle.go`)

The stream of a worker is replaced when it fails, so there are several `RoomStream` instances over
time, and goroutines that hold one of them.

* `StreamManager` — the instances, which of them is in the map, and what each goroutine is about to
  do: calls of `Send`, disconnect handlers, idle timers, and the send loop and the receiver of each
  instance.
* `StreamManager.step` — one atomic step of one of them.
* `StreamManager.Isolated` — no call has sent on a closed channel, no channel has been closed twice,
  and no failure of one instance has evicted another one that was healthy.
* `StreamManager.Careful` — the step closes nothing that a call of `Send` is about to use, revives
  nothing that is closed, and reports no failure while another healthy instance is in the map.

Principal results: `isolated_run` — after careful steps the instances are isolated; `not_isolated` —
after others they are not.
-/

set_option autoImplicit false

namespace Skribbl.Gateway

/-- The number of a `RoomStream` instance. -/
abbrev StreamId := Nat

/-- What the send loop of an instance is about to do. -/
inductive LoopPhase where
  | running
  | failed
  | ended
  deriving DecidableEq

/-- `RoomStream`, with the number of times that `sendCh` has been closed, and whether its receiver
and a keepalive loop are running. -/
structure RoomStream where
  state : StreamState := .healthy
  sendCh : List GameMessage := []
  closes : Nat := 0
  playerCount : Int := 0
  loop : LoopPhase := .running
  receiving : Bool := true
  keepalive : Bool := false

/-- What `closeStreamLocked` does to an instance. -/
def RoomStream.close (rs : RoomStream) : RoomStream :=
  { rs with state := .dead, closes := rs.closes + 1 }

/-- Where a call of `Send` is: it has found the instance, it comes to the first `select`, or it
waits in the second. -/
inductive SendPhase where
  | found
  | select
  | wait
  deriving DecidableEq

/-- Where `handleStreamDisconnect` is: at its start, while it dials, while it replays, and before it
calls `MarkUnhealthy`. -/
inductive HandlerPhase where
  | start
  | dialing
  | replaying
  | reporting
  deriving DecidableEq

/-- A failure of the instance `observer` evicted `evicted`. -/
structure Eviction where
  observer : StreamId
  evicted : StreamId
  healthy : Bool
  deriving DecidableEq

/-- The instances for one worker, the one in `streams`, the goroutines, how often a call has sent on
a closed channel, and what failures have evicted. -/
structure StreamManager where
  heap : StreamId → RoomStream := fun _ => {}
  next : StreamId := 0
  active : Option StreamId := none
  dialing : Bool := false
  calls : Nat → Option (StreamId × GameMessage × SendPhase) := fun _ => none
  handlers : Nat → Option (StreamId × HandlerPhase) := fun _ => none
  nextHandler : Nat := 0
  timers : List StreamId := []
  panics : Nat := 0
  evictions : List Eviction := []

namespace StreamManager

/-- `StreamConfig.BufferSize`, as a parameter of all that follows. -/
abbrev BufferSize := Nat

/-- An instance changes. -/
def modify (sm : StreamManager) (i : StreamId) (f : RoomStream → RoomStream) : StreamManager :=
  { sm with heap := Function.update sm.heap i (f (sm.heap i)) }

/-- `closeStreamLocked`, and the instance is deleted from the map. -/
def closeActive (sm : StreamManager) : StreamManager :=
  sm.active.elim sm fun i =>
    { sm.modify i RoomStream.close with active := none }

/-- `MarkUnhealthy`, called for a failure of the instance `i`. -/
def markUnhealthy (sm : StreamManager) (i : StreamId) : StreamManager :=
  sm.active.elim sm fun j =>
    { sm.closeActive with
      evictions := sm.evictions ++ [⟨i, j, (sm.heap j).state = .healthy⟩] }

/-- The end of the slow path of `GetOrCreate`: a new instance takes the place of the one in the
map. -/
def install (sm : StreamManager) : StreamManager :=
  let sm := sm.closeActive
  { sm with
    heap := Function.update sm.heap sm.next {}
    next := sm.next + 1
    active := some sm.next }

/-- `go handleStreamDisconnect`. -/
def startHandler (sm : StreamManager) (i : StreamId) : StreamManager :=
  { sm with
    handlers := Function.update sm.handlers sm.nextHandler (some (i, .start))
    nextHandler := sm.nextHandler + 1 }

/-- A call of `Send` ends, or goes on. -/
def setCall (sm : StreamManager) (c : Nat) (call : Option (StreamId × GameMessage × SendPhase)) :
    StreamManager := { sm with calls := Function.update sm.calls c call }

/-- `rs.sendCh <- msg`: it panics if the channel is closed. -/
def push (sm : StreamManager) (i : StreamId) (msg : GameMessage) : StreamManager :=
  if (sm.heap i).closes = 0 then sm.modify i fun rs => { rs with sendCh := rs.sendCh ++ [msg] }
  else { sm with panics := sm.panics + 1 }

/-- The next step of a call of `Send`; a `select` on a closed channel chooses to send. -/
def sendStep (bufferSize : BufferSize) (sm : StreamManager) (c : Nat) (i : StreamId)
    (msg : GameMessage) : SendPhase → StreamManager
  | .found =>
    sm.setCall c (if (sm.heap i).state = .healthy then some (i, msg, .select) else none)
  | .select =>
    if (sm.heap i).closes ≠ 0 ∨ (sm.heap i).sendCh.length < bufferSize then
      (sm.push i msg).setCall c none
    else if isLossyClientMessage msg.messageType then sm.setCall c none
    else sm.setCall c (some (i, msg, .wait))
  | .wait =>
    if (sm.heap i).closes ≠ 0 ∨ (sm.heap i).sendCh.length < bufferSize then
      (sm.push i msg).setCall c none
    else sm

/-- A handler ends, or goes on. -/
def setHandler (sm : StreamManager) (h : Nat) (handler : Option (StreamId × HandlerPhase)) :
    StreamManager := { sm with handlers := Function.update sm.handlers h handler }

def setState (sm : StreamManager) (i : StreamId) (state : StreamState) : StreamManager :=
  sm.modify i fun rs => { rs with state := state }

/-- The next step of `handleStreamDisconnect`; `ok` says whether the reconnection, or the replay,
succeeds. -/
def handlerStep (sm : StreamManager) (h : Nat) (i : StreamId) (ok : Bool) :
    HandlerPhase → StreamManager
  | .start =>
    if (sm.heap i).state = .dead then
      (sm.setState i .reconnecting).setHandler h (some (i, .dialing))
    else if (sm.heap i).state = .reconnecting then sm.setHandler h (some (i, .dialing))
    else sm.setHandler h none
  | .dialing =>
    if ok then (sm.setState i .healthy).setHandler h (some (i, .replaying))
    else (sm.setState i .dead).setHandler h (some (i, .reporting))
  | .replaying =>
    (if ok then sm else sm.setState i .dead).modify i (fun rs => { rs with keepalive := true })
      |>.setHandler h none
  | .reporting => (sm.markUnhealthy i).setHandler h none

/-- The send loop of the instance has the next message, if the stream takes it, or fails. -/
def loopStep (sm : StreamManager) (i : StreamId) (ok : Bool) : StreamManager :=
  match (sm.heap i).loop, (sm.heap i).sendCh with
  | .running, _ :: sendCh =>
    sm.modify i fun rs => { rs with sendCh := sendCh, loop := if ok then .running else .failed }
  | .running, [] =>
    if (sm.heap i).closes ≠ 0 then sm.modify i fun rs => { rs with loop := .ended } else sm
  | .failed, _ => (sm.markUnhealthy i).modify i fun rs => { rs with loop := .ended }
  | .ended, _ => sm

/-- A step of one of the goroutines, or of the network. -/
inductive Action where
  /-- `GetOrCreate`, up to the dialing; the fast path changes nothing. -/
  | getOrCreate
  /-- The dialing ends. -/
  | dialed (ok : Bool)
  /-- `Send` looks the worker up. -/
  | send (c : Nat) (msg : GameMessage)
  /-- The call goes on. -/
  | sendStep (c : Nat)
  /-- The two seconds are over. -/
  | timeout (c : Nat)
  | close
  | addPlayer
  | removePlayer
  /-- The idle timeout of `scheduleIdleClose` is over. -/
  | idleClose (i : StreamId)
  | loopStep (i : StreamId) (ok : Bool)
  /-- The receiver of the instance gets an error. -/
  | recvError (i : StreamId)
  /-- The keepalive of the instance gets an error or no answer. -/
  | keepaliveTimeout (i : StreamId)
  | handlerStep (h : Nat) (ok : Bool)

/-- A failure marks the instance, and starts a handler. -/
def fail (sm : StreamManager) (i : StreamId) : StreamManager :=
  (sm.setState i .dead).startHandler i

/-- Some healthy instance is in the map. -/
def ready (sm : StreamManager) : Bool := sm.active.any fun i => (sm.heap i).state = .healthy

def step (bufferSize : BufferSize) (sm : StreamManager) : Action → StreamManager
  | .getOrCreate => if sm.ready then sm else { sm with dialing := true }
  | .dialed ok =>
    if sm.dialing then { (if ok then sm.install else sm) with dialing := false } else sm
  | .send c msg =>
    if (sm.calls c).isSome then sm else sm.active.elim sm fun i => sm.setCall c
        (some (i, msg, .found))
  | .sendStep c =>
    (sm.calls c).elim sm fun call => sm.sendStep bufferSize c call.1 call.2.1 call.2.2
  | .timeout c =>
    (sm.calls c).elim sm fun call => if call.2.2 = .wait then sm.setCall c none else sm
  | .close => sm.closeActive
  | .addPlayer =>
    sm.active.elim sm fun i => sm.modify i fun rs => { rs with playerCount := rs.playerCount + 1 }
  | .removePlayer => sm.active.elim sm fun i =>
    { sm.modify i fun rs => { rs with playerCount := rs.playerCount - 1 } with
      timers := if (sm.heap i).playerCount - 1 ≤ 0 then i :: sm.timers else sm.timers }
  | .idleClose i =>
    if i ∈ sm.timers then
      let sm := { sm with timers := sm.timers.erase i }
      if sm.active = some i ∧ (sm.heap i).playerCount ≤ 0 then sm.closeActive else sm
    else sm
  | .loopStep i ok => if i < sm.next then sm.loopStep i ok else sm
  | .recvError i =>
    if i < sm.next ∧ (sm.heap i).receiving ∧ (sm.heap i).loop ≠ .ended then
      (sm.modify i fun rs => { rs with receiving := false }).fail i
    else sm
  | .keepaliveTimeout i =>
    if i < sm.next ∧ (sm.heap i).keepalive ∧ (sm.heap i).loop ≠ .ended then
      (sm.modify i fun rs => { rs with keepalive := false }).fail i
    else sm
  | .handlerStep h ok =>
    (sm.handlers h).elim sm fun handler => sm.handlerStep h handler.1 ok handler.2

/-- The streams after some steps. -/
def run (bufferSize : BufferSize) (sm : StreamManager) (as : List Action) : StreamManager :=
  as.foldl (step bufferSize) sm

/-- Nothing has panicked, and no failure of one instance has evicted another one that was
healthy. -/
structure Isolated (sm : StreamManager) : Prop where
  panics : sm.panics = 0
  closes : ∀ i, (sm.heap i).closes ≤ 1
  evictions : ∀ e ∈ sm.evictions, e.healthy → e.evicted = e.observer

/-! ## Careful steps -/

/-- A call of `Send` has seen the instance healthy and is about to send on it. -/
def Using (sm : StreamManager) (i : StreamId) : Prop :=
  ∃ c msg ph, sm.calls c = some (i, msg, ph) ∧ ph ≠ .found

/-- The step calls `MarkUnhealthy` for a failure of the instance `i`. -/
def Reports (sm : StreamManager) (i : StreamId) : Action → Prop
  | .loopStep j _ => j = i ∧ j < sm.next ∧ (sm.heap j).loop = .failed
  | .handlerStep h _ => sm.handlers h = some (i, .reporting)
  | _ => False

/-- The step closes the instance in the map. -/
def Closing (sm : StreamManager) : Action → Prop
  | .dialed ok => sm.dialing ∧ ok
  | .close => True
  | .idleClose i => i ∈ sm.timers ∧ sm.active = some i ∧ (sm.heap i).playerCount ≤ 0
  | a => ∃ i, sm.Reports i a

/-- The step is the end of a reconnection of the instance `i`. -/
def Revives (sm : StreamManager) (i : StreamId) : Action → Prop
  | .handlerStep h ok => ok ∧ sm.handlers h = some (i, .dialing)
  | _ => False

/-- No instance is closed while a call of `Send` is about to send on it, no closed instance is
revived that a call has found, and no failure is reported while another instance is in the map and
healthy. -/
structure Careful (sm : StreamManager) (a : Action) : Prop where
  closing : sm.Closing a → ∀ i ∈ sm.active, ¬sm.Using i
  revives : ∀ i, sm.Revives i a → (sm.heap i).closes ≠ 0 → ∀ c msg,
    sm.calls c ≠ some (i, msg, .found)
  reports : ∀ i, sm.Reports i a → ∀ j ∈ sm.active, (sm.heap j).state = .healthy → j = i

/-- Each step of a run is careful. -/
def AllCareful (bufferSize : BufferSize) (sm : StreamManager) : List Action → Prop
  | [] => True
  | a :: as => sm.Careful a ∧ (sm.step bufferSize a).AllCareful bufferSize as

/-- The instance in the map is open, and so is each one that a call is about to send on; one that a
call has only found is open or not healthy. -/
structure Inv (sm : StreamManager) : Prop extends Isolated sm where
  active : ∀ i ∈ sm.active, i < sm.next ∧ (sm.heap i).closes = 0
  using_open : ∀ i, sm.Using i → (sm.heap i).closes = 0
  found : ∀ c i msg, sm.calls c = some (i, msg, .found) →
    (sm.heap i).closes = 0 ∨ (sm.heap i).state ≠ .healthy

variable {bufferSize : BufferSize} {sm : StreamManager} {i : StreamId} {a : Action}

@[simp] theorem modify_heap (f : RoomStream → RoomStream) (j : StreamId) :
    (sm.modify i f).heap j = if j = i then f (sm.heap i) else sm.heap j := by
  simp [modify, Function.update_apply]

/-- An instance changes, but its channel stays as it is, and it does not become healthy where that
matters. -/
theorem Inv.modify (h : sm.Inv) {f : RoomStream → RoomStream}
    (hcloses : (f (sm.heap i)).closes = (sm.heap i).closes)
    (hstate : (f (sm.heap i)).state = .healthy → (sm.heap i).state = .healthy ∨
      (sm.heap i).closes = 0 ∨ ∀ c msg, sm.calls c ≠ some (i, msg, .found)) :
    (sm.modify i f).Inv := by
  have hall : ∀ j, ((sm.modify i f).heap j).closes = (sm.heap j).closes := by
    intro j
    rw [modify_heap]
    split
    · rename_i hj
      rw [hj, hcloses]
    · rfl
  refine ⟨⟨h.panics, fun j => ?_, h.evictions⟩, fun j hj => ?_, fun j hj => ?_,
    fun c j msg hc => ?_⟩
  · rw [hall]
    exact h.closes j
  · exact ⟨(h.active j hj).1, (hall j).trans (h.active j hj).2⟩
  · exact (hall j).trans (h.using_open j hj)
  · rw [hall, modify_heap]
    by_cases hj : j = i
    · subst hj
      rw [if_pos rfl]
      by_cases hhealthy : (f (sm.heap j)).state = .healthy
      · rcases hstate hhealthy with hold | hopen | hnone
        · exact .inl ((h.found c j msg hc).resolve_right (not_not_intro hold))
        · exact .inl hopen
        · exact absurd hc (hnone c msg)
      · exact .inr hhealthy
    · rw [if_neg hj]
      exact h.found c j msg hc

/-- A call of `Send` ends, or goes on with an instance that is open. -/
theorem Inv.setCall (h : sm.Inv) (c : Nat)
    {call : Option (StreamId × GameMessage × SendPhase)}
    (hcall : ∀ x ∈ call, (sm.heap x.1).closes = 0) : (sm.setCall c call).Inv := by
  have hcalls : ∀ d x, (sm.setCall c call).calls d = some x →
      sm.calls d = some x ∨ (sm.heap x.1).closes = 0 := by
    intro d x hd
    change Function.update sm.calls c call d = some x at hd
    rw [Function.update_apply] at hd
    split at hd
    · exact .inr (hcall x hd)
    · exact .inl hd
  refine ⟨⟨h.panics, h.closes, h.evictions⟩, h.active, fun i hi => ?_, fun d i msg hd => ?_⟩
  · obtain ⟨d, msg, ph, hd, hph⟩ := hi
    exact (hcalls d _ hd).elim (fun hd => h.using_open i ⟨d, msg, ph, hd, hph⟩) id
  · exact (hcalls d _ hd).elim (h.found d i msg) .inl

/-- The instance in the map is closed and deleted. -/
theorem Inv.closeActive (h : sm.Inv) (hnot : ∀ i ∈ sm.active, ¬sm.Using i) :
    sm.closeActive.Inv := by
  cases hactive : sm.active with
  | none =>
    rw [StreamManager.closeActive, hactive]
    exact h
  | some i =>
    have hopen := (h.active i (Option.mem_def.mpr hactive)).2
    have heq : sm.closeActive = { sm.modify i RoomStream.close with active := none } := by
      rw [StreamManager.closeActive, hactive]
      rfl
    rw [heq]
    refine ⟨⟨h.panics, fun j => ?_, h.evictions⟩, fun j hj => (nomatch hj), fun j hj => ?_,
      fun c j msg hc => ?_⟩
    · show ((sm.modify i RoomStream.close).heap j).closes ≤ 1
      rw [modify_heap]
      split
      · exact Nat.le_of_eq (congrArg (· + 1) hopen)
      · exact h.closes j
    · show ((sm.modify i RoomStream.close).heap j).closes = 0
      rw [modify_heap, if_neg]
      · exact h.using_open j hj
      · rintro rfl
        exact hnot j (Option.mem_def.mpr hactive) hj
    · show ((sm.modify i RoomStream.close).heap j).closes = 0 ∨
        ((sm.modify i RoomStream.close).heap j).state ≠ .healthy
      rw [modify_heap]
      split
      · exact .inr fun hdead => nomatch hdead
      · exact h.found c j msg hc

/-- `MarkUnhealthy` for a failure of `i`. -/
theorem Inv.markUnhealthy (h : sm.Inv) (hnot : ∀ j ∈ sm.active, ¬sm.Using j)
    (hown : ∀ j ∈ sm.active, (sm.heap j).state = .healthy → j = i) : (sm.markUnhealthy i).Inv := by
  have hclosed := h.closeActive hnot
  cases hactive : sm.active with
  | none =>
    rw [StreamManager.markUnhealthy, hactive]
    exact h
  | some j =>
    rw [StreamManager.markUnhealthy, hactive]
    refine ⟨⟨hclosed.panics, hclosed.closes, fun e he hhealthy => ?_⟩, hclosed.active,
      hclosed.using_open, hclosed.found⟩
    rcases List.mem_append.mp he with he | he
    · exact h.evictions e he hhealthy
    · obtain rfl := List.mem_singleton.mp he
      exact hown j (Option.mem_def.mpr hactive) (of_decide_eq_true hhealthy)

/-- The new instance is open, and nobody has found it. -/
theorem Inv.install (h : sm.Inv) (hnot : ∀ j ∈ sm.active, ¬sm.Using j) : sm.install.Inv := by
  have hclosed := h.closeActive hnot
  have hheap : ∀ j, sm.install.heap j = if j = sm.closeActive.next then {} else
      sm.closeActive.heap j := fun j => Function.update_apply ..
  refine ⟨⟨hclosed.panics, fun j => ?_, hclosed.evictions⟩, fun j hj => ?_, fun j hj => ?_,
    fun c j msg hc => ?_⟩
  · rw [hheap]
    split
    · exact Nat.zero_le 1
    · exact hclosed.closes j
  · obtain rfl : sm.closeActive.next = j := Option.some.inj hj
    rw [hheap, if_pos rfl]
    exact ⟨Nat.lt_succ_self _, rfl⟩
  · rw [hheap]
    split
    · rfl
    · exact hclosed.using_open j hj
  · rw [hheap]
    split
    · exact .inl rfl
    · exact hclosed.found c j msg hc

/-- Other parts of the manager. -/
theorem Inv.congr (h : sm.Inv) {sm' : StreamManager} (hheap : sm'.heap = sm.heap)
    (hnext : sm'.next = sm.next) (hactive : sm'.active = sm.active) (hcalls : sm'.calls = sm.calls)
    (hpanics : sm'.panics = sm.panics) (hevictions : sm'.evictions = sm.evictions) : sm'.Inv := by
  refine ⟨⟨hpanics ▸ h.panics, hheap ▸ h.closes, hevictions ▸ h.evictions⟩, ?_, ?_, ?_⟩
  · rw [hactive, hnext, hheap]
    exact h.active
  · unfold Using
    rw [hcalls, hheap]
    exact h.using_open
  · rw [hcalls, hheap]
    exact h.found

theorem Inv.setHandler (h : sm.Inv) (k : Nat) (handler : Option (StreamId × HandlerPhase)) :
    (sm.setHandler k handler).Inv := h.congr rfl rfl rfl rfl rfl rfl

/-- A stream that does not become healthy. -/
theorem Inv.setState (h : sm.Inv) (i : StreamId) (state : StreamState) (hstate : state ≠ .healthy) :
    (sm.setState i state).Inv := h.modify rfl fun hhealthy => absurd hhealthy hstate

/-- A stream on which the call does not change what a call looks at. -/
theorem Inv.modify_same (h : sm.Inv) {f : RoomStream → RoomStream}
    (hcloses : (f (sm.heap i)).closes = (sm.heap i).closes)
    (hstate : (f (sm.heap i)).state = (sm.heap i).state) : (sm.modify i f).Inv :=
  h.modify hcloses fun hhealthy => .inl (hstate ▸ hhealthy)

theorem Inv.fail (h : sm.Inv) : (sm.fail i).Inv :=
  (h.setState i .dead (by decide)).congr rfl rfl rfl rfl rfl rfl

/-! ### Each step -/

theorem Inv.push (h : sm.Inv) (msg : GameMessage) (hopen : (sm.heap i).closes = 0) :
    (sm.push i msg).Inv ∧ (sm.push i msg).calls = sm.calls ∧
      ∀ j, ((sm.push i msg).heap j).closes = (sm.heap j).closes := by
  rw [StreamManager.push, if_pos hopen]
  refine ⟨h.modify_same rfl rfl, rfl, fun j => ?_⟩
  rw [modify_heap]
  split
  · rename_i hj
    rw [hj]
  · rfl

theorem Inv.sendStep (h : sm.Inv) {c : Nat} {msg : GameMessage} {ph : SendPhase}
    (hc : sm.calls c = some (i, msg, ph)) : (sm.sendStep bufferSize c i msg ph).Inv := by
  have hopen : ph ≠ .found → (sm.heap i).closes = 0 := fun hph => h.using_open i ⟨c, msg, ph,
    hc, hph⟩
  cases ph with
  | found =>
    refine h.setCall c fun x hx => ?_
    split at hx
    · rename_i hhealthy
      obtain rfl := Option.mem_some.mp hx
      exact (h.found c i msg hc).resolve_right (not_not_intro hhealthy)
    · cases hx
  | select =>
    have hclosed := hopen nofun
    unfold StreamManager.sendStep
    dsimp only
    split
    · exact (h.push msg hclosed).1.setCall c nofun
    · split
      · exact h.setCall c nofun
      · refine h.setCall c fun x hx => ?_
        obtain rfl := Option.mem_some.mp hx
        exact hclosed
  | wait =>
    have hclosed := hopen nofun
    unfold StreamManager.sendStep
    dsimp only
    split
    · exact (h.push msg hclosed).1.setCall c nofun
    · exact h

theorem Inv.handlerStep (h : sm.Inv) {k : Nat} {ok : Bool} {ph : HandlerPhase}
    (hk : sm.handlers k = some (i, ph)) (ha : sm.Careful (.handlerStep k ok)) :
    (sm.handlerStep k i ok ph).Inv := by
  cases ph with
  | start =>
    unfold StreamManager.handlerStep
    dsimp only
    split
    · exact (h.setState i .reconnecting (by decide)).setHandler k _
    · split <;> exact h.setHandler k _
  | dialing =>
    unfold StreamManager.handlerStep
    dsimp only
    split
    · rename_i hok
      refine Inv.setHandler (h.modify rfl fun _ => .inr ?_) k _
      by_cases hopen : (sm.heap i).closes = 0
      · exact .inl hopen
      · exact .inr (ha.revives i ⟨hok, hk⟩ hopen)
    · exact (h.setState i .dead (by decide)).setHandler k _
  | replaying =>
    unfold StreamManager.handlerStep
    dsimp only
    refine Inv.setHandler (Inv.modify_same ?_ rfl rfl) k _
    split
    · exact h
    · exact h.setState i .dead (by decide)
  | reporting =>
    exact (h.markUnhealthy (ha.closing ⟨i, hk⟩) (ha.reports i hk)).setHandler k _

theorem Inv.loopStep (h : sm.Inv) {ok : Bool} (hi : i < sm.next)
    (ha : sm.Careful (.loopStep i ok)) : (sm.loopStep i ok).Inv := by
  unfold StreamManager.loopStep
  split
  · exact h.modify_same rfl rfl
  · split
    · exact h.modify_same rfl rfl
    · exact h
  · rename_i hloop
    have hreports : sm.Reports i (.loopStep i ok) := ⟨rfl, hi, hloop⟩
    exact (h.markUnhealthy (ha.closing ⟨i, hreports⟩) (ha.reports i hreports)).modify_same rfl rfl
  · exact h

/-- **A careful step keeps the instances isolated.** -/
theorem Inv.step (h : sm.Inv) (ha : sm.Careful a) : (sm.step bufferSize a).Inv := by
  cases a with
  | getOrCreate =>
    unfold StreamManager.step
    dsimp only
    split
    · exact h
    · exact h.congr rfl rfl rfl rfl rfl rfl
  | dialed ok =>
    unfold StreamManager.step
    dsimp only
    split
    · rename_i hdialing
      cases ok with
      | true => exact (h.install (ha.closing ⟨hdialing, rfl⟩)).congr rfl rfl rfl rfl rfl rfl
      | false => exact h.congr rfl rfl rfl rfl rfl rfl
    · exact h
  | send c msg =>
    unfold StreamManager.step
    dsimp only
    split
    · exact h
    · cases hactive : sm.active with
      | none => exact h
      | some i =>
        refine h.setCall c fun x hx => ?_
        obtain rfl := Option.mem_some.mp hx
        exact (h.active i (Option.mem_def.mpr hactive)).2
  | sendStep c =>
    show ((sm.calls c).elim sm _).Inv
    cases hc : sm.calls c with
    | none => exact h
    | some call => exact h.sendStep hc
  | timeout c =>
    show ((sm.calls c).elim sm _).Inv
    cases hc : sm.calls c with
    | none => exact h
    | some call =>
      simp only [Option.elim]
      split
      · exact h.setCall c nofun
      · exact h
  | close => exact h.closeActive (ha.closing trivial)
  | addPlayer =>
    show (sm.active.elim sm _).Inv
    cases sm.active with
    | none => exact h
    | some i =>
      exact Inv.modify_same (f := fun rs => { rs with playerCount := rs.playerCount + 1 }) h rfl rfl
  | removePlayer =>
    show (sm.active.elim sm _).Inv
    cases sm.active with
    | none => exact h
    | some i =>
      exact (Inv.modify_same (i := i)
        (f := fun rs => { rs with playerCount := rs.playerCount - 1 }) h
        rfl rfl).congr rfl rfl rfl rfl rfl rfl
  | idleClose i =>
    unfold StreamManager.step
    dsimp only
    split
    · rename_i hi
      have htimers : { sm with timers := sm.timers.erase i }.Inv :=
        h.congr rfl rfl rfl rfl rfl rfl
      split
      · rename_i hidle
        exact htimers.closeActive (ha.closing ⟨hi, hidle.1, hidle.2⟩)
      · exact htimers
    · exact h
  | loopStep i ok =>
    unfold StreamManager.step
    dsimp only
    split
    · rename_i hi
      exact h.loopStep hi ha
    · exact h
  | recvError i =>
    unfold StreamManager.step
    dsimp only
    split
    · exact (h.modify_same rfl rfl).fail
    · exact h
  | keepaliveTimeout i =>
    unfold StreamManager.step
    dsimp only
    split
    · exact (h.modify_same rfl rfl).fail
    · exact h
  | handlerStep k ok =>
    show ((sm.handlers k).elim sm _).Inv
    cases hk : sm.handlers k with
    | none => exact h
    | some handler => exact h.handlerStep hk ha

/-! ## Runs -/

theorem inv_new : Inv {} :=
  ⟨⟨rfl, fun _ => Nat.zero_le 1, fun _ he => absurd he List.not_mem_nil⟩, fun _ h => (nomatch h),
    fun _ _ => rfl, fun _ _ _ h => (nomatch h)⟩

theorem Inv.run (h : sm.Inv) {as : List Action} (has : sm.AllCareful bufferSize as) :
    (sm.run bufferSize as).Inv := by
  induction as generalizing sm with
  | nil => exact h
  | cons a as ih => exact ih (h.step has.1) has.2

theorem AllCareful.of_prefix {as bs : List Action} (h : sm.AllCareful bufferSize as)
    (hp : bs <+: as) : sm.AllCareful bufferSize bs := by
  induction bs generalizing sm as with
  | nil => trivial
  | cons b bs ih =>
    obtain ⟨rest, rfl⟩ := hp
    exact ⟨h.1, ih h.2 ⟨rest, rfl⟩⟩

/-- **In every state of a run with careful steps the instances are isolated**: nothing has panicked,
and no failure of one instance has evicted another one that was healthy. -/
theorem isolated_run {bufferSize : BufferSize} {as bs : List Action}
    (h : ({} : StreamManager).AllCareful bufferSize as) (hp : bs <+: as) :
    (({} : StreamManager).run bufferSize bs).Isolated := (inv_new.run (h.of_prefix hp)).toIsolated

/-- A chat message of a player. -/
def guess : GameMessage := ⟨"p", "ROOM01", "guess", "hi"⟩

/-- The step closes nothing and revives nothing, and it reports no failure. -/
theorem careful_of_quiet {sm : StreamManager} {a : Action} (hclosing : ¬sm.Closing a)
    (hrevives : ∀ i, ¬sm.Revives i a) (hreports : ∀ i, ¬sm.Reports i a) : sm.Careful a :=
  ⟨fun h => absurd h hclosing, fun i h => absurd h (hrevives i), fun i h => absurd h (hreports i)⟩

/-- Nobody is sending, and a failure that the step reports is one of the instance in the map. -/
theorem careful_of_calls {sm : StreamManager} {a : Action} (hcalls : ∀ c, sm.calls c = none)
    (hreports : ∀ i, sm.Reports i a → ∀ j ∈ sm.active, j = i) : sm.Careful a where
  closing _ i _ := by
    rintro ⟨c, msg, ph, hc, -⟩
    rw [hcalls c] at hc
    cases hc
  revives i _ _ c msg hc := by
    rw [hcalls c] at hc
    cases hc
  reports i hi j hj _ := hreports i hi j hj

/-- **A failure of the own instance**: the message of a call is queued, the send loop fails on it
and its instance is evicted, and the stream that takes its place is closed. -/
def failsAlone : List Action :=
  [.getOrCreate, .dialed true, .send 0 guess, .sendStep 0, .sendStep 0, .loopStep 0 false,
    .loopStep 0 false, .getOrCreate, .dialed true, .close]

theorem isolated_failsAlone : (({} : StreamManager).run 4096 failsAlone).Isolated ∧
    (({} : StreamManager).run 4096 failsAlone).evictions = [⟨0, 0, true⟩] := by
  have hcareful : ({} : StreamManager).AllCareful 4096 failsAlone := by
    refine ⟨careful_of_calls (fun _ => rfl) fun _ h => h.elim,
      careful_of_calls (fun _ => rfl) fun _ h => h.elim,
      careful_of_calls (fun _ => rfl) fun _ h => h.elim,
      careful_of_quiet (fun ⟨_, h⟩ => h) (fun _ h => h) fun _ h => h,
      careful_of_quiet (fun ⟨_, h⟩ => h) (fun _ h => h) fun _ h => h,
      -- the call has ended, and the send loop is still running
      careful_of_calls ?_ fun _ h => absurd h.2.2 (by decide),
      -- the send loop has failed, and its instance is the one in the map
      careful_of_calls ?_ ?_,
      careful_of_calls ?_ fun _ h => h.elim, careful_of_calls ?_ fun _ h => h.elim,
      careful_of_calls ?_ fun _ h => h.elim, trivial⟩
    · rintro (_ | _) <;> rfl
    · rintro (_ | _) <;> rfl
    · rintro i ⟨rfl, -⟩ j hj
      cases hj
      rfl
    all_goals rintro (_ | _) <;> rfl
  exact ⟨isolated_run hcareful (List.prefix_refl _), by decide⟩

/-- **Two calls of `Send`**: the message of the second makes the send loop fail while the first is
about to send. -/
def sendFails : List Action :=
  [.getOrCreate, .dialed true, .send 0 guess, .sendStep 0, .send 1 guess, .sendStep 1, .sendStep 1,
    .loopStep 0 false, .loopStep 0 false, .sendStep 0]

/-- **A late report**: the old instance's reconnection fails after the stream has been replaced. -/
def reportsLate : List Action :=
  [.getOrCreate, .dialed true, .recvError 0, .getOrCreate, .dialed true, .handlerStep 0 false,
    .handlerStep 0 false, .handlerStep 0 false]

/-- A call sends on a closed channel, and a failure of the old instance evicts the new one. -/
theorem not_isolated : ¬(∀ as, (({} : StreamManager).run 4096 as).panics = 0) ∧
    ¬∀ as, ∀ e ∈ (({} : StreamManager).run 4096 as).evictions, e.healthy →
      e.evicted = e.observer := by
  refine ⟨fun h => absurd (h sendFails) (by decide), fun h => ?_⟩
  have hlog : (({} : StreamManager).run 4096 reportsLate).evictions = [⟨0, 1, true⟩] := by decide
  exact absurd (h reportsLate ⟨0, 1, true⟩ (hlog ▸ List.mem_singleton_self _) rfl) (by decide)

end StreamManager

end Skribbl.Gateway
