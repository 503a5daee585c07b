import Skribbl.Gateway.ReadLoop

/-!
# Reconnection of a stream (`gateway/lifecycle.go`, `gateway/buffer.go`)

When the receiver of a stream gets an error it ends and starts `handleStreamDisconnect`, which
buffers what is sent, dials, puts the new gRPC stream into the same `RoomStream` and replays the
buffer.

* `Link` — one `RoomStream` with its goroutines: calls of `Send`, the send loop, the receiver, the
  keepalive loop and the disconnect handlers, each with the goroutine that fills its buffer.
* `Link.step` — one atomic step of one of them.
* `Link.Restored` — the receiver is running, and when nothing is on its way any more, exactly what
  was not reported as dropped has been transmitted, in order.

Principal results: `never_restored` — after a successful reconnection the stream is never restored,
and no message of the worker is delivered any more.
-/

set_option autoImplicit false

namespace Skribbl.Gateway

/-- `MessageBuffer`, with the messages that it has dropped. -/
structure MessageBuffer where
  messages : List Nat := []
  dropped : List Nat := []

/-- `Push`: a full buffer drops its oldest message. -/
def MessageBuffer.push (maxSize : Nat) (b : MessageBuffer) (msg : Nat) : MessageBuffer :=
  if maxSize ≤ b.messages.length then
    ⟨b.messages.drop 1 ++ [msg], b.dropped ++ b.messages.take 1⟩
  else ⟨b.messages ++ [msg], b.dropped⟩

/-- Where `handleStreamDisconnect` is: at its start, before the next of some attempts, with messages
to replay, or at its end. -/
inductive DisconnectPhase where
  | start
  | dialing (attempts : Nat)
  | replaying (messages : List Nat)
  | done
  deriving DecidableEq

/-- A call of `handleStreamDisconnect` and whether the goroutine that fills its buffer has been
started. -/
structure DisconnectHandler where
  phase : DisconnectPhase := .start
  buffer : MessageBuffer := {}
  buffering : Bool := false

/-- A `RoomStream`: the number of its gRPC stream and whether that is broken, the channel with
messages numbered in the order in which `Send` accepts them, how many calls of `Send` have seen the
stream healthy, the message that the send loop has taken, and the other goroutines; what has been
transmitted, the number of successful reconnections, and what the worker has sent on the present
gRPC stream and the receiver has delivered. -/
structure Link where
  state : StreamState := .healthy
  stream : Nat := 0
  broken : Bool := false
  sendCh : List Nat := []
  closed : Bool := false
  checked : Nat := 0
  accepted : Nat := 0
  loop : Bool := true
  hand : Option Nat := none
  receiving : Bool := true
  keepalive : Bool := false
  handlers : Nat → Option DisconnectHandler := fun _ => none
  nextHandler : Nat := 0
  transmitted : List Nat := []
  reconnections : Nat := 0
  arriving : List String := []
  delivered : List String := []

namespace Link

/-- `MarkUnhealthy`: the channel is closed. -/
def markUnhealthy (s : Link) : Link := { s with state := .dead, closed := true }

/-- `rs.state.Store(streamStateDead)` and `go handleStreamDisconnect`. -/
def fail (s : Link) : Link :=
  { s with
    state := .dead
    handlers := Function.update s.handlers s.nextHandler (some {})
    nextHandler := s.nextHandler + 1 }

def setHandler (s : Link) (k : Nat) (x : DisconnectHandler) : Link :=
  { s with handlers := Function.update s.handlers k (some x) }

/-- `rs.stream.Send`: it fails if the gRPC stream is broken, and may fail otherwise. -/
def transmit (s : Link) (msg : Nat) (ok : Bool) : Option Link :=
  if ok ∧ s.broken = false then some { s with transmitted := s.transmitted ++ [msg] } else none

/-- The next step of `handleStreamDisconnect`; `ok` says whether an attempt, or a send, succeeds. -/
def handlerStep (s : Link) (k : Nat) (x : DisconnectHandler) (ok : Bool) : Link :=
  match x.phase with
  | .start =>
    if s.state = .healthy then s.setHandler k { x with phase := .done }
    else { s with state := .reconnecting }.setHandler k
      { x with phase := .dialing 3, buffering := true }
  | .dialing 0 => { s with state := .dead }.markUnhealthy.setHandler k { x with phase := .done }
  | .dialing (n + 1) =>
    if ok then
      { s with
        stream := s.stream + 1
        broken := false
        arriving := []
        state := .healthy
        reconnections := s.reconnections + 1 }.setHandler k
        { x with phase := .replaying x.buffer.messages, buffer := { x.buffer with messages := [] } }
    else s.setHandler k { x with phase := .dialing n }
  | .replaying [] => { s with keepalive := true }.setHandler k { x with phase := .done }
  | .replaying (msg :: messages) =>
    match s.transmit msg ok with
    | some s => s.setHandler k { x with phase := .replaying messages }
    | none => { s with state := .dead, keepalive := true }.setHandler k { x with phase := .done }
  | .done => s

/-- A step of one of the goroutines, of the network or of the worker. -/
inductive Action where
  /-- A call of `Send` sees the stream healthy. -/
  | check
  /-- The call sends on the channel. -/
  | push
  /-- The send loop takes a message. -/
  | take
  /-- The send loop transmits it. -/
  | transmit (ok : Bool)
  /-- The gRPC stream breaks. -/
  | breaks
  /-- The receiver gets an error. -/
  | recvError
  /-- The keepalive loop gets an error or no answer. -/
  | keepaliveTimeout
  | handler (k : Nat) (ok : Bool)
  /-- The goroutine of a handler takes a message into the buffer. -/
  | buffer (k : Nat)
  /-- The worker sends a message on the gRPC stream. -/
  | worker (payload : String)
  /-- The receiver delivers the next message. -/
  | receive

def step (bufferSize : Nat) (s : Link) : Action → Link
  | .check => if s.state = .healthy then { s with checked := s.checked + 1 } else s
  | .push =>
    if 0 < s.checked ∧ s.closed = false ∧ s.sendCh.length < bufferSize then
      { s with
        checked := s.checked - 1
        sendCh := s.sendCh ++ [s.accepted]
        accepted := s.accepted + 1 }
    else s
  | .take =>
    match s.loop, s.hand, s.sendCh with
    | true, none, msg :: sendCh => { s with hand := some msg, sendCh := sendCh }
    | _, _, _ => s
  | .transmit ok => s.hand.elim s fun msg =>
    match s.transmit msg ok with
    | some s => { s with hand := none }
    | none => { s.markUnhealthy with hand := none, loop := false }
  | .breaks => { s with broken := true }
  | .recvError => if s.receiving ∧ s.loop then { s with receiving := false }.fail else s
  | .keepaliveTimeout => if s.keepalive ∧ s.loop then { s with keepalive := false }.fail else s
  | .handler k ok => (s.handlers k).elim s fun x => s.handlerStep k x ok
  | .buffer k => (s.handlers k).elim s fun x =>
    match x.buffering, s.sendCh with
    | true, msg :: sendCh => { s with sendCh := sendCh }.setHandler k
        { x with buffer := x.buffer.push bufferSize msg }
    | _, _ => s
  | .worker payload => if s.broken then s else { s with arriving := s.arriving ++ [payload] }
  | .receive =>
    match s.receiving, s.arriving with
    | true, payload :: arriving =>
      { s with arriving := arriving, delivered := s.delivered ++ [payload] }
    | _, _ => s

/-- The stream after some steps. -/
def run (bufferSize : Nat) (s : Link) (as : List Action) : Link := as.foldl (step bufferSize) s

/-- No goroutine is about to transmit anything. -/
def Settled (s : Link) : Prop :=
  s.sendCh = [] ∧ s.hand = none ∧ ∀ k, ∀ x ∈ s.handlers k, x.phase = .done

/-- The buffers report the message as dropped. -/
def Dropped (s : Link) (msg : Nat) : Prop := ∃ k, ∃ x ∈ s.handlers k, msg ∈ x.buffer.dropped

/-- Messages of the worker are delivered, and each message that `Send` has accepted has been
transmitted once and in order, unless it is on its way or reported as dropped. -/
structure Restored (s : Link) : Prop where
  receives : s.receiving = true
  once : s.transmitted.Nodup
  order : s.transmitted.Pairwise (· < ·)
  all : s.Settled → ∀ msg < s.accepted, msg ∈ s.transmitted ∨ s.Dropped msg

/-! ## The receiver -/

/-- Handlers and the keepalive loop come after the receiver has ended. -/
def Inv (s : Link) : Prop :=
  s.receiving = true → s.reconnections = 0 ∧ s.keepalive = false ∧ ∀ k, s.handlers k = none

variable {bufferSize : Nat} {s : Link}

theorem transmit_eq {msg : Nat} {ok : Bool} {s' : Link} (h : s.transmit msg ok = some s') :
    s' = { s with transmitted := s.transmitted ++ [msg] } := by
  unfold transmit at h
  split at h
  · exact (Option.some.inj h).symm
  · cases h

/-- A handler starts no receiver. -/
theorem handlerStep_receiver (k : Nat) (x : DisconnectHandler) (ok : Bool) :
    (s.handlerStep k x ok).receiving = s.receiving ∧
      (s.handlerStep k x ok).delivered = s.delivered := by
  unfold handlerStep
  split
  · split <;> exact ⟨rfl, rfl⟩
  · exact ⟨rfl, rfl⟩
  · split <;> exact ⟨rfl, rfl⟩
  · exact ⟨rfl, rfl⟩
  · split
    · rename_i hsent
      rw [transmit_eq hsent]
      exact ⟨rfl, rfl⟩
    · exact ⟨rfl, rfl⟩
  · exact ⟨rfl, rfl⟩

/-- **Nothing starts a receiver again**, and without one nothing is delivered. -/
theorem step_ended (h : s.receiving = false) (a : Action) :
    (s.step bufferSize a).receiving = false ∧ (s.step bufferSize a).delivered = s.delivered := by
  cases a with
  | check =>
    unfold step
    dsimp only
    split <;> exact ⟨h, rfl⟩
  | push =>
    unfold step
    dsimp only
    split <;> exact ⟨h, rfl⟩
  | take =>
    unfold step
    dsimp only
    split <;> exact ⟨h, rfl⟩
  | transmit ok =>
    show (s.hand.elim s _).receiving = false ∧ (s.hand.elim s _).delivered = s.delivered
    cases s.hand with
    | none => exact ⟨h, rfl⟩
    | some msg =>
      simp only [Option.elim]
      split
      · rename_i hsent
        rw [transmit_eq hsent]
        exact ⟨h, rfl⟩
      · exact ⟨h, rfl⟩
  | breaks => exact ⟨h, rfl⟩
  | recvError =>
    unfold step
    dsimp only
    split
    · exact ⟨rfl, rfl⟩
    · exact ⟨h, rfl⟩
  | keepaliveTimeout =>
    unfold step
    dsimp only
    split <;> exact ⟨h, rfl⟩
  | handler k ok =>
    show ((s.handlers k).elim s _).receiving = false ∧
      ((s.handlers k).elim s _).delivered = s.delivered
    cases s.handlers k with
    | none => exact ⟨h, rfl⟩
    | some x =>
      obtain ⟨hreceiving, hdelivered⟩ := handlerStep_receiver (s := s) k x ok
      exact ⟨hreceiving.trans h, hdelivered⟩
  | buffer k =>
    show ((s.handlers k).elim s _).receiving = false ∧
      ((s.handlers k).elim s _).delivered = s.delivered
    cases s.handlers k with
    | none => exact ⟨h, rfl⟩
    | some x =>
      simp only [Option.elim]
      split <;> exact ⟨h, rfl⟩
  | worker payload =>
    unfold step
    dsimp only
    split <;> exact ⟨h, rfl⟩
  | receive =>
    unfold step
    dsimp only
    rw [h]
    exact ⟨h, rfl⟩

/-- While the receiver is running there is no handler. -/
theorem Inv.step (h : s.Inv) (a : Action) : (s.step bufferSize a).Inv := by
  cases hreceiving : s.receiving with
  | false =>
    intro hafter
    rw [(step_ended hreceiving a).1] at hafter
    cases hafter
  | true =>
    obtain ⟨hrec, hkeep, hnone⟩ := h hreceiving
    cases a with
    | check =>
      unfold Link.step
      dsimp only
      split <;> exact h
    | push =>
      unfold Link.step
      dsimp only
      split <;> exact h
    | take =>
      unfold Link.step
      dsimp only
      split <;> exact h
    | transmit ok =>
      show (s.hand.elim s _).Inv
      cases s.hand with
      | none => exact h
      | some msg =>
        simp only [Option.elim]
        split
        · rename_i hsent
          rw [transmit_eq hsent]
          exact h
        · exact h
    | breaks => exact h
    | recvError =>
      unfold Link.step
      dsimp only
      split
      · exact fun hafter => nomatch hafter
      · exact h
    | keepaliveTimeout =>
      unfold Link.step
      dsimp only
      rw [if_neg fun hk => by rw [hkeep] at hk; cases hk.1]
      exact h
    | handler k ok =>
      show ((s.handlers k).elim s _).Inv
      rw [hnone k]
      exact h
    | buffer k =>
      show ((s.handlers k).elim s _).Inv
      rw [hnone k]
      exact h
    | worker payload =>
      unfold Link.step
      dsimp only
      split <;> exact h
    | receive =>
      unfold Link.step
      dsimp only
      split <;> exact h

/-! ## Runs -/

theorem inv_new : Inv {} := fun _ => ⟨rfl, rfl, fun _ => rfl⟩

theorem Inv.run (h : s.Inv) (as : List Action) : (s.run bufferSize as).Inv := by
  induction as generalizing s with
  | nil => exact h
  | cons a as ih => exact ih (h.step a)

theorem run_ended (h : s.receiving = false) (as : List Action) :
    (s.run bufferSize as).receiving = false ∧ (s.run bufferSize as).delivered = s.delivered := by
  induction as generalizing s with
  | nil => exact ⟨h, rfl⟩
  | cons a as ih =>
    have hstep : (s.step bufferSize a).receiving = false ∧ _ := step_ended h a
    obtain ⟨hrun, hrest⟩ := ih hstep.1
    exact ⟨hrun, hrest.trans hstep.2⟩

theorem Inv.not_receiving (h : s.Inv) (hrec : 0 < s.reconnections) : s.receiving = false := by
  cases hreceiving : s.receiving with
  | false => rfl
  | true => exact absurd (h hreceiving).1 hrec.ne'

/-- **After a successful reconnection the stream is never restored**: whatever happens, no message
of the worker is delivered any more. -/
theorem never_restored {bufferSize : Nat} {as : List Action}
    (h : 0 < (({} : Link).run bufferSize as).reconnections) (bs : List Action) :
    ¬((({} : Link).run bufferSize as).run bufferSize bs).Restored ∧
      ((({} : Link).run bufferSize as).run bufferSize bs).delivered =
        (({} : Link).run bufferSize as).delivered := by
  have hended : (({} : Link).run bufferSize as).receiving = false :=
    (inv_new.run as).not_receiving h
  have hafter : ((({} : Link).run bufferSize as).run bufferSize bs).receiving = false ∧ _ :=
    run_ended hended bs
  refine ⟨fun hrestored => ?_, hafter.2⟩
  exact absurd (hafter.1.symm.trans hrestored.receives) Bool.false_ne_true

/-- An outage and a reconnection. -/
def outage : List Action :=
  [.breaks, .recvError, .handler 0 true, .handler 0 true, .handler 0 true]

theorem outage_not_restored : ¬((({} : Link).run 4096 outage).run 4096 [.worker "hi"]).Restored :=
  (never_restored (by decide) [.worker "hi"]).1

/-- After the reconnection a message is accepted, and the goroutine that filled the buffer during
the outage takes it. -/
def swallowed : List Action := outage ++ [.check, .push, .buffer 0]

/-- **Both halves fail**: the worker is not heard any more, and a message that has been accepted is
neither transmitted nor reported as dropped. -/
theorem not_restored :
    ¬(∀ as, 0 < (({} : Link).run 4096 as).reconnections → (({} : Link).run 4096 as).receiving) ∧
    ¬∀ as, 0 < (({} : Link).run 4096 as).reconnections → (({} : Link).run 4096 as).Restored := by
  refine ⟨fun h => absurd (h outage (by decide)) (by decide), fun h => ?_⟩
  have hhandler : ∀ k x, (({} : Link).run 4096 swallowed).handlers k = some x →
      x.phase = .done ∧ x.buffer.dropped = [] := by
    intro k x hx
    by_cases hk : k = 0
    · subst hk
      cases hx
      exact ⟨rfl, rfl⟩
    · have hnone : (({} : Link).run 4096 swallowed).handlers k = none := by
        simp [swallowed, outage, Link.run, Link.step, fail, handlerStep, setHandler, hk]
      rw [hnone] at hx
      cases hx
  have hsettled : (({} : Link).run 4096 swallowed).Settled :=
    ⟨by decide, by decide, fun k x hx => (hhandler k x hx).1⟩
  rcases (h swallowed (by decide)).all hsettled 0 (by decide) with hsent | ⟨k, x, hx, hdropped⟩
  · exact absurd hsent (by decide)
  · rw [(hhandler k x hx).2] at hdropped
    exact absurd hdropped List.not_mem_nil

end Link

end Skribbl.Gateway
