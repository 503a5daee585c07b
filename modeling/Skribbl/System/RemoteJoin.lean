import Mathlib.Algebra.Order.Ring.Rat
import Mathlib.Logic.Relation
import Mathlib.Tactic.Linarith
import Mathlib.Tactic.NormNum

/-!
# A join at another worker (`_join_room_remote`, `_handle_rpc`)

The worker of the client asks the worker that owns the room, and polls Redis for the reply, for five
seconds at most.  The owner adds the player before it replies.

* `RemoteJoin` — one such request: where the asker and the owner are, the reply key with its expiry,
  and the notice that the client is gone.
* `RemoteJoin.Atomic` — once nothing is under way any more, a client that has been answered with an
  error has no player in the room, and of a client that is gone the owner knows.
* `Pace` — bounds on the owner's answer and on the asker's polls that fit into the five seconds.
* `RemoteJoin.Heeds` — a request is answered and polled for at that pace, no acceptance is lost, and
  a client that goes after its join is one of a WebSocket whose room still has its owner in Redis.

Principal results: `atomic_of_run` — then it is atomic; `joined_late` — an owner that is slower than
the asker's patience keeps the player.
-/

set_option autoImplicit false

namespace Skribbl.System

/-- What the client is connected to: the worker (`ws_handler.py`), or a gateway. -/
inductive Access where
  | webSocket
  | grpc
  deriving DecidableEq

/-- How far `_handle_rpc` has come on the owner. -/
inductive Owner where
  | unread
  /-- `room.add_player` is done, and `set_room_info` and the broadcast are not. -/
  | accepted
  | refused
  /-- The reply is set, or lost. -/
  | replied (accepts : Bool)
  deriving DecidableEq

/-- The player of the request is a member of the owner's room. -/
def Owner.member : Owner → Bool
  | .accepted => true
  | .replied accepts => accepts
  | _ => false

/-- The owner has turned the request down. -/
def Owner.Declined (o : Owner) : Prop := o = .refused ∨ o = .replied false

theorem Owner.Declined.member {o : Owner} (h : o.Declined) : o.member = false := by
  rcases h with rfl | rfl <;> rfl

/-- How far `_join_room_remote` and then its caller have come. -/
inductive Asker where
  /-- `wait_for_rpc_response`, between two polls. -/
  | waiting
  /-- Before Redis has read the reply key. -/
  | polling
  /-- The client is answered with an error. -/
  | failed
  /-- The client is answered with `room_joined`, and is in the proxy of the room. -/
  | joined
  /-- The connection has been closed and cleaned up, or the wait was cancelled. -/
  | closed
  deriving DecidableEq

/-- A request to join a room of another worker, sent at time 0. -/
structure RemoteJoin where
  connection : Access
  now : ℚ := 0
  owner : Owner := .unread
  /-- `rpc_response:<request_id>`: whether it says `room_joined`, and when the key expires. -/
  reply : Option (Bool × ℚ) := none
  asker : Asker := .waiting
  /-- When Redis last answered a poll. -/
  polled : ℚ := 0
  /-- The client has been answered with an error. -/
  error : Bool := false
  /-- The client is gone. -/
  gone : Bool := false
  /-- `player_disconnected` is on its way to the owner. -/
  notice : Bool := false
  /-- `_handle_remote_disconnect` has found the player. -/
  told : Bool := false

namespace RemoteJoin

variable {s s' : RemoteJoin}

/-- The `timeout` of `wait_for_rpc_response`. -/
def deadline : ℚ := 5

/-- The `ex` of `set_rpc_response`. -/
def replyTTL : ℚ := 10

/-- What happens. -/
inductive Action where
  | tick (d : ℚ)
  /-- The request does not get to the owner. -/
  | loseRequest
  /-- `_handle_rpc` on the owner, up to its first `await`. -/
  | handle (accepts : Bool)
  | setRpcResponse
  /-- `_handle_rpc` raises before it replies, or Redis is away. -/
  | loseReply
  | expireReply
  /-- `time.time() < deadline`. -/
  | poll
  | get
  /-- A command of Redis raises in `wait_for_rpc_response`. -/
  | raise
  /-- `wait_for_rpc_response` returns `None`. -/
  | giveUp
  /-- The stream of the gateway ends, and `inbound_task.cancel()` ends the wait. -/
  | cancel
  /-- The client disconnects. -/
  | go
  /-- The connection is cleaned up; `found` is whether `get_room_worker` returns the owner. -/
  | close (found : Bool)
  | handleRemoteDisconnect

/-- When it can happen. -/
def Possible (s : RemoteJoin) : Action → Prop
  | .tick d => 0 ≤ d
  | .loseRequest => s.owner = .unread
  | .handle _ => s.owner = .unread
  | .setRpcResponse => s.owner = .accepted ∨ s.owner = .refused
  | .loseReply => s.owner = .accepted ∨ s.owner = .refused
  | .expireReply => ∃ x, s.reply = some x ∧ x.2 ≤ s.now
  | .poll => s.asker = .waiting ∧ s.now < deadline
  | .get => s.asker = .polling
  | .raise => s.asker = .polling
  | .giveUp => s.asker = .waiting ∧ deadline ≤ s.now
  | .cancel => s.connection = .grpc ∧ (s.asker = .waiting ∨ s.asker = .polling)
  | .go => s.gone = false
  | .close _ => s.gone = true ∧ (s.asker = .failed ∨ s.asker = .joined)
  | .handleRemoteDisconnect => s.notice = true

def step (s : RemoteJoin) : Action → RemoteJoin
  | .tick d => { s with now := s.now + d }
  | .loseRequest => { s with owner := .replied false }
  | .handle accepts => { s with owner := if accepts then .accepted else .refused }
  | .setRpcResponse =>
    { s with
      owner := .replied s.owner.member
      reply := some (s.owner.member, s.now + replyTTL) }
  | .loseReply => { s with owner := .replied s.owner.member }
  | .expireReply => { s with reply := none }
  | .poll => { s with asker := .polling }
  | .get =>
    match s.reply with
    | some (true, _) =>
      { s with
        reply := none
        asker := .joined }
    | some (false, _) =>
      { s with
        reply := none
        asker := .failed
        error := true }
    | none =>
      { s with
        asker := .waiting
        polled := s.now }
  | .raise =>
    { s with
      asker := .failed
      error := true }
  | .giveUp =>
    { s with
      asker := .failed
      error := true }
  -- the transport is entered under no id that the owner knows, and nobody is told
  | .cancel => { s with asker := .closed }
  | .go => { s with gone := true }
  -- a gateway's `client_disconnected` is handled by `handle_disconnect` on this worker alone
  | .close found =>
    { s with
      asker := .closed
      notice := decide (s.asker = .joined ∧ s.connection = .webSocket) && found }
  | .handleRemoteDisconnect =>
    { s with
      notice := false
      told := s.owner.member }

/-- One step that meets a condition. -/
def Step (cond : RemoteJoin → Action → Prop) (s s' : RemoteJoin) : Prop :=
  ∃ a, s.Possible a ∧ cond s a ∧ s' = s.step a

/-- A run: any number of steps. -/
def Run (cond : RemoteJoin → Action → Prop) : RemoteJoin → RemoteJoin → Prop :=
  Relation.ReflTransGen (Step cond)

/-- Nothing is under way: the owner has handled the request, a client that is gone has been cleaned
up after, and no notice is on its way. -/
def Settled (s : RemoteJoin) : Prop :=
  (∃ accepts, s.owner = .replied accepts) ∧ (s.gone = true → s.asker = .closed) ∧ s.notice = false

/-- Once nothing is under way, a client that has been answered with an error has no player in the
room, and of a client that is gone and has one the owner knows that it is. -/
def Atomic (s : RemoteJoin) : Prop :=
  s.Settled → (s.error = true → s.owner.member = false) ∧
    (s.gone = true → s.owner.member = true → s.told = true)

/-- The asker has no reply yet. -/
def Waits (s : RemoteJoin) : Prop := s.asker = .waiting ∨ s.asker = .polling

/-- The owner has yet to accept the request, or to set the reply to it. -/
def Owes (s : RemoteJoin) : Prop := s.owner = .unread ∨ s.owner = .accepted

/-- Within `answer` seconds the owner sets its reply, unless it refuses, and Redis answers a poll
every `gap` seconds: that is time enough. -/
structure Pace where
  answer : ℚ
  gap : ℚ
  enough : answer + gap < deadline
  gap_nonneg : 0 ≤ gap

/-- The request is answered and polled for at the pace, no acceptance is lost, and the wait ends
otherwise only for a request that is turned down; and when a client that has joined is gone, it was
one of this worker, and its room still has an owner. -/
def Heeds (pace : Pace) (s : RemoteJoin) : Action → Prop
  | .tick d => (s.Owes → s.now + d ≤ pace.answer) ∧ (s.Waits → s.now + d ≤ s.polled + pace.gap)
  | .loseReply => s.owner = .refused
  | .raise | .cancel => s.owner.Declined
  | .close found => s.asker = .joined → s.connection = .webSocket ∧ found = true
  | _ => True

/-- An error is the owner's, and a client that is gone after it has joined is being announced.  As
long as the asker waits, an acceptance is there to be read, and was set before the last poll could
be too late. -/
structure Inv (pace : Pace) (s : RemoteJoin) : Prop where
  reply : ∀ x, s.reply = some x → s.owner = .replied x.1
  error : s.error = true → s.owner.Declined
  failed : s.asker = .failed → s.error = true
  joined : s.asker = .joined → s.owner = .replied true
  notice : s.notice = true → s.owner = .replied true
  closed : s.asker = .closed → s.owner.Declined ∨ s.notice = true ∨ s.told = true
  since : 0 ≤ s.polled ∧ s.polled ≤ s.now
  owes : s.Owes → s.now ≤ pace.answer
  waits : s.Waits → s.now ≤ s.polled + pace.gap
  unread : s.Waits → s.owner = .replied true →
    s.polled ≤ pace.answer ∧ ∃ e, s.reply = some (true, e) ∧ replyTTL ≤ e

variable {pace : Pace}

theorem Inv.atomic (h : s.Inv pace) : s.Atomic := by
  rintro ⟨-, hover, hnotice⟩
  refine ⟨fun herror => (h.error herror).member, fun hgone hmember => ?_⟩
  rcases h.closed (hover hgone) with hdeclined | hnotice' | htold
  · rw [hdeclined.member] at hmember
    cases hmember
  · rw [hnotice] at hnotice'
    cases hnotice'
  · exact htold

theorem not_owes_of_declined (h : s.owner.Declined) : ¬ s.Owes := by
  rintro (howes | howes) <;> rcases h with h | h <;> rw [h] at howes <;> cases howes

/-- The asker is waiting for the reply of an owner that has not read the request. -/
theorem Inv.start (connection : Access) (hpace : 0 ≤ pace.answer) :
    Inv pace { connection := connection } where
  reply := nofun
  error := nofun
  failed := nofun
  joined := nofun
  notice := nofun
  closed := nofun
  since := ⟨le_rfl, le_rfl⟩
  owes _ := hpace
  waits _ := by
    change (0 : ℚ) ≤ 0 + pace.gap
    rw [zero_add]
    exact pace.gap_nonneg
  unread _ howner := by cases howner

/-- **Whoever runs out of time has been turned down**: an acceptance would have been read. -/
theorem Inv.late (h : s.Inv pace) (hwaits : s.Waits) (hlate : deadline ≤ s.now) :
    s.owner.Declined := by
  have hpolled : s.now ≤ s.polled + pace.gap := h.waits hwaits
  have henough : pace.answer + pace.gap < deadline := pace.enough
  have hgap : 0 ≤ pace.gap := pace.gap_nonneg
  cases howner : s.owner with
  | unread => linarith [h.owes (.inl howner)]
  | accepted => linarith [h.owes (.inr howner)]
  | refused => exact .inl rfl
  | replied accepts =>
    cases accepts with
    | false => exact .inr rfl
    | true => linarith [(h.unread hwaits howner).1]

/-- The asker waits no longer, and its client is answered with an error. -/
theorem Inv.fails (h : s.Inv pace) (hdeclined : s.owner.Declined) :
    Inv pace { s with
      asker := .failed
      error := true } where
  reply := h.reply
  error _ := hdeclined
  failed _ := rfl
  joined := nofun
  notice := h.notice
  closed := nofun
  since := h.since
  owes := h.owes
  waits := by rintro (hasker | hasker) <;> cases hasker
  unread := by rintro (hasker | hasker) <;> cases hasker

/-- The owner replies. -/
theorem Inv.replies (h : s.Inv pace) (howner : s.owner = .accepted ∨ s.owner = .refused) :
    (s.step .setRpcResponse).Inv pace := by
  have hunreplied : s.owner ≠ .replied true := by
    rcases howner with howner | howner <;> rw [howner] <;> nofun
  have hkeeps : s.owner.Declined → (Owner.replied s.owner.member).Declined := fun hdeclined => by
    rw [hdeclined.member]
    exact .inr rfl
  refine ⟨fun x hx => (by cases hx; rfl), fun herror => hkeeps (h.error herror), h.failed,
    fun hjoined => absurd (h.joined hjoined) hunreplied,
    fun hnotice => absurd (h.notice hnotice) hunreplied,
    fun hclosed => (h.closed hclosed).imp_left hkeeps, h.since,
    (by rintro (howes | howes) <;> cases howes), h.waits, fun hwaits haccepts => ?_⟩
  have hmember : s.owner.member = true := Owner.replied.inj haccepts
  have haccepted : s.owner = .accepted := howner.resolve_right fun hrefused => by
    rw [hrefused] at hmember
    cases hmember
  -- the reply is set in time, and every poll so far was before
  refine ⟨h.since.2.trans (h.owes (.inr haccepted)), s.now + replyTTL, ?_, ?_⟩
  · change some (s.owner.member, s.now + replyTTL) = _
    rw [hmember]
  · linarith [h.since.1, h.since.2]

/-- The asker polls, and has the reply if there is one. -/
theorem Inv.get (h : s.Inv pace) (hpolling : s.asker = .polling) : (s.step .get).Inv pace := by
  unfold RemoteJoin.step
  dsimp only
  split
  · rename_i hreply
    exact ⟨nofun, h.error, nofun, fun _ => h.reply _ hreply, h.notice, nofun, h.since, h.owes,
      (by rintro (hasker | hasker) <;> cases hasker),
      (by rintro (hasker | hasker) <;> cases hasker)⟩
  · rename_i hreply
    exact ⟨nofun, fun _ => .inr (h.reply _ hreply), fun _ => rfl, nofun, h.notice, nofun, h.since,
      h.owes, (by rintro (hasker | hasker) <;> cases hasker),
      (by rintro (hasker | hasker) <;> cases hasker)⟩
  · rename_i hreply
    refine ⟨h.reply, h.error, nofun, nofun, h.notice, nofun, ⟨h.since.1.trans h.since.2, le_rfl⟩,
      h.owes, fun _ => ?_, fun _ howner => ?_⟩
    · change s.now ≤ s.now + pace.gap
      linarith [pace.gap_nonneg]
    · obtain ⟨-, e, he, -⟩ := h.unread (.inr hpolling) howner
      rw [hreply] at he
      cases he

/-- A connection is cleaned up: of a player in the room the owner is told. -/
theorem Inv.close (h : s.Inv pace) {found : Bool} (hasker : s.asker = .failed ∨ s.asker = .joined)
    (hheed : s.Heeds pace (.close found)) : (s.step (.close found)).Inv pace := by
  refine ⟨h.reply, h.error, nofun, nofun, fun hnotice => ?_, fun _ => ?_, h.since, h.owes,
    (by rintro (hasker | hasker) <;> cases hasker), (by rintro (hasker | hasker) <;> cases hasker)⟩
  · obtain ⟨hjoined, -⟩ := (Bool.and_eq_true _ _).mp hnotice
    exact h.joined (of_decide_eq_true hjoined).1
  · rcases hasker with hfailed | hjoined
    · exact .inl (h.error (h.failed hfailed))
    · obtain ⟨hconnection, rfl⟩ := hheed hjoined
      refine .inr (.inl ?_)
      change (decide (s.asker = .joined ∧ s.connection = .webSocket) && true) = true
      rw [decide_eq_true ⟨hjoined, hconnection⟩]
      rfl

/-- The owner has turned the request down: there is nothing that it owes. -/
theorem Inv.declines (h : s.Inv pace) {o : Owner} (hdeclined : o.Declined)
    (hunreplied : ∀ accepts, s.owner ≠ .replied accepts) :
    Inv pace { s with owner := o } where
  reply x hx := absurd (h.reply x hx) (hunreplied _)
  error _ := hdeclined
  failed := h.failed
  joined hjoined := absurd (h.joined hjoined) (hunreplied _)
  notice hnotice := absurd (h.notice hnotice) (hunreplied _)
  closed _ := .inl hdeclined
  since := h.since
  owes howes := absurd howes (not_owes_of_declined (s := { s with owner := o }) hdeclined)
  waits := h.waits
  unread _ howner := by
    have hmember := hdeclined.member
    have howner : o = .replied true := howner
    rw [howner] at hmember
    cases hmember

/-- **Every step keeps the invariant.** -/
theorem Inv.step (h : s.Inv pace) (hstep : Step (Heeds pace) s s') : s'.Inv pace := by
  obtain ⟨a, hpossible, hheed, rfl⟩ := hstep
  cases a with
  | tick d =>
    have hd : 0 ≤ d := hpossible
    refine ⟨h.reply, h.error, h.failed, h.joined, h.notice, h.closed, ⟨h.since.1, ?_⟩, hheed.1,
      hheed.2, h.unread⟩
    change s.polled ≤ s.now + d
    linarith [h.since.2]
  | loseRequest =>
    have hunread : s.owner = .unread := hpossible
    exact h.declines (.inr rfl) fun accepts howner => by
      rw [hunread] at howner
      cases howner
  | handle accepts =>
    have hunread : s.owner = .unread := hpossible
    have hunreplied : ∀ accepts, s.owner ≠ .replied accepts := fun accepts howner => by
      rw [hunread] at howner
      cases howner
    have hundeclined : ¬ s.owner.Declined := fun hdeclined =>
      not_owes_of_declined hdeclined (.inl hunread)
    cases accepts with
    | false => exact h.declines (.inl rfl) hunreplied
    | true =>
      exact ⟨fun x hx => absurd (h.reply x hx) (hunreplied _),
        fun herror => absurd (h.error herror) hundeclined, h.failed,
        fun hjoined => absurd (h.joined hjoined) (hunreplied _),
        fun hnotice => absurd (h.notice hnotice) (hunreplied _),
        fun hclosed => (h.closed hclosed).imp_left fun hdeclined => absurd hdeclined hundeclined,
        h.since, fun _ => h.owes (.inl hunread), h.waits, fun _ howner => by cases howner⟩
  | setRpcResponse => exact h.replies hpossible
  | loseReply =>
    have hrefused : s.owner = .refused := hheed
    have hdeclines := h.declines (o := .replied false) (.inr rfl) fun accepts howner => by
      rw [hrefused] at howner
      cases howner
    change Inv pace { s with owner := .replied s.owner.member }
    rw [hrefused]
    exact hdeclines
  | expireReply =>
    obtain ⟨x, hx, hexpired⟩ := hpossible
    refine ⟨nofun, h.error, h.failed, h.joined, h.notice, h.closed, h.since, h.owes, h.waits,
      fun hwaits howner => ?_⟩
    -- the asker stops waiting long before
    obtain ⟨hpolled, e, he, hexpiry⟩ := h.unread hwaits howner
    cases hx.symm.trans he
    have hnow : s.now ≤ s.polled + pace.gap := h.waits hwaits
    have henough : pace.answer + pace.gap < 5 := pace.enough
    have hexpiry : (10 : ℚ) ≤ e := hexpiry
    have hexpired : e ≤ s.now := hexpired
    linarith
  | poll =>
    have hwaiting : s.Waits := .inl hpossible.1
    exact ⟨h.reply, h.error, nofun, nofun, h.notice, nofun, h.since, h.owes,
      fun _ => h.waits hwaiting, fun _ => h.unread hwaiting⟩
  | get => exact h.get hpossible
  | raise => exact h.fails hheed
  | giveUp => exact h.fails (h.late (.inl hpossible.1) hpossible.2)
  | cancel =>
    exact ⟨h.reply, h.error, nofun, nofun, h.notice, fun _ => .inl hheed, h.since, h.owes,
      (by rintro (hasker | hasker) <;> cases hasker),
      (by rintro (hasker | hasker) <;> cases hasker)⟩
  | go =>
    exact ⟨h.reply, h.error, h.failed, h.joined, h.notice, h.closed, h.since, h.owes, h.waits,
      h.unread⟩
  | close found => exact h.close hpossible.2 hheed
  | handleRemoteDisconnect =>
    refine ⟨h.reply, h.error, h.failed, h.joined, nofun, fun _ => .inr (.inr ?_), h.since, h.owes,
      h.waits, h.unread⟩
    change s.owner.member = true
    rw [h.notice hpossible]
    rfl

/-- The owner has four seconds, and a poll is answered within half a second. -/
def briskPace : Pace where
  answer := 4
  gap := 1 / 2
  enough := by norm_num [deadline]
  gap_nonneg := by norm_num

/-- The owner accepts and replies after a while, and the asker has the reply. -/
def accepted : RemoteJoin where
  connection := .webSocket
  now := 0 + 1 / 4
  owner := .replied true
  asker := .joined

end RemoteJoin

end Skribbl.System
