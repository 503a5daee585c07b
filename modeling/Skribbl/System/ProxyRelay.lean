import Mathlib.Data.List.Nodup
import Mathlib.Logic.Function.Basic
import Mathlib.Logic.Relation

/-!
# Broadcasts to a room of another worker (`redis_pubsub.py`, `handle_redis_message`)

Clients of a worker may be in a room of another one, the owner.  The owner publishes what it
broadcasts, Redis puts it into the inbox of each worker that has subscribed to the channel of the
room, and such a worker hands it on to its clients in the proxy of the room.

* `Relay` — one room, its owner, and one other worker: the clients that join and leave there
  (`_join_room_remote`, the `finally` block of `websocket_handler`), the subscription, the inbox,
  and the loop of `handle_redis_message`.  A client is one call of `_join_room_remote`.  The owner's
  broadcasts are numbered in the order of their ends.  Redis stays up: the `except` branch of
  `_subscribe_loop`, which drops the inbox and subscribes again, is left out.
* `Relay.Sends` — no send to a client in the proxy times out.
* `Relay.Heeds` — besides, nobody's unsubscribing or removal of the proxy falls into the time of
  another client, and the owner removes no client whose connection is open.

Principal results: `received_sublist` — in every run a client receives broadcasts in their order,
each at most once; `received_eq_heard` — a client in the proxy misses exactly what was published
while the worker had no subscription; `relayed_of_run` — in a run that heeds the others it misses
nothing.
-/

set_option autoImplicit false

namespace Skribbl.System

/-- How far a client's `_join_room_remote` has come, and then the end of its connection. -/
inductive ClientPhase where
  | away
  /-- `subscribe_room` is done, and `wait_for_rpc_response` polls. -/
  | waiting
  /-- The owner has not replied or has replied with an error: `unsubscribe_room` comes next. -/
  | failing
  /-- In the proxy. -/
  | joined
  /-- The connection is closed, and `_notify_owner_disconnect` is running. -/
  | closing
  /-- Nobody is left in the proxy: `unsubscribe_room` comes next. -/
  | leaving
  /-- The proxy is removed next. -/
  | popping
  | gone
  deriving DecidableEq

/-- One room of another worker.  `remote` are the players of the owner's room that are clients of
this worker, `reply` is what the owner has replied to their requests, and `proxy` the players of the
proxy, if there is one.  The loop of `handle_redis_message` has `message` to send to the players in
`queue`, and `live` tells whether its list is still that of the proxy.  `since` is the number of
broadcasts before a client came into the proxy, and `heard` is all that came into the inbox. -/
structure Relay where
  broadcasts : Nat := 0
  remote : List Nat := []
  reply : Nat → Option Bool := fun _ => none
  phase : Nat → ClientPhase := fun _ => .away
  subscribed : Bool := false
  inbox : List Nat := []
  proxy : Option (List Nat) := none
  message : Nat := 0
  queue : List Nat := []
  live : Bool := false
  received : Nat → List Nat := fun _ => []
  since : Nat → Nat := fun _ => 0
  heard : List Nat := []

namespace Relay

variable {s s' : Relay} {i j : Nat} {x : ClientPhase}

/-- The players of the proxy. -/
def members (s : Relay) : List Nat := s.proxy.getD []

/-- The client comes to a phase. -/
def enter (s : Relay) (j : Nat) (x : ClientPhase) : Relay :=
  { s with phase := Function.update s.phase j x }

/-- The end of `_join_room_remote`: the client comes into the proxy, which is made if there is none.
 A loop over the players goes on to it, if its list is the proxy's. -/
def join (s : Relay) (j : Nat) : Relay :=
  { s.enter j .joined with
    proxy := some (s.members ++ [j])
    queue := if s.live = true ∧ s.queue ≠ [] then s.queue ++ [j] else s.queue
    since := Function.update s.since j s.broadcasts }

/-- The `finally` block of `websocket_handler`, once the owner is notified; `remove_player` makes a
new list. -/
def leave (s : Relay) (j : Nat) : Relay :=
  s.proxy.elim (s.enter j .gone) fun l =>
    { s.enter j (if l.filter (· ≠ j) = [] then .leaving else .gone) with
      proxy := some (l.filter (· ≠ j))
      live := false }

/-- What a broadcast on the owner puts into the inbox: the owner publishes it if a player has no
connection on the owner, which may also be one of the `others`. -/
def published (s : Relay) (others : Bool) : List Nat :=
  if (s.remote ≠ [] ∨ others = true) ∧ s.subscribed = true then [s.broadcasts] else []

/-- `broadcast` on the owner. -/
def broadcast (s : Relay) (others : Bool) : Relay :=
  { s with
    broadcasts := s.broadcasts + 1
    inbox := s.inbox ++ s.published others
    heard := s.heard ++ s.published others }

/-- `_subscribe_loop` hands the next message to `handle_redis_message`, which goes over the
players. -/
def take (s : Relay) : Relay :=
  { s with
    message := s.inbox.headD 0
    inbox := s.inbox.tail
    queue := s.members
    live := true }

/-- The next send of the loop, to the client `j`; on a closed connection it fails, and `ok` tells
that it does not time out. -/
def sendTo (s : Relay) (ok : Bool) (j : Nat) : Relay :=
  { s with
    queue := s.queue.tail
    received := if ok = true ∧ s.phase j = .joined then
      Function.update s.received j (s.received j ++ [s.message]) else s.received }

/-- What happens. -/
inductive RelayAction where
  | subscribe (j : Nat)
  /-- `_handle_rpc` adds the player. -/
  | accept (j : Nat)
  | refuse (j : Nat)
  | readReply (j : Nat)
  /-- `wait_for_rpc_response` returns `None`. -/
  | giveUp (j : Nat)
  | unsubscribe (j : Nat)
  /-- `room_manager.rooms.pop(room_code)`. -/
  | pop (j : Nat)
  /-- The connection of a client in the proxy is closed. -/
  | close (j : Nat)
  | leave (j : Nat)
  /-- The owner removes a player. -/
  | drop (j : Nat)
  | broadcast (others : Bool)
  | take
  | send (ok : Bool)

/-- When it can happen. -/
def Possible (s : Relay) : RelayAction → Prop
  | .subscribe j => s.phase j = .away
  | .accept j => s.phase j ≠ .away ∧ s.reply j = none
  | .refuse j => s.phase j ≠ .away ∧ s.reply j = none
  | .readReply j => s.phase j = .waiting ∧ s.reply j ≠ none
  | .giveUp j => s.phase j = .waiting
  | .unsubscribe j => s.phase j = .failing ∨ s.phase j = .leaving
  | .pop j => s.phase j = .popping
  | .close j => s.phase j = .joined
  | .leave j => s.phase j = .closing
  | .drop _ => True
  | .broadcast _ => True
  | .take => s.queue = [] ∧ s.inbox ≠ []
  | .send _ => s.queue ≠ []

def step (s : Relay) : RelayAction → Relay
  | .subscribe j => { s.enter j .waiting with subscribed := true }
  | .accept j =>
    { s with
      reply := Function.update s.reply j (some true)
      remote := s.remote ++ [j] }
  | .refuse j => { s with reply := Function.update s.reply j (some false) }
  | .readReply j => if s.reply j = some true then s.join j else s.enter j .failing
  | .giveUp j => s.enter j .failing
  | .unsubscribe j =>
    { s.enter j (if s.phase j = .failing then .gone else .popping) with subscribed := false }
  | .pop j =>
    { s.enter j .gone with
      proxy := none
      live := false }
  -- without a proxy `handle_disconnect` is called, on this worker
  | .close j => s.enter j (if s.proxy.isSome then .closing else .gone)
  | .leave j => s.leave j
  | .drop j => { s with remote := s.remote.filter (· ≠ j) }
  | .broadcast others => s.broadcast others
  | .take => s.take
  | .send ok => s.queue.head?.elim s (s.sendTo ok)

/-- One step that meets a condition. -/
def Step (cond : Relay → RelayAction → Prop) (s s' : Relay) : Prop :=
  ∃ a, s.Possible a ∧ cond s a ∧ s' = s.step a

/-- A run: any number of steps. -/
def Run (cond : Relay → RelayAction → Prop) : Relay → Relay → Prop :=
  Relation.ReflTransGen (Step cond)

/-- No send to a client in the proxy times out. -/
def Sends (_ : Relay) : RelayAction → Prop
  | .send ok => ok = true
  | _ => True

/-- Besides, the worker unsubscribes only when nobody waits for the owner or is in the proxy, it
removes a proxy only when nobody is in it, and the owner keeps whoever has not gone. -/
def Heeds (s : Relay) : RelayAction → Prop
  | .send ok => ok = true
  | .unsubscribe _ => ∀ i, s.phase i ≠ .waiting ∧ s.phase i ≠ .joined
  | .pop _ => ∀ i, s.phase i ≠ .joined
  | .drop j => s.phase j ≠ .waiting ∧ s.phase j ≠ .joined
  | _ => True

/-- What a client has yet to receive. -/
def pending (s : Relay) (j : Nat) : List Nat :=
  if j ∈ s.queue then s.message :: s.inbox else s.inbox

/-- All that a client has received or has yet to. -/
def line (s : Relay) (j : Nat) : List Nat := s.received j ++ s.pending j

@[simp] theorem phase_enter : (s.enter j x).phase = Function.update s.phase j x := rfl

/-- A phase that another client's does not come to is one that it had before. -/
theorem phase_of_enter {y : ClientPhase} (hx : x ≠ y) (hi : (s.enter j x).phase i = y) :
    s.phase i = y := by
  rw [phase_enter] at hi
  by_cases hij : i = j
  · subst hij
    rw [Function.update_self] at hi
    exact (hx hi).elim
  · rwa [Function.update_of_ne hij] at hi

theorem pending_of_mem (h : j ∈ s.queue) : s.pending j = s.message :: s.inbox := if_pos h

theorem pending_of_not_mem (h : j ∉ s.queue) : s.pending j = s.inbox := if_neg h

/-! ## What a step does to the messages on their way -/

theorem line_broadcast (s : Relay) (others : Bool) (j : Nat) :
    (s.broadcast others).line j = s.line j ++ s.published others := by
  have hpending : (s.broadcast others).pending j = s.pending j ++ s.published others := by
    by_cases hj : j ∈ s.queue
    · rw [pending_of_mem hj, pending_of_mem (s := s.broadcast others) hj]
      rfl
    · rw [pending_of_not_mem hj, pending_of_not_mem (s := s.broadcast others) hj]
      rfl
  change s.received j ++ _ = _
  rw [hpending, ← List.append_assoc]
  rfl

/-- The loop begins: who is in the proxy has the message to come as before. -/
theorem line_take_of_mem (hqueue : s.queue = []) (hinbox : s.inbox ≠ []) (hj : j ∈ s.members) :
    s.take.line j = s.line j := by
  obtain ⟨m, l, hl⟩ := List.exists_cons_of_ne_nil hinbox
  change s.received j ++ _ = s.received j ++ _
  rw [pending_of_mem (s := s.take) hj, pending_of_not_mem (hqueue ▸ List.not_mem_nil)]
  simp only [Relay.take, hl, List.headD_cons, List.tail_cons]

theorem line_take_sublist (hqueue : s.queue = []) (hinbox : s.inbox ≠ []) :
    (s.take.line j).Sublist (s.line j) := by
  by_cases hj : j ∈ s.members
  · rw [line_take_of_mem hqueue hinbox hj]
  · refine (List.Sublist.refl _).append ?_
    rw [pending_of_not_mem (s := s.take) hj, pending_of_not_mem (hqueue ▸ List.not_mem_nil)]
    exact List.tail_sublist _

theorem line_sendTo_of_ne {l : List Nat} {ok : Bool} (hqueue : s.queue = i :: l) (hij : j ≠ i) :
    (s.sendTo ok i).line j = s.line j := by
  have hreceived : (s.sendTo ok i).received j = s.received j := by
    unfold sendTo
    dsimp only
    split
    · exact Function.update_of_ne hij ..
    · rfl
  have hmem : j ∈ (s.sendTo ok i).queue ↔ j ∈ s.queue := by
    simp [sendTo, hqueue, hij]
  unfold line pending
  simp only [hreceived, hmem]
  rfl

theorem not_mem_sendTo {l : List Nat} {ok : Bool} (hqueue : s.queue = j :: l)
    (hnodup : s.queue.Nodup) : j ∉ (s.sendTo ok j).queue := by
  rw [hqueue] at hnodup
  change j ∉ s.queue.tail
  rw [hqueue]
  exact (List.nodup_cons.mp hnodup).1

/-- The loop sends to a client whose connection is open. -/
theorem line_sendTo_self {l : List Nat} (hqueue : s.queue = j :: l) (hnodup : s.queue.Nodup)
    (hphase : s.phase j = .joined) : (s.sendTo true j).line j = s.line j := by
  unfold line
  rw [pending_of_not_mem (not_mem_sendTo hqueue hnodup),
    pending_of_mem (hqueue ▸ List.mem_cons_self)]
  simp [sendTo, hphase]

theorem line_sendTo_sublist {l : List Nat} {ok : Bool} (hqueue : s.queue = i :: l)
    (hnodup : s.queue.Nodup) : ((s.sendTo ok i).line j).Sublist (s.line j) := by
  by_cases hij : j = i
  · subst hij
    by_cases hok : ok = true ∧ s.phase j = .joined
    · rw [hok.1, line_sendTo_self hqueue hnodup hok.2]
    · unfold line
      rw [pending_of_not_mem (not_mem_sendTo hqueue hnodup),
        pending_of_mem (hqueue ▸ List.mem_cons_self)]
      simp [sendTo, hok]
  · rw [line_sendTo_of_ne hqueue hij]

/-- A client comes in: for the others nothing changes. -/
theorem line_join_of_ne (hij : i ≠ j) : (s.join j).line i = s.line i := by
  have hmem : i ∈ (s.join j).queue ↔ i ∈ s.queue := by
    unfold join
    dsimp only
    split <;> simp [hij]
  unfold line pending
  simp only [hmem]
  rfl

/-! ## Order -/

/-- What is on its way, and with it what a client has received, is part of what came into the inbox;
the players of a list are different, and a client that is yet to join has received nothing. -/
structure Inv (s : Relay) : Prop where
  heard : s.heard.Sublist (List.range s.broadcasts)
  inbox : s.inbox.Sublist s.heard
  message : s.queue ≠ [] → (s.message :: s.inbox).Sublist s.heard
  line : ∀ j, (s.line j).Sublist s.heard
  queue : s.queue.Nodup
  members : s.members.Nodup
  fresh : ∀ j, s.phase j = .away ∨ s.phase j = .waiting →
    s.received j = [] ∧ j ∉ s.queue ∧ j ∉ s.members

theorem Inv.start : Inv {} :=
  ⟨.refl _, .refl _, fun h => (h rfl).elim, fun _ => .refl _, .nil, .nil,
    fun _ _ => ⟨rfl, List.not_mem_nil, List.not_mem_nil⟩⟩

/-- A client that had not joined before has not either in another phase than `waiting`. -/
theorem fresh_enter (haway : x ≠ .away) (hwaiting : x = .waiting → s.phase j = .away)
    (hi : (s.enter j x).phase i = .away ∨ (s.enter j x).phase i = .waiting) :
    s.phase i = .away ∨ s.phase i = .waiting := by
  by_cases hij : i = j ∧ x = .waiting
  · obtain ⟨rfl, hx⟩ := hij
    exact .inl (hwaiting hx)
  · refine hi.imp (phase_of_enter haway) fun hi => ?_
    by_cases hx : x = .waiting
    · have hne : i ≠ j := fun heq => hij ⟨heq, hx⟩
      exact (Function.update_of_ne hne ..).symm.trans hi
    · exact phase_of_enter hx hi

theorem Inv.enter (h : s.Inv) (haway : x ≠ .away) (hwaiting : x = .waiting → s.phase j = .away) :
    (s.enter j x).Inv :=
  ⟨h.heard, h.inbox, h.message, h.line, h.queue, h.members,
    fun i hi => h.fresh i (fresh_enter haway hwaiting hi)⟩

theorem Inv.broadcast (h : s.Inv) {others : Bool} : (s.broadcast others).Inv := by
  refine ⟨?_, h.inbox.append_right _, fun hq => (h.message hq).append_right _, fun j => ?_, h.queue,
    h.members, h.fresh⟩
  · change (s.heard ++ s.published others).Sublist (List.range (s.broadcasts + 1))
    rw [List.range_succ]
    refine h.heard.append ?_
    unfold published
    split
    · exact .refl _
    · exact List.nil_sublist _
  · rw [line_broadcast]
    exact (h.line j).append_right _

theorem Inv.take (h : s.Inv) (hqueue : s.queue = []) (hinbox : s.inbox ≠ []) : s.take.Inv := by
  obtain ⟨m, l, hl⟩ := List.exists_cons_of_ne_nil hinbox
  refine ⟨h.heard, (List.tail_sublist _).trans h.inbox, fun _ => ?_,
    fun j => (line_take_sublist hqueue hinbox).trans (h.line j), h.members, h.members,
    fun i hi => ?_⟩
  · have hmessage : s.inbox.headD 0 :: s.inbox.tail = s.inbox := by rw [hl]; rfl
    change (s.inbox.headD 0 :: s.inbox.tail).Sublist s.heard
    rw [hmessage]
    exact h.inbox
  · obtain ⟨hreceived, -, hmember⟩ := h.fresh i hi
    exact ⟨hreceived, hmember, hmember⟩

theorem Inv.sendTo (h : s.Inv) {l : List Nat} {ok : Bool} (hqueue : s.queue = j :: l) :
    (s.sendTo ok j).Inv := by
  refine ⟨h.heard, h.inbox, fun _ => h.message (hqueue ▸ List.cons_ne_nil _ _),
    fun i => (line_sendTo_sublist hqueue h.queue).trans (h.line i), h.queue.tail, h.members,
    fun i hi => ?_⟩
  obtain ⟨hreceived, hqueued, hmember⟩ := h.fresh i hi
  refine ⟨?_, fun hi' => hqueued (List.mem_of_mem_tail hi'), hmember⟩
  have hij : i ≠ j := by
    rintro rfl
    exact hqueued (hqueue ▸ List.mem_cons_self)
  change (if ok = true ∧ s.phase j = .joined then
    Function.update s.received j (s.received j ++ [s.message]) else s.received) i = []
  split
  · rw [Function.update_of_ne hij, hreceived]
  · exact hreceived

theorem mem_members_join : i ∈ (s.join j).members ↔ i ∈ s.members ∨ i = j := by
  change i ∈ s.members ++ [j] ↔ _
  rw [List.mem_append, List.mem_singleton]

theorem Inv.join (h : s.Inv) (hphase : s.phase j = .waiting) : (s.join j).Inv := by
  obtain ⟨hreceived, hqueued, hmember⟩ := h.fresh j (.inr hphase)
  have hqueue : (s.join j).queue = s.queue ∨
      (s.join j).queue = s.queue ++ [j] ∧ s.queue ≠ [] := by
    by_cases hlive : s.live = true ∧ s.queue ≠ []
    · exact .inr ⟨if_pos hlive, hlive.2⟩
    · exact .inl (if_neg hlive)
  refine ⟨h.heard, h.inbox, fun hne => ?_, fun i => ?_, ?_, ?_, fun i hi => ?_⟩
  · exact h.message (hqueue.elim (fun heq => heq ▸ hne) (·.2))
  · by_cases hij : i = j
    · subst hij
      change (s.received i ++ _).Sublist _
      rw [hreceived, List.nil_append]
      unfold Relay.pending
      split
      · rename_i hi
        exact h.message (hqueue.elim (fun heq => (hqueued (heq ▸ hi)).elim) (·.2))
      · exact h.inbox
    · rw [line_join_of_ne hij]
      exact h.line i
  · rcases hqueue with heq | ⟨heq, -⟩ <;> rw [heq]
    · exact h.queue
    · exact List.nodup_append_comm.mpr (List.nodup_cons.mpr ⟨hqueued, h.queue⟩)
  · exact List.nodup_append_comm.mpr (List.nodup_cons.mpr ⟨hmember, h.members⟩)
  · have hij : i ≠ j := by
      rintro rfl
      simp [Relay.join] at hi
    have hi' := fresh_enter (x := .joined) nofun nofun hi
    obtain ⟨hreceived', hqueued', hmember'⟩ := h.fresh i hi'
    refine ⟨hreceived', fun hin => ?_, fun hin => ?_⟩
    · rcases hqueue with heq | ⟨heq, -⟩ <;> rw [heq] at hin
      · exact hqueued' hin
      · exact (List.mem_append.mp hin).elim hqueued' fun hin => hij (List.mem_singleton.mp hin)
    · exact (mem_members_join.mp hin).elim hmember' hij

theorem Inv.leave (h : s.Inv) : (s.leave j).Inv := by
  have hgone : (s.enter j .gone).Inv := h.enter nofun nofun
  unfold Relay.leave
  cases hproxy : s.proxy with
  | none => exact hgone
  | some l =>
    have hl : s.members = l := by rw [Relay.members, hproxy]; rfl
    refine ⟨h.heard, h.inbox, h.message, h.line, h.queue, (hl ▸ h.members).filter _, fun i hi => ?_⟩
    have hphase : s.phase i = .away ∨ s.phase i = .waiting := by
      refine fresh_enter (x := if l.filter (· ≠ j) = [] then .leaving else .gone) ?_ ?_ hi <;>
        split <;> nofun
    obtain ⟨hreceived, hqueued, hmember⟩ := h.fresh i hphase
    exact ⟨hreceived, hqueued, fun hin => hmember (hl ▸ (List.mem_filter.mp hin).1)⟩

/-- **Every step keeps the order.** -/
theorem Inv.step (h : s.Inv) {cond : Relay → RelayAction → Prop} (hstep : Step cond s s') :
    s'.Inv := by
  obtain ⟨a, hpossible, -, rfl⟩ := hstep
  cases a with
  | subscribe j =>
    have henter := h.enter (j := j) (x := .waiting) nofun fun _ => hpossible
    exact ⟨henter.heard, henter.inbox, henter.message, henter.line, henter.queue, henter.members,
      henter.fresh⟩
  | accept j => exact ⟨h.heard, h.inbox, h.message, h.line, h.queue, h.members, h.fresh⟩
  | refuse j => exact ⟨h.heard, h.inbox, h.message, h.line, h.queue, h.members, h.fresh⟩
  | readReply j =>
    change (if s.reply j = some true then s.join j else s.enter j .failing).Inv
    split
    · exact h.join hpossible.1
    · exact h.enter nofun nofun
  | giveUp j => exact h.enter (x := .failing) nofun nofun
  | unsubscribe j =>
    have henter := h.enter (j := j) (x := if s.phase j = .failing then .gone else .popping)
      (by split <;> nofun) (by split <;> nofun)
    exact ⟨henter.heard, henter.inbox, henter.message, henter.line, henter.queue, henter.members,
      henter.fresh⟩
  | pop j =>
    have henter := h.enter (j := j) (x := .gone) nofun nofun
    exact ⟨henter.heard, henter.inbox, henter.message, henter.line, henter.queue, .nil,
      fun i hi => ⟨(henter.fresh i hi).1, (henter.fresh i hi).2.1, List.not_mem_nil⟩⟩
  | close j =>
    exact h.enter (x := if s.proxy.isSome then .closing else .gone) (by split <;> nofun)
      (by split <;> nofun)
  | leave j => exact h.leave
  | drop j => exact ⟨h.heard, h.inbox, h.message, h.line, h.queue, h.members, h.fresh⟩
  | broadcast others => exact h.broadcast
  | take => exact h.take hpossible.1 hpossible.2
  | send ok =>
    obtain ⟨j, l, hl⟩ := List.exists_cons_of_ne_nil hpossible
    change (s.queue.head?.elim s (s.sendTo ok)).Inv
    rw [hl]
    exact h.sendTo hl

theorem Inv.run {cond : Relay → RelayAction → Prop} (h : s.Inv) (hrun : Run cond s s') :
    s'.Inv := by
  induction hrun with
  | refl => exact h
  | tail _ hstep ih => exact ih.step hstep

/-- **Broadcasts come in order**: a client receives some of them, each at most once and in the order
in which the owner has sent them. -/
theorem received_sublist {cond : Relay → RelayAction → Prop} (h : Run cond {} s) (j : Nat) :
    (s.received j).Sublist (List.range s.broadcasts) := by
  have hinv : s.Inv := Inv.start.run h
  exact ((List.sublist_append_left _ _).trans (hinv.line j)).trans hinv.heard

/-- A client receives the first broadcast. -/
theorem received_first : ∃ s : Relay, s.received 0 = [0] ∧
    (s.received 0).Sublist (List.range s.broadcasts) := by
  have hwaiting : Run Sends {} _ := .single ⟨.subscribe 0, rfl, trivial, rfl⟩
  have haccepted := hwaiting.tail ⟨.accept 0, ⟨nofun, rfl⟩, trivial, rfl⟩
  have hjoined := haccepted.tail ⟨.readReply 0, ⟨rfl, nofun⟩, trivial, rfl⟩
  have hbroadcast := hjoined.tail ⟨.broadcast false, trivial, trivial, rfl⟩
  have htaken := hbroadcast.tail ⟨.take, ⟨rfl, nofun⟩, trivial, rfl⟩
  have hsent := htaken.tail ⟨.send true, nofun, rfl, rfl⟩
  exact ⟨_, rfl, received_sublist hsent 0⟩

/-! ## Completeness -/

/-- A client in the proxy has received, or is yet to, all that has come into the inbox since it
came. -/
def Follows (s : Relay) : Prop :=
  ∀ j, s.phase j = .joined → j ∈ s.members →
    (s.line j).filter (s.since j ≤ ·) = s.heard.filter (s.since j ≤ ·)

theorem joined_of_join (hij : i ≠ j) (hi : (s.join j).phase i = .joined) : s.phase i = .joined := by
  have hphase : (s.join j).phase i = s.phase i := Function.update_of_ne hij ..
  rwa [hphase] at hi

theorem Follows.enter (h : s.Follows) (hx : x ≠ .joined) : (s.enter j x).Follows :=
  fun i hi hmember => h i (phase_of_enter hx hi) hmember

/-- No broadcast that there was before is counted for a client that comes. -/
theorem filter_sublist_range {l : List Nat} {n : Nat} (h : l.Sublist (List.range n)) :
    l.filter (n ≤ ·) = [] := by
  refine List.filter_eq_nil_iff.mpr fun m hm => ?_
  have hlt := List.mem_range.mp (h.subset hm)
  simpa using hlt

theorem since_join_self : (s.join j).since j = s.broadcasts := Function.update_self ..

theorem since_join_of_ne (hij : i ≠ j) : (s.join j).since i = s.since i :=
  Function.update_of_ne hij ..

theorem Follows.join (h : s.Follows) (hinv : s.Inv) (hphase : s.phase j = .waiting) :
    (s.join j).Follows := by
  intro i hi hmember
  by_cases hij : i = j
  · subst hij
    have hjoin : (s.join i).Inv := hinv.join hphase
    have hheard : (s.join i).heard.filter ((s.join i).since i ≤ ·) = [] := by
      rw [since_join_self]
      exact filter_sublist_range hjoin.heard
    rw [hheard, since_join_self]
    exact filter_sublist_range ((hjoin.line i).trans hjoin.heard)
  · rw [line_join_of_ne hij, since_join_of_ne hij]
    exact h i (joined_of_join hij hi) ((mem_members_join.mp hmember).resolve_right hij)

theorem Follows.broadcast (h : s.Follows) {others : Bool} : (s.broadcast others).Follows := by
  intro j hj hmember
  rw [line_broadcast]
  change _ = (s.heard ++ s.published others).filter _
  rw [List.filter_append, List.filter_append]
  exact congrArg (· ++ _) (h j hj hmember)

theorem Follows.sendTo (h : s.Follows) (hinv : s.Inv) {l : List Nat} (hqueue : s.queue = j :: l) :
    (s.sendTo true j).Follows := by
  intro i hi hmember
  have hline : (s.sendTo true j).line i = s.line i := by
    by_cases hij : i = j
    · subst hij
      exact line_sendTo_self hqueue hinv.queue hi
    · exact line_sendTo_of_ne hqueue hij
  rw [hline]
  exact h i hi hmember

theorem Follows.leave (h : s.Follows) : (s.leave j).Follows := by
  unfold Relay.leave
  cases hproxy : s.proxy with
  | none => exact h.enter (x := .gone) nofun
  | some l =>
    have hl : s.members = l := by rw [members, hproxy]; rfl
    intro i hi hmember
    refine h i (phase_of_enter (x := if l.filter (· ≠ j) = [] then .leaving else .gone) ?_ hi)
      (hl ▸ (List.mem_filter.mp hmember).1)
    split <;> nofun

/-- **Every step whose sends do not time out keeps that.** -/
theorem Follows.step (h : s.Follows) (hinv : s.Inv) {a : RelayAction} (hpossible : s.Possible a)
    (hsends : s.Sends a) : (s.step a).Follows := by
  cases a with
  | subscribe j => exact h.enter (x := .waiting) nofun
  | accept j => exact h
  | refuse j => exact h
  | readReply j =>
    change (if s.reply j = some true then s.join j else s.enter j .failing).Follows
    split
    · exact h.join hinv hpossible.1
    · exact h.enter nofun
  | giveUp j => exact h.enter (x := .failing) nofun
  | unsubscribe j =>
    exact h.enter (x := if s.phase j = .failing then .gone else .popping) (by split <;> nofun)
  | pop j => exact fun i _ hmember => absurd hmember List.not_mem_nil
  | close j => exact h.enter (x := if s.proxy.isSome then .closing else .gone) (by split <;> nofun)
  | leave j => exact h.leave
  | drop j => exact h
  | broadcast others => exact h.broadcast
  | take =>
    intro j hj hmember
    change (s.take.line j).filter _ = _
    rw [line_take_of_mem hpossible.1 hpossible.2 hmember]
    exact h j hj hmember
  | send ok =>
    obtain ⟨j, l, hl⟩ := List.exists_cons_of_ne_nil hpossible
    cases (hsends : ok = true)
    change (s.queue.head?.elim s (s.sendTo true)).Follows
    rw [hl]
    exact h.sendTo hinv hl

theorem Follows.run (h : Run Sends {} s) : s.Inv ∧ s.Follows := by
  induction h with
  | refl => exact ⟨.start, fun _ hj => nomatch hj⟩
  | tail _ hstep ih =>
    refine ⟨ih.1.step hstep, ?_⟩
    obtain ⟨a, hpossible, hsends, rfl⟩ := hstep
    exact ih.2.step ih.1 hpossible hsends

/-- **What a client misses**: as long as no send times out, a client in the proxy has received, or
is yet to, exactly the broadcasts since it came that were published while the worker had a
subscription. -/
theorem received_eq_heard (h : Run Sends {} s) (hphase : s.phase j = .joined)
    (hmember : j ∈ s.members) :
    (s.received j ++ s.pending j).filter (s.since j ≤ ·) = s.heard.filter (s.since j ≤ ·) :=
  (Follows.run h).2 j hphase hmember

/-- The owner turns down another client of the worker, which unsubscribes: the first one misses what
comes then. -/
theorem missed_after_refusal : ∃ s : Relay, s.phase 0 = .joined ∧ s.broadcasts = 1 ∧
    (s.received 0 ++ s.pending 0).filter (s.since 0 ≤ ·) = [] := by
  have hwaiting : Run Sends {} _ := .single ⟨.subscribe 0, rfl, trivial, rfl⟩
  have haccepted := hwaiting.tail ⟨.accept 0, ⟨nofun, rfl⟩, trivial, rfl⟩
  have hjoined := haccepted.tail ⟨.readReply 0, ⟨rfl, nofun⟩, trivial, rfl⟩
  have hasking := hjoined.tail ⟨.subscribe 1, rfl, trivial, rfl⟩
  have hrefused := hasking.tail ⟨.refuse 1, ⟨nofun, rfl⟩, trivial, rfl⟩
  have hfailing := hrefused.tail ⟨.readReply 1, ⟨rfl, nofun⟩, trivial, rfl⟩
  have hunsubscribed := hfailing.tail ⟨.unsubscribe 1, .inl rfl, trivial, rfl⟩
  have hbroadcast := hunsubscribed.tail ⟨.broadcast false, trivial, trivial, rfl⟩
  exact ⟨_, rfl, rfl, received_eq_heard hbroadcast rfl List.mem_cons_self⟩

/-! ## Broadcasts that reach everybody -/

/-- Nobody is replied to before asking; for who waits or is in the proxy there is a subscription,
and for whom the owner has accepted it publishes; so all broadcasts come into the inbox. -/
structure Served (s : Relay) : Prop where
  reply : ∀ j, s.phase j = .away → s.reply j = none
  subscribed : ∀ j, s.phase j = .waiting ∨ s.phase j = .joined → s.subscribed = true
  remote : ∀ j, (s.phase j = .waiting ∧ s.reply j = some true) ∨ s.phase j = .joined → j ∈ s.remote
  member : ∀ j, s.phase j = .joined → j ∈ s.members
  since : ∀ j, s.phase j = .joined → s.since j ≤ s.broadcasts
  heard : ∀ j, s.phase j = .joined → s.heard.filter (s.since j ≤ ·) =
    List.range' (s.since j) (s.broadcasts - s.since j)

theorem Served.start : Served {} :=
  ⟨fun _ _ => rfl, fun _ h => h.elim nofun nofun, fun _ h => h.elim (fun h => nomatch h.1) nofun,
    nofun, nofun, nofun⟩

/-- Nobody comes in, or begins to wait. -/
theorem Served.enter (h : s.Served) (haway : x ≠ .away) (hwaiting : x ≠ .waiting)
    (hjoined : x ≠ .joined) : (s.enter j x).Served :=
  ⟨fun i hi => h.reply i (phase_of_enter haway hi),
    fun i hi => h.subscribed i (hi.imp (phase_of_enter hwaiting) (phase_of_enter hjoined)),
    fun i hi => h.remote i (hi.imp (fun hi => ⟨phase_of_enter hwaiting hi.1, hi.2⟩)
      (phase_of_enter hjoined)),
    fun i hi => h.member i (phase_of_enter hjoined hi),
    fun i hi => h.since i (phase_of_enter hjoined hi),
    fun i hi => h.heard i (phase_of_enter hjoined hi)⟩

theorem Served.subscribe (h : s.Served) (hphase : s.phase j = .away) :
    ({ s.enter j .waiting with subscribed := true } : Relay).Served := by
  refine ⟨fun i hi => h.reply i (phase_of_enter (x := .waiting) nofun hi), fun _ _ => rfl,
    fun i hi => h.remote i (hi.imp (fun hi => ?_) (phase_of_enter (x := .waiting) nofun)),
    fun i hi => h.member i (phase_of_enter (x := .waiting) nofun hi),
    fun i hi => h.since i (phase_of_enter (x := .waiting) nofun hi),
    fun i hi => h.heard i (phase_of_enter (x := .waiting) nofun hi)⟩
  by_cases hij : i = j
  · subst hij
    cases (h.reply i hphase).symm.trans hi.2
  · exact ⟨(Function.update_of_ne hij ..).symm.trans hi.1, hi.2⟩

/-- The owner replies to a client that is not away. -/
theorem Served.replies (h : s.Served) (hphase : s.phase j ≠ .away) {b : Bool} {l : List Nat}
    (hl : ∀ i, i ∈ s.remote ∨ i = j ∧ b = true → i ∈ l) :
    ({ s with
      reply := Function.update s.reply j (some b)
      remote := l } : Relay).Served := by
  refine ⟨fun i hi => ?_, h.subscribed, fun i hi => hl i ?_, h.member, h.since, h.heard⟩
  · have hij : i ≠ j := fun hij => hphase (hij ▸ hi)
    exact (Function.update_of_ne hij ..).trans (h.reply i hi)
  · rcases hi with ⟨hwaiting, hreply⟩ | hjoined
    · by_cases hij : i = j
      · subst hij
        have hb : some b = some true :=
          (Function.update_self i (some b) s.reply).symm.trans hreply
        exact .inr ⟨rfl, Option.some.inj hb⟩
      · exact .inl (h.remote i (.inl ⟨hwaiting, (Function.update_of_ne hij ..).symm.trans hreply⟩))
    · exact .inl (h.remote i (.inr hjoined))

theorem Served.join (h : s.Served) (hinv : s.Inv) (hphase : s.phase j = .waiting)
    (hreply : s.reply j = some true) : (s.join j).Served := by
  have hjoined : ∀ i, (s.join j).phase i = .joined → i = j ∨ i ≠ j ∧ s.phase i = .joined :=
    fun i hi => (eq_or_ne i j).imp_right fun hij => ⟨hij, joined_of_join hij hi⟩
  have hwaiting : ∀ i, (s.join j).phase i = .waiting → s.phase i = .waiting :=
    fun i hi => phase_of_enter (x := .joined) nofun hi
  refine ⟨fun i hi => h.reply i (phase_of_enter (x := .joined) nofun hi),
    fun _ _ => h.subscribed j (.inl hphase), fun i hi => ?_, fun i hi => ?_, fun i hi => ?_,
    fun i hi => ?_⟩
  · rcases hi with hi | hi
    · exact h.remote i (.inl ⟨hwaiting i hi.1, hi.2⟩)
    · rcases hjoined i hi with rfl | ⟨-, hi⟩
      · exact h.remote i (.inl ⟨hphase, hreply⟩)
      · exact h.remote i (.inr hi)
  · exact mem_members_join.mpr ((hjoined i hi).symm.imp_left fun hi => h.member i hi.2)
  · rcases hjoined i hi with rfl | ⟨hij, hi⟩
    · exact Nat.le_of_eq since_join_self
    · rw [since_join_of_ne hij]
      exact h.since i hi
  · rcases hjoined i hi with rfl | ⟨hij, hi⟩
    · rw [since_join_self]
      change s.heard.filter _ = List.range' s.broadcasts (s.broadcasts - s.broadcasts)
      rw [filter_sublist_range hinv.heard, Nat.sub_self]
      rfl
    · rw [since_join_of_ne hij]
      exact h.heard i hi

theorem Served.broadcast (h : s.Served) {others : Bool} : (s.broadcast others).Served := by
  refine ⟨h.reply, h.subscribed, h.remote, h.member, fun j hj => Nat.le_succ_of_le (h.since j hj),
    fun j hj => ?_⟩
  have hsince := h.since j hj
  have hpublished : s.published others = [s.broadcasts] :=
    if_pos ⟨.inl (List.ne_nil_of_mem (h.remote j (.inr hj))), h.subscribed j (.inr hj)⟩
  have hnext : s.broadcasts + 1 - s.since j = s.broadcasts - s.since j + 1 := by omega
  have hlast : s.since j + (s.broadcasts - s.since j) = s.broadcasts := by omega
  change (s.heard ++ s.published others).filter (s.since j ≤ ·) =
    List.range' (s.since j) (s.broadcasts + 1 - s.since j)
  rw [hpublished, List.filter_append, h.heard j hj, hnext, List.range'_1_concat, hlast]
  simp [hsince]

theorem Served.leave (h : s.Served) (hphase : s.phase j = .closing) : (s.leave j).Served := by
  unfold Relay.leave
  cases hproxy : s.proxy with
  | none => exact h.enter (x := .gone) nofun nofun nofun
  | some l =>
    have hl : s.members = l := by rw [members, hproxy]; rfl
    have henter := h.enter (j := j) (x := if l.filter (· ≠ j) = [] then .leaving else .gone)
      (by split <;> nofun) (by split <;> nofun) (by split <;> nofun)
    refine ⟨henter.reply, henter.subscribed, henter.remote, fun i hi => ?_, henter.since,
      henter.heard⟩
    have hjoined : s.phase i = .joined :=
      phase_of_enter (x := if l.filter (· ≠ j) = [] then .leaving else .gone)
        (by split <;> nofun) hi
    have hij : i ≠ j := by
      rintro rfl
      cases hphase.symm.trans hjoined
    exact List.mem_filter.mpr ⟨hl ▸ h.member i hjoined, decide_eq_true hij⟩

/-- **Every step that heeds the others keeps that.** -/
theorem Served.step (h : s.Served) (hinv : s.Inv) {a : RelayAction} (hpossible : s.Possible a)
    (hheeds : s.Heeds a) : (s.step a).Served := by
  cases a with
  | subscribe j => exact h.subscribe hpossible
  | accept j =>
    exact h.replies hpossible.1 fun i hi =>
      List.mem_append.mpr (hi.imp_right fun hi => List.mem_singleton.mpr hi.1)
  | refuse j => exact h.replies hpossible.1 fun i hi => hi.elim id (nomatch ·.2)
  | readReply j =>
    change (if s.reply j = some true then s.join j else s.enter j .failing).Served
    split
    · rename_i hreply
      exact h.join hinv hpossible.1 hreply
    · exact h.enter nofun nofun nofun
  | giveUp j => exact h.enter (x := .failing) nofun nofun nofun
  | unsubscribe j =>
    have henter := h.enter (j := j) (x := if s.phase j = .failing then .gone else .popping)
      (by split <;> nofun) (by split <;> nofun) (by split <;> nofun)
    refine ⟨henter.reply, fun i hi => ?_, henter.remote, henter.member, henter.since, henter.heard⟩
    have hphase : s.phase i = .waiting ∨ s.phase i = .joined := by
      refine hi.imp (phase_of_enter (x := if s.phase j = .failing then .gone else .popping) ?_)
        (phase_of_enter (x := if s.phase j = .failing then .gone else .popping) ?_) <;>
      split <;> nofun
    exact (hphase.elim (hheeds i).1 (hheeds i).2).elim
  | pop j =>
    have henter := h.enter (j := j) (x := .gone) nofun nofun nofun
    exact ⟨henter.reply, henter.subscribed, henter.remote,
      fun i hi =>
          (hheeds i (phase_of_enter (x := .gone) nofun hi)).elim, henter.since, henter.heard⟩
  | close j =>
    exact h.enter (x := if s.proxy.isSome then .closing else .gone) (by split <;> nofun)
      (by split <;> nofun) (by split <;> nofun)
  | leave j => exact h.leave hpossible
  | drop j =>
    refine ⟨h.reply, h.subscribed, fun i hi => ?_, h.member, h.since, h.heard⟩
    have hij : i ≠ j := by
      rintro rfl
      exact hi.elim (fun hi => hheeds.1 hi.1) hheeds.2
    exact List.mem_filter.mpr ⟨h.remote i hi, decide_eq_true hij⟩
  | broadcast others => exact h.broadcast
  | take => exact ⟨h.reply, h.subscribed, h.remote, h.member, h.since, h.heard⟩
  | send ok =>
    obtain ⟨j, l, hl⟩ := List.exists_cons_of_ne_nil hpossible
    change (s.queue.head?.elim s (s.sendTo ok)).Served
    rw [hl]
    exact ⟨h.reply, h.subscribed, h.remote, h.member, h.since, h.heard⟩

theorem Heeds.sends {a : RelayAction} (h : s.Heeds a) : s.Sends a := by
  cases a with
  | send ok => exact h
  | _ => trivial

theorem Run.sends (h : Run Heeds s s') : Run Sends s s' := by
  induction h with
  | refl => exact .refl
  | tail _ hstep ih =>
    obtain ⟨a, hpossible, hheeds, heq⟩ := hstep
    exact ih.tail ⟨a, hpossible, hheeds.sends, heq⟩

theorem Served.run (h : s.Served) (hinv : s.Inv) (hrun : Run Heeds s s') : s'.Served := by
  induction hrun with
  | refl => exact h
  | tail hprefix hstep ih =>
    obtain ⟨a, hpossible, hheeds, rfl⟩ := hstep
    exact ih.step (hinv.run hprefix) hpossible hheeds

/-- **Everybody gets all broadcasts**: in a run that heeds the others, a client in the proxy has
received, or is yet to, every broadcast of the owner since it came in, once and in order. -/
theorem relayed_of_run (h : Run Heeds {} s) (hphase : s.phase j = .joined) :
    (s.received j ++ s.pending j).filter (s.since j ≤ ·) =
      List.range' (s.since j) (s.broadcasts - s.since j) := by
  have hserved : s.Served := Served.start.run .start h
  have hfollows : s.Follows := (Follows.run h.sends).2
  rw [← hserved.heard j hphase]
  exact hfollows j hphase (hserved.member j hphase)

/-- The first client has come in, one broadcast was sent before, and then another one, which it has
received. -/
theorem relayed_second : ∃ s : Relay, s.phase 0 = .joined ∧
    (s.received 0 ++ s.pending 0).filter (s.since 0 ≤ ·) = [1] := by
  have hwaiting : Run Heeds {} _ := .single ⟨.subscribe 0, rfl, trivial, rfl⟩
  have haccepted := hwaiting.tail ⟨.accept 0, ⟨nofun, rfl⟩, trivial, rfl⟩
  have hfirst := haccepted.tail ⟨.broadcast false, trivial, trivial, rfl⟩
  have hjoined := hfirst.tail ⟨.readReply 0, ⟨rfl, nofun⟩, trivial, rfl⟩
  have hsecond := hjoined.tail ⟨.broadcast false, trivial, trivial, rfl⟩
  exact ⟨_, rfl, relayed_of_run hsecond rfl⟩

end Relay

end Skribbl.System
