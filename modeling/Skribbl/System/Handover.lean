import Skribbl.Backend.Snapshot

/-!
# The rooms of a worker that drains (`drain_active_rooms`, `save_room_snapshot`)

A worker that is about to stop notifies the players of each room, takes a snapshot of it, sets it in
Redis and deletes the keys by which it owns the room.  Its other coroutines go on meanwhile, and
afterwards.

* `Handover` — the event loop of the worker, how far the drain has come, and what has been taken,
  saved and released so far.
* `Handover.HandedOver` — whoever adopts a saved snapshot has the room as it is now on the draining
  worker; and since the keys were deleted that one has neither changed the room nor sent its players
  anything but `worker_draining`.
* `Handover.Heeds` — once a snapshot has been taken, the worker handles no message, no timer fires
  and nothing that was suspended goes on; and the snapshot keeps all that the room has.

Principal results: `handedOver_of_run` — then the rooms are handed over; `joined_after` — a join
after the release is accepted and lost.
-/

set_option autoImplicit false

namespace Skribbl.Backend

/-- The notice that the worker drains. -/
def Message.drains : Message → Bool
  | .workerDraining _ => true
  | _ => false

/-- A send that goes to the room, or to the connection of one of its players. -/
def Sent.reaches (w : World) (r : RoomId) (x : Sent) : Bool :=
  match x.recipient with
  | .one ws => (w.room r).players.any fun p => (w.player r p).websocket = some ws
  | .room _ code => code = (w.room r).code

/-- What the connections that a room has in `w₀` have been sent until `w`, but for the notices that
the worker drains. -/
def World.heard (w₀ : World) (r : RoomId) (w : World) : List Sent :=
  w.outbox.filter fun x => x.reaches w₀ r && !x.message.drains

/-- The snapshot keeps all that the room had when it was taken, and the room is still the same. -/
def Describes (w : World) (r : RoomId) (x : RoomSnapshot) : Prop :=
  ∃ w₁ : World, x = w₁.snapshotRoom r ∧ PlainRoom w₁ r ∧ RoundTrip w₁ r w r

/-- Whoever adopts it has the room as it is. -/
theorem Describes.adopted {w w₁ w' : World} {r : RoomId} {x : RoomSnapshot} (h : Describes w r x)
    {rely : World → World → Prop} {y : Except String RoomId}
    (hends : (restoreRoom x).Ends rely w₁ y w') : RoundTrip w r w' w₁.nextRoom := by
  obtain ⟨w₀, rfl, hplain, hsame⟩ := h
  exact hsame.symm.trans (hplain.roundTrip hends)

theorem Describes.mono {w w' : World} {r : RoomId} {x : RoomSnapshot} (h : Describes w r x)
    (hsame : RoundTrip w r w' r) : Describes w' r x := by
  obtain ⟨w₀, hx, hplain, hsame₀⟩ := h
  exact ⟨w₀, hx, hplain, hsame₀.trans hsame⟩

end Skribbl.Backend

namespace Skribbl.System

open Backend

/-! ## The drain -/

/-- How far `drain_active_rooms` has come. -/
inductive DrainPhase where
  | idle
  /-- In the `broadcast` to the first of these rooms. -/
  | notifying (rooms : List RoomId)
  /-- In `save_room_snapshot`, with the rooms that come after. -/
  | saving (r : RoomId) (x : RoomSnapshot) (rooms : List RoomId)
  | drained

/-- A worker, among whose coroutines one runs `drain_active_rooms`. -/
structure Handover where
  config : Config World Frame Mark TaskId
  phase : DrainPhase := .idle
  /-- The rooms whose snapshots have been taken. -/
  taken : List RoomId := []
  /-- The snapshots that have been set in Redis. -/
  saved : List (RoomId × RoomSnapshot) := []
  /-- The rooms whose keys have been deleted, with the worker's state at that time. -/
  released : List (RoomId × World) := []

namespace Handover

variable {env : Env} {s s' : Handover} {r : RoomId}

def world (s : Handover) : World := s.config.state

/-- A room of its own that the worker has to drain. -/
def localRooms (w : World) : List RoomId :=
  (w.rooms.map (·.2)).filter fun r => !(w.room r).isProxy

/-- Another state of the worker. -/
def put (s : Handover) (u : Update) : Handover :=
  { s with
    config := { s.config with
      state := u.apply s.config.state } }

/-- What `drain_active_rooms` does next, while no other coroutine runs. -/
inductive Action where
  | begin
  /-- A send of the broadcast; to which connection is left open. -/
  | notify (recipient : Recipient)
  /-- `snapshot_room`. -/
  | take
  /-- `SET room_snapshot`. -/
  | set
  /-- `DEL room_owner` and `HDEL room_workers`. -/
  | release
  /-- The next room: the commands are done, or something raised. -/
  | next

/-- A step of `drain_active_rooms`. -/
inductive Drains (s : Handover) : Action → Handover → Prop
  | begin (hphase : s.phase = .idle) :
    Drains s .begin { s with phase := .notifying (localRooms s.world) }
  | notify (r : RoomId) (rooms : List RoomId) (recipient : Recipient)
      (hphase : s.phase = .notifying (r :: rooms)) :
    Drains s (.notify recipient)
      (s.put (.send ⟨recipient, .workerDraining (s.world.room r).code, false⟩))
  | take (r : RoomId) (rooms : List RoomId)
      (hphase : s.phase = .notifying (r :: rooms)) :
    Drains s .take
      { s with
        phase := .saving r (s.world.snapshotRoom r) rooms
        taken := r :: s.taken }
  | set (r : RoomId) (x : RoomSnapshot) (rooms : List RoomId)
      (hphase : s.phase = .saving r x rooms) (hredis : s.world.redis = true) :
    Drains s .set
      { s.put (.snapshots x.code (some x)) with
        saved := (r, x) :: s.saved }
  | release (r : RoomId) (x : RoomSnapshot) (rooms : List RoomId)
      (hphase : s.phase = .saving r x rooms) (hredis : s.world.redis = true) :
    Drains s .release
      { s with released := (r, s.world) :: s.released }
  | next (r : RoomId) (x : RoomSnapshot) (rooms : List RoomId)
      (hphase : s.phase = .saving r x rooms ∨ s.phase = .notifying (r :: rooms)) :
    Drains s .next { s with phase := .notifying rooms }
  | finish (hphase : s.phase = .notifying []) :
    Drains s .next { s with phase := .drained }

/-- What happens on the worker. -/
inductive Event where
  /-- A step of another coroutine, or of the loop. -/
  | other (c : Config World Frame Mark TaskId)
  | drain (a : Action)

/-- One step that meets a condition. -/
inductive Step (env : Env) (cond : Handover → Event → Prop) (s : Handover) : Handover → Prop
  | other (c : Config World Frame Mark TaskId)
      (h : (worker env).Step Loop.anyEvent s.config c) (hcond : cond s (.other c)) :
    Step env cond s { s with config := c }
  | drain {s' : Handover} (a : Action) (hidle : s.config.running = none) (h : Drains s a s')
      (hcond : cond s (.drain a)) : Step env cond s s'

/-- A run: any number of steps. -/
def Run (env : Env) (cond : Handover → Event → Prop) : Handover → Handover → Prop :=
  Relation.ReflTransGen (Step env cond)

/-- Whoever adopts a saved snapshot has the room as it is now; and since the keys of a room were
deleted, the worker has neither changed the room nor sent its connections anything but the
notice. -/
structure HandedOver (s : Handover) : Prop where
  adopted : ∀ y ∈ s.saved, ∀ (rely : World → World → Prop) (w₁ w' : World)
    (result : Except String RoomId), (restoreRoom y.2).Ends rely w₁ result w' →
      RoundTrip s.world y.1 w' w₁.nextRoom
  silent : ∀ y ∈ s.released, RoundTrip y.2 y.1 s.world y.1 ∧
    y.2.heard y.1 s.world = y.2.heard y.1 y.2

/-- Nothing is running but the clock: no message, no timer and no coroutine that was suspended. -/
def Rests (c : Config World Frame Mark TaskId) : Prop :=
  ∀ o k, c.running = some (o, k) →
    k = .pure () ∨ ∃ d, k = .modify (Update.sleep d).apply (.pure ())

/-- From the moment that the first snapshot is taken, the worker rests; and a snapshot that is taken
keeps all that the room has. -/
def Heeds (s : Handover) : Event → Prop
  | .other c => s.taken ≠ [] → Rests c
  | .drain .take => ∀ r rooms, s.phase = .notifying (r :: rooms) → PlainRoom s.world r
  | _ => True

/-- The snapshots describe the rooms, and the rooms that are released are as they were. -/
structure Inv (s : Handover) : Prop where
  rests : s.taken ≠ [] → Rests s.config
  saved : ∀ y ∈ s.saved, y.1 ∈ s.taken ∧ Describes s.world y.1 y.2
  saving : ∀ r x rooms, s.phase = .saving r x rooms → r ∈ s.taken ∧ Describes s.world r x
  released : ∀ y ∈ s.released, y.1 ∈ s.taken ∧ RoundTrip y.2 y.1 s.world y.1 ∧
    y.2.heard y.1 s.world = y.2.heard y.1 y.2

theorem Inv.handedOver (h : s.Inv) : s.HandedOver where
  adopted y hy _ _ _ _ hends := (h.saved y hy).2.adopted hends
  silent y hy := (h.released y hy).2

/-- The drain has not begun. -/
theorem Inv.start {c : Config World Frame Mark TaskId} : Inv { config := c } where
  rests hne := absurd rfl hne
  saved _ hy := absurd hy List.not_mem_nil
  saving _ _ _ hphase := by cases hphase
  released _ hy := absurd hy List.not_mem_nil

/-- The state of the worker changes, but not the rooms whose snapshots have been taken. -/
theorem Inv.world (h : s.Inv) {c : Config World Frame Mark TaskId}
    (hrests : s.taken ≠ [] → Rests c) (hsame : ∀ r ∈ s.taken, RoundTrip s.world r c.state r)
    (hheard : ∀ y ∈ s.released, y.2.heard y.1 c.state = y.2.heard y.1 s.world) :
    Inv { s with config := c } where
  rests := hrests
  saved y hy := (h.saved y hy).imp_right fun hd => hd.mono (hsame _ (h.saved y hy).1)
  saving r x rooms hphase :=
    (h.saving r x rooms hphase).imp_right fun hd => hd.mono (hsame _ (h.saving r x rooms hphase).1)
  released y hy := (h.released y hy).imp_right fun ⟨hr, hl⟩ =>
    ⟨hr.trans (hsame _ (h.released y hy).1), (hheard y hy).trans hl⟩

/-- The drain is not in `save_room_snapshot`. -/
theorem Inv.elsewhere (h : s.Inv) {p : DrainPhase} (hphase : ∀ r x rooms, p ≠ .saving r x rooms) :
    Inv { s with phase := p } :=
  ⟨h.rests, h.saved, fun r x rooms heq => absurd heq (hphase r x rooms), h.released⟩

/-- The worker's tasks and clock have changed, and nothing else. -/
structure Idled (w w' : World) : Prop where
  room : w'.room = w.room
  player : w'.player = w.player
  outbox : w'.outbox = w.outbox

/-- **A worker that rests does nothing to its rooms**: the clock runs, and tasks begin and end. -/
theorem idled_of_rests {c c' : Config World Frame Mark TaskId} (hrests : Rests c)
    (h : (worker env).Step Loop.anyEvent c c') : Idled c.state c'.state := by
  have hended : ∀ (o : Option TaskId) (w : World), Idled w ((worker env).ended o w) := fun o w => by
    cases o <;> exact ⟨rfl, rfl, rfl⟩
  cases h with
  | modify o f k hrun =>
    rcases hrests o _ hrun with hpure | ⟨d, hsleep⟩
    · cases hpure
    · cases hsleep
      exact ⟨rfl, rfl, rfl⟩
  | finish o hrun => exact hended o c.state
  | fail o e hrun => exact hended o c.state
  | _ => exact ⟨rfl, rfl, rfl⟩

/-- **Every step keeps the invariant.** -/
theorem Inv.step (h : s.Inv) (hstep : Step env Heeds s s') : s'.Inv := by
  cases hstep with
  | other c hstep hheed =>
    have hidled : s.taken ≠ [] → Idled s.world c.state := fun hne =>
      idled_of_rests (h.rests hne) hstep
    refine h.world hheed (fun r hr => ?_) fun y hy => ?_
    · have hsame := hidled (List.ne_nil_of_mem hr)
      exact .of_same (congrFun hsame.room r) (congrFun hsame.player r)
    · have hsame := hidled (List.ne_nil_of_mem (h.released y hy).1)
      unfold World.heard
      rw [hsame.outbox]
  | drain a hidle hdrain hheed =>
    cases hdrain with
    | begin hphase => exact h.elsewhere fun r x rooms => by rintro ⟨⟩
    | notify r rooms recipient hphase =>
      refine h.world h.rests (fun r' _ => .of_same rfl rfl) fun y hy => ?_
      change List.filter _ (s.world.outbox ++ [_]) = _
      rw [List.filter_append]
      simp [World.heard, Message.drains]
    | take r rooms hphase =>
      have hdescribes : Describes s.world r (s.world.snapshotRoom r) :=
        ⟨s.world, rfl, hheed r rooms hphase, .of_same rfl rfl⟩
      refine ⟨fun _ o k hrun => ?_,
        fun y hy => (h.saved y hy).imp_left (List.mem_cons_of_mem r), ?_,
        fun y hy => (h.released y hy).imp_left (List.mem_cons_of_mem r)⟩
      · rw [hidle] at hrun
        cases hrun
      rintro r' x' rooms' hphase'
      cases hphase'
      exact ⟨List.mem_cons_self, hdescribes⟩
    | set r x rooms hphase hredis =>
      have hput := h.world (c := (s.put (.snapshots x.code (some x))).config) h.rests
        (fun r' _ => .of_same rfl rfl) fun y hy => rfl
      refine ⟨hput.rests, fun y hy => ?_, hput.saving, hput.released⟩
      rcases List.mem_cons.mp hy with rfl | hy
      · exact hput.saving r x rooms hphase
      · exact hput.saved y hy
    | release r x rooms hphase hredis =>
      refine ⟨h.rests, h.saved, h.saving, fun y hy => ?_⟩
      rcases List.mem_cons.mp hy with rfl | hy
      · exact ⟨(h.saving r x rooms hphase).1, .of_same rfl rfl, rfl⟩
      · exact h.released y hy
    | next r x rooms hphase => exact h.elsewhere fun r x rooms => by rintro ⟨⟩
    | finish hphase => exact h.elsewhere fun r x rooms => by rintro ⟨⟩

/-! ## Runs -/

/-- Steps of the other coroutines are steps of the worker. -/
theorem run_others {cond : Handover → Event → Prop} {c c' : Config World Frame Mark TaskId}
    (h : (worker env).Run Loop.anyEvent c c')
    (hcond : ∀ c₁ c₂, cond { s with config := c₁ } (.other c₂)) :
    Run env cond { s with config := c } { s with config := c' } := by
  induction h with
  | refl => exact .refl
  | tail _ hstep ih => exact ih.tail (.other _ hstep (hcond _ _))

/-- A worker that has just started, and has Redis. -/
def clusterWorld : World := World.start (fun _ => {}) true [] fun _ => none

/-- The only room of a worker, when its keys have been deleted. -/
def releasing (c : Config World Frame Mark TaskId) : Handover where
  config := c
  phase := .saving 0 (c.state.snapshotRoom 0) []
  taken := [0]
  released := [(0, c.state)]

/-- The steps of the drain until then. -/
theorem run_drain {cond : Handover → Event → Prop} {c : Config World Frame Mark TaskId}
    (hrun : Run env cond { config := startConfig clusterWorld } { config := c })
    (hidle : c.running = none) (hrooms : localRooms c.state = [0]) (hredis : c.state.redis = true)
    (hcond : ∀ s a, s.config = c → (∀ r rooms, s.phase = .notifying (r :: rooms) → r = 0) →
      cond s (.drain a)) :
    Run env cond { config := startConfig clusterWorld } (releasing c) := by
  have hbegun : Run env cond { config := startConfig clusterWorld }
      { config := c
        phase := .notifying [0] } := by
    rw [← hrooms]
    exact hrun.tail (.drain _ hidle (.begin rfl) (hcond _ _ rfl nofun))
  have htaken := hbegun.tail (.drain _ hidle (.take 0 [] rfl)
    (hcond _ _ rfl fun r rooms hphase => by cases hphase; rfl))
  exact htaken.tail (.drain _ hidle (.release 0 _ [] rfl hredis) (hcond _ _ rfl nofun))

end Handover

end Skribbl.System
