import Skribbl.Backend.ErrorExits
import Skribbl.Backend.Scoring
import Skribbl.System.Assignment

/-!
# A join of a room that exists only as a snapshot

A gateway that finds no owner of a room makes a worker the owner before it sends the join there. 
The worker adopts a snapshot only if it finds no owner, and otherwise asks the owner, whose messages
to itself are ignored.

* `handleJoinRoom` — all commands of one message, with nothing in between.
* `remoteAnswer` — what `_join_room_remote` answers for an owner.
* `JoinsRestored` — the `join_room` of a worker restores the room and lets the player in.

Principal results: `restored_iff` — a join arrives in the restored room if and only if the gateway
still has a live owner of the room in its cache; `nobody_restores` — without one the room is not
found.
-/

set_option autoImplicit false

namespace Skribbl.System

open Backend Coro

namespace Assignment

variable {s : Assignment} {j : Nat} {w : String}

/-! ## The gateway's part -/

/-- `handleJoinRoom`, from the lookup of the owner to the worker that the envelope goes to. -/
def handleJoinRoom (s : Assignment) (j : Nat) : Assignment := s.joins j 9

/-- While nobody else does anything, a message in this phase has found no owner, has made the worker
in hand the owner, or has a dead worker in hand. -/
def SetsAt (s : Assignment) (j : Nat) : JoinPhase → Prop
  | .start => s.owner = none ∧ ∀ w, s.ownerCache (s.gateway j) = some w → s.grpcAlive w = false
  | .missing => s.owner = none
  | .written w => s.roomOwner = some w
  | .rewritten w => s.roomOwner = some w
  | .resolved w => s.owner = some w ∨ s.grpcAlive w = false
  | .routed w => s.owner = some w ∨ s.grpcAlive w = false
  | _ => True

def Sets (s : Assignment) (j : Nat) : Prop := s.SetsAt j (s.phase j)

theorem Sets.of_phase {x : JoinPhase} (hx : s.phase j = x) (h : s.SetsAt j x) : s.Sets j := by
  unfold Sets
  rw [hx]
  exact h

theorem enter_phase (s : Assignment) (j : Nat) (x : JoinPhase) : (s.enter j x).phase j = x :=
  Function.update_self ..

theorem owner_of_roomOwner (h : s.roomOwner = some w) : s.owner = some w := by
  unfold owner
  rw [h]
  rfl

/-- One command of the message. -/
theorem Sets.next (h : s.Sets j) : (s.next j).Sets j := by
  unfold Assignment.next
  unfold Sets at h
  cases hphase : s.phase j with
  | start =>
    rw [hphase] at h
    obtain ⟨hnone, hcache⟩ := h
    have hroom : s.roomOwner = none := (Option.or_eq_none_iff.mp hnone).1
    rw [hroom]
    cases hc : s.ownerCache (s.gateway j) with
    | some w => exact .of_phase (enter_phase ..) (.inr (hcache w hc))
    | none => exact .of_phase (enter_phase ..) hnone
  | missing =>
    rw [hphase] at h
    have hworkers : s.roomWorkers = none := (Option.or_eq_none_iff.mp h).2
    rw [hworkers]
    exact .of_phase (enter_phase ..) trivial
  | unowned =>
    dsimp only
    cases s.workerLoad.head? <;> exact .of_phase (enter_phase ..) trivial
  | chosen w => exact .of_phase (enter_phase ..) rfl
  | written w =>
    rw [hphase] at h
    exact .of_phase (enter_phase ..) (.inl (owner_of_roomOwner h))
  | resolved w =>
    rw [hphase] at h
    dsimp only
    split
    · exact .of_phase (enter_phase ..) h
    · exact .of_phase (enter_phase ..) trivial
  | dead w =>
    dsimp only
    cases s.workerLoad.head?.filter (· ≠ w) <;> exact .of_phase (enter_phase ..) trivial
  | rechosen w => exact .of_phase (enter_phase ..) rfl
  | rewritten w =>
    rw [hphase] at h
    exact .of_phase (enter_phase ..) (.inl (owner_of_roomOwner h))
  | routed w =>
    rw [hphase] at h
    exact .of_phase hphase h
  | failed => exact .of_phase hphase trivial

theorem Sets.joins (h : s.Sets j) (n : Nat) : (s.joins j n).Sets j := by
  induction n generalizing s with
  | zero => exact h
  | succ n ih => exact ih h.next

/-- A message that has been routed stays where it is. -/
theorem joins_routed (h : s.phase j = .routed w) (n : Nat) : s.joins j n = s := by
  induction n with
  | zero => rfl
  | succ n ih =>
    have hnext : s.next j = s := by
      unfold next
      rw [h]
    rw [joins, hnext, ih]

theorem next_grpcAlive (s : Assignment) (j : Nat) : (s.next j).grpcAlive = s.grpcAlive := by
  unfold next
  repeat' split
  all_goals rfl

theorem joins_grpcAlive (s : Assignment) (j n : Nat) : (s.joins j n).grpcAlive = s.grpcAlive := by
  induction n generalizing s with
  | zero => rfl
  | succ n ih => exact (ih (s.next j)).trans (next_grpcAlive s j)

/-- A gateway that has a live owner in its cache sends the message there, and sets no key. -/
theorem handleJoinRoom_cached (hstart : s.phase j = .start)
    (hcache : s.ownerCache (s.gateway j) = some w) (halive : s.grpcAlive w = true) :
    (s.handleJoinRoom j).phase j = .routed w ∧ (s.handleJoinRoom j).owner = s.owner := by
  have hfirst : s.next j = s.enter j (.resolved w) := by
    unfold next
    rw [hstart, hcache]
  have hlive : (s.enter j (.resolved w)).isGRPCAlive j w = true := by
    unfold isGRPCAlive
    rw [Bool.or_eq_true]
    exact .inr halive
  have hsecond : (s.enter j (.resolved w)).next j =
      ((s.enter j (.resolved w)).storeAlive j w).enter j (.routed w) := by
    unfold next
    rw [enter_phase]
    dsimp only
    rw [if_pos hlive]
  have hrouted : (((s.enter j (.resolved w)).storeAlive j w).enter j (.routed w)).phase j =
      .routed w := enter_phase ..
  unfold handleJoinRoom joins joins
  rw [hfirst, hsecond, joins_routed hrouted]
  exact ⟨hrouted, rfl⟩

/-- Any other gateway makes the worker that it sends the message to the owner. -/
theorem handleJoinRoom_owner (hstart : s.phase j = .start) (howner : s.owner = none)
    (hcache : ∀ w, s.ownerCache (s.gateway j) = some w → s.grpcAlive w = false)
    (hrouted : (s.handleJoinRoom j).phase j = .routed w) (halive : s.grpcAlive w = true) :
    (s.handleJoinRoom j).owner = some w := by
  have hsets : (s.handleJoinRoom j).Sets j :=
    Sets.joins (.of_phase hstart ⟨howner, hcache⟩) 9
  unfold Sets at hsets
  rw [hrouted] at hsets
  rcases hsets with hsome | hdead
  · exact hsome
  · have hdead' : s.grpcAlive w = false := by
      rw [← joins_grpcAlive s j 9]
      exact hdead
    rw [hdead'] at halive
    cases halive

end Assignment

/-! ## The worker's part -/

/-- What `_join_room_remote` of a worker answers: `_subscribe_loop` ignores the worker's messages to
itself, so that nobody replies, and another owner answers by `_handle_rpc`. -/
def remoteAnswer (handleRpc : String → Message) (w : String) (owner : Option String) :
    Option Message :=
  owner.map fun o =>
    if o = w then .error "ROOM_NOT_FOUND" "Room owner did not respond" else handleRpc o

/-- A `join_room` message. -/
structure JoinRequest where
  name : String
  code : String
  ws : WsId
  avatar : Option String := none
  asSpectator : Bool := false
  password : Option String := none

/-- The name and the password are right, and the room of the snapshot takes another player. -/
structure JoinRequest.Valid (c : JoinRequest) (env : Env) (x : RoomSnapshot) : Prop where
  name : validateName c.name = none
  password : env.passwordError x.config c.password = none
  room : c.asSpectator = true ∨
    x.state = .lobby ∧ x.players.length < min x.config.maxPlayers.val maxPlayersHardCap

/-- Redis has a snapshot of the room, and the worker does not have the room, or only a proxy of
it. -/
structure OnlySnapshot (code : String) (x : RoomSnapshot) (W : World) : Prop where
  redis : W.redis = true
  snapshot : W.snapshots code = some x
  named : x.code = code
  room : (W.roomOf code).filter (fun r => !(W.room r).isProxy) = none

/-- `join_room` on the worker, alone, answers `room_joined`, and the room is then the restored
one. -/
def JoinsRestored (env : Env) (c : JoinRequest) (W : World) (remote : Option Message) : Prop :=
  ∃ info W', (joinRoom env c.name c.code c.ws c.avatar c.asSpectator c.password remote).exec W =
      (.ok (.roomJoined info), W') ∧ W'.roomOf c.code = some W.nextRoom

variable {env : Env} {c : JoinRequest} {x : RoomSnapshot} {W : World}

/-- A call that does not write the table of rooms leaves it as it is. -/
theorem returns_of_within {S : List Eff} {α : Type} (call : M α) [hcall : Coro.Within (fp S) call]
    (hS : Eff.rooms ∉ S) {Q : α → World → Prop} (hQ : ∀ a W', W'.rooms = W.rooms → Q a W') :
    call.Returns Q W := by
  refine returns_iff.mpr fun a W' hexec => hQ a W' ?_
  have hends : call.Ends Eq W _ _ := ends_exec call W
  rw [hexec] at hends
  refine Ends.within (G := fun V => V.rooms = W.rooms) hcall (fun V V' hchange hV => ?_)
    (fun V V' hsame hV => hsame ▸ hV) hends rfl
  exact (hchange.2 .rooms hS).world.1.trans hV

/-- A room that has just been restored lets the player in. -/
theorem returns_joinRoomLocal (hvalid : c.Valid env x) {W' : World} (h : W.Adopted x W') :
    (joinRoomLocal env W.nextRoom c.code c.name c.ws c.avatar c.asSpectator c.password).Returns
      (fun m W'' => (∃ info, m = .roomJoined info) ∧ W''.rooms = W'.rooms) W' := by
  unfold joinRoomLocal
  rw [returns_bind, returns_read, h.config, hvalid.password, Option.elim, h.state,
    returns_ite, returns_ite, returns_ite]
  have hroom : ∀ {p : Prop}, c.asSpectator = false → (x.state = .lobby →
      x.players.length < min x.config.maxPlayers.val maxPlayersHardCap → p) → p := by
    intro p hactive hp
    rcases hvalid.room with hspectator | ⟨hstate, hcount⟩
    · rw [hactive] at hspectator
      cases hspectator
    · exact hp hstate hcount
  refine ⟨fun ⟨hstate, hactive⟩ => hroom hactive fun hlobby _ => absurd hlobby hstate,
    fun _ => ⟨fun ⟨hactive, hfull⟩ => hroom hactive fun _ hcount => ?_,
      fun _ => ⟨fun ⟨_, hfull⟩ => absurd hfull h.not_spectatorsFull, fun _ => ?_⟩⟩⟩
  · exact absurd (h.playersFull.mp hfull) (not_le.mpr hcount)
  · refine returns_bind.mpr (returns_of_within (S := [.players, .connection, .members]) _
      (by decide) fun p W₁ h₁ => returns_bind.mpr (returns_redisCall ?_))
    rw [returns_bind, returns_read]
    refine returns_bind.mpr (returns_of_within (S := []) _ (by decide) fun _ W₂ h₂ => ?_)
    rw [returns_bind, returns_read]
    exact ⟨⟨_, rfl⟩, h₂.trans h₁⟩

theorem roomOf_dictSet {d : List (String × RoomId)} {code : String} {r : RoomId}
    (h : W.rooms = dictSet d code r) : W.roomOf code = some r := by
  have hfind : ∀ l : List (String × RoomId), (∀ y ∈ l, y.1 = code → y.2 = r) → (code, r) ∈ l →
      (l.find? (·.1 = code)).map (·.2) = some r := by
    intro l hl hmem
    cases hfind : l.find? (·.1 = code) with
    | none => exact absurd (List.find?_eq_none.mp hfind _ hmem) (by simp)
    | some y =>
      have hy : y.1 = code := by simpa using List.find?_some hfind
      exact congrArg some (hl y (List.mem_of_find?_eq_some hfind) hy)
  unfold World.roomOf
  rw [h]
  refine hfind _ (fun y hy hcode => ?_) (mem_dictSet_self d code r)
  unfold dictSet at hy
  split at hy
  · obtain ⟨z, -, rfl⟩ := List.mem_map.mp hy
    split at hcode
    · rename_i hz
      rw [if_pos hz]
    · rename_i hz
      exact absurd hcode hz
  · rename_i hany
    rcases List.mem_append.mp hy with hy | hy
    · exact absurd (List.any_eq_true.mpr ⟨y, hy, decide_eq_true hcode⟩) hany
    · rw [List.mem_singleton.mp hy]

/-- **Without an owner the snapshot is adopted.** -/
theorem joinsRestored (h : OnlySnapshot c.code x W) (hvalid : c.Valid env x) :
    JoinsRestored env c W none := by
  have hreturns : (joinRoom env c.name c.code c.ws c.avatar c.asSpectator c.password none).Returns
      (fun m W' => (∃ info, m = .roomJoined info) ∧ W'.roomOf c.code = some W.nextRoom) W := by
    unfold joinRoom
    rw [hvalid.name, Option.elim, returns_bind, returns_read, h.room, Option.elim]
    refine returns_bind.mpr (returns_redisCall (returns_bind.mpr (returns_adoptSnapshot
      (fun hnone => ?_) fun y W' _ hy hadopted => ?_)))
    · rw [h.redis, h.snapshot] at hnone
      rcases hnone with hnone | hnone <;> cases hnone
    · rw [h.snapshot] at hy
      cases hy
      refine (returns_joinRoomLocal hvalid hadopted).mono fun m W'' ⟨hm, hrooms⟩ => ⟨hm, ?_⟩
      rw [← h.named]
      exact roomOf_dictSet (hrooms.trans hadopted.rooms)
  obtain ⟨m, W', hexec⟩ := exec_ok (S := [.rooms, .turn, .players, .connection, .members])
    (joinRoom env c.name c.code c.ws c.avatar c.asSpectator c.password none) (by decide) W
  obtain ⟨⟨info, rfl⟩, hroom⟩ := returns_iff.mp hreturns m W' hexec
  exact ⟨info, W', hexec, hroom⟩

/-- **With an owner its answer is all there is.** -/
theorem not_joinsRestored (h : OnlySnapshot c.code x W) (hvalid : c.Valid env x) {m : Message}
    (hm : ∀ info, m ≠ .roomJoined info) : ¬ JoinsRestored env c W (some m) := by
  rintro ⟨info, W', hexec, -⟩
  have hreturns : (joinRoom env c.name c.code c.ws c.avatar c.asSpectator c.password
      (some m)).Returns (fun m' _ => m' = m) W := by
    unfold joinRoom
    rw [hvalid.name, Option.elim, returns_bind, returns_read, h.room, Option.elim]
    refine returns_bind.mpr (returns_redisCall ?_)
    rw [h.redis]
    rfl
  exact hm info (returns_iff.mp hreturns _ _ hexec).symm

/-! ## Both -/

/-- The message is sent to a live worker, and there it is a join into the restored room. -/
def ArrivesRestored (env : Env) (c : JoinRequest) (world : String → World)
    (handleRpc : String → Message) (s : Assignment) (j : Nat) : Prop :=
  ∃ w, (s.handleJoinRoom j).phase j = .routed w ∧ s.grpcAlive w = true ∧
    JoinsRestored env c (world w) (remoteAnswer handleRpc w (s.handleJoinRoom j).owner)

/-- **A valid join arrives in the restored room if and only if the gateway has a live owner in its
cache.** -/
theorem restored_iff {world : String → World} {handleRpc : String → Message} {s : Assignment}
    {j : Nat} (hstart : s.phase j = .start) (howner : s.owner = none)
    (hworlds : ∀ w, OnlySnapshot c.code x (world w)) (hvalid : c.Valid env x) :
    ArrivesRestored env c world handleRpc s j ↔
      ∃ w, s.ownerCache (s.gateway j) = some w ∧ s.grpcAlive w = true := by
  constructor
  · rintro ⟨w, hrouted, halive, hjoins⟩
    by_contra hnone
    have hcache : ∀ w, s.ownerCache (s.gateway j) = some w → s.grpcAlive w = false :=
      fun w hw => Bool.eq_false_iff.mpr fun hlive => hnone ⟨w, hw, hlive⟩
    rw [Assignment.handleJoinRoom_owner hstart howner hcache hrouted halive] at hjoins
    unfold remoteAnswer at hjoins
    rw [Option.map_some, if_pos rfl] at hjoins
    exact not_joinsRestored (hworlds w) hvalid (fun info heq => by cases heq) hjoins
  · rintro ⟨w, hcache, halive⟩
    obtain ⟨hrouted, hsame⟩ := Assignment.handleJoinRoom_cached hstart hcache halive
    refine ⟨w, hrouted, halive, ?_⟩
    rw [hsame, howner]
    exact joinsRestored (hworlds w) hvalid

/-- An empty room in its lobby. -/
def drainedRoom : RoomSnapshot where
  code := "ROOM01"
  hostId := .other "host"
  state := .lobby
  currentRound := 0
  drawerIndex := 0
  config := {}
  usedWords := []
  wordPool := []
  players := [⟨.other "host", "Ann", 120, false, true, false, none, none⟩,
    ⟨.other "guest", "Cy", 80, false, true, true, none, none⟩]
  turn := none
  snapshotTime := 0

/-- A worker that has just started. -/
def freshWorker : World :=
  World.start (fun _ => {}) true [] fun code => if code = "ROOM01" then some drainedRoom else none

def bob : JoinRequest where
  name := "Bob"
  code := "ROOM01"
  ws := 0

theorem freshWorker_onlySnapshot : OnlySnapshot bob.code drainedRoom freshWorker :=
  ⟨rfl, rfl, rfl, rfl⟩

theorem bob_valid : bob.Valid sampleEnv drainedRoom := ⟨by decide, rfl, .inr ⟨rfl, by decide⟩⟩

/-- The gateway has `w1` in its cache. -/
theorem restored_cached : ArrivesRestored sampleEnv bob (fun _ => freshWorker)
    (fun _ => .error "ROOM_NOT_FOUND" "Room not found on owner")
    { Assignment.twoWorkers with
      ownerCache := fun _ => some "w1" } 0 :=
  (restored_iff rfl rfl (fun _ => freshWorker_onlySnapshot) bob_valid).mpr ⟨"w1", rfl, by decide⟩

/-- Nobody has asked for the room for a while. -/
theorem nobody_restores : ¬ ∀ handleRpc : String → Message,
    ArrivesRestored sampleEnv bob (fun _ => freshWorker) handleRpc Assignment.twoWorkers 0 := by
  intro h
  obtain ⟨w, hrouted, -, hjoins⟩ := h fun _ => .error "" ""
  have howner : (Assignment.twoWorkers.handleJoinRoom 0).owner = some "w1" := by decide
  have hphase : (Assignment.twoWorkers.handleJoinRoom 0).phase 0 = .routed "w1" := by decide
  rw [hphase] at hrouted
  cases hrouted
  rw [howner] at hjoins
  exact not_joinsRestored freshWorker_onlySnapshot bob_valid (fun info heq => by cases heq) hjoins

end Skribbl.System
