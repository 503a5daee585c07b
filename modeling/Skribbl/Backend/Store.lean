import Mathlib.Algebra.Order.Ring.Rat
import Mathlib.Tactic.SplitIfs
import Skribbl.Backend.Models

/-!
# The assignments of a worker, and their footprints

* `RoomUpdate`, `PlayerUpdate`, `Update` — the assignments to attributes and maps, and the
  creation of objects; `Update.apply` says what they do.
* `Eff` — the parts of a worker's state; `Update.effs` — the parts that an assignment writes.
* `fp` — the footprint of a function: the parts that it may write.
* `read`, `put`, `newRoom`, `newPlayer`, `newTurn`, `createTask`, … — the assignments as coroutines.

Principal result: the instances of `Coro.Within` for these coroutines, from which Lean infers the
footprints of the functions of the worker.
-/

set_option autoImplicit false

namespace Skribbl.Backend

open Coro

/-! ## Assignments -/

/-- An assignment to an attribute of a room. -/
inductive RoomUpdate where
  | hostId (p : PlayerId)
  /-- `add_player`. -/
  | addPlayer (p : PlayerId)
  /-- `remove_player`. -/
  | removePlayer (p : PlayerId)
  /-- `players_by_id[p] = …` for a player of the room. -/
  | playersById (p : PlayerId)
  | config (c : GameConfig)
  | state (s : RoomState)
  | currentRound (n : Nat)
  | drawerIndex (n : Nat)
  /-- `turn = None`. -/
  | clearTurn
  /-- `turn.guess_order.append`. -/
  | guessOrder (p : PlayerId)
  /-- `turn_state.hint[i] = …` of the turn object `turnId`. -/
  | hint (turnId : Nat) (h : List Char)
  /-- The tasks of the turn object `turnId`. -/
  | turnTasks (turnId hint40 hint70 timer : Nat)
  /-- `used_words.add`. -/
  | selectWord (word : String)
  /-- `used_words` is cleared. -/
  | forgetWords
  | wordPool (ws : List String)
  /-- `_pending_word_choices` and `_pending_packs`; nothing reads the latter. -/
  | pendingWordChoices (packs : Option (List Pack))
  | autoSelectTask (t : Option (PlayerId × Nat))
  | insufficientPlayersTask (t : Option Nat)
  | pendingJoinRequests (l : List (RequestId × PendingJoinRequest))
  | pendingSpectatorRoleRequests (l : List (RequestId × PendingSpectatorRoleRequest))

/-- Change the turn object `turnId`, if it is still the turn of the room. -/
def Room.onTurn (turnId : Nat) (f : TurnState → TurnState) (room : Room) : Room :=
  { room with turn := room.turn.map fun t => if t.turnId = turnId then f t else t }

def RoomUpdate.apply : RoomUpdate → Room → Room
  | .hostId p, room => { room with hostId := p }
  | .addPlayer p, room =>
    { room with
      players := room.players ++ [p]
      playersById := room.playersById.filter (· ≠ p) ++ [p] }
  | .removePlayer p, room =>
    { room with
      players := room.players.filter (· ≠ p)
      playersById := room.playersById.filter (· ≠ p) }
  | .playersById p, room => { room with playersById := room.playersById.filter (· ≠ p) ++ [p] }
  | .config c, room => { room with config := c }
  | .state s, room => { room with state := s }
  | .currentRound n, room => { room with currentRound := n }
  | .drawerIndex n, room => { room with drawerIndex := n }
  | .clearTurn, room => { room with turn := none }
  | .guessOrder p, room =>
    { room with turn := room.turn.map fun t => { t with guessOrder := t.guessOrder ++ [p] } }
  | .hint turnId h, room => room.onTurn turnId fun t => { t with hint := h }
  | .turnTasks turnId a b c, room =>
    room.onTurn turnId fun t =>
      { t with hintTask40 := some a, hintTask70 := some b, timerTask := some c }
  | .selectWord word, room => { room with usedWords := word :: room.usedWords }
  | .forgetWords, room => { room with usedWords := [] }
  | .wordPool ws, room => { room with wordPool := ws }
  | .pendingWordChoices packs, room =>
    { room with pendingWordChoices := packs.map fun packs => packs.flatMap (·.words) }
  | .autoSelectTask t, room => { room with autoSelectTask := t }
  | .insufficientPlayersTask t, room => { room with insufficientPlayersTask := t }
  | .pendingJoinRequests l, room => { room with pendingJoinRequests := l }
  | .pendingSpectatorRoleRequests l, room => { room with pendingSpectatorRoleRequests := l }

/-- An assignment to an attribute of a player. -/
inductive PlayerUpdate where
  | name (s : String)
  | score (n : Int)
  | hasGuessed (b : Bool)
  | guessTime (t : ℚ)
  | isReady (b : Bool)
  | avatar (s : String)
  /-- `is_connected = True`, `disconnect_time = None`, `websocket = ws`. -/
  | connect (ws : WsId)
  /-- `is_connected = False`, `disconnect_time = now`, `websocket = None`. -/
  | disconnect (now : ℚ)
  | cleanupTask (t : Option Nat)
  | hostReassignTask (t : Option Nat)
  | sessionScore (n : Int)
  | sessionWins (n : Nat)
  | sessionGames (n : Nat)
  | streak (n : Nat)
  | maxStreak (n : Nat)
  | correctGuessesCount (n : Nat)
  | fastestGuessTime (t : Option ℚ)
  | drawerPointsEarned (n : Int)
  | isSpectator (b : Bool)
  | becomePlayerRequestsCount (n : Nat)

def PlayerUpdate.apply : PlayerUpdate → Player → Player
  | .name s, player => { player with name := s }
  | .score n, player => { player with score := n }
  | .hasGuessed b, player => { player with hasGuessed := b }
  | .guessTime t, player => { player with guessTime := some t }
  | .isReady b, player => { player with isReady := b }
  | .avatar s, player => { player with avatar := some s }
  | .connect ws, player =>
    { player with isConnected := true, disconnectTime := none, websocket := some ws }
  | .disconnect now, player =>
    { player with isConnected := false, disconnectTime := some now, websocket := none }
  | .cleanupTask t, player => { player with cleanupTask := t }
  | .hostReassignTask t, player => { player with hostReassignTask := t }
  | .sessionScore n, player => { player with sessionScore := n }
  | .sessionWins n, player => { player with sessionWins := n }
  | .sessionGames n, player => { player with sessionGames := n }
  | .streak n, player => { player with streak := n }
  | .maxStreak n, player => { player with maxStreak := n }
  | .correctGuessesCount n, player => { player with correctGuessesCount := n }
  | .fastestGuessTime t, player => { player with fastestGuessTime := t }
  | .drawerPointsEarned n, player => { player with drawerPointsEarned := n }
  | .isSpectator b, player => { player with isSpectator := b }
  | .becomePlayerRequestsCount n, player => { player with becomePlayerRequestsCount := n }

/-- An assignment, or the creation of an object. -/
inductive Update where
  | room (r : RoomId) (u : RoomUpdate)
  | player (r : RoomId) (p : PlayerId) (u : PlayerUpdate)
  /-- A new `Room`, with the player objects that are created for it. -/
  | newRoom (x : Room) (members : PlayerId → Player)
  /-- A new `Player` with a new id. -/
  | newPlayer (r : RoomId) (make : PlayerId → Player)
  /-- A new `TurnState`, stored in `room.turn`. -/
  | newTurn (r : RoomId) (make : Nat → TurnState)
  | uuid4
  /-- `asyncio.create_task` of a coroutine that sleeps first. -/
  | createTask (kind : TaskKind) (delay : ℚ)
  | cancel (t : TaskId)
  | rooms (l : List (String × RoomId))
  | playerToRoom (p : PlayerId) (code : Option String)
  | transport (ws : WsId) (t : Transport)
  | wsToPlayer (ws : WsId) (x : Option (PlayerId × String))
  | wsToPendingRequest (ws : WsId) (x : Option RequestId)
  | pendingJoinRequests (l : List (RequestId × PendingJoinRequest))
  | pendingSpectatorRoleRequests (l : List (RequestId × PendingSpectatorRoleRequest))
  | activeVoteKicks (code : String) (v : Option VoteKickState)
  | voteKickCooldowns (code : String) (f : PlayerId → ℚ)
  | snapshots (code : String) (s : Option RoomSnapshot)
  | oracle (l : List Nat)
  | send (s : Sent)
  | sleep (d : ℚ)

/-- `task.cancel()`. -/
def Task.cancel (task : Task) : Task :=
  match task.status with
  | .sleeping => { task with status := .done }
  | .running => { task with cancelRequested := true }
  | .done => task

/-- `[p for p in room.players if not p.is_spectator]`. -/
def World.activePlayers (w : World) (r : RoomId) : List PlayerId :=
  (w.room r).players.filter fun p => !(w.player r p).isSpectator

/-- A game is running. -/
def World.isRunning (w : World) (r : RoomId) : Bool :=
  (w.room r).state = .playing ∨ (w.room r).state = .wordSelection

/-- The score of an active member. -/
def World.finalScore (w : World) (r : RoomId) (p : PlayerId) : Option Int :=
  if p ∈ w.activePlayers r then some (w.player r p).score else none

/-- What happens to the games of a room by an assignment. -/
def RoomUpdate.happens (r : RoomId) (w : World) : RoomUpdate → List Happening
  | .state s => if s = .gameOver then [.ended r (w.isRunning r) (w.finalScore r)] else []
  | .selectWord word => [.selected r word]
  | .forgetWords => [.forgot r]
  | .pendingWordChoices packs => (packs.map (.offered r (w.room r))).toList
  | _ => []

def Update.apply : Update → World → World
  | .room r u, w =>
    { w with
      room := Function.update w.room r (u.apply (w.room r))
      history := u.happens r w ++ w.history }
  | .player r p u, w =>
    { w with player := fun r' p' =>
        if r' = r ∧ p' = p then u.apply (w.player r p) else w.player r' p' }
  | .newRoom x members, w =>
    { w with
      room := Function.update w.room w.nextRoom x
      player := Function.update w.player w.nextRoom members
      nextRoom := w.nextRoom + 1
      history := .opened w.nextRoom x.usedWords :: w.history }
  | .newPlayer r make, w =>
    { w with
      player := fun r' p' =>
        if r' = r ∧ p' = .uuid w.nextUuid then make (.uuid w.nextUuid) else w.player r' p'
      nextUuid := w.nextUuid + 1
      history := .joined r (.uuid w.nextUuid) :: w.history }
  | .newTurn r make, w =>
    { w with
      room := Function.update w.room r { w.room r with turn := some (make w.nextTurn) }
      nextTurn := w.nextTurn + 1 }
  | .uuid4, w => { w with nextUuid := w.nextUuid + 1 }
  | .createTask kind delay, w =>
    { w with
      task := Function.update w.task ⟨kind, w.nextTask⟩
        { status := .sleeping, created := w.now, due := w.now + delay }
      nextTask := w.nextTask + 1 }
  | .cancel t, w => { w with task := Function.update w.task t (w.task t).cancel }
  | .rooms l, w => { w with rooms := l }
  | .playerToRoom p code, w => { w with playerToRoom := Function.update w.playerToRoom p code }
  | .transport ws t, w => { w with transport := Function.update w.transport ws t }
  | .wsToPlayer ws x, w => { w with wsToPlayer := Function.update w.wsToPlayer ws x }
  | .wsToPendingRequest ws x, w =>
    { w with wsToPendingRequest := Function.update w.wsToPendingRequest ws x }
  | .pendingJoinRequests l, w => { w with pendingJoinRequests := l }
  | .pendingSpectatorRoleRequests l, w => { w with pendingSpectatorRoleRequests := l }
  | .activeVoteKicks code v, w =>
    { w with activeVoteKicks := Function.update w.activeVoteKicks code v }
  | .voteKickCooldowns code f, w =>
    { w with voteKickCooldowns := Function.update w.voteKickCooldowns code f }
  | .snapshots code s, w => { w with snapshots := Function.update w.snapshots code s }
  | .oracle l, w => { w with oracle := l }
  | .send s, w => { w with outbox := w.outbox ++ [s] }
  | .sleep d, w => { w with now := w.now + max 0 d }

/-! ## Parts of the state -/

/-- The parts of a worker's state that its properties speak about, what its marks and suspensions
are about, and exceptions. -/
inductive Eff where
  | rooms
  | members
  | state
  | schedule
  | turn
  | timers
  | pending
  | autoSelect
  | countdown
  | players
  | connection
  | cleanup
  | guessed
  | spectator
  | names
  | roles
  | clock
  | ending
  | disconnecting
  | raises
  deriving DecidableEq

/-- The part that the tasks of a kind belong to. -/
@[reducible] def TaskKind.effs : TaskKind → List Eff
  | .autoSelect _ _ => [.autoSelect]
  | .revealHint _ _ => [.timers]
  | .turnTimer _ _ => [.timers]
  | .cleanup _ => [.cleanup]
  | .endAfterWait _ => [.countdown]
  | .reassignHost _ _ => []
  | .joinTimeout _ => []
  | .roleTimeout _ _ _ => []
  | .voteTimeout _ _ => []
  | .closeSocket _ => []

@[reducible] def RoomUpdate.effs : RoomUpdate → List Eff
  | .hostId _ => []
  | .addPlayer _ => [.members]
  | .removePlayer _ => [.members]
  | .playersById _ => []
  | .config _ => [.schedule]
  | .state _ => [.state]
  | .currentRound _ => [.schedule]
  | .drawerIndex _ => [.schedule]
  | .clearTurn => [.turn]
  | .guessOrder _ => [.turn]
  | .hint _ _ => [.turn]
  | .turnTasks _ _ _ _ => [.turn]
  | .selectWord _ => []
  | .forgetWords => []
  | .wordPool _ => []
  | .pendingWordChoices _ => [.pending]
  | .autoSelectTask _ => [.autoSelect]
  | .insufficientPlayersTask _ => [.countdown]
  | .pendingJoinRequests _ => []
  | .pendingSpectatorRoleRequests _ => [.roles]

@[reducible] def PlayerUpdate.effs : PlayerUpdate → List Eff
  | .hasGuessed _ => [.guessed]
  | .connect _ => [.connection]
  | .disconnect _ => [.connection]
  | .cleanupTask _ => [.cleanup]
  | .isSpectator _ => [.spectator]
  | .name _ => [.names]
  | .score _ => [.ending]
  | .guessTime _ => []
  | .isReady _ => []
  | .avatar _ => []
  | .hostReassignTask _ => []
  | .sessionScore _ => []
  | .sessionWins _ => []
  | .sessionGames _ => []
  | .streak _ => [.ending]
  | .maxStreak _ => [.ending]
  | .correctGuessesCount _ => [.ending]
  | .fastestGuessTime _ => [.ending]
  | .drawerPointsEarned _ => [.ending]
  | .becomePlayerRequestsCount _ => []

/-- The parts that an assignment writes. -/
@[reducible] def Update.effs : Update → List Eff
  | .room _ u => u.effs
  | .player _ _ u => u.effs
  | .newRoom _ _ => [.rooms]
  | .newPlayer _ _ => [.players]
  | .newTurn _ _ => [.turn]
  | .createTask kind _ => kind.effs
  | .cancel t => t.kind.effs
  | .rooms _ => [.rooms]
  | .pendingSpectatorRoleRequests _ => [.roles]
  | .sleep _ => [.clock]
  | .uuid4 => []
  | .playerToRoom _ _ => []
  | .transport _ _ => []
  | .wsToPlayer _ _ => []
  | .wsToPendingRequest _ _ => []
  | .pendingJoinRequests _ => []
  | .activeVoteKicks _ _ => []
  | .voteKickCooldowns _ _ => []
  | .snapshots _ _ => []
  | .oracle _ => []
  | .send _ => []

def Eff.sameRoom : Eff → Room → Room → Prop
  | .rooms, a, b => b.isProxy = a.isProxy
  | .members, a, b => b.players = a.players
  | .state, a, b => b.state = a.state
  | .schedule, a, b =>
    b.drawerIndex = a.drawerIndex ∧ b.currentRound = a.currentRound ∧ b.config = a.config
  | .turn, a, b => b.turn = a.turn
  | .pending, a, b => b.pendingWordChoices = a.pendingWordChoices
  | .autoSelect, a, b => b.autoSelectTask = a.autoSelectTask
  | .countdown, a, b => b.insufficientPlayersTask = a.insufficientPlayersTask
  | .roles, a, b => b.pendingSpectatorRoleRequests = a.pendingSpectatorRoleRequests
  | _, _, _ => True

def Eff.samePlayer : Eff → Player → Player → Prop
  | .connection, a, b => b.isConnected = a.isConnected ∧ b.websocket = a.websocket
  | .cleanup, a, b => b.cleanupTask = a.cleanupTask
  | .guessed, a, b => b.hasGuessed = a.hasGuessed
  | .spectator, a, b => b.isSpectator = a.isSpectator
  | .names, a, b => b.name = a.name
  | .ending, a, b =>
    b.score = a.score ∧ b.streak = a.streak ∧ b.maxStreak = a.maxStreak ∧
      b.correctGuessesCount = a.correctGuessesCount ∧ b.fastestGuessTime = a.fastestGuessTime ∧
      b.drawerPointsEarned = a.drawerPointsEarned
  | _, _, _ => True

def Eff.sameWorld : Eff → World → World → Prop
  | .rooms, w, w' => w'.rooms = w.rooms ∧ w'.nextRoom = w.nextRoom
  | .roles, w, w' => w'.pendingSpectatorRoleRequests = w.pendingSpectatorRoleRequests
  | .clock, w, w' => w'.now = w.now
  | _, _, _ => True

/-- The id has been made up already, or never will be. -/
def World.Known (w : World) : PlayerId → Prop
  | .uuid n => n < w.nextUuid
  | .other _ => True

/-- A part is the same in both states, for the rooms and players that exist in the first. -/
structure Eff.Same (x : Eff) (w w' : World) : Prop where
  room : ∀ r < w.nextRoom, x.sameRoom (w.room r) (w'.room r)
  player : ∀ r < w.nextRoom, ∀ p, w.Known p → x.samePlayer (w.player r p) (w'.player r p)
  task : ∀ t : TaskId, x ∈ t.kind.effs → w'.task t = w.task t
  world : x.sameWorld w w'

/-- The task sleeps, and nothing has cancelled it. -/
def World.Live (w : World) (t : TaskId) : Prop := (w.task t).status = .sleeping

instance (w : World) (t : TaskId) : Decidable (w.Live t) :=
  inferInstanceAs (Decidable (_ = _))

/-- What every change of a worker's state does: the counters grow, new tasks have new numbers, and
only a new task starts to sleep. -/
structure World.Extends (w w' : World) : Prop where
  nextRoom : w.nextRoom ≤ w'.nextRoom
  nextUuid : w.nextUuid ≤ w'.nextUuid
  nextTask : w.nextTask ≤ w'.nextTask
  nextTurn : w.nextTurn ≤ w'.nextTurn
  now : w.now ≤ w'.now
  task : ∀ t, t.serial < w.nextTask → w'.Live t →
    w.Live t ∧ (w'.task t).created = (w.task t).created ∧ (w'.task t).due = (w.task t).due
  fresh : (∀ t, w.nextTask ≤ t.serial → ¬w.Live t) → ∀ t, w'.nextTask ≤ t.serial → ¬w'.Live t

theorem World.Extends.refl (w : World) : w.Extends w :=
  ⟨le_rfl, le_rfl, le_rfl, le_rfl, le_rfl, fun _ _ h => ⟨h, rfl, rfl⟩, fun h => h⟩

theorem World.Extends.trans {w₁ w₂ w₃ : World} (h : w₁.Extends w₂) (h' : w₂.Extends w₃) :
    w₁.Extends w₃ where
  nextRoom := h.nextRoom.trans h'.nextRoom
  nextUuid := h.nextUuid.trans h'.nextUuid
  nextTask := h.nextTask.trans h'.nextTask
  nextTurn := h.nextTurn.trans h'.nextTurn
  now := h.now.trans h'.now
  task t ht hl := by
    obtain ⟨hl₂, hc, hd⟩ := h'.task t (ht.trans_le h.nextTask) hl
    obtain ⟨hl₁, hc', hd'⟩ := h.task t ht hl₂
    exact ⟨hl₁, hc.trans hc', hd.trans hd'⟩
  fresh hf := h'.fresh (h.fresh hf)

theorem World.Known.mono {w w' : World} {p : PlayerId} (h : w.nextUuid ≤ w'.nextUuid)
    (hp : w.Known p) : w'.Known p := by
  cases p with
  | uuid n => exact lt_of_lt_of_le hp h
  | other s => trivial

/-! ## What an assignment leaves alone -/

theorem RoomUpdate.same (u : RoomUpdate) {x : Eff} (hx : x ∉ u.effs) (room : Room) :
    x.sameRoom room (u.apply room) := by
  cases u <;> cases x <;>
    simp_all [RoomUpdate.effs, RoomUpdate.apply, Eff.sameRoom, Room.onTurn]

theorem PlayerUpdate.same (u : PlayerUpdate) {x : Eff} (hx : x ∉ u.effs) (player : Player) :
    x.samePlayer player (u.apply player) := by
  cases u <;> cases x <;> simp_all [PlayerUpdate.effs, PlayerUpdate.apply, Eff.samePlayer]

theorem Eff.sameRoom_refl (x : Eff) (room : Room) : x.sameRoom room room := by
  cases x <;> simp [Eff.sameRoom]

theorem Eff.samePlayer_refl (x : Eff) (player : Player) : x.samePlayer player player := by
  cases x <;> simp [Eff.samePlayer]

theorem Eff.Same.refl (x : Eff) (w : World) : x.Same w w where
  room _ _ := x.sameRoom_refl _
  player _ _ _ _ := x.samePlayer_refl _
  task _ _ := rfl
  world := by cases x <;> simp [Eff.sameWorld]

/-- **An assignment changes only the parts that it writes.** -/
theorem Update.same (u : Update) {x : Eff} (hx : x ∉ u.effs) (w : World) :
    x.Same w (u.apply w) := by
  have hrefl := Eff.Same.refl x w
  cases u with
  | room r u =>
    refine ⟨fun r' hr' => ?_, hrefl.player, hrefl.task, by cases x <;> simp [Eff.sameWorld, apply]⟩
    by_cases h : r' = r
    · subst h
      simpa [apply] using u.same hx (w.room r')
    · simpa [apply, Function.update_of_ne h] using x.sameRoom_refl _
  | player r p u =>
    refine ⟨hrefl.room, fun r' _ p' _ => ?_, hrefl.task, by cases x <;> simp [Eff.sameWorld, apply]⟩
    by_cases h : r' = r ∧ p' = p
    · obtain ⟨rfl, rfl⟩ := h
      simpa [apply] using u.same hx (w.player r' p')
    · simpa [apply, h] using x.samePlayer_refl _
  | newRoom y members =>
    refine ⟨fun r hr => ?_, fun r hr p _ => ?_, hrefl.task, ?_⟩
    · simpa [apply, Function.update_of_ne hr.ne] using x.sameRoom_refl _
    · simpa [apply, Function.update_of_ne hr.ne] using x.samePlayer_refl _
    · cases x <;> simp_all [Eff.sameWorld, apply, Update.effs]
  | newPlayer r make =>
    refine ⟨hrefl.room, fun r' _ p hp => ?_, hrefl.task, by cases x <;> simp [Eff.sameWorld, apply]⟩
    have h : ¬(r' = r ∧ p = .uuid w.nextUuid) := by
      rintro ⟨-, rfl⟩
      exact lt_irrefl _ hp
    simpa [apply, h] using x.samePlayer_refl _
  | newTurn r make =>
    refine ⟨fun r' hr' => ?_, hrefl.player, hrefl.task, by cases x <;> simp [Eff.sameWorld, apply]⟩
    by_cases h : r' = r
    · subst h
      cases x <;> simp_all [apply, Eff.sameRoom, Update.effs]
    · simpa [apply, Function.update_of_ne h] using x.sameRoom_refl _
  | createTask kind delay =>
    refine ⟨hrefl.room, hrefl.player, fun t ht => ?_, by cases x <;> simp [Eff.sameWorld, apply]⟩
    have h : t ≠ ⟨kind, w.nextTask⟩ := by
      rintro rfl
      exact hx ht
    simp [apply, Function.update_of_ne h]
  | cancel t =>
    refine ⟨hrefl.room, hrefl.player, fun t' ht' => ?_, by cases x <;> simp [Eff.sameWorld, apply]⟩
    have h : t' ≠ t := by
      rintro rfl
      exact hx ht'
    simp [apply, Function.update_of_ne h]
  | _ =>
    refine ⟨hrefl.room, hrefl.player, hrefl.task, ?_⟩
    cases x <;> simp_all [Eff.sameWorld, apply, Update.effs]

/-- A task that still sleeps was not cancelled. -/
theorem World.task_of_cancel (w : World) (t : TaskId) {t' : TaskId}
    (h : ((Update.cancel t).apply w).Live t') :
    ((Update.cancel t).apply w).task t' = w.task t' := by
  by_cases hne : t' = t
  · subst hne
    cases hs : (w.task t').status <;> simp_all [Update.apply, World.Live, Task.cancel]
  · simp [Update.apply, Function.update_of_ne hne]

/-- **An assignment extends the state.** -/
theorem Update.extends (u : Update) (w : World) : w.Extends (u.apply w) := by
  cases u with
  | createTask kind delay =>
    refine ⟨le_rfl, le_rfl, Nat.le_succ _, le_rfl, le_refl w.now, fun t ht hl => ?_,
      fun hf t ht => ?_⟩
    · have h : t ≠ ⟨kind, w.nextTask⟩ := by
        rintro rfl
        exact lt_irrefl _ ht
      simpa [apply, World.Live, Function.update_of_ne h] using hl
    · have h : t ≠ ⟨kind, w.nextTask⟩ := by
        rintro rfl
        exact Nat.not_succ_le_self _ ht
      simpa [apply, World.Live, Function.update_of_ne h] using hf t (Nat.le_of_succ_le ht)
  | cancel t =>
    have hl : ∀ u, ((Update.cancel t).apply w).Live u →
        ((Update.cancel t).apply w).task u = w.task u := fun _ => w.task_of_cancel t
    refine ⟨le_rfl, le_rfl, le_rfl, le_rfl, le_refl w.now, fun t' _ h => ?_, fun hf t' ht' h => ?_⟩
    · have ht := hl t' h
      rw [World.Live, ht] at h
      rw [ht]
      exact ⟨h, rfl, rfl⟩
    · rw [World.Live, hl t' h] at h
      exact hf t' ht' h
  | sleep d =>
    exact ⟨le_rfl, le_rfl, le_rfl, le_rfl, by simp [apply], fun _ _ h => ⟨h, rfl, rfl⟩, fun h => h⟩
  | _ =>
    exact ⟨by simp [apply], by simp [apply], le_rfl, by simp [apply], le_refl w.now,
      fun _ _ h => ⟨h, rfl, rfl⟩, fun h => h⟩

/-! ## Footprints -/

/-- The part that a suspension under a frame is about. -/
def Frame.eff : Frame → Eff
  | .turnEnded _ _ => .ending
  | .disconnecting _ _ => .disconnecting

/-- The part that a mark is about. -/
@[reducible] def Mark.eff : Mark → Eff
  | .ends _ _ => .ending
  | .credits _ _ => .ending
  | .advances _ _ => .ending
  | .timed _ => .timers
  | .connects _ _ _ => .connection
  | .disconnects _ _ => .connection
  | .removes _ _ => .members
  | .restores _ _ _ => .rooms
  | .opens _ => .rooms
  | .resets _ => .schedule
  | .begins _ _ _ _ _ => .schedule
  | .finishes _ _ => .state
  | .proxies _ => .members

/-- The footprint of a function that writes only the parts in `S`. -/
def fp (S : List Eff) : Footprint World Frame Mark where
  change w w' := w.Extends w' ∧ ∀ x ∉ S, x.Same w w'
  frame x := x.eff ∈ S
  mark e := e.eff ∈ S
  fails := .raises ∈ S

/-- `S` has the part `x`. -/
class Has (x : Eff) (S : List Eff) : Prop where
  out : x ∈ S

instance (x : Eff) (S : List Eff) : Has x (x :: S) := ⟨List.mem_cons_self⟩

instance (x y : Eff) (S : List Eff) [h : Has x S] : Has x (y :: S) :=
  ⟨List.mem_cons_of_mem _ h.out⟩

/-- `S` has the parts `l`. -/
class HasAll (l S : List Eff) : Prop where
  out : ∀ x ∈ l, x ∈ S

instance (S : List Eff) : HasAll [] S := ⟨nofun⟩

instance (x : Eff) (l S : List Eff) [h : Has x S] [h' : HasAll l S] : HasAll (x :: l) S :=
  ⟨fun y hy => by
    rcases List.mem_cons.mp hy with rfl | hy
    · exact h.out
    · exact h'.out y hy⟩

/-! ## Assignments as coroutines -/

/-- Read the state. -/
def read : M World := .get .pure

/-- An assignment. -/
def put (u : Update) : M Unit := .modify u.apply (.pure ())

/-- An exception. -/
def raise {α : Type} (e : String) : M α := .raise e

/-- Show a mark to the observer. -/
def mark (e : Mark) : M Unit := .mark e (.pure ())

/-- Wait for something outside the worker. -/
def suspend : M Unit := .await [] (.pure ())

variable {S : List Eff}

instance : Coro.Within (fp S) read := .get _ fun _ => .pure _

instance (u : Update) [h : HasAll u.effs S] : Coro.Within (fp S) (put u) :=
  .modify _ _ (fun w => ⟨u.extends w, fun _ hx => u.same (fun hu => hx (h.out _ hu)) w⟩) (.pure _)

instance {α : Type} (e : String) [h : Has .raises S] : Coro.Within (fp S) (raise e : M α) :=
  .raise e h.out

instance (e : Mark) [h : Has e.eff S] : Coro.Within (fp S) (mark e) := .mark _ _ h.out (.pure _)

instance : Coro.Within (fp S) suspend := .await _ _ nofun (.pure _)

def readRoom (r : RoomId) : M Room := do
  return (← read).room r

def readPlayer (r : RoomId) (p : PlayerId) : M Player := do
  return (← read).player r p

/-- `asyncio.create_task`; the result is the number of the task. -/
def createTask (kind : TaskKind) (delay : ℚ) : M Nat := do
  let w ← read
  put (.createTask kind delay)
  return w.nextTask

/-- `if task is not None and not task.done(): task.cancel()`. -/
def cancel (kind : TaskKind) (n : Option Nat) : M Unit :=
  n.elim (return ()) fun n => put (.cancel ⟨kind, n⟩)

/-- The task exists and is not done. -/
def World.pendingTask (w : World) (t : TaskId) : Prop := (w.task t).status ≠ .done

instance (w : World) (t : TaskId) : Decidable (w.pendingTask t) :=
  inferInstanceAs (Decidable (_ ≠ _))

/-- `str(uuid4())`. -/
def uuid4 : M Ident := do
  let w ← read
  put .uuid4
  return .uuid w.nextUuid

/-- `Player(id=str(uuid4()), …)`. -/
def newPlayer (r : RoomId) (make : PlayerId → Player) : M PlayerId := do
  let w ← read
  put (.newPlayer r make)
  return .uuid w.nextUuid

/-- `random.randrange(n)`. -/
def randrange (n : Nat) : M Nat := do
  let w ← read
  put (.oracle w.oracle.tail)
  return w.oracle.headD 0 % n

/-- `random.choice`. -/
def choice {α : Type} (l : List α) : M α := do
  let i ← randrange l.length
  l[i]?.elim (raise "IndexError") fun a => return a

/-- `random.sample(l, k)` for `k ≤ len(l)`. -/
def sample {α : Type} : List α → Nat → M (List α)
  | _, 0 => return []
  | [], _ + 1 => raise "ValueError"
  | a :: l, k + 1 => do
    let i ← randrange (l.length + 1)
    let rest ← sample ((a :: l).eraseIdx i) k
    return (a :: l).getD i a :: rest

instance (r : RoomId) : Coro.Within (fp S) (readRoom r) := by unfold readRoom; infer_instance

instance (r : RoomId) (p : PlayerId) : Coro.Within (fp S) (readPlayer r p) := by
  unfold readPlayer; infer_instance

instance (kind : TaskKind) (delay : ℚ) [HasAll kind.effs S] :
    Coro.Within (fp S) (createTask kind delay) := by unfold createTask; infer_instance

instance (kind : TaskKind) (n : Option Nat) [HasAll kind.effs S] :
    Coro.Within (fp S) (cancel kind n) := by unfold cancel; infer_instance

instance : Coro.Within (fp S) uuid4 := by unfold uuid4; infer_instance

instance (r : RoomId) (make : PlayerId → Player) [Has .players S] :
    Coro.Within (fp S) (newPlayer r make) := by unfold newPlayer; infer_instance

instance (n : Nat) : Coro.Within (fp S) (randrange n) := by unfold randrange; infer_instance

instance {α : Type} (l : List α) [Has .raises S] : Coro.Within (fp S) (choice l) := by
  unfold choice; infer_instance

instance {α : Type} (l : List α) (k : Nat) [Has .raises S] : Coro.Within (fp S) (sample l k) := by
  induction k generalizing l with
  | zero => unfold sample; infer_instance
  | succ k ih => cases l <;> unfold sample <;> infer_instance

/-! ## What a footprint keeps -/

theorem Eff.Same.trans {x : Eff} {w₁ w₂ w₃ : World} (hw : w₁.Extends w₂) (h : x.Same w₁ w₂)
    (h' : x.Same w₂ w₃) : x.Same w₁ w₃ where
  room r hr := by
    have h₁ := h.room r hr
    have h₂ := h'.room r (hr.trans_le hw.nextRoom)
    cases x <;> simp_all [Eff.sameRoom]
  player r hr p hp := by
    have h₁ := h.player r hr p hp
    have h₂ := h'.player r (hr.trans_le hw.nextRoom) p (hp.mono hw.nextUuid)
    cases x <;> simp_all [Eff.samePlayer]
  task t ht := (h'.task t ht).trans (h.task t ht)
  world := by
    have h₁ := h.world
    have h₂ := h'.world
    cases x <;> simp_all [Eff.sameWorld]

theorem fp_refl (S : List Eff) (w : World) : (fp S).change w w :=
  ⟨.refl w, fun x _ => .refl x w⟩

theorem fp_trans {S : List Eff} {w₁ w₂ w₃ : World} (h : (fp S).change w₁ w₂)
    (h' : (fp S).change w₂ w₃) : (fp S).change w₁ w₃ :=
  ⟨h.1.trans h'.1, fun x hx => (h.2 x hx).trans h.1 (h'.2 x hx)⟩

/-- An assignment within a footprint. -/
theorem fp_of_update {S : List Eff} (u : Update) (hu : ∀ x ∈ u.effs, x ∈ S) (w : World) :
    (fp S).change w (u.apply w) :=
  ⟨u.extends w, fun x hx => u.same (fun h => hx (hu x h)) w⟩

/-- A part that the footprint does not write is the same afterwards. -/
theorem same_of_fp {S : List Eff} {w w' : World} (h : (fp S).change w w') (x : Eff)
    (hx : x ∉ S := by decide) : x.Same w w' := h.2 x hx

/-! ## Their weakest preconditions -/

section Rules

variable {X : Setting World Frame Mark} {R : Multiset Frame}
  {v : View World Frame Mark}

@[simp] theorem wp_read (Q : World → View World Frame Mark → Prop) :
    read.wp X R Q v ↔ Q v.state v := Iff.rfl

@[simp] theorem wp_put (u : Update) (Q : Unit → View World Frame Mark → Prop) :
    (put u).wp X R Q v ↔ Q () (v.set (u.apply v.state)) := Iff.rfl

@[simp] theorem wp_raise {α : Type} (e : String) (Q : α → View World Frame Mark → Prop) :
    (raise e : M α).wp X R Q v ↔ X.inv v := Iff.rfl

@[simp] theorem wp_mark (e : Mark) (Q : Unit → View World Frame Mark → Prop) :
    (mark e).wp X R Q v ↔ (X.cond (.mark e) v → Q () (v.push e)) := Iff.rfl

@[simp] theorem wp_readRoom (r : RoomId) (Q : Room → View World Frame Mark → Prop) :
    (readRoom r).wp X R Q v ↔ Q (v.state.room r) v := Iff.rfl

@[simp] theorem wp_readPlayer (r : RoomId) (p : PlayerId)
    (Q : Player → View World Frame Mark → Prop) :
    (readPlayer r p).wp X R Q v ↔ Q (v.state.player r p) v := Iff.rfl

@[simp] theorem wp_createTask (kind : TaskKind) (delay : ℚ)
    (Q : Nat → View World Frame Mark → Prop) :
    (createTask kind delay).wp X R Q v ↔
      Q v.state.nextTask (v.set ((Update.createTask kind delay).apply v.state)) := Iff.rfl

@[simp] theorem wp_newPlayer (r : RoomId) (make : PlayerId → Player)
    (Q : PlayerId → View World Frame Mark → Prop) :
    (newPlayer r make).wp X R Q v ↔
      Q (.uuid v.state.nextUuid) (v.set ((Update.newPlayer r make).apply v.state)) := Iff.rfl

@[simp] theorem wp_cancel (kind : TaskKind) (n : Option Nat)
    (Q : Unit → View World Frame Mark → Prop) :
    (cancel kind n).wp X R Q v ↔
      Q () (v.set (n.elim v.state fun n => (Update.cancel ⟨kind, n⟩).apply v.state)) := by
  cases n <;> rfl

/-- **A call that is not suspended** changes what its footprint allows. -/
theorem wp_call {α : Type} {c : M α} (S : List Eff) (hc : Within (fp S) c)
    (hfails : Eff.raises ∉ S) (hsuspend : ∀ fs v, ¬X.cond (.suspend fs) v)
    {Q : α → View World Frame Mark → Prop}
    (hQ : ∀ a v', (fp S).change v.state v'.state → Q a v') : c.wp X R Q v := by
  refine wp_mono (wp_within (J := fun v' => (fp S).change v.state v'.state) hc ?_ ?_ ?_ ?_
    (fp_refl S v.state)) hQ
  · exact fun _ _ h' h => fp_trans h h'
  · exact fun _ _ _ _ h => h
  · exact fun v fs _ hs _ => absurd hs (hsuspend _ v)
  · exact fun h => absurd h hfails

/-- At the end of a call that is not suspended, its footprint may be assumed. -/
theorem wp_changing {α : Type} {c : M α} (S : List Eff) (hc : Within (fp S) c)
    (hsuspend : ∀ fs v, ¬X.cond (.suspend fs) v) {Q : α → View World Frame Mark → Prop}
    (h : c.wp X R (fun a v' => (fp S).change v.state v'.state → Q a v') v) :
    c.wp X R Q v := by
  refine wp_assuming (J := fun v' => (fp S).change v.state v'.state) hc ?_ ?_ ?_
    (fp_refl S v.state) h
  · exact fun _ _ h' h => fp_trans h h'
  · exact fun _ _ _ _ h => h
  · exact fun v' _ fs hs _ _ _ _ => absurd hs (hsuspend _ v')

end Rules

end Skribbl.Backend
