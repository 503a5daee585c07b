import Skribbl.Lib.Guarantee
import Skribbl.Backend.Worker

/-!
# Where rooms, members and requests are registered

* `Registry` — the rooms of a worker with their members, the indexes and the pending requests;
  `World.registry` — these parts of a worker's state.
* `Update.registers` — the parts that an assignment writes.
* `Tolerates` — a guarantee that other assignments and the two lookups keep.
* `Admits` — a guarantee that the operations which do write these parts keep.

Principal results: `Update.registry_same` — other assignments leave the registry alone; the
instances from which Lean infers that the functions of the worker keep such a guarantee.
-/

set_option autoImplicit false
set_option synthInstance.maxSize 100000

namespace Skribbl.Backend

open Coro

/-- The rooms, with their members, the indexes, and the pending requests. -/
structure Registry where
  rooms : List (String × RoomId)
  nextRoom : Nat
  nextUuid : Nat
  code : RoomId → String
  isProxy : RoomId → Bool
  players : RoomId → List PlayerId
  playersById : RoomId → List PlayerId
  playerToRoom : PlayerId → Option String
  joins : List (RequestId × PendingJoinRequest)
  roomJoins : RoomId → List (RequestId × PendingJoinRequest)
  wsJoins : WsId → Option RequestId
  roles : List (RequestId × PendingSpectatorRoleRequest)
  roomRoles : RoomId → List (RequestId × PendingSpectatorRoleRequest)

/-- The id has been made up by `uuid4`. -/
def Registry.Known (g : Registry) (p : Ident) : Prop := ∃ n < g.nextUuid, p = .uuid n

theorem Registry.Known.mono {g g' : Registry} {p : Ident} (hp : g.Known p)
    (h : g.nextUuid ≤ g'.nextUuid) : g'.Known p := by
  obtain ⟨n, hn, rfl⟩ := hp
  exact ⟨n, hn.trans_le h, rfl⟩

/-- A new id has not been made up yet. -/
theorem Registry.not_known (g : Registry) : ¬g.Known (.uuid g.nextUuid) := by
  rintro ⟨n, hn, heq⟩
  cases heq
  exact lt_irrefl _ hn

/-- The registry of a worker. -/
def World.registry (w : World) : Registry where
  rooms := w.rooms
  nextRoom := w.nextRoom
  nextUuid := w.nextUuid
  code r := (w.room r).code
  isProxy r := (w.room r).isProxy
  players r := (w.room r).players
  playersById r := (w.room r).playersById
  playerToRoom := w.playerToRoom
  joins := w.pendingJoinRequests
  roomJoins r := (w.room r).pendingJoinRequests
  wsJoins := w.wsToPendingRequest
  roles := w.pendingSpectatorRoleRequests
  roomRoles r := (w.room r).pendingSpectatorRoleRequests

theorem mem_rooms_of_roomOf {w : World} {code : String} {r : RoomId}
    (h : w.roomOf code = some r) : (code, r) ∈ w.rooms := by
  obtain ⟨x, hx, rfl⟩ := Option.map_eq_some_iff.mp h
  have hcode : x.1 = code := by simpa using List.find?_some hx
  exact hcode ▸ List.mem_of_find?_eq_some hx

theorem notMem_of_roomOf {w : World} {code : String} (h : w.roomOf code = none) :
    code ∉ w.registry.rooms.map (·.1) := by
  intro hmem
  obtain ⟨x, hx, rfl⟩ := List.mem_map.mp hmem
  have hnone := List.find?_eq_none.mp (Option.map_eq_none_iff.mp h) x hx
  simp at hnone

/-- The parts of a registry. -/
inductive Register where
  | rooms
  | index
  | joins
  | roles

@[reducible] def RoomUpdate.registers : RoomUpdate → List Register
  | .addPlayer _ => [.index]
  | .removePlayer _ => [.index]
  | .playersById _ => [.index]
  | .pendingJoinRequests _ => [.joins]
  | .pendingSpectatorRoleRequests _ => [.roles]
  | .hostId _ => []
  | .config _ => []
  | .state _ => []
  | .currentRound _ => []
  | .drawerIndex _ => []
  | .clearTurn => []
  | .guessOrder _ => []
  | .hint _ _ => []
  | .turnTasks _ _ _ _ => []
  | .selectWord _ => []
  | .forgetWords => []
  | .wordPool _ => []
  | .pendingWordChoices _ => []
  | .autoSelectTask _ => []
  | .insufficientPlayersTask _ => []

/-- The timeout of a spectator-role request belongs to the request. -/
@[reducible] def TaskKind.registers : TaskKind → List Register
  | .roleTimeout _ _ _ => [.roles]
  | .autoSelect _ _ => []
  | .revealHint _ _ => []
  | .turnTimer _ _ => []
  | .cleanup _ => []
  | .endAfterWait _ => []
  | .reassignHost _ _ => []
  | .joinTimeout _ => []
  | .voteTimeout _ _ => []
  | .closeSocket _ => []

/-- The parts of the registry that an assignment writes. -/
@[reducible] def Update.registers : Update → List Register
  | .room _ u => u.registers
  | .newRoom _ _ => [.rooms]
  | .newPlayer _ _ => [.index]
  | .rooms _ => [.rooms]
  | .uuid4 => [.joins, .roles]
  | .playerToRoom _ _ => [.index]
  | .wsToPendingRequest _ _ => [.joins]
  | .pendingJoinRequests _ => [.joins]
  | .pendingSpectatorRoleRequests _ => [.roles]
  | .player _ _ _ => []
  | .newTurn _ _ => []
  | .createTask kind _ => kind.registers
  | .cancel _ => []
  | .transport _ _ => []
  | .wsToPlayer _ _ => []
  | .activeVoteKicks _ _ => []
  | .voteKickCooldowns _ _ => []
  | .snapshots _ _ => []
  | .oracle _ => []
  | .send _ => []
  | .sleep _ => []

/-- A room with the same members and requests. -/
theorem registry_room (w : World) (r : RoomId) (x : Room) (hcode : x.code = (w.room r).code)
    (hproxy : x.isProxy = (w.room r).isProxy) (hplayers : x.players = (w.room r).players)
    (hindex : x.playersById = (w.room r).playersById)
    (hjoins : x.pendingJoinRequests = (w.room r).pendingJoinRequests)
    (hroles : x.pendingSpectatorRoleRequests = (w.room r).pendingSpectatorRoleRequests) :
    World.registry { w with room := Function.update w.room r x } = w.registry := by
  have hsame : ∀ {α : Type} (f : Room → α), f x = f (w.room r) →
      (fun r' => f (Function.update w.room r x r')) = fun r' => f (w.room r') := by
    intro α f hf
    funext r'
    by_cases hr : r' = r
    · subst hr
      simpa using hf
    · simp [Function.update_of_ne hr]
  simp only [World.registry, hsame (·.code) hcode, hsame (·.isProxy) hproxy,
    hsame (·.players) hplayers, hsame (·.playersById) hindex,
    hsame (·.pendingJoinRequests) hjoins, hsame (·.pendingSpectatorRoleRequests) hroles]

/-- **Other assignments** leave the registry alone. -/
theorem Update.registry_same (u : Update) (hu : u.registers = []) (w : World) :
    (u.apply w).registry = w.registry := by
  cases u with
  | room r u =>
    have hu : u.registers = [] := hu
    cases u <;> first
      | exact registry_room w r _ rfl rfl rfl rfl rfl rfl
      | cases hu
  | newTurn r make => exact registry_room w r _ rfl rfl rfl rfl rfl rfl
  | _ =>
    first
      | rfl
      | cases hu

/-! ### The assignments that write it -/

theorem update_room {α : Type} (f : Room → α) (room : RoomId → Room) (r : RoomId) (x : Room) :
    (fun r' => f (Function.update room r x r')) =
      Function.update (fun r' => f (room r')) r (f x) := by
  funext r'
  by_cases hr : r' = r
  · subst hr
    simp
  · simp [Function.update_of_ne hr]

section Writes

variable (w : World) (r : RoomId) (p : PlayerId)

theorem registry_addPlayer : ((Update.room r (.addPlayer p)).apply w).registry =
    { w.registry with
      players := Function.update w.registry.players r ((w.room r).players ++ [p])
      playersById := Function.update w.registry.playersById r
        ((w.room r).playersById.filter (· ≠ p) ++ [p]) } := by
  simp [World.registry, Update.apply, RoomUpdate.apply, update_room]

theorem registry_removePlayer : ((Update.room r (.removePlayer p)).apply w).registry =
    { w.registry with
      players := Function.update w.registry.players r ((w.room r).players.filter (· ≠ p))
      playersById := Function.update w.registry.playersById r
        ((w.room r).playersById.filter (· ≠ p)) } := by
  simp [World.registry, Update.apply, RoomUpdate.apply, update_room]

theorem registry_newRoom (x : Room) (members : PlayerId → Player) :
    ((Update.newRoom x members).apply w).registry =
    { w.registry with
      nextRoom := w.nextRoom + 1
      code := Function.update w.registry.code w.nextRoom x.code
      isProxy := Function.update w.registry.isProxy w.nextRoom x.isProxy
      players := Function.update w.registry.players w.nextRoom x.players
      playersById := Function.update w.registry.playersById w.nextRoom x.playersById
      roomJoins := Function.update w.registry.roomJoins w.nextRoom x.pendingJoinRequests
      roomRoles := Function.update w.registry.roomRoles w.nextRoom
        x.pendingSpectatorRoleRequests } := by
  simp only [World.registry, Update.apply, update_room]

theorem registry_roomJoins (l : List (RequestId × PendingJoinRequest)) :
    ((Update.room r (.pendingJoinRequests l)).apply w).registry =
    { w.registry with roomJoins := Function.update w.registry.roomJoins r l } := by
  simp [World.registry, Update.apply, RoomUpdate.apply, update_room]

theorem registry_roomRoles (l : List (RequestId × PendingSpectatorRoleRequest)) :
    ((Update.room r (.pendingSpectatorRoleRequests l)).apply w).registry =
    { w.registry with roomRoles := Function.update w.registry.roomRoles r l } := by
  simp [World.registry, Update.apply, RoomUpdate.apply, update_room]

end Writes

/-! ## What the functions of a worker guarantee -/

/-- Nothing is written. -/
class Untouched (l : List Register) : Prop where
  out : l = []

instance : Untouched [] := ⟨rfl⟩

/-- Assignments outside the registry keep the guarantee, and so do the lookups. -/
class Tolerates (Γ : Guarantee World Mark) : Prop where
  put : ∀ u : Update, u.registers = [] → Guarded Γ (put u)
  getPlayer : ∀ r p, Guarded Γ (getPlayer r p)
  findRoomByPlayer : ∀ p, Guarded Γ (findRoomByPlayer p)

attribute [instance] Tolerates.getPlayer Tolerates.findRoomByPlayer

section Tolerance

variable {Γ : Guarantee World Mark} {w₀ w : World} {r : RoomId} {p : PlayerId}

@[simp] theorem guards_read {Q : World → World → World → Prop} :
    (read : M World).Guards Γ Q w₀ w ↔ Q w w₀ w := Iff.rfl

@[simp] theorem guards_put {Q : Unit → World → World → Prop} (u : Update) :
    (put u).Guards Γ Q w₀ w ↔ Γ.change w (u.apply w) ∧ Q () w₀ (u.apply w) := Iff.rfl

@[simp] theorem guards_mark {Q : Unit → World → World → Prop} (e : Mark) :
    (mark e).Guards Γ Q w₀ w ↔ (Γ.ok e w → Q () w₀ w) := Iff.rfl

@[simp] theorem guards_pure {α : Type} {Q : α → World → World → Prop} (a : α) :
    (Pure.pure a : M α).Guards Γ Q w₀ w ↔ Q a w₀ w := Iff.rfl

@[simp] theorem guards_readRoom {Q : Room → World → World → Prop} :
    (readRoom r).Guards Γ Q w₀ w ↔ Q (w.room r) w₀ w := Iff.rfl

@[simp] theorem guards_readPlayer {Q : Player → World → World → Prop} :
    (readPlayer r p).Guards Γ Q w₀ w ↔ Q (w.player r p) w₀ w := Iff.rfl

@[simp] theorem guards_newPlayer {Q : PlayerId → World → World → Prop} (make : PlayerId → Player) :
    (newPlayer r make).Guards Γ Q w₀ w ↔ Γ.change w ((Update.newPlayer r make).apply w) ∧
      Q (.uuid w.nextUuid) w₀ ((Update.newPlayer r make).apply w) := Iff.rfl

instance : Guarded Γ read := ⟨fun h => h⟩

instance {α : Type} (e : String) : Guarded Γ (raise e : M α) := ⟨fun h => h⟩

instance (e : Mark) : Guarded Γ (mark e) := ⟨fun h _ => h⟩

instance : Guarded Γ suspend := ⟨fun h => ⟨h, fun w' h' _ => ⟨h', Γ.refl w'⟩⟩⟩

variable [Tolerates Γ]

/-! ### Primitives -/

instance (u : Update) [h : Untouched u.registers] : Guarded Γ (put u) :=
  Tolerates.put u h.out

instance (r : RoomId) : Guarded Γ (readRoom r) := by unfold readRoom; infer_instance

instance (r : RoomId) (p : PlayerId) : Guarded Γ (readPlayer r p) := by
  unfold readPlayer; infer_instance

instance (kind : TaskKind) (delay : ℚ) [Untouched kind.registers] :
    Guarded Γ (createTask kind delay) := by unfold createTask; infer_instance

instance (kind : TaskKind) (n : Option Nat) : Guarded Γ (cancel kind n) := by
  unfold cancel; infer_instance

instance (n : Nat) : Guarded Γ (randrange n) := by unfold randrange; infer_instance

instance {α : Type} (l : List α) : Guarded Γ (choice l) := by unfold choice; infer_instance

instance {α : Type} (l : List α) (k : Nat) : Guarded Γ (sample l k) := by
  induction k generalizing l with
  | zero => unfold sample; infer_instance
  | succ k ih => cases l <;> unfold sample <;> infer_instance

/-! ### Lookups and broadcasts -/

instance : Guarded Γ redisCall := by unfold redisCall; infer_instance

instance (ws : WsId) (m : Message) (lossy : Bool) : Guarded Γ (sendText ws m lossy) := by
  unfold sendText; infer_instance

instance (r : RoomId) (p : PlayerId) (m : Message) (lossy : Bool) :
    Guarded Γ (sendToPlayer r p m lossy) := by unfold sendToPlayer; infer_instance

instance (code : String) (m : Message) : Guarded Γ (broadcast code m) := by
  unfold broadcast; infer_instance

instance (r : RoomId) : Guarded Γ (broadcastPlayerList r) := by
  unfold broadcastPlayerList; infer_instance

instance (r : RoomId) : Guarded Γ (endGameInsufficientPlayers r) := by
  unfold endGameInsufficientPlayers; infer_instance

instance (r : RoomId) (turn : TurnState) : Guarded Γ (cancelTurnTasks r turn) := by
  unfold cancelTurnTasks; infer_instance

instance (r : RoomId) : Guarded Γ (cancelAutoSelect r) := by unfold cancelAutoSelect; infer_instance

instance (r : RoomId) : Guarded Γ (cancelCountdown r) := by unfold cancelCountdown; infer_instance

instance (r : RoomId) : Guarded Γ (endGameInsufficientPlayersImmediate r) := by
  unfold endGameInsufficientPlayersImmediate; infer_instance

instance (r : RoomId) : Guarded Γ (endAfterWait r) := by unfold endAfterWait; infer_instance

/-! ### Turns and rounds -/

instance (hint : List Char) (word : String) : Guarded Γ (revealHintChar hint word) := by
  unfold revealHintChar; dsimp only; infer_instance

instance (r : RoomId) (theme : Theme) (words : List String) :
    Guarded Γ (drawFromPack r theme words) := by unfold drawFromPack; dsimp only; infer_instance

instance (r : RoomId) (packs : List Pack) : Guarded Γ (drawFromPacks r packs) := by
  induction packs with
  | nil => unfold drawFromPacks; infer_instance
  | cons pack packs ih => unfold drawFromPacks; infer_instance

instance (r : RoomId) : Guarded Γ (drawCustomPack r) := by unfold drawCustomPack; infer_instance

instance (env : Env) (r : RoomId) : Guarded Γ (drawWordPackChoices env r) := by
  unfold drawWordPackChoices; infer_instance

instance (env : Env) (r : RoomId) : Guarded Γ (startTurn env r) := by
  unfold startTurn; infer_instance

instance (env : Env) (r : RoomId) (drawerId : PlayerId) (word : String) :
    Guarded Γ (beginTurn env r drawerId word) := by unfold beginTurn; infer_instance

instance (r : RoomId) (turnId : Nat) (duration : ℚ) :
    Guarded Γ (createTurnTasks r turnId duration) := by unfold createTurnTasks; infer_instance

instance (r : RoomId) (room : Room) (turn : TurnState) : Guarded Γ (announceTurn r room turn) := by
  unfold announceTurn; infer_instance

instance (env : Env) (r : RoomId) (playerId : PlayerId) (word : String) :
    Guarded Γ (handleWordSelection env r playerId word) := by
  unfold handleWordSelection; infer_instance

instance (env : Env) (r : RoomId) (drawerId : PlayerId) :
    Guarded Γ (autoSelect env r drawerId) := by unfold autoSelect; infer_instance

instance (r : RoomId) (turnId : Nat) : Guarded Γ (revealHint r turnId) := by
  unfold revealHint; infer_instance

instance (r : RoomId) (turn : TurnState) (duration : ℚ) (position : Nat) (ps : List PlayerId) :
    Guarded Γ (scoreGuessers r turn duration position ps) := by
  induction ps generalizing position with
  | nil => unfold scoreGuessers; infer_instance
  | cons p ps ih => unfold scoreGuessers; dsimp only; infer_instance

instance (r : RoomId) (turn : TurnState) (duration : ℚ) :
    Guarded Γ (scoreTurn r turn duration) := by unfold scoreTurn; dsimp only; infer_instance

instance (r : RoomId) : Guarded Γ (buildGameOverPayload r) := by
  unfold buildGameOverPayload; dsimp only; infer_instance

instance (r : RoomId) : Guarded Γ (gameOver r) := by unfold gameOver; infer_instance

instance (r : RoomId) : Guarded Γ (nextDrawer r) := by unfold nextDrawer; infer_instance

instance (env : Env) (r : RoomId) (attempts : Nat) : Guarded Γ (skipPlayers env r attempts) := by
  induction attempts with
  | zero => unfold skipPlayers; infer_instance
  | succ attempts ih => unfold skipPlayers; infer_instance

instance (env : Env) (r : RoomId) : Guarded Γ (advanceTurnOrRound env r) := by
  unfold advanceTurnOrRound; infer_instance

instance (r : RoomId) (turn : TurnState) (duration : ℚ) (reason : TurnEndReason) :
    Guarded Γ (turnScores r turn duration reason) := by unfold turnScores; infer_instance

instance (env : Env) (r : RoomId) (code : String) (duration : ℚ) (turn : TurnState)
    (reason : TurnEndReason) :
    Guarded Γ (finishTurn env r code duration turn reason) := by unfold finishTurn; infer_instance

instance (env : Env) (r : RoomId) (reason : TurnEndReason) : Guarded Γ (endTurn env r reason) := by
  unfold endTurn; infer_instance

instance (env : Env) (r : RoomId) (turnId : Nat) : Guarded Γ (turnTimer env r turnId) := by
  unfold turnTimer; infer_instance

instance (code playerName text : String) (isSystem : Bool) :
    Guarded Γ (broadcastChat code playerName text isSystem) := by
  unfold broadcastChat; infer_instance

instance (env : Env) (r : RoomId) : Guarded Γ (endTurnIfAllGuessed env r) := by
  unfold endTurnIfAllGuessed; infer_instance

instance (env : Env) (r : RoomId) (p : PlayerId) : Guarded Γ (correctGuess env r p) := by
  unfold correctGuess; infer_instance

instance (env : Env) (r : RoomId) (p : PlayerId) (text word : String) :
    Guarded Γ (incorrectGuess env r p text word) := by
  unfold incorrectGuess; dsimp only; infer_instance

instance (env : Env) (r : RoomId) (p : PlayerId) (text : String) :
    Guarded Γ (handleGuess env r p text) := by unfold handleGuess; infer_instance

instance (env : Env) (r : RoomId) (p : PlayerId) (text : String) :
    Guarded Γ (handleChat env r p text) := by unfold handleChat; dsimp only; infer_instance

/-! ### Members -/

instance (x : PendingSpectatorRoleRequest) : Guarded Γ (cancelRoleTimeout x) := by
  unfold cancelRoleTimeout; infer_instance

instance (code : String) (requestId : RequestId) (status : String) (playerName : Option String) :
    Guarded Γ (broadcastResolved code requestId status playerName) := by
  unfold broadcastResolved; infer_instance

instance (r : RoomId) (l : List PlayerId) : Guarded Γ (changeHost r l) := by
  unfold changeHost; infer_instance

/-! ### Vote-kicks -/

instance (env : Env) (r : RoomId) (wasDrawer : Bool) :
    Guarded Γ (afterVoteKick env r wasDrawer) := by unfold afterVoteKick; infer_instance

instance (code : String) (vote : VoteKickState) : Guarded Γ (closeVote code vote) := by
  unfold closeVote; infer_instance

instance (code : String) (p : PlayerId) : Guarded Γ (handleVoteKickTimeout code p) := by
  unfold handleVoteKickTimeout; infer_instance

/-! ### Connections -/

instance (r : RoomId) (p : PlayerId) : Guarded Γ (markDisconnected r p) := by
  unfold markDisconnected; infer_instance

instance (r : RoomId) (p : PlayerId) : Guarded Γ (scheduleCleanup r p) := by
  unfold scheduleCleanup; infer_instance

instance (r : RoomId) (size : Room → Nat) (n : Nat) : Guarded Γ (checkSize r size n) := by
  unfold checkSize; infer_instance

instance (r : RoomId) (p : PlayerId) (m : Message) : Guarded Γ (sendToHost r p m) := by
  unfold sendToHost; infer_instance

instance (r : RoomId) (p : PlayerId) : Guarded Γ (forwardRequests r p) := by
  unfold forwardRequests; infer_instance

instance (r : RoomId) (p : PlayerId) (ws : WsId) : Guarded Γ (closeOldSocket r p ws) := by
  unfold closeOldSocket; infer_instance

instance (r : RoomId) (p : PlayerId) : Guarded Γ (cancelCleanup r p) := by
  unfold cancelCleanup; infer_instance

instance (r : RoomId) (p : PlayerId) : Guarded Γ (cancelHostReassign r p) := by
  unfold cancelHostReassign; infer_instance

instance (r : RoomId) (p : PlayerId) (ws : WsId) (avatar : Option String) :
    Guarded Γ (restoreConnection r p ws avatar) := by unfold restoreConnection; infer_instance

instance (env : Env) (r : RoomId) (p : PlayerId) : Guarded Γ (gameOnDisconnect env r p) := by
  unfold gameOnDisconnect; infer_instance

/-! ### The lobby -/

instance (env : Env) (p : PlayerId) (settings : List (String × Value)) :
    Guarded Γ (updateSettings env p settings) := by
  unfold updateSettings; dsimp only; infer_instance

instance (r : RoomId) (p : PlayerId) : Guarded Γ (resetPlayer r p) := by
  unfold resetPlayer; infer_instance

instance (p : PlayerId) : Guarded Γ (handleRematch p) := by
  unfold handleRematch; dsimp only; infer_instance

instance (p : PlayerId) : Guarded Γ (startGame p) := by unfold startGame; dsimp only; infer_instance

instance (env : Env) (p : PlayerId) (ws : WsId) : Guarded Γ (startGameAndTurn env p ws) := by
  unfold startGameAndTurn; infer_instance

instance (p : PlayerId) (ws : WsId) : Guarded Γ (endGameNow p ws) := by
  unfold endGameNow; infer_instance

instance (p q : PlayerId) : Guarded Γ (transferHost p q) := by
  unfold transferHost; dsimp only; infer_instance

instance (p : PlayerId) : Guarded Γ (toggleReady p) := by unfold toggleReady; infer_instance

instance (env : Env) (p : PlayerId) (name avatar : Option String) :
    Guarded Γ (updateProfile env p name avatar) := by unfold updateProfile; infer_instance

instance (r : RoomId) (p : PlayerId) (requestId : RequestId) :
    Guarded Γ (promoteSpectator r p requestId) := by unfold promoteSpectator; infer_instance

/-! ### Calls -/

instance (ws : WsId) (m : Message) : Guarded Γ (rebindTransport ws m) := by
  unfold rebindTransport; dsimp only; infer_instance

instance (ws : WsId) (c : M Message) [Guarded Γ c] : Guarded Γ (answerIdentity ws c) := by
  unfold answerIdentity; infer_instance

instance (ws : WsId) (c : M Message) [Guarded Γ c] : Guarded Γ (answer ws c) := by
  unfold answer; infer_instance

instance (ws : WsId) (c : M Message) [Guarded Γ c] : Guarded Γ (answerError ws c) := by
  unfold answerError; infer_instance

instance (p : PlayerId) (ok : World → RoomId → Bool) (m : World → RoomId → Message) :
    Guarded Γ (relay p ok m) := by unfold relay; infer_instance

instance (env : Env) (p : PlayerId) (text : String) : Guarded Γ (chat env p text) := by
  unfold chat; infer_instance

end Tolerance

/-! ## Where no room is restored -/

section Unrestored

variable {Γ : Guarantee World Mark} {w₀ w : World} {code : String}

theorem guarded_restoreRoom (hok : ∀ state i ids w, ¬Γ.ok (.restores state i ids) w)
    (x : RoomSnapshot) : Guarded Γ (restoreRoom x) where
  out _ := by
    unfold restoreRoom
    dsimp only
    rw [guards_bind, guards_read, guards_bind, guards_mark]
    exact fun h => absurd h (hok _ _ _ _)

/-- No snapshot is adopted. -/
theorem guards_adoptSnapshot (hok : ∀ state i ids w, ¬Γ.ok (.restores state i ids) w)
    (h : Γ.Holds w₀ w) :
    (adoptSnapshot code).Guards Γ (fun o w₀ w => Γ.Holds w₀ w ∧ o = none) w₀ w := by
  unfold adoptSnapshot
  rw [guards_bind, guards_read, guards_ite]
  refine ⟨fun _ => ⟨h, rfl⟩, fun _ => guards_bind.mpr ?_⟩
  refine (Guarded.out h : Guards Γ redisCall _ _ _).mono fun _ w₁ w' h' => ?_
  rw [guards_bind, guards_read, guards_elim]
  refine ⟨fun _ => ⟨h', rfl⟩, fun x _ => ?_⟩
  unfold restoreRoom
  dsimp only
  rw [guards_bind, guards_bind, guards_read, guards_bind, guards_mark]
  exact fun h => absurd h (hok _ _ _ _)

/-- To join a room is to join a room of this worker. -/
theorem guarded_joinRoom (hok : ∀ state i ids w, ¬Γ.ok (.restores state i ids) w) {env : Env}
    {name : String} {ws : WsId} {avatar : Option String} {asSpectator : Bool}
    {password : Option String} {remote : Option Message}
    (hlocal : ∀ {w₀ w : World} {r : RoomId}, Γ.Holds w₀ w → w.roomOf code = some r →
      (joinRoomLocal env r code name ws avatar asSpectator password).Guards Γ
        (fun _ => Γ.Holds) w₀ w) :
    Guarded Γ (joinRoom env name code ws avatar asSpectator password remote) where
  out {w₀ w} h := by
    unfold joinRoom
    rw [guards_elim]
    refine ⟨fun _ => ?_, fun _ _ => h⟩
    rw [guards_bind, guards_read, guards_elim]
    refine ⟨fun _ => guards_bind.mpr ?_, fun r hr => ?_⟩
    · refine (Guarded.out h : Guards Γ redisCall _ _ _).mono fun _ w₁ w' h' => ?_
      rw [guards_elim]
      refine ⟨fun _ => guards_bind.mpr ?_, fun _ _ => h'⟩
      refine (guards_adoptSnapshot hok h').mono fun o w₁ w' ⟨h', ho⟩ => ?_
      rw [ho]
      exact h'
    · exact hlocal h (Option.filter_eq_some_iff.mp hr).1

end Unrestored

/-! ## Operations on the registry -/

/-- The operations that write the registry keep the guarantee. -/
class Admits (Γ : Guarantee World Mark) : Prop extends Tolerates Γ where
  deleteRoom : ∀ code, Guarded Γ (deleteRoom code)
  createRoom : ∀ env draws name ws avatar password maxPlayers,
    Guarded Γ (createRoom env draws name ws avatar password maxPlayers)
  restoreRoom : ∀ x, Guarded Γ (restoreRoom x)
  joinRoom : ∀ env name code ws avatar asSpectator password remote,
    Guarded Γ (joinRoom env name code ws avatar asSpectator password remote)
  removePlayer : ∀ p, Guarded Γ (removePlayer p)
  leaveRoom : ∀ p, Guarded Γ (leaveRoom p)
  kickPlayer : ∀ p q, Guarded Γ (kickPlayer p q)
  permanentlyRemovePlayer : ∀ p, Guarded Γ (permanentlyRemovePlayer p)
  startVoteKick : ∀ env p q, Guarded Γ (startVoteKick env p q)
  kickTarget : ∀ env r p, Guarded Γ (kickTarget env r p)
  handleJoinRequestTimeout : ∀ requestId, Guarded Γ (handleJoinRequestTimeout requestId)
  cancelPendingJoinRequest : ∀ x, Guarded Γ (cancelPendingJoinRequest x)
  cancelPendingJoinRequestOf : ∀ ws, Guarded Γ (cancelPendingJoinRequestOf ws)
  respondJoinRequest : ∀ p requestId action, Guarded Γ (respondJoinRequest p requestId action)
  requestBecomePlayer : ∀ p, Guarded Γ (requestBecomePlayer p)
  respondSpectatorRoleRequest : ∀ p requestId action,
    Guarded Γ (respondSpectatorRoleRequest p requestId action)
  cancelSpectatorRoleRequest : ∀ p requestId, Guarded Γ (cancelSpectatorRoleRequest p requestId)

attribute [instance] Admits.deleteRoom Admits.createRoom Admits.restoreRoom Admits.joinRoom
  Admits.removePlayer Admits.leaveRoom Admits.kickPlayer Admits.permanentlyRemovePlayer
  Admits.startVoteKick Admits.kickTarget Admits.handleJoinRequestTimeout
  Admits.cancelPendingJoinRequest Admits.cancelPendingJoinRequestOf Admits.respondJoinRequest
  Admits.requestBecomePlayer Admits.respondSpectatorRoleRequest
  Admits.cancelSpectatorRoleRequest

section Operations

variable {Γ : Guarantee World Mark} [Admits Γ] (env : Env)

instance (code : String) : Guarded Γ (adoptSnapshot code) := by
  unfold adoptSnapshot; infer_instance

instance (p : PlayerId) (yes : Bool) : Guarded Γ (castVoteKick env p yes) := by
  unfold castVoteKick; dsimp only; infer_instance

instance (r : RoomId) (p : PlayerId) : Guarded Γ (voteKickOnDisconnect env r p) := by
  unfold voteKickOnDisconnect; dsimp only; infer_instance

instance (r : RoomId) (p : PlayerId) : Guarded Γ (hostOnDisconnect r p) := by
  unfold hostOnDisconnect; infer_instance

instance (code : String) (p : PlayerId) : Guarded Γ (reassignHostIfDisconnected code p) := by
  unfold reassignHostIfDisconnected; infer_instance

instance (name code : String) (ws : WsId) (avatar : Option String) :
    Guarded Γ (handleReconnect name code ws avatar) := by
  unfold handleReconnect; dsimp only; infer_instance

instance (p : PlayerId) : Guarded Γ (handleDisconnect env p) := by
  unfold handleDisconnect; infer_instance

instance (ws : WsId) (p : Option PlayerId) : Guarded Γ (websocketClosed env ws p) := by
  unfold websocketClosed; dsimp only; infer_instance

instance (p : PlayerId) : Guarded Γ (clientDisconnected env p) := by
  unfold clientDisconnected; infer_instance

instance (l : List PlayerId) : Guarded Γ (cleanupStream env l) := by
  unfold cleanupStream; infer_instance

instance (o : Op) : Guarded Γ (o.call env) := by
  cases o <;> unfold Op.call <;> dsimp only <;> infer_instance

theorem guarded_taskBody (t : TaskId)
    (h : ∀ i r p, t.kind = .roleTimeout i r p → Guarded Γ (expireRoleRequest i r p)) :
    Guarded Γ (taskBody env t) := by
  obtain ⟨kind, n⟩ := t
  cases kind with
  | roleTimeout i r p => exact h i r p rfl
  | _ => unfold taskBody; dsimp only; infer_instance

instance [h : ∀ i r p, Guarded Γ (expireRoleRequest i r p)] (t : TaskId) :
    Guarded Γ (taskBody env t) := guarded_taskBody env t fun i r p _ => h i r p

end Operations

end Skribbl.Backend
