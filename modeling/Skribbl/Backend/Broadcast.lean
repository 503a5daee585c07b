import Skribbl.Backend.Store

/-!
# Lookups and broadcasts (`backend/room_manager.py`, `backend/virtual_transport.py`)

* `World.roomOf`, `findRoomByPlayer`, `getPlayer` — `rooms.get`, `_find_room_by_player`,
  `Room.get_player`.
* `World.connected`, `World.activePlayers`, `World.connectedActive`, … — the lists and counts that
  the functions of the worker compute again and again.
* `playerInfo`, `serializeConfig` — `_serialize_player`, `_serialize_config`.
* `sendText`, `broadcast` — a targeted send and `RoomManager.broadcast`.
* `endGameInsufficientPlayers`, `endGameInsufficientPlayersImmediate` — the countdown.

A send on a WebSocket may suspend the sender; a `VirtualTransport` only puts the message into the
queue of its stream.  Redis calls may suspend.
-/

set_option autoImplicit false
set_option synthInstance.maxSize 1000

namespace Skribbl.Backend

variable {S : List Eff}

/-! ## Lookups -/

/-- `self.rooms.get`. -/
def World.roomOf (w : World) (code : String) : Option RoomId :=
  (w.rooms.find? (·.1 = code)).map (·.2)

/-- `room.get_player`: the index first, then the list. -/
def getPlayer (r : RoomId) (p : PlayerId) : M (Option PlayerId) := do
  let room ← readRoom r
  if p ∈ room.playersById then return some p
  if p ∈ room.players then
    put (.room r (.playersById p))
    return some p
  return none

/-- `_find_room_by_player`: the index first, then a scan that fills it. -/
def findRoomByPlayer (p : PlayerId) : M (Option RoomId) := do
  let w ← read
  (w.playerToRoom p).elim
    ((w.rooms.find? fun x => p ∈ (w.room x.2).playersById ∨ p ∈ (w.room x.2).players).elim
      (return none) fun x => do
        put (.room x.2 (.playersById p))
        put (.playerToRoom p (some (w.room x.2).code))
        return some x.2)
    fun code => return w.roomOf code

instance (r : RoomId) (p : PlayerId) : Coro.Within (fp S) (getPlayer r p) := by
  unfold getPlayer; infer_instance

instance (p : PlayerId) : Coro.Within (fp S) (findRoomByPlayer p) := by
  unfold findRoomByPlayer; infer_instance

/-- `[p for p in room.players if p.is_connected]`. -/
def World.connected (w : World) (r : RoomId) : List PlayerId :=
  (w.room r).players.filter fun p => (w.player r p).isConnected

/-- `[p for p in room.players if p.is_spectator]`. -/
def World.spectators (w : World) (r : RoomId) : List PlayerId :=
  (w.room r).players.filter fun p => (w.player r p).isSpectator

/-- `[p for p in room.players if p.is_connected and not p.is_spectator]`. -/
def World.connectedActive (w : World) (r : RoomId) : List PlayerId :=
  (w.room r).players.filter fun p => (w.player r p).isConnected && !(w.player r p).isSpectator

/-- All connected guessers have guessed. -/
def World.allGuessed (w : World) (r : RoomId) (drawerId : PlayerId) : Bool :=
  ((w.connectedActive r).filter (· ≠ drawerId)).all fun p => (w.player r p).hasGuessed

/-- The players that may become the host, in the order of preference. -/
def World.eligibleHosts (w : World) (r : RoomId) : List PlayerId :=
  if w.connectedActive r = [] then w.connected r else w.connectedActive r

/-! ## Serialization -/

/-- `_serialize_player` with `is_host` given. -/
def World.playerInfo (w : World) (r : RoomId) (isHost : Bool) (p : PlayerId) : PlayerInfo :=
  let player := w.player r p
  { id := player.id
    name := player.name
    score := player.score
    hasGuessed := player.hasGuessed
    isConnected := player.isConnected
    isReady := player.isReady
    isSpectator := player.isSpectator
    isHost := isHost
    avatar := player.avatar.filter (· ≠ "")
    sessionWins := player.sessionWins
    sessionScore := max 0 player.sessionScore }

/-- `[_serialize_player(p, room=room) for p in room.players]`. -/
def World.serializePlayers (w : World) (r : RoomId) : List PlayerInfo :=
  (w.room r).players.map fun p => w.playerInfo r (p = (w.room r).hostId) p

/-- `[_serialize_player(p) for p in room.players]`: the host is found through the index. -/
def World.serializePlayersByIndex (w : World) (r : RoomId) : List PlayerInfo :=
  (w.room r).players.map fun p =>
    w.playerInfo r (((w.playerToRoom p).bind w.roomOf).any fun r' => p = (w.room r').hostId) p

/-- `_serialize_config`. -/
def serializeConfig (config : GameConfig) : ConfigInfo where
  numRounds := config.numRounds
  turnDuration := config.turnDuration
  maxPlayers := config.maxPlayers
  customWords := config.customWords
  isPrivate := config.password.any (· ≠ "")

/-! ## Sends -/

/-- `LOSSY_BROADCAST_TYPES`. -/
def Message.lossy : Message → Bool
  | .draw .stroke _ => true
  | .draw .fill _ => true
  | .clearCanvas => true
  | _ => false

/-- `result.get("type") == "error"`. -/
def Message.isError : Message → Bool
  | .error _ _ => true
  | _ => false

/-- A Redis call. -/
def redisCall : M Unit := do
  let w ← read
  Coro.when (w.redis = true) suspend

/-- `transport.send_text`. -/
def sendText (ws : WsId) (m : Message) (lossy : Bool) : M Unit := do
  let w ← read
  put (.send ⟨.one ws, m, lossy && (w.transport ws).queue.isSome⟩)
  Coro.when ((w.transport ws).queue = none) suspend

/-- `if player.is_connected and player.websocket is not None: await
player.websocket.send_text(…)`. -/
def sendToPlayer (r : RoomId) (p : PlayerId) (m : Message) (lossy : Bool) : M Unit := do
  let player ← readPlayer r p
  player.websocket.elim (return ()) fun ws =>
    Coro.when (player.isConnected = true) (sendText ws m lossy)

/-- The connected players' transports. -/
def World.transports (w : World) (r : RoomId) : List Transport :=
  ((w.connected r).filterMap fun p => (w.player r p).websocket).map w.transport

/-- The queue that all connected players share, if there is one and nobody has a WebSocket. -/
def World.singleQueue (w : World) (r : RoomId) : Option Nat :=
  match ((w.transports r).map (·.queue)).dedup with
  | [some q] => some q
  | _ => none

/-- `RoomManager.broadcast`; the loop goes over the players that are in the room at its start. -/
def broadcast (code : String) (m : Message) : M Unit := do
  let w ← read
  (w.roomOf code).elim (return ()) fun r => do
    (w.singleQueue r).elim
      (Coro.each (w.room r).players fun p => sendToPlayer r p m m.lossy)
      fun q => put (.send ⟨.room q code, m, m.lossy⟩)
    Coro.when (∃ p ∈ (w.room r).players, (w.player r p).websocket = none) redisCall

instance : Coro.Within (fp S) redisCall := by unfold redisCall; infer_instance

instance (ws : WsId) (m : Message) (lossy : Bool) : Coro.Within (fp S) (sendText ws m lossy) := by
  unfold sendText; infer_instance

instance (r : RoomId) (p : PlayerId) (m : Message) (lossy : Bool) :
    Coro.Within (fp S) (sendToPlayer r p m lossy) := by unfold sendToPlayer; infer_instance

instance (code : String) (m : Message) : Coro.Within (fp S) (broadcast code m) := by
  unfold broadcast; infer_instance

/-- Broadcast the player list. -/
def broadcastPlayerList (r : RoomId) : M Unit := do
  let w ← read
  broadcast (w.room r).code (.playerList (w.serializePlayers r))

instance (r : RoomId) : Coro.Within (fp S) (broadcastPlayerList r) := by
  unfold broadcastPlayerList; infer_instance

/-! ## Too few players -/

/-- `_end_game_insufficient_players`. -/
def endGameInsufficientPlayers (r : RoomId) : M Unit := do
  let room ← readRoom r
  if room.insufficientPlayersTask.isSome then return ()
  broadcast room.code (.waitingForReconnect 20)
  let t ← createTask (.endAfterWait r) 20
  put (.room r (.insufficientPlayersTask (some t)))

/-- Cancel the tasks of a turn. -/
def cancelTurnTasks (r : RoomId) (turn : TurnState) : M Unit := do
  cancel (.turnTimer r turn.turnId) turn.timerTask
  cancel (.revealHint r turn.turnId) turn.hintTask40
  cancel (.revealHint r turn.turnId) turn.hintTask70

/-- Cancel the auto-select task, if it is not done, and forget it. -/
def cancelAutoSelect (r : RoomId) : M Unit := do
  let w ← read
  (w.room r).autoSelectTask.elim (return ()) fun t =>
    Coro.when (w.pendingTask ⟨.autoSelect r t.1, t.2⟩) do
      cancel (.autoSelect r t.1) (some t.2)
      put (.room r (.autoSelectTask none))

/-- Cancel the countdown, if it is not done, and forget it; says whether it did. -/
def cancelCountdown (r : RoomId) : M Bool := do
  let w ← read
  (w.room r).insufficientPlayersTask.elim (return false) fun t =>
    if w.pendingTask ⟨.endAfterWait r, t⟩ then do
      cancel (.endAfterWait r) (some t)
      put (.room r (.insufficientPlayersTask none))
      return true
    else return false

/-- `_end_game_insufficient_players_immediate`. -/
def endGameInsufficientPlayersImmediate (r : RoomId) : M Unit := do
  let room ← readRoom r
  room.turn.elim (return ()) fun turn => do
    cancelTurnTasks r turn
    put (.room r .clearTurn)
  cancelAutoSelect r
  mark (.finishes r false)
  put (.room r (.state .gameOver))
  broadcast room.code .gameEndedInsufficientPlayers

/-- `end_after_wait`, after its sleep. -/
def endAfterWait (r : RoomId) : M Unit := do
  let w ← read
  Coro.when ((w.connected r).length < 2) (endGameInsufficientPlayersImmediate r)
  put (.room r (.insufficientPlayersTask none))

instance (r : RoomId) [Has .countdown S] :
    Coro.Within (fp S) (endGameInsufficientPlayers r) := by
  unfold endGameInsufficientPlayers; infer_instance

instance (r : RoomId) (turn : TurnState) [Has .timers S] :
    Coro.Within (fp S) (cancelTurnTasks r turn) := by unfold cancelTurnTasks; infer_instance

instance (r : RoomId) [Has .autoSelect S] : Coro.Within (fp S) (cancelAutoSelect r) := by
  unfold cancelAutoSelect; infer_instance

instance (r : RoomId) [Has .countdown S] : Coro.Within (fp S) (cancelCountdown r) := by
  unfold cancelCountdown; infer_instance

instance (r : RoomId) [Has .timers S] [Has .turn S] [Has .autoSelect S] [Has .state S] :
    Coro.Within (fp S) (endGameInsufficientPlayersImmediate r) := by
  unfold endGameInsufficientPlayersImmediate; infer_instance

instance (r : RoomId) [Has .timers S] [Has .turn S] [Has .autoSelect S] [Has .state S]
    [Has .countdown S] : Coro.Within (fp S) (endAfterWait r) := by
  unfold endAfterWait; infer_instance

end Skribbl.Backend
