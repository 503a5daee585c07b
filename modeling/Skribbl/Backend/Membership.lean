import Skribbl.Backend.GameEngine

/-!
# Rooms and their members (`backend/room_manager.py`)

* `deleteRoom`, `createRoom`, `restoreRoom` — `_delete_room`, `create_room`, `restore_room`.
* `joinRoom`, `joinRoomLocal` — `join_room`, `_join_room_local`; `RoomManager._join_room_remote` is
  the business of the worker that owns the room, so its answer is an argument.
* `removePlayer`, `leaveRoom`, `kickPlayer` — `remove_player`, `leave_room`, `kick_player`.
* `handleJoinRequestTimeout`, `cancelPendingJoinRequest`, `respondJoinRequest` — the host's approval
  of a player who joins during a game.
-/

set_option autoImplicit false
set_option synthInstance.maxSize 100000

namespace Skribbl.Backend

variable {S : List Eff}

/-! ## Creating and deleting a room -/

/-- Cancel the timeout of a spectator-role request. -/
def cancelRoleTimeout (x : PendingSpectatorRoleRequest) : M Unit :=
  x.timeoutTask.elim (return ()) fun t =>
    cancel (.roleTimeout x.requestId t.1 x.playerId) (some t.2)

instance (x : PendingSpectatorRoleRequest) : Coro.Within (fp S) (cancelRoleTimeout x) := by
  unfold cancelRoleTimeout; infer_instance

/-- `_delete_room`. -/
def deleteRoom (code : String) : M Unit := do
  let w ← read
  put (.rooms (w.rooms.filter (·.1 ≠ code)))
  (w.roomOf code).elim (return ()) fun r =>
    Coro.each (w.room r).players fun p => put (.playerToRoom p none)
  put (.pendingJoinRequests (w.pendingJoinRequests.filter (·.2.roomCode ≠ code)))
  Coro.each (w.pendingJoinRequests.filter (·.2.roomCode = code)) fun x => do
    cancel (.joinTimeout x.1) x.2.timeoutTask
    put (.wsToPendingRequest x.2.websocket none)
  put (.pendingSpectatorRoleRequests
    (w.pendingSpectatorRoleRequests.filter (·.2.roomCode ≠ code)))
  Coro.each (w.pendingSpectatorRoleRequests.filter (·.2.roomCode = code)) fun x =>
    cancelRoleTimeout x.2
  put (.activeVoteKicks code none)
  (w.activeVoteKicks code).elim (return ()) fun vote =>
    cancel (.voteTimeout code vote.targetId) vote.timeoutTask
  put (.voteKickCooldowns code fun _ => 0)
  redisCall
  redisCall
  redisCall
  redisCall
  redisCall

/-- `_validate_name`: the error message. -/
def validateName (name : String) : Option String :=
  if name.length < 1 ∨ 20 < name.length then
    some "Display name must be between 1 and 20 characters"
  else none

/-- `_generate_room_code`, with the codes that `random.choices` draws: the first that is free.
While all are taken the loop goes on. -/
def World.generateRoomCode (w : World) (draws : List String) : Option String :=
  draws.find? fun code => (w.roomOf code).isNone

/-- The password of a new room. -/
def Env.newPassword (env : Env) (password : Option String) : Option String :=
  (password.filter (env.strip · ≠ "")).map fun s => String.ofList ((env.strip s).toList.take 64)

/-- The `max_players` of a new room. -/
def newMaxPlayers (maxPlayers : Option Int) : InRange 2 12 :=
  match maxPlayers with
  | some (.ofNat n) => if h : 2 ≤ n ∧ n ≤ 12 then ⟨n, h⟩ else ⟨12, by decide⟩
  | _ => ⟨12, by decide⟩

/-- `create_room`. -/
def createRoom (env : Env) (draws : List String) (name : String) (ws : WsId)
    (avatar password : Option String) (maxPlayers : Option Int) : M Message := do
  let w ← read
  if w.draining then
    return .error "WORKER_DRAINING" "Worker is draining and cannot accept new rooms"
  (validateName name).elim (do
    (w.generateRoomCode draws).elim (raise "no code drawn yet") fun code => do
    let r := w.nextRoom
    let config : GameConfig :=
      { password := env.newPassword password, maxPlayers := newMaxPlayers maxPlayers }
    mark (.opens r)
    put (.newRoom { code := code, hostId := .other "", config := config }
      fun p => { id := p, name := "" })
    let p ← newPlayer r fun p => { id := p, name := name, websocket := some ws, avatar := avatar }
    mark (.connects r p (some ws))
    put (.room r (.hostId p))
    put (.room r (.addPlayer p))
    put (.rooms (w.rooms ++ [(code, r)]))
    put (.playerToRoom p (some code))
    redisCall
    let w' ← read
    return .roomCreated code p (w'.serializePlayersByIndex r) (serializeConfig (w'.room r).config))
    fun message => return .error "INVALID_NAME" message

/-- A player as `restore_room` makes it. -/
def PlayerSnapshot.restore (now : ℚ) (x : PlayerSnapshot) : Player where
  id := x.id
  name := x.name
  score := x.score
  hasGuessed := x.hasGuessed
  isConnected := false
  isReady := x.isReady
  avatar := x.avatar
  disconnectTime := some ((x.disconnectTime.filter (· ≠ 0)).getD now)

/-- `restore_room`. -/
def restoreRoom (x : RoomSnapshot) : M RoomId := do
  let w ← read
  let r := w.nextRoom
  mark (.restores x.state x.drawerIndex (x.players.map (·.id)))
  mark (.opens r)
  put (.newRoom
    { code := x.code
      hostId := x.hostId
      config := x.config
      state := x.state
      currentRound := x.currentRound
      drawerIndex := x.drawerIndex
      usedWords := x.usedWords
      wordPool := x.wordPool }
    fun p => ((x.players.find? (·.id = p)).map (·.restore w.now)).getD { id := p, name := "" })
  Coro.each x.players fun y => do
    put (.room r (.addPlayer y.id))
    put (.playerToRoom y.id (some x.code))
  x.turn.elim (return ()) fun turn =>
    Coro.when (x.state = .playing ∨ x.state = .wordSelection) <|
      put (.newTurn r fun turnId =>
        { turnId := turnId
          drawerId := turn.drawerId
          word := turn.word
          hint := turn.hint
          startTime := w.now
          wordChoices := turn.wordChoices
          guessOrder := turn.guessOrder })
  put (.rooms (dictSet w.rooms x.code r))
  return r

/-- `snapshot_room`. -/
def World.snapshotRoom (w : World) (r : RoomId) : RoomSnapshot :=
  let room := w.room r
  { code := room.code
    hostId := room.hostId
    state := room.state
    currentRound := room.currentRound
    drawerIndex := room.drawerIndex
    config := room.config
    usedWords := room.usedWords
    wordPool := room.wordPool
    players := room.players.map fun p =>
      let player := w.player r p
      ⟨player.id, player.name, player.score, player.hasGuessed, player.isConnected, player.isReady,
        player.avatar, player.disconnectTime⟩
    turn := room.turn.map fun turn =>
      ⟨turn.drawerId, turn.word, turn.hint, turn.startTime, turn.wordChoices, turn.guessOrder⟩
    snapshotTime := w.now }

/-- The snapshot of a room that is not on this worker, adopted if Redis has one. -/
def adoptSnapshot (code : String) : M (Option RoomId) := do
  let w ← read
  if w.redis = false then return none
  redisCall
  let w ← read
  (w.snapshots code).elim (return none) fun x => do
    let r ← restoreRoom x
    put (.snapshots code none)
    redisCall
    redisCall
    return some r

instance (code : String) [Has .rooms S] [Has .roles S] : Coro.Within (fp S) (deleteRoom code) := by
  unfold deleteRoom; infer_instance

instance (env : Env) (draws : List String) (name : String) (ws : WsId)
    (avatar password : Option String) (maxPlayers : Option Int) [Has .rooms S] [Has .players S]
    [Has .members S] [Has .connection S] [Has .raises S] :
    Coro.Within (fp S) (createRoom env draws name ws avatar password maxPlayers) := by
  unfold createRoom; dsimp only; infer_instance

instance (x : RoomSnapshot) [Has .rooms S] [Has .members S] [Has .turn S] :
    Coro.Within (fp S) (restoreRoom x) := by
  unfold restoreRoom; dsimp only; infer_instance

instance (code : String) [Has .rooms S] [Has .members S] [Has .turn S] :
    Coro.Within (fp S) (adoptSnapshot code) := by
  unfold adoptSnapshot; infer_instance

/-! ## Joining a room -/

/-- `MAX_PLAYERS_HARD_CAP`. -/
def maxPlayersHardCap : Nat := 12

/-- There is no room for another active player. -/
def World.playersFull (w : World) (r : RoomId) : Prop :=
  min (w.room r).config.maxPlayers.val maxPlayersHardCap ≤ (w.activePlayers r).length

/-- There is no room for another spectator. -/
def World.spectatorsFull (w : World) (r : RoomId) : Prop := 50 ≤ (w.spectators r).length

instance (w : World) (r : RoomId) : Decidable (w.playersFull r) :=
  inferInstanceAs (Decidable (_ ≤ _))

instance (w : World) (r : RoomId) : Decidable (w.spectatorsFull r) :=
  inferInstanceAs (Decidable (_ ≤ _))

/-- The payload of `room_joined`. -/
def World.joinedInfo (w : World) (r : RoomId) (p : PlayerId) (isSpectator : Bool)
    (players : List PlayerInfo) : JoinedInfo :=
  let room := w.room r
  { roomCode := room.code
    playerId := p
    players := players
    config := serializeConfig room.config
    state := room.state
    isSpectator := isSpectator
    currentRound := room.currentRound
    totalRounds := room.config.numRounds
    hostId := room.hostId
    drawerId := room.turn.map (·.drawerId)
    hint := (room.turn.map (·.hint)).getD []
    duration := (room.turn.filter fun _ => room.state = .playing).map fun turn =>
      (⌊(room.config.turnDuration : ℚ) - (w.now - turn.startTime)⌋).toNat
    theme := (room.turn.filter fun _ => room.state = .playing).bind (·.theme) }

/-- `add_player(Player(id=str(uuid4()), …))`, with the entries in the indexes. -/
def admitPlayer (r : RoomId) (code name : String) (ws : WsId) (avatar : Option String)
    (isSpectator : Bool) : M PlayerId := do
  let p ← newPlayer r fun p =>
    { id := p, name := name, websocket := some ws, avatar := avatar, isSpectator := isSpectator }
  mark (.connects r p (some ws))
  put (.room r (.addPlayer p))
  put (.playerToRoom p (some code))
  put (.wsToPlayer ws (some (p, code)))
  return p

/-- A join request during a game: it waits for the host. -/
def requestJoin (r : RoomId) (code name : String) (ws : WsId) (avatar : Option String) :
    M Message := do
  let w ← read
  if w.playersFull r ∧ w.spectatorsFull r then return .error "ROOM_FULL" "Room is full"
  (← getPlayer r (w.room r).hostId).elim (return hostUnavailable) fun host =>
    (if (w.player r host).isConnected then (w.player r host).websocket else none).elim
      (return hostUnavailable) fun hostWs => do
    let requestId ← uuid4
    let t ← createTask (.joinTimeout requestId) 30
    let request : PendingJoinRequest := ⟨requestId, code, name, avatar, ws, w.now, some t⟩
    put (.pendingJoinRequests (w.pendingJoinRequests ++ [(requestId, request)]))
    put (.wsToPendingRequest ws (some requestId))
    put (.room r (.pendingJoinRequests
      ((w.room r).pendingJoinRequests ++ [(requestId, request)])))
    sendText hostWs (.joinRequestReceived requestId name avatar code) false
    return .joinRequestPending requestId code "Waiting for host approval..."
where
  hostUnavailable : Message := .error "HOST_UNAVAILABLE"
    "Room host is currently unavailable to approve join requests."

/-- The password check of `_join_room_local`: the error. -/
def Env.passwordError (env : Env) (config : GameConfig) (password : Option String) :
    Option Message :=
  (config.password.filter (· ≠ "")).bind fun expected =>
    let provided := env.strip (password.getD "")
    if provided = "" then
      some (.error "PASSWORD_REQUIRED" "This room is private. Please enter the password.")
    else if provided ≠ expected then some (.error "INVALID_PASSWORD" "Incorrect room password")
    else none

/-- `_join_room_local`. -/
def joinRoomLocal (env : Env) (r : RoomId) (code name : String) (ws : WsId)
    (avatar : Option String) (asSpectator : Bool) (password : Option String) : M Message := do
  let w ← read
  (env.passwordError (w.room r).config password).elim (do
    if (w.room r).state ≠ .lobby ∧ asSpectator = false then requestJoin r code name ws avatar
    else if asSpectator = false ∧ w.playersFull r then return .error "ROOM_FULL" "Room is full"
    else if asSpectator = true ∧ w.spectatorsFull r then
      return .error "ROOM_FULL" "Spectator capacity reached"
    else do
      let p ← admitPlayer r code name ws avatar asSpectator
      redisCall
      let w ← read
      broadcast code (.playerList (w.serializePlayersByIndex r))
      let w ← read
      return .roomJoined (w.joinedInfo r p asSpectator (w.serializePlayersByIndex r)))
    fun error => return error

/-- `join_room`; `remote` is what `_join_room_remote` answers if another worker owns the room. -/
def joinRoom (env : Env) (name code : String) (ws : WsId) (avatar : Option String)
    (asSpectator : Bool) (password : Option String) (remote : Option Message) : M Message := do
  (validateName name).elim (do
    let w ← read
    ((w.roomOf code).filter fun r => !(w.room r).isProxy).elim (do
      redisCall
      (remote.filter fun _ => w.redis).elim (do
        (← adoptSnapshot code).elim (return .error "ROOM_NOT_FOUND" "Room not found") fun r =>
          joinRoomLocal env r code name ws avatar asSpectator password)
        fun answer => return answer)
      fun r => joinRoomLocal env r code name ws avatar asSpectator password)
    fun message => return .error "INVALID_NAME" message

instance (r : RoomId) (code name : String) (ws : WsId) (avatar : Option String)
    (isSpectator : Bool) [Has .players S] [Has .connection S] [Has .members S] :
    Coro.Within (fp S) (admitPlayer r code name ws avatar isSpectator) := by
  unfold admitPlayer; infer_instance

instance (r : RoomId) (code name : String) (ws : WsId) (avatar : Option String) :
    Coro.Within (fp S) (requestJoin r code name ws avatar) := by
  unfold requestJoin; dsimp only; infer_instance

instance (env : Env) (r : RoomId) (code name : String) (ws : WsId) (avatar : Option String)
    (asSpectator : Bool) (password : Option String) [Has .players S] [Has .connection S]
    [Has .members S] :
    Coro.Within (fp S) (joinRoomLocal env r code name ws avatar asSpectator password) := by
  unfold joinRoomLocal; infer_instance

instance (env : Env) (name code : String) (ws : WsId) (avatar : Option String)
    (asSpectator : Bool) (password : Option String) (remote : Option Message) [Has .rooms S]
    [Has .turn S] [Has .players S] [Has .connection S] [Has .members S] :
    Coro.Within (fp S) (joinRoom env name code ws avatar asSpectator password remote) := by
  unfold joinRoom; infer_instance

/-! ## Approval by the host -/

/-- Drop a pending join request from all maps. -/
def dropJoinRequest (request : PendingJoinRequest) : M Unit := do
  let w ← read
  put (.pendingJoinRequests (w.pendingJoinRequests.filter (·.1 ≠ request.requestId)))
  put (.wsToPendingRequest request.websocket none)
  (w.roomOf request.roomCode).elim (return ()) fun r =>
    put (.room r (.pendingJoinRequests
      ((w.room r).pendingJoinRequests.filter (·.1 ≠ request.requestId))))

/-- Tell a room how a join request ended. -/
def broadcastResolved (code : String) (requestId : RequestId) (status : String)
    (playerName : Option String) : M Unit := do
  let w ← read
  Coro.when ((w.roomOf code).isSome)
    (broadcast code (.joinRequestResolved requestId status playerName none))

/-- `_handle_join_request_timeout`. -/
def handleJoinRequestTimeout (requestId : RequestId) : M Unit := do
  let w ← read
  ((w.pendingJoinRequests.find? (·.1 = requestId)).map (·.2)).elim (return ()) fun request => do
    dropJoinRequest request
    sendText request.websocket (.joinRequestDeclined requestId "timeout"
      "Host did not respond to your join request.") false
    Coro.when ((w.roomOf request.roomCode).isSome)
      (broadcast request.roomCode (.joinRequestResolved requestId "timeout" none none))

/-- The request that `cancel_pending_join_request` finds for a request id or a player id. -/
def World.joinRequestById (w : World) (x : Ident) : Option PendingJoinRequest :=
  ((w.pendingJoinRequests.find? (·.1 = x)).or (w.pendingJoinRequests.find? fun y =>
    (w.transport y.2.websocket).queue.isSome ∧ (w.transport y.2.websocket).playerId = x)).map (·.2)

/-- The request that `cancel_pending_join_request` finds for a connection. -/
def World.joinRequestByWs (w : World) (ws : WsId) : Option PendingJoinRequest :=
  (w.wsToPendingRequest ws).bind fun id =>
    (w.pendingJoinRequests.find? (·.1 = id)).map (·.2)

/-- `cancel_pending_join_request`, after the request has been found. -/
def cancelJoinRequest (request : PendingJoinRequest) : M Unit := do
  cancel (.joinTimeout request.requestId) request.timeoutTask
  dropJoinRequest request
  broadcastResolved request.roomCode request.requestId "cancelled" (some request.name)

/-- `cancel_pending_join_request` for a request id or a player id. -/
def cancelPendingJoinRequest (x : Ident) : M Unit := do
  let w ← read
  (w.joinRequestById x).elim (return ()) cancelJoinRequest

/-- `cancel_pending_join_request` for a connection. -/
def cancelPendingJoinRequestOf (ws : WsId) : M Unit := do
  let w ← read
  put (.wsToPendingRequest ws none)
  (w.joinRequestByWs ws).elim (return ()) cancelJoinRequest

/-- `respond_join_request`, when the host admits the player. -/
def admitRequester (r : RoomId) (request : PendingJoinRequest) (isSpectator : Bool) :
    M Message := do
  cancel (.joinTimeout request.requestId) request.timeoutTask
  dropJoinRequest request
  let code := (← readRoom r).code
  let p ← admitPlayer r code request.name request.websocket request.avatar isSpectator
  let w ← read
  Coro.when (2 ≤ (w.connected r).length) do
    let _ ← cancelCountdown r
  redisCall
  broadcastPlayerList r
  broadcast code (.systemMessage (if isSpectator then
    "👁️ " ++ request.name ++ " joined as a spectator." else "🎮 " ++ request.name ++
    " joined the game!"))
  let w ← read
  sendText request.websocket (.roomJoined (w.joinedInfo r p isSpectator (w.serializePlayers r)))
    false
  let w ← read
  Coro.when ((w.transport request.websocket).queue.isSome)
    (put (.transport request.websocket { w.transport request.websocket with playerId := p }))
  let resolved : Message := .joinRequestResolved request.requestId
    (if isSpectator then "accepted_spectator" else "accepted_player") none (some p)
  broadcast code resolved
  return resolved

/-- `respond_join_request`. -/
def respondJoinRequest (hostPlayerId : PlayerId) (requestId : RequestId) (action : String) :
    M Message := do
  let w ← read
  ((w.pendingJoinRequests.find? (·.1 = requestId)).map (·.2)).elim
    (return .error "REQUEST_NOT_FOUND" "Join request not found or expired") fun request =>
  (w.roomOf request.roomCode).elim (return .error "ROOM_NOT_FOUND" "Room not found") fun r => do
    if (w.room r).hostId ≠ hostPlayerId then
      return .error "PERMISSION_DENIED" "Only the host can respond to join requests"
    if action = "decline" then
      cancel (.joinTimeout requestId) request.timeoutTask
      dropJoinRequest request
      sendText request.websocket (.joinRequestDeclined requestId "declined"
        "The host declined your join request.") false
      broadcast (w.room r).code (.joinRequestResolved requestId "declined" none none)
      return .joinRequestResolved requestId "declined" none none
    else if action ≠ "accept_spectator" ∧ w.playersFull r then
      return .error "ROOM_FULL"
        "Room has reached maximum active players. You can accept them as spectator."
    else if action = "accept_spectator" ∧ w.spectatorsFull r then
      return .error "ROOM_FULL" "Spectator capacity reached"
    else admitRequester r request (action = "accept_spectator")

instance (request : PendingJoinRequest) : Coro.Within (fp S) (dropJoinRequest request) := by
  unfold dropJoinRequest; infer_instance

instance (code : String) (requestId : RequestId) (status : String) (playerName : Option String) :
    Coro.Within (fp S) (broadcastResolved code requestId status playerName) := by
  unfold broadcastResolved; infer_instance

instance (requestId : RequestId) : Coro.Within (fp S) (handleJoinRequestTimeout requestId) := by
  unfold handleJoinRequestTimeout; infer_instance

instance (request : PendingJoinRequest) : Coro.Within (fp S) (cancelJoinRequest request) := by
  unfold cancelJoinRequest; infer_instance

instance (x : Ident) : Coro.Within (fp S) (cancelPendingJoinRequest x) := by
  unfold cancelPendingJoinRequest; infer_instance

instance (ws : WsId) : Coro.Within (fp S) (cancelPendingJoinRequestOf ws) := by
  unfold cancelPendingJoinRequestOf; infer_instance

instance (r : RoomId) (request : PendingJoinRequest) (isSpectator : Bool) [Has .players S]
    [Has .connection S] [Has .members S] [Has .countdown S] :
    Coro.Within (fp S) (admitRequester r request isSpectator) := by
  unfold admitRequester; dsimp only; infer_instance

instance (hostPlayerId : PlayerId) (requestId : RequestId) (action : String) [Has .players S]
    [Has .connection S] [Has .members S] [Has .countdown S] :
    Coro.Within (fp S) (respondJoinRequest hostPlayerId requestId action) := by
  unfold respondJoinRequest; infer_instance

/-! ## Leaving a room -/

/-- `remove_player`, with its entry in the index. -/
def dropPlayer (r : RoomId) (p : PlayerId) : M Unit := do
  mark (.removes r p)
  put (.room r (.removePlayer p))
  put (.playerToRoom p none)

/-- `host_changed` to the first of the candidates, if there is one. -/
def changeHost (r : RoomId) (eligible : List PlayerId) : M Unit :=
  eligible.head?.elim (return ()) fun p => do
    put (.room r (.hostId p))
    let w ← read
    broadcast (w.room r).code (.hostChanged p (w.player r p).name none)

/-- The candidates for the host when the old one is removed. -/
def World.eligibleHostsOrAny (w : World) (r : RoomId) : List PlayerId :=
  if w.eligibleHosts r = [] then (w.room r).players.take 1 else w.eligibleHosts r

/-- `remove_player` of the manager. -/
def removePlayer (p : PlayerId) : M Unit := do
  (← findRoomByPlayer p).elim (return ()) fun r => do
    dropPlayer r p
    let w ← read
    if (w.room r).players = [] then deleteRoom (w.room r).code
    else do
      Coro.when ((w.room r).hostId = p) (changeHost r (w.eligibleHostsOrAny r))
      broadcastPlayerList r

/-- The error for a player that is in no room. -/
def notInRoom : Message := .error "GAME_NOT_ACTIVE" "Player is not in a room"

/-- `leave_room`. -/
def leaveRoom (p : PlayerId) : M Message := do
  (← findRoomByPlayer p).elim (return notInRoom) fun r => do
    let room ← readRoom r
    if room.state ≠ .lobby then
      return .error "GAME_NOT_ACTIVE" "Can only leave during lobby phase"
    dropPlayer r p
    let w ← read
    if (w.room r).players = [] then
      deleteRoom (w.room r).code
      return .leftRoom
    Coro.when (room.hostId = p) <|
      (w.room r).players.head?.elim (return ()) fun host => put (.room r (.hostId host))
    let w ← read
    broadcast (w.room r).code (.playerList (w.serializePlayersByIndex r))
    return .leftRoom

/-- `kick_player`. -/
def kickPlayer (hostPlayerId targetPlayerId : PlayerId) : M Message := do
  (← findRoomByPlayer hostPlayerId).elim (return notInRoom) fun r => do
    let room ← readRoom r
    if room.hostId ≠ hostPlayerId then
      return .error "PERMISSION_DENIED" "Only the host can kick players"
    if room.state ≠ .lobby then
      return .error "GAME_NOT_ACTIVE" "Players can only be kicked in the lobby"
    (← getPlayer r targetPlayerId).elim
      (return .error "PLAYER_NOT_FOUND" "Target player not found in room") fun target => do
      if targetPlayerId = room.hostId then
        return .error "PERMISSION_DENIED" "Cannot kick the host"
      sendToPlayer r target (.kicked "You were kicked out of the room") false
      dropPlayer r targetPlayerId
      let w ← read
      broadcast (w.room r).code (.playerList (w.serializePlayersByIndex r))
      return .playerKicked targetPlayerId

instance (r : RoomId) (p : PlayerId) [Has .members S] :
    Coro.Within (fp S) (dropPlayer r p) := by unfold dropPlayer; infer_instance

instance (r : RoomId) (l : List PlayerId) : Coro.Within (fp S) (changeHost r l) := by
  unfold changeHost; infer_instance

instance (p : PlayerId) [Has .members S] [Has .rooms S] [Has .roles S] :
    Coro.Within (fp S) (removePlayer p) := by unfold removePlayer; infer_instance

instance (p : PlayerId) [Has .members S] [Has .rooms S] [Has .roles S] :
    Coro.Within (fp S) (leaveRoom p) := by unfold leaveRoom; infer_instance

instance (p q : PlayerId) [Has .members S] : Coro.Within (fp S) (kickPlayer p q) := by
  unfold kickPlayer; infer_instance

end Skribbl.Backend
