import Skribbl.Backend.Connections

/-!
# The host's and the spectators' operations (`backend/room_manager.py`)

* `updateSettings`, `handleRematch`, `startGame`, `transferHost`, `toggleReady`, `updateProfile` —
  the operations under these names.
* `endGameNow` — the message `end_game_now`.
* `requestBecomePlayer`, `expireRoleRequest`, `respondSpectatorRoleRequest`,
  `cancelSpectatorRoleRequest` — the promotion of a spectator.
-/

set_option autoImplicit false
set_option synthInstance.maxSize 100000

namespace Skribbl.Backend

variable {S : List Eff}

/-! ## Settings -/

/-- A JSON value. -/
inductive Value where
  | null
  | bool (b : Bool)
  | int (n : Int)
  | float (q : ℚ)
  | str (s : String)
  | list (l : List Value)
  | dict (l : List (String × Value))

/-- `isinstance(v, int)`: a bool is one too. -/
def Value.asInt : Value → Option Int
  | .bool b => some b.toNat
  | .int n => some n
  | _ => none

/-- An integer between two bounds. -/
def Value.inRange (a b : Nat) (v : Value) : Option (InRange a b) :=
  v.asInt.bind fun n =>
    if h : 0 ≤ n ∧ a ≤ n.toNat ∧ n.toNat ≤ b then some ⟨n.toNat, h.2⟩ else none

/-- The texts in the value of `custom_words`. -/
def Value.rawWords : Value → List String
  | .str s => (s.toList.splitOnP fun c => c = '\n' || c = ',').map String.ofList
  | .list l => l.filterMap fun v =>
    match v with
    | .str s => some s
    | .int n => some (toString n)
    | .bool b => some (if b then "True" else "False")
    | _ => none
  | _ => []

/-- The custom words of `update_settings`: trimmed, not blank, each once up to case. -/
def Env.sanitizeWords (env : Env) : List String → List String → List String
  | _, [] => []
  | seen, raw :: l =>
    let w := env.strip (String.ofList ((env.strip raw).toList.take 40))
    if w ≠ "" ∧ env.lower w ∉ seen then w :: env.sanitizeWords (env.lower w :: seen) l
    else env.sanitizeWords seen l

/-- The password of `update_settings`. -/
def Env.settingsPassword (env : Env) (old : Option String) : Value → Option String
  | .null => none
  | .str s => if env.strip s = "" then none else some (String.ofList ((env.strip s).toList.take 64))
  | _ => old

/-- The range check of one setting. -/
def checkSetting (settings : List (String × Value)) (key : String) (a b : Nat) : Option String :=
  (settings.lookup key).bind fun v =>
    if (v.inRange a b).isSome then none
    else some (key ++ " must be between " ++ toString a ++ " and " ++ toString b)

/-- The configuration after `update_settings`. -/
def Env.applySettings (env : Env) (settings : List (String × Value)) (config : GameConfig) :
    GameConfig where
  numRounds := ((settings.lookup "num_rounds").bind (·.inRange 2 10)).getD config.numRounds
  turnDuration :=
    ((settings.lookup "turn_duration").bind (·.inRange 30 180)).getD config.turnDuration
  maxPlayers := ((settings.lookup "max_players").bind (·.inRange 2 12)).getD config.maxPlayers
  customWords := (settings.lookup "custom_words").elim config.customWords fun v =>
    (env.sanitizeWords [] v.rawWords).take 500
  password := (settings.lookup "password").elim config.password
    (env.settingsPassword config.password)

/-- `update_settings`. -/
def updateSettings (env : Env) (p : PlayerId) (settings : List (String × Value)) : M Message := do
  (← findRoomByPlayer p).elim (return notInRoom) fun r => do
    let room ← readRoom r
    if room.hostId ≠ p then
      return .error "PERMISSION_DENIED" "Only the host can update settings"
    if room.state ≠ .lobby then
      return .error "GAME_NOT_ACTIVE" "Settings can only be changed in the lobby"
    ((checkSetting settings "num_rounds" 2 10).or ((checkSetting settings "turn_duration" 30 180).or
      (checkSetting settings "max_players" 2 12))).elim (do
        let config := env.applySettings settings room.config
        put (.room r (.config config))
        broadcast room.code (.settingsUpdated (serializeConfig config))
        return .settingsUpdated (serializeConfig (← readRoom r).config))
      fun message => return .error "INVALID_SETTINGS" message

instance (env : Env) (p : PlayerId) (settings : List (String × Value)) [Has .schedule S] :
    Coro.Within (fp S) (updateSettings env p settings) := by
  unfold updateSettings; dsimp only; infer_instance

/-! ## The life of a game -/

/-- Reset a player for a new game. -/
def resetPlayer (r : RoomId) (p : PlayerId) : M Unit := do
  put (.player r p (.score 0))
  put (.player r p (.hasGuessed false))
  put (.player r p (.streak 0))
  put (.player r p (.maxStreak 0))
  put (.player r p (.correctGuessesCount 0))
  put (.player r p (.fastestGuessTime none))
  put (.player r p (.drawerPointsEarned 0))
  put (.player r p (.becomePlayerRequestsCount 0))

/-- `handle_rematch`. -/
def handleRematch (p : PlayerId) : M Message := do
  (← findRoomByPlayer p).elim (return notInRoom) fun r => do
    let room ← readRoom r
    if room.hostId ≠ p then
      return .error "PERMISSION_DENIED" "Only the host can initiate a rematch"
    if room.state ≠ .gameOver then
      return .error "GAME_NOT_ACTIVE" "Rematch can only be initiated from game over state"
    Coro.each room.players (resetPlayer r)
    mark (.resets r)
    put (.room r (.currentRound 0))
    put (.room r (.drawerIndex 0))
    put (.room r .forgetWords)
    put (.room r (.wordPool []))
    put (.room r .clearTurn)
    put (.room r (.state .lobby))
    let w ← read
    let message : Message :=
      .rematchStarted (w.serializePlayersByIndex r) (serializeConfig room.config)
    broadcast room.code message
    return message

/-- The index of the first connected active player. -/
def World.firstDrawer (w : World) (r : RoomId) : Option Nat :=
  (w.room r).players.findIdx? fun p => (w.player r p).isConnected && !(w.player r p).isSpectator

/-- `start_game`. -/
def startGame (p : PlayerId) : M Message := do
  (← findRoomByPlayer p).elim (return notInRoom) fun r => do
    let w ← read
    let room := w.room r
    if room.hostId ≠ p then
      return .error "PERMISSION_DENIED" "Only the host can start the game"
    if room.state ≠ .lobby then
      return .error "GAME_NOT_ACTIVE" "Game can only be started from the lobby"
    if (w.activePlayers r).length < 2 then
      return .error "INSUFFICIENT_PLAYERS"
        "At least 2 active players are required to start the game"
    Coro.each room.players fun q => do
      put (.player r q (.isReady false))
      put (.player r q (.becomePlayerRequestsCount 0))
    put (.room r (.state .wordSelection))
    mark (.resets r)
    put (.room r (.currentRound 1))
    (w.firstDrawer r).elim (return ()) fun i => put (.room r (.drawerIndex i))
    let drawerIndex := (w.firstDrawer r).getD room.drawerIndex
    room.players[drawerIndex]?.elim (raise "IndexError") fun drawerId => do
      broadcast room.code (.gameStarted drawerId 1 room.config.numRounds)
      return .gameStarted drawerId 1 room.config.numRounds

/-- The message `start_game`: the game starts with the first turn. -/
def startGameAndTurn (env : Env) (p : PlayerId) (ws : WsId) : M Unit := do
  let result ← startGame p
  if result.isError then sendText ws result false
  else do
    (← findRoomByPlayer p).elim (return ()) (startTurn env)

/-- The message `end_game_now`. -/
def endGameNow (p : PlayerId) (ws : WsId) : M Unit := do
  (← findRoomByPlayer p).elim (return ()) fun r => do
    let room ← readRoom r
    if room.hostId = p then
      let _ ← cancelCountdown r
      endGameInsufficientPlayersImmediate r
    else sendText ws (.error "PERMISSION_DENIED" "Only the host can end the game") false

instance (r : RoomId) (p : PlayerId) [Has .guessed S] [Has .ending S] :
    Coro.Within (fp S) (resetPlayer r p) := by
  unfold resetPlayer; infer_instance

instance (p : PlayerId) [Has .guessed S] [Has .ending S] [Has .schedule S] [Has .turn S]
    [Has .state S] : Coro.Within (fp S) (handleRematch p) := by
  unfold handleRematch; dsimp only; infer_instance

instance (p : PlayerId) [Has .schedule S] [Has .state S] [Has .raises S] :
    Coro.Within (fp S) (startGame p) := by unfold startGame; dsimp only; infer_instance

instance (env : Env) (p : PlayerId) (ws : WsId) [Has .schedule S] [Has .state S] [Has .pending S]
    [Has .autoSelect S] [Has .raises S] : Coro.Within (fp S) (startGameAndTurn env p ws) := by
  unfold startGameAndTurn; infer_instance

instance (p : PlayerId) (ws : WsId) [Has .countdown S] [Has .timers S] [Has .turn S]
    [Has .autoSelect S] [Has .state S] : Coro.Within (fp S) (endGameNow p ws) := by
  unfold endGameNow; infer_instance

/-! ## Host, readiness, profile -/

/-- `transfer_host`. -/
def transferHost (hostPlayerId targetPlayerId : PlayerId) : M Message := do
  (← findRoomByPlayer hostPlayerId).elim (return notInRoom) fun r => do
    let room ← readRoom r
    if room.hostId ≠ hostPlayerId then
      return .error "PERMISSION_DENIED" "Only the host can transfer host role"
    if targetPlayerId = hostPlayerId then
      return .error "INVALID_ACTION" "Cannot transfer host to yourself"
    (← getPlayer r targetPlayerId).elim
      (return .error "PLAYER_NOT_FOUND" "Target player not found in room") fun target => do
      let player ← readPlayer r target
      if player.isConnected = false then
        return .error "PLAYER_DISCONNECTED" "Cannot transfer host to a disconnected player"
      if player.isSpectator then
        return .error "INVALID_TARGET" "Cannot transfer host to a spectator"
      let oldHost ← getPlayer r hostPlayerId
      let w ← read
      let oldHostName := (oldHost.map fun q => (w.player r q).name).getD "Host"
      put (.room r (.hostId targetPlayerId))
      redisCall
      let player ← readPlayer r target
      broadcast room.code
        (.hostChanged targetPlayerId player.name (some (hostPlayerId, oldHostName)))
      broadcastPlayerList r
      forwardRequests r target
      let player ← readPlayer r target
      return .hostTransferred targetPlayerId player.name

/-- `toggle_ready`. -/
def toggleReady (p : PlayerId) : M Message := do
  (← findRoomByPlayer p).elim (return notInRoom) fun r => do
    let room ← readRoom r
    if room.state ≠ .lobby then
      return .error "GAME_NOT_ACTIVE" "Ready toggle only available in lobby"
    (← getPlayer r p).elim (return .error "PLAYER_NOT_FOUND" "Player not found") fun q => do
      let player ← readPlayer r q
      put (.player r q (.isReady (!player.isReady)))
      let w ← read
      broadcast room.code (.playerList (w.serializePlayersByIndex r))
      let player ← readPlayer r q
      return .readyToggled player.isReady

/-- The name check of `update_profile`: the error. -/
def Env.profileNameError (env : Env) (w : World) (r : RoomId) (p : PlayerId) (name : String) :
    Option Message :=
  if (env.strip name).length < 1 ∨ 20 < (env.strip name).length then
    some (.error "INVALID_NAME" "Name must be between 1 and 20 characters")
  else if (w.room r).players.any fun q =>
      q ≠ p && env.lower (w.player r q).name = env.lower (env.strip name) then
    some (.error "DUPLICATE_NAME" "Name already taken in this room")
  else none

/-- `update_profile`. -/
def updateProfile (env : Env) (p : PlayerId) (name avatar : Option String) : M Message := do
  (← findRoomByPlayer p).elim (return notInRoom) fun r => do
    let room ← readRoom r
    if room.state ≠ .lobby then
      return .error "GAME_NOT_ACTIVE" "Profile changes only allowed in lobby"
    (← getPlayer r p).elim (return .error "PLAYER_NOT_FOUND" "Player not found") fun q => do
      let w ← read
      (name.bind (env.profileNameError w r p)).elim (do
        name.elim (return ()) fun s => put (.player r q (.name (env.strip s)))
        avatar.elim (return ()) fun s => put (.player r q (.avatar s))
        let w ← read
        broadcast room.code (.playerList (w.serializePlayersByIndex r))
        let player ← readPlayer r q
        return .profileUpdated q player.name player.avatar)
        fun error => return error

instance (p q : PlayerId) [Has .raises S] : Coro.Within (fp S) (transferHost p q) := by
  unfold transferHost; dsimp only; infer_instance

instance (p : PlayerId) : Coro.Within (fp S) (toggleReady p) := by
  unfold toggleReady; infer_instance

instance (env : Env) (p : PlayerId) (name avatar : Option String) [Has .names S] :
    Coro.Within (fp S) (updateProfile env p name avatar) := by
  unfold updateProfile; infer_instance

/-! ## From spectator to player -/

/-- `max(0, 2 - player.become_player_requests_count)`. -/
def Player.requestsRemaining (player : Player) : Nat := 2 - player.becomePlayerRequestsCount

/-- Drop a pending spectator-role request from the manager's map and from a room's. -/
def dropRoleRequest (r : RoomId) (requestId : RequestId) : M Unit := do
  let w ← read
  put (.pendingSpectatorRoleRequests
    (w.pendingSpectatorRoleRequests.filter (·.1 ≠ requestId)))
  put (.room r (.pendingSpectatorRoleRequests
    ((w.room r).pendingSpectatorRoleRequests.filter (·.1 ≠ requestId))))

/-- `request_become_player`. -/
def requestBecomePlayer (p : PlayerId) : M Message := do
  (← findRoomByPlayer p).elim (return .error "ROOM_NOT_FOUND" "Player is not in a room") fun r => do
    let found ← getPlayer r p
    let w ← read
    let player := w.player r p
    if !found.any fun _ => player.isConnected then
      return .error "PLAYER_NOT_FOUND" "Player not found or disconnected"
    if player.isSpectator = false then
      return .error "ALREADY_PLAYER" "You are already an active player"
    if 2 ≤ player.becomePlayerRequestsCount then
      return .error "MAX_REQUESTS_EXCEEDED"
        "You have reached the maximum of 2 player join requests for this game."
    if (w.room r).pendingSpectatorRoleRequests.any (·.2.playerId = p) then
      return .error "REQUEST_ALREADY_PENDING"
        "Your request to join as a player is already pending host approval."
    if w.playersFull r then
      return .error "ROOM_FULL" "Room has reached maximum active players."
    put (.player r p (.becomePlayerRequestsCount (player.becomePlayerRequestsCount + 1)))
    let requestId ← uuid4
    let t ← createTask (.roleTimeout requestId r p) 45
    let code := (w.room r).code
    let request : PendingSpectatorRoleRequest :=
      ⟨requestId, code, p, player.name, player.avatar, w.now, some (r, t)⟩
    put (.pendingSpectatorRoleRequests
      (w.pendingSpectatorRoleRequests ++ [(requestId, request)]))
    put (.room r (.pendingSpectatorRoleRequests
      ((w.room r).pendingSpectatorRoleRequests ++ [(requestId, request)])))
    (← getPlayer r (w.room r).hostId).elim (return ()) fun host =>
      sendToPlayer r host
        (.spectatorRoleRequestReceived requestId p player.name player.avatar code) false
    let player ← readPlayer r p
    return .becomePlayerRequestPending requestId player.requestsRemaining

/-- `_expire_request`, after its sleep. -/
def expireRoleRequest (requestId : RequestId) (r : RoomId) (p : PlayerId) : M Unit := do
  let w ← read
  dropRoleRequest r requestId
  let player ← readPlayer r p
  Coro.when (w.pendingSpectatorRoleRequests.any (·.1 = requestId)) <|
    sendToPlayer r p (.spectatorRoleRequestDeclined requestId "expired"
      "Host did not respond in time." player.requestsRemaining) false
  broadcast (w.room r).code (.spectatorRoleRequestResolved (some requestId) "expired" none)

/-- The promotion in `respond_spectator_role_request`. -/
def promoteSpectator (r : RoomId) (p : PlayerId) (requestId : RequestId) : M Message := do
  put (.player r p (.isSpectator false))
  put (.player r p (.score 0))
  put (.player r p (.hasGuessed false))
  let room ← readRoom r
  broadcastPlayerList r
  let player ← readPlayer r p
  broadcast room.code
    (.systemMessage ("🎮 " ++ player.name ++ " joined the game as an active player!"))
  broadcast room.code (.spectatorRoleRequestResolved (some requestId) "accepted" (some p))
  return .spectatorRoleRequestResolved (some requestId) "accepted" (some p)

/-- `respond_spectator_role_request`. -/
def respondSpectatorRoleRequest (hostPlayerId : PlayerId) (requestId : RequestId)
    (action : String) : M Message := do
  let w ← read
  ((w.pendingSpectatorRoleRequests.find? (·.1 = requestId)).map (·.2)).elim
    (return .error "REQUEST_NOT_FOUND" "Spectator request not found or expired") fun request =>
  (w.roomOf request.roomCode).elim (return .error "ROOM_NOT_FOUND" "Room not found") fun r => do
    if (w.room r).hostId ≠ hostPlayerId then
      return .error "PERMISSION_DENIED" "Only the host can respond to requests"
    cancelRoleTimeout request
    dropRoleRequest r requestId
    let found ← getPlayer r request.playerId
    let player ← readPlayer r request.playerId
    if action = "decline" then
      found.elim (return ()) fun p =>
        sendToPlayer r p (.spectatorRoleRequestDeclined requestId "declined"
          "The host declined your request to join as a player." player.requestsRemaining) false
      broadcast (w.room r).code (.spectatorRoleRequestResolved (some requestId) "declined" none)
      return .spectatorRoleRequestResolved (some requestId) "declined" none
    else if !found.any fun _ => player.isConnected then
      return .error "PLAYER_NOT_FOUND" "Player disconnected before approval"
    else if w.playersFull r then
      return .error "ROOM_FULL" "Room has reached maximum active players."
    else promoteSpectator r request.playerId requestId

/-- `cancel_spectator_role_request`. -/
def cancelSpectatorRoleRequest (p : PlayerId) (requestId : Option RequestId) : M Message := do
  (← findRoomByPlayer p).elim
    (return .spectatorRoleRequestResolved none "cancelled" none) fun r => do
    let room ← readRoom r
    ((room.pendingSpectatorRoleRequests.find? fun x =>
      x.2.playerId = p ∧ requestId.all (· = x.1)).map (·.2)).elim
      (return .spectatorRoleRequestResolved none "cancelled" none) fun request => do
      dropRoleRequest r request.requestId
      cancelRoleTimeout request
      let resolved : Message :=
        .spectatorRoleRequestResolved (some request.requestId) "cancelled" none
      broadcast room.code resolved
      return resolved

instance (r : RoomId) (requestId : RequestId) [Has .roles S] :
    Coro.Within (fp S) (dropRoleRequest r requestId) := by unfold dropRoleRequest; infer_instance

instance (p : PlayerId) [Has .roles S] : Coro.Within (fp S) (requestBecomePlayer p) := by
  unfold requestBecomePlayer; dsimp only; infer_instance

instance (requestId : RequestId) (r : RoomId) (p : PlayerId) [Has .roles S] :
    Coro.Within (fp S) (expireRoleRequest requestId r p) := by
  unfold expireRoleRequest; infer_instance

instance (r : RoomId) (p : PlayerId) (requestId : RequestId) [Has .spectator S] [Has .ending S]
    [Has .guessed S] : Coro.Within (fp S) (promoteSpectator r p requestId) := by
  unfold promoteSpectator; infer_instance

instance (p : PlayerId) (requestId : RequestId) (action : String) [Has .roles S]
    [Has .spectator S] [Has .ending S] [Has .guessed S] :
    Coro.Within (fp S) (respondSpectatorRoleRequest p requestId action) := by
  unfold respondSpectatorRoleRequest; infer_instance

instance (p : PlayerId) (requestId : Option RequestId) [Has .roles S] :
    Coro.Within (fp S) (cancelSpectatorRoleRequest p requestId) := by
  unfold cancelSpectatorRoleRequest; dsimp only; infer_instance

end Skribbl.Backend
