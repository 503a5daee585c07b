import Skribbl.Backend.VoteKick

/-!
# Disconnections and reconnections (`backend/room_manager.py`, `backend/ws_handler.py`,
`backend/grpc_server.py`)

* `handleDisconnect` — `handle_disconnect`, split at its `await`s: `markDisconnected`,
  `voteKickOnDisconnect`, `scheduleCleanup`, `gameOnDisconnect`.
* `reassignHostIfDisconnected` — `_reassign_host_if_disconnected`.
* `handleReconnect` — `handle_reconnect`.
* `permanentlyRemovePlayer` — `_permanently_remove_player`.
* `websocketClosed`, `clientDisconnected`, `cleanupStream` — the three teardown paths: the `finally`
  block of `websocket_handler`, the message `client_disconnected`, and `_cleanup_stream`.
-/

set_option autoImplicit false
set_option synthInstance.maxSize 100000

namespace Skribbl.Backend

variable {S : List Eff}

/-! ## Disconnection -/

/-- Mark a player as disconnected. -/
def markDisconnected (r : RoomId) (p : PlayerId) : M Unit := do
  let w ← read
  mark (.disconnects r p)
  put (.player r p (.disconnect w.now))

/-- The host has disconnected: delete an idle room that nobody is connected to, or schedule the
choice of another host.  Says whether the room was deleted. -/
def hostOnDisconnect (r : RoomId) (p : PlayerId) : M Bool := do
  let w ← read
  if (w.room r).hostId ≠ p then return false
  if w.connected r = [] then
    if (w.room r).state = .lobby ∨ (w.room r).state = .gameOver then
      deleteRoom (w.room r).code
      return true
    else return false
  else do
    cancel (.reassignHost (w.room r).code p) (w.player r p).hostReassignTask
    let t ← createTask (.reassignHost (w.room r).code p) 3
    put (.player r p (.hostReassignTask (some t)))
    return false

/-- Schedule the permanent removal of a player. -/
def scheduleCleanup (r : RoomId) (p : PlayerId) : M Unit := do
  let t ← createTask (.cleanup p) 120
  put (.player r p (.cleanupTask (some t)))

/-- The part of `handle_disconnect` that is about the game. -/
def gameOnDisconnect (env : Env) (r : RoomId) (p : PlayerId) : M Unit := do
  let w ← read
  Coro.when ((w.room r).state = .playing ∨ (w.room r).state = .wordSelection) <|
    if (w.room r).turn.any (fun turn => turn.drawerId = p) then endTurn env r .drawerDisconnected
    else if (w.connectedActive r).length < 2 then endGameInsufficientPlayers r
    else (w.room r).turn.elim (return ()) fun turn =>
      Coro.when ((w.room r).state = .playing ∧ w.allGuessed r turn.drawerId = true)
        (endTurn env r .allGuessed)

/-- `handle_disconnect`. -/
def handleDisconnect (env : Env) (p : PlayerId) : M Unit := do
  (← findRoomByPlayer p).elim (cancelPendingJoinRequest p) fun r => do
    let room ← readRoom r
    Coro.when (p ∈ room.players) do
      markDisconnected r p
      Coro.frame (.disconnecting r p) (voteKickOnDisconnect env r p)
      let deleted ← Coro.frame (.disconnecting r p) (hostOnDisconnect r p)
      Coro.when (deleted = false) do
        scheduleCleanup r p
        broadcastPlayerList r
        gameOnDisconnect env r p

/-- A dict of `room` may not change its size while a loop goes over it. -/
def checkSize (r : RoomId) (size : Room → Nat) (n : Nat) : M Unit := do
  let room ← readRoom r
  Coro.when (size room ≠ n) (raise "RuntimeError")

/-- `if new_host.websocket: await new_host.websocket.send_text(…)`. -/
def sendToHost (r : RoomId) (host : PlayerId) (m : Message) : M Unit := do
  let player ← readPlayer r host
  player.websocket.elim (return ()) fun ws => sendText ws m false

/-- Forward the pending requests of a room to its new host. -/
def forwardRequests (r : RoomId) (host : PlayerId) : M Unit := do
  let room ← readRoom r
  Coro.each room.pendingJoinRequests fun x => do
    sendToHost r host (.joinRequestReceived x.1 x.2.name x.2.avatar room.code)
    checkSize r (·.pendingJoinRequests.length) room.pendingJoinRequests.length
  let room ← readRoom r
  Coro.each room.pendingSpectatorRoleRequests fun x => do
    sendToHost r host
      (.spectatorRoleRequestReceived x.1 x.2.playerId x.2.name x.2.avatar room.code)
    checkSize r (·.pendingSpectatorRoleRequests.length) room.pendingSpectatorRoleRequests.length

/-- `_reassign_host_if_disconnected`. -/
def reassignHostIfDisconnected (code : String) (oldHostId : PlayerId) : M Unit := do
  let w ← read
  (w.roomOf code).elim (return ()) fun r => do
    if (w.room r).hostId ≠ oldHostId then return ()
    let oldHost ← getPlayer r oldHostId
    if oldHost.any fun p => (w.player r p).isConnected then return ()
    (w.eligibleHosts r).head?.elim
      (Coro.when ((w.room r).state = .lobby ∨ (w.room r).state = .gameOver) (deleteRoom code))
      fun newHost => do
        changeHost r [newHost]
        broadcastPlayerList r
        let player ← readPlayer r newHost
        broadcast code (.systemMessage ("👑 " ++ player.name ++ " is now the room host."))
        redisCall
        forwardRequests r newHost

/-! ## Reconnection -/

/-- The player that `handle_reconnect` finds for a name: a disconnected one, or any. -/
def World.reconnectTarget (w : World) (r : RoomId) (name : String) : Option PlayerId :=
  ((w.room r).players.find? fun p =>
    (w.player r p).name = name ∧ (w.player r p).isConnected = false).or
    ((w.room r).players.find? fun p => (w.player r p).name = name)

/-- Fast reconnect: close the WebSocket that the player still holds.  A `VirtualTransport` has no
`close`. -/
def closeOldSocket (r : RoomId) (p : PlayerId) (ws : WsId) : M Unit := do
  let w ← read
  Coro.when ((w.player r p).isConnected = true) <|
    (w.player r p).websocket.elim (return ()) fun old =>
      Coro.when (old ≠ ws ∧ (w.transport old).queue = none) do
        let _ ← createTask (.closeSocket old) 0

/-- Cancel the cleanup task of a player, if it is not done, and forget it. -/
def cancelCleanup (r : RoomId) (p : PlayerId) : M Unit := do
  let w ← read
  (w.player r p).cleanupTask.elim (return ()) fun t =>
    Coro.when (w.pendingTask ⟨.cleanup p, t⟩) do
      cancel (.cleanup p) (some t)
      put (.player r p (.cleanupTask none))

/-- Cancel the task that would choose another host, if it is not done, and forget it. -/
def cancelHostReassign (r : RoomId) (p : PlayerId) : M Unit := do
  let w ← read
  (w.player r p).hostReassignTask.elim (return ()) fun t =>
    Coro.when (w.pendingTask ⟨.reassignHost (w.room r).code p, t⟩) do
      cancel (.reassignHost (w.room r).code p) (some t)
      put (.player r p (.hostReassignTask none))

/-- The part of `handle_reconnect` that gives the player its new connection. -/
def restoreConnection (r : RoomId) (p : PlayerId) (ws : WsId) (avatar : Option String) :
    M Unit := do
  cancelCleanup r p
  cancelHostReassign r p
  mark (.connects r p (some ws))
  put (.player r p (.connect ws))
  let player ← readPlayer r p
  Coro.when (player.avatar.getD "" = "") <|
    (avatar.filter (· ≠ "")).elim (return ()) fun s => put (.player r p (.avatar s))

/-- `handle_reconnect`. -/
def handleReconnect (name code : String) (ws : WsId) (avatar : Option String) : M Message := do
  let w ← read
  let found ← (w.roomOf code).elim (adoptSnapshot code) fun r => return some r
  found.elim (return .error "ROOM_NOT_FOUND" "Room not found") fun r => do
    let w ← read
    (w.reconnectTarget r name).elim
      (return .error "RECONNECT_FAILED"
        "No disconnected player with that name found in this room") fun p => do
      closeOldSocket r p ws
      restoreConnection r p ws avatar
      let w ← read
      Coro.when (2 ≤ (w.connected r).length) do
        let cancelled ← cancelCountdown r
        Coro.when (cancelled = true) (broadcast (w.room r).code .reconnectResumed)
      let player ← readPlayer r p
      broadcast (w.room r).code (.playerReconnected p player.name)
      broadcastPlayerList r
      let w ← read
      let room := w.room r
      return .reconnected code p (w.player r p).score (p = room.hostId) (w.serializePlayers r)
        (serializeConfig room.config) room.state room.currentRound room.hostId
        (room.turn.map (·.drawerId)) ((room.turn.map (·.hint)).getD [])

/-! ## Permanent removal -/

/-- `_permanently_remove_player`. -/
def permanentlyRemovePlayer (p : PlayerId) : M Unit := do
  (← findRoomByPlayer p).elim (return ()) fun r => do
    dropPlayer r p
    let w ← read
    if w.connected r = [] then deleteRoom (w.room r).code
    else do
      Coro.when ((w.room r).hostId = p) (changeHost r (w.eligibleHostsOrAny r))
      broadcastPlayerList r
      let w ← read
      Coro.when (((w.room r).state = .playing ∨ (w.room r).state = .wordSelection) ∧
        (w.connected r).length < 2) (endGameInsufficientPlayers r)

/-! ## Teardown of a connection -/

/-- The `finally` block of `websocket_handler` for a room of this worker: the connection `ws`, with
the player it was identified as. -/
def websocketClosed (env : Env) (ws : WsId) (playerId : Option PlayerId) : M Unit := do
  let w ← read
  let p := playerId.or ((w.wsToPlayer ws).map (·.1))
  Coro.when (p = none) (cancelPendingJoinRequestOf ws)
  put (.wsToPlayer ws none)
  p.elim (return ()) (handleDisconnect env)

/-- `client_disconnected` (and `leave_room` with the reason `disconnect`) on a gRPC stream. -/
def clientDisconnected (env : Env) (p : PlayerId) : M Unit := handleDisconnect env p

/-- `_cleanup_stream`: the players of a gRPC stream that has ended. -/
def cleanupStream (env : Env) (players : List PlayerId) : M Unit :=
  Coro.each players fun p => (handleDisconnect env p).attempt ()

/-! ## Footprints -/

instance (r : RoomId) (p : PlayerId) [Has .connection S] :
    Coro.Within (fp S) (markDisconnected r p) := by unfold markDisconnected; infer_instance

instance (r : RoomId) (p : PlayerId) [Has .rooms S] [Has .roles S] :
    Coro.Within (fp S) (hostOnDisconnect r p) := by unfold hostOnDisconnect; infer_instance

instance (r : RoomId) (p : PlayerId) [Has .cleanup S] :
    Coro.Within (fp S) (scheduleCleanup r p) := by unfold scheduleCleanup; infer_instance

instance (r : RoomId) (size : Room → Nat) (n : Nat) [Has .raises S] :
    Coro.Within (fp S) (checkSize r size n) := by unfold checkSize; infer_instance

instance (r : RoomId) (p : PlayerId) (m : Message) : Coro.Within (fp S) (sendToHost r p m) := by
  unfold sendToHost; infer_instance

instance (r : RoomId) (p : PlayerId) [Has .raises S] :
    Coro.Within (fp S) (forwardRequests r p) := by
  unfold forwardRequests; infer_instance

instance (code : String) (p : PlayerId) [Has .rooms S] [Has .roles S] [Has .raises S] :
    Coro.Within (fp S) (reassignHostIfDisconnected code p) := by
  unfold reassignHostIfDisconnected; infer_instance

instance (r : RoomId) (p : PlayerId) (ws : WsId) : Coro.Within (fp S) (closeOldSocket r p ws) := by
  unfold closeOldSocket; infer_instance

instance (r : RoomId) (p : PlayerId) [Has .cleanup S] : Coro.Within (fp S) (cancelCleanup r p) := by
  unfold cancelCleanup; infer_instance

instance (r : RoomId) (p : PlayerId) : Coro.Within (fp S) (cancelHostReassign r p) := by
  unfold cancelHostReassign; infer_instance

instance (r : RoomId) (p : PlayerId) (ws : WsId) (avatar : Option String) [Has .cleanup S]
    [Has .connection S] : Coro.Within (fp S) (restoreConnection r p ws avatar) := by
  unfold restoreConnection; infer_instance

instance (name code : String) (ws : WsId) (avatar : Option String) [Has .rooms S]
    [Has .members S] [Has .turn S] [Has .cleanup S] [Has .connection S] [Has .countdown S] :
    Coro.Within (fp S) (handleReconnect name code ws avatar) := by
  unfold handleReconnect; dsimp only; infer_instance

instance (p : PlayerId) [Has .members S] [Has .rooms S] [Has .roles S] [Has .countdown S] :
    Coro.Within (fp S) (permanentlyRemovePlayer p) := by
  unfold permanentlyRemovePlayer; infer_instance

instance (r : RoomId) (p : PlayerId) [h : Has .disconnecting S] :
    Has (Frame.disconnecting r p).eff S := ⟨h.out⟩

section Game

variable [Has .ending S] [Has .timers S] [Has .turn S] [Has .schedule S] [Has .state S]
  [Has .pending S] [Has .autoSelect S] [Has .countdown S] [Has .raises S]

instance (env : Env) (r : RoomId) (p : PlayerId) :
    Coro.Within (fp S) (gameOnDisconnect env r p) := by unfold gameOnDisconnect; infer_instance

variable [Has .connection S] [Has .disconnecting S] [Has .members S] [Has .rooms S] [Has .roles S]
  [Has .cleanup S]

instance (env : Env) (p : PlayerId) : Coro.Within (fp S) (handleDisconnect env p) := by
  unfold handleDisconnect; infer_instance

instance (env : Env) (ws : WsId) (p : Option PlayerId) :
    Coro.Within (fp S) (websocketClosed env ws p) := by
  unfold websocketClosed; dsimp only; infer_instance

instance (env : Env) (p : PlayerId) : Coro.Within (fp S) (clientDisconnected env p) := by
  unfold clientDisconnected; infer_instance

instance (env : Env) (l : List PlayerId) : Coro.Within (fp S) (cleanupStream env l) := by
  unfold cleanupStream; infer_instance

end Game

end Skribbl.Backend
