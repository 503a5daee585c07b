import Skribbl.Lib.EventLoop
import Skribbl.Backend.Lobby

/-!
# A worker (`backend/ws_handler.py`, `backend/grpc_server.py`)

* `Op` — what clients, gateways, other workers and the clock make a worker do; `Op.call` is the
  coroutine that runs it, with the reply to the connection that asked for it.
* `taskBody` — what a task does after its sleep.
* `worker` — the event loop of a worker.
* `World.start` — a worker that has just started.

Principal result: `worker_changes` — no step of the loop breaks `World.Extends`.
-/

set_option autoImplicit false
set_option synthInstance.maxSize 100000

namespace Skribbl.Backend

variable {S : List Eff}

/-! ## Replies -/

/-- The player and the room that an identity message names. -/
def Message.identity : Message → Option (PlayerId × String)
  | .roomCreated code p _ _ => some (p, code)
  | .roomJoined info => some (info.playerId, info.roomCode)
  | .reconnected code p _ _ _ _ _ _ _ _ _ => some (p, code)
  | _ => none

/-- `_rebind_transport`. -/
def rebindTransport (ws : WsId) (m : Message) : M Unit := do
  let w ← read
  let t := w.transport ws
  (m.identity.filter fun _ => t.queue.isSome).elim (return ()) fun x =>
    put (.transport ws
      { t with playerId := x.1, roomCode := if t.roomCode = "" then x.2 else t.roomCode })

/-- Send the result of an identity message, then rebind the transport. -/
def answerIdentity (ws : WsId) (c : M Message) : M Unit := do
  let m ← c
  sendText ws m false
  rebindTransport ws m

/-- Send the result. -/
def answer (ws : WsId) (c : M Message) : M Unit := do
  let m ← c
  sendText ws m false

/-- Send the result if it is an error. -/
def answerError (ws : WsId) (c : M Message) : M Unit := do
  let m ← c
  Coro.when (m.isError = true) (sendText ws m false)

/-! ## Relayed messages -/

/-- Broadcast a message of a player to its room, if `ok` says so. -/
def relay (p : PlayerId) (ok : World → RoomId → Bool) (m : World → RoomId → Message) : M Unit := do
  (← findRoomByPlayer p).elim (return ()) fun r => do
    let w ← read
    Coro.when (ok w r = true) (broadcast (w.room r).code (m w r))

/-- There is a turn, and `p` draws in it. -/
def World.isDrawer (w : World) (p : PlayerId) (r : RoomId) : Bool :=
  (w.room r).turn.any fun turn => turn.drawerId = p

/-- `p` is a player of the room. -/
def World.isMember (w : World) (p : PlayerId) (r : RoomId) : Bool :=
  p ∈ (w.room r).playersById || p ∈ (w.room r).players

/-- The message `chat`. -/
def chat (env : Env) (p : PlayerId) (text : String) : M Unit := do
  (← findRoomByPlayer p).elim (return ()) fun r => do
    let room ← readRoom r
    if room.state = .lobby then
      (← getPlayer r p).elim (return ()) fun q => do
        let player ← readPlayer r q
        broadcastChat room.code player.name text false
    else handleChat env r p text

/-! ## What a worker can be made to do -/

/-- A call of a worker.  `ws` is the connection that it came from; a player is named as the caller
names it. -/
inductive Op where
  | createRoom (draws : List String) (name : String) (ws : WsId) (avatar password : Option String)
      (maxPlayers : Option Int)
  | joinRoom (name code : String) (ws : WsId) (avatar : Option String) (asSpectator : Bool)
      (password : Option String) (remote : Option Message)
  | reconnect (name code : String) (ws : WsId) (avatar : Option String)
  | cancelJoinRequest (x : Ident)
  | cancelJoinRequestOf (ws : WsId)
  | updateSettings (p : PlayerId) (settings : List (String × Value)) (ws : WsId)
  | startGame (p : PlayerId) (ws : WsId)
  | selectWord (p : PlayerId) (word : String)
  | guess (p : PlayerId) (text : String)
  | chat (p : PlayerId) (text : String)
  /-- A drawing message; the gRPC path relays some of them without looking at the drawer. -/
  | draw (p : PlayerId) (kind : DrawType) (payload : String) (drawerOnly : Bool)
  | clearCanvas (p : PlayerId) (drawerOnly : Bool)
  | kickPlayer (p target : PlayerId) (ws : WsId)
  | voteKick (p target : PlayerId) (ws : WsId)
  | voteKickCast (p : PlayerId) (yes : Bool) (ws : WsId)
  | transferHost (p target : PlayerId) (ws : WsId)
  | respondJoinRequest (p : PlayerId) (requestId : RequestId) (action : String) (ws : WsId)
  | requestBecomePlayer (p : PlayerId) (ws : WsId)
  | respondSpectatorRoleRequest (p : PlayerId) (requestId : RequestId) (action : String)
      (ws : WsId)
  | cancelSpectatorRoleRequest (p : PlayerId) (requestId : Option RequestId) (ws : WsId)
  | leaveRoom (p : PlayerId) (ws : WsId)
  | reaction (p : PlayerId) (emoji : String)
  | typing (p : PlayerId) (isTyping : Bool)
  | toggleReady (p : PlayerId) (ws : WsId)
  | updateProfile (p : PlayerId) (name avatar : Option String) (ws : WsId)
  | rematch (p : PlayerId) (ws : WsId)
  | endGameNow (p : PlayerId) (ws : WsId)
  /-- `leave_room`, forwarded by another worker. -/
  | forwardedLeave (p : PlayerId)
  | websocketClosed (ws : WsId) (p : Option PlayerId)
  | clientDisconnected (p : PlayerId)
  | cleanupStream (players : List PlayerId)
  /-- Another worker saves a snapshot of a room. -/
  | snapshotSaved (code : String) (x : RoomSnapshot)
  /-- Time passes. -/
  | sleep (d : ℚ)

/-- The coroutine that handles a call. -/
def Op.call (env : Env) : Op → M Unit
  | .createRoom draws name ws avatar password maxPlayers =>
    answerIdentity ws (Backend.createRoom env draws name ws avatar password maxPlayers)
  | .joinRoom name code ws avatar asSpectator password remote =>
    answerIdentity ws (Backend.joinRoom env name code ws avatar asSpectator password remote)
  | .reconnect name code ws avatar => answerIdentity ws (handleReconnect name code ws avatar)
  | .cancelJoinRequest x => cancelPendingJoinRequest x
  | .cancelJoinRequestOf ws => cancelPendingJoinRequestOf ws
  | .updateSettings p settings ws => answerError ws (Backend.updateSettings env p settings)
  | .startGame p ws => startGameAndTurn env p ws
  | .selectWord p word => do
    (← findRoomByPlayer p).elim (return ()) fun r => handleWordSelection env r p word
  | .guess p text => do
    (← findRoomByPlayer p).elim (return ()) fun r => handleGuess env r p text
  | .chat p text => Backend.chat env p text
  | .draw p kind payload drawerOnly =>
    relay p (fun w r => !drawerOnly || w.isDrawer p r) fun _ _ => .draw kind payload
  | .clearCanvas p drawerOnly =>
    relay p (fun w r => !drawerOnly || w.isDrawer p r) fun _ _ => .clearCanvas
  | .kickPlayer p target ws => answerError ws (Backend.kickPlayer p target)
  | .voteKick p target ws => answerError ws (startVoteKick env p target)
  | .voteKickCast p yes ws => answerError ws (castVoteKick env p yes)
  | .transferHost p target ws => answer ws (Backend.transferHost p target)
  | .respondJoinRequest p requestId action ws =>
    answer ws (Backend.respondJoinRequest p requestId action)
  | .requestBecomePlayer p ws => answer ws (Backend.requestBecomePlayer p)
  | .respondSpectatorRoleRequest p requestId action ws =>
    answer ws (Backend.respondSpectatorRoleRequest p requestId action)
  | .cancelSpectatorRoleRequest p requestId ws =>
    answer ws (Backend.cancelSpectatorRoleRequest p requestId)
  | .leaveRoom p ws => answer ws (Backend.leaveRoom p)
  | .reaction p emoji =>
    relay p (fun w r => w.isMember p r) fun w r => .reaction (w.player r p).name emoji
  | .typing p isTyping =>
    relay p (fun w r => w.isMember p r) fun w r => .typing p (w.player r p).name isTyping
  | .toggleReady p ws => answerError ws (Backend.toggleReady p)
  | .updateProfile p name avatar ws => answerError ws (Backend.updateProfile env p name avatar)
  | .rematch p ws => answerError ws (handleRematch p)
  | .endGameNow p ws => Backend.endGameNow p ws
  | .forwardedLeave p => removePlayer p
  | .websocketClosed ws p => Backend.websocketClosed env ws p
  | .clientDisconnected p => Backend.clientDisconnected env p
  | .cleanupStream players => Backend.cleanupStream env players
  | .snapshotSaved code x => put (.snapshots code (some x))
  | .sleep d => put (.sleep d)

/-- What a task does after its sleep. -/
def taskBody (env : Env) (t : TaskId) : M Unit :=
  match t.kind with
  | .autoSelect r drawerId => autoSelect env r drawerId
  | .revealHint r turnId => revealHint r turnId
  | .turnTimer r turnId => turnTimer env r turnId
  | .cleanup p => permanentlyRemovePlayer p
  | .reassignHost code p => reassignHostIfDisconnected code p
  | .endAfterWait r => endAfterWait r
  | .joinTimeout requestId => handleJoinRequestTimeout requestId
  | .roleTimeout requestId r p => expireRoleRequest requestId r p
  | .voteTimeout code targetId => handleVoteKickTimeout code targetId
  | .closeSocket _ => return ()

/-- The task sleeps and its time has come. -/
def World.isDue (w : World) (t : TaskId) : Bool :=
  (w.task t).status = .sleeping ∧ (w.task t).due ≤ w.now

/-- A task in another status. -/
def World.setStatus (t : TaskId) (status : TaskStatus) (w : World) : World :=
  { w with task := Function.update w.task t { w.task t with status := status } }

/-- **The event loop of a worker.** -/
def worker (env : Env) : Loop World Frame Mark TaskId Op where
  call := Op.call env
  body := taskBody env
  due t w := w.isDue t
  start t w := w.setStatus t .running
  finish t w := w.setStatus t .done
  cancelled t w := (w.task t).cancelRequested

/-- A worker that has just started: the connections that it will get, and what Redis holds. -/
def World.start (transport : WsId → Transport) (redis : Bool) (oracle : List Nat)
    (snapshots : String → Option RoomSnapshot) : World where
  room := fun _ => { code := "", hostId := .other "" }
  player := fun _ p => { id := p, name := "" }
  transport := transport
  redis := redis
  oracle := oracle
  snapshots := snapshots

/-- The configuration of a worker that has just started. -/
def startConfig (w : World) : Config World Frame Mark TaskId := ⟨w, none, [], []⟩

/-! ## Footprints -/

instance (ws : WsId) (m : Message) : Coro.Within (fp S) (rebindTransport ws m) := by
  unfold rebindTransport; dsimp only; infer_instance

instance (ws : WsId) (c : M Message) [Coro.Within (fp S) c] :
    Coro.Within (fp S) (answerIdentity ws c) := by unfold answerIdentity; infer_instance

instance (ws : WsId) (c : M Message) [Coro.Within (fp S) c] :
    Coro.Within (fp S) (answer ws c) := by unfold answer; infer_instance

instance (ws : WsId) (c : M Message) [Coro.Within (fp S) c] :
    Coro.Within (fp S) (answerError ws c) := by unfold answerError; infer_instance

instance (p : PlayerId) (ok : World → RoomId → Bool) (m : World → RoomId → Message) :
    Coro.Within (fp S) (relay p ok m) := by unfold relay; infer_instance

instance (env : Env) (p : PlayerId) (text : String) : Coro.Within (fp S) (chat env p text) := by
  unfold chat; infer_instance

/-- Everything a worker may write. -/
def allEffs : List Eff :=
  [.rooms, .members, .state, .schedule, .turn, .timers, .pending, .autoSelect, .countdown,
    .players, .connection, .cleanup, .guessed, .spectator, .names, .roles, .clock, .ending,
    .disconnecting, .raises]

instance (x : Eff) : Has x allEffs := ⟨by cases x <;> decide⟩

instance (env : Env) (o : Op) : Coro.Within (fp allEffs) (o.call env) := by
  cases o <;> unfold Op.call <;> infer_instance

instance (env : Env) (t : TaskId) : Coro.Within (fp allEffs) (taskBody env t) := by
  obtain ⟨kind, n⟩ := t
  cases kind <;> unfold taskBody <;> dsimp only <;> infer_instance

/-- A task that still sleeps has not been given another status. -/
theorem World.task_of_setStatus {t t' : TaskId} {status : TaskStatus} (h : status ≠ .sleeping)
    {w : World} (ht : (w.setStatus t status).Live t') :
    (w.setStatus t status).task t' = w.task t' := by
  by_cases hne : t' = t
  · subst hne
    simp [World.Live, World.setStatus, h] at ht
  · simp [World.setStatus, Function.update_of_ne hne]

/-- A status other than `sleeping` extends the state. -/
theorem World.setStatus_extends (t : TaskId) {status : TaskStatus} (h : status ≠ .sleeping)
    (w : World) : w.Extends (w.setStatus t status) := by
  refine ⟨le_rfl, le_rfl, le_rfl, le_rfl, le_refl w.now, fun t' _ ht' => ?_, fun hf t' ht' hl => ?_⟩
  · have ht := World.task_of_setStatus h ht'
    rw [World.Live, ht] at ht'
    rw [ht]
    exact ⟨ht', rfl, rfl⟩
  · rw [World.Live, World.task_of_setStatus h hl] at hl
    exact hf t' ht' hl

/-- **Every step of a worker extends its state.** -/
theorem worker_changes (env : Env) :
    (worker env).Changes (fp allEffs) World.Extends where
  call o := inferInstanceAs (Coro.Within (fp allEffs) (o.call env))
  body t := inferInstanceAs (Coro.Within (fp allEffs) (taskBody env t))
  change _ _ h := h.1
  start t w _ := w.setStatus_extends t (by decide)
  finish t w := w.setStatus_extends t (by decide)
  refl := World.Extends.refl
  trans _ _ _ h h' := h.trans h'

/-! ## A sample worker -/

/-- String functions that do on short lower-case words what Python's do. -/
def sampleEnv : Env where
  lower := id
  strip := id
  split s := [s]
  isalnum _ := true
  replaceIgnoreCase _ _ text := text
  wordPacks := [⟨⟨"animals", "Animals", "🐾"⟩, ["cat", "dog", "owl"]⟩]
  wordPacks_ne := by decide
  words_ne := by decide

/-- A worker that has just started, without Redis; all its connections are WebSockets. -/
def sampleWorld : World := World.start (fun _ => {}) false [] fun _ => none

/-- `n` players come together in a room: player `i` has the id `.uuid i` and the connection `i`. -/
def sampleLobby (n : Nat) : List (Loop.Choice TaskId Op × List Bool) :=
  (.call (.createRoom ["ROOM01"] "p0" 0 none none none), []) ::
    (List.range (n - 1)).map fun i => (.call (.joinRoom ("p" ++ toString (i + 1)) "ROOM01" (i + 1)
      none false none none), [])

/-- The first of them starts the game, and chooses the word. -/
def sampleTurn (n : Nat) : List (Loop.Choice TaskId Op × List Bool) :=
  sampleLobby n ++
    [(.call (.startGame (.uuid 0) 0), []), (.call (.selectWord (.uuid 0) "cat"), [])]

end Skribbl.Backend
