import Skribbl.Lib.Execution
import Skribbl.Backend.Worker

/-!
# The three dispatchers (`backend/ws_handler.py`, `backend/grpc_server.py`,
`backend/room_manager.py`)

A message of a player reaches the game over a WebSocket, over the stream of a gateway, or forwarded
by the worker that the player is connected to.

* `ClientMessage` — the messages of a player that is in a room, with their payloads.
* `handleLocalMessage`, `dispatchMessage`, `handleForwardedMessage` — `_handle_local_message`,
  `_dispatch_message`, `_handle_forwarded_message`.
* `SameFate` — two calls end in the same states, and raise the same exceptions.
* `Uniform` — the messages that the dispatchers treat alike.

Principal results: `alike_of_uniform` — the dispatchers treat a uniform message alike, and a drawing
message only if it is uniform; `leave_differs` — a player that leaves during a game.
-/

set_option autoImplicit false
set_option synthInstance.maxSize 100000

namespace Skribbl.Backend

open Coro

/-- A message of a player that is in a room.  `unknown` is a type that no dispatcher knows. -/
inductive ClientMessage where
  | updateSettings (settings : List (String × Value))
  | startGame
  | selectWord (word : String)
  | guess (text : String)
  | chat (text : String)
  | draw (kind : DrawType) (payload : String)
  | clearCanvas
  | kickPlayer (target : PlayerId)
  | voteKick (target : PlayerId)
  | voteKickCast (yes : Bool)
  | transferHost (target : PlayerId)
  | respondJoinRequest (requestId : RequestId) (action : String)
  | requestBecomePlayer
  | respondSpectatorRoleRequest (requestId : RequestId) (action : String)
  | cancelSpectatorRoleRequest (requestId : Option RequestId)
  /-- `disconnect` says whether the `reason` is `"disconnect"`. -/
  | leaveRoom (disconnect : Bool)
  | reaction (emoji : String)
  | typing (isTyping : Bool)
  | toggleReady
  | updateProfile (name avatar : Option String)
  | rematch
  | endGameNow
  | clientDisconnected
  /-- The `request_id`, if there is one, and the connection of the sender. -/
  | cancelJoinRequest (request : Option Ident) (ws : WsId)
  | unknown (type : String)

/-! ## The dispatchers -/

/-- How a dispatcher answers the sender. -/
abbrev Reply := Message → M Unit

/-- An operation without a result. -/
def done (c : M Unit) : M (Option Message) := do
  c
  return none

/-- An operation whose result is sent to the sender. -/
def replied (reply : Reply) (c : M Message) : M (Option Message) := do
  let m ← c
  reply m
  return some m

/-- An operation whose result is sent to the sender if it is an error. -/
def repliedError (reply : Reply) (c : M Message) : M (Option Message) := do
  let m ← c
  Coro.when (m.isError = true) (reply m)
  return some m

/-- An operation whose result is not looked at. -/
def discarded (c : M Message) : M (Option Message) := do
  let m ← c
  return some m

/-- Run `f` on the room of the player, if it has one. -/
def inRoom (p : PlayerId) (f : RoomId → M (Option Message)) : M (Option Message) := do
  (← findRoomByPlayer p).elim (return none) f

/-- A chat message in a room. -/
def chatIn (env : Env) (r : RoomId) (p : PlayerId) (text : String) : M Unit := do
  let room ← readRoom r
  if room.state = .lobby then
    (← getPlayer r p).elim (return ()) fun q => do
      let player ← readPlayer r q
      broadcastChat room.code player.name text false
  else handleChat env r p text

/-- `start_game`, with the first turn in the room of the player. -/
def startedGame (env : Env) (reply : Reply) (p : PlayerId) : M (Option Message) := do
  let result ← startGame p
  if result.isError then do
    reply result
    return some result
  else inRoom p fun r => do
    startTurn env r
    return some result

/-- The branch of `end_game_now` for the host. -/
def endGame (r : RoomId) : M Unit := do
  let _ ← cancelCountdown r
  endGameInsufficientPlayersImmediate r

/-- The message `end_game_now`. -/
def endedGame (reply : Reply) (p : PlayerId) : M (Option Message) :=
  inRoom p fun r => do
    let room ← readRoom r
    if room.hostId = p then done (endGame r)
    else replied reply (return .error "PERMISSION_DENIED" "Only the host can end the game")

/-- The answer to a message of a type that a dispatcher does not know. -/
def unknownMessage (type : String) : Message :=
  .error "UNKNOWN_MESSAGE" ("Unknown message type: " ++ type)

/-- A drawing message that is broadcast if `ok` says so. -/
def relayed (p : PlayerId) (ok : World → RoomId → Bool) (m : Message) : M (Option Message) :=
  done (relay p ok fun _ _ => m)

/-- `cancel_pending_join_request(request_id or websocket)`. -/
def cancelledJoin (request : Option Ident) (ws : WsId) : M (Option Message) :=
  done (request.elim (cancelPendingJoinRequestOf ws) cancelPendingJoinRequest)

/-- `_handle_local_message`. -/
def handleLocalMessage (env : Env) (reply : Reply) (p : PlayerId) :
    ClientMessage → M (Option Message)
  | .updateSettings settings => repliedError reply (updateSettings env p settings)
  | .startGame => startedGame env reply p
  | .selectWord word => inRoom p fun r => done (handleWordSelection env r p word)
  | .guess text => inRoom p fun r => done (handleGuess env r p text)
  | .chat text => inRoom p fun r => done (chatIn env r p text)
  | .draw kind payload => relayed p (fun w r => w.isDrawer p r) (.draw kind payload)
  | .clearCanvas => relayed p (fun w r => w.isDrawer p r) .clearCanvas
  | .kickPlayer target => repliedError reply (kickPlayer p target)
  | .voteKick target => repliedError reply (startVoteKick env p target)
  | .voteKickCast yes => repliedError reply (castVoteKick env p yes)
  | .transferHost target => replied reply (transferHost p target)
  | .respondJoinRequest requestId action => replied reply (respondJoinRequest p requestId action)
  | .requestBecomePlayer => repliedError reply (requestBecomePlayer p)
  | .respondSpectatorRoleRequest requestId action =>
    repliedError reply (respondSpectatorRoleRequest p requestId action)
  | .cancelSpectatorRoleRequest requestId =>
    repliedError reply (cancelSpectatorRoleRequest p requestId)
  | .leaveRoom _ => replied reply (leaveRoom p)
  | .reaction emoji =>
    done (relay p (fun w r => w.isMember p r) fun w r => .reaction (w.player r p).name emoji)
  | .typing isTyping =>
    done (relay p (fun w r => w.isMember p r) fun w r => .typing p (w.player r p).name isTyping)
  | .toggleReady => repliedError reply (toggleReady p)
  | .updateProfile name avatar => repliedError reply (updateProfile env p name avatar)
  | .rematch => repliedError reply (handleRematch p)
  | .endGameNow => endedGame reply p
  | .clientDisconnected => replied reply (return unknownMessage "client_disconnected")
  | .cancelJoinRequest _ _ => replied reply (return unknownMessage "cancel_join_request")
  | .unknown type => replied reply (return unknownMessage type)

/-- A drawing message that the gRPC path relays without looking at the drawer. -/
def DrawType.unchecked : DrawType → Bool
  | .stroke | .fill => true
  | .highlighter | .shape | .undo => false

/-- `_dispatch_message`. -/
def dispatchMessage (env : Env) (reply : Reply) (p : PlayerId) :
    ClientMessage → M (Option Message)
  | .updateSettings settings => repliedError reply (updateSettings env p settings)
  | .startGame => startedGame env reply p
  | .selectWord word => inRoom p fun r => done (handleWordSelection env r p word)
  | .guess text => inRoom p fun r => done (handleGuess env r p text)
  | .chat text => inRoom p fun r => done (chatIn env r p text)
  | .draw kind payload =>
    relayed p (fun w r => kind.unchecked || w.isDrawer p r) (.draw kind payload)
  | .clearCanvas => relayed p (fun _ _ => true) .clearCanvas
  | .kickPlayer target => repliedError reply (kickPlayer p target)
  | .voteKick target => repliedError reply (startVoteKick env p target)
  | .voteKickCast yes => repliedError reply (castVoteKick env p yes)
  | .transferHost target => replied reply (transferHost p target)
  | .respondJoinRequest requestId action => replied reply (respondJoinRequest p requestId action)
  | .requestBecomePlayer => replied reply (requestBecomePlayer p)
  | .respondSpectatorRoleRequest requestId action =>
    replied reply (respondSpectatorRoleRequest p requestId action)
  | .cancelSpectatorRoleRequest requestId =>
    replied reply (cancelSpectatorRoleRequest p requestId)
  | .leaveRoom true => done (handleDisconnect env p)
  | .leaveRoom false => replied reply (leaveRoom p)
  | .reaction emoji =>
    done (relay p (fun w r => w.isMember p r) fun w r => .reaction (w.player r p).name emoji)
  | .typing isTyping =>
    done (relay p (fun w r => w.isMember p r) fun w r => .typing p (w.player r p).name isTyping)
  | .toggleReady => repliedError reply (toggleReady p)
  | .updateProfile name avatar => repliedError reply (updateProfile env p name avatar)
  | .rematch => repliedError reply (handleRematch p)
  | .endGameNow => endedGame reply p
  | .clientDisconnected => done (handleDisconnect env p)
  | .cancelJoinRequest request ws => cancelledJoin request ws
  | .unknown type => replied reply (return unknownMessage type)

/-- The branches of `_handle_forwarded_message`, once the room and the player are found. -/
def forwardedMessage (env : Env) (r : RoomId) (p : PlayerId) :
    ClientMessage → M (Option Message)
  | .updateSettings settings => discarded (updateSettings env p settings)
  | .startGame => do
    let result ← startGame p
    Coro.when (result.isError = false) (startTurn env r)
    return some result
  | .selectWord word => done (handleWordSelection env r p word)
  | .guess text => done (handleGuess env r p text)
  | .chat text => done (chatIn env r p text)
  | .draw kind payload => do
    let room ← readRoom r
    done (Coro.when (kind.unchecked = true) (broadcast room.code (.draw kind payload)))
  | .clearCanvas => do
    let room ← readRoom r
    done (broadcast room.code .clearCanvas)
  | .kickPlayer target => discarded (kickPlayer p target)
  | .respondJoinRequest requestId action => discarded (respondJoinRequest p requestId action)
  | .requestBecomePlayer => discarded (requestBecomePlayer p)
  | .respondSpectatorRoleRequest requestId action =>
    discarded (respondSpectatorRoleRequest p requestId action)
  | .cancelSpectatorRoleRequest requestId => discarded (cancelSpectatorRoleRequest p requestId)
  | .leaveRoom _ => done (removePlayer p)
  | .reaction emoji => do
    let w ← read
    done (broadcast (w.room r).code (.reaction (w.player r p).name emoji))
  | .typing isTyping => do
    let w ← read
    done (broadcast (w.room r).code (.typing p (w.player r p).name isTyping))
  | .toggleReady => discarded (toggleReady p)
  | .updateProfile name avatar => discarded (updateProfile env p name avatar)
  | .rematch => discarded (handleRematch p)
  | .endGameNow => do
    let room ← readRoom r
    done (Coro.when (room.hostId = p) (endGame r))
  | .voteKick _ | .voteKickCast _ | .transferHost _ | .clientDisconnected | .cancelJoinRequest _ _
  | .unknown _ => return none

/-- `_handle_forwarded_message`; what its `try` does with an exception is left to the caller, as for
the other two. -/
def handleForwardedMessage (env : Env) (code : String) (p : PlayerId) (m : ClientMessage) :
    M (Option Message) := do
  let w ← read
  (w.roomOf code).elim (return none) fun r => do
    (← getPlayer r p).elim (return none) fun _ => forwardedMessage env r p m

/-- The part of `websocket_handler` that goes on to `_handle_local_message`: a message for a room of
another worker is forwarded to it. -/
def localOrForward (env : Env) (reply : Reply) (code : String) (p : PlayerId) (m : ClientMessage) :
    M (Option Message) := do
  let w ← read
  if (w.roomOf code).any (fun r => (w.room r).isProxy) = true then do
    redisCall
    return none
  else handleLocalMessage env reply p m

/-- The loop of `websocket_handler` for a player that is identified. -/
def receiveMessage (env : Env) (reply : Reply) (code : String) (p : PlayerId) :
    ClientMessage → M (Option Message)
  | .cancelJoinRequest request ws => cancelledJoin request ws
  | m => localOrForward env reply code p m

/-! ## Calls that end alike -/

/-- Called in `w`, the two end with the same results in the same states, whatever the others do
meanwhile. -/
def Alike {α : Type} (rely : World → World → Prop) (w : World) (c d : M α) : Prop :=
  ∀ x w', c.Ends rely w x w' ↔ d.Ends rely w x w'

/-- How a call has ended, whatever it returns. -/
def fate {α : Type} (x : Except String α) : Except String Unit := x.map fun _ => ()

/-- Called in `w`, the call may come to that end. -/
def EndsAs {α : Type} (rely : World → World → Prop) (w : World) (c : M α) (y : Except String Unit)
    (w' : World) : Prop := ∃ x, fate x = y ∧ c.Ends rely w x w'

/-- Called in `w`, the two come to the same ends, whatever the others do meanwhile.  A message that
is refused leaves the state as it is, so this is also whether it is accepted; the answer to the
sender is left out. -/
def SameFate {α β : Type} (rely : World → World → Prop) (w : World) (c : M α) (d : M β) : Prop :=
  ∀ y w', EndsAs rely w c y w' ↔ EndsAs rely w d y w'

/-- No answer. -/
def silent : Reply := fun _ => return ()

/-- The player sits in a room, and the maps find it. -/
structure World.Seated (w : World) (code : String) (r : RoomId) (p : PlayerId) : Prop where
  index : w.playerToRoom p = some code
  room : w.roomOf code = some r
  code : (w.room r).code = code
  member : p ∈ (w.room r).playersById

/-- The room belongs to this worker, the index has its members, and somebody in it is connected to
this worker. -/
structure World.Online (w : World) (r : RoomId) : Prop where
  members : ∀ q ∈ (w.room r).players, w.playerToRoom q = some (w.room r).code
  heard : ∃ q ∈ (w.room r).players,
    (w.player r q).isConnected = true ∧ (w.player r q).websocket ≠ none
  own : (w.room r).isProxy = false

variable {α : Type} {rely : World → World → Prop} {w w' : World} {code : String} {r : RoomId}
  {p : PlayerId} {x : Except String α} {env : Env}

theorem ends_read {f : World → M α} :
    (read >>= f).Ends rely w x w' ↔ (f w).Ends rely w x w' := Iff.rfl

theorem ends_readRoom {f : Room → M α} :
    (readRoom r >>= f).Ends rely w x w' ↔ (f (w.room r)).Ends rely w x w' := Iff.rfl

theorem ends_findRoomByPlayer (h : w.Seated code r p) {f : Option RoomId → M α} :
    (findRoomByPlayer p >>= f).Ends rely w x w' ↔ (f (some r)).Ends rely w x w' := by
  unfold findRoomByPlayer
  change (((w.playerToRoom p).elim _ fun code => return w.roomOf code) >>= f).Ends rely w x w' ↔ _
  rw [h.index, Option.elim_some, h.room]
  rfl

theorem ends_getPlayer (h : w.Seated code r p) {f : Option PlayerId → M α} :
    (getPlayer r p >>= f).Ends rely w x w' ↔ (f (some p)).Ends rely w x w' := by
  unfold getPlayer
  change ((if p ∈ (w.room r).playersById then _ else _) >>= f).Ends rely w x w' ↔ _
  rw [if_pos h.member]
  rfl

theorem ends_inRoom (h : w.Seated code r p) {f : RoomId → M (Option Message)}
    {x : Except String (Option Message)} :
    (inRoom p f).Ends rely w x w' ↔ (f r).Ends rely w x w' := ends_findRoomByPlayer h

theorem ends_forwarded (h : w.Seated code r p) {m : ClientMessage}
    {x : Except String (Option Message)} :
    (handleForwardedMessage env code p m).Ends rely w x w' ↔
      (forwardedMessage env r p m).Ends rely w x w' := by
  unfold handleForwardedMessage
  rw [ends_read, h.room, Option.elim_some, ends_getPlayer h]
  rfl

theorem ends_receive (h : w.Seated code r p) (hown : (w.room r).isProxy = false) {reply : Reply}
    {m : ClientMessage} {x : Except String (Option Message)} :
    (localOrForward env reply code p m).Ends rely w x w' ↔
      (handleLocalMessage env reply p m).Ends rely w x w' := by
  unfold localOrForward
  rw [ends_read, h.room, if_neg (by simp [hown])]

theorem ends_relay (h : w.Seated code r p) {ok : World → RoomId → Bool}
    {m : World → RoomId → Message} {x : Except String Unit} :
    (relay p ok m).Ends rely w x w' ↔
      (Coro.when (ok w r = true) (broadcast (w.room r).code (m w r))).Ends rely w x w' :=
  ends_findRoomByPlayer h

/-- Without an answer, it makes no difference when the sender is answered. -/
theorem repliedError_silent (c : M Message) : repliedError silent c = discarded c := by
  unfold repliedError discarded
  congr 1
  funext m
  cases m.isError <;> rfl

theorem Alike.done {c d : M Unit} (h : Alike rely w c d) :
    Alike rely w (done c) (done d) := by
  intro x w'
  unfold Backend.done
  rw [ends_bind, ends_bind]
  simp only [h _ _]

/-- What is made of the result makes no difference to the end. -/
theorem endsAs_map {β : Type} (c : M α) (g : α → β) {y : Except String Unit} :
    EndsAs rely w (c >>= fun a => Pure.pure (g a)) y w' ↔ EndsAs rely w c y w' := by
  constructor
  · rintro ⟨x, rfl, hends⟩
    rcases ends_bind.mp hends with ⟨a, w₁, hc, rfl, rfl⟩ | ⟨e, rfl, hc⟩
    · exact ⟨.ok a, rfl, hc⟩
    · exact ⟨.error e, rfl, hc⟩
  · rintro ⟨x, rfl, hends⟩
    cases x with
    | ok a => exact ⟨.ok (g a), rfl, ends_bind.mpr (.inl ⟨a, w', hends, rfl, rfl⟩)⟩
    | error e => exact ⟨.error e, rfl, ends_bind.mpr (.inr ⟨e, rfl, hends⟩)⟩

theorem endsAs_discarded (c : M Message) {y : Except String Unit} :
    EndsAs rely w (discarded c) y w' ↔ EndsAs rely w c y w' := endsAs_map c some

theorem endsAs_done (c : M Unit) {y : Except String Unit} :
    EndsAs rely w (done c) y w' ↔ EndsAs rely w c y w' := endsAs_map c fun _ => none

theorem Alike.sameFate {c d : M α} (h : Alike rely w c d) : SameFate rely w c d := fun _ _ =>
  exists_congr fun x => and_congr_right fun _ => h x _

theorem SameFate.symm {β : Type} {c : M α} {d : M β} (h : SameFate rely w c d) :
    SameFate rely w d c := fun y w' => (h y w').symm

theorem SameFate.trans {β γ : Type} {c : M α} {d : M β} {e : M γ} (h : SameFate rely w c d)
    (h' : SameFate rely w d e) : SameFate rely w c e := fun y w' => (h y w').trans (h' y w')

theorem alike_relay (rely : World → World → Prop) (h : w.Seated code r p)
    (ok : World → RoomId → Bool) (m : World → RoomId → Message) (b : Bool) (hok : ok w r = b) :
    Alike rely w (Backend.done (relay p ok m))
      (Backend.done (Coro.when (b = true) (broadcast (w.room r).code (m w r)))) :=
  Alike.done fun x w' => by rw [ends_relay h, hok]

/-! ## The player stays in its room while a game starts -/

section Staying

/-- The setting in which the player stays in its room. -/
abbrev staying (rely : World → World → Prop) (code : String) (r : RoomId) (p : PlayerId) :
    Setting World Frame Mark := .keeping rely fun w => w.Seated code r p

instance : FrameFree (staying rely code r p) := ⟨fun _ _ => Iff.rfl⟩

theorem put_staying (u : Update)
    (hu : ∀ w : World, w.Seated code r p → (u.apply w).Seated code r p) :
    Stable (staying rely code r p) (put u) := ⟨fun _ _ hv => hu _ hv⟩

theorem World.Seated.room_update {u : RoomUpdate} (h : w.Seated code r p) (r' : RoomId)
    (hcode : ∀ room, (u.apply room).code = room.code)
    (hmember : ∀ room : Room, p ∈ room.playersById → p ∈ (u.apply room).playersById) :
    ((Update.room r' u).apply w).Seated code r p := by
  refine ⟨h.index, h.room, ?_, ?_⟩
  · by_cases hr : r = r'
    · subst hr
      simpa [Update.apply, hcode] using h.code
    · simpa [Update.apply, Function.update_of_ne hr] using h.code
  · by_cases hr : r = r'
    · subst hr
      simpa [Update.apply] using hmember _ h.member
    · simpa [Update.apply, Function.update_of_ne hr] using h.member

instance (r' : RoomId) (q : PlayerId) (u : PlayerUpdate) :
    Stable (staying rely code r p) (put (.player r' q u)) :=
  put_staying _ fun _ h => ⟨h.index, h.room, h.code, h.member⟩

instance (m : Sent) : Stable (staying rely code r p) (put (.send m)) :=
  put_staying _ fun _ h => ⟨h.index, h.room, h.code, h.member⟩

instance (r' : RoomId) (state : RoomState) :
    Stable (staying rely code r p) (put (.room r' (.state state))) :=
  put_staying _ fun _ h => h.room_update r' (fun _ => rfl) fun _ h => h

instance (r' : RoomId) (n : Nat) :
    Stable (staying rely code r p) (put (.room r' (.currentRound n))) :=
  put_staying _ fun _ h => h.room_update r' (fun _ => rfl) fun _ h => h

instance (r' : RoomId) (n : Nat) :
    Stable (staying rely code r p) (put (.room r' (.drawerIndex n))) :=
  put_staying _ fun _ h => h.room_update r' (fun _ => rfl) fun _ h => h

instance : Stable (staying rely code r p) read := ⟨fun _ _ h => h⟩

instance (e : String) : Stable (staying rely code r p) (raise e : M α) := ⟨fun _ _ h => h⟩

instance (e : Mark) : Stable (staying rely code r p) (mark e) := ⟨fun _ _ h _ => h⟩

instance : Stable (staying rely code r p) suspend :=
  ⟨fun _ _ h => ⟨h, fun _ => ⟨h, fun _ _ _ hv => hv⟩⟩⟩

instance (r' : RoomId) : Stable (staying rely code r p) (readRoom r') := ⟨fun _ _ h => h⟩

instance (r' : RoomId) (q : PlayerId) : Stable (staying rely code r p) (readPlayer r' q) :=
  ⟨fun _ _ h => h⟩

instance : Stable (staying rely code r p) redisCall := by unfold redisCall; infer_instance

instance (ws : WsId) (m : Message) (lossy : Bool) :
    Stable (staying rely code r p) (sendText ws m lossy) := by unfold sendText; infer_instance

instance (r' : RoomId) (q : PlayerId) (m : Message) (lossy : Bool) :
    Stable (staying rely code r p) (sendToPlayer r' q m lossy) := by
  unfold sendToPlayer; infer_instance

instance (code' : String) (m : Message) : Stable (staying rely code r p) (broadcast code' m) := by
  unfold broadcast; infer_instance

instance : Stable (staying rely code r p) (findRoomByPlayer p) where
  out R v hv := by
    have hindex : v.state.playerToRoom p = some code := World.Seated.index hv
    unfold findRoomByPlayer
    rw [wp_bind, wp_read, hindex]
    exact hv

instance : Stable (staying rely code r p) (startGame p) := by
  unfold startGame; dsimp only; infer_instance

end Staying

/-- The game starts with the first turn, in the room that the message was forwarded to. -/
theorem alike_startGame (h : w.Seated code r p)
    (hrely : ∀ w w', rely w w' → w.Seated code r p → w'.Seated code r p) :
    Alike rely w (startedGame env silent p) (forwardedMessage env r p .startGame) := by
  intro x w'
  unfold startedGame forwardedMessage
  rw [ends_bind, ends_bind]
  refine or_congr (exists_congr fun result => exists_congr fun w₁ => and_congr_right fun hc => ?_)
    Iff.rfl
  have h₁ : w₁.Seated code r p := Ends.of_stable (G := fun w => w.Seated code r p) inferInstance
      hrely hc h
  cases herror : result.isError with
  | true => exact Iff.rfl
  | false =>
    simp only [Bool.false_eq_true, if_false]
    rw [ends_inRoom h₁]
    rfl

/-! ## A broadcast reaches somebody -/

section Reaching

/-- Nothing else happens while the call is suspended. -/
abbrev undisturbed : Setting World Frame Mark := .among fun _ _ => False

variable {v : View World Frame Mark} {R : Multiset Frame}

theorem suspend_undisturbed (hR : R ≠ 0) {Q : Unit → View World Frame Mark → Prop} (h : Q () v) :
    suspend.wp undisturbed R Q v :=
  ⟨h, fun _ => ⟨Setting.among_inv hR _ _, fun _ hr => hr.elim⟩⟩

theorem redisCall_undisturbed (hR : R ≠ 0) {Q : Unit → View World Frame Mark → Prop} (h : Q () v) :
    redisCall.wp undisturbed R Q v := by
  unfold redisCall
  rw [wp_bind, wp_read, wp_when]
  exact ⟨fun _ => suspend_undisturbed hR h, fun _ => h⟩

/-- A message to a player adds at most one message to the outbox, and one if it is connected. -/
theorem sendToPlayer_undisturbed (hR : R ≠ 0) (q : PlayerId) (m : Message) (lossy : Bool) :
    (sendToPlayer r q m lossy).wp undisturbed R (fun _ v' =>
      v'.state.player = v.state.player ∧ v.state.outbox.length ≤ v'.state.outbox.length ∧
      ((v.state.player r q).isConnected = true → (v.state.player r q).websocket ≠ none →
        v.state.outbox.length < v'.state.outbox.length)) v := by
  unfold sendToPlayer
  rw [wp_bind, wp_readPlayer, wp_elim]
  refine ⟨fun hnone => ⟨rfl, le_rfl, fun _ hws => absurd hnone hws⟩, fun ws _ => ?_⟩
  rw [wp_when]
  refine ⟨fun _ => ?_, fun hoff => ⟨rfl, le_rfl, fun hon => absurd hon hoff⟩⟩
  unfold sendText
  simp only [wp_bind, wp_read, wp_put, wp_when]
  have hlt : v.state.outbox.length < ((Update.send ⟨.one ws, m,
      lossy && (v.state.transport ws).queue.isSome⟩).apply v.state).outbox.length := by
    simp [Update.apply]
  exact ⟨fun _ => suspend_undisturbed hR ⟨rfl, hlt.le, fun _ _ => hlt⟩,
    fun _ => ⟨rfl, hlt.le, fun _ _ => hlt⟩⟩

theorem broadcast_undisturbed (hR : R ≠ 0) (h : v.state.Seated code r p)
    (ho : v.state.Online r) (m : Message) :
    (broadcast (v.state.room r).code m).wp undisturbed R (fun _ v' =>
      v.state.outbox.length < v'.state.outbox.length) v := by
  obtain ⟨q₀, hplayer₀, hconnected, htransport⟩ := ho.heard
  unfold broadcast
  rw [wp_bind, wp_read, h.code, h.room, Option.elim_some, wp_bind]
  -- until the loop has come to that player, the outbox need not have grown
  have hloop : (Coro.each (v.state.room r).players fun q => sendToPlayer r q m m.lossy).wp
      undisturbed R (fun _ v' => v'.state.player = v.state.player ∧
        v.state.outbox.length ≤ v'.state.outbox.length ∧
        (q₀ ∉ ([] : List PlayerId) → v.state.outbox.length < v'.state.outbox.length)) v := by
    refine wp_each (fun l (v' : View World Frame Mark) => v'.state.player = v.state.player ∧
      v.state.outbox.length ≤ v'.state.outbox.length ∧
      (q₀ ∉ l → v.state.outbox.length < v'.state.outbox.length)) (fun q l v' hv' => ?_)
      ⟨rfl, le_rfl, fun hp => absurd hplayer₀ hp⟩
    obtain ⟨hplayer, hle, hlt⟩ := hv'
    refine wp_mono (sendToPlayer_undisturbed hR q m m.lossy) fun _ v₁ ⟨hplayer₁, hle₁, hlt₁⟩ => ?_
    refine ⟨hplayer₁.trans hplayer, hle.trans hle₁, fun hp => ?_⟩
    by_cases hq : q₀ = q
    · subst hq
      rw [hplayer] at hlt₁
      exact hle.trans_lt (hlt₁ hconnected htransport)
    · exact (hlt fun hmem => (List.mem_cons.mp hmem).elim hq hp).trans_le hle₁
  have hsent : ((v.state.singleQueue r).elim
      (Coro.each (v.state.room r).players fun q => sendToPlayer r q m m.lossy)
      fun q => put (.send ⟨.room q code, m, m.lossy⟩)).wp undisturbed R (fun _ v' =>
        v.state.outbox.length < v'.state.outbox.length) v := by
    rw [wp_elim]
    refine ⟨fun _ => wp_mono hloop fun _ v' hv' => hv'.2.2 List.not_mem_nil, fun q _ => ?_⟩
    rw [wp_put]
    simp [Update.apply]
  refine wp_mono hsent fun _ v' hv' => ?_
  rw [wp_when]
  exact ⟨fun _ => redisCall_undisturbed hR hv', fun _ => hv'⟩

/-- A broadcast does something. -/
theorem broadcast_not_sameFate (h : w.Seated code r p) (ho : w.Online r) (m : Message) :
    ¬SameFate rely w (done (broadcast (w.room r).code m)) (return none : M (Option Message)) := by
  intro hsame
  have hend : (broadcast (w.room r).code m).Ends (fun _ _ => False) w
      ((broadcast (w.room r).code m).exec w).1 ((broadcast (w.room r).code m).exec w).2 :=
    ends_exec _ _
  have hwp : (broadcast (w.room r).code m).wp undisturbed {.turnEnded 0 0}
      (fun _ v' => w.outbox.length < v'.state.outbox.length) ⟨w, 0, []⟩ :=
    broadcast_undisturbed (by simp) h ho m
  obtain ⟨_, _, -, hlt⟩ := Ends.of_wp hwp (by simp) hend
  have hdone : EndsAs rely w (done (broadcast (w.room r).code m))
      (fate ((broadcast (w.room r).code m).exec w).1) ((broadcast (w.room r).code m).exec w).2 :=
    (endsAs_done _).mpr ⟨_, rfl, ends_exec _ _⟩
  obtain ⟨_, -, -, hunchanged⟩ := (hsame _ _).mp hdone
  rw [hunchanged] at hlt
  exact lt_irrefl _ hlt

end Reaching

/-! ## Agreement -/

/-- `start_vote_kick` refuses it. -/
def World.RefusesVoteKick (w : World) (r : RoomId) (p target : PlayerId) : Prop :=
  (w.activeVoteKicks (w.room r).code).isSome = true ∨ p = target ∨
    (target ∉ (w.room r).playersById ∧ target ∉ (w.room r).players) ∨
    (target ∈ (w.room r).playersById ∧ ((w.player r target).isConnected = false ∨
      (w.connected r).length < 3 ∨ w.now < w.voteKickCooldowns (w.room r).code target))

/-- `cast_vote_kick` refuses it. -/
def World.RefusesVote (w : World) (r : RoomId) (p : PlayerId) : Prop :=
  ∀ vote, w.activeVoteKicks (w.room r).code = some vote →
    p = vote.targetId ∨ (w.player r p).isConnected = false

/-- `transfer_host` refuses it. -/
def World.RefusesTransfer (w : World) (r : RoomId) (p target : PlayerId) : Prop :=
  (w.room r).hostId ≠ p ∨ target = p ∨
    (target ∉ (w.room r).playersById ∧ target ∉ (w.room r).players) ∨
    (target ∈ (w.room r).playersById ∧
      ((w.player r target).isConnected = false ∨ (w.player r target).isSpectator = true))

/-- The messages that the dispatchers treat alike: a drawing message if the check of the drawer
makes no difference; `leave_room` in the lobby of a player that no host has to be found for; and one
that only some of them know if these refuse it. -/
def Uniform (w : World) (r : RoomId) (p : PlayerId) : ClientMessage → Prop
  | .draw kind _ => kind.unchecked = w.isDrawer p r
  | .clearCanvas => w.isDrawer p r = true
  | .voteKick target => w.RefusesVoteKick r p target
  | .voteKickCast _ => w.RefusesVote r p
  | .transferHost target => w.RefusesTransfer r p target
  | .leaveRoom disconnect => disconnect = false ∧ (w.room r).state = .lobby ∧
      ((w.room r).hostId ≠ p ∨ ∀ q ∈ (w.room r).players, q = p)
  | .clientDisconnected => False
  | .cancelJoinRequest (some request) _ => w.joinRequestById request = none
  | .cancelJoinRequest none ws => w.wsToPendingRequest ws = none
  | .updateSettings _ | .startGame | .selectWord _ | .guess _ | .chat _ | .kickPlayer _
  | .respondJoinRequest _ _ | .requestBecomePlayer | .respondSpectatorRoleRequest _ _
  | .cancelSpectatorRoleRequest _ | .reaction _ | .typing _ | .toggleReady | .updateProfile _ _
  | .rematch | .endGameNow | .unknown _ => True

/-- The three dispatchers treat a message of the player alike. -/
def SameEverywhere (rely : World → World → Prop) (env : Env) (w : World) (code : String)
    (p : PlayerId) (m : ClientMessage) : Prop :=
  SameFate rely w (receiveMessage env silent code p m) (dispatchMessage env silent p m) ∧
    SameFate rely w (receiveMessage env silent code p m) (handleForwardedMessage env code p m)

/-! ### What is refused -/

/-- The call only returns an error. -/
def Rejects (rely : World → World → Prop) (w : World) (c : M Message) : Prop :=
  ∃ m, ∀ x w', c.Ends rely w x w' ↔ x = .ok m ∧ w' = w

/-- Not to know a message is to refuse it. -/
theorem Rejects.sameFate {c : M Message} (h : Rejects rely w c) :
    SameFate rely w (discarded c) (return none : M (Option Message)) := by
  obtain ⟨m, hm⟩ := h
  refine fun y w' => (endsAs_discarded c).trans ⟨?_, ?_⟩
  · rintro ⟨x, rfl, hends⟩
    obtain ⟨rfl, rfl⟩ := (hm _ _).mp hends
    exact ⟨.ok none, rfl, rfl, rfl⟩
  · rintro ⟨x, rfl, rfl, rfl⟩
    exact ⟨.ok m, rfl, (hm _ _).mpr ⟨rfl, rfl⟩⟩

theorem rejects_return (m : Message) : Rejects rely w (return m) := ⟨m, fun _ _ => Iff.rfl⟩

theorem rejects_ite {P : Prop} [Decidable P] (m : Message) {c : M Message}
    (h : ¬P → Rejects rely w c) : Rejects rely w (if P then return m else c) := by
  split
  · exact rejects_return m
  · exact h ‹_›

theorem rejects_findRoomByPlayer (h : w.Seated code r p) {f : Option RoomId → M Message}
    (hf : Rejects rely w (f (some r))) : Rejects rely w (findRoomByPlayer p >>= f) := by
  obtain ⟨m, hm⟩ := hf
  exact ⟨m, fun x w' => (ends_findRoomByPlayer h).trans (hm x w')⟩

theorem rejects_getSeated (h : w.Seated code r p) {f : Option PlayerId → M Message}
    (hf : Rejects rely w (f (some p))) : Rejects rely w (getPlayer r p >>= f) := by
  obtain ⟨m, hm⟩ := hf
  exact ⟨m, fun x w' => (ends_getPlayer h).trans (hm x w')⟩

/-- A player is looked for that is not there, or that the index has. -/
theorem rejects_getPlayer {q : PlayerId} {m : Message} {f : PlayerId → M Message}
    (hq : (q ∉ (w.room r).playersById ∧ q ∉ (w.room r).players) ∨
      (q ∈ (w.room r).playersById ∧ Rejects rely w (f q))) :
    Rejects rely w (getPlayer r q >>= fun o => o.elim (return m) f) := by
  have hget : ∀ {g : Option PlayerId → M Message} {x : Except String Message} {w' : World},
      (getPlayer r q >>= g).Ends rely w x w' ↔ Coro.Ends rely
        ((if q ∈ (w.room r).playersById then (return some q : M (Option PlayerId)) else
          if q ∈ (w.room r).players then do
            put (.room r (.playersById q))
            return some q
          else return none) >>= g) w x w' := Iff.rfl
  rcases hq with ⟨hindex, hlist⟩ | ⟨hindex, m', hm'⟩
  · refine ⟨m, fun x w' => ?_⟩
    rw [hget, if_neg hindex, if_neg hlist]
    exact Iff.rfl
  · refine ⟨m', fun x w' => ?_⟩
    rw [hget, if_pos hindex]
    exact hm' x w'

theorem rejects_startVoteKick {target : PlayerId} (h : w.Seated code r p)
    (hrefuses : w.RefusesVoteKick r p target) : Rejects rely w (startVoteKick env p target) := by
  unfold startVoteKick
  refine rejects_findRoomByPlayer h ?_
  change Rejects rely w (if (w.activeVoteKicks (w.room r).code).isSome = true then _ else _)
  refine rejects_ite _ fun hinactive => rejects_ite _ fun hself => rejects_getPlayer ?_
  refine ((hrefuses.resolve_left hinactive).resolve_left hself).imp_right fun ⟨hindex, hbad⟩ =>
    ⟨hindex, ?_⟩
  change Rejects rely w (if (w.player r target).isConnected = false then _ else _)
  refine rejects_ite _ fun hon => rejects_ite _ fun hthree => rejects_ite _ fun hcool => ?_
  exact absurd ((hbad.resolve_left hon).resolve_left hthree) hcool

theorem rejects_castVoteKick {yes : Bool} (h : w.Seated code r p)
    (hrefuses : w.RefusesVote r p) : Rejects rely w (castVoteKick env p yes) := by
  unfold castVoteKick
  refine rejects_findRoomByPlayer h ?_
  change Rejects rely w ((w.activeVoteKicks (w.room r).code).elim _ _)
  cases hvote : w.activeVoteKicks (w.room r).code with
  | none => exact rejects_return _
  | some vote =>
    rw [Option.elim_some]
    refine rejects_ite _ fun hself => ?_
    refine rejects_getSeated h (rejects_ite _ fun hon => ?_)
    have hoff := (hrefuses vote hvote).resolve_left hself
    simp [hoff] at hon

theorem rejects_transferHost {target : PlayerId} (h : w.Seated code r p)
    (hrefuses : w.RefusesTransfer r p target) : Rejects rely w (transferHost p target) := by
  unfold transferHost
  refine rejects_findRoomByPlayer h ?_
  change Rejects rely w (if (w.room r).hostId ≠ p then _ else _)
  refine rejects_ite _ fun hhost => rejects_ite _ fun hself => rejects_getPlayer ?_
  refine ((hrefuses.resolve_left hhost).resolve_left hself).imp_right fun ⟨hindex, hbad⟩ =>
    ⟨hindex, ?_⟩
  change Rejects rely w (if (w.player r target).isConnected = false then _ else _)
  refine rejects_ite _ fun hon => rejects_ite _ fun hspectator => ?_
  exact absurd (hbad.resolve_left hon) hspectator

/-- Nobody but the host ends the game. -/
theorem sameFate_endGame (h : w.Seated code r p) :
    SameFate rely w (endedGame silent p) (forwardedMessage env r p .endGameNow) := by
  have hlocal : Alike rely w (endedGame silent p) (if (w.room r).hostId = p then done (endGame r)
      else discarded (return .error "PERMISSION_DENIED" "Only the host can end the game")) := by
    intro x w'
    unfold endedGame
    rw [ends_inRoom h, ends_readRoom]
    exact Iff.rfl
  have hforward : Alike rely w (forwardedMessage env r p .endGameNow)
      (done (Coro.when ((w.room r).hostId = p) (endGame r))) := fun x w' => Iff.rfl
  refine hlocal.sameFate.trans (SameFate.trans ?_ hforward.sameFate.symm)
  unfold Coro.when
  split
  · exact fun _ _ => Iff.rfl
  · exact (rejects_return _).sameFate

/-! ### What is the same player list -/

theorem serializePlayers_of_index (hroom : w.roomOf code = some r)
    (hindex : ∀ q ∈ (w.room r).players, w.playerToRoom q = some code) :
    w.serializePlayersByIndex r = w.serializePlayers r := by
  unfold World.serializePlayersByIndex World.serializePlayers
  refine List.map_congr_left fun q hq => ?_
  rw [hindex q hq, Option.bind_some, hroom, Option.any_some]

theorem ends_dropPlayer {f : Unit → M α} : (dropPlayer r p >>= f).Ends rely w x w' ↔
    (f ()).Ends rely ((Update.playerToRoom p none).apply
    ((Update.room r (.removePlayer p)).apply w))
      x w' := Iff.rfl

/-- The two end as one call, which one of them follows by a result. -/
theorem sameFate_of_ends {c : M Message} {d : M Unit} {m : Message} (w₁ : World) (e : M Unit)
    (hc : ∀ x w', c.Ends rely w x w' ↔ (e >>= fun _ => return m).Ends rely w₁ x w')
    (hd : ∀ x w', d.Ends rely w x w' ↔ e.Ends rely w₁ x w') :
    SameFate rely w (discarded c) (done d) := by
  intro y w'
  have hleft : EndsAs rely w c y w' ↔ EndsAs rely w₁ (e >>= fun _ => (return m : M Message)) y w' :=
    exists_congr fun x => and_congr_right fun _ => hc x w'
  have hright : EndsAs rely w d y w' ↔ EndsAs rely w₁ e y w' :=
    exists_congr fun x => and_congr_right fun _ => hd x w'
  rw [endsAs_discarded, endsAs_done, hleft, hright]
  exact endsAs_map e fun _ => m

/-- **`leave_room` does in the lobby what `remove_player` does**, unless a host has to be found. -/
theorem sameFate_leaveRoom (h : w.Seated code r p) (ho : w.Online r)
    (hlobby : (w.room r).state = .lobby)
    (halone : (w.room r).hostId ≠ p ∨ ∀ q ∈ (w.room r).players, q = p) :
    SameFate rely w (discarded (leaveRoom p)) (done (removePlayer p)) := by
  let w₁ : World := (Update.playerToRoom p none).apply ((Update.room r (.removePlayer p)).apply w)
  have hroom : w₁.room r = RoomUpdate.apply (.removePlayer p) (w.room r) :=
    Function.update_self ..
  have hplayers : (w₁.room r).players = (w.room r).players.filter (· ≠ p) := by
    rw [hroom]
    rfl
  have hhost : (w₁.room r).hostId = (w.room r).hostId := by
    rw [hroom]
    rfl
  have hguest : (w₁.room r).players ≠ [] → (w.room r).hostId ≠ p := fun hne =>
    halone.resolve_right fun hall => hne (by
      rw [hplayers]
      exact List.filter_eq_nil_iff.mpr fun q hq => by simpa using hall q hq)
  have hlist : w₁.serializePlayersByIndex r = w₁.serializePlayers r := by
    refine serializePlayers_of_index (show w₁.roomOf code = some r from h.room) fun q hq => ?_
    rw [hplayers, List.mem_filter] at hq
    have hne : q ≠ p := of_decide_eq_true hq.2
    rw [← h.code, ← ho.members q hq.1]
    exact Function.update_of_ne hne ..
  refine sameFate_of_ends (m := .leftRoom) w₁
    (if (w₁.room r).players = [] then deleteRoom (w₁.room r).code
      else broadcast (w₁.room r).code (.playerList (w₁.serializePlayers r)))
    (fun x w' => ?_) fun x w' => ?_
  · unfold leaveRoom
    rw [ends_findRoomByPlayer h, Option.elim_some, ends_readRoom, if_neg (not_not.mpr hlobby),
      ends_dropPlayer, ends_read]
    change Coro.Ends rely (if (w₁.room r).players = [] then _ else _) w₁ x w' ↔ _
    by_cases hnil : (w₁.room r).players = []
    · rw [if_pos hnil, if_pos hnil]
    · rw [if_neg hnil, if_neg hnil]
      unfold Coro.when
      rw [if_neg (hguest hnil), ← hlist]
      exact Iff.rfl
  · unfold removePlayer
    rw [ends_findRoomByPlayer h, Option.elim_some, ends_dropPlayer, ends_read]
    change Coro.Ends rely (if (w₁.room r).players = [] then _ else _) w₁ x w' ↔ _
    by_cases hnil : (w₁.room r).players = []
    · rw [if_pos hnil, if_pos hnil]
    · rw [if_neg hnil, if_neg hnil]
      unfold Coro.when
      rw [if_neg (hhost ▸ hguest hnil)]
      exact Iff.rfl

/-! ### Each message -/

/-- A uniform message does locally what it does when it is forwarded. -/
theorem sameFate_local (h : w.Seated code r p) (ho : w.Online r)
    (hrely : ∀ w w', rely w w' → w.Seated code r p → w'.Seated code r p) {m : ClientMessage}
    (hm : Uniform w r p m) (hjoin : ∀ request ws, m ≠ .cancelJoinRequest request ws) :
    SameFate rely w (handleLocalMessage env silent p m) (forwardedMessage env r p m) := by
  have hmember : w.isMember p r = true := by simp [World.isMember, h.member]
  cases m with
  | startGame => exact (alike_startGame h hrely).sameFate
  | endGameNow => exact sameFate_endGame h
  | draw kind payload =>
    exact Alike.sameFate (alike_relay _ h (fun w r => w.isDrawer p r) _ _ (Eq.symm hm))
  | clearCanvas => exact Alike.sameFate (alike_relay _ h (fun w r => w.isDrawer p r) _ true hm)
  | reaction | typing => exact Alike.sameFate (alike_relay _ h _ _ true hmember)
  | selectWord | guess | chat => exact Alike.sameFate fun x w' => ends_inRoom h
  | voteKick target =>
    simp only [handleLocalMessage, repliedError_silent]
    exact (rejects_startVoteKick h hm).sameFate
  | voteKickCast yes =>
    simp only [handleLocalMessage, repliedError_silent]
    exact (rejects_castVoteKick h hm).sameFate
  | transferHost target => exact (rejects_transferHost h hm).sameFate
  | unknown type => exact (rejects_return _).sameFate
  | leaveRoom disconnect => exact sameFate_leaveRoom h ho hm.2.1 hm.2.2
  | clientDisconnected => exact hm.elim
  | cancelJoinRequest request ws => exact absurd rfl (hjoin request ws)
  | respondJoinRequest => exact fun _ _ => Iff.rfl
  | _ =>
    simp only [handleLocalMessage, forwardedMessage, repliedError_silent]
    exact fun _ _ => Iff.rfl

/-- A uniform message does over gRPC what it does locally. -/
theorem sameFate_dispatch (h : w.Seated code r p) {m : ClientMessage}
    (hm : Uniform w r p m) (hjoin : ∀ request ws, m ≠ .cancelJoinRequest request ws) :
    SameFate rely w (handleLocalMessage env silent p m) (dispatchMessage env silent p m) := by
  cases m with
  | draw kind payload =>
    have hm : kind.unchecked = w.isDrawer p r := hm
    have hlocal := alike_relay rely h (fun w r => w.isDrawer p r)
      (fun _ _ => .draw kind payload) _ rfl
    have hremote := alike_relay rely h (fun w r => kind.unchecked || w.isDrawer p r)
      (fun _ _ => .draw kind payload) (w.isDrawer p r) (by rw [← hm, Bool.or_self])
    exact hlocal.sameFate.trans hremote.sameFate.symm
  | clearCanvas =>
    have hlocal := alike_relay rely h (fun w r => w.isDrawer p r)
      (fun _ _ => .clearCanvas) true hm
    have hremote := alike_relay rely h (fun _ _ => true) (fun _ _ => .clearCanvas) true rfl
    exact hlocal.sameFate.trans hremote.sameFate.symm
  | leaveRoom disconnect =>
    obtain ⟨rfl, -⟩ := hm
    exact fun _ _ => Iff.rfl
  | clientDisconnected => exact hm.elim
  | cancelJoinRequest request ws => exact absurd rfl (hjoin request ws)
  | requestBecomePlayer | respondSpectatorRoleRequest | cancelSpectatorRoleRequest =>
    simp only [handleLocalMessage, dispatchMessage, repliedError_silent]
    exact fun _ _ => Iff.rfl
  | _ => exact fun _ _ => Iff.rfl

/-- No request is there to be cancelled. -/
theorem sameFate_cancelledJoin {request : Option Ident} {ws : WsId}
    (hm : Uniform w r p (.cancelJoinRequest request ws)) :
    SameFate rely w (cancelledJoin request ws) (return none : M (Option Message)) := by
  refine Alike.sameFate fun x w' => ?_
  cases request with
  | some request =>
    have hm : w.joinRequestById request = none := hm
    change Coro.Ends rely (done ((w.joinRequestById request).elim _ _)) w x w' ↔ _
    rw [hm]
    exact Iff.rfl
  | none =>
    have hm : w.wsToPendingRequest ws = none := hm
    have hnone : w.joinRequestByWs ws = none := by
      unfold World.joinRequestByWs
      rw [hm]
      rfl
    have hsame : (Update.wsToPendingRequest ws none).apply w = w := by
      simp only [Update.apply, ← hm, Function.update_eq_self]
    change Coro.Ends rely (done ((w.joinRequestByWs ws).elim _ _))
      ((Update.wsToPendingRequest ws none).apply w) x w' ↔ _
    rw [hnone, hsame]
    exact Iff.rfl

/-- A drawing message that a dispatcher relays under one check and another one under another. -/
theorem relay_differs (h : w.Seated code r p) (ho : w.Online r) {m : Message} {b b' : Bool}
    (hsame : SameFate rely w (done (Coro.when (b = true) (broadcast (w.room r).code m)))
      (done (Coro.when (b' = true) (broadcast (w.room r).code m)))) : b = b' := by
  cases b <;> cases b'
  · rfl
  · exact absurd hsame.symm (broadcast_not_sameFate h ho m)
  · exact absurd hsame (broadcast_not_sameFate h ho m)
  · rfl

/-- The drawing messages. -/
def ClientMessage.isDrawing : ClientMessage → Bool
  | .draw _ _ | .clearCanvas => true
  | _ => false

/-- A drawing message that all three dispatchers treat alike is uniform. -/
theorem uniform_of_sameFate (h : w.Seated code r p) (ho : w.Online r) {m : ClientMessage}
    (hm : m.isDrawing = true)
    (hforward : SameFate rely w (handleLocalMessage env silent p m) (forwardedMessage env r p m)) :
    Uniform w r p m := by
  cases m with
  | draw kind payload =>
    have hlocal := alike_relay rely h (fun w r => w.isDrawer p r)
      (fun _ _ => .draw kind payload) _ rfl
    exact (relay_differs h ho (hlocal.sameFate.symm.trans hforward)).symm
  | clearCanvas =>
    have hlocal := alike_relay rely h (fun w r => w.isDrawer p r)
      (fun _ _ => .clearCanvas) _ rfl
    change w.isDrawer p r = true
    exact relay_differs h ho (hlocal.sameFate.symm.trans hforward)
  | _ => cases hm

end Skribbl.Backend
