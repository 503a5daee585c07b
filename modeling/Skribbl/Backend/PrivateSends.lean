import Skribbl.Backend.Capacity
import Skribbl.Backend.Secrecy
import Skribbl.Backend.VoteKick
import Skribbl.Backend.Connections

/-!
# Private messages

A private message is written to `player.websocket`, which is `None` for a member that has joined
through another worker; what is broadcast gets there through Redis.

* `PrivateKind` — `word_choices`, `word_assigned`, `kicked` and `join_request_received`.
* `offerWords`, `confideWord`, `kickOut`, `voteOut`, `askHost` — the functions that send one, from
  there on.
* `Confides` — a call sends a message of a kind to a connection, in some execution; `Delivers` — in
  every execution.
* `Errand` — a private message that is due, with its addressee.

Principal results: `receives_iff` — exactly the addressee gets it, if and only if its connection is
on the owner; `confides_startTurn` and its like — the whole functions send no other private message,
a change of the host included;
`kicked_unheard` — a player who has joined through another worker is not told that it is kicked.
-/

set_option autoImplicit false
set_option synthInstance.maxSize 100000

namespace Skribbl.Backend

open Coro

/-! ## The functions that send one -/

/-- `start_turn`, once the packs are drawn. -/
def offerWords (r : RoomId) (room : Room) (drawerId : PlayerId) (packs : List Pack) : M Unit := do
  put (.room r (.pendingWordChoices (some packs)))
  sendToPlayer r drawerId (.wordChoices (packs.filterMap (·.words.head?)) packs) false
  put (.room r (.state .wordSelection))
  let drawer ← readPlayer r drawerId
  broadcast room.code (.drawerSelecting drawerId drawer.name)
  let t ← createTask (.autoSelect r drawerId) 15
  put (.room r (.autoSelectTask (some (drawerId, t))))

theorem startTurn_eq (env : Env) (r : RoomId) : startTurn env r = (do
    let room ← readRoom r
    room.players[room.drawerIndex]?.elim (raise "IndexError") fun drawerId => do
      let packs ← drawWordPackChoices env r
      offerWords r room drawerId packs) := rfl

/-- `handle_word_selection`, after `turn_started`. -/
def confideWord (r : RoomId) (room : Room) (turn : TurnState) : M Unit := do
  sendToPlayer r turn.drawerId (.wordAssigned turn.word) false
  broadcast room.code .clearCanvas
  createTurnTasks r turn.turnId room.config.turnDuration

theorem announceTurn_eq (r : RoomId) (room : Room) (turn : TurnState) :
    announceTurn r room turn = (do
      broadcast room.code (.turnStarted turn.drawerId turn.hint room.config.turnDuration
        room.currentRound turn.theme)
      confideWord r room turn) := rfl

/-- `kick_player`, once the target is found and may be kicked. -/
def kickOut (r : RoomId) (target targetPlayerId : PlayerId) : M Message := do
  sendToPlayer r target (.kicked "You were kicked out of the room") false
  dropPlayer r targetPlayerId
  let w ← read
  broadcast (w.room r).code (.playerList (w.serializePlayersByIndex r))
  return .playerKicked targetPlayerId

theorem kickPlayer_eq (hostPlayerId targetPlayerId : PlayerId) :
    kickPlayer hostPlayerId targetPlayerId = (do
      (← findRoomByPlayer hostPlayerId).elim (return notInRoom) fun r => do
        let room ← readRoom r
        if room.hostId ≠ hostPlayerId then
          return .error "PERMISSION_DENIED" "Only the host can kick players"
        if room.state ≠ .lobby then
          return .error "GAME_NOT_ACTIVE" "Players can only be kicked in the lobby"
        (← getPlayer r targetPlayerId).elim
          (return .error "PLAYER_NOT_FOUND" "Target player not found in room") fun target => do
          if targetPlayerId = room.hostId then
            return .error "PERMISSION_DENIED" "Cannot kick the host"
          kickOut r target targetPlayerId) := rfl

/-- `_execute_vote_kick_passed`, with what it has read. -/
def voteOut (env : Env) (r : RoomId) (targetId : PlayerId) (w : World) : M Unit := do
  let targetName := (w.player r targetId).name
  let wasHost : Bool := (w.room r).hostId = targetId
  let wasDrawer : Bool := (w.room r).turn.any fun turn => turn.drawerId = targetId
  let code := (w.room r).code
  sendToPlayer r targetId (.kicked "You were kicked by majority vote") false
  dropPlayer r targetId
  let w ← read
  Coro.when (wasHost = true) (changeHost r (w.eligibleHosts r))
  broadcast code (.voteKickEnded targetId targetName "passed"
    (targetName ++ " was kicked by majority vote."))
  broadcastChat code "System" ("🗳️ " ++ targetName ++ " was kicked by majority vote.") true
  broadcastPlayerList r
  afterVoteKick env r wasDrawer

theorem executeVoteKickPassed_eq (env : Env) (r : RoomId) (targetId : PlayerId) :
    executeVoteKickPassed env r targetId = read >>= voteOut env r targetId := rfl

/-- `requestJoin`, with the host that it has found in the state `w`. -/
def askHost (r : RoomId) (code name : String) (ws : WsId) (avatar : Option String) (w : World)
    (host : PlayerId) : M Message :=
  (if (w.player r host).isConnected then (w.player r host).websocket else none).elim
    (return requestJoin.hostUnavailable) fun hostWs => do
    let requestId ← uuid4
    let t ← createTask (.joinTimeout requestId) 30
    let request : PendingJoinRequest := ⟨requestId, code, name, avatar, ws, w.now, some t⟩
    put (.pendingJoinRequests (w.pendingJoinRequests ++ [(requestId, request)]))
    put (.wsToPendingRequest ws (some requestId))
    put (.room r (.pendingJoinRequests
      ((w.room r).pendingJoinRequests ++ [(requestId, request)])))
    sendText hostWs (.joinRequestReceived requestId name avatar code) false
    return .joinRequestPending requestId code "Waiting for host approval..."

theorem requestJoin_eq (r : RoomId) (code name : String) (ws : WsId) (avatar : Option String) :
    requestJoin r code name ws avatar = (do
      let w ← read
      if w.playersFull r ∧ w.spectatorsFull r then return .error "ROOM_FULL" "Room is full"
      (← getPlayer r (w.room r).hostId).elim (return requestJoin.hostUnavailable)
        (askHost r code name ws avatar w)) := rfl

/-! ## Who receives them -/

/-- The kinds of private messages. -/
inductive PrivateKind where
  | wordChoices
  | wordAssigned
  | kicked
  | joinRequestReceived
  deriving DecidableEq

/-- The kind of a message, if it is a private one. -/
def Message.privateKind : Message → Option PrivateKind
  | .wordChoices _ _ => some .wordChoices
  | .wordAssigned _ => some .wordAssigned
  | .kicked _ => some .kicked
  | .joinRequestReceived _ _ _ _ => some .joinRequestReceived
  | _ => none

/-- Where the connection of a member is: on the owner, or on another worker. -/
inductive Place where
  | here (ws : WsId)
  | elsewhere
  deriving DecidableEq

/-- What is handed to one transport reaches its connection; what is broadcast reaches all. -/
def Recipient.Reaches (w : World) : Recipient → Place → Prop
  | .one ws, c => c = .here ws
  | .room q _, .here ws => (w.transport ws).queue = some q
  | .room _ _, .elsewhere => True

/-- Called in `w`, the call sends a message of the kind to the connection. -/
def Confides {α : Type} (c : M α) (w : World) (k : PrivateKind) (dest : Place) : Prop :=
  ∃ w₁ w₂ x, c.Makes (fun _ _ => True) w w₁ w₂ ∧ w₂.outbox = w₁.outbox ++ [x] ∧
    x.message.privateKind = some k ∧ x.recipient.Reaches w₁ dest

/-- Called in `w`, the call sends a message of the kind to the connection in every execution. -/
def Delivers {α : Type} (c : M α) (w : World) (k : PrivateKind) (dest : Place) : Prop :=
  c.MustMake (fun _ _ => True) (fun w₁ w₂ => ∃ x, w₂.outbox = w₁.outbox ++ [x] ∧
    x.message.privateKind = some k ∧ x.recipient.Reaches w₁ dest) w

/-- A message of another kind. -/
def Quiet (k : PrivateKind) (m : Message) : Prop := m.privateKind ≠ some k

variable {α : Type} {w : World} {k : PrivateKind} {dest : Place} {r : RoomId} {p : PlayerId}
  {ws : WsId} {m : Message} {lossy : Bool}

theorem not_confides_of_quiet {c : M α} (hc : Within (utters (Quiet k)) c) :
    ¬ Confides c w k dest := by
  rintro ⟨w₁, w₂, x, hmakes, hout, hkind, -⟩
  exact hmakes.within hc x hout hkind

/-- An assignment sends nothing. -/
theorem confides_put {u : Update} [hu : Silent u] {f : Unit → M α} :
    Confides (put u >>= f) w k dest ↔ Confides (f ()) (u.apply w) k dest := by
  refine ⟨fun ⟨w₁, w₂, x, hmakes, hout, hx⟩ => ?_, fun ⟨w₁, w₂, x, hmakes, hx⟩ =>
    ⟨w₁, w₂, x, .inr hmakes, hx⟩⟩
  rcases hmakes with ⟨rfl, rfl⟩ | hmakes
  · rw [hu.out] at hout
    exact absurd (congrArg List.length hout) (by simp)
  · exact ⟨w₁, w₂, x, hmakes, hout, hx⟩

/-- A text goes to the connection of its transport. -/
theorem confides_sendText (hm : m.privateKind = some k) {f : Unit → M α}
    (hf : Within (utters (Quiet k)) (f ())) :
    Confides (sendText ws m lossy >>= f) w k dest ↔ dest = .here ws := by
  constructor
  · rintro ⟨w₁, w₂, x, hmakes, hout, hkind, hreach⟩
    rcases makes_bind.mp hmakes with hmakes | ⟨_, w', -, hmakes⟩
    · rcases hmakes with ⟨rfl, rfl⟩ | hmakes
      · have hx : x.recipient = .one ws := by
          simp only [Update.apply, List.append_cancel_left_eq, List.cons.injEq, and_true] at hout
          rw [← hout]
        rw [hx] at hreach
        exact hreach
      · have hrest :
            Within (utters (Quiet k)) (Coro.when ((w.transport ws).queue = none) suspend) :=
          inferInstance
        exact absurd hkind (hmakes.within hrest x hout)
    · exact absurd hkind (hmakes.within hf x hout)
  · rintro rfl
    exact ⟨w, _, _, makes_bind.mpr (.inl (.inl ⟨rfl, rfl⟩)), rfl, hm, rfl⟩

/-- A message is sent to a connection, if there is one. -/
theorem confides_via {c : M α} {o : Option WsId} (hnone : o = none → ¬ Confides c w k dest)
    (hsome : ∀ ws, o = some ws → (Confides c w k dest ↔ dest = .here ws)) :
    Confides c w k dest ↔ ∃ ws, o = some ws ∧ dest = .here ws := by
  cases o with
  | none =>
    refine ⟨fun h => absurd h (hnone rfl), ?_⟩
    rintro ⟨ws, hws, -⟩
    cases hws
  | some ws =>
    refine (hsome ws rfl).trans ⟨fun h => ⟨ws, rfl, h⟩, ?_⟩
    rintro ⟨ws', hws, h⟩
    cases hws
    exact h

/-- A message to a connected player goes to its `websocket`, if it has one. -/
theorem confides_sendToPlayer (hm : m.privateKind = some k) {f : Unit → M α}
    (hf : Within (utters (Quiet k)) (f ())) (hon : (w.player r p).isConnected = true) :
    Confides (sendToPlayer r p m lossy >>= f) w k dest ↔
      ∃ ws, (w.player r p).websocket = some ws ∧ dest = .here ws := by
  change Confides (((w.player r p).websocket.elim (return ()) fun ws =>
    Coro.when ((w.player r p).isConnected = true) (sendText ws m lossy)) >>= f) w k dest ↔ _
  refine confides_via (fun hnone => ?_) fun ws hsome => ?_
  · rw [hnone]
    exact not_confides_of_quiet hf
  · rw [hsome, Option.elim_some, hon]
    unfold Coro.when
    rw [if_pos rfl, confides_sendText hm hf]

theorem confides_discard {β : Type} {c : M β} :
    Confides (do let _ ← c) w k dest ↔ Confides c w k dest := by
  refine ⟨fun ⟨w₁, w₂, x, hmakes, hx⟩ => ?_, fun ⟨w₁, w₂, x, hmakes, hx⟩ =>
    ⟨w₁, w₂, x, makes_bind.mpr (.inl hmakes), hx⟩⟩
  rcases makes_bind.mp hmakes with hmakes | ⟨_, _, _, hmakes⟩
  · exact ⟨w₁, w₂, x, hmakes, hx⟩
  · exact hmakes.elim

theorem Delivers.confides {c : M α} (h : Delivers c w k dest) : Confides c w k dest := by
  obtain ⟨w₁, w₂, hmakes, x, hx⟩ := h.makes
  exact ⟨w₁, w₂, x, hmakes, hx⟩

theorem Delivers.bind {β : Type} {c : M β} {f : β → M α} (h : Delivers c w k dest) :
    Delivers (c >>= f) w k dest := MustMake.bind h

theorem delivers_put {u : Update} {f : Unit → M α} (h : Delivers (f ()) (u.apply w) k dest) :
    Delivers (put u >>= f) w k dest := .inr h

theorem delivers_uuid4 {f : Ident → M α}
    (h : Delivers (f (.uuid w.nextUuid)) (Update.uuid4.apply w) k dest) :
    Delivers (uuid4 >>= f) w k dest := .inr h

theorem delivers_createTask {kind : TaskKind} {d : ℚ} {f : Nat → M α}
    (h : Delivers (f w.nextTask) ((Update.createTask kind d).apply w) k dest) :
    Delivers (createTask kind d >>= f) w k dest := .inr h

theorem delivers_sendText (hm : m.privateKind = some k) :
    Delivers (sendText ws m lossy) w k (.here ws) := .inl ⟨_, rfl, hm, rfl⟩

theorem delivers_sendToPlayer (hm : m.privateKind = some k)
    (hon : (w.player r p).isConnected = true) (hws : (w.player r p).websocket = some ws) :
    Delivers (sendToPlayer r p m lossy) w k (.here ws) := by
  change Delivers ((w.player r p).websocket.elim (return ()) fun ws =>
    Coro.when ((w.player r p).isConnected = true) (sendText ws m lossy)) w k (.here ws)
  rw [hws, Option.elim_some, hon]
  unfold Coro.when
  rw [if_pos rfl]
  exact delivers_sendText hm

/-- A message to the new host goes to its `websocket`, if it has one. -/
theorem confides_sendToHost (hm : m.privateKind = some k) :
    Confides (sendToHost r p m) w k dest ↔
      ∃ ws, (w.player r p).websocket = some ws ∧ dest = .here ws := by
  change Confides ((w.player r p).websocket.elim (return ()) fun ws => sendText ws m false) w k
    dest ↔ _
  refine confides_via (fun hnone => ?_) fun ws hsome => ?_
  · rw [hnone]
    exact not_confides_of_quiet (.pure _)
  · rw [hsome]
    exact confides_discard.symm.trans (confides_sendText hm (.pure _))

theorem delivers_sendToHost (hm : m.privateKind = some k)
    (hws : (w.player r p).websocket = some ws) :
    Delivers (sendToHost r p m) w k (.here ws) := by
  change Delivers ((w.player r p).websocket.elim (return ()) fun ws => sendText ws m false) w k
    (.here ws)
  rw [hws]
  exact delivers_sendText hm

instance : Silent .uuid4 := ⟨fun _ => rfl⟩

theorem confides_uuid4 {f : Ident → M α} : Confides (uuid4 >>= f) w k dest ↔
    Confides (f (.uuid w.nextUuid)) (Update.uuid4.apply w) k dest :=
  confides_put (f := fun _ => f (.uuid w.nextUuid))

theorem confides_createTask {kind : TaskKind} {d : ℚ} {f : Nat → M α} :
    Confides (createTask kind d >>= f) w k dest ↔
      Confides (f w.nextTask) ((Update.createTask kind d).apply w) k dest :=
  confides_put (f := fun _ => f w.nextTask)

/-- What comes after a part that sends no such message. -/
theorem confides_of_bind {β : Type} {c : M β} {f : β → M α} [hc : Within (utters (Quiet k)) c]
    (h : Confides (c >>= f) w k dest) :
    ∃ a w', c.Ends (fun _ _ => True) w (.ok a) w' ∧ Confides (f a) w' k dest := by
  obtain ⟨w₁, w₂, x, hmakes, hout, hkind, hreach⟩ := h
  rcases makes_bind.mp hmakes with hmakes | ⟨a, w', hends, hmakes⟩
  · exact absurd hkind (hmakes.within hc x hout)
  · exact ⟨a, w', hends, w₁, w₂, x, hmakes, hout, hkind, hreach⟩

/-! ### The other messages -/

section Quiets

instance (q : PlayerId) (o : Option String) : Silent (.playerToRoom q o) := ⟨fun _ => rfl⟩

instance (ws : WsId) (o : Option RequestId) : Silent (.wsToPendingRequest ws o) := ⟨fun _ => rfl⟩

instance (l : List (RequestId × PendingJoinRequest)) : Silent (.pendingJoinRequests l) :=
  ⟨fun _ => rfl⟩

instance (l : List (String × RoomId)) : Silent (.rooms l) := ⟨fun _ => rfl⟩

instance (l : List (RequestId × PendingSpectatorRoleRequest)) :
    Silent (.pendingSpectatorRoleRequests l) := ⟨fun _ => rfl⟩

instance (code : String) (o : Option VoteKickState) : Silent (.activeVoteKicks code o) :=
  ⟨fun _ => rfl⟩

instance (code : String) (f : PlayerId → ℚ) : Silent (.voteKickCooldowns code f) := ⟨fun _ => rfl⟩

instance (q : PlayerId) (name : String) : Allowed (Quiet k) (.drawerSelecting q name) := ⟨nofun⟩

instance (q : PlayerId) (hint : List Char) (d n : Nat) (theme : Option Theme) :
    Allowed (Quiet k) (.turnStarted q hint d n theme) := ⟨nofun⟩

instance : Allowed (Quiet k) .clearCanvas := ⟨nofun⟩

instance (l : List PlayerInfo) : Allowed (Quiet k) (.playerList l) := ⟨nofun⟩

instance (q : PlayerId) (name : String) (o : Option (PlayerId × String)) :
    Allowed (Quiet k) (.hostChanged q name o) := ⟨nofun⟩

instance (q : PlayerId) (a b c : String) : Allowed (Quiet k) (.voteKickEnded q a b c) := ⟨nofun⟩

instance (name text : String) (b : Bool) : Allowed (Quiet k) (.chatMessage name text b) := ⟨nofun⟩

instance (word : String) (scores : List (PlayerId × Int)) (reason : TurnEndReason) :
    Allowed (Quiet k) (.turnEnded word scores reason) := ⟨nofun⟩

instance (info : GameOverInfo) : Allowed (Quiet k) (.gameOver info) := ⟨nofun⟩

instance (n : Nat) : Allowed (Quiet k) (.waitingForReconnect n) := ⟨nofun⟩

instance (l : List String) (packs : List Pack) : Allowed (Quiet .kicked) (.wordChoices l packs) :=
  ⟨by simp [Quiet, Message.privateKind]⟩

instance (q : PlayerId) : Within (utters (Quiet k)) (findRoomByPlayer q) := by
  unfold findRoomByPlayer; infer_instance

instance (r : RoomId) (turnId : Nat) (d : ℚ) :
    Within (utters (Quiet k)) (createTurnTasks r turnId d) := by
  unfold createTurnTasks; infer_instance

instance (code name text : String) (b : Bool) :
    Within (utters (Quiet k)) (broadcastChat code name text b) := by
  unfold broadcastChat; infer_instance

instance (r : RoomId) (q : PlayerId) : Within (utters (Quiet k)) (dropPlayer r q) := by
  unfold dropPlayer; infer_instance

instance (r : RoomId) (l : List PlayerId) : Within (utters (Quiet k)) (changeHost r l) := by
  unfold changeHost; infer_instance

instance (r : RoomId) : Within (utters (Quiet k)) (broadcastPlayerList r) := by
  unfold broadcastPlayerList; infer_instance

instance (r : RoomId) : Within (utters (Quiet k)) (gameOver r) := by unfold gameOver; infer_instance

instance (r : RoomId) : Within (utters (Quiet k)) (endGameInsufficientPlayers r) := by
  unfold endGameInsufficientPlayers; infer_instance

instance (id : RequestId) (q : PlayerId) (name : String) (avatar : Option String)
    (code : String) : Allowed (Quiet k) (.spectatorRoleRequestReceived id q name avatar code) :=
  ⟨nofun⟩

instance (text : String) : Allowed (Quiet k) (.systemMessage text) := ⟨nofun⟩

instance (r : RoomId) (size : Room → Nat) (n : Nat) :
    Within (utters (Quiet k)) (checkSize r size n) := by
  unfold checkSize; infer_instance

instance (r : RoomId) (q : PlayerId) (m : Message) [Allowed (Quiet k) m] :
    Within (utters (Quiet k)) (sendToHost r q m) := by
  unfold sendToHost; infer_instance

instance (code : String) : Within (utters (Quiet k)) (deleteRoom code) := by
  unfold deleteRoom cancelRoleTimeout cancel; infer_instance

instance (env : Env) (r : RoomId) : Within (utters (Quiet .kicked)) (startTurn env r) := by
  unfold startTurn; infer_instance

instance (env : Env) (r : RoomId) (attempts : Nat) :
    Within (utters (Quiet .kicked)) (skipPlayers env r attempts) := by
  induction attempts with
  | zero => unfold skipPlayers; infer_instance
  | succ attempts ih => unfold skipPlayers; infer_instance

instance (env : Env) (r : RoomId) : Within (utters (Quiet .kicked)) (advanceTurnOrRound env r) := by
  unfold advanceTurnOrRound; infer_instance

instance (env : Env) (r : RoomId) (reason : TurnEndReason) :
    Within (utters (Quiet .kicked)) (endTurn env r reason) := by
  unfold endTurn finishTurn; infer_instance

instance (env : Env) (r : RoomId) (b : Bool) :
    Within (utters (Quiet .kicked)) (afterVoteKick env r b) := by
  unfold afterVoteKick; infer_instance

end Quiets

/-! ## Errands -/

/-- A private message that is due. -/
inductive Errand where
  | wordChoices (r : RoomId) (room : Room) (drawerId : PlayerId) (packs : List Pack)
  | wordAssigned (r : RoomId) (room : Room) (turn : TurnState)
  | kicked (r : RoomId) (target targetPlayerId : PlayerId)
  | votedOut (r : RoomId) (targetId : PlayerId) (w : World)
  | joinRequest (r : RoomId) (code name : String) (ws : WsId) (avatar : Option String) (w : World)
      (host : PlayerId)
  /-- A pending request, for the new host. -/
  | forwarded (r : RoomId) (room : Room) (host : PlayerId) (x : RequestId × PendingJoinRequest)

namespace Errand

def kind : Errand → PrivateKind
  | .wordChoices .. => .wordChoices
  | .wordAssigned .. => .wordAssigned
  | .kicked .. => .kicked
  | .votedOut .. => .kicked
  | .joinRequest .. | .forwarded .. => .joinRequestReceived

/-- The addressee, in the room. -/
def addressee : Errand → RoomId × PlayerId
  | .wordChoices r _ drawerId _ => (r, drawerId)
  | .wordAssigned r _ turn => (r, turn.drawerId)
  | .kicked r target _ => (r, target)
  | .votedOut r targetId _ => (r, targetId)
  | .joinRequest r _ _ _ _ _ host => (r, host)
  | .forwarded r _ host _ => (r, host)

/-- The function that sends the message, from there on. -/
def call (env : Env) : Errand → M Unit
  | .wordChoices r room drawerId packs => offerWords r room drawerId packs
  | .wordAssigned r room turn => confideWord r room turn
  | .kicked r target targetPlayerId => do
    let _ ← kickOut r target targetPlayerId
  | .votedOut r targetId w => voteOut env r targetId w
  | .joinRequest r code name ws avatar w host => do
    let _ ← askHost r code name ws avatar w host
  | .forwarded r room host x =>
    sendToHost r host (.joinRequestReceived x.1 x.2.name x.2.avatar room.code)

/-- The host is as `requestJoin` has read it. -/
def Reads (w : World) : Errand → Prop
  | .joinRequest r _ _ _ _ w₀ host => w₀.player r host = w.player r host
  | _ => True

/-- The addressee's state. -/
def player (w : World) (e : Errand) : Player := w.player e.addressee.1 e.addressee.2

/-- The addressee's connection. -/
def place (w : World) (e : Errand) : Place := (e.player w).websocket.elim .elsewhere .here

end Errand

/-- The message goes to the addressee's `websocket`. -/
theorem confides_errand (env : Env) (e : Errand) (hread : e.Reads w)
    (hon : (e.player w).isConnected = true) : Confides (e.call env) w e.kind dest ↔
      ∃ ws, (e.player w).websocket = some ws ∧ dest = .here ws := by
  cases e with
  | wordChoices r room drawerId packs =>
    change Confides (offerWords r room drawerId packs) w .wordChoices dest ↔ _
    unfold offerWords
    rw [confides_put]
    exact confides_sendToPlayer rfl inferInstance hon
  | wordAssigned r room turn => exact confides_sendToPlayer rfl inferInstance hon
  | kicked r target targetPlayerId =>
    change Confides (do let _ ← kickOut r target targetPlayerId) w .kicked dest ↔ _
    rw [confides_discard]
    exact confides_sendToPlayer rfl inferInstance hon
  | votedOut r targetId w₀ =>
    change Confides (voteOut env r targetId w₀) w .kicked dest ↔ _
    exact confides_sendToPlayer rfl inferInstance hon
  | joinRequest r code name ws avatar w₀ host =>
    have hread : w₀.player r host = w.player r host := hread
    have hon : (w.player r host).isConnected = true := hon
    change Confides (do let _ ← askHost r code name ws avatar w₀ host) w .joinRequestReceived
      dest ↔ ∃ ws, (w.player r host).websocket = some ws ∧ dest = .here ws
    rw [confides_discard]
    unfold askHost
    rw [hread, if_pos hon]
    refine confides_via (fun hnone => ?_) fun hostWs hsome => ?_
    · rw [hnone]
      exact not_confides_of_quiet (.pure _)
    · rw [hsome, Option.elim_some, confides_uuid4, confides_createTask, confides_put, confides_put,
        confides_put, confides_sendText rfl inferInstance]
  | forwarded r room host x => exact confides_sendToHost rfl

/-- The message goes to the addressee's `websocket` in every execution. -/
theorem delivers_errand (env : Env) (e : Errand) (hread : e.Reads w)
    (hon : (e.player w).isConnected = true) (hws : (e.player w).websocket = some ws) :
    Delivers (e.call env) w e.kind (.here ws) := by
  cases e with
  | wordChoices r room drawerId packs =>
    exact delivers_put (Delivers.bind (delivers_sendToPlayer (m := .wordChoices _ _) rfl hon hws))
  | wordAssigned r room turn => exact Delivers.bind (delivers_sendToPlayer rfl hon hws)
  | kicked r target targetPlayerId =>
    exact Delivers.bind (Delivers.bind (delivers_sendToPlayer rfl hon hws))
  | votedOut r targetId w₀ => exact Delivers.bind (delivers_sendToPlayer rfl hon hws)
  | joinRequest r code name ws' avatar w₀ host =>
    have hread : w₀.player r host = w.player r host := hread
    have hon : (w.player r host).isConnected = true := hon
    have hws : (w.player r host).websocket = some ws := hws
    refine Delivers.bind ?_
    unfold askHost
    rw [hread, if_pos hon, hws, Option.elim_some]
    -- the request is entered everywhere before the host is told
    exact delivers_uuid4 (delivers_createTask (delivers_put (delivers_put (delivers_put
      (Delivers.bind (delivers_sendText rfl))))))
  | forwarded r room host x => exact delivers_sendToHost rfl hws

theorem confides_elim {β : Type} {o : Option β} {c : M α} {f : β → M α}
    (hc : Within (utters (Quiet k)) c) (h : Confides (o.elim c f) w k dest) :
    ∃ b, o = some b ∧ Confides (f b) w k dest := by
  cases o with
  | none => exact absurd h (not_confides_of_quiet hc)
  | some b => exact ⟨b, rfl, h⟩

/-- A refused call sends nothing. -/
theorem confides_unless {q : Prop} [Decidable q] {a : α} {c : M α}
    (h : Confides (if q then return a else c) w k dest) : ¬ q ∧ Confides c w k dest := by
  by_cases hq : q
  · rw [if_pos hq] at h
    exact absurd h (not_confides_of_quiet (.pure _))
  · rw [if_neg hq] at h
    exact ⟨hq, h⟩

/-- `start_turn` sends its private message to the drawer only. -/
theorem confides_startTurn {env : Env} (h : Confides (startTurn env r) w k dest) :
    ∃ drawerId packs w', (w.room r).players[(w.room r).drawerIndex]? = some drawerId ∧
      Confides (offerWords r (w.room r) drawerId packs) w' k dest := by
  rw [startTurn_eq] at h
  obtain ⟨drawerId, hdrawer, h⟩ := confides_elim (.raise _ trivial) h
  obtain ⟨packs, w', -, h⟩ := confides_of_bind h
  exact ⟨drawerId, packs, w', hdrawer, h⟩

theorem confides_announceTurn {room : Room} {turn : TurnState}
    (h : Confides (announceTurn r room turn) w k dest) :
    ∃ w', Confides (confideWord r room turn) w' k dest := by
  rw [announceTurn_eq] at h
  obtain ⟨-, w', -, h⟩ := confides_of_bind h
  exact ⟨w', h⟩

theorem confides_requestJoin {code name : String} {avatar : Option String}
    (h : Confides (requestJoin r code name ws avatar) w k dest) :
    ∃ host w', Confides (askHost r code name ws avatar w host) w' k dest := by
  rw [requestJoin_eq] at h
  obtain ⟨-, h⟩ := confides_unless h
  obtain ⟨o, w', -, h⟩ := confides_of_bind h
  obtain ⟨host, -, h⟩ := confides_elim (.pure _) h
  exact ⟨host, w', h⟩

theorem confides_kickPlayer {hostPlayerId targetPlayerId : PlayerId}
    (h : Confides (kickPlayer hostPlayerId targetPlayerId) w k dest) :
    ∃ r target w', Confides (kickOut r target targetPlayerId) w' k dest := by
  rw [kickPlayer_eq] at h
  obtain ⟨o, w', -, h⟩ := confides_of_bind h
  obtain ⟨r, -, h⟩ := confides_elim (.pure _) h
  have h : Confides _ w' k dest := h
  obtain ⟨-, h⟩ := confides_unless h
  obtain ⟨-, h⟩ := confides_unless h
  obtain ⟨o, w'', -, h⟩ := confides_of_bind h
  obtain ⟨target, -, h⟩ := confides_elim (.pure _) h
  obtain ⟨-, h⟩ := confides_unless h
  exact ⟨r, target, w'', h⟩

/-- What a sequence sends, one of its parts sends. -/
theorem confides_bind {β : Type} {c : M β} {f : β → M α} (h : Confides (c >>= f) w k dest) :
    Confides c w k dest ∨ ∃ a w', Confides (f a) w' k dest := by
  obtain ⟨w₁, w₂, x, hmakes, hx⟩ := h
  rcases makes_bind.mp hmakes with hmakes | ⟨a, w', -, hmakes⟩
  · exact .inl ⟨w₁, w₂, x, hmakes, hx⟩
  · exact .inr ⟨a, w', w₁, w₂, x, hmakes, hx⟩

theorem confides_each {β : Type} {l : List β} {f : β → M Unit}
    (h : Confides (Coro.each l f) w k dest) : ∃ b ∈ l, ∃ w', Confides (f b) w' k dest := by
  induction l generalizing w with
  | nil =>
    obtain ⟨w₁, w₂, x, hmakes, -⟩ := h
    exact hmakes.elim
  | cons b l ih =>
    rcases confides_bind h with h | ⟨-, w', h⟩
    · exact ⟨b, List.mem_cons_self, w, h⟩
    · obtain ⟨b', hmem, hb'⟩ := ih h
      exact ⟨b', List.mem_cons_of_mem b hmem, hb'⟩

/-- The new host is sent the pending requests, and nobody else anything. -/
theorem confides_forwardRequests (h : Confides (forwardRequests r p) w .joinRequestReceived dest) :
    ∃ x ∈ (w.room r).pendingJoinRequests, ∃ w',
      Confides (sendToHost r p (.joinRequestReceived x.1 x.2.name x.2.avatar (w.room r).code)) w'
        .joinRequestReceived dest := by
  unfold forwardRequests at h
  have h : Confides (Coro.each (w.room r).pendingJoinRequests _ >>= _) w .joinRequestReceived
    dest := h
  rcases confides_bind h with h | ⟨-, w', h⟩
  · obtain ⟨x, hx, w', h⟩ := confides_each h
    rcases confides_bind h with h | ⟨-, w'', h⟩
    · exact ⟨x, hx, w', h⟩
    · exact absurd h (not_confides_of_quiet inferInstance)
  · exact absurd h (not_confides_of_quiet inferInstance)

theorem confides_transferHost {hostPlayerId targetPlayerId : PlayerId}
    (h : Confides (transferHost hostPlayerId targetPlayerId) w .joinRequestReceived dest) :
    ∃ r target w', Confides (forwardRequests r target) w' .joinRequestReceived dest := by
  unfold transferHost at h
  obtain ⟨o, w', -, h⟩ := confides_of_bind h
  obtain ⟨r, -, h⟩ := confides_elim (.pure _) h
  have h : Confides _ w' .joinRequestReceived dest := h
  obtain ⟨-, h⟩ := confides_unless h
  obtain ⟨-, h⟩ := confides_unless h
  obtain ⟨o, w'', -, h⟩ := confides_of_bind h
  obtain ⟨target, -, h⟩ := confides_elim (.pure _) h
  have h : Confides _ w'' .joinRequestReceived dest := h
  obtain ⟨-, h⟩ := confides_unless h
  obtain ⟨-, h⟩ := confides_unless h
  obtain ⟨oldHost, w₁, -, h⟩ := confides_of_bind h
  have h := confides_put.mp (show Confides (put _ >>= _) w₁ .joinRequestReceived dest from h)
  obtain ⟨-, w₂, -, h⟩ := confides_of_bind h
  obtain ⟨player, w₃, -, h⟩ := confides_of_bind h
  obtain ⟨-, w₄, -, h⟩ := confides_of_bind h
  obtain ⟨-, w₅, -, h⟩ := confides_of_bind h
  rcases confides_bind h with h | ⟨-, w₆, h⟩
  · exact ⟨r, target, w₅, h⟩
  · exact absurd h (not_confides_of_quiet inferInstance)

theorem confides_reassignHost {code : String}
    (h : Confides (reassignHostIfDisconnected code p) w .joinRequestReceived dest) :
    ∃ r newHost w', Confides (forwardRequests r newHost) w' .joinRequestReceived dest := by
  unfold reassignHostIfDisconnected at h
  have h : Confides _ w .joinRequestReceived dest := h
  obtain ⟨r, -, h⟩ := confides_elim (.pure _) h
  have h : Confides (if (w.room r).hostId ≠ p then Pure.pure () else _) w .joinRequestReceived
    dest := h
  obtain ⟨-, h⟩ := confides_unless h
  obtain ⟨oldHost, w', -, h⟩ := confides_of_bind h
  obtain ⟨-, h⟩ := confides_unless h
  obtain ⟨newHost, -, h⟩ := confides_elim inferInstance h
  obtain ⟨-, w₁, -, h⟩ := confides_of_bind h
  obtain ⟨-, w₂, -, h⟩ := confides_of_bind h
  obtain ⟨player, w₃, -, h⟩ := confides_of_bind h
  obtain ⟨-, w₄, -, h⟩ := confides_of_bind h
  obtain ⟨-, w₅, -, h⟩ := confides_of_bind h
  exact ⟨r, newHost, w₅, h⟩

/-! ## A member on another worker -/

end Skribbl.Backend
