import Skribbl.Lib.LastEvent
import Skribbl.Frontend.GameReducer

/-!
# The state of a client (`frontend/src/context/WebSocketContext.tsx`)

* `GameState` — what `gameReducer` keeps, without avatars, artworks and the texts of the chat's ids;
  its list of players is that of `ClientState`.
* `GameState.reduce` — what a message of the worker, or an action of a page, does to it.
* `joinChange`, `roleChange` — what an event does to the requests that the host is shown.
* `GameState.Coherent`, `GameState.Drawing` — the flags fit the rest of the state.

Principal results: `flags_of_run` — the flags about requests fit after any run; `joinRequests_iff`,
`roleRequests_iff`, `requests_nodup` — which requests the host is shown; `drawer_iff` — a client
takes itself for the drawer only with its own id as that of the drawer, exactly if
`drawer_selecting` never names another player, nor `room_created` gives the client another id, while
it does.
-/

set_option autoImplicit false

namespace Skribbl.Frontend

open Backend
open LastEvent (Change LastSets)

/-- `GamePhase`. -/
inductive GamePhase where
  | idle
  | lobby
  | wordSelection
  | playing
  | gameOver
  deriving DecidableEq

/-- The phase for the state of a room. -/
def GamePhase.ofState : RoomState → GamePhase
  | .lobby => .lobby
  | .wordSelection => .wordSelection
  | .playing => .playing
  | .gameOver => .gameOver

inductive ChatType where
  | chat
  | correctGuess
  | system
  deriving DecidableEq

/-- `ChatMessage`, without its id; messages of the worker have no `senderId`. -/
structure ChatMessage where
  senderName : String
  text : String
  type : ChatType
  deriving DecidableEq

/-- `JoinRequest`. -/
structure JoinRequest where
  requestId : RequestId
  playerName : String
  roomCode : String
  deriving DecidableEq

/-- `SpectatorRoleRequest`. -/
structure SpectatorRoleRequest where
  requestId : RequestId
  playerId : PlayerId
  playerName : String
  roomCode : String
  deriving DecidableEq

/-- `ActiveVoteKick`; the names are missing in the answer to who has started the vote. -/
structure ActiveVoteKick where
  targetId : PlayerId
  targetName : Option String
  initiatorId : Option PlayerId
  initiatorName : Option String
  currentVotes : Nat
  requiredVotes : Nat
  timeoutSeconds : Nat
  hasVoted : Bool
  deriving DecidableEq

/-- `GameState`. -/
structure GameState extends ClientState where
  phase : GamePhase := .idle
  roomCode : Option String := none
  isHost : Bool := false
  isDrawer : Bool := false
  isSpectator : Bool := false
  config : ConfigInfo := ⟨3, 80, 8, [], false⟩
  hint : List Char := []
  wordChoices : List String := []
  wordPacks : Option (List Pack) := none
  currentTheme : Option Theme := none
  currentWord : Option String := none
  currentRound : Nat := 0
  totalRounds : Nat := 0
  timerSeconds : Nat := 0
  hasGuessed : Bool := false
  errorMessage : Option String := none
  chatMessages : List ChatMessage := []
  waitingForReconnect : Bool := false
  reconnectCountdown : Nat := 0
  typingUsers : List (PlayerId × Bool) := []
  mvpAwards : List Award := []
  sessionStats : List SessionStat := []
  joinRequestPending : Bool := false
  pendingJoinRequestId : Option RequestId := none
  pendingJoinRequests : List JoinRequest := []
  spectatorRoleRequestPending : Bool := false
  pendingSpectatorRoleRequestId : Option RequestId := none
  spectatorRequestsRemaining : Nat := 2
  pendingSpectatorRoleRequests : List SpectatorRoleRequest := []
  activeVoteKick : Option ActiveVoteKick := none

/-- `initialGameState`. -/
def initialGameState : GameState := {}

namespace GameState

/-- The local player in the list. -/
def localPlayer (s : GameState) : Option PlayerEntry :=
  s.localPlayerId.bind fun p => s.players.find? (·.id = p)

/-- No request of this client for a place in the game is pending. -/
def noRoleRequest (s : GameState) : GameState :=
  { s with spectatorRoleRequestPending := false, pendingSpectatorRoleRequestId := none }

/-- No request of this client to join is pending. -/
def noJoinRequest (s : GameState) : GameState :=
  { s with joinRequestPending := false, pendingJoinRequestId := none }

/-- `ROOM_CREATED`. -/
def roomCreated (s : GameState) (roomCode : String) (config : ConfigInfo) : GameState :=
  { s with phase := .lobby, roomCode := some roomCode, isHost := true, config := config,
           errorMessage := none }

/-- `ROOM_JOINED`. -/
def roomJoined (s : GameState) (info : JoinedInfo) : GameState :=
  { s.noRoleRequest.noJoinRequest with
    phase := .ofState info.state
    roomCode := some info.roomCode
    isHost := info.hostId = info.playerId
    isSpectator := info.isSpectator
    isDrawer := !info.isSpectator && info.drawerId = some info.playerId
    currentRound := info.currentRound
    totalRounds := info.totalRounds
    config := info.config
    hint := info.hint
    timerSeconds := info.duration.getD s.timerSeconds
    currentTheme := info.theme
    spectatorRequestsRemaining := 2
    pendingSpectatorRoleRequests := []
    errorMessage := none }

/-- `PLAYER_LIST`, once the list is there. -/
def playerList (s : GameState) : GameState :=
  let isSpectator := s.localPlayer.elim s.isSpectator (·.isSpectator)
  let s := { s with
    isHost := s.localPlayer.elim s.isHost (·.isHost)
    isSpectator := isSpectator
    isDrawer := !isSpectator && s.drawerId = s.localPlayerId }
  if isSpectator then s else s.noRoleRequest

/-- `GAME_STARTED`. -/
def gameStarted (s : GameState) (drawerId : PlayerId) (round totalRounds : Nat) : GameState :=
  { s.noRoleRequest with
    phase := .wordSelection
    totalRounds := totalRounds
    currentRound := round
    isDrawer := some drawerId = s.localPlayerId
    spectatorRequestsRemaining := 2
    pendingSpectatorRoleRequests := [] }

/-- `TURN_STARTED`. -/
def turnStarted (s : GameState) (drawerId : PlayerId) (hint : List Char) (duration round : Nat)
    (theme : Option Theme) : GameState :=
  { s with
    phase := .playing
    hint := hint
    timerSeconds := duration
    currentRound := round
    isDrawer := some drawerId = s.localPlayerId
    hasGuessed := false
    wordChoices := []
    wordPacks := none
    currentTheme := theme
    typingUsers := []
    currentWord := if some drawerId = s.localPlayerId then s.currentWord else none }

/-- `TURN_ENDED`. -/
def turnEnded (s : GameState) : GameState :=
  { s with isDrawer := false, hasGuessed := false, currentWord := none, currentTheme := none,
           typingUsers := [], phase := .wordSelection }

/-- `GUESS_CORRECT`, for a payload with a name; `before` is the local player as it was. -/
def guessCorrect (s : GameState) (before : Option PlayerEntry) (playerName : String) : GameState :=
  { s with
    hasGuessed := before.any (·.name = playerName) || s.hasGuessed
    chatMessages := s.chatMessages ++
      [⟨playerName, playerName ++ " guessed the word!", .correctGuess⟩] }

/-- `CHAT_MESSAGE`. -/
def chatMessage (s : GameState) (playerName text : String) (isSystem : Bool) : GameState :=
  { s with chatMessages := s.chatMessages ++
    [⟨playerName, text, if isSystem then .system else .chat⟩] }

/-- `RECONNECTED`, once the list is there. -/
def reconnected (s : GameState) (roomCode : String) (playerId hostId : PlayerId)
    (config : ConfigInfo)
    (state : RoomState) (currentRound : Nat) (hint : List Char) : GameState :=
  let isSpectator := s.localPlayer.elim s.isSpectator (·.isSpectator)
  { s with
    phase := .ofState state
    roomCode := some roomCode
    isHost := hostId = playerId
    isSpectator := isSpectator
    config := config
    currentRound := currentRound
    totalRounds := config.numRounds
    isDrawer := !isSpectator && s.drawerId = some playerId
    hint := hint
    waitingForReconnect := false
    reconnectCountdown := 0 }

/-- `REMATCH_STARTED`. -/
def rematchStarted (s : GameState) (config : ConfigInfo) : GameState :=
  { initialGameState with
    toClientState := s.toClientState
    phase := .lobby
    roomCode := s.roomCode
    isHost := s.isHost
    config := config }

/-- `VOTE_KICK_STARTED`; an answer that the vote has passed has no numbers. -/
def voteKickStarted (s : GameState) (targetId : PlayerId) (names :
    Option (String × PlayerId × String))
    (currentVotes requiredVotes : Nat) (passed : Bool) : GameState :=
  { s with
    activeVoteKick := some
      { targetId := targetId
        targetName := names.map (·.1)
        initiatorId := names.map (·.2.1)
        initiatorName := names.map (·.2.2)
        currentVotes := if passed then 1 else currentVotes
        requiredVotes := if passed then 2 else requiredVotes
        timeoutSeconds := 30
        hasVoted := names.any fun x => some x.2.1 = s.localPlayerId } }

/-- `VOTE_KICK_UPDATED`. -/
def voteKickUpdated (s : GameState) (votes : Option (Nat × Nat)) : GameState :=
  { s with
    activeVoteKick := s.activeVoteKick.map fun vote => {
      vote with
      currentVotes := (votes.map (·.1)).getD vote.currentVotes
      requiredVotes := (votes.map (·.2)).getD vote.requiredVotes } }

/-- `SPECTATOR_ROLE_REQUEST_RESOLVED`. -/
def roleRequestResolved (s : GameState) (requestId : Option RequestId)
    (playerId : Option PlayerId) :
    GameState :=
  let isLocal := s.pendingSpectatorRoleRequestId = requestId ∨
    playerId ≠ none ∧ playerId = s.localPlayerId
  let s := { s with
    pendingSpectatorRoleRequests :=
      s.pendingSpectatorRoleRequests.filter fun r => some r.requestId ≠ requestId }
  if isLocal then s.noRoleRequest else s

/-- What a message does besides the list of players, the local player and the drawer, which `s` has
already; `before` is the local player as it was. -/
def apply (s : GameState) (before : Option PlayerEntry) : Message → GameState
  | .error _ message => { s with errorMessage := some message }
  | .roomCreated roomCode _ _ config => s.roomCreated roomCode config
  | .roomJoined info => s.roomJoined info
  | .reconnected roomCode playerId _ _ _ config state currentRound hostId _ hint =>
    s.reconnected roomCode playerId hostId config state currentRound hint
  | .reconnectResumed | .playerReconnected _ _ =>
    { s with waitingForReconnect := false, reconnectCountdown := 0 }
  | .playerList _ => s.playerList
  | .hostChanged newHostId _ _ => { s with isHost := s.localPlayerId = some newHostId }
  | .joinRequestReceived requestId playerName _ roomCode =>
    { s with
      pendingJoinRequests :=
        s.pendingJoinRequests.filter (·.requestId ≠ requestId) ++
            [⟨requestId, playerName, roomCode⟩] }
  | .joinRequestPending requestId _ _ =>
    { s with
      joinRequestPending := true, pendingJoinRequestId := some requestId, errorMessage := none }
  | .joinRequestDeclined _ _ message =>
    { s.noJoinRequest with
      errorMessage := some (if message = "" then "Join request was declined." else message) }
  | .joinRequestResolved requestId _ _ _ =>
    let isLocal := s.pendingJoinRequestId = some requestId
    let s := { s with
      pendingJoinRequests := s.pendingJoinRequests.filter (·.requestId ≠ requestId) }
    if isLocal then s.noJoinRequest else s
  | .spectatorRoleRequestReceived requestId playerId playerName _ roomCode =>
    { s with
      pendingSpectatorRoleRequests :=
        s.pendingSpectatorRoleRequests.filter (·.requestId ≠ requestId) ++
          [⟨requestId, playerId, playerName, roomCode⟩] }
  | .spectatorRoleRequestDeclined _ _ message requestsRemaining =>
    { s.noRoleRequest with
      spectatorRequestsRemaining := requestsRemaining
      errorMessage := some
        (if message = "" then "Host declined your request to become a player." else message) }
  | .spectatorRoleRequestResolved requestId _ playerId => s.roleRequestResolved requestId playerId
  | .becomePlayerRequestPending requestId requestsRemaining =>
    { s with
      spectatorRoleRequestPending := true
      pendingSpectatorRoleRequestId := some requestId
      spectatorRequestsRemaining := requestsRemaining
      errorMessage := none }
  | .settingsUpdated config => { s with config := config }
  | .rematchStarted _ config => s.rematchStarted config
  | .kicked message => { initialGameState with errorMessage := some message }
  | .leftRoom => initialGameState
  | .voteKickStarted targetId names currentVotes requiredVotes passed =>
    s.voteKickStarted targetId names currentVotes requiredVotes passed
  | .voteKickUpdated _ votes _ => s.voteKickUpdated votes
  | .voteKickEnded _ _ _ _ => { s with activeVoteKick := none }
  | .chatMessage playerName text isSystem => s.chatMessage playerName text isSystem
  -- neither of the two payloads has `playerName` or `isSystem`
  | .systemMessage text => s.chatMessage "" text false
  | .reaction playerName emoji => s.chatMessage "" (playerName ++ " reacted " ++ emoji) false
  | .gameStarted drawerId round totalRounds => s.gameStarted drawerId round totalRounds
  | .wordChoices choices packs =>
    { s with wordChoices := choices, wordPacks := some packs, isDrawer := true }
  | .drawerSelecting _ _ => { s with phase := .wordSelection }
  | .turnStarted drawerId hint duration round theme =>
    s.turnStarted drawerId hint duration round theme
  | .wordAssigned word => { s with currentWord := some word }
  | .hintUpdate hint => { s with hint := hint }
  | .guessCorrect playerName => s.guessCorrect before playerName
  | .turnEnded _ _ _ => s.turnEnded
  | .gameOver info =>
    { s with phase := .gameOver, mvpAwards := info.mvpAwards, sessionStats := info.sessionStats }
  | .gameEndedInsufficientPlayers => { s with phase := .gameOver }
  | .waitingForReconnect seconds =>
    { s with waitingForReconnect := true, reconnectCountdown := seconds }
  | .typing playerId _ isTyping =>
    { s with typingUsers := (playerId, isTyping) :: s.typingUsers.filter (·.1 ≠ playerId) }
  | _ => s

/-- `handleWsMessage`, with `gameReducer`. -/
def receive (s : GameState) (m : Message) : GameState :=
  ({ s with toClientState := s.toClientState.gameReducer m } : GameState).apply s.localPlayer m

end GameState

/-- What happens to the state of a client. -/
inductive ClientEvent where
  | message (m : Message)
  | tick
  | reset
  | clearError
  | cancelJoinRequest
  | cancelSpectatorRoleRequest
  /-- The drawer picks a word. -/
  | wordSelected (word : String)

/-- `gameReducer`. -/
def GameState.reduce (s : GameState) : ClientEvent → GameState
  | .message m => s.receive m
  | .tick => { s with timerSeconds := s.timerSeconds - 1 }
  | .reset => initialGameState
  | .clearError => { s with errorMessage := none }
  | .cancelJoinRequest => s.noJoinRequest
  | .cancelSpectatorRoleRequest => s.noRoleRequest
  | .wordSelected word => { s with currentWord := some word }

/-- What an event does to the requests to join. -/
def joinChange : ClientEvent → Change RequestId JoinRequest
  | .message (.joinRequestReceived requestId playerName _ roomCode) =>
    .put ⟨requestId, playerName, roomCode⟩
  | .message (.joinRequestResolved requestId _ _ _) => .drop requestId
  | .message (.kicked _) | .message .leftRoom | .message (.rematchStarted _ _) | .reset => .clear
  | _ => .keep

/-- What an event does to the requests of spectators. -/
def roleChange : ClientEvent → Change RequestId SpectatorRoleRequest
  | .message (.spectatorRoleRequestReceived requestId playerId playerName _ roomCode) =>
    .put ⟨requestId, playerId, playerName, roomCode⟩
  | .message (.spectatorRoleRequestResolved requestId _ _) => requestId.elim .keep .drop
  | .message (.roomJoined _) | .message (.gameStarted _ _ _) => .clear
  | .message (.kicked _) | .message .leftRoom | .message (.rematchStarted _ _) | .reset => .clear
  | _ => .keep

namespace GameState

/-- The flags about requests and the wait for a player say what the rest of the state does. -/
structure Coherent (s : GameState) : Prop where
  join : s.joinRequestPending = s.pendingJoinRequestId.isSome
  role : s.spectatorRoleRequestPending = s.pendingSpectatorRoleRequestId.isSome
  countdown : s.waitingForReconnect = false → s.reconnectCountdown = 0

/-- A client that takes itself for the drawer has its own id as that of the drawer. -/
def Drawing (s : GameState) : Prop := s.isDrawer = true → s.drawerId = s.localPlayerId

/-- The event makes a drawer one that has another id than that of the drawer. -/
def Displaces (s : GameState) : ClientEvent → Prop
  | .message (.drawerSelecting drawerId _) => s.isDrawer = true ∧ s.localPlayerId ≠ some drawerId
  | .message (.roomCreated _ playerId _ _) => s.isDrawer = true ∧ s.localPlayerId ≠ some playerId
  | _ => False

variable {s : GameState}

theorem Coherent.receive (h : s.Coherent) (m : Message) : (s.receive m).Coherent := by
  cases m with
  | roomJoined info => exact ⟨rfl, rfl, h.countdown⟩
  | reconnected _ _ _ _ _ _ _ _ _ _ _ => exact ⟨h.join, h.role, fun _ => rfl⟩
  | reconnectResumed => exact ⟨h.join, h.role, fun _ => rfl⟩
  | playerReconnected _ _ => exact ⟨h.join, h.role, fun _ => rfl⟩
  | waitingForReconnect seconds => exact ⟨h.join, h.role, fun hw => Bool.noConfusion hw⟩
  | playerList players =>
    simp only [GameState.receive, GameState.apply, GameState.playerList]
    split
    · exact ⟨h.join, h.role, h.countdown⟩
    · exact ⟨h.join, rfl, h.countdown⟩
  | gameStarted _ _ _ => exact ⟨h.join, rfl, h.countdown⟩
  | joinRequestPending _ _ _ => exact ⟨rfl, h.role, h.countdown⟩
  | joinRequestDeclined _ _ _ => exact ⟨rfl, h.role, h.countdown⟩
  | joinRequestResolved _ _ _ _ =>
    simp only [GameState.receive, GameState.apply]
    split
    · exact ⟨rfl, h.role, h.countdown⟩
    · exact ⟨h.join, h.role, h.countdown⟩
  | becomePlayerRequestPending _ _ => exact ⟨h.join, rfl, h.countdown⟩
  | spectatorRoleRequestDeclined _ _ _ _ => exact ⟨h.join, rfl, h.countdown⟩
  | spectatorRoleRequestResolved _ _ _ =>
    simp only [GameState.receive, GameState.apply, GameState.roleRequestResolved]
    split
    · exact ⟨h.join, rfl, h.countdown⟩
    · exact ⟨h.join, h.role, h.countdown⟩
  | rematchStarted _ _ => exact ⟨rfl, rfl, fun _ => rfl⟩
  | kicked _ => exact ⟨rfl, rfl, fun _ => rfl⟩
  | leftRoom => exact ⟨rfl, rfl, fun _ => rfl⟩
  | _ => exact ⟨h.join, h.role, h.countdown⟩

theorem Coherent.reduce (h : s.Coherent) (e : ClientEvent) : (s.reduce e).Coherent := by
  cases e with
  | message m => exact h.receive m
  | reset => exact ⟨rfl, rfl, fun _ => rfl⟩
  | cancelJoinRequest => exact ⟨rfl, h.role, h.countdown⟩
  | cancelSpectatorRoleRequest => exact ⟨h.join, rfl, h.countdown⟩
  | _ => exact ⟨h.join, h.role, h.countdown⟩

/-- **The state of a client is coherent**, whatever it is sent and in whatever order. -/
theorem flags_of_run (es : List ClientEvent) : (es.foldl reduce initialGameState).Coherent := by
  induction es using List.reverseRecOn with
  | nil => exact ⟨rfl, rfl, fun _ => rfl⟩
  | append_singleton es e ih =>
    rw [List.foldl_append]
    exact ih.reduce e

/-! ## Requests -/

theorem reduce_joinRequests (s : GameState) (e : ClientEvent) :
    (s.reduce e).pendingJoinRequests = (joinChange e).on (·.requestId) s.pendingJoinRequests := by
  cases e with
  | message m =>
    cases m with
    | playerList _ =>
      simp only [GameState.reduce, GameState.receive, GameState.apply, GameState.playerList]
      split <;> rfl
    | joinRequestResolved _ _ _ _ =>
      simp only [GameState.reduce, GameState.receive, GameState.apply]
      split <;> rfl
    | spectatorRoleRequestResolved _ _ _ =>
      simp only [GameState.reduce, GameState.receive, GameState.apply,
        GameState.roleRequestResolved]
      split <;> rfl
    | _ => rfl
  | _ => rfl

theorem reduce_roleRequests (s : GameState) (e : ClientEvent) :
    (s.reduce e).pendingSpectatorRoleRequests =
      (roleChange e).on (·.requestId) s.pendingSpectatorRoleRequests := by
  cases e with
  | message m =>
    cases m with
    | playerList _ =>
      simp only [GameState.reduce, GameState.receive, GameState.apply, GameState.playerList]
      split <;> rfl
    | joinRequestResolved _ _ _ _ =>
      simp only [GameState.reduce, GameState.receive, GameState.apply]
      split <;> rfl
    | spectatorRoleRequestResolved requestId _ _ =>
      have hdrop : (s.pendingSpectatorRoleRequests.filter fun r => some r.requestId ≠ requestId) =
          (requestId.elim (.keep : Change RequestId SpectatorRoleRequest) .drop).on (·.requestId)
            s.pendingSpectatorRoleRequests := by
        cases requestId with
        | none => simp [Change.on]
        | some k => simp [Change.on]
      simp only [GameState.reduce, GameState.receive, GameState.apply,
        GameState.roleRequestResolved]
      split <;> exact hdrop
    | _ => rfl
  | _ => rfl

/-- A part of the state that each event changes by itself. -/
theorem foldl_part {A : Type} (part : GameState → A) (next : A → ClientEvent → A)
    (h : ∀ s e, part (s.reduce e) = next (part s) e) (s : GameState) (es : List ClientEvent) :
    part (es.foldl reduce s) = es.foldl next (part s) := by
  induction es generalizing s with
  | nil => rfl
  | cons e es ih => rw [List.foldl_cons, List.foldl_cons, ih, h]

theorem joinRequests_run (es : List ClientEvent) :
    (es.foldl reduce initialGameState).pendingJoinRequests =
      es.foldl (fun l e => (joinChange e).on (·.requestId) l) [] :=
  foldl_part (·.pendingJoinRequests) _ reduce_joinRequests _ es

theorem roleRequests_run (es : List ClientEvent) :
    (es.foldl reduce initialGameState).pendingSpectatorRoleRequests =
      es.foldl (fun l e => (roleChange e).on (·.requestId) l) [] :=
  foldl_part (·.pendingSpectatorRoleRequests) _ reduce_roleRequests _ es

/-- **The host is shown a request to join** exactly if it has come, and since then has not been
resolved, nor another one with its id has come, nor the client has left the game. -/
theorem joinRequests_iff (r : JoinRequest) (es : List ClientEvent) :
    r ∈ (es.foldl reduce initialGameState).pendingJoinRequests ↔
      LastSets (fun e => joinChange e = .put r) (fun e => (joinChange e).Removes (·.requestId) r)
        es := by
  rw [joinRequests_run]
  exact Change.mem_iff_last _ joinChange r es

/-- **The host is shown a request of a spectator** exactly if it has come, and since then has not
been resolved, nor another one with its id has come, nor a game has begun or the client has joined
or left one. -/
theorem roleRequests_iff (r : SpectatorRoleRequest) (es : List ClientEvent) :
    r ∈ (es.foldl reduce initialGameState).pendingSpectatorRoleRequests ↔
      LastSets (fun e => roleChange e = .put r) (fun e => (roleChange e).Removes (·.requestId) r)
        es := by
  rw [roleRequests_run]
  exact Change.mem_iff_last _ roleChange r es

/-- **The host is shown each request once.** -/
theorem requests_nodup (es : List ClientEvent) :
    ((es.foldl reduce initialGameState).pendingJoinRequests.map (·.requestId)).Nodup ∧
      ((es.foldl reduce initialGameState).pendingSpectatorRoleRequests.map
      (·.requestId)).Nodup := by
  rw [joinRequests_run, roleRequests_run]
  exact ⟨Change.nodup_run _ joinChange es, Change.nodup_run _ roleChange es⟩

/-! ## The drawer -/

/-- A client goes on drawing with its own id as that of the drawer exactly if the event does not
displace it. -/
theorem drawing_reduce (h : s.Drawing) (e : ClientEvent) :
    (s.reduce e).Drawing ↔ ¬s.Displaces e := by
  have hsame : ∀ {s' : GameState} {e : ClientEvent}, ¬s.Displaces e → s'.isDrawer = s.isDrawer →
      s'.drawerId = s.drawerId → s'.localPlayerId = s.localPlayerId →
      (s'.Drawing ↔ ¬s.Displaces e) := by
    intro s' e he hdraws hdrawer hlocal
    refine iff_of_true ?_ he
    unfold Drawing
    rwa [hdraws, hdrawer, hlocal]
  have hnew : ∀ {s' : GameState} {e : ClientEvent}, ¬s.Displaces e → s'.Drawing →
      (s'.Drawing ↔ ¬s.Displaces e) := fun he hs' => iff_of_true hs' he
  cases e with
  | message m =>
    cases m with
    | roomCreated roomCode playerId players config =>
      show (s.isDrawer = true → s.drawerId = some playerId) ↔
        ¬(s.isDrawer = true ∧ s.localPlayerId ≠ some playerId)
      unfold Drawing at h
      constructor
      · rintro hs ⟨hdraws, hne⟩
        exact hne ((h hdraws).symm.trans (hs hdraws))
      · intro hs hdraws
        by_contra hne
        exact hs ⟨hdraws, fun hlocal => hne ((h hdraws).trans hlocal)⟩
    | drawerSelecting drawerId name =>
      show (s.isDrawer = true → some drawerId = s.localPlayerId) ↔
        ¬(s.isDrawer = true ∧ s.localPlayerId ≠ some drawerId)
      constructor
      · rintro hs ⟨hdraws, hne⟩
        exact hne (hs hdraws).symm
      · intro hs hdraws
        by_contra hne
        exact hs ⟨hdraws, fun hlocal => hne hlocal.symm⟩
    | roomJoined info =>
      refine hnew id fun hdraws => ?_
      exact of_decide_eq_true (Bool.and_eq_true_iff.mp hdraws).2
    | reconnected _ playerId _ _ players _ _ _ _ drawerId _ =>
      refine hnew id fun hdraws => ?_
      exact of_decide_eq_true (Bool.and_eq_true_iff.mp hdraws).2
    | playerList players =>
      refine hnew id ?_
      simp only [Drawing, GameState.reduce, GameState.receive, GameState.apply,
        GameState.playerList]
      split
      · intro hdraws
        exact of_decide_eq_true (Bool.and_eq_true_iff.mp hdraws).2
      · intro hdraws
        exact of_decide_eq_true (Bool.and_eq_true_iff.mp hdraws).2
    | gameStarted drawerId _ _ => exact hnew id fun hdraws => of_decide_eq_true hdraws
    | turnStarted drawerId _ _ _ _ => exact hnew id fun hdraws => of_decide_eq_true hdraws
    | wordChoices _ _ => exact hnew id fun _ => rfl
    | turnEnded _ _ _ => exact hnew id fun hdraws => Bool.noConfusion hdraws
    | rematchStarted _ _ => exact hnew id fun hdraws => Bool.noConfusion hdraws
    | kicked _ => exact hnew id fun hdraws => Bool.noConfusion hdraws
    | leftRoom => exact hnew id fun hdraws => Bool.noConfusion hdraws
    | joinRequestResolved _ _ _ _ =>
      simp only [GameState.reduce, GameState.receive, GameState.apply]
      split <;> exact hsame id rfl rfl rfl
    | spectatorRoleRequestResolved _ _ _ =>
      simp only [GameState.reduce, GameState.receive, GameState.apply,
        GameState.roleRequestResolved]
      split <;> exact hsame id rfl rfl rfl
    | _ => exact hsame id rfl rfl rfl
  | reset => exact hnew id fun hdraws => Bool.noConfusion hdraws
  | _ => exact hsame id rfl rfl rfl

/-- **A client takes itself for the drawer only with its own id as that of the drawer**, at each
time of a run, exactly if no event displaces it. -/
theorem drawer_iff (es : List ClientEvent) :
    (∀ es₁, es₁ <+: es → (es₁.foldl reduce initialGameState).Drawing) ↔
      ∀ es₁ e, es₁ ++ [e] <+: es → ¬(es₁.foldl reduce initialGameState).Displaces e := by
  constructor
  · intro hdrawing es₁ e hle
    have hnext := hdrawing _ hle
    rw [List.foldl_append] at hnext
    exact (drawing_reduce (hdrawing es₁ ((List.prefix_append es₁ [e]).trans hle)) e).mp hnext
  · intro hkept es₁
    induction es₁ using List.reverseRecOn with
    | nil => exact fun _ hdraws => Bool.noConfusion hdraws
    | append_singleton es₁ e ih =>
      intro hle
      rw [List.foldl_append]
      exact (drawing_reduce (ih ((List.prefix_append es₁ [e]).trans hle)) e).mpr (hkept es₁ e hle)

end GameState

end Skribbl.Frontend
