import Mathlib.Logic.Function.Basic
import Mathlib.Data.Rat.Defs
import Skribbl.Lib.Coroutine

/-!
# Data model of a worker (`backend/models.py`, the maps of `backend/room_manager.py`)

* `Ident` — the ids that the worker and its clients use.
* `Player`, `GameConfig`, `TurnState`, `Room` — the data classes, with the attributes that the
  game engine adds to them.
* `Transport` — a FastAPI WebSocket or a `VirtualTransport` on a gRPC stream.
* `Task`, `TaskKind` — the `asyncio` tasks, each a sleep followed by a body.
* `World` — one worker: its rooms, players, transports, tasks, requests, votes and its clock.
* `M` — coroutines over a `World`.

A room object is named by its `RoomId` and a player object by its room and its id, so a coroutine
can hold one after it has left the maps.  A turn has an identity of its own (`is`), and a reference
to a task holds what the task has captured.
-/

set_option autoImplicit false

namespace Skribbl.Backend

/-- An id: one that a worker made up with `uuid4`, or any other string. -/
inductive Ident where
  | uuid (n : Nat)
  | other (s : String)
  deriving DecidableEq

abbrev PlayerId := Ident
abbrev RequestId := Ident
abbrev RoomId := Nat
abbrev WsId := Nat

/-- A number between two bounds. -/
abbrev InRange (a b : Nat) := { n : Nat // a ≤ n ∧ n ≤ b }

/-! ## Data classes -/

inductive RoomState where
  | lobby
  | wordSelection
  | playing
  | gameOver
  deriving DecidableEq

inductive TurnEndReason where
  | timerExpired
  | allGuessed
  | drawerDisconnected
  deriving DecidableEq

structure Player where
  id : PlayerId
  name : String
  score : Int := 0
  hasGuessed : Bool := false
  isConnected : Bool := true
  isReady : Bool := false
  avatar : Option String := none
  websocket : Option WsId := none
  disconnectTime : Option ℚ := none
  cleanupTask : Option Nat := none
  sessionScore : Int := 0
  sessionWins : Nat := 0
  sessionGames : Nat := 0
  streak : Nat := 0
  maxStreak : Nat := 0
  correctGuessesCount : Nat := 0
  fastestGuessTime : Option ℚ := none
  drawerPointsEarned : Int := 0
  isSpectator : Bool := false
  becomePlayerRequestsCount : Nat := 0
  hostReassignTask : Option Nat := none
  /-- `_guess_time`, set by a correct guess. -/
  guessTime : Option ℚ := none

/-! The defaults of a room's settings lie in their ranges. -/

theorem numRounds_default : 2 ≤ 3 ∧ 3 ≤ 10 := by decide

theorem turnDuration_default : 30 ≤ 80 ∧ 80 ≤ 180 := by decide

theorem maxPlayers_default : 2 ≤ 12 ∧ 12 ≤ 12 := by decide

structure GameConfig where
  numRounds : InRange 2 10 := ⟨3, numRounds_default⟩
  turnDuration : InRange 30 180 := ⟨80, turnDuration_default⟩
  maxPlayers : InRange 2 12 := ⟨12, maxPlayers_default⟩
  customWords : List String := []
  password : Option String := none

/-- A word pack without its words. -/
structure Theme where
  id : String
  name : String
  emoji : String
  deriving DecidableEq

/-- A word pack. -/
structure Pack where
  theme : Theme
  words : List String
  deriving DecidableEq

/-- `TurnState`; `turnId` is the identity of the object. -/
structure TurnState where
  turnId : Nat
  drawerId : PlayerId
  word : String
  hint : List Char
  startTime : ℚ
  wordChoices : List String
  timerTask : Option Nat := none
  hintTask40 : Option Nat := none
  hintTask70 : Option Nat := none
  guessOrder : List PlayerId := []
  theme : Option Theme := none

structure PendingJoinRequest where
  requestId : RequestId
  roomCode : String
  name : String
  avatar : Option String
  websocket : WsId
  createdAt : ℚ
  timeoutTask : Option Nat := none

/-- `timeoutTask` goes with the room object that its task has captured. -/
structure PendingSpectatorRoleRequest where
  requestId : RequestId
  roomCode : String
  playerId : PlayerId
  name : String
  avatar : Option String
  createdAt : ℚ
  timeoutTask : Option (RoomId × Nat) := none

structure VoteKickState where
  targetId : PlayerId
  targetName : String
  initiatorId : PlayerId
  initiatorName : String
  roomCode : String
  /-- A set: a vote is added once. -/
  votes : List PlayerId
  timeoutTask : Option Nat := none

/-- `Room`.  `playersById` holds the keys of `players_by_id`.  `autoSelectTask` goes with the
drawer that its task has captured. -/
structure Room where
  code : String
  hostId : PlayerId
  players : List PlayerId := []
  playersById : List PlayerId := []
  config : GameConfig := {}
  state : RoomState := .lobby
  currentRound : Nat := 0
  drawerIndex : Nat := 0
  turn : Option TurnState := none
  usedWords : List String := []
  wordPool : List String := []
  isProxy : Bool := false
  pendingWordChoices : Option (List String) := none
  autoSelectTask : Option (PlayerId × Nat) := none
  insufficientPlayersTask : Option Nat := none
  pendingJoinRequests : List (RequestId × PendingJoinRequest) := []
  pendingSpectatorRoleRequests : List (RequestId × PendingSpectatorRoleRequest) := []

/-- What `snapshot_room` saves of a player. -/
structure PlayerSnapshot where
  id : PlayerId
  name : String
  score : Int
  hasGuessed : Bool
  isConnected : Bool
  isReady : Bool
  avatar : Option String
  disconnectTime : Option ℚ

/-- What `snapshot_room` saves of a turn. -/
structure TurnSnapshot where
  drawerId : PlayerId
  word : String
  hint : List Char
  startTime : ℚ
  wordChoices : List String
  guessOrder : List PlayerId

/-- What `snapshot_room` saves of a room. -/
structure RoomSnapshot where
  code : String
  hostId : PlayerId
  state : RoomState
  currentRound : Nat
  drawerIndex : Nat
  config : GameConfig
  usedWords : List String
  wordPool : List String
  players : List PlayerSnapshot
  turn : Option TurnSnapshot
  snapshotTime : ℚ

/-! ## Transports -/

/-- A connection: a FastAPI `WebSocket` (`queue = none`), or a `VirtualTransport` on the send queue
of a gRPC stream, bound to a player id and a room code. -/
structure Transport where
  queue : Option Nat := none
  playerId : Ident := .other ""
  roomCode : String := ""

/-! ## Messages -/

/-- `_serialize_player`. -/
structure PlayerInfo where
  id : PlayerId
  name : String
  score : Int
  hasGuessed : Bool
  isConnected : Bool
  isReady : Bool
  isSpectator : Bool
  isHost : Bool
  avatar : Option String
  sessionWins : Nat
  sessionScore : Int
  deriving DecidableEq

/-- `_serialize_config`. -/
structure ConfigInfo where
  numRounds : Nat
  turnDuration : Nat
  maxPlayers : Nat
  customWords : List String
  isPrivate : Bool
  deriving DecidableEq

/-- The payload of `room_joined`. -/
structure JoinedInfo where
  roomCode : String
  playerId : PlayerId
  players : List PlayerInfo
  config : ConfigInfo
  state : RoomState
  isSpectator : Bool
  currentRound : Nat
  totalRounds : Nat
  hostId : PlayerId
  drawerId : Option PlayerId
  hint : List Char
  duration : Option Nat
  theme : Option Theme
  deriving DecidableEq

/-- An MVP award. -/
structure Award where
  badge : String
  title : String
  playerId : PlayerId
  playerName : String
  stat : ℚ
  deriving DecidableEq

structure SessionStat where
  id : PlayerId
  name : String
  sessionScore : Int
  sessionWins : Nat
  sessionGames : Nat
  deriving DecidableEq

/-- `build_game_over_payload`. -/
structure GameOverInfo where
  scores : List (PlayerId × String × Int)
  mvpAwards : List Award
  sessionStats : List SessionStat
  deriving DecidableEq

/-- A drawing message relayed as it came. -/
inductive DrawType where
  | stroke
  | highlighter
  | shape
  | fill
  | undo
  deriving DecidableEq

/-- A message to a client: its type and payload. -/
inductive Message where
  | error (code message : String)
  | roomCreated (roomCode : String) (playerId : PlayerId) (players : List PlayerInfo)
      (config : ConfigInfo)
  | roomJoined (info : JoinedInfo)
  | reconnected (roomCode : String) (playerId : PlayerId) (score : Int) (isHost : Bool)
      (players : List PlayerInfo) (config : ConfigInfo) (state : RoomState) (currentRound : Nat)
      (hostId : PlayerId) (drawerId : Option PlayerId) (hint : List Char)
  | reconnectResumed
  | playerReconnected (playerId : PlayerId) (name : String)
  | playerList (players : List PlayerInfo)
  | hostChanged (newHostId : PlayerId) (newHostName : String) (old : Option (PlayerId × String))
  | hostTransferred (newHostId : PlayerId) (newHostName : String)
  | joinRequestReceived (requestId : RequestId) (playerName : String) (avatar : Option String)
      (roomCode : String)
  | joinRequestPending (requestId : RequestId) (roomCode message : String)
  | joinRequestDeclined (requestId : RequestId) (reason message : String)
  | joinRequestResolved (requestId : RequestId) (status : String) (playerName : Option String)
      (playerId : Option PlayerId)
  | spectatorRoleRequestReceived (requestId : RequestId) (playerId : PlayerId)
      (playerName : String) (avatar : Option String) (roomCode : String)
  | spectatorRoleRequestDeclined (requestId : RequestId) (reason message : String)
      (requestsRemaining : Nat)
  | spectatorRoleRequestResolved (requestId : Option RequestId) (status : String)
      (playerId : Option PlayerId)
  | becomePlayerRequestPending (requestId : RequestId) (requestsRemaining : Nat)
  | settingsUpdated (config : ConfigInfo)
  | rematchStarted (players : List PlayerInfo) (config : ConfigInfo)
  | kicked (message : String)
  | playerKicked (targetPlayerId : PlayerId)
  | voteKickStarted (targetId : PlayerId) (names : Option (String × PlayerId × String))
      (currentVotes requiredVotes : Nat) (passed : Bool)
  | voteKickUpdated (targetId : Option PlayerId) (votes : Option (Nat × Nat)) (passed : Bool)
  | voteKickEnded (targetId : PlayerId) (targetName result message : String)
  | chatMessage (playerName text : String) (isSystem : Bool)
  /-- A `chat_message` with a sender and the type `system`. -/
  | systemMessage (text : String)
  | leftRoom
  | readyToggled (isReady : Bool)
  | profileUpdated (playerId : PlayerId) (name : String) (avatar : Option String)
  | gameStarted (drawerId : PlayerId) (round totalRounds : Nat)
  | wordChoices (choices : List String) (packs : List Pack)
  | drawerSelecting (drawerId : PlayerId) (drawerName : String)
  | turnStarted (drawerId : PlayerId) (hint : List Char) (duration round : Nat)
      (theme : Option Theme)
  | wordAssigned (word : String)
  | clearCanvas
  | hintUpdate (hint : List Char)
  | guessCorrect (playerName : String)
  | turnEnded (word : String) (scores : List (PlayerId × Int)) (reason : TurnEndReason)
  | gameOver (info : GameOverInfo)
  | waitingForReconnect (seconds : Nat)
  | gameEndedInsufficientPlayers
  | draw (kind : DrawType) (payload : String)
  | reaction (playerName emoji : String)
  | typing (playerId : PlayerId) (playerName : String) (isTyping : Bool)
  | workerDraining (roomCode : String)

/-- Where a message is handed to: one transport, or the whole room through one stream's queue. -/
inductive Recipient where
  | one (ws : WsId)
  | room (queue : Nat) (roomCode : String)
  deriving DecidableEq

/-- A message as it was sent, with the backpressure class of its tag. -/
structure Sent where
  recipient : Recipient
  message : Message
  lossy : Bool

/-! ## Tasks -/

/-- The tasks that the worker creates, with what their bodies have captured. -/
inductive TaskKind where
  | autoSelect (room : RoomId) (drawerId : PlayerId)
  | revealHint (room : RoomId) (turnId : Nat)
  | turnTimer (room : RoomId) (turnId : Nat)
  | cleanup (playerId : PlayerId)
  | reassignHost (roomCode : String) (playerId : PlayerId)
  | endAfterWait (room : RoomId)
  | joinTimeout (requestId : RequestId)
  | roleTimeout (requestId : RequestId) (room : RoomId) (playerId : PlayerId)
  | voteTimeout (roomCode : String) (targetId : PlayerId)
  | closeSocket (ws : WsId)
  deriving DecidableEq

/-- A task object. -/
structure TaskId where
  kind : TaskKind
  serial : Nat
  deriving DecidableEq

/-- A task sleeps until it is due, runs its body, and is done.  A sleeping task that is cancelled is
done at once: nothing looks at it before the loop has thrown `CancelledError` into its sleep. -/
inductive TaskStatus where
  | sleeping
  | running
  | done
  deriving DecidableEq

/-- `cancelRequested` is set when the task is cancelled while it runs. -/
structure Task where
  status : TaskStatus := .done
  created : ℚ := 0
  due : ℚ := 0
  cancelRequested : Bool := false

/-! ## The worker -/

/-- What happens to the games of a room. -/
inductive Happening where
  /-- A `Room` object is made, and these words are used. -/
  | opened (r : RoomId) (usedWords : List String)
  /-- A `Player` object is made. -/
  | joined (r : RoomId) (p : PlayerId)
  /-- `used_words` is cleared. -/
  | forgot (r : RoomId)
  /-- The room, as it is here, puts these packs on offer. -/
  | offered (r : RoomId) (room : Room) (packs : List Pack)
  | selected (r : RoomId) (word : String)
  /-- The state becomes `game_over`: was a game running, and the scores of the active players. -/
  | ended (r : RoomId) (running : Bool) (score : PlayerId → Option Int)

/-- One worker process.  `oracle` holds the outcomes of the `random` calls to come, `redis` is
`is_redis_enabled()`, and `snapshots` are the room snapshots that Redis holds.  `history` is a
ghost: the assignments write it, the latest happening first, and no function reads it. -/
structure World where
  now : ℚ := 0
  rooms : List (String × RoomId) := []
  room : RoomId → Room
  player : RoomId → PlayerId → Player
  playerToRoom : PlayerId → Option String := fun _ => none
  transport : WsId → Transport := fun _ => {}
  wsToPlayer : WsId → Option (PlayerId × String) := fun _ => none
  wsToPendingRequest : WsId → Option RequestId := fun _ => none
  pendingJoinRequests : List (RequestId × PendingJoinRequest) := []
  pendingSpectatorRoleRequests : List (RequestId × PendingSpectatorRoleRequest) := []
  activeVoteKicks : String → Option VoteKickState := fun _ => none
  voteKickCooldowns : String → PlayerId → ℚ := fun _ _ => 0
  snapshots : String → Option RoomSnapshot := fun _ => none
  task : TaskId → Task := fun _ => {}
  nextRoom : RoomId := 0
  nextUuid : Nat := 0
  nextTask : Nat := 0
  nextTurn : Nat := 0
  oracle : List Nat := []
  outbox : List Sent := []
  history : List Happening := []
  redis : Bool := false
  draining : Bool := false

/-- The calls that a suspension is told apart by. -/
inductive Frame where
  /-- The `turn_ended` broadcast of `end_turn`. -/
  | turnEnded (room : RoomId) (turnId : Nat)
  /-- `handle_disconnect` between marking a player and scheduling its cleanup. -/
  | disconnecting (room : RoomId) (playerId : PlayerId)
  deriving DecidableEq

/-- What an observer of the worker sees besides its state. -/
inductive Mark where
  /-- `end_turn` has found a turn to end. -/
  | ends (room : RoomId) (turnId : Nat)
  /-- `player.score +=` for a turn. -/
  | credits (turnId : Nat) (playerId : PlayerId)
  /-- `end_turn` of a turn goes on to `advance_turn_or_round`. -/
  | advances (room : RoomId) (turnId : Nat)
  /-- `handle_word_selection` has created the tasks of a turn. -/
  | timed (turnId : Nat)
  /-- A player object becomes connected. -/
  | connects (room : RoomId) (playerId : PlayerId) (ws : Option WsId)
  /-- `handle_disconnect` marks a player as disconnected. -/
  | disconnects (room : RoomId) (playerId : PlayerId)
  /-- A player is removed from its room. -/
  | removes (room : RoomId) (playerId : PlayerId)
  /-- A room is restored from a snapshot in this state, with these players. -/
  | restores (state : RoomState) (drawerIndex : Nat) (players : List PlayerId)
  /-- A room is made. -/
  | opens (room : RoomId)
  /-- `start_game` or `handle_rematch` resets the counters of a room. -/
  | resets (room : RoomId)
  /-- `advance_turn_or_round` starts a turn: the counters, the rounds to play and the seats. -/
  | begins (room : RoomId) (currentRound drawerIndex numRounds seats : Nat)
  /-- A game is declared over, with or without the final payload. -/
  | finishes (room : RoomId) (payload : Bool)
  /-- `_join_room_remote` adds a player to the local copy of a room. -/
  | proxies (room : RoomId)
  deriving DecidableEq

/-- The worker's coroutines. -/
abbrev M := Coro World Frame Mark

end Skribbl.Backend
