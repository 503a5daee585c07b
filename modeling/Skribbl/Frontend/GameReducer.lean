import Skribbl.Backend.Models

/-!
# The client's list of players (`frontend/src/context/WebSocketContext.tsx`)

* `PlayerEntry` — a player as the client keeps it, without avatar and session statistics.
* `ClientState` — the parts of `GameState` that the list of players depends on.
* `gameReducer` — what a message of the worker does to them, by way of `handleWsMessage`.

Absent fields are `none`.  A field that a payload always has is read from it.
-/

set_option autoImplicit false

namespace Skribbl.Frontend

open Backend

/-- `PlayerInfo` of the client. -/
structure PlayerEntry where
  id : PlayerId
  name : String
  score : Int
  hasGuessed : Bool
  isConnected : Bool
  isReady : Bool
  isHost : Bool
  isSpectator : Bool := false
  streak : Option Int := none
  isFirstGuesser : Option Bool := none
  deriving DecidableEq

/-- `GameState`. -/
structure ClientState where
  localPlayerId : Option PlayerId := none
  drawerId : Option PlayerId := none
  players : List PlayerEntry := []
  deriving DecidableEq

/-- A player as a payload lists it. -/
def PlayerEntry.ofInfo (pl : PlayerInfo) : PlayerEntry :=
  { id := pl.id
    name := pl.name
    score := pl.score
    hasGuessed := pl.hasGuessed
    isConnected := pl.isConnected
    isReady := pl.isReady
    isHost := pl.isHost
    isSpectator := pl.isSpectator }

namespace ClientState

/-- `state.players.find((ep) => ep.id === …)`. -/
def existing (s : ClientState) (p : PlayerId) : Option PlayerEntry := s.players.find? (·.id = p)

/-- `ROOM_CREATED`. -/
def roomCreated (s : ClientState) (playerId : PlayerId) (players : List PlayerInfo) : ClientState :=
  { s with
    localPlayerId := some playerId
    players := if players ≠ [] then
      players.map fun pl => { PlayerEntry.ofInfo pl with isHost := true, isSpectator := false }
      else s.players }

/-- `ROOM_JOINED`. -/
def roomJoined (s : ClientState) (info : JoinedInfo) : ClientState :=
  { s with
    localPlayerId := some info.playerId
    drawerId := info.drawerId
    players := if info.players ≠ [] then info.players.map .ofInfo else s.players }

/-- `PLAYER_LIST`. -/
def playerList (s : ClientState) (players : List PlayerInfo) : ClientState :=
  { s with
    players := players.map fun pl =>
      { PlayerEntry.ofInfo pl with
        streak := (s.existing pl.id).bind (·.streak)
        isFirstGuesser := (s.existing pl.id).bind (·.isFirstGuesser) } }

/-- `TURN_STARTED`. -/
def turnStarted (s : ClientState) (drawerId : PlayerId) : ClientState :=
  { s with
    drawerId := some drawerId
    players := s.players.map fun p => { p with hasGuessed := false, isFirstGuesser := some false } }

/-- `TURN_ENDED`: the scores are added. -/
def turnEnded (s : ClientState) (scores : List (PlayerId × Int)) : ClientState :=
  { s with
    drawerId := none
    players := s.players.map fun p =>
      { p with
        score := p.score + (scores.lookup p.id).getD 0
        hasGuessed := false
        isFirstGuesser := some false
        streak := if p.hasGuessed ∨ some p.id = s.drawerId then p.streak else some 0 } }

/-- `GUESS_CORRECT`, for a payload with a name. -/
def guessCorrect (s : ClientState) (playerName : String) : ClientState :=
  { s with
    players := s.players.map fun p =>
      if p.name = playerName then
        { p with
          hasGuessed := true
          isFirstGuesser := some (!s.players.any (·.hasGuessed))
          streak := some (p.streak.getD 0 + 1) }
      else p }

/-- `GAME_OVER` with scores. -/
def gameOver (s : ClientState) (scores : List (PlayerId × String × Int)) : ClientState :=
  { s with
    players := scores.map fun x =>
      { id := x.1
        name := x.2.1
        score := x.2.2
        hasGuessed := false
        isConnected := true
        isReady := false
        isHost := ((s.existing x.1).map (·.isHost)).getD false
        streak := (s.existing x.1).bind (·.streak) } }

/-- `GAME_OVER` for `game_ended_insufficient_players`: there are no scores, and the players are
`payload?.players ?? []`, of an empty payload. -/
def gameEnded (s : ClientState) : ClientState := { s with players := [] }

/-- `RECONNECTED`. -/
def reconnected (s : ClientState) (playerId : PlayerId) (drawerId : Option PlayerId)
    (players : List PlayerInfo) : ClientState :=
  { s with localPlayerId := some playerId, drawerId := drawerId, players := players.map .ofInfo }

/-- `REMATCH_STARTED`. -/
def rematchStarted (s : ClientState) (players : List PlayerInfo) : ClientState :=
  { s with
    drawerId := none
    players := if players ≠ [] then
      players.map fun pl => { PlayerEntry.ofInfo pl with hasGuessed := false, isReady := false,
                                                         isSpectator := false }
      else s.players.map fun p => { p with score := 0, hasGuessed := false, isReady := false } }

/-- `gameReducer`, for the messages that `handleWsMessage` dispatches. -/
def gameReducer (s : ClientState) : Message → ClientState
  | .roomCreated _ playerId players _ => s.roomCreated playerId players
  | .roomJoined info => s.roomJoined info
  | .playerList players => s.playerList players
  | .profileUpdated playerId name _ =>
    { s with
      players := s.players.map fun p => if p.id = playerId then { p with name := name } else p }
  | .hostChanged newHostId _ _ =>
    { s with players := s.players.map fun p => { p with isHost := p.id = newHostId } }
  | .gameStarted drawerId _ _ => { s with drawerId := some drawerId }
  | .wordChoices _ _ => { s with drawerId := s.localPlayerId }
  | .drawerSelecting drawerId _ => { s with drawerId := some drawerId }
  | .turnStarted drawerId _ _ _ _ => s.turnStarted drawerId
  | .turnEnded _ scores _ => s.turnEnded scores
  | .guessCorrect playerName => s.guessCorrect playerName
  | .gameOver info => s.gameOver info.scores
  | .gameEndedInsufficientPlayers => s.gameEnded
  | .playerReconnected playerId _ =>
    { s with
      players := s.players.map fun p =>
        if p.id = playerId then { p with isConnected := true } else p }
  | .reconnected _ playerId _ _ players _ _ _ _ drawerId _ =>
    s.reconnected playerId drawerId players
  | .kicked _ => {}
  | .leftRoom => {}
  | .rematchStarted players _ => s.rematchStarted players
  | _ => s

end ClientState

end Skribbl.Frontend
