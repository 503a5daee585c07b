import Skribbl.Backend.Membership

/-!
# Vote-kicks (`backend/room_manager.py`)

* `startVoteKick`, `castVoteKick`, `handleVoteKickTimeout` — `start_vote_kick`, `cast_vote_kick`,
  `_handle_vote_kick_timeout`.
* `executeVoteKickPassed` — `_execute_vote_kick_passed`.
* `voteKickOnDisconnect` — the part of `handle_disconnect` that is about the vote.
-/

set_option autoImplicit false
set_option synthInstance.maxSize 100000

namespace Skribbl.Backend

variable {S : List Eff}

/-- What the game does when a player has been voted out. -/
def afterVoteKick (env : Env) (r : RoomId) (wasDrawer : Bool) : M Unit := do
  Coro.when (wasDrawer = true) (endTurn env r .drawerDisconnected)
  let w ← read
  Coro.when ((w.room r).state = .playing ∨ (w.room r).state = .wordSelection) <|
    if (w.connectedActive r).length < 2 then endGameInsufficientPlayers r
    else (w.room r).turn.elim (return ()) fun turn =>
      Coro.when (wasDrawer = false ∧ (w.room r).state = .playing ∧
        w.allGuessed r turn.drawerId = true) (endTurn env r .allGuessed)

/-- `_execute_vote_kick_passed`. -/
def executeVoteKickPassed (env : Env) (r : RoomId) (targetId : PlayerId) : M Unit := do
  let w ← read
  let targetName := (w.player r targetId).name
  let wasHost : Bool := (w.room r).hostId = targetId
  let wasDrawer : Bool := (w.room r).turn.any fun turn => turn.drawerId = targetId
  let code := (w.room r).code
  sendToPlayer r targetId (.kicked "You were kicked by majority vote") false
  dropPlayer r targetId
  let w ← read
  Coro.when (wasHost = true) (changeHost r (w.eligibleHosts r))
  broadcast code (.voteKickEnded targetId targetName "passed"
    (targetName ++ " was kicked by majority vote."))
  broadcastChat code "System" ("🗳️ " ++ targetName ++ " was kicked by majority vote.") true
  broadcastPlayerList r
  afterVoteKick env r wasDrawer

/-- A strict majority of the voters. -/
def requiredVotes (voters : List PlayerId) : Nat := voters.length / 2 + 1

/-- `start_vote_kick`. -/
def startVoteKick (env : Env) (initiatorId targetId : PlayerId) : M Message := do
  (← findRoomByPlayer initiatorId).elim (return notInRoom) fun r => do
    let w ← read
    let code := (w.room r).code
    if (w.activeVoteKicks code).isSome then
      return .error "VOTE_ALREADY_ACTIVE" "A vote-to-kick is already in progress"
    if initiatorId = targetId then
      return .error "INVALID_TARGET" "Cannot vote to kick yourself"
    (← getPlayer r targetId).elim
      (return .error "PLAYER_NOT_FOUND" "Target player not found in room") fun target => do
      let w ← read
      if (w.player r target).isConnected = false then
        return .error "PLAYER_DISCONNECTED" "Cannot vote to kick a disconnected player"
      if (w.connected r).length < 3 then
        return .error "NOT_ENOUGH_PLAYERS"
          "At least 3 connected players are required to initiate a vote-to-kick"
      if w.now < w.voteKickCooldowns code targetId then
        return .error "COOLDOWN_ACTIVE" "Vote-to-kick cooldown is active for this player"
      let required := requiredVotes ((w.connected r).filter (· ≠ targetId))
      let initiator ← getPlayer r initiatorId
      let initiatorName := (initiator.map fun p => (w.player r p).name).getD "Player"
      if required ≤ 1 then
        executeVoteKickPassed env r target
        return .voteKickStarted targetId none 0 0 true
      let t ← createTask (.voteTimeout code targetId) 30
      let targetName := (w.player r target).name
      put (.activeVoteKicks code (some
        { targetId := targetId
          targetName := targetName
          initiatorId := initiatorId
          initiatorName := initiatorName
          roomCode := code
          votes := [initiatorId]
          timeoutTask := some t }))
      broadcast code (.voteKickStarted targetId (some (targetName, initiatorId, initiatorName)) 1
        required false)
      broadcastChat code "System" ("🗳️ " ++ initiatorName ++ " started a vote to kick " ++
        targetName ++ " (1/" ++ toString required ++ " votes needed).") true
      return .voteKickStarted targetId none 1 required false

/-- End the vote of a room: cancel its timeout and forget it. -/
def closeVote (code : String) (vote : VoteKickState) : M Unit := do
  cancel (.voteTimeout code vote.targetId) vote.timeoutTask
  put (.activeVoteKicks code none)

/-- `_execute_vote_kick_passed`, if the target is still in the room. -/
def kickTarget (env : Env) (r : RoomId) (targetId : PlayerId) : M Unit := do
  (← getPlayer r targetId).elim (return ()) fun target => executeVoteKickPassed env r target

/-- `cast_vote_kick`. -/
def castVoteKick (env : Env) (voterId : PlayerId) (yes : Bool) : M Message := do
  (← findRoomByPlayer voterId).elim (return notInRoom) fun r => do
    let w ← read
    let code := (w.room r).code
    (w.activeVoteKicks code).elim
      (return .error "NO_ACTIVE_VOTE" "No active vote-to-kick in progress") fun vote => do
      if voterId = vote.targetId then
        return .error "INVALID_VOTER" "Target player cannot vote on their own kick"
      let voter ← getPlayer r voterId
      if !voter.any fun p => (w.player r p).isConnected then
        return .error "PLAYER_NOT_FOUND" "Voter not found or disconnected"
      let required := requiredVotes ((w.connected r).filter (· ≠ vote.targetId))
      let others := vote.votes.filter (· ≠ voterId)
      let votes := if yes then others ++ [voterId] else others
      put (.activeVoteKicks code (some { vote with votes := votes }))
      if required ≤ votes.length then
        closeVote code vote
        kickTarget env r vote.targetId
        return .voteKickUpdated none none true
      broadcast code (.voteKickUpdated (some vote.targetId) (some (votes.length, required)) false)
      return .voteKickUpdated none (some (votes.length, required)) false

/-- `_handle_vote_kick_timeout`. -/
def handleVoteKickTimeout (code : String) (targetId : PlayerId) : M Unit := do
  let w ← read
  (w.activeVoteKicks code).elim (return ()) fun vote =>
    Coro.when (vote.targetId = targetId) do
      put (.activeVoteKicks code none)
      put (.voteKickCooldowns code
        (Function.update (w.voteKickCooldowns code) targetId (w.now + 30)))
      broadcast code (.voteKickEnded targetId vote.targetName "failed"
        ("Vote to kick " ++ vote.targetName ++ " failed (timed out)."))
      broadcastChat code "System"
        ("🗳️ Vote to kick " ++ vote.targetName ++ " failed (not enough votes).") true

/-- The part of `handle_disconnect` that is about the vote in the room. -/
def voteKickOnDisconnect (env : Env) (r : RoomId) (p : PlayerId) : M Unit := do
  let w ← read
  let code := (w.room r).code
  (w.activeVoteKicks code).elim (return ()) fun vote => do
    if vote.targetId = p then
      closeVote code vote
      broadcast code (.voteKickEnded p vote.targetName "cancelled"
        ("Vote to kick " ++ vote.targetName ++ " was cancelled (player disconnected)."))
    else do
      let votes := vote.votes.filter (· ≠ p)
      put (.activeVoteKicks code (some { vote with votes := votes }))
      let voters := (w.connected r).filter (· ≠ vote.targetId)
      if voters.length < 2 then
        closeVote code vote
        broadcast code (.voteKickEnded vote.targetId vote.targetName "cancelled"
          ("Vote to kick " ++ vote.targetName ++ " was cancelled (not enough players)."))
      else if requiredVotes voters ≤ votes.length then
        closeVote code vote
        kickTarget env r vote.targetId
      else
        broadcast code
          (.voteKickUpdated (some vote.targetId) (some (votes.length, requiredVotes voters)) false)

section Footprints

variable [Has .ending S] [Has .timers S] [Has .turn S] [Has .schedule S] [Has .state S]
  [Has .pending S] [Has .autoSelect S] [Has .countdown S] [Has .raises S]

instance (env : Env) (r : RoomId) (wasDrawer : Bool) :
    Coro.Within (fp S) (afterVoteKick env r wasDrawer) := by unfold afterVoteKick; infer_instance

instance (env : Env) (r : RoomId) (p : PlayerId) [Has .members S] :
    Coro.Within (fp S) (executeVoteKickPassed env r p) := by
  unfold executeVoteKickPassed; dsimp only; infer_instance

instance (env : Env) (p q : PlayerId) [Has .members S] :
    Coro.Within (fp S) (startVoteKick env p q) := by
  unfold startVoteKick; dsimp only; infer_instance

omit [Has .ending S] [Has .timers S] [Has .turn S] [Has .schedule S] [Has .state S]
  [Has .pending S] [Has .autoSelect S] [Has .countdown S] [Has .raises S] in
instance (code : String) (vote : VoteKickState) : Coro.Within (fp S) (closeVote code vote) := by
  unfold closeVote; infer_instance

instance (env : Env) (r : RoomId) (p : PlayerId) [Has .members S] :
    Coro.Within (fp S) (kickTarget env r p) := by unfold kickTarget; infer_instance

instance (env : Env) (p : PlayerId) (yes : Bool) [Has .members S] :
    Coro.Within (fp S) (castVoteKick env p yes) := by
  unfold castVoteKick; dsimp only; infer_instance

omit [Has .ending S] [Has .timers S] [Has .turn S] [Has .schedule S] [Has .state S]
  [Has .pending S] [Has .autoSelect S] [Has .countdown S] [Has .raises S] in
instance (code : String) (p : PlayerId) : Coro.Within (fp S) (handleVoteKickTimeout code p) := by
  unfold handleVoteKickTimeout; infer_instance

instance (env : Env) (r : RoomId) (p : PlayerId) [Has .members S] :
    Coro.Within (fp S) (voteKickOnDisconnect env r p) := by
  unfold voteKickOnDisconnect; dsimp only; infer_instance

end Footprints

end Skribbl.Backend
