import Skribbl.Backend.Capacity

/-!
# What the story of a room is told by

* `Update.tells` — the assignments to the words and the totals of a room, and those that end a game.
* `Silences` — a guarantee that all other assignments keep.
* `Endings`, `Tells` — a guarantee that the functions which make those assignments keep.

Principal results: the instances from which Lean infers that the functions of the worker keep such a
guarantee; `owner_tells` — so a worker keeps it.
-/

set_option autoImplicit false
set_option synthInstance.maxSize 100000

namespace Skribbl.Backend

open Coro

/-- No game is running. -/
@[reducible] def RoomState.isIdle : RoomState → Bool
  | .lobby => true
  | .wordSelection => false
  | .playing => false
  | .gameOver => true

@[reducible] def RoomUpdate.tells : RoomUpdate → Bool
  | .selectWord _ => true
  | .forgetWords => true
  | .pendingWordChoices _ => true
  | .state s => s.isIdle
  | .hostId _ => false
  | .addPlayer _ => false
  | .removePlayer _ => false
  | .playersById _ => false
  | .config _ => false
  | .currentRound _ => false
  | .drawerIndex _ => false
  | .clearTurn => false
  | .guessOrder _ => false
  | .hint _ _ => false
  | .turnTasks _ _ _ _ => false
  | .wordPool _ => false
  | .autoSelectTask _ => false
  | .insufficientPlayersTask _ => false
  | .pendingJoinRequests _ => false
  | .pendingSpectatorRoleRequests _ => false

@[reducible] def PlayerUpdate.tells : PlayerUpdate → Bool
  | .sessionScore _ => true
  | .sessionGames _ => true
  | .name _ => false
  | .score _ => false
  | .hasGuessed _ => false
  | .guessTime _ => false
  | .isReady _ => false
  | .avatar _ => false
  | .connect _ => false
  | .disconnect _ => false
  | .cleanupTask _ => false
  | .hostReassignTask _ => false
  | .sessionWins _ => false
  | .streak _ => false
  | .maxStreak _ => false
  | .correctGuessesCount _ => false
  | .fastestGuessTime _ => false
  | .drawerPointsEarned _ => false
  | .isSpectator _ => false
  | .becomePlayerRequestsCount _ => false

/-- The assignment is to what a story is told by. -/
@[reducible] def Update.tells : Update → Bool
  | .room _ u => u.tells
  | .player _ _ u => u.tells
  | .newRoom _ _ => true
  | .newPlayer _ _ => true
  | .newTurn _ _ => false
  | .uuid4 => false
  | .createTask _ _ => false
  | .cancel _ => false
  | .rooms _ => false
  | .playerToRoom _ _ => false
  | .transport _ _ => false
  | .wsToPlayer _ _ => false
  | .wsToPendingRequest _ _ => false
  | .pendingJoinRequests _ => false
  | .pendingSpectatorRoleRequests _ => false
  | .activeVoteKicks _ _ => false
  | .voteKickCooldowns _ _ => false
  | .snapshots _ _ => false
  | .oracle _ => false
  | .send _ => false
  | .sleep _ => false

/-- Nothing is told. -/
class Untold (b : Bool) : Prop where
  out : b = false

instance : Untold false := ⟨rfl⟩

/-- Assignments that tell nothing keep the guarantee, and so does the creation of rooms and of
players. -/
class Silences (Γ : Guarantee World Mark) : Prop where
  put : ∀ u : Update, u.tells = false → Guarded Γ (put u)
  newRoom : ∀ (x : Room) (members : PlayerId → Player), x.pendingWordChoices = none →
    (∀ p, (members p).sessionScore = 0 ∧ (members p).sessionGames = 0) →
    Guarded Γ (Backend.put (.newRoom x members))
  newPlayer : ∀ (r : RoomId) (make : PlayerId → Player),
    (∀ p, (make p).sessionScore = 0 ∧ (make p).sessionGames = 0) → Guarded Γ (newPlayer r make)

/-- A rematch and the end of a game keep the guarantee too. -/
class Endings (Γ : Guarantee World Mark) : Prop extends Silences Γ where
  handleRematch : ∀ p, Guarded Γ (handleRematch p)
  gameOver : ∀ r, Guarded Γ (gameOver r)
  endGameInsufficientPlayersImmediate : ∀ r, Guarded Γ (endGameInsufficientPlayersImmediate r)

/-- Offers of words and their selection keep the guarantee. -/
class Tells (env : Env) (Γ : Guarantee World Mark) : Prop where
  startTurn : ∀ r, Guarded Γ (startTurn env r)
  handleWordSelection : ∀ r p word, Guarded Γ (handleWordSelection env r p word)

attribute [instance] Endings.handleRematch Endings.gameOver
    Endings.endGameInsufficientPlayersImmediate
  Tells.startTurn Tells.handleWordSelection

section Untold

variable {Γ : Guarantee World Mark} [Silences Γ]

/-! ### Primitives -/

instance (u : Update) [h : Untold u.tells] : Guarded Γ (put u) := Silences.put u h.out

instance (r : RoomId) : Guarded Γ (readRoom r) := by unfold readRoom; infer_instance

instance (r : RoomId) (p : PlayerId) : Guarded Γ (readPlayer r p) := by
  unfold readPlayer; infer_instance

instance (kind : TaskKind) (delay : ℚ) : Guarded Γ (createTask kind delay) := by
  unfold createTask; infer_instance

instance (kind : TaskKind) (n : Option Nat) : Guarded Γ (cancel kind n) := by
  unfold cancel; infer_instance

instance : Guarded Γ uuid4 := by unfold uuid4; infer_instance

instance (n : Nat) : Guarded Γ (randrange n) := by unfold randrange; infer_instance

instance {α : Type} (l : List α) : Guarded Γ (choice l) := by unfold choice; infer_instance

instance {α : Type} (l : List α) (k : Nat) : Guarded Γ (sample l k) := by
  induction k generalizing l with
  | zero => unfold sample; infer_instance
  | succ k ih => cases l <;> unfold sample <;> infer_instance

/-! ### Lookups and broadcasts -/

instance (r : RoomId) (p : PlayerId) : Guarded Γ (getPlayer r p) := by
  unfold getPlayer; infer_instance

instance (p : PlayerId) : Guarded Γ (findRoomByPlayer p) := by
  unfold findRoomByPlayer; infer_instance

instance : Guarded Γ redisCall := by unfold redisCall; infer_instance

instance (ws : WsId) (m : Message) (lossy : Bool) : Guarded Γ (sendText ws m lossy) := by
  unfold sendText; infer_instance

instance (r : RoomId) (p : PlayerId) (m : Message) (lossy : Bool) :
    Guarded Γ (sendToPlayer r p m lossy) := by unfold sendToPlayer; infer_instance

instance (code : String) (m : Message) : Guarded Γ (broadcast code m) := by
  unfold broadcast; infer_instance

instance (r : RoomId) : Guarded Γ (broadcastPlayerList r) := by
  unfold broadcastPlayerList; infer_instance

instance (r : RoomId) : Guarded Γ (endGameInsufficientPlayers r) := by
  unfold endGameInsufficientPlayers; infer_instance

instance (r : RoomId) (turn : TurnState) : Guarded Γ (cancelTurnTasks r turn) := by
  unfold cancelTurnTasks; infer_instance

instance (r : RoomId) : Guarded Γ (cancelAutoSelect r) := by unfold cancelAutoSelect; infer_instance

instance (r : RoomId) : Guarded Γ (cancelCountdown r) := by unfold cancelCountdown; infer_instance

/-! ### Draws -/

instance (hint : List Char) (word : String) : Guarded Γ (revealHintChar hint word) := by
  unfold revealHintChar; dsimp only; infer_instance

instance (r : RoomId) (theme : Theme) (words : List String) :
    Guarded Γ (drawFromPack r theme words) := by unfold drawFromPack; dsimp only; infer_instance

instance (r : RoomId) (packs : List Pack) : Guarded Γ (drawFromPacks r packs) := by
  induction packs with
  | nil => unfold drawFromPacks; infer_instance
  | cons pack packs ih => unfold drawFromPacks; infer_instance

instance (r : RoomId) : Guarded Γ (drawCustomPack r) := by unfold drawCustomPack; infer_instance

instance (env : Env) (r : RoomId) : Guarded Γ (drawWordPackChoices env r) := by
  unfold drawWordPackChoices; infer_instance

instance (r : RoomId) (p : PlayerId) : Guarded Γ (resetPlayer r p) := by
  unfold resetPlayer; infer_instance

/-- An assignment that tells nothing. -/
theorem guards_put_of_untold {u : Update} (hu : u.tells = false)
    {Q : Unit → World → World → Prop} {s w : World} (h : Γ.Holds s w)
    (hQ : Γ.Holds s (u.apply w) → Q () s (u.apply w)) : (put u).Guards Γ Q s w := by
  have hput := guards_put u |>.mp ((Silences.put (Γ := Γ) u hu).out h)
  exact guards_put u |>.mpr ⟨hput.1, hQ hput.2⟩

/-- To reset the players leaves the state of the room alone. -/
theorem guards_resetPlayers (r : RoomId) (l : List PlayerId) {s w : World}
    (h : Γ.Holds s w) (hstate : (w.room r).state = .gameOver) :
    (each l (resetPlayer r)).Guards Γ
      (fun _ s w => Γ.Holds s w ∧ (w.room r).state = .gameOver) s w := by
  refine guards_each (fun _ s w => Γ.Holds s w ∧ (w.room r).state = .gameOver) ⟨h, hstate⟩
    fun p _ s w hrest => ?_
  obtain ⟨h, hstate⟩ := hrest
  unfold resetPlayer
  simp only [guards_bind]
  repeat refine guards_put_of_untold rfl (by assumption) fun _ => ?_
  exact ⟨by assumption, hstate⟩

/-- A rematch keeps the guarantee, if it may forget the used words and go back to the lobby once the
game is over. -/
theorem guarded_handleRematch (p : PlayerId)
    (hforget : ∀ r {s w}, Γ.Holds s w → (w.room r).state = .gameOver →
      (put (.room r .forgetWords)).Guards Γ (fun _ => Γ.Holds) s w)
    (hlobby : ∀ r {s w}, Γ.Holds s w → (w.room r).state = .gameOver →
      (put (.room r (.state .lobby))).Guards Γ (fun _ => Γ.Holds) s w) :
    Guarded Γ (handleRematch p) where
  out h := by
    unfold handleRematch
    refine guards_bind.mpr ((Guarded.out (c := findRoomByPlayer p) h).mono fun o s w h => ?_)
    rw [guards_elim]
    refine ⟨fun _ => h, fun r _ => ?_⟩
    dsimp only
    rw [guards_bind, guards_readRoom, guards_ite]
    refine ⟨fun _ => h, fun _ => ?_⟩
    rw [guards_ite]
    refine ⟨fun _ => h, fun hstate => guards_bind.mpr ?_⟩
    refine (guards_resetPlayers r _ h (not_not.mp hstate)).mono fun _ s w hreset => ?_
    obtain ⟨h, hstate⟩ := hreset
    rw [guards_bind, guards_mark]
    intro _
    have hsame : ∀ (u : RoomUpdate) (w : World), (∀ st, u ≠ .state st) →
        (w.room r).state = .gameOver →
        (((Update.room r u).apply w).room r).state = .gameOver := by
      intro u w hu hstate
      cases u with
      | state st => exact absurd rfl (hu st)
      | _ => simpa [Update.apply, RoomUpdate.apply, Room.onTurn] using hstate
    have hkeep : ∀ {u : RoomUpdate} {α : Type} {f : Unit → M α} {Q : α → World → World → Prop}
        {s w : World}, u.tells = false → (∀ st, u ≠ .state st) → Γ.Holds s w →
        (w.room r).state = .gameOver → (∀ w', Γ.Holds s w' → (w'.room r).state = .gameOver →
          (f ()).Guards Γ Q s w') → (put (.room r u) >>= f).Guards Γ Q s w := by
      intro u α f Q s w hu hne h hstate hf
      exact guards_bind.mpr (guards_put_of_untold (u := .room r u) hu h fun h =>
        hf _ h (hsame u w hne hstate))
    refine hkeep rfl (by simp) h hstate fun w h hstate => ?_
    refine hkeep rfl (by simp) h hstate fun w h hstate => ?_
    have hused := guards_put _ |>.mp (hforget r h hstate)
    refine guards_bind.mpr (guards_put _ |>.mpr ⟨hused.1, ?_⟩)
    refine hkeep rfl (by simp) hused.2 (hsame _ w (by simp) hstate) fun w h hstate => ?_
    refine hkeep rfl (by simp) h hstate fun w h hstate => ?_
    exact guards_then (hlobby r h hstate)

end Untold

section Endings

variable {Γ : Guarantee World Mark} [Endings Γ]

/-! ### Lookups and broadcasts -/

instance (r : RoomId) : Guarded Γ (endAfterWait r) := by unfold endAfterWait; infer_instance

/-! ### Turns and rounds -/

instance (r : RoomId) (turnId : Nat) (duration : ℚ) :
    Guarded Γ (createTurnTasks r turnId duration) := by unfold createTurnTasks; infer_instance

instance (r : RoomId) (room : Room) (turn : TurnState) : Guarded Γ (announceTurn r room turn) := by
  unfold announceTurn; infer_instance

instance (env : Env) [Tells env Γ] (r : RoomId) (drawerId : PlayerId) :
    Guarded Γ (autoSelect env r drawerId) := by unfold autoSelect; infer_instance

instance (r : RoomId) (turnId : Nat) : Guarded Γ (revealHint r turnId) := by
  unfold revealHint; infer_instance

instance (r : RoomId) (turn : TurnState) (duration : ℚ) (position : Nat) (ps : List PlayerId) :
    Guarded Γ (scoreGuessers r turn duration position ps) := by
  induction ps generalizing position with
  | nil => unfold scoreGuessers; infer_instance
  | cons p ps ih => unfold scoreGuessers; dsimp only; infer_instance

instance (r : RoomId) (turn : TurnState) (duration : ℚ) :
    Guarded Γ (scoreTurn r turn duration) := by unfold scoreTurn; dsimp only; infer_instance

instance (r : RoomId) : Guarded Γ (nextDrawer r) := by unfold nextDrawer; infer_instance

instance (env : Env) [Tells env Γ] (r : RoomId) (attempts : Nat) :
    Guarded Γ (skipPlayers env r attempts) := by
  induction attempts with
  | zero => unfold skipPlayers; infer_instance
  | succ attempts ih => unfold skipPlayers; infer_instance

instance (env : Env) [Tells env Γ] (r : RoomId) : Guarded Γ (advanceTurnOrRound env r) := by
  unfold advanceTurnOrRound; infer_instance

instance (r : RoomId) (turn : TurnState) (duration : ℚ) (reason : TurnEndReason) :
    Guarded Γ (turnScores r turn duration reason) := by unfold turnScores; infer_instance

instance (env : Env) [Tells env Γ] (r : RoomId) (code : String) (duration : ℚ) (turn : TurnState)
    (reason : TurnEndReason) :
    Guarded Γ (finishTurn env r code duration turn reason) := by unfold finishTurn; infer_instance

instance (env : Env) [Tells env Γ] (r : RoomId) (reason : TurnEndReason) :
    Guarded Γ (endTurn env r reason) := by unfold endTurn; infer_instance

instance (env : Env) [Tells env Γ] (r : RoomId) (turnId : Nat) :
    Guarded Γ (turnTimer env r turnId) := by unfold turnTimer; infer_instance

instance (code playerName text : String) (isSystem : Bool) :
    Guarded Γ (broadcastChat code playerName text isSystem) := by
  unfold broadcastChat; infer_instance

instance (env : Env) [Tells env Γ] (r : RoomId) : Guarded Γ (endTurnIfAllGuessed env r) := by
  unfold endTurnIfAllGuessed; infer_instance

instance (env : Env) [Tells env Γ] (r : RoomId) (p : PlayerId) :
    Guarded Γ (correctGuess env r p) := by unfold correctGuess; infer_instance

instance (env : Env) [Tells env Γ] (r : RoomId) (p : PlayerId) (text word : String) :
    Guarded Γ (incorrectGuess env r p text word) := by
  unfold incorrectGuess; dsimp only; infer_instance

instance (env : Env) [Tells env Γ] (r : RoomId) (p : PlayerId) (text : String) :
    Guarded Γ (handleGuess env r p text) := by unfold handleGuess; infer_instance

instance (env : Env) [Tells env Γ] (r : RoomId) (p : PlayerId) (text : String) :
    Guarded Γ (handleChat env r p text) := by unfold handleChat; dsimp only; infer_instance

/-! ### Members -/

instance (x : PendingSpectatorRoleRequest) : Guarded Γ (cancelRoleTimeout x) := by
  unfold cancelRoleTimeout; infer_instance

instance (code : String) : Guarded Γ (deleteRoom code) := by unfold deleteRoom; infer_instance

instance (env : Env) [Tells env Γ] (draws : List String) (name : String) (ws : WsId)
    (avatar password : Option String) (maxPlayers : Option Int) :
    Guarded Γ (createRoom env draws name ws avatar password maxPlayers) := by
  have hroom : ∀ (code : String) (config : GameConfig), Guarded Γ (put (.newRoom
      { code := code, hostId := .other "", config := config } fun p => { id := p, name := "" })) :=
    fun _ _ => Silences.newRoom _ _ rfl fun _ => ⟨rfl, rfl⟩
  have hplayer : ∀ r, Guarded Γ (newPlayer r fun p =>
      { id := p, name := name, websocket := some ws, avatar := avatar }) :=
    fun _ => Silences.newPlayer _ _ fun _ => ⟨rfl, rfl⟩
  unfold createRoom
  dsimp only
  infer_instance

/-- The totals of a player are not saved. -/
theorem restored_totals (o : Option PlayerSnapshot) (now : ℚ) (p : PlayerId) :
    ((o.map (·.restore now)).getD { id := p, name := "" } : Player).sessionScore = 0 ∧
      ((o.map (·.restore now)).getD { id := p, name := "" } : Player).sessionGames = 0 := by
  cases o with
  | none => exact ⟨rfl, rfl⟩
  | some y => exact ⟨rfl, rfl⟩

instance (x : RoomSnapshot) : Guarded Γ (restoreRoom x) := by
  have hroom : ∀ now : ℚ, Guarded Γ (put (.newRoom
      { code := x.code
        hostId := x.hostId
        config := x.config
        state := x.state
        currentRound := x.currentRound
        drawerIndex := x.drawerIndex
        usedWords := x.usedWords
        wordPool := x.wordPool }
      fun p => ((x.players.find? (·.id = p)).map (·.restore now)).getD { id := p, name := "" })) :=
    fun now => Silences.newRoom _ _ rfl fun p => restored_totals _ now p
  unfold restoreRoom
  dsimp only
  infer_instance

instance (code : String) : Guarded Γ (adoptSnapshot code) := by unfold adoptSnapshot; infer_instance

instance (r : RoomId) (code name : String) (ws : WsId) (avatar : Option String)
    (isSpectator : Bool) : Guarded Γ (admitPlayer r code name ws avatar isSpectator) := by
  have hplayer : Guarded Γ (newPlayer r fun p =>
      { id := p, name := name, websocket := some ws, avatar := avatar
        isSpectator := isSpectator }) :=
    Silences.newPlayer _ _ fun _ => ⟨rfl, rfl⟩
  unfold admitPlayer
  infer_instance

instance (r : RoomId) (code name : String) (ws : WsId) (avatar : Option String) :
    Guarded Γ (requestJoin r code name ws avatar) := by
  unfold requestJoin; dsimp only; infer_instance

instance (env : Env) [Tells env Γ] (r : RoomId) (code name : String) (ws : WsId)
    (avatar : Option String) (asSpectator : Bool) (password : Option String) :
    Guarded Γ (joinRoomLocal env r code name ws avatar asSpectator password) := by
  unfold joinRoomLocal; infer_instance

instance (env : Env) [Tells env Γ] (name code : String) (ws : WsId) (avatar : Option String)
    (asSpectator : Bool) (password : Option String) (remote : Option Message) :
    Guarded Γ (joinRoom env name code ws avatar asSpectator password remote) := by
  unfold joinRoom; infer_instance

instance (request : PendingJoinRequest) : Guarded Γ (dropJoinRequest request) := by
  unfold dropJoinRequest; infer_instance

instance (code : String) (requestId : RequestId) (status : String) (playerName : Option String) :
    Guarded Γ (broadcastResolved code requestId status playerName) := by
  unfold broadcastResolved; infer_instance

instance (requestId : RequestId) : Guarded Γ (handleJoinRequestTimeout requestId) := by
  unfold handleJoinRequestTimeout; infer_instance

instance (request : PendingJoinRequest) : Guarded Γ (cancelJoinRequest request) := by
  unfold cancelJoinRequest; infer_instance

instance (x : Ident) : Guarded Γ (cancelPendingJoinRequest x) := by
  unfold cancelPendingJoinRequest; infer_instance

instance (ws : WsId) : Guarded Γ (cancelPendingJoinRequestOf ws) := by
  unfold cancelPendingJoinRequestOf; infer_instance

instance (r : RoomId) (request : PendingJoinRequest) (isSpectator : Bool) :
    Guarded Γ (admitRequester r request isSpectator) := by
  unfold admitRequester; dsimp only; infer_instance

instance (hostPlayerId : PlayerId) (requestId : RequestId) (action : String) :
    Guarded Γ (respondJoinRequest hostPlayerId requestId action) := by
  unfold respondJoinRequest; infer_instance

instance (r : RoomId) (p : PlayerId) : Guarded Γ (dropPlayer r p) := by
  unfold dropPlayer; infer_instance

instance (r : RoomId) (l : List PlayerId) : Guarded Γ (changeHost r l) := by
  unfold changeHost; infer_instance

instance (p : PlayerId) : Guarded Γ (removePlayer p) := by unfold removePlayer; infer_instance

instance (p : PlayerId) : Guarded Γ (leaveRoom p) := by unfold leaveRoom; infer_instance

instance (p q : PlayerId) : Guarded Γ (kickPlayer p q) := by unfold kickPlayer; infer_instance

/-! ### Vote-kicks -/

instance (env : Env) [Tells env Γ] (r : RoomId) (wasDrawer : Bool) :
    Guarded Γ (afterVoteKick env r wasDrawer) := by unfold afterVoteKick; infer_instance

instance (env : Env) [Tells env Γ] (r : RoomId) (p : PlayerId) :
    Guarded Γ (executeVoteKickPassed env r p) := by
  unfold executeVoteKickPassed; dsimp only; infer_instance

instance (env : Env) [Tells env Γ] (p q : PlayerId) : Guarded Γ (startVoteKick env p q) := by
  unfold startVoteKick; dsimp only; infer_instance

instance (code : String) (vote : VoteKickState) : Guarded Γ (closeVote code vote) := by
  unfold closeVote; infer_instance

instance (env : Env) [Tells env Γ] (r : RoomId) (p : PlayerId) :
    Guarded Γ (kickTarget env r p) := by unfold kickTarget; infer_instance

instance (env : Env) [Tells env Γ] (p : PlayerId) (yes : Bool) :
    Guarded Γ (castVoteKick env p yes) := by unfold castVoteKick; dsimp only; infer_instance

instance (code : String) (p : PlayerId) : Guarded Γ (handleVoteKickTimeout code p) := by
  unfold handleVoteKickTimeout; infer_instance

instance (env : Env) [Tells env Γ] (r : RoomId) (p : PlayerId) :
    Guarded Γ (voteKickOnDisconnect env r p) := by
  unfold voteKickOnDisconnect; dsimp only; infer_instance

/-! ### Connections -/

instance (r : RoomId) (p : PlayerId) : Guarded Γ (markDisconnected r p) := by
  unfold markDisconnected; infer_instance

instance (r : RoomId) (p : PlayerId) : Guarded Γ (hostOnDisconnect r p) := by
  unfold hostOnDisconnect; infer_instance

instance (r : RoomId) (p : PlayerId) : Guarded Γ (scheduleCleanup r p) := by
  unfold scheduleCleanup; infer_instance

instance (r : RoomId) (size : Room → Nat) (n : Nat) : Guarded Γ (checkSize r size n) := by
  unfold checkSize; infer_instance

instance (r : RoomId) (p : PlayerId) (m : Message) : Guarded Γ (sendToHost r p m) := by
  unfold sendToHost; infer_instance

instance (r : RoomId) (p : PlayerId) : Guarded Γ (forwardRequests r p) := by
  unfold forwardRequests; infer_instance

instance (code : String) (p : PlayerId) : Guarded Γ (reassignHostIfDisconnected code p) := by
  unfold reassignHostIfDisconnected; infer_instance

instance (r : RoomId) (p : PlayerId) (ws : WsId) : Guarded Γ (closeOldSocket r p ws) := by
  unfold closeOldSocket; infer_instance

instance (r : RoomId) (p : PlayerId) : Guarded Γ (cancelCleanup r p) := by
  unfold cancelCleanup; infer_instance

instance (r : RoomId) (p : PlayerId) : Guarded Γ (cancelHostReassign r p) := by
  unfold cancelHostReassign; infer_instance

instance (r : RoomId) (p : PlayerId) (ws : WsId) (avatar : Option String) :
    Guarded Γ (restoreConnection r p ws avatar) := by unfold restoreConnection; infer_instance

instance (name code : String) (ws : WsId) (avatar : Option String) :
    Guarded Γ (handleReconnect name code ws avatar) := by
  unfold handleReconnect; dsimp only; infer_instance

instance (p : PlayerId) : Guarded Γ (permanentlyRemovePlayer p) := by
  unfold permanentlyRemovePlayer; infer_instance

instance (env : Env) [Tells env Γ] (r : RoomId) (p : PlayerId) :
    Guarded Γ (gameOnDisconnect env r p) := by unfold gameOnDisconnect; infer_instance

instance (env : Env) [Tells env Γ] (p : PlayerId) : Guarded Γ (handleDisconnect env p) := by
  unfold handleDisconnect; infer_instance

instance (env : Env) [Tells env Γ] (ws : WsId) (p : Option PlayerId) :
    Guarded Γ (websocketClosed env ws p) := by unfold websocketClosed; dsimp only; infer_instance

instance (env : Env) [Tells env Γ] (p : PlayerId) : Guarded Γ (clientDisconnected env p) := by
  unfold clientDisconnected; infer_instance

instance (env : Env) [Tells env Γ] (l : List PlayerId) : Guarded Γ (cleanupStream env l) := by
  unfold cleanupStream; infer_instance

/-! ### The lobby -/

instance (env : Env) [Tells env Γ] (p : PlayerId) (settings : List (String × Value)) :
    Guarded Γ (updateSettings env p settings) := by
  unfold updateSettings; dsimp only; infer_instance

instance (p : PlayerId) : Guarded Γ (startGame p) := by unfold startGame; dsimp only; infer_instance

instance (env : Env) [Tells env Γ] (p : PlayerId) (ws : WsId) :
    Guarded Γ (startGameAndTurn env p ws) := by unfold startGameAndTurn; infer_instance

instance (p : PlayerId) (ws : WsId) : Guarded Γ (endGameNow p ws) := by
  unfold endGameNow; infer_instance

instance (p q : PlayerId) : Guarded Γ (transferHost p q) := by
  unfold transferHost; dsimp only; infer_instance

instance (p : PlayerId) : Guarded Γ (toggleReady p) := by unfold toggleReady; infer_instance

instance (env : Env) [Tells env Γ] (p : PlayerId) (name avatar : Option String) :
    Guarded Γ (updateProfile env p name avatar) := by unfold updateProfile; infer_instance

instance (r : RoomId) (requestId : RequestId) : Guarded Γ (dropRoleRequest r requestId) := by
  unfold dropRoleRequest; infer_instance

instance (p : PlayerId) : Guarded Γ (requestBecomePlayer p) := by
  unfold requestBecomePlayer; dsimp only; infer_instance

instance (requestId : RequestId) (r : RoomId) (p : PlayerId) :
    Guarded Γ (expireRoleRequest requestId r p) := by unfold expireRoleRequest; infer_instance

instance (r : RoomId) (p : PlayerId) (requestId : RequestId) :
    Guarded Γ (promoteSpectator r p requestId) := by unfold promoteSpectator; infer_instance

instance (p : PlayerId) (requestId : RequestId) (action : String) :
    Guarded Γ (respondSpectatorRoleRequest p requestId action) := by
  unfold respondSpectatorRoleRequest; infer_instance

instance (p : PlayerId) (requestId : Option RequestId) :
    Guarded Γ (cancelSpectatorRoleRequest p requestId) := by
  unfold cancelSpectatorRoleRequest; dsimp only; infer_instance

/-! ### Calls -/

instance (ws : WsId) (m : Message) : Guarded Γ (rebindTransport ws m) := by
  unfold rebindTransport; dsimp only; infer_instance

instance (ws : WsId) (c : M Message) [Guarded Γ c] : Guarded Γ (answerIdentity ws c) := by
  unfold answerIdentity; infer_instance

instance (ws : WsId) (c : M Message) [Guarded Γ c] : Guarded Γ (answer ws c) := by
  unfold answer; infer_instance

instance (ws : WsId) (c : M Message) [Guarded Γ c] : Guarded Γ (answerError ws c) := by
  unfold answerError; infer_instance

instance (p : PlayerId) (ok : World → RoomId → Bool) (m : World → RoomId → Message) :
    Guarded Γ (relay p ok m) := by unfold relay; infer_instance

instance (env : Env) [Tells env Γ] (p : PlayerId) (text : String) :
    Guarded Γ (chat env p text) := by unfold chat; infer_instance

instance (env : Env) [Tells env Γ] (o : Op) : Guarded Γ (o.call env) := by
  cases o <;> unfold Op.call <;> dsimp only <;> infer_instance

instance (env : Env) [Tells env Γ] (t : TaskId) : Guarded Γ (taskBody env t) := by
  obtain ⟨kind, n⟩ := t
  cases kind <;> unfold taskBody <;> dsimp only <;> infer_instance

instance (r : RoomId) (code name : String) (avatar : Option String) (isSpectator : Bool) :
    Guarded Γ (admitRemote r code name avatar isSpectator) := by
  have hplayer : Guarded Γ (newPlayer r fun p =>
      { id := p, name := name, avatar := avatar, isSpectator := isSpectator }) :=
    Silences.newPlayer _ _ fun _ => ⟨rfl, rfl⟩
  unfold admitRemote
  infer_instance

instance (env : Env) [Tells env Γ] (o : OwnerOp) : Guarded Γ (o.call env) := by
  cases o <;> unfold OwnerOp.call
  · infer_instance
  · unfold handleRpcJoin
    infer_instance

/-- A worker keeps a guarantee that does not ask what tasks do. -/
theorem owner_tells {env : Env} [Tells env Γ] (h : ∀ t status w₀ w, Γ.Holds w₀ w →
    Γ.Holds w₀ (w.setStatus t status) ∧ Γ.change w (w.setStatus t status)) :
    (owner env).Guards Γ :=
  .of_body (fun o => inferInstanceAs (Guarded Γ (o.call env)))
    (fun t => inferInstanceAs (Guarded Γ (taskBody env t))) (fun t w₀ w => h t .running w₀ w)
    fun t w₀ w => h t .done w₀ w

end Endings

end Skribbl.Backend
