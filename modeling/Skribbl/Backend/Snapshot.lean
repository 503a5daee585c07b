import Mathlib.Tactic.MkIffOfInductiveProp
import Skribbl.Lib.Execution
import Skribbl.Backend.Worker

/-!
# Snapshots of rooms

`snapshot_room` lists the attributes that it saves by hand, and `restore_room` gives the others
their defaults.

* `Player.offline`, `TurnState.ageless` — a player without its connection, a turn without its tasks
  and its start.
* `RoundTrip` — a restored room is the one that was saved.
* `Player.Plain`, `PlainRoom` — a player and a room that have nothing but what a snapshot saves.

Principal results: `roundTrip_iff_plain` — exactly the plain rooms survive a snapshot;
`spectator_becomes_player` — a spectator that comes back as a player.
-/

set_option autoImplicit false

namespace Skribbl.Backend

open Coro

variable {w w₁ w' : World} {r r' : RoomId}

/-! ## What a snapshot has to keep -/

/-- A player without its connection and the tasks that wait for it. -/
def Player.offline (player : Player) : Player :=
  { player with
    isConnected := false
    websocket := none
    disconnectTime := none
    cleanupTask := none
    hostReassignTask := none }

/-- A turn without its identity, its tasks and its start. -/
def TurnState.ageless (turn : TurnState) : TurnState :=
  { turn with
    turnId := 0, startTime := 0, timerTask := none, hintTask40 := none, hintTask70 := none }

/-- A turn or a word selection is in progress. -/
def Room.InProgress (room : Room) : Prop := room.state = .playing ∨ room.state = .wordSelection

instance (room : Room) : Decidable room.InProgress := inferInstanceAs (Decidable (_ ∨ _))

/-- The room `r'` of `w'` is the room `r` of `w`, but for the connections of its players and the
start of its turn. -/
structure RoundTrip (w : World) (r : RoomId) (w' : World) (r' : RoomId) : Prop where
  code : (w'.room r').code = (w.room r).code
  hostId : (w'.room r').hostId = (w.room r).hostId
  config : (w'.room r').config = (w.room r).config
  state : (w'.room r').state = (w.room r).state
  currentRound : (w'.room r').currentRound = (w.room r).currentRound
  drawerIndex : (w'.room r').drawerIndex = (w.room r).drawerIndex
  usedWords : (w'.room r').usedWords = (w.room r).usedWords
  wordPool : (w'.room r').wordPool = (w.room r).wordPool
  turn : (w.room r).InProgress →
    (w'.room r').turn.map TurnState.ageless = (w.room r).turn.map TurnState.ageless
  offered : (w.room r).InProgress →
    (w'.room r').pendingWordChoices = (w.room r).pendingWordChoices
  players : (w'.room r').players = (w.room r).players
  player : ∀ p ∈ (w.room r).players, (w'.player r' p).offline = (w.player r p).offline

/-! ## Rooms that are the same -/

section

variable {w'' : World} {r'' : RoomId}

/-- Rooms and players are as before. -/
theorem RoundTrip.of_same (hroom : w'.room r = w.room r) (hplayer : w'.player r = w.player r) :
    RoundTrip w r w' r := by
  refine ⟨?_, ?_, ?_, ?_, ?_, ?_, ?_, ?_, fun _ => ?_, fun _ => ?_, ?_, fun p _ => ?_⟩
  all_goals first | rw [hroom] | rw [hplayer]

theorem RoundTrip.inProgress (h : RoundTrip w r w' r') :
    (w'.room r').InProgress ↔ (w.room r).InProgress := by
  unfold Room.InProgress
  rw [h.state]

theorem RoundTrip.symm (h : RoundTrip w r w' r') : RoundTrip w' r' w r where
  code := h.code.symm
  hostId := h.hostId.symm
  config := h.config.symm
  state := h.state.symm
  currentRound := h.currentRound.symm
  drawerIndex := h.drawerIndex.symm
  usedWords := h.usedWords.symm
  wordPool := h.wordPool.symm
  turn hin := (h.turn (h.inProgress.mp hin)).symm
  offered hin := (h.offered (h.inProgress.mp hin)).symm
  players := h.players.symm
  player p hp := (h.player p (h.players ▸ hp)).symm

theorem RoundTrip.trans (h : RoundTrip w r w' r') (h' : RoundTrip w' r' w'' r'') :
    RoundTrip w r w'' r'' where
  code := h'.code.trans h.code
  hostId := h'.hostId.trans h.hostId
  config := h'.config.trans h.config
  state := h'.state.trans h.state
  currentRound := h'.currentRound.trans h.currentRound
  drawerIndex := h'.drawerIndex.trans h.drawerIndex
  usedWords := h'.usedWords.trans h.usedWords
  wordPool := h'.wordPool.trans h.wordPool
  turn hin := (h'.turn (h.inProgress.mpr hin)).trans (h.turn hin)
  offered hin := (h'.offered (h.inProgress.mpr hin)).trans (h.offered hin)
  players := h'.players.trans h.players
  player p hp := (h'.player p (h.players.symm ▸ hp)).trans (h.player p hp)

end

/-- The attributes that no snapshot saves have their defaults. -/
@[mk_iff]
structure Player.Plain (player : Player) : Prop where
  isSpectator : player.isSpectator = false
  sessionScore : player.sessionScore = 0
  sessionWins : player.sessionWins = 0
  sessionGames : player.sessionGames = 0
  streak : player.streak = 0
  maxStreak : player.maxStreak = 0
  correctGuessesCount : player.correctGuessesCount = 0
  fastestGuessTime : player.fastestGuessTime = none
  drawerPointsEarned : player.drawerPointsEarned = 0
  becomePlayerRequestsCount : player.becomePlayerRequestsCount = 0
  guessTime : player.guessTime = none

/-- A room that has nothing but what a snapshot saves, with its players under their ids. -/
@[mk_iff]
structure PlainRoom (w : World) (r : RoomId) : Prop where
  id : ∀ p ∈ (w.room r).players, (w.player r p).id = p
  player : ∀ p ∈ (w.room r).players, (w.player r p).Plain
  theme : (w.room r).InProgress → ∀ turn ∈ (w.room r).turn, turn.theme = none
  offered : (w.room r).InProgress → (w.room r).pendingWordChoices = none

instance (player : Player) : Decidable player.Plain := decidable_of_iff' _ player.plain_iff

instance (w : World) (r : RoomId) : Decidable (PlainRoom w r) :=
  decidable_of_iff' _ (plainRoom_iff w r)

/-! ## What is restored -/

/-- The turn of a restored room. -/
def TurnSnapshot.restore (turn : TurnSnapshot) : TurnState where
  turnId := 0
  drawerId := turn.drawerId
  word := turn.word
  hint := turn.hint
  startTime := 0
  wordChoices := turn.wordChoices
  guessOrder := turn.guessOrder

/-- A room without its players. -/
def Room.emptied (room : Room) : Room := { room with players := [], playersById := [] }

/-- A room without its players and its turn. -/
def Room.bare (room : Room) : Room := { room.emptied with turn := none }

/-- The room that `restore_room` fills. -/
def RoomSnapshot.room (x : RoomSnapshot) : Room where
  code := x.code
  hostId := x.hostId
  config := x.config
  state := x.state
  currentRound := x.currentRound
  drawerIndex := x.drawerIndex
  usedWords := x.usedWords
  wordPool := x.wordPool

/-- The player objects of a restored room. -/
def RoomSnapshot.player (x : RoomSnapshot) (now : ℚ) (p : PlayerId) : Player :=
  ((x.players.find? (·.id = p)).map (·.restore now)).getD { id := p, name := "" }

/-- The room `r` is being restored: the players of `l` are still to come. -/
structure Restoring (x : RoomSnapshot) (now : ℚ) (r : RoomId) (l : List PlayerSnapshot)
    (w : World) : Prop where
  players : (w.room r).players ++ l.map (·.id) = x.players.map (·.id)
  room : (w.room r).emptied = x.room
  player : ∀ p, w.player r p = x.player now p

/-- The room `r` is the one that is restored from `x`. -/
structure Restored (x : RoomSnapshot) (now : ℚ) (r : RoomId) (w : World) : Prop where
  players : (w.room r).players = x.players.map (·.id)
  room : (w.room r).bare = x.room
  turn : x.state = .playing ∨ x.state = .wordSelection →
    (w.room r).turn.map TurnState.ageless = x.turn.map TurnSnapshot.restore
  player : ∀ p, w.player r p = x.player now p

/-- `restore_room` restores the snapshot. -/
theorem restoreRoom_restored {rely : World → World → Prop} {x : RoomSnapshot}
    {y : Except String RoomId} (h : (restoreRoom x).Ends rely w y w') :
    Restored x w.now w.nextRoom w' := by
  have hwp : (restoreRoom x).wp .atomic 0 (fun _ v => Restored x w.now w.nextRoom v.state)
      ⟨w, 0, []⟩ := by
    unfold restoreRoom
    dsimp only
    simp only [wp_bind, wp_read, wp_mark, wp_put]
    intro _ _
    refine wp_mono (wp_each (fun l v => Restoring x w.now w.nextRoom l v.state)
      (fun y l v hv => ?_) ⟨?_, ?_, fun p => ?_⟩) fun _ v hv => ?_
    · rw [wp_bind, wp_put, wp_put]
      refine ⟨?_, ?_, hv.player⟩
      · simpa [Update.apply, RoomUpdate.apply] using hv.players
      · simpa [Update.apply, RoomUpdate.apply, Room.emptied] using hv.room
    · simp [Update.apply]
    · simp [Update.apply, Room.emptied, RoomSnapshot.room]
    · simp [Update.apply, RoomSnapshot.player]
    · have hplayers : (v.state.room w.nextRoom).players = x.players.map (·.id) := by
        simpa using hv.players
      have hroom : Room.bare (v.state.room w.nextRoom) = x.room := by
        rw [Room.bare, hv.room]
        rfl
      have hturn : (v.state.room w.nextRoom).turn = none := congrArg Room.turn hv.room
      rw [wp_elim]
      refine ⟨fun hx => ⟨hplayers, hroom, fun _ => ?_, hv.player⟩, fun turn hx => ?_⟩
      · show (v.state.room w.nextRoom).turn.map _ = _
        rw [hturn, hx]
        rfl
      rw [wp_when]
      refine ⟨fun _ => ⟨?_, ?_, fun _ => ?_, hv.player⟩, fun hstate =>
        ⟨hplayers, hroom, fun hstate' => absurd hstate' hstate, hv.player⟩⟩
      · simpa [Update.apply] using hplayers
      · simpa [Update.apply, Room.bare, Room.emptied] using hroom
      · simp [Update.apply, hx, TurnState.ageless, TurnSnapshot.restore]
  obtain ⟨_, _, -, hrestored⟩ := Ends.of_atomic hwp h
  exact hrestored

/-! ## What is saved -/

/-- What `snapshot_room` saves of a player. -/
def Player.saved (player : Player) : PlayerSnapshot where
  id := player.id
  name := player.name
  score := player.score
  hasGuessed := player.hasGuessed
  isConnected := player.isConnected
  isReady := player.isReady
  avatar := player.avatar
  disconnectTime := player.disconnectTime

/-- What `snapshot_room` saves of a turn. -/
def TurnState.saved (turn : TurnState) : TurnSnapshot where
  drawerId := turn.drawerId
  word := turn.word
  hint := turn.hint
  startTime := turn.startTime
  wordChoices := turn.wordChoices
  guessOrder := turn.guessOrder

/-- Exactly the plain players survive a snapshot. -/
theorem Player.offline_restore_saved {player : Player} {now : ℚ} :
    (player.saved.restore now).offline = player.offline ↔ player.Plain := by
  constructor
  · intro h
    exact ⟨(congrArg Player.isSpectator h).symm, (congrArg Player.sessionScore h).symm,
      (congrArg Player.sessionWins h).symm, (congrArg Player.sessionGames h).symm,
      (congrArg Player.streak h).symm, (congrArg Player.maxStreak h).symm,
      (congrArg Player.correctGuessesCount h).symm, (congrArg Player.fastestGuessTime h).symm,
      (congrArg Player.drawerPointsEarned h).symm,
      (congrArg Player.becomePlayerRequestsCount h).symm, (congrArg Player.guessTime h).symm⟩
  · intro h
    simp [Player.offline, PlayerSnapshot.restore, Player.saved, h.isSpectator, h.sessionScore,
      h.sessionWins, h.sessionGames, h.streak, h.maxStreak, h.correctGuessesCount,
      h.fastestGuessTime, h.drawerPointsEarned, h.becomePlayerRequestsCount, h.guessTime]

/-- Exactly the turns without a theme survive a snapshot. -/
theorem TurnState.restore_saved {turn : TurnState} :
    turn.saved.restore = turn.ageless ↔ turn.theme = none := by
  constructor
  · intro h
    exact (congrArg TurnState.theme h).symm
  · intro h
    simp [TurnState.ageless, TurnSnapshot.restore, TurnState.saved, h]

theorem snapshotRoom_turn : (w.snapshotRoom r).turn = (w.room r).turn.map TurnState.saved := rfl

/-- A member of a room whose players are under their ids has the object that was saved for it. -/
theorem snapshotRoom_player (hid : ∀ p ∈ (w.room r).players, (w.player r p).id = p) {now : ℚ}
    {p : PlayerId} (hp : p ∈ (w.room r).players) :
    (w.snapshotRoom r).player now p = (w.player r p).saved.restore now := by
  have hfind : (w.snapshotRoom r).players.find? (·.id = p) = some (w.player r p).saved := by
    show ((w.room r).players.map fun q => (w.player r q).saved).find? _ = _
    rw [List.find?_map]
    have hq : (w.room r).players.find? ((·.id = p) ∘ fun q => (w.player r q).saved) = some p := by
      cases hfound : (w.room r).players.find? ((·.id = p) ∘ fun q => (w.player r q).saved) with
      | none =>
        have hne := List.find?_eq_none.mp hfound p hp
        exact absurd (decide_eq_true (hid p hp)) hne
      | some q =>
        have hqid : (w.player r q).id = p := of_decide_eq_true (List.find?_some hfound :)
        rw [← hqid, hid q (List.mem_of_find?_eq_some hfound)]
    rw [hq]
    rfl
  rw [RoomSnapshot.player, hfind]
  rfl

/-- A restored room has the players of the room that was saved, under the ids that they had. -/
theorem restored_players {rely : World → World → Prop} {y : Except String RoomId}
    (h : (restoreRoom (w.snapshotRoom r)).Ends rely w₁ y w') :
    (w'.room w₁.nextRoom).players = (w.room r).players.map fun p => (w.player r p).id := by
  rw [(restoreRoom_restored h).players]
  simp [World.snapshotRoom]

/-- A plain room survives a snapshot. -/
theorem PlainRoom.roundTrip (hp : PlainRoom w r) {rely : World → World → Prop}
    {y : Except String RoomId} (h : (restoreRoom (w.snapshotRoom r)).Ends rely w₁ y w') :
    RoundTrip w r w' w₁.nextRoom := by
  have hr := restoreRoom_restored h
  refine
    { code := (congrArg Room.code hr.room :)
      hostId := (congrArg Room.hostId hr.room :)
      config := (congrArg Room.config hr.room :)
      state := (congrArg Room.state hr.room :)
      currentRound := (congrArg Room.currentRound hr.room :)
      drawerIndex := (congrArg Room.drawerIndex hr.room :)
      usedWords := (congrArg Room.usedWords hr.room :)
      wordPool := (congrArg Room.wordPool hr.room :)
      turn := fun hin => ?_
      offered := fun hin =>
        (congrArg Room.pendingWordChoices hr.room).trans (hp.offered hin).symm
      players := ?_
      player := fun p hmem => ?_ }
  · rw [hr.turn hin, snapshotRoom_turn]
    cases hturn : (w.room r).turn with
    | none => rfl
    | some turn =>
      exact congrArg some (TurnState.restore_saved.mpr (hp.theme hin turn hturn))
  · rw [restored_players h]
    exact (List.map_congr_left hp.id).trans (List.map_id _)
  · rw [hr.player p, snapshotRoom_player hp.id hmem]
    exact Player.offline_restore_saved.mpr (hp.player p hmem)

/-- **Exactly the plain rooms survive a snapshot.** -/
theorem roundTrip_iff_plain {rely : World → World → Prop} {y : Except String RoomId}
    (h : (restoreRoom (w.snapshotRoom r)).Ends rely w₁ y w') :
    RoundTrip w r w' w₁.nextRoom ↔ PlainRoom w r := by
  have hr := restoreRoom_restored h
  refine ⟨fun ht => ?_, fun hp => hp.roundTrip h⟩
  have hid : ∀ p ∈ (w.room r).players, (w.player r p).id = p := by
    have hmap := (restored_players h).symm.trans ht.players
    intro p hp
    exact List.map_inj_left.mp (hmap.trans (List.map_id _).symm) p hp
  refine ⟨hid, fun p hp => ?_, fun hin turn hturn => ?_, fun hin => ?_⟩
  · have hp' := ht.player p hp
    rw [hr.player p, snapshotRoom_player hid hp] at hp'
    exact Player.offline_restore_saved.mp hp'
  · have hturn' := ht.turn hin
    rw [hr.turn hin, snapshotRoom_turn, Option.mem_def.mp hturn] at hturn'
    exact TurnState.restore_saved.mp (Option.some.inj hturn')
  · exact (ht.offered hin).symm.trans (congrArg Room.pendingWordChoices hr.room)

/-- Two players in the lobby. -/
theorem lobby_roundTrip : ∃ c,
    (worker sampleEnv).Run Loop.anyEvent (startConfig sampleWorld) c ∧
    (c.state.room 0).players.length = 2 ∧
    RoundTrip c.state 0 ((restoreRoom (c.state.snapshotRoom 0)).exec sampleWorld).2 0 := by
  have hplay : ((worker sampleEnv).play Loop.anyEvent (startConfig sampleWorld)
      (sampleLobby 2)).any (fun c =>
        (c.state.room 0).players.length = 2 ∧ PlainRoom c.state 0) = true := by
    decide +kernel
  obtain ⟨c, hrun, -, hc⟩ := Loop.exists_run_of_play rfl hplay
  obtain ⟨hlength, hplain⟩ := of_decide_eq_true hc
  have hends : (restoreRoom (c.state.snapshotRoom 0)).Ends (fun _ _ => False) sampleWorld _ _ :=
    ends_exec _ _
  exact ⟨c, hrun, hlength, (roundTrip_iff_plain hends).mpr hplain⟩

/-- **A spectator comes back as a player.** -/
theorem spectator_becomes_player : ∃ c,
    (worker sampleEnv).Run Loop.anyEvent (startConfig sampleWorld) c ∧ c.running = none ∧
    c.state.roomOf "ROOM01" = some 0 ∧
    ¬ RoundTrip c.state 0 ((restoreRoom (c.state.snapshotRoom 0)).exec sampleWorld).2 0 := by
  have hplay : ((worker sampleEnv).play Loop.anyEvent (startConfig sampleWorld)
      [(.call (.createRoom ["ROOM01"] "p0" 0 none none none), []),
        (.call (.joinRoom "p1" "ROOM01" 1 none true none none), [])]).any (fun c =>
        c.state.roomOf "ROOM01" = some 0 ∧ .uuid 1 ∈ (c.state.room 0).players ∧
        (c.state.player 0 (.uuid 1)).isSpectator = true ∧
        (((restoreRoom (c.state.snapshotRoom 0)).exec sampleWorld).2.player 0
          (.uuid 1)).isSpectator = false) = true := by
    decide +kernel
  obtain ⟨c, hrun, hidle, hc⟩ := Loop.exists_run_of_play rfl hplay
  obtain ⟨hroom, hmember, hspectator, hrestored⟩ := of_decide_eq_true hc
  refine ⟨c, hrun, hidle, hroom, fun h => ?_⟩
  have heq := congrArg Player.isSpectator (h.player (.uuid 1) hmember)
  rw [Player.offline, Player.offline, hspectator, hrestored] at heq
  exact Bool.false_ne_true heq

end Skribbl.Backend
