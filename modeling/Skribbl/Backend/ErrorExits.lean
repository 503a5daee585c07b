import Skribbl.Lib.Uninterrupted
import Skribbl.Backend.Coherence
import Skribbl.Backend.Snapshot

/-!
# Refused calls

* `ManagerOp` — the operations that may answer with an error.
* `Unchanged` — rooms, players, pending requests, votes and indexes are as before.
* `Refuses` — if the call answers with an error, everything is as before.

Principal result: `refuses_iff` — with complete indexes, so it is for each operation, except when
`respond_spectator_role_request` has consumed the request before it finds that the spectator cannot
become a player, and when `join_room` has adopted a snapshot before it refuses the player.
-/

set_option autoImplicit false
set_option synthInstance.maxSize 100000

namespace Skribbl.Backend

open Coro

/-! ## The operations -/

/-- The operations that may answer with an error. -/
inductive ManagerOp where
  | createRoom (draws : List String) (name : String) (ws : WsId) (avatar password : Option String)
      (maxPlayers : Option Int)
  | joinRoom (name code : String) (ws : WsId) (avatar : Option String) (asSpectator : Bool)
      (password : Option String) (remote : Option Message)
  | respondJoinRequest (p : PlayerId) (requestId : RequestId) (action : String)
  | requestBecomePlayer (p : PlayerId)
  | respondSpectatorRoleRequest (p : PlayerId) (requestId : RequestId) (action : String)
  | updateSettings (p : PlayerId) (settings : List (String × Value))
  | handleRematch (p : PlayerId)
  | transferHost (p target : PlayerId)
  | kickPlayer (p target : PlayerId)
  | startVoteKick (p target : PlayerId)
  | castVoteKick (p : PlayerId) (yes : Bool)
  | leaveRoom (p : PlayerId)
  | toggleReady (p : PlayerId)
  | updateProfile (p : PlayerId) (name avatar : Option String)
  | startGame (p : PlayerId)

def ManagerOp.call (env : Env) : ManagerOp → M Message
  | .createRoom draws name ws avatar password maxPlayers =>
    Backend.createRoom env draws name ws avatar password maxPlayers
  | .joinRoom name code ws avatar asSpectator password remote =>
    Backend.joinRoom env name code ws avatar asSpectator password remote
  | .respondJoinRequest p requestId action => Backend.respondJoinRequest p requestId action
  | .requestBecomePlayer p => Backend.requestBecomePlayer p
  | .respondSpectatorRoleRequest p requestId action =>
    Backend.respondSpectatorRoleRequest p requestId action
  | .updateSettings p settings => Backend.updateSettings env p settings
  | .handleRematch p => Backend.handleRematch p
  | .transferHost p target => Backend.transferHost p target
  | .kickPlayer p target => Backend.kickPlayer p target
  | .startVoteKick p target => Backend.startVoteKick env p target
  | .castVoteKick p yes => Backend.castVoteKick env p yes
  | .leaveRoom p => Backend.leaveRoom p
  | .toggleReady p => Backend.toggleReady p
  | .updateProfile p name avatar => Backend.updateProfile env p name avatar
  | .startGame p => Backend.startGame p

/-- Rooms, players, pending requests, votes and indexes are the same. -/
structure Unchanged (w w' : World) : Prop where
  rooms : w'.rooms = w.rooms
  room : w'.room = w.room
  player : w'.player = w.player
  playerToRoom : w'.playerToRoom = w.playerToRoom
  joins : w'.pendingJoinRequests = w.pendingJoinRequests
  wsJoins : w'.wsToPendingRequest = w.wsToPendingRequest
  roles : w'.pendingSpectatorRoleRequests = w.pendingSpectatorRoleRequests
  votes : w'.activeVoteKicks = w.activeVoteKicks
  cooldowns : w'.voteKickCooldowns = w.voteKickCooldowns

/-- If the call answers with an error, everything is as before. -/
def Refuses (c : M Message) (w : World) : Prop :=
  ∀ m w', c.exec w = (.ok m, w') → m.isError = true → Unchanged w w'

/-- The lookups find every member through the indexes. -/
structure World.Indexed (w : World) : Prop where
  seated : ∀ y ∈ w.rooms, ∀ p ∈ (w.room y.2).playersById, w.playerToRoom p ≠ none
  listed : ∀ r, ∀ p ∈ (w.room r).players, p ∈ (w.room r).playersById
  exist : ∀ y ∈ w.rooms, y.2 < w.nextRoom

/-- So it is in a coherent state. -/
theorem World.indexed_of_coherent {w : World} (h : w.registry.Coherent) : w.Indexed where
  seated y hy p hp := by
    have hindex : w.playerToRoom p = some y.1 := h.index y hy p ((h.byId y.2 p).mp hp)
    rw [hindex]
    exact nofun
  listed r p hp := (h.byId r p).mpr hp
  exist y hy := (h.codes y hy).1

/-! ## Answers and lookups -/

variable {w w' : World} {r : RoomId} {p : PlayerId} {code : String}

/-- An answer that is no error. -/
class Accepted (m : Message) : Prop where
  out : m.isError = false

instance (a : String) (b : PlayerId) (c : List PlayerInfo) (d : ConfigInfo) :
    Accepted (.roomCreated a b c d) := ⟨rfl⟩

instance (a : JoinedInfo) : Accepted (.roomJoined a) := ⟨rfl⟩

instance (a : RequestId) (b c : String) : Accepted (.joinRequestPending a b c) := ⟨rfl⟩

instance (a : RequestId) (b : String) (c : Option String) (d : Option PlayerId) :
    Accepted (.joinRequestResolved a b c d) := ⟨rfl⟩

instance (a : Option RequestId) (b : String) (c : Option PlayerId) :
    Accepted (.spectatorRoleRequestResolved a b c) := ⟨rfl⟩

instance (a : RequestId) (b : Nat) : Accepted (.becomePlayerRequestPending a b) := ⟨rfl⟩

instance (a : ConfigInfo) : Accepted (.settingsUpdated a) := ⟨rfl⟩

instance (a : List PlayerInfo) (b : ConfigInfo) : Accepted (.rematchStarted a b) := ⟨rfl⟩

instance (a : PlayerId) (b : String) : Accepted (.hostTransferred a b) := ⟨rfl⟩

instance (a : PlayerId) : Accepted (.playerKicked a) := ⟨rfl⟩

instance (a : PlayerId) (b : Option (String × PlayerId × String)) (c d : Nat) (e : Bool) :
    Accepted (.voteKickStarted a b c d e) := ⟨rfl⟩

instance (a : Option PlayerId) (b : Option (Nat × Nat)) (c : Bool) :
    Accepted (.voteKickUpdated a b c) := ⟨rfl⟩

instance : Accepted .leftRoom := ⟨rfl⟩

instance (a : Bool) : Accepted (.readyToggled a) := ⟨rfl⟩

instance (a : PlayerId) (b : String) (c : Option String) : Accepted (.profileUpdated a b c) := ⟨rfl⟩

instance (a : PlayerId) (b c : Nat) : Accepted (.gameStarted a b c) := ⟨rfl⟩

instance {α : Type} (P : α → Prop) (e : String) : Always P (raise e : M α) := ⟨fun _ => trivial⟩

/-- The call answers with no error, from any state. -/
abbrev Accepts (c : M Message) : Prop := Always (fun m : Message => m.isError = false) c

instance (m : Message) [h : Accepted m] : Accepts (Pure.pure m : M Message) := ⟨fun _ => h.out⟩

/-- An error leaves the state `w`. -/
def ErrorAt (w : World) (m : Message) (w' : World) : Prop := m.isError = true → w' = w

/-- What comes after the checks is no error. -/
theorem errorAt_of_accepts (c : M Message) [hc : Accepts c] : c.Returns (ErrorAt w) w' :=
  (hc.out w').mono fun m _ hm herror => by simp [hm] at herror

theorem errorAt_pure (m : Message) : (Pure.pure m : M Message).Returns (ErrorAt w) w := fun _ => rfl

theorem unchanged_refl (w : World) : Unchanged w w := ⟨rfl, rfl, rfl, rfl, rfl, rfl, rfl, rfl, rfl⟩

theorem refuses_of_errorAt {c : M Message} (h : c.Returns (ErrorAt w) w) : Refuses c w := by
  intro m w' hexec herror
  rw [returns_iff.mp h m w' hexec herror]
  exact unchanged_refl w

section Lookups

variable {α : Type} {Q : α → World → Prop}

@[simp] theorem returns_read {Q : World → World → Prop} : (read : M World).Returns Q w ↔ Q w w :=
  Iff.rfl

@[simp] theorem returns_pure (a : α) : (Pure.pure a : M α).Returns Q w ↔ Q a w := Iff.rfl

@[simp] theorem returns_put {Q : Unit → World → Prop} (u : Update) :
    (put u).Returns Q w ↔ Q () (u.apply w) := Iff.rfl

@[simp] theorem returns_mark {Q : Unit → World → Prop} (e : Mark) :
    (mark e).Returns Q w ↔ Q () w := Iff.rfl

@[simp] theorem returns_readRoom {Q : Room → World → Prop} :
    (readRoom r).Returns Q w ↔ Q (w.room r) w := Iff.rfl

@[simp] theorem returns_readPlayer {Q : Player → World → Prop} :
    (readPlayer r p).Returns Q w ↔ Q (w.player r p) w := Iff.rfl

/-- `get_player` finds whom the index has. -/
theorem returns_getPlayer (h : p ∈ (w.room r).players → p ∈ (w.room r).playersById)
    {Q : Option PlayerId → World → Prop}
    (hQ : Q (if p ∈ (w.room r).playersById then some p else none) w) :
    (getPlayer r p).Returns Q w := by
  unfold getPlayer
  rw [returns_bind, returns_readRoom, returns_ite, returns_ite]
  refine ⟨fun hmem => by simpa [hmem] using hQ, fun hmem => ⟨fun hlist => ?_, fun _ => ?_⟩⟩
  · exact absurd (h hlist) hmem
  · simpa [hmem] using hQ

/-- `find_room_by_player` needs no search. -/
theorem returns_findRoomByPlayer (h : w.Indexed) {Q : Option RoomId → World → Prop}
    (hQ : Q ((w.playerToRoom p).bind w.roomOf) w) : (findRoomByPlayer p).Returns Q w := by
  unfold findRoomByPlayer
  rw [returns_bind, returns_read, returns_elim]
  refine ⟨fun hnone => ?_, fun code hcode => by simpa [hcode] using hQ⟩
  rw [returns_elim]
  refine ⟨fun _ => by simpa [hnone] using hQ, fun x hx => ?_⟩
  have hmem : p ∈ (w.room x.2).playersById ∨ p ∈ (w.room x.2).players := by
    simpa using List.find?_some hx
  exact absurd hnone (h.seated x (List.mem_of_find?_eq_some hx) p
    (hmem.elim id (h.listed x.2 p)))

end Lookups

/-! ## Refusals before the first change -/

section Operations

variable {q : PlayerId} (env : Env)

/-- The checks of an operation of a player in a room. -/
theorem errorAt_inRoom (h : w.Indexed) {m : Message} {f : RoomId → M Message}
    (hf : ∀ r, (f r).Returns (ErrorAt w) w) :
    (findRoomByPlayer p >>= fun o => o.elim (Pure.pure m) f).Returns (ErrorAt w) w := by
  refine returns_bind.mpr (returns_findRoomByPlayer h ?_)
  rw [returns_elim]
  exact ⟨fun _ => errorAt_pure m, fun r _ => hf r⟩

theorem errorAt_ite {P : Prop} [Decidable P] {c : M Message} (m : Message)
    (hc : c.Returns (ErrorAt w) w) : (if P then Pure.pure m else c).Returns (ErrorAt w) w := by
  rw [returns_ite]
  exact ⟨fun _ => errorAt_pure m, fun _ => hc⟩

theorem errorAt_getPlayer (h : w.Indexed) {m : Message} {f : PlayerId → M Message}
    (hf : ∀ q, (f q).Returns (ErrorAt w) w) :
    (getPlayer r p >>= fun o => o.elim (Pure.pure m) f).Returns (ErrorAt w) w := by
  refine returns_bind.mpr (returns_getPlayer (h.listed r p) ?_)
  rw [returns_elim]
  exact ⟨fun _ => errorAt_pure m, fun q _ => hf q⟩

theorem errorAt_updateSettings (h : w.Indexed) (settings : List (String × Value)) :
    (updateSettings env p settings).Returns (ErrorAt w) w := by
  unfold updateSettings
  refine errorAt_inRoom h fun r => ?_
  rw [returns_bind, returns_readRoom]
  refine errorAt_ite _ (errorAt_ite _ ?_)
  rw [returns_elim]
  exact ⟨fun _ => errorAt_of_accepts _, fun _ _ => errorAt_pure _⟩

theorem errorAt_handleRematch (h : w.Indexed) : (handleRematch p).Returns (ErrorAt w) w := by
  unfold handleRematch
  refine errorAt_inRoom h fun r => ?_
  rw [returns_bind, returns_readRoom]
  exact errorAt_ite _ (errorAt_ite _ (errorAt_of_accepts _))

theorem errorAt_transferHost (h : w.Indexed) : (transferHost p q).Returns (ErrorAt w) w := by
  unfold transferHost
  refine errorAt_inRoom h fun r => ?_
  rw [returns_bind, returns_readRoom]
  refine errorAt_ite _ (errorAt_ite _ (errorAt_getPlayer h fun target => ?_))
  rw [returns_bind, returns_readPlayer]
  exact errorAt_ite _ (errorAt_ite _ (errorAt_of_accepts _))

theorem errorAt_kickPlayer (h : w.Indexed) : (kickPlayer p q).Returns (ErrorAt w) w := by
  unfold kickPlayer
  refine errorAt_inRoom h fun r => ?_
  rw [returns_bind, returns_readRoom]
  exact errorAt_ite _ (errorAt_ite _ (errorAt_getPlayer h fun target =>
    errorAt_ite _ (errorAt_of_accepts _)))

theorem errorAt_startVoteKick (h : w.Indexed) :
    (startVoteKick env p q).Returns (ErrorAt w) w := by
  unfold startVoteKick
  refine errorAt_inRoom h fun r => ?_
  rw [returns_bind, returns_read]
  refine errorAt_ite _ (errorAt_ite _ (errorAt_getPlayer h fun target => ?_))
  rw [returns_bind, returns_read]
  exact errorAt_ite _ (errorAt_ite _ (errorAt_ite _ (errorAt_of_accepts _)))

theorem errorAt_castVoteKick (h : w.Indexed) (yes : Bool) :
    (castVoteKick env p yes).Returns (ErrorAt w) w := by
  unfold castVoteKick
  refine errorAt_inRoom h fun r => ?_
  rw [returns_bind, returns_read, returns_elim]
  refine ⟨fun _ => errorAt_pure _, fun vote _ => errorAt_ite _ ?_⟩
  refine returns_bind.mpr (returns_getPlayer (h.listed r p) ?_)
  exact errorAt_ite _ (errorAt_of_accepts _)

theorem errorAt_leaveRoom (h : w.Indexed) : (leaveRoom p).Returns (ErrorAt w) w := by
  unfold leaveRoom
  refine errorAt_inRoom h fun r => ?_
  rw [returns_bind, returns_readRoom]
  exact errorAt_ite _ (errorAt_of_accepts _)

theorem errorAt_toggleReady (h : w.Indexed) : (toggleReady p).Returns (ErrorAt w) w := by
  unfold toggleReady
  refine errorAt_inRoom h fun r => ?_
  rw [returns_bind, returns_readRoom]
  exact errorAt_ite _ (errorAt_getPlayer h fun q => errorAt_of_accepts _)

theorem errorAt_updateProfile (h : w.Indexed) (name avatar : Option String) :
    (updateProfile env p name avatar).Returns (ErrorAt w) w := by
  unfold updateProfile
  refine errorAt_inRoom h fun r => ?_
  rw [returns_bind, returns_readRoom]
  refine errorAt_ite _ (errorAt_getPlayer h fun q => ?_)
  rw [returns_bind, returns_read, returns_elim]
  exact ⟨fun _ => errorAt_of_accepts _, fun _ _ => errorAt_pure _⟩

theorem errorAt_startGame (h : w.Indexed) : (startGame p).Returns (ErrorAt w) w := by
  unfold startGame
  refine errorAt_inRoom h fun r => ?_
  rw [returns_bind, returns_read]
  exact errorAt_ite _ (errorAt_ite _ (errorAt_ite _ (errorAt_of_accepts _)))

theorem errorAt_requestBecomePlayer (h : w.Indexed) :
    (requestBecomePlayer p).Returns (ErrorAt w) w := by
  unfold requestBecomePlayer
  refine errorAt_inRoom h fun r => ?_
  refine returns_bind.mpr (returns_getPlayer (h.listed r p) ?_)
  dsimp only
  rw [returns_bind, returns_read]
  exact errorAt_ite _ (errorAt_ite _ (errorAt_ite _ (errorAt_ite _ (errorAt_ite _
    (errorAt_of_accepts _)))))

theorem errorAt_createRoom (draws : List String) (name : String) (ws : WsId)
    (avatar password : Option String) (maxPlayers : Option Int) :
    (createRoom env draws name ws avatar password maxPlayers).Returns (ErrorAt w) w := by
  unfold createRoom
  dsimp only
  rw [returns_bind, returns_read]
  refine errorAt_ite _ ?_
  rw [returns_elim, returns_elim]
  exact ⟨fun _ => ⟨fun _ => trivial, fun code _ => errorAt_of_accepts _⟩, fun _ _ => errorAt_pure _⟩

instance (r : RoomId) (request : PendingJoinRequest) (isSpectator : Bool) :
    Accepts (admitRequester r request isSpectator) := by
  unfold admitRequester; dsimp only; infer_instance

theorem errorAt_respondJoinRequest (i : RequestId) (action : String) :
    (respondJoinRequest p i action).Returns (ErrorAt w) w := by
  unfold respondJoinRequest
  rw [returns_bind, returns_read, returns_elim]
  refine ⟨fun _ => errorAt_pure _, fun request _ => ?_⟩
  rw [returns_elim]
  refine ⟨fun _ => errorAt_pure _, fun r _ => errorAt_ite _ ?_⟩
  rw [returns_ite]
  exact ⟨fun _ => errorAt_of_accepts _, fun _ => errorAt_ite _ (errorAt_ite _
    (errorAt_of_accepts _))⟩

end Operations

/-! ## Refusals after a change -/

/-- A call without exceptions returns. -/
theorem exec_ok {S : List Eff} {α : Type} (c : M α) [hc : Coro.Within (fp S) c]
    (hS : Eff.raises ∉ S) (w : World) : ∃ a w', c.exec w = (.ok a, w') := by
  have hends : c.Ends Eq w (c.exec w).1 (c.exec w).2 := ends_exec c w
  cases hexec : (c.exec w).1 with
  | ok a => exact ⟨a, (c.exec w).2, Prod.ext hexec rfl⟩
  | error e => exact absurd (hexec ▸ hends) (Ends.not_error hc hS)

/-- The request is taken out, and then the spectator cannot become a player. -/
def World.ConsumesRole (w : World) (p : PlayerId) (i : RequestId) (action : String) : Prop :=
  ∃ request r, (w.pendingSpectatorRoleRequests.find? (·.1 = i)).map (·.2) = some request ∧
    w.roomOf request.roomCode = some r ∧ (w.room r).hostId = p ∧ action ≠ "decline" ∧
    (request.playerId ∉ (w.room r).playersById ∨
      (w.player r request.playerId).isConnected = false ∨ w.playersFull r)

theorem returns_dropRole (h : w.Indexed) {i : RequestId} {request : PendingSpectatorRoleRequest}
    {f : Option PlayerId → Player → M Message} {Q : Message → World → Prop}
    (hf : ∀ w', w'.pendingSpectatorRoleRequests =
        w.pendingSpectatorRoleRequests.filter (·.1 ≠ i) →
      (f (if request.playerId ∈ (w.room r).playersById then some request.playerId else none)
        (w.player r request.playerId)).Returns Q w') :
    (do
      cancelRoleTimeout request
      dropRoleRequest r i
      let found ← getPlayer r request.playerId
      let player ← readPlayer r request.playerId
      f found player).Returns Q w := by
  have hdrop : ∀ w₁ : World, w₁.room = w.room → w₁.player = w.player →
      w₁.pendingSpectatorRoleRequests = w.pendingSpectatorRoleRequests → (do
        dropRoleRequest r i
        let found ← getPlayer r request.playerId
        let player ← readPlayer r request.playerId
        f found player).Returns Q w₁ := by
    intro w₁ hroom hplayer hroles
    unfold dropRoleRequest
    simp only [returns_bind, returns_read, returns_put, returns_readPlayer]
    refine returns_getPlayer ?_ ?_
    · simpa [Update.apply, RoomUpdate.apply, hroom] using h.listed r request.playerId
    · have hgone := hf ((Update.room r (.pendingSpectatorRoleRequests
        ((w₁.room r).pendingSpectatorRoleRequests.filter (·.1 ≠ i)))).apply
        ((Update.pendingSpectatorRoleRequests
          (w₁.pendingSpectatorRoleRequests.filter (·.1 ≠ i))).apply w₁))
        (by simp [Update.apply, hroles])
      simpa [Update.apply, RoomUpdate.apply, hroom, hplayer] using hgone
  unfold cancelRoleTimeout cancel
  rw [returns_bind, returns_elim]
  refine ⟨fun _ => hdrop w rfl rfl rfl, fun t _ => ?_⟩
  exact hdrop _ rfl rfl rfl

instance (r : RoomId) (i : RequestId) : Accepts (promoteSpectator r p i) := by
  unfold promoteSpectator; infer_instance

theorem errorAt_respondSpectatorRoleRequest (h : w.Indexed) {i : RequestId} {action : String}
    (hrole : ¬w.ConsumesRole p i action) :
    (respondSpectatorRoleRequest p i action).Returns (ErrorAt w) w := by
  unfold respondSpectatorRoleRequest
  rw [returns_bind, returns_read, returns_elim]
  refine ⟨fun _ => errorAt_pure _, fun request hfind => ?_⟩
  rw [returns_elim]
  refine ⟨fun _ => errorAt_pure _, fun r hr => ?_⟩
  rw [returns_ite]
  refine ⟨fun _ => errorAt_pure _, fun hhost => returns_dropRole h fun w' _ => ?_⟩
  rw [returns_ite]
  refine ⟨fun _ => errorAt_of_accepts _, fun haction => ?_⟩
  have hready : ¬(request.playerId ∉ (w.room r).playersById ∨
      (w.player r request.playerId).isConnected = false ∨ w.playersFull r) := fun hfail =>
    hrole ⟨request, r, hfind, hr, not_not.mp hhost, haction, hfail⟩
  rw [not_or, not_or, not_not] at hready
  obtain ⟨hmem, hconnected, hfull⟩ := hready
  rw [if_pos hmem, returns_ite, returns_ite]
  refine ⟨fun hno => ?_, fun _ => ⟨fun hfull' => absurd hfull' hfull, fun _ => ?_⟩⟩
  · simp [hconnected] at hno
  · exact errorAt_of_accepts _

/-- Then the error comes after the request has gone. -/
theorem refuses_role_iff (h : w.Indexed) {i : RequestId} {action : String} :
    Refuses (respondSpectatorRoleRequest p i action) w ↔ ¬w.ConsumesRole p i action := by
  refine ⟨fun hrefuses hrole => ?_, fun hrole =>
    refuses_of_errorAt (errorAt_respondSpectatorRoleRequest h hrole)⟩
  obtain ⟨request, r, hfind, hr, hhost, haction, hfail⟩ := hrole
  have hreturns : (respondSpectatorRoleRequest p i action).Returns (fun m w' =>
      m.isError = true ∧ w'.pendingSpectatorRoleRequests =
        w.pendingSpectatorRoleRequests.filter (·.1 ≠ i)) w := by
    unfold respondSpectatorRoleRequest
    rw [returns_bind, returns_read, hfind, Option.elim, hr, Option.elim, returns_ite]
    refine ⟨fun hne => absurd hhost hne, fun _ => returns_dropRole h fun w' hroles => ?_⟩
    rw [if_neg haction, returns_ite, returns_ite]
    refine ⟨fun _ => ⟨rfl, hroles⟩, fun hfound => ⟨fun _ => ⟨rfl, hroles⟩, fun hfull => ?_⟩⟩
    rcases hfail with hmem | hconnected | hfull'
    · simp [hmem] at hfound
    · simp [hconnected] at hfound
    · exact absurd hfull' hfull
  obtain ⟨m, w', hexec⟩ := exec_ok (S := [.roles, .spectator, .ending, .guessed])
    (respondSpectatorRoleRequest p i action) (by decide) w
  obtain ⟨herror, hroles⟩ := returns_iff.mp hreturns m w' hexec
  have hsame := (hrefuses m w' hexec herror).roles
  obtain ⟨x, hx, -⟩ := Option.map_eq_some_iff.mp hfind
  have hmem : x ∈ w.pendingSpectatorRoleRequests.filter (·.1 ≠ i) := by
    rw [← hroles, hsame]
    exact List.mem_of_find?_eq_some hx
  have hi : x.1 = i := by simpa using List.find?_some hx
  exact of_decide_eq_true (List.mem_filter.mp hmem).2 hi

/-! ### Adoption -/

/-- The snapshot of a room that no worker has is adopted, and then its room refuses the player. -/
def World.AdoptsInVain (env : Env) (w : World) (name code : String) (asSpectator : Bool)
    (password : Option String) (remote : Option Message) : Prop :=
  validateName name = none ∧ ((w.roomOf code).filter fun r => !(w.room r).isProxy) = none ∧
    (remote.filter fun _ => w.redis) = none ∧ w.redis = true ∧
    ∃ x, w.snapshots code = some x ∧ ((env.passwordError x.config password).isSome ∨
      asSpectator = false ∧ (x.state ≠ .lobby ∨
        min x.config.maxPlayers.val maxPlayersHardCap ≤ x.players.length))

theorem errorAt_requestJoin (h : w.Indexed) {name : String} {ws : WsId} {avatar : Option String} :
    (requestJoin r code name ws avatar).Returns (ErrorAt w) w := by
  unfold requestJoin
  dsimp only
  rw [returns_bind, returns_read]
  refine errorAt_ite _ (errorAt_getPlayer h fun host => ?_)
  rw [returns_elim]
  exact ⟨fun _ => errorAt_pure _, fun _ _ => errorAt_of_accepts _⟩

theorem errorAt_joinRoomLocal (env : Env) (h : w.Indexed) {name : String} {ws : WsId}
    {avatar : Option String} {asSpectator : Bool} {password : Option String} :
    (joinRoomLocal env r code name ws avatar asSpectator password).Returns (ErrorAt w) w := by
  unfold joinRoomLocal
  rw [returns_bind, returns_read, returns_elim]
  refine ⟨fun _ => ?_, fun _ _ => errorAt_pure _⟩
  rw [returns_ite]
  exact ⟨fun _ => errorAt_requestJoin h, fun _ => errorAt_ite _ (errorAt_ite _
    (errorAt_of_accepts _))⟩

theorem returns_redisCall {Q : Unit → World → Prop} (hQ : Q () w) : redisCall.Returns Q w := by
  unfold redisCall Coro.when
  rw [returns_bind, returns_read, returns_ite]
  exact ⟨fun _ => hQ, fun _ => hQ⟩

theorem mem_dictSet_self {α β : Type} [DecidableEq α] (d : List (α × β)) (k : α) (b : β) :
    (k, b) ∈ dictSet d k b := by
  unfold dictSet
  split
  · next hany =>
    obtain ⟨x, hx, hk⟩ := List.any_eq_true.mp hany
    exact List.mem_map.mpr ⟨x, hx, if_pos (of_decide_eq_true hk)⟩
  · simp

/-- `restore_room` makes a room and registers it. -/
theorem returns_restoreRoom {x : RoomSnapshot} : (restoreRoom x).Returns (fun r w' =>
    r = w.nextRoom ∧ Restored x w.now w.nextRoom w' ∧
      w'.rooms = dictSet w.rooms x.code w.nextRoom) w := by
  have hrooms : (restoreRoom x).Returns (fun r w' => r = w.nextRoom ∧
      w'.rooms = dictSet w.rooms x.code w.nextRoom) w := by
    unfold restoreRoom
    dsimp only
    simp only [returns_bind, returns_read, returns_mark, returns_put, returns_pure]
    refine (returns_each (fun _ _ => True) trivial fun _ _ _ _ => ?_).mono fun _ w' _ => ?_
    · simp [returns_bind]
    · simp only [returns_elim, returns_when, returns_pure, returns_put]
      exact ⟨fun _ => ⟨trivial, rfl⟩, fun _ _ => ⟨fun _ => ⟨trivial, rfl⟩, fun _ => ⟨trivial, rfl⟩⟩⟩
  refine returns_iff.mpr fun r w' hexec => ?_
  obtain ⟨hr, hrooms⟩ := returns_iff.mp hrooms r w' hexec
  have hends : (restoreRoom x).Ends Eq w (.ok r) w' := by
    have hends : (restoreRoom x).Ends Eq w _ _ := ends_exec (restoreRoom x) w
    rwa [hexec] at hends
  exact ⟨hr, restoreRoom_restored hends, hrooms⟩

/-- The room that is adopted. -/
structure World.Adopted (w : World) (x : RoomSnapshot) (w' : World) : Prop where
  room : (w'.room w.nextRoom).bare = x.room
  players : (w'.room w.nextRoom).players = x.players.map (·.id)
  player : ∀ p, w'.player w.nextRoom p = x.player w.now p
  rooms : w'.rooms = dictSet w.rooms x.code w.nextRoom

theorem returns_adoptSnapshot {Q : Option RoomId → World → Prop}
    (hnone : w.redis = false ∨ w.snapshots code = none → Q none w)
    (hsome : ∀ x w', w.redis = true → w.snapshots code = some x → w.Adopted x w' →
      Q (some w.nextRoom) w') : (adoptSnapshot code).Returns Q w := by
  unfold adoptSnapshot
  rw [returns_bind, returns_read, returns_ite]
  refine ⟨fun hredis => hnone (.inl hredis), fun hredis => ?_⟩
  refine returns_bind.mpr (returns_redisCall ?_)
  rw [returns_bind, returns_read, returns_elim]
  refine ⟨fun hx => hnone (.inr hx), fun x hx => ?_⟩
  refine returns_bind.mpr (returns_restoreRoom.mono fun r w' ⟨hr, hrestored, hrooms⟩ => ?_)
  subst hr
  rw [returns_bind, returns_put]
  refine returns_bind.mpr (returns_redisCall (returns_bind.mpr (returns_redisCall ?_)))
  exact hsome x _ (by simpa using hredis) hx
    ⟨hrestored.room, hrestored.players, hrestored.player, hrooms⟩

theorem World.Adopted.config {x : RoomSnapshot} (h : w.Adopted x w') :
    (w'.room w.nextRoom).config = x.config := congrArg Room.config h.room

theorem World.Adopted.state {x : RoomSnapshot} (h : w.Adopted x w') :
    (w'.room w.nextRoom).state = x.state := congrArg Room.state h.room

/-- A restored player is neither a spectator nor connected. -/
theorem RoomSnapshot.player_offline (x : RoomSnapshot) (now : ℚ) (p : PlayerId) :
    (x.player now p).isSpectator = false ∧ (x.player now p).websocket = none := by
  unfold RoomSnapshot.player
  cases x.players.find? (·.id = p) <;> exact ⟨rfl, rfl⟩

theorem World.Adopted.playersFull {x : RoomSnapshot} (h : w.Adopted x w') :
    w'.playersFull w.nextRoom ↔
      min x.config.maxPlayers.val maxPlayersHardCap ≤ x.players.length := by
  have hactive : w'.activePlayers w.nextRoom = x.players.map (·.id) := by
    unfold World.activePlayers
    rw [h.players]
    refine List.filter_eq_self.mpr fun p _ => ?_
    rw [h.player, (x.player_offline w.now p).1]
    rfl
  unfold World.playersFull
  rw [hactive, h.config, List.length_map]

theorem World.Adopted.not_spectatorsFull {x : RoomSnapshot} (h : w.Adopted x w') :
    ¬w'.spectatorsFull w.nextRoom := by
  have hspectators : w'.spectators w.nextRoom = [] := by
    refine List.filter_eq_nil_iff.mpr fun p _ => ?_
    rw [h.player, (x.player_offline w.now p).1]
    exact Bool.false_ne_true
  unfold World.spectatorsFull
  rw [hspectators]
  exact Nat.not_succ_le_zero 49

theorem errorAt_joinRoom (env : Env) (h : w.Indexed) {name : String} {ws : WsId}
    {avatar : Option String} {asSpectator : Bool} {password : Option String}
    {remote : Option Message}
    (hvain : ¬w.AdoptsInVain env name code asSpectator password remote) :
    (joinRoom env name code ws avatar asSpectator password remote).Returns (ErrorAt w) w := by
  unfold joinRoom
  rw [returns_elim]
  refine ⟨fun hname => ?_, fun _ _ => errorAt_pure _⟩
  rw [returns_bind, returns_read, returns_elim]
  refine ⟨fun hlocal => returns_bind.mpr (returns_redisCall ?_), fun r _ =>
    errorAt_joinRoomLocal env h⟩
  rw [returns_elim]
  refine ⟨fun hremote => returns_bind.mpr (returns_adoptSnapshot (fun _ => errorAt_pure _)
    fun x w' hredis hx hadopted => ?_), fun _ _ => errorAt_pure _⟩
  have haccepts : ¬((env.passwordError x.config password).isSome ∨ asSpectator = false ∧
      (x.state ≠ .lobby ∨ min x.config.maxPlayers.val maxPlayersHardCap ≤ x.players.length)) :=
    fun hfail => hvain ⟨hname, hlocal, hremote, hredis, x, hx, hfail⟩
  rw [not_or, Bool.not_eq_true, Option.isSome_eq_false_iff, Option.isNone_iff_eq_none] at haccepts
  obtain ⟨hpassword, hroom⟩ := haccepts
  rw [Option.elim]
  unfold joinRoomLocal
  rw [returns_bind, returns_read, hadopted.config, hpassword, Option.elim, hadopted.state,
    returns_ite, returns_ite, returns_ite]
  refine ⟨fun ⟨hstate, has⟩ => absurd ⟨has, .inl hstate⟩ hroom, fun _ => ⟨fun ⟨has, hfull⟩ => ?_,
    fun _ => ⟨fun ⟨_, hfull⟩ => absurd hfull hadopted.not_spectatorsFull, fun _ =>
      errorAt_of_accepts _⟩⟩⟩
  exact absurd ⟨has, .inr (hadopted.playersFull.mp hfull)⟩ hroom

/-- Nobody of an adopted room is connected, so nobody can approve a join request. -/
theorem returns_requestJoin_adopted {x : RoomSnapshot} (h : w.Adopted x w') {name : String}
    {ws : WsId} {avatar : Option String} :
    (requestJoin w.nextRoom code name ws avatar).Returns
      (fun m w'' => m.isError = true ∧ w''.rooms = w'.rooms) w' := by
  have hnobody : ∀ host, (if (w'.player w.nextRoom host).isConnected then
      (w'.player w.nextRoom host).websocket else none) = none := by
    intro host
    rw [h.player, (x.player_offline w.now host).2, ite_self]
  have hunavailable : ∀ (o : Option PlayerId) (w'' : World) (f : PlayerId → WsId → M Message),
      w''.rooms = w'.rooms → (o.elim (Pure.pure requestJoin.hostUnavailable) fun host =>
        (if (w'.player w.nextRoom host).isConnected then (w'.player w.nextRoom host).websocket
          else none).elim (Pure.pure requestJoin.hostUnavailable) (f host)).Returns
        (fun m w'' => m.isError = true ∧ w''.rooms = w'.rooms) w'' := by
    intro o w'' f hrooms
    rw [returns_elim]
    refine ⟨fun _ => ⟨rfl, hrooms⟩, fun host _ => ?_⟩
    rw [hnobody host]
    exact ⟨rfl, hrooms⟩
  unfold requestJoin getPlayer
  dsimp only
  rw [returns_bind, returns_read, returns_ite]
  refine ⟨fun _ => ⟨rfl, rfl⟩, fun _ => ?_⟩
  rw [returns_bind, returns_bind, returns_readRoom, returns_ite, returns_ite]
  exact ⟨fun _ => hunavailable _ _ _ rfl, fun _ => ⟨fun _ => hunavailable _ _ _ rfl, fun _ =>
    hunavailable _ _ _ rfl⟩⟩

theorem isError_of_passwordError {env : Env} {config : GameConfig} {password : Option String}
    {m : Message} (h : env.passwordError config password = some m) : m.isError = true := by
  unfold Env.passwordError at h
  obtain ⟨expected, _, h⟩ := Option.bind_eq_some_iff.mp h
  dsimp only at h
  split at h
  · cases h
    rfl
  · split at h
    · cases h
      rfl
    · cases h

theorem refuses_join_iff (env : Env) (h : w.Indexed) {name : String} {ws : WsId}
    {avatar : Option String} {asSpectator : Bool} {password : Option String}
    {remote : Option Message} :
    Refuses (joinRoom env name code ws avatar asSpectator password remote) w ↔
      ¬w.AdoptsInVain env name code asSpectator password remote := by
  refine ⟨fun hrefuses hvain => ?_, fun hvain =>
    refuses_of_errorAt (errorAt_joinRoom env h hvain)⟩
  obtain ⟨hname, hlocal, hremote, hredis, x, hx, hfail⟩ := hvain
  have hreturns : (joinRoom env name code ws avatar asSpectator password remote).Returns
      (fun m w' => m.isError = true ∧ w'.rooms = dictSet w.rooms x.code w.nextRoom) w := by
    unfold joinRoom
    rw [hname, Option.elim, returns_bind, returns_read, hlocal, Option.elim]
    refine returns_bind.mpr (returns_redisCall ?_)
    rw [hremote, Option.elim]
    refine returns_bind.mpr (returns_adoptSnapshot (fun hnone => ?_) fun x' w' _ hx' h' => ?_)
    · rcases hnone with hnone | hnone
      · simp [hredis] at hnone
      · simp [hx] at hnone
    · obtain rfl : x = x' := Option.some.inj (hx.symm.trans hx')
      rw [Option.elim]
      unfold joinRoomLocal
      rw [returns_bind, returns_read, h'.config, returns_elim]
      refine ⟨fun hpassword => ?_, fun error herror => ?_⟩
      · obtain ⟨has, hroom⟩ := hfail.resolve_left (by simp [hpassword])
        rw [h'.state, returns_ite, returns_ite]
        refine ⟨fun _ => ?_, fun hstate => ⟨fun _ => ⟨rfl, h'.rooms⟩, fun hfull => ?_⟩⟩
        · exact (returns_requestJoin_adopted h').mono fun m w'' hm =>
            ⟨hm.1, hm.2.trans h'.rooms⟩
        · rcases hroom with hroom | hroom
          · exact absurd ⟨hroom, has⟩ hstate
          · exact absurd ⟨has, h'.playersFull.mpr hroom⟩ hfull
      · exact ⟨isError_of_passwordError herror, h'.rooms⟩
  obtain ⟨m, w', hexec⟩ := exec_ok (S := [.rooms, .turn, .players, .connection, .members])
    (joinRoom env name code ws avatar asSpectator password remote) (by decide) w
  obtain ⟨herror, hrooms⟩ := returns_iff.mp hreturns m w' hexec
  have hmem : (x.code, w.nextRoom) ∈ w.rooms := by
    rw [← (hrefuses m w' hexec herror).rooms, hrooms]
    exact mem_dictSet_self _ _ _
  exact lt_irrefl _ (h.exist _ hmem)

/-! ## All operations -/

/-- The call is refused after it has changed something. -/
def ManagerOp.Spoils (env : Env) (w : World) : ManagerOp → Prop
  | .joinRoom name code _ _ asSpectator password remote =>
    w.AdoptsInVain env name code asSpectator password remote
  | .respondSpectatorRoleRequest p i action => w.ConsumesRole p i action
  | _ => False

/-- **Errors change nothing.**  While the indexes are complete, an operation that answers with an
error leaves rooms, players, pending requests, votes and indexes as they were, if and only if it is
not one that consumes a request or adopts a snapshot before it refuses. -/
theorem refuses_iff (env : Env) (o : ManagerOp) (h : w.Indexed) :
    Refuses (o.call env) w ↔ ¬o.Spoils env w := by
  cases o with
  | joinRoom => exact refuses_join_iff env h
  | respondSpectatorRoleRequest => exact refuses_role_iff h
  | createRoom =>
    exact iff_of_true (refuses_of_errorAt (errorAt_createRoom env _ _ _ _ _ _)) not_false
  | respondJoinRequest =>
    exact iff_of_true (refuses_of_errorAt (errorAt_respondJoinRequest _ _)) not_false
  | requestBecomePlayer =>
    exact iff_of_true (refuses_of_errorAt (errorAt_requestBecomePlayer h)) not_false
  | updateSettings =>
    exact iff_of_true (refuses_of_errorAt (errorAt_updateSettings env h _)) not_false
  | handleRematch => exact iff_of_true (refuses_of_errorAt (errorAt_handleRematch h)) not_false
  | transferHost => exact iff_of_true (refuses_of_errorAt (errorAt_transferHost h)) not_false
  | kickPlayer => exact iff_of_true (refuses_of_errorAt (errorAt_kickPlayer h)) not_false
  | startVoteKick =>
    exact iff_of_true (refuses_of_errorAt (errorAt_startVoteKick env h)) not_false
  | castVoteKick =>
    exact iff_of_true (refuses_of_errorAt (errorAt_castVoteKick env h _)) not_false
  | leaveRoom => exact iff_of_true (refuses_of_errorAt (errorAt_leaveRoom h)) not_false
  | toggleReady => exact iff_of_true (refuses_of_errorAt (errorAt_toggleReady h)) not_false
  | updateProfile =>
    exact iff_of_true (refuses_of_errorAt (errorAt_updateProfile env h _ _)) not_false
  | startGame => exact iff_of_true (refuses_of_errorAt (errorAt_startGame h)) not_false

/-- A host, a player, and a spectator who asks to become a player and loses its connection. -/
def spectatorGone : List (Loop.Choice TaskId ClusterOp × List Bool) :=
  [(.call (.owner (.own (.createRoom ["ROOM01"] "p0" 0 none none none))), []),
    (.call (.owner (.own (.joinRoom "p1" "ROOM01" 1 none false none none))), []),
    (.call (.owner (.own (.joinRoom "p2" "ROOM01" 2 none true none none))), []),
    (.call (.owner (.own (.requestBecomePlayer (.uuid 2) 2))), []),
    (.call (.owner (.own (.websocketClosed 2 (some (.uuid 2))))), [])]

/-- In this room the player is not allowed to kick the host, and nothing changes; the host accepts
the request, and it is gone though the answer is an error. -/
theorem kick_refused : ∃ c,
    (clustered sampleEnv).Run codesNotReused (startConfig sampleWorld) c ∧
    ((kickPlayer (.uuid 1) (.uuid 0)).exec c.state).1.toOption.any Message.isError = true ∧
    Refuses ((ManagerOp.kickPlayer (.uuid 1) (.uuid 0)).call sampleEnv) c.state ∧
    ¬Refuses ((ManagerOp.respondSpectatorRoleRequest (.uuid 0) (.uuid 3) "accept").call sampleEnv)
      c.state := by
  have hplay : ((clustered sampleEnv).play codesNotReused (startConfig sampleWorld)
      spectatorGone).any (fun c =>
        ((kickPlayer (.uuid 1) (.uuid 0)).exec c.state).1.toOption.any Message.isError = true ∧
        (c.state.pendingSpectatorRoleRequests.find? (·.1 = .uuid 3)).map (fun x =>
          (x.2.playerId, c.state.roomOf x.2.roomCode)) = some (.uuid 2, some 0) ∧
        (c.state.room 0).hostId = .uuid 0 ∧
        (c.state.player 0 (.uuid 2)).isConnected = false) = true := by
    decide +kernel
  obtain ⟨c, hrun, hidle, hc⟩ := Loop.exists_run_of_play rfl hplay
  obtain ⟨herror, hfind, hhost, hgone⟩ := of_decide_eq_true hc
  have hindexed : c.state.Indexed := World.indexed_of_coherent (registry_coherent hrun hidle)
  have hspoils : c.state.ConsumesRole (.uuid 0) (.uuid 3) "accept" := by
    obtain ⟨x, hx, heq⟩ := Option.map_eq_some_iff.mp hfind
    obtain ⟨hplayer, hroom⟩ := Prod.mk.inj heq
    exact ⟨x.2, 0, congrArg (Option.map Prod.snd) hx, hroom, hhost, by decide,
      .inr (.inl (hplayer ▸ hgone))⟩
  exact ⟨c, hrun, herror,
    (refuses_iff sampleEnv (.kickPlayer (.uuid 1) (.uuid 0)) hindexed).mpr not_false,
    fun h => (refuses_iff sampleEnv
      (.respondSpectatorRoleRequest (.uuid 0) (.uuid 3) "accept") hindexed).mp h hspoils⟩

/-- **The request is gone.**  A spectator asks to become a player and loses its connection; the host
accepts, and the answer is an error. -/
theorem request_consumed : ∃ c,
    (worker sampleEnv).Run Loop.anyEvent (startConfig sampleWorld) c ∧ c.running = none ∧
    ¬Refuses ((ManagerOp.respondSpectatorRoleRequest (.uuid 0) (.uuid 2) "accept").call sampleEnv)
      c.state := by
  have hplay : ((worker sampleEnv).play Loop.anyEvent (startConfig sampleWorld)
      [(.call (.createRoom ["ROOM01"] "p0" 0 none none none), []),
        (.call (.joinRoom "p1" "ROOM01" 1 none true none none), []),
        (.call (.requestBecomePlayer (.uuid 1) 1), []),
        (.call (.websocketClosed 1 (some (.uuid 1))), [])]).any (fun c =>
        ((respondSpectatorRoleRequest (.uuid 0) (.uuid 2) "accept").exec
          c.state).1.toOption.any Message.isError = true ∧
        ((respondSpectatorRoleRequest (.uuid 0) (.uuid 2) "accept").exec
          c.state).2.pendingSpectatorRoleRequests.isEmpty = true ∧
        c.state.pendingSpectatorRoleRequests.isEmpty = false) = true := by
    decide +kernel
  obtain ⟨c, hrun, hidle, hc⟩ := Loop.exists_run_of_play rfl hplay
  obtain ⟨hanswer, hgone, hpending⟩ := of_decide_eq_true hc
  refine ⟨c, hrun, hidle, fun h => ?_⟩
  cases hexec : ((respondSpectatorRoleRequest (.uuid 0) (.uuid 2) "accept").exec c.state).1 with
  | error e => simp [hexec, Except.toOption] at hanswer
  | ok m =>
    have herror : m.isError = true := by simpa [hexec, Except.toOption] using hanswer
    have hroles : ((respondSpectatorRoleRequest (.uuid 0) (.uuid 2) "accept").exec
        c.state).2.pendingSpectatorRoleRequests = c.state.pendingSpectatorRoleRequests :=
      (h m _ (Prod.ext hexec rfl) herror).roles
    rw [hroles, hpending] at hgone
    exact Bool.false_ne_true hgone

end Skribbl.Backend
