import Skribbl.Backend.Registry
import Skribbl.Backend.Dispatch

/-!
# How many players a room has

* `handleRpcJoin` — `_handle_rpc` with `join_room`, on the worker that owns the room.
* `owner` — a worker to which other workers send such requests.
* `joinRoomRemote`, `proxyConnection` — `_join_room_remote`, and a connection to a room of another
  worker until it is closed; the room is here as a proxy.
* `clustered` — a worker among others.
* `World.Capped` — at most 12 active players and 50 spectators in each room of this worker.
* `Admission` — an active player comes into such a room only while there is room for one.

Principal results: `capped_of_run` — in every run without restored rooms in which the answers to
join requests find a proxy or no room, every room of this worker is capped and every step is an
admission in this sense; `overfull` — otherwise a room may have a thirteenth active player.
-/

set_option autoImplicit false
set_option synthInstance.maxSize 100000

namespace Skribbl.Backend

open Coro

variable {r r' : RoomId} {p : PlayerId} {w₀ w w' : World}

/-! ## Joining from another worker -/

/-- `add_player(Player(id=player_id, …))` for a player whose connection is on another worker. -/
def admitRemote (r : RoomId) (code name : String) (avatar : Option String) (isSpectator : Bool) :
    M PlayerId := do
  let p ← newPlayer r fun p =>
    { id := p, name := name, avatar := avatar, isSpectator := isSpectator }
  mark (.connects r p none)
  put (.room r (.addPlayer p))
  put (.playerToRoom p (some code))
  return p

/-- `_handle_rpc` with `join_room`; the result is the response. -/
def handleRpcJoin (env : Env) (code name : String) (avatar : Option String) (asSpectator : Bool)
    (password : Option String) : M Message := do
  let w ← read
  (w.roomOf code).elim (return .error "ROOM_NOT_FOUND" "Room not found on owner") fun r =>
    (env.passwordError (w.room r).config password).elim (do
      if (w.room r).state ≠ .lobby ∧ asSpectator = false then
        return .error "ROOM_IN_PROGRESS" "Room is not accepting new players"
      else if asSpectator = false ∧ w.playersFull r then return .error "ROOM_FULL" "Room is full"
      else if asSpectator = true ∧ w.spectatorsFull r then
        return .error "ROOM_FULL" "Spectator capacity reached"
      else do
        let p ← admitRemote r code name avatar asSpectator
        redisCall
        let w ← read
        broadcast code (.playerList (w.serializePlayers r))
        let w ← read
        return .roomJoined (w.joinedInfo r p asSpectator (w.serializePlayers r)))
      fun error => return error

/-- A call of a worker that owns rooms: one of its own, or a request of another worker. -/
inductive OwnerOp where
  | own (o : Op)
  | rpcJoin (code name : String) (avatar : Option String) (asSpectator : Bool)
      (password : Option String)

def OwnerOp.call (env : Env) : OwnerOp → M Unit
  | .own o => o.call env
  | .rpcJoin code name avatar asSpectator password => do
    let _ ← handleRpcJoin env code name avatar asSpectator password
    redisCall

/-- The event loop of such a worker. -/
def owner (env : Env) : Loop World Frame Mark TaskId OwnerOp where
  call := OwnerOp.call env
  body := taskBody env
  due t w := w.isDue t
  start t w := w.setStatus t .running
  finish t w := w.setStatus t .done
  cancelled t w := (w.task t).cancelRequested

/-! ## Rooms of other workers -/

/-- The host that `room_joined` names. -/
def Message.hostId : Message → PlayerId
  | .roomJoined info => info.hostId
  | _ => .other ""

/-- The room with the code, or a new proxy. -/
def proxyRoom (code : String) (hostId : PlayerId) : M RoomId := do
  let w ← read
  (w.roomOf code).elim (do
    put (.newRoom { code := code, hostId := hostId, isProxy := true }
      fun p => { id := p, name := "" })
    put (.rooms (w.rooms ++ [(code, w.nextRoom)]))
    return w.nextRoom)
    fun r => return r

/-- `_join_room_remote`, with what the owner answers, if it does; the result is the player. -/
def joinRoomRemote (code name : String) (ws : WsId) (avatar : Option String)
    (response : Option Message) : M (Option PlayerId) := do
  redisCall
  redisCall
  suspend
  (response.filter fun m => !m.isError).elim (do
    redisCall
    return none) fun m => do
    let r ← proxyRoom code m.hostId
    let p ← newPlayer r fun p => { id := p, name := name, websocket := some ws, avatar := avatar }
    mark (.connects r p (some ws))
    mark (.proxies r)
    put (.room r (.addPlayer p))
    put (.playerToRoom p (some code))
    return some p

/-- The `finally` block of `websocket_handler` for a player of a proxy. -/
def proxyClosed (env : Env) (code : String) (p : PlayerId) : M Unit := do
  let w ← read
  if (w.roomOf code).any (fun r => (w.room r).isProxy) then do
    redisCall
    redisCall
    let w ← read
    (w.roomOf code).elim (return ()) fun r => do
      dropPlayer r p
      let room ← readRoom r
      Coro.when (room.players = []) do
        redisCall
        let w ← read
        put (.rooms (w.rooms.filter (·.1 ≠ code)))
  else handleDisconnect env p

/-- A connection that joins a room of another worker, and is closed some time later. -/
def proxyConnection (env : Env) (code name : String) (ws : WsId) (avatar : Option String)
    (response : Option Message) : M Unit := do
  (← joinRoomRemote code name ws avatar response).elim (return ()) fun p => do
    suspend
    proxyClosed env code p

/-- A call of a worker among others. -/
inductive ClusterOp where
  | owner (o : OwnerOp)
  | proxyConnection (code name : String) (ws : WsId) (avatar : Option String)
      (response : Option Message)

def ClusterOp.call (env : Env) : ClusterOp → M Unit
  | .owner o => o.call env
  | .proxyConnection code name ws avatar response =>
    Backend.proxyConnection env code name ws avatar response

/-- The event loop of a worker among others. -/
def clustered (env : Env) : Loop World Frame Mark TaskId ClusterOp where
  call := ClusterOp.call env
  body := taskBody env
  due t w := w.isDue t
  start t w := w.setStatus t .running
  finish t w := w.setStatus t .done
  cancelled t w := (w.task t).cancelRequested

/-! ## Capacity -/

/-- The room has its players once, all of them are known, and there are not too many, unless it is a
room of another worker. -/
structure World.CappedIn (w : World) (r : RoomId) : Prop where
  nodup : (w.room r).players.Nodup
  known : ∀ p ∈ (w.room r).players, w.Known p
  active : (w.room r).isProxy = false → (w.activePlayers r).length ≤ maxPlayersHardCap
  spectators : (w.room r).isProxy = false → (w.spectators r).length ≤ 50

/-- So it is in every room. -/
def World.Capped (w : World) : Prop := ∀ r < w.nextRoom, w.CappedIn r

/-- An active player comes into a room of this worker only while there is room for one. -/
def Admission (w w' : World) : Prop :=
  ∀ r < w.nextRoom, (w.room r).isProxy = false → (w.activePlayers r).length <
      (w'.activePlayers r).length → ¬w.playersFull r

/-- The mark of a room that is restored. -/
def Mark.isRestore : Mark → Bool
  | .restores _ _ _ => true
  | _ => false

/-- No room is restored from a snapshot. -/
def unrestored (e : Event Frame Mark) (_ : View World Frame Mark) : Prop :=
  match e with
  | .mark e => e.isRestore = false
  | _ => True

instance (e : Event Frame Mark) (v : View World Frame Mark) : Decidable (unrestored e v) :=
  match e with
  | .mark e => inferInstanceAs (Decidable (e.isRestore = false))
  | .suspend _ | .cancel _ => .isTrue trivial

/-- The mark is not that of a room that is restored, nor that of a room of this worker to which the
answer of another worker adds a player. -/
def Mark.Bounded (w : World) : Mark → Prop
  | .restores _ _ _ => False
  | .proxies r => (w.room r).isProxy = true
  | _ => True

instance (w : World) (e : Mark) : Decidable (e.Bounded w) :=
  match e with
  | .restores _ _ _ => .isFalse id
  | .proxies r => inferInstanceAs (Decidable ((w.room r).isProxy = true))
  | .ends _ _ | .credits _ _ | .advances _ _ | .timed _ | .connects _ _ _ | .disconnects _ _
  | .removes _ _ | .opens _ | .resets _ | .begins _ _ _ _ _ | .finishes _ _ => .isTrue trivial

/-- No room is restored, and the answers of other workers find no room of this one. -/
def bounded : Event Frame Mark → View World Frame Mark → Prop
  | .mark e, v => e.Bounded v.state
  | _, _ => True

instance (e : Event Frame Mark) (v : View World Frame Mark) : Decidable (bounded e v) :=
  match e with
  | .mark e => inferInstanceAs (Decidable (e.Bounded v.state))
  | .suspend _ | .cancel _ => .isTrue trivial

/-- Rooms stay capped, and every change is an admission. -/
def admitting : Guarantee World Mark where
  ok e w := e.Bounded w
  inv := World.Capped
  change := Admission
  rely _ _ := True
  refl _ := trivial
  trans _ _ := trivial

/-- In the room, the members and their roles are the same. -/
structure SameRoles (r : RoomId) (w w' : World) : Prop where
  players : (w'.room r).players = (w.room r).players
  isSpectator : ∀ p ∈ (w.room r).players, (w'.player r p).isSpectator = (w.player r p).isSpectator
  isProxy : (w'.room r).isProxy = (w.room r).isProxy

theorem SameRoles.activePlayers (h : SameRoles r w w') : w'.activePlayers r =
    w.activePlayers r := by
  rw [World.activePlayers, World.activePlayers, h.players]
  exact List.filter_congr fun p hp => by rw [h.isSpectator p hp]

theorem SameRoles.spectators (h : SameRoles r w w') : w'.spectators r = w.spectators r := by
  rw [World.spectators, World.spectators, h.players]
  exact List.filter_congr fun p hp => h.isSpectator p hp

theorem World.CappedIn.same (hw : w.CappedIn r) (h : SameRoles r w w')
    (hnext : w.nextUuid ≤ w'.nextUuid) : w'.CappedIn r where
  nodup := h.players ▸ hw.nodup
  known p hp := (hw.known p (h.players ▸ hp)).mono hnext
  active hown := h.activePlayers ▸ hw.active (h.isProxy ▸ hown)
  spectators hown := h.spectators ▸ hw.spectators (h.isProxy ▸ hown)

/-- In all rooms the members and their roles are the same. -/
theorem admitting_same (hnext : w'.nextRoom = w.nextRoom) (huuid : w.nextUuid ≤ w'.nextUuid)
    (h : w.Capped → ∀ r < w.nextRoom, SameRoles r w w') (hw : w.Capped) :
    w'.Capped ∧ Admission w w' := by
  refine ⟨fun r hr => ?_, fun r hr _ hlt => ?_⟩
  · rw [hnext] at hr
    exact (hw r hr).same (h hw r hr) huuid
  · rw [(h hw r hr).activePlayers] at hlt
    exact absurd hlt (lt_irrefl _)

/-- The parts of the state that members and roles are not among. -/
abbrev rolelessEffs : List Eff :=
  [.state, .schedule, .turn, .timers, .pending, .autoSelect, .countdown, .players, .connection,
    .cleanup, .guessed, .names, .roles, .clock, .ending, .disconnecting, .raises]

theorem admitting_change (h : (fp rolelessEffs).change w w') (hw : w.Capped) :
    w'.Capped ∧ Admission w w' := by
  refine admitting_same (same_of_fp h .rooms (by decide)).world.2 h.1.nextUuid
    (fun hw r hr => ⟨?_, fun p hp => ?_, ?_⟩) hw
  · exact (same_of_fp h .members (by decide)).room r hr
  · exact (same_of_fp h .spectator (by decide)).player r hr p ((hw r hr).known p hp)
  · exact (same_of_fp h .rooms (by decide)).room r hr

instance (priority := low) {α : Type} (c : M α) [hc : Within (fp rolelessEffs) c] :
    Guarded admitting c := .of_within hc fun _ _ _ hchange hw =>
    ⟨⟨(admitting_change hchange hw.inv).1, trivial⟩, (admitting_change hchange hw.inv).2⟩

/-- A call from a state in which the rooms are capped. -/
theorem guarded_of_capped {α : Type} {c : M α}
    (hc : ∀ {w₀ w : World}, w.Capped → c.Guards admitting (fun _ _ w' => w'.Capped) w₀ w) :
    Guarded admitting c :=
  ⟨fun h => (hc h.inv).mono fun _ _ _ hw => ⟨hw, trivial⟩⟩

theorem World.Capped.out {α : Type} {c : M α} [hc : Guarded admitting c]
    (hw : w.Capped) : c.Guards admitting (fun _ _ w' => w'.Capped) w₀ w :=
  (hc.out ⟨hw, trivial⟩).mono fun _ _ _ h => h.inv

/-- What follows a call that leaves the rooms capped. -/
theorem capped_then {α β : Type} {c : M α} {f : α → M β} [∀ a, Guarded admitting (f a)]
    (hc : c.Guards admitting (fun _ _ w' => w'.Capped) w₀ w) :
    (c >>= f).Guards admitting (fun _ _ w' => w'.Capped) w₀ w :=
  guards_bind.mpr (hc.mono fun _ _ _ hw => hw.out)

/-! ## Admissions -/

/-- There is room for one more in the role. -/
def World.Free (w : World) (r : RoomId) (isSpectator : Bool) : Prop :=
  r < w.nextRoom → (w.room r).isProxy = false →
      if isSpectator then ¬w.spectatorsFull r else ¬w.playersFull r

/-- A new player object changes nobody's role. -/
theorem sameRoles_newPlayer (make : PlayerId → Player) (hw : w.Capped) (hr : r' < w.nextRoom) :
    SameRoles r' w ((Update.newPlayer r make).apply w) where
  players := rfl
  isProxy := rfl
  isSpectator q hq := by
    have hne : q ≠ .uuid w.nextUuid := by
      rintro rfl
      exact lt_irrefl _ ((hw r' hr).known _ hq)
    simp [Update.apply, hne]

theorem admitting_newPlayer (make : PlayerId → Player) (hw : w.Capped) :
    ((Update.newPlayer r make).apply w).Capped ∧
      Admission w ((Update.newPlayer r make).apply w) :=
  admitting_same rfl (Nat.le_succ _) (fun hw _ hr => sameRoles_newPlayer make hw hr) hw

/-- **A player is added** to a room that has room for one more. -/
theorem admitting_addPlayer (hw : w.Capped) (hp : p ∉ (w.room r).players) (hknown : w.Known p)
    (hfree : w.Free r (w.player r p).isSpectator) :
    ((Update.room r (.addPlayer p)).apply w).Capped ∧
      Admission w ((Update.room r (.addPlayer p)).apply w) := by
  have hother : ∀ r', r' ≠ r → SameRoles r' w ((Update.room r (.addPlayer p)).apply w) := by
    intro r' hne
    exact ⟨by simp [Update.apply, Function.update_of_ne hne], fun _ _ => rfl,
      by simp [Update.apply, Function.update_of_ne hne]⟩
  have hproxy : (((Update.room r (.addPlayer p)).apply w).room r).isProxy = (w.room r).isProxy := by
    simp [Update.apply, RoomUpdate.apply]
  have hplayers : (((Update.room r (.addPlayer p)).apply w).room r).players =
      (w.room r).players ++ [p] := by
    simp [Update.apply, RoomUpdate.apply]
  have hactive : ((Update.room r (.addPlayer p)).apply w).activePlayers r =
      w.activePlayers r ++ [p].filter fun q => !(w.player r q).isSpectator := by
    rw [World.activePlayers, hplayers, List.filter_append]
    rfl
  have hspectators : ((Update.room r (.addPlayer p)).apply w).spectators r =
      w.spectators r ++ [p].filter fun q => (w.player r q).isSpectator := by
    rw [World.spectators, hplayers, List.filter_append]
    rfl
  refine ⟨fun r' hr' => ?_, fun r' hr' hown hlt => ?_⟩
  · by_cases hne : r' = r
    · subst hne
      have hin := hw r' hr'
      have hfree := hfree hr'
      refine ⟨?_, fun q hq => ?_, fun hown => ?_, fun hown => ?_⟩
      · rw [hplayers]
        exact hin.nodup.append (List.nodup_singleton p) (by simpa using hp)
      · rw [hplayers, List.mem_append, List.mem_singleton] at hq
        rcases hq with hq | rfl
        · exact hin.known q hq
        · exact hknown
      · rw [hproxy] at hown
        have hactive' := hin.active hown
        have hfree := hfree hown
        rw [hactive, List.length_append]
        cases hrole : (w.player r' p).isSpectator with
        | true => simpa [hrole] using hactive'
        | false =>
          rw [hrole] at hfree
          have hfree : ¬w.playersFull r' := hfree
          rw [World.playersFull] at hfree
          simp only [List.filter_cons, hrole, List.filter_nil]
          simp
          omega
      · rw [hproxy] at hown
        have hspectators' := hin.spectators hown
        have hfree := hfree hown
        rw [hspectators, List.length_append]
        cases hrole : (w.player r' p).isSpectator with
        | true =>
          rw [hrole] at hfree
          have hfree : ¬w.spectatorsFull r' := hfree
          rw [World.spectatorsFull] at hfree
          simp [hrole]
          omega
        | false => simpa [hrole] using hspectators'
    · exact (hw r' hr').same (hother r' hne) le_rfl
  · by_cases hne : r' = r
    · subst hne
      cases hrole : (w.player r' p).isSpectator with
      | true =>
        rw [hactive] at hlt
        simp [hrole] at hlt
      | false =>
        have hfree := hfree hr' hown
        rwa [hrole] at hfree
    · rw [(hother r' hne).activePlayers] at hlt
      exact absurd hlt (lt_irrefl _)

/-- **A new player is added** to a room that has room for one more. -/
theorem admitting_new (make : PlayerId → Player) (hw : w.Capped)
    (hfree : w.Free r (make (.uuid w.nextUuid)).isSpectator) :
    ((Update.room r (.addPlayer (.uuid w.nextUuid))).apply
        ((Update.newPlayer r make).apply w)).Capped ∧
      Admission ((Update.newPlayer r make).apply w)
        ((Update.room r (.addPlayer (.uuid w.nextUuid))).apply
          ((Update.newPlayer r make).apply w)) := by
  have hcapped := (admitting_newPlayer (r := r) make hw).1
  by_cases hr : r < w.nextRoom
  · have hsame := sameRoles_newPlayer (r := r) make hw hr
    refine admitting_addPlayer hcapped (fun hp => ?_) (Nat.lt_succ_self _) fun _ hown => ?_
    · exact lt_irrefl _ ((hw r hr).known _ hp)
    · have hfree := hfree hr hown
      have hrole : (((Update.newPlayer r make).apply w).player r (.uuid w.nextUuid)) =
          make (.uuid w.nextUuid) := by
        simp [Update.apply]
      rw [hrole, World.spectatorsFull, World.playersFull, hsame.spectators, hsame.activePlayers]
      exact hfree
  · -- the room does not exist
    refine ⟨fun r' hr' => ?_, fun r' hr' _ hlt => ?_⟩
    · have hne : r' ≠ r := fun h => hr (h ▸ hr')
      exact (hcapped r' hr').same ⟨by simp [Update.apply, Function.update_of_ne hne],
        fun _ _ => rfl, by simp [Update.apply, Function.update_of_ne hne]⟩ le_rfl
    · have hne : r' ≠ r := fun h => hr (h ▸ hr')
      have hsame : SameRoles r' ((Update.newPlayer r make).apply w)
          ((Update.room r (.addPlayer (.uuid w.nextUuid))).apply
            ((Update.newPlayer r make).apply w)) :=
        ⟨by simp [Update.apply, Function.update_of_ne hne], fun _ _ => rfl,
          by simp [Update.apply, Function.update_of_ne hne]⟩
      rw [hsame.activePlayers] at hlt
      exact absurd hlt (lt_irrefl _)

/-- Fewer players. -/
theorem admitting_removePlayer (r : RoomId) (p : PlayerId) (hw : w.Capped) :
    ((Update.room r (.removePlayer p)).apply w).Capped ∧
      Admission w ((Update.room r (.removePlayer p)).apply w) := by
  have hsub : ∀ r', (((Update.room r (.removePlayer p)).apply w).room r').players.Sublist
      (w.room r').players := by
    intro r'
    by_cases hne : r' = r
    · subst hne
      simp [Update.apply, RoomUpdate.apply]
    · simp [Update.apply, Function.update_of_ne hne]
  have hactive : ∀ r', (((Update.room r (.removePlayer p)).apply w).activePlayers r').length ≤
      (w.activePlayers r').length := fun r' => ((hsub r').filter _).length_le
  have hproxy : ∀ r', (((Update.room r (.removePlayer p)).apply w).room r').isProxy =
      (w.room r').isProxy := by
    intro r'
    by_cases hne : r' = r
    · subst hne
      simp [Update.apply, RoomUpdate.apply]
    · simp [Update.apply, Function.update_of_ne hne]
  refine ⟨fun r' hr' => ?_, fun r' _ _ hlt => absurd (hactive r') (Nat.not_le.mpr hlt)⟩
  have hin := hw r' hr'
  exact ⟨hin.nodup.sublist (hsub r'), fun q hq => hin.known q ((hsub r').subset hq),
    fun hown => (hactive r').trans (hin.active (hproxy r' ▸ hown)),
    fun hown => ((hsub r').filter _).length_le.trans (hin.spectators (hproxy r' ▸ hown))⟩

/-- Two tests that agree but for one element. -/
theorem length_filter_le_succ {α : Type} {l : List α} {f g : α → Bool} (a : α) (hl : l.Nodup)
    (hfg : ∀ b ∈ l, b ≠ a → f b = g b) : (l.filter f).length ≤ (l.filter g).length + 1 := by
  have hsub : l.filter f ⊆ a :: l.filter g := by
    intro b hb
    obtain ⟨hmem, hf⟩ := List.mem_filter.mp hb
    by_cases hba : b = a
    · exact hba ▸ List.mem_cons_self
    · exact List.mem_cons_of_mem _ (List.mem_filter.mpr ⟨hmem, hfg b hmem hba ▸ hf⟩)
  exact ((hl.filter f).subperm hsub).length_le

/-- **A spectator becomes a player** of a room that has room for one more. -/
theorem admitting_promote (p : PlayerId) (hw : w.Capped) (hfree : w.Free r false) :
    ((Update.player r p (.isSpectator false)).apply w).Capped ∧
      Admission w ((Update.player r p (.isSpectator false)).apply w) := by
  have hother : ∀ r', r' ≠ r →
      SameRoles r' w ((Update.player r p (.isSpectator false)).apply w) := by
    intro r' hne
    exact ⟨rfl, fun q _ => by simp [Update.apply, hne], rfl⟩
  have hrole : ∀ q, q ≠ p → (((Update.player r p (.isSpectator false)).apply w).player r q) =
      w.player r q := fun q hq => by simp [Update.apply, hq]
  have hplayer : (((Update.player r p (.isSpectator false)).apply w).player r p).isSpectator =
      false := by
    simp [Update.apply, PlayerUpdate.apply]
  refine ⟨fun r' hr' => ?_, fun r' hr' hown hlt => ?_⟩
  · by_cases hne : r' = r
    · subst hne
      have hin := hw r' hr'
      have hfree : (w.room r').isProxy = false → ¬w.playersFull r' := hfree hr'
      have hactive : (((Update.player r' p (.isSpectator false)).apply w).activePlayers r').length ≤
          (w.activePlayers r').length + 1 :=
        length_filter_le_succ p hin.nodup fun q _ hq => by rw [hrole q hq]
      have hspectators :
          (((Update.player r' p (.isSpectator false)).apply w).spectators r').length ≤
          (w.spectators r').length := by
        refine (List.monotone_filter_right _ fun q hq => ?_).length_le
        by_cases hqp : q = p
        · rw [hqp, hplayer] at hq
          cases hq
        · rwa [hrole q hqp] at hq
      refine ⟨hin.nodup, hin.known, fun hown => ?_, fun hown =>
        hspectators.trans (hin.spectators hown)⟩
      have hfree := hfree hown
      rw [World.playersFull] at hfree
      omega
    · exact (hw r' hr').same (hother r' hne) le_rfl
  · by_cases hne : r' = r
    · subst hne
      exact hfree hr' hown
    · rw [(hother r' hne).activePlayers] at hlt
      exact absurd hlt (lt_irrefl _)

/-! ## The functions that admit players -/

/-- An assignment that touches neither members nor roles. -/
theorem admitting_put (u : Update) (hu : ∀ x ∈ u.effs, x ∈ rolelessEffs) (hw : w.Capped) :
    (u.apply w).Capped ∧ Admission w (u.apply w) :=
  admitting_change (fp_of_update u hu w) hw

theorem guards_admitPlayer {code name : String} {ws : WsId} {avatar : Option String}
    {isSpectator : Bool} (hw : w.Capped) (hfree : w.Free r isSpectator) :
    (admitPlayer r code name ws avatar isSpectator).Guards admitting (fun _ _ w' => w'.Capped)
    w₀ w := by
  unfold admitPlayer
  simp only [guards_bind, guards_newPlayer, guards_mark, guards_put, guards_pure]
  have hnew := admitting_new (r := r) (fun p =>
    { id := p, name := name, websocket := some ws, avatar := avatar, isSpectator := isSpectator })
        hw hfree
  have hindex := admitting_put (.playerToRoom (.uuid w.nextUuid) (some code)) (by simp) hnew.1
  have hws := admitting_put (.wsToPlayer ws (some (.uuid w.nextUuid, code))) (by simp) hindex.1
  exact ⟨(admitting_newPlayer _ hw).2, fun _ => ⟨hnew.2, hindex.2, hws.2, hws.1⟩⟩

theorem guards_admitRemote {code name : String} {avatar : Option String} {isSpectator : Bool}
    (hw : w.Capped) (hfree : w.Free r isSpectator) :
    (admitRemote r code name avatar isSpectator).Guards admitting (fun _ _ w' => w'.Capped)
    w₀ w := by
  unfold admitRemote
  simp only [guards_bind, guards_newPlayer, guards_mark, guards_put, guards_pure]
  have hnew := admitting_new (r := r) (fun p =>
    { id := p, name := name, avatar := avatar, isSpectator := isSpectator }) hw hfree
  have hindex := admitting_put (.playerToRoom (.uuid w.nextUuid) (some code)) (by simp) hnew.1
  exact ⟨(admitting_newPlayer _ hw).2, fun _ => ⟨hnew.2, hindex.2, hindex.1⟩⟩

instance (env : Env) (r : RoomId) (code name : String) (ws : WsId) (avatar : Option String)
    (asSpectator : Bool) (password : Option String) :
    Guarded admitting (joinRoomLocal env r code name ws avatar asSpectator password) :=
  guarded_of_capped fun {w₀ w} hw => by
    unfold joinRoomLocal
    rw [guards_bind, guards_read, guards_elim]
    refine ⟨fun _ => ?_, fun _ _ => hw⟩
    rw [guards_ite, guards_ite, guards_ite]
    refine ⟨fun _ => hw.out, fun _ => ⟨fun _ => hw, fun hplayers => ⟨fun _ => hw,
      fun hspectators => ?_⟩⟩⟩
    refine capped_then (guards_admitPlayer hw fun _ _ => ?_)
    cases asSpectator with
    | true => exact fun hfull => hspectators ⟨rfl, hfull⟩
    | false => exact fun hfull => hplayers ⟨rfl, hfull⟩

instance (env : Env) (code name : String) (avatar : Option String) (asSpectator : Bool)
    (password : Option String) :
    Guarded admitting (handleRpcJoin env code name avatar asSpectator password) :=
  guarded_of_capped fun {w₀ w} hw => by
    unfold handleRpcJoin
    rw [guards_bind, guards_read, guards_elim]
    refine ⟨fun _ => hw, fun r _ => ?_⟩
    rw [guards_elim]
    refine ⟨fun _ => ?_, fun _ _ => hw⟩
    rw [guards_ite, guards_ite, guards_ite]
    refine ⟨fun _ => hw,
      fun _ => ⟨fun _ => hw, fun hplayers => ⟨fun _ => hw, fun hspectators => ?_⟩⟩⟩
    refine capped_then (guards_admitRemote hw fun _ _ => ?_)
    cases asSpectator with
    | true => exact fun hfull => hspectators ⟨rfl, hfull⟩
    | false => exact fun hfull => hplayers ⟨rfl, hfull⟩

/-- The rooms are capped, and the room `r` has room for one more in the role. -/
structure Held (r : RoomId) (isSpectator : Bool) (w : World) : Prop where
  capped : w.Capped
  free : w.Free r isSpectator

/-- An assignment to a request, an index or a task. -/
theorem Held.put {b : Bool} (h : Held r b w) (u : Update) (hu : ∀ x ∈ u.effs, x ∈ [Eff.roles]) :
    Admission w (u.apply w) ∧ Held r b (u.apply w) := by
  have hchange := fp_of_update u hu w
  obtain ⟨hcapped, hadmission⟩ := admitting_put u (fun x hx => by
    rw [List.mem_singleton.mp (hu x hx)]
    decide) h.capped
  refine ⟨hadmission, hcapped, fun hr hown => ?_⟩
  have hr : r < w.nextRoom := (same_of_fp hchange .rooms (by decide)).world.2 ▸ hr
  have hroles : SameRoles r w (u.apply w) :=
    ⟨(same_of_fp hchange .members (by decide)).room r hr, fun p hp =>
      (same_of_fp hchange .spectator (by decide)).player r hr p ((h.capped r hr).known p hp),
      (same_of_fp hchange .rooms (by decide)).room r hr⟩
  have hconfig := ((same_of_fp hchange .schedule (by decide)).room r hr).2.2
  have hfree := h.free hr (hroles.isProxy ▸ hown)
  rwa [World.spectatorsFull, World.playersFull, hroles.spectators, hroles.activePlayers, hconfig]

theorem Held.cancel {b : Bool} (h : Held r b w) (kind : TaskKind) (n : Option Nat)
    (hkind : kind.effs = []) : (cancel kind n).Guards admitting (fun _ _ w' => Held r b w')
    w₀ w := by
  unfold Backend.cancel
  rw [guards_elim]
  exact ⟨fun _ => h, fun n _ => h.put (.cancel ⟨kind, n⟩) (by simp [hkind])⟩

theorem Held.dropJoinRequest {b : Bool} (h : Held r b w) (request : PendingJoinRequest) :
    (dropJoinRequest request).Guards admitting (fun _ _ w' => Held r b w') w₀ w := by
  unfold Backend.dropJoinRequest
  simp only [guards_bind, guards_read, guards_put, guards_elim, guards_pure]
  have h₁ := h.put (.pendingJoinRequests (w.pendingJoinRequests.filter (·.1 ≠ request.requestId)))
    (by simp)
  have h₂ := h₁.2.put (.wsToPendingRequest request.websocket none) (by simp)
  exact ⟨h₁.1, h₂.1, fun _ => h₂.2, fun r' _ => h₂.2.put (.room r' (.pendingJoinRequests _))
    (by simp)⟩

theorem Held.dropRoleRequest {b : Bool} (h : Held r b w) (r' : RoomId) (requestId : RequestId) :
    (dropRoleRequest r' requestId).Guards admitting (fun _ _ w' => Held r b w') w₀ w := by
  unfold Backend.dropRoleRequest
  simp only [guards_bind, guards_read, guards_put]
  have h₁ := h.put (.pendingSpectatorRoleRequests
    (w.pendingSpectatorRoleRequests.filter (·.1 ≠ requestId))) (by simp)
  exact ⟨h₁.1, h₁.2.put (.room r' (.pendingSpectatorRoleRequests _)) (by simp)⟩

theorem Held.cancelRoleTimeout {b : Bool} (h : Held r b w) (x : PendingSpectatorRoleRequest) :
    (cancelRoleTimeout x).Guards admitting (fun _ _ w' => Held r b w') w₀ w := by
  unfold Backend.cancelRoleTimeout
  rw [guards_elim]
  exact ⟨fun _ => h, fun t _ => h.cancel _ _ rfl⟩

theorem Held.getPlayer {b : Bool} (h : Held r b w) (r' : RoomId) (p : PlayerId) :
    (getPlayer r' p).Guards admitting (fun _ _ w' => Held r b w') w₀ w := by
  unfold Backend.getPlayer
  rw [guards_bind, guards_readRoom, guards_ite, guards_ite]
  exact ⟨fun _ => h, fun _ => ⟨fun _ => h.put (.room r' (.playersById p)) (by simp), fun _ => h⟩⟩

theorem guards_promoteSpectator {p : PlayerId} {requestId : RequestId} (h : Held r false w) :
    (promoteSpectator r p requestId).Guards admitting (fun _ _ w' => w'.Capped) w₀ w := by
  unfold promoteSpectator
  rw [guards_bind, guards_put]
  obtain ⟨hcapped, hadmission⟩ := admitting_promote p h.capped h.free
  exact ⟨hadmission, hcapped.out⟩

instance (hostPlayerId : PlayerId) (requestId : RequestId) (action : String) :
    Guarded admitting (respondJoinRequest hostPlayerId requestId action) :=
  guarded_of_capped fun {w₀ w} hw => by
    unfold respondJoinRequest
    rw [guards_bind, guards_read, guards_elim]
    refine ⟨fun _ => hw, fun request _ => ?_⟩
    rw [guards_elim]
    refine ⟨fun _ => hw, fun r _ => ?_⟩
    rw [guards_ite, guards_ite, guards_ite, guards_ite]
    refine ⟨fun _ => hw, fun _ => ⟨fun _ => hw.out, fun _ => ⟨fun _ => hw, fun hplayers =>
      ⟨fun _ => hw, fun hspectators => ?_⟩⟩⟩⟩
    have hheld : Held r (decide (action = "accept_spectator")) w := by
      refine ⟨hw, fun _ _ => ?_⟩
      by_cases haction : action = "accept_spectator"
      · simp only [haction, decide_true, if_true]
        exact fun hfull => hspectators ⟨haction, hfull⟩
      · simp only [haction, decide_false]
        exact fun hfull => hplayers ⟨haction, hfull⟩
    unfold admitRequester
    dsimp only
    rw [guards_bind]
    refine (hheld.cancel _ _ rfl).mono fun _ _ w₁ h₁ => ?_
    rw [guards_bind]
    refine (h₁.dropJoinRequest request).mono fun _ _ w₂ h₂ => ?_
    rw [guards_bind, guards_readRoom]
    exact capped_then (guards_admitPlayer h₂.capped h₂.free)

instance (hostPlayerId : PlayerId) (requestId : RequestId) (action : String) :
    Guarded admitting (respondSpectatorRoleRequest hostPlayerId requestId action) :=
  guarded_of_capped fun {w₀ w} hw => by
    unfold respondSpectatorRoleRequest
    rw [guards_bind, guards_read, guards_elim]
    refine ⟨fun _ => hw, fun request _ => ?_⟩
    rw [guards_elim]
    refine ⟨fun _ => hw, fun r _ => ?_⟩
    rw [guards_ite]
    refine ⟨fun _ => hw, fun _ => ?_⟩
    by_cases hfull : w.playersFull r
    · simp only [hfull, if_true]
      exact hw.out
    · simp only [hfull, if_false]
      have hheld : Held r false w := ⟨hw, fun _ _ => hfull⟩
      rw [guards_bind]
      refine (hheld.cancelRoleTimeout request).mono fun _ _ w₁ h₁ => ?_
      rw [guards_bind]
      refine (h₁.dropRoleRequest r requestId).mono fun _ _ w₂ h₂ => ?_
      rw [guards_bind]
      refine (h₂.getPlayer r request.playerId).mono fun found _ w₃ h₃ => ?_
      rw [guards_bind, guards_readPlayer, guards_ite, guards_ite]
      exact ⟨fun _ => h₃.capped.out, fun _ => ⟨fun _ => h₃.capped, fun _ =>
        guards_promoteSpectator h₃⟩⟩

instance (r : RoomId) (p : PlayerId) : Guarded admitting (dropPlayer r p) :=
  guarded_of_capped fun {w₀ w} hw => by
    unfold dropPlayer
    simp only [guards_bind, guards_mark, guards_put]
    intro _
    obtain ⟨hcapped, hadmission⟩ := admitting_removePlayer r p hw
    have hindex := admitting_put (.playerToRoom p none) (by simp) hcapped
    exact ⟨hadmission, hindex.2, hindex.1⟩

/-- Registering rooms changes nobody's role. -/
theorem admitting_rooms (l : List (String × RoomId)) (hw : w.Capped) :
    ((Update.rooms l).apply w).Capped ∧ Admission w ((Update.rooms l).apply w) :=
  admitting_same rfl le_rfl (fun _ _ _ => ⟨rfl, fun _ _ => rfl, rfl⟩) hw

instance (l : List (String × RoomId)) : Guarded admitting (put (.rooms l)) where
  out hw := ⟨(admitting_rooms l hw.inv).2, (admitting_rooms l hw.inv).1, trivial⟩

/-- A room without players. -/
theorem admitting_newRoom {x : Room} (hx : x.players = []) (members : PlayerId → Player)
    (hw : w.Capped) : ((Update.newRoom x members).apply w).Capped ∧
      Admission w ((Update.newRoom x members).apply w) := by
  have hsame : ∀ r < w.nextRoom, SameRoles r w ((Update.newRoom x members).apply w) := by
    intro r hr
    exact ⟨by simp [Update.apply, Function.update_of_ne hr.ne],
      fun q _ => by simp [Update.apply, Function.update_of_ne hr.ne],
      by simp [Update.apply, Function.update_of_ne hr.ne]⟩
  refine ⟨fun r hr => ?_, fun r hr _ hlt => ?_⟩
  · by_cases hne : r = w.nextRoom
    · have hplayers : (((Update.newRoom x members).apply w).room r).players = [] := by
        simp [Update.apply, hne, hx]
      refine ⟨hplayers ▸ .nil, fun q hq => ?_, fun _ => ?_, fun _ => ?_⟩
      · rw [hplayers] at hq
        cases hq
      · simp [World.activePlayers, hplayers]
      · simp [World.spectators, hplayers]
    · exact (hw r (Nat.lt_of_le_of_ne (Nat.le_of_lt_succ hr) hne)).same
        (hsame r (Nat.lt_of_le_of_ne (Nat.le_of_lt_succ hr) hne)) le_rfl
  · rw [(hsame r hr).activePlayers] at hlt
    exact absurd hlt (lt_irrefl _)

instance (x : RoomSnapshot) : Guarded admitting (restoreRoom x) :=
  guarded_of_capped fun {w₀ w} hw => by
    unfold restoreRoom
    dsimp only
    rw [guards_bind, guards_read, guards_bind, guards_mark]
    exact fun hok => hok.elim

/-- The first player of a room. -/
theorem admitting_first (hw : w.Capped) (hempty : (w.room r).players = []) (hp : w.Known p) :
    ((Update.room r (.addPlayer p)).apply w).Capped ∧
      Admission w ((Update.room r (.addPlayer p)).apply w) := by
  refine admitting_addPlayer hw (by simp [hempty]) hp fun _ _ => ?_
  have hmax := (w.room r).config.maxPlayers.property.1
  split
  · simp [World.spectatorsFull, World.spectators, hempty]
  · simp [World.playersFull, World.activePlayers, hempty, maxPlayersHardCap]
    omega

instance (env : Env) (draws : List String) (name : String) (ws : WsId)
    (avatar password : Option String) (maxPlayers : Option Int) :
    Guarded admitting (createRoom env draws name ws avatar password maxPlayers) :=
  guarded_of_capped fun {w₀ w} hw => by
    unfold createRoom
    dsimp only
    rw [guards_bind, guards_read, guards_ite, guards_elim, guards_elim]
    refine ⟨fun _ => hw, fun _ => ⟨fun _ => ⟨fun _ => ⟨hw, trivial⟩, fun code _ => ?_⟩,
      fun _ _ => hw⟩⟩
    simp only [guards_bind, guards_newPlayer, guards_mark, guards_put]
    have hroom := admitting_newRoom (x := { code := code, hostId := .other "", config :=
      { password := env.newPassword password, maxPlayers := newMaxPlayers maxPlayers } }) rfl
      (fun p => { id := p, name := "" }) hw
    have hplayer := admitting_newPlayer (r := w.nextRoom)
      (fun p => { id := p, name := name, websocket := some ws, avatar := avatar }) hroom.1
    have hhost := admitting_put (.room w.nextRoom (.hostId (.uuid w.nextUuid))) (by simp) hplayer.1
    have hadd := admitting_first (r := w.nextRoom) (p := .uuid w.nextUuid) hhost.1
      (by simp [Update.apply, RoomUpdate.apply]) (Nat.lt_succ_self _)
    have hrooms := admitting_rooms (w.rooms ++ [(code, w.nextRoom)]) hadd.1
    have hindex := admitting_put (.playerToRoom (.uuid w.nextUuid) (some code)) (by simp) hrooms.1
    exact fun _ => ⟨hroom.2, hplayer.2, fun _ => ⟨hhost.2, hadd.2, hrooms.2, hindex.2,
      hindex.1.out⟩⟩

section Functions

variable (env : Env)

instance (p q : PlayerId) : Guarded admitting (kickPlayer p q) := by
  unfold kickPlayer; infer_instance

instance (r : RoomId) (p : PlayerId) :
    Guarded admitting (executeVoteKickPassed env r p) := by
  unfold executeVoteKickPassed; dsimp only; infer_instance

instance (p q : PlayerId) : Guarded admitting (startVoteKick env p q) := by
  unfold startVoteKick; dsimp only; infer_instance

instance (r : RoomId) (p : PlayerId) : Guarded admitting (kickTarget env r p) := by
  unfold kickTarget; infer_instance

instance (p : PlayerId) (yes : Bool) : Guarded admitting (castVoteKick env p yes) := by
  unfold castVoteKick; dsimp only; infer_instance

instance (r : RoomId) (p : PlayerId) :
    Guarded admitting (voteKickOnDisconnect env r p) := by
  unfold voteKickOnDisconnect; dsimp only; infer_instance

instance (code : String) : Guarded admitting (deleteRoom code) := by
  unfold deleteRoom; infer_instance

instance (r : RoomId) (p : PlayerId) : Guarded admitting (hostOnDisconnect r p) := by
  unfold hostOnDisconnect; infer_instance

instance (code : String) (p : PlayerId) :
    Guarded admitting (reassignHostIfDisconnected code p) := by
  unfold reassignHostIfDisconnected; infer_instance

instance (p : PlayerId) : Guarded admitting (handleDisconnect env p) := by
  unfold handleDisconnect; infer_instance

instance (p : PlayerId) : Guarded admitting (removePlayer p) := by
  unfold removePlayer; infer_instance

instance (p : PlayerId) : Guarded admitting (leaveRoom p) := by
  unfold leaveRoom; infer_instance

instance (p : PlayerId) : Guarded admitting (permanentlyRemovePlayer p) := by
  unfold permanentlyRemovePlayer; infer_instance

instance (p : PlayerId) : Guarded admitting (clientDisconnected env p) := by
  unfold clientDisconnected; infer_instance

instance (players : List PlayerId) : Guarded admitting (cleanupStream env players) := by
  unfold cleanupStream; infer_instance

instance (code : String) : Guarded admitting (adoptSnapshot code) := by
  unfold adoptSnapshot; infer_instance

instance (name code : String) (ws : WsId) (avatar : Option String) (asSpectator : Bool)
    (password : Option String) (remote : Option Message) :
    Guarded admitting (joinRoom env name code ws avatar asSpectator password remote) := by
  unfold joinRoom; infer_instance

instance (name code : String) (ws : WsId) (avatar : Option String) :
    Guarded admitting (handleReconnect name code ws avatar) := by
  unfold handleReconnect; dsimp only; infer_instance

instance (ws : WsId) (c : M Message) [Guarded admitting c] :
    Guarded admitting (answerIdentity ws c) := by unfold answerIdentity; infer_instance

instance (ws : WsId) (c : M Message) [Guarded admitting c] :
    Guarded admitting (answer ws c) := by unfold answer; infer_instance

instance (ws : WsId) (c : M Message) [Guarded admitting c] :
    Guarded admitting (answerError ws c) := by unfold answerError; infer_instance

instance (ws : WsId) (p : Option PlayerId) :
    Guarded admitting (websocketClosed env ws p) := by
  unfold websocketClosed; dsimp only; infer_instance

instance (o : Op) : Guarded admitting (o.call env) := by
  cases o <;> unfold Op.call <;> dsimp only <;> infer_instance

instance (o : OwnerOp) : Guarded admitting (o.call env) := by
  cases o <;> unfold OwnerOp.call <;> infer_instance

/-- A proxy has no players yet. -/
instance (code : String) (hostId : PlayerId) : Guarded admitting (proxyRoom code hostId) :=
  guarded_of_capped fun {w₀ w} hw => by
    unfold proxyRoom
    rw [guards_bind, guards_read, guards_elim]
    refine ⟨fun _ => ?_, fun _ _ => hw⟩
    simp only [guards_bind, guards_put, guards_pure]
    have hroom := admitting_newRoom (x := { code := code, hostId := hostId, isProxy := true }) rfl
      (fun p => { id := p, name := "" }) hw
    have hrooms := admitting_rooms (w.rooms ++ [(code, w.nextRoom)]) hroom.1
    exact ⟨hroom.2, hrooms.2, hrooms.1⟩

/-- The answer of another worker adds a player to a proxy. -/
instance (code name : String) (ws : WsId) (avatar : Option String) (response : Option Message) :
    Guarded admitting (joinRoomRemote code name ws avatar response) := by
  have hadd : ∀ r, Guarded admitting (do
      let p ← newPlayer r fun p => { id := p, name := name, websocket := some ws, avatar := avatar }
      mark (.connects r p (some ws))
      mark (.proxies r)
      put (.room r (.addPlayer p))
      put (.playerToRoom p (some code))
      return some p) := fun r => guarded_of_capped fun {w₀ w} hw => by
    simp only [guards_bind, guards_newPlayer, guards_mark, guards_put, guards_pure]
    refine ⟨(admitting_newPlayer _ hw).2, fun _ hproxy => ?_⟩
    have hproxy : (w.room r).isProxy = true := hproxy
    have hnew := admitting_new (r := r) (fun p =>
      { id := p, name := name, websocket := some ws, avatar := avatar }) hw
        fun _ hown => absurd hproxy (by simp [hown])
    have hindex := admitting_put (.playerToRoom (.uuid w.nextUuid) (some code)) (by simp) hnew.1
    exact ⟨hnew.2, hindex.2, hindex.1⟩
  unfold joinRoomRemote
  infer_instance

instance (code : String) (p : PlayerId) : Guarded admitting (proxyClosed env code p) := by
  unfold proxyClosed; infer_instance

instance (o : ClusterOp) : Guarded admitting (o.call env) := by
  cases o with
  | owner o => exact inferInstanceAs (Guarded admitting (o.call env))
  | proxyConnection code name ws avatar response =>
    unfold ClusterOp.call proxyConnection
    infer_instance

instance (t : TaskId) : Guarded admitting (taskBody env t) := by
  obtain ⟨kind, n⟩ := t
  cases kind <;> unfold taskBody <;> dsimp only <;> infer_instance

end Functions

theorem admitting_setStatus (t : TaskId) (status : TaskStatus) (hw : w.Capped) :
    (w.setStatus t status).Capped ∧ Admission w (w.setStatus t status) :=
  admitting_same rfl le_rfl (fun _ _ _ => ⟨rfl, fun _ _ => rfl, rfl⟩) hw

/-- Everything keeps rooms capped. -/
theorem clustered_admitting (env : Env) : (clustered env).Guards admitting :=
  .of_body (fun o => inferInstanceAs (Guarded admitting (o.call env)))
    (fun t => inferInstanceAs (Guarded admitting (taskBody env t)))
    (fun t _ _ hw => (admitting_setStatus t .running hw.inv).imp_left fun h => ⟨h, trivial⟩)
    fun t _ _ hw => (admitting_setStatus t .done hw.inv).imp_left fun h => ⟨h, trivial⟩

/-! ## Runs -/

/-- **Rooms are capped.**  In every run in which no room is restored and the answer of another
worker finds a proxy under the code or no room, whenever no coroutine is running, every room that
this worker owns has at most 12 active players and at most 50 spectators, and in every step in which
the number of its active players grows it was below `max_players` and 12. -/
theorem capped_of_run {env : Env} {transport : WsId → Transport} {redis : Bool} {oracle : List Nat}
    {snapshots : String → Option RoomSnapshot} {c : Config World Frame Mark TaskId}
    (h : (clustered env).Run bounded
    (startConfig (World.start transport redis oracle snapshots)) c) :
    (c.running = none → ∀ r < c.state.nextRoom, (c.state.room r).isProxy = false →
      (c.state.activePlayers r).length ≤ 12 ∧ (c.state.spectators r).length ≤ 50) ∧
    ∀ c', (clustered env).Step bounded c c' → ∀ r < c.state.nextRoom,
      (c.state.room r).isProxy = false →
      (c.state.activePlayers r).length < (c'.state.activePlayers r).length →
      (c.state.activePlayers r).length < min (c.state.room r).config.maxPlayers.val 12 := by
  have hok : ∀ e (v : View World Frame Mark), bounded (.mark e) v → admitting.ok e v.state :=
    fun _ _ he => he
  have hstart : Loop.Guarding admitting
      (startConfig (World.start transport redis oracle snapshots)) :=
    Loop.guarding_of_quiet rfl rfl fun r hr => absurd hr (Nat.not_lt_zero r)
  have hc := (clustered_admitting env).run hok h hstart
  refine ⟨fun hidle r hr hown => ?_, fun c' hstep r hr hown hlt => ?_⟩
  · have hin : c.state.CappedIn r := hc.idle hidle r hr
    exact ⟨hin.active hown, hin.spectators hown⟩
  · rcases ((clustered_admitting env).step hok hstep hc).2 with hsame | hadmission
    · rw [hsame] at hlt
      exact absurd hlt (lt_irrefl _)
    · exact Nat.not_le.mp (hadmission r hr hown hlt)

/-- A worker with Redis. -/
def sharedWorld : World := World.start (fun _ => {}) true [] fun _ => none

/-- What the owner of a room answers to somebody who joins it. -/
def sampleAnswer (code : String) : Message :=
  .roomJoined {
    roomCode := code
    playerId := .other "joiner"
    players := []
    config := serializeConfig {}
    state := .lobby
    isSpectator := false
    currentRound := 0
    totalRounds := 3
    hostId := .other "host"
    drawerId := none
    hint := []
    duration := none
    theme := none }

/-- A player from another worker joins, and one of this worker a room of another one. -/
theorem capped_sample : ∃ c, (clustered sampleEnv).Run bounded (startConfig sharedWorld) c ∧
    (c.state.activePlayers 0).length = 2 ∧ (c.state.activePlayers 1).length = 1 ∧
    (c.state.spectators 0).length ≤ 50 := by
  have hplay : ((clustered sampleEnv).play bounded (startConfig sharedWorld)
      [(.call (.owner (.own (.createRoom ["ROOM01"] "p0" 0 none none none))), []),
        (.call (.owner (.rpcJoin "ROOM01" "p1" none false none)), []),
        (.call (.proxyConnection "ROOM02" "p2" 2 none (some (sampleAnswer "ROOM02"))),
          [false, false, false, true])]).any
          (fun c => (c.state.activePlayers 0).length = 2 ∧ (c.state.activePlayers 1).length = 1 ∧
            0 < c.state.nextRoom ∧ (c.state.room 0).isProxy = false) = true := by
    decide +kernel
  obtain ⟨c, hrun, hidle, hc⟩ := Loop.exists_run_of_play rfl hplay
  obtain ⟨hactive, hproxy, hroom, hown⟩ := of_decide_eq_true hc
  exact ⟨c, hrun, hactive, hproxy, ((capped_of_run hrun).1 hidle 0 hroom hown).2⟩

/-- A player asks for a room of another worker; before the answer comes, a room of this worker gets
the same code and twelve players. -/
def codeDrawnTwice : List (Loop.Choice TaskId ClusterOp × List Bool) :=
  (.call (.proxyConnection "ROOM01" "late" 99 none (some (sampleAnswer "ROOM01"))),
    [false, false, true]) ::
    (.call (.owner (.own (.createRoom ["ROOM01"] "p0" 0 none none none))), []) ::
    ((List.range 11).map fun i =>
      (.call (.owner (.own (.joinRoom "p" "ROOM01" (i + 1) none false none none))), [])) ++
    [(.resume 0, [true])]

/-- **A thirteenth player**: it is added to the room of this worker. -/
theorem overfull : ¬∀ c, (clustered sampleEnv).Run unrestored (startConfig sharedWorld) c →
    c.running = none → ∀ r < c.state.nextRoom, (c.state.room r).isProxy = false →
      (c.state.activePlayers r).length ≤ 12 := by
  intro h
  have hplay : ((clustered sampleEnv).play unrestored (startConfig sharedWorld)
      codeDrawnTwice).any (fun c => (c.state.activePlayers 0).length = 13 ∧
        0 < c.state.nextRoom ∧ (c.state.room 0).isProxy = false) = true := by
    decide +kernel
  obtain ⟨c, hrun, hidle, hc⟩ := Loop.exists_run_of_play rfl hplay
  obtain ⟨hactive, hroom, hown⟩ := of_decide_eq_true hc
  exact absurd (h c hrun hidle 0 hroom hown) (by simp [hactive])

end Skribbl.Backend
