import Skribbl.Backend.Worker

/-!
# Invariants of a worker

Most of what a worker runs does not touch what an invariant is about.

* `plainEffs`, `Plain` — the parts that the game itself writes, and the invariants that these keep.
* `freshIds` — `uuid4` does not return an id that is in use.
* `World.Sound` — the maps of a worker hold existing rooms and players.

Principal results: `worker_keeps` — an invariant of the worker follows from its being kept by the
functions that create, delete, join, leave, disconnect and reconnect; `sound_of_run` — every state
that a worker reaches is sound.
-/

set_option autoImplicit false
set_option synthInstance.maxSize 100000

namespace Skribbl.Backend

open Coro

variable {X : Setting World Frame Mark}

/-! ## Plain functions -/

/-- What the game writes, except for rooms, members and connections. -/
abbrev plainEffs : List Eff :=
  [.state, .schedule, .turn, .timers, .pending, .autoSelect, .countdown, .guessed, .spectator,
    .names, .roles, .clock, .ending, .raises]

/-- The invariant is kept by whatever writes only these parts. -/
class Plain (X : Setting World Frame Mark) : Prop where
  out : X.Keeps (fp plainEffs)

instance (priority := low) {α : Type} (c : M α) [h : Plain X] [hc : Within (fp plainEffs) c] :
    Stable X c := .of_within hc h.out

section Functions

variable [Plain X] [∀ r p, Stable X (dropPlayer r p)]

instance (p q : PlayerId) : Stable X (kickPlayer p q) := by unfold kickPlayer; infer_instance

instance (env : Env) (r : RoomId) (p : PlayerId) : Stable X (executeVoteKickPassed env r p) := by
  unfold executeVoteKickPassed; dsimp only; infer_instance

instance (env : Env) (p q : PlayerId) : Stable X (startVoteKick env p q) := by
  unfold startVoteKick; dsimp only; infer_instance

instance (env : Env) (r : RoomId) (p : PlayerId) : Stable X (kickTarget env r p) := by
  unfold kickTarget; infer_instance

instance (env : Env) (p : PlayerId) (yes : Bool) : Stable X (castVoteKick env p yes) := by
  unfold castVoteKick; dsimp only; infer_instance

instance (env : Env) (r : RoomId) (p : PlayerId) : Stable X (voteKickOnDisconnect env r p) := by
  unfold voteKickOnDisconnect; dsimp only; infer_instance

variable [∀ code, Stable X (deleteRoom code)]

instance (p : PlayerId) : Stable X (removePlayer p) := by unfold removePlayer; infer_instance

instance (p : PlayerId) : Stable X (leaveRoom p) := by unfold leaveRoom; infer_instance

omit [∀ r p, Stable X (dropPlayer r p)] in
instance (r : RoomId) (p : PlayerId) : Stable X (hostOnDisconnect r p) := by
  unfold hostOnDisconnect; infer_instance

omit [∀ r p, Stable X (dropPlayer r p)] in
instance (code : String) (p : PlayerId) : Stable X (reassignHostIfDisconnected code p) := by
  unfold reassignHostIfDisconnected; infer_instance

instance (p : PlayerId) : Stable X (permanentlyRemovePlayer p) := by
  unfold permanentlyRemovePlayer; infer_instance

end Functions

/-! ## Lookups -/

/-- `_find_room_by_player` finds rooms in the map. -/
theorem findRoomByPlayer_wp {p : PlayerId} {R : Multiset Frame} {v : View World Frame Mark}
    {Q : Option RoomId → View World Frame Mark → Prop}
    (hQ : ∀ o w, (fp []).change v.state w → (∀ r, o = some r → ∃ code, (code, r) ∈ w.rooms) →
      Q o (v.set w)) : (findRoomByPlayer p).wp X R Q v := by
  unfold findRoomByPlayer
  simp only [wp_bind, wp_read, wp_elim, wp_put, wp_pure]
  refine ⟨fun _ => ⟨fun _ => hQ none _ (fp_refl _ _) fun r hr => ?_, fun x hx => ?_⟩,
    fun code _ => ?_⟩
  · cases hr
  · refine hQ (some x.2) _ (fp_trans (fp_of_update (.room x.2 (.playersById p)) (by simp) _)
      (fp_of_update (.playerToRoom p _) (by simp) _)) fun r hr => ⟨x.1, ?_⟩
    cases hr
    exact List.mem_of_find?_eq_some hx
  · refine hQ _ _ (fp_refl _ _) fun r hr => ?_
    obtain ⟨x, hx, rfl⟩ := Option.map_eq_some_iff.mp hr
    exact ⟨x.1, List.mem_of_find?_eq_some hx⟩

theorem mem_of_roomOf {w : World} {code : String} {r : RoomId} (h : w.roomOf code = some r) :
    ∃ code, (code, r) ∈ w.rooms := by
  obtain ⟨x, hx, rfl⟩ := Option.map_eq_some_iff.mp h
  exact ⟨x.1, List.mem_of_find?_eq_some hx⟩

/-- A room that exists still exists when a call has ended. -/
theorem wp_existing {r : RoomId} {S : List Eff} {α : Type} {c : M α} (hc : Within (fp S) c)
    (hX : X.rely = World.Extends) {R : Multiset Frame} {Q : α → View World Frame Mark → Prop}
    {v : View World Frame Mark} (hr : r < v.state.nextRoom) (h : c.wp X R Q v) :
    c.wp X R (fun a v' => Q a v' ∧ r < v'.state.nextRoom) v :=
  wp_carry (G := fun w => r < w.nextRoom) hc (fun _ _ hw hr => hr.trans_le hw.1.nextRoom)
    (fun _ _ hw hr => hr.trans_le (hX ▸ hw : World.Extends _ _).nextRoom) hr h

/-- A room that was just restored exists. -/
theorem restoreRoom_wp (hX : X.rely = World.Extends) {x : RoomSnapshot} {R : Multiset Frame}
    {v : View World Frame Mark} {Q : RoomId → View World Frame Mark → Prop}
    (h : (restoreRoom x).wp X R Q v) :
    (restoreRoom x).wp X R (fun r v' => Q r v' ∧ r < v'.state.nextRoom) v := by
  unfold restoreRoom at h ⊢
  dsimp only at h ⊢
  simp only [wp_bind, wp_read, wp_mark, wp_put, wp_pure] at h ⊢
  intro hm ho
  refine wp_mono (wp_existing (S := [.members]) inferInstance hX (Nat.lt_succ_self _) (h hm ho))
    fun _ v₁ h₁ => ?_
  exact wp_existing (S := [.turn]) inferInstance hX h₁.2 h₁.1

/-- A room that was just adopted exists. -/
theorem adoptSnapshot_wp (hX : X.rely = World.Extends) {code : String} {R : Multiset Frame}
    {v : View World Frame Mark} {Q : Option RoomId → View World Frame Mark → Prop}
    (h : (adoptSnapshot code).wp X R Q v) :
    (adoptSnapshot code).wp X R (fun o v' => Q o v' ∧ ∀ r, o = some r → r <
    v'.state.nextRoom) v := by
  unfold adoptSnapshot at h ⊢
  simp only [wp_bind, wp_read, wp_ite, wp_elim, wp_put, wp_pure] at h ⊢
  have hnone : ∀ (v' : View World Frame Mark) (r : RoomId), none = some r → r <
      v'.state.nextRoom := by
    intro _ _ hr
    cases hr
  refine ⟨fun hredis => ⟨h.1 hredis, hnone _⟩, fun hredis => ?_⟩
  refine wp_mono (h.2 hredis) fun _ v₁ h₁ => ⟨fun hx => ⟨h₁.1 hx, hnone _⟩, fun x hx => ?_⟩
  refine wp_mono (restoreRoom_wp hX (h₁.2 x hx)) fun r v₂ h₂ => ?_
  refine wp_mono (wp_existing (S := []) inferInstance hX h₂.2 h₂.1) fun _ v₃ h₃ => ?_
  refine wp_mono (wp_existing (S := []) inferInstance hX h₃.2 h₃.1) fun _ v₄ h₄ =>
    ⟨h₄.1, fun r' hr' => ?_⟩
  cases hr'
  exact h₄.2

/-- `handle_reconnect` finds players of the room. -/
theorem mem_of_reconnectTarget {w : World} {r : RoomId} {name : String} {p : PlayerId}
    (h : w.reconnectTarget r name = some p) : p ∈ (w.room r).players := by
  rcases Option.or_eq_some_iff.mp h with h | ⟨-, h⟩ <;> exact List.mem_of_find?_eq_some h

/-! ## The whole worker -/

/-- The invariant is kept by the functions that are not plain. -/
structure Kept (env : Env) (X : Setting World Frame Mark) : Prop where
  dropPlayer : ∀ r p, Stable X (dropPlayer r p)
  deleteRoom : ∀ code, Stable X (deleteRoom code)
  createRoom : ∀ draws name ws avatar password maxPlayers,
    Stable X (createRoom env draws name ws avatar password maxPlayers)
  joinRoom : ∀ name code ws avatar asSpectator password remote,
    Stable X (joinRoom env name code ws avatar asSpectator password remote)
  respondJoinRequest : ∀ p requestId action, Stable X (respondJoinRequest p requestId action)
  handleReconnect : ∀ name code ws avatar, Stable X (handleReconnect name code ws avatar)
  handleDisconnect : ∀ p, Stable X (handleDisconnect env p)

section Worker

variable [Plain X]

instance (ws : WsId) (m : Message) : Stable X (rebindTransport ws m) := by
  unfold rebindTransport; dsimp only; infer_instance

instance (ws : WsId) (c : M Message) [Stable X c] : Stable X (answerIdentity ws c) := by
  unfold answerIdentity; infer_instance

instance (ws : WsId) (c : M Message) [Stable X c] : Stable X (answer ws c) := by
  unfold answer; infer_instance

instance (ws : WsId) (c : M Message) [Stable X c] : Stable X (answerError ws c) := by
  unfold answerError; infer_instance

instance (env : Env) (ws : WsId) (p : Option PlayerId) [∀ p, Stable X (handleDisconnect env p)] :
    Stable X (websocketClosed env ws p) := by
  unfold websocketClosed; dsimp only; infer_instance

/-- Every call keeps the invariant. -/
theorem call_keeps {env : Env} (hX : Kept env X) (o : Op) {v : View World Frame Mark}
    (hv : X.inv v) : (o.call env).wp X 0 (fun _ => X.inv) v := by
  have := hX.dropPlayer
  have := hX.deleteRoom
  have := hX.createRoom
  have := hX.joinRoom
  have := hX.respondJoinRequest
  have := hX.handleReconnect
  have := hX.handleDisconnect
  cases o with
  | cleanupStream players =>
    exact wp_each (fun _ => X.inv)
      (fun p _ _ h => wp_attempt ((hX.handleDisconnect p).zero h) fun _ h => h) hv
  | clientDisconnected p => exact (hX.handleDisconnect p).zero hv
  | _ => refine Stable.zero ?_ hv; unfold Op.call; dsimp only; infer_instance

/-- Every task keeps an invariant that its removals of players and rooms keep. -/
theorem body_stable {env : Env} [∀ r p, Stable X (dropPlayer r p)]
    [∀ code, Stable X (deleteRoom code)] (t : TaskId) : Stable X (taskBody env t) := by
  obtain ⟨kind, n⟩ := t
  cases kind <;> unfold taskBody <;> dsimp only <;> infer_instance

/-- Every task keeps the invariant. -/
theorem body_keeps {env : Env} (hX : Kept env X) (t : TaskId) {v : View World Frame Mark}
    (hv : X.inv v) : (taskBody env t).wp X 0 (fun _ => X.inv) v := by
  have := hX.dropPlayer
  have := hX.deleteRoom
  exact (body_stable t).zero hv

end Worker

/-! ## Sound maps -/

/-- The maps of a worker hold existing rooms and players, and no task sleeps that was not
created. -/
structure World.Sound (w : World) : Prop where
  rooms : ∀ x ∈ w.rooms, x.2 < w.nextRoom
  members : ∀ r < w.nextRoom, ∀ p ∈ (w.room r).players, w.Known p
  tasks : ∀ t, w.nextTask ≤ t.serial → ¬w.Live t

/-- A worker that has just started. -/
theorem World.start_sound (transport : WsId → Transport) (redis : Bool) (oracle : List Nat)
    (snapshots : String → Option RoomSnapshot) :
    (World.start transport redis oracle snapshots).Sound :=
  ⟨nofun, nofun, fun _ _ h => nomatch h⟩

/-- No snapshot that is restored names an id that `uuid4` has yet to make up. -/
def freshIds : Event Frame Mark → View World Frame Mark → Prop
  | .mark (.restores _ _ ids), v => ∀ p ∈ ids, v.state.Known p
  | _, _ => True

instance (w : World) (p : PlayerId) : Decidable (w.Known p) :=
  match p with
  | .uuid n => inferInstanceAs (Decidable (n < w.nextUuid))
  | .other _ => .isTrue trivial

instance (e : Event Frame Mark) (v : View World Frame Mark) : Decidable (freshIds e v) :=
  match e with
  | .mark (.restores _ _ ids) => inferInstanceAs (Decidable (∀ p ∈ ids, v.state.Known p))
  | .mark (.ends _ _) | .mark (.credits _ _) | .mark (.advances _ _) | .mark (.timed _)
  | .mark (.connects _ _ _) | .mark (.disconnects _ _) | .mark (.removes _ _)
  | .mark (.opens _) | .mark (.resets _) | .mark (.begins _ _ _ _ _) | .mark (.finishes _ _)
  | .mark (.proxies _) | .suspend _ | .cancel _ => .isTrue trivial

/-- A condition on runs that includes `freshIds`. -/
class Fresh (cond : Event Frame Mark → View World Frame Mark → Prop) : Prop where
  out : ∀ e v, cond e v → freshIds e v

instance : Fresh freshIds := ⟨fun _ _ h => h⟩

variable {cond : Event Frame Mark → View World Frame Mark → Prop}

/-- The setting in which the maps are sound. -/
def soundly (cond : Event Frame Mark → View World Frame Mark → Prop) :
    Setting World Frame Mark where
  inv v := v.state.Sound
  known _ := True
  cond := cond
  rely := World.Extends

/-- Whatever does not write rooms and members leaves the maps sound. -/
theorem World.Sound.change {S : List Eff} (hrooms : Eff.rooms ∉ S) (hmembers : Eff.members ∉ S)
    {w w' : World} (hw : w.Sound) (h : (fp S).change w w') : w'.Sound where
  rooms x hx := by
    obtain ⟨hrooms, hnext⟩ := (same_of_fp h .rooms hrooms).world
    rw [hnext]
    exact hw.rooms x (hrooms ▸ hx)
  members r hr p hp := by
    obtain ⟨-, hnext⟩ := (same_of_fp h .rooms hrooms).world
    have hr' : r < w.nextRoom := hnext ▸ hr
    have hplayers := (same_of_fp h .members hmembers).room r hr'
    exact (hw.members r hr' p (hplayers ▸ hp)).mono h.1.nextUuid
  tasks := h.1.fresh hw.tasks

theorem soundly_keeps {S : List Eff} (hrooms : Eff.rooms ∉ S) (hmembers : Eff.members ∉ S) :
    (soundly cond).Keeps (fp S) where
  change _ _ h hv := hv.change hrooms hmembers h
  mark _ _ _ _ _ hv := hv
  frame _ _ := ⟨fun _ => Iff.rfl⟩
  fails _ _ _ hv := hv

instance : Plain (soundly cond) := ⟨soundly_keeps (by decide) (by decide)⟩

instance : FrameFree (soundly cond) := ⟨fun _ _ => Iff.rfl⟩

theorem World.Sound.put (u : Update) (hrooms : Eff.rooms ∉ u.effs) (hmembers : Eff.members ∉ u.effs)
    {w : World} (hw : w.Sound) : (u.apply w).Sound :=
  hw.change hrooms hmembers (fp_of_update u (fun _ h => h) w)

theorem World.Sound.setRooms {l : List (String × RoomId)} {w : World} (hw : w.Sound)
    (hl : ∀ x ∈ l, x.2 < w.nextRoom) : ((Update.rooms l).apply w).Sound :=
  ⟨hl, hw.members, hw.tasks⟩

theorem World.Sound.newRoom {x : Room} (members : PlayerId → Player) {w : World} (hw : w.Sound)
    (hx : x.players = []) : ((Update.newRoom x members).apply w).Sound where
  rooms y hy := Nat.lt_succ_of_lt (hw.rooms y hy)
  members r hr p hp := by
    by_cases h : r = w.nextRoom
    · simp [Update.apply, h, hx] at hp
    · simp only [Update.apply, Function.update_of_ne h] at hp
      exact hw.members r (Nat.lt_of_le_of_ne (Nat.le_of_lt_succ hr) h) p hp
  tasks := hw.tasks

theorem World.Sound.addPlayer (r : RoomId) {p : PlayerId} {w : World} (hw : w.Sound)
    (hp : w.Known p) : ((Update.room r (.addPlayer p)).apply w).Sound where
  rooms := hw.rooms
  members r' hr' q hq := by
    by_cases h : r' = r
    · subst h
      simp only [Update.apply, RoomUpdate.apply, Function.update_self, List.mem_append,
        List.mem_singleton] at hq
      rcases hq with hq | rfl
      · exact hw.members r' hr' q hq
      · exact hp
    · simp only [Update.apply, Function.update_of_ne h] at hq
      exact hw.members r' hr' q hq
  tasks := hw.tasks

theorem World.Sound.removePlayer (r : RoomId) (p : PlayerId) {w : World} (hw : w.Sound) :
    ((Update.room r (.removePlayer p)).apply w).Sound where
  rooms := hw.rooms
  members r' hr' q hq := by
    by_cases h : r' = r
    · subst h
      simp only [Update.apply, RoomUpdate.apply, Function.update_self, List.mem_filter] at hq
      exact hw.members r' hr' q hq.1
    · simp only [Update.apply, Function.update_of_ne h] at hq
      exact hw.members r' hr' q hq
  tasks := hw.tasks

instance (r : RoomId) (p : PlayerId) : Stable (soundly cond) (dropPlayer r p) where
  out R v hv := by
    unfold dropPlayer
    simp only [wp_bind, wp_mark, wp_put]
    exact fun _ => (hv.removePlayer r p).put (.playerToRoom p none) (by simp) (by simp)

instance (code : String) : Stable (soundly cond) (deleteRoom code) where
  out R v hv := by
    unfold deleteRoom
    rw [wp_bind, wp_read, wp_bind, wp_put]
    refine Stable.out R _ ?_
    exact hv.setRooms fun x hx => hv.rooms x (List.mem_of_mem_filter hx)

instance (r : RoomId) (code name : String) (ws : WsId) (avatar : Option String)
    (isSpectator : Bool) :
    Stable (soundly cond) (admitPlayer r code name ws avatar isSpectator) where
  out R v hv := by
    unfold admitPlayer
    simp only [wp_bind, wp_newPlayer, wp_mark, wp_put, wp_pure]
    intro _
    have hnew := World.Sound.put (.newPlayer r fun p =>
      { id := p, name := name, websocket := some ws, avatar := avatar, isSpectator := isSpectator })
      (by simp) (by simp) hv
    have hadd := hnew.addPlayer r (p := .uuid v.state.nextUuid) (Nat.lt_succ_self _)
    exact (hadd.put (.playerToRoom _ (some code)) (by simp) (by simp)).put
      (.wsToPlayer ws (some (_, code))) (by simp) (by simp)

/-- A new room with one member. -/
theorem World.Sound.create {x : Room} {w : World} (hw : w.Sound) (hx : x.players = [])
    (members make : PlayerId → Player) (code : String) :
    ((Update.playerToRoom (.uuid w.nextUuid) (some code)).apply
      ((Update.rooms (w.rooms ++ [(code, w.nextRoom)])).apply
        ((Update.room w.nextRoom (.addPlayer (.uuid w.nextUuid))).apply
          ((Update.room w.nextRoom (.hostId (.uuid w.nextUuid))).apply
            ((Update.newPlayer w.nextRoom make).apply
              ((Update.newRoom x members).apply w)))))).Sound := by
  refine World.Sound.put (.playerToRoom _ (some code)) (by simp) (by simp) ?_
  refine World.Sound.setRooms ?_ fun y hy => ?_
  · refine World.Sound.addPlayer _ ?_ (Nat.lt_succ_self _)
    refine World.Sound.put (.room _ (.hostId _)) (by simp) (by simp) ?_
    refine World.Sound.put (.newPlayer _ _) (by simp) (by simp) ?_
    exact hw.newRoom _ hx
  · rcases List.mem_append.mp hy with hy | hy
    · exact Nat.lt_succ_of_lt (hw.rooms y hy)
    · rw [List.mem_singleton.mp hy]
      exact Nat.lt_succ_self _

instance (env : Env) (draws : List String) (name : String) (ws : WsId)
    (avatar password : Option String) (maxPlayers : Option Int) :
    Stable (soundly cond) (createRoom env draws name ws avatar password maxPlayers) where
  out R v hv := by
    unfold createRoom
    dsimp only
    simp only [wp_bind, wp_read, wp_ite, wp_elim, wp_pure, wp_raise, wp_put, wp_newPlayer, wp_mark]
    refine ⟨fun _ => hv, fun _ => ⟨fun _ => ⟨fun _ => hv, fun code _ _ _ => ?_⟩, fun _ _ => hv⟩⟩
    refine Stable.out R _ ?_
    change World.Sound _
    simp only [View.add_state, View.set_state, View.push_state]
    exact hv.create rfl _ _ code

instance [h : Fresh cond] (x : RoomSnapshot) : Stable (soundly cond) (restoreRoom x) where
  out R v hv := by
    unfold restoreRoom
    dsimp only
    simp only [wp_bind, wp_read, wp_put, wp_mark, wp_elim, wp_when, wp_pure]
    intro hids _
    have hknown : ∀ y ∈ x.players, v.state.Known y.id := fun y hy =>
      h.out _ _ hids y.id (List.mem_map_of_mem hy)
    -- what is still to be added is known, and the room exists
    refine wp_mono (wp_each (fun l v' => v'.state.Sound ∧ v.state.nextRoom < v'.state.nextRoom ∧
      ∀ y ∈ l, v'.state.Known y.id) (fun y l v' hv' => ?_) ?_) fun _ v' ⟨hsound, hnext, _⟩ => ?_
    · obtain ⟨hsound, hnext, hl⟩ := hv'
      simp only [wp_bind, wp_put]
      refine ⟨?_, hnext, fun z hz => hl z (List.mem_cons_of_mem _ hz)⟩
      exact (hsound.addPlayer _ (hl y List.mem_cons_self)).put (.playerToRoom y.id (some x.code))
        (by simp) (by simp)
    · exact ⟨hv.newRoom _ rfl, Nat.lt_succ_self _, hknown⟩
    · have hrooms : ∀ w : World, v'.state.nextRoom = w.nextRoom → w.Sound →
          ((Update.rooms (dictSet v.state.rooms x.code v.state.nextRoom)).apply w).Sound := by
        refine fun w hw hsound => hsound.setRooms fun y hy => ?_
        rcases mem_dictSet hy with hy | rfl
        · exact hw ▸ (hv.rooms y hy).trans hnext
        · exact hw ▸ hnext
      refine ⟨fun _ => hrooms _ rfl hsound,
        fun turn _ => ⟨fun _ => ?_, fun _ => hrooms _ rfl hsound⟩⟩
      refine hrooms _ rfl ?_
      simp only [View.set_state]
      exact hsound.put (.newTurn _ _) (by simp) (by simp)

section Composite

variable [Fresh cond]

instance (code : String) : Stable (soundly cond) (adoptSnapshot code) := by
  unfold adoptSnapshot; infer_instance

instance (r : RoomId) (p : PlayerId) (ws : WsId) (avatar : Option String) :
    Stable (soundly cond) (restoreConnection r p ws avatar) := by
  exact .of_within inferInstance (soundly_keeps (S := [.cleanup, .connection]) (by decide)
    (by decide))

instance (r : RoomId) (p : PlayerId) : Stable (soundly cond) (markDisconnected r p) :=
  .of_within inferInstance (soundly_keeps (S := [.connection]) (by decide) (by decide))

instance (r : RoomId) (p : PlayerId) : Stable (soundly cond) (scheduleCleanup r p) :=
  .of_within inferInstance (soundly_keeps (S := [.cleanup]) (by decide) (by decide))

/-- The room and the player exist. -/
def World.Holds (w : World) (r : RoomId) (p : PlayerId) : Prop := r < w.nextRoom ∧ w.Known p

theorem World.Holds.mono {r : RoomId} {p : PlayerId} {w w' : World} (h : w.Extends w')
    (hw : w.Holds r p) : w'.Holds r p :=
  ⟨hw.1.trans_le h.nextRoom, hw.2.mono h.nextUuid⟩

/-- A room and a player that exist still exist when a call has ended. -/
theorem wp_holding {r : RoomId} {p : PlayerId} {S : List Eff} {α : Type} {c : M α}
    (hc : Within (fp S) c) (hX : X.rely = World.Extends) {R : Multiset Frame}
    {Q : α → View World Frame Mark → Prop} {v : View World Frame Mark} (hw : v.state.Holds r p)
    (h : c.wp X R Q v) : c.wp X R (fun a v' => Q a v' ∧ v'.state.Holds r p) v :=
  wp_carry (G := fun w => w.Holds r p) hc (fun _ _ h hw => hw.mono h.1)
    (fun _ _ h hw => hw.mono (hX ▸ h)) hw h

/-- Everything keeps the maps sound. -/
theorem soundly_kept (env : Env) : Kept env (soundly cond) where
  dropPlayer _ _ := inferInstance
  deleteRoom _ := inferInstance
  createRoom _ _ _ _ _ _ := inferInstance
  joinRoom _ _ _ _ _ _ _ := by unfold joinRoom joinRoomLocal; infer_instance
  respondJoinRequest _ _ _ := by
    unfold respondJoinRequest admitRequester; dsimp only; infer_instance
  handleReconnect _ _ _ _ := by unfold handleReconnect; dsimp only; infer_instance
  handleDisconnect _ := by unfold handleDisconnect; infer_instance

theorem World.Sound.setStatus (t : TaskId) {status : TaskStatus} (h : status ≠
    .sleeping) {w : World}
    (hw : w.Sound) : (w.setStatus t status).Sound :=
  ⟨hw.rooms, hw.members, (w.setStatus_extends t h).fresh hw.tasks⟩

/-- An invariant of the functions and of the tasks' ends is one of the worker. -/
theorem worker_keeps {env : Env} [Plain X] (hX : Kept env X)
    (hstatus : ∀ (t : TaskId) (status : TaskStatus) (v : View World Frame Mark) R,
      status ≠ .sleeping → X.inv (v.add R) → X.inv (v.set (v.state.setStatus t status))) :
    (worker env).Keeps X where
  call o _ _ hv := call_keeps hX o hv
  fire t v _ _ hv := body_keeps hX t (hstatus t .running v 0 (by decide) (by rwa [View.add_zero]))
  finish t v hv := hstatus t .done v 0 (by decide) (by rwa [View.add_zero])
  cancel t v fs _ _ hv := hstatus t .done v fs (by decide) hv

/-- **Every state that a worker reaches is sound.** -/
theorem sound_of_run {env : Env} {w : World} (hw : w.Sound) {c : Config World Frame Mark TaskId}
    (h : (worker env).Run cond (startConfig w) c) (hc : c.running = none) : c.state.Sound :=
  have hkeeps : (worker env).Keeps (soundly cond) := worker_keeps (soundly_kept env)
    fun t _ _ _ hstatus hv => World.Sound.setStatus t hstatus hv
  (hkeeps.run (worker_changes env) h (Loop.inside_of_quiet rfl rfl) (fun _ _ _ => trivial)
    (Loop.ready_of_quiet rfl rfl hw)).idle hc

end Composite

end Skribbl.Backend
