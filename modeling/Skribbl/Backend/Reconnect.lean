import Skribbl.Backend.Stability

/-!
# Reconnecting before the old connection is torn down

`handle_reconnect` gives a player a new connection; the teardown of the old one calls
`handle_disconnect` with the id of the player, whatever connection that player now holds.

* `standing` — what the marks of a run say last about the connection of a player.
* `Standing` — the player object agrees with it.

Principal results: `reconnected_iff` — after a reconnect, the player is connected with its new
connection iff no teardown for it has come later; `teardown_after_reconnect` — a run in which the
old connection is torn down after the reconnect.
-/

set_option autoImplicit false
set_option synthInstance.maxSize 100000

namespace Skribbl.Backend

open Coro

variable {r : RoomId} {p : PlayerId} {v : View World Frame Mark}
  {cond : Event Frame Mark → View World Frame Mark → Prop}

/-! ## What a run says about a connection -/

/-- One mark, after which the player is connected (`some (some ws)`) or not (`some none`). -/
def Mark.standing (r : RoomId) (p : PlayerId) (s : Option (Option (Option WsId))) :
    Mark → Option (Option (Option WsId))
  | .connects r' p' ws => if r' = r ∧ p' = p then some (some ws) else s
  | .disconnects r' p' => if r' = r ∧ p' = p then some none else s
  | _ => s

/-- What the marks say last about the connection of a player. -/
def standing (r : RoomId) (p : PlayerId) (trace : List Mark) : Option (Option (Option WsId)) :=
  trace.foldl (Mark.standing r p) none

theorem standing_push (trace : List Mark) (e : Mark) :
    standing r p (trace ++ [e]) = e.standing r p (standing r p trace) := by
  simp [standing]

/-- A mark about something else says nothing. -/
theorem Mark.standing_other {e : Mark} (he : e.eff ≠ .connection)
    (s : Option (Option (Option WsId))) : e.standing r p s = s := by
  cases e <;> simp_all [Mark.standing, Mark.eff]

/-- The player object is as the marks say. -/
structure Standing (r : RoomId) (p : PlayerId) (v : View World Frame Mark) : Prop where
  existing : standing r p v.trace ≠ none → r < v.state.nextRoom ∧ v.state.Known p
  connected : ∀ ws, standing r p v.trace = some (some ws) →
    (v.state.player r p).isConnected = true ∧ (v.state.player r p).websocket = ws
  disconnected : standing r p v.trace = some none → (v.state.player r p).isConnected = false

/-- Changes of other parts leave the player as it is. -/
theorem Standing.change (h : Standing r p v) {S : List Eff} (hS : Eff.connection ∉ S) {w : World}
    (hw : (fp S).change v.state w) : Standing r p (v.set w) := by
  have hsame : standing r p v.trace ≠ none →
      (w.player r p).isConnected = (v.state.player r p).isConnected ∧
        (w.player r p).websocket = (v.state.player r p).websocket := fun hs =>
    (same_of_fp hw .connection hS).player r (h.existing hs).1 p (h.existing hs).2
  refine ⟨fun hs => ⟨(h.existing hs).1.trans_le hw.1.nextRoom,
    (h.existing hs).2.mono hw.1.nextUuid⟩,
    fun ws hs => ?_, fun hs => ?_⟩
  · obtain ⟨hc, hws⟩ := hsame (hs ▸ nofun)
    obtain ⟨hc', hws'⟩ := h.connected ws hs
    exact ⟨hc.trans hc', hws.trans hws'⟩
  · exact (hsame (hs ▸ nofun)).1.trans (h.disconnected hs)

theorem Standing.put (h : Standing r p v) (u : Update) (hu : Eff.connection ∉ u.effs) :
    Standing r p (v.set (u.apply v.state)) := h.change hu (fp_of_update u (fun _ h => h) _)

theorem Standing.push_other (h : Standing r p v) {e : Mark} (he : e.eff ≠ .connection) :
    Standing r p (v.push e) := by
  have heq : standing r p (v.push e).trace = standing r p v.trace := by
    rw [View.push_trace, standing_push, Mark.standing_other he]
  exact ⟨by rw [heq]; exact h.existing, by rw [heq]; exact h.connected,
    by rw [heq]; exact h.disconnected⟩

/-- The player gets a connection. -/
theorem Standing.connect (h : Standing r p v) {r' : RoomId} {p' : PlayerId} {ws : Option WsId}
    {w : World} (hr : r' < w.nextRoom) (hp : w.Known p')
    (hother : ¬(r' = r ∧ p' = p) → Standing r p (v.set w))
    (hconnected : (w.player r' p').isConnected = true ∧ (w.player r' p').websocket = ws) :
    Standing r p ((v.push (.connects r' p' ws)).set w) := by
  by_cases heq : r' = r ∧ p' = p
  · obtain ⟨rfl, rfl⟩ := heq
    have hs : standing r' p' ((v.push (.connects r' p' ws)).set w).trace = some (some ws) := by
      simp [standing_push, Mark.standing]
    refine ⟨fun _ => ⟨hr, hp⟩, fun ws' hws => ?_, fun hd => ?_⟩
    · rw [hs] at hws
      cases hws
      exact hconnected
    · rw [hs] at hd
      cases hd
  · have hs : standing r p ((v.push (.connects r' p' ws)).set w).trace = standing r p v.trace := by
      simp [standing_push, Mark.standing, heq]
    obtain ⟨h₁, h₂, h₃⟩ := hother heq
    exact ⟨by rw [hs]; exact h₁, by rw [hs]; exact h₂, by rw [hs]; exact h₃⟩

/-- An assignment to another player object. -/
theorem Standing.other (h : Standing r p v) {r' : RoomId} {p' : PlayerId} (u : PlayerUpdate)
    (hne : ¬(r' = r ∧ p' = p)) :
    Standing r p (v.set ((Update.player r' p' u).apply v.state)) := by
  have heq : ((Update.player r' p' u).apply v.state).player r p = v.state.player r p := by
    simp only [Update.apply, ite_eq_right_iff]
    rintro ⟨rfl, rfl⟩
    exact absurd ⟨rfl, rfl⟩ hne
  refine ⟨h.existing, fun ws hws => ?_, fun hd => ?_⟩
  · rw [View.set_state, heq]
    exact h.connected ws hws
  · rw [View.set_state, heq]
    exact h.disconnected hd

/-- The player loses its connection. -/
theorem Standing.disconnect (h : Standing r p v) {r' : RoomId} {p' : PlayerId} {now : ℚ}
    (hr : r' < v.state.nextRoom) (hp : v.state.Known p') :
    Standing r p ((v.push (.disconnects r' p')).set
      ((Update.player r' p' (.disconnect now)).apply v.state)) := by
  by_cases heq : r' = r ∧ p' = p
  · obtain ⟨rfl, rfl⟩ := heq
    refine ⟨fun _ => ⟨hr, hp⟩, fun ws' hws => ?_, fun _ => ?_⟩
    · simp [standing_push, Mark.standing] at hws
    · simp [Update.apply, PlayerUpdate.apply]
  · have hs : standing r p (v.push (.disconnects r' p')).trace = standing r p v.trace := by
      simp [standing_push, Mark.standing, heq]
    obtain ⟨h₁, h₂, h₃⟩ := h.other (.disconnect now) heq
    exact ⟨by rw [View.set_trace, hs]; exact h₁, by rw [View.set_trace, hs]; exact h₂,
      by rw [View.set_trace, hs]; exact h₃⟩

/-! ## The worker keeps it -/

/-- The setting in which the maps are sound and the player is as the marks say. -/
def standingly (r : RoomId) (p : PlayerId)
    (cond : Event Frame Mark → View World Frame Mark → Prop) : Setting World Frame Mark :=
  (soundly cond).and (Standing r p)

theorem standing_add (m : Multiset Frame) : Standing r p (v.add m) ↔ Standing r p v :=
  ⟨fun h => ⟨h.existing, h.connected, h.disconnected⟩,
    fun h => ⟨h.existing, h.connected, h.disconnected⟩⟩

/-- A call that does not write connections. -/
theorem Standing.call {S : List Eff} (hS : Eff.connection ∉ S) {α : Type} {c : M α}
    (hc : Within (fp S) c) {R : Multiset Frame} (hv : Standing r p (v.add R)) :
    c.wp ((soundly cond).given (Standing r p)) R (fun _ v' => Standing r p (v'.add R)) v :=
  wp_within (J := fun v => Standing r p (v.add R)) hc
    (fun _ _ hs h => h.change hS hs)
    (fun _ _ he _ h => h.push_other fun heq => hS (heq ▸ he))
    (fun _ _ _ _ h => ⟨(standing_add _).mpr ((standing_add R).mp h),
      fun _ _ _ h => (standing_add R).mpr ((standing_add _).mp h)⟩)
    (fun _ _ h => (standing_add R).mp h) hv

/-- A function that does not write connections. -/
theorem standing_within {S : List Eff} (hS : Eff.connection ∉ S) {α : Type} {c : M α}
    [Stable (soundly cond) c] (hc : Within (fp S) c) : Stable (standingly r p cond) c :=
  .and fun _ _ _ hv => hv.call hS hc

instance : Plain (standingly r p cond) where
  out := {
    change := fun v s hs h => ⟨h.1.change (by decide) (by decide) hs, h.2.change (by decide) hs⟩
    mark := fun v e R he _ h => ⟨h.1, h.2.push_other fun heq => by
      have he : e.eff ∈ plainEffs := he
      rw [heq] at he
      exact absurd he (by decide)⟩
    frame := fun x _ => ⟨fun v => and_congr Iff.rfl (standing_add _)⟩
    fails := fun _ v R h => ⟨h.1, (standing_add R).mp h.2⟩ }

instance : FrameFree (standingly r p cond) := ⟨fun _ m => and_congr Iff.rfl (standing_add m)⟩

instance (r' : RoomId) (p' : PlayerId) : Stable (standingly r p cond) (dropPlayer r' p') :=
  standing_within (S := [.members]) (by decide) inferInstance

instance (code : String) : Stable (standingly r p cond) (deleteRoom code) :=
  standing_within (S := [.rooms, .roles]) (by decide) inferInstance

/-- The player of a new object gets its first connection. -/
theorem Standing.newPlayer (h : Standing r p v) {r' : RoomId} (hr : r' < v.state.nextRoom)
    (make : PlayerId → Player) {ws : Option WsId}
    (hmake : ∀ p', (make p').isConnected = true ∧ (make p').websocket = ws) :
    Standing r p ((v.push (.connects r' (.uuid v.state.nextUuid) ws)).set
      ((Update.newPlayer r' make).apply v.state)) := by
  refine h.connect hr (Nat.lt_succ_self _) (fun _ => ?_) ?_
  · exact h.change (S := [.players]) (by decide) (fp_of_update _ (by simp) _)
  · simpa [Update.apply] using hmake _

/-- A new player of an existing room. -/
theorem admitPlayer_standing {r' : RoomId} (hr : r' < v.state.nextRoom)
    (code name : String) (ws : WsId)
    (avatar : Option String) (isSpectator : Bool) {R : Multiset Frame}
    (hv : (standingly r p cond).inv (v.add R)) :
    (admitPlayer r' code name ws avatar isSpectator).wp (standingly r p cond) R
      (fun _ v' => (standingly r p cond).inv (v'.add R)) v := by
  refine wp_and (Stable.out R v hv.1) ?_
  unfold admitPlayer
  simp only [wp_bind, wp_newPlayer, wp_mark, wp_put, wp_pure]
  intro _
  have hnew := hv.2.newPlayer hr (fun p' =>
    { id := p', name := name, websocket := some ws, avatar := avatar, isSpectator := isSpectator })
    fun _ => ⟨rfl, rfl⟩
  exact ((hnew.put (.room r' (.addPlayer _)) (by simp)).put (.playerToRoom _ (some code))
    (by simp)).put (.wsToPlayer ws _) (by simp)

instance (env : Env) (draws : List String) (name : String) (ws : WsId)
    (avatar password : Option String) (maxPlayers : Option Int) :
    Stable (standingly r p cond) (createRoom env draws name ws avatar password maxPlayers) where
  out R v hv := by
    refine wp_and (Stable.out R v hv.1) ?_
    unfold createRoom
    dsimp only
    simp only [wp_bind, wp_read, wp_ite, wp_elim, wp_pure, wp_raise, wp_put, wp_newPlayer, wp_mark]
    refine ⟨fun _ => hv.2, fun _ => ⟨fun _ => ⟨fun _ => (standing_add R).mp hv.2,
      fun code _ _ _ => ?_⟩, fun _ _ => hv.2⟩⟩
    have hopen := hv.2.push_other (e := .opens v.state.nextRoom) nofun
    have hroom := hopen.put (.newRoom { code := code, hostId := .other "", config :=
      { password := env.newPassword password, maxPlayers := newMaxPlayers maxPlayers } }
      fun p' => { id := p', name := "" }) (by simp)
    have hnew := hroom.newPlayer (Nat.lt_succ_self v.state.nextRoom) (fun p' =>
      { id := p', name := name, websocket := some ws, avatar := avatar }) fun _ => ⟨rfl, rfl⟩
    refine Standing.call (S := []) (by decide) inferInstance ?_
    exact (((hnew.put (.room _ (.hostId _)) (by simp)).put (.room _ (.addPlayer _)) (by simp)).put
      (.rooms _) (by simp)).put (.playerToRoom _ (some code)) (by simp)

/-- An existing player gets a new connection. -/
theorem restoreConnection_standing {r' : RoomId} {p' : PlayerId} (ws : WsId)
    (avatar : Option String) (h : v.state.Holds r' p') {R : Multiset Frame}
    (hv : (standingly r p cond).inv (v.add R)) :
    (restoreConnection r' p' ws avatar).wp (standingly r p cond) R
      (fun _ v' => (standingly r p cond).inv (v'.add R)) v := by
  refine wp_and (Stable.out R v hv.1) ?_
  unfold restoreConnection
  simp only [wp_bind, wp_mark, wp_put, wp_readPlayer]
  refine wp_mono (wp_holding (S := [.cleanup]) inferInstance rfl h
    (hv.2.call (S := [.cleanup]) (by decide) inferInstance)) fun _ v₁ h₁ => ?_
  obtain ⟨hv₁, h₁⟩ := h₁
  refine wp_mono (wp_holding (S := []) inferInstance rfl h₁
    (hv₁.call (S := []) (by decide) inferInstance)) fun _ v₂ h₂ => ?_
  obtain ⟨hv₂, h₂⟩ := h₂
  intro _
  refine Standing.call (S := []) (by decide) inferInstance ?_
  exact hv₂.connect h₂.1 h₂.2 (fun hne => hv₂.other _ hne) (by simp [Update.apply,
    PlayerUpdate.apply])

/-- An existing player loses its connection. -/
theorem markDisconnected_standing {r' : RoomId} {p' : PlayerId} (h : v.state.Holds r' p')
    {R : Multiset Frame} (hv : (standingly r p cond).inv (v.add R)) :
    (markDisconnected r' p').wp (standingly r p cond) R
      (fun _ v' => (standingly r p cond).inv (v'.add R)) v := by
  refine wp_and (Stable.out R v hv.1) ?_
  unfold markDisconnected
  simp only [wp_bind, wp_read, wp_mark, wp_put]
  intro _
  exact hv.2.disconnect h.1 h.2

/-- Joining an existing room. -/
theorem joinRoomLocal_standing (env : Env) {r' : RoomId} (hr : r' < v.state.nextRoom)
    (code name : String) (ws : WsId) (avatar : Option String) (asSpectator : Bool)
    (password : Option String) {R : Multiset Frame} (hv : (standingly r p cond).inv (v.add R)) :
    (joinRoomLocal env r' code name ws avatar asSpectator password).wp (standingly r p cond) R
      (fun _ v' => (standingly r p cond).inv (v'.add R)) v := by
  unfold joinRoomLocal
  rw [wp_bind, wp_read, wp_elim]
  refine ⟨fun _ => ?_, fun _ _ => hv⟩
  rw [wp_ite, wp_ite, wp_ite]
  refine ⟨fun _ => Stable.out R v hv, fun _ => ⟨fun _ => hv, fun _ => ⟨fun _ => hv, fun _ => ?_⟩⟩⟩
  exact wp_then (admitPlayer_standing hr code name ws avatar asSpectator hv)

/-- The host admits a player. -/
theorem admitRequester_standing {r' : RoomId} (hr : r' < v.state.nextRoom)
    (request : PendingJoinRequest) (isSpectator : Bool) {R : Multiset Frame}
    (hv : (standingly r p cond).inv (v.add R)) :
    (admitRequester r' request isSpectator).wp (standingly r p cond) R
      (fun _ v' => (standingly r p cond).inv (v'.add R)) v := by
  unfold admitRequester
  dsimp only
  rw [wp_bind]
  refine wp_mono (wp_existing (S := []) inferInstance rfl hr (Stable.out R v hv))
    fun _ v₁ ⟨hv₁, hr₁⟩ => ?_
  rw [wp_bind]
  refine wp_mono (wp_existing (S := []) inferInstance rfl hr₁ (Stable.out R v₁ hv₁))
    fun _ v₂ ⟨hv₂, hr₂⟩ => ?_
  rw [wp_bind, wp_readRoom]
  exact wp_then (admitPlayer_standing hr₂ _ _ _ _ _ hv₂)

section Keeping

variable [Fresh cond]

instance (r' : RoomId) (p' : PlayerId) : Stable (standingly r p cond) (scheduleCleanup r' p') :=
  standing_within (S := [.cleanup]) (by decide) inferInstance

instance (env : Env) (p' : PlayerId) : Stable (standingly r p cond) (handleDisconnect env p') where
  out R v hv := by
    unfold handleDisconnect
    rw [wp_bind]
    refine findRoomByPlayer_wp fun o w hw ho => ?_
    have hw' : (standingly r p cond).inv ((v.set w).add R) :=
      ⟨World.Sound.change (by decide) (by decide) hv.1 hw, hv.2.change (by decide) hw⟩
    rw [wp_elim]
    refine ⟨fun _ => Stable.out R _ hw', fun r' hr' => ?_⟩
    rw [wp_bind, wp_readRoom, wp_when]
    refine ⟨fun hp' => ?_, fun _ => hw'⟩
    obtain ⟨code, hcode⟩ := ho r' hr'
    have hroom : r' < w.nextRoom := hw'.1.rooms _ hcode
    exact wp_then (markDisconnected_standing (v := v.set w) ⟨hroom,
      hw'.1.members r' hroom p' hp'⟩ hw')

instance (code : String) : Stable (standingly r p cond) (adoptSnapshot code) :=
  standing_within (S := [.rooms, .members, .turn]) (by decide) inferInstance

instance (env : Env) (name code : String) (ws : WsId) (avatar : Option String) (asSpectator : Bool)
    (password : Option String) (remote : Option Message) :
    Stable (standingly r p cond)
      (joinRoom env name code ws avatar asSpectator password remote) where
  out R v hv := by
    unfold joinRoom
    rw [wp_elim]
    refine ⟨fun _ => ?_, fun _ _ => hv⟩
    rw [wp_bind, wp_read, wp_elim]
    refine ⟨fun _ => ?_, fun r' hr' => ?_⟩
    · rw [wp_bind]
      refine wp_mono (Stable.out R v hv) fun _ v₁ hv₁ => ?_
      rw [wp_elim, wp_bind]
      refine ⟨fun _ => ?_, fun _ _ => hv₁⟩
      refine wp_mono (adoptSnapshot_wp rfl (Stable.out R v₁ hv₁)) fun o v₂ ⟨hv₂, hr₂⟩ => ?_
      rw [wp_elim]
      exact ⟨fun _ => hv₂, fun r' hr' => joinRoomLocal_standing env (hr₂ r' hr') _ _ _ _ _ _ hv₂⟩
    · obtain ⟨code, hcode⟩ := mem_of_roomOf (Option.eq_some_of_filter_eq_some hr')
      exact joinRoomLocal_standing (v := v) env (hv.1.rooms _ hcode) _ _ _ _ _ _ hv

instance (p' : PlayerId) (requestId : RequestId) (action : String) :
    Stable (standingly r p cond) (respondJoinRequest p' requestId action) where
  out R v hv := by
    unfold respondJoinRequest
    rw [wp_bind, wp_read, wp_elim]
    refine ⟨fun _ => hv, fun request _ => ?_⟩
    rw [wp_elim]
    refine ⟨fun _ => hv, fun r' hr' => ?_⟩
    obtain ⟨code, hcode⟩ := mem_of_roomOf hr'
    rw [wp_ite, wp_ite, wp_ite, wp_ite]
    refine ⟨fun _ => hv, fun _ => ⟨fun _ => Stable.out R v hv, fun _ => ⟨fun _ => hv, fun _ =>
      ⟨fun _ => hv, fun _ => ?_⟩⟩⟩⟩
    exact admitRequester_standing (v := v) (hv.1.rooms _ hcode) _ _ hv

instance (name code : String) (ws : WsId) (avatar : Option String) :
    Stable (standingly r p cond) (handleReconnect name code ws avatar) where
  out R v hv := by
    unfold handleReconnect
    dsimp only
    rw [wp_bind, wp_read, wp_bind]
    refine wp_mono (Q := fun o v' => (standingly r p cond).inv (v'.add R) ∧
      ∀ r', o = some r' → r' < v'.state.nextRoom) ?_ fun o v₁ ⟨hv₁, hr₁⟩ => ?_
    · rw [wp_elim]
      refine ⟨fun _ => adoptSnapshot_wp rfl (Stable.out R v hv), fun r' hr' => ⟨hv, fun _ h => ?_⟩⟩
      cases h
      obtain ⟨code, hcode⟩ := mem_of_roomOf hr'
      exact hv.1.rooms _ hcode
    · rw [wp_elim]
      refine ⟨fun _ => hv₁, fun r' hr' => ?_⟩
      rw [wp_bind, wp_read, wp_elim]
      refine ⟨fun _ => hv₁, fun p' hp' => ?_⟩
      have hholds : v₁.state.Holds r' p' :=
        ⟨hr₁ r' hr', hv₁.1.members r' (hr₁ r' hr') p' (mem_of_reconnectTarget hp')⟩
      rw [wp_bind]
      refine wp_mono (wp_holding (S := []) inferInstance rfl hholds (Stable.out R v₁ hv₁))
        fun _ v₂ ⟨hv₂, hholds₂⟩ => ?_
      exact wp_then (restoreConnection_standing ws avatar hholds₂ hv₂)

/-- Everything keeps the player as the marks say. -/
theorem standingly_kept (env : Env) : Kept env (standingly r p cond) where
  dropPlayer _ _ := inferInstance
  deleteRoom _ := inferInstance
  createRoom _ _ _ _ _ _ := inferInstance
  joinRoom _ _ _ _ _ _ _ := inferInstance
  respondJoinRequest _ _ _ := inferInstance
  handleReconnect _ _ _ _ := inferInstance
  handleDisconnect _ := inferInstance

/-- **The player object is always as the marks say.** -/
theorem standing_of_run {env : Env} {w : World} (hw : w.Sound)
    {c : Config World Frame Mark TaskId} (h : (worker env).Run cond (startConfig w) c)
    (hc : c.running = none) : Standing r p c.view := by
  have hkeeps : (worker env).Keeps (standingly r p cond) :=
    worker_keeps (standingly_kept env) fun t status v R hstatus hv =>
      ⟨World.Sound.setStatus t hstatus hv.1,
        ⟨hv.2.existing, hv.2.connected, hv.2.disconnected⟩⟩
  have hready := hkeeps.run (worker_changes env) h (Loop.inside_of_quiet rfl rfl)
    (fun _ _ _ => trivial)
    (Loop.ready_of_quiet rfl rfl ⟨hw, fun hs => absurd rfl hs, nofun, nofun⟩)
  exact (hready.idle hc).2

end Keeping

/-! ## The order of a reconnect and a teardown -/

/-- Since it last got a connection, the player has lost it iff there is a mark that says so. -/
theorem standing_since {tr₁ tr₂ : List Mark} {ws : Option WsId}
    (hlast : ∀ ws', .connects r p ws' ∉ tr₂) :
    standing r p (tr₁ ++ .connects r p ws :: tr₂) =
      if .disconnects r p ∈ tr₂ then some none else some (some ws) := by
  induction tr₂ using List.reverseRecOn with
  | nil => simp [standing, Mark.standing]
  | append_singleton tr₂ e ih =>
    have hstart := ih fun ws' h => hlast ws' (List.mem_append_left _ h)
    rw [← List.cons_append, ← List.append_assoc, standing_push, hstart]
    cases e with
    | connects r' p' ws' =>
      have hne : ¬(r' = r ∧ p' = p) := by
        rintro ⟨rfl, rfl⟩
        exact hlast ws' (by simp)
      simp [Mark.standing, hne]
    | disconnects r' p' =>
      by_cases heq : r' = r ∧ p' = p
      · obtain ⟨rfl, rfl⟩ := heq
        simp [Mark.standing]
      · have hne : (.disconnects r p : Mark) ≠ .disconnects r' p' := by
          rintro h
          cases h
          exact heq ⟨rfl, rfl⟩
        simp [Mark.standing, heq, hne]
    | _ => simp [Mark.standing]

/-- **A player that got a new connection is connected with it iff no teardown for the player has
come later**, whatever else has happened and however the calls were suspended. -/
theorem reconnected_iff {env : Env} {w : World} (hw : w.Sound)
    {c : Config World Frame Mark TaskId} (h : (worker env).Run freshIds (startConfig w) c)
    (hc : c.running = none) {r : RoomId} {p : PlayerId} {ws : WsId} {tr₁ tr₂ : List Mark}
    (htrace : c.trace = tr₁ ++ .connects r p (some ws) :: tr₂)
    (hlast : ∀ ws', .connects r p ws' ∉ tr₂) :
    ((c.state.player r p).isConnected = true ∧ (c.state.player r p).websocket = some ws) ↔
      .disconnects r p ∉ tr₂ := by
  have hstanding : Standing r p c.view := standing_of_run hw h hc
  have hs : standing r p c.view.trace =
      if .disconnects r p ∈ tr₂ then some none else some (some (some ws)) := by
    change standing r p c.trace = _
    rw [htrace, standing_since hlast]
  constructor
  · intro hconnected hd
    rw [if_pos hd] at hs
    have hlost : (c.state.player r p).isConnected = false := hstanding.disconnected hs
    rw [hlost] at hconnected
    exact absurd hconnected.1 (by decide)
  · intro hd
    rw [if_neg hd] at hs
    exact hstanding.connected (some ws) hs

/-- Player `0` reconnects as connection `9`. -/
def sampleReconnect : Loop.Choice TaskId Op × List Bool :=
  (.call (.reconnect "p0" "ROOM01" 9 none), [])

/-- The teardown of the first connection of player `0`. -/
def sampleTeardown : Loop.Choice TaskId Op × List Bool :=
  (.call (.websocketClosed 0 (some (.uuid 0))), [])

/-- The old connection is torn down first: the player is connected with the new one. -/
theorem reconnect_after_teardown :
    ∃ c, (worker sampleEnv).Run freshIds (startConfig sampleWorld) c ∧
      (c.state.player 0 (.uuid 0)).isConnected = true ∧
      (c.state.player 0 (.uuid 0)).websocket = some 9 := by
  have hplay : ((worker sampleEnv).play freshIds (startConfig sampleWorld)
      (sampleLobby 2 ++ [sampleTeardown, sampleReconnect])).any (fun c => c.trace =
        [.opens 0, .connects 0 (.uuid 0) (some 0), .connects 0 (.uuid 1) (some 1),
          .disconnects 0 (.uuid 0)] ++ .connects 0 (.uuid 0) (some 9) :: []) = true := by
    decide +kernel
  obtain ⟨c, hrun, hidle, hc⟩ := Loop.exists_run_of_play rfl hplay
  exact ⟨c, hrun, (reconnected_iff (World.start_sound _ _ _ _) hrun hidle (of_decide_eq_true hc)
    nofun).mpr nofun⟩

/-- **The old connection is torn down after the reconnect**: the player is disconnected, although
nothing has happened to the new connection. -/
theorem teardown_after_reconnect :
    ∃ c, (worker sampleEnv).play Loop.anyEvent (startConfig sampleWorld)
        (sampleLobby 2 ++ [sampleReconnect, sampleTeardown]) = some c ∧
      (worker sampleEnv).Run Loop.anyEvent (startConfig sampleWorld) c ∧ c.running = none ∧
      c.waiting.isEmpty ∧ .connects 0 (.uuid 0) (some 9) ∈ c.trace ∧
      (c.state.player 0 (.uuid 0)).isConnected = false ∧
      (c.state.player 0 (.uuid 0)).websocket = none := by
  have hplay : ((worker sampleEnv).play Loop.anyEvent (startConfig sampleWorld)
      (sampleLobby 2 ++ [sampleReconnect, sampleTeardown])).any (fun c => c.waiting.isEmpty ∧
        .connects 0 (.uuid 0) (some 9) ∈ c.trace ∧
        (c.state.player 0 (.uuid 0)).isConnected = false ∧
        (c.state.player 0 (.uuid 0)).websocket = none) = true := by
    decide +kernel
  obtain ⟨c, hc, hprops⟩ := (Option.any_eq_true _ _).mp hplay
  obtain ⟨hrun, hidle⟩ := Loop.run_of_play rfl hc
  exact ⟨c, hc, hrun, hidle, of_decide_eq_true hprops⟩

end Skribbl.Backend
