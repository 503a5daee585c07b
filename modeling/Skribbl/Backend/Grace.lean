import Skribbl.Backend.Stability

/-!
# The grace window of a disconnected player

`handle_disconnect` schedules the permanent removal of a player after 120 seconds, and
`handle_reconnect` cancels the removal that is stored with the player.

* `World.Away` — the player is not connected in any room.
* `Grace` — a player with a removal scheduled, or about to be scheduled, is away.
* `graced` — when a player gets a connection, no removal of the player is left.

Principal results: `grace_of_run` — in runs that meet the condition, a removal that is due has found
the player away ever since it was scheduled; `removed_while_connected` — a disconnect that is
reported twice.
-/

set_option autoImplicit false
set_option synthInstance.maxSize 100000

namespace Skribbl.Backend

open Coro

variable {r : RoomId} {p q : PlayerId} {v : View World Frame Mark} {w : World}

/-! ## Players that are away -/

/-- In no room of the worker is the player a connected member. -/
def World.Away (w : World) (p : PlayerId) : Prop :=
  ∀ x ∈ w.rooms, p ∈ (w.room x.2).players → (w.player x.2 p).isConnected = false

/-- A removal of the player is scheduled, or `handle_disconnect` is going to schedule one. -/
def Leaving (v : View World Frame Mark) (p : PlayerId) : Prop :=
  (∃ n, v.state.Live ⟨.cleanup p, n⟩) ∨ ∃ r, Frame.disconnecting r p ∈ v.waiting

/-- A player that is to be removed is away, and the removal is due after 120 seconds. -/
structure Grace (v : View World Frame Mark) : Prop where
  away : ∀ p, Leaving v p → v.state.Away p
  due : ∀ p n, v.state.Live ⟨.cleanup p, n⟩ →
    (v.state.task ⟨.cleanup p, n⟩).due = (v.state.task ⟨.cleanup p, n⟩).created + 120

/-- `handle_disconnect` of the player is suspended before it schedules the removal. -/
def Frame.disconnects (p : PlayerId) : Frame → Bool
  | .disconnecting _ q => q = p
  | .turnEnded _ _ => false

/-- No removal of the player is scheduled, and no `handle_disconnect` is about to schedule one. -/
def Settled (v : View World Frame Mark) (p : PlayerId) : Prop :=
  (∀ n < v.state.nextTask, ¬v.state.Live ⟨.cleanup p, n⟩) ∧
    ∀ x ∈ v.waiting, x.disconnects p = false

/-- No snapshot names an id that `uuid4` has yet to make up; when a player gets a connection, no
removal of the player is left; and a player that is marked as disconnected is connected in no other
room. -/
def graced (e : Event Frame Mark) (v : View World Frame Mark) : Prop :=
  freshIds e v ∧ match e with
    | .mark (.connects _ p _) => Settled v p
    | .mark (.disconnects r p) => ∀ x ∈ v.state.rooms, x.2 ≠ r →
        p ∈ (v.state.room x.2).players → (v.state.player x.2 p).isConnected = false
    | _ => True

instance : Fresh graced := ⟨fun _ _ h => h.1⟩

instance (v : View World Frame Mark) (p : PlayerId) : Decidable (Settled v p) :=
  inferInstanceAs (Decidable (_ ∧ _))

instance (e : Event Frame Mark) (v : View World Frame Mark) : Decidable (graced e v) :=
  match e with
  | .mark (.connects _ _ _) | .mark (.disconnects _ _) => inferInstanceAs (Decidable (_ ∧ _))
  | .mark (.restores _ _ _) | .mark (.ends _ _) | .mark (.credits _ _) | .mark (.advances _ _)
  | .mark (.timed _) | .mark (.removes _ _) | .mark (.opens _) | .mark (.resets _)
  | .mark (.begins _ _ _ _ _) | .mark (.finishes _ _) | .mark (.proxies _) | .suspend _
  | .cancel _ =>
    inferInstanceAs (Decidable (_ ∧ True))

theorem Settled.not_leaving (h : Settled v p)
    (htasks : ∀ t, v.state.nextTask ≤ t.serial → ¬v.state.Live t) : ¬Leaving v p := by
  rintro (⟨n, hn⟩ | ⟨r, hr⟩)
  · rcases Nat.lt_or_ge n v.state.nextTask with hlt | hge
    · exact h.1 n hlt hn
    · exact htasks _ hge hn
  · exact absurd (h.2 _ hr) (by simp [Frame.disconnects])

/-- The setting in which the maps are sound and those to be removed are away. -/
def gracefully : Setting World Frame Mark := (soundly graced).and Grace

theorem Leaving.mono {v' : View World Frame Mark} (hstate : v'.state = v.state)
    (hw : v'.waiting ≤ v.waiting) (h : Leaving v' p) : Leaving v p := by
  rcases h with ⟨n, hn⟩ | ⟨r, hr⟩
  · exact .inl ⟨n, hstate ▸ hn⟩
  · exact .inr ⟨r, Multiset.mem_of_le hw hr⟩

/-- Fewer calls are waiting. -/
theorem Grace.mono {v' : View World Frame Mark} (h : Grace v) (hstate : v'.state = v.state)
    (hw : v'.waiting ≤ v.waiting) : Grace v' where
  away p hp := by
    rw [hstate]
    exact h.away p (hp.mono hstate hw)
  due p n hn := by
    rw [hstate] at hn ⊢
    exact h.due p n hn

theorem Grace.of_add {R : Multiset Frame} (h : Grace (v.add R)) : Grace v :=
  h.mono rfl (Multiset.le_add_left _ _)

/-- A step that schedules no removal. -/
theorem Grace.step (h : Grace v)
    (htask : ∀ p n, w.Live ⟨.cleanup p, n⟩ → v.state.Live ⟨.cleanup p, n⟩ ∧
      (w.task ⟨.cleanup p, n⟩).created = (v.state.task ⟨.cleanup p, n⟩).created ∧
      (w.task ⟨.cleanup p, n⟩).due = (v.state.task ⟨.cleanup p, n⟩).due)
    (haway : ∀ p, Leaving v p → v.state.Away p → w.Away p) : Grace (v.set w) where
  away p hp := by
    have hleaving : Leaving v p := by
      rcases hp with ⟨n, hn⟩ | hr
      · exact .inl ⟨n, (htask p n hn).1⟩
      · exact .inr hr
    exact haway p hleaving (h.away p hleaving)
  due p n hn := by
    obtain ⟨hlive, hcreated, hdue⟩ := htask p n hn
    rw [View.set_state, hcreated, hdue]
    exact h.due p n hlive

/-- A step that leaves the tasks alone. -/
theorem Grace.quiet (h : Grace v) (htask : w.task = v.state.task)
    (haway : ∀ p, Leaving v p → v.state.Away p → w.Away p) : Grace (v.set w) :=
  h.step (fun p n hn => by
    rw [World.Live, htask] at hn
    rw [htask]
    exact ⟨hn, rfl, rfl⟩) haway

/-- Somebody who is away stays away. -/
theorem World.Away.change {S : List Eff} (hS : ∀ x ∈ [Eff.rooms, .members, .connection], x ∉ S)
    {w w' : World} (hw : w.Sound) (h : (fp S).change w w') (hp : w.Away p) : w'.Away p := by
  intro x hx hmem
  have hx : x ∈ w.rooms := (same_of_fp h .rooms (hS _ (by simp))).world.1 ▸ hx
  have hr : x.2 < w.nextRoom := hw.rooms x hx
  have hmem : p ∈ (w.room x.2).players :=
    (same_of_fp h .members (hS _ (by simp))).room x.2 hr ▸ hmem
  have hconn :=
    (same_of_fp h .connection (hS _ (by simp))).player x.2 hr p (hw.members x.2 hr p hmem)
  exact hconn.1.trans (hp x hx hmem)

theorem Grace.change {S : List Eff} (hS : ∀ x ∈ [Eff.rooms, .members, .connection, .cleanup], x ∉ S)
    (hsound : v.state.Sound) (h : Grace v) (hw : (fp S).change v.state w) : Grace (v.set w) := by
  refine h.step (fun p n hn => ?_) fun p _ hp => hp.change (fun x hx => hS x ?_) hsound hw
  · have htask := (same_of_fp hw .cleanup (hS _ (by simp))).task ⟨.cleanup p, n⟩ (by simp)
    rw [World.Live, htask] at hn
    rw [htask]
    exact ⟨hn, rfl, rfl⟩
  · simp only [List.mem_cons, List.not_mem_nil, or_false] at hx ⊢
    tauto

/-- A footprint without rooms, members, connections and removals keeps the grace. -/
theorem gracefully_keeps {S : List Eff}
    (hS : ∀ x ∈ [Eff.rooms, .members, .connection, .cleanup, .disconnecting], x ∉ S) :
    gracefully.Keeps (fp S) where
  change v s h hv := ⟨hv.1.change (hS _ (by simp)) (hS _ (by simp)) h,
    hv.2.change (fun x hx => hS x (by
      simp only [List.mem_cons, List.not_mem_nil, or_false] at hx ⊢
      tauto)) hv.1 h⟩
  mark v e R _ _ hv := ⟨hv.1, hv.2.mono rfl le_rfl⟩
  frame x hx := by
    refine ⟨fun v => ⟨fun hv => ⟨hv.1, hv.2.of_add⟩, fun hv => ⟨hv.1, ?_⟩⟩⟩
    have hmem : ∀ r p, Frame.disconnecting r p ∈ (v.add {x}).waiting →
        Frame.disconnecting r p ∈ v.waiting := by
      intro r p h
      rcases Multiset.mem_add.mp h with h | h
      · rw [← Multiset.mem_singleton.mp h] at hx
        exact absurd hx (hS .disconnecting (by simp))
      · exact h
    exact ⟨fun p hp => hv.2.away p (hp.imp_right fun ⟨r, hr⟩ => ⟨r, hmem r p hr⟩), hv.2.due⟩
  fails _ v R hv := ⟨hv.1, hv.2.of_add⟩

instance : Plain gracefully := ⟨gracefully_keeps (by decide)⟩

/-! ## Members leave -/

theorem World.Away.removePlayer (r : RoomId) (q : PlayerId) (hp : w.Away p) :
    ((Update.room r (.removePlayer q)).apply w).Away p := by
  intro x hx hmem
  refine hp x hx ?_
  by_cases hr : x.2 = r
  · subst hr
    simp only [Update.apply, RoomUpdate.apply, Function.update_self, List.mem_filter] at hmem
    exact hmem.1
  · simpa only [Update.apply, Function.update_of_ne hr] using hmem

instance (r : RoomId) (p : PlayerId) : Stable gracefully (dropPlayer r p) := .and fun R v _ hg => by
  unfold dropPlayer
  simp only [wp_bind, wp_mark, wp_put]
  intro _
  have hdrop : Grace ((v.add R).set _) := hg.quiet
    (w := (Update.playerToRoom p none).apply ((Update.room r (.removePlayer p)).apply v.state)) rfl
    fun q _ hq => hq.removePlayer r p
  exact hdrop.mono rfl le_rfl

instance (code : String) : Stable gracefully (deleteRoom code) where
  out R v hv := by
    unfold deleteRoom
    rw [wp_bind, wp_read, wp_bind, wp_put]
    refine Stable.out R _ ⟨?_, ?_⟩
    · exact hv.1.setRooms fun x hx => hv.1.rooms x (List.mem_of_mem_filter hx)
    · exact hv.2.quiet (w := (Update.rooms _).apply v.state) rfl fun q _ hq x hx =>
        hq x (List.mem_of_mem_filter hx)

/-! ## Restored rooms -/

/-- Restored players are not connected. -/
theorem restore_isConnected (x : RoomSnapshot) (now : ℚ) (hp : p ∈ x.players.map (·.id)) :
    (((x.players.find? (·.id = p)).map (·.restore now)).getD
      ({ id := p, name := "" } : Player)).isConnected = false := by
  obtain ⟨y, hy, rfl⟩ := List.mem_map.mp hp
  cases hfind : x.players.find? (·.id = y.id) with
  | none => exact absurd (List.find?_eq_none.mp hfind y hy) (by simp)
  | some z => rfl

instance (x : RoomSnapshot) : Stable gracefully (restoreRoom x) := .and fun R v hs hg => by
  unfold restoreRoom
  dsimp only
  simp only [wp_bind, wp_read, wp_put, wp_mark, wp_elim, wp_when, wp_pure]
  intro _ _
  -- the members of the new room are those of the snapshot
  refine wp_mono (wp_each (fun l v' => (∀ y ∈ l, y ∈ x.players) ∧
    v'.state.task = v.state.task ∧ v'.waiting = v.waiting ∧
    (∀ r < v.state.nextRoom, v'.state.room r = v.state.room r) ∧
    (∀ r < v.state.nextRoom, v'.state.player r = v.state.player r) ∧
    (∀ q ∈ (v'.state.room v.state.nextRoom).players, q ∈ x.players.map (·.id)) ∧
    ∀ q ∈ x.players.map (·.id), (v'.state.player v.state.nextRoom q).isConnected = false)
    (fun y l v' hv' => ?_) ?_) fun _ v' hv' => ?_
  · obtain ⟨hl, htask, hwaiting, hroom, hplayer, hmembers, hoff⟩ := hv'
    simp only [wp_bind, wp_put]
    refine ⟨fun z hz => hl z (List.mem_cons_of_mem _ hz), htask, hwaiting, fun r hr => ?_, hplayer,
      fun q hq => ?_, hoff⟩
    · simpa [Update.apply, Function.update_of_ne hr.ne] using hroom r hr
    · simp only [Update.apply, RoomUpdate.apply, View.set_state, Function.update_self,
        List.mem_append, List.mem_singleton] at hq
      rcases hq with hq | rfl
      · exact hmembers q hq
      · exact List.mem_map_of_mem (hl y List.mem_cons_self)
  · refine ⟨fun _ h => h, rfl, rfl, fun r hr => ?_, fun r hr => ?_, ?_, fun q hq => ?_⟩
    · simp [Update.apply, Function.update_of_ne hr.ne]
    · simp [Update.apply, Function.update_of_ne hr.ne]
    · simp [Update.apply]
    · simpa [Update.apply] using restore_isConnected x v.state.now hq
  · obtain ⟨-, htask, hwaiting, hroom, hplayer, hmembers, hoff⟩ := hv'
    -- in the rooms that were there nothing has changed; nobody in the new one is connected
    have haway : ∀ w : World, (∀ r, (w.room r).players = (v'.state.room r).players) →
        w.player = v'.state.player → w.rooms = dictSet v.state.rooms x.code v.state.nextRoom →
        ∀ q, v.state.Away q → w.Away q := by
      intro w hroom' hplayer' hrooms q hq y hy hmem
      rw [hrooms] at hy
      rw [hroom'] at hmem
      rw [hplayer']
      rcases mem_dictSet hy with hy | rfl
      · have hlt := hs.rooms y hy
        rw [hroom _ hlt] at hmem
        rw [hplayer _ hlt]
        exact hq y hy hmem
      · exact hoff q (hmembers q hmem)
    have hend : ∀ w : World, w.task = v'.state.task →
        (∀ r, (w.room r).players = (v'.state.room r).players) → w.player = v'.state.player →
        w.rooms = dictSet v.state.rooms x.code v.state.nextRoom → Grace ((v'.set w).add R) := by
      intro w htask' hroom' hplayer' hrooms
      refine Grace.mono (v := (v.add R).set w) (hg.quiet (htask'.trans htask) fun q _ hq =>
        haway w hroom' hplayer' hrooms q hq) rfl (le_of_eq ?_)
      simp [hwaiting]
    refine ⟨fun _ => ?_, fun turn _ => ⟨fun _ => ?_, fun _ => ?_⟩⟩
    · exact hend _ rfl (fun _ => rfl) rfl rfl
    · refine hend ((Update.rooms _).apply ((Update.newTurn _ _).apply v'.state)) rfl (fun r => ?_)
        rfl rfl
      by_cases hr : r = v.state.nextRoom
      · subst hr
        simp [Update.apply]
      · simp [Update.apply, Function.update_of_ne hr]
    · exact hend _ rfl (fun _ => rfl) rfl rfl

instance (code : String) : Stable gracefully (adoptSnapshot code) := by
  unfold adoptSnapshot; infer_instance

/-! ## Disconnects -/

/-- The player loses its connection: it is away. -/
theorem markDisconnected_grace {R : Multiset Frame} (hv : gracefully.inv (v.add R)) :
    (markDisconnected r p).wp gracefully R
      (fun _ v' => gracefully.inv (v'.add R) ∧ v'.state.Away p) v := by
  refine wp_mono (Q := fun _ v' => (soundly graced).inv (v'.add R) ∧
    (Grace (v'.add R) ∧ v'.state.Away p)) ?_ fun _ _ h => ⟨⟨h.1, h.2.1⟩, h.2.2⟩
  refine wp_and (Stable.out R v hv.1) ?_
  unfold markDisconnected
  simp only [wp_bind, wp_read, wp_mark, wp_put]
  intro hm
  have hplayer : ∀ (r' : RoomId) (q : PlayerId), ¬(r' = r ∧ q = p) →
      ((Update.player r p (.disconnect v.state.now)).apply v.state).player r' q =
        v.state.player r' q := fun r' q hne => by
    simp [Update.apply, hne]
  have hoff : (((Update.player r p (.disconnect v.state.now)).apply v.state).player r p).isConnected
      = false := by
    simp [Update.apply, PlayerUpdate.apply]
  refine ⟨?_, fun x hx hmem => ?_⟩
  · have hset :
        Grace ((v.add R).set ((Update.player r p (.disconnect v.state.now)).apply v.state)) := by
      refine hv.2.quiet rfl fun q _ hq x hx hmem => ?_
      by_cases heq : x.2 = r ∧ q = p
      · obtain ⟨hxr, rfl⟩ := heq
        rw [hxr]
        exact hoff
      · rw [hplayer _ _ heq]
        exact hq x hx hmem
    exact hset.mono rfl le_rfl
  · by_cases heq : x.2 = r
    · rw [heq]
      exact hoff
    · change (((Update.player r p (.disconnect v.state.now)).apply v.state).player x.2
        p).isConnected =
        false
      rw [hplayer _ _ fun h => heq h.1]
      exact hm.2 x hx heq hmem

/-- An assignment that keeps who is connected. -/
theorem Grace.put_player (h : Grace v) (r : RoomId) (p : PlayerId) (u : PlayerUpdate)
    (hu : ∀ x : Player, (u.apply x).isConnected = x.isConnected) :
    Grace (v.set ((Update.player r p u).apply v.state)) := by
  refine h.quiet rfl fun q _ hq x hx hmem => ?_
  simp only [Update.apply]
  split
  · rename_i heq
    obtain ⟨rfl, rfl⟩ := heq
    exact (hu _).trans (hq x hx hmem)
  · exact hq x hx hmem

/-- A removal is scheduled. -/
theorem Grace.schedule (h : Grace v) (haway : v.state.Away p) :
    Grace (v.set ((Update.createTask (.cleanup p) 120).apply v.state)) := by
  have hold : ∀ q n, ((Update.createTask (.cleanup p) 120).apply v.state).Live ⟨.cleanup q, n⟩ →
      q = p ∧ n = v.state.nextTask ∨ v.state.Live ⟨.cleanup q, n⟩ ∧
        ((Update.createTask (.cleanup p) 120).apply v.state).task ⟨.cleanup q, n⟩ =
          v.state.task ⟨.cleanup q, n⟩ := by
    intro q n hn
    by_cases hnew : (⟨.cleanup q, n⟩ : TaskId) = ⟨.cleanup p, v.state.nextTask⟩
    · left
      simpa using hnew
    · right
      have htask : ((Update.createTask (.cleanup p) 120).apply v.state).task ⟨.cleanup q, n⟩ =
          v.state.task ⟨.cleanup q, n⟩ := by simp only [Update.apply, Function.update_of_ne hnew]
      refine ⟨?_, htask⟩
      rwa [World.Live, htask] at hn
  refine ⟨fun q hq => ?_, fun q n hn => ?_⟩
  · rcases hq with ⟨n, hn⟩ | hframe
    · rcases hold q n hn with ⟨rfl, -⟩ | ⟨hn, -⟩
      · exact haway
      · exact h.away q (.inl ⟨n, hn⟩)
    · exact h.away q (.inr hframe)
  · rcases hold q n hn with ⟨rfl, rfl⟩ | ⟨hn, htask⟩
    · simp [Update.apply]
    · rw [View.set_state, htask]
      exact h.due q n hn

theorem scheduleCleanup_grace {R : Multiset Frame} (hv : gracefully.inv (v.add R))
    (haway : v.state.Away p) :
    (scheduleCleanup r p).wp gracefully R (fun _ v' => gracefully.inv (v'.add R)) v := by
  refine wp_and (Stable.out R v hv.1) ?_
  unfold scheduleCleanup
  simp only [wp_bind, wp_createTask, wp_put]
  have hput := (hv.2.schedule haway).put_player r p (.cleanupTask (some v.state.nextTask))
    fun _ => rfl
  exact hput.mono rfl le_rfl

instance (env : Env) (p : PlayerId) : Stable gracefully (handleDisconnect env p) where
  out R v hv := by
    unfold handleDisconnect
    rw [wp_bind]
    refine findRoomByPlayer_wp fun o w hw ho => ?_
    have hw' : gracefully.inv ((v.set w).add R) :=
      ⟨World.Sound.change (by decide) (by decide) hv.1 hw, hv.2.change (by decide) hv.1 hw⟩
    rw [wp_elim]
    refine ⟨fun _ => Stable.out R _ hw', fun r hr => ?_⟩
    rw [wp_bind, wp_readRoom, wp_when]
    refine ⟨fun _ => ?_, fun _ => hw'⟩
    rw [wp_bind]
    refine wp_mono (markDisconnected_grace hw') fun _ v₁ ⟨hv₁, haway⟩ => ?_
    -- until the removal is scheduled, the frame says that the player is away
    have hframe : gracefully.inv (v₁.add (.disconnecting r p ::ₘ R)) := by
      refine ⟨hv₁.1, fun q hq => ?_, hv₁.2.due⟩
      rcases hq with hlive | ⟨r', hr'⟩
      · exact hv₁.2.away q (.inl hlive)
      · rw [View.add_waiting, Multiset.cons_add, Multiset.mem_cons] at hr'
        rcases hr' with heq | hr'
        · cases heq
          exact haway
        · exact hv₁.2.away q (.inr ⟨r', hr'⟩)
    rw [wp_bind, wp_frame]
    refine wp_mono (Stable.out _ v₁ hframe) fun _ v₂ hv₂ => ?_
    rw [wp_bind, wp_frame]
    refine wp_mono (Stable.out _ v₂ hv₂) fun deleted v₃ hv₃ => ?_
    have hv₃' : gracefully.inv (v₃.add R) :=
      ⟨hv₃.1, hv₃.2.mono rfl (by simp [Multiset.cons_add, Multiset.le_cons_self])⟩
    rw [wp_when]
    refine ⟨fun _ => ?_, fun _ => hv₃'⟩
    exact wp_then (scheduleCleanup_grace hv₃' (hv₃.2.away p (.inr ⟨r, by simp⟩)))

/-! ## Connections -/

/-- The player whose removal is neither scheduled nor going to be gets a connection. -/
theorem Grace.connect (h : Grace v) (u : Update) (hp : ¬Leaving v p)
    (htask : (u.apply v.state).task = v.state.task)
    (haway : ∀ q, q ≠ p → v.state.Away q → (u.apply v.state).Away q) :
    Grace (v.set (u.apply v.state)) :=
  h.quiet htask fun q hq haq => haway q (fun heq => hp (heq ▸ hq)) haq

/-- An assignment to something else. -/
theorem Grace.put (h : Grace v) (u : Update) (htask : ∀ w, (u.apply w).task = w.task)
    (haway : ∀ (w : World) q, w.Away q → (u.apply w).Away q) :
    Grace (v.set (u.apply v.state)) := h.quiet (htask _) fun q _ => haway _ q

/-- Another player takes a seat. -/
theorem World.Away.addPlayer (r : RoomId) (hne : q ≠ p) (hq : w.Away q) :
    ((Update.room r (.addPlayer p)).apply w).Away q := by
  intro x hx hmem
  refine hq x hx ?_
  by_cases hr : x.2 = r
  · subst hr
    simp only [Update.apply, RoomUpdate.apply, Function.update_self, List.mem_append,
      List.mem_singleton] at hmem
    exact hmem.resolve_right hne
  · simpa only [Update.apply, Function.update_of_ne hr] using hmem

theorem Grace.addPlayer (h : Grace v) (r : RoomId) (hp : ¬Leaving v p) :
    Grace (v.set ((Update.room r (.addPlayer p)).apply v.state)) :=
  h.connect (.room r (.addPlayer p)) hp rfl fun _ hne hq => hq.addPlayer r hne

instance (r : RoomId) (code name : String) (ws : WsId) (avatar : Option String)
    (isSpectator : Bool) : StableAlone gracefully (admitPlayer r code name ws avatar isSpectator) :=
  .of fun v hv => by
    refine wp_and (Stable.zero inferInstance hv.1) ?_
    unfold admitPlayer
    simp only [wp_bind, wp_newPlayer, wp_mark, wp_put, wp_pure]
    intro hm
    have hnew := hv.2.change (S := [.players]) (by decide) hv.1 (fp_of_update (.newPlayer r fun p =>
      { id := p, name := name, websocket := some ws, avatar := avatar, isSpectator := isSpectator })
      (by simp) _)
    have hadd :=
      ((hnew.addPlayer r (hm.2.not_leaving hv.1.tasks)).put (.playerToRoom (.uuid v.state.nextUuid)
        (some code))
      (fun _ => rfl) fun _ _ h => h).put (.wsToPlayer ws (some (.uuid v.state.nextUuid, code)))
        (fun _ => rfl) fun _ _ h => h
    exact hadd.mono rfl le_rfl

theorem World.Away.hostId (r : RoomId) (host : PlayerId) (hq : w.Away q) :
    ((Update.room r (.hostId host)).apply w).Away q := by
  intro x hx hmem
  refine hq x hx ?_
  by_cases hr : x.2 = r
  · subst hr
    simpa [Update.apply, RoomUpdate.apply] using hmem
  · simpa only [Update.apply, Function.update_of_ne hr] using hmem

/-- A new room is in no map yet. -/
theorem Grace.newRoom (h : Grace v) (hs : v.state.Sound) {x : Room} (members : PlayerId → Player) :
    Grace (v.set ((Update.newRoom x members).apply v.state)) := by
  refine h.quiet rfl fun q _ hq y hy hmem => ?_
  have hne : y.2 ≠ v.state.nextRoom := (hs.rooms y hy).ne
  simp only [Update.apply, Function.update_of_ne hne] at hmem ⊢
  exact hq y hy hmem

instance (env : Env) (draws : List String) (name : String) (ws : WsId)
    (avatar password : Option String) (maxPlayers : Option Int) :
    StableAlone gracefully (createRoom env draws name ws avatar password maxPlayers) :=
  .of fun v hv => by
    unfold createRoom
    dsimp only
    simp only [wp_bind, wp_read, wp_ite, wp_elim, wp_pure, wp_raise, wp_put, wp_newPlayer, wp_mark]
    refine ⟨fun _ => hv, fun _ => ⟨fun _ => ⟨fun _ => hv, fun code _ _ hm => ?_⟩, fun _ _ => hv⟩⟩
    refine Stable.zero inferInstance ⟨hv.1.create rfl _ _ code, ?_⟩
    have hroom := hv.2.newRoom hv.1 (x := { code := code, hostId := .other "", config :=
      { password := env.newPassword password, maxPlayers := newMaxPlayers maxPlayers } })
      fun p => { id := p, name := "" }
    have hnew := hroom.change (S := [.players]) (by decide) (hv.1.newRoom _ rfl)
      (fp_of_update (.newPlayer v.state.nextRoom fun p =>
        { id := p, name := name, websocket := some ws, avatar := avatar }) (by simp) _)
    have hp := hm.2.not_leaving hv.1.tasks
    have hhost := hnew.put (.room v.state.nextRoom (.hostId (.uuid v.state.nextUuid)))
      (fun _ => rfl) fun _ _ h => World.Away.hostId _ _ h
    have hadd := hhost.addPlayer (p := .uuid v.state.nextUuid) v.state.nextRoom hp
    have hrooms := hadd.connect (p := .uuid v.state.nextUuid)
      (.rooms (v.state.rooms ++ [(code, v.state.nextRoom)])) hp rfl fun q hne hq y hy hmem => ?_
    · exact (hrooms.put (.playerToRoom (.uuid v.state.nextUuid) (some code)) (fun _ => rfl)
        fun _ _ h => h).mono rfl le_rfl
    · -- the new room has no other member
      rcases List.mem_append.mp hy with hy | hy
      · exact hq y hy hmem
      · rw [List.mem_singleton.mp hy] at hmem
        simp [Update.apply, RoomUpdate.apply, hne] at hmem

/-- The stored removal is cancelled. -/
theorem Grace.cancel (h : Grace v) (t : TaskId) :
    Grace (v.set ((Update.cancel t).apply v.state)) := by
  refine h.step (fun q n hn => ?_) fun q _ hq => hq
  have htask := v.state.task_of_cancel t hn
  rw [World.Live, htask] at hn
  rw [htask]
  exact ⟨hn, rfl, rfl⟩

theorem cancelCleanup_grace {R : Multiset Frame} (hv : Grace (v.add R)) :
    (cancelCleanup r p).wp ((soundly graced).given Grace) R (fun _ v' => Grace (v'.add R)) v := by
  unfold cancelCleanup
  simp only [wp_bind, wp_read, wp_elim, wp_when, wp_pure, wp_cancel, wp_put]
  refine ⟨fun _ => hv, fun t _ => ⟨fun _ => ?_, fun _ => hv⟩⟩
  have hput := (hv.cancel ⟨.cleanup p, t⟩).put_player r p (.cleanupTask none) fun _ => rfl
  exact hput.mono rfl le_rfl

instance (r : RoomId) (p : PlayerId) : Stable (soundly graced) (cancelCleanup r p) :=
  .of_within inferInstance (soundly_keeps (S := [.cleanup]) (by decide) (by decide))

instance (r : RoomId) (p : PlayerId) : Stable gracefully (cancelCleanup r p) :=
  .and fun _ _ _ hv => cancelCleanup_grace hv

instance (r : RoomId) (p : PlayerId) (ws : WsId) (avatar : Option String) :
    StableAlone gracefully (restoreConnection r p ws avatar) :=
  .of fun v hv => by
    unfold restoreConnection
    rw [wp_bind]
    refine wp_mono (Stable.zero inferInstance hv) fun _ v₁ hv₁ => ?_
    rw [wp_bind]
    refine wp_mono (Stable.zero inferInstance hv₁) fun _ v₂ hv₂ => ?_
    simp only [wp_bind, wp_mark, wp_put]
    intro hm
    have hconnect : Grace (v₂.set ((Update.player r p (.connect ws)).apply v₂.state)) := by
      refine hv₂.2.connect (.player r p (.connect ws)) (hm.2.not_leaving hv₂.1.tasks) rfl
          fun q hne hq x hx hmem => ?_
      have hplayer : ((Update.player r p (.connect ws)).apply v₂.state).player x.2 q =
          v₂.state.player x.2 q := by
        simp [Update.apply, hne]
      rw [hplayer]
      exact hq x hx hmem
    refine Stable.zero inferInstance ⟨?_, hconnect.mono rfl le_rfl⟩
    exact hv₂.1.put (.player r p (.connect ws)) (by simp) (by simp)

section Keeping

instance (env : Env) (name code : String) (ws : WsId) (avatar : Option String) (asSpectator : Bool)
    (password : Option String) (remote : Option Message) :
    StableAlone gracefully (joinRoom env name code ws avatar asSpectator password remote) := by
  unfold joinRoom joinRoomLocal; infer_instance

instance (p : PlayerId) (requestId : RequestId) (action : String) :
    StableAlone gracefully (respondJoinRequest p requestId action) := by
  unfold respondJoinRequest admitRequester; dsimp only; infer_instance

instance (name code : String) (ws : WsId) (avatar : Option String) :
    StableAlone gracefully (handleReconnect name code ws avatar) := by
  unfold handleReconnect; dsimp only; infer_instance

/-- Every call keeps the grace. -/
theorem call_grace (env : Env) (o : Op) {v : View World Frame Mark} (hv : gracefully.inv v) :
    (o.call env).wp gracefully 0 (fun _ => gracefully.inv) v := by
  cases o with
  | cleanupStream players =>
    refine wp_each (fun _ => gracefully.inv) (fun p _ _ h => ?_) hv
    exact wp_attempt (Stable.zero inferInstance h) fun _ h => h
  | clientDisconnected p => exact Stable.zero (c := handleDisconnect env p) inferInstance hv
  | createRoom | joinRoom | reconnect =>
    unfold Op.call answerIdentity
    exact StableIn.zero (P := fun R => R = 0) inferInstance rfl hv
  | respondJoinRequest =>
    unfold Op.call answer
    exact StableIn.zero (P := fun R => R = 0) inferInstance rfl hv
  | _ => refine Stable.zero ?_ hv; unfold Op.call; dsimp only; infer_instance

theorem Grace.setStatus (h : Grace v) (t : TaskId) (status : TaskStatus) (hs : status ≠ .sleeping) :
    Grace (v.set (v.state.setStatus t status)) := by
  refine h.step (fun q n hn => ?_) fun q _ hq => hq
  have htask := World.task_of_setStatus hs hn
  rw [World.Live, htask] at hn
  rw [htask]
  exact ⟨hn, rfl, rfl⟩

/-- Everything keeps the grace. -/
theorem worker_grace (env : Env) : (worker env).Keeps gracefully where
  call o _ _ hv := call_grace env o hv
  fire t v _ _ hv := (body_stable t).zero
    ⟨hv.1.setStatus t (by decide), hv.2.setStatus t .running (by decide)⟩
  finish t v hv := ⟨hv.1.setStatus t (by decide), hv.2.setStatus t .done (by decide)⟩
  cancel t v fs _ _ hv :=
    ⟨World.Sound.setStatus t (show TaskStatus.done ≠ .sleeping by decide) hv.1,
      hv.2.of_add.setStatus t .done (by decide)⟩

end Keeping

/-! ## Runs -/

variable {env : Env} {transport : WsId → Transport} {redis : Bool} {oracle : List Nat}
  {snapshots : String → Option RoomSnapshot} {c c₁ c₂ : Config World Frame Mark TaskId}

/-- In every state that a worker reaches, those to be removed are away. -/
theorem graced_of_run
    (h : (worker env).Run graced (startConfig (World.start transport redis oracle snapshots)) c)
    (hc : c.running = none) : c.state.Sound ∧ Grace c.view := by
  refine ((worker_grace env).run (worker_changes env) h (Loop.inside_of_quiet rfl rfl)
    (fun _ _ _ => trivial) (Loop.ready_of_quiet rfl rfl ⟨World.start_sound _ _ _ _, ?_⟩)).idle hc
  refine ⟨fun p hp x hx => ?_, fun p n hn => ?_⟩
  · cases hx
  · exact absurd hn (by simp [World.start, startConfig, World.Live, Config.view])

/-- **A player is removed after 120 seconds without a connection**: when a removal is due that was
scheduled by the time of `c₁`, the player was away in `c₁`. -/
theorem grace_of_run
    (h₁ : (worker env).Run graced (startConfig (World.start transport redis oracle snapshots)) c₁)
    (h₂ : (worker env).Run graced c₁ c₂) (hc₁ : c₁.running = none) {n : Nat}
    (hn : n < c₁.state.nextTask) (hdue : (worker env).due ⟨.cleanup p, n⟩ c₂.state = true) :
    c₁.state.Away p ∧ (c₁.state.task ⟨.cleanup p, n⟩).created + 120 ≤ c₂.state.now := by
  have hdue := of_decide_eq_true hdue
  have hinside := (Loop.run_change (worker_changes env) h₁ (Loop.inside_of_quiet rfl rfl)).1
  have hextends := (Loop.run_change (worker_changes env) h₂ hinside).2
  obtain ⟨hlive, hcreated, hdue₁⟩ := hextends.task ⟨.cleanup p, n⟩ hn hdue.1
  have hgrace := (graced_of_run h₁ hc₁).2
  refine ⟨hgrace.away p (.inl ⟨n, hlive⟩), ?_⟩
  have h120 : (c₁.state.task ⟨.cleanup p, n⟩).due = (c₁.state.task ⟨.cleanup p, n⟩).created + 120 :=
    hgrace.due p n hlive
  rw [← h120, ← hdue₁]
  exact hdue.2

/-- The connection of player `1` is closed. -/
def sampleClosed : Loop.Choice TaskId Op × List Bool :=
  (.call (.websocketClosed 1 (some (.uuid 1))), [])

/-- A player disconnects, and 120 seconds later the removal is due. -/
theorem removed_after_grace : ∃ c, (worker sampleEnv).Run graced (startConfig sampleWorld) c ∧
    (worker sampleEnv).due ⟨.cleanup (.uuid 1), 0⟩ c.state = true ∧ c.state.Away (.uuid 1) ∧
    (c.state.task ⟨.cleanup (.uuid 1), 0⟩).created + 120 ≤ c.state.now := by
  have hplay : ((worker sampleEnv).play graced (startConfig sampleWorld)
      (sampleLobby 2 ++ [sampleClosed, (.call (.sleep 120), [])])).any (fun c =>
        0 < c.state.nextTask ∧ (worker sampleEnv).due ⟨.cleanup (.uuid 1), 0⟩ c.state = true) =
      true := by
    decide +kernel
  obtain ⟨c, hrun, hidle, hc⟩ := Loop.exists_run_of_play rfl hplay
  obtain ⟨hn, hdue⟩ := of_decide_eq_true hc
  exact ⟨c, hrun, hdue, grace_of_run hrun .refl hidle hn hdue⟩

/-- **A disconnect is reported twice**: the second removal is stored over the first, the reconnect
cancels the second only, and the first removes the player that is connected. -/
theorem removed_while_connected : ∃ c c',
    (worker sampleEnv).Run freshIds (startConfig sampleWorld) c ∧
    c.running = none ∧ (c.state.player 0 (.uuid 1)).isConnected = true ∧
    ("ROOM01", 0) ∈ c.state.rooms ∧ .uuid 1 ∈ (c.state.room 0).players ∧
    (worker sampleEnv).due ⟨.cleanup (.uuid 1), 0⟩ c.state = true ∧
    (worker sampleEnv).Run freshIds c c' ∧ .uuid 1 ∉ (c'.state.room 0).players := by
  have hplay : ((worker sampleEnv).play freshIds (startConfig sampleWorld)
      (sampleLobby 2 ++ [sampleClosed, (.call (.clientDisconnected (.uuid 1)), []),
        (.call (.reconnect "p1" "ROOM01" 9 none), []), (.call (.sleep 120), [])])).any (fun c =>
        (c.state.player 0 (.uuid 1)).isConnected = true ∧ ("ROOM01", 0) ∈ c.state.rooms ∧
        .uuid 1 ∈ (c.state.room 0).players ∧
        (worker sampleEnv).due ⟨.cleanup (.uuid 1), 0⟩ c.state = true ∧
        ((worker sampleEnv).play freshIds c [(.fire ⟨.cleanup (.uuid 1), 0⟩, [])]).any (fun c' =>
          .uuid 1 ∉ (c'.state.room 0).players) = true) = true := by
    decide +kernel
  obtain ⟨c, hrun, hidle, hc⟩ := Loop.exists_run_of_play rfl hplay
  obtain ⟨hconnected, hroom, hmember, hdue, hfire⟩ := of_decide_eq_true hc
  obtain ⟨c', hrun', -, hc'⟩ := Loop.exists_run_of_play hidle hfire
  exact ⟨c, c', hrun, hidle, hconnected, hroom, hmember, hdue, hrun', of_decide_eq_true hc'⟩

end Skribbl.Backend
