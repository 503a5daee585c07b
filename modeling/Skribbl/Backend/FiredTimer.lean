import Skribbl.Lib.Cancellation
import Skribbl.Backend.TurnSpecs
import Skribbl.Backend.Worker

/-!
# The transitions of a fired timer

The turn timer runs `end_turn` and the auto-select task runs `handle_word_selection`, and both
functions cancel the task that is stored for them.

* `driveIn` — a coroutine of the worker, run in a task.
* `Undisturbed` — nobody else clears or makes a request to cancel the task.

Principal results: `firedTimer_completes_iff` — when the transition of a fired timer runs to its
end; `timer_cancels_itself` — a reachable run in which it does not.
-/

set_option autoImplicit false
set_option synthInstance.maxSize 100000

namespace Skribbl.Backend

open Coro

/-- Run a coroutine of the worker in the task `t`. -/
def driveIn (t : TaskId) (c : M Unit) (l : List (Option (World → World))) (w : World) :
    Driven Mark :=
  c.drive (fun w => (w.task t).cancelRequested) l w

/-- `end_turn`, called by the turn timer `n` of a turn, runs to its end. -/
def TimerCompletes (env : Env) (r : RoomId) (turn : TurnState) (n : Nat)
    (l : List (Option (World → World))) (w : World) : Prop :=
  let d := driveIn ⟨.turnTimer r turn.turnId, n⟩ (endTurn env r .timerExpired) l w
  d.outcome = .returned ∧ .advances r turn.turnId ∈ d.marks

/-- `handle_word_selection`, called by the auto-select task `n` of a drawer, runs to its end and
creates the tasks of the turn. -/
def AutoSelectCompletes (env : Env) (r : RoomId) (drawer : PlayerId) (n : Nat) (word : String)
    (l : List (Option (World → World))) (w : World) : Prop :=
  let d := driveIn ⟨.autoSelect r drawer, n⟩ (handleWordSelection env r drawer word) l w
  d.outcome = .returned ∧ ∃ turnId, .timed turnId ∈ d.marks

/-- What the other coroutines do while the task is suspended has no part in its cancellation. -/
def Undisturbed (t : TaskId) (l : List (Option (World → World))) : Prop :=
  ∀ others, some others ∈ l → ∀ w, ((others w).task t).cancelRequested = (w.task t).cancelRequested

/-- A footprint without the part that a task belongs to keeps its requests. -/
theorem requested_of_fp {S : List Eff} {x : Eff} (hx : x ∉ S) {t : TaskId} (ht : x ∈ t.kind.effs)
    {w w' : World} (h : (fp S).change w w') :
    (w'.task t).cancelRequested = (w.task t).cancelRequested := by
  rw [(same_of_fp h x hx).task t ht]

/-- A first part that has no await only leads to the state in which the rest is run. -/
theorem driveIn_bind {α : Type} {c : M α} {w : World} {Q : α → View World Frame Mark → Prop}
    (hc : c.wp .atomic 0 Q ⟨w, 0, []⟩) (t : TaskId) (f : α → M Unit)
    (l : List (Option (World → World))) :
    ∃ a v' marks, Q a v' ∧ ((c >>= f).Passes l w ↔ (f a).Passes l v'.state) ∧
      driveIn t (c >>= f) l w =
        ⟨(driveIn t (f a) l v'.state).outcome, marks ++ (driveIn t (f a) l v'.state).marks⟩ :=
  drive_bind hc

variable {env : Env} {r : RoomId} {n : Nat} {w : World} {l : List (Option (World → World))}

/-! ## The turn timer -/

section TurnTimer

variable {turn : TurnState}

/-- `end_turn` cancels the timer task that is stored in the turn. -/
theorem cancelTurnTasks_wp {X : Setting World Frame Mark} {R : Multiset Frame}
    {v : View World Frame Mark} (htask : turn.timerTask = some n)
    (hrun : (v.state.task ⟨.turnTimer r turn.turnId, n⟩).status = .running) :
    (cancelTurnTasks r turn).wp X R (fun _ v' => v'.state.room = v.state.room ∧
      v'.state.nextRoom = v.state.nextRoom ∧
      (v'.state.task ⟨.turnTimer r turn.turnId, n⟩).cancelRequested = true) v := by
  unfold cancelTurnTasks
  simp only [wp_bind, wp_cancel, htask, Option.elim_some]
  cases turn.hintTask40 <;> cases turn.hintTask70 <;>
    simp [Update.apply, Task.cancel, hrun]

/-- `end_turn` does not raise when it is not suspended. -/
theorem finishTurn_wp {R : Multiset Frame} {v : View World Frame Mark}
    (hr : r < v.state.nextRoom) (code : String) (duration : ℚ) (reason : TurnEndReason) :
    (finishTurn env r code duration turn reason).wp .unsuspended R (fun _ _ => True) v := by
  have hsuspend : ∀ fs v, ¬(Setting.unsuspended : Setting World Frame Mark).cond (.suspend fs) v :=
    fun _ _ h => h
  unfold finishTurn
  rw [wp_bind]
  refine wp_call [.ending] inferInstance (by decide) hsuspend fun scores v₁ h₁ => ?_
  rw [wp_bind]
  refine wp_call [.ending] inferInstance (by decide) hsuspend fun _ v₂ h₂ => ?_
  simp only [wp_bind, wp_put, wp_mark]
  intro _
  have hr₂ : r < v₂.state.nextRoom := hr.trans_le (h₁.1.nextRoom.trans h₂.1.nextRoom)
  refine advanceTurnOrRound_wp hr₂ (fun _ => ?_) (fun v₃ _ => ?_) (fun v₃ d h₃ hd => ?_)
  · exact wp_call [.countdown] inferInstance (by decide) hsuspend fun _ _ _ => trivial
  · exact wp_call [.state] inferInstance (by decide) hsuspend fun _ _ _ => trivial
  · exact startTurn_wp hsuspend (hr₂.trans_le h₃.1.nextRoom) hd fun _ _ => trivial

/-- An `end_turn` that returns has gone on to `advance_turn_or_round`. -/
theorem advances_of_returned {t : TaskId} {code : String} {duration : ℚ} {reason : TurnEndReason}
    (h : (driveIn t (finishTurn env r code duration turn reason) l w).outcome = .returned) :
    .advances r turn.turnId ∈ (driveIn t (finishTurn env r code duration turn reason) l
    w).marks := by
  unfold driveIn finishTurn at h ⊢
  obtain ⟨scores, l₁, w₁, h₁, hm₁⟩ := marks_of_returned h
  obtain ⟨_, l₂, w₂, h₂, hm₂⟩ := marks_of_returned h₁
  exact hm₁.subset (hm₂.subset (List.mem_cons_self ..))

/-- Once the timer task is cancelled, the rest of `end_turn` completes iff it is not suspended. -/
theorem finishTurn_completes_iff (env : Env) (code : String) (duration : ℚ) (hr : r < w.nextRoom)
    (hflag : (w.task ⟨.turnTimer r turn.turnId, n⟩).cancelRequested = true)
    (hl : Undisturbed ⟨.turnTimer r turn.turnId, n⟩ l) :
    let c := finishTurn env r code duration turn .timerExpired
    let d := driveIn ⟨.turnTimer r turn.turnId, n⟩ c l w
    d.outcome = .returned ∧ .advances r turn.turnId ∈ d.marks ↔ c.Passes l w := by
  intro c d
  constructor
  · rintro ⟨hret, -⟩
    by_contra hsuspended
    have hwithin : Within (fp [.ending, .turn, .schedule, .state, .pending, .autoSelect,
        .countdown, .raises]) c := by infer_instance
    have hcancelled : d.outcome = .cancelled := drive_cancelled hwithin
      (fun _ _ h hs => (requested_of_fp (x := .timers) (by decide) (by simp) h).trans hs)
      (fun others ho s hs => (hl others ho s).trans hs) hflag hsuspended
    rw [hcancelled] at hret
    cases hret
  · intro hpass
    have hwp : c.wp .unsuspended 0 (fun _ _ => True) ⟨w, 0, []⟩ :=
      finishTurn_wp hr code duration .timerExpired
    have hret : d.outcome = .returned := drive_of_wp hwp hpass
    exact ⟨hret, advances_of_returned hret⟩

/-- **A turn timer ends its turn iff `end_turn` is suspended at none of its awaits.** -/
theorem turnTimer_completes_iff (hr : r < w.nextRoom) (hturn : (w.room r).turn = some turn)
    (htask : turn.timerTask = some n)
    (hrun : (w.task ⟨.turnTimer r turn.turnId, n⟩).status = .running)
    (hl : Undisturbed ⟨.turnTimer r turn.turnId, n⟩ l) :
    TimerCompletes env r turn n l w ↔ (endTurn env r .timerExpired).Passes l w := by
  unfold TimerCompletes driveIn endTurn
  change (Coro.drive _ (Option.elim (w.room r).turn _ _) l w).outcome = _ ∧
    _ ∈ (Coro.drive _ (Option.elim (w.room r).turn _ _) l w).marks ↔
      Coro.Passes (Option.elim (w.room r).turn _ _) l w
  rw [hturn]
  obtain ⟨_, v', marks, ⟨-, hnext, hflag⟩, hp, hd⟩ := driveIn_bind (cancelTurnTasks_wp htask hrun)
    ⟨.turnTimer r turn.turnId, n⟩ (fun _ => finishTurn env r (w.room r).code
      (w.room r).config.turnDuration turn .timerExpired) l
  have hrest := finishTurn_completes_iff env (w.room r).code (w.room r).config.turnDuration
    (hr.trans_le hnext.ge) hflag hl
  refine Iff.trans ?_ (hrest.trans hp.symm)
  change (driveIn _ (cancelTurnTasks r turn >>= _) l w).outcome = _ ∧
    _ ∈ Mark.ends r turn.turnId :: (driveIn _ (cancelTurnTasks r turn >>= _) l w).marks ↔ _
  rw [hd]
  constructor
  · rintro ⟨hret, -⟩
    exact ⟨hret, advances_of_returned hret⟩
  · rintro ⟨hret, hmem⟩
    exact ⟨hret, List.mem_cons_of_mem _ (List.mem_append_right _ hmem)⟩

end TurnTimer

/-! ## The auto-select task -/

section AutoSelect

variable {drawer : PlayerId} {word : String}

/-- `handle_word_selection` cancels the auto-select task that is stored in the room. -/
theorem cancelAutoSelect_wp {X : Setting World Frame Mark} {R : Multiset Frame}
    {v : View World Frame Mark}
    (hrun : (v.state.task ⟨.autoSelect r drawer, n⟩).status = .running)
    (hflag : (v.state.task ⟨.autoSelect r drawer, n⟩).cancelRequested = false) :
    (cancelAutoSelect r).wp X R (fun _ v' =>
      (v'.state.task ⟨.autoSelect r drawer, n⟩).cancelRequested =
        decide ((v.state.room r).autoSelectTask = some (drawer, n))) v := by
  unfold cancelAutoSelect
  simp only [wp_bind, wp_read, wp_put, wp_elim, wp_when, wp_cancel, wp_pure, Option.elim_some]
  refine ⟨fun h => by simp [h, hflag], fun x hx => ⟨fun _ => ?_, fun hdone => ?_⟩⟩
  · by_cases hxt : x = (drawer, n)
    · simp [hx, hxt, Update.apply, Task.cancel, hrun]
    · have hne : (⟨.autoSelect r drawer, n⟩ : TaskId) ≠ ⟨.autoSelect r x.1, x.2⟩ := by
        rintro h
        apply hxt
        simp_all [Prod.ext_iff]
      simp [hx, hxt, Update.apply, Function.update_of_ne hne, hflag]
  · have hxt : x ≠ (drawer, n) := by
      rintro rfl
      simp [World.pendingTask, hrun] at hdone
    simp [hx, hxt, hflag]

theorem beginTurn_wp (env : Env) (word : String)
    (hrun : (w.task ⟨.autoSelect r drawer, n⟩).status = .running)
    (hflag : (w.task ⟨.autoSelect r drawer, n⟩).cancelRequested = false) :
    (beginTurn env r drawer word).wp .atomic 0
      (fun _ v' => (v'.state.task ⟨.autoSelect r drawer, n⟩).cancelRequested =
        decide ((w.room r).autoSelectTask = some (drawer, n))) ⟨w, 0, []⟩ := by
  unfold beginTurn
  rw [wp_bind]
  refine wp_mono (cancelAutoSelect_wp hrun hflag) fun _ v' h' => ?_
  simp only [wp_bind, wp_read, wp_put, wp_pure]
  refine wp_each (fun _ (v' : View World Frame Mark) =>
    (v'.state.task ⟨.autoSelect r drawer, n⟩).cancelRequested =
      decide ((w.room r).autoSelectTask = some (drawer, n))) (fun _ _ _ h => ?_) h'
  exact h

/-- A turn that has been announced has its tasks. -/
theorem timed_of_returned {t : TaskId} {room : Room} {turn : TurnState}
    (h : (driveIn t (announceTurn r room turn) l w).outcome = .returned) :
    .timed turn.turnId ∈ (driveIn t (announceTurn r room turn) l w).marks := by
  unfold driveIn announceTurn at h ⊢
  obtain ⟨_, l₁, w₁, h₁, hm₁⟩ := marks_of_returned h
  obtain ⟨_, l₂, w₂, h₂, hm₂⟩ := marks_of_returned h₁
  obtain ⟨_, l₃, w₃, h₃, hm₃⟩ := marks_of_returned h₂
  exact hm₁.subset (hm₂.subset (hm₃.subset (List.mem_cons_self ..)))

/-- The rest of `handle_word_selection` completes iff its task is not cancelled, or not
suspended. -/
theorem announceTurn_completes_iff (room : Room) (turn : TurnState)
    (hl : Undisturbed ⟨.autoSelect r drawer, n⟩ l) :
    let c := announceTurn r room turn
    let d := driveIn ⟨.autoSelect r drawer, n⟩ c l w
    d.outcome = .returned ↔
      c.Passes l w ∨ (w.task ⟨.autoSelect r drawer, n⟩).cancelRequested = false := by
  intro c d
  have hwithin : Within (fp [.timers, .turn]) c := by infer_instance
  have hkeep : ∀ w w', (fp [.timers, .turn]).change w w' →
      (w'.task ⟨.autoSelect r drawer, n⟩).cancelRequested =
        (w.task ⟨.autoSelect r drawer, n⟩).cancelRequested :=
    fun _ _ h => requested_of_fp (x := .autoSelect) (by decide) (by simp) h
  constructor
  · intro hret
    by_contra! hsuspended
    obtain ⟨hsuspended, hflag⟩ := hsuspended
    have hcancelled : d.outcome = .cancelled := drive_cancelled hwithin
      (fun _ _ h hs => (hkeep _ _ h).trans hs)
      (fun others ho s hs => (hl others ho s).trans hs) (by simpa using hflag) hsuspended
    rw [hcancelled] at hret
    cases hret
  · rintro (hpass | hflag)
    · have hwp : c.wp .unsuspended 0 (fun _ _ => True) ⟨w, 0, []⟩ :=
        wp_call [.timers, .turn] hwithin (by decide) (fun _ _ h => h) fun _ _ _ => trivial
      exact drive_of_wp hwp hpass
    · exact drive_returned hwithin (by simp [fp]) (fun _ _ h hs => (hkeep _ _ h).trans hs)
        (fun others ho s hs => (hl others ho s).trans hs) hflag

/-- **An auto-select task starts its turn iff its drawer is still to choose, and it is not the task
that the room has stored or is suspended at none of its awaits.** -/
theorem autoSelect_completes_iff (hword : word ∈ (w.room r).pendingWordChoices.getD [])
    (hrun : (w.task ⟨.autoSelect r drawer, n⟩).status = .running)
    (hflag : (w.task ⟨.autoSelect r drawer, n⟩).cancelRequested = false)
    (hl : Undisturbed ⟨.autoSelect r drawer, n⟩ l) :
    AutoSelectCompletes env r drawer n word l w ↔
      (w.room r).players[(w.room r).drawerIndex]? = some drawer ∧
        ((handleWordSelection env r drawer word).Passes l w ∨
          (w.room r).autoSelectTask ≠ some (drawer, n)) := by
  unfold AutoSelectCompletes driveIn handleWordSelection
  change (Coro.drive _ (Option.elim (w.room r).players[(w.room r).drawerIndex]? _ _) l w).outcome
      = _ ∧ (∃ turnId, _ ∈
        (Coro.drive _ (Option.elim (w.room r).players[(w.room r).drawerIndex]? _ _) l w).marks) ↔
    _ ∧ (Coro.Passes (Option.elim (w.room r).players[(w.room r).drawerIndex]? _ _) l w ∨ _)
  cases hd : (w.room r).players[(w.room r).drawerIndex]? with
  | none => simp [raise, drive]
  | some d =>
    simp only [Option.elim_some, Option.some.injEq]
    by_cases hdrawer : drawer = d
    swap
    · have hne : d ≠ drawer := fun h => hdrawer h.symm
      simp [hdrawer, hne, drive, Pure.pure]
    subst hdrawer
    simp only [ne_eq, not_true_eq_false, if_false, hword, true_and]
    obtain ⟨turn, v', marks, hflag', hp, hdrive⟩ := driveIn_bind (beginTurn_wp env word hrun hflag)
      ⟨.autoSelect r drawer, n⟩ (announceTurn r (w.room r)) l
    have hrest := announceTurn_completes_iff (w := v'.state) (w.room r) turn hl
    change (driveIn _ (_ >>= _) l w).outcome = _ ∧
      (∃ turnId, _ ∈ (driveIn _ (_ >>= _) l w).marks) ↔ Coro.Passes (_ >>= _) l w ∨ _
    rw [hdrive, hp]
    have hstored : (v'.state.task ⟨.autoSelect r drawer, n⟩).cancelRequested = false ↔
        ¬(w.room r).autoSelectTask = some (drawer, n) := by simp [hflag']
    refine Iff.trans ⟨And.left, fun hret => ⟨hret, turn.turnId, ?_⟩⟩
      (hrest.trans (or_congr_right hstored))
    exact List.mem_append_right _ (timed_of_returned hret)

end AutoSelect

/-! ## Both timers -/

/-- **The transition of a fired timer completes iff no send in it suspends**; for the auto-select
task, iff the player it has captured is still the drawer and either no send suspends or the room
has stored another auto-select task. -/
theorem firedTimer_completes_iff (env : Env) (w : World) (l : List (Option (World → World)))
    (r : RoomId) (n : Nat) (hr : r < w.nextRoom) :
    (∀ turn, (w.room r).turn = some turn → turn.timerTask = some n →
      (w.task ⟨.turnTimer r turn.turnId, n⟩).status = .running →
      Undisturbed ⟨.turnTimer r turn.turnId, n⟩ l →
      (TimerCompletes env r turn n l w ↔ (endTurn env r .timerExpired).Passes l w)) ∧
    (∀ drawer word, word ∈ (w.room r).pendingWordChoices.getD [] →
      (w.task ⟨.autoSelect r drawer, n⟩).status = .running →
      (w.task ⟨.autoSelect r drawer, n⟩).cancelRequested = false →
      Undisturbed ⟨.autoSelect r drawer, n⟩ l →
      (AutoSelectCompletes env r drawer n word l w ↔
        (w.room r).players[(w.room r).drawerIndex]? = some drawer ∧
          ((handleWordSelection env r drawer word).Passes l w ∨
            (w.room r).autoSelectTask ≠ some (drawer, n)))) :=
  ⟨fun _ hturn htask hrun hl => turnTimer_completes_iff hr hturn htask hrun hl,
    fun _ _ hword hrun hflag hl => autoSelect_completes_iff hword hrun hflag hl⟩

/-- A room with two players of a gateway, its turn timer and its auto-select task running. -/
def firedWorld : World :=
  { sampleWorld with
    room := fun _ =>
      { code := "ROOM01"
        hostId := .uuid 0
        players := [.uuid 0, .uuid 1]
        turn := some ⟨0, .uuid 0, "cat", [], 0, [], some 3, none, none, [], none⟩
        pendingWordChoices := some ["dog"] }
    player := fun _ p => { id := p, name := "", websocket := some 0 }
    transport := fun _ => { queue := some 0 }
    task := fun _ => { status := .running }
    nextRoom := 1 }

/-- Nothing is suspended: both transitions complete. -/
theorem firedTimer_completes_unsuspended :
    TimerCompletes sampleEnv 0 ⟨0, .uuid 0, "cat", [], 0, [], some 3, none, none, [], none⟩ 3 []
        firedWorld ∧
      AutoSelectCompletes sampleEnv 0 (.uuid 0) 3 "dog" [] firedWorld :=
  ⟨((firedTimer_completes_iff sampleEnv firedWorld [] 0 3 (by decide)).1 _ rfl rfl rfl nofun).mpr
      passes_nil,
    ((firedTimer_completes_iff sampleEnv firedWorld [] 0 3 (by decide)).2 (.uuid 0) "dog"
      (by decide)
      rfl rfl nofun).mpr ⟨rfl, .inl passes_nil⟩⟩

/-- **The turn timer cancels the task that it runs in**: the room's turn has ended, but it is not
cleared and no other turn is started, and no coroutine is left that could do so. -/
theorem timer_cancels_itself :
    ∃ c, (worker sampleEnv).Run Loop.anyEvent (startConfig sampleWorld) c ∧ c.running = none ∧
      c.waiting.isEmpty ∧ .ends 0 0 ∈ c.trace ∧ .advances 0 0 ∉ c.trace ∧
      (c.state.room 0).turn.map (·.turnId) = some 0 ∧ (c.state.room 0).state = .playing ∧
      (c.state.task ⟨.turnTimer 0 0, 3⟩).status = .done := by
  have hplay : ((worker sampleEnv).play Loop.anyEvent (startConfig sampleWorld) (sampleTurn 3 ++
      [(.call (.sleep 80), []), (.fire ⟨.turnTimer 0 0, 3⟩, [true]), (.cancel 0, [])])).any
      (fun c => c.waiting.isEmpty ∧ .ends 0 0 ∈ c.trace ∧ .advances 0 0 ∉ c.trace ∧
        (c.state.room 0).turn.map (·.turnId) = some 0 ∧ (c.state.room 0).state = .playing ∧
        (c.state.task ⟨.turnTimer 0 0, 3⟩).status = .done) = true := by
    decide +kernel
  obtain ⟨c, hrun, hidle, hc⟩ := Loop.exists_run_of_play rfl hplay
  exact ⟨c, hrun, hidle, of_decide_eq_true hc⟩

end Skribbl.Backend
