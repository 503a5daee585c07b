import Skribbl.Backend.Schedule
import Skribbl.Lib.Rotation

/-!
# The rotation of the drawers under churn

* `World.table` — the members of a room as seats in the order of the turns.
* `ChurnStep` — joins, approvals, disconnects, reconnects and removals: the schedule is left alone.
* `startTurn_churn`, `advanceTurnOrRound_churn`, `startGame_churn` — the turn goes to the next
  connected active player.
* `ChurnGame` — a game with churn between the turns and wherever a call is suspended.

Principal result: `rotation_fair` — nobody draws twice in a round, and nobody is left out when no
removal shifts a player that waits to a place that has been passed.
-/

set_option autoImplicit false

namespace Skribbl.Backend

open Coro Rotation

variable {r : RoomId} {w w' w₁ w₂ : World} {o : Nat}

/-! ## Churn -/

/-- The seats of a room; those before the drawer's index have been passed, and `o` more. -/
def World.table (w : World) (r : RoomId) (o : Nat) : Table PlayerId where
  seats := (w.room r).players
  round := (w.room r).currentRound
  passed := (w.room r).drawerIndex + o
  seen := w.Known

/-- A change that leaves the schedule alone; `J` says which changes of the members are allowed. -/
structure ChurnStep (J : Table PlayerId → Table PlayerId → Prop) (r : RoomId) (o : Nat)
    (w w' : World) : Prop where
  extends' : w.Extends w'
  churn : (w.table r o).Churn (w'.table r o)
  allowed : J (w.table r o) (w'.table r o)
  numRounds : (w'.room r).config.numRounds = (w.room r).config.numRounds
  autoSelectTask : (w'.room r).autoSelectTask = (w.room r).autoSelectTask ∨
    (w'.room r).autoSelectTask = none

/-- One such change after the other. -/
abbrev Churns (J : Table PlayerId → Table PlayerId → Prop) (r : RoomId) (o : Nat) :
    World → World → Prop := Relation.ReflTransGen (ChurnStep J r o)

section Changes

variable {J : Table PlayerId → Table PlayerId → Prop} {S : List Eff}

/-- Allowed, when the members stay the same. -/
def Steady (J : Table PlayerId → Table PlayerId → Prop) : Prop :=
  ∀ t t' : Table PlayerId, t'.seats = t.seats → J t t'

theorem steady_any : Steady fun _ _ => True := fun _ _ _ => trivial

theorem steady_orderly : Steady Table.Orderly := fun _ _ h =>
  .inr fun _ ha => h ▸ List.mem_of_mem_take ha

/-- Members and schedule are the same. -/
theorem ChurnStep.steady (hJ : Steady J) (hext : w.Extends w')
    (hplayers : (w'.room r).players = (w.room r).players)
    (hround : (w'.room r).currentRound = (w.room r).currentRound)
    (hindex : (w'.room r).drawerIndex = (w.room r).drawerIndex)
    (hrounds : (w'.room r).config.numRounds = (w.room r).config.numRounds)
    (htask : (w'.room r).autoSelectTask = (w.room r).autoSelectTask ∨
      (w'.room r).autoSelectTask = none) : ChurnStep J r o w w' where
  extends' := hext
  churn := by
    refine ⟨hround, congrArg (· + o) hindex, fun a ha => ha.mono hext.nextUuid, fun _ => true, [],
      ?_, .nil, nofun⟩
    simpa [World.table] using hplayers
  allowed := hJ _ _ hplayers
  numRounds := hrounds
  autoSelectTask := htask

/-- A footprint without members, schedule and auto-selection. -/
theorem ChurnStep.of_fp (hJ : Steady J) (hr : r < w.nextRoom) (h : (fp S).change w w')
    (hS : ∀ x ∈ [Eff.members, .schedule, .autoSelect], x ∉ S) : ChurnStep J r o w w' := by
  have hschedule := (same_of_fp h .schedule (hS _ (by simp))).room r hr
  exact .steady hJ h.1 ((same_of_fp h .members (hS _ (by simp))).room r hr) hschedule.2.1
    hschedule.1 (congrArg GameConfig.numRounds hschedule.2.2)
    (.inl ((same_of_fp h .autoSelect (hS _ (by simp))).room r hr))

/-- `remove_player`. -/
theorem ChurnStep.remove (p : PlayerId)
    (hJ : J (w.table r o) (((Update.room r (.removePlayer p)).apply w).table r o)) :
    ChurnStep J r o w ((Update.room r (.removePlayer p)).apply w) := by
  refine ⟨Update.extends _ _, ⟨?_, ?_, fun a ha => ha, (· ≠ p), [], ?_, .nil, nofun⟩, hJ, ?_, ?_⟩
  all_goals simp [World.table, Update.apply, RoomUpdate.apply]

/-- **A removal is orderly**, unless somebody at a place that has been passed is removed while
somebody is waiting. -/
theorem orderly_remove {p : PlayerId} (h : (w.table r o).behind = [] ∨ p ∉ (w.table r o).front) :
    (w.table r o).Orderly (((Update.room r (.removePlayer p)).apply w).table r o) := by
  refine h.imp_right fun hp a ha => ?_
  have hne : a ≠ p := by
    rintro rfl
    exact hp ha
  have hseat : a ∈ (w.room r).players := List.mem_of_mem_take ha
  simpa [World.table, Update.apply, RoomUpdate.apply, hne] using hseat

/-- **A player with an id from `uuid4`** takes the last place. -/
theorem ChurnStep.join (hr : r < w.nextRoom) (make : PlayerId → Player)
    (h : (fp S).change ((Update.newPlayer r make).apply w) w₁)
    (hS : ∀ x ∈ [Eff.members, .schedule, .autoSelect], x ∉ S) :
    ChurnStep Table.Orderly r o w
      ((Update.room r (.addPlayer (.uuid w.nextUuid))).apply w₁) := by
  have hschedule := (same_of_fp h .schedule (hS _ (by simp))).room r hr
  have hmembers := (same_of_fp h .members (hS _ (by simp))).room r hr
  have htask : (w₁.room r).autoSelectTask = (w.room r).autoSelectTask :=
    (same_of_fp h .autoSelect (hS _ (by simp))).room r hr
  have hseats : (((Update.room r (.addPlayer (.uuid w.nextUuid))).apply w₁).table r o).seats =
      (w.room r).players ++ [.uuid w.nextUuid] := by
    simp only [World.table, Update.apply, RoomUpdate.apply, Function.update_self]
    rw [hmembers]
    rfl
  have hext := ((Update.extends (.newPlayer r make) w).trans h.1).trans
    (Update.extends (.room r (.addPlayer (.uuid w.nextUuid))) w₁)
  refine ⟨hext, ⟨?_, ?_, fun a ha => ha.mono hext.nextUuid, fun _ => true, [.uuid w.nextUuid], ?_,
    List.nodup_singleton _, fun a ha => ?_⟩, .inr fun a ha => ?_, ?_, ?_⟩
  · simpa [World.table, Update.apply, RoomUpdate.apply] using hschedule.2.1
  · simpa [World.table, Update.apply, RoomUpdate.apply] using hschedule.1
  · rw [hseats]
    simp [World.table]
  · rw [List.mem_singleton.mp ha]
    exact ⟨Nat.lt_irrefl _, Nat.lt_of_lt_of_le (Nat.lt_succ_self _) h.1.nextUuid⟩
  · rw [hseats]
    exact List.mem_append_left _ (List.mem_of_mem_take ha)
  · simpa [Update.apply, RoomUpdate.apply] using congrArg GameConfig.numRounds hschedule.2.2
  · exact .inl (by simpa [Update.apply, RoomUpdate.apply] using htask)

theorem Churns.trans (h : Churns J r o w w₁) (h' : Churns J r o w₁ w₂) : Churns J r o w w₂ :=
  Relation.ReflTransGen.trans h h'

theorem Churns.nextRoom (h : Churns J r o w w') : w.nextRoom ≤ w'.nextRoom := by
  induction h with
  | refl => exact Nat.le_refl _
  | tail _ h ih => exact ih.trans h.extends'.nextRoom

theorem Churns.nextTask (h : Churns J r o w w') : w.nextTask ≤ w'.nextTask := by
  induction h with
  | refl => exact Nat.le_refl _
  | tail _ h ih => exact ih.trans h.extends'.nextTask

theorem Churns.numRounds (h : Churns J r o w w') :
    (w'.room r).config.numRounds = (w.room r).config.numRounds := by
  induction h with
  | refl => rfl
  | tail _ h ih => exact h.numRounds.trans ih

theorem Churns.currentRound (h : Churns J r o w w') :
    (w'.room r).currentRound = (w.room r).currentRound := by
  induction h with
  | refl => rfl
  | tail _ h ih => exact h.churn.round.trans ih

/-- No other auto-selection is stored. -/
theorem Churns.autoSelectTask (h : Churns J r o w w') {t : PlayerId × Nat}
    (ht : (w'.room r).autoSelectTask = some t) : (w.room r).autoSelectTask = some t := by
  induction h with
  | refl => exact ht
  | tail _ h ih =>
    rcases h.autoSelectTask with hsame | hnone
    · exact ih (hsame ▸ ht)
    · rw [hnone] at ht
      cases ht

/-- What one change keeps of the members and the schedule. -/
theorem Churns.keeps {G : Table PlayerId → Prop} (h : Churns J r o w w')
    (hG : ∀ t t', t.Churn t' → J t t' → G t → G t') (hw : G (w.table r o)) :
    G (w'.table r o) := by
  induction h with
  | refl => exact hw
  | tail _ h ih => exact hG _ _ h.churn h.allowed ih

end Changes

/-! ## The calls -/

section Calls

variable {J : Table PlayerId → Table PlayerId → Prop} {X : Setting World Frame Mark}
  {R : Multiset Frame} {v : View World Frame Mark}

/-- The others only come and go, and the invariant holds wherever the call is suspended. -/
structure Churning (J : Table PlayerId → Table PlayerId → Prop) (r : RoomId) (o : Nat)
    (X : Setting World Frame Mark) (R : Multiset Frame) : Prop where
  inv : ∀ (fs : Multiset Frame) (v : View World Frame Mark), X.inv (v.add (fs + R))
  rely : ∀ w w', X.rely w w' → Churns J r o w w'

/-- A call that leaves members, schedule and auto-selection alone. -/
theorem wp_churns {α : Type} {c : M α} {S : List Eff} (hJ : Steady J) (hX : Churning J r o X R)
    (hc : Within (fp S) c) (hr : r < v.state.nextRoom) (hfails : Eff.raises ∉ S)
    (hS : ∀ x ∈ [Eff.members, .schedule, .autoSelect], x ∉ S)
    {Q : α → View World Frame Mark → Prop}
    (hQ : ∀ a v', Churns J r o v.state v'.state → Q a v') : c.wp X R Q v := by
  refine wp_mono (wp_within (J := fun v' => Churns J r o v.state v'.state) hc ?_ ?_ ?_ ?_ .refl) hQ
  · exact fun v' w' hw' h => h.tail (.of_fp hJ (hr.trans_le h.nextRoom) hw' hS)
  · exact fun _ _ _ _ h => h
  · exact fun v' fs _ _ h => ⟨hX.inv _ _, fun _ hr _ _ => h.trans (hX.rely _ _ hr)⟩
  · exact fun h => absurd h hfails

/-- An assignment that leaves members, schedule and auto-selection alone. -/
theorem churns_put (hJ : Steady J) (u : Update) (hr : r < w.nextRoom)
    (hu : ∀ x ∈ [Eff.members, .schedule, .autoSelect], x ∉ u.effs) :
    Churns J r o w (u.apply w) :=
  .single (.of_fp hJ hr (fp_of_update u (fun _ h => h) w) hu)

/-- A turn of `d` was begun. -/
structure TurnBegun (J : Table PlayerId → Table PlayerId → Prop) (r : RoomId) (w : World)
    (d : PlayerId) (w' : World) : Prop where
  churns : ∃ w₁, Churns J r 1 w w₁ ∧ w'.table r 1 = w₁.table r 1 ∧
    (w'.room r).config.numRounds = (w₁.room r).config.numRounds ∧ w₁.nextRoom ≤ w'.nextRoom
  task : ∃ n, w.nextTask ≤ n ∧ n < w'.nextTask ∧ (w'.room r).autoSelectTask = some (d, n)

/-- **`start_turn`** begins a turn of the player at the drawer's index, even if others leave the
room meanwhile. -/
theorem startTurn_churn (env : Env) (hJ : Steady J) (hX : Churning J r 1 X R)
    (hr : r < v.state.nextRoom)
    (hraise : (v.state.room r).players[(v.state.room r).drawerIndex]? = none → X.inv v)
    {Q : Unit → View World Frame Mark → Prop}
    (hQ : ∀ d v', (v.state.room r).players[(v.state.room r).drawerIndex]? = some d →
      TurnBegun J r v.state d v'.state → Q () v') : (startTurn env r).wp X R Q v := by
  unfold startTurn
  simp only [wp_bind, wp_readRoom, wp_elim]
  refine ⟨hraise, fun d hd => ?_⟩
  refine drawWordPackChoices_wp env r fun packs v₁ h₁ _ => ?_
  have h₁ : Churns J r 1 v.state v₁.state := .single (.of_fp hJ hr h₁ (by decide))
  rw [wp_put]
  have h₂ := h₁.trans (churns_put hJ (.room r (.pendingWordChoices (some packs)))
    (hr.trans_le h₁.nextRoom) (by simp))
  refine wp_churns (v := v₁.set _) (S := []) hJ hX inferInstance (hr.trans_le h₂.nextRoom)
      (by decide) (by decide)
    fun _ v₃ h₃ => ?_
  have h₃ := h₂.trans h₃
  rw [wp_put, wp_readPlayer]
  have h₄ := h₃.trans (churns_put hJ (.room r (.state .wordSelection)) (hr.trans_le h₃.nextRoom)
    (by simp))
  refine wp_churns (v := v₃.set _) (S := []) hJ hX inferInstance (hr.trans_le h₄.nextRoom)
      (by decide) (by decide)
    fun _ v₅ h₅ => ?_
  have h₅ := h₄.trans h₅
  simp only [wp_createTask, wp_put]
  refine hQ d _ hd ⟨⟨v₅.state, h₅, ?_, ?_, Nat.le_refl _⟩, v₅.state.nextTask, h₅.nextTask,
    Nat.lt_succ_self _, ?_⟩
  · simp only [World.table, Update.apply, RoomUpdate.apply, View.set_state, Function.update_self]
    rfl
  · simp [Update.apply, RoomUpdate.apply]
  · simp [Update.apply, RoomUpdate.apply]

/-- The end of a game. -/
theorem gameOver_churn (hJ : Steady J) (hX : Churning J r 1 X R) (hr : r < v.state.nextRoom)
    {Q : Unit → View World Frame Mark → Prop}
    (hQ : ∀ v', Churns J r 1 v.state v'.state → Q () v') : (gameOver r).wp X R Q v := by
  unfold gameOver
  simp only [wp_bind, wp_mark, wp_put]
  intro _
  have h₁ : Churns J r 1 v.state _ := churns_put hJ (.room r (.state .gameOver)) hr (by simp)
  refine wp_churns (v := (v.push _).set _) (S := []) hJ hX inferInstance (hr.trans_le h₁.nextRoom)
      (by decide) (by decide)
    fun _ v₂ h₂ => ?_
  have h₂ := h₁.trans h₂
  rw [wp_readRoom]
  exact wp_churns (S := []) hJ hX inferInstance (hr.trans_le h₂.nextRoom) (by decide) (by decide)
    fun _ v₃ h₃ => hQ v₃ (h₂.trans h₃)

theorem mem_connectedActive {p : PlayerId} :
    p ∈ w.connectedActive r ↔ p ∈ (w.room r).players ∧ w.mayDraw r p = true := List.mem_filter

/-- The round `x.1` has come to the index `x.2`: nobody who may draw has been skipped. -/
def ComesTo (r : RoomId) (w : World) (x : Nat × Nat) : Prop :=
  x.1 = (w.room r).currentRound ∧ (w.room r).drawerIndex + 1 ≤ x.2 ∧
      (∀ p ∈ (w.room r).players.take x.2, p ∈ w.connectedActive r → p ∈ (w.table r 1).front) ∨
    x.1 = (w.room r).currentRound + 1 ∧ (∀ p ∈ (w.table r 1).behind, p ∉ w.connectedActive r) ∧
      ∀ p ∈ (w.room r).players.take x.2, p ∉ w.connectedActive r

/-- The index after the drawer's. -/
theorem comesTo_following : ComesTo r w
    (following (w.room r).players (w.room r).currentRound (w.room r).drawerIndex) := by
  unfold ComesTo following
  split
  · rename_i hlast
    refine .inr ⟨rfl, fun p hp => ?_, fun p hp => ?_⟩
    · have hnil : (w.table r 1).behind = [] := List.drop_eq_nil_of_le hlast
      rw [hnil] at hp
      cases hp
    · cases hp
  · exact .inl ⟨rfl, Nat.le_refl _, fun p hp _ => hp⟩

/-- Behind those that have been skipped nobody who may draw is waiting, at the end of the list. -/
theorem ComesTo.last {x : Nat × Nat} {d : PlayerId} (h : ComesTo r w x)
    (hnodup : (w.room r).players.Nodup) (hne : w.connectedActive r ≠ [])
    (hd : (w.room r).players[x.2]? = some d) (hmay : d ∉ w.connectedActive r)
    (hlast : (w.room r).players.length ≤ x.2 + 1) :
    x.1 = (w.room r).currentRound ∧ ∀ p ∈ (w.table r 1).behind, p ∉ w.connectedActive r := by
  have hall : ∀ p ∈ (w.room r).players, p ∈ w.connectedActive r →
      p ∈ (w.room r).players.take x.2 := by
    intro p hp hpresent
    rw [← List.take_of_length_le hlast] at hp
    rcases mem_take_succ hd hp with hp | rfl
    · exact hp
    · exact absurd hpresent hmay
  rcases h with ⟨hround, -, hskipped⟩ | ⟨-, -, hskipped⟩
  · refine ⟨hround, fun p hp hpresent => ?_⟩
    have hfront := hskipped p (hall p (List.mem_of_mem_drop hp) hpresent) hpresent
    exact List.disjoint_take_drop hnodup (Nat.le_refl _) hfront hp
  · obtain ⟨p, hp⟩ := List.exists_mem_of_ne_nil _ hne
    exact absurd hp (hskipped p (hall p (mem_connectedActive.mp hp).1 hp))

/-- A player who may not draw is skipped. -/
theorem ComesTo.skip {x : Nat × Nat} {d : PlayerId} (h : ComesTo r w x)
    (hnodup : (w.room r).players.Nodup) (hne : w.connectedActive r ≠ [])
    (hd : (w.room r).players[x.2]? = some d) (hmay : d ∉ w.connectedActive r) :
    ComesTo r w (following (w.room r).players x.1 x.2) := by
  unfold following
  split
  · rename_i hlast
    obtain ⟨hround, hbehind⟩ := h.last hnodup hne hd hmay hlast
    exact .inr ⟨congrArg (· + 1) hround, hbehind, nofun⟩
  · refine h.imp ?_ ?_
    · rintro ⟨hround, hle, hskipped⟩
      refine ⟨hround, Nat.le_succ_of_le hle, fun p hp hpresent => ?_⟩
      rcases mem_take_succ hd hp with hp | rfl
      · exact hskipped p hp hpresent
      · exact absurd hpresent hmay
    · rintro ⟨hround, hbehind, hskipped⟩
      refine ⟨hround, hbehind, fun p hp => ?_⟩
      rcases mem_take_succ hd hp with hp | rfl
      · exact hskipped p hp
      · exact hmay

/-- What `advance_turn_or_round` does: it waits for players, or all rounds are over, or the turn
goes to the next of the connected active players. -/
inductive Advanced (J : Table PlayerId → Table PlayerId → Prop) (r : RoomId) (w w' : World) : Prop
  | waits (h : Churns J r 1 w w')
  | finished (i : Nat) (hrounds : (w.room r).config.numRounds < (w.room r).currentRound + 1)
      (hbehind : ∀ p ∈ (w.table r 1).behind, p ∉ w.connectedActive r)
      (h : Churns J r 1 (w.at r ((w.room r).currentRound + 1, i)) w')
  | takes (x : Nat × Nat) (d : PlayerId) (hrounds : x.1 ≤ (w.room r).config.numRounds)
      (htakes : (w.table r 1).Takes (w.connectedActive r) ((w.at r x).table r 1) d)
      (h : TurnBegun J r (w.at r x) d w')

theorem World.at_at (w : World) (r : RoomId) (x y : Nat × Nat) : (w.at r x).at r y = w.at r y := by
  simp [World.at]

@[simp] theorem World.at_players (w : World) (r : RoomId) (x : Nat × Nat) :
    ((w.at r x).room r).players = (w.room r).players := by simp [World.at]

@[simp] theorem World.at_config (w : World) (r : RoomId) (x : Nat × Nat) :
    ((w.at r x).room r).config = (w.room r).config := by simp [World.at]

@[simp] theorem World.at_currentRound (w : World) (r : RoomId) (x : Nat × Nat) :
    ((w.at r x).room r).currentRound = x.1 := by simp [World.at]

@[simp] theorem World.at_drawerIndex (w : World) (r : RoomId) (x : Nat × Nat) :
    ((w.at r x).room r).drawerIndex = x.2 := by simp [World.at]

/-- The turn goes to the player that the round has come to. -/
theorem ComesTo.takes {x : Nat × Nat} {d : PlayerId} (h : ComesTo r w x)
    (hd : (w.room r).players[x.2]? = some d) :
    (w.table r 1).Takes (w.connectedActive r) ((w.at r x).table r 1) d where
  seats := w.at_players r x
  seen := rfl
  seated p hp := (mem_connectedActive.mp hp).1
  next := by
    refine ⟨x.2, hd, congrArg (· + 1) (w.at_drawerIndex r x), ?_⟩
    change ((w.at r x).room r).currentRound = _ ∧ _ ∨ ((w.at r x).room r).currentRound = _ ∧ _
    rw [w.at_currentRound]
    exact h

/-- The loop that skips players comes to the next of the connected active players. -/
theorem skipPlayers_churn (env : Env) (hJ : Steady J) (hX : Churning J r 1 X R)
    (hr : r < w.nextRoom) (hnodup : (w.room r).players.Nodup) {attempts : Nat} {x : Nat × Nat}
    (hcomes : ComesTo r w x) (hidx : x.2 < (w.room r).players.length)
    (hround : x.1 ≤ (w.room r).config.numRounds)
    (hact : ∃ j < attempts, ∃ p, (w.room r).players[(x.2 + j) % (w.room r).players.length]? =
      some p ∧ w.mayDraw r p = true) (hv : v.state = w.at r x)
    {Q : Unit → View World Frame Mark → Prop} (hQ : ∀ v', Advanced J r w v'.state → Q () v') :
    (skipPlayers env r attempts).wp X R Q v := by
  induction attempts generalizing v x with
  | zero =>
    obtain ⟨j, hj, -⟩ := hact
    exact absurd hj (Nat.not_lt_zero _)
  | succ attempts ih =>
    have hd : (w.room r).players[x.2]? = some (w.room r).players[x.2] :=
      List.getElem?_eq_getElem hidx
    have hne : w.connectedActive r ≠ [] := by
      obtain ⟨j, -, p, hp, hmay⟩ := hact
      exact List.ne_nil_of_mem (mem_connectedActive.mpr ⟨List.mem_of_getElem? hp, hmay⟩)
    unfold skipPlayers
    simp only [wp_bind, wp_read, hv, World.at_players, World.at_drawerIndex, hd, Option.elim_some]
    rw [wp_ite]
    refine ⟨fun hmay => ?_, fun hmay => ?_⟩
    · rw [wp_bind, wp_mark]
      intro _
      refine startTurn_churn (v := v.push _) env hJ hX (show r < v.state.nextRoom from hv ▸ hr)
          (fun hnone => ?_) fun d v' hd' hbegun => ?_
      · rw [View.push_state, hv, World.at_players, World.at_drawerIndex, hd] at hnone
        cases hnone
      · rw [View.push_state, hv, World.at_players, World.at_drawerIndex] at hd'
        exact hQ v' (.takes x d hround (hcomes.takes hd') (hv ▸ hbegun))
    · have hmay : (w.room r).players[x.2] ∉ w.connectedActive r := fun h =>
        hmay (mem_connectedActive.mp h).2
      have hskip := hcomes.skip hnodup hne hd hmay
      rw [wp_bind, nextDrawer_at, wp_bind, wp_readRoom]
      simp only [View.set_state, hv, World.at_at, World.at_players, World.at_drawerIndex,
        World.at_currentRound, World.at_config]
      rw [wp_ite]
      refine ⟨fun hover => ?_, fun hgoes => ?_⟩
      · -- the last round is over
        have hlast : (w.room r).players.length ≤ x.2 + 1 := by
          by_contra hlast
          rw [following, if_neg hlast] at hover
          exact absurd hround (Nat.not_le.mpr hover)
        obtain ⟨hx, hbehind⟩ := hcomes.last hnodup hne hd hmay hlast
        rw [following, if_pos hlast, hx] at hover ⊢
        exact gameOver_churn (v := v.set (w.at r _)) hJ hX hr fun v' h' =>
          hQ v' (.finished 0 hover hbehind h')
      · refine ih (v := v.set _) hskip (following_lt hidx) (Nat.not_lt.mp hgoes) ?_ rfl
        obtain ⟨j, hj, p, hp, hp'⟩ := hact
        cases j with
        | zero =>
          rw [Nat.add_zero, Nat.mod_eq_of_lt hidx, hd, Option.some.injEq] at hp
          subst hp
          exact absurd (mem_connectedActive.mpr ⟨List.mem_of_getElem? hd, hp'⟩) hmay
        | succ j =>
          refine ⟨j, Nat.lt_of_succ_lt_succ hj, p, ?_, hp'⟩
          rw [following_mod hidx]
          exact hp

/-- **`advance_turn_or_round`** under churn. -/
theorem advanceTurnOrRound_churn (env : Env) (hJ : Steady J) (hX : Churning J r 1 X R)
    (hr : r < v.state.nextRoom) (hnodup : (v.state.room r).players.Nodup)
    (hround : (v.state.room r).currentRound ≤ (v.state.room r).config.numRounds)
    {Q : Unit → View World Frame Mark → Prop}
    (hQ : ∀ v', Advanced J r v.state v'.state → Q () v') :
    (advanceTurnOrRound env r).wp X R Q v := by
  unfold advanceTurnOrRound
  rw [wp_bind, wp_read, wp_ite]
  refine ⟨fun _ => ?_, fun hactive => ?_⟩
  · exact wp_churns (S := [.countdown]) hJ hX inferInstance hr (by decide) (by decide)
      fun _ v' h => hQ v' (.waits h)
  · rw [wp_bind, nextDrawer_at, wp_bind, wp_readRoom]
    simp only [View.set_state, World.at_config, World.at_currentRound, World.at_players]
    rw [wp_ite]
    have hcomes : ComesTo r v.state _ := comesTo_following
    refine ⟨fun hover => ?_, fun hgoes => ?_⟩
    · have hlast : (v.state.room r).players.length ≤ (v.state.room r).drawerIndex + 1 := by
        by_contra hlast
        rw [following, if_neg hlast] at hover
        exact absurd hround (Nat.not_le.mpr hover)
      have hbehind : ∀ p ∈ (v.state.table r 1).behind, p ∉ v.state.connectedActive r := by
        intro p hp
        have hnil : (v.state.table r 1).behind = [] := List.drop_eq_nil_of_le hlast
        rw [hnil] at hp
        cases hp
      rw [following, if_pos hlast] at hover ⊢
      exact gameOver_churn (v := v.set (v.state.at r _)) hJ hX hr fun v' h' =>
        hQ v' (.finished 0 hover hbehind h')
    · have hne : (v.state.room r).players.filter (v.state.mayDraw r) ≠ [] := by
        refine List.ne_nil_of_length_pos ?_
        change 0 < (v.state.connectedActive r).length
        omega
      have hlt : (following (v.state.room r).players (v.state.room r).currentRound
          (v.state.room r).drawerIndex).2 < (v.state.room r).players.length := by
        have hpos : 0 < (v.state.room r).players.length := by
          refine List.length_pos_iff.mpr fun hnil => hne ?_
          rw [hnil]
          rfl
        unfold following
        split <;> simp only <;> omega
      exact skipPlayers_churn (v := v.set _) env hJ hX hr hnodup hcomes hlt (Nat.not_lt.mp hgoes)
        (exists_ahead hne hlt) rfl hQ

/-- The host may start the game in its room. -/
structure MayStart (r : RoomId) (host : PlayerId) (w : World) : Prop where
  exists' : r < w.nextRoom
  room : ∃ code, w.playerToRoom host = some code ∧ w.roomOf code = some r
  host : (w.room r).hostId = host
  lobby : (w.room r).state = .lobby
  active : 2 ≤ (w.activePlayers r).length
  seated : (w.table r 0).Seated
  numbered : ∀ t ∈ (w.room r).autoSelectTask, t.2 < w.nextTask

/-- `start_game` looks for the first connected active player; then the others come and go. -/
structure Started (J : Table PlayerId → Table PlayerId → Prop) (r : RoomId) (w w₀ w' : World) :
    Prop where
  players : (w₀.room r).players = (w.room r).players
  numRounds : (w₀.room r).config.numRounds = (w.room r).config.numRounds
  nextRoom : w₀.nextRoom = w.nextRoom
  nextUuid : w₀.nextUuid = w.nextUuid
  nextTask : w₀.nextTask = w.nextTask
  front : ∀ p ∈ (w₀.table r 0).front, p ∉ w.connectedActive r
  churns : Churns J r 0 w₀ w'

/-- **`start_game`** under churn. -/
theorem startGame_churn {host : PlayerId} (hJ : Steady J) (hX : Churning J r 0 X R)
    (hinv : ∀ v, X.inv v) (hstart : MayStart r host v.state)
    {Q : Message → View World Frame Mark → Prop}
    (hQ : ∀ m v', (∃ w₀, Started J r v.state w₀ v'.state) → Q m v') :
    (startGame host).wp X R Q v := by
  obtain ⟨code, hcode, hroom⟩ := hstart.room
  unfold startGame findRoomByPlayer
  dsimp only
  simp only [wp_bind, wp_read, hcode, hroom, Option.elim_some, wp_pure]
  rw [wp_ite, wp_ite, wp_ite]
  refine ⟨fun h => absurd hstart.host h, fun _ => ⟨fun h => absurd hstart.lobby h, fun _ =>
    ⟨fun h => absurd h (Nat.not_lt.mpr hstart.active), fun _ => ?_⟩⟩⟩
  rw [wp_bind]
  refine wp_mono (wp_each (fun _ v₁ => v₁.state.room = v.state.room ∧
    v₁.state.nextRoom = v.state.nextRoom ∧ v₁.state.nextUuid = v.state.nextUuid ∧
      v₁.state.nextTask = v.state.nextTask) ?_ ⟨rfl, rfl, rfl, rfl⟩) ?_
  · intro q l v₁ h₁
    simpa [wp_bind, Update.apply] using h₁
  · rintro - v₁ ⟨hroom₁, hnextRoom, hnextUuid, hnextTask⟩
    simp only [wp_bind, wp_put, wp_mark]
    intro _
    -- the index of the first connected active player, or the old one
    have hfirst : ∀ i, v.state.firstDrawer r = some i →
        ∀ p ∈ (v.state.room r).players.take i, p ∉ v.state.connectedActive r := by
      intro i hi p hp hpresent
      obtain ⟨hlt, -, hbefore⟩ := List.findIdx?_eq_some_iff_getElem.mp hi
      obtain ⟨j, hj, rfl⟩ := List.mem_take_iff_getElem.mp hp
      exact absurd (mem_connectedActive.mp hpresent).2 (hbefore j (by omega))
    have hnone : v.state.firstDrawer r = none → v.state.connectedActive r = [] := fun h =>
      List.filter_eq_nil_iff.mpr fun p hp => by
        simpa using List.findIdx?_eq_none_iff.mp h p hp
    cases hi : v.state.firstDrawer r with
    | none =>
      simp only [Option.elim_none, wp_pure, Option.getD_none, wp_elim]
      refine ⟨fun _ => hinv _, fun d _ => ?_⟩
      rw [wp_bind]
      refine wp_churns (v := (v₁.push _).set _) (S := []) hJ hX inferInstance (by
        simpa [Update.apply, hnextRoom] using hstart.exists') (by decide) (by decide)
        fun _ v₂ h₂ => hQ _ v₂ ⟨_, .mk ?_ ?_ ?_ ?_ ?_ ?_ h₂⟩
      · simp [Update.apply, RoomUpdate.apply, hroom₁]
      · simp [Update.apply, RoomUpdate.apply, hroom₁]
      · exact hnextRoom
      · exact hnextUuid
      · exact hnextTask
      · rw [hnone hi]
        exact fun _ _ => List.not_mem_nil
    | some i =>
      simp only [Option.elim_some, wp_put, Option.getD_some, wp_elim]
      refine ⟨fun _ => hinv _, fun d _ => ?_⟩
      rw [wp_bind]
      refine wp_churns (v := (v₁.push _).set _) (S := []) hJ hX inferInstance (by
        simpa [Update.apply, hnextRoom] using hstart.exists') (by decide) (by decide)
        fun _ v₂ h₂ => hQ _ v₂ ⟨_, .mk ?_ ?_ ?_ ?_ ?_ ?_ h₂⟩
      · simp [Update.apply, RoomUpdate.apply, hroom₁]
      · simp [Update.apply, RoomUpdate.apply, hroom₁]
      · exact hnextRoom
      · exact hnextUuid
      · exact hnextTask
      · intro p hp
        refine hfirst i hi p ?_
        simpa [Table.front, World.table, Update.apply, RoomUpdate.apply, hroom₁] using hp

end Calls

/-! ## A game -/

/-- The player of a turn begun since `w`. -/
def World.begunSince (w w' : World) (r : RoomId) : Option PlayerId :=
  ((w'.room r).autoSelectTask.filter fun t => decide (w.nextTask ≤ t.2)).map Prod.fst

/-- The move from a round, that a call from `w` to `w'` made. -/
def World.move (w w' : World) (r : RoomId) (before : Nat) : Move PlayerId :=
  ⟨before, (w'.room r).currentRound, w.begunSince w' r, w.connectedActive r⟩

/-- The moves of a game: it starts with `start_game` and the first turn, and then
`advance_turn_or_round` is called again and again until the rounds are over.  In between, and
wherever a call is suspended, players come and go as `J` allows. -/
inductive ChurnGame (J : Table PlayerId → Table PlayerId → Prop) (env : Env) (r : RoomId)
    (host : PlayerId) (w : World) : List (Move PlayerId) → World → Prop
  | start {m : Message} {w₁ w₂ : World} :
      (startGame host).Ends (Churns J r 0) w (.ok m) w₁ →
      (startTurn env r).Ends (Churns J r 1) w₁ (.ok ()) w₂ →
      ChurnGame J env r host w [w.move w₂ r 0] w₂
  | churn {h : List (Move PlayerId)} {w₁ w₂ : World} : ChurnGame J env r host w h w₁ →
      ChurnStep J r 1 w₁ w₂ → ChurnGame J env r host w h w₂
  | advance {h : List (Move PlayerId)} {w₁ w₂ : World} {x : Except String Unit} :
      ChurnGame J env r host w h w₁ →
      (w₁.room r).currentRound ≤ (w₁.room r).config.numRounds →
      (advanceTurnOrRound env r).Ends (Churns J r 1) w₁ x w₂ →
      ChurnGame J env r host w (h ++ [w₁.move w₂ r (w₁.room r).currentRound]) w₂

section Games

variable {J : Table PlayerId → Table PlayerId → Prop} {h : List (Move PlayerId)} {d : PlayerId}

theorem begunSince_of_task {n : Nat} (ht : (w'.room r).autoSelectTask = some (d, n))
    (hn : w.nextTask ≤ n) : w.begunSince w' r = some d := by
  simp [World.begunSince, ht, hn]

theorem begunSince_none (ht : ∀ t ∈ (w'.room r).autoSelectTask, t.2 < w.nextTask) :
    w.begunSince w' r = none := by
  unfold World.begunSince
  cases hs : (w'.room r).autoSelectTask with
  | none => rfl
  | some t =>
    have hlt := ht t hs
    simp [hlt]

/-- The allowed changes are orderly. -/
def AllOrderly (J : Table PlayerId → Table PlayerId → Prop) : Prop := ∀ t t', J t t' → t.Orderly t'

/-- The game goes on: what holds of its moves and its room. -/
structure Rotating (J : Table PlayerId → Table PlayerId → Prop) (r : RoomId)
    (h : List (Move PlayerId)) (w : World) : Prop where
  exists' : r < w.nextRoom
  numbered : ∀ t ∈ (w.room r).autoSelectTask, t.2 < w.nextTask
  running : (w.room r).currentRound ≤ (w.room r).config.numRounds → Running h (w.table r 1) ∧
    (AllOrderly J → Complete h (w.table r 1))
  once : ∀ k, (turns h k).Nodup
  fair : AllOrderly J → Fair h

/-- Running under churn. -/
theorem Churns.running (hc : Churns J r o w w') (hr : Running h (w.table r o) ∧
    (AllOrderly J → Complete h (w.table r o))) :
    Running h (w'.table r o) ∧ (AllOrderly J → Complete h (w'.table r o)) :=
  hc.keeps (G := fun t => Running h t ∧ (AllOrderly J → Complete h t))
    (fun t t' hchurn hallowed ⟨hr, hf⟩ => ⟨hr.churn hchurn, fun ho =>
      (hf ho).churn hr hchurn (ho t t' hallowed)⟩) hr

theorem Rotating.churns (hr : Rotating J r h w) (hc : Churns J r 1 w w') :
    Rotating J r h w' where
  exists' := hr.exists'.trans_le hc.nextRoom
  numbered t ht := (hr.numbered t (hc.autoSelectTask ht)).trans_le hc.nextTask
  running hround := by
    rw [hc.currentRound, hc.numRounds] at hround
    exact hc.running (hr.running hround)
  once := hr.once
  fair := hr.fair

theorem turnBegun_nextTask (hb : TurnBegun J r w d w') :
    ∀ t ∈ (w'.room r).autoSelectTask, t.2 < w'.nextTask := by
  obtain ⟨n, -, hlt, ht⟩ := hb.task
  intro t ht'
  rw [ht, Option.mem_def, Option.some.injEq] at ht'
  exact ht' ▸ hlt

/-- The state after a turn was begun. -/
theorem Rotating.of_begun (hb : TurnBegun J r w d w') (hr : r < w.nextRoom)
    (hrunning : Running h (w.table r 1) ∧ (AllOrderly J → Complete h (w.table r 1))) :
    Rotating J r h w' := by
  obtain ⟨w₁, hc, htable, hrounds, hnext⟩ := hb.churns
  have hrunning' := hc.running hrunning
  rw [← htable] at hrunning'
  exact ⟨(hr.trans_le hc.nextRoom).trans_le hnext, turnBegun_nextTask hb, fun _ => hrunning',
    hrunning'.1.once, fun ho => (hrunning'.2 ho).fair hrunning'.1⟩

theorem TurnBegun.currentRound (hb : TurnBegun J r w d w') :
    (w'.room r).currentRound = (w.room r).currentRound := by
  obtain ⟨w₁, hc, htable, -⟩ := hb.churns
  exact (congrArg Table.round htable).trans hc.currentRound

theorem TurnBegun.begunSince (hb : TurnBegun J r w d w') (w₀ : World)
    (hw : w₀.nextTask ≤ w.nextTask) : w₀.begunSince w' r = some d := by
  obtain ⟨n, hn, -, ht⟩ := hb.task
  exact begunSince_of_task ht (hw.trans hn)

/-- The first turn. -/
theorem Rotating.start {host : PlayerId} {w₀ : World} (hstart : MayStart r host w)
    (hs : Started J r w w₀ w₁) (hd : (w₁.room r).players[(w₁.room r).drawerIndex]? = some d)
    (hb : TurnBegun J r w₁ d w₂) : Rotating J r [w.move w₂ r 0] w₂ := by
  have hknown : w₀.Known = w.Known := by
    funext p
    cases p <;> simp [World.Known, hs.nextUuid]
  have hseated₀ : (w₀.table r 0).Seated := by
    have hseats : (w₀.table r 0).seats = (w.table r 0).seats := hs.players
    refine ⟨hseats ▸ hstart.seated.nodup, fun p hp => ?_⟩
    change w₀.Known p
    rw [hknown]
    exact hstart.seated.seen p (hseats ▸ hp)
  have hseen₀ : ∀ p ∈ w.connectedActive r, w₀.Known p := fun p hp => by
    rw [hknown]
    exact hstart.seated.seen p (mem_connectedActive.mp hp).1
  -- until the first turn nobody takes a place before the drawer's
  have hkept : (w₁.table r 0).Seated ∧ (∀ p ∈ w.connectedActive r, w₁.Known p) ∧
      (AllOrderly J → ∀ p ∈ (w₁.table r 0).front, p ∉ w.connectedActive r) := by
    refine hs.churns.keeps (G := fun t => t.Seated ∧ (∀ p ∈ w.connectedActive r, t.seen p) ∧
      (AllOrderly J → ∀ p ∈ t.front, p ∉ w.connectedActive r)) ?_
      ⟨hseated₀, hseen₀, fun _ => hs.front⟩
    rintro t t' hchurn hallowed ⟨hseated, hseen, hfront⟩
    exact ⟨hseated.churn hchurn, fun p hp => hchurn.seen p (hseen p hp), fun ho p hp hpresent =>
      hfront ho p (hseated.front_of_orderly hchurn (ho t t' hallowed) hp (hseen p hpresent))
        hpresent⟩
  obtain ⟨hseated, hseen, hfront⟩ := hkept
  have hmove : w.move w₂ r 0 =
      ⟨0, (w₁.table r 1).round, some d, w.connectedActive r⟩ := by
    unfold World.move
    rw [hb.begunSince _ (hs.nextTask ▸ hs.churns.nextTask), hb.currentRound]
    rfl
  rw [hmove]
  refine .of_begun hb ((hs.nextRoom ▸ hstart.exists').trans_le hs.churns.nextRoom) ⟨?_,
    fun ho => ?_⟩
  · exact .first ⟨hseated.nodup, hseated.seen⟩ hd rfl hseen
  · exact .first hd rfl (hfront ho)

/-- One turn after the other. -/
theorem Rotating.advance (hr : Rotating J r h w)
    (hround : (w.room r).currentRound ≤ (w.room r).config.numRounds) (ha : Advanced J r w w') :
    Rotating J r (h ++ [w.move w' r (w.room r).currentRound]) w' := by
  obtain ⟨hrun, hfull⟩ := hr.running hround
  have hpresent : ∀ p ∈ w.connectedActive r, p ∈ (w.room r).players := fun p hp =>
    (mem_connectedActive.mp hp).1
  cases ha with
  | waits hc =>
    have hmove : w.move w' r (w.room r).currentRound =
        ⟨(w.table r 1).round, (w.table r 1).round, none, w.connectedActive r⟩ := by
      unfold World.move
      rw [hc.currentRound, begunSince_none fun t ht => hr.numbered t (hc.autoSelectTask ht)]
      rfl
    rw [hmove]
    have hrun' := hrun.waits hpresent
    refine Rotating.churns ⟨hr.exists', hr.numbered, fun _ => ⟨hrun', fun ho => (hfull ho).waits⟩,
      hrun'.once, fun ho => ((hfull ho).waits).fair hrun'⟩ hc
  | finished i hrounds hbehind hc =>
    have hcurrent : (w'.room r).currentRound = (w.room r).currentRound + 1 :=
      hc.currentRound.trans (w.at_currentRound r _)
    have hnone : w.begunSince w' r = none := begunSince_none fun t ht => by
      have hold := hc.autoSelectTask ht
      exact hr.numbered t (by simpa [World.at] using hold)
    have hchosen : (w.move w' r (w.room r).currentRound).chosen = none := hnone
    refine ⟨hr.exists'.trans_le hc.nextRoom, fun t ht => ?_, fun hle => ?_, fun k => ?_,
      fun ho => ?_⟩
    · have hold := hc.autoSelectTask ht
      exact (hr.numbered t (by simpa [World.at] using hold)).trans_le hc.nextTask
    · rw [hcurrent, hc.numRounds, w.at_config] at hle
      exact absurd hrounds (Nat.not_lt.mpr hle)
    · rw [turns_append, hchosen]
      simpa using hr.once k
    · refine (hfull ho).finished hrun rfl ?_ hchosen hpresent hbehind
      change (w.room r).currentRound < (w'.room r).currentRound
      omega
  | takes x d hrounds htakes hb =>
    have hmove : w.move w' r (w.room r).currentRound =
        ⟨(w.table r 1).round, ((w.at r x).table r 1).round, some d, w.connectedActive r⟩ := by
      unfold World.move
      rw [hb.begunSince w (Nat.le_refl _), hb.currentRound]
      rfl
    rw [hmove]
    exact .of_begun hb hr.exists' ⟨hrun.takes htakes, fun ho => (hfull ho).takes htakes⟩

theorem churning_among : Churning J r o (.among (Churns J r o)) {Frame.turnEnded r 0} :=
  ⟨Setting.among_inv (Multiset.singleton_ne_zero _), fun _ _ h => h⟩

theorem churning_alongside : Churning J r o (.alongside (Churns J r o)) {Frame.turnEnded r 0} :=
  ⟨fun _ _ => trivial, fun _ _ h => h⟩

/-- The moves of a game rotate. -/
theorem rotating_of_game {env : Env} {host : PlayerId} (hJ : Steady J) (hstart : MayStart r host w)
    (hgame : ChurnGame J env r host w h w') : Rotating J r h w' := by
  induction hgame with
  | @start m w₁ w₂ hgame hturn =>
    have hwp := startGame_churn (v := ⟨w, 0, []⟩) hJ churning_alongside (fun _ => trivial) hstart
      (Q := fun _ v' => ∃ w₀, Started J r w w₀ v'.state) fun _ _ h => h
    obtain ⟨_, w₀, hs⟩ := Ends.of_returned hwp hgame
    have hexists : r < w₁.nextRoom :=
      (hs.nextRoom ▸ hstart.exists').trans_le hs.churns.nextRoom
    have hwp' := startTurn_churn (v := ⟨w₁, 0, []⟩) env hJ churning_alongside hexists
      (fun _ => trivial) (Q := fun _ v' => ∃ d, (w₁.room r).players[(w₁.room r).drawerIndex]? =
        some d ∧ TurnBegun J r w₁ d v'.state) fun d _ hd hb => ⟨d, hd, hb⟩
    obtain ⟨_, d, hd, hb⟩ := Ends.of_returned hwp' hturn
    exact .start hstart hs hd hb
  | churn _ hstep ih => exact ih.churns (.single hstep)
  | @advance h w₁ w₂ x _ hround hends ih =>
    have hwp := advanceTurnOrRound_churn (v := ⟨w₁, 0, []⟩) env hJ churning_among ih.exists'
      (ih.running hround).1.seated.nodup hround (Q := fun _ v' => Advanced J r w₁ v'.state)
      fun _ h => h
    obtain ⟨_, _, _, ha⟩ := Ends.of_wp hwp (Multiset.singleton_ne_zero _) hends
    exact ih.advance hround ha

/-- **Fair rotation under churn**: in no round anybody draws twice, whoever comes and goes; and
whoever is a connected active member throughout a round draws in it, when nobody at a place that
has been passed is removed while somebody is waiting. -/
theorem rotation_fair {env : Env} {host : PlayerId} (hstart : MayStart r host w) :
    (∀ h w', ChurnGame (fun _ _ => True) env r host w h w' → ∀ k, (turns h k).Nodup) ∧
    ∀ h w', ChurnGame Table.Orderly env r host w h w' → Fair h := by
  refine ⟨fun h w' hgame => ?_, fun h w' hgame => ?_⟩
  · exact (rotating_of_game steady_any hstart hgame).once
  · exact (rotating_of_game steady_orderly hstart hgame).fair fun _ _ h => h

/-! ### Three players -/

/-- A lobby of three players. -/
def trioWorld : World :=
  { sampleWorld with
    rooms := [("ROOM01", 0)]
    room := fun _ =>
      { code := "ROOM01", hostId := .uuid 0, players := [.uuid 0, .uuid 1, .uuid 2] }
    player := fun _ p => { id := p, name := "" }
    playerToRoom := fun _ => some "ROOM01"
    nextRoom := 1
    nextUuid := 3 }

/-- The second player's turn in the first round. -/
def trioSecond : World :=
  ((advanceTurnOrRound sampleEnv 0).exec
    ((startTurn sampleEnv 0).exec ((startGame (.uuid 0)).exec trioWorld).2).2).2

theorem trio_mayStart : MayStart 0 (.uuid 0) trioWorld :=
  ⟨by decide, ⟨"ROOM01", rfl, rfl⟩, rfl, rfl, by decide,
    ⟨by decide, by simp [World.table, trioWorld, World.Known]⟩, nofun⟩

/-- The first two turns. -/
theorem trio_game (J : Table PlayerId → Table PlayerId → Prop) :
    ChurnGame J sampleEnv 0 (.uuid 0) trioWorld
      [⟨0, 1, some (.uuid 0), [.uuid 0, .uuid 1, .uuid 2]⟩,
        ⟨1, 1, some (.uuid 1), [.uuid 0, .uuid 1, .uuid 2]⟩] trioSecond := by
  have hstart : ChurnGame J sampleEnv 0 (.uuid 0) trioWorld _ _ :=
    .start (ends_exec (startGame (.uuid 0)) trioWorld) (ends_exec (startTurn sampleEnv 0) _)
  exact hstart.advance (by decide) (ends_exec (advanceTurnOrRound sampleEnv 0) _)

/-- The third player, who waits, is removed: the first round is over. -/
theorem trio_rotates : ∃ h w', ChurnGame Table.Orderly sampleEnv 0 (.uuid 0) trioWorld h w' ∧
    turns h 1 = [.uuid 0, .uuid 1] ∧ turns h 2 = [.uuid 0] ∧ Fair h := by
  have hremove : ChurnStep Table.Orderly 0 1 trioSecond _ :=
    .remove (.uuid 2) (orderly_remove (.inr (by decide +kernel)))
  have hgame := ((trio_game Table.Orderly).churn hremove).advance (by decide +kernel)
    (ends_exec (advanceTurnOrRound sampleEnv 0) _)
  exact ⟨_, _, hgame, by decide +kernel, by decide +kernel,
    (rotation_fair trio_mayStart).2 _ _ hgame⟩

/-- **The first player is removed in the second player's turn**: the third does not draw. -/
theorem third_left_out : ∃ h w', MayStart 0 (.uuid 0) trioWorld ∧
    ChurnGame (fun _ _ => True) sampleEnv 0 (.uuid 0) trioWorld h w' ∧ ¬Fair h := by
  have hgame := ((trio_game fun _ _ => True).churn (.remove (.uuid 0) trivial)).advance
    (by decide +kernel) (ends_exec (advanceTurnOrRound sampleEnv 0) _)
  refine ⟨_, _, trio_mayStart, hgame, fun hfair => ?_⟩
  have hturn := hfair.complete 1 (.uuid 2) ⟨_, List.mem_cons_self, rfl, nofun⟩
    ⟨_, List.mem_append_right _ List.mem_cons_self, rfl, by decide +kernel⟩
    (by unfold Throughout; decide +kernel)
  exact absurd hturn (by decide +kernel)

end Games

end Skribbl.Backend
