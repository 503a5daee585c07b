import Skribbl.Backend.GameEngine

/-!
# The choice of words and of the next drawer

* `drawWordPackChoices_wp` — the packs of a turn hold at least one word.
* `TurnOffered`, `startTurn_wp` — what `start_turn` does when no send in it is suspended.

Principal result: `advanceTurnOrRound_wp` — the three ways in which `advance_turn_or_round` goes on.
-/

set_option autoImplicit false

namespace Skribbl.Backend

open Coro

variable {X : Setting World Frame Mark} {R : Multiset Frame}
  {v : View World Frame Mark}

/-! ## Word choices -/

theorem randrange_wp (n : Nat) {Q : Nat → View World Frame Mark → Prop}
    (hQ : ∀ i v', (fp []).change v.state v'.state → (0 < n → i < n) → Q i v') :
    (randrange n).wp X R Q v := by
  unfold randrange
  simp only [wp_bind, wp_read, wp_put, wp_pure]
  apply hQ
  · exact fp_of_update (.oracle _) (List.forall_mem_nil _) _
  · exact fun hn => Nat.mod_lt _ hn

theorem sample_wp {α : Type} {l : List α} {k : Nat} (hk : k ≤ l.length)
    {Q : List α → View World Frame Mark → Prop}
    (hQ : ∀ l' v', (fp []).change v.state v'.state → l'.length = k → (∀ a ∈ l', a ∈ l) → Q l' v') :
    (sample l k).wp X R Q v := by
  induction k generalizing l v Q with
  | zero =>
    unfold sample
    exact hQ [] v (fp_refl _ _) rfl nofun
  | succ k ih =>
    match l with
    | [] => simp at hk
    | a :: l =>
      unfold sample
      rw [wp_bind]
      refine randrange_wp _ fun i v₁ h₁ hi => ?_
      have hi := hi (Nat.succ_pos _)
      have hlen : k ≤ ((a :: l).eraseIdx i).length := by
        rw [List.length_eraseIdx_of_lt (by simpa using hi)]
        simpa using hk
      rw [wp_bind]
      refine ih hlen fun rest v₂ h₂ hrest hmem => ?_
      apply hQ _ _ (fp_trans h₁ h₂)
      · simp [hrest]
      · intro b hb
        rcases List.mem_cons.mp hb with rfl | hb
        · rw [List.getD_eq_getElem?_getD, List.getElem?_eq_getElem (by simpa using hi)]
          exact List.getElem_mem _
        · exact List.mem_of_mem_eraseIdx (hmem b hb)

theorem drawFromPack_wp (r : RoomId) (theme : Theme) {words : List String} (hwords : words ≠ [])
    {Q : Pack → View World Frame Mark → Prop}
    (hQ : ∀ pack v', (fp []).change v.state v'.state → pack.words ≠ [] → Q pack v') :
    (drawFromPack r theme words).wp X R Q v := by
  unfold drawFromPack
  simp only [wp_bind, wp_readRoom]
  refine sample_wp (min_le_right _ _) fun l v' h' hlen _ => ?_
  apply hQ _ _ h'
  intro hl
  simp only at hl
  have hpos : 0 < words.length := List.length_pos_iff.mpr hwords
  rw [hl, List.length_nil] at hlen
  split at hlen <;> omega

theorem drawFromPacks_wp (r : RoomId) {packs : List Pack} (hpacks : ∀ pack ∈ packs, pack.words ≠ [])
    {Q : List Pack → View World Frame Mark → Prop}
    (hQ : ∀ packs' v', (fp []).change v.state v'.state → packs'.length = packs.length →
      (∀ pack ∈ packs', pack.words ≠ []) → Q packs' v') :
    (drawFromPacks r packs).wp X R Q v := by
  induction packs generalizing v Q with
  | nil =>
    unfold drawFromPacks
    exact hQ [] v (fp_refl _ _) rfl nofun
  | cons pack packs ih =>
    unfold drawFromPacks
    rw [wp_bind]
    refine drawFromPack_wp r _ (hpacks pack List.mem_cons_self) fun drawn v₁ h₁ hdrawn => ?_
    rw [wp_bind]
    refine ih (fun p hp => hpacks p (List.mem_cons_of_mem _ hp)) fun rest v₂ h₂ hlen hrest => ?_
    refine hQ _ _ (fp_trans h₁ h₂) (by simp [hlen]) fun p hp => ?_
    rcases List.mem_cons.mp hp with rfl | hp
    · exact hdrawn
    · exact hrest p hp

/-- Packs with words give at least one word. -/
theorem words_of_packs {packs : List Pack} (hne : packs ≠ [])
    (hwords : ∀ pack ∈ packs, pack.words ≠ []) : packs.flatMap (·.words) ≠ [] := by
  obtain ⟨pack, l, rfl⟩ := List.exists_cons_of_ne_nil hne
  have h := hwords pack List.mem_cons_self
  simp [h]

/-- **The packs of a turn hold a word.** -/
theorem drawWordPackChoices_wp (env : Env) (r : RoomId)
    {Q : List Pack → View World Frame Mark → Prop}
    (hQ : ∀ packs v', (fp []).change v.state v'.state → packs.flatMap (·.words) ≠ [] → Q packs v') :
    (drawWordPackChoices env r).wp X R Q v := by
  unfold drawWordPackChoices drawCustomPack
  simp only [wp_bind, wp_readRoom]
  have hrest : ∀ (custom : List Pack) v₁, (fp []).change v.state v₁.state →
      (∀ pack ∈ custom, pack.words ≠ []) → custom.length ≤ 1 →
      (sample env.wordPacks (min (3 - custom.length) env.wordPacks.length)).wp X R
        (fun sampledPacks v₂ => (drawFromPacks r sampledPacks).wp X R
          (fun packs v₃ => (Pure.pure (custom ++ packs) : M (List Pack)).wp X R Q v₃) v₂) v₁ := by
    intro custom v₁ h₁ hcustom hlen
    refine sample_wp (min_le_right _ _) fun sampled v₂ h₂ hslen hmem => ?_
    refine drawFromPacks_wp r (fun pack hp => env.words_ne pack (hmem pack hp))
      fun packs v₃ h₃ hplen hpacks => ?_
    refine hQ _ _ (fp_trans h₁ (fp_trans h₂ h₃)) (words_of_packs ?_ fun pack hp => ?_)
    · have hpos : 0 < env.wordPacks.length := List.length_pos_iff.mpr env.wordPacks_ne
      apply List.ne_nil_of_length_pos
      rw [List.length_append, hplen, hslen]
      omega
    · exact (List.mem_append.mp hp).elim (hcustom pack) (hpacks pack)
  rw [wp_ite]
  refine ⟨fun _ => hrest [] v (fp_refl _ _) (List.forall_mem_nil _) (Nat.zero_le _), fun hne => ?_⟩
  refine drawFromPacks_wp r (by simpa using hne) fun custom v₁ h₁ hlen hcustom => ?_
  exact hrest custom v₁ h₁ hcustom hlen.le

/-! ## The start of a turn -/

/-- What `start_turn` leaves behind: words for the drawer `d`, and an auto-select task for it. -/
structure TurnOffered (r : RoomId) (d : PlayerId) (w w' : World) : Prop where
  change : (fp [.pending, .state, .autoSelect, .raises]).change w w'
  state : (w'.room r).state = .wordSelection
  pending : ∃ words, (w'.room r).pendingWordChoices = some words ∧ words ≠ []
  task : ∃ n, w.nextTask ≤ n ∧ (w'.room r).autoSelectTask = some (d, n) ∧
    w'.Live ⟨.autoSelect r d, n⟩ ∧
    ∀ d' n', n' ≠ n → w'.task ⟨.autoSelect r d', n'⟩ = w.task ⟨.autoSelect r d', n'⟩

section Unsuspended

variable {env : Env} {r : RoomId} (hsuspend : ∀ fs v, ¬X.cond (.suspend fs) v)
include hsuspend

theorem startTurn_wp {d : PlayerId} (hr : r < v.state.nextRoom)
    (hd : (v.state.room r).players[(v.state.room r).drawerIndex]? = some d)
    {Q : Unit → View World Frame Mark → Prop}
    (hQ : ∀ v', TurnOffered r d v.state v'.state → Q () v') :
    (startTurn env r).wp X R Q v := by
  refine wp_changing [.pending, .state, .autoSelect, .raises] inferInstance hsuspend ?_
  unfold startTurn
  simp only [wp_bind, wp_readRoom, wp_elim, hd, reduceCtorEq, false_implies, true_and,
    Option.some.injEq]
  rintro d rfl
  refine drawWordPackChoices_wp env r fun packs v₁ h₁ hwords => ?_
  simp only [wp_put]
  refine wp_call [] inferInstance (by decide) hsuspend fun _ v₂ h₂ => ?_
  simp only [wp_readPlayer]
  refine wp_call [] inferInstance (by decide) hsuspend fun _ v₃ h₃ => ?_
  simp only [wp_createTask]
  intro hchange
  apply hQ
  have hr₁ : r < v₁.state.nextRoom := hr.trans_le h₁.1.nextRoom
  have hr₂ : r < v₂.state.nextRoom := hr₁.trans_le h₂.1.nextRoom
  have hpending := (same_of_fp h₃ .pending).room r hr₂
  have hpending₂ := (same_of_fp h₂ .pending).room r hr₁
  have hstate := (same_of_fp h₃ .state).room r hr₂
  refine ⟨hchange, ?_, ?_, v₃.state.nextTask, ?_, ?_, ?_, ?_⟩
  · simpa [Update.apply, RoomUpdate.apply, Eff.sameRoom] using hstate
  · refine ⟨packs.flatMap (·.words), ?_, hwords⟩
    simp only [Eff.sameRoom, Update.apply, RoomUpdate.apply, View.set_state,
      Function.update_self] at hpending hpending₂ ⊢
    rw [hpending, hpending₂, Option.map_some]
  · exact h₁.1.nextTask.trans (h₂.1.nextTask.trans h₃.1.nextTask)
  · simp [Update.apply, RoomUpdate.apply]
  · simp [Update.apply, World.Live]
  · intro d' n' hn
    have hne : (⟨.autoSelect r d', n'⟩ : TaskId) ≠ ⟨.autoSelect r d, v₃.state.nextTask⟩ := by
      simp [hn]
    have h₁ := (same_of_fp h₁ .autoSelect).task ⟨.autoSelect r d', n'⟩ (by simp)
    have h₂ := (same_of_fp h₂ .autoSelect).task ⟨.autoSelect r d', n'⟩ (by simp)
    have h₃ := (same_of_fp h₃ .autoSelect).task ⟨.autoSelect r d', n'⟩ (by simp)
    simp only [Update.apply, View.set_state, Function.update_of_ne hne]
    exact h₃.trans (h₂.trans h₁)

end Unsuspended

/-! ## The next drawer -/

variable {env : Env} {r : RoomId} {Q : Unit → View World Frame Mark → Prop}

theorem nextDrawer_wp (hne : (v.state.room r).players ≠ [])
    (hQ : ∀ v', (fp [.schedule]).change v.state v'.state →
      (v'.state.room r).drawerIndex < (v'.state.room r).players.length → Q () v') :
    (nextDrawer r).wp X R Q v := by
  unfold nextDrawer
  have hpos : 0 < (v.state.room r).players.length := List.length_pos_iff.mpr hne
  simp only [wp_bind, wp_readRoom, wp_ite, wp_put]
  refine ⟨fun _ => hQ _ ?_ ?_, fun hlt => hQ _ ?_ ?_⟩
  · exact fp_trans (fp_of_update (.room r (.drawerIndex 0)) (by simp) _)
      (fp_of_update (.room r (.currentRound _)) (by simp) _)
  · simpa [Update.apply, RoomUpdate.apply] using hpos
  · exact fp_of_update (.room r (.drawerIndex _)) (by simp) _
  · simp only [Update.apply, RoomUpdate.apply, View.set_state, Function.update_self]
    omega

theorem skipPlayers_wp {attempts : Nat} (hr : r < v.state.nextRoom)
    (hidx : (v.state.room r).drawerIndex < (v.state.room r).players.length)
    (hover : ∀ v', (fp [.schedule]).change v.state v'.state → (gameOver r).wp X R Q v')
    (hstart : ∀ v' d, (fp [.schedule]).change v.state v'.state →
      (v'.state.room r).players[(v'.state.room r).drawerIndex]? = some d →
      (startTurn env r).wp X R Q v') :
    (skipPlayers env r attempts).wp X R Q v := by
  induction attempts generalizing v with
  | zero =>
    unfold skipPlayers
    exact hover v (fp_refl _ _)
  | succ attempts ih =>
    unfold skipPlayers
    simp only [wp_bind, wp_read, wp_elim]
    refine ⟨fun h => absurd h (by simpa using hidx), fun d hd => ?_⟩
    rw [wp_ite, wp_bind, wp_mark, wp_bind]
    refine ⟨fun _ _ => hstart (v.push _) d (fp_refl _ _) hd, fun _ => ?_⟩
    refine nextDrawer_wp (List.ne_nil_of_length_pos (Nat.zero_lt_of_lt hidx)) fun v₁ h₁ hidx₁ => ?_
    simp only [wp_bind, wp_readRoom, wp_ite]
    refine ⟨fun _ => hover v₁ h₁, fun _ => ih (hr.trans_le h₁.1.nextRoom) hidx₁ ?_ ?_⟩
    · exact fun v' h' => hover v' (fp_trans h₁ h')
    · exact fun v' d' h' => hstart v' d' (fp_trans h₁ h')

/-- **The three ways of `advance_turn_or_round`**: wait for players, end the game, or start a turn
with a drawer that the room has. -/
theorem advanceTurnOrRound_wp (hr : r < v.state.nextRoom)
    (hwait : (v.state.connectedActive r).length < 2 →
      (endGameInsufficientPlayers r).wp X R Q v)
    (hover : ∀ v', (fp [.schedule]).change v.state v'.state → (gameOver r).wp X R Q v')
    (hstart : ∀ v' d, (fp [.schedule]).change v.state v'.state →
      (v'.state.room r).players[(v'.state.room r).drawerIndex]? = some d →
      (startTurn env r).wp X R Q v') :
    (advanceTurnOrRound env r).wp X R Q v := by
  unfold advanceTurnOrRound
  simp only [wp_bind, wp_read, wp_ite]
  refine ⟨hwait, fun hlen => ?_⟩
  have hne : (v.state.room r).players ≠ [] := by
    intro h
    simp [World.connectedActive, h] at hlen
  refine nextDrawer_wp hne fun v₁ h₁ hidx => ?_
  simp only [wp_readRoom]
  refine ⟨fun _ => hover v₁ h₁, fun _ => skipPlayers_wp (hr.trans_le h₁.1.nextRoom) hidx ?_ ?_⟩
  · exact fun v' h' => hover v' (fp_trans h₁ h')
  · exact fun v' d h' => hstart v' d (fp_trans h₁ h')

end Skribbl.Backend
