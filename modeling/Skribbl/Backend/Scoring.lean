import Mathlib.Algebra.Order.Floor.Ring
import Mathlib.Tactic.Linarith
import Mathlib.Tactic.Positivity
import Skribbl.Lib.Execution
import Skribbl.Backend.Worker

/-!
# The scores of a turn

* `pyRound_mono`, `computeGuesserScore_bounds`, `computeGuesserScore_anti`, `computeDrawerBonus_le`
  — the pure functions.
* `awards` — what the loop over `guess_order` gives to each guesser that is present.
* `Scored` — what the loop has done to the players.

Principal result: `endTurn_scores` — the scores, streaks and statistics that `end_turn` leaves, and
the payload of its `turn_ended`.
-/

set_option autoImplicit false

namespace Skribbl.Backend

open Coro

/-! ## Rounding -/

theorem pyRound_floor (x : ℚ) : ⌊x⌋ ≤ pyRound x ∧ pyRound x ≤ ⌊x⌋ + 1 := by
  unfold pyRound
  dsimp only
  split_ifs <;> omega

theorem pyRound_int (n : Int) : pyRound n = n := by
  unfold pyRound
  simp

/-- Rounding is monotone. -/
theorem pyRound_mono {x y : ℚ} (h : x ≤ y) : pyRound x ≤ pyRound y := by
  rcases (Int.floor_mono h).lt_or_eq with hlt | heq
  · have hx := (pyRound_floor x).2
    have hy := (pyRound_floor y).1
    omega
  · unfold pyRound
    rw [heq]
    dsimp only
    split_ifs <;> first | omega | linarith

theorem pyRound_le {x : ℚ} {n : Int} (h : x ≤ n) : pyRound x ≤ n :=
  (pyRound_mono h).trans_eq (pyRound_int n)

theorem le_pyRound {x : ℚ} {n : Int} (h : n ≤ x) : n ≤ pyRound x :=
  (pyRound_int n).symm.trans_le (pyRound_mono h)

/-! ## Awards -/

/-- The base score of `compute_guesser_score`. -/
def baseScore (elapsed duration : ℚ) : Int :=
  max 50 (pyRound (500 * (1 - min 1 (max 0 (elapsed / duration))) ^ 2))

/-- The position multiplier of `compute_guesser_score`. -/
def multiplier : Nat → ℚ
  | 1 => 3 / 2
  | 2 => 6 / 5
  | 3 => 1
  | _ => 9 / 10

theorem computeGuesserScore_eq (elapsed duration : ℚ) (position : Nat) :
    computeGuesserScore elapsed duration position =
      pyRound (baseScore elapsed duration * multiplier position) := by
  match position with
  | 0 | 1 | 2 | 3 | _ + 4 => rfl

theorem multiplier_bounds (position : Nat) :
    9 / 10 ≤ multiplier position ∧ multiplier position ≤ 3 / 2 := by
  unfold multiplier
  split <;> norm_num

theorem multiplier_anti {i j : Nat} (hi : 0 < i) (h : i ≤ j) : multiplier j ≤ multiplier i := by
  match i, j with
  | 1, j => exact (multiplier_bounds j).2
  | 2, 2 | 3, 3 => rfl
  | 2, 3 => norm_num [multiplier]
  | 2, j + 4 =>
    show (9 / 10 : ℚ) ≤ 6 / 5
    norm_num
  | 3, j + 4 =>
    show (9 / 10 : ℚ) ≤ 1
    norm_num
  | i + 4, j + 4 => rfl

theorem baseScore_bounds (elapsed duration : ℚ) :
    50 ≤ baseScore elapsed duration ∧ baseScore elapsed duration ≤ 500 := by
  refine ⟨le_max_left _ _, max_le (by norm_num) (pyRound_le ?_)⟩
  have hlo : 0 ≤ min 1 (max 0 (elapsed / duration)) := le_min zero_le_one (le_max_left _ _)
  have hhi : min 1 (max 0 (elapsed / duration)) ≤ 1 := min_le_left _ _
  push_cast
  nlinarith

/-- The base score falls with the time. -/
theorem baseScore_anti {e₁ e₂ duration : ℚ} (hd : 0 < duration) (h : e₁ ≤ e₂) :
    baseScore e₂ duration ≤ baseScore e₁ duration := by
  refine max_le_max_left 50 (pyRound_mono ?_)
  have hratio : min 1 (max 0 (e₁ / duration)) ≤ min 1 (max 0 (e₂ / duration)) :=
    min_le_min_left 1 (max_le_max_left 0 (by gcongr))
  have hhi : min 1 (max 0 (e₂ / duration)) ≤ 1 := min_le_left _ _
  nlinarith

theorem computeGuesserScore_bounds (elapsed duration : ℚ) (position : Nat) :
    45 ≤ computeGuesserScore elapsed duration position ∧
      computeGuesserScore elapsed duration position ≤ 750 := by
  rw [computeGuesserScore_eq]
  obtain ⟨hm, hm'⟩ := multiplier_bounds position
  obtain ⟨hb, hb'⟩ := baseScore_bounds elapsed duration
  have hb : (50 : ℚ) ≤ baseScore elapsed duration := by exact_mod_cast hb
  have hb' : (baseScore elapsed duration : ℚ) ≤ 500 := by exact_mod_cast hb'
  refine ⟨le_pyRound ?_, pyRound_le ?_⟩
  · push_cast
    nlinarith
  · push_cast
    nlinarith

/-- A later guess at a later position is not worth more. -/
theorem computeGuesserScore_anti {e₁ e₂ duration : ℚ} {i j : Nat} (hd : 0 < duration)
    (he : e₁ ≤ e₂) (hi : 0 < i) (hij : i ≤ j) :
    computeGuesserScore e₂ duration j ≤ computeGuesserScore e₁ duration i := by
  rw [computeGuesserScore_eq, computeGuesserScore_eq]
  refine pyRound_mono ?_
  have hbase : (baseScore e₂ duration : ℚ) ≤ baseScore e₁ duration := by
    exact_mod_cast baseScore_anti hd he
  have hpos : (50 : ℚ) ≤ baseScore e₂ duration := by
    exact_mod_cast (baseScore_bounds e₂ duration).1
  have hmult := multiplier_anti hi hij
  have hm := (multiplier_bounds j).1
  nlinarith

/-- The drawer's bonus is between the bounds of the awards. -/
theorem computeDrawerBonus_le {l : List Int} (hl : l ≠ []) {m n : Int} (hm : ∀ a ∈ l, m ≤ a)
    (hn : ∀ a ∈ l, a ≤ n) : m ≤ computeDrawerBonus l ∧ computeDrawerBonus l ≤ n := by
  unfold computeDrawerBonus
  rw [if_neg hl]
  have hlen : (0 : ℚ) < l.length := by exact_mod_cast List.length_pos_iff.mpr hl
  have hlo : l.length • m ≤ l.sum := List.card_nsmul_le_sum l m hm
  have hhi : l.sum ≤ l.length • n := List.sum_le_card_nsmul l n hn
  rw [nsmul_eq_mul] at hlo hhi
  refine ⟨le_pyRound ?_, pyRound_le ?_⟩
  · rw [le_div_iff₀ hlen, mul_comm]
    exact_mod_cast hlo
  · rw [div_le_iff₀ hlen, mul_comm]
    exact_mod_cast hhi

/-! ## The loop over the guessers -/

/-- `room.get_player` finds the player. -/
def World.Present (w : World) (r : RoomId) (p : PlayerId) : Prop :=
  p ∈ (w.room r).playersById ∨ p ∈ (w.room r).players

instance (w : World) (r : RoomId) (p : PlayerId) : Decidable (w.Present r p) :=
  inferInstanceAs (Decidable (_ ∨ _))

/-- The recorded time of a guess. -/
def World.guessedAt (w : World) (r : RoomId) (p : PlayerId) : ℚ :=
  (w.player r p).guessTime.getD w.now

/-- The score of a guesser at a position of `guess_order`. -/
def World.award (w : World) (r : RoomId) (turn : TurnState) (duration : ℚ) (position : Nat)
    (p : PlayerId) : Int :=
  computeGuesserScore (max 0 (min (w.guessedAt r p - turn.startTime) duration)) duration position

/-- The scores of the guessers that are present, from a position on. -/
def World.awards (w : World) (r : RoomId) (turn : TurnState) (duration : ℚ) :
    Nat → List PlayerId → List (PlayerId × Int)
  | _, [] => []
  | i, p :: ps =>
    (if w.Present r p then [(p, w.award r turn duration i p)] else []) ++
      w.awards r turn duration (i + 1) ps

/-- What a list of awards gives to a player. -/
def total (l : List (PlayerId × Int)) (p : PlayerId) : Int :=
  ((l.filter (·.1 = p)).map (·.2)).sum

theorem total_append (l l' : List (PlayerId × Int)) (p : PlayerId) :
    total (l ++ l') p = total l p + total l' p := by
  simp [total]

/-- The scores in `l` have been given, and the streaks of the players in `m` are longer. -/
structure Scored (r : RoomId) (l : List (PlayerId × Int)) (m : List PlayerId) (w w' : World) :
    Prop where
  score : ∀ p, (w'.player r p).score = (w.player r p).score + total l p
  streak : ∀ p, (w'.player r p).streak = (w.player r p).streak + m.count p
  present : ∀ p, w'.Present r p ↔ w.Present r p
  players : (w'.room r).players = (w.room r).players
  guessedAt : ∀ p, w'.guessedAt r p = w.guessedAt r p

variable {r : RoomId} {w w₁ w₂ : World}

theorem Scored.refl (r : RoomId) (w : World) : Scored r [] [] w w :=
  ⟨fun _ => by simp [total], fun _ => by simp, fun _ => Iff.rfl, rfl, fun _ => rfl⟩

theorem Scored.trans {l l' : List (PlayerId × Int)} {m m' : List PlayerId}
    (h : Scored r l m w w₁) (h' : Scored r l' m' w₁ w₂) : Scored r (l ++ l') (m ++ m') w w₂ where
  score p := by rw [h'.score, h.score, total_append, add_assoc]
  streak p := by rw [h'.streak, h.streak, List.count_append, add_assoc]
  present p := (h'.present p).trans (h.present p)
  players := h'.players.trans h.players
  guessedAt p := (h'.guessedAt p).trans (h.guessedAt p)

theorem Scored.awards {l : List (PlayerId × Int)} {m : List PlayerId} (h : Scored r l m w w₁)
    (turn : TurnState) (duration : ℚ) (i : Nat) (ps : List PlayerId) :
    w₁.awards r turn duration i ps = w.awards r turn duration i ps := by
  induction ps generalizing i with
  | nil => rfl
  | cons p ps ih => simp only [World.awards, h.present, World.award, h.guessedAt, ih]

/-- `get_player` moves a player of the room into the index. -/
theorem Scored.index {p : PlayerId} (hp : p ∈ (w.room r).players) :
    Scored r [] [] w ((Update.room r (.playersById p)).apply w) where
  score q := by simp [total, Update.apply]
  streak q := by simp [Update.apply]
  present q := by
    simp only [World.Present, Update.apply, RoomUpdate.apply, Function.update_self,
      List.mem_append, List.mem_filter, List.mem_singleton]
    by_cases hq : q = p
    · simp [hq, hp]
    · simp [hq]
  players := by simp [Update.apply, RoomUpdate.apply]
  guessedAt q := rfl

/-- An assignment to a player that gives it a score or a longer streak, or neither. -/
theorem Scored.put {p : PlayerId} {l : List (PlayerId × Int)} {m : List PlayerId} (u : PlayerUpdate)
    (hl : ∀ x ∈ l, x.1 = p) (hm : ∀ q ∈ m, q = p)
    (hscore : (u.apply (w.player r p)).score = (w.player r p).score + total l p)
    (hstreak : (u.apply (w.player r p)).streak = (w.player r p).streak + m.count p)
    (htime : (u.apply (w.player r p)).guessTime = (w.player r p).guessTime) :
    Scored r l m w ((Update.player r p u).apply w) where
  score q := by
    by_cases hq : q = p
    · subst hq
      simpa [Update.apply] using hscore
    · have htotal : l.filter (fun x => x.1 = q) = [] := by
        refine List.filter_eq_nil_iff.mpr fun x hx => ?_
        simpa [hl x hx] using Ne.symm hq
      simp [Update.apply, hq, total, htotal]
  streak q := by
    by_cases hq : q = p
    · subst hq
      simpa [Update.apply] using hstreak
    · have hcount : m.count q = 0 := List.count_eq_zero.mpr fun h => hq (hm q h)
      simp [Update.apply, hq, hcount]
  present q := Iff.rfl
  players := rfl
  guessedAt q := by
    by_cases hq : q = p
    · subst hq
      simpa [World.guessedAt, Update.apply] using congrArg (·.getD w.now) htime
    · simp [World.guessedAt, Update.apply, hq]

section Atomic

variable {X : Setting World Frame Mark} {R : Multiset Frame} {v : View World Frame Mark}

theorem getPlayer_wp {p : PlayerId} {Q : Option PlayerId → View World Frame Mark → Prop}
    (hsome : ∀ w', Scored r [] [] v.state w' → v.state.Present r p → Q (some p) (v.set w'))
    (hnone : ¬v.state.Present r p → Q none v) : (getPlayer r p).wp X R Q v := by
  unfold getPlayer
  simp only [wp_bind, wp_readRoom, wp_ite, wp_put, wp_pure]
  refine ⟨fun h => hsome v.state (.refl _ _) (.inl h), fun h => ⟨fun h' => ?_, fun h' => ?_⟩⟩
  · exact hsome _ (.index h') (.inr h')
  · exact hnone fun hp => hp.elim h h'

/-- **The loop over `guess_order`** gives the awards. -/
theorem scoreGuessers_wp (turn : TurnState) (duration : ℚ) (i : Nat) (ps : List PlayerId)
    {Q : List (PlayerId × Int) → View World Frame Mark → Prop}
    (hQ : ∀ v', Scored r (v.state.awards r turn duration i ps)
        ((v.state.awards r turn duration i ps).map (·.1)) v.state v'.state →
      Q (v.state.awards r turn duration i ps) v') :
    (scoreGuessers r turn duration i ps).wp X R Q v := by
  induction ps generalizing i v Q with
  | nil =>
    unfold scoreGuessers
    exact hQ v (.refl _ _)
  | cons p ps ih =>
    unfold scoreGuessers
    rw [wp_bind]
    refine getPlayer_wp (fun w₁ h₁ hpresent => ?_) fun habsent => ?_
    · rw [Option.elim_some]
      simp only [wp_bind, wp_read, wp_put, wp_mark, wp_when]
      have hawards : v.state.awards r turn duration i (p :: ps) =
          (p, w₁.award r turn duration i p) :: w₁.awards r turn duration (i + 1) ps := by
        simp [World.awards, hpresent, h₁.awards, World.award, h₁.guessedAt]
      -- the assignments to the player, one after the other
      have hscore := Scored.put (w := w₁) (r := r) (p := p)
        (l := [(p, w₁.award r turn duration i p)]) (m := [])
        (.score ((w₁.player r p).score + w₁.award r turn duration i p)) (by simp) (by simp)
        (by simp [PlayerUpdate.apply, total]) (by simp [PlayerUpdate.apply]) rfl
      have hcount : ∀ w₂, Scored r [] [] w₂ ((Update.player r p
          (.correctGuessesCount ((w₁.player r p).correctGuessesCount + 1))).apply w₂) := fun _ =>
        .put _ (by simp) (by simp) (by simp [PlayerUpdate.apply, total])
          (by simp [PlayerUpdate.apply]) rfl
      have hfastest : ∀ w₂ t, Scored r [] [] w₂
          ((Update.player r p (.fastestGuessTime (some t))).apply w₂) := fun _ _ =>
        .put _ (by simp) (by simp) (by simp [PlayerUpdate.apply, total])
          (by simp [PlayerUpdate.apply]) rfl
      have hmax : ∀ w₂ n, Scored r [] [] w₂ ((Update.player r p (.maxStreak n)).apply w₂) :=
        fun _ _ => .put _ (by simp) (by simp) (by simp [PlayerUpdate.apply, total])
          (by simp [PlayerUpdate.apply]) rfl
      have hrest : ∀ v₂ : View World Frame Mark,
          Scored r [(p, w₁.award r turn duration i p)] [] w₁ v₂.state →
          (scoreGuessers r turn duration (i + 1) ps).wp X R (fun rest v' =>
            Q ((p, w₁.award r turn duration i p) :: rest) v')
            ((v₂.set ((Update.player r p (.streak ((w₁.player r p).streak + 1))).apply
              v₂.state)).set
              ((Update.player r p (.maxStreak (max (w₁.player r p).maxStreak
                ((w₁.player r p).streak + 1)))).apply
                ((Update.player r p (.streak ((w₁.player r p).streak + 1))).apply v₂.state))) := by
        intro v₂ h₂
        have hstreak : Scored r [] [p] v₂.state
            ((Update.player r p (.streak ((w₁.player r p).streak + 1))).apply v₂.state) :=
          .put _ (by simp) (by simp) (by simp [PlayerUpdate.apply, total])
            (by simp [PlayerUpdate.apply, h₂.streak]) rfl
        have hplayer := (h₁.trans (h₂.trans hstreak)).trans (hmax _ (max (w₁.player r p).maxStreak
          ((w₁.player r p).streak + 1)))
        refine ih (i + 1) fun v' h' => ?_
        have hall := hplayer.trans h'
        simp only [View.set_state, hplayer.awards, ← h₁.awards] at hall ⊢
        have hres := hQ v'
        rw [hawards] at hres
        exact hres hall
      intro _
      exact ⟨fun _ => hrest _ ((hscore.trans (hcount _)).trans (hfastest _ _)),
        fun _ => hrest _ (hscore.trans (hcount _))⟩
    · rw [Option.elim_none]
      refine ih (i + 1) fun v' h' => ?_
      have heq : v.state.awards r turn duration i (p :: ps) =
          v.state.awards r turn duration (i + 1) ps := by
        simp [World.awards, habsent]
      have hres := hQ v'
      rw [heq] at hres
      exact hres h'

/-- The streaks of some players are reset. -/
theorem resetStreaks_wp (l : List PlayerId) {Q : Unit → View World Frame Mark → Prop}
    (hQ : ∀ v', v'.state.room = v.state.room →
      (∀ p, (v'.state.player r p).score = (v.state.player r p).score) →
      (∀ p, (v'.state.player r p).streak = if p ∈ l then 0 else (v.state.player r p).streak) →
      Q () v') :
    (Coro.each l fun p => put (.player r p (.streak 0))).wp X R Q v := by
  refine wp_mono (wp_each (fun rest v' => ∃ done, l = done ++ rest ∧
    v'.state.room = v.state.room ∧
    (∀ p, (v'.state.player r p).score = (v.state.player r p).score) ∧
    ∀ p, (v'.state.player r p).streak = if p ∈ done then 0 else (v.state.player r p).streak)
    ?_ ⟨[], rfl, rfl, by simp, by simp⟩) ?_
  · rintro p rest v₁ ⟨done, hl, hroom, hscore, hstreak⟩
    rw [wp_put]
    refine ⟨done ++ [p], by simp [hl], hroom, fun q => ?_, fun q => ?_⟩
    · by_cases hq : q = p
      · subst hq
        simpa [Update.apply, PlayerUpdate.apply] using hscore q
      · simpa [Update.apply, hq] using hscore q
    · by_cases hq : q = p
      · simp [Update.apply, PlayerUpdate.apply, hq]
      · simpa [Update.apply, hq] using hstreak q
  · rintro - v' ⟨done, hl, hroom, hscore, hstreak⟩
    rw [List.append_nil] at hl
    exact hQ v' hroom hscore (hl ▸ hstreak)

/-- What `end_turn` gives to a player besides its award. -/
def World.drawerShare (w : World) (r : RoomId) (turn : TurnState) (duration : ℚ) (p : PlayerId) :
    Int :=
  if p = turn.drawerId ∧ w.Present r p then
    computeDrawerBonus ((w.awards r turn duration 1 turn.guessOrder).map (·.2)) else 0

/-- The payload of `turn_ended`. -/
def World.turnPayload (w : World) (r : RoomId) (turn : TurnState) (duration : ℚ) :
    List (PlayerId × Int) :=
  let awards := w.awards r turn duration 1 turn.guessOrder
  let payload := awards.foldl (fun d x => dictSet d x.1 x.2) []
  if w.Present r turn.drawerId then
    dictSet payload turn.drawerId (computeDrawerBonus (awards.map (·.2)))
  else payload

/-- **The scores of a turn** in `end_turn`. -/
theorem scoreTurn_wp (turn : TurnState) (duration : ℚ)
    {Q : List (PlayerId × Int) → View World Frame Mark → Prop}
    (hQ : ∀ v', (∀ p, (v'.state.player r p).score = (v.state.player r p).score +
        total (v.state.awards r turn duration 1 turn.guessOrder) p +
        v.state.drawerShare r turn duration p) →
      (∀ p ∈ (v.state.room r).players, (v'.state.player r p).streak =
        if p ≠ turn.drawerId ∧ p ∉ turn.guessOrder then 0 else (v.state.player r p).streak +
          ((v.state.awards r turn duration 1 turn.guessOrder).map (·.1)).count p) →
      Q (v.state.turnPayload r turn duration) v') :
    (scoreTurn r turn duration).wp X R Q v := by
  unfold scoreTurn
  rw [wp_bind]
  refine scoreGuessers_wp turn duration 1 _ fun v₁ h₁ => ?_
  rw [wp_bind, wp_readRoom, wp_bind]
  refine resetStreaks_wp _ fun v₂ hroom hscore hstreak => ?_
  have hstreak₂ : ∀ p ∈ (v.state.room r).players, (v₂.state.player r p).streak =
      if p ≠ turn.drawerId ∧ p ∉ turn.guessOrder then 0 else (v.state.player r p).streak +
        ((v.state.awards r turn duration 1 turn.guessOrder).map (·.1)).count p := fun p hp => by
    rw [hstreak, h₁.players]
    simp only [List.mem_filter, hp, true_and, decide_eq_true_eq, h₁.streak]
  have hpresent : ∀ p, v₂.state.Present r p ↔ v.state.Present r p := fun p => by
    rw [World.Present, hroom]
    exact h₁.present p
  have hscore₂ : ∀ p, (v₂.state.player r p).score = (v.state.player r p).score +
      total (v.state.awards r turn duration 1 turn.guessOrder) p := fun p =>
    (hscore p).trans (h₁.score p)
  rw [wp_bind]
  refine getPlayer_wp (fun w₃ h₃ hdrawer => ?_) fun habsent => ?_
  · rw [Option.elim_some]
    simp only [wp_bind, wp_readPlayer, wp_put, wp_mark, wp_pure]
    intro _
    have hdrawer := (hpresent _).mp hdrawer
    have hres := hQ
    unfold World.turnPayload at hres
    simp only [hdrawer, if_true] at hres
    refine hres _ (fun p => ?_) fun p hp => ?_
    · have h₃ : (w₃.player r p).score = (v₂.state.player r p).score := by simp [h₃.score, total]
      by_cases hp : p = turn.drawerId
      · subst hp
        simp [Update.apply, PlayerUpdate.apply, World.drawerShare, hdrawer, h₃, hscore₂]
      · simp [Update.apply, World.drawerShare, hp, h₃, hscore₂]
    · rw [← hstreak₂ p hp]
      have h₃ : (w₃.player r p).streak = (v₂.state.player r p).streak := by simp [h₃.streak]
      by_cases hp : p = turn.drawerId
      · subst hp
        simp [Update.apply, PlayerUpdate.apply, h₃]
      · simp [Update.apply, hp, h₃]
  · rw [Option.elim_none, wp_pure]
    have habsent : ¬v.state.Present r turn.drawerId := fun h => habsent ((hpresent _).mpr h)
    have hres := hQ v₂
    unfold World.turnPayload at hres
    simp only [habsent, if_false] at hres
    refine hres (fun p => ?_) hstreak₂
    have hshare : v.state.drawerShare r turn duration p = 0 := by
      unfold World.drawerShare
      rw [if_neg]
      rintro ⟨rfl, hp⟩
      exact habsent hp
    rw [hshare, hscore₂, add_zero]

end Atomic

/-! ## The payload -/

theorem lookup_cons_if {α β : Type} [DecidableEq α] (a q : α) (b : β) (l : List (α × β)) :
    ((a, b) :: l).lookup q = if q = a then some b else l.lookup q := by
  by_cases h : q = a
  · simp [h]
  · have hbeq : (q == a) = false := by simpa using h
    rw [List.lookup_cons, hbeq, if_neg h]

theorem lookup_dictSet {α β : Type} [DecidableEq α] (d : List (α × β)) (k : α) (b : β) (q : α) :
    (dictSet d k b).lookup q = if q = k then some b else d.lookup q := by
  unfold dictSet
  split
  · rename_i hany
    induction d with
    | nil => simp at hany
    | cons x d ih =>
      obtain ⟨a, c⟩ := x
      by_cases hq : q = k
      · subst hq
        by_cases ha : a = q
        · simp [ha]
        · have hany' : d.any (·.1 = q) = true := by simpa [ha] using hany
          simpa [ha, Ne.symm ha, lookup_cons_if] using ih hany'
      · by_cases ha : a = k
        · subst ha
          have htail : (d.map fun x => if x.1 = a then (a, b) else x).lookup q = d.lookup q := by
            clear ih hany
            induction d with
            | nil => rfl
            | cons y d ih =>
              obtain ⟨y, z⟩ := y
              by_cases hy : y = a
              · simp [hy, hq, lookup_cons_if, ih]
              · simp only [List.map_cons, hy, if_false, lookup_cons_if, ih]
          simp [hq, lookup_cons_if, htail]
        · have hany' : d.any (·.1 = k) = true := by simpa [ha] using hany
          have ih := ih hany'
          rw [if_neg hq] at ih ⊢
          simp only [List.map_cons, ha, if_false, lookup_cons_if, ih]
  · rename_i hany
    by_cases hq : q = k
    · subst hq
      have hnone : d.lookup q = none := List.lookup_eq_none_iff.mpr fun x hx => by
        simp only [List.any_eq_true, decide_eq_true_eq, not_exists, not_and] at hany
        simpa using Ne.symm (hany x hx)
      simp [List.lookup_append, hnone]
    · simp [List.lookup_append, hq, lookup_cons_if]

/-- The dict of some distinct entries holds them. -/
theorem lookup_foldl_dictSet {α β : Type} [DecidableEq α] (l d : List (α × β)) (q : α)
    (hl : (l.map (·.1)).Nodup) :
    (l.foldl (fun d x => dictSet d x.1 x.2) d).lookup q = (l.lookup q).or (d.lookup q) := by
  induction l generalizing d with
  | nil => simp
  | cons x l ih =>
    obtain ⟨a, b⟩ := x
    obtain ⟨ha, hl⟩ := List.nodup_cons.mp hl
    rw [List.foldl_cons, ih _ hl, lookup_dictSet, lookup_cons_if]
    by_cases hq : q = a
    · subst hq
      have hnone : l.lookup q = none := List.lookup_eq_none_iff.mpr fun x hx => by
        simpa using fun h : q = x.1 => ha (List.mem_map.mpr ⟨x, hx, h.symm⟩)
      simp [hnone]
    · simp [hq]

/-- The players that get an award are the guessers that are present. -/
theorem awards_keys (w : World) (r : RoomId) (turn : TurnState) (duration : ℚ) (i : Nat)
    (ps : List PlayerId) :
    (w.awards r turn duration i ps).map (·.1) = ps.filter (w.Present r ·) := by
  induction ps generalizing i with
  | nil => rfl
  | cons p ps ih =>
    by_cases hp : w.Present r p
    · simp [World.awards, hp, ih]
    · simp [World.awards, hp, ih]

/-- The award of a guesser goes by its position in `guess_order`. -/
theorem lookup_awards {turn : TurnState} {duration : ℚ} {ps : List PlayerId} (hps : ps.Nodup)
    {i k : Nat} {p : PlayerId} (hk : ps[k]? = some p) (hp : w.Present r p) :
    (w.awards r turn duration i ps).lookup p = some (w.award r turn duration (i + k) p) := by
  induction ps generalizing i k with
  | nil => simp at hk
  | cons q ps ih =>
    obtain ⟨hq, hps⟩ := List.nodup_cons.mp hps
    cases k with
    | zero =>
      rw [List.getElem?_cons_zero, Option.some.injEq] at hk
      subst hk
      simp [World.awards, hp]
    | succ k =>
      rw [List.getElem?_cons_succ] at hk
      have hne : p ≠ q := fun h => hq (h ▸ List.mem_of_getElem? hk)
      have hrest := ih (i := i + 1) hps hk
      have hadd : i + 1 + k = i + (k + 1) := by omega
      rw [hadd] at hrest
      by_cases hpresent : w.Present r q
      · simpa [World.awards, hpresent, lookup_cons_if, hne] using hrest
      · simpa [World.awards, hpresent] using hrest

/-- With distinct keys a list gives what it holds. -/
theorem total_eq_lookup {l : List (PlayerId × Int)} (hl : (l.map (·.1)).Nodup) (p : PlayerId) :
    total l p = (l.lookup p).getD 0 := by
  induction l with
  | nil => rfl
  | cons x l ih =>
    obtain ⟨q, n⟩ := x
    obtain ⟨hq, hl⟩ := List.nodup_cons.mp hl
    by_cases hp : p = q
    · subst hp
      have hnone : l.filter (fun x => x.1 = p) = [] := List.filter_eq_nil_iff.mpr fun x hx => by
        simpa using fun h : x.1 = p => hq (List.mem_map.mpr ⟨x, hx, h⟩)
      simp [total, hnone]
    · have hne : q ≠ p := Ne.symm hp
      have ih := ih hl
      simpa [total, hne, hp, lookup_cons_if] using ih

/-! ## The end of a turn -/

/-- What the scores of a turn, sent in `turn_ended`, say about its players. -/
structure TurnScored (r : RoomId) (turn : TurnState) (duration : ℚ)
    (scores : List (PlayerId × Int)) (w w' : World) : Prop where
  score : ∀ p, p ≠ turn.drawerId ∨ p ∉ turn.guessOrder →
    (w'.player r p).score = (w.player r p).score + (scores.lookup p).getD 0
  /-- A drawer that has guessed gets its award besides its entry. -/
  guessingDrawer : ∀ i, turn.guessOrder[i]? = some turn.drawerId → w.Present r turn.drawerId →
    (w'.player r turn.drawerId).score = (w.player r turn.drawerId).score +
      w.award r turn duration (i + 1) turn.drawerId + (scores.lookup turn.drawerId).getD 0
  award : ∀ i p, turn.guessOrder[i]? = some p → w.Present r p → p ≠ turn.drawerId →
    scores.lookup p = some (w.award r turn duration (i + 1) p)
  bounds : ∀ i p, 45 ≤ w.award r turn duration (i + 1) p ∧
    w.award r turn duration (i + 1) p ≤ 750
  order : ∀ i j p q, i < j → turn.guessOrder[i]? = some p → turn.guessOrder[j]? = some q →
    turn.startTime ≤ w.guessedAt r p → w.guessedAt r p ≤ w.guessedAt r q →
    w.award r turn duration (j + 1) q ≤ w.award r turn duration (i + 1) p
  bonus : w.Present r turn.drawerId → ∃ bonus, scores.lookup turn.drawerId = some bonus ∧
    ((∀ p ∈ turn.guessOrder, ¬w.Present r p) → bonus = 0) ∧
    ∀ m n, (∃ p ∈ turn.guessOrder, w.Present r p) →
      (∀ i p, turn.guessOrder[i]? = some p → w.Present r p →
        m ≤ w.award r turn duration (i + 1) p ∧ w.award r turn duration (i + 1) p ≤ n) →
      m ≤ bonus ∧ bonus ≤ n
  streak : ∀ p ∈ (w.room r).players,
    (p ∈ turn.guessOrder → (w'.player r p).streak = (w.player r p).streak + 1) ∧
    (p ∉ turn.guessOrder → p ≠ turn.drawerId → (w'.player r p).streak = 0)

/-- Each award is the one of some position. -/
theorem mem_awards {w : World} {r : RoomId} {turn : TurnState} {duration : ℚ} {i : Nat}
    {ps : List PlayerId} {x : PlayerId × Int} (hx : x ∈ w.awards r turn duration i ps) :
    ∃ k, ps[k]? = some x.1 ∧ w.Present r x.1 ∧ x.2 = w.award r turn duration (i + k) x.1 := by
  induction ps generalizing i with
  | nil => simp [World.awards] at hx
  | cons p ps ih =>
    rw [World.awards, List.mem_append] at hx
    rcases hx with hx | hx
    · split at hx
      · rename_i hp
        rw [List.mem_singleton] at hx
        subst hx
        exact ⟨0, rfl, hp, rfl⟩
      · simp at hx
    · obtain ⟨k, hk, hp, heq⟩ := ih hx
      have hadd : i + 1 + k = i + (k + 1) := by omega
      exact ⟨k + 1, hk, hp, hadd ▸ heq⟩

theorem awards_nodup {w : World} {r : RoomId} {turn : TurnState} {duration : ℚ}
    (hnodup : turn.guessOrder.Nodup) :
    ((w.awards r turn duration 1 turn.guessOrder).map (·.1)).Nodup := by
  rw [awards_keys]
  exact hnodup.filter _

theorem lookup_turnPayload {turn : TurnState} {duration : ℚ} (hnodup : turn.guessOrder.Nodup)
    (p : PlayerId) : (w.turnPayload r turn duration).lookup p =
      if p = turn.drawerId ∧ w.Present r turn.drawerId then
        some (computeDrawerBonus ((w.awards r turn duration 1 turn.guessOrder).map (·.2)))
      else (w.awards r turn duration 1 turn.guessOrder).lookup p := by
  have hfold := lookup_foldl_dictSet (w.awards r turn duration 1 turn.guessOrder) [] p
    (awards_nodup hnodup)
  rw [List.lookup_nil, Option.or_none] at hfold
  unfold World.turnPayload
  dsimp only
  split
  · rename_i hdrawer
    rw [lookup_dictSet, hfold]
    simp [hdrawer]
  · rename_i habsent
    rw [hfold]
    simp [habsent]

/-- **The scores of a turn say what has happened to its players.** -/
theorem turnScored_of_scores {turn : TurnState} {duration : ℚ} (hduration : 0 < duration)
    (hnodup : turn.guessOrder.Nodup)
    (hscore : ∀ p, (w₁.player r p).score = (w.player r p).score +
      total (w.awards r turn duration 1 turn.guessOrder) p + w.drawerShare r turn duration p)
    (hstreak : ∀ p ∈ (w.room r).players, (w₁.player r p).streak =
      if p ≠ turn.drawerId ∧ p ∉ turn.guessOrder then 0 else (w.player r p).streak +
        ((w.awards r turn duration 1 turn.guessOrder).map (·.1)).count p) :
    TurnScored r turn duration (w.turnPayload r turn duration) w w₁ where
  score p hp := by
    rw [hscore, total_eq_lookup (awards_nodup hnodup), lookup_turnPayload hnodup]
    unfold World.drawerShare
    by_cases hd : p = turn.drawerId
    · subst hd
      have hnone : (w.awards r turn duration 1 turn.guessOrder).lookup turn.drawerId = none := by
        refine List.lookup_eq_none_iff.mpr fun x hx => ?_
        obtain ⟨k, hk, -, -⟩ := mem_awards hx
        have hmem := List.mem_of_getElem? hk
        have hne : turn.drawerId ≠ x.1 := fun h => hp.elim (fun h => h rfl) fun h' => h' (h ▸ hmem)
        simpa using hne
      by_cases hpresent : w.Present r turn.drawerId <;> simp [hnone, hpresent]
    · simp [hd]
  guessingDrawer i hi hpresent := by
    rw [hscore, total_eq_lookup (awards_nodup hnodup), lookup_turnPayload hnodup,
      lookup_awards hnodup hi hpresent]
    unfold World.drawerShare
    simp [hpresent, Nat.add_comm]
  award i p hi hpresent hne := by
    rw [lookup_turnPayload hnodup, lookup_awards hnodup hi hpresent, Nat.add_comm]
    simp [hne]
  bounds i p := computeGuesserScore_bounds _ _ _
  order i j p q hij hi hj hstart htime := by
    refine computeGuesserScore_anti hduration ?_ (Nat.succ_pos i) (by omega)
    exact max_le_max_left 0 (min_le_min_right _ (sub_le_sub_right htime _))
  bonus hpresent := by
    refine ⟨computeDrawerBonus ((w.awards r turn duration 1 turn.guessOrder).map (·.2)), ?_, ?_, ?_⟩
    · rw [lookup_turnPayload hnodup]
      simp [hpresent]
    · intro habsent
      have hnil : w.awards r turn duration 1 turn.guessOrder = [] := by
        refine List.eq_nil_iff_forall_not_mem.mpr fun x hx => ?_
        obtain ⟨k, hk, hp, -⟩ := mem_awards hx
        exact habsent x.1 (List.mem_of_getElem? hk) hp
      simp [hnil, computeDrawerBonus]
    · rintro m n ⟨p, hp, hpresent⟩ hbounds
      have hmem : ∀ a ∈ (w.awards r turn duration 1 turn.guessOrder).map (·.2), m ≤ a ∧ a ≤ n := by
        intro a ha
        obtain ⟨x, hx, rfl⟩ := List.mem_map.mp ha
        obtain ⟨k, hk, hp, heq⟩ := mem_awards hx
        rw [heq, Nat.add_comm]
        exact hbounds k x.1 hk hp
      refine computeDrawerBonus_le (fun hnil => ?_) (fun a ha => (hmem a ha).1)
        fun a ha => (hmem a ha).2
      have hkeys := awards_keys w r turn duration 1 turn.guessOrder
      rw [List.map_eq_nil_iff.mp hnil] at hkeys
      have hfilter : p ∈ turn.guessOrder.filter (w.Present r ·) := by simp [hp, hpresent]
      rw [← hkeys] at hfilter
      simp at hfilter
  streak p hp := by
    refine ⟨fun hguess => ?_, fun hguess hne => ?_⟩
    · rw [hstreak p hp, if_neg fun h => h.2 hguess, awards_keys]
      have hcount : (turn.guessOrder.filter (w.Present r ·)).count p = 1 := by
        refine List.count_eq_one_of_mem (hnodup.filter _) ?_
        simp [hguess, World.Present, hp]
      rw [hcount]
    · rw [hstreak p hp, if_pos ⟨hne, hguess⟩]

/-- The part of `end_turn` after the scores: the broadcast of `turn_ended`, and the next turn. -/
def announceScores (env : Env) (r : RoomId) (code : String) (turn : TurnState)
    (reason : TurnEndReason) (scores : List (PlayerId × Int)) : M Unit := do
  Coro.frame (.turnEnded r turn.turnId) (broadcast code (.turnEnded turn.word scores reason))
  put (.room r .clearTurn)
  mark (.advances r turn.turnId)
  advanceTurnOrRound env r

/-- The cancellation of the tasks of a turn changes only tasks. -/
theorem cancelTurnTasks_ends {rely : World → World → Prop} {turn : TurnState}
    {x : Except String Unit} (h : (cancelTurnTasks r turn).Ends rely w x w₁) :
    x = .ok () ∧ w₁ = { w with task := w₁.task } := by
  have hwp : (cancelTurnTasks r turn).wp .atomic 0
      (fun _ v => v.state = { w with task := v.state.task }) ⟨w, 0, []⟩ := by
    unfold cancelTurnTasks
    simp only [wp_bind, wp_cancel]
    cases turn.timerTask <;> cases turn.hintTask40 <;> cases turn.hintTask70 <;> rfl
  obtain ⟨a, tr, rfl, hw⟩ := Ends.of_atomic hwp h
  exact ⟨rfl, hw⟩

/-- The scores of a turn, or none. -/
theorem turnScores_wp (turn : TurnState) (duration : ℚ) (reason : TurnEndReason)
    {v : View World Frame Mark} :
    (turnScores r turn duration reason).wp .atomic 0 (fun scores v' =>
      (reason ≠ .drawerDisconnected → scores = v.state.turnPayload r turn duration ∧
        (∀ p, (v'.state.player r p).score = (v.state.player r p).score +
          total (v.state.awards r turn duration 1 turn.guessOrder) p +
          v.state.drawerShare r turn duration p) ∧
        ∀ p ∈ (v.state.room r).players, (v'.state.player r p).streak =
          if p ≠ turn.drawerId ∧ p ∉ turn.guessOrder then 0 else (v.state.player r p).streak +
            ((v.state.awards r turn duration 1 turn.guessOrder).map (·.1)).count p) ∧
      (reason = .drawerDisconnected → scores = [] ∧ v'.state.player = v.state.player)) v := by
  unfold turnScores
  rw [wp_ite]
  refine ⟨fun h => ⟨fun hne => absurd h hne, fun _ => ⟨rfl, rfl⟩⟩, fun h => ?_⟩
  exact scoreTurn_wp turn duration fun v' hscore hstreak =>
    ⟨fun _ => ⟨rfl, hscore, hstreak⟩, fun hdd => absurd hdd h⟩

/-- Whatever leaves the scores alone. -/
def scoreless : Footprint World Frame Mark where
  change w w' := w.Extends w' ∧ Eff.ending.Same w w'
  frame _ := True
  mark _ := True
  fails := True

theorem scoreless_of_fp {S : List Eff} (hS : Eff.ending ∉ S) {α : Type} {c : M α}
    (hc : Within (fp S) c) : Within scoreless c :=
  hc.mono (fun _ _ h => ⟨h.1, h.2 _ hS⟩) (fun _ _ => trivial) (fun _ _ => trivial)
    fun _ => trivial

instance (env : Env) (code : String) (turn : TurnState) (reason : TurnEndReason)
    (scores : List (PlayerId × Int)) :
    Within scoreless (announceScores env r code turn reason scores) := by
  have hbroadcast : Within scoreless (broadcast code (.turnEnded turn.word scores reason)) :=
    scoreless_of_fp (S := []) (by decide) inferInstance
  have hframe : Within scoreless (Coro.frame (.turnEnded r turn.turnId)
      (broadcast code (.turnEnded turn.word scores reason))) := hbroadcast.frame trivial
  have hclear : Within scoreless (put (.room r .clearTurn)) :=
    scoreless_of_fp (S := [.turn]) (by decide) inferInstance
  have hmark : Within scoreless (mark (.advances r turn.turnId)) := .mark _ _ trivial (.pure _)
  have hadvance : Within scoreless (advanceTurnOrRound env r) :=
    scoreless_of_fp (S := [.schedule, .state, .pending, .autoSelect, .countdown, .raises])
      (by decide) inferInstance
  unfold announceScores
  infer_instance

/-- **What `end_turn` does to the players' scores**: `scores` is the payload of its `turn_ended`,
and `w₁` the state in which that is sent; unless the turn ends because its drawer has left, the
scores, bonus and streaks are as they should be; the rest of the call leaves them as they are, if
the others do so while it is suspended. -/
theorem endTurn_scores {env : Env} {r : RoomId} {w w' : World} {turn : TurnState}
    {reason : TurnEndReason} {rely : World → World → Prop} {x : Except String Unit}
    (hturn : (w.room r).turn = some turn) (hnodup : turn.guessOrder.Nodup)
    (hrely : ∀ s s', rely s s' → s.Extends s' ∧ Eff.ending.Same s s')
    (h : (endTurn env r reason).Ends rely w x w') :
    ∃ scores w₀ w₁,
      (turnScores r turn (w.room r).config.turnDuration reason).Ends rely w₀ (.ok scores) w₁ ∧
      (announceScores env r (w.room r).code turn reason scores).Ends rely w₁ x w' ∧
      Eff.ending.Same w₁ w' ∧
      (reason ≠ .drawerDisconnected →
        TurnScored r turn (w.room r).config.turnDuration scores w w₁) ∧
      (reason = .drawerDisconnected → scores = [] ∧ w₁.player = w.player) := by
  have hstart : (do
      cancelTurnTasks r turn
      finishTurn env r (w.room r).code (w.room r).config.turnDuration turn reason :
      M Unit).Ends rely w x w' := by
    have hcall : (Option.elim (w.room r).turn (Pure.pure () : M Unit) fun turn => do
        mark (.ends r turn.turnId)
        cancelTurnTasks r turn
        finishTurn env r (w.room r).code (w.room r).config.turnDuration turn reason).Ends
          rely w x w' := h
    rw [hturn] at hcall
    exact hcall
  obtain ⟨_, w₀, hcancel, hfinish⟩ : ∃ a w₀, (cancelTurnTasks r turn).Ends rely w (.ok a) w₀ ∧
      (finishTurn env r (w.room r).code (w.room r).config.turnDuration turn reason).Ends
        rely w₀ x w' :=
    hstart.of_bind.resolve_right fun ⟨_, _, h⟩ => nomatch (cancelTurnTasks_ends h).1
  obtain ⟨-, hw₀⟩ := cancelTurnTasks_ends hcancel
  have hwp := turnScores_wp (r := r) turn (w.room r).config.turnDuration reason (v := ⟨w₀, 0, []⟩)
  unfold finishTurn at hfinish
  obtain ⟨scores, w₁, hscores, hrest⟩ := hfinish.of_bind.resolve_right fun ⟨_, _, h⟩ =>
    nomatch (Ends.of_atomic hwp h).choose_spec.choose_spec.1
  obtain ⟨_, _, heq, hscored⟩ := Ends.of_atomic hwp hscores
  cases heq
  refine ⟨scores, w₀, w₁, hscores, hrest, ?_, fun hne => ?_, fun hdd => ?_⟩
  · have hwithin : Within scoreless (announceScores env r (w.room r).code turn reason scores) :=
      inferInstance
    have hsame : w₁.Extends w' ∧ Eff.ending.Same w₁ w' :=
      Ends.within (G := fun s => w₁.Extends s ∧ Eff.ending.Same w₁ s) hwithin
        (fun _ _ hs h => ⟨h.1.trans hs.1, h.2.trans h.1 hs.2⟩)
        (fun _ _ hs h => ⟨h.1.trans (hrely _ _ hs).1, h.2.trans h.1 (hrely _ _ hs).2⟩) hrest
        ⟨.refl _, .refl _ _⟩
    exact hsame.2
  · obtain ⟨rfl, hscore, hstreak⟩ := hscored.1 hne
    have hduration : (0 : ℚ) < (w.room r).config.turnDuration := by
      exact_mod_cast (Nat.lt_of_lt_of_le (by decide) (w.room r).config.turnDuration.property.1)
    have hfree : Scored r [] [] w w₀ := by
      rw [hw₀]
      exact ⟨fun _ => by simp [total], fun _ => by simp, fun _ => Iff.rfl, rfl, fun _ => rfl⟩
    have hplayer : w₀.player = w.player := by rw [hw₀]
    have hpayload : w₀.turnPayload r turn (w.room r).config.turnDuration =
        w.turnPayload r turn (w.room r).config.turnDuration := by
      simp only [World.turnPayload, hfree.awards, hfree.present]
    rw [hpayload]
    refine turnScored_of_scores hduration hnodup (fun p => ?_) fun p hp => ?_
    · rw [hscore p]
      simp only [hplayer, World.drawerShare, hfree.awards, hfree.present]
    · rw [hstreak p (hfree.players ▸ hp)]
      simp only [hplayer, hfree.awards]
  · obtain ⟨rfl, hplayer⟩ := hscored.2 hdd
    exact ⟨rfl, hplayer.trans (by rw [hw₀])⟩

/-- The turn of a player `0`, guessed by player `1` and by one who has left since. -/
def scoredTurn : TurnState :=
  ⟨0, .uuid 0, "cat", [], 0, [], none, none, none, [.uuid 1, .uuid 2], none⟩

/-- A room of two players with a turn. -/
def scoredWorld (turn : TurnState) : World :=
  { sampleWorld with
    room := fun _ =>
      { code := "ROOM01", hostId := .uuid 0, players := [.uuid 0, .uuid 1], turn := some turn }
    nextRoom := 1 }

/-- A turn that ends when its time is over. -/
theorem scoredTurn_scores : ∃ scores w₁,
    TurnScored 0 scoredTurn 80 scores (scoredWorld scoredTurn) w₁ := by
  obtain ⟨x, w', h⟩ : ∃ x w', (endTurn sampleEnv 0 .timerExpired).Ends (fun _ _ => False)
      (scoredWorld scoredTurn) x w' := Ends.total _ _
  obtain ⟨scores, _, w₁, -, -, -, hscored, -⟩ :=
    endTurn_scores (show ((scoredWorld scoredTurn).room 0).turn = some scoredTurn from rfl)
      (by decide) (fun _ _ h => h.elim) h
  exact ⟨scores, w₁, hscored (by decide)⟩

/-- **A drawer in `guess_order` gets more than its entry**: its award, at least 45, as well. -/
theorem guessingDrawer_gets_more : ∃ (turn : TurnState) (w w₀ w₁ : World)
    (scores : List (PlayerId × Int)), (w.room 0).turn = some turn ∧ turn.guessOrder.Nodup ∧
      turn.drawerId ∈ (w.room 0).players ∧
      (cancelTurnTasks 0 turn).Ends (fun _ _ => False) w (.ok ()) w₀ ∧
      (turnScores 0 turn (w.room 0).config.turnDuration .allGuessed).Ends (fun _ _ => False)
        w₀ (.ok scores) w₁ ∧
      (w₁.player 0 turn.drawerId).score ≠
        (w.player 0 turn.drawerId).score + (scores.lookup turn.drawerId).getD 0 := by
  let turn : TurnState := { scoredTurn with guessOrder := [.uuid 0] }
  obtain ⟨x, w₁, h⟩ : ∃ x w₁, (turnScores 0 turn 80 .allGuessed).Ends (fun _ _ => False)
      (scoredWorld turn) x w₁ := Ends.total _ _
  have hwp := turnScores_wp (r := 0) turn 80 .allGuessed (v := ⟨scoredWorld turn, 0, []⟩)
  obtain ⟨scores, _, rfl, hscored, -⟩ := Ends.of_atomic hwp h
  obtain ⟨rfl, hscore, hstreak⟩ := hscored (by decide)
  have hturn : TurnScored 0 turn 80 _ (scoredWorld turn) w₁ :=
    turnScored_of_scores (by norm_num) (by decide) hscore hstreak
  refine ⟨turn, scoredWorld turn, scoredWorld turn, w₁, _, rfl, by decide, by decide, ⟨rfl, rfl⟩, h,
    ?_⟩
  have hbounds := (hturn.bounds 0 turn.drawerId).1
  change (w₁.player 0 turn.drawerId).score ≠ ((scoredWorld turn).player 0 turn.drawerId).score +
    (((scoredWorld turn).turnPayload 0 turn 80).lookup turn.drawerId).getD 0
  rw [hturn.guessingDrawer 0 rfl (by decide)]
  omega

end Skribbl.Backend
