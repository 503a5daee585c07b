import Skribbl.Lib.StableSort
import Skribbl.Lib.Execution
import Skribbl.Backend.TurnSpecs

/-!
# Final results (`build_game_over_payload`)

* `World.updatePlayers` — some players of a room are updated.
* `FinalResults` — what the payload says, and what the room keeps of the game.

Principal result: `finalResults` — the call returns such results.
-/

set_option autoImplicit false

namespace Skribbl.Backend

open Coro

variable {X : Setting World Frame Mark} {R : Multiset Frame} {v : View World Frame Mark}
  {w : World} {r : RoomId}

/-! ## Updates of several players -/

/-- Each of the players `l` of a room is updated. -/
def World.updatePlayers (w : World) (r : RoomId) (l : List PlayerId)
    (g : PlayerId → Player → Player) : World :=
  { w with player := fun r' p => if r' = r ∧ p ∈ l then g p (w.player r p) else w.player r' p }

theorem World.updatePlayers_player {l : List PlayerId} {g : PlayerId → Player → Player}
    (p : PlayerId) : (w.updatePlayers r l g).player r p =
      if p ∈ l then g p (w.player r p) else w.player r p := by
  by_cases h : p ∈ l <;> simp [World.updatePlayers, h]

theorem World.updatePlayers_nil {g : PlayerId → Player → Player} :
    w.updatePlayers r [] g = w := by
  simp [World.updatePlayers]

/-- One player after the other. -/
theorem World.updatePlayers_cons {l : List PlayerId} {g : PlayerId → Player → Player} {p : PlayerId}
    (hp : p ∉ l) : (w.updatePlayers r [p] g).updatePlayers r l g =
    w.updatePlayers r (p :: l) g := by
  simp only [World.updatePlayers, World.mk.injEq, true_and, and_true]
  funext r' q
  by_cases hr : r' = r
  · subst hr
    by_cases hq : q = p
    · subst hq
      simp [hp]
    · simp [hq]
  · simp [hr]

/-- A loop that updates each player once. -/
theorem wp_updatePlayers {f : PlayerId → M Unit} {g : PlayerId → Player → Player}
    (hf : ∀ p v, ∀ Q : Unit → View World Frame Mark → Prop,
      Q () (v.set (v.state.updatePlayers r [p] g)) → (f p).wp X R Q v) {l : List PlayerId}
    (hl : l.Nodup) {Q : Unit → View World Frame Mark → Prop}
    (hQ : Q () (v.set (v.state.updatePlayers r l g))) : (Coro.each l f).wp X R Q v := by
  induction l generalizing v with
  | nil =>
    rw [World.updatePlayers_nil] at hQ
    exact hQ
  | cons p l ih =>
    obtain ⟨hp, hl⟩ := List.nodup_cons.mp hl
    change (f p >>= fun _ => Coro.each l f).wp X R Q v
    rw [wp_bind]
    apply hf
    apply ih hl
    rw [← World.updatePlayers_cons hp] at hQ
    exact hQ

/-- The winners' and the players' part of the accounting. -/
def winsGame (_ : PlayerId) (player : Player) : Player :=
  { player with sessionWins := player.sessionWins + 1 }

def endsGame (_ : PlayerId) (player : Player) : Player :=
  { player with
    sessionScore := player.sessionScore + player.score
    sessionGames := player.sessionGames + 1 }

/-- The player's score is positive, and no active player has a greater one. -/
def World.Top (w : World) (r : RoomId) (p : PlayerId) : Prop :=
  0 < (w.player r p).score ∧ ∀ q ∈ w.activePlayers r, (w.player r q).score ≤ (w.player r p).score

instance (w : World) (r : RoomId) (p : PlayerId) : Decidable (w.Top r p) := by
  unfold World.Top; infer_instance

/-- The world after the accounting of a game. -/
def World.settled (w : World) (r : RoomId) : World :=
  (w.updatePlayers r ((w.activePlayers r).filter (w.Top r)) winsGame).updatePlayers r
    (w.activePlayers r) endsGame

theorem World.updatePlayers_congr {l l' : List PlayerId} {g : PlayerId → Player → Player}
    (h : ∀ p, p ∈ l ↔ p ∈ l') : w.updatePlayers r l g = w.updatePlayers r l' g := by
  simp [World.updatePlayers, h]

/-! ## The ranking -/

/-- The order of the final scores. -/
def World.ranks (w : World) (r : RoomId) (p q : PlayerId) : Bool :=
  decide ((w.player r q).score ≤ (w.player r p).score)

/-- The order of the session statistics. -/
def World.leads (w : World) (r : RoomId) (p q : PlayerId) : Bool :=
  decide ((w.player r q).sessionWins < (w.player r p).sessionWins ∨
    (w.player r q).sessionWins = (w.player r p).sessionWins ∧
      (w.player r q).sessionScore ≤ (w.player r p).sessionScore)

theorem nodup_activePlayers (h : (w.room r).players.Nodup) : (w.activePlayers r).Nodup :=
  h.filter _

theorem isStableSort_ranks (h : (w.room r).players.Nodup) :
    IsStableSort (w.ranks r) (w.activePlayers r) ((w.activePlayers r).mergeSort (w.ranks r)) := by
  apply isStableSort_mergeSort _ _ (nodup_activePlayers h)
  · intro a b c hab hbc
    simp only [World.ranks, decide_eq_true_eq] at *
    omega
  · intro a b
    simp only [World.ranks, Bool.or_eq_true, decide_eq_true_eq]
    omega

theorem isStableSort_leads (w' : World) (h : (w.room r).players.Nodup) :
    IsStableSort (w'.leads r) (w.activePlayers r) ((w.activePlayers r).mergeSort (w'.leads r)) := by
  apply isStableSort_mergeSort _ _ (nodup_activePlayers h)
  · intro a b c hab hbc
    simp only [World.leads, decide_eq_true_eq] at *
    omega
  · intro a b
    simp only [World.leads, Bool.or_eq_true, decide_eq_true_eq]
    omega

/-- The first of a ranking has the greatest score. -/
theorem score_head {ranked : List PlayerId}
    (hs : IsStableSort (w.ranks r) (w.activePlayers r) ranked) {p : PlayerId} (hp :
    p ∈ w.activePlayers r) :
    (0 < (ranked.head?.map fun p => (w.player r p).score).getD 0 ∧
        (w.player r p).score = (ranked.head?.map fun p => (w.player r p).score).getD 0) ↔
      w.Top r p := by
  have hp' := hs.perm.mem_iff.mpr hp
  cases ranked with
  | nil => cases hp'
  | cons top rest =>
    have htop : top ∈ w.activePlayers r := hs.perm.subset List.mem_cons_self
    have hmax : ∀ q ∈ w.activePlayers r, (w.player r q).score ≤ (w.player r top).score := by
      intro q hq
      rcases List.mem_cons.mp (hs.perm.mem_iff.mpr hq) with rfl | hq
      · exact Int.le_refl _
      · exact of_decide_eq_true (List.rel_of_pairwise_cons hs.sorted hq)
    simp only [List.head?_cons, Option.map_some, Option.getD_some]
    constructor
    · rintro ⟨hpos, heq⟩
      exact ⟨heq ▸ hpos, fun q hq => heq ▸ hmax q hq⟩
    · rintro ⟨hpos, hall⟩
      have heq := Int.le_antisymm (hmax p hp) (hall top htop)
      exact ⟨heq ▸ hpos, heq⟩

/-! ## The call -/

theorem update_player_eq {p : PlayerId} {u : PlayerUpdate} {g : PlayerId → Player → Player}
    (h : g p (w.player r p) = u.apply (w.player r p)) :
    (Update.player r p u).apply w = w.updatePlayers r [p] g := by
  simp only [Update.apply, World.updatePlayers, List.mem_singleton, World.mk.injEq, true_and,
    and_true]
  funext r' q
  by_cases hq : r' = r ∧ q = p
  · rw [if_pos hq, if_pos hq, hq.2, h]
  · rw [if_neg hq, if_neg hq]

/-- One update of a player after another. -/
theorem World.updatePlayers_same {l : List PlayerId} {g h : PlayerId → Player → Player} :
    (w.updatePlayers r l g).updatePlayers r l h =
      w.updatePlayers r l fun p player => h p (g p player) := by
  simp only [World.updatePlayers, World.mk.injEq, true_and, and_true]
  funext r' q
  by_cases hq : r' = r ∧ q ∈ l
  · simp [hq]
  · rw [if_neg hq, if_neg hq, if_neg hq]

theorem World.updatePlayers_eq {l : List PlayerId} {g h : PlayerId → Player → Player}
    (hgh : ∀ p ∈ l, g p (w.player r p) = h p (w.player r p)) :
    w.updatePlayers r l g = w.updatePlayers r l h := by
  simp only [World.updatePlayers, World.mk.injEq, true_and, and_true]
  funext r' q
  by_cases hq : r' = r ∧ q ∈ l
  · rw [if_pos hq, if_pos hq, hgh q hq.2]
  · rw [if_neg hq, if_neg hq]

/-- The payload of a room, and of the same room after the accounting. -/
def World.gameOverInfo (w : World) (r : RoomId) : GameOverInfo where
  scores := ((w.activePlayers r).mergeSort (w.ranks r)).map fun p =>
    (p, ((w.settled r).player r p).name, ((w.settled r).player r p).score)
  mvpAwards := mvpAwards ((w.activePlayers r).map ((w.settled r).player r))
  sessionStats := ((w.activePlayers r).mergeSort ((w.settled r).leads r)).map fun p =>
    ⟨p, ((w.settled r).player r p).name, ((w.settled r).player r p).sessionScore,
      ((w.settled r).player r p).sessionWins, ((w.settled r).player r p).sessionGames⟩

/-- The loop over the winners. -/
theorem wp_wins {ranked : List PlayerId}
    (hs : IsStableSort (v.state.ranks r) (v.state.activePlayers r) ranked)
    (hnodup : (v.state.activePlayers r).Nodup) {Q : Unit → View World Frame Mark → Prop}
    (hQ : Q () (v.set (v.state.updatePlayers r
      ((v.state.activePlayers r).filter (v.state.Top r)) winsGame))) :
    (Coro.when (0 < (ranked.head?.map fun p => (v.state.player r p).score).getD 0) <|
      Coro.each (ranked.filter fun p => (v.state.player r p).score =
          (ranked.head?.map fun p => (v.state.player r p).score).getD 0) fun p =>
        put (.player r p (.sessionWins ((v.state.player r p).sessionWins + 1)))).wp X R Q v := by
  have hmem : ∀ p, p ∈ ranked ↔ p ∈ v.state.activePlayers r := fun p => hs.perm.mem_iff
  rw [wp_when]
  refine ⟨fun hpos => ?_, fun hpos => ?_⟩
  · have hwinners : v.state.updatePlayers r
          ((v.state.activePlayers r).filter (v.state.Top r)) winsGame =
        v.state.updatePlayers r (ranked.filter fun p => (v.state.player r p).score =
          (ranked.head?.map fun p => (v.state.player r p).score).getD 0) fun p =>
            (PlayerUpdate.sessionWins ((v.state.player r p).sessionWins + 1)).apply := by
      rw [World.updatePlayers_congr fun p => ?_]
      · exact World.updatePlayers_eq fun p _ => rfl
      · rw [List.mem_filter, List.mem_filter, hmem, decide_eq_true_eq, decide_eq_true_eq]
        refine and_congr_right fun hp => ?_
        rw [← score_head hs hp]
        exact and_iff_right hpos
    rw [hwinners] at hQ
    refine wp_updatePlayers (fun p v' Q' hQ' => ?_) ((hs.perm.nodup_iff.mpr hnodup).filter _) hQ
    rw [wp_put, update_player_eq (g := fun p =>
      (PlayerUpdate.sessionWins ((v.state.player r p).sessionWins + 1)).apply) rfl]
    exact hQ'
  · have hnone : (v.state.activePlayers r).filter (v.state.Top r) = [] := by
      rw [List.filter_eq_nil_iff]
      intro p hp htop
      exact hpos ((score_head hs hp).mpr (of_decide_eq_true htop)).1
    rw [hnone, World.updatePlayers_nil] at hQ
    exact hQ

/-- **The call does the accounting and returns the payload.** -/
theorem buildGameOverPayload_wp (hplayers : (v.state.room r).players.Nodup)
    {Q : GameOverInfo → View World Frame Mark → Prop}
    (hQ : Q (v.state.gameOverInfo r) (v.set (v.state.settled r))) :
    (buildGameOverPayload r).wp X R Q v := by
  have hactive := nodup_activePlayers hplayers
  unfold buildGameOverPayload
  simp only [wp_bind, wp_read]
  refine wp_wins (isStableSort_ranks hplayers) hactive ?_
  let total : PlayerId → Player → Player := fun p player =>
    (PlayerUpdate.sessionGames ((v.state.player r p).sessionGames + 1)).apply
      ((PlayerUpdate.sessionScore ((v.state.player r p).sessionScore +
        (v.state.player r p).score)).apply player)
  have hsettled : v.state.settled r = (v.state.updatePlayers r
      ((v.state.activePlayers r).filter (v.state.Top r)) winsGame).updatePlayers r
        (v.state.activePlayers r) total := by
    refine World.updatePlayers_eq fun p _ => ?_
    rw [World.updatePlayers_player]
    split <;> rfl
  refine wp_updatePlayers (r := r) (g := total) (fun p v' Q' hQ' => ?_) hactive ?_
  · have hboth : (Update.player r p (.sessionGames ((v.state.player r p).sessionGames + 1))).apply
        ((Update.player r p (.sessionScore ((v.state.player r p).sessionScore +
          (v.state.player r p).score))).apply v'.state) = v'.state.updatePlayers r [p] total := by
      rw [update_player_eq (g := fun _ => (PlayerUpdate.sessionScore
          ((v.state.player r p).sessionScore + (v.state.player r p).score)).apply) rfl,
        update_player_eq (g := fun _ => (PlayerUpdate.sessionGames
          ((v.state.player r p).sessionGames + 1)).apply) rfl, World.updatePlayers_same]
      refine World.updatePlayers_eq fun q hq => ?_
      rw [List.mem_singleton.mp hq]
    rw [wp_bind, wp_put, wp_put, View.set_state, hboth]
    exact hQ'
  · unfold World.gameOverInfo at hQ
    rw [hsettled] at hQ
    exact hQ

/-! ## The awards -/

theorem firstMax_spec {α β : Type} [LinearOrder β] {key : α → β} {l : List α} {a : α}
    (h : firstMax key l = some a) : a ∈ l ∧ ∀ b ∈ l, key b ≤ key a := by
  induction l generalizing a with
  | nil => cases h
  | cons c l ih =>
    rw [firstMax, Option.some_inj] at h
    cases hrest : firstMax key l with
    | none =>
      rw [hrest, Option.elim_none] at h
      subst h
      have hnil : l = [] := by
        cases l with
        | nil => rfl
        | cons d l => cases hrest
      rw [hnil]
      simp
    | some b =>
      rw [hrest, Option.elim_some] at h
      obtain ⟨hmem, hmax⟩ := ih hrest
      split at h
      · rename_i hlt
        subst h
        refine ⟨List.mem_cons_of_mem _ hmem, fun d hd => ?_⟩
        rcases List.mem_cons.mp hd with rfl | hd
        · exact hlt.le
        · exact hmax d hd
      · rename_i hle
        subst h
        refine ⟨List.mem_cons_self, fun d hd => ?_⟩
        rcases List.mem_cons.mp hd with rfl | hd
        · exact le_rfl
        · exact (hmax d hd).trans (not_lt.mp hle)

/-- The award names one of the players, and no other has a better statistic. -/
inductive AwardOf (players : List Player) (player : Player) : Award → Prop
  | speedDemon {t : ℚ} : player.fastestGuessTime = some t →
      (∀ q ∈ players, ∀ t', q.fastestGuessTime = some t' → t ≤ t') →
      AwardOf players player ⟨"⚡ Speed Demon", "Fastest Guesser", player.id, player.name, t⟩
  | masterArtist : (∀ q ∈ players, q.drawerPointsEarned ≤ player.drawerPointsEarned) →
      AwardOf players player
        ⟨"🎨 Master Artist", "Top Drawer", player.id, player.name, player.drawerPointsEarned⟩
  | streakKing : (∀ q ∈ players, q.maxStreak ≤ player.maxStreak) → AwardOf players player
      ⟨"🔥 Streak King", "Longest Streak", player.id, player.name, player.maxStreak⟩
  | sharpshooter : (∀ q ∈ players, q.correctGuessesCount ≤ player.correctGuessesCount) →
      AwardOf players player
        ⟨"🎯 Sharpshooter", "Most Guesses", player.id, player.name, player.correctGuessesCount⟩

/-- The best of those who qualify is the best of all. -/
theorem firstMax_filter {α β : Type} [LinearOrder β] {key : α → β} {l : List α} {ok : α → Bool}
    {a : α} (h : firstMax key (l.filter ok) = some a)
    (hok : ∀ b ∈ l, ok a = true → ok b = false → key b ≤ key a) :
    a ∈ l ∧ ok a = true ∧ ∀ b ∈ l, key b ≤ key a := by
  obtain ⟨hmem, hmax⟩ := firstMax_spec h
  obtain ⟨hmem, ha⟩ := List.mem_filter.mp hmem
  refine ⟨hmem, ha, fun b hb => ?_⟩
  cases hb' : ok b with
  | true => exact hmax b (List.mem_filter.mpr ⟨hb, hb'⟩)
  | false => exact hok b hb ha hb'

/-- **Every award goes to the best.** -/
theorem mem_mvpAwards {players : List Player} {a : Award} (h : a ∈ mvpAwards players) :
    ∃ player ∈ players, AwardOf players player a := by
  have hbest : ∀ {badge title : String} {best : Option Player} {stat : Player → ℚ},
      a ∈ (best.elim [] fun p => [⟨badge, title, p.id, p.name, stat p⟩] : List Award) →
        ∃ p, best = some p ∧ a = ⟨badge, title, p.id, p.name, stat p⟩ := by
    intro badge title best stat h
    cases best with
    | none => cases h
    | some p => exact ⟨p, rfl, List.mem_singleton.mp h⟩
  unfold mvpAwards at h
  simp only [List.mem_append] at h
  rcases h with ((h | h) | h) | h
  · obtain ⟨p, hp, rfl⟩ := hbest h
    obtain ⟨hmem, hmax⟩ := firstMax_spec hp
    obtain ⟨hmem, hsome⟩ := List.mem_filter.mp hmem
    obtain ⟨t, ht⟩ := Option.isSome_iff_exists.mp hsome
    refine ⟨p, hmem, ?_⟩
    rw [ht]
    refine .speedDemon ht fun q hq t' ht' => ?_
    have hle := hmax q (List.mem_filter.mpr ⟨hq, by simp [ht']⟩)
    rw [ht, ht', Option.getD_some, Option.getD_some] at hle
    exact neg_le_neg_iff.mp hle
  · obtain ⟨p, hp, rfl⟩ := hbest h
    obtain ⟨hmem, -, hmax⟩ := firstMax_filter hp fun b _ hp hb => by
      simp only [decide_eq_true_eq, decide_eq_false_iff_not] at hp hb
      omega
    exact ⟨p, hmem, .masterArtist hmax⟩
  · obtain ⟨p, hp, rfl⟩ := hbest h
    obtain ⟨hmem, -, hmax⟩ := firstMax_filter hp fun b _ hp hb => by
      simp only [decide_eq_true_eq, decide_eq_false_iff_not] at hp hb
      omega
    exact ⟨p, hmem, .streakKing hmax⟩
  · obtain ⟨p, hp, rfl⟩ := hbest h
    obtain ⟨hmem, -, hmax⟩ := firstMax_filter hp fun b _ hp hb => by
      simp only [decide_eq_true_eq, decide_eq_false_iff_not] at hp hb
      omega
    exact ⟨p, hmem, .sharpshooter hmax⟩

/-! ## The results -/

/-- The results of a game: the ranking, the accounting, the awards and the statistics. -/
structure FinalResults (w w' : World) (r : RoomId) (info : GameOverInfo) : Prop where
  scores : ∃ ranked, IsStableSort (w.ranks r) (w.activePlayers r) ranked ∧
    info.scores = ranked.map fun p => (p, (w.player r p).name, (w.player r p).score)
  active : ∀ p ∈ w.activePlayers r, w'.player r p =
    { w.player r p with
      sessionWins := (w.player r p).sessionWins + if w.Top r p then 1 else 0
      sessionScore := (w.player r p).sessionScore + (w.player r p).score
      sessionGames := (w.player r p).sessionGames + 1 }
  others : ∀ p ∉ w.activePlayers r, w'.player r p = w.player r p
  rest : w' = { w with player := w'.player } ∧ ∀ r' ≠ r, w'.player r' = w.player r'
  awards : ∀ a ∈ info.mvpAwards, ∃ p ∈ w.activePlayers r,
    AwardOf ((w.activePlayers r).map (w'.player r)) (w'.player r p) a
  stats : ∃ board, IsStableSort (w'.leads r) (w.activePlayers r) board ∧
    info.sessionStats = board.map fun p => ⟨p, (w'.player r p).name, (w'.player r p).sessionScore,
      (w'.player r p).sessionWins, (w'.player r p).sessionGames⟩

/-- What the accounting makes of a player. -/
theorem settled_player (w : World) (r : RoomId) (p : PlayerId) : (w.settled r).player r p =
    if p ∈ w.activePlayers r then
      { w.player r p with
        sessionWins := (w.player r p).sessionWins + if w.Top r p then 1 else 0
        sessionScore := (w.player r p).sessionScore + (w.player r p).score
        sessionGames := (w.player r p).sessionGames + 1 }
    else w.player r p := by
  rw [World.settled, World.updatePlayers_player, World.updatePlayers_player]
  by_cases hp : p ∈ w.activePlayers r
  · by_cases htop : w.Top r p <;> simp [hp, htop, winsGame, endsGame]
  · simp [hp]

theorem settled_name (w : World) (r : RoomId) (p : PlayerId) :
    ((w.settled r).player r p).name = (w.player r p).name := by
  rw [settled_player]
  split <;> rfl

theorem settled_score (w : World) (r : RoomId) (p : PlayerId) :
    ((w.settled r).player r p).score = (w.player r p).score := by
  rw [settled_player]
  split <;> rfl

theorem finalResults_settled (hplayers : (w.room r).players.Nodup) :
    FinalResults w (w.settled r) r (w.gameOverInfo r) := by
  constructor
  · refine ⟨_, isStableSort_ranks hplayers, ?_⟩
    simp only [World.gameOverInfo, settled_name, settled_score]
  · intro p hp
    rw [settled_player, if_pos hp]
  · intro p hp
    rw [settled_player, if_neg hp]
  · refine ⟨rfl, fun r' hr' => ?_⟩
    funext p
    simp [World.settled, World.updatePlayers, hr']
  · intro a ha
    obtain ⟨player, hmem, haward⟩ := mem_mvpAwards ha
    obtain ⟨p, hp, rfl⟩ := List.mem_map.mp hmem
    exact ⟨p, hp, haward⟩
  · exact ⟨_, isStableSort_leads _ hplayers, rfl⟩

/-- **The final results of a room are right:** each active player is ranked once and accounted for
once, and nobody else is. -/
theorem finalResults (w : World) (r : RoomId) (hplayers : (w.room r).players.Nodup) :
    ∃ info w', (buildGameOverPayload r).exec w = (.ok info, w') ∧ FinalResults w w' r info := by
  have hwp : (buildGameOverPayload r).wp .atomic 0
      (fun info v => FinalResults w v.state r info) ⟨w, 0, []⟩ :=
    buildGameOverPayload_wp hplayers (finalResults_settled hplayers)
  have hends : (buildGameOverPayload r).Ends (fun _ _ => True) w _ _ := ends_exec _ w
  obtain ⟨info, tr, hok, hresults⟩ := Ends.of_atomic hwp hends
  exact ⟨info, _, Prod.ext hok rfl, hresults⟩

/-- Two players with the same score, and a spectator. -/
def tiedRoom : World where
  room _ := { code := "ROOM01", hostId := .uuid 0, players := [.uuid 0, .uuid 1, .uuid 2] }
  player _ p := { id := p, name := "p", score := 50, isSpectator := p = .uuid 1 }

/-- Both win. -/
theorem finalResults_tied : ∃ info w', (buildGameOverPayload 0).exec tiedRoom = (.ok info, w') ∧
    (w'.player 0 (.uuid 0)).sessionWins = 1 ∧ (w'.player 0 (.uuid 2)).sessionWins = 1 := by
  obtain ⟨info, w', hexec, hresults⟩ := finalResults tiedRoom 0 (by decide)
  refine ⟨info, w', hexec, ?_, ?_⟩
  · rw [hresults.active _ (by decide)]
    decide
  · rw [hresults.active _ (by decide)]
    decide

end Skribbl.Backend
