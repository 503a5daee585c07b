import Skribbl.Lib.Execution
import Skribbl.Backend.TurnSpecs
import Skribbl.Backend.Worker

/-!
# The schedule of the drawers

* `upcoming` — the drawers from a round and an index on, for a fixed roster.
* `SameRoster`, `SameGame` — nobody else changes the members, their flags, the schedule, or besides
  these the state of the room.
* `Game` — `start_game`, and then `advance_turn_or_round` again and again.

Principal result: `drawers_of_game` — the drawers of a game are its connected active players in
order, once for each round, and then the game is over.
-/

set_option autoImplicit false

namespace Skribbl.Backend

open Coro

/-! ## Drawers still to come -/

section Upcoming

variable (ps : List PlayerId) (act : PlayerId → Bool) (n : Nat)

/-- The drawers of the rounds `k, …, n`, the first of them from index `i` on, with their rounds. -/
def upcoming (k i : Nat) : List (Nat × PlayerId) :=
  ((ps.drop i).filter act).map (Prod.mk k) ++
    (List.range' (k + 1) (n - k)).flatMap fun j => (ps.filter act).map (Prod.mk j)

/-- The round and the index after those. -/
def following (k i : Nat) : Nat × Nat :=
  if ps.length ≤ i + 1 then (k + 1, 0) else (k, i + 1)

variable {ps act n} {k i : Nat} {d : PlayerId}

theorem drop_eq_cons (hd : ps[i]? = some d) : ps.drop i = d :: ps.drop (i + 1) := by
  obtain ⟨hi, rfl⟩ := List.getElem?_eq_some_iff.mp hd
  exact List.drop_eq_getElem_cons hi

/-- Behind an index come the drawers from the following index on, unless the last round is over. -/
theorem upcoming_succ (h : (following ps k i).1 ≤ n) :
    upcoming ps act n k (i + 1) = upcoming ps act n (following ps k i).1 (following ps k i).2 := by
  unfold following at h ⊢
  split
  · rename_i hlast
    rw [if_pos hlast] at h
    have hdrop : ps.drop (i + 1) = [] := List.drop_eq_nil_of_le hlast
    have hrange : n - k = (n - (k + 1)) + 1 := by omega
    simp [upcoming, hdrop, hrange, List.range'_succ]
  · rfl

/-- After the last round there are none. -/
theorem upcoming_over (hk : k ≤ n) (h : n < (following ps k i).1) :
    upcoming ps act n k (i + 1) = [] := by
  unfold following at h
  split at h
  · rename_i hlast
    have hdrop : ps.drop (i + 1) = [] := List.drop_eq_nil_of_le hlast
    have hrange : n - k = 0 := by omega
    simp [upcoming, hdrop, hrange]
  · exact absurd hk (Nat.not_le.mpr h)

theorem upcoming_of_active (hd : ps[i]? = some d) (hact : act d = true) :
    upcoming ps act n k i = (k, d) :: upcoming ps act n k (i + 1) := by
  simp [upcoming, drop_eq_cons hd, hact]

theorem upcoming_of_inactive (hd : ps[i]? = some d) (hact : act d = false) :
    upcoming ps act n k i = upcoming ps act n k (i + 1) := by
  simp [upcoming, drop_eq_cons hd, hact]

theorem following_lt (hi : i < ps.length) : (following ps k i).2 < ps.length := by
  unfold following
  split <;> simp only <;> omega

/-- Going on cyclically. -/
theorem following_mod (hi : i < ps.length) (j : Nat) :
    ((following ps k i).2 + j) % ps.length = (i + (j + 1)) % ps.length := by
  unfold following
  split
  · rename_i hlast
    have hlen : i + (j + 1) = j + ps.length := by omega
    rw [hlen, Nat.add_mod_right, Nat.zero_add]
  · rw [Nat.add_assoc, Nat.add_comm 1 j]

/-- From the first active player on, all rounds are still to come. -/
theorem upcoming_first (hfirst : ps.findIdx? act = some i) (hn : 1 ≤ n) :
    upcoming ps act n 1 i =
      (List.range n).flatMap fun j => (ps.filter act).map (Prod.mk (j + 1)) := by
  have hfilter : (ps.drop i).filter act = ps.filter act := by
    have htake : (ps.take i).filter act = [] := by
      refine List.filter_eq_nil_iff.mpr fun p hp => ?_
      obtain ⟨hi, -, hbefore⟩ := List.findIdx?_eq_some_iff_getElem.mp hfirst
      obtain ⟨j, hj, rfl⟩ := List.mem_iff_getElem.mp hp
      rw [List.length_take] at hj
      rw [List.getElem_take]
      simpa using hbefore j (by omega)
    conv_rhs => rw [← List.take_append_drop i ps, List.filter_append, htake, List.nil_append]
  obtain ⟨m, rfl⟩ : ∃ m, n = m + 1 := ⟨n - 1, by omega⟩
  rw [upcoming, hfilter, List.range_succ_eq_map, List.flatMap_cons, List.flatMap_map,
    Nat.add_sub_cancel, List.range'_eq_map_range, List.flatMap_map]
  congr 2
  funext j
  simp [Nat.add_comm 2 j]

end Upcoming

/-! ## A fixed roster -/

/-- The player is connected and not a spectator. -/
def World.mayDraw (w : World) (r : RoomId) (p : PlayerId) : Bool :=
  (w.player r p).isConnected && !(w.player r p).isSpectator

/-- The members, their flags, the rounds to play and the schedule are the same. -/
structure SameRoster (r : RoomId) (w w' : World) : Prop where
  extends' : w.Extends w'
  players : (w'.room r).players = (w.room r).players
  mayDraw : ∀ p ∈ (w.room r).players, w'.mayDraw r p = w.mayDraw r p
  config : (w'.room r).config = (w.room r).config
  drawerIndex : (w'.room r).drawerIndex = (w.room r).drawerIndex
  currentRound : (w'.room r).currentRound = (w.room r).currentRound

/-- The state of the room is the same as well. -/
structure SameGame (r : RoomId) (w w' : World) : Prop extends SameRoster r w w' where
  state : (w'.room r).state = (w.room r).state

variable {r : RoomId} {w w₁ w₂ w₃ : World}

theorem SameRoster.refl (r : RoomId) (w : World) : SameRoster r w w :=
  ⟨.refl w, rfl, fun _ _ => rfl, rfl, rfl, rfl⟩

theorem SameGame.refl (r : RoomId) (w : World) : SameGame r w w := ⟨.refl r w, rfl⟩

theorem SameRoster.trans (h : SameRoster r w₁ w₂) (h' : SameRoster r w₂ w₃) :
    SameRoster r w₁ w₃ where
  extends' := h.extends'.trans h'.extends'
  players := h'.players.trans h.players
  mayDraw p hp := (h'.mayDraw p (h.players ▸ hp)).trans (h.mayDraw p hp)
  config := h'.config.trans h.config
  drawerIndex := h'.drawerIndex.trans h.drawerIndex
  currentRound := h'.currentRound.trans h.currentRound

theorem SameGame.trans (h : SameGame r w₁ w₂) (h' : SameGame r w₂ w₃) : SameGame r w₁ w₃ :=
  ⟨h.toSameRoster.trans h'.toSameRoster, h'.state.trans h.state⟩

/-- The room exists, and its members were given their ids. -/
def World.Roomy (w : World) (r : RoomId) : Prop :=
  r < w.nextRoom ∧ ∀ p ∈ (w.room r).players, w.Known p

theorem SameRoster.roomy (h : SameRoster r w w₁) (hw : w.Roomy r) : w₁.Roomy r :=
  ⟨hw.1.trans_le h.extends'.nextRoom, fun p hp =>
    (hw.2 p (h.players ▸ hp)).mono h.extends'.nextUuid⟩

/-- A footprint without members, flags, schedule and state. -/
theorem sameGame_of_fp {S : List Eff} (hw : w.Roomy r) (h : (fp S).change w w₁)
    (hS : ∀ x ∈ [Eff.members, .connection, .spectator, .schedule, .state], x ∉ S) :
    SameGame r w w₁ where
  extends' := h.1
  players := (same_of_fp h .members (hS _ (by simp))).room r hw.1
  mayDraw p hp := by
    have hc := (same_of_fp h .connection (hS _ (by simp))).player r hw.1 p (hw.2 p hp)
    have hs := (same_of_fp h .spectator (hS _ (by simp))).player r hw.1 p (hw.2 p hp)
    rw [World.mayDraw, World.mayDraw, hc.1, hs]
  config := ((same_of_fp h .schedule (hS _ (by simp))).room r hw.1).2.2
  drawerIndex := ((same_of_fp h .schedule (hS _ (by simp))).room r hw.1).1
  currentRound := ((same_of_fp h .schedule (hS _ (by simp))).room r hw.1).2.1
  state := (same_of_fp h .state (hS _ (by simp))).room r hw.1

/-- The others leave the game alone, and the invariant holds wherever the call is suspended. -/
structure Calm (r : RoomId) (X : Setting World Frame Mark) (R : Multiset Frame) : Prop where
  inv : ∀ (fs : Multiset Frame) (v : View World Frame Mark), X.inv (v.add (fs + R))
  rely : ∀ w w', X.rely w w' → SameGame r w w'

variable {X : Setting World Frame Mark} {R : Multiset Frame} {v : View World Frame Mark}

/-- A call that does not write the game. -/
theorem wp_sameGame {α : Type} {c : M α} {S : List Eff} (hX : Calm r X R) (hc : Within (fp S) c)
    (hw : v.state.Roomy r) (hfails : Eff.raises ∉ S)
    (hS : ∀ x ∈ [Eff.members, .connection, .spectator, .schedule, .state], x ∉ S)
    {Q : α → View World Frame Mark → Prop}
    (hQ : ∀ a v', SameGame r v.state v'.state → Q a v') : c.wp X R Q v := by
  refine wp_mono (wp_within (J := fun v' => SameGame r v.state v'.state) hc ?_ ?_ ?_ ?_
    (.refl r _)) hQ
  · exact fun v' w' hw' h => h.trans (sameGame_of_fp (h.roomy hw) hw' hS)
  · exact fun _ _ _ _ h => h
  · exact fun v' fs _ _ h => ⟨hX.inv _ _, fun _ hr _ _ => h.trans (hX.rely _ _ hr)⟩
  · exact fun h => absurd h hfails

/-- An assignment that does not write the game. -/
theorem sameGame_put (u : Update) (hw : w.Roomy r)
    (hu : ∀ x ∈ [Eff.members, .connection, .spectator, .schedule, .state], x ∉ u.effs) :
    SameGame r w (u.apply w) :=
  sameGame_of_fp hw (fp_of_update u (fun _ h => h) w) hu

/-- The state of the room is set. -/
theorem sameRoster_state (s : RoomState) :
    SameRoster r w ((Update.room r (.state s)).apply w) := by
  refine ⟨Update.extends _ _, ?_, fun _ _ => rfl, ?_, ?_, ?_⟩ <;>
    simp [Update.apply, RoomUpdate.apply]

/-! ## One turn after the other -/

/-- `start_turn` with a drawer that the room has. -/
theorem startTurn_calm (env : Env) (hX : Calm r X R) (hw : v.state.Roomy r) {d : PlayerId}
    (hd : (v.state.room r).players[(v.state.room r).drawerIndex]? = some d)
    {Q : Unit → View World Frame Mark → Prop}
    (hQ : ∀ v', SameRoster r v.state v'.state → (v'.state.room r).state = .wordSelection →
      Q () v') : (startTurn env r).wp X R Q v := by
  unfold startTurn
  simp only [wp_bind, wp_readRoom, wp_elim, hd, reduceCtorEq, false_implies, true_and,
    Option.some.injEq]
  rintro d rfl
  refine drawWordPackChoices_wp env r fun packs v₁ h₁ _ => ?_
  have h₁ : SameGame r v.state v₁.state := sameGame_of_fp hw h₁ (by decide)
  rw [wp_put]
  have h₂ := h₁.trans (sameGame_put (.room r (.pendingWordChoices (some packs)))
    (h₁.roomy hw) (by simp))
  refine wp_sameGame (S := []) hX inferInstance (h₂.roomy hw) (by decide) (by decide)
    fun _ v₃ h₃ => ?_
  have h₃ := h₂.trans h₃
  rw [wp_put, wp_readPlayer]
  have h₄ := h₃.toSameRoster.trans (sameRoster_state (r := r) (w := v₃.state) .wordSelection)
  refine wp_sameGame (S := []) hX inferInstance (h₄.roomy hw) (by decide) (by decide)
    fun _ v₅ h₅ => ?_
  simp only [wp_createTask, wp_put]
  have h₅' := h₅.trans (sameGame_put (.createTask (.autoSelect r d) 15)
    (h₅.roomy (h₄.roomy hw)) (by simp))
  have h₆ := h₅'.trans (sameGame_put (.room r (.autoSelectTask (some (d, v₅.state.nextTask))))
    (h₅'.roomy (h₄.roomy hw)) (by simp))
  refine hQ _ (h₄.trans h₆.toSameRoster) (h₆.state.trans ?_)
  simp [Update.apply, RoomUpdate.apply]

/-- The end of a game. -/
theorem gameOver_calm (hX : Calm r X R) (hw : v.state.Roomy r)
    {Q : Unit → View World Frame Mark → Prop}
    (hQ : ∀ v', SameRoster r v.state v'.state → (v'.state.room r).state = .gameOver → Q () v') :
    (gameOver r).wp X R Q v := by
  unfold gameOver
  simp only [wp_bind, wp_mark, wp_put]
  intro _
  have h₁ := sameRoster_state (r := r) (w := v.state) .gameOver
  refine wp_sameGame (S := []) hX inferInstance (h₁.roomy hw) (by decide) (by decide)
    fun _ v₂ h₂ => ?_
  rw [wp_readRoom]
  refine wp_sameGame (S := []) hX inferInstance (h₂.roomy (h₁.roomy hw)) (by decide) (by decide)
    fun _ v₃ h₃ => ?_
  refine hQ v₃ (h₁.trans (h₂.trans h₃).toSameRoster) ((h₂.trans h₃).state.trans ?_)
  simp [Update.apply, RoomUpdate.apply]

/-- The same room at another round and index. -/
def World.at (w : World) (r : RoomId) (x : Nat × Nat) : World :=
  let room := w.room r
  { w with
    room := Function.update w.room r { room with currentRound := x.1, drawerIndex := x.2 } }

theorem nextDrawer_at {Q : Unit → View World Frame Mark → Prop} :
    (nextDrawer r).wp X R Q v ↔ Q () (v.set (v.state.at r (following (v.state.room r).players
      (v.state.room r).currentRound (v.state.room r).drawerIndex))) := by
  unfold nextDrawer following World.at
  simp only [wp_bind, wp_readRoom]
  split
  · simp [Update.apply, RoomUpdate.apply, RoomUpdate.happens, wp_bind, View.set]
  · simp [Update.apply, RoomUpdate.apply, RoomUpdate.happens]

/-- The drawers still to come in a room. -/
def World.upcoming (w : World) (r : RoomId) : List (Nat × PlayerId) :=
  Backend.upcoming (w.room r).players (w.mayDraw r) (w.room r).config.numRounds
    (w.room r).currentRound (w.room r).drawerIndex

/-- The roster is the one of `w`. -/
structure Roster (r : RoomId) (w w' : World) : Prop where
  roomy : w'.Roomy r
  players : (w'.room r).players = (w.room r).players
  mayDraw : ∀ p ∈ (w.room r).players, w'.mayDraw r p = w.mayDraw r p
  config : (w'.room r).config = (w.room r).config

theorem Roster.trans (h : Roster r w w₁) (h' : SameRoster r w₁ w₂) : Roster r w w₂ where
  roomy := h'.roomy h.roomy
  players := h'.players.trans h.players
  mayDraw p hp := (h'.mayDraw p (h.players ▸ hp)).trans (h.mayDraw p hp)
  config := h'.config.trans h.config

theorem Roster.at (h : Roster r w w₁) (x : Nat × Nat) : Roster r w (w₁.at r x) where
  roomy := by
    refine ⟨h.roomy.1, fun p hp => h.roomy.2 p ?_⟩
    simpa [World.at] using hp
  players := by simpa [World.at] using h.players
  mayDraw := h.mayDraw
  config := by simpa [World.at] using h.config

/-- The drawers still to come, by the roster of `w`. -/
theorem Roster.upcoming (h : Roster r w w₁) : w₁.upcoming r =
    Backend.upcoming (w.room r).players (w.mayDraw r) (w.room r).config.numRounds
      (w₁.room r).currentRound (w₁.room r).drawerIndex := by
  have hfilter : ∀ l : List PlayerId, (∀ p ∈ l, p ∈ (w.room r).players) →
      l.filter (w₁.mayDraw r) = l.filter (w.mayDraw r) := fun l hl =>
    List.filter_congr fun p hp => h.mayDraw p (hl p hp)
  unfold World.upcoming Backend.upcoming
  rw [h.players, h.config, hfilter _ fun p hp => hp,
    hfilter _ fun p hp => List.mem_of_mem_drop hp]

/-- What `advance_turn_or_round` comes to: the next of the drawers still to come, or the end. -/
structure Continues (r : RoomId) (w : World) (l : List (Nat × PlayerId)) (w' : World) : Prop where
  roster : Roster r w w'
  next : ∀ x l', l = x :: l' → w'.upcoming r = l ∧ (w'.room r).state = .wordSelection ∧
    (w'.room r).currentRound = x.1 ∧ (w'.room r).currentRound ≤ (w.room r).config.numRounds ∧
    (w'.room r).players[(w'.room r).drawerIndex]? = some x.2 ∧ w.mayDraw r x.2 = true
  finished : l = [] → (w'.room r).state = .gameOver

/-- The loop that skips players comes to the next of the drawers still to come. -/
theorem skipPlayers_calm (env : Env) (hX : Calm r X R) {attempts : Nat}
    (hw : Roster r w v.state)
    (hidx : (v.state.room r).drawerIndex < (w.room r).players.length)
    (hround : (v.state.room r).currentRound ≤ (w.room r).config.numRounds)
    (hact : ∃ j < attempts, ∃ p, (w.room r).players[((v.state.room r).drawerIndex + j) %
      (w.room r).players.length]? = some p ∧ w.mayDraw r p = true)
    {Q : Unit → View World Frame Mark → Prop}
    (hQ : ∀ v', Continues r w (v.state.upcoming r) v'.state → Q () v') :
    (skipPlayers env r attempts).wp X R Q v := by
  induction attempts generalizing v with
  | zero =>
    obtain ⟨j, hj, -⟩ := hact
    exact absurd hj (Nat.not_lt_zero _)
  | succ attempts ih =>
    unfold skipPlayers
    simp only [wp_bind, wp_read, wp_elim]
    refine ⟨fun h => absurd h (by simpa [hw.players] using hidx), fun d hd => ?_⟩
    have hd' : (w.room r).players[(v.state.room r).drawerIndex]? = some d := hw.players ▸ hd
    have hdraw : v.state.mayDraw r d = w.mayDraw r d := hw.mayDraw d (List.mem_of_getElem? hd')
    rw [wp_ite]
    refine ⟨fun hmay => ?_, fun hmay => ?_⟩
    · -- this one draws
      have hmay : w.mayDraw r d = true := hdraw ▸ hmay
      rw [wp_bind, wp_mark]
      intro _
      refine startTurn_calm env hX (v := v.push (v.state.beginning r)) hw.roomy hd
        fun v' h' hstate => hQ v' ?_
      have hup : v'.state.upcoming r = v.state.upcoming r := by
        have hroom : (v.push (v.state.beginning r)).state = v.state := rfl
        rw [(hw.trans h').upcoming, hw.upcoming, h'.currentRound, h'.drawerIndex, hroom]
      have hcons := hw.upcoming
      rw [upcoming_of_active hd' hmay] at hcons
      refine ⟨hw.trans h', fun x l' hl => ?_, fun hnil => ?_⟩
      · rw [hcons, List.cons.injEq] at hl
        obtain ⟨rfl, -⟩ := hl
        refine ⟨hup, hstate, h'.currentRound, h'.currentRound.trans_le hround, ?_, hmay⟩
        rw [h'.players, h'.drawerIndex]
        exact hd
      · rw [hcons] at hnil
        cases hnil
    · -- the next one is looked at, unless the last round is over
      have hmay : w.mayDraw r d = false := by
        rw [← hdraw]
        simpa [World.mayDraw] using hmay
      have hskip := hw.upcoming
      rw [upcoming_of_inactive hd' hmay] at hskip
      rw [wp_bind, nextDrawer_at, wp_bind, wp_readRoom, hw.players]
      have hat := hw.at (following (w.room r).players (v.state.room r).currentRound
        (v.state.room r).drawerIndex)
      rw [wp_ite]
      refine ⟨fun hover => ?_, fun hgoes => ?_⟩
      · refine gameOver_calm hX hat.roomy fun v' h' hstate => hQ v' ?_
        have hnil : v.state.upcoming r = [] := by
          rw [hskip]
          refine upcoming_over hround ?_
          simpa [World.at, hw.config] using hover
        rw [hnil]
        refine ⟨hat.trans h', fun y l' hl => ?_, fun _ => hstate⟩
        cases hl
      · have hle : (following (w.room r).players (v.state.room r).currentRound
            (v.state.room r).drawerIndex).1 ≤ (w.room r).config.numRounds := by
          simpa [World.at, hw.config] using hgoes
        have hup : (v.state.at r (following (w.room r).players (v.state.room r).currentRound
            (v.state.room r).drawerIndex)).upcoming r = v.state.upcoming r := by
          rw [hat.upcoming, hskip, upcoming_succ hle]
          simp [World.at]
        refine ih (v := v.set _) hat ?_ ?_ ?_ fun v' h' => hQ v' (hup ▸ h')
        · simpa [World.at] using following_lt hidx
        · simpa [World.at] using hle
        · obtain ⟨j, hj, p, hp, hp'⟩ := hact
          cases j with
          | zero =>
            rw [Nat.add_zero, Nat.mod_eq_of_lt hidx, hd', Option.some.injEq] at hp
            subst hp
            rw [hmay] at hp'
            cases hp'
          | succ j =>
            refine ⟨j, Nat.lt_of_succ_lt_succ hj, p, ?_, hp'⟩
            simpa [World.at, following_mod hidx] using hp

/-- Some player who may draw is ahead, going on cyclically. -/
theorem exists_ahead {ps : List PlayerId} {act : PlayerId → Bool} (hact : ps.filter act ≠ [])
    {i : Nat} (hi : i < ps.length) :
    ∃ j < ps.length, ∃ p, ps[(i + j) % ps.length]? = some p ∧ act p = true := by
  obtain ⟨p, hp⟩ := List.exists_mem_of_ne_nil _ hact
  obtain ⟨hp, hp'⟩ := List.mem_filter.mp hp
  obtain ⟨m, hm, rfl⟩ := List.mem_iff_getElem.mp hp
  refine ⟨(m + ps.length - i) % ps.length, Nat.mod_lt _ (by omega), ps[m], ?_, hp'⟩
  have hsum : i + (m + ps.length - i) = m + ps.length := by omega
  rw [Nat.add_mod_mod, hsum, Nat.add_mod_right, Nat.mod_eq_of_lt hm, List.getElem?_eq_getElem hm]

/-- **`advance_turn_or_round`** comes to the drawer after the current one. -/
theorem advanceTurnOrRound_calm (env : Env) (hX : Calm r X R) (hw : Roster r w v.state)
    (hactive : 2 ≤ (w.connectedActive r).length) {d : PlayerId} {l : List (Nat × PlayerId)}
    (hd : (v.state.room r).players[(v.state.room r).drawerIndex]? = some d)
    (hmay : w.mayDraw r d = true)
    (hround : (v.state.room r).currentRound ≤ (w.room r).config.numRounds)
    (hup : v.state.upcoming r = ((v.state.room r).currentRound, d) :: l)
    {Q : Unit → View World Frame Mark → Prop} (hQ : ∀ v', Continues r w l v'.state → Q () v') :
    (advanceTurnOrRound env r).wp X R Q v := by
  have hd' : (w.room r).players[(v.state.room r).drawerIndex]? = some d := hw.players ▸ hd
  obtain ⟨hidx, -⟩ := List.getElem?_eq_some_iff.mp hd'
  have hcount : (v.state.connectedActive r).length = (w.connectedActive r).length := by
    change ((v.state.room r).players.filter (v.state.mayDraw r)).length =
      ((w.room r).players.filter (w.mayDraw r)).length
    rw [hw.players, List.filter_congr fun p hp => hw.mayDraw p hp]
  have hl : upcoming (w.room r).players (w.mayDraw r) (w.room r).config.numRounds
      (v.state.room r).currentRound ((v.state.room r).drawerIndex + 1) = l := by
    rw [hw.upcoming, upcoming_of_active hd' hmay, List.cons.injEq] at hup
    exact hup.2
  have hat := hw.at (following (w.room r).players (v.state.room r).currentRound
    (v.state.room r).drawerIndex)
  unfold advanceTurnOrRound
  rw [wp_bind, wp_read, wp_ite]
  refine ⟨fun hlt => absurd hlt (by omega), fun _ => ?_⟩
  rw [wp_bind, nextDrawer_at, wp_bind, wp_readRoom, wp_ite, hw.players]
  refine ⟨fun hover => ?_, fun hgoes => ?_⟩
  · refine gameOver_calm hX hat.roomy fun v' h' hstate => hQ v' ?_
    have hnil : l = [] := by
      rw [← hl]
      refine upcoming_over hround ?_
      simpa [World.at, hw.config] using hover
    rw [hnil]
    exact ⟨hat.trans h', nofun, fun _ => hstate⟩
  · have hle : (following (w.room r).players (v.state.room r).currentRound
        (v.state.room r).drawerIndex).1 ≤ (w.room r).config.numRounds := by
      simpa [World.at, hw.config] using hgoes
    have hup : (v.state.at r (following (w.room r).players (v.state.room r).currentRound
        (v.state.room r).drawerIndex)).upcoming r = l := by
      rw [hat.upcoming, ← hl, upcoming_succ hle]
      simp [World.at]
    have hfollowing := following_lt (k := (v.state.room r).currentRound) hidx
    have hne : (w.room r).players.filter (w.mayDraw r) ≠ [] :=
      List.ne_nil_of_length_pos (Nat.lt_of_lt_of_le (by decide) hactive)
    refine skipPlayers_calm (v := v.set _) env hX hat ?_ ?_ ?_ fun v' h' => hQ v' (hup ▸ h')
    · simpa [World.at] using hfollowing
    · simpa [World.at] using hle
    · have hahead := exists_ahead hne hfollowing
      simpa [World.at, hw.players] using hahead

theorem Roster.update (h : Roster r w w₁) (u : RoomUpdate)
    (hplayers : ∀ room, (u.apply room).players = room.players)
    (hconfig : ∀ room, (u.apply room).config = room.config) :
    Roster r w ((Update.room r u).apply w₁) where
  roomy := by
    refine ⟨h.roomy.1, fun p hp => h.roomy.2 p ?_⟩
    simpa [Update.apply, hplayers] using hp
  players := by simpa [Update.apply, hplayers] using h.players
  mayDraw := h.mayDraw
  config := by simpa [Update.apply, hconfig] using h.config

/-- The drawers of a game: the connected active players, in each round. -/
def World.drawers (w : World) (r : RoomId) : List (Nat × PlayerId) :=
  (List.range (w.room r).config.numRounds).flatMap fun j =>
    (w.connectedActive r).map (Prod.mk (j + 1))

/-- The host may start the game in its room. -/
structure CanStart (r : RoomId) (host : PlayerId) (w : World) : Prop where
  roomy : w.Roomy r
  room : ∃ code, w.playerToRoom host = some code ∧ w.roomOf code = some r
  host : (w.room r).hostId = host
  lobby : (w.room r).state = .lobby
  active : 2 ≤ (w.connectedActive r).length

/-- **`start_game`** comes to the first drawer. -/
theorem startGame_calm {host : PlayerId} (hX : Calm r X R) (hstart : CanStart r host v.state)
    {Q : Message → View World Frame Mark → Prop}
    (hQ : ∀ m v', Continues r v.state (v.state.drawers r) v'.state → Q m v') :
    (startGame host).wp X R Q v := by
  obtain ⟨code, hcode, hroom⟩ := hstart.room
  have hmay : (v.state.room r).players.filter (v.state.mayDraw r) ≠ [] :=
    List.ne_nil_of_length_pos (Nat.lt_of_lt_of_le (by decide) hstart.active)
  obtain ⟨i, hi⟩ : ∃ i, v.state.firstDrawer r = some i := by
    refine Option.isSome_iff_exists.mp ?_
    obtain ⟨p, hp⟩ := List.exists_mem_of_ne_nil _ hmay
    exact List.findIdx?_isSome.trans (List.any_eq_true.mpr ⟨p, List.mem_filter.mp hp⟩)
  obtain ⟨hlt, hdraws, -⟩ := List.findIdx?_eq_some_iff_getElem.mp hi
  have hactive : 2 ≤ (v.state.activePlayers r).length := by
    refine hstart.active.trans (List.Sublist.length_le ?_)
    refine List.monotone_filter_right _ fun p hp => ?_
    exact (Bool.and_eq_true_iff.mp hp).2
  unfold startGame findRoomByPlayer
  dsimp only
  simp only [wp_bind, wp_read, hcode, hroom, Option.elim_some, wp_pure]
  rw [wp_ite, wp_ite, wp_ite]
  refine ⟨fun h => absurd hstart.host h, fun _ => ⟨fun h => absurd hstart.lobby h, fun _ =>
    ⟨fun h => absurd h (by omega), fun _ => ?_⟩⟩⟩
  rw [wp_bind]
  refine wp_sameGame (S := []) hX inferInstance hstart.roomy (by decide) (by decide)
    fun _ v₁ h₁ => ?_
  simp only [wp_bind, wp_put, wp_mark, hi, Option.elim_some, Option.getD_some]
  intro _
  have hw : Roster r v.state v.state := ⟨hstart.roomy, rfl, fun _ _ => rfl, rfl⟩
  have hroster := (((hw.trans h₁.toSameRoster).update (.state .wordSelection) (fun _ => rfl)
    fun _ => rfl).update (.currentRound 1) (fun _ => rfl) fun _ => rfl).update (.drawerIndex i)
      (fun _ => rfl) fun _ => rfl
  rw [List.getElem?_eq_getElem hlt, Option.elim_some, wp_bind]
  refine wp_sameGame (S := []) hX inferInstance hroster.roomy (by decide) (by decide)
    fun _ v₂ h₂ => ?_
  have hrounds : 1 ≤ ((v.state.room r).config.numRounds : Nat) :=
    Nat.le_of_lt (v.state.room r).config.numRounds.property.1
  have hround : (v₂.state.room r).currentRound = 1 :=
    h₂.currentRound.trans (by simp [Update.apply, RoomUpdate.apply])
  have hindex : (v₂.state.room r).drawerIndex = i :=
    h₂.drawerIndex.trans (by simp [Update.apply, RoomUpdate.apply])
  have hup : v₂.state.upcoming r = v.state.drawers r := by
    rw [(hroster.trans h₂.toSameRoster).upcoming, hround, hindex]
    exact upcoming_first hi hrounds
  have hcons : v.state.drawers r = (1, (v.state.room r).players[i]) ::
      upcoming (v.state.room r).players (v.state.mayDraw r)
        (v.state.room r).config.numRounds 1 (i + 1) := by
    rw [← hup, (hroster.trans h₂.toSameRoster).upcoming, hround, hindex]
    exact upcoming_of_active (List.getElem?_eq_getElem hlt) hdraws
  refine hQ _ v₂ ⟨hroster.trans h₂.toSameRoster, fun x l' hl => ?_, fun hnil => ?_⟩
  · rw [hcons, List.cons.injEq] at hl
    obtain ⟨rfl, -⟩ := hl
    refine ⟨hup, h₂.state.trans (by simp [Update.apply, RoomUpdate.apply]), hround,
      hround.trans_le hrounds, ?_, hdraws⟩
    rw [(hroster.trans h₂.toSameRoster).players, hindex]
    exact List.getElem?_eq_getElem hlt
  · rw [hcons] at hnil
    cases hnil

/-! ## A whole game -/

/-- The state after `start_game` and `k` times `advance_turn_or_round`; in between anything may
happen that leaves the roster and the schedule alone. -/
inductive Game (env : Env) (r : RoomId) (host : PlayerId) (w : World) : Nat → World → Prop
  | start {x : Except String Message} {w' : World} :
      (startGame host).Ends (SameGame r) w x w' → Game env r host w 0 w'
  | advance {k : Nat} {w₁ w₂ w₃ : World} {x : Except String Unit} : Game env r host w k w₁ →
      SameRoster r w₁ w₂ → (advanceTurnOrRound env r).Ends (SameGame r) w₂ x w₃ →
      Game env r host w (k + 1) w₃

theorem calm_among : Calm r (.among (SameGame r)) {Frame.turnEnded r 0} :=
  ⟨Setting.among_inv (Multiset.singleton_ne_zero _), fun _ _ h => h⟩

/-- A game comes to one drawer after the other. -/
theorem continues_of_game {env : Env} {host : PlayerId} (hstart : CanStart r host w) {k : Nat}
    (hgame : Game env r host w k w₁) (hk : k ≤ (w.drawers r).length) :
    Continues r w ((w.drawers r).drop k) w₁ := by
  induction hgame with
  | start h =>
    have hwp := startGame_calm (v := ⟨w, 0, []⟩) calm_among hstart
      (Q := fun _ v' => Continues r w (w.drawers r) v'.state) fun _ _ h => h
    obtain ⟨_, _, _, hc⟩ := Ends.of_wp hwp (Multiset.singleton_ne_zero _) h
    exact hc
  | @advance k w₁ w₂ w₃ x _ hsame h ih =>
    have hc := ih (Nat.le_of_succ_le hk)
    obtain ⟨⟨j, d⟩, l, hl⟩ : ∃ x l, (w.drawers r).drop k = x :: l :=
      ⟨_, _, List.drop_eq_getElem_cons hk⟩
    obtain ⟨hup, -, hround, hle, hd, hmay⟩ := hc.next _ _ hl
    have hl' : (w.drawers r).drop (k + 1) = l := by
      rw [← List.drop_drop, hl]
      rfl
    have hroster := hc.roster.trans hsame
    have hup₂ : w₂.upcoming r = ((w₂.room r).currentRound, d) :: l := by
      rw [hroster.upcoming, hsame.currentRound, hsame.drawerIndex, ← hc.roster.upcoming, hup, hl,
        hround]
    have hwp := advanceTurnOrRound_calm (v := ⟨w₂, 0, []⟩) env calm_among hroster hstart.active
      (d := d) (l := l) (by simpa only [hsame.players, hsame.drawerIndex] using hd) hmay
      (hsame.currentRound.trans_le hle) hup₂
      (Q := fun _ v' => Continues r w l v'.state) fun _ h => h
    obtain ⟨_, _, _, hc'⟩ := Ends.of_wp hwp (Multiset.singleton_ne_zero _) h
    rw [hl']
    exact hc'

/-- **The drawers of a game** with a fixed roster are the connected active players in the order of
the list, once in each round; after them the game is over. -/
theorem drawers_of_game {env : Env} {host : PlayerId} (hstart : CanStart r host w) {k : Nat}
    {w' : World} (hgame : Game env r host w k w') :
    (∀ x, (w.drawers r)[k]? = some x → (w'.room r).state = .wordSelection ∧
      (w'.room r).currentRound = x.1 ∧
      (w'.room r).players[(w'.room r).drawerIndex]? = some x.2) ∧
    (k = (w.drawers r).length → (w'.room r).state = .gameOver) := by
  refine ⟨fun x hx => ?_, fun hk => ?_⟩
  · obtain ⟨hk, rfl⟩ := List.getElem?_eq_some_iff.mp hx
    have hc := continues_of_game hstart hgame hk.le
    obtain ⟨-, hstate, hround, -, hd, -⟩ := hc.next _ _ (List.drop_eq_getElem_cons hk)
    exact ⟨hstate, hround, hd⟩
  · have hc := continues_of_game hstart hgame hk.le
    exact hc.finished (by rw [hk, List.drop_length])

/-- A lobby of two players and a spectator. -/
def lobbyWorld : World :=
  { sampleWorld with
    rooms := [("ROOM01", 0)]
    room := fun _ =>
      { code := "ROOM01", hostId := .uuid 0, players := [.uuid 2, .uuid 0, .uuid 1] }
    player := fun _ p => { id := p, name := "", isSpectator := p = .uuid 2 }
    playerToRoom := fun _ => some "ROOM01"
    nextRoom := 1
    nextUuid := 3 }

/-- After the first turn it is the second player's, for the spectator does not draw. -/
theorem lobby_second_drawer : ∃ w', Game sampleEnv 0 (.uuid 0) lobbyWorld 1 w' ∧
    (w'.room 0).state = .wordSelection ∧ (w'.room 0).currentRound = 1 ∧
    (w'.room 0).players[(w'.room 0).drawerIndex]? = some (.uuid 1) := by
  obtain ⟨x, w₁, h⟩ : ∃ x w', (startGame (.uuid 0)).Ends (SameGame 0) lobbyWorld x w' :=
    Ends.total _ _
  obtain ⟨y, w', hnext⟩ : ∃ y w', (advanceTurnOrRound sampleEnv 0).Ends (SameGame 0) w₁ y w' :=
    Ends.total _ _
  have hstart : CanStart 0 (.uuid 0) lobbyWorld :=
    ⟨⟨by decide, by simp [lobbyWorld, World.Known]⟩, ⟨"ROOM01", rfl, rfl⟩, rfl, rfl, by decide⟩
  have hgame : Game sampleEnv 0 (.uuid 0) lobbyWorld 1 w' :=
    .advance (.start h) (.refl 0 w₁) hnext
  exact ⟨w', hgame, (drawers_of_game hstart hgame).1 (1, .uuid 1) rfl⟩

end Skribbl.Backend
