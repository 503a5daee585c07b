import Skribbl.Backend.Churn

/-!
# The end of a game

* `World.counters` — the round and the drawer's index, in lexicographic order.
* `World.advance` — what `advance_turn_or_round` decides before it is suspended;
  `advanceTurnOrRound_advance` says that it does so, and `advance_iterate` within how many steps.
* `begun` — the turns that `advance_turn_or_round` has started since the counters of a room were
  last reset, as the marks of a run tell.
* `Course` — these come one after the other, up to the counters.

Principal result: `game_ends` — so it is in every run, so there are at most as many turns as there
are places in all rounds.
-/

set_option autoImplicit false
set_option synthInstance.maxSize 100000

namespace Skribbl.Backend

open Coro Rotation

variable {r r' : RoomId} {w w' : World}

/-! ## The counters -/

/-- The round and the drawer's index. -/
def World.counters (w : World) (r : RoomId) : ℕ ×ₗ ℕ :=
  toLex ((w.room r).currentRound, (w.room r).drawerIndex)

/-- A turn that was begun: its place, the rounds to play and the seats at that moment. -/
structure Began where
  place : ℕ ×ₗ ℕ
  numRounds : Nat
  seats : Nat

/-- The turn that begins in this state. -/
def World.began (w : World) (r : RoomId) : Began where
  place := w.counters r
  numRounds := (w.room r).config.numRounds
  seats := (w.room r).players.length

/-- The round is one of those to play, and the index is that of a seat. -/
structure Began.Fits (b : Began) : Prop where
  round : (ofLex b.place).1 ≤ b.numRounds
  index : (ofLex b.place).2 < b.seats

/-- `drawer_index += 1`, and the next round behind the last player. -/
def World.next (w : World) (r : RoomId) : World :=
  w.at r (following (w.room r).players (w.room r).currentRound (w.room r).drawerIndex)

@[simp] theorem counters_at (x : Nat × Nat) : (w.at r x).counters r = toLex x := by
  rw [World.counters, World.at]
  simp

theorem room_at (x : Nat × Nat) (h : r' ≠ r) : (w.at r x).room r' = w.room r' := by
  rw [World.at]
  exact Function.update_of_ne h _ _

@[simp] theorem nextRoom_at (x : Nat × Nat) : (w.at r x).nextRoom = w.nextRoom := rfl

/-- **The next drawer** is later. -/
theorem counters_next : w.counters r < (w.next r).counters r := by
  rw [World.next, counters_at, World.counters, Prod.Lex.toLex_lt_toLex]
  unfold following
  split
  · exact .inl (Nat.lt_succ_self _)
  · exact .inr ⟨rfl, Nat.lt_succ_self _⟩

/-! ## The decision of `advance_turn_or_round` -/

/-- It ends the game, begins a turn, or fails, in this state. -/
inductive Advance where
  | finished (w : World)
  | begins (w : World)
  | fails (w : World)

/-- The loop that skips players. -/
def World.skip (r : RoomId) : Nat → World → Advance
  | 0, w => .finished w
  | attempts + 1, w =>
    (w.room r).players[(w.room r).drawerIndex]?.elim (.fails w) fun p =>
      if w.mayDraw r p then .begins w
      else if ((w.next r).room r).config.numRounds < ((w.next r).room r).currentRound then
        .finished (w.next r)
      else World.skip r attempts (w.next r)

/-- What `advance_turn_or_round` decides, unless it waits for players. -/
def World.advance (w : World) (r : RoomId) : Option Advance :=
  if (w.connectedActive r).length < 2 then none
  else if ((w.next r).room r).config.numRounds < ((w.next r).room r).currentRound then
    some (.finished (w.next r))
  else some (World.skip r ((w.next r).room r).players.length (w.next r))

section Decision

variable {X : Setting World Frame Mark} {R : Multiset Frame} {v : View World Frame Mark}
  {Q : Unit → View World Frame Mark → Prop}

/-- What follows the decision. -/
def Advance.Then (env : Env) (r : RoomId) (X : Setting World Frame Mark) (R : Multiset Frame)
    (Q : Unit → View World Frame Mark → Prop) (v : View World Frame Mark) : Advance → Prop
  | .finished w => (gameOver r).wp X R Q (v.set w)
  | .begins w => (mark (w.beginning r) >>= fun _ => startTurn env r).wp X R Q (v.set w)
  | .fails w => X.inv (v.set w)

theorem Advance.then_set {a : Advance} {u : World} (env : Env) :
    a.Then env r X R Q (v.set u) ↔ a.Then env r X R Q v := by cases a <;> rfl

theorem nextDrawer_next : (nextDrawer r).wp X R Q v ↔ Q () (v.set (v.state.next r)) := nextDrawer_at

theorem skipPlayers_skip (env : Env) (attempts : Nat) :
    (skipPlayers env r attempts).wp X R Q v ↔
      (World.skip r attempts v.state).Then env r X R Q v := by
  induction attempts generalizing v with
  | zero => rfl
  | succ attempts ih =>
    unfold skipPlayers World.skip
    simp only [wp_bind, wp_read]
    cases hp : (v.state.room r).players[(v.state.room r).drawerIndex]? with
    | none => rfl
    | some p =>
      simp only [Option.elim_some]
      change Coro.wp X R (if v.state.mayDraw r p = true then _ else _) Q v ↔ _
      split
      · rfl
      · rw [wp_bind, nextDrawer_next, wp_bind, wp_readRoom]
        simp only [View.set_state, gt_iff_lt]
        split
        · rfl
        · exact ih.trans (Advance.then_set env)

/-- **`advance_turn_or_round` does what was decided.** -/
theorem advanceTurnOrRound_advance (env : Env) :
    (advanceTurnOrRound env r).wp X R Q v ↔ (v.state.advance r).elim
      ((endGameInsufficientPlayers r).wp X R Q v) (Advance.Then env r X R Q v) := by
  unfold advanceTurnOrRound World.advance
  rw [wp_bind, wp_read]
  split
  · rfl
  · rw [wp_bind, nextDrawer_next, wp_bind, wp_readRoom]
    simp only [View.set_state, gt_iff_lt]
    split
    · rfl
    · exact (skipPlayers_skip env _).trans (Advance.then_set env)

end Decision

/-- Only the counters of the room have changed, to later ones. -/
structure Later (r : RoomId) (w w' : World) : Prop where
  at' : ∃ x, w' = w.at r x
  later : w.counters r < w'.counters r

theorem later_next : Later r w (w.next r) := ⟨⟨_, rfl⟩, counters_next⟩

theorem Later.trans {w₁ : World} (h : Later r w w₁) (h' : Later r w₁ w') : Later r w w' := by
  obtain ⟨x, rfl⟩ := h.at'
  obtain ⟨y, rfl⟩ := h'.at'
  exact ⟨⟨y, w.at_at r x y⟩, h.later.trans h'.later⟩

/-- What a decision says of the counters. -/
def Advance.Sound (r : RoomId) (w : World) : Advance → Prop
  | .finished w' => Later r w w'
  | .begins w' => Later r w w' ∧ (w'.began r).Fits
  | .fails _ => False

theorem skip_sound (hlater : Later r w w') {attempts : Nat}
    (hindex : (w'.room r).drawerIndex < (w'.room r).players.length)
    (hround : (w'.room r).currentRound ≤ (w'.room r).config.numRounds) :
    (World.skip r attempts w').Sound r w := by
  induction attempts generalizing w' with
  | zero => exact hlater
  | succ attempts ih =>
    unfold World.skip
    rw [List.getElem?_eq_getElem hindex, Option.elim_some]
    split
    · exact ⟨hlater, hround, hindex⟩
    · split
      · exact hlater.trans later_next
      · refine ih (hlater.trans later_next) ?_ (by omega)
        rw [World.next, World.at_players, World.at_drawerIndex]
        exact following_lt hindex

/-- **Each turn that is begun has a later place**, in a round that is to be played. -/
theorem advance_sound (w : World) (r : RoomId) : ∀ a ∈ w.advance r, a.Sound r w := by
  unfold World.advance
  split
  · nofun
  · rename_i hactive
    split
    · rintro a ⟨⟩
      exact later_next
    · rintro a ⟨⟩
      refine skip_sound later_next ?_ (by omega)
      have hpos : 0 < (w.room r).players.length := by
        have hle : (w.connectedActive r).length ≤ (w.room r).players.length :=
          List.length_filter_le _ _
        omega
      rw [World.next, World.at_players, World.at_drawerIndex]
      unfold following
      split <;> simp only <;> omega

/-! ## How long the loop takes -/

theorem skip_iterate (r : RoomId) (attempts : Nat) (w : World) : ∃ k ≤ attempts,
    World.skip r attempts w = .finished ((fun w => w.next r)^[k] w) ∨
      World.skip r attempts w = .begins ((fun w => w.next r)^[k] w) ∨
        World.skip r attempts w = .fails ((fun w => w.next r)^[k] w) := by
  induction attempts generalizing w with
  | zero => exact ⟨0, le_rfl, .inl rfl⟩
  | succ attempts ih =>
    unfold World.skip
    cases (w.room r).players[(w.room r).drawerIndex]? with
    | none => exact ⟨0, Nat.zero_le _, .inr (.inr rfl)⟩
    | some p =>
      rw [Option.elim_some]
      split
      · exact ⟨0, Nat.zero_le _, .inr (.inl rfl)⟩
      · split
        · exact ⟨1, by omega, .inl rfl⟩
        · obtain ⟨k, hk, hskip⟩ := ih (w.next r)
          exact ⟨k + 1, by omega, by simpa only [Function.iterate_succ_apply] using hskip⟩

/-- **The decision is made** after at most as many steps as there are players. -/
theorem advance_iterate (w : World) (r : RoomId) : ∀ a ∈ w.advance r,
    ∃ k ≤ (w.room r).players.length, a = .finished ((fun w => w.next r)^[k + 1] w) ∨
      a = .begins ((fun w => w.next r)^[k + 1] w) := by
  intro a ha
  have hsound := advance_sound w r a ha
  unfold World.advance at ha
  split at ha
  · cases ha
  · split at ha
    · cases ha
      exact ⟨0, Nat.zero_le _, .inl rfl⟩
    · cases ha
      obtain ⟨k, hk, hskip⟩ := skip_iterate r ((w.next r).room r).players.length (w.next r)
      rw [World.next, World.at_players] at hk
      refine ⟨k, hk, ?_⟩
      rw [Function.iterate_succ_apply]
      rcases hskip with hskip | hskip | hskip
      · exact .inl hskip
      · exact .inr hskip
      · rw [hskip] at hsound
        exact hsound.elim

section Ending

variable {rely : World → World → Prop} {x : Except String Unit}

/-- How a call ends that follows the decision. -/
def Advance.Ends (env : Env) (r : RoomId) (rely : World → World → Prop) (x : Except String Unit)
    (w' : World) : Advance → Prop
  | .finished w => (gameOver r).Ends rely w x w'
  | .begins w => (startTurn env r).Ends rely w x w'
  | .fails w => x = .error "IndexError" ∧ w' = w

theorem next_wrapped (h : (w.room r).players.length ≤ (w.room r).drawerIndex + 1) :
    w.next r = (Update.room r (.currentRound ((w.room r).currentRound + 1))).apply
      ((Update.room r (.drawerIndex 0)).apply w) := by
  simp [World.next, following, h, World.at, Update.apply, RoomUpdate.apply, RoomUpdate.happens]

theorem next_of_lt (h : ¬(w.room r).players.length ≤ (w.room r).drawerIndex + 1) :
    w.next r = (Update.room r (.drawerIndex ((w.room r).drawerIndex + 1))).apply w := by
  simp [World.next, following, h, World.at, Update.apply, RoomUpdate.apply, RoomUpdate.happens]

theorem ends_nextDrawer {f : Unit → M Unit} :
    (nextDrawer r >>= f).Ends rely w x w' ↔ (f ()).Ends rely (w.next r) x w' := by
  unfold nextDrawer
  change ((if (w.room r).players.length ≤ (w.room r).drawerIndex + 1 then _ else _) >>= f).Ends
    rely w x w' ↔ _
  split
  · rename_i h
    rw [next_wrapped h]
    rfl
  · rename_i h
    rw [next_of_lt h]
    rfl

theorem ends_skipPlayers (env : Env) (attempts : Nat) :
    (skipPlayers env r attempts).Ends rely w x w' ↔
      (World.skip r attempts w).Ends env r rely x w' := by
  induction attempts generalizing w with
  | zero => rfl
  | succ attempts ih =>
    unfold skipPlayers World.skip
    change ((w.room r).players[(w.room r).drawerIndex]?.elim (raise "IndexError") _).Ends
      rely w x w' ↔ _
    cases (w.room r).players[(w.room r).drawerIndex]? with
    | none => rfl
    | some p =>
      simp only [Option.elim_some]
      change Coro.Ends rely (if w.mayDraw r p = true then _ else _) w x w' ↔ _
      split
      · rfl
      · rw [ends_nextDrawer]
        change Coro.Ends rely (if ((w.next r).room r).config.numRounds <
          ((w.next r).room r).currentRound then _ else _) (w.next r) x w' ↔ _
        split
        · rfl
        · exact ih

theorem ends_advanceTurnOrRound (env : Env) : (advanceTurnOrRound env r).Ends rely w x w' ↔
    (w.advance r).elim ((endGameInsufficientPlayers r).Ends rely w x w')
      (Advance.Ends env r rely x w') := by
  unfold advanceTurnOrRound World.advance
  change Coro.Ends rely (if (w.connectedActive r).length < 2 then _ else _) w x w' ↔ _
  split
  · rfl
  · rw [ends_nextDrawer]
    change Coro.Ends rely (if ((w.next r).room r).config.numRounds <
      ((w.next r).room r).currentRound then _ else _) (w.next r) x w' ↔ _
    split
    · rfl
    · exact ends_skipPlayers env _

end Ending

/-! ## The turns since the last reset -/

/-- One mark more. -/
def Mark.begun (r : RoomId) (h : List Began) : Mark → List Began
  | .opens r' => if r' = r then [] else h
  | .resets r' => if r' = r then [] else h
  | .begins r' currentRound drawerIndex numRounds seats =>
    if r' = r then h ++ [⟨toLex (currentRound, drawerIndex), numRounds, seats⟩] else h
  | _ => h

/-- The turns that `advance_turn_or_round` has started in the room since its counters were last
reset by `start_game` or `handle_rematch`, or the room was made. -/
def begun (r : RoomId) (trace : List Mark) : List Began := trace.foldl (Mark.begun r) []

theorem begun_push (trace : List Mark) (e : Mark) :
    begun r (trace ++ [e]) = e.begun r (begun r trace) := by
  simp [begun]

/-- One turn comes after the other, and all of them fit. -/
structure Ascending (h : List Began) : Prop where
  sorted : h.Pairwise fun a b => a.place < b.place
  fits : ∀ b ∈ h, b.Fits

theorem ascending_nil : Ascending [] := ⟨.nil, nofun⟩

/-- A later turn. -/
theorem Ascending.push {h : List Began} {b : Began} (ha : Ascending h) (hb : b.Fits)
    (hlater : ∀ a ∈ h, a.place < b.place) : Ascending (h ++ [b]) where
  sorted := by
    refine List.pairwise_append.mpr ⟨ha.sorted, List.pairwise_singleton _ _,
      fun a hmem b' hb' => ?_⟩
    rw [List.mem_singleton.mp hb']
    exact hlater a hmem
  fits a hmem := by
    rcases List.mem_append.mp hmem with hmem | hmem
    · exact ha.fits a hmem
    · rwa [List.mem_singleton.mp hmem]

/-- **There are no more turns than places**: `M + 1` rounds with `N` seats each. -/
theorem Ascending.length_le {h : List Began} (ha : Ascending h) {M N : Nat}
    (hb : ∀ b ∈ h, b.numRounds ≤ M ∧ b.seats ≤ N) : h.length ≤ (M + 1) * N := by
  have hsorted : (h.map Began.place).Pairwise (· < ·) :=
    List.Pairwise.map _ (fun _ _ hlt => hlt) ha.sorted
  have hle := length_le_of_ascending (M := M) (N := N) hsorted fun x hx => by
    obtain ⟨b, hb', rfl⟩ := List.mem_map.mp hx
    have hfits := ha.fits b hb'
    exact ⟨hfits.round.trans (hb b hb').1, hfits.index.trans_le (hb b hb').2⟩
  rwa [List.length_map] at hle

/-- **The turns since the last reset come one after the other**, up to the counters. -/
structure Course (r : RoomId) (h : List Began) (w : World) : Prop where
  ascending : r < w.nextRoom → Ascending h
  counters : r < w.nextRoom → ∀ b ∈ h, b.place ≤ w.counters r

variable {h : List Began}

theorem course_nil : Course r [] w := ⟨fun _ => ascending_nil, fun _ => nofun⟩

/-- Whatever leaves the counters alone. -/
theorem Course.other (hc : Course r h w)
    (hsame : r < w'.nextRoom → r < w.nextRoom ∧ w'.counters r = w.counters r) : Course r h w' := by
  refine ⟨fun hr => hc.ascending (hsame hr).1, fun hr b hb => ?_⟩
  rw [(hsame hr).2]
  exact hc.counters (hsame hr).1 b hb

/-- The counters become later ones. -/
theorem Course.later (hc : Course r h w) (hlater : Later r w w') : Course r h w' := by
  obtain ⟨x, rfl⟩ := hlater.at'
  exact ⟨hc.ascending, fun hr b hb => (hc.counters hr b hb).trans hlater.later.le⟩

/-- A turn begins in a later place. -/
theorem Course.begins (hc : Course r h w) (hlater : Later r w w') (hfits : (w'.began r).Fits) :
    Course r (h ++ [w'.began r]) w' := by
  obtain ⟨x, rfl⟩ := hlater.at'
  refine ⟨fun hr => (hc.ascending hr).push hfits fun a ha => ?_, fun hr b hb => ?_⟩
  · exact (hc.counters hr a ha).trans_lt hlater.later
  · rcases List.mem_append.mp hb with hb | hb
    · exact (hc.counters hr b hb).trans hlater.later.le
    · rw [List.mem_singleton.mp hb]
      exact le_rfl

/-! ## Runs -/

/-- The setting in which the turns of the room come one after the other. -/
def coursing (r : RoomId) : Setting World Frame Mark where
  inv v := Course r (begun r v.trace) v.state
  known _ := True
  cond := Loop.anyEvent
  rely := World.Extends

instance : FrameFree (coursing r) := ⟨fun _ _ => Iff.rfl⟩

/-- The parts of the state that the counters are not among. -/
abbrev asideEffs : List Eff :=
  [.members, .state, .turn, .timers, .pending, .autoSelect, .countdown, .players, .connection,
    .cleanup, .guessed, .spectator, .names, .roles, .clock, .disconnecting, .raises]

theorem coursing_keeps : (coursing r).Keeps (fp asideEffs) where
  change v w hw hc := by
    refine hc.other fun hr => ?_
    have hr' : r < v.state.nextRoom := (same_of_fp hw .rooms (by decide)).world.2 ▸ hr
    have hsame := (same_of_fp hw .schedule (by decide)).room r hr'
    refine ⟨hr', ?_⟩
    simp only [World.counters, View.set_state, hsame.1, hsame.2.1]
  mark v e R he _ hc := by
    have hno : e.begun r (begun r v.trace) = begun r v.trace := by
      cases e with
      | opens | resets | begins => exact absurd he (by simp [fp])
      | _ => rfl
    change Course r (begun r (v.trace ++ [e])) v.state
    rw [begun_push, hno]
    exact hc
  frame _ _ := inferInstance
  fails _ _ _ hv := hv

instance (priority := low) {α : Type} (c : M α) [hc : Within (fp asideEffs) c] :
    Stable (coursing r) c := .of_within hc coursing_keeps

/-- An assignment that leaves the counters alone. -/
theorem coursing_put {u : Update} (hu : ∀ w : World, (u.apply w).nextRoom = w.nextRoom ∧
    (u.apply w).counters r = w.counters r) : Stable (coursing r) (put u) where
  out _ v hc := hc.other fun hr => ⟨(hu v.state).1 ▸ hr, (hu v.state).2⟩

instance (r' : RoomId) (c : GameConfig) : Stable (coursing r) (put (.room r' (.config c))) :=
  coursing_put fun w => by
    refine ⟨rfl, ?_⟩
    by_cases hr : r = r'
    · subst hr
      simp [World.counters, Update.apply, RoomUpdate.apply]
    · simp [World.counters, Update.apply, Function.update_of_ne hr]

instance (r' : RoomId) (p : PlayerId) (u : PlayerUpdate) :
    Stable (coursing r) (put (.player r' p u)) := coursing_put fun _ => ⟨rfl, rfl⟩

instance (l : List (String × RoomId)) : Stable (coursing r) (put (.rooms l)) :=
  coursing_put fun _ => ⟨rfl, rfl⟩

/-- A room that is made has no turns yet. -/
theorem Course.newRoom {v : View World Frame Mark} (hv : (coursing r).inv v) (x : Room)
    (members : PlayerId → Player) : (coursing r).inv
      ((v.push (.opens v.state.nextRoom)).set ((Update.newRoom x members).apply v.state)) := by
  change Course r (begun r (v.trace ++ [_])) _
  rw [begun_push, Mark.begun]
  split
  · exact course_nil
  · rename_i hr
    refine Course.other hv fun hlt => ?_
    refine ⟨Nat.lt_of_le_of_ne (Nat.le_of_lt_succ hlt) (Ne.symm hr), ?_⟩
    simp [World.counters, Update.apply, Function.update_of_ne (Ne.symm hr)]

/-- A mark of something else. -/
theorem coursing_mark {e : Mark} (he : ∀ h, e.begun r h = h) : Stable (coursing r) (mark e) where
  out R v hc _ := by
    change Course r (begun r (v.trace ++ [e])) v.state
    rw [begun_push, he]
    exact hc

instance (r' : RoomId) (t : Nat) : Stable (coursing r) (mark (.ends r' t)) :=
  coursing_mark fun _ => rfl

instance (t : Nat) (p : PlayerId) : Stable (coursing r) (mark (.credits t p)) :=
  coursing_mark fun _ => rfl

instance (r' : RoomId) (t : Nat) : Stable (coursing r) (mark (.advances r' t)) :=
  coursing_mark fun _ => rfl

/-- The counters of another room are set. -/
theorem Course.elsewhere (hc : Course r h w) (hr : r ≠ r') (hlater : Later r' w w') :
    Course r h w' := by
  obtain ⟨x, rfl⟩ := hlater.at'
  refine hc.other fun hlt => ⟨hlt, ?_⟩
  rw [World.counters, room_at x hr, World.counters]

/-- **A call of `advance_turn_or_round`.** -/
instance (env : Env) (r' : RoomId) : Stable (coursing r) (advanceTurnOrRound env r') where
  out R v hc := by
    rw [advanceTurnOrRound_advance]
    cases ha : v.state.advance r' with
    | none => exact Stable.out R v hc
    | some a =>
      have hsound := advance_sound v.state r' a ha
      rw [Option.elim_some]
      cases a with
      | finished w =>
        refine Stable.out (c := gameOver r') R _ ?_
        change Course r (begun r v.trace) w
        by_cases hr : r = r'
        · subst hr
          exact Course.later hc hsound
        · exact Course.elsewhere hc hr hsound
      | begins w =>
        obtain ⟨hlater, hfits⟩ := hsound
        change (mark (w.beginning r') >>= fun _ => startTurn env r').wp _ _ _ _
        rw [wp_bind, wp_mark]
        refine fun _ => Stable.out (c := startTurn env r') R _ ?_
        change Course r (begun r (v.trace ++ [w.beginning r'])) w
        rw [begun_push, World.beginning, Mark.begun]
        by_cases hr : r = r'
        · subst hr
          rw [if_pos rfl]
          exact Course.begins hc hlater hfits
        · rw [if_neg (Ne.symm hr)]
          exact Course.elsewhere hc hr hlater
      | fails w => exact hsound.elim

section Functions

variable (env : Env)

instance (r' : RoomId) (turn : TurnState) (duration : ℚ) (position : Nat) (ps : List PlayerId) :
    Stable (coursing r) (scoreGuessers r' turn duration position ps) := by
  induction ps generalizing position with
  | nil => unfold scoreGuessers; infer_instance
  | cons p ps ih => unfold scoreGuessers; dsimp only; infer_instance

instance (r' : RoomId) (turn : TurnState) (duration : ℚ) :
    Stable (coursing r) (scoreTurn r' turn duration) := by
  unfold scoreTurn; dsimp only; infer_instance

instance (r' : RoomId) (turn : TurnState) (duration : ℚ) (reason : TurnEndReason) :
    Stable (coursing r) (turnScores r' turn duration reason) := by
  unfold turnScores; infer_instance

instance (r' : RoomId) (code : String) (duration : ℚ) (turn : TurnState) (reason : TurnEndReason) :
    Stable (coursing r) (finishTurn env r' code duration turn reason) := by
  unfold finishTurn; infer_instance

instance (r' : RoomId) (reason : TurnEndReason) :
    Stable (coursing r) (endTurn env r' reason) := by unfold endTurn; infer_instance

instance (p : PlayerId) (settings : List (String × Value)) :
    Stable (coursing r) (updateSettings env p settings) := by
  unfold updateSettings; dsimp only; infer_instance

/-- Once the counters of a room are reset, they may be set. -/
theorem Course.reset {v : View World Frame Mark} (hv : (coursing r).inv v)
    (hsame : r ≠ r' → v.state.nextRoom = w.nextRoom ∧ w.counters r = v.state.counters r) :
    (coursing r).inv ((v.push (.resets r')).set w) := by
  change Course r (begun r (v.trace ++ [_])) w
  rw [begun_push, Mark.begun]
  split
  · exact course_nil
  · rename_i hr
    obtain ⟨hnext, hcounters⟩ := hsame (Ne.symm hr)
    exact Course.other hv fun hlt => ⟨hnext ▸ hlt, hcounters⟩

/-- The counters of another room are set. -/
theorem counters_other (hr : r ≠ r') (u : RoomUpdate) (w : World) :
    ((Update.room r' u).apply w).counters r = w.counters r := by
  simp [World.counters, Update.apply, Function.update_of_ne hr]

instance (r' : RoomId) (p : PlayerId) : Stable (coursing r) (resetPlayer r' p) := by
  unfold resetPlayer; infer_instance

instance (p : PlayerId) : Stable (coursing r) (handleRematch p) where
  out R v hv := by
    unfold handleRematch
    dsimp only
    rw [wp_bind]
    refine wp_mono (Stable.out R v hv) fun o v₁ h₁ => ?_
    rw [wp_elim]
    refine ⟨fun _ => Stable.out R v₁ h₁, fun r' _ => ?_⟩
    rw [wp_bind, wp_readRoom, wp_ite, wp_ite]
    refine ⟨fun _ => Stable.out R v₁ h₁, fun _ => ⟨fun _ => Stable.out R v₁ h₁, fun _ => ?_⟩⟩
    rw [wp_bind]
    refine wp_mono (Stable.out R v₁ h₁) fun _ v₂ h₂ => ?_
    rw [wp_bind, wp_mark]
    intro _
    rw [wp_bind, wp_put, wp_bind, wp_put]
    exact Stable.out R _ (Course.reset (v := v₂.add R) h₂ fun hr =>
      ⟨rfl, (counters_other hr _ _).trans (counters_other hr _ _)⟩)

instance (p : PlayerId) : Stable (coursing r) (startGame p) where
  out R v hv := by
    unfold startGame
    dsimp only
    rw [wp_bind]
    refine wp_mono (Stable.out R v hv) fun o v₁ h₁ => ?_
    rw [wp_elim]
    refine ⟨fun _ => Stable.out R v₁ h₁, fun r' _ => ?_⟩
    rw [wp_bind, wp_read, wp_ite, wp_ite, wp_ite]
    refine ⟨fun _ => Stable.out R v₁ h₁, fun _ => ⟨fun _ => Stable.out R v₁ h₁, fun _ =>
      ⟨fun _ => Stable.out R v₁ h₁, fun _ => ?_⟩⟩⟩
    rw [wp_bind]
    refine wp_mono (Stable.out R v₁ h₁) fun _ v₂ h₂ => ?_
    rw [wp_bind]
    refine wp_mono (Stable.out R v₂ h₂) fun _ v₃ h₃ => ?_
    rw [wp_bind, wp_mark]
    intro _
    rw [wp_bind, wp_put, wp_bind]
    cases hi : v₁.state.firstDrawer r' with
    | none =>
      exact Stable.out R _ (Course.reset (v := v₃.add R) h₃ fun hr => ⟨rfl, counters_other hr _ _⟩)
    | some i =>
      rw [Option.elim_some, wp_put]
      exact Stable.out R _ (Course.reset (v := v₃.add R) h₃ fun hr =>
        ⟨rfl, (counters_other hr _ _).trans (counters_other hr _ _)⟩)

instance (p : PlayerId) (ws : WsId) : Stable (coursing r) (startGameAndTurn env p ws) := by
  unfold startGameAndTurn; infer_instance

instance (r' : RoomId) (turnId : Nat) : Stable (coursing r) (turnTimer env r' turnId) := by
  unfold turnTimer; infer_instance

instance (r' : RoomId) : Stable (coursing r) (endTurnIfAllGuessed env r') := by
  unfold endTurnIfAllGuessed; infer_instance

instance (r' : RoomId) (p : PlayerId) : Stable (coursing r) (correctGuess env r' p) := by
  unfold correctGuess; infer_instance

instance (r' : RoomId) (p : PlayerId) (text : String) :
    Stable (coursing r) (handleGuess env r' p text) := by unfold handleGuess; infer_instance

instance (r' : RoomId) (wasDrawer : Bool) :
    Stable (coursing r) (afterVoteKick env r' wasDrawer) := by
  unfold afterVoteKick; infer_instance

instance (r' : RoomId) (p : PlayerId) :
    Stable (coursing r) (executeVoteKickPassed env r' p) := by
  unfold executeVoteKickPassed; dsimp only; infer_instance

instance (p q : PlayerId) : Stable (coursing r) (startVoteKick env p q) := by
  unfold startVoteKick; dsimp only; infer_instance

instance (r' : RoomId) (p : PlayerId) : Stable (coursing r) (kickTarget env r' p) := by
  unfold kickTarget; infer_instance

instance (p : PlayerId) (yes : Bool) : Stable (coursing r) (castVoteKick env p yes) := by
  unfold castVoteKick; dsimp only; infer_instance

instance (r' : RoomId) (p : PlayerId) :
    Stable (coursing r) (voteKickOnDisconnect env r' p) := by
  unfold voteKickOnDisconnect; dsimp only; infer_instance

instance (code : String) : Stable (coursing r) (deleteRoom code) := by
  unfold deleteRoom; infer_instance

instance (r' : RoomId) (p : PlayerId) : Stable (coursing r) (hostOnDisconnect r' p) := by
  unfold hostOnDisconnect; infer_instance

instance (code : String) (p : PlayerId) :
    Stable (coursing r) (reassignHostIfDisconnected code p) := by
  unfold reassignHostIfDisconnected; infer_instance

instance (r' : RoomId) (p : PlayerId) : Stable (coursing r) (gameOnDisconnect env r' p) := by
  unfold gameOnDisconnect; infer_instance

instance (p : PlayerId) : Stable (coursing r) (handleDisconnect env p) := by
  unfold handleDisconnect; infer_instance

instance (p : PlayerId) : Stable (coursing r) (removePlayer p) := by
  unfold removePlayer; infer_instance

instance (p : PlayerId) : Stable (coursing r) (leaveRoom p) := by
  unfold leaveRoom; infer_instance

instance (p : PlayerId) : Stable (coursing r) (permanentlyRemovePlayer p) := by
  unfold permanentlyRemovePlayer; infer_instance

instance (r' : RoomId) (p : PlayerId) (requestId : RequestId) :
    Stable (coursing r) (promoteSpectator r' p requestId) := by
  unfold promoteSpectator; infer_instance

instance (p : PlayerId) (requestId : RequestId) (action : String) :
    Stable (coursing r) (respondSpectatorRoleRequest p requestId action) := by
  unfold respondSpectatorRoleRequest; infer_instance

instance (p : PlayerId) : Stable (coursing r) (clientDisconnected env p) := by
  unfold clientDisconnected; infer_instance

instance (players : List PlayerId) : Stable (coursing r) (cleanupStream env players) := by
  unfold cleanupStream; infer_instance

instance (draws : List String) (name : String) (ws : WsId) (avatar password : Option String)
    (maxPlayers : Option Int) :
    Stable (coursing r) (createRoom env draws name ws avatar password maxPlayers) where
  out R v hv := by
    unfold createRoom
    dsimp only
    rw [wp_bind, wp_read, wp_ite, wp_elim, wp_elim]
    refine ⟨fun _ => hv, fun _ => ⟨fun _ => ⟨fun _ => hv, fun code _ => ?_⟩, fun _ _ => hv⟩⟩
    rw [wp_bind, wp_mark]
    intro _
    rw [wp_bind, wp_put]
    exact Stable.out R _ (Course.newRoom (v := v.add R) hv _ _)

instance (x : RoomSnapshot) : Stable (coursing r) (restoreRoom x) where
  out R v hv := by
    unfold restoreRoom
    dsimp only
    rw [wp_bind, wp_read, wp_bind, wp_mark]
    intro _
    have hmarked : (coursing r).inv ((v.push (.restores x.state x.drawerIndex
        (x.players.map (·.id)))).add R) := by
      change Course r (begun r (v.trace ++ [_])) v.state
      rw [begun_push]
      exact hv
    rw [wp_bind, wp_mark]
    intro _
    rw [wp_bind, wp_put]
    exact Stable.out R _ (Course.newRoom (v := (v.push _).add R) hmarked _ _)

instance (code : String) : Stable (coursing r) (adoptSnapshot code) := by
  unfold adoptSnapshot; infer_instance

instance (name code : String) (ws : WsId) (avatar : Option String) (asSpectator : Bool)
    (password : Option String) (remote : Option Message) :
    Stable (coursing r) (joinRoom env name code ws avatar asSpectator password remote) := by
  unfold joinRoom joinRoomLocal; infer_instance

instance (name code : String) (ws : WsId) (avatar : Option String) :
    Stable (coursing r) (handleReconnect name code ws avatar) := by
  unfold handleReconnect; dsimp only; infer_instance

instance (ws : WsId) (c : M Message) [Stable (coursing r) c] :
    Stable (coursing r) (answerIdentity ws c) := by unfold answerIdentity; infer_instance

instance (ws : WsId) (c : M Message) [Stable (coursing r) c] :
    Stable (coursing r) (answer ws c) := by unfold answer; infer_instance

instance (ws : WsId) (c : M Message) [Stable (coursing r) c] :
    Stable (coursing r) (answerError ws c) := by unfold answerError; infer_instance

instance (ws : WsId) (p : Option PlayerId) :
    Stable (coursing r) (websocketClosed env ws p) := by
  unfold websocketClosed; dsimp only; infer_instance

end Functions

/-- Every call keeps the course. -/
theorem call_coursing (env : Env) (o : Op) {v : View World Frame Mark} (hv : (coursing r).inv v) :
    (o.call env).wp (coursing r) 0 (fun _ => (coursing r).inv) v := by
  refine Stable.zero ?_ hv
  cases o <;> unfold Op.call <;> dsimp only <;> infer_instance

/-- Every task keeps the course. -/
theorem body_coursing (env : Env) (t : TaskId) : Stable (coursing r) (taskBody env t) := by
  obtain ⟨kind, n⟩ := t
  cases kind <;> unfold taskBody <;> dsimp only <;> infer_instance

theorem coursing_setStatus (t : TaskId) (status : TaskStatus) {v : View World Frame Mark}
    (hv : (coursing r).inv v) : (coursing r).inv (v.set (v.state.setStatus t status)) :=
  Course.other hv fun hlt => ⟨hlt, rfl⟩

/-- Everything keeps the course. -/
theorem worker_coursing (env : Env) : (worker env).Keeps (coursing r) where
  call o _ _ hv := call_coursing env o hv
  fire t _ _ _ hv := (body_coursing env t).zero (coursing_setStatus t .running hv)
  finish t _ hv := coursing_setStatus t .done hv
  cancel t _ _ _ _ hv := coursing_setStatus t .done hv

/-- **Every game ends.**  In every run, and whoever joins, leaves, disconnects or is removed, the
turns that `advance_turn_or_round` has started in a room since its counters were last reset come one
after the other, each in a round that is to be played and with an index below the number of players;
so there are at most as many as there are places in all rounds.  Each call ends, and unless it waits
for players it does so after looking at each player at most once. -/
theorem game_ends {env : Env} {transport : WsId → Transport} {redis : Bool} {oracle : List Nat}
    {snapshots : String → Option RoomSnapshot} {c : Config World Frame Mark TaskId}
    (hrun : (worker env).Run Loop.anyEvent
      (startConfig (World.start transport redis oracle snapshots)) c) (hidle : c.running = none)
    (r : RoomId) :
    (r < c.state.nextRoom →
      ((begun r c.trace).Pairwise fun a b => a.place < b.place) ∧
      (∀ b ∈ begun r c.trace, (ofLex b.place).1 ≤ b.numRounds ∧ (ofLex b.place).2 < b.seats) ∧
      ∀ M N, (∀ b ∈ begun r c.trace, b.numRounds ≤ M ∧ b.seats ≤ N) →
        (begun r c.trace).length ≤ (M + 1) * N) ∧
    ∀ (rely : World → World → Prop) (w : World),
      (∃ x w', (advanceTurnOrRound env r).Ends rely w x w') ∧
      ∀ x w', (advanceTurnOrRound env r).Ends rely w x w' →
        (endGameInsufficientPlayers r).Ends rely w x w' ∨
        ∃ k ≤ (w.room r).players.length,
          (gameOver r).Ends rely ((fun w => w.next r)^[k + 1] w) x w' ∨
          (startTurn env r).Ends rely ((fun w => w.next r)^[k + 1] w) x w' := by
  have hc : Course r (begun r c.trace) c.state :=
    ((worker_coursing env).run (worker_changes env) hrun (Loop.inside_of_quiet rfl rfl)
      (fun _ _ _ => trivial) (Loop.ready_of_quiet rfl rfl course_nil)).idle hidle
  refine ⟨fun hr => ⟨(hc.ascending hr).sorted, fun b hb => ?_,
    fun M N => (hc.ascending hr).length_le⟩,
    fun rely w => ⟨Ends.total _ w, fun x w' hends => ?_⟩⟩
  · have hfits := (hc.ascending hr).fits b hb
    exact ⟨hfits.round, hfits.index⟩
  · rw [ends_advanceTurnOrRound] at hends
    cases ha : w.advance r with
    | none =>
      rw [ha] at hends
      exact .inl hends
    | some a =>
      rw [ha] at hends
      obtain ⟨k, hk, rfl | rfl⟩ := advance_iterate w r a ha
      · exact .inr ⟨k, hk, .inl hends⟩
      · exact .inr ⟨k, hk, .inr hends⟩

/-- The second turn of a game of two players. -/
theorem game_ends_sample : ∃ c, (worker sampleEnv).Run Loop.anyEvent (startConfig sampleWorld) c ∧
    (begun 0 c.trace).length = 1 ∧
    (begun 0 c.trace).Pairwise fun a b => a.place < b.place := by
  have hplay : ((worker sampleEnv).play Loop.anyEvent (startConfig sampleWorld)
      (sampleTurn 2 ++ [(.call (.guess (.uuid 1) "cat"), [])])).any (fun c =>
        (begun 0 c.trace).length = 1 ∧ 0 < c.state.nextRoom) = true := by
    decide +kernel
  obtain ⟨c, hrun, hidle, hc⟩ := Loop.exists_run_of_play rfl hplay
  obtain ⟨hlength, hr⟩ := of_decide_eq_true hc
  exact ⟨c, hrun, hlength, ((game_ends hrun hidle 0).1 hr).1⟩

end Skribbl.Backend
