import Skribbl.Backend.Chronicle
import Skribbl.Backend.Hints
import Skribbl.Backend.Scoring
import Skribbl.Backend.Settings

/-!
# What holds of every room of a worker

* `Room.Lawful` — the custom words of a room are sane, and its hint shows the word of its turn.
* `LawfulStep` — what a step may do: settings change in the lobby, a turn keeps its word and its
  drawer and its hint only gains characters, and a score grows by at most 750 or is reset.
* `Rematched` — a room comes back to the lobby only once its game is over.
* `lawful`, `rematching` — the guarantees that state and step are such.

Principal results: `settings_of_run`, `hints_of_run`, `credits_of_run` — so it is in every run
without restored rooms, for any interleaving of its calls and tasks; `settings_frozen` — so the
settings of a room stay from the start of a game to its end.
-/

set_option autoImplicit false
set_option synthInstance.maxSize 100000

namespace Skribbl.Backend

open Coro

variable {env : Env} {r : RoomId} {p : PlayerId} {w₀ w w' : World}

/-! ## The laws -/

/-- The words of the room are sane, and its hint shows the word; `nextTurn` is the number of the
next turn. -/
structure Room.Lawful (env : Env) (nextTurn : Nat) (room : Room) : Prop where
  words : (∃ isspace, env.Strips isspace) → SaneWords env room.config.customWords
  shows : ∀ t, room.turn = some t → t.turnId < nextTurn ∧ Shows t.word t.hint

/-- So it is in every room. -/
def World.Lawful (env : Env) (w : World) : Prop := ∀ r < w.nextRoom,
    (w.room r).Lawful env w.nextTurn

/-- The turn has the same word and drawer, and its hint shows all that it has shown. -/
structure Reveal (t t' : TurnState) : Prop where
  word : t'.word = t.word
  drawerId : t'.drawerId = t.drawerId
  hint : ∀ i : Nat, t.hint[i]? ≠ some '_' → t'.hint[i]? = t.hint[i]?

/-- What a step may do to the rooms that there are, and to their players. -/
structure LawfulStep (w w' : World) : Prop where
  config : ∀ r < w.nextRoom, (w'.room r).config ≠ (w.room r).config → (w.room r).state = .lobby
  turn : ∀ r < w.nextRoom, ∀ t t', (w.room r).turn = some t → (w'.room r).turn = some t' →
    t'.turnId = t.turnId → Reveal t t'
  score : ∀ r < w.nextRoom, ∀ p, w.Known p → (w'.player r p).score = 0 ∨
    (w.player r p).score ≤ (w'.player r p).score ∧
      (w'.player r p).score ≤ (w.player r p).score + 750

/-- Rooms stay lawful, and so is every change. -/
def lawful (env : Env) : Guarantee World Mark where
  ok e _ := e.isRestore = false
  inv := World.Lawful env
  change := LawfulStep
  rely _ _ := True
  refl _ := trivial
  trans _ _ := trivial

/-- The turn is the same but for the guesses and its tasks. -/
structure SameTurn (t t' : TurnState) : Prop where
  turnId : t'.turnId = t.turnId
  word : t'.word = t.word
  drawerId : t'.drawerId = t.drawerId
  hint : t'.hint = t.hint

theorem SameTurn.refl (t : TurnState) : SameTurn t t := ⟨rfl, rfl, rfl, rfl⟩

theorem SameTurn.reveal {t t' : TurnState} (h : SameTurn t t') : Reveal t t' :=
  ⟨h.word, h.drawerId, fun _ _ => by rw [h.hint]⟩

/-- The rooms have the same settings and scores, and no other turns. -/
structure SameLaws (w w' : World) : Prop where
  nextRoom : w'.nextRoom = w.nextRoom
  nextTurn : w.nextTurn ≤ w'.nextTurn
  config : ∀ r < w.nextRoom, (w'.room r).config = (w.room r).config
  turn : ∀ r < w.nextRoom, ∀ t', (w'.room r).turn = some t' →
    ∃ t, (w.room r).turn = some t ∧ SameTurn t t'
  score : ∀ r < w.nextRoom, ∀ p, w.Known p → (w'.player r p).score = (w.player r p).score

/-- A change of the score alone. -/
theorem SameLaws.lawful (h : SameLaws w w') (hw : w.Lawful env) :
    w'.Lawful env ∧ LawfulStep w w' := by
  refine ⟨fun r hr => ?_, fun r hr hne => absurd (h.config r hr) hne, fun r hr t t' ht ht' _ => ?_,
    fun r hr p hp => .inr (by rw [h.score r hr p hp]; omega)⟩
  · rw [h.nextRoom] at hr
    refine ⟨h.config r hr ▸ (hw r hr).words, fun t' ht' => ?_⟩
    obtain ⟨t, ht, hsame⟩ := h.turn r hr t' ht'
    obtain ⟨hlt, hshows⟩ := (hw r hr).shows t ht
    rw [hsame.turnId, hsame.word, hsame.hint]
    exact ⟨Nat.lt_of_lt_of_le hlt h.nextTurn, hshows⟩
  · obtain ⟨t₁, ht₁, hsame⟩ := h.turn r hr t' ht'
    obtain rfl := Option.some.inj (ht.symm.trans ht₁)
    exact hsame.reveal

/-! ## Assignments -/

/-- The assignment makes a room or a turn, or is to what the laws are about. -/
@[reducible] def RoomUpdate.bends : RoomUpdate → Bool
  | .config _ => true
  | .hint _ _ => true
  | .hostId _ => false
  | .addPlayer _ => false
  | .removePlayer _ => false
  | .playersById _ => false
  | .state _ => false
  | .currentRound _ => false
  | .drawerIndex _ => false
  | .clearTurn => false
  | .guessOrder _ => false
  | .turnTasks _ _ _ _ => false
  | .selectWord _ => false
  | .forgetWords => false
  | .wordPool _ => false
  | .pendingWordChoices _ => false
  | .autoSelectTask _ => false
  | .insufficientPlayersTask _ => false
  | .pendingJoinRequests _ => false
  | .pendingSpectatorRoleRequests _ => false

@[reducible] def PlayerUpdate.bends : PlayerUpdate → Bool
  | .score _ => true
  | .name _ => false
  | .hasGuessed _ => false
  | .guessTime _ => false
  | .isReady _ => false
  | .avatar _ => false
  | .connect _ => false
  | .disconnect _ => false
  | .cleanupTask _ => false
  | .hostReassignTask _ => false
  | .sessionScore _ => false
  | .sessionWins _ => false
  | .sessionGames _ => false
  | .streak _ => false
  | .maxStreak _ => false
  | .correctGuessesCount _ => false
  | .fastestGuessTime _ => false
  | .drawerPointsEarned _ => false
  | .isSpectator _ => false
  | .becomePlayerRequestsCount _ => false

@[reducible] def Update.bends : Update → Bool
  | .room _ u => u.bends
  | .player _ _ u => u.bends
  | .newRoom _ _ => true
  | .newTurn _ _ => true
  | .newPlayer _ _ => false
  | .uuid4 => false
  | .createTask _ _ => false
  | .cancel _ => false
  | .rooms _ => false
  | .playerToRoom _ _ => false
  | .transport _ _ => false
  | .wsToPlayer _ _ => false
  | .wsToPendingRequest _ _ => false
  | .pendingJoinRequests _ => false
  | .pendingSpectatorRoleRequests _ => false
  | .activeVoteKicks _ _ => false
  | .voteKickCooldowns _ _ => false
  | .snapshots _ _ => false
  | .oracle _ => false
  | .send _ => false
  | .sleep _ => false

theorem RoomUpdate.sameLaws {u : RoomUpdate} (hu : u.bends = false) (room : Room) :
    (u.apply room).config = room.config ∧ ∀ t', (u.apply room).turn = some t' →
      ∃ t, room.turn = some t ∧ SameTurn t t' := by
  cases u with
  | config c => cases hu
  | hint turnId h => cases hu
  | clearTurn => exact ⟨rfl, fun t' ht' => nomatch ht'⟩
  | guessOrder p =>
    refine ⟨rfl, fun t' ht' => ?_⟩
    obtain ⟨t, ht, rfl⟩ := Option.map_eq_some_iff.mp ht'
    exact ⟨t, ht, rfl, rfl, rfl, rfl⟩
  | turnTasks turnId a b c =>
    refine ⟨rfl, fun t' ht' => ?_⟩
    obtain ⟨t, ht, rfl⟩ := Option.map_eq_some_iff.mp ht'
    refine ⟨t, ht, ?_⟩
    split
    · exact ⟨rfl, rfl, rfl, rfl⟩
    · exact .refl t
  | _ => exact ⟨rfl, fun t' ht' => ⟨t', ht', .refl t'⟩⟩

theorem PlayerUpdate.sameScore {u : PlayerUpdate} (hu : u.bends = false) (player : Player) :
    (u.apply player).score = player.score := by
  cases u with
  | score n => cases hu
  | _ => rfl

/-- **An assignment to anything else** leaves the settings, the turns and the scores alone. -/
theorem sameLaws_of_update {u : Update} (hu : u.bends = false) (w : World) :
    SameLaws w (u.apply w) := by
  have hturn : ∀ r < w.nextRoom, ∀ t', (w.room r).turn = some t' →
      ∃ t, (w.room r).turn = some t ∧ SameTurn t t' := fun r _ t' ht' => ⟨t', ht', .refl t'⟩
  cases u with
  | newRoom x members => cases hu
  | newTurn r make => cases hu
  | room r u =>
    refine ⟨rfl, Nat.le_refl _, fun r' _ => ?_, fun r' _ t' ht' => ?_, fun _ _ _ _ => rfl⟩
    · by_cases hr : r' = r
      · subst hr
        simpa [Update.apply] using (u.sameLaws hu (w.room r')).1
      · simp [Update.apply, Function.update_of_ne hr]
    · by_cases hr : r' = r
      · subst hr
        refine (u.sameLaws hu (w.room r')).2 t' ?_
        simpa [Update.apply] using ht'
      · refine ⟨t', ?_, .refl t'⟩
        simpa [Update.apply, Function.update_of_ne hr] using ht'
  | player r p u =>
    refine ⟨rfl, Nat.le_refl _, fun _ _ => rfl, hturn, fun r' _ p' _ => ?_⟩
    by_cases h : r' = r ∧ p' = p
    · obtain ⟨rfl, rfl⟩ := h
      simpa [Update.apply] using u.sameScore hu (w.player r' p')
    · simp [Update.apply, h]
  | newPlayer r make =>
    refine ⟨rfl, Nat.le_refl _, fun _ _ => rfl, hturn, fun r' _ p' hp' => ?_⟩
    have h : ¬(r' = r ∧ p' = .uuid w.nextUuid) := by
      rintro ⟨-, rfl⟩
      exact lt_irrefl _ hp'
    simp [Update.apply, h]
  | _ => exact ⟨rfl, Nat.le_refl _, fun _ _ => rfl, hturn, fun _ _ _ _ => rfl⟩

theorem holds_lawful (h : w'.Lawful env ∧ LawfulStep w w') :
    LawfulStep w w' ∧ (lawful env).Holds w₀ w' := ⟨h.2, h.1, trivial⟩

instance (u : Update) [h : Untold u.bends] : Guarded (lawful env) (put u) where
  out hw := holds_lawful ((sameLaws_of_update h.out _).lawful hw.inv)

/-- The parts of the state that no law is about. -/
abbrev lawlessEffs : List Eff :=
  [.members, .state, .timers, .pending, .autoSelect, .countdown, .players, .connection, .cleanup,
    .guessed, .spectator, .names, .roles, .clock, .disconnecting, .raises]

theorem sameLaws_of_fp (h : (fp lawlessEffs).change w w') : SameLaws w w' where
  nextRoom := (same_of_fp h .rooms (by decide)).world.2
  nextTurn := h.1.nextTurn
  config r hr := ((same_of_fp h .schedule (by decide)).room r hr).2.2
  turn r hr t' ht' := ⟨t', (same_of_fp h .turn (by decide)).room r hr ▸ ht', .refl t'⟩
  score r hr p hp := ((same_of_fp h .ending (by decide)).player r hr p hp).1

instance (priority := low) {α : Type} (c : M α) [hc : Within (fp lawlessEffs) c] :
    Guarded (lawful env) c :=
  .of_within hc fun _ _ _ hchange hw =>
    (holds_lawful ((sameLaws_of_fp hchange).lawful hw.inv)).symm

/-! ## Settings, rooms, turns and hints -/

/-- A change of one room. -/
theorem lawful_of_room {room : Room} (hw : w.Lawful env) (hnextRoom : w'.nextRoom = w.nextRoom)
    (hnextTurn : w.nextTurn ≤ w'.nextTurn) (hroom : w'.room = Function.update w.room r room)
    (hplayer : w'.player = w.player) (hlawful : r < w.nextRoom → room.Lawful env w'.nextTurn)
    (hconfig : r < w.nextRoom → room.config ≠ (w.room r).config → (w.room r).state = .lobby)
    (hturn : r < w.nextRoom → ∀ t t', (w.room r).turn = some t → room.turn = some t' →
      t'.turnId = t.turnId → Reveal t t') :
    w'.Lawful env ∧ LawfulStep w w' := by
  have hother : ∀ r' ≠ r, w'.room r' = w.room r' := fun r' hr => by
    rw [hroom, Function.update_of_ne hr]
  have hsame : w'.room r = room := by rw [hroom, Function.update_self]
  refine ⟨fun r' hr' => ?_, fun r' hr' hne => ?_, fun r' hr' t t' ht ht' heq => ?_,
    fun r' _ p _ => ?_⟩
  · rw [hnextRoom] at hr'
    by_cases hr : r' = r
    · subst hr
      rw [hsame]
      exact hlawful hr'
    · rw [hother r' hr]
      exact ⟨(hw r' hr').words, fun t ht =>
        ⟨Nat.lt_of_lt_of_le ((hw r' hr').shows t ht).1 hnextTurn, ((hw r' hr').shows t ht).2⟩⟩
  · by_cases hr : r' = r
    · subst hr
      rw [hsame] at hne
      exact hconfig hr' hne
    · exact absurd (congrArg Room.config (hother r' hr)) hne
  · by_cases hr : r' = r
    · subst hr
      rw [hsame] at ht'
      exact hturn hr' t t' ht ht' heq
    · rw [hother r' hr, ht] at ht'
      obtain rfl := Option.some.inj ht'
      exact (SameTurn.refl t).reveal
  · rw [hplayer]
    omega

/-- New settings, given in the lobby. -/
theorem lawful_config {config : GameConfig} (hw : w.Lawful env) (hlobby : (w.room r).state = .lobby)
    (hwords : r < w.nextRoom → (∃ isspace, env.Strips isspace) → SaneWords env config.customWords) :
    ((Update.room r (.config config)).apply w).Lawful env ∧
      LawfulStep w ((Update.room r (.config config)).apply w) := by
  refine lawful_of_room hw rfl (Nat.le_refl _) rfl rfl (fun hr => ⟨hwords hr, (hw r hr).shows⟩)
    (fun _ _ => hlobby) fun _ t t' ht ht' _ => ?_
  obtain rfl := Option.some.inj (ht.symm.trans ht')
  exact (SameTurn.refl t).reveal

/-- A turn that begins with a hint that shows its word. -/
theorem lawful_newTurn {make : Nat → TurnState} (hid : (make w.nextTurn).turnId = w.nextTurn)
    (hshows : Shows (make w.nextTurn).word (make w.nextTurn).hint) (hw : w.Lawful env) :
    ((Update.newTurn r make).apply w).Lawful env ∧
    LawfulStep w ((Update.newTurn r make).apply w) := by
  refine lawful_of_room hw rfl (Nat.le_succ _) rfl rfl (fun hr => ⟨(hw r hr).words, fun t ht => ?_⟩)
    (fun _ hne => absurd rfl hne) fun hr t t' ht ht' heq => ?_
  · obtain rfl := Option.some.inj ht
    exact ⟨Nat.lt_succ_of_le (Nat.le_of_eq hid), hshows⟩
  · -- the number of a turn is never used again
    obtain rfl := Option.some.inj ht'
    have hlt := ((hw r hr).shows t ht).1
    rw [← heq, hid] at hlt
    exact absurd hlt (Nat.lt_irrefl _)

/-- A hint that comes of the old one by a call of `reveal_hint_char`. -/
theorem lawful_hint {turn : TurnState} {hint : List Char} (hw : w.Lawful env)
    (hturn : (w.room r).turn = some turn) (hreveals : Reveals turn.word turn.hint hint) :
    ((Update.room r (.hint turn.turnId hint)).apply w).Lawful env ∧
      LawfulStep w ((Update.room r (.hint turn.turnId hint)).apply w) := by
  have hnew : (((w.room r).onTurn turn.turnId fun t => { t with hint := hint }).turn) =
      some { turn with hint := hint } := by
    unfold Room.onTurn
    simp [hturn]
  have hkeeps : r < w.nextRoom → Shows turn.word hint ∧
      ∀ i : Nat, turn.hint[i]? ≠ some '_' → hint[i]? = turn.hint[i]? :=
    fun hr => ((hw r hr).shows turn hturn).2.reveals hreveals
  refine lawful_of_room hw rfl (Nat.le_refl _) rfl rfl (fun hr => ⟨(hw r hr).words, fun t ht => ?_⟩)
    (fun _ hne => absurd rfl hne) fun hr t t' ht ht' _ => ?_
  · obtain rfl := Option.some.inj (hnew.symm.trans ht)
    exact ⟨((hw r hr).shows turn hturn).1, (hkeeps hr).1⟩
  · obtain rfl := Option.some.inj (hnew.symm.trans ht')
    obtain rfl := Option.some.inj (hturn.symm.trans ht)
    exact ⟨rfl, rfl, (hkeeps hr).2⟩

/-- A new room, without words and without a turn. -/
theorem lawful_newRoom {x : Room} (hwords : x.config.customWords = []) (hturn : x.turn = none)
    (members : PlayerId → Player) (hw : w.Lawful env) :
    ((Update.newRoom x members).apply w).Lawful env ∧
      LawfulStep w ((Update.newRoom x members).apply w) := by
  have hroom : ∀ r < w.nextRoom, ((Update.newRoom x members).apply w).room r = w.room r :=
    fun r hr => Function.update_of_ne hr.ne _ _
  have hplayer : ∀ r < w.nextRoom, ((Update.newRoom x members).apply w).player r = w.player r :=
    fun r hr => Function.update_of_ne hr.ne _ _
  refine ⟨fun r hr => ?_, fun r hr hne => ?_, fun r hr t t' ht ht' _ => ?_, fun r hr p _ => ?_⟩
  · rcases Nat.lt_or_eq_of_le (Nat.le_of_lt_succ hr) with hlt | rfl
    · rw [hroom r hlt]
      exact hw r hlt
    · have hnew : ((Update.newRoom x members).apply w).room w.nextRoom = x :=
        Function.update_self ..
      rw [hnew]
      refine ⟨fun _ => ?_, fun t ht => ?_⟩
      · rw [hwords]
        exact ⟨Nat.zero_le _, fun _ h => (nomatch h), fun _ h => (nomatch h), .nil⟩
      · rw [hturn] at ht
        cases ht
  · exact absurd (congrArg Room.config (hroom r hr)) hne
  · rw [hroom r hr, ht] at ht'
    obtain rfl := Option.some.inj ht'
    exact (SameTurn.refl t).reveal
  · rw [hplayer r hr]
    omega

/-- A score that grows by at most 750, or is reset. -/
theorem lawful_score {n : Int} (hn : n = 0 ∨ (w.player r p).score ≤ n ∧ n ≤
    (w.player r p).score + 750)
    (hw : w.Lawful env) : ((Update.player r p (.score n)).apply w).Lawful env ∧
      LawfulStep w ((Update.player r p (.score n)).apply w) := by
  refine ⟨hw, fun _ _ hne => absurd rfl hne, fun _ _ t t' ht ht' _ => ?_, fun r' _ p' _ => ?_⟩
  · obtain rfl := Option.some.inj (ht.symm.trans ht')
    exact (SameTurn.refl t).reveal
  · by_cases h : r' = r ∧ p' = p
    · obtain ⟨rfl, rfl⟩ := h
      simpa [Update.apply, PlayerUpdate.apply] using hn
    · simp [Update.apply, h]

/-! ## The functions that make them -/

instance (r : RoomId) (p : PlayerId) : Guarded (lawful env) (put (.player r p (.score 0))) where
  out hw := holds_lawful (lawful_score (.inl rfl) hw.inv)

instance (r : RoomId) (v : World) (drawerId : PlayerId) (word : String) :
    Guarded (lawful env) (put (.newTurn r (makeTurn env v r drawerId word))) where
  out hw := holds_lawful (lawful_newTurn rfl (shows_initial word) hw.inv)

instance (x : RoomSnapshot) : Guarded (lawful env) (restoreRoom x) :=
  guarded_restoreRoom (fun _ _ _ _ => by simp [lawful, Mark.isRestore]) x

theorem guards_revealHintChar {hint : List Char} {word : String}
    {Q : List Char → World → World → Prop}
    (h : (lawful env).Holds w₀ w)
    (hQ : ∀ hint' w', Reveals word hint hint' → w'.room = w.room → (lawful env).Holds w₀ w' →
      Q hint' w₀ w') : (revealHintChar hint word).Guards (lawful env) Q w₀ w := by
  have hcall : revealHintChar hint word = if (unrevealed hint).length ≤ 1 then return hint
      else (choice (unrevealed hint) >>= fun i => return hint.set i (word.toList.getD i '_')) := rfl
  rw [hcall, guards_ite]
  refine ⟨fun hle => hQ hint w (reveals_iff.mpr (.inl ⟨hle, rfl⟩)) rfl h, fun hlt => ?_⟩
  have hput := (sameLaws_of_update (u := .oracle w.oracle.tail) rfl w).lawful h.inv
  unfold choice randrange
  simp only [guards_bind, guards_read, guards_put, guards_pure]
  refine ⟨hput.2, ?_⟩
  rw [guards_elim]
  exact ⟨fun _ => ⟨hput.1, trivial⟩, fun i hi =>
    hQ _ _ (reveals_iff.mpr (.inr ⟨Nat.lt_of_not_le hlt, i, List.mem_of_getElem? hi, rfl⟩)) rfl
      ⟨hput.1, trivial⟩⟩

instance (r : RoomId) (turnId : Nat) : Guarded (lawful env) (revealHint r turnId) where
  out h := by
    unfold revealHint
    rw [guards_bind, guards_readRoom, guards_elim]
    refine ⟨fun _ => h, fun turn hturn => ?_⟩
    unfold Coro.when
    rw [guards_ite]
    refine ⟨fun hcond => ?_, fun _ => h⟩
    obtain ⟨rfl, -⟩ := hcond
    refine guards_bind.mpr (guards_revealHintChar h fun hint' w' hreveals hroom h' => ?_)
    have hhint := lawful_hint (r := r) h'.inv (by rw [hroom]; exact hturn) hreveals
    rw [guards_bind, guards_put]
    exact ⟨hhint.2, Guarded.out ⟨hhint.1, trivial⟩⟩

/-- The scores of the guessers are credits. -/
theorem guards_scoreGuessers (turn : TurnState) (duration : ℚ) (position : Nat) (ps : List PlayerId)
    (h : (lawful env).Holds w₀ w) : (scoreGuessers r turn duration position ps).Guards (lawful env)
      (fun l w₀ w => (lawful env).Holds w₀ w ∧ ∀ x ∈ l, 0 ≤ x.2 ∧ x.2 ≤ 750) w₀ w := by
  induction ps generalizing position w₀ w with
  | nil => exact ⟨h, fun x hx => nomatch hx⟩
  | cons q ps ih =>
    unfold scoreGuessers
    refine guards_bind.mpr ((Guarded.out h).mono fun found w₁ w h => ?_)
    rw [guards_elim]
    refine ⟨fun _ => ih _ h, fun q _ => ?_⟩
    dsimp only
    rw [guards_bind, guards_read]
    obtain ⟨hlo, hhi⟩ := computeGuesserScore_bounds
      (max 0 (min ((w.player r q).guessTime.getD w.now - turn.startTime) duration)) duration
          position
    have hscore : ((Update.player r q (.score _)).apply w).Lawful env ∧ LawfulStep w _ :=
      lawful_score
      (.inr ⟨Int.le_add_of_nonneg_right (by omega),
        Int.add_le_add_left hhi (w.player r q).score⟩) h.inv
    rw [guards_bind, guards_put]
    refine ⟨hscore.2, ?_⟩
    refine guards_bind.mpr ((Guarded.out ⟨hscore.1, trivial⟩).mono fun _ w₁ w h => ?_)
    refine guards_bind.mpr ((Guarded.out h).mono fun _ w₁ w h => ?_)
    refine guards_bind.mpr ((Guarded.out h).mono fun _ w₁ w h => ?_)
    refine guards_bind.mpr ((Guarded.out h).mono fun _ w₁ w h => ?_)
    refine guards_bind.mpr ((Guarded.out h).mono fun _ w₁ w h => ?_)
    refine guards_bind.mpr ((ih _ h).mono fun l w₁ w hl => ?_)
    refine ⟨hl.1, fun x hx => ?_⟩
    rcases List.mem_cons.mp hx with rfl | hx
    · exact ⟨by omega, hhi⟩
    · exact hl.2 x hx

theorem computeDrawerBonus_credit {l : List Int} (h : ∀ a ∈ l, 0 ≤ a ∧ a ≤ 750) :
    0 ≤ computeDrawerBonus l ∧ computeDrawerBonus l ≤ 750 := by
  by_cases hl : l = []
  · rw [hl]
    decide
  · exact computeDrawerBonus_le hl (fun a ha => (h a ha).1) fun a ha => (h a ha).2

instance (r : RoomId) (turn : TurnState) (duration : ℚ) :
    Guarded (lawful env) (scoreTurn r turn duration) where
  out h := by
    unfold scoreTurn
    refine guards_bind.mpr ((guards_scoreGuessers turn duration 1 _ h).mono
      fun scores w₁ w hl => ?_)
    obtain ⟨h, hcredits⟩ := hl
    have hbonus := computeDrawerBonus_credit (l := scores.map (·.2)) fun a ha => by
      obtain ⟨x, hx, rfl⟩ := List.mem_map.mp ha
      exact hcredits x hx
    rw [guards_bind, guards_readRoom]
    refine guards_bind.mpr ((Guarded.out h).mono fun _ w₁ w h => ?_)
    dsimp only
    refine guards_bind.mpr ((Guarded.out h).mono fun found w₁ w h => ?_)
    rw [guards_elim]
    refine ⟨fun _ => h, fun p _ => ?_⟩
    rw [guards_bind, guards_readPlayer, guards_bind, guards_put]
    have hscore : ((Update.player r p (.score _)).apply w).Lawful env ∧ LawfulStep w _ :=
      lawful_score
      (.inr ⟨Int.le_add_of_nonneg_right hbonus.1,
        Int.add_le_add_left hbonus.2 (w.player r p).score⟩)
      h.inv
    exact ⟨hscore.2, Guarded.out ⟨hscore.1, trivial⟩⟩

instance (p : PlayerId) (settings : List (String × Value)) :
    Guarded (lawful env) (updateSettings env p settings) where
  out h := by
    unfold updateSettings
    refine guards_bind.mpr ((Guarded.out h).mono fun o w₁ w h => ?_)
    rw [guards_elim]
    refine ⟨fun _ => h, fun r _ => ?_⟩
    dsimp only
    rw [guards_bind, guards_readRoom, guards_ite]
    refine ⟨fun _ => h, fun _ => ?_⟩
    rw [guards_ite]
    refine ⟨fun _ => h, fun hlobby => ?_⟩
    rw [guards_elim]
    refine ⟨fun _ => ?_, fun _ _ => h⟩
    have hconfig := lawful_config h.inv (not_not.mp hlobby) fun hr hstrips => by
      obtain ⟨isspace, henv⟩ := hstrips
      exact saneWords_applySettings henv settings ((h.inv r hr).words ⟨isspace, henv⟩)
    rw [guards_bind, guards_put]
    exact ⟨hconfig.2, Guarded.out ⟨hconfig.1, trivial⟩⟩

instance (draws : List String) (name : String) (ws : WsId) (avatar password : Option String)
    (maxPlayers : Option Int) :
    Guarded (lawful env) (createRoom env draws name ws avatar password maxPlayers) := by
  have hroom : ∀ (code : String) (password : Option String) (maxPlayers : InRange 2 12),
      Guarded (lawful env) (put (.newRoom
        { code := code, hostId := .other "", config :=
          { password := password, maxPlayers := maxPlayers } } fun p => { id := p, name := "" })) :=
    fun _ _ _ => ⟨fun hw => holds_lawful (lawful_newRoom rfl rfl _ hw.inv)⟩
  unfold createRoom
  dsimp only
  infer_instance

section Functions

variable (env)

/-! ### Turns and rounds -/

instance (r : RoomId) : Guarded (lawful env) (endGameInsufficientPlayersImmediate r) := by
  unfold endGameInsufficientPlayersImmediate; infer_instance

instance (r : RoomId) : Guarded (lawful env) (endAfterWait r) := by
    unfold endAfterWait; infer_instance

instance (r : RoomId) (drawerId : PlayerId) (word : String) :
    Guarded (lawful env) (beginTurn env r drawerId word) := by unfold beginTurn; infer_instance

instance (r : RoomId) (turnId : Nat) (duration : ℚ) :
    Guarded (lawful env) (createTurnTasks r turnId duration) := by
  unfold createTurnTasks; infer_instance

instance (r : RoomId) (room : Room) (turn : TurnState) :
    Guarded (lawful env) (announceTurn r room turn) := by unfold announceTurn; infer_instance

instance (r : RoomId) (p : PlayerId) (word : String) :
    Guarded (lawful env) (handleWordSelection env r p word) := by
  unfold handleWordSelection; infer_instance

instance (r : RoomId) (drawerId : PlayerId) : Guarded (lawful env) (autoSelect env r drawerId) := by
  unfold autoSelect; infer_instance

instance (r : RoomId) : Guarded (lawful env) (nextDrawer r) := by unfold nextDrawer; infer_instance

instance (r : RoomId) (attempts : Nat) : Guarded (lawful env) (skipPlayers env r attempts) := by
  induction attempts with
  | zero => unfold skipPlayers; infer_instance
  | succ attempts ih => unfold skipPlayers; infer_instance

instance (r : RoomId) : Guarded (lawful env) (advanceTurnOrRound env r) := by
  unfold advanceTurnOrRound; infer_instance

instance (r : RoomId) (turn : TurnState) (duration : ℚ) (reason : TurnEndReason) :
    Guarded (lawful env) (turnScores r turn duration reason) := by unfold turnScores; infer_instance

instance (r : RoomId) (code : String) (duration : ℚ) (turn : TurnState) (reason : TurnEndReason) :
    Guarded (lawful env) (finishTurn env r code duration turn reason) := by
  unfold finishTurn; infer_instance

instance (r : RoomId) (reason : TurnEndReason) : Guarded (lawful env) (endTurn env r reason) := by
  unfold endTurn; infer_instance

instance (r : RoomId) (turnId : Nat) : Guarded (lawful env) (turnTimer env r turnId) := by
  unfold turnTimer; infer_instance

instance (r : RoomId) : Guarded (lawful env) (endTurnIfAllGuessed env r) := by
  unfold endTurnIfAllGuessed; infer_instance

instance (r : RoomId) (p : PlayerId) : Guarded (lawful env) (correctGuess env r p) := by
  unfold correctGuess; infer_instance

instance (r : RoomId) (p : PlayerId) (text : String) :
    Guarded (lawful env) (handleGuess env r p text) := by
  unfold handleGuess; infer_instance

/-! ### Members -/

instance (code : String) : Guarded (lawful env) (deleteRoom code) := by
    unfold deleteRoom; infer_instance

instance (code : String) : Guarded (lawful env) (adoptSnapshot code) := by
  unfold adoptSnapshot; infer_instance

instance (name code : String) (ws : WsId) (avatar : Option String) (asSpectator : Bool)
    (password : Option String) (remote : Option Message) :
    Guarded (lawful env) (joinRoom env name code ws avatar asSpectator password remote) := by
  unfold joinRoom; infer_instance

instance (p : PlayerId) : Guarded (lawful env) (removePlayer p) := by
    unfold removePlayer; infer_instance

instance (p : PlayerId) : Guarded (lawful env) (leaveRoom p) := by unfold leaveRoom; infer_instance

instance (r : RoomId) (wasDrawer : Bool) :
    Guarded (lawful env) (afterVoteKick env r wasDrawer) := by
  unfold afterVoteKick; infer_instance

instance (r : RoomId) (p : PlayerId) : Guarded (lawful env) (executeVoteKickPassed env r p) := by
  unfold executeVoteKickPassed; dsimp only; infer_instance

instance (p q : PlayerId) : Guarded (lawful env) (startVoteKick env p q) := by
  unfold startVoteKick; dsimp only; infer_instance

instance (r : RoomId) (p : PlayerId) : Guarded (lawful env) (kickTarget env r p) := by
  unfold kickTarget; infer_instance

instance (p : PlayerId) (yes : Bool) : Guarded (lawful env) (castVoteKick env p yes) := by
  unfold castVoteKick; dsimp only; infer_instance

instance (r : RoomId) (p : PlayerId) : Guarded (lawful env) (voteKickOnDisconnect env r p) := by
  unfold voteKickOnDisconnect; dsimp only; infer_instance

/-! ### Connections -/

instance (r : RoomId) (p : PlayerId) : Guarded (lawful env) (hostOnDisconnect r p) := by
  unfold hostOnDisconnect; infer_instance

instance (code : String) (p : PlayerId) :
    Guarded (lawful env) (reassignHostIfDisconnected code p) := by
  unfold reassignHostIfDisconnected; infer_instance

instance (name code : String) (ws : WsId) (avatar : Option String) :
    Guarded (lawful env) (handleReconnect name code ws avatar) := by
  unfold handleReconnect; dsimp only; infer_instance

instance (p : PlayerId) : Guarded (lawful env) (permanentlyRemovePlayer p) := by
  unfold permanentlyRemovePlayer; infer_instance

instance (r : RoomId) (p : PlayerId) : Guarded (lawful env) (gameOnDisconnect env r p) := by
  unfold gameOnDisconnect; infer_instance

instance (p : PlayerId) : Guarded (lawful env) (handleDisconnect env p) := by
  unfold handleDisconnect; infer_instance

instance (ws : WsId) (p : Option PlayerId) : Guarded (lawful env) (websocketClosed env ws p) := by
  unfold websocketClosed; dsimp only; infer_instance

instance (p : PlayerId) : Guarded (lawful env) (clientDisconnected env p) := by
  unfold clientDisconnected; infer_instance

instance (l : List PlayerId) : Guarded (lawful env) (cleanupStream env l) := by
  unfold cleanupStream; infer_instance

/-! ### The lobby -/

instance (r : RoomId) (p : PlayerId) : Guarded (lawful env) (resetPlayer r p) := by
  unfold resetPlayer; infer_instance

instance (p : PlayerId) : Guarded (lawful env) (handleRematch p) := by
  unfold handleRematch; dsimp only; infer_instance

instance (p : PlayerId) : Guarded (lawful env) (startGame p) := by
  unfold startGame; dsimp only; infer_instance

instance (p : PlayerId) (ws : WsId) : Guarded (lawful env) (startGameAndTurn env p ws) := by
  unfold startGameAndTurn; infer_instance

instance (p : PlayerId) (ws : WsId) : Guarded (lawful env) (endGameNow p ws) := by
  unfold endGameNow; infer_instance

instance (r : RoomId) (p : PlayerId) (requestId : RequestId) :
    Guarded (lawful env) (promoteSpectator r p requestId) := by
  unfold promoteSpectator; infer_instance

instance (p : PlayerId) (requestId : RequestId) (action : String) :
    Guarded (lawful env) (respondSpectatorRoleRequest p requestId action) := by
  unfold respondSpectatorRoleRequest; infer_instance

/-! ### Calls -/

instance (ws : WsId) (c : M Message) [Guarded (lawful env) c] :
    Guarded (lawful env) (answerIdentity ws c) := by unfold answerIdentity; infer_instance

instance (ws : WsId) (c : M Message) [Guarded (lawful env) c] :
    Guarded (lawful env) (answer ws c) := by
  unfold answer; infer_instance

instance (ws : WsId) (c : M Message) [Guarded (lawful env) c] :
    Guarded (lawful env) (answerError ws c) := by unfold answerError; infer_instance

instance (o : Op) : Guarded (lawful env) (o.call env) := by
  cases o <;> unfold Op.call <;> dsimp only <;> infer_instance

instance (r : RoomId) (code name : String) (avatar : Option String) (isSpectator : Bool) :
    Guarded (lawful env) (admitRemote r code name avatar isSpectator) := by
  unfold admitRemote; infer_instance

instance (o : OwnerOp) : Guarded (lawful env) (o.call env) := by
  cases o <;> unfold OwnerOp.call
  · dsimp only; infer_instance
  · unfold handleRpcJoin
    dsimp only
    infer_instance

instance (t : TaskId) : Guarded (lawful env) (taskBody env t) := by
  obtain ⟨kind, n⟩ := t
  cases kind <;> unfold taskBody <;> dsimp only <;> infer_instance

end Functions

theorem sameLaws_setStatus (t : TaskId) (status : TaskStatus) (w : World) :
    SameLaws w (w.setStatus t status) :=
  ⟨rfl, Nat.le_refl _, fun _ _ => rfl, fun _ _ t' ht' => ⟨t', ht', .refl t'⟩, fun _ _ _ _ => rfl⟩

/-- Everything keeps rooms lawful. -/
theorem owner_lawful (env : Env) : (owner env).Guards (lawful env) :=
  .of_body (fun o => inferInstanceAs (Guarded (lawful env) (o.call env)))
    (fun t => inferInstanceAs (Guarded (lawful env) (taskBody env t)))
    (fun t _ w hw => (holds_lawful ((sameLaws_setStatus t .running w).lawful hw.inv)).symm)
    fun t _ w hw => (holds_lawful ((sameLaws_setStatus t .done w).lawful hw.inv)).symm

/-! ## Runs -/

section Runs

variable {transport : WsId → Transport} {redis : Bool} {oracle : List Nat}
  {snapshots : String → Option RoomSnapshot} {c c' : Config World Frame Mark TaskId}

theorem lawful_run
    (h : (owner env).Run unrestored
    (startConfig (World.start transport redis oracle snapshots)) c) :
    Loop.Guarding (lawful env) c :=
  (owner_lawful env).run (fun _ _ he => he) h
    (Loop.guarding_of_quiet rfl rfl fun _ hr => absurd hr (Nat.not_lt_zero _))

theorem LawfulStep.refl (w : World) : LawfulStep w w where
  config _ _ hne := absurd rfl hne
  turn _ _ t t' ht ht' _ := by
    obtain rfl := Option.some.inj (ht.symm.trans ht')
    exact (SameTurn.refl t).reveal
  score _ _ _ _ := by omega

theorem lawful_step
    (h : (owner env).Run unrestored (startConfig (World.start transport redis oracle snapshots)) c)
    (hstep : (owner env).Step unrestored c c') : LawfulStep c.state c'.state := by
  have hok : ∀ e v, unrestored (.mark e) v → (lawful env).ok e v.state := fun _ _ he => he
  rcases ((owner_lawful env).step hok hstep (lawful_run h)).2 with hsame | hchange
  · rw [hsame]
    exact .refl _
  · exact hchange

/-- **The settings of a room change only in the lobby**, and its custom words are sane: whenever no
coroutine is running, there are at most 500 of them, trimmed, of 1 to 40 characters, and no two
equal up to case. -/
theorem settings_of_run {isspace : Char → Bool} (henv : env.Strips isspace)
    (h : (owner env).Run unrestored
    (startConfig (World.start transport redis oracle snapshots)) c) :
    (c.running = none → ∀ r < c.state.nextRoom, SaneConfig env (c.state.room r).config) ∧
      ∀ c', (owner env).Step unrestored c c' → ∀ r < c.state.nextRoom,
        (c'.state.room r).config ≠ (c.state.room r).config → (c.state.room r).state = .lobby := by
  refine ⟨fun hidle r hr => saneConfig_of_words ?_, fun c' hstep => (lawful_step h hstep).config⟩
  have hlawful : c.state.Lawful env := (lawful_run h).idle hidle
  exact (hlawful r hr).words ⟨isspace, henv⟩

/-- The host of a room names the rounds and the words. -/
theorem settings_of_named : ∃ c, (owner spaceEnv).Run unrestored (startConfig sampleWorld) c ∧
    (c.state.room 0).config.customWords = ["red fox", "owl"] ∧
    SaneConfig spaceEnv (c.state.room 0).config := by
  have hplay : ((owner spaceEnv).play unrestored (startConfig sampleWorld)
      [(.call (.own (.createRoom ["ROOM01"] "p0" 0 none none none)), []),
        (.call (.own (.updateSettings (.uuid 0) namedSettings 0)), [])]).any (fun c =>
          (c.state.room 0).config.customWords = ["red fox", "owl"] ∧
            0 < c.state.nextRoom) = true := by
    decide +kernel
  obtain ⟨c, hrun, hidle, hc⟩ := Loop.exists_run_of_play rfl hplay
  obtain ⟨hwords, hroom⟩ := of_decide_eq_true hc
  exact ⟨c, hrun, hwords, (settings_of_run spaceEnv_strips hrun).1 hidle 0 hroom⟩

/-- **A hint shows its word**: whenever no coroutine is running, the hint of a turn has the length
and the spaces of its word and characters of it at their places, and a step that keeps the turn
keeps its word, its drawer and all that its hint has shown. -/
theorem hints_of_run
    (h : (owner env).Run unrestored
    (startConfig (World.start transport redis oracle snapshots)) c) :
    (c.running = none → ∀ r < c.state.nextRoom, ∀ t, (c.state.room r).turn = some t →
      Shows t.word t.hint) ∧
      ∀ c', (owner env).Step unrestored c c' → ∀ r < c.state.nextRoom, ∀ t t',
        (c.state.room r).turn = some t → (c'.state.room r).turn = some t' → t'.turnId = t.turnId →
        Reveal t t' := by
  refine ⟨fun hidle r hr t ht => ?_, fun c' hstep => (lawful_step h hstep).turn⟩
  have hlawful : c.state.Lawful env := (lawful_run h).idle hidle
  exact ((hlawful r hr).shows t ht).2

/-- Two players come together, and the host starts a game and selects a word. -/
def catTurn : List (Loop.Choice TaskId OwnerOp × List Bool) :=
  [(.call (.own (.createRoom ["ROOM01"] "p0" 0 none none none)), []),
    (.call (.own (.joinRoom "p1" "ROOM01" 1 none false none none)), []),
    (.call (.own (.startGame (.uuid 0) 0)), []), (.call (.own (.selectWord (.uuid 0) "cat")), [])]

theorem hints_of_catTurn : ∃ c, (owner sampleEnv).Run unrestored (startConfig sampleWorld) c ∧
    ∃ t, (c.state.room 0).turn = some t ∧ Shows t.word t.hint := by
  have hplay : ((owner sampleEnv).play unrestored (startConfig sampleWorld) catTurn).any (fun c =>
      (c.state.room 0).turn.isSome ∧ 0 < c.state.nextRoom) = true := by
    decide +kernel
  obtain ⟨c, hrun, hidle, hc⟩ := Loop.exists_run_of_play rfl hplay
  obtain ⟨hturn, hroom⟩ := of_decide_eq_true hc
  obtain ⟨t, ht⟩ := Option.isSome_iff_exists.mp hturn
  exact ⟨c, hrun, t, ht, (hints_of_run hrun).1 hidle 0 hroom t ht⟩

/-- **A score is never lowered but to zero**, and no step adds more than 750 to it. -/
theorem credits_of_run
    (h : (owner env).Run unrestored (startConfig (World.start transport redis oracle snapshots)) c)
    (hstep : (owner env).Step unrestored c c') {r : RoomId} (hr : r < c.state.nextRoom)
    {p : PlayerId} (hp : c.state.Known p) :
    (c'.state.player r p).score = 0 ∨
      (c.state.player r p).score ≤ (c'.state.player r p).score ∧
        (c'.state.player r p).score ≤ (c.state.player r p).score + 750 :=
  (lawful_step h hstep).score r hr p hp

/-- The second player guesses the word: the step that writes its score. -/
theorem exists_scoring_step : ∃ c c', (owner sampleEnv).Run unrestored (startConfig sampleWorld) c ∧
    (owner sampleEnv).Step unrestored c c' ∧
    (0 < c.state.nextRoom ∧ 1 < c.state.nextUuid) ∧
    ((c.state.room 0).state = .playing ∧ (c'.state.room 0).state = .playing) ∧
    (c.state.player 0 (.uuid 1)).score = 0 ∧ (c'.state.player 0 (.uuid 1)).score = 750 := by
  have hplay : ((owner sampleEnv).play unrestored (startConfig sampleWorld) catTurn).any (fun c =>
      ((owner sampleEnv).ticks unrestored (fun _ _ => true) 25 { c with
        running := some (none, (owner sampleEnv).call (.own (.guess (.uuid 1) "cat"))) }).any
        fun c₁ => ((owner sampleEnv).tick unrestored c₁).any fun c₂ =>
          (0 < c₁.state.nextRoom ∧ 1 < c₁.state.nextUuid) ∧
          ((c₁.state.room 0).state = .playing ∧ (c₂.state.room 0).state = .playing) ∧
          (c₁.state.player 0 (.uuid 1)).score = 0 ∧
            (c₂.state.player 0 (.uuid 1)).score = 750) = true := by
    decide +kernel
  obtain ⟨c, c', hrun, hstep, hc⟩ := Loop.exists_step_of_play rfl hplay
  exact ⟨c, c', hrun, hstep, of_decide_eq_true hc⟩

/-- So it is with the step that writes a score. -/
theorem credits_of_catTurn : ∃ c c', (owner sampleEnv).Run unrestored (startConfig sampleWorld) c ∧
    (owner sampleEnv).Step unrestored c c' ∧
    ((c.state.player 0 (.uuid 1)).score = 0 ∧ (c'.state.player 0 (.uuid 1)).score = 750) ∧
    ((c'.state.player 0 (.uuid 1)).score = 0 ∨
      (c.state.player 0 (.uuid 1)).score ≤ (c'.state.player 0 (.uuid 1)).score ∧
        (c'.state.player 0 (.uuid 1)).score ≤ (c.state.player 0 (.uuid 1)).score + 750) := by
  obtain ⟨c, c', hrun, hstep, ⟨hroom, hknown⟩, -, hscore⟩ := exists_scoring_step
  exact ⟨c, c', hrun, hstep, hscore, credits_of_run hrun hstep hroom hknown⟩

end Runs

/-! ## The way back to the lobby -/

/-- A room goes back to the lobby only once its game is over. -/
structure Rematched (w w' : World) : Prop where
  nextRoom : w.nextRoom ≤ w'.nextRoom
  lobby : ∀ r < w.nextRoom, (w'.room r).state = .lobby →
    (w.room r).state = .lobby ∨ (w.room r).state = .gameOver

/-- Every change is such a one. -/
def rematching : Guarantee World Mark where
  ok _ _ := True
  inv _ := True
  change := Rematched
  rely _ _ := True
  refl _ := trivial
  trans _ _ := trivial

theorem rematched_update {u : Update} (hu : ∀ r, u ≠ .room r (.state .lobby)) (w : World) :
    Rematched w (u.apply w) := by
  refine ⟨(u.extends w).nextRoom, fun r hr hlobby => .inl ?_⟩
  cases u with
  | room r' u =>
    by_cases h : r = r'
    · subst h
      simp only [Update.apply, Function.update_self] at hlobby
      cases u with
      | state s => exact absurd (by rw [show s = .lobby from hlobby]) (hu r)
      | _ => exact hlobby
    · simpa [Update.apply, Function.update_of_ne h] using hlobby
  | newRoom x members => simpa [Update.apply, Function.update_of_ne hr.ne] using hlobby
  | newTurn r' make =>
    by_cases h : r = r'
    · subst h
      simpa [Update.apply] using hlobby
    · simpa [Update.apply, Function.update_of_ne h] using hlobby
  | _ => exact hlobby

theorem rematching_put {u : Update} (hu : ∀ r, u ≠ .room r (.state .lobby)) :
    Guarded rematching (put u) :=
  ⟨fun _ => ⟨rematched_update hu _, trivial, trivial⟩⟩

instance : Silences rematching where
  put u hu := rematching_put fun r h => by
    rw [h] at hu
    cases hu
  newRoom _ _ _ _ := rematching_put fun _ h => nomatch h
  newPlayer r make _ := ⟨fun _ =>
    ⟨rematched_update (u := .newPlayer r make) (fun _ h => nomatch h) _, trivial, trivial⟩⟩

theorem rematching_over (r : RoomId) : Guarded rematching (put (.room r (.state .gameOver))) :=
  rematching_put fun _ h => by simp at h

instance : Endings rematching where
  handleRematch p := guarded_handleRematch p
    (fun r _ _ h _ => (rematching_put (u := .room r .forgetWords) fun _ h => by simp at h).out h)
    fun r s w _ hover => by
      refine guards_put _ |>.mpr ⟨⟨Nat.le_refl _, fun r' _ hlobby => ?_⟩, trivial, trivial⟩
      by_cases h : r' = r
      · rw [h]
        exact .inr hover
      · left
        simpa [Update.apply, Function.update_of_ne h] using hlobby
  gameOver r := by
    have hover := rematching_over r
    have hscore : ∀ q n, Guarded rematching (put (.player r q (.sessionScore n))) :=
      fun _ _ => rematching_put fun _ h => nomatch h
    have hgames : ∀ q n, Guarded rematching (put (.player r q (.sessionGames n))) :=
      fun _ _ => rematching_put fun _ h => nomatch h
    unfold gameOver buildGameOverPayload
    dsimp only
    infer_instance
  endGameInsufficientPlayersImmediate r := by
    have hover := rematching_over r
    unfold endGameInsufficientPlayersImmediate
    infer_instance

instance : Tells env rematching where
  startTurn r := by
    have hoffer : ∀ words, Guarded rematching (put (.room r (.pendingWordChoices words))) :=
      fun _ => rematching_put fun _ h => by simp at h
    unfold startTurn
    infer_instance
  handleWordSelection r p word := by
    have hused : ∀ word, Guarded rematching (put (.room r (.selectWord word))) :=
      fun _ => rematching_put fun _ h => by simp at h
    have hnone : ∀ words, Guarded rematching (put (.room r (.pendingWordChoices words))) :=
      fun _ => rematching_put fun _ h => by simp at h
    unfold handleWordSelection beginTurn
    infer_instance

theorem owner_rematching (env : Env) : (owner env).Guards rematching :=
  owner_tells fun _ _ _ _ _ => ⟨⟨trivial, trivial⟩, Nat.le_refl _, fun _ _ hlobby => .inl hlobby⟩

section Games

variable {transport : WsId → Transport} {redis : Bool} {oracle : List Nat}
  {snapshots : String → Option RoomSnapshot} {c c' : Config World Frame Mark TaskId}

theorem rematched_step
    (h : (owner env).Run unrestored (startConfig (World.start transport redis oracle snapshots)) c)
    (hstep : (owner env).Step unrestored c c') : Rematched c.state c'.state := by
  have hrun := (owner_rematching env).run (fun _ _ _ => trivial) h
    (Loop.guarding_of_quiet rfl rfl trivial)
  rcases ((owner_rematching env).step (fun _ _ _ => trivial) hstep hrun).2 with hsame | hchange
  · rw [hsame]
    exact ⟨Nat.le_refl _, fun _ _ hlobby => .inl hlobby⟩
  · exact hchange

/-- **The settings stay throughout a game**: from a state of a run on in which a room has a game,
while no step ends the game, the room has the same settings, and the game goes on. -/
theorem settings_frozen
    (h : (owner env).Run unrestored (startConfig (World.start transport redis oracle snapshots)) c)
    (hroom : r < c.state.nextRoom) (hgame : (c.state.room r).state.isIdle = false)
    (hplayed : Relation.ReflTransGen (fun c c' => (owner env).Step unrestored c c' ∧
      (c'.state.room r).state ≠ .gameOver) c c') :
    (c'.state.room r).config = (c.state.room r).config ∧
      (c'.state.room r).state.isIdle = false := by
  have hall :
      (owner env).Run unrestored (startConfig (World.start transport redis oracle snapshots))
      c' ∧ r < c'.state.nextRoom ∧ (c'.state.room r).config = (c.state.room r).config ∧
        (c'.state.room r).state.isIdle = false := by
    induction hplayed with
    | refl => exact ⟨h, hroom, rfl, hgame⟩
    | @tail c₁ c₂ _ hstep ih =>
      obtain ⟨hrun, hroom, hconfig, hgame⟩ := ih
      obtain ⟨hstep, hover⟩ := hstep
      have hlobby : (c₁.state.room r).state ≠ .lobby := fun h => by simp [h] at hgame
      have hended : (c₁.state.room r).state ≠ .gameOver := fun h => by simp [h] at hgame
      have hrematched := rematched_step hrun hstep
      refine ⟨hrun.tail hstep, Nat.lt_of_lt_of_le hroom hrematched.nextRoom, ?_, ?_⟩
      · by_contra hne
        exact hlobby ((lawful_step hrun hstep).config r hroom fun h => hne (h.trans hconfig))
      · have hnot : (c₂.state.room r).state ≠ .lobby := fun h =>
          (hrematched.lobby r hroom h).elim hlobby hended
        cases hstate : (c₂.state.room r).state with
        | lobby => exact absurd hstate hnot
        | gameOver => exact absurd hstate hover
        | wordSelection => rfl
        | playing => rfl
  exact ⟨hall.2.2.1, hall.2.2.2⟩

theorem settings_frozen_catTurn : ∃ c c',
    (owner sampleEnv).Run unrestored (startConfig sampleWorld) c ∧
    (owner sampleEnv).Step unrestored c c' ∧
    ((c.state.player 0 (.uuid 1)).score = 0 ∧ (c'.state.player 0 (.uuid 1)).score = 750) ∧
    (c'.state.room 0).config = (c.state.room 0).config ∧
      (c'.state.room 0).state.isIdle = false := by
  obtain ⟨c, c', hrun, hstep, ⟨hroom, -⟩, ⟨hplaying, hplaying'⟩, hscore⟩ := exists_scoring_step
  exact ⟨c, c', hrun, hstep, hscore, settings_frozen hrun hroom (by rw [hplaying])
    (.single ⟨hstep, by simp [hplaying']⟩)⟩

end Games

end Skribbl.Backend
