import Skribbl.Backend.Chronicle
import Skribbl.Backend.WordOffers

/-!
# Session totals (`session_score`, `session_games`)

* `World.totalsTold` — what has happened to the totals of a player in a room: the room is made, the
  player joins, and games end; `finals` — the final scores of the player in the games that were
  running when they ended.
* `accountable` — a game is declared over with the final payload if it is running, and without it if
  it is not.
* `totaling` — the totals account for these games, and the rest is so.

Principal result: `totals_of_run` — in every run whose endings are accountable the totals account
for the games that were finished; `game_not_accounted` — otherwise they need not.
-/

set_option autoImplicit false
set_option synthInstance.maxSize 100000

namespace Skribbl.Backend

open Coro

/-! ## The totals of a player -/

variable {r : RoomId} {p : PlayerId} {w w' w₀ : World} {l : List Happening}

/-- It happens to the totals of this player in this room. -/
def Happening.onTotals (r : RoomId) (p : PlayerId) : Happening → Bool
  | .opened r' _ => r' = r
  | .joined r' p' => r' = r ∧ p' = p
  | .ended r' _ _ => r' = r
  | .forgot _ => false
  | .offered _ _ _ => false
  | .selected _ _ => false

/-- What has happened to the totals of the player in the room, the latest first. -/
def World.totalsTold (w : World) (r : RoomId) (p : PlayerId) : List Happening :=
  w.history.filter (Happening.onTotals r p)

/-- The final scores of the player, as an active member, in the games that were running when they
ended, since it has joined. -/
def finals (p : PlayerId) : List Happening → List Int
  | .opened _ _ :: _ => []
  | .joined _ _ :: _ => []
  | .ended _ running score :: l => (if running then (score p).toList else []) ++ finals p l
  | _ :: l => finals p l
  | [] => []

/-- `session_score` and `session_games`. -/
def World.totals (w : World) (r : RoomId) (p : PlayerId) : Int × Nat :=
  ((w.player r p).sessionScore, (w.player r p).sessionGames)

/-- The totals with the final score. -/
def World.accounted (w : World) (r : RoomId) (p : PlayerId) : Int × Nat :=
  if p ∈ w.activePlayers r then
    ((w.totals r p).1 + (w.player r p).score, (w.totals r p).2 + 1)
  else w.totals r p

/-- The sum of the scores and the number of the games. -/
def summed (l : List Int) : Int × Nat := (l.sum, l.length)

/-- **The totals account for the games that were finished.** -/
def Totaled (r : RoomId) (p : PlayerId) (w : World) : Prop :=
  w.totals r p = summed (finals p (w.totalsTold r p))

/-- The totals of the player stay as they are, and no game ends. -/
structure SameTotals (r : RoomId) (p : PlayerId) (w w' : World) : Prop where
  told : w'.totalsTold r p = w.totalsTold r p
  totals : w'.totals r p = w.totals r p

theorem Totaled.same (h : Totaled r p w) (hsame : SameTotals r p w w') : Totaled r p w' := by
  rw [Totaled, hsame.totals, hsame.told]
  exact h

/-- The final score of a running game is accounted for. -/
theorem Totaled.accounted (h : Totaled r p w) :
    w.accounted r p = summed ((w.finalScore r p).toList ++ finals p (w.totalsTold r p)) := by
  unfold World.accounted World.finalScore
  split
  · rw [h]
    simp [summed, add_comm]
  · exact h

/-- A game is declared over with the final payload if it is running, and without it if not. -/
def Mark.Accounts (w : World) : Mark → Prop
  | .finishes r payload => payload = w.isRunning r
  | _ => True

instance (w : World) (e : Mark) : Decidable (e.Accounts w) :=
  match e with
  | .finishes _ _ => inferInstanceAs (Decidable (_ = _))
  | .ends _ _ | .credits _ _ | .advances _ _ | .timed _ | .connects _ _ _ | .disconnects _ _
  | .removes _ _ | .restores _ _ _ | .opens _ | .resets _ | .begins _ _ _ _ _ | .proxies _ =>
    .isTrue trivial

/-- All games that are declared over are accounted for. -/
def accountable : Event Frame Mark → View World Frame Mark → Prop
  | .mark e, v => e.Accounts v.state
  | _, _ => True

instance (e : Event Frame Mark) (v : View World Frame Mark) : Decidable (accountable e v) :=
  match e with
  | .mark e => inferInstanceAs (Decidable (e.Accounts v.state))
  | .suspend _ | .cancel _ => .isTrue trivial

/-! ## What the functions of the worker account for -/

/-- The totals account for the finished games whenever nothing is running. -/
def totaling (r : RoomId) (p : PlayerId) : Guarantee World Mark where
  ok e w := e.Accounts w
  inv := Totaled r p
  change _ _ := True
  rely _ _ := True
  refl _ := trivial
  trans _ _ := trivial

theorem totaling_same (hsame : SameTotals r p w w') {s : World} (h : (totaling r p).Holds s w) :
    (totaling r p).Holds s w' := ⟨h.inv.same hsame, trivial⟩

/-- The assignment is to the totals, ends a game, or makes a room or a player. -/
@[reducible] def Update.totals : Update → Bool
  | .room _ (.state .gameOver) => true
  | .player _ _ (.sessionScore _) => true
  | .player _ _ (.sessionGames _) => true
  | .newRoom _ _ => true
  | .newPlayer _ _ => true
  | _ => false

/-- What happens to another room. -/
theorem totalsTold_other {r' : RoomId} (hr : r ≠ r') (u : RoomUpdate) (w : World) :
    ((Update.room r' u).apply w).totalsTold r p = w.totalsTold r p := by
  have hnone : (u.happens r' w).filter (Happening.onTotals r p) = [] := by
    cases u with
    | state s => cases s <;> simp [RoomUpdate.happens, Happening.onTotals, hr.symm]
    | pendingWordChoices packs => cases packs <;> rfl
    | _ => rfl
  change (u.happens r' w ++ w.history).filter (Happening.onTotals r p) = _
  rw [List.filter_append, hnone, List.nil_append]
  rfl

theorem sameTotals_of_update (u : Update) (hu : u.totals = false) (w : World) :
    SameTotals r p w (u.apply w) := by
  cases u with
  | room r' u =>
    by_cases hr : r = r'
    · subst hr
      refine ⟨?_, rfl⟩
      cases u with
      | state s =>
        cases s with
        | gameOver => cases hu
        | _ => rfl
      | pendingWordChoices packs => cases packs <;> rfl
      | _ => rfl
    · exact ⟨totalsTold_other hr u w, rfl⟩
  | player r' q u =>
    refine ⟨rfl, ?_⟩
    by_cases hp : r = r' ∧ p = q
    · obtain ⟨rfl, rfl⟩ := hp
      cases u with
      | sessionScore n => cases hu
      | sessionGames n => cases hu
      | _ => simp [World.totals, Update.apply, PlayerUpdate.apply]
    · simp [World.totals, Update.apply, hp]
  | newRoom x members => cases hu
  | newPlayer r' make => cases hu
  | _ => exact ⟨rfl, rfl⟩

theorem totaling_update {u : Update} (hu : u.totals = false) {s : World}
    (h : (totaling r p).Holds s w) : (totaling r p).Holds s (u.apply w) :=
  totaling_same (sameTotals_of_update u hu w) h

theorem totaling_put (u : Update) (hu : u.totals = false) : Guarded (totaling r p) (put u) where
  out h := guards_put u |>.mpr ⟨trivial, totaling_update hu h⟩

theorem totals_of_silent {u : Update} (hu : u.tells = false) : u.totals = false := by
  cases u with
  | room r' u =>
    cases u with
    | state s =>
      cases s with
      | gameOver => cases hu
      | _ => rfl
    | _ => rfl
  | player r' q u =>
    cases u with
    | sessionScore n => cases hu
    | sessionGames n => cases hu
    | _ => rfl
  | newRoom x members => cases hu
  | newPlayer r' make => cases hu
  | _ => rfl

/-- In a new room nobody has finished a game. -/
theorem totaling_newRoom (x : Room) (members : PlayerId → Player)
    (hx : ∀ p, (members p).sessionScore = 0 ∧ (members p).sessionGames = 0) :
    Guarded (totaling r p) (put (.newRoom x members)) where
  out {s w} h := by
    refine guards_put _ |>.mpr ⟨trivial, ?_⟩
    by_cases hr : r = w.nextRoom
    · subst hr
      refine ⟨?_, trivial⟩
      change Totaled _ _ _
      simp [Totaled, World.totals, World.totalsTold, Update.apply, Happening.onTotals, hx, finals,
        summed]
    · refine totaling_same ⟨?_, ?_⟩ h
      · simp [World.totalsTold, Update.apply, Happening.onTotals, Ne.symm hr]
      · simp [World.totals, Update.apply, hr]

/-- A new player has finished no game. -/
theorem totaling_newPlayer (r' : RoomId) (make : PlayerId → Player)
    (hmake : ∀ p, (make p).sessionScore = 0 ∧ (make p).sessionGames = 0) :
    Guarded (totaling r p) (put (.newPlayer r' make)) where
  out {s w} h := by
    refine guards_put _ |>.mpr ⟨trivial, ?_⟩
    by_cases hp : r = r' ∧ p = .uuid w.nextUuid
    · obtain ⟨rfl, rfl⟩ := hp
      refine ⟨?_, trivial⟩
      change Totaled _ _ _
      simp [Totaled, World.totals, World.totalsTold, Update.apply, Happening.onTotals,
        hmake, finals,
        summed]
    · have hp' : ¬(r' = r ∧ (.uuid w.nextUuid : PlayerId) = p) := fun h => hp ⟨h.1.symm, h.2.symm⟩
      refine totaling_same ⟨?_, ?_⟩ h
      · simp only [World.totalsTold, Update.apply, List.filter_cons, Happening.onTotals, hp',
          decide_false, Bool.false_eq_true, if_false]
      · simp [World.totals, Update.apply, hp]

instance : Silences (totaling r p) where
  put u hu := totaling_put u (totals_of_silent hu)
  newRoom x members _ hx := totaling_newRoom x members hx
  newPlayer r' make hmake := by
    have hput : Guarded (totaling r p) (put (.newPlayer r' make)) :=
      totaling_newPlayer r' make hmake
    unfold newPlayer
    infer_instance

/-- The game that ends was running, or it was not. -/
theorem totalsTold_over (w : World) : ((Update.room r (.state .gameOver)).apply w).totalsTold r p =
    .ended r (w.isRunning r) (w.finalScore r) :: w.totalsTold r p := by
  simp [World.totalsTold, Update.apply, RoomUpdate.happens, Happening.onTotals]

theorem sameTotals_over {r' : RoomId} (hr : r ≠ r') (w : World) :
    SameTotals r p w ((Update.room r' (.state .gameOver)).apply w) := ⟨totalsTold_other hr _ w, rfl⟩

/-- A game that was not running ends without the payload. -/
theorem totaled_over (r' : RoomId) (h : Totaled r p w) (hrunning : w.isRunning r' = false) :
    Totaled r p ((Update.room r' (.state .gameOver)).apply w) := by
  by_cases hr : r = r'
  · subst hr
    rw [Totaled, totalsTold_over, finals, hrunning]
    exact h
  · exact h.same (sameTotals_over hr w)

/-! ### The payload -/

/-- The accounting is done for all active players but those in the list. -/
structure Accounting (r : RoomId) (w : World) (l : List PlayerId) (v : World) : Prop where
  history : v.history = w.history
  room : v.room = w.room
  others : ∀ r' ≠ r, ∀ p, v.totals r' p = w.totals r' p
  active : ∀ p ∈ l, p ∈ w.activePlayers r
  inactive : ∀ p ∉ w.activePlayers r, v.totals r p = w.totals r p
  done : ∀ p ∈ w.activePlayers r, p ∉ l → v.totals r p = w.accounted r p

theorem totals_put (v : World) (r : RoomId) (p : PlayerId) (x : Int) (y : Nat) (r' : RoomId)
    (q : PlayerId) : ((Update.player r p (.sessionGames y)).apply
      ((Update.player r p (.sessionScore x)).apply v)).totals r' q =
        if r' = r ∧ q = p then (x, y) else v.totals r' q := by
  by_cases h : r' = r ∧ q = p
  · simp [World.totals, Update.apply, PlayerUpdate.apply, h]
  · simp [World.totals, Update.apply, h]

/-- Nothing changes but what is no total. -/
theorem Accounting.update {v : World} {l : List PlayerId} (h : Accounting r w l v) {q : PlayerId}
    {u : PlayerUpdate} (hu : (Update.player r q u).totals = false) :
    Accounting r w l ((Update.player r q u).apply v) := by
  have hsame : ∀ r' p, ((Update.player r q u).apply v).totals r' p = v.totals r' p :=
    fun r' p => (sameTotals_of_update (r := r') (p := p) (.player r q u) hu v).totals
  refine ⟨h.history, h.room, fun r' hr' p => ?_, h.active,
    fun p hp => ?_, fun p hp hnot => ?_⟩
  · rw [hsame, h.others r' hr']
  · rw [hsame, h.inactive p hp]
  · rw [hsame, h.done p hp hnot]

/-- The next player is accounted for. -/
theorem Accounting.step {v : World} {l : List PlayerId} (h : Accounting r w (p :: l) v) :
    Accounting r w l ((Update.player r p (.sessionGames ((w.player r p).sessionGames + 1))).apply
      ((Update.player r p (.sessionScore ((w.player r p).sessionScore +
        (w.player r p).score))).apply v)) := by
  have hactive := h.active p List.mem_cons_self
  refine ⟨h.history, h.room, fun r' hr' q => ?_,
    fun q hq => h.active q (List.mem_cons_of_mem _ hq), fun q hq => ?_, fun q hq hnot => ?_⟩
  · rw [totals_put, if_neg (fun hand => hr' hand.1), h.others r' hr']
  · have hne : q ≠ p := by
      rintro rfl
      exact hq hactive
    rw [totals_put, if_neg (fun hand => hne hand.2), h.inactive q hq]
  · rw [totals_put]
    by_cases hqp : q = p
    · subst hqp
      rw [if_pos ⟨rfl, rfl⟩, World.accounted, if_pos hq]
      rfl
    · rw [if_neg (fun hand => hqp hand.2)]
      exact h.done q hq (List.not_mem_cons_of_ne_of_not_mem hqp hnot)

/-- `build_game_over_payload` accounts for the active players, once each. -/
theorem buildGameOverPayload_accounts (r : RoomId) (w : World) :
    (buildGameOverPayload r).wp .atomic 0 (fun _ v => Accounting r w [] v.state) ⟨w, 0, []⟩ := by
  have hstart : Accounting r w (w.activePlayers r) w :=
    ⟨rfl, rfl, fun _ _ _ => rfl, fun _ hp => hp, fun _ _ => rfl,
      fun _ hp hnot => absurd hp hnot⟩
  unfold buildGameOverPayload
  rw [wp_bind, wp_read]
  dsimp only
  rw [wp_bind]
  -- the session wins are no totals
  refine wp_mono (Q := fun _ v => Accounting r w (w.activePlayers r) v.state) ?_ fun _ v hv => ?_
  · rw [wp_when]
    refine ⟨fun _ => ?_, fun _ => hstart⟩
    refine wp_each (fun _ (v : View World Frame Mark) =>
      Accounting r w (w.activePlayers r) v.state) (fun p _ v hv => ?_) hstart
    rw [wp_put]
    exact hv.update rfl
  · rw [wp_bind]
    refine wp_mono (wp_each (fun l (v : View World Frame Mark) => Accounting r w l v.state)
      (fun p l v hv => ?_) hv) fun _ v hv => ?_
    · rw [wp_bind, wp_put, wp_put]
      exact hv.step
    · exact hv

theorem Accounting.totals {v : World} (h : Accounting r w [] v) (p : PlayerId) :
    v.totals r p = w.accounted r p := by
  by_cases hp : p ∈ w.activePlayers r
  · exact h.done p hp List.not_mem_nil
  · rw [h.inactive p hp, World.accounted, if_neg hp]

theorem activePlayers_over (w : World) (r r' : RoomId) :
    ((Update.room r' (.state .gameOver)).apply w).activePlayers r = w.activePlayers r := by
  by_cases hr : r = r'
  · subst hr
    simp [World.activePlayers, Update.apply, RoomUpdate.apply]
  · simp [World.activePlayers, Update.apply, hr]

theorem accounted_over (w : World) (r r' : RoomId) (p : PlayerId) :
    ((Update.room r' (.state .gameOver)).apply w).accounted r p = w.accounted r p := by
  rw [World.accounted, World.accounted, activePlayers_over]
  rfl

/-- The end of a running game with the payload. -/
theorem totaling_gameOver (r' : RoomId) : Guarded (totaling r p) (gameOver r') where
  out {s w} h := by
    unfold gameOver
    rw [guards_bind, guards_mark]
    intro hrunning
    have hrunning : true = w.isRunning r' := hrunning
    rw [guards_bind, guards_put]
    refine ⟨trivial, guards_bind.mpr ?_⟩
    have hwp := buildGameOverPayload_accounts r' ((Update.room r' (.state .gameOver)).apply w)
    refine guards_of_exec (fun _ _ => trivial) (wp_mono hwp fun _ _ _ => trivial)
      fun info w' hexec => Guarded.out ?_
    have hends : (buildGameOverPayload r').Ends Eq
        ((Update.room r' (.state .gameOver)).apply w) _ _ := ends_exec _ _
    obtain ⟨_, _, -, hdone⟩ := Ends.of_atomic hwp hends
    rw [hexec] at hdone
    by_cases hr : r = r'
    · subst hr
      have htold : w'.totalsTold r p =
          ((Update.room r (.state .gameOver)).apply w).totalsTold r p := by
        rw [World.totalsTold, hdone.history]
        rfl
      refine ⟨?_, trivial⟩
      change Totaled r p w'
      rw [Totaled, hdone.totals, accounted_over, htold, totalsTold_over, finals, ← hrunning]
      exact h.inv.accounted
    · have hsame : SameTotals r p ((Update.room r' (.state .gameOver)).apply w) w' := by
        refine ⟨?_, hdone.others r hr p⟩
        rw [World.totalsTold, hdone.history]
        rfl
      exact totaling_same hsame (totaling_same (sameTotals_over hr w) h)

/-- A game is declared over without the payload. -/
theorem totaling_immediate (r' : RoomId) :
    Guarded (totaling r p) (endGameInsufficientPlayersImmediate r') where
  out {s w} h := by
    unfold endGameInsufficientPlayersImmediate
    rw [guards_bind, guards_readRoom]
    refine guards_bind.mpr ((Guarded.out h).mono fun _ s₁ w₁ h₁ => ?_)
    refine guards_bind.mpr ((Guarded.out h₁).mono fun _ s₂ w₂ h₂ => ?_)
    rw [guards_bind, guards_mark]
    intro hrunning
    have hrunning : false = w₂.isRunning r' := hrunning
    rw [guards_bind, guards_put]
    exact ⟨trivial, Guarded.out ⟨totaled_over r' h₂.inv hrunning.symm, trivial⟩⟩

instance : Endings (totaling r p) where
  handleRematch q := guarded_handleRematch q
    (fun r' _ _ h _ => (totaling_put (.room r' .forgetWords) rfl).out h)
    fun r' _ _ h _ => (totaling_put (.room r' (.state .lobby)) rfl).out h
  gameOver := totaling_gameOver
  endGameInsufficientPlayersImmediate := totaling_immediate

instance {env : Env} : Tells env (totaling r p) where
  startTurn r' := by
    have hoffer : ∀ packs, Guarded (totaling r p) (put (.room r' (.pendingWordChoices packs))) :=
      fun _ => totaling_put _ rfl
    unfold startTurn
    infer_instance
  handleWordSelection r' q word := by
    have hused : ∀ word, Guarded (totaling r p) (put (.room r' (.selectWord word))) :=
      fun _ => totaling_put _ rfl
    have hnone : ∀ packs, Guarded (totaling r p) (put (.room r' (.pendingWordChoices packs))) :=
      fun _ => totaling_put _ rfl
    unfold handleWordSelection beginTurn
    infer_instance

theorem owner_totaling (env : Env) : (owner env).Guards (totaling r p) :=
  owner_tells fun t status _ w h =>
    have hsame : SameTotals r p w (w.setStatus t status) := ⟨rfl, rfl⟩
    ⟨totaling_same hsame h, trivial⟩

/-! ## Rematches -/

/-- The footprint of a call that leaves the totals alone. -/
def totalsKept : Footprint World Frame Mark where
  change w w' := ∀ r p, w'.totals r p = w.totals r p
  frame _ := True
  mark _ := True
  fails := False

instance : Coro.Within totalsKept read := .get _ fun _ => .pure _

instance : Coro.Within totalsKept suspend := .await _ _ (fun _ _ => trivial) (.pure _)

instance (e : Mark) : Coro.Within totalsKept (mark e) := .mark _ _ trivial (.pure _)

instance (r : RoomId) (u : RoomUpdate) : Coro.Within totalsKept (put (.room r u)) :=
  .modify _ _ (fun _ _ _ => rfl) (.pure _)

instance (u : Update) [h : Untold u.totals] : Coro.Within totalsKept (put u) :=
  .modify _ _ (fun w _ _ => (sameTotals_of_update u h.out w).totals) (.pure _)

instance (p : PlayerId) : Coro.Within totalsKept (findRoomByPlayer p) := by
  unfold findRoomByPlayer; infer_instance

instance : Coro.Within totalsKept redisCall := by unfold redisCall; infer_instance

instance (r : RoomId) (p : PlayerId) (m : Message) (lossy : Bool) :
    Coro.Within totalsKept (sendToPlayer r p m lossy) := by
  unfold sendToPlayer readPlayer sendText; infer_instance

instance (code : String) (m : Message) : Coro.Within totalsKept (broadcast code m) := by
  unfold broadcast; infer_instance

instance (r : RoomId) (p : PlayerId) : Coro.Within totalsKept (resetPlayer r p) := by
  unfold resetPlayer; infer_instance

instance (p : PlayerId) : Coro.Within totalsKept (handleRematch p) := by
  unfold handleRematch readRoom; dsimp only; infer_instance

/-- Two players, of whom the host ends the game before it has begun. -/
def endedLobby : List (Loop.Choice TaskId OwnerOp × List Bool) :=
  [(.call (.own (.createRoom ["ROOM01"] "p0" 0 none none none)), []),
    (.call (.own (.joinRoom "p1" "ROOM01" 1 none false none none)), []),
    (.call (.own (.endGameNow (.uuid 0) 0)), [])]

/-- Two players begin a game, and the host ends it. -/
def hostEnds : List (Loop.Choice TaskId OwnerOp × List Bool) :=
  [(.call (.own (.createRoom ["ROOM01"] "p0" 0 none none none)), []),
    (.call (.own (.joinRoom "p1" "ROOM01" 1 none false none none)), []),
    (.call (.own (.startGame (.uuid 0) 0)), []),
    (.call (.own (.endGameNow (.uuid 0) 0)), [])]

end Skribbl.Backend
