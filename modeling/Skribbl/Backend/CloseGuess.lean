import Skribbl.Lib.EditDistance
import Skribbl.Backend.Secrecy
import Skribbl.Backend.Worker

/-!
# Close guesses (`backend/game_engine.py`)

* `rowFrom` — what a row of the table of `_levenshtein_distance` is to hold.
* `Incorrect` — `handle_guess` takes a text for an incorrect guess.
* `Withheld` — the room does not get to see the text.

Principal results: `levenshteinDistance_eq` — the rolling rows compute the edit distance;
`closeGuess_iff` — an incorrect guess is withheld exactly when two edits or fewer make it the word.
-/

set_option autoImplicit false

namespace Skribbl.Backend

open EditDistance Coro

/-! ## The rolling rows -/

/-- The distances of `p` to `q` and one, two, … of the characters after it. -/
def rowFrom (p q : List Char) : List Char → List Nat
  | [] => []
  | c :: r => dist p (q ++ [c]) :: rowFrom p (q ++ [c]) r

/-- One row follows from the row above. -/
theorem levenshteinRow_eq (c : Char) (p q r : List Char) :
    levenshteinRow c r (dist p q) (dist (p ++ [c]) q) (rowFrom p q r) = rowFrom (p ++ [c]) q r := by
  induction r generalizing q with
  | nil => rfl
  | cons b r ih =>
    have hcell : min (min (dist p (q ++ [b]) + 1) (dist (p ++ [c]) q + 1))
        (dist p q + if c = b then 0 else 1) = dist (p ++ [c]) (q ++ [b]) :=
      (dist_snoc c b p q).symm
    simp only [rowFrom, levenshteinRow, hcell, ih]

theorem levenshteinRows_eq (t p s : List Char) :
    levenshteinRows t p.length s (dist p [] :: rowFrom p [] t) =
      dist (p ++ s) [] :: rowFrom (p ++ s) [] t := by
  induction s generalizing p with
  | nil => simp [levenshteinRows]
  | cons c s ih =>
    have hlen : (p ++ [c]).length = p.length + 1 := List.length_append
    have hleft : dist (p ++ [c]) [] = p.length + 1 := (dist_nil_right _).trans hlen
    have h := ih (p ++ [c])
    rw [hlen, hleft, ← levenshteinRow_eq c p [] t, hleft, List.append_assoc] at h
    exact h

theorem rowFrom_nil (q r : List Char) : rowFrom [] q r = List.range' (q.length + 1) r.length := by
  induction r generalizing q with
  | nil => rfl
  | cons c r ih => simp [rowFrom, ih, List.range'_succ]

theorem getLastD_rowFrom (p q r : List Char) :
    (dist p q :: rowFrom p q r).getLastD 0 = dist p (q ++ r) := by
  induction r generalizing q with
  | nil => simp [rowFrom]
  | cons c r ih =>
    have h := ih (q ++ [c])
    rw [List.append_assoc, List.singleton_append] at h
    rw [rowFrom, ← h]
    rfl

/-- **The rolling rows compute the edit distance.** -/
theorem levenshteinDistance_eq (s t : List Char) : levenshteinDistance s t = dist s t := by
  have hrows : ∀ s t : List Char,
      (if t = [] then s.length
        else (levenshteinRows t 0 s (List.range (t.length + 1))).getLastD 0) = dist s t := by
    intro s t
    split
    · rename_i ht
      rw [ht, dist_nil_right]
    · have hstart : List.range (t.length + 1) = dist ([] : List Char) [] :: rowFrom [] [] t := by
        rw [rowFrom_nil, List.range_eq_range', List.range'_succ, dist_nil_right]
        rfl
      have h := levenshteinRows_eq t [] s
      rw [List.length_nil, List.nil_append] at h
      rw [hstart, h]
      exact getLastD_rowFrom s [] t
  by_cases hlt : s.length < t.length
  · rw [dist_symm, ← hrows t s]
    simp only [levenshteinDistance, if_pos hlt]
  · rw [← hrows s t]
    simp only [levenshteinDistance, if_neg hlt]

/-! ## Incorrect guesses -/

/-- `handle_guess` takes the text for an incorrect guess of the player. -/
structure Incorrect (env : Env) (w : World) (r : RoomId) (turn : TurnState) (p : PlayerId)
    (text : String) : Prop where
  active : (w.room r).turn = some turn
  playing : (w.room r).state = .playing
  short : text.length ≤ 100
  member : p ∈ (w.room r).playersById ∨ p ∈ (w.room r).players
  notDrawer : p ≠ turn.drawerId
  notSpectator : (w.player r p).isSpectator = false
  notGuessed : (w.player r p).hasGuessed = false
  connected : (w.player r p).isConnected = true
  incorrect : ¬env.isCorrect turn.word text

/-- A broadcast to the room is sent to somebody. -/
def World.Heard (w : World) (code : String) : Prop :=
  ∃ r, w.roomOf code = some r ∧ ∃ p ∈ (w.room r).players, (w.player r p).isConnected = true ∧
    (w.player r p).websocket ≠ none

/-- The text of a guess is not sent to the room. -/
def Withheld (env : Env) (w : World) (r : RoomId) (p : PlayerId) (text : String) : Prop :=
  ∀ name, ¬Sends (handleGuess env r p text) w (.chatMessage name (filterProfanity env text) false)

/-- What follows a call that ends is sent. -/
theorem sends_after {α β : Type} {c : M α} {f : α → M β} {w : World} {m : Message} {a : α}
    (hc : (c.exec w).1 = .ok a) (h : Sends (f a) (c.exec w).2 m) : Sends (c >>= f) w m := by
  obtain ⟨w₁, w₂, x, hmakes, hout, hm⟩ := h
  have hends : c.Ends (fun _ _ => True) w _ _ := ends_exec c w
  rw [hc] at hends
  exact ⟨w₁, w₂, x, makes_bind.mpr (.inr ⟨a, _, hends, hmakes⟩), hout, hm⟩

theorem sends_first {α β : Type} {c : M α} {f : α → M β} {w : World} {m : Message}
    (h : Sends c w m) : Sends (c >>= f) w m := by
  obtain ⟨w₁, w₂, x, hmakes, hout, hm⟩ := h
  exact ⟨w₁, w₂, x, makes_bind.mpr (.inl hmakes), hout, hm⟩

theorem sends_put {x : Recipient} {m : Message} {lossy : Bool} {w : World} :
    Sends (put (.send ⟨x, m, lossy⟩)) w m :=
  ⟨w, _, _, .inl ⟨rfl, rfl⟩, rfl, rfl⟩

/-- Sending to a transport ends, and changes no player. -/
theorem exec_sendText (ws : WsId) (m : Message) (lossy : Bool) (w : World) :
    ((sendText ws m lossy).exec w).1 = .ok () ∧
      ((sendText ws m lossy).exec w).2.player = w.player := by
  have hsend : (sendText ws m lossy).exec w =
      (Coro.when ((w.transport ws).queue = none) suspend : M Unit).exec
        ((Update.send ⟨.one ws, m, lossy && (w.transport ws).queue.isSome⟩).apply w) := rfl
  rw [hsend]
  unfold Coro.when
  split <;> exact ⟨rfl, rfl⟩

theorem exec_sendToPlayer (r : RoomId) (p : PlayerId) (m : Message) (lossy : Bool) (w : World) :
    ((sendToPlayer r p m lossy).exec w).1 = .ok () ∧
      ((sendToPlayer r p m lossy).exec w).2.player = w.player := by
  have hread : (sendToPlayer r p m lossy).exec w =
      ((w.player r p).websocket.elim (return ()) fun ws =>
        Coro.when ((w.player r p).isConnected = true) (sendText ws m lossy) : M Unit).exec w := rfl
  rw [hread]
  cases (w.player r p).websocket with
  | none => exact ⟨rfl, rfl⟩
  | some ws =>
    rw [Option.elim_some]
    unfold Coro.when
    split
    · exact exec_sendText ws m lossy w
    · exact ⟨rfl, rfl⟩

/-- A connected player is sent to. -/
theorem sends_sendToPlayer {r : RoomId} {p : PlayerId} {w : World}
    (hconn : (w.player r p).isConnected = true) (hws : (w.player r p).websocket ≠ none)
    (m : Message) (lossy : Bool) : Sends (sendToPlayer r p m lossy) w m := by
  obtain ⟨ws, hws⟩ := Option.ne_none_iff_exists'.mp hws
  change Sends ((w.player r p).websocket.elim (return ()) fun ws =>
    Coro.when ((w.player r p).isConnected = true) (sendText ws m lossy) : M Unit) w m
  rw [hws, Option.elim_some, Coro.when, if_pos hconn]
  exact sends_first (c := put _) sends_put

/-- The loop of a broadcast reaches each player that is connected. -/
theorem sends_each {r : RoomId} {ps : List PlayerId} {p : PlayerId} {m : Message} {lossy : Bool}
    {w : World} (hp : p ∈ ps) (hconn : (w.player r p).isConnected = true)
    (hws : (w.player r p).websocket ≠ none) :
    Sends (Coro.each ps fun p => sendToPlayer r p m lossy) w m := by
  induction ps generalizing w with
  | nil => cases hp
  | cons q ps ih =>
    rcases List.mem_cons.mp hp with rfl | hp
    · exact sends_first (sends_sendToPlayer hconn hws m lossy)
    · obtain ⟨hok, hplayer⟩ := exec_sendToPlayer r q m lossy w
      refine sends_after hok (ih hp ?_ ?_)
      · rw [hplayer]
        exact hconn
      · rw [hplayer]
        exact hws

theorem sends_broadcast {w : World} {code : String} (h : w.Heard code) (m : Message) :
    Sends (broadcast code m) w m := by
  obtain ⟨r, hroom, p, hp, hconn, hws⟩ := h
  change Sends ((w.roomOf code).elim (return ()) fun r => do
    (w.singleQueue r).elim
      (Coro.each (w.room r).players fun p => sendToPlayer r p m m.lossy)
      fun q => put (.send ⟨.room q code, m, m.lossy⟩)
    Coro.when (∃ p ∈ (w.room r).players, (w.player r p).websocket = none) redisCall : M Unit) w m
  rw [hroom, Option.elim_some]
  apply sends_first
  cases w.singleQueue r with
  | none => exact sends_each hp hconn hws
  | some q => exact sends_put

/-- `room.get_player` finds a member, and changes nothing that a broadcast looks at. -/
theorem exec_getPlayer {r : RoomId} {p : PlayerId} {w : World}
    (h : p ∈ (w.room r).playersById ∨ p ∈ (w.room r).players) :
    ((getPlayer r p).exec w).1 = .ok (some p) ∧
      ((getPlayer r p).exec w).2.player = w.player ∧
      (∀ code, w.Heard code → ((getPlayer r p).exec w).2.Heard code) ∧
      (((getPlayer r p).exec w).2.room r).code = (w.room r).code := by
  have hread : (getPlayer r p).exec w = (if p ∈ (w.room r).playersById then return some p
      else if p ∈ (w.room r).players then do
        put (.room r (.playersById p))
        return some p
      else return none : M (Option PlayerId)).exec w := rfl
  rw [hread]
  split
  · exact ⟨rfl, rfl, fun _ hheard => hheard, rfl⟩
  rename_i hindex
  rw [if_pos (h.resolve_left hindex)]
  have hplayers : ∀ r', (((Update.room r (.playersById p)).apply w).room r').players =
      (w.room r').players := fun r' => by
    by_cases heq : r' = r
    · subst heq
      simp [Update.apply, RoomUpdate.apply]
    · simp [Update.apply, heq]
  refine ⟨rfl, rfl, fun code hheard => ?_, ?_⟩
  · obtain ⟨r', hroom, q, hq, hsend⟩ := hheard
    exact ⟨r', hroom, q, (hplayers r').symm ▸ hq, hsend⟩
  · change (((Update.room r (.playersById p)).apply w).room r).code = _
    simp [Update.apply, RoomUpdate.apply]

variable {env : Env} {w : World} {r : RoomId} {turn : TurnState} {p : PlayerId} {text : String}

/-- An incorrect guess that is not close is sent to the room. -/
theorem Incorrect.sends (h : Incorrect env w r turn p text) (hclose : ¬env.isClose turn.word text)
    (hheard : w.Heard (w.room r).code) :
    Sends (handleGuess env r p text) w
      (.chatMessage (w.player r p).name (filterProfanity env text) false) := by
  obtain ⟨hok, hplayer, hheard', hcode⟩ := exec_getPlayer h.member
  unfold handleGuess
  rw [sends_readRoom, h.active, Option.elim_some, if_neg (by simp [h.playing]),
    if_neg (Nat.not_lt.mpr h.short)]
  refine sends_after hok ?_
  rw [Option.elim_some, sends_readPlayer, hplayer, if_neg h.notDrawer]
  simp only [h.notSpectator, h.notGuessed, h.connected, Bool.not_true, Bool.false_eq_true, if_false]
  rw [if_neg (show ¬env.lower (env.strip text) = env.lower turn.word from h.incorrect)]
  change Sends (if 3 ≤ _ ∧ _ then _ else _) _ _
  rw [if_neg (show ¬(3 ≤ (env.lower (env.strip text)).toList.length ∧ levenshteinDistance
    (env.lower (env.strip text)).toList (env.lower turn.word).toList ≤ 2) from hclose),
    hplayer, hcode]
  exact sends_broadcast (hheard' _ hheard) _

/-- **An incorrect guess is withheld from a room with listeners exactly when it is close.** -/
theorem Incorrect.withheld_iff (h : Incorrect env w r turn p text)
    (hheard : w.Heard (w.room r).code) : Withheld env w r p text ↔ env.isClose turn.word text := by
  constructor
  · intro hwithheld
    by_contra hclose
    exact hwithheld _ (h.sends hclose hheard)
  · intro hclose name hsends
    obtain ⟨-, ⟨hspectator, -⟩ | ⟨-, -, -, hnot⟩⟩ := shown_of_handleGuess h.active h.playing hsends
    · rw [h.notSpectator] at hspectator
      cases hspectator
    · exact hnot hclose

/-- **The distance of `handle_guess` is the least number of edits,** a metric, and an incorrect
guess with at least three characters is withheld exactly when two edits or fewer turn it into the
word. -/
theorem closeGuess_iff :
    (∀ s t : List Char, IsLeast {n | Edits n s t} (levenshteinDistance s t)) ∧
      (∀ s t : List Char, levenshteinDistance s t = levenshteinDistance t s) ∧
      (∀ s t u : List Char,
        levenshteinDistance s u ≤ levenshteinDistance s t + levenshteinDistance t u) ∧
      ∀ (env : Env) (w : World) (r : RoomId) (turn : TurnState) (p : PlayerId) (text : String),
        Incorrect env w r turn p text → w.Heard (w.room r).code →
        3 ≤ (env.lower (env.strip text)).toList.length →
        (Withheld env w r p text ↔ ∃ n ≤ 2,
          Edits n (env.lower (env.strip text)).toList (env.lower turn.word).toList) := by
  refine ⟨fun s t => ?_, fun s t => ?_, fun s t u => ?_, ?_⟩
  · rw [levenshteinDistance_eq]
    exact ⟨edits_dist s t, fun n hn => dist_le_of_edits hn⟩
  · rw [levenshteinDistance_eq, levenshteinDistance_eq]
    exact dist_symm s t
  · rw [levenshteinDistance_eq, levenshteinDistance_eq, levenshteinDistance_eq]
    exact dist_le_add s t u
  · intro env w r turn p text h hheard hlen
    rw [h.withheld_iff hheard, ← dist_le_iff, ← levenshteinDistance_eq]
    exact and_iff_right hlen

/-- The turn in which an owl is drawn. -/
def owlTurn : TurnState where
  turnId := 0
  drawerId := .uuid 0
  word := "owl"
  hint := []
  startTime := 0
  wordChoices := []

/-- A room in which the player `.uuid 0` draws an owl for the player `.uuid 1`. -/
def owlRoom : World where
  rooms := [("ROOM01", 0)]
  room _ :=
    { code := "ROOM01"
      hostId := .uuid 0
      players := [.uuid 0, .uuid 1]
      state := .playing
      turn := some owlTurn }
  player _ p := { id := p, name := "p", websocket := some 0 }

/-- The player `.uuid 1` guesses "bowl". -/
theorem closeGuess_bowl : Withheld sampleEnv owlRoom 0 (.uuid 1) "bowl" := by
  have hincorrect : Incorrect sampleEnv owlRoom 0 owlTurn (.uuid 1) "bowl" :=
    { active := rfl
      playing := rfl
      short := by decide
      member := .inr (by decide)
      notDrawer := by decide
      notSpectator := rfl
      notGuessed := rfl
      connected := rfl
      incorrect := by
        unfold Env.isCorrect
        decide }
  have hedit : Edit "bowl".toList "owl".toList := .delete 'b' [] ['o', 'w', 'l']
  exact (closeGuess_iff.2.2.2 sampleEnv owlRoom 0 owlTurn (.uuid 1) "bowl" hincorrect
    ⟨0, rfl, .uuid 1, by decide, rfl, by decide⟩ (by decide)).mpr ⟨1, by decide, .single hedit⟩

end Skribbl.Backend
