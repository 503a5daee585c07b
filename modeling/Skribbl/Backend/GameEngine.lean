import Mathlib.Data.Rat.Floor
import Mathlib.Tactic.NormNum
import Skribbl.Backend.Broadcast

/-!
# Turns, rounds, scores and hints (`backend/game_engine.py`)

* `Env` — the string functions of Python that the worker uses, and the word packs.
* `levenshteinDistance`, `filterProfanity`, `computeGuesserScore`, `computeDrawerBonus`,
  `revealHintChar` — the pure functions.
* `drawWordPackChoices`, `startTurn`, `handleWordSelection` — the start of a turn.
* `handleGuess`, `handleChat` — a message during a turn.
* `endTurn`, `buildGameOverPayload`, `advanceTurnOrRound` — the end of a turn.

Times and scores are computed in exact arithmetic.
-/

set_option autoImplicit false

namespace Skribbl.Backend

variable {S : List Eff}

/-- The string functions of Python, and the word packs of `backend/words.py`, none of which is
empty. -/
structure Env where
  lower : String → String
  strip : String → String
  /-- `str.split()`. -/
  split : String → List String
  isalnum : Char → Bool
  /-- `re.sub(re.escape(word), repl, text, flags=re.IGNORECASE)`. -/
  replaceIgnoreCase : String → String → String → String
  wordPacks : List Pack
  wordPacks_ne : wordPacks ≠ []
  words_ne : ∀ pack ∈ wordPacks, pack.words ≠ []

/-! ## Pure functions -/

/-- One row of the edit distance table, from the row above. -/
def levenshteinRow (c₁ : Char) : List Char → Nat → Nat → List Nat → List Nat
  | c₂ :: s₂, diag, left, up :: prev =>
    let cell := min (min (up + 1) (left + 1)) (diag + if c₁ = c₂ then 0 else 1)
    cell :: levenshteinRow c₁ s₂ up cell prev
  | _, _, _, _ => []

/-- The last row of the edit distance table; `i` rows are done. -/
def levenshteinRows (s₂ : List Char) : Nat → List Char → List Nat → List Nat
  | _, [], prev => prev
  | i, c₁ :: s₁, prev =>
    levenshteinRows s₂ (i + 1) s₁ ((i + 1) :: levenshteinRow c₁ s₂ (prev.headD 0) (i + 1) prev.tail)

/-- `_levenshtein_distance`. -/
def levenshteinDistance (s₁ s₂ : List Char) : Nat :=
  let (s₁, s₂) := if s₁.length < s₂.length then (s₂, s₁) else (s₁, s₂)
  if s₂ = [] then s₁.length
  else (levenshteinRows s₂ 0 s₁ (List.range (s₂.length + 1))).getLastD 0

/-- `PROFANITY_WORDS`. -/
def profanityWords : List String :=
  ["fuck", "shit", "bitch", "asshole", "cunt", "dick", "pussy", "bastard", "nigger", "faggot",
    "slut", "whore"]

/-- `filter_profanity`. -/
def filterProfanity (env : Env) (text : String) : String :=
  if text = "" then text
  else " ".intercalate ((env.split text).map fun word =>
    if String.ofList ((env.lower word).toList.filter env.isalnum) ∈ profanityWords then
      String.ofList (List.replicate word.length '*')
    else word)

/-- `generate_initial_hint`. -/
def generateInitialHint (word : String) : List Char :=
  word.toList.map fun ch => if ch = ' ' then ' ' else '_'

/-- `reveal_hint_char`. -/
def revealHintChar (hint : List Char) (word : String) : M (List Char) := do
  let unrevealed := (List.range hint.length).filter fun i => hint[i]? = some '_'
  if unrevealed.length ≤ 1 then return hint
  let i ← choice unrevealed
  return hint.set i (word.toList.getD i '_')

/-- `round`: to the nearest integer, and to the even one of two. -/
def pyRound (x : ℚ) : Int :=
  let n := ⌊x⌋
  if x - n < 1 / 2 then n
  else if 1 / 2 < x - n then n + 1
  else if n % 2 = 0 then n else n + 1

/-- `compute_guesser_score`. -/
def computeGuesserScore (elapsed duration : ℚ) (position : Nat) : Int :=
  let ratio := min 1 (max 0 (elapsed / duration))
  let baseScore := max 50 (pyRound (500 * (1 - ratio) ^ 2))
  let multiplier : ℚ :=
    match position with
    | 1 => 3 / 2
    | 2 => 6 / 5
    | 3 => 1
    | _ => 9 / 10
  pyRound (baseScore * multiplier)

/-- `compute_drawer_bonus`. -/
def computeDrawerBonus (guesserScores : List Int) : Int :=
  if guesserScores = [] then 0 else pyRound (guesserScores.sum / guesserScores.length)

/-! ## Word choices -/

/-- Three words of a pack, unused ones if there are enough. -/
def drawFromPack (r : RoomId) (theme : Theme) (words : List String) : M Pack := do
  let room ← readRoom r
  let unused := words.filter (· ∉ room.usedWords)
  let available := if unused.length < 3 then words else unused
  let selected ← sample available (min 3 available.length)
  return ⟨theme, selected⟩

/-- The packs for a list of sampled packs. -/
def drawFromPacks (r : RoomId) : List Pack → M (List Pack)
  | [] => return []
  | pack :: packs => do
    let drawn ← drawFromPack r pack.theme pack.words
    let rest ← drawFromPacks r packs
    return drawn :: rest

/-- The pack of the custom words. -/
def customTheme : Theme := ⟨"custom", "Custom Words", "✨"⟩

/-- The pack of the room's custom words, if it has any. -/
def drawCustomPack (r : RoomId) : M (List Pack) := do
  let room ← readRoom r
  if room.config.customWords = [] then return []
  else drawFromPacks r [⟨customTheme, room.config.customWords⟩]

/-- `draw_word_pack_choices` with its default sizes; the flat choices are the packs' first words. -/
def drawWordPackChoices (env : Env) (r : RoomId) : M (List Pack) := do
  let custom ← drawCustomPack r
  let sampledPacks ← sample env.wordPacks (min (3 - custom.length) env.wordPacks.length)
  let packs ← drawFromPacks r sampledPacks
  return custom ++ packs

/-- `WORD_TO_PACK.get`: the last pack with the word. -/
def wordToPack (env : Env) (word : String) : Option Theme :=
  (env.wordPacks.reverse.find? fun pack => word ∈ pack.words.map env.lower).map (·.theme)

/-- The theme of a selected word. -/
def themeOf (env : Env) (config : GameConfig) (word : String) : Option Theme :=
  (wordToPack env (env.lower word)).or
    (if config.customWords.any (fun w => env.lower w = env.lower word) then some customTheme
    else none)

instance (hint : List Char) (word : String) [Has .raises S] :
    Coro.Within (fp S) (revealHintChar hint word) := by
  unfold revealHintChar; dsimp only; infer_instance

instance (r : RoomId) (theme : Theme) (words : List String) [Has .raises S] :
    Coro.Within (fp S) (drawFromPack r theme words) := by
  unfold drawFromPack; dsimp only; infer_instance

instance (r : RoomId) (packs : List Pack) [Has .raises S] :
    Coro.Within (fp S) (drawFromPacks r packs) := by
  induction packs with
  | nil => unfold drawFromPacks; infer_instance
  | cons pack packs ih => unfold drawFromPacks; infer_instance

instance (r : RoomId) [Has .raises S] : Coro.Within (fp S) (drawCustomPack r) := by
  unfold drawCustomPack; infer_instance

instance (env : Env) (r : RoomId) [Has .raises S] :
    Coro.Within (fp S) (drawWordPackChoices env r) := by
  unfold drawWordPackChoices; infer_instance

/-! ## The start of a turn -/

/-- `start_turn`. -/
def startTurn (env : Env) (r : RoomId) : M Unit := do
  let room ← readRoom r
  room.players[room.drawerIndex]?.elim (raise "IndexError") fun drawerId => do
    let packs ← drawWordPackChoices env r
    put (.room r (.pendingWordChoices (some packs)))
    sendToPlayer r drawerId (.wordChoices (packs.filterMap (·.words.head?)) packs) false
    put (.room r (.state .wordSelection))
    let drawer ← readPlayer r drawerId
    broadcast room.code (.drawerSelecting drawerId drawer.name)
    let t ← createTask (.autoSelect r drawerId) 15
    put (.room r (.autoSelectTask (some (drawerId, t))))

/-- `TurnState(…)`. -/
def makeTurn (env : Env) (w : World) (r : RoomId) (drawerId : PlayerId) (word : String)
    (turnId : Nat) : TurnState where
  turnId := turnId
  drawerId := drawerId
  word := word
  hint := generateInitialHint word
  startTime := w.now
  wordChoices := (w.room r).pendingWordChoices.getD []
  theme := themeOf env (w.room r).config word

/-- `handle_word_selection` up to its first broadcast: the word becomes a turn. -/
def beginTurn (env : Env) (r : RoomId) (drawerId : PlayerId) (word : String) : M TurnState := do
  cancelAutoSelect r
  let w ← read
  put (.room r (.selectWord word))
  put (.newTurn r (makeTurn env w r drawerId word))
  put (.room r (.state .playing))
  Coro.each (w.room r).players fun p => put (.player r p (.hasGuessed false))
  put (.room r (.pendingWordChoices none))
  return makeTurn env w r drawerId word w.nextTurn

/-- The end of `handle_word_selection`: the hint tasks and the turn timer. -/
def createTurnTasks (r : RoomId) (turnId : Nat) (duration : ℚ) : M Unit := do
  let hint40 ← createTask (.revealHint r turnId) (duration * (2 / 5))
  let hint70 ← createTask (.revealHint r turnId) (duration * (7 / 10))
  let timer ← createTask (.turnTimer r turnId) duration
  put (.room r (.turnTasks turnId hint40 hint70 timer))
  mark (.timed turnId)

/-- `handle_word_selection` from its first broadcast on. -/
def announceTurn (r : RoomId) (room : Room) (turn : TurnState) : M Unit := do
  broadcast room.code (.turnStarted turn.drawerId turn.hint room.config.turnDuration
    room.currentRound turn.theme)
  sendToPlayer r turn.drawerId (.wordAssigned turn.word) false
  broadcast room.code .clearCanvas
  createTurnTasks r turn.turnId room.config.turnDuration

/-- `handle_word_selection`. -/
def handleWordSelection (env : Env) (r : RoomId) (playerId : PlayerId) (word : String) :
    M Unit := do
  let room ← readRoom r
  room.players[room.drawerIndex]?.elim (raise "IndexError") fun drawerId => do
    if playerId ≠ drawerId then return ()
    if word ∉ room.pendingWordChoices.getD [] then return ()
    let turn ← beginTurn env r drawerId word
    announceTurn r room turn

/-- `auto_select`, after its sleep. -/
def autoSelect (env : Env) (r : RoomId) (drawerId : PlayerId) : M Unit := do
  let room ← readRoom r
  room.pendingWordChoices.elim (return ()) fun choices =>
    Coro.when (room.state = .wordSelection) do
      let word ← choice choices
      handleWordSelection env r drawerId word

/-- `reveal_hint_40` and `reveal_hint_70`, after their sleep. -/
def revealHint (r : RoomId) (turnId : Nat) : M Unit := do
  let room ← readRoom r
  room.turn.elim (return ()) fun turn =>
    Coro.when (turn.turnId = turnId ∧ room.state = .playing) do
      let hint ← revealHintChar turn.hint turn.word
      put (.room r (.hint turnId hint))
      broadcast room.code (.hintUpdate hint)

set_option synthInstance.maxSize 2000

instance (env : Env) (r : RoomId) [Has .pending S] [Has .state S] [Has .autoSelect S]
    [Has .raises S] : Coro.Within (fp S) (startTurn env r) := by
  unfold startTurn; infer_instance

instance (env : Env) (r : RoomId) (drawerId : PlayerId) (word : String) [Has .autoSelect S]
    [Has .turn S] [Has .state S] [Has .guessed S] [Has .pending S] :
    Coro.Within (fp S) (beginTurn env r drawerId word) := by unfold beginTurn; infer_instance

instance (r : RoomId) (turnId : Nat) (duration : ℚ) [Has .timers S] [Has .turn S] :
    Coro.Within (fp S) (createTurnTasks r turnId duration) := by
  unfold createTurnTasks; infer_instance

instance (r : RoomId) (room : Room) (turn : TurnState) [Has .timers S] [Has .turn S] :
    Coro.Within (fp S) (announceTurn r room turn) := by unfold announceTurn; infer_instance

instance (env : Env) (r : RoomId) (playerId : PlayerId) (word : String) [Has .autoSelect S]
    [Has .turn S] [Has .state S] [Has .guessed S] [Has .pending S] [Has .timers S]
    [Has .raises S] : Coro.Within (fp S) (handleWordSelection env r playerId word) := by
  unfold handleWordSelection; infer_instance

instance (env : Env) (r : RoomId) (drawerId : PlayerId) [Has .autoSelect S]
    [Has .turn S] [Has .state S] [Has .guessed S] [Has .pending S] [Has .timers S]
    [Has .raises S] : Coro.Within (fp S) (autoSelect env r drawerId) := by
  unfold autoSelect; infer_instance

instance (r : RoomId) (turnId : Nat) [Has .turn S] [Has .raises S] :
    Coro.Within (fp S) (revealHint r turnId) := by
  unfold revealHint; infer_instance

/-! ## The end of a turn -/

/-- `d[k] = v` for a dict. -/
def dictSet {α β : Type} [DecidableEq α] (d : List (α × β)) (k : α) (v : β) : List (α × β) :=
  if d.any (·.1 = k) then d.map fun x => if x.1 = k then (k, v) else x else d ++ [(k, v)]

theorem mem_dictSet {α β : Type} [DecidableEq α] {d : List (α × β)} {k : α} {v : β} {x : α × β}
    (h : x ∈ dictSet d k v) : x ∈ d ∨ x = (k, v) := by
  unfold dictSet at h
  split at h
  · obtain ⟨y, hy, rfl⟩ := List.mem_map.mp h
    split
    · exact .inr rfl
    · exact .inl hy
  · simpa using h

/-- The loop over `guess_order` in `end_turn`; the result is each score with its player. -/
def scoreGuessers (r : RoomId) (turn : TurnState) (duration : ℚ) :
    Nat → List PlayerId → M (List (PlayerId × Int))
  | _, [] => return []
  | position, p :: ps => do
    let found ← getPlayer r p
    found.elim (scoreGuessers r turn duration (position + 1) ps) fun p => do
      let w ← read
      let player := w.player r p
      let elapsed := max 0 (min (player.guessTime.getD w.now - turn.startTime) duration)
      let score := computeGuesserScore elapsed duration position
      put (.player r p (.score (player.score + score)))
      mark (.credits turn.turnId p)
      put (.player r p (.correctGuessesCount (player.correctGuessesCount + 1)))
      Coro.when (player.fastestGuessTime.all fun t => elapsed < t)
        (put (.player r p (.fastestGuessTime (some elapsed))))
      put (.player r p (.streak (player.streak + 1)))
      put (.player r p (.maxStreak (max player.maxStreak (player.streak + 1))))
      let rest ← scoreGuessers r turn duration (position + 1) ps
      return (p, score) :: rest

/-- The scores of a turn in `end_turn`; the result is the payload. -/
def scoreTurn (r : RoomId) (turn : TurnState) (duration : ℚ) : M (List (PlayerId × Int)) := do
  let scores ← scoreGuessers r turn duration 1 turn.guessOrder
  let room ← readRoom r
  Coro.each (room.players.filter fun p => p ≠ turn.drawerId ∧ p ∉ turn.guessOrder) fun p =>
    put (.player r p (.streak 0))
  let payload := scores.foldl (fun d x => dictSet d x.1 x.2) []
  let drawerBonus := computeDrawerBonus (scores.map (·.2))
  let found ← getPlayer r turn.drawerId
  found.elim (return payload) fun p => do
    let drawer ← readPlayer r p
    put (.player r p (.score (drawer.score + drawerBonus)))
    mark (.credits turn.turnId p)
    put (.player r p (.drawerPointsEarned (drawer.drawerPointsEarned + drawerBonus)))
    return dictSet payload p drawerBonus

/-- `max(…, key=…, default=None)`: the first of the greatest. -/
def firstMax {α β : Type} [LinearOrder β] (key : α → β) : List α → Option α
  | [] => none
  | a :: l => some ((firstMax key l).elim a fun b => if key a < key b then b else a)

/-- The awards in `build_game_over_payload`. -/
def mvpAwards (players : List Player) : List Award :=
  let award (badge title : String) (best : Option Player) (stat : Player → ℚ) : List Award :=
    best.elim [] fun p => [⟨badge, title, p.id, p.name, stat p⟩]
  award "⚡ Speed Demon" "Fastest Guesser"
      (firstMax (fun p => -p.fastestGuessTime.getD 0)
        (players.filter fun p => p.fastestGuessTime.isSome)) (fun p => p.fastestGuessTime.getD 0) ++
    award "🎨 Master Artist" "Top Drawer"
      (firstMax (·.drawerPointsEarned) (players.filter fun p => 0 < p.drawerPointsEarned))
      (·.drawerPointsEarned) ++
    award "🔥 Streak King" "Longest Streak"
      (firstMax (·.maxStreak) (players.filter fun p => 2 ≤ p.maxStreak)) (·.maxStreak) ++
    award "🎯 Sharpshooter" "Most Guesses"
      (firstMax (·.correctGuessesCount) (players.filter fun p => 0 < p.correctGuessesCount))
      (·.correctGuessesCount)

/-- `build_game_over_payload`. -/
def buildGameOverPayload (r : RoomId) : M GameOverInfo := do
  let w ← read
  let activePlayers := w.activePlayers r
  let ranked := activePlayers.mergeSort fun p q => (w.player r q).score ≤ (w.player r p).score
  let topScore := (ranked.head?.map fun p => (w.player r p).score).getD 0
  Coro.when (0 < topScore) <|
    Coro.each (ranked.filter fun p => (w.player r p).score = topScore) fun p =>
      put (.player r p (.sessionWins ((w.player r p).sessionWins + 1)))
  Coro.each activePlayers fun p => do
    put (.player r p (.sessionScore ((w.player r p).sessionScore + (w.player r p).score)))
    put (.player r p (.sessionGames ((w.player r p).sessionGames + 1)))
  let w' ← read
  let board := activePlayers.mergeSort fun p q =>
    (w'.player r q).sessionWins < (w'.player r p).sessionWins ∨
      (w'.player r q).sessionWins = (w'.player r p).sessionWins ∧
        (w'.player r q).sessionScore ≤ (w'.player r p).sessionScore
  return {
    scores := ranked.map fun p => (p, (w'.player r p).name, (w'.player r p).score)
    mvpAwards := mvpAwards (activePlayers.map (w'.player r))
    sessionStats := board.map fun p =>
      ⟨p, (w'.player r p).name, (w'.player r p).sessionScore, (w'.player r p).sessionWins,
        (w'.player r p).sessionGames⟩ }

/-- The game is over: the final broadcast of `advance_turn_or_round`. -/
def gameOver (r : RoomId) : M Unit := do
  mark (.finishes r true)
  put (.room r (.state .gameOver))
  let info ← buildGameOverPayload r
  let room ← readRoom r
  broadcast room.code (.gameOver info)

/-- `drawer_index += 1`, and the next round behind the last player. -/
def nextDrawer (r : RoomId) : M Unit := do
  let room ← readRoom r
  if room.players.length ≤ room.drawerIndex + 1 then
    put (.room r (.drawerIndex 0))
    put (.room r (.currentRound (room.currentRound + 1)))
  else put (.room r (.drawerIndex (room.drawerIndex + 1)))

/-- What an observer sees of a turn that `advance_turn_or_round` starts. -/
def World.beginning (w : World) (r : RoomId) : Mark :=
  .begins r (w.room r).currentRound (w.room r).drawerIndex (w.room r).config.numRounds
    (w.room r).players.length

/-- The loop of `advance_turn_or_round` that skips players; the number is the attempts left. -/
def skipPlayers (env : Env) (r : RoomId) : Nat → M Unit
  | 0 => gameOver r
  | attempts + 1 => do
    let w ← read
    (w.room r).players[(w.room r).drawerIndex]?.elim (raise "IndexError") fun p =>
      if (w.player r p).isConnected && !(w.player r p).isSpectator then do
        mark (w.beginning r)
        startTurn env r
      else do
        nextDrawer r
        let room ← readRoom r
        if room.currentRound > room.config.numRounds then gameOver r
        else skipPlayers env r attempts

/-- `advance_turn_or_round`. -/
def advanceTurnOrRound (env : Env) (r : RoomId) : M Unit := do
  let w ← read
  if (w.connectedActive r).length < 2 then endGameInsufficientPlayers r
  else do
    nextDrawer r
    let room ← readRoom r
    if room.currentRound > room.config.numRounds then gameOver r
    else skipPlayers env r room.players.length

/-- The scores of a turn that ends for a reason. -/
def turnScores (r : RoomId) (turn : TurnState) (duration : ℚ) (reason : TurnEndReason) :
    M (List (PlayerId × Int)) :=
  if reason = .drawerDisconnected then return [] else scoreTurn r turn duration

/-- `end_turn`, once the tasks of the turn are cancelled. -/
def finishTurn (env : Env) (r : RoomId) (code : String) (duration : ℚ) (turn : TurnState)
    (reason : TurnEndReason) : M Unit := do
  let scores ← turnScores r turn duration reason
  Coro.frame (.turnEnded r turn.turnId) (broadcast code (.turnEnded turn.word scores reason))
  put (.room r .clearTurn)
  mark (.advances r turn.turnId)
  advanceTurnOrRound env r

/-- `end_turn`. -/
def endTurn (env : Env) (r : RoomId) (reason : TurnEndReason) : M Unit := do
  let room ← readRoom r
  room.turn.elim (return ()) fun turn => do
    mark (.ends r turn.turnId)
    cancelTurnTasks r turn
    finishTurn env r room.code room.config.turnDuration turn reason

/-- `turn_timer`, after its sleep. -/
def turnTimer (env : Env) (r : RoomId) (turnId : Nat) : M Unit := do
  let room ← readRoom r
  room.turn.elim (return ()) fun turn =>
    Coro.when (turn.turnId = turnId ∧ room.state = .playing) (endTurn env r .timerExpired)

instance (r : RoomId) (turn : TurnState) (duration : ℚ) (position : Nat) (ps : List PlayerId)
    [Has .ending S] : Coro.Within (fp S) (scoreGuessers r turn duration position ps) := by
  induction ps generalizing position with
  | nil => unfold scoreGuessers; infer_instance
  | cons p ps ih => unfold scoreGuessers; dsimp only; infer_instance

instance (r : RoomId) (turn : TurnState) (duration : ℚ) [Has .ending S] :
    Coro.Within (fp S) (scoreTurn r turn duration) := by
  unfold scoreTurn; dsimp only; infer_instance

instance (r : RoomId) : Coro.Within (fp S) (buildGameOverPayload r) := by
  unfold buildGameOverPayload; dsimp only; infer_instance

instance (r : RoomId) [Has .state S] : Coro.Within (fp S) (gameOver r) := by
  unfold gameOver; infer_instance

instance (r : RoomId) [Has .schedule S] : Coro.Within (fp S) (nextDrawer r) := by
  unfold nextDrawer; infer_instance

instance (w : World) (r : RoomId) [h : Has .schedule S] : Has (w.beginning r).eff S := ⟨h.out⟩

instance (env : Env) (r : RoomId) (attempts : Nat) [Has .schedule S] [Has .state S]
    [Has .pending S] [Has .autoSelect S] [Has .raises S] :
    Coro.Within (fp S) (skipPlayers env r attempts) := by
  induction attempts with
  | zero => unfold skipPlayers; infer_instance
  | succ attempts ih => unfold skipPlayers; infer_instance

instance (env : Env) (r : RoomId) [Has .schedule S] [Has .state S] [Has .pending S]
    [Has .autoSelect S] [Has .countdown S] [Has .raises S] :
    Coro.Within (fp S) (advanceTurnOrRound env r) := by
  unfold advanceTurnOrRound; infer_instance

instance (x : Frame) {α : Type} (c : M α) [h : Has x.eff S] [hc : Coro.Within (fp S) c] :
    Coro.Within (fp S) (c.frame x) := hc.frame h.out

instance (r : RoomId) (turnId : Nat) [h : Has .ending S] : Has (Frame.turnEnded r turnId).eff S :=
  ⟨h.out⟩

instance (r : RoomId) (turn : TurnState) (duration : ℚ) (reason : TurnEndReason)
    [Has .ending S] : Coro.Within (fp S) (turnScores r turn duration reason) := by
  unfold turnScores; infer_instance

instance (env : Env) (r : RoomId) (code : String) (duration : ℚ) (turn : TurnState)
    (reason : TurnEndReason) [Has .ending S] [Has .turn S] [Has .schedule S] [Has .state S]
    [Has .pending S] [Has .autoSelect S] [Has .countdown S] [Has .raises S] :
    Coro.Within (fp S) (finishTurn env r code duration turn reason) := by
  unfold finishTurn; infer_instance

instance (env : Env) (r : RoomId) (reason : TurnEndReason) [Has .ending S] [Has .timers S]
    [Has .turn S] [Has .schedule S] [Has .state S] [Has .pending S] [Has .autoSelect S]
    [Has .countdown S] [Has .raises S] : Coro.Within (fp S) (endTurn env r reason) := by
  unfold endTurn; infer_instance

instance (env : Env) (r : RoomId) (turnId : Nat) [Has .ending S] [Has .timers S]
    [Has .turn S] [Has .schedule S] [Has .state S] [Has .pending S] [Has .autoSelect S]
    [Has .countdown S] [Has .raises S] : Coro.Within (fp S) (turnTimer env r turnId) := by
  unfold turnTimer; infer_instance

/-! ## Guesses and chat -/

/-- A chat line. -/
def broadcastChat (code playerName text : String) (isSystem : Bool) : M Unit :=
  broadcast code (.chatMessage playerName text isSystem)

/-- The end of the turn once all connected guessers have guessed; `room.turn` is read again. -/
def endTurnIfAllGuessed (env : Env) (r : RoomId) : M Unit := do
  let w ← read
  (w.room r).turn.elim
    (if (w.room r).players = [] then endTurn env r .allGuessed else raise "AttributeError")
    fun turn => Coro.when (w.allGuessed r turn.drawerId = true) (endTurn env r .allGuessed)

/-- A correct guess in `handle_guess`. -/
def correctGuess (env : Env) (r : RoomId) (p : PlayerId) : M Unit := do
  let w ← read
  put (.player r p (.hasGuessed true))
  put (.player r p (.guessTime w.now))
  put (.room r (.guessOrder p))
  broadcast (w.room r).code (.guessCorrect (w.player r p).name)
  endTurnIfAllGuessed env r

/-- An incorrect guess in `handle_guess`. -/
def incorrectGuess (env : Env) (r : RoomId) (p : PlayerId) (text word : String) : M Unit := do
  let w ← read
  let guess := (env.lower (env.strip text)).toList
  if 3 ≤ guess.length ∧ levenshteinDistance guess (env.lower word).toList ≤ 2 then
    broadcastChat (w.room r).code "System" ((w.player r p).name ++ " is very close!") true
  else
    broadcastChat (w.room r).code (w.player r p).name (filterProfanity env text) false

/-- `handle_guess`. -/
def handleGuess (env : Env) (r : RoomId) (playerId : PlayerId) (text : String) : M Unit := do
  let room ← readRoom r
  room.turn.elim (return ()) fun turn => do
    if room.state ≠ .playing then return ()
    if 100 < text.length then return ()
    (← getPlayer r playerId).elim (return ()) fun p => do
      let player ← readPlayer r p
      if p = turn.drawerId then return ()
      if player.isSpectator then
        broadcastChat room.code (player.name ++ " (Spectator)")
          (filterProfanity env (env.replaceIgnoreCase turn.word "***" text)) false
      else if player.hasGuessed then return ()
      else if !player.isConnected then return ()
      else if env.lower (env.strip text) = env.lower turn.word then correctGuess env r p
      else incorrectGuess env r p text turn.word

/-- `handle_chat`. -/
def handleChat (env : Env) (r : RoomId) (playerId : PlayerId) (text : String) : M Unit := do
  let room ← readRoom r
  room.turn.elim (return ()) fun turn => do
    if room.state ≠ .playing then return ()
    (← getPlayer r playerId).elim (return ()) fun p => do
      let player ← readPlayer r p
      if p ≠ turn.drawerId ∧ player.isSpectator = false then return ()
      let name := if player.isSpectator then player.name ++ " (Spectator)" else player.name
      broadcastChat room.code name
        (filterProfanity env (env.replaceIgnoreCase turn.word "***" text)) false

instance (code playerName text : String) (isSystem : Bool) :
    Coro.Within (fp S) (broadcastChat code playerName text isSystem) := by
  unfold broadcastChat; infer_instance

instance (env : Env) (r : RoomId) [Has .ending S] [Has .timers S] [Has .turn S]
    [Has .schedule S] [Has .state S] [Has .pending S] [Has .autoSelect S] [Has .countdown S]
    [Has .raises S] : Coro.Within (fp S) (endTurnIfAllGuessed env r) := by
  unfold endTurnIfAllGuessed; infer_instance

instance (env : Env) (r : RoomId) (p : PlayerId) [Has .guessed S] [Has .ending S]
    [Has .timers S] [Has .turn S] [Has .schedule S] [Has .state S] [Has .pending S]
    [Has .autoSelect S] [Has .countdown S] [Has .raises S] :
    Coro.Within (fp S) (correctGuess env r p) := by unfold correctGuess; infer_instance

instance (env : Env) (r : RoomId) (p : PlayerId) (text word : String) :
    Coro.Within (fp S) (incorrectGuess env r p text word) := by
  unfold incorrectGuess; dsimp only; infer_instance

instance (env : Env) (r : RoomId) (p : PlayerId) (text : String) [Has .guessed S]
    [Has .ending S] [Has .timers S] [Has .turn S] [Has .schedule S] [Has .state S]
    [Has .pending S] [Has .autoSelect S] [Has .countdown S] [Has .raises S] :
    Coro.Within (fp S) (handleGuess env r p text) := by unfold handleGuess; infer_instance

instance (env : Env) (r : RoomId) (p : PlayerId) (text : String) :
    Coro.Within (fp S) (handleChat env r p text) := by
  unfold handleChat; dsimp only; infer_instance

end Skribbl.Backend
