import Mathlib.Tactic.Linarith
import Skribbl.Lib.Execution
import Skribbl.Lib.Text
import Skribbl.Backend.GameEngine

/-!
# The secrecy of the word (`handle_guess`, `handle_chat`, `filter_profanity`)

* `Sends` — a call sends a message itself, whatever the others do while it is suspended.
* `utters` — the footprint of a call that sends only certain messages.
* `Env.Textual` — what Python documents of `str.split` and of `re.sub` with `re.IGNORECASE`.
* `Secret` — no chat message of a turn reveals its word; `Env.Leaks` — the words for which one does.

Principal result: `secret_iff` — the word of a turn is secret exactly if it does not leak.
-/

set_option autoImplicit false
set_option synthInstance.maxSize 100000

namespace Skribbl.Backend

open Coro

/-! ## What a call sends -/

/-- Called in `w`, the call sends `m` itself. -/
def Sends {α : Type} (c : M α) (w : World) (m : Message) : Prop :=
  ∃ w₁ w₂ x, c.Makes (fun _ _ => True) w w₁ w₂ ∧ w₂.outbox = w₁.outbox ++ [x] ∧ x.message = m

/-- The footprint of a call that sends only such messages. -/
def utters (ok : Message → Prop) : Footprint World Frame Mark where
  change w w' := ∀ x, w'.outbox = w.outbox ++ [x] → ok x.message
  frame _ := True
  mark _ := True
  fails := True

variable {ok : Message → Prop}

theorem Sends.uttered {α : Type} {c : M α} (hc : Within (utters ok) c) {w : World} {m : Message}
    (h : Sends c w m) : ok m := by
  obtain ⟨w₁, w₂, x, hmakes, hout, rfl⟩ := h
  exact hmakes.within hc x hout

/-- The message is one that may be sent. -/
class Allowed (ok : Message → Prop) (m : Message) : Prop where
  out : ok m

/-- The assignment sends nothing. -/
class Silent (u : Update) : Prop where
  out : ∀ w, (u.apply w).outbox = w.outbox

instance (r : RoomId) (u : RoomUpdate) : Silent (.room r u) := ⟨fun _ => rfl⟩

instance (r : RoomId) (p : PlayerId) (u : PlayerUpdate) : Silent (.player r p u) := ⟨fun _ => rfl⟩

instance (kind : TaskKind) (d : ℚ) : Silent (.createTask kind d) := ⟨fun _ => rfl⟩

instance (t : TaskId) : Silent (.cancel t) := ⟨fun _ => rfl⟩

instance (l : List Nat) : Silent (.oracle l) := ⟨fun _ => rfl⟩

instance : Within (utters ok) read := .get _ fun _ => .pure _

instance (u : Update) [h : Silent u] : Within (utters ok) (put u) :=
  .modify _ _ (fun w x hx => by simp [h.out] at hx) (.pure _)

instance (x : Recipient) (m : Message) (lossy : Bool) [h : Allowed ok m] :
    Within (utters ok) (put (.send ⟨x, m, lossy⟩)) := by
  refine .modify _ _ (fun w y hy => ?_) (.pure _)
  simp only [Update.apply, List.append_cancel_left_eq, List.cons.injEq, and_true] at hy
  exact hy ▸ h.out

instance {α : Type} (e : String) : Within (utters ok) (raise e : M α) := .raise e trivial

instance (e : Mark) : Within (utters ok) (mark e) := .mark _ _ trivial (.pure _)

instance : Within (utters ok) suspend := .await _ _ (fun _ _ => trivial) (.pure _)

instance {α : Type} (x : Frame) (c : M α) [h : Within (utters ok) c] :
    Within (utters ok) (c.frame x) := h.frame trivial

section Silence

instance (r : RoomId) : Within (utters ok) (readRoom r) := by unfold readRoom; infer_instance

instance (r : RoomId) (p : PlayerId) : Within (utters ok) (readPlayer r p) := by
  unfold readPlayer; infer_instance

instance (kind : TaskKind) (d : ℚ) : Within (utters ok) (createTask kind d) := by
  unfold createTask; infer_instance

instance (kind : TaskKind) (n : Option Nat) : Within (utters ok) (cancel kind n) := by
  unfold cancel; infer_instance

instance (n : Nat) : Within (utters ok) (randrange n) := by unfold randrange; infer_instance

instance {α : Type} (l : List α) (k : Nat) : Within (utters ok) (sample l k) := by
  induction k generalizing l with
  | zero => unfold sample; infer_instance
  | succ k ih => cases l <;> unfold sample <;> infer_instance

instance (r : RoomId) (p : PlayerId) : Within (utters ok) (getPlayer r p) := by
  unfold getPlayer; infer_instance

instance : Within (utters ok) redisCall := by unfold redisCall; infer_instance

instance (r : RoomId) (turn : TurnState) : Within (utters ok) (cancelTurnTasks r turn) := by
  unfold cancelTurnTasks; infer_instance

instance (r : RoomId) (theme : Theme) (l : List String) :
    Within (utters ok) (drawFromPack r theme l) := by
  unfold drawFromPack; dsimp only; infer_instance

instance (r : RoomId) (packs : List Pack) : Within (utters ok) (drawFromPacks r packs) := by
  induction packs with
  | nil => unfold drawFromPacks; infer_instance
  | cons pack packs ih => unfold drawFromPacks; infer_instance

instance (env : Env) (r : RoomId) : Within (utters ok) (drawWordPackChoices env r) := by
  unfold drawWordPackChoices drawCustomPack; infer_instance

instance (r : RoomId) (turn : TurnState) (duration : ℚ) (i : Nat) (ps : List PlayerId) :
    Within (utters ok) (scoreGuessers r turn duration i ps) := by
  induction ps generalizing i with
  | nil => unfold scoreGuessers; infer_instance
  | cons p ps ih => unfold scoreGuessers; dsimp only; infer_instance

instance (r : RoomId) (turn : TurnState) (duration : ℚ) (reason : TurnEndReason) :
    Within (utters ok) (turnScores r turn duration reason) := by
  unfold turnScores scoreTurn; dsimp only; infer_instance

instance (r : RoomId) : Within (utters ok) (buildGameOverPayload r) := by
  unfold buildGameOverPayload; dsimp only; infer_instance

instance (r : RoomId) : Within (utters ok) (nextDrawer r) := by unfold nextDrawer; infer_instance

end Silence

section Messages

variable {m : Message} [Allowed ok m]

instance (ws : WsId) (lossy : Bool) : Within (utters ok) (sendText ws m lossy) := by
  unfold sendText; infer_instance

instance (r : RoomId) (p : PlayerId) (lossy : Bool) :
    Within (utters ok) (sendToPlayer r p m lossy) := by
  unfold sendToPlayer; infer_instance

instance (code : String) : Within (utters ok) (broadcast code m) := by
  unfold broadcast; infer_instance

end Messages

/-- Anything but the relay of a member's text. -/
def NotRelayed (m : Message) : Prop := ∀ name text, m ≠ .chatMessage name text false

section Game

instance (l : List String) (packs : List Pack) :
    Allowed NotRelayed (.wordChoices l packs) := ⟨nofun⟩

instance (p : PlayerId) (name : String) : Allowed NotRelayed (.drawerSelecting p name) := ⟨nofun⟩

instance (info : GameOverInfo) : Allowed NotRelayed (.gameOver info) := ⟨nofun⟩

instance (n : Nat) : Allowed NotRelayed (.waitingForReconnect n) := ⟨nofun⟩

instance (word : String) (scores : List (PlayerId × Int)) (reason : TurnEndReason) :
    Allowed NotRelayed (.turnEnded word scores reason) := ⟨nofun⟩

instance (name : String) : Allowed NotRelayed (.guessCorrect name) := ⟨nofun⟩

instance (name text : String) : Allowed NotRelayed (.chatMessage name text true) := ⟨nofun⟩

instance (env : Env) (r : RoomId) : Within (utters NotRelayed) (startTurn env r) := by
  unfold startTurn; infer_instance

instance (r : RoomId) : Within (utters NotRelayed) (gameOver r) := by
    unfold gameOver; infer_instance

instance (r : RoomId) : Within (utters NotRelayed) (endGameInsufficientPlayers r) := by
  unfold endGameInsufficientPlayers; infer_instance

instance (env : Env) (r : RoomId) (attempts : Nat) :
    Within (utters NotRelayed) (skipPlayers env r attempts) := by
  induction attempts with
  | zero => unfold skipPlayers; infer_instance
  | succ attempts ih => unfold skipPlayers; infer_instance

instance (env : Env) (r : RoomId) : Within (utters NotRelayed) (advanceTurnOrRound env r) := by
  unfold advanceTurnOrRound; infer_instance

instance (env : Env) (r : RoomId) (reason : TurnEndReason) :
    Within (utters NotRelayed) (endTurn env r reason) := by
  unfold endTurn finishTurn; infer_instance

/-- **A correct guess is not relayed.** -/
instance (env : Env) (r : RoomId) (p : PlayerId) :
    Within (utters NotRelayed) (correctGuess env r p) := by
  unfold correctGuess endTurnIfAllGuessed; infer_instance

end Game

/-! ## The texts that are relayed -/

/-- `clean_word in PROFANITY_WORDS`. -/
def Env.profane (env : Env) (t : List Char) : Bool :=
  String.ofList ((env.lower (String.ofList t)).toList.filter env.isalnum) ∈ profanityWords

/-- What Python documents of `str.split`, of `re.sub` with `re.IGNORECASE`, and of the characters
that are whitespace and that are equal up to case. -/
structure Env.Textual (env : Env) (isspace : Char → Bool) (fold : Char → Char) : Prop where
  split : ∀ s, env.split s = (Text.words isspace s.toList).map String.ofList
  replace : ∀ word repl text, word ≠ "" → env.replaceIgnoreCase word repl text =
    String.ofList (Text.mask fold word.toList repl.toList 0 text.toList)
  space : isspace ' ' = true
  tab : isspace '\t' = true
  star : ∀ c, fold c = fold '*' → c = '*'
  fold_space : ∀ c, fold c = fold ' ' → c = ' '

/-- A word that can be drawn: not empty, without the masking character, and trimmed. -/
structure Playable (isspace : Char → Bool) (word : String) : Prop where
  ne : word ≠ ""
  star : '*' ∉ word.toList
  first : ∀ c l, word.toList = c :: l → isspace c = false
  last : ∀ c l, word.toList = l ++ [c] → isspace c = false

/-- A text contains the word, up to case. -/
def Contains (fold : Char → Char) (word text : String) : Prop :=
  Text.Occurs fold word.toList text.toList

/-- The word has a space in it, and it can be spelled in a row of words that `filter_profanity`
leaves alone. -/
def Env.Leaks (env : Env) (isspace : Char → Bool) (fold : Char → Char) (word : String) : Prop :=
  ' ' ∈ word.toList ∧ ∃ us : List (List Char),
    (∀ u ∈ us, Text.Word isspace u ∧ env.profane u = false) ∧
      Text.Occurs fold word.toList ([' '].intercalate us)

variable {env : Env} {isspace : Char → Bool} {fold : Char → Char}

/-- `filter_profanity` censors the words and joins them by single spaces. -/
theorem filterProfanity_toList (henv : env.Textual isspace fold) (text : String) :
    (filterProfanity env text).toList =
      [' '].intercalate ((Text.words isspace text.toList).map (Text.censor env.profane '*')) := by
  unfold filterProfanity
  split
  · rename_i h
    subst h
    rfl
  · rw [String.toList_intercalate, henv.split, List.map_map, List.map_map]
    congr 1
    apply List.map_congr_left
    intro t _
    have hprofane : env.profane t = true ↔
        String.ofList ((env.lower (String.ofList t)).toList.filter env.isalnum) ∈
          profanityWords := by
      rw [Env.profane, decide_eq_true_iff]
    simp only [Function.comp, Text.censor, hprofane]
    split <;> simp

section Reading

variable {word : String} (henv : env.Textual isspace fold) (hword : Playable isspace word)
include henv hword

/-- Where a relayed text contains the word, it is read in a row of words of the text. -/
theorem row_of_contains {text : String} (h : Contains fold word (filterProfanity env text)) :
    ∃ x us, x.map fold = word.toList.map fold ∧ '*' ∉ x ∧ x ≠ [] ∧
      us <:+: Text.words isspace text.toList ∧ (∀ u ∈ us, env.profane u = false) ∧
      x <:+: [' '].intercalate us := by
  obtain ⟨x, hinfix, hx⟩ := Text.occurs_iff.mp h
  rw [filterProfanity_toList henv] at hinfix
  have hne : x ≠ [] := by
    rintro rfl
    exact hword.ne (by simpa using hx.symm)
  have hstar : '*' ∉ x := by
    intro hmem
    have hfold : fold '*' ∈ word.toList.map fold := hx ▸ List.mem_map_of_mem hmem
    obtain ⟨c, hc, heq⟩ := List.mem_map.mp hfold
    exact hword.star (henv.star c heq ▸ hc)
  -- the ends of the word are no spaces, so neither are those of the part
  have hfirst : ∀ y, x ≠ ' ' :: y := by
    rintro y rfl
    obtain ⟨c, l, hcons⟩ := List.exists_cons_of_ne_nil (l := word.toList) (by simpa using hword.ne)
    rw [hcons, List.map_cons, List.map_cons, List.cons.injEq] at hx
    have hc := hword.first c l hcons
    rw [henv.fold_space c hx.1.symm, henv.space] at hc
    cases hc
  have hlast : ∀ y, x ≠ y ++ [' '] := by
    rintro y rfl
    obtain ⟨l, c, hsnoc⟩ := List.eq_nil_or_concat word.toList |>.resolve_left
      (by simpa using hword.ne)
    rw [List.concat_eq_append] at hsnoc
    rw [hsnoc, List.map_append, List.map_append] at hx
    have heq := (List.append_inj' hx rfl).2
    have hc := hword.last c l hsnoc
    rw [henv.fold_space c (by simpa using heq.symm), henv.space] at hc
    cases hc
  obtain ⟨us, hus, hprofane, hrow⟩ := Text.row_of_infix
    (fun t ht => (Text.mem_words ht).1.1) hne hstar hfirst hlast hinfix
  exact ⟨x, us, hx, hstar, hne, hus, hprofane, hrow⟩

/-- If the word does not leak, then where a relayed text contains it, the text itself does, at a
place without a star. -/
theorem place_of_contains (hleaks : ¬env.Leaks isspace fold word) {text : String}
    (h : Contains fold word (filterProfanity env text)) :
    ∃ x, x.map fold = word.toList.map fold ∧ '*' ∉ x ∧ x <:+: text.toList := by
  obtain ⟨x, us, hx, hstar, hne, hus, hprofane, hrow⟩ := row_of_contains henv hword h
  have hspace : ' ' ∉ x := by
    intro hmem
    have hfold : fold ' ' ∈ word.toList.map fold := hx ▸ List.mem_map_of_mem hmem
    obtain ⟨c, hc, heq⟩ := List.mem_map.mp hfold
    refine hleaks ⟨henv.fold_space c heq ▸ hc, us, fun u hu => ?_,
      Text.occurs_iff.mpr ⟨x, hrow, hx⟩⟩
    exact ⟨(Text.mem_words (hus.subset hu)).1, hprofane u hu⟩
  obtain ⟨u, hu, hinfix⟩ := Text.mem_of_infix_intercalate hne hspace hrow
  exact ⟨x, hx, hstar, hinfix.trans (Text.mem_words (hus.subset hu)).2⟩

/-- A word that does not leak is not in a masked text that is relayed. -/
theorem not_contains_of_masked (hleaks : ¬env.Leaks isspace fold word) (text : String) :
    ¬Contains fold word (filterProfanity env (env.replaceIgnoreCase word "***" text)) := by
  intro h
  obtain ⟨x, hx, hstar, hinfix⟩ := place_of_contains henv hword hleaks h
  rw [henv.replace word _ _ hword.ne, String.toList_ofList] at hinfix
  exact Text.not_occurs_of_mask (by simpa using hword.ne) (by simp) (by simp) hstar hinfix hx

/-- A word that does not leak is in a relayed text only if it was in the text. -/
theorem contains_of_relayed (hleaks : ¬env.Leaks isspace fold word) {text : String}
    (h : Contains fold word (filterProfanity env text)) : Contains fold word text := by
  obtain ⟨x, hx, -, hinfix⟩ := place_of_contains henv hword hleaks h
  exact Text.occurs_iff.mpr ⟨x, hinfix, hx⟩

omit hword in
/-- **A word that leaks is in a masked text that is relayed**: its row of words, with tabs between
them. -/
theorem contains_of_leaks (hword : word ≠ "") (hleaks : env.Leaks isspace fold word) :
    ∃ text, Contains fold word (filterProfanity env (env.replaceIgnoreCase word "***" text)) := by
  obtain ⟨hspace, us, hus, hoccurs⟩ := hleaks
  refine ⟨String.ofList (['\t'].intercalate us), ?_⟩
  have hmask : ¬Text.Occurs fold word.toList (['\t'].intercalate us) := by
    -- the word has a space, and this text has none
    intro h
    obtain ⟨x, hinfix, hx⟩ := Text.occurs_iff.mp h
    have hfold : fold ' ' ∈ x.map fold := hx ▸ List.mem_map_of_mem hspace
    obtain ⟨c, hc, heq⟩ := List.mem_map.mp hfold
    have hmem : ' ' ∈ ['\t'].intercalate us := henv.fold_space c heq ▸ hinfix.subset hc
    have hall : ∀ c ∈ ['\t'].intercalate us, c = '\t' ∨ ∃ u ∈ us, c ∈ u := by
      cases us with
      | nil => simp
      | cons u us =>
        rw [Text.intercalate_cons]
        intro c hc
        simp only [List.mem_append, List.mem_flatMap, List.mem_cons] at hc ⊢
        rcases hc with hc | ⟨v, hv, rfl | hc⟩
        · exact .inr ⟨u, .inl rfl, hc⟩
        · exact .inl rfl
        · exact .inr ⟨v, .inr hv, hc⟩
    rcases hall ' ' hmem with h | ⟨u, hu, hc⟩
    · exact absurd h (by decide)
    · have := (hus u hu).1.2 ' ' hc
      rw [henv.space] at this
      cases this
  rw [henv.replace word _ _ hword, Contains, filterProfanity_toList henv]
  simp only [String.toList_ofList]
  rw [Text.mask_of_not_occurs hmask, Text.words_intercalate henv.tab fun u hu => (hus u hu).1]
  have hcensor : us.map (Text.censor env.profane '*') = us := by
    conv_rhs => rw [← List.map_id us]
    apply List.map_congr_left
    intro u hu
    simp [Text.censor, (hus u hu).2]
  rwa [hcensor]

end Reading

/-! ## Guesses and chat -/

/-- The guess is the word, as `handle_guess` compares them. -/
def Env.isCorrect (env : Env) (word text : String) : Prop :=
  env.lower (env.strip text) = env.lower word

/-- The guess is close to the word, as `handle_guess` classifies it. -/
def Env.isClose (env : Env) (word text : String) : Prop :=
  3 ≤ (env.lower (env.strip text)).toList.length ∧
    levenshteinDistance (env.lower (env.strip text)).toList (env.lower word).toList ≤ 2

/-- What may be relayed of a text in a turn: a drawer's or a spectator's without the word, and a
guess with the word only if the guesser wrote it, and never a correct or a close one. -/
structure RelayedSafely (env : Env) (fold : Char → Char) (word : String) (insider : Prop)
    (text shown : String) : Prop where
  masked : insider → ¬Contains fold word shown
  guess : ¬insider → Contains fold word shown → Contains fold word text
  correct : ¬insider → ¬env.isCorrect word text
  close : ¬insider → ¬env.isClose word text

/-- **No chat message reveals the word of a turn**, in any room, for any member and any text. -/
def Secret (env : Env) (fold : Char → Char) (word : String) : Prop :=
  ∀ (w : World) (r : RoomId) (turn : TurnState) (p : PlayerId) (text name shown : String),
    (w.room r).turn = some turn → turn.word = word → (w.room r).state = .playing →
    Sends (handleGuess env r p text) w (.chatMessage name shown false) ∨
      Sends (handleChat env r p text) w (.chatMessage name shown false) →
    RelayedSafely env fold word (p = turn.drawerId ∨ (w.player r p).isSpectator = true) text shown

/-- A chat line sends one message. -/
theorem shown_of_broadcastChat {code name text name' shown : String} {isSystem isSystem' : Bool}
    {w : World}
    (h : Sends (broadcastChat code name text isSystem) w (.chatMessage name' shown isSystem')) :
    shown = text ∧ isSystem' = isSystem := by
  have hsays : Within (utters (· = .chatMessage name text isSystem))
      (broadcastChat code name text isSystem) := by
    have : Allowed (· = .chatMessage name text isSystem) (.chatMessage name text isSystem) := ⟨rfl⟩
    unfold broadcastChat
    infer_instance
  have heq : Message.chatMessage name' shown isSystem' = .chatMessage name text isSystem :=
    h.uttered hsays
  rw [Message.chatMessage.injEq] at heq
  exact heq.2

/-- A call that begins with `room.get_player`: the player is the one it was asked for, and is the
same afterwards. -/
theorem sends_of_getPlayer {r : RoomId} {p : PlayerId} {f : PlayerId → M Unit} {w : World}
    {m : Message} (h : Sends ((getPlayer r p) >>= fun o => o.elim (return ()) f) w m) :
    ∃ w', w'.player = w.player ∧ Sends (f p) w' m := by
  obtain ⟨w₁, w₂, x, hmakes, hout, hm⟩ := h
  rcases makes_bind.mp hmakes with hmakes | ⟨o, w', hends, hmakes⟩
  · have hsilent : Within (utters fun _ => False) (getPlayer r p) := inferInstance
    exact absurd hout (fun hout => hmakes.within hsilent x hout)
  · have hatomic : (getPlayer r p).wp .atomic 0
        (fun o v => v.state.player = w.player ∧ (o = none ∨ o = some p)) ⟨w, 0, []⟩ := by
      unfold getPlayer
      simp only [wp_bind, wp_readRoom, wp_ite, wp_put, wp_pure]
      refine ⟨fun _ => ?_, fun _ => ⟨fun _ => ?_, fun _ => ?_⟩⟩ <;> simp [Update.apply]
    obtain ⟨o', _, ho, hplayer, hcases⟩ := hends.of_atomic hatomic
    cases ho
    rcases hcases with rfl | rfl
    · exact hmakes.elim
    · exact ⟨w', hplayer, w₁, w₂, x, hmakes, hout, hm⟩

theorem sends_readRoom {r : RoomId} {f : Room → M Unit} {w : World} {m : Message} :
    Sends (readRoom r >>= f) w m ↔ Sends (f (w.room r)) w m := Iff.rfl

theorem sends_readPlayer {r : RoomId} {p : PlayerId} {f : Player → M Unit} {w : World}
    {m : Message} : Sends (readPlayer r p >>= f) w m ↔ Sends (f (w.player r p)) w m := Iff.rfl

theorem not_sends_return {w : World} {m : Message} : ¬Sends (return () : M Unit) w m := by
  rintro ⟨_, _, _, h, -⟩
  exact h

section Handlers

variable {w : World} {r : RoomId} {turn : TurnState} {p : PlayerId} {text name shown : String}
  (hturn : (w.room r).turn = some turn) (hstate : (w.room r).state = .playing)
include hturn hstate

/-- What `handle_guess` relays: a spectator's text masked and censored, or an incorrect guess
censored. -/
theorem shown_of_handleGuess
    (h : Sends (handleGuess env r p text) w (.chatMessage name shown false)) :
    p ≠ turn.drawerId ∧
      ((w.player r p).isSpectator = true ∧
          shown = filterProfanity env (env.replaceIgnoreCase turn.word "***" text) ∨
        (w.player r p).isSpectator = false ∧ shown = filterProfanity env text ∧
          ¬env.isCorrect turn.word text ∧ ¬env.isClose turn.word text) := by
  unfold handleGuess at h
  rw [sends_readRoom, hturn, Option.elim_some, if_neg (by simp [hstate])] at h
  split at h
  · exact absurd h not_sends_return
  obtain ⟨w', hplayer, h⟩ := sends_of_getPlayer h
  rw [sends_readPlayer, hplayer] at h
  split at h
  · exact absurd h not_sends_return
  rename_i hdrawer
  refine ⟨hdrawer, ?_⟩
  split at h
  · rename_i hspectator
    exact .inl ⟨hspectator, (shown_of_broadcastChat h).1⟩
  rename_i hspectator
  split at h
  · exact absurd h not_sends_return
  split at h
  · exact absurd h not_sends_return
  split at h
  · exact absurd (h.uttered inferInstance : NotRelayed _) (fun hn => hn _ _ rfl)
  rename_i hcorrect
  refine .inr ⟨by simpa using hspectator, ?_⟩
  unfold incorrectGuess at h
  change Sends (if _ then _ else _) w' _ at h
  split at h
  · exact absurd (shown_of_broadcastChat h).2 (by decide)
  · rename_i hclose
    exact ⟨(shown_of_broadcastChat h).1, hcorrect, hclose⟩

/-- What `handle_chat` relays: the text of the drawer or of a spectator, masked and censored. -/
theorem shown_of_handleChat
    (h : Sends (handleChat env r p text) w (.chatMessage name shown false)) :
    (p = turn.drawerId ∨ (w.player r p).isSpectator = true) ∧
      shown = filterProfanity env (env.replaceIgnoreCase turn.word "***" text) := by
  unfold handleChat at h
  rw [sends_readRoom, hturn, Option.elim_some, if_neg (by simp [hstate])] at h
  obtain ⟨w', hplayer, h⟩ := sends_of_getPlayer h
  rw [sends_readPlayer, hplayer] at h
  split at h
  · exact absurd h not_sends_return
  · rename_i hrole
    refine ⟨?_, (shown_of_broadcastChat h).1⟩
    by_contra hnot
    rw [not_or] at hnot
    exact hrole ⟨hnot.1, by simpa using hnot.2⟩

end Handlers

/-! ## A leak -/

/-- A room in which the player `.uuid 0` draws a word, with the connection `0`. -/
def chatRoom (word : String) : World where
  rooms := [("ROOM01", 0)]
  room _ :=
    { code := "ROOM01"
      hostId := .uuid 0
      players := [.uuid 0]
      playersById := [.uuid 0]
      state := .playing
      turn := some
        { turnId := 0
          drawerId := .uuid 0
          word := word
          hint := []
          startTime := 0
          wordChoices := [] } }
  player _ p := { id := p, name := "p0", websocket := some 0 }

/-- The drawer's chat is relayed to the room. -/
theorem chatRoom_sends (env : Env) (word text : String) :
    Sends (handleChat env 0 (.uuid 0) text) (chatRoom word) (.chatMessage "p0"
      (filterProfanity env (env.replaceIgnoreCase word "***" text)) false) := by
  refine ⟨chatRoom word, (Update.send ⟨.one 0, _, false⟩).apply (chatRoom word), _, ?_, rfl, rfl⟩
  exact .inl ⟨rfl, rfl⟩

/-- **The word of a turn is secret exactly if it does not leak.** -/
theorem secret_iff (henv : env.Textual isspace fold) {word : String}
    (hword : Playable isspace word) : Secret env fold word ↔ ¬env.Leaks isspace fold word := by
  constructor
  · intro hsecret hleaks
    obtain ⟨text, hcontains⟩ := contains_of_leaks henv hword.ne hleaks
    have hsafe := hsecret (chatRoom word) 0 _ (.uuid 0) text "p0" _ rfl rfl rfl
      (.inr (chatRoom_sends env word text))
    exact hsafe.masked (.inl rfl) hcontains
  · rintro hleaks w r turn p text name shown hturn rfl hstate (h | h)
    · obtain ⟨hdrawer, ⟨hspectator, rfl⟩ | ⟨hactive, rfl, hcorrect, hclose⟩⟩ :=
        shown_of_handleGuess hturn hstate h
      · have hmasked : p = turn.drawerId ∨ (w.player r p).isSpectator = true := .inr hspectator
        exact ⟨fun _ => not_contains_of_masked henv hword hleaks text, fun h => absurd hmasked h,
          fun h => absurd hmasked h, fun h => absurd hmasked h⟩
      · have hguesser : ¬(p = turn.drawerId ∨ (w.player r p).isSpectator = true) := by
          simp [hdrawer, hactive]
        exact ⟨fun h => absurd h hguesser, fun _ => contains_of_relayed henv hword hleaks,
          fun _ => hcorrect, fun _ => hclose⟩
    · obtain ⟨hmasked, rfl⟩ := shown_of_handleChat hturn hstate h
      exact ⟨fun _ => not_contains_of_masked henv hword hleaks text, fun h => absurd hmasked h,
        fun h => absurd hmasked h, fun h => absurd hmasked h⟩

/-- String functions that do what Python's do on ASCII texts whose only blanks are spaces, tabs and
line ends. -/
def asciiEnv : Env where
  lower s := String.ofList (s.toList.map Char.toLower)
  strip s := s.trimAscii.toString
  split s := (Text.words Char.isWhitespace s.toList).map String.ofList
  isalnum := Char.isAlphanum
  replaceIgnoreCase word repl text :=
    String.ofList (Text.mask Char.toLower word.toList repl.toList 0 text.toList)
  wordPacks := [⟨⟨"food", "Food", "🍔"⟩, ["hot dog"]⟩]
  wordPacks_ne := by decide
  words_ne := by decide

/-- A character that is not a letter is the lower case of no other. -/
theorem eq_of_toLower {c d : Char} (h : c.toLower = d) (hd : d.val.toNat < 97) : c = d := by
  unfold Char.toLower at h
  split at h
  · rename_i hc
    have hlow : 65 ≤ c.val.toNat := hc.1
    have hhigh : c.val.toNat ≤ 90 := hc.2
    have hval : (c.val + ('a'.val - 'A'.val)).toNat = d.val.toNat := by rw [← h]
    have hshift : ('a'.val - 'A'.val).toNat = 32 := by decide
    rw [UInt32.toNat_add, hshift] at hval
    omega
  · exact h

theorem asciiEnv_textual : asciiEnv.Textual Char.isWhitespace Char.toLower where
  split _ := rfl
  replace _ _ _ _ := rfl
  space := by decide
  tab := by decide
  star _ h := eq_of_toLower h (by decide)
  fold_space _ h := eq_of_toLower h (by decide)

/-- A word without a space. -/
theorem owl_secret : Secret asciiEnv Char.toLower "owl" := by
  have hlist : "owl".toList = ['o', 'w', 'l'] := rfl
  have hplayable : Playable Char.isWhitespace "owl" := by
    refine ⟨by decide, by decide, fun c l h => ?_, fun c l h => ?_⟩
    · rw [hlist, List.cons.injEq] at h
      exact h.1 ▸ by decide
    · have hlast := congrArg List.getLast? h
      rw [hlist, List.getLast?_append, List.getLast?_singleton] at hlast
      simp only [Option.some_or] at hlast
      cases hlast
      decide
  exact (secret_iff asciiEnv_textual hplayable).mpr fun h => absurd h.1 (by decide)

/-- The drawer of "hot dog" writes its two words with a tab between them. -/
theorem hot_dog_revealed : ¬Secret asciiEnv Char.toLower "hot dog" := by
  intro hsecret
  have hsafe := hsecret (chatRoom "hot dog") 0 _ (.uuid 0) "hot\tdog" "p0" _ rfl rfl rfl
    (.inr (chatRoom_sends asciiEnv "hot dog" "hot\tdog"))
  exact hsafe.masked (.inl rfl) (by unfold Contains; decide +kernel)

end Skribbl.Backend
