import Skribbl.Backend.Chronicle
import Skribbl.Backend.WordOffers

/-!
# Used words (`used_words`)

* `World.wordsTold` — what has happened to the words of a room: they are forgotten, offered and
  selected; `usedIn`, `onOffer` — the used words and the packs on offer, as the history tells.
* `Picked` — each word was on offer when it was selected; `Unrepeated` — a word is selected a second
  time only if the packs it was offered from had no unused word.
* `wording` — the history of a room tells of its words, and the rest is so.

Principal results: `exhausted_of_roomy` — a used word is offered only from a pack without unused
words, if the packs on offer have none or at least three; `unrepeated_of_run` — so no word is
repeated in a run with such offers.
-/

set_option autoImplicit false
set_option synthInstance.maxSize 100000

namespace Skribbl.Backend

open Coro

/-! ## The words of a room -/

variable {env : Env} {r : RoomId} {w w' w₀ : World} {l l' : List Happening}

/-- It happens to the words of this room. -/
def Happening.onWords (r : RoomId) : Happening → Bool
  | .opened r' _ => r' = r
  | .forgot r' => r' = r
  | .offered r' _ _ => r' = r
  | .selected r' _ => r' = r
  | .joined _ _ => false
  | .ended _ _ _ => false

/-- What has happened to the words of the room, the latest first. -/
def World.wordsTold (w : World) (r : RoomId) : List Happening :=
  w.history.filter (Happening.onWords r)

/-- The words that are used: those selected since they were last forgotten, or the room was made. -/
def usedIn : List Happening → List String
  | .opened _ used :: _ => used
  | .forgot _ :: _ => []
  | .selected _ word :: l => word :: usedIn l
  | _ :: l => usedIn l
  | [] => []

/-- The packs on offer, and the room that offers them. -/
def onOffer : List Happening → Option (Room × List Pack)
  | .opened _ _ :: _ => none
  | .offered _ room packs :: _ => some (room, packs)
  | .selected _ _ :: _ => none
  | _ :: l => onOffer l
  | [] => none

/-- The words of the room stay as they are. -/
structure SameWords (r : RoomId) (w w' : World) : Prop where
  told : w'.wordsTold r = w.wordsTold r
  used : (w'.room r).usedWords = (w.room r).usedWords
  pending : (w'.room r).pendingWordChoices = (w.room r).pendingWordChoices

/-- What a pack is drawn from has no unused word, or at least three. -/
def Roomy (env : Env) (room : Room) (packs : List Pack) : Prop :=
  ∀ pack ∈ packs, ∀ source ∈ packsFor env room, source.theme = pack.theme →
    unusedWords room source.words = [] ∨ 3 ≤ (unusedWords room source.words).length

/-- Every word of the packs that the word was offered from had been used when it was offered. -/
def Exhausted (env : Env) (room : Room) (packs : List Pack) (word : String) : Prop :=
  ∀ pack ∈ packs, word ∈ pack.words → ∃ source ∈ packsFor env room,
    DrawnFrom room pack source ∧ ∀ other ∈ source.words, other ∈ room.usedWords

/-- A word is selected a second time only if the packs it was offered from were exhausted. -/
def Unrepeated (env : Env) (l : List Happening) : Prop :=
  ∀ l₁ r word l₂, l = l₁ ++ .selected r word :: l₂ → word ∈ usedIn l₂ →
    ∃ room packs, onOffer l₂ = some (room, packs) ∧ Exhausted env room packs word

/-- Each word was on offer when it was selected. -/
def Picked (l : List Happening) : Prop :=
  ∀ l₁ r word l₂, l = l₁ ++ .selected r word :: l₂ →
    ∃ room packs, onOffer l₂ = some (room, packs) ∧ ∃ pack ∈ packs, word ∈ pack.words

/-- All packs were on offer from rooms in which they are roomy. -/
def AllRoomy (env : Env) (l : List Happening) : Prop :=
  ∀ r room packs, .offered r room packs ∈ l → Roomy env room packs

/-- The history of the room tells of its words. -/
structure Worded (env : Env) (r : RoomId) (w : World) : Prop where
  used : usedIn (w.wordsTold r) = (w.room r).usedWords
  pending : ∀ words, (w.room r).pendingWordChoices = some words → ∃ room o,
    onOffer (w.wordsTold r) = some (room, offered env room o) ∧
      words = (offered env room o).flatMap (·.words) ∧
      ∀ word ∈ usedIn (w.wordsTold r), word ∈ room.usedWords
  picked : Picked (w.wordsTold r)
  unrepeated : AllRoomy env (w.wordsTold r) → Unrepeated env (w.wordsTold r)

theorem SameWords.trans {w₁ : World} (h : SameWords r w w₁) (h' : SameWords r w₁ w') :
    SameWords r w w' :=
  ⟨h'.told.trans h.told, h'.used.trans h.used, h'.pending.trans h.pending⟩

theorem Worded.same (h : Worded env r w) (hsame : SameWords r w w') : Worded env r w' := by
  refine ⟨?_, ?_, ?_, ?_⟩
  · rw [hsame.told, hsame.used]
    exact h.used
  · rw [hsame.told, hsame.pending]
    exact h.pending
  · rw [hsame.told]
    exact h.picked
  · rw [hsame.told]
    exact h.unrepeated

/-- A used word is offered only from a pack without unused words, if the offer is roomy. -/
theorem exhausted_of_roomy {room : Room} {o : List Nat}
    (hroomy : Roomy env room (offered env room o)) {word : String} (hword : word ∈ room.usedWords) :
    Exhausted env room (offered env room o) word := by
  intro pack hpack hmem
  obtain ⟨source, hsource, hdrawn⟩ := offered_drawn room o pack hpack
  refine ⟨source, hsource, hdrawn, fun other hother => ?_⟩
  rcases hroomy pack hpack source hsource hdrawn.theme.symm with hnone | hthree
  · have hnot := List.filter_eq_nil_iff.mp hnone other hother
    simpa using hnot
  · exact absurd hword (hdrawn.unused hthree word hmem)

theorem mem_of_onOffer {room : Room} {packs : List Pack} (h : onOffer l = some (room, packs)) :
    ∃ r, .offered r room packs ∈ l := by
  induction l with
  | nil => cases h
  | cons e l ih =>
    cases e with
    | opened => cases h
    | selected => cases h
    | offered r room' packs' =>
      obtain ⟨rfl, rfl⟩ := Prod.mk.inj (Option.some.inj h)
      exact ⟨r, List.mem_cons_self⟩
    | _ =>
      obtain ⟨r, hmem⟩ := ih h
      exact ⟨r, List.mem_cons_of_mem _ hmem⟩

/-- Only a selection can repeat a word. -/
theorem Unrepeated.cons (h : Unrepeated env l) {e : Happening}
    (he : ∀ r word, e = .selected r word → word ∈ usedIn l →
      ∃ room packs, onOffer l = some (room, packs) ∧ Exhausted env room packs word) :
    Unrepeated env (e :: l) := by
  intro l₁ r word l₂ heq hword
  cases l₁ with
  | nil =>
    obtain ⟨rfl, rfl⟩ := List.cons.inj heq
    exact he r word rfl hword
  | cons e' l₁ => exact h l₁ r word l₂ (List.cons.inj heq).2 hword

theorem Picked.cons (h : Picked l) {e : Happening} (he : ∀ r word, e = .selected r word →
      ∃ room packs, onOffer l = some (room, packs) ∧ ∃ pack ∈ packs, word ∈ pack.words) :
    Picked (e :: l) := by
  intro l₁ r word l₂ heq
  cases l₁ with
  | nil =>
    obtain ⟨rfl, rfl⟩ := List.cons.inj heq
    exact he r word rfl
  | cons e' l₁ => exact h l₁ r word l₂ (List.cons.inj heq).2

/-- What happens is no selection. -/
theorem Worded.event (h : Worded env r w) {e : Happening} (he : ∀ r word, e ≠ .selected r word)
    (htold : w'.wordsTold r = e :: w.wordsTold r)
    (hused : usedIn (e :: w.wordsTold r) = (w'.room r).usedWords)
    (hpending : ∀ words, (w'.room r).pendingWordChoices = some words → ∃ room o,
      onOffer (e :: w.wordsTold r) = some (room, offered env room o) ∧
        words = (offered env room o).flatMap (·.words) ∧
        ∀ word ∈ usedIn (e :: w.wordsTold r), word ∈ room.usedWords) : Worded env r w' := by
  refine ⟨?_, ?_, ?_, ?_⟩ <;> rw [htold]
  · exact hused
  · exact hpending
  · exact h.picked.cons fun r word heq => absurd heq (he r word)
  · intro hroomy
    have hrest : AllRoomy env (w.wordsTold r) := fun r room packs hmem =>
      hroomy r room packs (List.mem_cons_of_mem _ hmem)
    exact (h.unrepeated hrest).cons fun r word heq => absurd heq (he r word)

/-- **A word that is on offer is selected.** -/
theorem Worded.select (h : Worded env r w) {word : String}
    (hword : word ∈ (w.room r).pendingWordChoices.getD [])
    (htold : w'.wordsTold r = .selected r word :: w.wordsTold r)
    (hused : (w'.room r).usedWords = word :: (w.room r).usedWords)
    (hnone : (w'.room r).pendingWordChoices = none) : Worded env r w' := by
  -- the words on offer are those of the last offer, which came after all selections
  obtain ⟨room, o, hoffer, hwords, hbefore⟩ : ∃ room o,
      onOffer (w.wordsTold r) = some (room, offered env room o) ∧
        word ∈ (offered env room o).flatMap (·.words) ∧
        ∀ word ∈ usedIn (w.wordsTold r), word ∈ room.usedWords := by
    cases hpending : (w.room r).pendingWordChoices with
    | none =>
      rw [hpending] at hword
      cases hword
    | some words =>
      obtain ⟨room, o, hoffer, rfl, hbefore⟩ := h.pending words hpending
      rw [hpending] at hword
      exact ⟨room, o, hoffer, hword, hbefore⟩
  refine ⟨?_, ?_, ?_, ?_⟩
  · rw [htold, usedIn, h.used, hused]
  · intro words hw
    rw [hnone] at hw
    cases hw
  · rw [htold]
    refine h.picked.cons fun r' word' heq => ?_
    cases heq
    exact ⟨room, _, hoffer, List.mem_flatMap.mp hwords⟩
  · rw [htold]
    intro hroomy
    have hrest : AllRoomy env (w.wordsTold r) := fun r room packs hmem =>
      hroomy r room packs (List.mem_cons_of_mem _ hmem)
    refine (h.unrepeated hrest).cons fun r' word' heq hrepeated => ?_
    cases heq
    obtain ⟨r', hmem⟩ := mem_of_onOffer hoffer
    exact ⟨room, _, hoffer, exhausted_of_roomy (hrest r' _ _ hmem) (hbefore word hrepeated)⟩

/-! ## What the functions of the worker tell -/

/-- The history of the room tells of its words whenever nothing is running. -/
def wording (env : Env) (r : RoomId) : Guarantee World Mark where
  ok _ _ := True
  inv := Worded env r
  change _ _ := True
  rely _ _ := True
  refl _ := trivial
  trans _ _ := trivial

theorem wording_same (hsame : SameWords r w w') {s : World} (h : (wording env r).Holds s w) :
    (wording env r).Holds s w' := ⟨h.inv.same hsame, trivial⟩

/-- The assignment is to the used words or the words on offer, or makes a room. -/
@[reducible] def Update.words : Update → Bool
  | .room _ (.selectWord _) => true
  | .room _ .forgetWords => true
  | .room _ (.pendingWordChoices (some _)) => true
  | .room _ (.pendingWordChoices none) => true
  | .newRoom _ _ => true
  | _ => false

/-- What happens to another room. -/
theorem wordsTold_other {r' : RoomId} (hr : r ≠ r') (u : RoomUpdate) (w : World) :
    ((Update.room r' u).apply w).wordsTold r = w.wordsTold r := by
  have hnone : (u.happens r' w).filter (Happening.onWords r) = [] := by
    cases u with
    | state s => cases s <;> rfl
    | pendingWordChoices packs =>
      cases packs with
      | none => rfl
      | some packs => simp [RoomUpdate.happens, Happening.onWords, hr.symm]
    | _ => simp [RoomUpdate.happens, Happening.onWords, hr.symm]
  change (u.happens r' w ++ w.history).filter (Happening.onWords r) = _
  rw [List.filter_append, hnone, List.nil_append]
  rfl

theorem sameWords_other {r' : RoomId} (hr : r ≠ r') (u : RoomUpdate) (w : World) :
    SameWords r w ((Update.room r' u).apply w) := by
  refine ⟨wordsTold_other hr u w, ?_, ?_⟩
  · simp [Update.apply, hr]
  · simp [Update.apply, hr]

theorem sameWords_of_update (u : Update) (hu : u.words = false) (w : World) :
    SameWords r w (u.apply w) := by
  cases u with
  | room r' u =>
    by_cases hr : r = r'
    · subst hr
      cases u with
      | selectWord word => cases hu
      | forgetWords => cases hu
      | pendingWordChoices packs => cases packs <;> cases hu
      | state s =>
        refine ⟨?_, by simp [Update.apply, RoomUpdate.apply],
          by simp [Update.apply, RoomUpdate.apply]⟩
        cases s <;> rfl
      | _ =>
        exact ⟨rfl, by simp [Update.apply, RoomUpdate.apply, Room.onTurn],
          by simp [Update.apply, RoomUpdate.apply, Room.onTurn]⟩
    · exact sameWords_other hr u w
  | newRoom x members => cases hu
  | newTurn r' make =>
    by_cases hr : r = r'
    · subst hr
      exact ⟨rfl, by simp [Update.apply], by simp [Update.apply]⟩
    · exact ⟨rfl, by simp [Update.apply, hr], by simp [Update.apply, hr]⟩
  | _ => exact ⟨rfl, rfl, rfl⟩

theorem wording_update {u : Update} (hu : u.words = false) {s : World}
    (h : (wording env r).Holds s w) : (wording env r).Holds s (u.apply w) :=
  wording_same (sameWords_of_update u hu w) h

theorem wording_put (u : Update) (hu : u.words = false) : Guarded (wording env r) (put u) where
  out h := guards_put u |>.mpr ⟨trivial, wording_update hu h⟩

theorem words_of_silent {u : Update} (hu : u.tells = false) : u.words = false := by
  cases u with
  | room r' u =>
    cases u with
    | selectWord word => cases hu
    | forgetWords => cases hu
    | pendingWordChoices packs => cases hu
    | _ => rfl
  | newRoom x members => cases hu
  | _ => rfl

/-- A new room has nothing on offer. -/
theorem wording_newRoom (x : Room) (members : PlayerId → Player)
    (hx : x.pendingWordChoices = none) : Guarded (wording env r) (put (.newRoom x members)) where
  out {s w} h := by
    refine guards_put _ |>.mpr ⟨trivial, ?_⟩
    by_cases hr : r = w.nextRoom
    · subst hr
      refine ⟨h.inv.event (e := .opened w.nextRoom x.usedWords) nofun ?_ ?_ ?_, trivial⟩
      · simp [World.wordsTold, Update.apply, Happening.onWords]
      · simp [usedIn, Update.apply]
      · simp [Update.apply, hx]
    · refine wording_same ⟨?_, ?_, ?_⟩ h
      · simp [World.wordsTold, Update.apply, Happening.onWords, Ne.symm hr]
      · simp [Update.apply, hr]
      · simp [Update.apply, hr]

instance : Silences (wording env r) where
  put u hu := wording_put u (words_of_silent hu)
  newRoom x members hx _ := wording_newRoom x members hx
  newPlayer r' make _ := by
    have hput : Guarded (wording env r) (put (.newPlayer r' make)) := wording_put _ rfl
    have huuid : Guarded (wording env r) (put .uuid4) := wording_put _ rfl
    unfold newPlayer
    infer_instance

/-- A rematch forgets the used words. -/
theorem wording_forgets (r' : RoomId) : Guarded (wording env r) (put (.room r' .forgetWords)) where
  out {s w} h := by
    refine guards_put _ |>.mpr ⟨trivial, ?_⟩
    by_cases hr : r = r'
    · subst hr
      refine ⟨h.inv.event (e := .forgot r) nofun ?_ ?_ fun words hw => ?_, trivial⟩
      · simp [World.wordsTold, Update.apply, RoomUpdate.happens, Happening.onWords]
      · simp [usedIn, Update.apply, RoomUpdate.apply]
      · obtain ⟨room, o, hoffer, hwords, -⟩ := h.inv.pending words (by
          simpa [Update.apply, RoomUpdate.apply] using hw)
        exact ⟨room, o, hoffer, hwords, List.forall_mem_nil _⟩
    · exact wording_same (sameWords_other hr _ w) h

instance : Endings (wording env r) where
  handleRematch p := guarded_handleRematch p (fun r' _ _ h _ => (wording_forgets r').out h)
    fun r' _ _ h _ => (wording_put (.room r' (.state .lobby)) rfl).out h
  gameOver r' := by
    have hover : Guarded (wording env r) (put (.room r' (.state .gameOver))) := wording_put _ rfl
    have hscore : ∀ p n, Guarded (wording env r) (put (.player r' p (.sessionScore n))) :=
      fun _ _ => wording_put _ rfl
    have hgames : ∀ p n, Guarded (wording env r) (put (.player r' p (.sessionGames n))) :=
      fun _ _ => wording_put _ rfl
    unfold gameOver buildGameOverPayload
    dsimp only
    infer_instance
  endGameInsufficientPlayersImmediate r' := by
    have hover : Guarded (wording env r) (put (.room r' (.state .gameOver))) := wording_put _ rfl
    unfold endGameInsufficientPlayersImmediate
    infer_instance

/-- The turn begins: the word is selected, and nothing is on offer any more. -/
structure Selected (r : RoomId) (word : String) (w w' : World) : Prop where
  told : w'.wordsTold r = .selected r word :: w.wordsTold r
  used : (w'.room r).usedWords = word :: (w.room r).usedWords
  none : (w'.room r).pendingWordChoices = none

theorem beginTurn_words (env : Env) (r' : RoomId) (d : PlayerId) (word : String) (w : World) :
    (beginTurn env r' d word).wp .atomic 0 (fun _ v' => Selected r' word w v'.state ∧
      ∀ r ≠ r', SameWords r w v'.state) ⟨w, 0, []⟩ := by
  have hcancel : (cancelAutoSelect r').wp .atomic 0 (fun _ v => ∀ r, SameWords r w v.state)
      (⟨w, 0, []⟩ : View World Frame Mark) := by
    unfold cancelAutoSelect
    simp only [wp_bind, wp_read, wp_put, wp_elim, wp_when, wp_cancel, wp_pure]
    refine ⟨fun _ r => ⟨rfl, rfl, rfl⟩, fun x _ => ⟨fun _ r => ?_, fun _ r => ⟨rfl, rfl, rfl⟩⟩⟩
    have hsame : SameWords r ((Update.cancel ⟨.autoSelect r' x.1, x.2⟩).apply w) _ :=
      sameWords_of_update (.room r' (.autoSelectTask none)) rfl _
    exact ⟨hsame.told, hsame.used, hsame.pending⟩
  unfold beginTurn
  rw [wp_bind]
  refine wp_mono hcancel fun _ v hv => ?_
  simp only [wp_bind, wp_read, wp_put, wp_pure]
  refine wp_mono (wp_each (fun _ (v' : View World Frame Mark) =>
    v'.state.wordsTold r' = .selected r' word :: w.wordsTold r' ∧
      (v'.state.room r').usedWords = word :: (w.room r').usedWords ∧
      ∀ r ≠ r', SameWords r w v'.state)
    (fun _ _ _ h => ?_) ⟨?_, ?_, fun r hr => ?_⟩) fun _ v' h => ⟨⟨?_, ?_, ?_⟩, fun r hr => ?_⟩
  · exact ⟨h.1, h.2.1, fun r hr => ⟨(h.2.2 r hr).told, (h.2.2 r hr).used, (h.2.2 r hr).pending⟩⟩
  · rw [← (hv r').told]
    simp [World.wordsTold, Update.apply, RoomUpdate.happens, Happening.onWords]
  · simp [Update.apply, RoomUpdate.apply, (hv r').used]
  · have hselect := sameWords_other hr (.selectWord word) v.state
    have hturn := sameWords_of_update (r := r) (.newTurn r' (makeTurn env v.state r' d word)) rfl
      ((Update.room r' (.selectWord word)).apply v.state)
    have hstate := sameWords_other hr (.state .playing) ((Update.newTurn r'
      (makeTurn env v.state r' d word)).apply ((Update.room r' (.selectWord word)).apply v.state))
    exact (((hv r).trans hselect).trans hturn).trans hstate
  · exact h.1
  · simpa [Update.apply, RoomUpdate.apply] using h.2.1
  · simp [Update.apply, RoomUpdate.apply]
  · exact (h.2.2 r hr).trans (sameWords_other hr _ v'.state)

theorem wording_handleWordSelection (r' : RoomId) (p : PlayerId) (word : String) :
    Guarded (wording env r) (handleWordSelection env r' p word) where
  out {s w} h := by
    unfold handleWordSelection
    rw [guards_bind, guards_readRoom, guards_elim]
    refine ⟨fun _ => h, fun d _ => ?_⟩
    rw [guards_ite]
    refine ⟨fun _ => h, fun _ => ?_⟩
    rw [guards_ite]
    refine ⟨fun _ => h, fun hword => guards_bind.mpr ?_⟩
    have hwp := beginTurn_words env r' d word w
    refine guards_of_exec (fun _ _ => trivial) (wp_mono hwp fun _ _ _ => trivial)
      fun turn w' hexec => ?_
    have hends : (beginTurn env r' d word).Ends Eq w _ _ := ends_exec _ w
    obtain ⟨_, _, -, hselected, hothers⟩ := Ends.of_atomic hwp hends
    rw [hexec] at hselected hothers
    have hholds : (wording env r).Holds s w' := by
      by_cases hr : r = r'
      · subst hr
        exact ⟨h.inv.select (not_not.mp hword) hselected.told hselected.used hselected.none,
          trivial⟩
      · exact wording_same (hothers r hr) h
    exact Guarded.out (c := announceTurn r' (w.room r') turn) hholds

instance {Γ : Guarantee World Mark} [Silences Γ] (r : RoomId) (d : PlayerId) (code : String)
    (packs : List Pack) : Guarded Γ (announceOffer r d code packs) := by
  unfold announceOffer; infer_instance

theorem wording_startTurn (r' : RoomId) : Guarded (wording env r) (startTurn env r') where
  out {s w} h := by
    unfold startTurn
    rw [guards_bind, guards_readRoom, guards_elim]
    refine ⟨fun _ => h, fun d _ => guards_bind.mpr ?_⟩
    have hwp : (drawWordPackChoices env r').wp .atomic 0 (fun _ _ => True) ⟨w, 0, []⟩ :=
      drawWordPackChoices_wp env r' fun _ _ _ _ => trivial
    refine guards_of_exec (fun _ _ => trivial) hwp fun packs w' hexec => ?_
    obtain ⟨k, hdraw⟩ := drawWordPackChoices_exec env r' w
    obtain ⟨hpacks, rfl⟩ := Prod.mk.inj (hexec.symm.trans hdraw)
    cases hpacks
    rw [guards_bind, guards_put]
    refine ⟨trivial, ?_⟩
    have hholds : (wording env r).Holds s ((Update.room r' (.pendingWordChoices
        (some (offered env (w.room r') w.oracle)))).apply (w.spend k)) := by
      by_cases hr : r = r'
      · subst hr
        refine ⟨h.inv.event (e := .offered r (w.room r) (offered env (w.room r) w.oracle)) nofun
          ?_ ?_ fun words hw => ⟨w.room r, w.oracle, rfl, ?_, fun word hword => ?_⟩, trivial⟩
        · simp [World.wordsTold, Update.apply, RoomUpdate.happens, Happening.onWords, World.spend]
        · simpa [usedIn, Update.apply, RoomUpdate.apply, World.spend] using h.inv.used
        · simpa [Update.apply, RoomUpdate.apply, eq_comm] using hw
        · rw [← h.inv.used]
          exact hword
      · exact wording_same ((sameWords_of_update (.oracle (w.oracle.drop k)) rfl w).trans
          (sameWords_other hr _ _)) h
    exact Guarded.out (c := announceOffer r' d (w.room r').code
      (offered env (w.room r') w.oracle)) hholds

instance : Tells env (wording env r) where
  startTurn := wording_startTurn
  handleWordSelection := wording_handleWordSelection

theorem owner_wording : (owner env).Guards (wording env r) :=
  owner_tells fun t status _ w h =>
    have hsame : SameWords r w (w.setStatus t status) := ⟨rfl, rfl, rfl⟩
    ⟨wording_same hsame h, trivial⟩

/-- **Words are not repeated**: in every run of a worker the used words of a room are those that
were selected since a rematch last forgot them, and each was on offer when it was selected; and none
of them was selected a second time unless the packs that it was offered from were exhausted, if all
packs were offered while they had no unused word or at least three. -/
theorem unrepeated_of_run {cond : Event Frame Mark → View World Frame Mark → Prop}
    {transport : WsId → Transport} {redis : Bool} {oracle : List Nat}
    {snapshots : String → Option RoomSnapshot} {c : Config World Frame Mark TaskId}
    (h : (owner env).Run cond (startConfig (World.start transport redis oracle snapshots)) c)
    (hidle : c.running = none) (r : RoomId) :
    usedIn (c.state.wordsTold r) = (c.state.room r).usedWords ∧ Picked (c.state.wordsTold r) ∧
      (AllRoomy env (c.state.wordsTold r) → Unrepeated env (c.state.wordsTold r)) := by
  have hok : ∀ e (v : View World Frame Mark), cond (.mark e) v → (wording env r).ok e v.state :=
    fun _ _ _ => trivial
  have hnone : ∀ l₁ r' word (l₂ : List Happening), [] ≠ l₁ ++ .selected r' word :: l₂ := by simp
  have hstart : Loop.Guarding (wording env r)
      (startConfig (World.start transport redis oracle snapshots)) :=
    Loop.guarding_of_quiet rfl rfl ⟨rfl, nofun,
      fun l₁ r' word l₂ heq => absurd heq (hnone l₁ r' word l₂),
      fun _ l₁ r' word l₂ heq => absurd heq (hnone l₁ r' word l₂)⟩
  have hworded : Worded env r c.state := (owner_wording.run hok h hstart).idle hidle
  exact ⟨hworded.used, hworded.picked, hworded.unrepeated⟩

/-- Two players with custom words: the first draws one of them, and the second another one. -/
def customGame (words : List String) (first second : String) :
    List (Loop.Choice TaskId OwnerOp × List Bool) :=
  [(.call (.own (.createRoom ["ROOM01"] "p0" 0 none none none)), []),
    (.call (.own (.joinRoom "p1" "ROOM01" 1 none false none none)), []),
    (.call (.own (.updateSettings (.uuid 0) [("custom_words", .list (words.map .str))] 0)), []),
    (.call (.own (.startGame (.uuid 0) 0)), []),
    (.call (.own (.selectWord (.uuid 0) first)), []),
    (.call (.own (.sleep 100)), []),
    (.fire ⟨.turnTimer 0 0, 3⟩, []),
    (.call (.own (.selectWord (.uuid 1) second)), [])]

instance (env : Env) (room : Room) (packs : List Pack) : Decidable (Roomy env room packs) :=
  inferInstanceAs (Decidable (∀ pack ∈ packs, ∀ source ∈ packsFor env room,
    source.theme = pack.theme → _ ∨ _))

/-- The packs are roomy, if these are on offer. -/
def Happening.roomy (env : Env) : Happening → Bool
  | .offered _ room packs => decide (Roomy env room packs)
  | _ => true

theorem allRoomy_of_all (h : l.all (Happening.roomy env) = true) : AllRoomy env l :=
  fun _ _ _ hmem => of_decide_eq_true (List.all_eq_true.mp h _ hmem)

/-- Of six words two are selected. -/
theorem unrepeated_ant : ∃ c, (owner packsEnv).Run unrestored (startConfig sampleWorld) c ∧
    usedIn (c.state.wordsTold 0) = ["bee", "ant"] ∧
    Unrepeated packsEnv (c.state.wordsTold 0) := by
  have hplay : ((owner packsEnv).play unrestored (startConfig sampleWorld)
      (customGame ["ant", "bee", "cow", "dog", "elk", "fox"] "ant" "bee")).any (fun c =>
        usedIn (c.state.wordsTold 0) = ["bee", "ant"] ∧
          (c.state.wordsTold 0).all (Happening.roomy packsEnv) = true) = true := by
    decide +kernel
  obtain ⟨c, hrun, hidle, hc⟩ := Loop.exists_run_of_play rfl hplay
  obtain ⟨hused, hroomy⟩ := of_decide_eq_true hc
  exact ⟨c, hrun, hused, (unrepeated_of_run hrun hidle 0).2.2 (allRoomy_of_all hroomy)⟩

/-- The last selection repeats a word, though the pack that it is from has an unused one. -/
def repeats : List Happening → Bool
  | .selected _ word :: .offered _ room packs :: l =>
    word ∈ usedIn l ∧ ∃ pack ∈ packs, word ∈ pack.words ∧ ∃ other ∈ pack.words,
      other ∉ room.usedWords
  | _ => false

theorem not_unrepeated (h : repeats l = true) : ¬Unrepeated env l := by
  intro hunrepeated
  unfold repeats at h
  split at h
  · obtain ⟨hused, pack, hpack, hword, other, hother, hfresh⟩ := of_decide_eq_true h
    obtain ⟨room, packs, hoffer, hall⟩ := hunrepeated [] _ _ _ rfl hused
    obtain ⟨rfl, rfl⟩ := Prod.mk.inj (Option.some.inj hoffer)
    obtain ⟨source, -, hdrawn, hsource⟩ := hall pack hpack hword
    exact hfresh (hsource other (hdrawn.belong other hother))
  · cases h

/-- **A word is selected twice** though its pack has words that nobody has used. -/
theorem word_repeated : ¬∀ c, (owner packsEnv).Run unrestored (startConfig sampleWorld) c →
    c.running = none → Unrepeated packsEnv (c.state.wordsTold 0) := by
  intro h
  have hplay : ((owner packsEnv).play unrestored (startConfig sampleWorld)
      (customGame ["ant", "bee", "cow"] "ant" "ant")).any (fun c =>
        repeats (c.state.wordsTold 0)) = true := by
    decide +kernel
  obtain ⟨c, hrun, hidle, hc⟩ := Loop.exists_run_of_play rfl hplay
  exact not_unrepeated hc (h c hrun hidle)

end Skribbl.Backend
