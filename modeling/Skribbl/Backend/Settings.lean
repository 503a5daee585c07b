import Mathlib.Logic.Relation
import Skribbl.Lib.Trim
import Skribbl.Backend.Churn
import Skribbl.Backend.Passwords

/-!
# Settings (`update_settings`)

* `SaneWords` — the custom words that a room may have.
* `Env.Applies` — what accepted settings make of a configuration.
* `SettingsSteps` — what calls of `update_settings` do, in any order and overlapping in any way.

Principal results: `updateSettings_ends` — the steps of a call; `settings_checked` — a call returns
an error and changes nothing, or applies its settings; after any calls the configuration is in range
and its words are sane; and sane words that are submitted again stay.
-/

set_option autoImplicit false

namespace Skribbl.Backend

open Coro Trim

/-! ## Custom words -/

/-- `str.strip` drops the blanks at both ends. -/
def Env.Strips (env : Env) (isspace : Char → Bool) : Prop :=
  ∀ s, (env.strip s).toList = trim isspace s.toList

/-- At most 500 trimmed words of up to 40 characters, no two of them equal up to case. -/
structure SaneWords (env : Env) (words : List String) : Prop where
  few : words.length ≤ 500
  trimmed : ∀ w ∈ words, env.strip w = w
  short : ∀ w ∈ words, 1 ≤ w.length ∧ w.length ≤ 40
  distinct : words.Pairwise fun a b => env.lower a ≠ env.lower b

variable {env : Env} {isspace : Char → Bool} {seen raw : List String} {w : String}

/-- A word as the sanitizer cuts it. -/
def Env.cutWord (env : Env) (raw : String) : String :=
  env.strip (String.ofList ((env.strip raw).toList.take 40))

theorem sanitizeWords_cons (raw : String) (l : List String) :
    env.sanitizeWords seen (raw :: l) =
      if env.cutWord raw ≠ "" ∧ env.lower (env.cutWord raw) ∉ seen then
        env.cutWord raw :: env.sanitizeWords (env.lower (env.cutWord raw) :: seen) l
      else env.sanitizeWords seen l := rfl

/-- What the sanitizer keeps are cut words, not blank, and new up to case. -/
theorem mem_sanitizeWords (h : w ∈ env.sanitizeWords seen raw) :
    w ≠ "" ∧ env.lower w ∉ seen ∧ ∃ s ∈ raw, w = env.cutWord s := by
  induction raw generalizing seen with
  | nil => cases h
  | cons s l ih =>
    rw [sanitizeWords_cons] at h
    split at h
    · rename_i hs
      rcases List.mem_cons.mp h with rfl | h
      · exact ⟨hs.1, hs.2, s, List.mem_cons_self, rfl⟩
      · obtain ⟨hne, hnew, t, ht, rfl⟩ := ih h
        exact ⟨hne, fun hmem => hnew (List.mem_cons_of_mem _ hmem), t,
          List.mem_cons_of_mem _ ht, rfl⟩
    · obtain ⟨hne, hnew, t, ht, rfl⟩ := ih h
      exact ⟨hne, hnew, t, List.mem_cons_of_mem _ ht, rfl⟩

theorem pairwise_sanitizeWords :
    (env.sanitizeWords seen raw).Pairwise fun a b => env.lower a ≠ env.lower b := by
  induction raw generalizing seen with
  | nil => exact .nil
  | cons s l ih =>
    rw [sanitizeWords_cons]
    split
    · refine List.pairwise_cons.mpr ⟨fun b hb heq => ?_, ih⟩
      exact (mem_sanitizeWords hb).2.1 (heq ▸ List.mem_cons_self)
    · exact ih

/-- A cut word is the beginning of the trimmed one, trimmed itself, and at most 40 characters. -/
theorem cutWord_spec (henv : env.Strips isspace) (s : String) :
    (env.cutWord s).toList <+: (env.strip s).toList ∧ env.strip (env.cutWord s) = env.cutWord s ∧
      (env.cutWord s).length ≤ 40 := by
  have hbegins : Begins isspace (env.strip s).toList := by
    rw [henv s]
    exact begins_trim isspace s.toList
  have hcut : (env.cutWord s).toList = trim isspace ((env.strip s).toList.take 40) := by
    rw [Env.cutWord, henv, String.toList_ofList]
  have hfront : (env.strip s).toList.take 40 <+: (env.strip s).toList := List.take_prefix _ _
  refine ⟨?_, ?_, ?_⟩
  · rw [hcut]
    exact trim_front hbegins hfront
  · apply String.toList_injective
    rw [henv, hcut, trim_trim]
  · have hle := (trim_front (hbegins.front hfront) (List.prefix_refl _)).length_le
    rw [← hcut, List.length_take] at hle
    rw [← String.length_toList]
    omega

/-- **The sanitized words are sane,** and each is the beginning of a word that was submitted. -/
theorem saneWords_sanitize (henv : env.Strips isspace) (raw : List String) :
    SaneWords env ((env.sanitizeWords [] raw).take 500) ∧
      ∀ w ∈ (env.sanitizeWords [] raw).take 500, ∃ s ∈ raw, w.toList <+: (env.strip s).toList := by
  have hmem : ∀ w ∈ (env.sanitizeWords [] raw).take 500, w ≠ "" ∧ ∃ s ∈ raw, w = env.cutWord s :=
    fun w hw => ⟨(mem_sanitizeWords (List.mem_of_mem_take hw)).1,
      (mem_sanitizeWords (List.mem_of_mem_take hw)).2.2⟩
  refine ⟨⟨List.length_take_le _ _, fun w hw => ?_, fun w hw => ?_, ?_⟩, fun w hw => ?_⟩
  · obtain ⟨-, s, -, rfl⟩ := hmem w hw
    exact (cutWord_spec henv s).2.1
  · obtain ⟨hne, s, -, rfl⟩ := hmem w hw
    exact ⟨Nat.pos_of_ne_zero fun h => hne (String.length_eq_zero_iff.mp h),
      (cutWord_spec henv s).2.2⟩
  · exact pairwise_sanitizeWords.sublist (List.take_sublist _ _)
  · obtain ⟨-, s, hs, rfl⟩ := hmem w hw
    exact ⟨s, hs, (cutWord_spec henv s).1⟩

/-- Sane words are cut no more. -/
theorem SaneWords.cutWord (h : SaneWords env raw) (hw : w ∈ raw) : env.cutWord w = w := by
  have hshort : w.toList.length ≤ 40 := by
    rw [String.length_toList]
    exact (h.short w hw).2
  rw [Env.cutWord, h.trimmed w hw, List.take_of_length_le hshort, String.ofList_toList,
    h.trimmed w hw]

/-- Sane words that are submitted again stay. -/
theorem SaneWords.sanitize (h : SaneWords env raw) (hseen : ∀ w ∈ raw, env.lower w ∉ seen) :
    env.sanitizeWords seen raw = raw := by
  induction raw generalizing seen with
  | nil => rfl
  | cons w l ih =>
    obtain ⟨hfirst, hrest⟩ := List.pairwise_cons.mp h.distinct
    have hl : SaneWords env l :=
      { few := Nat.le_of_succ_le h.few
        trimmed := fun v hv => h.trimmed v (List.mem_cons_of_mem _ hv)
        short := fun v hv => h.short v (List.mem_cons_of_mem _ hv)
        distinct := hrest }
    have hne : w ≠ "" := by
      rintro rfl
      exact absurd (h.short "" List.mem_cons_self).1 (by decide)
    rw [sanitizeWords_cons, h.cutWord List.mem_cons_self,
      if_pos ⟨hne, hseen w List.mem_cons_self⟩, ih hl]
    intro v hv hmem
    rcases List.mem_cons.mp hmem with heq | hmem
    · exact hfirst v hv heq.symm
    · exact hseen v (List.mem_cons_of_mem _ hv) hmem

/-! ## One call -/

/-- A number is named and is the field's, or is not named and the field stays. -/
def SetsNumber {a b : Nat} (settings : List (String × Value)) (key : String)
    (old new : InRange a b) : Prop :=
  (settings.lookup key = none → new = old) ∧
    ∀ v, settings.lookup key = some v → v.asInt = some (new.1 : Int)

/-- What accepted settings make of a configuration. -/
structure Env.Applies (env : Env) (settings : List (String × Value)) (old new : GameConfig) :
    Prop where
  numRounds : SetsNumber settings "num_rounds" old.numRounds new.numRounds
  turnDuration : SetsNumber settings "turn_duration" old.turnDuration new.turnDuration
  maxPlayers : SetsNumber settings "max_players" old.maxPlayers new.maxPlayers
  words : settings.lookup "custom_words" = none → new.customWords = old.customWords
  newWords : ∀ v, settings.lookup "custom_words" = some v → SaneWords env new.customWords ∧
    ∀ w ∈ new.customWords, ∃ s ∈ v.rawWords, w.toList <+: (env.strip s).toList
  password : settings.lookup "password" = none → new.password = old.password

theorem inRange_asInt {a b : Nat} {v : Value} {n : InRange a b} (h : v.inRange a b = some n) :
    v.asInt = some (n.1 : Int) := by
  unfold Value.inRange at h
  cases hv : v.asInt with
  | none => rw [hv] at h; cases h
  | some m =>
    rw [hv, Option.bind_some] at h
    split at h
    · rename_i hm
      cases h
      rw [Int.toNat_of_nonneg hm.1]
    · cases h

/-- A number that passes its check is taken over. -/
theorem setsNumber_of_checked {a b : Nat} {settings : List (String × Value)} {key : String}
    (h : checkSetting settings key a b = none) (old : InRange a b) :
    SetsNumber settings key old (((settings.lookup key).bind (·.inRange a b)).getD old) := by
  unfold checkSetting at h
  refine ⟨fun hnone => ?_, fun v hv => ?_⟩
  · rw [hnone]
    rfl
  · rw [hv, Option.bind_some] at h ⊢
    split at h
    · rename_i hsome
      obtain ⟨n, hn⟩ := Option.isSome_iff_exists.mp hsome
      rw [hn]
      exact inRange_asInt hn
    · cases h

/-- The settings pass the checks. -/
def SettingsAccepted (settings : List (String × Value)) : Prop :=
  (checkSetting settings "num_rounds" 2 10).or ((checkSetting settings "turn_duration" 30 180).or
    (checkSetting settings "max_players" 2 12)) = none

theorem applies_of_checked (henv : env.Strips isspace) {settings : List (String × Value)}
    (h : SettingsAccepted settings) (old : GameConfig) :
    env.Applies settings old (env.applySettings settings old) := by
  obtain ⟨hrounds, hduration, hplayers⟩ : checkSetting settings "num_rounds" 2 10 = none ∧
      checkSetting settings "turn_duration" 30 180 = none ∧
      checkSetting settings "max_players" 2 12 = none := by
    simpa [SettingsAccepted, Option.or_eq_none_iff] using h
  constructor
  · exact setsNumber_of_checked hrounds _
  · exact setsNumber_of_checked hduration _
  · exact setsNumber_of_checked hplayers _
  · intro hnone
    simp [Env.applySettings, hnone]
  · intro v hv
    simp only [Env.applySettings, hv, Option.elim_some]
    exact saneWords_sanitize henv v.rawWords
  · intro hnone
    simp [Env.applySettings, hnone]

/-- Nobody else changes a configuration. -/
def ConfigsStay (w w' : World) : Prop := ∀ r, (w'.room r).config = (w.room r).config

/-- The settings are applied to one room. -/
def AppliedTo (env : Env) (settings : List (String × Value)) (r : RoomId) (w w' : World) : Prop :=
  (w'.room r).config = env.applySettings settings (w.room r).config ∧
    ∀ r' ≠ r, (w'.room r').config = (w.room r').config

/-- The search for a player at most fills in the index that it failed in. -/
def Looked (p : PlayerId) (w w' : World) : Prop :=
  w' = w ∨ w.playerToRoom p = none ∧ ∃ r, w' =
    (Update.playerToRoom p (some (w.room r).code)).apply ((Update.room r (.playersById p)).apply w)

theorem looked_of_ends {p : PlayerId} {rely : World → World → Prop} {w w' : World}
    {x : Except String (Option RoomId)} (h : (findRoomByPlayer p).Ends rely w x w') :
    Looked p w w' := by
  unfold findRoomByPlayer at h
  change (Option.elim _ _ _ : M (Option RoomId)).Ends rely w x w' at h
  cases hcode : w.playerToRoom p with
  | some code =>
    rw [hcode] at h
    exact .inl h.2
  | none =>
    rw [hcode] at h
    cases hscan : w.rooms.find? fun x =>
        p ∈ (w.room x.2).playersById ∨ p ∈ (w.room x.2).players with
    | none =>
      simp only [Option.elim, hscan] at h
      exact .inl h.2
    | some y =>
      simp only [Option.elim, hscan] at h
      exact .inr ⟨hcode, y.2, h.2⟩

theorem Looked.configsStay {p : PlayerId} {w w' : World} (h : Looked p w w') :
    ConfigsStay w w' := by
  rcases h with rfl | ⟨-, r, rfl⟩ <;> intro r'
  · rfl
  · by_cases hr : r' = r
    · subst hr
      simp [Update.apply, RoomUpdate.apply]
    · simp [Update.apply, hr]

/-- **The steps of a call**: it fails and has changed nothing, or its settings pass the checks and
are applied at once to the room that was found, and what is left is to tell the room. -/
theorem updateSettings_ends {p : PlayerId} {settings : List (String × Value)} {w w' : World}
    {rely : World → World → Prop} {y : Except String Message}
    (h : (updateSettings env p settings).Ends rely w y w') :
    (∃ code message, y = .ok (.error code message)) ∧ Looked p w w' ∨
      ∃ r w₁, ((findRoomByPlayer p).exec w).1 = .ok (some r) ∧ SettingsAccepted settings ∧
        AppliedTo env settings r w w₁ ∧
        (announceConfig r (w₁.room r).code (w₁.room r).config).Ends rely w₁ y w' := by
  unfold updateSettings at h
  rcases Ends.of_bind h with ⟨o, w₁, hfind, h⟩ | ⟨e, -, hfind⟩
  swap
  · exact absurd hfind (Ends.not_error (P := configsKept) inferInstance id)
  have hlooked := looked_of_ends hfind
  have hresult := findRoomByPlayer_ends hfind
  cases o with
  | none =>
    obtain ⟨rfl, rfl⟩ := h
    exact .inl ⟨⟨_, _, rfl⟩, hlooked⟩
  | some r =>
    change Ends _ (if _ then _ else _) w₁ y w' at h
    split at h
    · obtain ⟨rfl, rfl⟩ := h
      exact .inl ⟨⟨_, _, rfl⟩, hlooked⟩
    change Ends _ (if _ then _ else _) w₁ y w' at h
    split at h
    · obtain ⟨rfl, rfl⟩ := h
      exact .inl ⟨⟨_, _, rfl⟩, hlooked⟩
    generalize hchecked : (checkSetting settings "num_rounds" 2 10).or _ = checked at h
    cases checked with
    | some message =>
      obtain ⟨rfl, rfl⟩ := h
      exact .inl ⟨⟨_, _, rfl⟩, hlooked⟩
    | none =>
      refine .inr ⟨r, (Update.room r (.config (env.applySettings settings
        (w₁.room r).config))).apply w₁, hresult.symm, hchecked, ⟨?_, fun r' hr' => ?_⟩, ?_⟩
      · rw [room_config_put, if_pos rfl, hlooked.configsStay r]
      · rw [room_config_put, if_neg hr', hlooked.configsStay r']
      · rw [room_config_put, if_pos rfl]
        have hcode : (((Update.room r (.config (env.applySettings settings
            (w₁.room r).config))).apply w₁).room r).code = (w₁.room r).code := by
          simp [Update.apply, RoomUpdate.apply]
        rw [hcode]
        exact h

theorem configsStay_of_ends {α : Type} {c : M α} [hc : Coro.Within configsKept c] {w w' : World}
    {x : Except String α} (h : c.Ends ConfigsStay w x w') : ConfigsStay w w' := by
  intro r
  exact Ends.within (G := fun v => (v.room r).config = (w.room r).config) hc
    (fun v v' hchange hv => (hchange r).trans hv) (fun v v' hrely hv => (hrely r).trans hv) h rfl

/-- The answer of a call that tells the room. -/
theorem announceConfig_answer {r : RoomId} {code : String} {config : GameConfig} {w w' : World}
    {rely : World → World → Prop} {y : Except String Message}
    (h : (announceConfig r code config).Ends rely w y w') :
    y = .ok (.settingsUpdated (serializeConfig (w'.room r).config)) := by
  unfold announceConfig at h
  rcases Ends.of_bind h with ⟨_, w₁, -, h⟩ | ⟨e, -, hsent⟩
  · obtain ⟨rfl, rfl⟩ := h
    rfl
  · exact absurd hsent (Ends.not_error (P := configsKept) inferInstance id)

/-- What a call of `update_settings` comes to: an error, and nothing but the index is touched; or
its settings are applied to the caller's room and to no other. -/
def SettingsResult (env : Env) (p : PlayerId) (settings : List (String × Value)) (w : World)
    (y : Except String Message) (w' : World) : Prop :=
  (∃ code message, y = .ok (.error code message)) ∧ Looked p w w' ∨
    ∃ r, ((findRoomByPlayer p).exec w).1 = .ok (some r) ∧
      y = .ok (.settingsUpdated (serializeConfig (w'.room r).config)) ∧
      env.Applies settings (w.room r).config (w'.room r).config ∧
      ∀ r' ≠ r, (w'.room r').config = (w.room r').config

theorem settingsResult {p : PlayerId} (henv : env.Strips isspace)
    {settings : List (String × Value)} {w w' : World} {y : Except String Message}
    (h : (updateSettings env p settings).Ends ConfigsStay w y w') :
    SettingsResult env p settings w y w' := by
  rcases updateSettings_ends h with herror | ⟨r, w₁, hroom, haccepted, ⟨hr, hothers⟩, hrest⟩
  · exact .inl herror
  · have hstay := configsStay_of_ends hrest
    refine .inr ⟨r, hroom, announceConfig_answer hrest, ?_, fun r' hr' => ?_⟩
    · rw [hstay r, hr]
      exact applies_of_checked henv haccepted _
    · rw [hstay r', hothers r' hr']

/-! ## Any sequence of calls -/

/-- What calls of `update_settings` and the rest of the program do to the configurations, in any
order and overlapping in any way. -/
def SettingsSteps (env : Env) : World → World → Prop :=
  Relation.ReflTransGen fun w w' =>
    ConfigsStay w w' ∨ ∃ settings r, SettingsAccepted settings ∧ AppliedTo env settings r w w'

/-- A call takes such steps while the others do. -/
theorem settingsSteps_of_ends {p : PlayerId} {settings : List (String × Value)} {w w' : World}
    {y : Except String Message}
    (h : (updateSettings env p settings).Ends (SettingsSteps env) w y w') :
    SettingsSteps env w w' := by
  rcases updateSettings_ends h with ⟨-, hlooked⟩ | ⟨r, w₁, -, haccepted, happlied, hrest⟩
  · exact .single (.inl hlooked.configsStay)
  · exact Ends.within (P := configsKept) (G := SettingsSteps env w) inferInstance
      (fun v v' hchange hv => hv.tail (.inl hchange)) (fun v v' hrely hv => hv.trans hrely) hrest
      (.single (.inr ⟨settings, r, haccepted, happlied⟩))

/-- A configuration whose numbers are in range and whose words are sane. -/
structure SaneConfig (env : Env) (config : GameConfig) : Prop where
  numRounds : 2 ≤ config.numRounds.1 ∧ config.numRounds.1 ≤ 10
  turnDuration : 30 ≤ config.turnDuration.1 ∧ config.turnDuration.1 ≤ 180
  maxPlayers : 2 ≤ config.maxPlayers.1 ∧ config.maxPlayers.1 ≤ 12
  words : SaneWords env config.customWords

theorem saneConfig_of_words {config : GameConfig} (h : SaneWords env config.customWords) :
    SaneConfig env config :=
  ⟨config.numRounds.2, config.turnDuration.2, config.maxPlayers.2, h⟩

theorem saneWords_applySettings (henv : env.Strips isspace) (settings : List (String × Value))
    {config : GameConfig} (h : SaneWords env config.customWords) :
    SaneWords env (env.applySettings settings config).customWords := by
  change SaneWords env ((settings.lookup "custom_words").elim _ _)
  cases settings.lookup "custom_words" with
  | none => exact h
  | some v => exact (saneWords_sanitize henv v.rawWords).1

/-- The words stay sane. -/
theorem saneWords_of_steps (henv : env.Strips isspace) {w w' : World} (h : SettingsSteps env w w')
    {r : RoomId} (hsane : SaneWords env (w.room r).config.customWords) :
    SaneWords env (w'.room r).config.customWords := by
  induction h with
  | refl => exact hsane
  | tail _ hstep ih =>
    rcases hstep with hstay | ⟨settings, r', -, happlied, hothers⟩
    · rw [hstay r]
      exact ih
    · by_cases hr : r = r'
      · subst hr
        rw [happlied]
        exact saneWords_applySettings henv settings ih
      · rw [hothers r hr]
        exact ih

/-! ## The same words again -/

theorem rawWords_texts (words : List String) :
    (Value.list (words.map .str)).rawWords = words := by
  induction words with
  | nil => rfl
  | cons word words ih =>
    change word :: (Value.list (words.map .str)).rawWords = _
    rw [ih]

/-- Sane words that are submitted again stay. -/
theorem applySettings_again {settings : List (String × Value)} {config : GameConfig}
    (h : SaneWords env config.customWords)
    (hset : settings.lookup "custom_words" = some (.list (config.customWords.map .str))) :
    (env.applySettings settings config).customWords = config.customWords := by
  change (settings.lookup "custom_words").elim _ _ = _
  rw [hset, Option.elim_some, rawWords_texts, h.sanitize (fun _ _ => List.not_mem_nil),
    List.take_of_length_le h.few]

/-- **Every call of `update_settings` fails and changes nothing, or changes what it names and sets
every named number;** calls in any sequence keep the configuration sane; and submitting the
sanitized words again leaves them. -/
theorem settings_checked (henv : env.Strips isspace) :
    (∀ p settings w y w', (updateSettings env p settings).Ends ConfigsStay w y w' →
      SettingsResult env p settings w y w') ∧
    (∀ r w w', Relation.ReflTransGen (fun v v' => ∃ p settings y,
        (updateSettings env p settings).Ends (SettingsSteps env) v y v') w w' →
      SaneWords env (w.room r).config.customWords → SaneConfig env (w'.room r).config) ∧
    ∀ p r settings w y w', SaneWords env (w.room r).config.customWords →
      settings.lookup "custom_words" = some (.list ((w.room r).config.customWords.map .str)) →
      (updateSettings env p settings).Ends ConfigsStay w y w' →
      (w'.room r).config.customWords = (w.room r).config.customWords := by
  refine ⟨fun p settings w y w' h => settingsResult henv h, fun r w w' h hsane => ?_,
    fun p r settings w y w' hsane hset h => ?_⟩
  · have hsteps : SettingsSteps env w w' := by
      induction h with
      | refl => exact .refl
      | tail _ hcall ih =>
        obtain ⟨p, settings, y, hcall⟩ := hcall
        exact ih.trans (settingsSteps_of_ends hcall)
    exact saneConfig_of_words (saneWords_of_steps henv hsteps hsane)
  · rcases updateSettings_ends h with ⟨-, hlooked⟩ | ⟨r', w₁, -, -, ⟨happlied, hothers⟩, hrest⟩
    · rw [hlooked.configsStay r]
    · rw [configsStay_of_ends hrest r]
      by_cases hr : r = r'
      · subst hr
        rw [happlied]
        exact applySettings_again hsane hset
      · rw [hothers r hr]

/-- The sample environment with a `strip` for spaces. -/
def spaceEnv : Env :=
  { sampleEnv with strip := fun s => String.ofList (trim (fun c => c = ' ') s.toList) }

theorem spaceEnv_strips : spaceEnv.Strips fun c => c = ' ' := fun _ => String.toList_ofList

/-- The host of a lobby names the rounds and the words. -/
def namedSettings : List (String × Value) :=
  [("num_rounds", .int 5), ("custom_words", .str " red fox,owl ,owl")]

theorem settings_checked_named :
    SettingsResult spaceEnv (.uuid 0) namedSettings trioWorld
      ((updateSettings spaceEnv (.uuid 0) namedSettings).exec trioWorld).1
      ((updateSettings spaceEnv (.uuid 0) namedSettings).exec trioWorld).2 :=
  (settings_checked spaceEnv_strips).1 _ _ _ _ _ (ends_exec _ _)

end Skribbl.Backend
