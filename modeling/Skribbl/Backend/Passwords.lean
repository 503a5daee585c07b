import Skribbl.Backend.Capacity
import Skribbl.Backend.Snapshot

/-!
# The password of a room

Two setters trim a password and cut it after 64 characters; two checkers trim what a joiner supplies
and compare.

* `SetsPassword` — `create_room` or `update_settings` has just set the password of a room.
* `KeepsPassword` — settings that are not about the password, and snapshots, one after another.
* `JoinPath.Answers` — what `_join_room_local` and `_handle_rpc` answer a joiner.
* `PasswordGate` — the password opens the room, and no other opens it.

Principal result: `passwordGate_iff` — a password opens its room, and nothing else does, exactly if
it is not cut.
-/

set_option autoImplicit false
set_option synthInstance.maxSize 100000

namespace Skribbl.Backend

open Coro

variable {env : Env} {w w₁ w₂ w' : World} {r r' : RoomId} {s t : String}

/-! ## Setting a password -/

/-- What both setters store. -/
def Env.storedPassword (env : Env) (s : String) : String :=
  String.ofList ((env.strip s).toList.take 64)

/-- The others leave the password of the room alone. -/
def SamePassword (r : RoomId) (w w' : World) : Prop :=
  (w'.room r).config.password = (w.room r).config.password

/-- The password of the room `r` has just been set to `s`. -/
inductive SetsPassword (env : Env) (s : String) : World → RoomId → Prop
  | created {draws : List String} {name : String} {ws : WsId} {avatar : Option String}
      {maxPlayers : Option Int} {w w' : World} {code : String} {p : PlayerId}
      {players : List PlayerInfo} {config : ConfigInfo}
      (h : (createRoom env draws name ws avatar (some s) maxPlayers).Ends
        (SamePassword w.nextRoom) w (.ok (.roomCreated code p players config)) w') :
      SetsPassword env s w' w.nextRoom
  | updated {p : PlayerId} {settings : List (String × Value)} {w w' : World} {r : RoomId}
      {config : ConfigInfo} (hset : settings.lookup "password" = some (.str s))
      (hroom : ((findRoomByPlayer p).exec w).1 = .ok (some r))
      (h : (updateSettings env p settings).Ends (SamePassword r) w
        (.ok (.settingsUpdated config)) w') :
      SetsPassword env s w' r

/-- The value sets the password or removes it. -/
def Value.setsPassword : Value → Bool
  | .null => true
  | .str _ => true
  | _ => false

/-- From `r` in `w` to `r'` in `w'`: settings that are not about the password, by any player, and
restored snapshots. -/
inductive KeepsPassword (env : Env) : World → RoomId → World → RoomId → Prop
  | refl (w : World) (r : RoomId) : KeepsPassword env w r w r
  | settings {w w₁ w₂ : World} {r r' : RoomId} {p : PlayerId} {settings : List (String × Value)}
      {y : Except String Message} (hkeep : KeepsPassword env w r w₁ r')
      (hset : (settings.lookup "password").all fun v => !v.setsPassword)
      (h : (updateSettings env p settings).Ends (SamePassword r') w₁ y w₂) :
      KeepsPassword env w r w₂ r'
  | snapshot {w w₁ w₂ w₃ : World} {r r' : RoomId} {rely : World → World → Prop}
      {y : Except String RoomId} (hkeep : KeepsPassword env w r w₁ r')
      (h : (restoreRoom (w₁.snapshotRoom r')).Ends rely w₂ y w₃) :
      KeepsPassword env w r w₃ w₂.nextRoom

/-! ### What the setters store -/

theorem storedPassword_ne (hs : env.strip s ≠ "") : env.storedPassword s ≠ "" := by
  intro h
  have hnil : (env.strip s).toList.take 64 = [] := by
    simpa [Env.storedPassword] using congrArg String.toList h
  rcases List.take_eq_nil_iff.mp hnil with h64 | hempty
  · omega
  · exact hs (by simpa using congrArg String.ofList hempty)

theorem newPassword_some (hs : env.strip s ≠ "") :
    env.newPassword (some s) = some (env.storedPassword s) := by
  simp [Env.newPassword, Env.storedPassword, Option.filter, hs]

theorem settingsPassword_str (hs : env.strip s ≠ "") (old : Option String) :
    env.settingsPassword old (.str s) = some (env.storedPassword s) := by
  simp [Env.settingsPassword, Env.storedPassword, hs]

theorem applySettings_password {settings : List (String × Value)} {config : GameConfig}
    (hset : (settings.lookup "password").all fun v => !v.setsPassword) :
    (env.applySettings settings config).password = config.password := by
  show (settings.lookup "password").elim _ _ = _
  cases hlookup : settings.lookup "password" with
  | none => rfl
  | some v =>
    rw [hlookup] at hset
    cases v <;> first | rfl | simp [Value.setsPassword] at hset

/-! ### The calls -/

/-- The footprint of a call that leaves the configurations of the rooms alone. -/
def configsKept : Footprint World Frame Mark where
  change w w' := ∀ r, (w'.room r).config = (w.room r).config
  frame _ := True
  mark _ := True
  fails := False

instance : Coro.Within configsKept read := .get _ fun _ => .pure _

instance : Coro.Within configsKept suspend := .await _ _ (fun _ _ => trivial) (.pure _)

instance (m : Sent) : Coro.Within configsKept (put (.send m)) :=
  .modify _ _ (fun _ _ => rfl) (.pure _)

instance (p : PlayerId) (code : Option String) :
    Coro.Within configsKept (put (.playerToRoom p code)) := .modify _ _ (fun _ _ => rfl) (.pure _)

instance (r : RoomId) (p : PlayerId) :
    Coro.Within configsKept (put (.room r (.playersById p))) := by
  refine .modify _ _ (fun w r' => ?_) (.pure _)
  by_cases hr : r' = r
  · subst hr
    simp [Update.apply, RoomUpdate.apply]
  · simp [Update.apply, Function.update_of_ne hr]

instance (p : PlayerId) : Coro.Within configsKept (findRoomByPlayer p) := by
  unfold findRoomByPlayer; infer_instance

instance : Coro.Within configsKept redisCall := by unfold redisCall; infer_instance

instance (r : RoomId) (p : PlayerId) (m : Message) (lossy : Bool) :
    Coro.Within configsKept (sendToPlayer r p m lossy) := by
  unfold sendToPlayer readPlayer sendText; infer_instance

instance (code : String) (m : Message) : Coro.Within configsKept (broadcast code m) := by
  unfold broadcast; infer_instance

/-- A call that leaves the configurations alone keeps the password. -/
theorem password_of_ends {α : Type} {c : M α} [hc : Coro.Within configsKept c] {x : Except String α}
    (h : c.Ends (SamePassword r) w x w') :
    (w'.room r).config.password = (w.room r).config.password := by
  refine Ends.within (G := fun v => (v.room r).config.password = (w.room r).config.password) hc
    (fun v v' hchange hv => ?_) (fun v v' hrely hv => hrely.trans hv) h rfl
  rw [hchange r]
  exact hv

theorem findRoomByPlayer_ends {p : PlayerId} {rely : World → World → Prop}
    {x : Except String (Option RoomId)} (h : (findRoomByPlayer p).Ends rely w x w₁) :
    x = ((findRoomByPlayer p).exec w).1 := by
  unfold findRoomByPlayer at h ⊢
  change (Option.elim _ _ _ : M (Option RoomId)).Ends rely w x w₁ at h
  show x = ((Option.elim _ _ _ : M (Option RoomId)).exec w).1
  cases hcode : w.playerToRoom p with
  | some code =>
    rw [hcode] at h
    exact h.1
  | none =>
    rw [hcode] at h
    cases hscan : w.rooms.find? fun x =>
        p ∈ (w.room x.2).playersById ∨ p ∈ (w.room x.2).players with
    | none =>
      simp only [Option.elim, hscan] at h ⊢
      exact h.1
    | some y =>
      simp only [Option.elim, hscan] at h ⊢
      exact h.1

/-- The rest of `update_settings`, after the assignment. -/
def announceConfig (r : RoomId) (code : String) (config : GameConfig) : M Message := do
  broadcast code (.settingsUpdated (serializeConfig config))
  return .settingsUpdated (serializeConfig (← readRoom r).config)

instance (r : RoomId) (code : String) (config : GameConfig) :
    Coro.Within configsKept (announceConfig r code config) := by
  unfold announceConfig readRoom; infer_instance

/-- A room that gets another configuration. -/
theorem room_config_put (config : GameConfig) (w : World) (r r' : RoomId) :
    (((Update.room r' (.config config)).apply w).room r).config =
      if r = r' then config else (w.room r).config := by
  by_cases hr : r = r'
  · subst hr
    simp [Update.apply, RoomUpdate.apply]
  · simp [Update.apply, hr]

/-- `update_settings` leaves the password alone, unless the player is in the room: then it is what
the settings say, if they were accepted. -/
theorem updateSettings_password {p : PlayerId} {settings : List (String × Value)}
    {y : Except String Message}
    (h : (updateSettings env p settings).Ends (SamePassword r) w y w') :
    ((w'.room r).config.password = (w.room r).config.password ∧
      (((findRoomByPlayer p).exec w).1 = .ok (some r) →
        ∀ config, y ≠ .ok (.settingsUpdated config))) ∨
      (w'.room r).config.password =
        (env.applySettings settings (w.room r).config).password := by
  unfold updateSettings at h
  rcases Ends.of_bind h with ⟨o, w₁, hfind, h⟩ | ⟨e, rfl, hfind⟩
  swap
  · exact .inl ⟨password_of_ends hfind, fun _ config h => nomatch h⟩
  have hkept := password_of_ends hfind
  have hresult := findRoomByPlayer_ends hfind
  cases o with
  | none =>
    obtain ⟨rfl, rfl⟩ := h
    exact .inl ⟨hkept, fun _ config h => by cases h⟩
  | some r' =>
    change Ends _ (if _ then _ else _) w₁ y w' at h
    split at h
    · obtain ⟨rfl, rfl⟩ := h
      exact .inl ⟨hkept, fun _ config h => by cases h⟩
    change Ends _ (if _ then _ else _) w₁ y w' at h
    split at h
    · obtain ⟨rfl, rfl⟩ := h
      exact .inl ⟨hkept, fun _ config h => by cases h⟩
    generalize (checkSetting settings "num_rounds" 2 10).or _ = checked at h
    cases checked with
    | some message =>
      obtain ⟨rfl, rfl⟩ := h
      exact .inl ⟨hkept, fun _ config h => by cases h⟩
    | none =>
      have hrest : ((w'.room r).config.password) =
          (((Update.room r' (.config (env.applySettings settings (w₁.room r').config))).apply
            w₁).room r).config.password :=
        password_of_ends (c := announceConfig r' (w₁.room r').code
          (env.applySettings settings (w₁.room r').config)) h
      rw [room_config_put] at hrest
      by_cases hr : r = r'
      · subst hr
        rw [if_pos rfl] at hrest
        refine .inr (hrest.trans ?_)
        show (settings.lookup "password").elim _ _ = (settings.lookup "password").elim _ _
        rw [hkept]
      · rw [if_neg hr] at hrest
        refine .inl ⟨hrest.trans hkept, fun hroom => absurd ?_ hr⟩
        have heq := hresult.trans hroom
        simpa using heq.symm

/-- `create_room` gives a room the password. -/
theorem createRoom_password {draws : List String} {name : String} {ws : WsId}
    {avatar password : Option String} {maxPlayers : Option Int} {code : String} {p : PlayerId}
    {players : List PlayerInfo} {config : ConfigInfo}
    (h : (createRoom env draws name ws avatar password maxPlayers).Ends
      (SamePassword w.nextRoom) w (.ok (.roomCreated code p players config)) w') :
    (w'.room w.nextRoom).config.password = env.newPassword password := by
  unfold createRoom at h
  change Ends _ (if _ then _ else _) w _ w' at h
  split at h
  · cases h.1
  cases hname : validateName name with
  | some message =>
    rw [hname] at h
    cases h.1
  | none =>
    rw [hname] at h
    cases hcode : w.generateRoomCode draws with
    | none =>
      simp only [Option.elim, hcode] at h
      cases h.1
    | some code' =>
      simp only [Option.elim, hcode] at h
      rcases Ends.of_bind (c := redisCall) h with ⟨_, w₁, hredis, h⟩ | ⟨e, he, -⟩
      · obtain ⟨-, rfl⟩ := h
        rw [password_of_ends hredis]
        simp [Update.apply, RoomUpdate.apply]
      · cases he

theorem updateSettings_set {p : PlayerId} {settings : List (String × Value)} {config : ConfigInfo}
    (hs : env.strip s ≠ "") (hset : settings.lookup "password" = some (.str s))
    (hroom : ((findRoomByPlayer p).exec w).1 = .ok (some r))
    (h : (updateSettings env p settings).Ends (SamePassword r) w
      (.ok (.settingsUpdated config)) w') :
    (w'.room r).config.password = some (env.storedPassword s) := by
  rcases updateSettings_password h with ⟨-, hrefused⟩ | hset'
  · exact absurd rfl (hrefused hroom config)
  · rw [hset']
    show (settings.lookup "password").elim _ _ = _
    rw [hset]
    exact settingsPassword_str hs (w.room r).config.password

theorem updateSettings_kept {p : PlayerId} {settings : List (String × Value)}
    {y : Except String Message} (hset : (settings.lookup "password").all fun v => !v.setsPassword)
    (h : (updateSettings env p settings).Ends (SamePassword r) w y w') :
    (w'.room r).config.password = (w.room r).config.password := by
  rcases updateSettings_password h with ⟨hkept, -⟩ | hset'
  · exact hkept
  · rw [hset', applySettings_password hset]

/-- Both setters store the same. -/
theorem SetsPassword.stored (h : SetsPassword env s w r) (hs : env.strip s ≠ "") :
    (w.room r).config.password = some (env.storedPassword s) := by
  cases h with
  | created h => exact (createRoom_password h).trans (newPassword_some hs)
  | updated hset hroom h => exact updateSettings_set hs hset hroom h

/-- Settings that are not about the password, and snapshots, keep it. -/
theorem KeepsPassword.same (h : KeepsPassword env w r w' r') :
    (w'.room r').config.password = (w.room r).config.password := by
  induction h with
  | refl => rfl
  | settings _ hset h ih => exact (updateSettings_kept hset h).trans ih
  | snapshot _ h ih => exact (congrArg (·.config.password) (restoreRoom_restored h).room).trans ih

/-! ## Checking a password -/

/-- The two functions that check a password: `_join_room_local`, and `_handle_rpc` for another
worker. -/
inductive JoinPath where
  | own
  | rpc

/-- What the function may answer a joiner of the room `r` who supplies `t`. -/
def JoinPath.Answers (path : JoinPath) (env : Env) (w : World) (r : RoomId) (t : String)
    (y : Except String Message) : Prop :=
  ∃ (rely : World → World → Prop) (code name : String) (avatar : Option String)
    (asSpectator : Bool) (w' : World),
    match path with
    | .own => ∃ ws : WsId,
      (joinRoomLocal env r code name ws avatar asSpectator (some t)).Ends rely w y w'
    | .rpc => w.roomOf code = some r ∧
      (handleRpcJoin env code name avatar asSpectator (some t)).Ends rely w y w'

/-- The joiner did not pass the password check. -/
def RefusedPassword (y : Except String Message) : Prop :=
  ∃ code text, y = .ok (.error code text) ∧ code ∈ ["PASSWORD_REQUIRED", "INVALID_PASSWORD"]

/-- The password `s` opens the room on both paths, and no other does. -/
def PasswordGate (env : Env) (s : String) (w : World) (r : RoomId) : Prop :=
  ∀ path : JoinPath, (∀ y, path.Answers env w r s y → ¬RefusedPassword y) ∧
    ∀ t, env.strip t ≠ env.strip s → ∀ y, path.Answers env w r t y → RefusedPassword y

/-! ### What the checkers compare -/

theorem passwordError_isNone {config : GameConfig} {expected : String}
    (hconfig : config.password = some expected) (hne : expected ≠ "") :
    (env.passwordError config (some t)).isNone ↔ env.strip t = expected := by
  simp only [Env.passwordError, hconfig, Option.filter, decide_eq_true hne, if_true, Option.bind,
    Option.getD]
  split
  · rename_i hempty
    simp only [Option.isNone_some, Bool.false_eq_true, false_iff]
    exact fun h => hne (h.symm.trans hempty)
  · split <;> simp_all

/-- The errors of the check are its own. -/
theorem refused_of_passwordError {config : GameConfig} {password : Option String} {m : Message}
    (h : env.passwordError config password = some m) : RefusedPassword (.ok m) := by
  obtain ⟨expected, -, h⟩ := Option.bind_eq_some_iff.mp h
  dsimp only at h
  split at h
  · cases h
    exact ⟨_, _, rfl, by simp⟩
  · split at h
    · cases h
      exact ⟨_, _, rfl, by simp⟩
    · cases h

/-- The call refuses nobody for a password. -/
class Welcoming (c : M Message) : Prop where
  out : ∀ {rely w y w'}, c.Ends rely w y w' → ¬RefusedPassword y

/-- The message is not one of the password check. -/
class NoRefusal (m : Message) : Prop where
  out : ¬RefusedPassword (.ok m)

theorem noRefusal_of_not_isError {m : Message} (h : m.isError = false) : NoRefusal m where
  out := by
    rintro ⟨code, text, heq, -⟩
    cases heq
    cases h

theorem noRefusal_error {code text : String}
    (h : code ∉ ["PASSWORD_REQUIRED", "INVALID_PASSWORD"]) : NoRefusal (.error code text) where
  out := by
    rintro ⟨code', text', heq, hmem⟩
    cases heq
    exact h hmem

instance (text : String) : NoRefusal (.error "ROOM_FULL" text) := noRefusal_error (by decide)

instance (text : String) : NoRefusal (.error "ROOM_IN_PROGRESS" text) := noRefusal_error (by decide)

instance : NoRefusal requestJoin.hostUnavailable := noRefusal_error (by decide)

instance (i : RequestId) (code text : String) : NoRefusal (.joinRequestPending i code text) :=
  noRefusal_of_not_isError rfl

instance (info : JoinedInfo) : NoRefusal (.roomJoined info) := noRefusal_of_not_isError rfl

instance (m : Message) [h : NoRefusal m] : Welcoming (Pure.pure m) where
  out hends := hends.1 ▸ h.out

instance {α : Type} (c : M α) (f : α → M Message) [h : ∀ a, Welcoming (f a)] :
    Welcoming (c >>= f) where
  out {_ _ _ _} hends := by
    rcases Ends.of_bind hends with ⟨a, w₁, -, hf⟩ | ⟨e, rfl, -⟩
    · exact (h a).out hf
    · rintro ⟨_, _, heq, -⟩
      cases heq

instance (p : Prop) [Decidable p] (c d : M Message) [Welcoming c] [Welcoming d] :
    Welcoming (if p then c else d) := by
  split <;> assumption

instance {α : Type} (o : Option α) (c : M Message) (f : α → M Message) [Welcoming c]
    [h : ∀ a, Welcoming (f a)] : Welcoming (o.elim c f) := by
  cases o with
  | none => assumption
  | some a => exact h a

instance (r : RoomId) (code name : String) (ws : WsId) (avatar : Option String) :
    Welcoming (requestJoin r code name ws avatar) := by
  unfold requestJoin; dsimp only; infer_instance

/-! ### The two paths -/

/-- `_join_room_local` refuses exactly who does not pass the check. -/
theorem joinRoomLocal_refuses {rely : World → World → Prop} {code name : String} {ws : WsId}
    {avatar : Option String} {asSpectator : Bool} {password : Option String}
    {y : Except String Message}
    (h : (joinRoomLocal env r code name ws avatar asSpectator password).Ends rely w y w') :
    RefusedPassword y ↔ (env.passwordError (w.room r).config password).isSome := by
  unfold joinRoomLocal at h
  change Ends rely (Option.elim (env.passwordError (w.room r).config password) _ _) w y w' at h
  cases herror : env.passwordError (w.room r).config password with
  | some m =>
    rw [herror] at h
    obtain ⟨rfl, -⟩ := h
    exact iff_of_true (refused_of_passwordError herror) rfl
  | none =>
    rw [herror, Option.elim_none] at h
    exact iff_of_false (Welcoming.out h) Bool.false_ne_true

/-- `_handle_rpc` refuses exactly who does not pass the check. -/
theorem handleRpcJoin_refuses {rely : World → World → Prop} {code name : String}
    {avatar : Option String} {asSpectator : Bool} {password : Option String}
    {y : Except String Message} (hcode : w.roomOf code = some r)
    (h : (handleRpcJoin env code name avatar asSpectator password).Ends rely w y w') :
    RefusedPassword y ↔ (env.passwordError (w.room r).config password).isSome := by
  unfold handleRpcJoin at h
  change Ends rely (Option.elim (w.roomOf code) _ _) w y w' at h
  rw [hcode] at h
  change Ends rely (Option.elim (env.passwordError (w.room r).config password) _ _) w y w' at h
  cases herror : env.passwordError (w.room r).config password with
  | some m =>
    rw [herror] at h
    obtain ⟨rfl, -⟩ := h
    exact iff_of_true (refused_of_passwordError herror) rfl
  | none =>
    rw [herror, Option.elim_none] at h
    exact iff_of_false (Welcoming.out h) Bool.false_ne_true

/-- Both paths refuse the same joiners. -/
theorem JoinPath.Answers.refused {path : JoinPath} {y : Except String Message}
    (h : path.Answers env w r t y) :
    RefusedPassword y ↔ (env.passwordError (w.room r).config (some t)).isSome := by
  obtain ⟨rely, code, name, avatar, asSpectator, w', h⟩ := h
  cases path with
  | own =>
    obtain ⟨ws, h⟩ := h
    exact joinRoomLocal_refuses h
  | rpc => exact handleRpcJoin_refuses h.1 h.2

/-- Every joiner is answered. -/
theorem JoinPath.own_answers (env : Env) (w : World) (r : RoomId) (t : String) :
    ∃ y, JoinPath.own.Answers env w r t y :=
  ⟨_, Eq, "", "", none, false, _, 0, ends_exec _ w⟩

/-! ## The gate -/

/-- Passing the check means supplying what is stored, up to white space around it. -/
theorem JoinPath.Answers.refused_iff {path : JoinPath} {y : Except String Message}
    (h : path.Answers env w r t y) (hs : env.strip s ≠ "")
    (hstored : (w.room r).config.password = some (env.storedPassword s)) :
    RefusedPassword y ↔ env.strip t ≠ env.storedPassword s := by
  have hcheck : (env.passwordError (w.room r).config (some t)).isNone ↔
      env.strip t = env.storedPassword s := passwordError_isNone hstored (storedPassword_ne hs)
  rw [h.refused, ne_eq, ← hcheck, Option.isNone_iff_eq_none]
  exact Option.isSome_iff_ne_none

/-- A password that is not cut is stored as it is. -/
theorem storedPassword_eq_iff : env.storedPassword s = env.strip s ↔ (env.strip s).length ≤ 64 := by
  constructor
  · intro h
    have hlength := congrArg (·.toList.length) h
    simp only [Env.storedPassword, String.toList_ofList, List.length_take] at hlength
    rw [← String.length_toList]
    omega
  · intro h
    rw [← String.length_toList] at h
    rw [Env.storedPassword, List.take_of_length_le h, String.ofList_toList]

/-- Where a password is stored, the gate is right exactly if it was not cut. -/
theorem PasswordGate.iff_length (hs : env.strip s ≠ "")
    (hstored : (w.room r).config.password = some (env.storedPassword s)) :
    PasswordGate env s w r ↔ (env.strip s).length ≤ 64 := by
  rw [← storedPassword_eq_iff]
  constructor
  · intro hgate
    obtain ⟨y, hy⟩ := JoinPath.own_answers env w r s
    have haccepted := (hgate .own).1 y hy
    rw [hy.refused_iff hs hstored, not_not] at haccepted
    exact haccepted.symm
  · intro heq path
    refine ⟨fun y hy => ?_, fun t ht y hy => ?_⟩
    · rw [hy.refused_iff hs hstored, heq]
      exact not_not_intro rfl
    · rw [hy.refused_iff hs hstored, heq]
      exact ht

/-- **A password opens its room, and nothing else does, exactly if it is not cut**: whichever setter
stored it, on both paths, after any settings that are not about it and any snapshots. -/
theorem passwordGate_iff {env : Env} {s : String} {w w' : World} {r r' : RoomId}
    (hs : env.strip s ≠ "") (hset : SetsPassword env s w r) (hkeep : KeepsPassword env w r w' r') :
    PasswordGate env s w' r' ↔ (env.strip s).length ≤ 64 :=
  PasswordGate.iff_length hs (hkeep.same.trans (hset.stored hs))

/-! ### One room -/

/-- The room that a host creates with the password `s`. -/
def sampleRoom (s : String) : World :=
  ((createRoom sampleEnv ["ROOM01"] "p0" 0 none (some s) none).exec sampleWorld).2

theorem setsPassword_sampleRoom (s : String) : SetsPassword sampleEnv s (sampleRoom s) 0 := by
  obtain ⟨code, p, players, config, hanswer⟩ : ∃ code p players config,
      ((createRoom sampleEnv ["ROOM01"] "p0" 0 none (some s) none).exec sampleWorld).1 =
        .ok (.roomCreated code p players config) := ⟨_, _, _, _, rfl⟩
  have hends : (createRoom sampleEnv ["ROOM01"] "p0" 0 none (some s) none).Ends
      (SamePassword 0) sampleWorld _ _ := ends_exec _ sampleWorld
  rw [hanswer] at hends
  exact SetsPassword.created (w := sampleWorld) hends

/-- The room after another setting has been changed. -/
def sampleChanged (s : String) : World :=
  ((updateSettings sampleEnv (.uuid 0) [("num_rounds", .int 5)]).exec (sampleRoom s)).2

/-- A short password, after other settings and a snapshot. -/
theorem passwordGate_short : ∃ w w' : World, SetsPassword sampleEnv "pw" w 0 ∧
    KeepsPassword sampleEnv w 0 w' 0 ∧ PasswordGate sampleEnv "pw" w' 0 := by
  have hkeep : KeepsPassword sampleEnv (sampleRoom "pw") 0 (sampleChanged "pw") 0 :=
    .settings (.refl _ 0) rfl (ends_exec _ (sampleRoom "pw"))
  have hrestore : (restoreRoom ((sampleChanged "pw").snapshotRoom 0)).Ends Eq sampleWorld _ _ :=
    ends_exec _ sampleWorld
  have hrestored := KeepsPassword.snapshot hkeep hrestore
  have hset := setsPassword_sampleRoom "pw"
  exact ⟨_, _, hset, hrestored, (passwordGate_iff (by decide) hset hrestored).mpr (by decide)⟩

/-- **65 characters**: the host's own password does not open the room. -/
theorem passwordGate_long : ¬∀ (env : Env) (s : String) (w w' : World) (r r' : RoomId),
    env.strip s ≠ "" → SetsPassword env s w r → KeepsPassword env w r w' r' →
    PasswordGate env s w' r' := by
  intro h
  have hset := setsPassword_sampleRoom (String.ofList (List.replicate 65 'a'))
  have hs : sampleEnv.strip (String.ofList (List.replicate 65 'a')) ≠ "" := by decide
  have hgate := h sampleEnv _ _ _ 0 0 hs hset (.refl _ 0)
  have hlength := (PasswordGate.iff_length hs (hset.stored hs)).mp hgate
  exact absurd hlength (by decide)

end Skribbl.Backend
