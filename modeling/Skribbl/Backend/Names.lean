import Skribbl.Backend.Capacity
import Skribbl.Backend.Stability

/-!
# The names of the members of a room

`handle_reconnect` looks for a player by name; only `update_profile` asks whether a name is taken.

* `World.NamedApart` — no two members of a room have one name up to case.
* `Renames` — what a change does to the names of the players that there are.
* `Introduces` — whoever comes into a room has a name that no member has; `Welcomed` — so it is in
  every step of a run.
* `Attaches` — a change of one player's connection only.

Principal results: `apart_of_run` — so long as everybody comes in under a new name, the names are
apart in every state, and `handle_reconnect` connects the player whose name it is given; `not_apart`
— a run in which two players join under one name.
-/

set_option autoImplicit false
set_option synthInstance.maxSize 100000

namespace Skribbl.Backend

open Coro

variable {env : Env} {r : RoomId} {p q : PlayerId} {w₀ w w' : World}

/-- The members of every room are known, and no two have one name up to case. -/
structure World.NamedApart (env : Env) (w : World) : Prop where
  known : ∀ r < w.nextRoom, ∀ p ∈ (w.room r).players, w.Known p
  apart : ∀ r < w.nextRoom, ∀ p ∈ (w.room r).players, ∀ q ∈ (w.room r).players, q ≠ p →
    env.lower (w.player r q).name ≠ env.lower (w.player r p).name

/-- A worker that has just started has no rooms. -/
theorem World.start_namedApart (env : Env) (transport : WsId → Transport) (redis : Bool)
    (oracle : List Nat) (snapshots : String → Option RoomSnapshot) :
    (World.start transport redis oracle snapshots).NamedApart env :=
  ⟨fun _ hr => absurd hr (Nat.not_lt_zero _), fun _ hr => absurd hr (Nat.not_lt_zero _)⟩

/-- The name of a player is the same afterwards, or has become one that no other member has, while
the others kept theirs. -/
def Renamed (env : Env) (r : RoomId) (w w' : World) (p : PlayerId) : Prop :=
  (w'.player r p).name = (w.player r p).name ∨
    ∀ q, q ≠ p → (w'.player r q).name = (w.player r q).name ∧ (q ∈ (w.room r).players →
      env.lower (w.player r q).name ≠ env.lower (w'.player r p).name)

/-- What a change does to the names of the players that there are. -/
def Renames (env : Env) (w w' : World) : Prop :=
  w.Extends w' ∧ ∀ r < w.nextRoom, ∀ p, w.Known p → Renamed env r w w' p

/-- Whoever comes into a room has an id that was made up before, and a name that no other member
has. -/
def Introduces (env : Env) (w w' : World) : Prop :=
  ∀ r < w'.nextRoom, ∀ p ∈ (w'.room r).players, w.nextRoom ≤ r ∨ p ∉ (w.room r).players →
    w'.Known p ∧ ∀ q ∈ (w'.room r).players, q ≠ p →
      env.lower (w'.player r q).name ≠ env.lower (w'.player r p).name

/-! ## One change -/

/-- A member of before is still known. -/
theorem World.NamedApart.known_step (hw : w.NamedApart env) (h : Renames env w w')
    (hin : Introduces env w w') {r : RoomId} (hr : r < w'.nextRoom) {p : PlayerId}
    (hp : p ∈ (w'.room r).players) : w'.Known p := by
  by_cases hnew : w.nextRoom ≤ r ∨ p ∉ (w.room r).players
  · exact (hin r hr p hp hnew).1
  · obtain ⟨hr', hp'⟩ := not_or.mp hnew
    exact (hw.known r (Nat.not_le.mp hr') p (not_not.mp hp')).mono h.1.nextUuid

/-- **Names stay apart** when a member gets a name that nobody has, or a player comes in under
one. -/
theorem World.NamedApart.step (hw : w.NamedApart env) (h : Renames env w w')
    (hin : Introduces env w w') : w'.NamedApart env := by
  refine ⟨fun r hr p hp => hw.known_step h hin hr hp, fun r hr p hp q hq hqp => ?_⟩
  by_cases hnewp : w.nextRoom ≤ r ∨ p ∉ (w.room r).players
  · exact (hin r hr p hp hnewp).2 q hq hqp
  by_cases hnewq : w.nextRoom ≤ r ∨ q ∉ (w.room r).players
  · exact ((hin r hr q hq hnewq).2 p hp hqp.symm).symm
  obtain ⟨hr', hp'⟩ := not_or.mp hnewp
  have hr' : r < w.nextRoom := Nat.not_le.mp hr'
  have hp' : p ∈ (w.room r).players := not_not.mp hp'
  have hq' : q ∈ (w.room r).players := not_not.mp (not_or.mp hnewq).2
  -- both were members before, and only one of them may have a new name
  rcases h.2 r hr' p (hw.known r hr' p hp') with hsame | hfresh
  · rcases h.2 r hr' q (hw.known r hr' q hq') with hsame' | hfresh
    · rw [hsame, hsame']
      exact hw.apart r hr' p hp' q hq' hqp
    · rw [(hfresh p hqp.symm).1]
      exact ((hfresh p hqp.symm).2 hp').symm
  · rw [(hfresh q hqp).1]
    exact (hfresh q hqp).2 hq'

/-! ## What the functions of a worker do to names -/

/-- Every change renames as `Renames` says. -/
def naming (env : Env) : Guarantee World Mark where
  ok _ _ := True
  inv _ := True
  change := Renames env
  rely _ _ := True
  refl _ := trivial
  trans _ _ := trivial

theorem naming_holds : (naming env).Holds w₀ w := ⟨trivial, trivial⟩

/-- What everything but `update_profile` writes. -/
abbrev namelessEffs : List Eff :=
  [.rooms, .members, .state, .schedule, .turn, .timers, .pending, .autoSelect, .countdown, .players,
    .connection, .cleanup, .guessed, .spectator, .roles, .clock, .ending, .disconnecting, .raises]

/-- Whatever does not write names keeps those of the players that there are. -/
theorem renames_of_fp (h : (fp namelessEffs).change w w') : Renames env w w' :=
  ⟨h.1, fun r hr p hp => .inl ((same_of_fp h .names).player r hr p hp)⟩

instance (priority := low) {α : Type} (c : M α) [hc : Within (fp namelessEffs) c] :
    Guarded (naming env) c :=
  .of_within hc fun _ _ _ hchange _ => ⟨naming_holds, renames_of_fp hchange⟩

theorem guards_naming {α : Type} {c : M α} [hc : Guarded (naming env) c] :
    c.Guards (naming env) (fun _ => (naming env).Holds) w₀ w := hc.out naming_holds

/-- `get_player` finds the player whom it looks for. -/
theorem naming_getPlayer : (getPlayer r p).Guards (naming env)
    (fun o _ _ => ∀ q, o = some q → q = p) w₀ w := by
  unfold getPlayer
  rw [guards_bind, guards_readRoom, guards_ite]
  refine ⟨fun _ q hq => (Option.some.inj hq).symm, fun _ => ?_⟩
  rw [guards_ite]
  refine ⟨fun _ => ?_, fun _ q hq => nomatch hq⟩
  rw [guards_bind, guards_put]
  refine ⟨renames_of_fp (fp_of_update _ (by simp) w), fun q hq => ?_⟩
  exact (Option.some.inj hq).symm

/-- No other member has the name that passes the check. -/
theorem Env.notTaken {s : String} (h : env.profileNameError w r p s = none) (hq :
    q ∈ (w.room r).players)
    (hqp : q ≠ p) : env.lower (w.player r q).name ≠ env.lower (env.strip s) := by
  intro heq
  unfold profileNameError at h
  split at h
  · cases h
  · split at h
    · cases h
    · rename_i htaken
      refine htaken (List.any_eq_true.mpr ⟨q, hq, ?_⟩)
      simpa using ⟨hqp, heq⟩

/-- A name that passes the check is given. -/
theorem renames_name {s : String} (h : env.profileNameError w r p s = none) :
    Renames env w ((Update.player r p (.name (env.strip s))).apply w) := by
  refine ⟨Update.extends _ w, fun r' hr' p' hp' => ?_⟩
  by_cases heq : r' = r ∧ p' = p
  · obtain ⟨rfl, rfl⟩ := heq
    refine .inr fun q hq => ⟨?_, fun hmem => ?_⟩
    · simp [Update.apply, hq]
    · simpa [Update.apply, PlayerUpdate.apply] using Env.notTaken h hmem hq
  · exact .inl (by simp [Update.apply, heq])

/-- **`update_profile` asks whether the name is taken**, and gives it before anything else can
happen. -/
instance (p : PlayerId) (name avatar : Option String) :
    Guarded (naming env) (updateProfile env p name avatar) where
  out {w₀ w} h := by
    unfold updateProfile
    refine guards_bind.mpr ((guards_naming (c := findRoomByPlayer p)).mono fun o w₁ w' _ => ?_)
    rw [guards_elim]
    refine ⟨fun _ => naming_holds, fun r _ => ?_⟩
    rw [guards_bind, guards_readRoom, guards_ite]
    refine ⟨fun _ => naming_holds, fun _ => ?_⟩
    refine guards_bind.mpr (naming_getPlayer.mono fun o w₂ w' hfound => ?_)
    rw [guards_elim]
    refine ⟨fun _ => naming_holds, fun q hq => ?_⟩
    obtain rfl := hfound q hq
    rw [guards_bind, guards_read, guards_elim]
    refine ⟨fun hfree => guards_then ?_, fun _ _ => naming_holds⟩
    rw [guards_elim]
    refine ⟨fun _ => naming_holds, fun s hs => ?_⟩
    rw [guards_put]
    refine ⟨renames_name ?_, naming_holds⟩
    simpa [hs] using hfree

instance (p : PlayerId) (name avatar : Option String) (ws : WsId) :
    Guarded (naming env) (answerError ws (updateProfile env p name avatar)) := by
  unfold answerError; infer_instance

instance (o : Op) : Guarded (naming env) (o.call env) := by
  cases o <;> unfold Op.call <;> dsimp only <;> infer_instance

instance (o : OwnerOp) : Guarded (naming env) (o.call env) := by
  cases o with
  | own o => exact inferInstanceAs (Guarded (naming env) (o.call env))
  | rpcJoin => unfold OwnerOp.call handleRpcJoin admitRemote; infer_instance

instance (t : TaskId) : Guarded (naming env) (taskBody env t) := by
  obtain ⟨kind, n⟩ := t
  cases kind <;> unfold taskBody <;> dsimp only <;> infer_instance

theorem renames_setStatus (t : TaskId) {status : TaskStatus} (h : status ≠ .sleeping) :
    Renames env w (w.setStatus t status) :=
  ⟨w.setStatus_extends t h, fun _ _ _ _ => .inl rfl⟩

/-- Everything renames so. -/
theorem owner_naming (env : Env) : (owner env).Guards (naming env) :=
  .of_body (fun o => inferInstanceAs (Guarded (naming env) (o.call env)))
    (fun t => inferInstanceAs (Guarded (naming env) (taskBody env t)))
    (fun t _ _ _ => ⟨naming_holds, renames_setStatus t (by decide)⟩)
    fun t _ _ _ => ⟨naming_holds, renames_setStatus t (by decide)⟩

/-! ## Reconnecting by name -/

/-- The change leaves the connections of all players alone but that of one. -/
def Attaches (r : RoomId) (p : PlayerId) (w w' : World) : Prop :=
  ∀ r' < w.nextRoom, ∀ q, w.Known q → ¬(r' = r ∧ q = p) →
    (w'.player r' q).isConnected = (w.player r' q).isConnected ∧
      (w'.player r' q).websocket = (w.player r' q).websocket

/-- Every change is such a one. -/
def attaching (r : RoomId) (p : PlayerId) : Guarantee World Mark where
  ok _ _ := True
  inv _ := True
  change := Attaches r p
  rely _ _ := True
  refl _ := trivial
  trans _ _ := trivial

theorem attaching_holds : (attaching r p).Holds w₀ w := ⟨trivial, trivial⟩

instance (priority := low) {α : Type} (c : M α) [hc : Within (fp [.cleanup, .countdown]) c] :
    Guarded (attaching r p) c :=
  .of_within hc fun _ _ _ hchange _ => ⟨attaching_holds, fun r' hr' q hq _ =>
    (same_of_fp hchange .connection).player r' hr' q hq⟩

theorem attaches_connect (ws : WsId) :
    Attaches r p w ((Update.player r p (.connect ws)).apply w) := by
  intro r' _ q _ hother
  simp [Update.apply, hother]

instance (ws : WsId) : Guarded (attaching r p) (put (.player r p (.connect ws))) :=
  ⟨fun _ => ⟨attaches_connect ws, attaching_holds⟩⟩

instance (ws : WsId) (avatar : Option String) :
    Guarded (attaching r p) (restoreConnection r p ws avatar) := by
  unfold restoreConnection; infer_instance

/-- **`handle_reconnect` changes the connection of the player that it has found**, and no other. -/
theorem guards_handleReconnect {name code : String} (ws : WsId) (avatar : Option String)
    (hroom : w.roomOf code = some r) (hfound : w.reconnectTarget r name = some p) :
    (handleReconnect name code ws avatar).Guards (attaching r p)
      (fun _ => (attaching r p).Holds) w₀ w := by
  unfold handleReconnect
  dsimp only
  rw [guards_bind, guards_read, guards_bind, guards_elim]
  refine ⟨fun hnone => ?_, fun r' hr' => ?_⟩
  · rw [hroom] at hnone
    cases hnone
  · obtain rfl : r = r' := Option.some.inj (hroom.symm.trans hr')
    rw [guards_pure, guards_elim]
    refine ⟨fun hnone => (nomatch hnone), fun r' hr' => ?_⟩
    obtain rfl : r = r' := Option.some.inj hr'
    rw [guards_bind, guards_read, guards_elim]
    refine ⟨fun hnone => ?_, fun q hq => ?_⟩
    · rw [hfound] at hnone
      cases hnone
    · obtain rfl : p = q := Option.some.inj (hfound.symm.trans hq)
      exact Guarded.out attaching_holds

/-! ## Runs -/

/-- A run in which everybody comes in under a new name. -/
def Welcomed (env : Env) :
    Config World Frame Mark TaskId → Config World Frame Mark TaskId → Prop :=
  Relation.ReflTransGen fun c c' =>
    (owner env).Step (fun _ _ => True) c c' ∧ Introduces env c.state c'.state

/-- Throughout such a run the names are apart. -/
theorem Welcomed.namedApart {c : Config World Frame Mark TaskId} (hw : w.NamedApart env)
    (h : Welcomed env (startConfig w) c) : c.state.NamedApart env := by
  have hstart : Loop.Guarding (naming env) (startConfig w) :=
    Loop.guarding_of_quiet rfl rfl trivial
  have hall : Loop.Guarding (naming env) c ∧ c.state.NamedApart env := by
    induction h with
    | refl => exact ⟨hstart, hw⟩
    | tail _ hstep ih =>
      obtain ⟨hguarding, hapart⟩ := ih
      obtain ⟨hguarding', hchange⟩ := (owner_naming env).step (fun _ _ _ => trivial) hstep.1
          hguarding
      refine ⟨hguarding', ?_⟩
      rcases hchange with hsame | hrenames
      · rw [hsame]
        exact hapart
      · exact hapart.step hrenames hstep.2
  exact hall.2

/-- The name of a member leads to that member. -/
theorem World.NamedApart.reconnectTarget (hw : w.NamedApart env) (hr : r < w.nextRoom)
    (hp : p ∈ (w.room r).players) : w.reconnectTarget r (w.player r p).name = some p := by
  cases hfound : w.reconnectTarget r (w.player r p).name with
  | none =>
    have hnone := (Option.or_eq_none_iff.mp hfound).2
    simpa using List.find?_eq_none.mp hnone p hp
  | some q =>
    have hname : (w.player r q).name = (w.player r p).name := by
      rcases Option.or_eq_some_iff.mp hfound with h | ⟨-, h⟩
      · have hfits := List.find?_some h
        exact (of_decide_eq_true hfits).1
      · have hfits := List.find?_some h
        exact of_decide_eq_true hfits
    have hq : q ∈ (w.room r).players := by
      rcases Option.or_eq_some_iff.mp hfound with h | ⟨-, h⟩ <;> exact List.mem_of_find?_eq_some h
    by_contra hne
    refine hw.apart r hr p hp q hq (fun heq => hne (heq ▸ rfl)) ?_
    rw [hname]

/-- The player gets the connection, in every execution. -/
theorem connects_restoreConnection (ws : WsId) (avatar : Option String) :
    (restoreConnection r p ws avatar).MustMake (fun _ _ => True)
      (fun _ w' => (w'.player r p).websocket = some ws ∧ (w'.player r p).isConnected = true) w := by
  have hquiet : Eff.raises ∉ [Eff.cleanup] := by decide
  unfold restoreConnection
  refine MustMake.after (Q := fp [.cleanup]) inferInstance hquiet fun _ w₁ => ?_
  refine MustMake.after (Q := fp [.cleanup]) inferInstance hquiet fun _ w₂ => ?_
  exact .inl (by simp [Update.apply, PlayerUpdate.apply])

/-- **Names identify players**, so long as everybody comes into a room under a name that no member
has: in every state of such a run no two members have one name up to case, and `handle_reconnect`
with a member's name gives the connection to that member and changes the connection of nobody else,
whatever the others do while it is suspended. -/
theorem apart_of_run {env : Env} {w : World} (hw : w.NamedApart env)
    {c : Config World Frame Mark TaskId} (h : Welcomed env (startConfig w) c) :
    c.state.NamedApart env ∧ ∀ code r p, c.state.roomOf code = some r → r < c.state.nextRoom →
      p ∈ (c.state.room r).players →
      c.state.reconnectTarget r (c.state.player r p).name = some p ∧
      (∀ ws avatar, (handleReconnect (c.state.player r p).name code ws avatar).MustMake
        (fun _ _ => True) (fun _ w' => (w'.player r p).websocket = some ws ∧
          (w'.player r p).isConnected = true) c.state) ∧
      ∀ ws avatar w₁ w₂, (handleReconnect (c.state.player r p).name code ws avatar).Makes
        (fun _ _ => True) c.state w₁ w₂ → Attaches r p w₁ w₂ := by
  have hapart := h.namedApart hw
  refine ⟨hapart, fun code r p hroom hr hp => ?_⟩
  have hfound := hapart.reconnectTarget hr hp
  refine ⟨hfound, fun ws avatar => ?_, fun ws avatar w₁ w₂ hmakes => ?_⟩
  · unfold handleReconnect
    change MustMake _ _ (((c.state.roomOf code).elim _ _) >>= _) c.state
    rw [hroom, Option.elim_some]
    change MustMake _ _ ((c.state.reconnectTarget r (c.state.player r p).name).elim _ _) c.state
    rw [hfound, Option.elim_some]
    refine MustMake.after (Q := fp []) inferInstance List.not_mem_nil fun _ w₁ => ?_
    exact MustMake.bind (connects_restoreConnection ws avatar)
  have hguards : (handleReconnect (c.state.player r p).name code ws avatar).Guards (attaching r p)
      (fun _ => (attaching r p).Holds) c.state c.state :=
        guards_handleReconnect ws avatar hroom hfound
  exact hguards.makes (fun _ _ => trivial) (fun _ => trivial) (fun _ _ => trivial) hmakes

/-- Two players with different names. -/
def namedWorld : World :=
  { sampleWorld with
    rooms := [("ROOM01", 0)]
    room := fun _ => { code := "ROOM01", hostId := .uuid 0, players := [.uuid 0, .uuid 1] }
    player := fun _ p => { id := p, name := if p = .uuid 0 then "ada" else "bob" }
    playerToRoom := fun _ => some "ROOM01"
    nextRoom := 1
    nextUuid := 2 }

theorem named_apart : namedWorld.NamedApart sampleEnv where
  known r _ p hp := by
    rcases List.mem_cons.mp hp with rfl | hp
    · exact (by decide : 0 < 2)
    · rw [List.mem_singleton.mp hp]
      exact (by decide : 1 < 2)
  apart r _ := by
    have hall : ∀ p ∈ [Ident.uuid 0, .uuid 1], ∀ q ∈ [Ident.uuid 0, .uuid 1], q ≠ p →
        sampleEnv.lower (namedWorld.player 0 q).name ≠
          sampleEnv.lower (namedWorld.player 0 p).name := by
      decide
    exact hall

/-- Nobody comes in. -/
theorem introduces_nobody (hnext : w'.nextRoom = w.nextRoom)
    (hplayers : ∀ r, (w'.room r).players = (w.room r).players) : Introduces env w w' := by
  intro r hr p hp hnew
  rcases hnew with hold | hnot
  · exact absurd (hnext ▸ hr) (Nat.not_lt.mpr hold)
  · exact absurd (hplayers r ▸ hp) hnot

instance (env : Env) (w w' : World) : Decidable (Introduces env w w') :=
  inferInstanceAs (Decidable (∀ r < w'.nextRoom, ∀ p ∈ (w'.room r).players,
    w.nextRoom ≤ r ∨ p ∉ (w.room r).players → w'.Known p ∧ ∀ q ∈ (w'.room r).players, q ≠ p →
      env.lower (w'.player r q).name ≠ env.lower (w'.player r p).name))

/-- Steps of a coroutine that introduce only players with new names. -/
theorem welcomed_of_ticks {env : Env} {n : Nat} {c c' : Config World Frame Mark TaskId}
    (h : (owner env).ticks (fun _ _ => True) (fun w w' => Introduces env w w') n c = some c') :
    Welcomed env c c' :=
  Relation.ReflTransGen.mono (fun _ _ h => ⟨h.1, of_decide_eq_true h.2⟩) _ _
    (Loop.steps_of_ticks h)

/-- A third player joins under a new name, and the second and the third are found by theirs. -/
theorem apart_third : ∃ c, Welcomed sampleEnv (startConfig namedWorld) c ∧
    c.state.NamedApart sampleEnv ∧ c.state.reconnectTarget 0 "bob" = some (.uuid 1) ∧
    c.state.reconnectTarget 0 "cat" = some (.uuid 2) := by
  have hjoin : ((owner sampleEnv).ticks (fun _ _ => True)
      (fun w w' => Introduces sampleEnv w w') 24
      { startConfig namedWorld with
        running := some (none, (owner sampleEnv).call
          (.own (.joinRoom "cat" "ROOM01" 2 none false none none))) }).any (fun c =>
        c.state.roomOf "ROOM01" = some 0 ∧ 0 < c.state.nextRoom ∧
          (.uuid 1 ∈ (c.state.room 0).players ∧ (c.state.player 0 (.uuid 1)).name = "bob") ∧
          .uuid 2 ∈ (c.state.room 0).players ∧ (c.state.player 0 (.uuid 2)).name = "cat") =
            true := by
    decide +kernel
  obtain ⟨c, hticks, hc⟩ := (Option.any_eq_true _ _).mp hjoin
  obtain ⟨hcode, hroom, ⟨hsecond, hbob⟩, hthird, hcat⟩ := of_decide_eq_true hc
  have hrun : Welcomed sampleEnv (startConfig namedWorld) c :=
    .head ⟨.call _ _ rfl, introduces_nobody rfl fun _ => rfl⟩ (welcomed_of_ticks hticks)
  have h := apart_of_run named_apart hrun
  have hfound := (h.2 "ROOM01" 0 (.uuid 1) hcode hroom hsecond).1
  have hfound' := (h.2 "ROOM01" 0 (.uuid 2) hcode hroom hthird).1
  rw [hbob] at hfound
  rw [hcat] at hfound'
  exact ⟨c, hrun, h.1, hfound, hfound'⟩

/-- **Two players join under one name**, and `handle_reconnect` finds the first when it is given the
name of the second. -/
theorem not_apart : ∃ c, (owner sampleEnv).Run (fun _ _ => True) (startConfig sampleWorld) c ∧
    ¬c.state.NamedApart sampleEnv ∧
    (.uuid 1 ∈ (c.state.room 0).players ∧
      c.state.reconnectTarget 0 (c.state.player 0 (.uuid 1)).name = some (.uuid 0)) := by
  have hplay : ((owner sampleEnv).play (fun _ _ => True) (startConfig sampleWorld)
      [(.call (.own (.createRoom ["ROOM01"] "ada" 0 none none none)), []),
        (.call (.own (.joinRoom "ada" "ROOM01" 1 none false none none)), [])]).any (fun c =>
          0 < c.state.nextRoom ∧ .uuid 0 ∈ (c.state.room 0).players ∧
            .uuid 1 ∈ (c.state.room 0).players ∧
            c.state.reconnectTarget 0 (c.state.player 0 (.uuid 1)).name =
              some (.uuid 0)) = true := by
    decide +kernel
  obtain ⟨c, hrun, -, hc⟩ := Loop.exists_run_of_play rfl hplay
  obtain ⟨hroom, hfirst, hsecond, hfound⟩ := of_decide_eq_true hc
  refine ⟨c, hrun, fun hapart => ?_, hsecond, hfound⟩
  have hself := hapart.reconnectTarget hroom hsecond
  rw [hfound] at hself
  cases hself

end Skribbl.Backend
