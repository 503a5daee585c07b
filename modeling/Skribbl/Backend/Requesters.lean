import Skribbl.Backend.Requests

/-!
# Whose join requests a worker holds

* `World.Owned` — each request is held once, and a connection is an index for its own requests.
* `owning` — all functions of a worker keep it.

Principal result: `owned_of_run` — so it is in every run, whenever no coroutine is running.
-/

set_option autoImplicit false
set_option synthInstance.maxSize 100000

namespace Skribbl.Backend

open Coro

variable {w₀ w w' : World} {r : RoomId} {p : PlayerId} {ws : WsId}

/-! ## Whose requests the manager holds -/

/-- Each request is held once under its id, which has been made up, and a connection is an index for
its own requests only. -/
structure World.Owned (w : World) : Prop where
  ids : ∀ x ∈ w.pendingJoinRequests, x.2.requestId = x.1 ∧ w.registry.Known x.1
  unique : ∀ x ∈ w.pendingJoinRequests, ∀ y ∈ w.pendingJoinRequests, x.1 = y.1 → x = y
  known : ∀ ws i, w.wsToPendingRequest ws = some i → w.registry.Known i
  owner : ∀ ws i, w.wsToPendingRequest ws = some i → ∀ x ∈ w.pendingJoinRequests, x.1 = i →
    x.2.websocket = ws

/-- No request comes, and no connection becomes an index for another. -/
structure World.Fewer (w w' : World) : Prop where
  nextUuid : w.nextUuid ≤ w'.nextUuid
  joins : ∀ x ∈ w'.pendingJoinRequests, x ∈ w.pendingJoinRequests
  index : ∀ ws i, w'.wsToPendingRequest ws = some i → w.wsToPendingRequest ws = some i

theorem World.Fewer.refl (w : World) : w.Fewer w := ⟨le_rfl, fun _ h => h, fun _ _ h => h⟩

theorem World.Fewer.trans {w'' : World} (h : w.Fewer w') (h' : w'.Fewer w'') : w.Fewer w'' where
  nextUuid := h.nextUuid.trans h'.nextUuid
  joins x hx := h.joins x (h'.joins x hx)
  index ws i hi := h.index ws i (h'.index ws i hi)

theorem World.Owned.fewer (h : w.Owned) (hw : w.Fewer w') : w'.Owned where
  ids x hx := (h.ids x (hw.joins x hx)).imp_right (·.mono hw.nextUuid)
  unique x hx y hy := h.unique x (hw.joins x hx) y (hw.joins y hy)
  known ws i hi := (h.known ws i (hw.index ws i hi)).mono hw.nextUuid
  owner ws i hi x hx := h.owner ws i (hw.index ws i hi) x (hw.joins x hx)

/-- A new request of the connection `ws`. -/
theorem World.Owned.add (h : w.Owned) {request : PendingJoinRequest}
    (hid : request.requestId = .uuid w.nextUuid) (hws : request.websocket = ws)
    (huuid : w'.nextUuid = w.nextUuid + 1)
    (hjoins : w'.pendingJoinRequests = w.pendingJoinRequests ++ [(.uuid w.nextUuid, request)])
    (hindex : w'.wsToPendingRequest =
      Function.update w.wsToPendingRequest ws (some (.uuid w.nextUuid))) : w'.Owned := by
  have hnew : ¬ w.registry.Known (.uuid w.nextUuid) := w.registry.not_known
  have hlt : w.nextUuid < w'.nextUuid := by omega
  have hmono : ∀ {i}, w.registry.Known i → w'.registry.Known i := fun hi => hi.mono hlt.le
  have hknown : w'.registry.Known (.uuid w.nextUuid) := ⟨w.nextUuid, hlt, rfl⟩
  have hfresh : ∀ {i}, w.registry.Known i → i ≠ .uuid w.nextUuid := fun hi heq => hnew (heq ▸ hi)
  have hmem : ∀ {x}, x ∈ w'.pendingJoinRequests →
      x ∈ w.pendingJoinRequests ∨ x = (.uuid w.nextUuid, request) := fun hx => by
    rwa [hjoins, List.mem_append, List.mem_singleton] at hx
  refine ⟨fun x hx => ?_, fun x hx y hy hxy => ?_, fun ws' i hi => ?_, fun ws' i hi x hx hxi => ?_⟩
  · rcases hmem hx with hx | rfl
    · exact (h.ids x hx).imp_right hmono
    · exact ⟨hid, hknown⟩
  · rcases hmem hx with hx | rfl <;> rcases hmem hy with hy | rfl
    · exact h.unique x hx y hy hxy
    · exact absurd hxy (hfresh (h.ids x hx).2)
    · exact absurd hxy.symm (hfresh (h.ids y hy).2)
    · rfl
  · rw [hindex, Function.update_apply] at hi
    split_ifs at hi
    · cases hi
      exact hknown
    · exact hmono (h.known ws' i hi)
  · rw [hindex, Function.update_apply] at hi
    split_ifs at hi with hsame
    · cases hi
      rcases hmem hx with hx | rfl
      · exact absurd hxi (hfresh (h.ids x hx).2)
      · exact hws.trans hsame.symm
    · rcases hmem hx with hx | rfl
      · exact h.owner ws' i hi x hx hxi
      · exact absurd hxi.symm (hfresh (h.known ws' i hi))

/-! ## All functions of a worker keep it -/

def owning : Guarantee World Mark where
  ok _ _ := True
  inv := World.Owned
  change _ _ := True
  rely _ _ := True
  refl _ := trivial
  trans _ _ := trivial

theorem World.Fewer.holds (hw : w.Fewer w') (h : owning.Holds w₀ w) : owning.Holds w₀ w' :=
  ⟨h.inv.fewer hw, trivial⟩

/-- The assignment makes no request come. -/
class Thins (u : Update) : Prop where
  out : ∀ w : World, w.Fewer (u.apply w)

theorem Update.thins (u : Update) (hu : u.registers = []) : Thins u where
  out w := by
    have hsame := u.registry_same hu w
    refine ⟨(congrArg Registry.nextUuid hsame).ge, fun x hx => ?_, fun ws i hi => ?_⟩
    · exact (congrArg (x ∈ ·.joins) hsame).mp hx
    · have hindex : (u.apply w).wsToPendingRequest = w.wsToPendingRequest := by
        cases u <;> first | rfl | cases hu
      rwa [hindex] at hi

instance (u : Update) [hu : Untouched u.registers] : Thins u := u.thins hu.out

instance (r : RoomId) (u : RoomUpdate) : Thins (.room r u) :=
  ⟨fun _ => ⟨le_rfl, fun _ h => h, fun _ _ h => h⟩⟩

instance (l : List (String × RoomId)) : Thins (.rooms l) :=
  ⟨fun _ => ⟨le_rfl, fun _ h => h, fun _ _ h => h⟩⟩

instance (x : Room) (members : PlayerId → Player) : Thins (.newRoom x members) :=
  ⟨fun _ => ⟨le_rfl, fun _ h => h, fun _ _ h => h⟩⟩

instance (q : PlayerId) (o : Option String) : Thins (.playerToRoom q o) :=
  ⟨fun _ => ⟨le_rfl, fun _ h => h, fun _ _ h => h⟩⟩

instance (kind : TaskKind) (delay : ℚ) : Thins (.createTask kind delay) :=
  ⟨fun _ => ⟨le_rfl, fun _ h => h, fun _ _ h => h⟩⟩

instance (l : List (RequestId × PendingSpectatorRoleRequest)) :
    Thins (.pendingSpectatorRoleRequests l) :=
  ⟨fun _ => ⟨le_rfl, fun _ h => h, fun _ _ h => h⟩⟩

instance (r : RoomId) (make : PlayerId → Player) : Thins (.newPlayer r make) :=
  ⟨fun _ => ⟨Nat.le_succ _, fun _ h => h, fun _ _ h => h⟩⟩

instance : Thins .uuid4 := ⟨fun _ => ⟨Nat.le_succ _, fun _ h => h, fun _ _ h => h⟩⟩

instance (ws : WsId) : Thins (.wsToPendingRequest ws none) where
  out w := by
    refine ⟨le_rfl, fun _ h => h, fun ws' i hi => ?_⟩
    change Function.update w.wsToPendingRequest ws none ws' = some i at hi
    rw [Function.update_apply] at hi
    split_ifs at hi
    exact hi

instance (u : Update) [hu : Thins u] : Guarded owning (put u) :=
  ⟨fun {_ w} h => ⟨trivial, (hu.out w).holds h⟩⟩

instance : Tolerates owning where
  put u hu := by
    have hthins : Thins u := u.thins hu
    infer_instance
  getPlayer r q := by unfold getPlayer readRoom; infer_instance
  findRoomByPlayer q := by unfold findRoomByPlayer; infer_instance

instance : Guarded owning uuid4 := by unfold uuid4; infer_instance

instance (kind : TaskKind) (delay : ℚ) : Guarded owning (createTask kind delay) := by
  unfold createTask; infer_instance

instance (r : RoomId) (make : PlayerId → Player) : Guarded owning (newPlayer r make) :=
  ⟨fun {_ w} h => ⟨trivial, (Thins.out (u := .newPlayer r make) w).holds h⟩⟩

/-- Without a suspension, no request comes. -/
class Dwindles (c : M Unit) : Prop where
  out : ∀ {w₀ w w' : World}, w.Fewer w' →
    c.Guards owning (fun _ _ w'' => w.Fewer w'') w₀ w'

instance : Dwindles (Pure.pure ()) := ⟨fun h => h⟩

instance (u : Update) [hu : Thins u] : Dwindles (put u) :=
  ⟨fun {_ _ w'} h => ⟨trivial, h.trans (hu.out w')⟩⟩

instance (c d : M Unit) [hc : Dwindles c] [hd : Dwindles d] : Dwindles (c >>= fun _ => d) :=
  ⟨fun h => guards_bind.mpr ((hc.out h).mono fun _ _ _ h' => hd.out h')⟩

instance (c : World → M Unit) [hc : ∀ w, Dwindles (c w)] : Dwindles (read >>= c) :=
  ⟨fun h => (hc _).out h⟩

instance {β : Type} (o : Option β) (c : M Unit) (f : β → M Unit) [Dwindles c]
    [∀ b, Dwindles (f b)] : Dwindles (o.elim c f) := by
  cases o <;> simp only [Option.elim] <;> infer_instance

instance (q : Prop) [Decidable q] (c : M Unit) [Dwindles c] : Dwindles (Coro.when q c) := by
  unfold Coro.when
  split
  · infer_instance
  · exact ⟨fun h => h⟩

instance {β : Type} (l : List β) (f : β → M Unit) [hf : ∀ b, Dwindles (f b)] :
    Dwindles (each l f) where
  out h := guards_each (fun _ _ w'' => World.Fewer _ w'') h fun b _ _ _ h' => (hf b).out h'

instance (kind : TaskKind) (n : Option Nat) : Dwindles (cancel kind n) := by
  unfold cancel; infer_instance

instance (x : PendingSpectatorRoleRequest) : Dwindles (cancelRoleTimeout x) := by
  unfold cancelRoleTimeout; infer_instance

/-- What follows it. -/
theorem guards_dwindles {α : Type} {c : M Unit} {f : Unit → M α} [hc : Dwindles c]
    (h : w.Fewer w') {Q : α → World → World → Prop}
    (hf : ∀ w₁ w'', w.Fewer w'' → (f ()).Guards owning Q w₁ w'') :
    (c >>= f).Guards owning Q w₀ w' :=
  guards_bind.mpr ((hc.out h).mono fun _ w₁ w'' h' => hf w₁ w'' h')

/-- Some requests are taken out. -/
theorem World.Fewer.putJoins (h : w.Fewer w') (P : RequestId × PendingJoinRequest → Bool) :
    w.Fewer ((Update.pendingJoinRequests (w.pendingJoinRequests.filter P)).apply w') where
  nextUuid := h.nextUuid
  joins _ hx := (List.mem_filter.mp hx).1
  index := h.index

instance (code : String) : Guarded owning (deleteRoom code) where
  out {w₀ w} h := by
    unfold deleteRoom
    rw [guards_bind, guards_read]
    refine guards_dwindles (World.Fewer.refl w) fun _ w₁ h₁ => ?_
    refine guards_dwindles h₁ fun _ w₂ h₂ => ?_
    rw [guards_bind, guards_put]
    refine ⟨trivial, guards_dwindles (h₂.putJoins _) fun _ w₃ h₃ => ?_⟩
    refine guards_dwindles h₃ fun _ w₄ h₄ => ?_
    refine guards_dwindles h₄ fun _ w₅ h₅ => ?_
    exact Guarded.out (h₅.holds ⟨h.inv, trivial⟩)

instance (request : PendingJoinRequest) : Guarded owning (dropJoinRequest request) where
  out {w₀ w} h := by
    unfold dropJoinRequest
    rw [guards_bind, guards_read, guards_bind, guards_put]
    exact ⟨trivial, Guarded.out (((World.Fewer.refl w).putJoins _).holds h)⟩

/-- `get_player` makes no request come. -/
theorem owning_getPlayer {Q : Option PlayerId → World → World → Prop}
    (hQ : ∀ o w', w'.nextUuid = w.nextUuid → w'.pendingJoinRequests = w.pendingJoinRequests →
      w'.wsToPendingRequest = w.wsToPendingRequest → Q o w₀ w') :
    (getPlayer r p).Guards owning Q w₀ w := by
  unfold getPlayer
  rw [guards_bind, guards_readRoom, guards_ite, guards_ite]
  exact ⟨fun _ => hQ _ _ rfl rfl rfl, fun _ => ⟨fun _ => ⟨trivial, hQ _ _ rfl rfl rfl⟩,
    fun _ => hQ _ _ rfl rfl rfl⟩⟩

instance (r : RoomId) (code name : String) (ws : WsId) (avatar : Option String) :
    Guarded owning (requestJoin r code name ws avatar) where
  out {w₀ w} h := by
    unfold requestJoin
    dsimp only
    rw [guards_bind, guards_read, guards_ite]
    refine ⟨fun _ => h, fun _ => guards_bind.mpr (owning_getPlayer fun o w₁ huuid hjoins hws => ?_)⟩
    have hsame : w.Fewer w₁ :=
      ⟨huuid.ge, fun _ hx => hjoins ▸ hx, fun ws' i hi => by rwa [hws] at hi⟩
    have h₁ : owning.Holds w₀ w₁ := hsame.holds h
    rw [guards_elim]
    refine ⟨fun _ => h₁, fun host _ => ?_⟩
    rw [guards_elim]
    refine ⟨fun _ => h₁, fun hostWs _ => ?_⟩
    unfold uuid4 createTask
    simp only [guards_bind, guards_read, guards_put, guards_pure]
    rw [← hjoins]
    refine ⟨trivial, trivial, trivial, trivial, trivial, Guarded.out ⟨?_, trivial⟩⟩
    exact h₁.inv.add rfl rfl rfl rfl rfl

instance (r : RoomId) (code name : String) (ws : WsId) (avatar : Option String)
    (isSpectator : Bool) :
    Guarded owning (admitPlayer r code name ws avatar isSpectator) := by
  unfold admitPlayer; infer_instance

instance (r : RoomId) (code name : String) (avatar : Option String) (isSpectator : Bool) :
    Guarded owning (admitRemote r code name avatar isSpectator) := by
  unfold admitRemote; infer_instance

instance (env : Env) (code name : String) (avatar : Option String) (asSpectator : Bool)
    (password : Option String) :
    Guarded owning (handleRpcJoin env code name avatar asSpectator password) := by
  unfold handleRpcJoin; infer_instance

instance (q : PlayerId) (r : RoomId) : Guarded owning (dropPlayer r q) := by
  unfold dropPlayer; infer_instance

instance (r : RoomId) (l : List PlayerId) : Guarded owning (changeHost r l) := by
  unfold changeHost; infer_instance

instance (env : Env) (draws : List String) (name : String) (ws : WsId)
    (avatar password : Option String) (maxPlayers : Option Int) :
    Guarded owning (createRoom env draws name ws avatar password maxPlayers) := by
  unfold createRoom; dsimp only; infer_instance

instance (x : RoomSnapshot) : Guarded owning (restoreRoom x) := by
  unfold restoreRoom; dsimp only; infer_instance

instance (env : Env) (r : RoomId) (code name : String) (ws : WsId) (avatar : Option String)
    (asSpectator : Bool) (password : Option String) :
    Guarded owning (joinRoomLocal env r code name ws avatar asSpectator password) := by
  unfold joinRoomLocal; infer_instance

instance (code : String) : Guarded owning (adoptSnapshot code) := by
  unfold adoptSnapshot; infer_instance

instance (env : Env) (name code : String) (ws : WsId) (avatar : Option String) (asSpectator : Bool)
    (password : Option String) (remote : Option Message) :
    Guarded owning (joinRoom env name code ws avatar asSpectator password remote) := by
  unfold joinRoom; infer_instance

instance (q : PlayerId) : Guarded owning (removePlayer q) := by unfold removePlayer; infer_instance

instance (q : PlayerId) : Guarded owning (leaveRoom q) := by unfold leaveRoom; infer_instance

instance (q : PlayerId) : Guarded owning (permanentlyRemovePlayer q) := by
  unfold permanentlyRemovePlayer; infer_instance

instance (requestId : RequestId) : Guarded owning (handleJoinRequestTimeout requestId) := by
  unfold handleJoinRequestTimeout; infer_instance

instance (request : PendingJoinRequest) : Guarded owning (cancelJoinRequest request) := by
  unfold cancelJoinRequest broadcastResolved; infer_instance

instance (x : Ident) : Guarded owning (cancelPendingJoinRequest x) := by
  unfold cancelPendingJoinRequest; infer_instance

instance (ws : WsId) : Guarded owning (cancelPendingJoinRequestOf ws) := by
  unfold cancelPendingJoinRequestOf; infer_instance

instance (r : RoomId) (request : PendingJoinRequest) (isSpectator : Bool) :
    Guarded owning (admitRequester r request isSpectator) := by
  unfold admitRequester; dsimp only; infer_instance

instance (q : PlayerId) (requestId : RequestId) (action : String) :
    Guarded owning (respondJoinRequest q requestId action) := by
  unfold respondJoinRequest; infer_instance

instance (r : RoomId) (requestId : RequestId) : Guarded owning (dropRoleRequest r requestId) := by
  unfold dropRoleRequest; infer_instance

instance (q : PlayerId) : Guarded owning (requestBecomePlayer q) := by
  unfold requestBecomePlayer; dsimp only; infer_instance

instance (r : RoomId) (q : PlayerId) (requestId : RequestId) :
    Guarded owning (promoteSpectator r q requestId) := by
  unfold promoteSpectator; infer_instance

instance (q : PlayerId) (requestId : RequestId) (action : String) :
    Guarded owning (respondSpectatorRoleRequest q requestId action) := by
  unfold respondSpectatorRoleRequest; infer_instance

instance (q : PlayerId) (requestId : Option RequestId) :
    Guarded owning (cancelSpectatorRoleRequest q requestId) := by
  unfold cancelSpectatorRoleRequest; dsimp only; infer_instance

instance (requestId : RequestId) (r : RoomId) (q : PlayerId) :
    Guarded owning (expireRoleRequest requestId r q) := by
  unfold expireRoleRequest; infer_instance

section Votes

variable (env : Env)

instance (q q' : PlayerId) : Guarded owning (kickPlayer q q') := by
  unfold kickPlayer; infer_instance

instance (r : RoomId) (q : PlayerId) : Guarded owning (executeVoteKickPassed env r q) := by
  unfold executeVoteKickPassed; dsimp only; infer_instance

instance (q q' : PlayerId) : Guarded owning (startVoteKick env q q') := by
  unfold startVoteKick; dsimp only; infer_instance

instance (r : RoomId) (q : PlayerId) : Guarded owning (kickTarget env r q) := by
  unfold kickTarget; infer_instance

end Votes

instance : Admits owning where
  deleteRoom := inferInstance
  createRoom := inferInstance
  restoreRoom := inferInstance
  joinRoom := inferInstance
  removePlayer := inferInstance
  leaveRoom := inferInstance
  kickPlayer := inferInstance
  permanentlyRemovePlayer := inferInstance
  startVoteKick := inferInstance
  kickTarget := inferInstance
  handleJoinRequestTimeout := inferInstance
  cancelPendingJoinRequest := inferInstance
  cancelPendingJoinRequestOf := inferInstance
  respondJoinRequest := inferInstance
  requestBecomePlayer := inferInstance
  respondSpectatorRoleRequest := inferInstance
  cancelSpectatorRoleRequest := inferInstance

instance (env : Env) (o : OwnerOp) : Guarded owning (o.call env) := by
  cases o <;> unfold OwnerOp.call <;> dsimp only <;> infer_instance

/-- A task in another status. -/
theorem owning_setStatus (t : TaskId) (status : TaskStatus) (h : owning.Holds w₀ w) :
    owning.Holds w₀ (w.setStatus t status) :=
  have hw : w.Fewer (w.setStatus t status) := ⟨le_rfl, fun _ h => h, fun _ _ h => h⟩
  hw.holds h

/-- Everything keeps it. -/
theorem owner_owning (env : Env) : (owner env).Guards owning :=
  .of_body (fun o => inferInstanceAs (Guarded owning (o.call env)))
    (fun t => guarded_taskBody env t fun _ _ _ _ => inferInstance)
    (fun t _ _ h => ⟨owning_setStatus t .running h, trivial⟩)
    fun t _ _ h => ⟨owning_setStatus t .done h, trivial⟩

/-- **No connection is an index for the request of another**, whenever no coroutine is running. -/
theorem owned_of_run {env : Env} {transport : WsId → Transport} {redis : Bool} {oracle : List Nat}
    {snapshots : String → Option RoomSnapshot} {c : Config World Frame Mark TaskId}
    (h : (owner env).Run (fun _ _ => True)
      (startConfig (World.start transport redis oracle snapshots)) c) (hidle : c.running = none) :
    c.state.Owned := by
  have hstart : (World.start transport redis oracle snapshots).Owned :=
    ⟨nofun, nofun, nofun, nofun⟩
  exact ((owner_owning env).run (fun _ _ _ => trivial) h
    (Loop.guarding_of_quiet rfl rfl hstart)).idle hidle

end Skribbl.Backend
