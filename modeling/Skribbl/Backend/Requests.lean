import Skribbl.Lib.Partitioned
import Skribbl.Backend.Capacity

/-!
# Pending join requests and spectator-role requests

* `Registry.Requests` — the requests that the manager holds are those that its rooms hold.
* `Registry.Resolves` — a request that has left does not come back.
* `requesting` — all functions of a worker keep both.

Principal result: `requests_of_run` — so it is whenever no coroutine is running, a request that has
left cannot be answered, and a join request leaves before its player is created.
-/

set_option autoImplicit false
set_option synthInstance.maxSize 100000

namespace Skribbl.Backend

open Coro AssocList

/-! ## The requests of a registry -/

namespace Registry

variable {g g' g₀ : Registry} {r : RoomId} {code : String} {i : RequestId}

/-- The manager holds the requests that its rooms hold. -/
structure Requests (g : Registry) : Prop where
  keys : (g.rooms.map (·.1)).Nodup
  codes : ∀ y ∈ g.rooms, y.2 < g.nextRoom ∧ g.code y.2 = y.1
  joins : Partitioned g.rooms (·.roomCode) g.joins g.roomJoins
  roles : Partitioned g.rooms (·.roomCode) g.roles g.roomRoles
  joinIds : ∀ x ∈ g.joins, x.2.requestId = x.1 ∧ g.Known x.1
  roleIds : ∀ x ∈ g.roles, x.2.requestId = x.1 ∧ g.Known x.1

/-- The registered rooms are told apart by their codes. -/
theorem Requests.rooms_inj (h : g.Requests) {y y' : String × RoomId} (hy : y ∈ g.rooms)
    (hy' : y' ∈ g.rooms) : y'.2 = y.2 ↔ y'.1 = y.1 := by
  refine ⟨fun hr => ?_, fun hcode => ?_⟩
  · rw [← (h.codes y hy).2, ← (h.codes y' hy').2, hr]
  · rw [List.inj_on_of_nodup_map h.keys hy' hy hcode]

/-- A request that has left does not come back. -/
structure Resolves (g g' : Registry) : Prop where
  nextUuid : g.nextUuid ≤ g'.nextUuid
  joins : ∀ i, g.Known i → i ∈ g'.joins.map (·.1) → i ∈ g.joins.map (·.1)
  roles : ∀ i, g.Known i → i ∈ g'.roles.map (·.1) → i ∈ g.roles.map (·.1)

theorem Resolves.refl (g : Registry) : g.Resolves g := ⟨le_rfl, fun _ _ h => h, fun _ _ h => h⟩

theorem Resolves.trans (h : g₀.Resolves g) (h' : g.Resolves g') : g₀.Resolves g' where
  nextUuid := h.nextUuid.trans h'.nextUuid
  joins i hi hmem := h.joins i hi (h'.joins i (hi.mono h.nextUuid) hmem)
  roles i hi hmem := h.roles i hi (h'.roles i (hi.mono h.nextUuid) hmem)

/-- The same rooms and requests; ids may have been made up. -/
structure SameRequests (g g' : Registry) : Prop where
  nextUuid : g.nextUuid ≤ g'.nextUuid
  nextRoom : g'.nextRoom = g.nextRoom
  rooms : g'.rooms = g.rooms
  code : g'.code = g.code
  joins : g'.joins = g.joins
  roomJoins : g'.roomJoins = g.roomJoins
  roles : g'.roles = g.roles
  roomRoles : g'.roomRoles = g.roomRoles

theorem Requests.same (h : g.Requests) (hg : g.SameRequests g') : g'.Requests where
  keys := hg.rooms ▸ h.keys
  codes := by
    rw [hg.rooms, hg.nextRoom, hg.code]
    exact h.codes
  joins := by
    rw [hg.rooms, hg.joins, hg.roomJoins]
    exact h.joins
  roles := by
    rw [hg.rooms, hg.roles, hg.roomRoles]
    exact h.roles
  joinIds := by
    rw [hg.joins]
    exact fun x hx => (h.joinIds x hx).imp_right fun hi => hi.mono hg.nextUuid
  roleIds := by
    rw [hg.roles]
    exact fun x hx => (h.roleIds x hx).imp_right fun hi => hi.mono hg.nextUuid

theorem Resolves.same (h : g₀.Resolves g) (hg : g.SameRequests g') : g₀.Resolves g' where
  nextUuid := h.nextUuid.trans hg.nextUuid
  joins := by
    rw [hg.joins]
    exact h.joins
  roles := by
    rw [hg.roles]
    exact h.roles

/-- **A join request comes** to a registered room. -/
theorem Requests.addJoin (h : g.Requests) {y : String × RoomId} (hy : y ∈ g.rooms)
    {x : PendingJoinRequest} (hx : x.requestId = .uuid g.nextUuid) (hcode : x.roomCode = y.1) :
    Requests { g with
      nextUuid := g.nextUuid + 1
      joins := g.joins ++ [(.uuid g.nextUuid, x)]
      roomJoins := Function.update g.roomJoins y.2 (g.roomJoins y.2 ++
        [(.uuid g.nextUuid, x)]) } := by
  have hfresh : Ident.uuid g.nextUuid ∉ g.joins.map (·.1) := by
    intro hmem
    obtain ⟨x', hx', heq⟩ := List.mem_map.mp hmem
    exact g.not_known (heq ▸ (h.joinIds x' hx').2)
  refine ⟨h.keys, h.codes, h.joins.add hy (fun y' hy' => h.rooms_inj hy hy') hfresh hcode, h.roles,
    fun x' hx' => ?_, fun x' hx' => (h.roleIds x' hx').imp_right fun hi => hi.mono (Nat.le_succ _)⟩
  rcases List.mem_append.mp hx' with hx' | hx'
  · exact (h.joinIds x' hx').imp_right fun hi => hi.mono (Nat.le_succ _)
  · rw [List.mem_singleton.mp hx']
    exact ⟨hx, g.nextUuid, Nat.lt_succ_self _, rfl⟩

/-- **A role request comes** to a registered room. -/
theorem Requests.addRole (h : g.Requests) {y : String × RoomId} (hy : y ∈ g.rooms)
    {x : PendingSpectatorRoleRequest} (hx : x.requestId = .uuid g.nextUuid)
    (hcode : x.roomCode = y.1) :
    Requests { g with
      nextUuid := g.nextUuid + 1
      roles := g.roles ++ [(.uuid g.nextUuid, x)]
      roomRoles := Function.update g.roomRoles y.2 (g.roomRoles y.2 ++
        [(.uuid g.nextUuid, x)]) } := by
  have hfresh : Ident.uuid g.nextUuid ∉ g.roles.map (·.1) := by
    intro hmem
    obtain ⟨x', hx', heq⟩ := List.mem_map.mp hmem
    exact g.not_known (heq ▸ (h.roleIds x' hx').2)
  refine ⟨h.keys, h.codes, h.joins, h.roles.add hy (fun y' hy' => h.rooms_inj hy hy') hfresh hcode,
    fun x' hx' => (h.joinIds x' hx').imp_right fun hi => hi.mono (Nat.le_succ _), fun x' hx' => ?_⟩
  rcases List.mem_append.mp hx' with hx' | hx'
  · exact (h.roleIds x' hx').imp_right fun hi => hi.mono (Nat.le_succ _)
  · rw [List.mem_singleton.mp hx']
    exact ⟨hx, g.nextUuid, Nat.lt_succ_self _, rfl⟩

/-- **A join request goes.** -/
theorem Requests.dropJoin (h : g.Requests) (i : RequestId)
    (hr : ∀ y ∈ g.rooms, ∀ x ∈ g.joins, x.1 = i → x.2.roomCode = y.1 → y.2 = r) :
    Requests { g with
      joins := g.joins.filter (·.1 ≠ i)
      roomJoins := Function.update g.roomJoins r ((g.roomJoins r).filter (·.1 ≠ i)) } :=
  ⟨h.keys, h.codes, h.joins.drop i hr, h.roles, fun x hx => h.joinIds x (List.mem_filter.mp hx).1,
    h.roleIds⟩

/-- **A role request goes.** -/
theorem Requests.dropRole (h : g.Requests) (i : RequestId)
    (hr : ∀ y ∈ g.rooms, ∀ x ∈ g.roles, x.1 = i → x.2.roomCode = y.1 → y.2 = r) :
    Requests { g with
      roles := g.roles.filter (·.1 ≠ i)
      roomRoles := Function.update g.roomRoles r ((g.roomRoles r).filter (·.1 ≠ i)) } :=
  ⟨h.keys, h.codes, h.joins, h.roles.drop i hr, h.joinIds,
    fun x hx => h.roleIds x (List.mem_filter.mp hx).1⟩

/-- **A room goes** with its requests. -/
theorem Requests.removeRoom (h : g.Requests) (code : String) :
    Requests { g with
      rooms := g.rooms.filter (·.1 ≠ code)
      joins := g.joins.filter (·.2.roomCode ≠ code)
      roles := g.roles.filter (·.2.roomCode ≠ code) } :=
  ⟨h.keys.sublist (List.filter_sublist.map _), fun y hy => h.codes y (List.mem_filter.mp hy).1,
    h.joins.removePart code, h.roles.removePart code,
    fun x hx => h.joinIds x (List.mem_filter.mp hx).1,
    fun x hx => h.roleIds x (List.mem_filter.mp hx).1⟩

/-- A room object that is not registered yet. -/
def emptyRoom (g : Registry) (code : String) : Registry :=
  { g with
    nextRoom := g.nextRoom + 1
    code := Function.update g.code g.nextRoom code
    roomJoins := Function.update g.roomJoins g.nextRoom []
    roomRoles := Function.update g.roomRoles g.nextRoom [] }

/-- **A room comes**, without requests. -/
theorem Requests.addRoom (h : g.Requests) (hcode : code ∉ g.rooms.map (·.1)) :
    Requests { g.emptyRoom code with rooms := g.rooms ++ [(code, g.nextRoom)] } := by
  have hne : ∀ y ∈ g.rooms, y.2 ≠ g.nextRoom := fun y hy => (h.codes y hy).1.ne
  refine ⟨?_, fun y hy => ?_, ?_, ?_, h.joinIds, h.roleIds⟩
  · rw [List.map_append]
    exact h.keys.append (List.nodup_singleton _) (by simpa using hcode)
  · rcases List.mem_append.mp hy with hy | hy
    · obtain ⟨hlt, hc⟩ := h.codes y hy
      exact ⟨Nat.lt_succ_of_lt hlt, by simpa [emptyRoom, Function.update_of_ne (hne y hy)] using hc⟩
    · rw [List.mem_singleton.mp hy]
      exact ⟨Nat.lt_succ_self _, by simp [emptyRoom]⟩
  · exact (h.joins.congr fun y hy => Function.update_of_ne (hne y hy) _ _).addPart hcode (by simp)
  · exact (h.roles.congr fun y hy => Function.update_of_ne (hne y hy) _ _).addPart hcode (by simp)

end Registry

/-! ## The guarantee -/

/-- The manager and its rooms hold the same requests, and what sleeps to expire a role request has
its room. -/
structure World.Requested (w : World) : Prop where
  requests : w.registry.Requests
  timeouts : ∀ i r p n, w.Live ⟨.roleTimeout i r p, n⟩ → w.registry.Known i ∧
    ∀ x ∈ w.pendingSpectatorRoleRequests, x.1 = i → ∀ y ∈ w.rooms, x.2.roomCode = y.1 → y.2 = r

/-- What one assignment does to a map of requests: nothing, a request comes, one goes, or those of a
room that is no longer registered go. -/
inductive Moves {β : Type} (codeOf : β → String) (rooms : List (String × RoomId))
    (l : List (RequestId × β)) : List (RequestId × β) → Prop
  | same : Moves codeOf rooms l l
  | comes (x : RequestId × β) : Moves codeOf rooms l (l ++ [x])
  | goes (i : RequestId) : Moves codeOf rooms l (l.filter (·.1 ≠ i))
  | closes (code : String) (hcode : code ∉ rooms.map (·.1)) :
    Moves codeOf rooms l (l.filter (codeOf ·.2 ≠ code))

/-- So it does to both maps of the manager. -/
structure World.Moves (w w' : World) : Prop where
  joins : Backend.Moves (·.roomCode) w'.rooms w.pendingJoinRequests w'.pendingJoinRequests
  roles : Backend.Moves (·.roomCode) w'.rooms w.pendingSpectatorRoleRequests
    w'.pendingSpectatorRoleRequests

/-- No room is restored; the requests stay together, move one by one or with their room, and those
that have left do not come back. -/
def requesting : Guarantee World Mark where
  ok e _ := e.isRestore = false
  inv := World.Requested
  change := World.Moves
  rely w w' := w.registry.Resolves w'.registry
  refl w := .refl w.registry
  trans := .trans

variable {w₀ w w' w'' : World} {g : Registry} {r : RoomId} {p : PlayerId} {code : String}

/-- The requests are those of `g`, and nothing else than in `w` sleeps to expire one. -/
structure World.Like (w : World) (g : Registry) (w' : World) : Prop where
  same : g.SameRequests w'.registry
  live : ∀ i r p n, w'.Live ⟨.roleTimeout i r p, n⟩ → w.Live ⟨.roleTimeout i r p, n⟩

theorem World.Like.refl (w : World) : w.Like w.registry w :=
  ⟨⟨le_rfl, rfl, rfl, rfl, rfl, rfl, rfl, rfl⟩, fun _ _ _ _ h => h⟩

/-- Only members and indexes are written. -/
class Indexing (l : List Register) : Prop where
  out : ∀ x ∈ l, x = .index

instance : Indexing [] := ⟨nofun⟩

instance : Indexing [.index] := ⟨fun _ hx => List.mem_singleton.mp hx⟩

theorem sameRequests_room (w : World) (r : RoomId) (x : Room) (hcode : x.code = (w.room r).code)
    (hjoins : x.pendingJoinRequests = (w.room r).pendingJoinRequests)
    (hroles : x.pendingSpectatorRoleRequests = (w.room r).pendingSpectatorRoleRequests) :
    w.registry.SameRequests (World.registry { w with room := Function.update w.room r x }) := by
  refine ⟨le_rfl, rfl, rfl, ?_, rfl, ?_, rfl, ?_⟩
  · exact (update_room (·.code) w.room r x).trans (by rw [hcode]; exact Function.update_eq_self r _)
  · exact (update_room (·.pendingJoinRequests) w.room r x).trans
      (by rw [hjoins]; exact Function.update_eq_self r _)
  · exact (update_room (·.pendingSpectatorRoleRequests) w.room r x).trans
      (by rw [hroles]; exact Function.update_eq_self r _)

/-- **Members and indexes** are no part of the requests. -/
theorem Update.sameRequests (u : Update) (hu : ∀ x ∈ u.registers, x = .index) (w : World) :
    w.registry.SameRequests (u.apply w).registry := by
  cases u with
  | room r u =>
    have hu : ∀ x ∈ u.registers, x = .index := hu
    cases u <;> first
      | exact sameRequests_room w r _ rfl rfl rfl
      | simp at hu
  | newTurn r make => exact sameRequests_room w r _ rfl rfl rfl
  | newPlayer r make => exact ⟨Nat.le_succ _, rfl, rfl, rfl, rfl, rfl, rfl, rfl⟩
  | _ =>
    first
      | exact ⟨le_rfl, rfl, rfl, rfl, rfl, rfl, rfl, rfl⟩
      | simp [Update.registers] at hu

/-- They do not start a timeout of a role request. -/
theorem Update.live_of_indexing (u : Update) (hu : ∀ x ∈ u.registers, x = .index) (i : RequestId)
    (r : RoomId) (p : PlayerId) (n : Nat) (h : (u.apply w).Live ⟨.roleTimeout i r p, n⟩) :
    w.Live ⟨.roleTimeout i r p, n⟩ := by
  cases u with
  | createTask kind delay =>
    have hne : (⟨.roleTimeout i r p, n⟩ : TaskId) ≠ ⟨kind, w.nextTask⟩ := by
      intro heq
      cases heq
      cases hu .roles List.mem_cons_self
    simpa [World.Live, Update.apply, Function.update_of_ne hne] using h
  | cancel t =>
    have htask := w.task_of_cancel t h
    rw [World.Live, htask] at h
    exact h
  | _ => exact h

/-- They leave both maps alone. -/
theorem Update.moves (u : Update) (hu : ∀ x ∈ u.registers, x = .index) (w : World) :
    w.Moves (u.apply w) := by
  cases u with
  | pendingJoinRequests l => cases hu .joins List.mem_cons_self
  | pendingSpectatorRoleRequests l => cases hu .roles List.mem_cons_self
  | _ => exact ⟨.same, .same⟩

theorem Registry.SameRequests.trans {g₁ g₂ g₃ : Registry} (h : g₁.SameRequests g₂)
    (h' : g₂.SameRequests g₃) : g₁.SameRequests g₃ :=
  ⟨h.nextUuid.trans h'.nextUuid, h'.nextRoom.trans h.nextRoom, h'.rooms.trans h.rooms,
    h'.code.trans h.code, h'.joins.trans h.joins, h'.roomJoins.trans h.roomJoins,
    h'.roles.trans h.roles, h'.roomRoles.trans h.roomRoles⟩

theorem World.Like.put (h : w.Like g w') (u : Update) [hu : Indexing u.registers] :
    w.Like g (u.apply w') :=
  ⟨h.same.trans (u.sameRequests hu.out w'), fun i r p n hlive =>
    h.live i r p n (u.live_of_indexing hu.out i r p n hlive)⟩

/-- **A change of the requests** that keeps them together. -/
theorem World.Like.holds (hlike : w.Like g w') (h : requesting.Holds w₀ w) (hg : g.Requests)
    (hrely : w₀.registry.Resolves g) (hle : w.nextUuid ≤ g.nextUuid)
    (hold : ∀ x ∈ g.roles, ∀ y ∈ g.rooms, x.2.roomCode = y.1 → w.registry.Known x.1 →
      x ∈ w.pendingSpectatorRoleRequests ∧ y ∈ w.rooms) : requesting.Holds w₀ w' := by
  refine ⟨⟨hg.same hlike.same, fun i r p n hlive => ?_⟩, hrely.same hlike.same⟩
  obtain ⟨hknown, hroom⟩ := h.inv.timeouts i r p n (hlike.live i r p n hlive)
  refine ⟨(hknown.mono hle).mono hlike.same.nextUuid, fun x hx hxi y hy hcode => ?_⟩
  have hx : x ∈ g.roles := hlike.same.roles ▸ hx
  have hy : y ∈ g.rooms := hlike.same.rooms ▸ hy
  obtain ⟨hx, hy⟩ := hold x hx y hy hcode (hxi ▸ hknown)
  exact hroom x hx hxi y hy hcode

/-- Nothing has happened to the requests. -/
theorem World.Like.holds_same (hlike : w.Like w.registry w') (h : requesting.Holds w₀ w) :
    requesting.Holds w₀ w' :=
  hlike.holds h h.inv.requests h.rely le_rfl fun _ hx _ hy _ _ => ⟨hx, hy⟩

/-! ### Assignments and lookups -/

theorem holds_put (h : requesting.Holds w₀ w) (u : Update) [Indexing u.registers] :
    requesting.Holds w₀ (u.apply w) := ((World.Like.refl w).put u).holds_same h

instance (u : Update) [hu : Indexing u.registers] : Guarded requesting (put u) :=
  ⟨fun h => ⟨u.moves hu.out _, holds_put h u⟩⟩

instance (r : RoomId) (make : PlayerId → Player) : Guarded requesting (newPlayer r make) :=
  ⟨fun h => ⟨⟨.same, .same⟩, holds_put h (.newPlayer r make)⟩⟩

theorem requesting_getPlayer {Q : Option PlayerId → World → World → Prop}
    (hQ : ∀ o w', w.Like w.registry w' → Q o w₀ w') : (getPlayer r p).Guards requesting Q w₀ w := by
  have hsame := World.Like.refl w
  unfold getPlayer
  rw [guards_bind, guards_readRoom, guards_ite, guards_ite]
  exact ⟨fun _ => hQ _ _ hsame, fun _ => ⟨fun _ => ⟨⟨.same, .same⟩,
    hQ _ _ (hsame.put (.room r (.playersById p)))⟩, fun _ => hQ _ _ hsame⟩⟩

/-- The room that is found is registered. -/
theorem requesting_findRoomByPlayer {Q : Option RoomId → World → World → Prop}
    (hQ : ∀ o w', w.Like w.registry w' → (∀ r, o = some r → ∃ code, (code, r) ∈ w.rooms) →
      Q o w₀ w') : (findRoomByPlayer p).Guards requesting Q w₀ w := by
  have hsame := World.Like.refl w
  unfold findRoomByPlayer
  rw [guards_bind, guards_read, guards_elim]
  refine ⟨fun _ => ?_, fun code _ => hQ _ _ hsame fun r hr => ?_⟩
  · rw [guards_elim]
    refine ⟨fun _ => hQ _ _ hsame nofun, fun x hx => ⟨⟨.same, .same⟩, ⟨.same, .same⟩, ?_⟩⟩
    refine hQ _ _ ((hsame.put (.room x.2 (.playersById p))).put (.playerToRoom p _)) fun r hr => ?_
    obtain rfl : x.2 = r := Option.some.inj hr
    exact ⟨x.1, List.mem_of_find?_eq_some hx⟩
  · obtain ⟨x, hx, hxr⟩ := Option.map_eq_some_iff.mp hr
    exact ⟨x.1, hxr ▸ List.mem_of_find?_eq_some hx⟩

instance : Tolerates requesting where
  put u hu := by
    have hindexing : Indexing u.registers := hu ▸ inferInstance
    infer_instance
  getPlayer _ _ := ⟨fun h => requesting_getPlayer fun _ _ hw => hw.holds_same h⟩
  findRoomByPlayer _ := ⟨fun h => requesting_findRoomByPlayer fun _ _ hw _ => hw.holds_same h⟩

/-! ### Operations -/

/-- Without a suspension, nothing happens to the requests. -/
class Still {α : Type} (c : M α) : Prop where
  out : ∀ {w₀ w w' : World} {g : Registry}, w.Like g w' →
    c.Guards requesting (fun _ w₁ w'' => w₁ = w₀ ∧ w.Like g w'') w₀ w'

theorem World.Like.putWs (h : w.Like g w') (ws : WsId) (o : Option RequestId) :
    w.Like g ((Update.wsToPendingRequest ws o).apply w') :=
  ⟨⟨h.same.nextUuid, h.same.nextRoom, h.same.rooms, h.same.code, h.same.joins, h.same.roomJoins,
    h.same.roles, h.same.roomRoles⟩, h.live⟩

instance {α : Type} (a : α) : Still (Pure.pure a : M α) := ⟨fun h => ⟨rfl, h⟩⟩

instance (u : Update) [hu : Indexing u.registers] : Still (put u) :=
  ⟨fun h => ⟨u.moves hu.out _, rfl, h.put u⟩⟩

instance (ws : WsId) (o : Option RequestId) : Still (put (.wsToPendingRequest ws o)) :=
  ⟨fun h => ⟨⟨.same, .same⟩, rfl, h.putWs ws o⟩⟩

/-- What follows it. -/
theorem guards_still {α β : Type} {c : M α} {f : α → M β} [hc : Still c] (h : w.Like g w')
    {Q : β → World → World → Prop}
    (hf : ∀ a w'', w.Like g w'' → (f a).Guards requesting Q w₀ w'') :
    (c >>= f).Guards requesting Q w₀ w' := by
  refine guards_bind.mpr ((hc.out h).mono fun a w₁ w'' ⟨hw, hlike⟩ => ?_)
  subst hw
  exact hf a w'' hlike

instance {α β : Type} (c : M α) (f : α → M β) [Still c] [hf : ∀ a, Still (f a)] :
    Still (c >>= f) := ⟨fun h => guards_still h fun a _ h' => (hf a).out h'⟩

instance {α β : Type} (o : Option β) (c : M α) (f : β → M α) [Still c] [∀ b, Still (f b)] :
    Still (o.elim c f) := by
  cases o <;> simp only [Option.elim] <;> infer_instance

instance {β : Type} (l : List β) (f : β → M Unit) [hf : ∀ b, Still (f b)] : Still (each l f) where
  out h := guards_each (fun _ w₁ w'' => w₁ = _ ∧ World.Like _ _ w'') ⟨rfl, h⟩
    fun b _ _ _ ⟨hw, h'⟩ => hw ▸ (hf b).out h'

instance (kind : TaskKind) (n : Option Nat) : Still (cancel kind n) := by
  unfold cancel; infer_instance

instance (x : PendingSpectatorRoleRequest) : Still (cancelRoleTimeout x) := by
  unfold cancelRoleTimeout; infer_instance

theorem World.Like.putRooms (h : w.Like g w') (l : List (String × RoomId)) :
    w.Like { g with rooms := l } ((Update.rooms l).apply w') :=
  ⟨⟨h.same.nextUuid, h.same.nextRoom, rfl, h.same.code, h.same.joins, h.same.roomJoins,
    h.same.roles, h.same.roomRoles⟩, h.live⟩

theorem World.Like.putJoins (h : w.Like g w') (l : List (RequestId × PendingJoinRequest)) :
    w.Like { g with joins := l } ((Update.pendingJoinRequests l).apply w') :=
  ⟨⟨h.same.nextUuid, h.same.nextRoom, h.same.rooms, h.same.code, rfl, h.same.roomJoins,
    h.same.roles, h.same.roomRoles⟩, h.live⟩

theorem World.Like.putRoles (h : w.Like g w')
    (l : List (RequestId × PendingSpectatorRoleRequest)) :
    w.Like { g with roles := l } ((Update.pendingSpectatorRoleRequests l).apply w') :=
  ⟨⟨h.same.nextUuid, h.same.nextRoom, h.same.rooms, h.same.code, h.same.joins, h.same.roomJoins,
    rfl, h.same.roomRoles⟩, h.live⟩

theorem World.Like.putRoomJoins (h : w.Like g w') (r : RoomId)
    (l : List (RequestId × PendingJoinRequest)) :
    w.Like { g with roomJoins := Function.update g.roomJoins r l }
      ((Update.room r (.pendingJoinRequests l)).apply w') := by
  refine ⟨?_, h.live⟩
  rw [registry_roomJoins]
  exact ⟨h.same.nextUuid, h.same.nextRoom, h.same.rooms, h.same.code, h.same.joins,
    congrArg (Function.update · r l) h.same.roomJoins, h.same.roles, h.same.roomRoles⟩

theorem World.Like.putRoomRoles (h : w.Like g w') (r : RoomId)
    (l : List (RequestId × PendingSpectatorRoleRequest)) :
    w.Like { g with roomRoles := Function.update g.roomRoles r l }
      ((Update.room r (.pendingSpectatorRoleRequests l)).apply w') := by
  refine ⟨?_, h.live⟩
  rw [registry_roomRoles]
  exact ⟨h.same.nextUuid, h.same.nextRoom, h.same.rooms, h.same.code, h.same.joins,
    h.same.roomJoins, h.same.roles, congrArg (Function.update · r l) h.same.roomRoles⟩

/-- Fewer requests. -/
theorem Registry.Resolves.less {g₀ g g' : Registry} (h : g₀.Resolves g)
    (hu : g'.nextUuid = g.nextUuid) (hjoins : ∀ x ∈ g'.joins, x ∈ g.joins)
    (hroles : ∀ x ∈ g'.roles, x ∈ g.roles) : g₀.Resolves g' :=
  h.trans ⟨hu.ge, fun _ _ hi => List.map_subset _ hjoins hi,
    fun _ _ hi => List.map_subset _ hroles hi⟩

/-- The requests of a room that has gone. -/
theorem World.Like.closesJoins (h : w.Like g w') (hg : g.joins = w.pendingJoinRequests)
    (hcode : code ∉ g.rooms.map (·.1)) :
    w'.Moves ((Update.pendingJoinRequests
      (w.pendingJoinRequests.filter (·.2.roomCode ≠ code))).apply w') := by
  have hsame : w.pendingJoinRequests = w'.pendingJoinRequests := (h.same.joins.trans hg).symm
  have hcode : code ∉ w'.registry.rooms.map (·.1) := by rwa [h.same.rooms]
  refine ⟨?_, .same⟩
  rw [hsame]
  exact .closes code hcode

theorem World.Like.closesRoles (h : w.Like g w') (hg : g.roles = w.pendingSpectatorRoleRequests)
    (hcode : code ∉ g.rooms.map (·.1)) :
    w'.Moves ((Update.pendingSpectatorRoleRequests
      (w.pendingSpectatorRoleRequests.filter (·.2.roomCode ≠ code))).apply w') := by
  have hsame : w.pendingSpectatorRoleRequests = w'.pendingSpectatorRoleRequests :=
    (h.same.roles.trans hg).symm
  have hcode : code ∉ w'.registry.rooms.map (·.1) := by rwa [h.same.rooms]
  refine ⟨.same, ?_⟩
  rw [hsame]
  exact .closes code hcode

instance (code : String) : Guarded requesting (deleteRoom code) where
  out {w₀ w} h := by
    have hcode : code ∉ (w.rooms.filter (·.1 ≠ code)).map (·.1) := by simp
    unfold deleteRoom
    rw [guards_bind, guards_read, guards_bind, guards_put]
    refine ⟨⟨.same, .same⟩, guards_still ((World.Like.refl w).putRooms _) fun _ w₁ h₁ => ?_⟩
    rw [guards_bind, guards_put]
    refine ⟨h₁.closesJoins rfl hcode, guards_still (h₁.putJoins _) fun _ w₂ h₂ => ?_⟩
    rw [guards_bind, guards_put]
    refine ⟨h₂.closesRoles rfl hcode, guards_still (h₂.putRoles _) fun _ w₃ h₃ => ?_⟩
    refine Guarded.out (h₃.holds h (h.inv.requests.removeRoom code) ?_ le_rfl ?_)
    · exact h.rely.less rfl (fun _ hx => (List.mem_filter.mp hx).1)
        fun _ hx => (List.mem_filter.mp hx).1
    · exact fun _ hx _ hy _ _ => ⟨(List.mem_filter.mp hx).1, (List.mem_filter.mp hy).1⟩

/-! ### Requests come -/

theorem requesting_requestJoin {name : String} {ws : WsId} {avatar : Option String}
    (h : requesting.Holds w₀ w) (hr : w.roomOf code = some r) :
    (requestJoin r code name ws avatar).Guards requesting (fun _ => requesting.Holds) w₀ w := by
  unfold requestJoin
  dsimp only
  rw [guards_bind, guards_read, guards_ite]
  refine ⟨fun _ => h, fun _ => guards_bind.mpr (requesting_getPlayer fun o w₁ h₁ => ?_)⟩
  rw [guards_elim]
  refine ⟨fun _ => h₁.holds_same h, fun host _ => ?_⟩
  rw [guards_elim]
  refine ⟨fun _ => h₁.holds_same h, fun hostWs _ => ?_⟩
  unfold uuid4 createTask
  simp only [guards_bind, guards_read, guards_put, guards_pure]
  have hjoins : w.pendingJoinRequests = w₁.pendingJoinRequests := h₁.same.joins.symm
  have hown : (w.room r).pendingJoinRequests = (w₁.room r).pendingJoinRequests :=
    (congrFun h₁.same.roomJoins r).symm
  rw [hjoins, hown]
  refine ⟨⟨.same, .same⟩, ⟨.same, .same⟩, ⟨.comes _, .same⟩, ⟨.same, .same⟩, ⟨.same, .same⟩, ?_⟩
  set x : PendingJoinRequest := ⟨.uuid w₁.nextUuid, code, name, avatar, ws, w.now, _⟩
  have hbase : requesting.Holds w₀ w₁ := h₁.holds_same h
  have hy : (code, r) ∈ w₁.rooms := by
    change (code, r) ∈ w₁.registry.rooms
    rw [h₁.same.rooms]
    exact mem_rooms_of_roomOf hr
  have hid : w₁.Like { w₁.registry with nextUuid := w₁.nextUuid + 1 }
      (Update.uuid4.apply w₁) := ⟨⟨le_rfl, rfl, rfl, rfl, rfl, rfl, rfl, rfl⟩, fun _ _ _ _ h => h⟩
  have hlike := (((hid.put (.createTask (.joinTimeout (.uuid w₁.nextUuid)) 30)).putJoins
    (w₁.pendingJoinRequests ++ [(.uuid w₁.nextUuid, x)])).putWs ws
    (some (.uuid w₁.nextUuid))).putRoomJoins r
    ((w₁.room r).pendingJoinRequests ++ [(.uuid w₁.nextUuid, x)])
  refine Guarded.out (hlike.holds hbase (hbase.inv.requests.addJoin hy rfl rfl) ?_
    (Nat.le_succ _) fun x hx y hy _ _ => ⟨hx, hy⟩)
  refine hbase.rely.trans ⟨Nat.le_succ _, fun i hi hmem => ?_, fun i hi hmem => hmem⟩
  rw [List.map_append, List.mem_append] at hmem
  refine hmem.resolve_right fun hnew => ?_
  obtain rfl : i = .uuid w₁.nextUuid := List.mem_singleton.mp hnew
  exact w₁.registry.not_known hi

instance (r : RoomId) (code name : String) (ws : WsId) (avatar : Option String)
    (isSpectator : Bool) :
    Guarded requesting (admitPlayer r code name ws avatar isSpectator) := by
  unfold admitPlayer; infer_instance

instance (r : RoomId) (code name : String) (avatar : Option String) (isSpectator : Bool) :
    Guarded requesting (admitRemote r code name avatar isSpectator) := by
  unfold admitRemote; infer_instance

instance (env : Env) (code name : String) (avatar : Option String) (asSpectator : Bool)
    (password : Option String) :
    Guarded requesting (handleRpcJoin env code name avatar asSpectator password) := by
  unfold handleRpcJoin; infer_instance

theorem requesting_joinRoomLocal (env : Env) {name : String} {ws : WsId} {avatar : Option String}
    {asSpectator : Bool} {password : Option String} (h : requesting.Holds w₀ w)
    (hr : w.roomOf code = some r) :
    (joinRoomLocal env r code name ws avatar asSpectator password).Guards requesting
      (fun _ => requesting.Holds) w₀ w := by
  unfold joinRoomLocal
  rw [guards_bind, guards_read, guards_elim]
  refine ⟨fun _ => ?_, fun _ _ => h⟩
  rw [guards_ite, guards_ite, guards_ite]
  exact ⟨fun _ => requesting_requestJoin h hr, fun _ => ⟨fun _ => h, fun _ => ⟨fun _ => h, fun _ =>
    Guarded.out h⟩⟩⟩

/-- Restoring is excluded. -/
theorem requesting_not_restores (state : RoomState) (i : Nat) (ids : List PlayerId) (w : World) :
    ¬requesting.ok (.restores state i ids) w := nofun

instance (x : RoomSnapshot) : Guarded requesting (restoreRoom x) :=
  guarded_restoreRoom requesting_not_restores x

instance (env : Env) (name code : String) (ws : WsId) (avatar : Option String) (asSpectator : Bool)
    (password : Option String) (remote : Option Message) :
    Guarded requesting (joinRoom env name code ws avatar asSpectator password remote) :=
  guarded_joinRoom requesting_not_restores (requesting_joinRoomLocal env)

instance (env : Env) (draws : List String) (name : String) (ws : WsId)
    (avatar password : Option String) (maxPlayers : Option Int) :
    Guarded requesting (createRoom env draws name ws avatar password maxPlayers) where
  out {w₀ w} h := by
    unfold createRoom
    dsimp only
    rw [guards_bind, guards_read, guards_ite, guards_elim, guards_elim]
    refine ⟨fun _ => h, fun _ => ⟨fun _ => ⟨fun _ => h, fun code hdraw => ?_⟩, fun _ _ => h⟩⟩
    have hfree : code ∉ w.rooms.map (·.1) :=
      notMem_of_roomOf (by simpa using List.find?_some hdraw)
    simp only [guards_bind, guards_newPlayer, guards_mark, guards_put]
    refine fun _ => ⟨⟨.same, .same⟩, ⟨.same, .same⟩, fun _ =>
      ⟨⟨.same, .same⟩, ⟨.same, .same⟩, ⟨.same, .same⟩, ⟨.same, .same⟩, ?_⟩⟩
    have hnew : w.Like (w.registry.emptyRoom code) ((Update.newRoom
        { code := code, hostId := .other "",
          config := { password := env.newPassword password,
                      maxPlayers := newMaxPlayers maxPlayers } }
        fun p => { id := p, name := "" }).apply w) := by
      refine ⟨?_, fun _ _ _ _ h => h⟩
      rw [registry_newRoom]
      exact ⟨le_rfl, rfl, rfl, rfl, rfl, rfl, rfl, rfl⟩
    have hlike := ((((hnew.put (.newPlayer w.nextRoom fun p =>
      { id := p, name := name, websocket := some ws, avatar := avatar })).put
      (.room w.nextRoom (.hostId (.uuid w.nextUuid)))).put
      (.room w.nextRoom (.addPlayer (.uuid w.nextUuid)))).putRooms
      (w.rooms ++ [(code, w.nextRoom)])).put (.playerToRoom (.uuid w.nextUuid) (some code))
    refine Guarded.out (hlike.holds h (h.inv.requests.addRoom hfree) ?_ le_rfl
      fun x hx y hy hcode _ => ⟨hx, ?_⟩)
    · exact h.rely.less rfl (fun _ hx => hx) fun _ hx => hx
    · refine (List.mem_append.mp hy).resolve_right fun hlast => hfree ?_
      obtain rfl : y = (code, w.nextRoom) := List.mem_singleton.mp hlast
      have hlast : x.2.roomCode = code := hcode
      rw [← hlast]
      exact h.inv.requests.roles.registered x hx

/-! ### Requests go -/

/-- A room is registered once. -/
theorem Registry.Requests.room_unique (h : g.Requests) {y y' : String × RoomId} (hy : y ∈ g.rooms)
    (hy' : y' ∈ g.rooms) (hcode : y'.1 = y.1) : y'.2 = y.2 := (h.rooms_inj hy hy').mpr hcode

/-- Any request that is found is found under its own id. -/
theorem World.Requested.join_mem (h : w.Requested) {P : RequestId × PendingJoinRequest → Bool}
    {request : PendingJoinRequest}
    (hfind : (w.pendingJoinRequests.find? P).map (·.2) = some request) :
    (request.requestId, request) ∈ w.pendingJoinRequests := by
  obtain ⟨x, hx, rfl⟩ := Option.map_eq_some_iff.mp hfind
  have hmem := List.mem_of_find?_eq_some hx
  rw [(h.requests.joinIds x hmem).1]
  exact hmem

theorem World.Requested.role_mem (h : w.Requested)
    {P : RequestId × PendingSpectatorRoleRequest → Bool} {request : PendingSpectatorRoleRequest}
    (hfind : (w.pendingSpectatorRoleRequests.find? P).map (·.2) = some request) :
    (request.requestId, request) ∈ w.pendingSpectatorRoleRequests := by
  obtain ⟨x, hx, rfl⟩ := Option.map_eq_some_iff.mp hfind
  have hmem := List.mem_of_find?_eq_some hx
  rw [(h.requests.roleIds x hmem).1]
  exact hmem

theorem requesting_dropJoinRequest {request : PendingJoinRequest} (h : requesting.Holds w₀ w)
    (hx : (request.requestId, request) ∈ w.pendingJoinRequests) :
    (dropJoinRequest request).Guards requesting (fun _ => requesting.Holds) w₀ w := by
  unfold dropJoinRequest
  simp only [guards_bind, guards_read, guards_put, guards_elim, guards_pure]
  refine ⟨⟨.goes _, .same⟩, ⟨.same, .same⟩, fun hfree => ?_, fun r hr => ⟨⟨.same, .same⟩, ?_⟩⟩
  · exact absurd (h.inv.requests.joins.registered _ hx) (notMem_of_roomOf hfree)
  · have hmem := mem_rooms_of_roomOf hr
    have hlike := (((World.Like.refl w).putJoins
      (w.pendingJoinRequests.filter (·.1 ≠ request.requestId))).putWs request.websocket
      none).putRoomJoins r ((w.room r).pendingJoinRequests.filter (·.1 ≠ request.requestId))
    refine hlike.holds h (h.inv.requests.dropJoin request.requestId fun y hy x hx' hxi hcode => ?_)
      ?_ le_rfl fun _ hx _ hy _ _ => ⟨hx, hy⟩
    · have heq := h.inv.requests.joins.entry_unique hx' hx hxi
      rw [heq] at hcode
      exact h.inv.requests.room_unique hmem hy hcode.symm
    · exact h.rely.less rfl (fun _ hx => (List.mem_filter.mp hx).1) fun _ hx => hx

theorem requesting_dropRoleRequest {i : RequestId} (h : requesting.Holds w₀ w)
    (hr : ∀ x ∈ w.pendingSpectatorRoleRequests, x.1 = i → ∀ y ∈ w.rooms, x.2.roomCode = y.1 →
      y.2 = r) :
    (dropRoleRequest r i).Guards requesting (fun _ => requesting.Holds) w₀ w := by
  unfold dropRoleRequest
  simp only [guards_bind, guards_read, guards_put]
  refine ⟨⟨.same, .goes _⟩, ⟨.same, .same⟩, ?_⟩
  have hlike := ((World.Like.refl w).putRoles
    (w.pendingSpectatorRoleRequests.filter (·.1 ≠ i))).putRoomRoles r
    ((w.room r).pendingSpectatorRoleRequests.filter (·.1 ≠ i))
  refine hlike.holds h (h.inv.requests.dropRole i fun y hy x hx hxi => hr x hx hxi y hy) ?_ le_rfl
    fun _ hx _ hy _ _ => ⟨(List.mem_filter.mp hx).1, hy⟩
  exact h.rely.less rfl (fun _ hx => hx) fun _ hx => (List.mem_filter.mp hx).1

instance (requestId : RequestId) : Guarded requesting (handleJoinRequestTimeout requestId) where
  out {w₀ w} h := by
    unfold handleJoinRequestTimeout
    rw [guards_bind, guards_read, guards_elim]
    exact ⟨fun _ => h, fun request hfind =>
      guards_then (requesting_dropJoinRequest h (h.inv.join_mem hfind))⟩

/-- A cancelled timeout leaves the requests as they are. -/
theorem requesting_cancel {α : Type} {kind : TaskKind} {n : Option Nat} {f : Unit → M α}
    (h : requesting.Holds w₀ w) {Q : α → World → World → Prop}
    (hf : ∀ w', requesting.Holds w₀ w' → (∀ x ∈ w.pendingJoinRequests, x ∈ w'.pendingJoinRequests) →
      (f ()).Guards requesting Q w₀ w') :
    (cancel kind n >>= f).Guards requesting Q w₀ w :=
  guards_still (World.Like.refl w) fun _ w' hlike =>
    hf w' (hlike.holds_same h) fun _ hx => (congrArg (_ ∈ ·) hlike.same.joins).mpr hx

theorem requesting_cancelJoinRequest {request : PendingJoinRequest} (h : requesting.Holds w₀ w)
    (hx : (request.requestId, request) ∈ w.pendingJoinRequests) :
    (cancelJoinRequest request).Guards requesting (fun _ => requesting.Holds) w₀ w := by
  unfold cancelJoinRequest broadcastResolved
  refine requesting_cancel h fun w' h' hjoins => ?_
  exact guards_then (requesting_dropJoinRequest h' (hjoins _ hx))

instance (x : Ident) : Guarded requesting (cancelPendingJoinRequest x) where
  out {w₀ w} h := by
    unfold cancelPendingJoinRequest World.joinRequestById
    rw [guards_bind, guards_read, guards_elim]
    refine ⟨fun _ => h, fun request hfind => requesting_cancelJoinRequest h ?_⟩
    rcases Option.or_eq_some_iff.mp ((Option.map_or ..).symm.trans hfind) with hfind | ⟨_, hfind⟩
    · exact h.inv.join_mem hfind
    · exact h.inv.join_mem hfind

instance (ws : WsId) : Guarded requesting (cancelPendingJoinRequestOf ws) where
  out {w₀ w} h := by
    unfold cancelPendingJoinRequestOf World.joinRequestByWs
    rw [guards_bind, guards_read, guards_bind, guards_put, guards_elim]
    have hput := ((World.Like.refl w).putWs ws none).holds_same h
    refine ⟨⟨.same, .same⟩, fun _ => hput,
      fun request hfind => requesting_cancelJoinRequest hput ?_⟩
    obtain ⟨i, _, hfind⟩ := Option.bind_eq_some_iff.mp hfind
    exact h.inv.join_mem hfind

instance (hostPlayerId : PlayerId) (requestId : RequestId) (action : String) :
    Guarded requesting (respondJoinRequest hostPlayerId requestId action) where
  out {w₀ w} h := by
    unfold respondJoinRequest
    rw [guards_bind, guards_read, guards_elim]
    refine ⟨fun _ => h, fun request hfind => ?_⟩
    have hx := h.inv.join_mem hfind
    rw [guards_elim]
    refine ⟨fun _ => h, fun r hr => ?_⟩
    rw [guards_ite, guards_ite, guards_ite, guards_ite]
    refine ⟨fun _ => h, fun _ => ⟨fun _ => ?_, fun _ => ⟨fun _ => h, fun _ =>
      ⟨fun _ => h, fun _ => ?_⟩⟩⟩⟩
    · refine requesting_cancel h fun w' h' hjoins => ?_
      exact guards_then (requesting_dropJoinRequest h' (hjoins _ hx))
    · unfold admitRequester
      dsimp only
      refine requesting_cancel h fun w' h' hjoins => ?_
      exact guards_then (requesting_dropJoinRequest h' (hjoins _ hx))

instance (hostPlayerId : PlayerId) (requestId : RequestId) (action : String) :
    Guarded requesting (respondSpectatorRoleRequest hostPlayerId requestId action) where
  out {w₀ w} h := by
    unfold respondSpectatorRoleRequest
    rw [guards_bind, guards_read, guards_elim]
    refine ⟨fun _ => h, fun request hfind => ?_⟩
    have hx := h.inv.role_mem hfind
    have hid : request.requestId = requestId := by
      obtain ⟨x, hfound, rfl⟩ := Option.map_eq_some_iff.mp hfind
      have hi : x.1 = requestId := by simpa using List.find?_some hfound
      exact (h.inv.requests.roleIds x (List.mem_of_find?_eq_some hfound)).1.trans hi
    rw [guards_elim]
    refine ⟨fun _ => h, fun r hr => ?_⟩
    rw [guards_ite]
    refine ⟨fun _ => h, fun _ => guards_still (World.Like.refl w) fun _ w' hlike => ?_⟩
    refine guards_then (requesting_dropRoleRequest (hlike.holds_same h)
      fun x hx' hi y hy hcode => ?_)
    have hx' : x ∈ w.registry.roles := hlike.same.roles ▸ hx'
    have hy : y ∈ w.registry.rooms := hlike.same.rooms ▸ hy
    rw [h.inv.requests.roles.entry_unique hx' hx (hi.trans hid.symm)] at hcode
    exact h.inv.requests.room_unique (mem_rooms_of_roomOf hr) hy hcode.symm

instance (p : PlayerId) (requestId : Option RequestId) :
    Guarded requesting (cancelSpectatorRoleRequest p requestId) where
  out {w₀ w} h := by
    unfold cancelSpectatorRoleRequest
    refine guards_bind.mpr (requesting_findRoomByPlayer fun o w' hlike ho => ?_)
    have h' := hlike.holds_same h
    rw [guards_elim]
    refine ⟨fun _ => h', fun r hr => ?_⟩
    obtain ⟨code, hroom⟩ := ho r hr
    have hroom : (code, r) ∈ w'.registry.rooms := hlike.same.rooms ▸ hroom
    rw [guards_bind, guards_readRoom, guards_elim]
    refine ⟨fun _ => h', fun request hfind => ?_⟩
    obtain ⟨x, hfound, rfl⟩ := Option.map_eq_some_iff.mp hfind
    have hown : x ∈ (w'.room r).pendingSpectatorRoleRequests := List.mem_of_find?_eq_some hfound
    have hpart := h'.inv.requests.roles.own (code, r) hroom
    change x ∈ w'.registry.roomRoles r at hown
    rw [hpart, List.mem_filter] at hown
    obtain ⟨hmem, hcode⟩ := hown
    have hid := (h'.inv.requests.roleIds x hmem).1
    refine guards_then (requesting_dropRoleRequest h' fun x' hx' hi y hy hcode' => ?_)
    rw [h'.inv.requests.roles.entry_unique hx' hmem (hi.trans hid)] at hcode'
    exact h'.inv.requests.room_unique hroom hy (hcode'.symm.trans (of_decide_eq_true hcode))

/-- The timeout of a role request, when it has slept. -/
theorem requesting_expireRoleRequest {i : RequestId} (h : requesting.Holds w₀ w)
    (hr : ∀ x ∈ w.pendingSpectatorRoleRequests, x.1 = i → ∀ y ∈ w.rooms, x.2.roomCode = y.1 →
      y.2 = r) :
    (expireRoleRequest i r p).Guards requesting (fun _ => requesting.Holds) w₀ w := by
  unfold expireRoleRequest
  rw [guards_bind, guards_read]
  exact guards_then (requesting_dropRoleRequest h hr)

/-- **A role request is made**, with its timeout. -/
theorem holds_addRole (h : requesting.Holds w₀ w) (hy : (code, r) ∈ w.rooms)
    {x : PendingSpectatorRoleRequest} (hx : x.requestId = .uuid w.nextUuid)
    (hcode : x.roomCode = code) (delay : ℚ) :
    requesting.Holds w₀ ((Update.room r (.pendingSpectatorRoleRequests
      ((w.room r).pendingSpectatorRoleRequests ++ [(.uuid w.nextUuid, x)]))).apply
      ((Update.pendingSpectatorRoleRequests
        (w.pendingSpectatorRoleRequests ++ [(.uuid w.nextUuid, x)])).apply
        ((Update.createTask (.roleTimeout (.uuid w.nextUuid) r p) delay).apply
          (Update.uuid4.apply w)))) := by
  have hadd := h.inv.requests.addRole hy hx hcode
  refine ⟨⟨?_, fun i r' p' n hlive => ?_⟩, ?_⟩
  · rw [registry_roomRoles]
    exact hadd
  · have hmem : ∀ x' ∈ w.pendingSpectatorRoleRequests ++ [(.uuid w.nextUuid, x)],
        w.registry.Known x'.1 → x' ∈ w.pendingSpectatorRoleRequests := by
      intro x' hx' hknown
      refine (List.mem_append.mp hx').resolve_right fun hlast => ?_
      rw [List.mem_singleton.mp hlast] at hknown
      exact w.registry.not_known hknown
    by_cases hnew : (⟨.roleTimeout i r' p', n⟩ : TaskId) =
        ⟨.roleTimeout (.uuid w.nextUuid) r p, w.nextTask⟩
    · cases hnew
      refine ⟨⟨w.nextUuid, Nat.lt_succ_self _, rfl⟩, fun x' hx' hi y hy' hcode' => ?_⟩
      have hlast : x' = (.uuid w.nextUuid, x) := by
        refine List.mem_singleton.mp ((List.mem_append.mp hx').resolve_left fun hold => ?_)
        exact w.registry.not_known (hi ▸ (h.inv.requests.roleIds x' hold).2)
      rw [hlast] at hcode'
      exact h.inv.requests.room_unique hy hy' (hcode'.symm.trans hcode)
    · have hold : w.Live ⟨.roleTimeout i r' p', n⟩ := by
        simpa [World.Live, Update.apply, Function.update_of_ne hnew] using hlive
      obtain ⟨hknown, hroom⟩ := h.inv.timeouts i r' p' n hold
      exact ⟨hknown.mono (Nat.le_succ _), fun x' hx' hi y hy' =>
        hroom x' (hmem x' hx' (hi.symm ▸ hknown)) hi y hy'⟩
  · rw [show ∀ w' : World, requesting.rely w₀ w' ↔ w₀.registry.Resolves w'.registry from
      fun _ => Iff.rfl, registry_roomRoles]
    refine h.rely.trans ⟨Nat.le_succ _, fun i _ hi => hi, fun i hknown hi => ?_⟩
    obtain ⟨x', hx', rfl⟩ := List.mem_map.mp hi
    refine List.mem_map_of_mem ((List.mem_append.mp hx').resolve_right fun hlast => ?_)
    rw [List.mem_singleton.mp hlast] at hknown
    exact w.registry.not_known hknown

instance (p : PlayerId) : Guarded requesting (requestBecomePlayer p) where
  out {w₀ w} h := by
    unfold requestBecomePlayer
    refine guards_bind.mpr (requesting_findRoomByPlayer fun o w' hlike ho => ?_)
    have h' := hlike.holds_same h
    rw [guards_elim]
    refine ⟨fun _ => h', fun r hr => ?_⟩
    obtain ⟨code, hroom⟩ := ho r hr
    have hroom : (code, r) ∈ w'.registry.rooms := hlike.same.rooms ▸ hroom
    refine guards_bind.mpr (requesting_getPlayer fun found w₁ hlike₁ => ?_)
    have h₁ := hlike₁.holds_same h'
    have hroom : (code, r) ∈ w₁.registry.rooms := hlike₁.same.rooms ▸ hroom
    dsimp only
    rw [guards_bind, guards_read, guards_ite, guards_ite, guards_ite, guards_ite, guards_ite]
    refine ⟨fun _ => h₁, fun _ => ⟨fun _ => h₁, fun _ => ⟨fun _ => h₁, fun _ => ⟨fun _ => h₁,
      fun _ => ⟨fun _ => h₁, fun _ => ?_⟩⟩⟩⟩⟩
    unfold uuid4 createTask
    rw [guards_bind, guards_put]
    refine ⟨⟨.same, .same⟩, ?_⟩
    rw [guards_bind, guards_bind, guards_read, guards_bind, guards_put]
    refine ⟨⟨.same, .same⟩, ?_⟩
    rw [guards_pure, guards_bind, guards_bind, guards_read, guards_bind, guards_put]
    refine ⟨⟨.same, .same⟩, ?_⟩
    rw [guards_pure, guards_bind, guards_put]
    refine ⟨⟨.same, .comes _⟩, ?_⟩
    rw [guards_bind, guards_put]
    refine ⟨⟨.same, .same⟩, ?_⟩
    have hcount := holds_put h₁ (.player r p
      (.becomePlayerRequestsCount ((w₁.player r p).becomePlayerRequestsCount + 1)))
    have hcode : (w₁.room r).code = code := (h₁.inv.requests.codes _ hroom).2
    exact Guarded.out (holds_addRole hcount hroom rfl hcode 45)

instance (r : RoomId) (p : PlayerId) : Guarded requesting (dropPlayer r p) := by
  unfold dropPlayer; infer_instance

instance (p : PlayerId) : Guarded requesting (removePlayer p) := by
  unfold removePlayer; infer_instance

instance (p : PlayerId) : Guarded requesting (leaveRoom p) := by
  unfold leaveRoom; infer_instance

instance (p q : PlayerId) : Guarded requesting (kickPlayer p q) := by
  unfold kickPlayer; infer_instance

instance (p : PlayerId) : Guarded requesting (permanentlyRemovePlayer p) := by
  unfold permanentlyRemovePlayer; infer_instance

section Votes

variable (env : Env)

instance (r : RoomId) (p : PlayerId) : Guarded requesting (executeVoteKickPassed env r p) := by
  unfold executeVoteKickPassed; dsimp only; infer_instance

instance (p q : PlayerId) : Guarded requesting (startVoteKick env p q) := by
  unfold startVoteKick; dsimp only; infer_instance

instance (r : RoomId) (p : PlayerId) : Guarded requesting (kickTarget env r p) := by
  unfold kickTarget; infer_instance

end Votes

instance : Admits requesting where
  deleteRoom := inferInstance
  createRoom := inferInstance
  restoreRoom := inferInstance
  joinRoom := inferInstance
  removePlayer := inferInstance
  leaveRoom := inferInstance
  kickPlayer := inferInstance
  permanentlyRemovePlayer := inferInstance
  startVoteKick := inferInstance
  kickTarget := inferInstance
  handleJoinRequestTimeout := inferInstance
  cancelPendingJoinRequest := inferInstance
  cancelPendingJoinRequestOf := inferInstance
  respondJoinRequest := inferInstance
  requestBecomePlayer := inferInstance
  respondSpectatorRoleRequest := inferInstance
  cancelSpectatorRoleRequest := inferInstance

instance (env : Env) (o : OwnerOp) : Guarded requesting (o.call env) := by
  cases o <;> unfold OwnerOp.call <;> dsimp only <;> infer_instance

/-- A task in another status. -/
theorem holds_setStatus (t : TaskId) {status : TaskStatus} (hstatus : status ≠ .sleeping)
    (h : requesting.Holds w₀ w) : requesting.Holds w₀ (w.setStatus t status) := by
  have hlike : w.Like w.registry (w.setStatus t status) := by
    refine ⟨⟨le_rfl, rfl, rfl, rfl, rfl, rfl, rfl, rfl⟩, fun i r p n hlive => ?_⟩
    have htask := World.task_of_setStatus hstatus hlive
    rw [World.Live, htask] at hlive
    exact hlive
  exact hlike.holds_same h

/-- Everything keeps the requests together. -/
theorem owner_requesting (env : Env) : (owner env).Guards requesting where
  call o := inferInstanceAs (Guarded requesting (o.call env))
  fire t w₀ w hdue h := by
    have hstart : requesting.Holds w₀ (w.setStatus t .running) := holds_setStatus t nofun h
    have hlive : w.Live t := (of_decide_eq_true hdue).1
    refine ⟨⟨.same, .same⟩, ?_⟩
    by_cases hkind : ∃ i r p, t.kind = .roleTimeout i r p
    · obtain ⟨i, r, p, hkind⟩ := hkind
      obtain ⟨kind, n⟩ := t
      obtain rfl : kind = .roleTimeout i r p := hkind
      exact requesting_expireRoleRequest hstart (h.inv.timeouts i r p n hlive).2
    · have hbody : Guarded requesting (taskBody env t) :=
        guarded_taskBody env t fun i r p hkind' => absurd ⟨i, r, p, hkind'⟩ hkind
      exact hbody.out hstart
  finish t _ _ h := ⟨holds_setStatus t nofun h, .same, .same⟩

/-! ## Answers -/

/-- What a call changes that answers the join request `i`: no request comes, and whoever becomes a
member has the id `p`, and the request has gone before. -/
structure Answers (i : RequestId) (p : PlayerId) (w w' : World) : Prop where
  joins : ∀ j ∈ w'.pendingJoinRequests.map (·.1), j ∈ w.pendingJoinRequests.map (·.1)
  member : ∀ r q, q ∈ (w'.room r).players → q ∉ (w.room r).players →
    q = p ∧ i ∉ w.pendingJoinRequests.map (·.1)

theorem Answers.of_registry {i : RequestId} (hjoins : w'.registry.joins = w.registry.joins)
    (hplayers : w'.registry.players = w.registry.players) : Answers i p w w' where
  joins j hj := by
    change j ∈ w'.registry.joins.map (·.1) at hj
    rwa [hjoins] at hj
  member r q hq hold := by
    change q ∈ w'.registry.players r at hq
    rw [hplayers] at hq
    exact absurd hq hold

/-- All changes of a call are of this kind, whatever the others do. -/
def answering (i : RequestId) (p : PlayerId) : Guarantee World Mark where
  ok _ _ := True
  inv _ := True
  change := Answers i p
  rely _ _ := True
  refl _ := trivial
  trans _ _ := trivial

section Answering

variable {i : RequestId}

theorem answering_holds : (answering i p).Holds w₀ w := ⟨trivial, trivial⟩

instance (u : Update) [hu : Untouched u.registers] : Guarded (answering i p) (put u) where
  out {_ w} _ := by
    have hsame := u.registry_same hu.out w
    exact ⟨.of_registry (congrArg _ hsame) (congrArg _ hsame), answering_holds⟩

/-- A write to an index. -/
theorem answers_playersById (q : PlayerId) :
    Answers i p w ((Update.room r (.playersById q)).apply w) := by
  refine .of_registry rfl ((update_room (·.players) w.room r _).trans ?_)
  exact Function.update_eq_self r _

instance : Tolerates (answering i p) where
  put u hu := by
    have huntouched : Untouched u.registers := ⟨hu⟩
    infer_instance
  getPlayer r q := ⟨fun _ => by
    unfold getPlayer
    rw [guards_bind, guards_readRoom, guards_ite, guards_ite]
    exact ⟨fun _ => answering_holds, fun _ => ⟨fun _ => ⟨answers_playersById q, answering_holds⟩,
      fun _ => answering_holds⟩⟩⟩
  findRoomByPlayer q := ⟨fun _ => by
    unfold findRoomByPlayer
    rw [guards_bind, guards_read, guards_elim]
    refine ⟨fun _ => ?_, fun code _ => answering_holds⟩
    rw [guards_elim]
    exact ⟨fun _ => answering_holds, fun x _ => ⟨answers_playersById q,
      .of_registry rfl rfl, answering_holds⟩⟩⟩

theorem answers_less {l : List (RequestId × PendingJoinRequest)}
    (hl : ∀ x ∈ l, x ∈ w.pendingJoinRequests) :
    Answers i p w ((Update.pendingJoinRequests l).apply w) :=
  ⟨fun _ hj => List.map_subset _ hl hj, fun _ _ hq hold => absurd hq hold⟩

/-- The request goes, and no id is made up. -/
theorem answering_drop {α : Type} {request : PendingJoinRequest} {kind : TaskKind}
    {n : Option Nat} {f : Unit → M α} {Q : α → World → World → Prop}
    (hi : request.requestId = i)
    (hf : ∀ w', i ∉ w'.pendingJoinRequests.map (·.1) → w'.nextUuid = w.nextUuid →
      (f ()).Guards (answering i p) Q w₀ w') :
    (cancel kind n >>= fun _ => dropJoinRequest request >>= f).Guards (answering i p) Q w₀ w := by
  have hdrop : ∀ w₁ : World, w₁.nextUuid = w.nextUuid →
      (dropJoinRequest request >>= f).Guards (answering i p) Q w₀ w₁ := by
    intro w₁ hnext
    have hgone : i ∉ (w₁.pendingJoinRequests.filter (·.1 ≠ request.requestId)).map (·.1) := by
      simp [hi]
    unfold dropJoinRequest
    simp only [guards_bind, guards_read, guards_put, guards_elim, guards_pure]
    refine ⟨answers_less fun x hx => (List.mem_filter.mp hx).1, .of_registry rfl rfl,
      fun _ => hf _ hgone hnext, fun r _ => ⟨.of_registry rfl ?_, hf _ hgone hnext⟩⟩
    exact (update_room (·.players) w₁.room r _).trans (Function.update_eq_self r _)
  unfold Backend.cancel
  rw [guards_bind, guards_elim]
  exact ⟨fun _ => hdrop w rfl, fun n _ => ⟨.of_registry rfl rfl, hdrop _ rfl⟩⟩

theorem answering_admitPlayer {α : Type} {name : String} {ws : WsId} {avatar : Option String}
    {isSpectator : Bool} {f : PlayerId → M α} [∀ q, Guarded (answering i p) (f q)]
    (hi : i ∉ w.pendingJoinRequests.map (·.1)) (hp : .uuid w.nextUuid = p) :
    (admitPlayer r code name ws avatar isSpectator >>= f).Guards (answering i p)
      (fun _ => (answering i p).Holds) w₀ w := by
  refine guards_then ?_
  unfold admitPlayer
  simp only [guards_bind, guards_newPlayer, guards_mark, guards_put, guards_pure]
  refine ⟨.of_registry rfl rfl, fun _ => ⟨⟨fun _ hj => hj, fun r' q hq hold => ⟨?_, hi⟩⟩,
    .of_registry rfl rfl, .of_registry rfl rfl, answering_holds⟩⟩
  by_cases hr : r' = r
  · subst hr
    have hq : q ∈ (w.room r').players ∨ q = .uuid w.nextUuid := by
      simpa [Update.apply, RoomUpdate.apply] using hq
    exact (hq.resolve_left hold).trans hp
  · have hq : q ∈ (w.room r').players := by
      simpa [Update.apply, RoomUpdate.apply, Function.update_of_ne hr] using hq
    exact absurd hq hold

/-- **One player.**  A call that answers a join request makes at most one player, of the next id,
and has taken the request out before. -/
theorem answering_respondJoinRequest (hostPlayerId : PlayerId) (action : String)
    (h : w.Requested) : (respondJoinRequest hostPlayerId i action).Guards
      (answering i (.uuid w.nextUuid)) (fun _ => (answering i (.uuid w.nextUuid)).Holds) w₀ w := by
  unfold respondJoinRequest
  rw [guards_bind, guards_read, guards_elim]
  refine ⟨fun _ => answering_holds, fun request hfind => ?_⟩
  have hi : request.requestId = i := by
    obtain ⟨x, hfound, rfl⟩ := Option.map_eq_some_iff.mp hfind
    have hx : x.1 = i := by simpa using List.find?_some hfound
    exact (h.requests.joinIds x (List.mem_of_find?_eq_some hfound)).1.trans hx
  rw [guards_elim]
  refine ⟨fun _ => answering_holds, fun r hr => ?_⟩
  rw [guards_ite, guards_ite, guards_ite, guards_ite]
  refine ⟨fun _ => answering_holds, fun _ => ⟨fun _ => ?_, fun _ => ⟨fun _ => answering_holds,
    fun _ => ⟨fun _ => answering_holds, fun _ => ?_⟩⟩⟩⟩
  · exact answering_drop hi fun w' _ _ => Guarded.out answering_holds
  · unfold admitRequester
    dsimp only
    refine answering_drop hi fun w' hgone hnext => ?_
    rw [guards_bind, guards_readRoom]
    exact answering_admitPlayer hgone (congrArg _ hnext)

end Answering

/-! ## Outcomes -/

/-- No request leaves. -/
structure Withholds (w w' : World) : Prop where
  joins : ∀ x ∈ w.pendingJoinRequests, x ∈ w'.pendingJoinRequests
  roles : ∀ x ∈ w.pendingSpectatorRoleRequests, x ∈ w'.pendingSpectatorRoleRequests

/-- All changes of a call are of this kind, whatever the others do. -/
def withholding : Guarantee World Mark where
  ok _ _ := True
  inv _ := True
  change := Withholds
  rely _ _ := True
  refl _ := trivial
  trans _ _ := trivial

section Withholding

theorem withholding_holds : withholding.Holds w₀ w := ⟨trivial, trivial⟩

theorem withholds_same (hjoins : w'.pendingJoinRequests = w.pendingJoinRequests)
    (hroles : w'.pendingSpectatorRoleRequests = w.pendingSpectatorRoleRequests) :
    Withholds w w' := ⟨fun _ hx => hjoins ▸ hx, fun _ hx => hroles ▸ hx⟩

instance (r : RoomId) (u : RoomUpdate) : Guarded withholding (put (.room r u)) :=
  ⟨fun _ => ⟨withholds_same rfl rfl, withholding_holds⟩⟩

instance (l : List (String × RoomId)) : Guarded withholding (put (.rooms l)) :=
  ⟨fun _ => ⟨withholds_same rfl rfl, withholding_holds⟩⟩

instance (x : Room) (members : PlayerId → Player) :
    Guarded withholding (put (.newRoom x members)) :=
  ⟨fun _ => ⟨withholds_same rfl rfl, withholding_holds⟩⟩

instance (q : PlayerId) (o : Option String) : Guarded withholding (put (.playerToRoom q o)) :=
  ⟨fun _ => ⟨withholds_same rfl rfl, withholding_holds⟩⟩

instance (ws : WsId) (o : Option RequestId) :
    Guarded withholding (put (.wsToPendingRequest ws o)) :=
  ⟨fun _ => ⟨withholds_same rfl rfl, withholding_holds⟩⟩

instance (r : RoomId) (make : PlayerId → Player) : Guarded withholding (newPlayer r make) :=
  ⟨fun _ => ⟨withholds_same rfl rfl, withholding_holds⟩⟩

instance : Tolerates withholding where
  put u hu := ⟨fun {_ w} _ => by
    have hsame := u.registry_same hu w
    exact ⟨withholds_same (congrArg Registry.joins hsame) (congrArg Registry.roles hsame),
      withholding_holds⟩⟩
  getPlayer r q := by unfold getPlayer readRoom; infer_instance
  findRoomByPlayer q := by unfold findRoomByPlayer; infer_instance

instance : Guarded withholding uuid4 :=
  ⟨fun _ => ⟨withholds_same rfl rfl, withholding_holds⟩⟩

instance (kind : TaskKind) (delay : ℚ) : Guarded withholding (createTask kind delay) :=
  ⟨fun _ => ⟨withholds_same rfl rfl, withholding_holds⟩⟩

instance (r : RoomId) (q : PlayerId) : Guarded withholding (dropPlayer r q) := by
  unfold dropPlayer; infer_instance

instance (env : Env) (draws : List String) (name : String) (ws : WsId)
    (avatar password : Option String) (maxPlayers : Option Int) :
    Guarded withholding (createRoom env draws name ws avatar password maxPlayers) := by
  unfold createRoom; dsimp only; infer_instance

instance (x : RoomSnapshot) : Guarded withholding (restoreRoom x) := by
  unfold restoreRoom; dsimp only; infer_instance

instance (code : String) : Guarded withholding (adoptSnapshot code) := by
  unfold adoptSnapshot; infer_instance

instance (name code : String) (ws : WsId) (avatar : Option String) :
    Guarded withholding (handleReconnect name code ws avatar) := by
  unfold handleReconnect; dsimp only; infer_instance

/-- `get_player` leaves the requests as they are. -/
theorem withholding_getPlayer {Q : Option PlayerId → World → World → Prop} {q : PlayerId}
    (hQ : ∀ o w', w'.pendingJoinRequests = w.pendingJoinRequests →
      w'.pendingSpectatorRoleRequests = w.pendingSpectatorRoleRequests → Q o w₀ w') :
    (getPlayer r q).Guards withholding Q w₀ w := by
  unfold getPlayer
  rw [guards_bind, guards_readRoom, guards_ite, guards_ite]
  exact ⟨fun _ => hQ _ _ rfl rfl, fun _ => ⟨fun _ => ⟨withholds_same rfl rfl, hQ _ _ rfl rfl⟩,
    fun _ => hQ _ _ rfl rfl⟩⟩

instance (r : RoomId) (code name : String) (ws : WsId) (avatar : Option String) :
    Guarded withholding (requestJoin r code name ws avatar) where
  out {w₀ w} h := by
    unfold requestJoin
    dsimp only
    rw [guards_bind, guards_read, guards_ite]
    refine ⟨fun _ => h, fun _ => guards_bind.mpr (withholding_getPlayer fun o w₁ hjoins _ => ?_)⟩
    rw [guards_elim]
    refine ⟨fun _ => withholding_holds, fun host _ => ?_⟩
    rw [guards_elim]
    refine ⟨fun _ => withholding_holds, fun hostWs _ => ?_⟩
    unfold uuid4 createTask
    rw [guards_bind, guards_bind, guards_read, guards_bind, guards_put]
    refine ⟨withholds_same rfl rfl, ?_⟩
    rw [guards_pure, guards_bind, guards_bind, guards_read, guards_bind, guards_put]
    refine ⟨withholds_same rfl rfl, ?_⟩
    rw [guards_pure, guards_bind, guards_put]
    refine ⟨⟨fun x hx => ?_, fun x hx => hx⟩, Guarded.out withholding_holds⟩
    exact List.mem_append_left _ (hjoins ▸ hx)

instance (r : RoomId) (code name : String) (ws : WsId) (avatar : Option String)
    (isSpectator : Bool) :
    Guarded withholding (admitPlayer r code name ws avatar isSpectator) := by
  unfold admitPlayer; infer_instance

instance (env : Env) (r : RoomId) (code name : String) (ws : WsId) (avatar : Option String)
    (asSpectator : Bool) (password : Option String) :
    Guarded withholding (joinRoomLocal env r code name ws avatar asSpectator password) := by
  unfold joinRoomLocal; infer_instance

instance (env : Env) (name code : String) (ws : WsId) (avatar : Option String) (asSpectator : Bool)
    (password : Option String) (remote : Option Message) :
    Guarded withholding (joinRoom env name code ws avatar asSpectator password remote) := by
  unfold joinRoom; infer_instance

instance (r : RoomId) (code name : String) (avatar : Option String) (isSpectator : Bool) :
    Guarded withholding (admitRemote r code name avatar isSpectator) := by
  unfold admitRemote; infer_instance

instance (env : Env) (code name : String) (avatar : Option String) (asSpectator : Bool)
    (password : Option String) :
    Guarded withholding (handleRpcJoin env code name avatar asSpectator password) := by
  unfold handleRpcJoin; infer_instance

instance (q : PlayerId) : Guarded withholding (requestBecomePlayer q) where
  out {w₀ w} h := by
    unfold requestBecomePlayer
    refine guards_bind.mpr ((Guarded.out h : Guards withholding (findRoomByPlayer q) _ _ _).mono
      fun o _ w₁ h => ?_)
    rw [guards_elim]
    refine ⟨fun _ => h, fun r _ => ?_⟩
    refine guards_bind.mpr ((Guarded.out h : Guards withholding (getPlayer r q) _ _ _).mono
      fun found _ w₂ h => ?_)
    dsimp only
    rw [guards_bind, guards_read, guards_ite, guards_ite, guards_ite, guards_ite, guards_ite]
    refine ⟨fun _ => h, fun _ => ⟨fun _ => h, fun _ => ⟨fun _ => h, fun _ => ⟨fun _ => h,
      fun _ => ⟨fun _ => h, fun _ => ?_⟩⟩⟩⟩⟩
    unfold uuid4 createTask
    rw [guards_bind, guards_put]
    refine ⟨withholds_same rfl rfl, ?_⟩
    rw [guards_bind, guards_bind, guards_read, guards_bind, guards_put]
    refine ⟨withholds_same rfl rfl, ?_⟩
    rw [guards_pure, guards_bind, guards_bind, guards_read, guards_bind, guards_put]
    refine ⟨withholds_same rfl rfl, ?_⟩
    rw [guards_pure, guards_bind, guards_put]
    exact ⟨⟨fun _ hx => hx, fun x hx => List.mem_append_left _ hx⟩,
      Guarded.out withholding_holds⟩

section Votes

variable (env : Env)

instance (p q : PlayerId) : Guarded withholding (kickPlayer p q) := by
  unfold kickPlayer; infer_instance

instance (r : RoomId) (p : PlayerId) : Guarded withholding (executeVoteKickPassed env r p) := by
  unfold executeVoteKickPassed; dsimp only; infer_instance

instance (p q : PlayerId) : Guarded withholding (startVoteKick env p q) := by
  unfold startVoteKick; dsimp only; infer_instance

instance (r : RoomId) (p : PlayerId) : Guarded withholding (kickTarget env r p) := by
  unfold kickTarget; infer_instance

instance (p : PlayerId) (yes : Bool) : Guarded withholding (castVoteKick env p yes) := by
  unfold castVoteKick; dsimp only; infer_instance

end Votes

end Withholding

/-- The calls that may be an outcome of a request: an answer or a cancellation, a player who leaves
(the last one deletes the room), a disconnect. -/
def OwnerOp.resolves : OwnerOp → Bool
  | .own (.cancelJoinRequest _) => true
  | .own (.cancelJoinRequestOf _) => true
  | .own (.respondJoinRequest ..) => true
  | .own (.respondSpectatorRoleRequest ..) => true
  | .own (.cancelSpectatorRoleRequest ..) => true
  | .own (.leaveRoom ..) => true
  | .own (.forwardedLeave _) => true
  | .own (.websocketClosed ..) => true
  | .own (.clientDisconnected _) => true
  | .own (.cleanupStream _) => true
  | _ => false

/-- The tasks that may be: the timeouts, and what follows a disconnect. -/
def TaskKind.resolves : TaskKind → Bool
  | .joinTimeout _ => true
  | .roleTimeout _ _ _ => true
  | .cleanup _ => true
  | .reassignHost _ _ => true
  | _ => false

theorem withholding_call (env : Env) (o : OwnerOp) (ho : o.resolves = false) :
    Guarded withholding (o.call env) := by
  cases o with
  | own o =>
    cases o <;> first
      | (unfold OwnerOp.call Op.call; dsimp only; infer_instance)
      | cases ho
  | rpcJoin => unfold OwnerOp.call; infer_instance

theorem withholding_taskBody (env : Env) (t : TaskId) (ht : t.kind.resolves = false) :
    Guarded withholding (taskBody env t) := by
  obtain ⟨kind, n⟩ := t
  cases kind <;> first
    | (unfold taskBody; dsimp only; infer_instance)
    | cases ht

/-! ## Runs -/

/-- The call answers that there is no such request, and changes nothing. -/
def NotFound (c : M Message) (w : World) : Prop :=
  ∃ text, ∀ rely x w', c.Ends rely w x w' → x = .ok (.error "REQUEST_NOT_FOUND" text) ∧ w' = w

theorem find?_request {α : Type} {l : List (RequestId × α)} {i : RequestId}
    (hi : i ∉ l.map (·.1)) : l.find? (·.1 = i) = none := by
  rw [List.find?_eq_none]
  intro x hx heq
  exact hi (of_decide_eq_true heq ▸ List.mem_map_of_mem hx)

theorem notFound_respondJoinRequest (hostPlayerId : PlayerId) {i : RequestId} (action : String)
    (hi : i ∉ w.pendingJoinRequests.map (·.1)) :
    NotFound (respondJoinRequest hostPlayerId i action) w := by
  refine ⟨"Join request not found or expired", fun rely x w' h => ?_⟩
  unfold respondJoinRequest at h
  rw [ends_read] at h
  rw [find?_request hi] at h
  exact h

theorem notFound_respondSpectatorRoleRequest (hostPlayerId : PlayerId) {i : RequestId}
    (action : String) (hi : i ∉ w.pendingSpectatorRoleRequests.map (·.1)) :
    NotFound (respondSpectatorRoleRequest hostPlayerId i action) w := by
  refine ⟨"Spectator request not found or expired", fun rely x w' h => ?_⟩
  unfold respondSpectatorRoleRequest at h
  rw [ends_read] at h
  rw [find?_request hi] at h
  exact h

theorem requested_start (transport : WsId → Transport) (redis : Bool) (oracle : List Nat)
    (snapshots : String → Option RoomSnapshot) :
    (World.start transport redis oracle snapshots).Requested where
  requests :=
    { keys := List.nodup_nil
      codes := nofun
      joins := .empty _ _
      roles := .empty _ _
      joinIds := nofun
      roleIds := nofun }
  timeouts _ _ _ _ hlive := nomatch hlive

/-- **Pending requests.**  In every run in which no room is restored:

* each step leaves the manager's requests alone, or one comes, or one goes, or those of a room that
  has gone go with it; only the calls and the tasks that are an outcome of a request take any away;
* whenever no coroutine is running, each registered room holds the requests that the manager holds
  for its code, requests that have left do not come back, and to answer a request that is not there
  fails and changes nothing;
* a call that answers a join request makes at most one player, and has taken the request out before
  it does. -/
theorem requests_of_run {env : Env} {transport : WsId → Transport} {redis : Bool}
    {oracle : List Nat} {snapshots : String → Option RoomSnapshot}
    {c : Config World Frame Mark TaskId}
    (h : (owner env).Run unrestored
    (startConfig (World.start transport redis oracle snapshots)) c) :
    ((∀ c', (owner env).Step unrestored c c' → c'.state = c.state ∨ c.state.Moves c'.state) ∧
      (∀ o : OwnerOp, o.resolves = false → ∀ rely w w₁ w₂,
        (o.call env).Makes rely w w₁ w₂ → Withholds w₁ w₂) ∧
      ∀ t : TaskId, t.kind.resolves = false → ∀ rely w w₁ w₂,
        (taskBody env t).Makes rely w w₁ w₂ → Withholds w₁ w₂) ∧
    (c.running = none →
      (∀ code r, c.state.roomOf code = some r →
        (c.state.room r).pendingJoinRequests =
          c.state.pendingJoinRequests.filter (·.2.roomCode = code) ∧
        (c.state.room r).pendingSpectatorRoleRequests =
          c.state.pendingSpectatorRoleRequests.filter (·.2.roomCode = code)) ∧
      (∀ c', (owner env).Run unrestored c c' → c'.running = none →
        c.state.registry.Resolves c'.state.registry) ∧
      (∀ hostPlayerId i action, i ∉ c.state.pendingJoinRequests.map (·.1) →
        NotFound (respondJoinRequest hostPlayerId i action) c.state) ∧
      (∀ hostPlayerId i action, i ∉ c.state.pendingSpectatorRoleRequests.map (·.1) →
        NotFound (respondSpectatorRoleRequest hostPlayerId i action) c.state) ∧
      ∀ hostPlayerId i action rely w₁ w₂,
        (respondJoinRequest hostPlayerId i action).Makes rely c.state w₁ w₂ →
        Answers i (.uuid c.state.nextUuid) w₁ w₂) := by
  have hok : ∀ e v, unrestored (.mark e) v → requesting.ok e v.state := fun _ _ he => he
  have hstart : Loop.Guarding requesting
      (startConfig (World.start transport redis oracle snapshots)) :=
    Loop.guarding_of_quiet rfl rfl (requested_start transport redis oracle snapshots)
  have hc := (owner_requesting env).run hok h hstart
  refine ⟨⟨fun c' hstep => ((owner_requesting env).step hok hstep hc).2,
    fun o ho rely w w₁ w₂ hmakes => ?_, fun t ht rely w w₁ w₂ hmakes => ?_⟩, fun hidle => ?_⟩
  · have hcall : (o.call env).Guards withholding (fun _ => withholding.Holds) w w :=
      (withholding_call env o ho).out withholding_holds
    exact hcall.makes (fun _ _ => trivial) (fun _ => trivial) (fun _ _ => trivial) hmakes
  · have hbody : (taskBody env t).Guards withholding (fun _ => withholding.Holds) w w :=
      (withholding_taskBody env t ht).out withholding_holds
    exact hbody.makes (fun _ _ => trivial) (fun _ => trivial) (fun _ _ => trivial) hmakes
  have hinv : c.state.Requested := hc.idle hidle
  refine ⟨fun code r hr => ?_, fun c' hrun hidle' => ?_, fun hostPlayerId i action =>
    notFound_respondJoinRequest hostPlayerId action, fun hostPlayerId i action =>
    notFound_respondSpectatorRoleRequest hostPlayerId action,
    fun hostPlayerId i action rely w₁ w₂ hmakes => ?_⟩
  · have hmem := mem_rooms_of_roomOf hr
    exact ⟨hinv.requests.joins.own _ hmem, hinv.requests.roles.own _ hmem⟩
  · exact (owner_requesting env).run_rely hok hrun hc hidle hidle'
  · have hcall : (respondJoinRequest hostPlayerId i action).Guards _ _ c.state c.state :=
      answering_respondJoinRequest hostPlayerId action hinv
    exact hcall.makes (fun _ _ => trivial) (fun _ => trivial) (fun _ _ => trivial) hmakes

/-- A spectator asks to become a player. -/
theorem requests_sample : ∃ c, (owner sampleEnv).Run unrestored (startConfig sampleWorld) c ∧
    c.state.pendingSpectatorRoleRequests.map (·.1) = [.uuid 2] ∧
    (c.state.room 0).pendingSpectatorRoleRequests =
      c.state.pendingSpectatorRoleRequests.filter (·.2.roomCode = "ROOM01") := by
  have hplay : ((owner sampleEnv).play unrestored (startConfig sampleWorld)
      [(.call (.own (.createRoom ["ROOM01"] "p0" 0 none none none)), []),
        (.call (.own (.joinRoom "p1" "ROOM01" 1 none true none none)), []),
        (.call (.own (.requestBecomePlayer (.uuid 1) 1)), [])]).any (fun c =>
          c.state.pendingSpectatorRoleRequests.map (·.1) = [.uuid 2] ∧
            c.state.roomOf "ROOM01" = some 0) = true := by
    decide +kernel
  obtain ⟨c, hrun, hidle, hc⟩ := Loop.exists_run_of_play rfl hplay
  obtain ⟨hroles, hroom⟩ := of_decide_eq_true hc
  exact ⟨c, hrun, hroles, (((requests_of_run hrun).2 hidle).1 "ROOM01" 0 hroom).2⟩

end Skribbl.Backend
