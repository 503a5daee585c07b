import Skribbl.Backend.Requesters

/-!
# Who cancels a join request

* `Departure` — a client cancels its request or goes away.
* `Cancels` — a call takes out a request while the room of the request is there.
* `Departure.Heeds` — the player ids and request ids that a departure is about are the sender's.

Principal results: `cancels_own_iff` — in every reachable state, so a departure cancels nobody
else's request, and only so; `other_cancelled` — two gateways may have given out one pending id.
-/

set_option autoImplicit false
set_option synthInstance.maxSize 100000

namespace Skribbl.Backend

open Coro

/-! ## Departures -/

/-- A client cancels its request or goes away; `ws` is its connection. -/
inductive Departure where
  /-- `cancel_join_request`, with the `request_id` unless it is missing or empty. -/
  | cancel (ws : WsId) (requestId : Option Ident)
  /-- `client_disconnected`, or one player of a stream that has ended. -/
  | disconnect (ws : WsId) (p : PlayerId)
  /-- The end of `websocket_handler`. -/
  | closed (ws : WsId) (p : Option PlayerId)

namespace Departure

/-- The connection it comes from. -/
def sender : Departure → WsId
  | .cancel ws _ => ws
  | .disconnect ws _ => ws
  | .closed ws _ => ws

def op : Departure → Op
  | .cancel ws requestId => requestId.elim (.cancelJoinRequestOf ws) .cancelJoinRequest
  | .disconnect _ p => .clientDisconnected p
  | .closed ws p => .websocketClosed ws p

end Departure

/-- The player is in no room that `_find_room_by_player` finds. -/
def World.Outside (w : World) (p : PlayerId) : Prop :=
  match w.playerToRoom p with
  | none => ∀ x ∈ w.rooms, p ∉ (w.room x.2).playersById ∧ p ∉ (w.room x.2).players
  | some code => w.roomOf code = none

/-- A call, whatever the others do meanwhile, takes the request out while its room is there. -/
def Cancels (c : M Unit) (w : World) (x : RequestId × PendingJoinRequest) : Prop :=
  ∃ rely w₁ w₂, c.Makes rely w w₁ w₂ ∧ x ∈ w₁.pendingJoinRequests ∧ x ∉ w₂.pendingJoinRequests ∧
    (w₁.roomOf x.2.roomCode).isSome

/-- The request waits on a gRPC stream, under the player id. -/
def World.WaitsAs (w : World) (y : RequestId × PendingJoinRequest) (x : Ident) : Prop :=
  (w.transport y.2.websocket).queue.isSome ∧ (w.transport y.2.websocket).playerId = x

instance (w : World) (y : RequestId × PendingJoinRequest) (x : Ident) : Decidable (w.WaitsAs y x) :=
  inferInstanceAs (Decidable (_ ∧ _))

/-- Of the pending requests, that with the id is of the connection `ws`, and if none has the id, the
earliest that waits under it is. -/
structure World.Names (w : World) (x : Ident) (ws : WsId) : Prop where
  request : ∀ y ∈ w.pendingJoinRequests, y.1 = x → (w.roomOf y.2.roomCode).isSome →
    y.2.websocket = ws
  player : (∀ y ∈ w.pendingJoinRequests, y.1 ≠ x) → ∀ l y l', w.pendingJoinRequests = l ++ y :: l' →
    (∀ z ∈ l, ¬ w.WaitsAs z x) → w.WaitsAs y x → (w.roomOf y.2.roomCode).isSome →
    y.2.websocket = ws

/-- The ids that a departure is about are the sender's, unless it is a member of a room. -/
def Departure.Heeds (w : World) : Departure → Prop
  | .cancel ws requestId => ∀ x, requestId = some x → w.Names x ws
  | .disconnect ws p => w.Outside p → w.Names p ws
  | .closed ws p => ∀ q, p.or ((w.wsToPlayer ws).map (·.1)) = some q → w.Outside q → w.Names q ws

variable {w₀ w w' : World} {r : RoomId} {p : PlayerId} {ws : WsId} {x : Ident}
  {P : PendingJoinRequest → Prop} {request : PendingJoinRequest}

/-! ## What a lookup finds -/

/-- The request that is found for an id. -/
theorem World.joinRequestById_cases (hfind : w.joinRequestById x = some request) :
    (∃ y ∈ w.pendingJoinRequests, y.1 = x ∧ y.2 = request) ∨
      (∀ y ∈ w.pendingJoinRequests, y.1 ≠ x) ∧ ∃ l y l', w.pendingJoinRequests = l ++ y :: l' ∧
        (∀ z ∈ l, ¬ w.WaitsAs z x) ∧ w.WaitsAs y x ∧ y.2 = request := by
  obtain ⟨y, hy, rfl⟩ := Option.map_eq_some_iff.mp hfind
  rcases Option.or_eq_some_iff.mp hy with hy | ⟨hnone, hy⟩
  · exact .inl ⟨y, List.mem_of_find?_eq_some hy, by simpa using List.find?_some hy, rfl⟩
  · right
    obtain ⟨hwaits, l, l', hl, hbefore⟩ := List.find?_eq_some_iff_append.mp hy
    refine ⟨fun z hz hzx => ?_, l, y, l', hl, fun z hz hzx => ?_, of_decide_eq_true hwaits, rfl⟩
    · simpa [hzx] using List.find?_eq_none.mp hnone z hz
    · have hz := hbefore z hz
      simp only [Bool.not_eq_true', decide_eq_false_iff_not] at hz
      exact hz hzx

/-- What is found is the sender's, exactly if the id names its request. -/
theorem World.Owned.names_iff (h : w.Owned) : w.Names x ws ↔ ∀ request,
    w.joinRequestById x = some request → (w.roomOf request.roomCode).isSome →
      request.websocket = ws := by
  refine ⟨fun hnames request hfind hroom => ?_, fun hown => ⟨fun y hy hyx hroom => ?_,
    fun hnone l y l' hl hbefore hwaits hroom => ?_⟩⟩
  · rcases joinRequestById_cases hfind with ⟨y, hy, hyx, rfl⟩ | ⟨hnone, l, y, l', hl, hb, hw, rfl⟩
    · exact hnames.request y hy hyx hroom
    · exact hnames.player hnone l y l' hl hb hw hroom
  · refine hown y.2 ?_ hroom
    have hfirst : w.pendingJoinRequests.find? (·.1 = x) = some y := by
      cases hfind : w.pendingJoinRequests.find? (·.1 = x) with
      | none => exact absurd (decide_eq_true hyx) (List.find?_eq_none.mp hfind y hy)
      | some z =>
        have hz : z.1 = x := by simpa using List.find?_some hfind
        rw [h.unique z (List.mem_of_find?_eq_some hfind) y hy (hz.trans hyx.symm)]
    unfold joinRequestById
    rw [hfirst]
    rfl
  · refine hown y.2 ?_ hroom
    have hmissing : w.pendingJoinRequests.find? (·.1 = x) = none :=
      List.find?_eq_none.mpr fun z hz => by simpa using hnone z hz
    have hfirst : w.pendingJoinRequests.find? (fun y =>
        (w.transport y.2.websocket).queue.isSome ∧ (w.transport y.2.websocket).playerId = x) =
        some y := List.find?_eq_some_iff_append.mpr
      ⟨decide_eq_true hwaits, l, l', hl, fun z hz => by
        rw [Bool.not_eq_true', decide_eq_false_iff_not]
        exact hbefore z hz⟩
    unfold joinRequestById
    rw [hmissing, hfirst]
    rfl

/-! ## What a departure takes out -/

/-- The requests that go while their room is there are of this kind. -/
def sparing (P : PendingJoinRequest → Prop) : Guarantee World Mark where
  ok _ _ := True
  inv _ := True
  change w w' := ∀ x ∈ w.pendingJoinRequests, x ∉ w'.pendingJoinRequests →
    (w.roomOf x.2.roomCode).isSome → P x.2
  rely _ _ := True
  refl _ := trivial
  trans _ _ := trivial

theorem sparing_holds : (sparing P).Holds w₀ w := ⟨trivial, trivial⟩

theorem spares_same (h : w'.pendingJoinRequests = w.pendingJoinRequests) :
    (sparing P).change w w' := fun _ hx hgone => absurd (h ▸ hx) hgone

instance (r : RoomId) (u : RoomUpdate) : Guarded (sparing P) (put (.room r u)) :=
  ⟨fun _ => ⟨spares_same rfl, sparing_holds⟩⟩

instance (l : List (String × RoomId)) : Guarded (sparing P) (put (.rooms l)) :=
  ⟨fun _ => ⟨spares_same rfl, sparing_holds⟩⟩

instance (q : PlayerId) (o : Option String) : Guarded (sparing P) (put (.playerToRoom q o)) :=
  ⟨fun _ => ⟨spares_same rfl, sparing_holds⟩⟩

instance (ws : WsId) (o : Option RequestId) :
    Guarded (sparing P) (put (.wsToPendingRequest ws o)) :=
  ⟨fun _ => ⟨spares_same rfl, sparing_holds⟩⟩

instance (l : List (RequestId × PendingSpectatorRoleRequest)) :
    Guarded (sparing P) (put (.pendingSpectatorRoleRequests l)) :=
  ⟨fun _ => ⟨spares_same rfl, sparing_holds⟩⟩

instance : Tolerates (sparing P) where
  put u hu := ⟨fun {_ w} _ =>
    ⟨spares_same (congrArg Registry.joins (u.registry_same hu w)), sparing_holds⟩⟩
  getPlayer r q := by unfold getPlayer readRoom; infer_instance
  findRoomByPlayer q := by unfold findRoomByPlayer; infer_instance

instance (kind : TaskKind) (delay : ℚ) : Guarded (sparing P) (createTask kind delay) :=
  ⟨fun _ => ⟨spares_same rfl, sparing_holds⟩⟩

/-- The room has gone and its requests are still there. -/
def World.Unregistered (w : World) (code : String) (w' : World) : Prop :=
  w'.pendingJoinRequests = w.pendingJoinRequests ∧ w'.roomOf code = none

/-- The requests of a room that is deleted go after the room. -/
instance (code : String) : Guarded (sparing P) (deleteRoom code) where
  out {w₀ w} _ := by
    unfold deleteRoom
    rw [guards_bind, guards_read, guards_bind, guards_put]
    refine ⟨spares_same rfl, ?_⟩
    have hplayers : ∀ {w₁ w' : World} (o : Option RoomId), w.Unregistered code w' →
        (o.elim (return ()) fun r => each (w.room r).players fun p =>
          put (.playerToRoom p none)).Guards (sparing P) (fun _ _ => w.Unregistered code) w₁
              w' := by
      intro w₁ w' o hw'
      cases o with
      | none => exact hw'
      | some r =>
        exact guards_each (fun _ _ => w.Unregistered code) hw' fun _ _ _ _ h =>
          ⟨spares_same rfl, h⟩
    have hgone : w.Unregistered code ((Update.rooms (w.rooms.filter (·.1 ≠ code))).apply w) :=
      ⟨rfl, by simp [World.roomOf, Update.apply]⟩
    refine guards_bind.mpr ((hplayers _ hgone).mono fun _ w₁ w' ⟨hjoins, hroom⟩ => ?_)
    rw [guards_bind, guards_put]
    refine ⟨fun x hx hout hsome => ?_, Guarded.out sparing_holds⟩
    rw [hjoins] at hx
    have hcode : x.2.roomCode = code := by
      by_contra hne
      exact hout (List.mem_filter.mpr ⟨hx, by simpa using hne⟩)
    rw [hcode, hroom] at hsome
    cases hsome

section Members

variable (env : Env)

instance (r : RoomId) (q : PlayerId) : Guarded (sparing P) (dropPlayer r q) := by
  unfold dropPlayer; infer_instance

instance (r : RoomId) (l : List PlayerId) : Guarded (sparing P) (changeHost r l) := by
  unfold changeHost; infer_instance

instance (r : RoomId) (q : PlayerId) : Guarded (sparing P) (executeVoteKickPassed env r q) := by
  unfold executeVoteKickPassed; dsimp only; infer_instance

instance (r : RoomId) (q : PlayerId) : Guarded (sparing P) (kickTarget env r q) := by
  unfold kickTarget; infer_instance

instance (r : RoomId) (q : PlayerId) : Guarded (sparing P) (voteKickOnDisconnect env r q) := by
  unfold voteKickOnDisconnect; dsimp only; infer_instance

instance (r : RoomId) (q : PlayerId) : Guarded (sparing P) (hostOnDisconnect r q) := by
  unfold hostOnDisconnect; infer_instance

end Members

/-- A request is cancelled. -/
theorem sparing_cancelJoinRequest
    (hown : ∀ x ∈ w.pendingJoinRequests, x.1 = request.requestId →
      (w.roomOf x.2.roomCode).isSome → P x.2) :
    (cancelJoinRequest request).Guards (sparing P) (fun _ => (sparing P).Holds) w₀ w := by
  unfold cancelJoinRequest
  have hcancel : (cancel (.joinTimeout request.requestId) request.timeoutTask).Guards (sparing P)
      (fun _ _ w' => w'.pendingJoinRequests = w.pendingJoinRequests ∧ w'.rooms = w.rooms) w₀ w := by
    unfold cancel
    rw [guards_elim]
    exact ⟨fun _ => ⟨rfl, rfl⟩, fun _ _ => ⟨spares_same rfl, rfl, rfl⟩⟩
  refine guards_bind.mpr (hcancel.mono fun _ w₁ w' ⟨hjoins, hrooms⟩ => ?_)
  unfold dropJoinRequest broadcastResolved
  rw [guards_bind, guards_bind, guards_read, guards_bind, guards_put]
  refine ⟨fun x hx hout hroom => ?_, ?_⟩
  · rw [hjoins] at hx
    refine hown x hx ?_ (by simpa [World.roomOf, hrooms] using hroom)
    by_contra hne
    exact hout (List.mem_filter.mpr ⟨hjoins ▸ hx, by simpa using hne⟩)
  · rw [← guards_bind]
    exact Guarded.out sparing_holds

/-- The player is looked up; only one that is outside is not found. -/
theorem sparing_findRoomByPlayer {α : Type} {c : M α} {f : RoomId → M α}
    {Q : α → World → World → Prop} (hc : w.Outside p → c.Guards (sparing P) Q w₀ w)
    (hf : ∀ r w', (f r).Guards (sparing P) Q w₀ w') :
    (findRoomByPlayer p >>= fun o => o.elim c f).Guards (sparing P) Q w₀ w := by
  unfold findRoomByPlayer
  unfold World.Outside at hc
  rw [guards_bind, guards_bind, guards_read]
  cases hcode : w.playerToRoom p with
  | none =>
    rw [hcode] at hc
    simp only [Option.elim_none]
    rw [guards_elim]
    refine ⟨fun hnone => hc fun x hx => ?_, fun x _ => ⟨spares_same rfl, spares_same rfl, hf _ _⟩⟩
    simpa using List.find?_eq_none.mp hnone x hx
  | some code =>
    rw [hcode] at hc
    change ((w.roomOf code).elim c f).Guards (sparing P) Q w₀ w
    rw [guards_elim]
    exact ⟨hc, fun r _ => hf r w⟩

theorem World.Owned.guards_cancelOf (h : w.Owned) :
    (cancelPendingJoinRequestOf ws).Guards (sparing (·.websocket = ws))
      (fun _ => (sparing (·.websocket = ws)).Holds) w₀ w := by
  unfold cancelPendingJoinRequestOf
  rw [guards_bind, guards_read, guards_bind, guards_put, guards_elim]
  refine ⟨spares_same rfl, fun _ => sparing_holds, fun request hfind => ?_⟩
  obtain ⟨i, hi, hrequest⟩ := Option.bind_eq_some_iff.mp hfind
  obtain ⟨y, hy, rfl⟩ := Option.map_eq_some_iff.mp hrequest
  have hyi : y.1 = i := by simpa using List.find?_some hy
  refine sparing_cancelJoinRequest fun x hx hxi _ => h.owner ws i hi x hx ?_
  exact hxi.trans ((h.ids y (List.mem_of_find?_eq_some hy)).1.trans hyi)

/-- A request that is found is a pending one. -/
theorem World.mem_of_joinRequestById (hfind : w.joinRequestById x = some request) :
    ∃ y ∈ w.pendingJoinRequests, y.2 = request := by
  rcases joinRequestById_cases hfind with ⟨y, hy, -, hrequest⟩ | ⟨-, l, y, l', hl, -, -, hrequest⟩
  · exact ⟨y, hy, hrequest⟩
  · exact ⟨y, hl ▸ List.mem_append_right l (List.mem_cons_self ..), hrequest⟩

theorem World.Owned.guards_cancel (h : w.Owned) (hnames : w.Names x ws) :
    (cancelPendingJoinRequest x).Guards (sparing (·.websocket = ws))
      (fun _ => (sparing (·.websocket = ws)).Holds) w₀ w := by
  unfold cancelPendingJoinRequest
  rw [guards_bind, guards_read, guards_elim]
  refine ⟨fun _ => sparing_holds, fun request hfind => ?_⟩
  obtain ⟨y, hy, rfl⟩ := World.mem_of_joinRequestById hfind
  refine sparing_cancelJoinRequest fun z hz hzi hroom => ?_
  have hsame : z = y := h.unique z hz y hy (hzi.trans (h.ids y hy).1)
  rw [hsame] at hroom ⊢
  exact h.names_iff.mp hnames y.2 hfind hroom

theorem World.Owned.guards_disconnect (env : Env) (h : w.Owned)
    (hnames : w.Outside p → w.Names p ws) :
    (handleDisconnect env p).Guards (sparing (·.websocket = ws))
      (fun _ => (sparing (·.websocket = ws)).Holds) w₀ w := by
  unfold handleDisconnect
  exact sparing_findRoomByPlayer (fun hout => h.guards_cancel (hnames hout))
    fun r w' => Guarded.out sparing_holds

/-- A departure takes out requests of its sender only, if it heeds whose the ids are. -/
theorem Departure.Heeds.guards (env : Env) (h : w.Owned) {e : Departure} (he : e.Heeds w) :
    (e.op.call env).Guards (sparing (·.websocket = e.sender))
      (fun _ => (sparing (·.websocket = e.sender)).Holds) w w := by
  cases e with
  | cancel ws requestId =>
    cases requestId with
    | none => exact h.guards_cancelOf
    | some x => exact h.guards_cancel (he x rfl)
  | disconnect ws p => exact h.guards_disconnect env he
  | closed ws p =>
    change (websocketClosed env ws p).Guards _ _ _ _
    unfold websocketClosed
    rw [guards_bind, guards_read]
    cases hp : p.or ((w.wsToPlayer ws).map (·.1)) with
    | none =>
      simp only [Coro.when, if_true, Option.elim_none]
      exact guards_then h.guards_cancelOf
    | some q =>
      have hnames := he q hp
      refine ⟨spares_same rfl, World.Owned.guards_disconnect env ?_ fun hout => ?_⟩
      · exact ⟨h.ids, h.unique, h.known, h.owner⟩
      · exact ⟨(hnames hout).request, (hnames hout).player⟩

/-! ## What it takes out otherwise -/

/-- A request that is cancelled is taken out. -/
theorem cancels_cancelJoinRequest {y : RequestId × PendingJoinRequest}
    (hy : y ∈ w.pendingJoinRequests) (hid : y.2.requestId = y.1)
    (hroom : (w.roomOf y.2.roomCode).isSome) : Cancels (cancelJoinRequest y.2) w y := by
  have hout : ∀ w' : World, y ∉ ((Update.pendingJoinRequests
      (w'.pendingJoinRequests.filter (·.1 ≠ y.2.requestId))).apply w').pendingJoinRequests :=
    fun w' hmem => by simpa [hid] using (List.mem_filter.mp hmem).2
  unfold cancelJoinRequest dropJoinRequest cancel
  cases y.2.timeoutTask with
  | none => exact ⟨fun _ _ => True, w, _, .inl ⟨rfl, rfl⟩, hy, hout w, hroom⟩
  | some n => exact ⟨fun _ _ => True, _, _, .inr (.inl ⟨rfl, rfl⟩), hy, hout _, hroom⟩

/-- So is the request that is found for an id. -/
theorem World.Owned.cancels (h : w.Owned) (hfind : w.joinRequestById x = some request)
    (hroom : (w.roomOf request.roomCode).isSome) :
    ∃ i, Cancels (cancelPendingJoinRequest x) w (i, request) := by
  obtain ⟨y, hy, rfl⟩ := World.mem_of_joinRequestById hfind
  obtain ⟨rely, w₁, w₂, hmakes, hgone⟩ := cancels_cancelJoinRequest hy (h.ids y hy).1 hroom
  refine ⟨y.1, rely, w₁, w₂, ?_, hgone⟩
  change ((w.joinRequestById x).elim (return ()) cancelJoinRequest).Makes rely w w₁ w₂
  rw [hfind]
  exact hmakes

/-- A player who is outside is not found. -/
theorem World.Outside.ends (h : w.Outside p) (rely : World → World → Prop) :
    (findRoomByPlayer p).Ends rely w (.ok none) w := by
  unfold World.Outside at h
  change ((w.playerToRoom p).elim _ _ : M (Option RoomId)).Ends rely w (.ok none) w
  cases hcode : w.playerToRoom p with
  | none =>
    rw [hcode] at h
    have hnone : w.rooms.find? (fun x => p ∈ (w.room x.2).playersById ∨
        p ∈ (w.room x.2).players) = none :=
      List.find?_eq_none.mpr fun x hx => by simpa using h x hx
    rw [Option.elim_none, hnone]
    exact ⟨rfl, rfl⟩
  | some code =>
    rw [hcode] at h
    rw [Option.elim_some, h]
    exact ⟨rfl, rfl⟩

/-- And a disconnect cancels the request that is found for its id. -/
theorem World.Outside.cancels (env : Env) (h : w.Outside p) {y : RequestId × PendingJoinRequest}
    (hy : Cancels (cancelPendingJoinRequest p) w y) : Cancels (handleDisconnect env p) w y := by
  obtain ⟨rely, w₁, w₂, hmakes, hgone⟩ := hy
  exact ⟨rely, w₁, w₂, makes_bind.mpr (.inr ⟨none, w, h.ends rely, hmakes⟩), hgone⟩

/-- What a departure takes out by an id is its sender's only if the id names its request. -/
theorem World.Owned.names (h : w.Owned)
    (hown : ∀ y, Cancels (cancelPendingJoinRequest x) w y → y.2.websocket = ws) : w.Names x ws :=
  h.names_iff.mpr fun request hfind hroom => by
    obtain ⟨i, hcancels⟩ := h.cancels hfind hroom
    exact hown (i, request) hcancels

/-- The end of a connection disconnects its player. -/
theorem cancels_websocketClosed (env : Env) {o : Option PlayerId}
    (ho : o.or ((w.wsToPlayer ws).map (·.1)) = some p) {y : RequestId × PendingJoinRequest}
    (hy : Cancels (handleDisconnect env p) ((Update.wsToPlayer ws none).apply w) y) :
    Cancels (websocketClosed env ws o) w y := by
  obtain ⟨rely, w₁, w₂, hmakes, hgone⟩ := hy
  refine ⟨rely, w₁, w₂, ?_, hgone⟩
  unfold websocketClosed
  refine makes_bind.mpr (.inr ⟨w, w, ⟨rfl, rfl⟩, ?_⟩)
  simp only [ho, Coro.when, reduceCtorEq, if_false, Option.elim_some]
  exact .inr hmakes

/-- **A departure heeds whose the ids are, if it cancels nobody else's request.** -/
theorem World.Owned.heeds (env : Env) (h : w.Owned) {e : Departure}
    (hown : ∀ y, Cancels (e.op.call env) w y → y.2.websocket = e.sender) : e.Heeds w := by
  cases e with
  | cancel ws requestId =>
    rintro x rfl
    exact h.names hown
  | disconnect ws p => exact fun hout => h.names fun y hy => hown y (hout.cancels env hy)
  | closed ws o =>
    intro q hq hout
    have hleft : ((Update.wsToPlayer ws none).apply w).Owned := ⟨h.ids, h.unique, h.known, h.owner⟩
    have hout' : ((Update.wsToPlayer ws none).apply w).Outside q := hout
    have hnames := hleft.names fun y hy =>
      hown y (cancels_websocketClosed env hq (hout'.cancels env hy))
    exact ⟨hnames.request, hnames.player⟩

/-! ## Runs -/

variable {env : Env} {transport : WsId → Transport} {redis : Bool} {oracle : List Nat}
  {snapshots : String → Option RoomSnapshot} {c : Config World Frame Mark TaskId}

/-- **A departure cancels no request but the sender's**, whatever has happened before and whatever
the others do meanwhile, exactly if the ids it is about are the sender's. -/
theorem cancels_own_iff (h : (owner env).Run (fun _ _ => True)
      (startConfig (World.start transport redis oracle snapshots)) c) (hidle : c.running = none)
    (e : Departure) :
    (∀ x, Cancels (e.op.call env) c.state x → x.2.websocket = e.sender) ↔ e.Heeds c.state := by
  have howned := owned_of_run h hidle
  refine ⟨howned.heeds env, fun he x ⟨rely, w₁, w₂, hmakes, hx, hgone, hroom⟩ => ?_⟩
  exact (he.guards env howned).makes (fun _ _ => trivial) (fun _ => trivial) (fun _ _ => trivial)
    hmakes x hx hgone hroom

/-- Four connections: the host's, a player's, and two that their gateways call `pending_1`. -/
def twoGateways : World :=
  World.start (fun ws => ⟨some (if ws = 3 then 1 else 0),
    .other (if ws ≤ 1 then "" else "pending_1"), ""⟩) false [] fun _ => none

/-- A game is on, and the connection 3 asks to join. -/
def asking : List (Loop.Choice TaskId OwnerOp × List Bool) :=
  [(.call (.own (.createRoom ["ROOM01"] "p0" 0 none none none)), []),
    (.call (.own (.joinRoom "p1" "ROOM01" 1 none false none none)), []),
    (.call (.own (.startGame (.uuid 0) 0)), []),
    (.call (.own (.joinRoom "p2" "ROOM01" 3 none false none none)), [])]

/-- The connection 3 cancels its own request. -/
theorem cancels_own_asking : ∃ c, (owner sampleEnv).Run (fun _ _ => True)
    (startConfig twoGateways) c ∧ c.state.pendingJoinRequests.map (·.2.websocket) = [3] ∧
    ∀ x, Cancels (cancelPendingJoinRequestOf 3) c.state x → x.2.websocket = 3 := by
  have hplay : ((owner sampleEnv).play (fun _ _ => True) (startConfig twoGateways) asking).any
      (fun c => c.state.pendingJoinRequests.map (·.2.websocket) = [3]) = true := by
    decide +kernel
  obtain ⟨c, hrun, hidle, hc⟩ := Loop.exists_run_of_play rfl hplay
  exact ⟨c, hrun, of_decide_eq_true hc, (cancels_own_iff hrun hidle (.cancel 3 none)).mpr nofun⟩

/-- Then the connection 2 goes away, which the other gateway has called `pending_1` as well. -/
theorem other_cancelled : ¬ ∀ (env : Env) (transport : WsId → Transport)
    (c : Config World Frame Mark TaskId), (owner env).Run (fun _ _ => True)
      (startConfig (World.start transport false [] fun _ => none)) c → c.running = none →
    ∀ (e : Departure) x, Cancels (e.op.call env) c.state x → x.2.websocket = e.sender := by
  intro h
  have hplay : ((owner sampleEnv).play (fun _ _ => True) (startConfig twoGateways) asking).any
      (fun c => (c.state.joinRequestById (.other "pending_1")).any (fun request =>
          request.websocket = 3 ∧ (c.state.roomOf request.roomCode).isSome) ∧
        c.state.playerToRoom (.other "pending_1") = none ∧
        ∀ x ∈ c.state.rooms, .other "pending_1" ∉ (c.state.room x.2).playersById ∧
          .other "pending_1" ∉ (c.state.room x.2).players) = true := by
    decide +kernel
  obtain ⟨c, hrun, hidle, hc⟩ := Loop.exists_run_of_play rfl hplay
  obtain ⟨hany, hindex, hrooms⟩ := of_decide_eq_true hc
  obtain ⟨request, hfind, hrequest⟩ := (Option.any_eq_true _ _).mp hany
  obtain ⟨hws, hroom⟩ := of_decide_eq_true hrequest
  have hout : c.state.Outside (.other "pending_1") := by
    unfold World.Outside
    rw [hindex]
    exact hrooms
  obtain ⟨i, hcancels⟩ := (owned_of_run hrun hidle).cancels hfind hroom
  have hown := h sampleEnv _ c hrun hidle (.disconnect 2 (.other "pending_1")) (i, request)
    (hout.cancels sampleEnv hcancels)
  exact absurd (hws.symm.trans hown) (by decide)

end Skribbl.Backend
