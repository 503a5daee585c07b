import Mathlib.Data.List.Basic
import Skribbl.System.Envelope

/-!
# Room-sticky routing (`gateway/gateway_registry.go`)

The gateways record in Redis which of them a room belongs to, so that a client that joins through
another one is sent to it.

* `GatewayKeys` — the keys of `GatewayRegistry` in Redis, with its methods; `route` — the head of
  `handleJoinRoom`.
* `Fleet` — the gateways and their keys; a room counts as created through a gateway when its
  `room_created` has passed there and found the session.

Principal results: `unclaimed_of_run` — no room is ever claimed, since the claim waits for a tag
that no worker sets; `never_redirected` — so a join at another gateway is never redirected;
`served_elsewhere` — a room with sessions on two gateways.
-/

set_option autoImplicit false

namespace Skribbl.System

open Backend Gateway

/-! ## The registry in Redis -/

/-- `gateway_addr:<ID>` and `room_gateway:<CODE>`. -/
structure GatewayKeys where
  gatewayAddr : String → Option String := fun _ => none
  roomGateway : String → Option String := fun _ => none

namespace GatewayKeys

/-- `beat`. -/
def beat (keys : GatewayKeys) (gatewayID selfAddr : String) : GatewayKeys :=
  { keys with gatewayAddr := Function.update keys.gatewayAddr gatewayID (some selfAddr) }

/-- `unregister`, or the heartbeat's key expires. -/
def unregister (keys : GatewayKeys) (gatewayID : String) : GatewayKeys :=
  { keys with gatewayAddr := Function.update keys.gatewayAddr gatewayID none }

/-- `ClaimRoom`. -/
def claimRoom (keys : GatewayKeys) (gatewayID roomCode : String) : GatewayKeys :=
  if roomCode = "" then keys
  else { keys with roomGateway := Function.update keys.roomGateway roomCode (some gatewayID) }

/-- The key of a room expires. -/
def expireRoom (keys : GatewayKeys) (roomCode : String) : GatewayKeys :=
  { keys with roomGateway := Function.update keys.roomGateway roomCode none }

/-- `OwnerOf`. -/
def ownerOf (keys : GatewayKeys) (roomCode : String) : String :=
  if roomCode = "" then "" else (keys.roomGateway roomCode).getD ""

/-- `AddrOf`. -/
def addrOf (keys : GatewayKeys) (gatewayID : String) : String :=
  if gatewayID = "" then "" else (keys.gatewayAddr gatewayID).getD ""

end GatewayKeys

/-- What `handleJoinRoom` does with a client first. -/
inductive Routing where
  | redirect (ownerID : String)
  | serve
  deriving DecidableEq

/-- The head of `handleJoinRoom`; `RefreshRoom` only prolongs a key. -/
def GatewayKeys.route (keys : GatewayKeys) (gatewayID roomCode : String) : Routing × GatewayKeys :=
  let owner := keys.ownerOf roomCode
  if owner ≠ "" ∧ owner ≠ gatewayID then
    if keys.addrOf owner ≠ "" then (.redirect owner, keys)
    else (.serve, keys.claimRoom gatewayID roomCode)
  else (.serve, keys)

/-! ## The gateways -/

/-- The gateways, by their ids, with the keys in Redis, and the rooms that have been created, each
with the gateway that its `room_created` has passed through. -/
structure Fleet where
  keys : GatewayKeys := {}
  gateway : String → GatewayState Message := fun _ => .new
  created : List (String × String) := []

/-- What happens at the gateways. -/
inductive Fleet.Action where
  | beat (gatewayID selfAddr : String)
  | unregister (gatewayID : String)
  | expireRoom (roomCode : String)
  /-- A connection opens, joins a room that is served here, or closes. -/
  | connection (gatewayID : String) (e : Event)
  /-- The receiver of a stream has a message. -/
  | receive (gatewayID : String) (x : StreamSend)
  /-- A `join_room` or `reconnect` arrives. -/
  | join (gatewayID roomCode : String)

namespace Fleet

variable {name : Ident → String} {s : Fleet}

/-- `interceptIdentityResponse`, at a session that is still there. -/
def intercepted (name : Ident → String) (s : Fleet) (gatewayID target : String)
    (msg : BroadcastMessage Message) : Fleet :=
  let roomCode := extractRoomCode msg.payload
  { keys :=
      if roomCode ≠ "" ∧ msg.messageType = "room_created" then s.keys.claimRoom gatewayID roomCode
      else s.keys
    gateway := Function.update s.gateway gatewayID
      ((s.gateway gatewayID).identity target (extractPlayerID name msg.payload) roomCode)
    created :=
      match msg.payload with
      | .roomCreated _ _ _ _ => s.created ++ [(roomCode, gatewayID)]
      | _ => s.created }

/-- The receiver's part for identity responses. -/
def receive (name : Ident → String) (s : Fleet) (gatewayID : String)
    (msg : BroadcastMessage Message) : Fleet :=
  if isIdentityResponse msg then
    msg.targetPlayerIds.head?.elim s fun target =>
      if extractPlayerID name msg.payload = "" ∧ extractRoomCode msg.payload = "" then s
      else ((s.gateway gatewayID).registry.getByPlayer target).elim s fun _ =>
        s.intercepted name gatewayID target msg
  else s

def step (name : Ident → String) (s : Fleet) : Action → Fleet
  | .beat gatewayID selfAddr => { s with keys := s.keys.beat gatewayID selfAddr }
  | .unregister gatewayID => { s with keys := s.keys.unregister gatewayID }
  | .expireRoom roomCode => { s with keys := s.keys.expireRoom roomCode }
  | .connection gatewayID e =>
    { s with gateway := Function.update s.gateway gatewayID ((s.gateway gatewayID).step e) }
  | .receive gatewayID x => s.receive name gatewayID (x.msg name)
  | .join gatewayID roomCode => { s with keys := (s.keys.route gatewayID roomCode).2 }

def run (name : Ident → String) (s : Fleet) (as : List Action) : Fleet := as.foldl (step name) s

/-- No room is claimed. -/
def Unclaimed (s : Fleet) : Prop := ∀ roomCode, s.keys.roomGateway roomCode = none

theorem Unclaimed.ownerOf (h : s.Unclaimed) (roomCode : String) : s.keys.ownerOf roomCode = "" := by
  unfold GatewayKeys.ownerOf
  rw [h roomCode, Option.getD_none, ite_self]

/-- A room that nobody has claimed is served wherever somebody joins it. -/
theorem Unclaimed.route (h : s.Unclaimed) (gatewayID roomCode : String) :
    s.keys.route gatewayID roomCode = (.serve, s.keys) := by
  unfold GatewayKeys.route
  simp only [h.ownerOf, ne_eq, not_true_eq_false, false_and, if_false]

/-- A message of a worker claims nothing. -/
theorem receive_keys (gatewayID : String) (x : StreamSend) :
    (s.receive name gatewayID (x.msg name)).keys = s.keys := by
  have htag := x.not_roomCreated name
  have hkept : ∀ target, (s.intercepted name gatewayID target (x.msg name)).keys = s.keys :=
    fun target => if_neg fun h => htag h.2
  unfold receive
  split
  · cases (x.msg name).targetPlayerIds.head? with
    | none => rfl
    | some target =>
      rw [Option.elim_some]
      split
      · rfl
      · cases (s.gateway gatewayID).registry.getByPlayer target with
        | none => rfl
        | some sid => exact hkept target
  · rfl

theorem Unclaimed.step (h : s.Unclaimed) (a : Action) : (s.step name a).Unclaimed := by
  cases a with
  | beat gatewayID selfAddr => exact h
  | unregister gatewayID => exact h
  | expireRoom roomCode =>
    intro code
    change Function.update s.keys.roomGateway roomCode none code = none
    rw [Function.update_apply, h code, ite_self]
  | connection gatewayID e => exact h
  | receive gatewayID x =>
    intro code
    change (s.receive name gatewayID (x.msg name)).keys.roomGateway code = none
    rw [receive_keys]
    exact h code
  | join gatewayID roomCode =>
    intro code
    change (s.keys.route gatewayID roomCode).2.roomGateway code = none
    rw [h.route]
    exact h code

/-- **No room is ever claimed.** -/
theorem unclaimed_of_run (name : Ident → String) (as : List Action) :
    (Fleet.run name {} as).Unclaimed := by
  suffices ∀ s : Fleet, s.Unclaimed → (s.run name as).Unclaimed from this {} fun _ => rfl
  induction as with
  | nil => exact fun _ h => h
  | cons a as ih => exact fun s h => ih _ (h.step a)

end Fleet

/-- **Nobody is ever redirected**, not even who joins a room through another gateway than the one it
was created through, however alive that one is. -/
theorem never_redirected (name : Ident → String) (as : List Fleet.Action) :
    (∀ g' code, ((Fleet.run name {} as).keys.route g' code).1 = .serve) ∧
      ∀ x ∈ (Fleet.run name {} as).created, (Fleet.run name {} as).keys.addrOf x.2 ≠ "" →
        ∀ g' ≠ x.2, ((Fleet.run name {} as).keys.route g' x.1).1 ≠ .redirect x.2 := by
  have hserve : ∀ g' code, ((Fleet.run name {} as).keys.route g' code).1 = .serve := by
    intro g' code
    rw [(Fleet.unclaimed_of_run name as).route]
  refine ⟨hserve, fun x _ _ g' _ hredirect => ?_⟩
  rw [hserve] at hredirect
  cases hredirect

/-- An id as the clients see it. -/
def writeId : Ident → String
  | .uuid n => "uuid_" ++ toString n
  | .other s => s

/-- A room is created through one gateway and joined through another. -/
def twoGateways : List Fleet.Action :=
  [.beat "gw1" "gw1", .connection "gw1" (.opened 1),
    .receive "gw1" (.text ⟨some 0, .other "pending_1", "ROOM01"⟩
      (.roomCreated "ROOM01" (.uuid 0) [] (serializeConfig {})) false),
    .beat "gw2" "gw2", .connection "gw2" (.opened 1), .join "gw2" "ROOM01",
    .connection "gw2" (.joinRoom 1 "ROOM01" "w1" true)]

/-- The room has sessions on both gateways, though the first is alive. -/
theorem served_elsewhere :
    ("ROOM01", "gw1") ∈ (Fleet.run writeId {} twoGateways).created ∧
      (Fleet.run writeId {} twoGateways).keys.addrOf "gw1" ≠ "" ∧
      ((Fleet.run writeId {} twoGateways).keys.route "gw2" "ROOM01").1 ≠ .redirect "gw1" ∧
      ((Fleet.run writeId {} twoGateways).gateway "gw1").registry.getByRoom "ROOM01" ≠ [] ∧
      ((Fleet.run writeId {} twoGateways).gateway "gw2").registry.getByRoom "ROOM01" ≠ [] := by
  decide +kernel

end Skribbl.System
