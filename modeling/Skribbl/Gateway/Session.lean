import Mathlib.Logic.Function.Basic
import Skribbl.Lib.FilterKeys

/-!
# The session registry (`gateway/session.go`) and a connection's life (`main.go`, `receiver.go`)

* `Registry` — sessions are objects on a heap; the two indices hold their ids.  `register`,
  `unregister`, `update`, `updateIdentity`, `removeLocked`, `getByRoom`, `getByPlayer` follow the
  methods of `SessionRegistry`.
* `GatewayState` — the registry, the `session` variable of every open connection and what has been
  sent to the workers, with one step for each thing that can happen: a connection opens, joins,
  gets its identity, its read loop ends (`readError`), its disconnect is notified (`notify`).

The message type `M` of the queues is arbitrary.

Principal results: `getByRoom_spec` — what the room index lists; `updateIdentity_sessions`,
`unregister_sessions` — what the player index maps to afterwards.
-/

set_option autoImplicit false

namespace Skribbl.Gateway

/-! ## Sessions -/

/-- The identity of a `*PlayerSession`. -/
abbrev SessionId := Nat

/-- `PlayerSession`; `done` is whether its channel is closed, which ends its `writePump`. -/
structure PlayerSession (M : Type) where
  playerID : String
  roomCode : String
  workerID : String
  conn : Nat
  sendCh : List M
  done : Bool

/-- `SessionRegistry`.  The room index is keyed by room and player; the source's inner maps are
deleted when they become empty, so nothing else can be read from them. -/
structure Registry (M : Type) where
  heap : SessionId → PlayerSession M
  next : SessionId
  sessions : AList fun _ : String => SessionId
  byRoom : AList fun _ : String × String => SessionId

variable {M : Type}

/-- `NewSessionRegistry`. -/
def Registry.new : Registry M := ⟨fun _ => ⟨"", "", "", 0, [], false⟩, 0, ∅, ∅⟩

namespace Registry

/-- Assign to fields of a session. -/
def modify (sr : Registry M) (sid : SessionId) (f : PlayerSession M → PlayerSession M) :
    Registry M :=
  { sr with heap := Function.update sr.heap sid (f (sr.heap sid)) }

/-- `removeLocked`. -/
def removeLocked (sr : Registry M) (sid : SessionId) : Registry M :=
  let playerID := (sr.heap sid).playerID
  let sr := sr.modify sid fun s => { s with done := true }
  { sr with
    sessions := sr.sessions.erase playerID
    byRoom := sr.byRoom.filterKeys fun k => k.2 ≠ playerID }

/-- `if roomCode != "" { … byRoom[roomCode][playerID] = session }`. -/
def indexRoom (sr : Registry M) (roomCode playerID : String) (sid : SessionId) : Registry M :=
  if roomCode ≠ "" then { sr with byRoom := sr.byRoom.insert (roomCode, playerID) sid } else sr

/-- `Register`; the new session's `writePump` runs until its `done` is closed. -/
def register (sr : Registry M) (playerID roomCode : String) (conn : Nat) : Registry M :=
  let sr := match sr.sessions.lookup playerID with
    | some existing => sr.removeLocked existing
    | none => sr
  let sid := sr.next
  let sr := { sr with
    heap := Function.update sr.heap sid ⟨playerID, roomCode, "", conn, [], false⟩
    next := sid + 1
    sessions := sr.sessions.insert playerID sid }
  sr.indexRoom roomCode playerID sid

/-- `Unregister`. -/
def unregister (sr : Registry M) (playerID : String) : Registry M :=
  match sr.sessions.lookup playerID with
  | none => sr
  | some sid => sr.removeLocked sid

/-- `Update`. -/
def update (sr : Registry M) (playerID : String) (conn : Nat) : Registry M :=
  match sr.sessions.lookup playerID with
  | none => sr
  | some sid =>
    let roomCode := (sr.heap sid).roomCode
    let sr := sr.modify sid fun s => { s with done := true }
    let new := sr.next
    let sr := { sr with
      heap := Function.update sr.heap new ⟨playerID, roomCode, "", conn, [], false⟩
      next := new + 1
      sessions := sr.sessions.insert playerID new }
    sr.indexRoom roomCode playerID new

/-- `UpdateIdentity`. -/
def updateIdentity (sr : Registry M) (oldPlayerID newPlayerID newRoomCode : String) :
    Registry M :=
  match sr.sessions.lookup oldPlayerID with
  | none => sr
  | some sid =>
    let sr := { sr with
      sessions := sr.sessions.erase oldPlayerID
      byRoom := sr.byRoom.filterKeys fun k => k.2 ≠ oldPlayerID ∧ k.2 ≠ newPlayerID }
    let sr := sr.modify sid fun s =>
      { s with
        playerID := newPlayerID
        roomCode := if newRoomCode ≠ "" then newRoomCode else s.roomCode }
    let sr := { sr with sessions := sr.sessions.insert newPlayerID sid }
    sr.indexRoom (sr.heap sid).roomCode newPlayerID sid

/-- `GetByRoom`. -/
def getByRoom (sr : Registry M) (roomCode : String) : List SessionId :=
  if roomCode = "" then [] else (sr.byRoom.filterKeys fun k => k.1 = roomCode).values

/-- `GetByPlayer`. -/
def getByPlayer (sr : Registry M) (playerID : String) : Option SessionId :=
  sr.sessions.lookup playerID

/-! ## What the operations leave in the indices -/

@[simp] theorem modify_sessions (sr : Registry M) (sid : SessionId)
    (f : PlayerSession M → PlayerSession M) : (sr.modify sid f).sessions = sr.sessions := rfl

@[simp] theorem modify_byRoom (sr : Registry M) (sid : SessionId)
    (f : PlayerSession M → PlayerSession M) : (sr.modify sid f).byRoom = sr.byRoom := rfl

theorem modify_heap (sr : Registry M) (sid i : SessionId) (f : PlayerSession M → PlayerSession M) :
    (sr.modify sid f).heap i = if i = sid then f (sr.heap sid) else sr.heap i := by
  simp only [modify, Function.update_apply]

@[simp] theorem indexRoom_sessions (sr : Registry M) (roomCode playerID : String)
    (sid : SessionId) : (sr.indexRoom roomCode playerID sid).sessions = sr.sessions := by
  unfold indexRoom; split <;> rfl

@[simp] theorem indexRoom_heap (sr : Registry M) (roomCode playerID : String) (sid : SessionId) :
    (sr.indexRoom roomCode playerID sid).heap = sr.heap := by
  unfold indexRoom; split <;> rfl

@[simp] theorem indexRoom_next (sr : Registry M) (roomCode playerID : String) (sid : SessionId) :
    (sr.indexRoom roomCode playerID sid).next = sr.next := by
  unfold indexRoom; split <;> rfl

/-- **The sessions of a room are the ones that its index holds.** -/
theorem getByRoom_spec {sr : Registry M} {roomCode : String} {sid : SessionId} :
    sid ∈ sr.getByRoom roomCode ↔
      roomCode ≠ "" ∧ ∃ playerID, sr.byRoom.lookup (roomCode, playerID) = some sid := by
  unfold getByRoom
  by_cases h : roomCode = ""
  · simp [h]
  · rw [if_neg h, AList.mem_values]
    constructor
    · rintro ⟨⟨r, p⟩, hk⟩
      rw [AList.lookup_filterKeys] at hk
      split at hk
      · rename_i hr
        obtain rfl : r = roomCode := by simpa using hr
        exact ⟨h, p, hk⟩
      · cases hk
    · rintro ⟨-, p, hk⟩
      exact ⟨(roomCode, p), by rw [AList.lookup_filterKeys, if_pos (by simp), hk]⟩

/-- Every entry of the player index is a registered session under its own name. -/
def Keyed (sr : Registry M) : Prop :=
  ∀ x s, sr.sessions.lookup x = some s → (sr.heap s).playerID = x ∧ s < sr.next

section

variable {sr : Registry M} (hk : sr.Keyed)
include hk

theorem unregister_sessions (playerID x : String) :
    (sr.unregister playerID).sessions.lookup x =
      if x = playerID then none else sr.sessions.lookup x := by
  unfold unregister
  cases hl : sr.sessions.lookup playerID with
  | none =>
    show sr.sessions.lookup x = _
    split
    · rename_i hx; rw [hx, hl]
    · rfl
  | some sid =>
    simp only [removeLocked, modify_sessions, (hk _ _ hl).1, AList.lookup_erase_if]

omit hk in
theorem unregister_heap (playerID : String) (i : SessionId) :
    (sr.unregister playerID).heap i =
      if sr.sessions.lookup playerID = some i then { sr.heap i with done := true }
      else sr.heap i := by
  unfold unregister
  cases hl : sr.sessions.lookup playerID with
  | none => simp
  | some sid =>
    simp only [removeLocked, modify_heap, Option.some.injEq, eq_comm (a := sid)]
    split
    · rename_i hi; rw [hi]
    · rfl

omit hk in
@[simp] theorem unregister_next (playerID : String) :
    (sr.unregister playerID).next = sr.next := by
  unfold unregister
  split <;> rfl

theorem Keyed.unregister (playerID : String) : (sr.unregister playerID).Keyed := by
  intro x s hs
  rw [unregister_sessions hk] at hs
  split at hs
  · cases hs
  · have := hk x s hs
    rw [unregister_heap, unregister_next]
    split
    · exact this
    · exact this

omit hk in
/-- `Register` first unregisters the name. -/
theorem register_eq (playerID roomCode : String) (conn : Nat) :
    sr.register playerID roomCode conn =
      ({ sr.unregister playerID with
          heap := Function.update (sr.unregister playerID).heap sr.next
            ⟨playerID, roomCode, "", conn, [], false⟩
          next := sr.next + 1
          sessions := (sr.unregister playerID).sessions.insert playerID sr.next
        } : Registry M).indexRoom roomCode playerID sr.next := by
  unfold register unregister
  cases hl : sr.sessions.lookup playerID <;> rfl

theorem register_sessions (playerID roomCode : String) (conn : Nat) (x : String) :
    (sr.register playerID roomCode conn).sessions.lookup x =
      if x = playerID then some sr.next else sr.sessions.lookup x := by
  rw [register_eq, indexRoom_sessions]
  simp only [AList.lookup_insert_if, unregister_sessions hk]
  split
  · rfl
  · rfl

omit hk in
theorem register_heap (playerID roomCode : String) (conn : Nat) (i : SessionId) :
    (sr.register playerID roomCode conn).heap i =
      if i = sr.next then ⟨playerID, roomCode, "", conn, [], false⟩
      else (sr.unregister playerID).heap i := by
  rw [register_eq, indexRoom_heap]
  simp only [Function.update_apply]

omit hk in
theorem register_next (playerID roomCode : String) (conn : Nat) :
    (sr.register playerID roomCode conn).next = sr.next + 1 := by
  rw [register_eq, indexRoom_next]

theorem Keyed.register (playerID roomCode : String) (conn : Nat) :
    (sr.register playerID roomCode conn).Keyed := by
  intro x s hs
  rw [register_sessions hk] at hs
  rw [register_heap, register_next]
  split at hs
  · rename_i hx
    cases hs
    rw [if_pos rfl, hx]
    exact ⟨rfl, Nat.lt_succ_self _⟩
  · have hlt := (hk x s hs).2
    rw [if_neg (Nat.ne_of_lt hlt), unregister_heap]
    refine ⟨?_, Nat.lt_succ_of_lt hlt⟩
    split
    · exact (hk x s hs).1
    · exact (hk x s hs).1

end

section

variable {sr : Registry M} {old : String} {sid : SessionId}
  (h : sr.sessions.lookup old = some sid) (new roomCode : String)
include h

theorem updateIdentity_sessions (x : String) :
    (sr.updateIdentity old new roomCode).sessions.lookup x =
      if x = new then some sid else if x = old then none else sr.sessions.lookup x := by
  simp only [updateIdentity, h, indexRoom_sessions, AList.lookup_insert_if, modify_sessions,
    AList.lookup_erase_if]

theorem updateIdentity_heap (i : SessionId) :
    (sr.updateIdentity old new roomCode).heap i =
      if i = sid then
        { sr.heap sid with
          playerID := new
          roomCode := if roomCode ≠ "" then roomCode else (sr.heap sid).roomCode }
      else sr.heap i := by
  simp only [updateIdentity, h, indexRoom_heap, modify_heap]

theorem updateIdentity_next : (sr.updateIdentity old new roomCode).next = sr.next := by
  simp only [updateIdentity, h, indexRoom_next]
  rfl

theorem Keyed.updateIdentity (hk : sr.Keyed) : (sr.updateIdentity old new roomCode).Keyed := by
  intro x s hs
  rw [updateIdentity_sessions h] at hs
  rw [updateIdentity_heap h, updateIdentity_next h]
  split at hs
  · rename_i hx
    cases hs
    rw [if_pos rfl]
    exact ⟨hx.symm, (hk _ _ h).2⟩
  split at hs
  · cases hs
  rename_i hx
  have hxs := hk x s hs
  -- a session has one name only
  have hne : s ≠ sid := by
    rintro rfl
    exact hx (hxs.1.symm.trans (hk _ _ h).1)
  rw [if_neg hne]
  exact hxs

end

theorem Keyed.modify {sr : Registry M} (hk : sr.Keyed) {sid : SessionId}
    {f : PlayerSession M → PlayerSession M} (hf : (f (sr.heap sid)).playerID =
    (sr.heap sid).playerID) :
    (sr.modify sid f).Keyed := by
  intro x s hs
  have hxs := hk x s hs
  rw [modify_heap]
  split
  · rename_i hi
    rw [hf, ← hi]
    exact hxs
  · exact hxs

/-- Only room codes, workers and queues differ, and no room code has become empty. -/
structure SameNames (sr sr' : Registry M) : Prop where
  sessions : ∀ x, sr'.sessions.lookup x = sr.sessions.lookup x
  playerID : ∀ i, (sr'.heap i).playerID = (sr.heap i).playerID
  done : ∀ i, (sr'.heap i).done = (sr.heap i).done
  roomCode : ∀ i, (sr.heap i).roomCode ≠ "" → (sr'.heap i).roomCode ≠ ""
  next : sr'.next = sr.next

theorem SameNames.refl (sr : Registry M) : SameNames sr sr :=
  ⟨fun _ => rfl, fun _ => rfl, fun _ => rfl, fun _ => id, rfl⟩

theorem SameNames.trans {a b c : Registry M} (h : SameNames a b) (h' : SameNames b c) :
    SameNames a c :=
  ⟨fun x => (h'.sessions x).trans (h.sessions x), fun i => (h'.playerID i).trans (h.playerID i),
    fun i => (h'.done i).trans (h.done i), fun i => h'.roomCode i ∘ h.roomCode i,
    h'.next.trans h.next⟩

/-- Assigning a room code to a session. -/
theorem SameNames.modify (sr : Registry M) (sid : SessionId) (workerID : String)
    {roomCode : String} (hr : roomCode ≠ "") :
    SameNames sr
      (sr.modify sid fun s => { s with roomCode := roomCode, workerID := workerID }) := by
  refine ⟨fun _ => rfl, fun i => ?_, fun i => ?_, fun i hi => ?_, rfl⟩
  · rw [modify_heap]; split
    · rename_i h; rw [h]
    · rfl
  · rw [modify_heap]; split
    · rename_i h; rw [h]
    · rfl
  · rw [modify_heap]; split
    · exact hr
    · exact hi

/-- Re-indexing a session under its own name. -/
theorem SameNames.updateIdentity {sr : Registry M} (hk : sr.Keyed) (playerID : String)
    {roomCode : String} (hr : roomCode ≠ "") :
    SameNames sr (sr.updateIdentity playerID playerID roomCode) := by
  cases hl : sr.sessions.lookup playerID with
  | none =>
    have : sr.updateIdentity playerID playerID roomCode = sr := by
      simp only [Registry.updateIdentity, hl]
    rw [this]
    exact .refl sr
  | some s =>
    refine ⟨fun x => ?_, fun i => ?_, fun i => ?_, fun i hi => ?_, updateIdentity_next hl _ _⟩
    · rw [updateIdentity_sessions hl]; split
      · rename_i hx; rw [hx, hl]
      · rfl
    · rw [updateIdentity_heap hl]; split
      · rename_i h; rw [h, (hk _ _ hl).1]
      · rfl
    · rw [updateIdentity_heap hl]; split
      · rename_i h; rw [h]
      · rfl
    · rw [updateIdentity_heap hl]; split
      · simp [hr]
      · exact hi

end Registry

/-! ## Connections -/

/-- What a connection's deferred teardown still has to tell its worker. -/
structure Notice where
  workerID : String
  playerID : String
  roomCode : String
  deriving DecidableEq

/-- The gateway: the `session` variable of every open read loop, the teardowns that have yet to
notify, and the `client_disconnected` messages that a worker's stream took, each with the
connection whose teardown sent it. -/
structure GatewayState (M : Type) where
  registry : Registry M
  session : Nat → Option SessionId
  closing : Nat → Option Notice
  sent : List (Nat × Notice)

/-- What happens at the gateway, one step each. -/
inductive Event where
  /-- `handleGRPCPath` is called. -/
  | opened (connID : Nat)
  /-- `handleJoinRoom` of a `join_room` or `reconnect`, with whether the stream took it. -/
  | joinRoom (connID : Nat) (roomCode workerID : String) (ok : Bool)
  /-- `interceptIdentityResponse` of a `room_created`, `room_joined` or `reconnected`. -/
  | identity (pendingPlayerID realPlayerID realRoomCode : String)
  /-- The read loop returns; the deferred function runs up to its `sm.Send`. -/
  | readError (connID : Nat)
  /-- The `sm.Send` of `handleClientDisconnect`, with whether the stream took it. -/
  | notify (connID : Nat) (ok : Bool)
  deriving DecidableEq

/-- `fmt.Sprintf("pending_%d", connID)`. -/
def pendingPlayerID (connID : Nat) : String := "pending_" ++ toString connID

namespace GatewayState

def new : GatewayState M := ⟨.new, fun _ => none, fun _ => none, []⟩

/-- The head of `handleGRPCPath`. -/
def opened (gw : GatewayState M) (connID : Nat) : GatewayState M :=
  let registry := gw.registry.register (pendingPlayerID connID) "" connID
  { gw with
    registry := registry
    session := Function.update gw.session connID
      (registry.getByPlayer (pendingPlayerID connID)) }

/-- `handleJoinRoom`, once the worker is resolved and alive. -/
def joinRoom (gw : GatewayState M) (connID : Nat) (roomCode workerID : String) (ok : Bool) :
    GatewayState M :=
  match gw.session connID with
  | none => gw
  | some sid =>
    -- only an unidentified session may join, and the room code is not empty
    if (gw.registry.heap sid).roomCode ≠ "" ∨ roomCode = "" then gw
    else
      let playerID := (gw.registry.heap sid).playerID
      let registry := gw.registry.updateIdentity playerID playerID roomCode
      { gw with
        registry := if ok then
            registry.modify sid fun s => { s with roomCode := roomCode, workerID := workerID }
          else registry }

/-- `interceptIdentityResponse`. -/
def identity (gw : GatewayState M) (pending realPlayerID realRoomCode : String) : GatewayState M :=
  if realPlayerID = "" ∧ realRoomCode = "" then gw
  else
    match gw.registry.getByPlayer pending with
    | none => gw
    | some sid =>
      let session := gw.registry.heap sid
      let finalPlayerID := if realPlayerID = "" then pending else realPlayerID
      let finalRoomCode := if realRoomCode = "" then session.roomCode else realRoomCode
      if finalPlayerID ≠ pending ∨ finalRoomCode ≠ session.roomCode then
        { gw with registry := gw.registry.updateIdentity pending finalPlayerID finalRoomCode }
      else gw

/-- The deferred function of `handleGRPCPath` with `handleClientDisconnect`, up to its send. -/
def readError (gw : GatewayState M) (connID : Nat) : GatewayState M :=
  match gw.session connID with
  | none => gw
  | some sid =>
    let s := gw.registry.heap sid
    let gw := { gw with
      registry := gw.registry.unregister s.playerID
      session := Function.update gw.session connID none }
    if s.playerID = "" ∨ s.roomCode = "" then gw
    else { gw with
      closing := Function.update gw.closing connID (some ⟨s.workerID, s.playerID, s.roomCode⟩) }

/-- The rest of `handleClientDisconnect`. -/
def notify (gw : GatewayState M) (connID : Nat) (ok : Bool) : GatewayState M :=
  match gw.closing connID with
  | none => gw
  | some n => { gw with
      closing := Function.update gw.closing connID none
      sent := if ok then gw.sent ++ [(connID, n)] else gw.sent }

def step (gw : GatewayState M) : Event → GatewayState M
  | .opened connID => gw.opened connID
  | .joinRoom connID roomCode workerID ok => gw.joinRoom connID roomCode workerID ok
  | .identity pending realPlayerID realRoomCode => gw.identity pending realPlayerID realRoomCode
  | .readError connID => gw.readError connID
  | .notify connID ok => gw.notify connID ok

def run (gw : GatewayState M) (es : List Event) : GatewayState M := es.foldl step gw

/-- An identity response changes the registry only. -/
theorem identity_registry (gw : GatewayState M) (x y roomCode : String) :
    ∃ registry, gw.identity x y roomCode = { gw with registry := registry } := by
  refine ⟨(gw.identity x y roomCode).registry, ?_⟩
  simp only [identity]
  split
  · rfl
  split
  · rfl
  · generalize (if y = "" then x else y) = z
    generalize (if roomCode = "" then _ else roomCode) = r
    split <;> rfl

/-- So does a join. -/
theorem joinRoom_registry (gw : GatewayState M) (c : Nat) (roomCode workerID : String)
    (ok : Bool) :
    ∃ registry, gw.joinRoom c roomCode workerID ok = { gw with registry := registry } := by
  simp only [joinRoom]
  split
  · exact ⟨gw.registry, rfl⟩
  split
  · exact ⟨gw.registry, rfl⟩
  · exact ⟨_, rfl⟩

/-- The player index stays keyed by the sessions' own names. -/
theorem keyed_step {gw : GatewayState M} (hk : gw.registry.Keyed) (e : Event) :
    (gw.step e).registry.Keyed := by
  have hup : ∀ x y r, (gw.registry.updateIdentity x y r).Keyed := by
    intro x y r
    cases hl : gw.registry.sessions.lookup x with
    | none =>
      have : gw.registry.updateIdentity x y r = gw.registry := by
        simp only [Registry.updateIdentity, hl]
      rw [this]
      exact hk
    | some s => exact Registry.Keyed.updateIdentity hl _ _ hk
  cases e with
  | opened c => exact hk.register _ _ _
  | joinRoom c roomCode workerID ok =>
    simp only [step, joinRoom]
    split
    · exact hk
    split
    · exact hk
    cases ok with
    | false => exact hup _ _ _
    | true =>
      simp only [if_true]
      exact Registry.Keyed.modify (hup _ _ _) rfl
  | identity x y roomCode =>
    simp only [step, identity]
    split
    · exact hk
    split
    · exact hk
    · generalize (if y = "" then x else y) = z
      generalize (if roomCode = "" then _ else roomCode) = r
      split
      · exact hup _ _ _
      · exact hk
  | readError c =>
    simp only [step, readError]
    split
    · exact hk
    · split <;> exact hk.unregister _
  | notify c ok =>
    simp only [step, notify]
    split <;> exact hk

/-- **Reachable registries are keyed by the sessions' own names.** -/
theorem keyed_run (es : List Event) : ((new : GatewayState M).run es).registry.Keyed := by
  suffices ∀ (gw : GatewayState M), gw.registry.Keyed → (gw.run es).registry.Keyed from
    this new (by intro x s hs; simp [new, Registry.new] at hs)
  induction es with
  | nil => exact fun _ h => h
  | cons e es ih => exact fun gw h => ih _ (keyed_step h e)

/-- A connection that is never opened has no session. -/
theorem session_run {gw : GatewayState M} {c : Nat} (hc : gw.session c = none) {es : List Event}
    (hes : .opened c ∉ es) : (gw.run es).session c = none := by
  induction es generalizing gw with
  | nil => exact hc
  | cons e es ih =>
    rw [List.mem_cons, not_or] at hes
    refine ih ?_ hes.2
    cases e with
    | opened d =>
      have hd : c ≠ d := fun h => hes.1 (by rw [h])
      simp only [step, opened, Function.update_of_ne hd, hc]
    | joinRoom d roomCode workerID ok =>
      obtain ⟨r, h⟩ := gw.joinRoom_registry d roomCode workerID ok
      simp only [step, h, hc]
    | identity x y roomCode =>
      obtain ⟨r, h⟩ := gw.identity_registry x y roomCode
      simp only [step, h, hc]
    | readError d =>
      simp only [step, readError]
      split
      · exact hc
      · split <;> simp only [Function.update_apply, hc, ite_self]
    | notify d ok =>
      simp only [step, notify]
      split <;> exact hc

/-- While no connection has ended, no teardown is under way. -/
theorem closing_run {gw : GatewayState M} (hc : gw.closing = fun _ => none) {es : List Event}
    (hes : ∀ c, .readError c ∉ es) :
    (gw.run es).closing = (fun _ => none) ∧ (gw.run es).sent = gw.sent := by
  induction es generalizing gw with
  | nil => exact ⟨hc, rfl⟩
  | cons e es ih =>
    simp only [List.mem_cons, not_or] at hes
    have hstep : (gw.step e).closing = gw.closing ∧ (gw.step e).sent = gw.sent := by
      cases e with
      | opened d => exact ⟨rfl, rfl⟩
      | joinRoom d roomCode workerID ok =>
        obtain ⟨r, h⟩ := gw.joinRoom_registry d roomCode workerID ok
        simp only [step, h, and_self]
      | identity x y roomCode =>
        obtain ⟨r, h⟩ := gw.identity_registry x y roomCode
        simp only [step, h, and_self]
      | readError d => exact absurd rfl (hes d).1
      | notify d ok => simp only [step, notify, hc, and_self]
    obtain ⟨h1, h2⟩ := ih (hstep.1.trans hc) fun c => (hes c).2
    exact ⟨h1, h2.trans hstep.2⟩

end GatewayState

end Skribbl.Gateway
