import Mathlib.Data.List.Basic
import Mathlib.Logic.Relation
import Skribbl.Gateway.Session

/-!
# The attempts of one connection to get into a room (`HandleClientMessage`, `handleJoinRoom`)

A client sends `create_room`, `join_room` and `reconnect` messages on one connection, as often as it
likes; the workers accept and reject them.

* `Attempts` — the gateway with the session of the connection, the owners of the rooms in Redis and
  the gateway's cache of them, the room that the client is a member of by the workers' answers, and
  the messages sent and not answered yet.
* `Attempts.resolve` — the worker that `handleJoinRoom` arrives at.
* `Attempts.Follows` — each message that names a room has gone to the worker that owned it, and once
  everything is answered the session is listed under the room of which the client is a member.

Principal results: `follows_of_run` — so it is if the first attempt is accepted, all later ones are
for rooms of the same worker, and the client does not leave; `second_attempt` — after a rejected
join the next one goes to the worker of the room that rejected it.
-/

set_option autoImplicit false

namespace Skribbl.System

open Gateway

/-- One connection of a gateway; the empty string stands for no room. -/
structure Attempts where
  gateway : GatewayState Unit
  /-- `room_owner` and `room_workers`. -/
  owner : String → Option String
  grpcAlive : String → Bool
  /-- The fresh entries of `m.ownerCache`. -/
  ownerCache : String → Option String := fun _ => none
  member : String := ""
  /-- The rooms that the messages without an answer name; `create_room` names none. -/
  waiting : List (Option String) := []
  /-- The rooms named in `join_room` and `reconnect` messages, the workers these went to, and the
  owners at that time. -/
  sent : List (String × String × Option String) := []

namespace Attempts

/-- `resolveRoomOwner`. -/
def resolveRoomOwner (s : Attempts) (code : String) : Option String :=
  (s.ownerCache code).or (s.owner code)

/-- The gateway makes a worker the owner, and caches it. -/
def assign (s : Attempts) (code w : String) : Attempts :=
  { s with
    owner := Function.update s.owner code (some w)
    ownerCache := Function.update s.ownerCache code (some w) }

/-- A worker that is not alive is replaced; `least'` is what `selectLeastLoadedWorker` returns. -/
def checkAlive (s : Attempts) (code w : String) (least' : Option String) :
    Attempts × Option String :=
  if s.grpcAlive w then (s, some w)
  else
    let s := { s with ownerCache := Function.update s.ownerCache code none }
    match least'.filter (· ≠ w) with
    | some w' => (s.assign code w', some w')
    | none => (s, none)

/-- The worker that `handleJoinRoom` arrives at, if any; `least` is what `selectLeastLoadedWorker`
returns when there is no owner. -/
def resolve (s : Attempts) (code : String) (least least' : Option String) :
    Attempts × Option String :=
  match s.resolveRoomOwner code, least with
  | some w, _ =>
    let s := { s with ownerCache := Function.update s.ownerCache code (some w) }
    s.checkAlive code w least'
  | none, some w => (s.assign code w).checkAlive code w least'
  | none, none => (s, none)

/-- The session of the connection. -/
def session (s : Attempts) (sid : SessionId) : PlayerSession Unit := s.gateway.registry.heap sid

/-- An envelope that names a room goes to a worker. -/
def send (s : Attempts) (code w : String) : Attempts :=
  { s with
    waiting := s.waiting ++ [some code]
    sent := s.sent ++ [(code, w, s.owner code)] }

/-- `handleJoinRoom`; `ok` is whether the stream takes the envelope. -/
def handleJoinRoom (s : Attempts) (conn : Nat) (code : String) (least least' : Option String)
    (ok : Bool) : Attempts :=
  match s.resolve code least least' with
  | (s, none) => s
  | (s, some w) =>
    let s := { s with gateway := s.gateway.joinRoom conn code w ok }
    if ok then s.send code w else s

/-- `HandleClientMessage` of a `join_room` or `reconnect`. -/
def handleNaming (s : Attempts) (conn : Nat) (sid : SessionId) (code : String)
    (least least' : Option String) (ok : Bool) : Attempts :=
  if code = "" then s
  else if (s.session sid).roomCode = "" then s.handleJoinRoom conn code least least' ok
  else if ok then s.send code (s.session sid).workerID
  else s

/-- `HandleClientMessage` of a `create_room`. -/
def handleCreate (s : Attempts) (sid : SessionId) (w : String) (ok : Bool) : Attempts :=
  if ok then
    { s with
      gateway :=
        if (s.session sid).roomCode = "" then
          { s.gateway with
            registry := s.gateway.registry.modify sid fun x => { x with workerID := w } }
        else s.gateway
      waiting := s.waiting ++ [none] }
  else s

/-- What happens. -/
inductive Action where
  /-- The client sends a `join_room` or a `reconnect`. -/
  | naming (code : String) (least least' : Option String) (ok : Bool)
  | create (w : String) (ok : Bool)
  /-- A `room_created`, `room_joined` or `reconnected` arrives, in answer to a message that named
  this room. -/
  | accepts (named : Option String) (target playerID code : String)
  /-- An error arrives instead. -/
  | rejects (named : Option String)
  /-- The client leaves its room, or is removed. -/
  | leaves
  /-- Other clients, gateways and workers change Redis and the cache, and workers come and go. -/
  | redis (owner ownerCache : String → Option String) (grpcAlive : String → Bool)

def step (conn : Nat) (sid : SessionId) (s : Attempts) : Action → Attempts
  | .naming code least least' ok => s.handleNaming conn sid code least least' ok
  | .create w ok => s.handleCreate sid w ok
  | .accepts named target playerID code =>
    { s with
      gateway := s.gateway.identity target playerID code
      member := code
      waiting := s.waiting.erase named }
  | .rejects named => { s with waiting := s.waiting.erase named }
  | .leaves => { s with member := "" }
  | .redis owner ownerCache grpcAlive =>
    { s with
      owner := owner
      ownerCache := ownerCache
      grpcAlive := grpcAlive }

/-- An answer is to a message that waits for one, and says where the client is now. -/
def Possible (s : Attempts) : Action → Prop
  | .accepts named _ playerID code =>
    named ∈ s.waiting ∧ (∀ x, named = some x → code = x) ∧ playerID ≠ "" ∧ code ≠ ""
  | .rejects named => named ∈ s.waiting
  | _ => True

/-- The first attempt to be answered is accepted, at the session's own id; whatever is sent
before the session has a room finds Redis in agreement with the cache and a stream that takes it,
and whatever is sent later names a room of the worker of the session; nobody leaves. -/
def Heeds (sid : SessionId) (s : Attempts) : Action → Prop
  | .naming code _ _ ok =>
    if (s.session sid).roomCode = "" then
      ok = true ∧ ∀ w, s.ownerCache code = some w → s.owner code = some w
    else s.owner code = some (s.session sid).workerID
  | .accepts _ target _ _ => target = (s.session sid).playerID
  | .rejects named => named = none ∨ s.member ≠ ""
  | .leaves => False
  | _ => True

/-- One step that meets a condition. -/
def Step (conn : Nat) (sid : SessionId) (cond : Attempts → Action → Prop)
    (s s' : Attempts) : Prop :=
  ∃ a, s.Possible a ∧ cond s a ∧ s' = s.step conn sid a

/-- A run: any number of steps. -/
def Run (conn : Nat) (sid : SessionId) (cond : Attempts → Action → Prop) :
    Attempts → Attempts → Prop :=
  Relation.ReflTransGen (Step conn sid cond)

/-- Each message that names a room has gone to its owner, and if nothing waits for an answer, the
session is listed under the room of which the client is a member, and under no other. -/
def Follows (sid : SessionId) (s : Attempts) : Prop :=
  (∀ x ∈ s.sent, x.2.2 = some x.2.1) ∧
    (s.waiting = [] → ∀ code, sid ∈ s.gateway.registry.getByRoom code ↔
      code ≠ "" ∧ code = s.member)

/-- The connection has just been opened. -/
structure Fresh (conn : Nat) (sid : SessionId) (s : Attempts) : Prop where
  gateway : s.gateway = GatewayState.new.opened conn
  session : s.gateway.session conn = some sid
  member : s.member = ""
  waiting : s.waiting = []
  sent : s.sent = []

/-! ## The registry -/

end Attempts

/-- The session has a name in the registry, and is listed under its room and no other. -/
structure Listed (sr : Registry Unit) (sid : SessionId) : Prop where
  sessions : sr.sessions.lookup (sr.heap sid).playerID = some sid
  byRoom : ∀ code p, sr.byRoom.lookup (code, p) = some sid ↔
    code ≠ "" ∧ code = (sr.heap sid).roomCode ∧ p = (sr.heap sid).playerID

namespace Listed

variable {sr : Registry Unit} {sid : SessionId}

theorem mem_getByRoom (h : Listed sr sid) (code : String) :
    sid ∈ sr.getByRoom code ↔ code ≠ "" ∧ code = (sr.heap sid).roomCode := by
  rw [Registry.getByRoom_spec]
  constructor
  · rintro ⟨hcode, p, hp⟩
    exact ⟨hcode, ((h.byRoom code p).mp hp).2.1⟩
  · rintro ⟨hcode, heq⟩
    exact ⟨hcode, _, (h.byRoom code _).mpr ⟨hcode, heq, rfl⟩⟩

/-- What `UpdateIdentity` leaves in the room index. -/
theorem updateIdentity_byRoom {old : String} (hl : sr.sessions.lookup old = some sid)
    (new roomCode code p : String) :
    (sr.updateIdentity old new roomCode).byRoom.lookup (code, p) =
      if code ≠ "" ∧ code = ((sr.updateIdentity old new roomCode).heap sid).roomCode ∧ p = new then
        some sid
      else if p ≠ old ∧ p ≠ new then sr.byRoom.lookup (code, p)
      else none := by
  rw [Registry.updateIdentity_heap hl, if_pos rfl]
  unfold Registry.updateIdentity Registry.indexRoom Registry.modify
  simp only [hl, Function.update_self]
  generalize (if roomCode ≠ "" then roomCode else (sr.heap sid).roomCode) = final
  split
  · rename_i hfinal
    rw [AList.lookup_insert_if, AList.lookup_filterKeys]
    by_cases hkey : code = final ∧ p = new
    · obtain ⟨rfl, rfl⟩ := hkey
      rw [if_pos rfl, if_pos ⟨hfinal, rfl, rfl⟩]
    · have hkey' : ¬ (code ≠ "" ∧ code = final ∧ p = new) := fun h => hkey h.2
      rw [if_neg (by simpa using hkey), if_neg hkey']
      simp only [decide_eq_true_eq]
  · rename_i hfinal
    have hkey : ¬ (code ≠ "" ∧ code = final ∧ p = new) := by
      rintro ⟨hcode, rfl, -⟩
      exact hfinal hcode
    simp only [AList.lookup_filterKeys, if_neg hkey, decide_eq_true_eq]

/-- `UpdateIdentity` of the session lists it under its new room. -/
theorem updateIdentity (h : Listed sr sid) (new roomCode : String) :
    Listed (sr.updateIdentity (sr.heap sid).playerID new roomCode) sid := by
  have hheap := Registry.updateIdentity_heap h.sessions new roomCode sid
  rw [if_pos rfl] at hheap
  have hname : ((sr.updateIdentity (sr.heap sid).playerID new roomCode).heap sid).playerID =
      new := by
    rw [hheap]
  refine ⟨?_, fun code p => ?_⟩
  · rw [hname, Registry.updateIdentity_sessions h.sessions, if_pos rfl]
  · rw [hname, updateIdentity_byRoom h.sessions]
    split
    · rename_i hkey
      exact iff_of_true rfl hkey
    · rename_i hkey
      refine iff_of_false (fun hlookup => ?_) hkey
      split at hlookup
      · rename_i hp
        exact hp.1 ((h.byRoom code p).mp hlookup).2.2
      · cases hlookup

/-- Assigning the worker, or the room once more. -/
theorem modify (h : Listed sr sid) {f : PlayerSession Unit → PlayerSession Unit}
    (hname : (f (sr.heap sid)).playerID = (sr.heap sid).playerID)
    (hroom : (f (sr.heap sid)).roomCode = (sr.heap sid).roomCode) :
    Listed (sr.modify sid f) sid := by
  have hheap : (sr.modify sid f).heap sid = f (sr.heap sid) := Function.update_self ..
  refine ⟨?_, fun code p => ?_⟩
  · rw [hheap, hname]
    exact h.sessions
  · rw [hheap, hname, hroom]
    exact h.byRoom code p

/-- The name of a new connection belongs to a new session. -/
theorem opened_sessions (conn : Nat) :
    ((GatewayState.new : GatewayState Unit).opened conn).registry.sessions.lookup
      (pendingPlayerID conn) = some 0 :=
  (Registry.register_sessions (GatewayState.keyed_run []) _ _ _ _).trans (if_pos rfl)

/-- A new session is listed nowhere. -/
theorem opened (conn : Nat) :
    Listed ((GatewayState.new : GatewayState Unit).opened conn).registry 0 := by
  refine ⟨opened_sessions conn, fun code p => iff_of_false ?_ ?_⟩
  · simp [GatewayState.opened, GatewayState.new, Registry.register, Registry.new,
      Registry.indexRoom]
  · rintro ⟨hcode, heq, -⟩
    exact hcode heq

end Listed

namespace Attempts

variable {s s' : Attempts} {conn : Nat} {sid : SessionId} {w code : String}

/-! ## One step -/

theorem checkAlive_spec (s : Attempts) (code w : String) (least' : Option String) :
    ∃ owner cache, (s.checkAlive code w least').1 = { s with
        owner := owner
        ownerCache := cache } ∧
      (s.owner code = some w → ∀ w', (s.checkAlive code w least').2 = some w' →
        owner code = some w') := by
  unfold checkAlive
  split
  · exact ⟨s.owner, s.ownerCache, rfl, fun howner w' hw' => by cases hw'; exact howner⟩
  · dsimp only
    split
    · rename_i w' _
      refine ⟨_, _, rfl, fun _ w'' hw'' => ?_⟩
      cases hw''
      exact Function.update_self ..
    · exact ⟨_, _, rfl, fun _ w' hw' => by cases hw'⟩

/-- **`handleJoinRoom` arrives at the owner**, unless the cache is behind Redis; nothing but the
owner and the cache changes. -/
theorem resolve_spec (s : Attempts) (code : String) (least least' : Option String) :
    ∃ owner cache, (s.resolve code least least').1 = { s with
        owner := owner
        ownerCache := cache } ∧
      ((∀ w, s.ownerCache code = some w → s.owner code = some w) →
        ∀ w, (s.resolve code least least').2 = some w → owner code = some w) := by
  unfold resolve
  cases hresolved : s.resolveRoomOwner code with
  | some w =>
    obtain ⟨owner, cache, hstate, howner⟩ := checkAlive_spec
      { s with ownerCache := Function.update s.ownerCache code (some w) } code w least'
    refine ⟨owner, cache, hstate, fun hcache w' hw' => howner ?_ w' hw'⟩
    rcases Option.or_eq_some_iff.mp hresolved with hw | ⟨-, hw⟩
    · exact hcache w hw
    · exact hw
  | none =>
    cases least with
    | some w =>
      obtain ⟨owner, cache, hstate, howner⟩ := checkAlive_spec (s.assign code w) code w least'
      exact ⟨owner, cache, hstate, fun _ w' hw' => howner (Function.update_self ..) w' hw'⟩
    | none => exact ⟨s.owner, s.ownerCache, rfl, fun _ w hw => by cases hw⟩

/-- The session is where the client is a member, or its first attempt has not been answered. -/
structure Inv (conn : Nat) (sid : SessionId) (s : Attempts) : Prop where
  session : s.gateway.session conn = some sid
  listed : Listed s.gateway.registry sid
  sent : ∀ x ∈ s.sent, x.2.2 = some x.2.1
  member : (s.session sid).roomCode = s.member ∨
    s.member = "" ∧ some (s.session sid).roomCode ∈ s.waiting

theorem Inv.follows (h : s.Inv conn sid) : s.Follows sid := by
  refine ⟨h.sent, fun hwaiting code => ?_⟩
  rw [h.listed.mem_getByRoom]
  rcases h.member with hmember | ⟨-, hwaits⟩
  · rw [← hmember]
    rfl
  · rw [hwaiting] at hwaits
    cases hwaits

theorem Inv.of_fresh (h : s.Fresh conn sid) : s.Inv conn sid := by
  have hsid : sid = 0 := by
    have hsession := h.session
    rw [h.gateway] at hsession
    have hlookup : ((GatewayState.new : GatewayState Unit).opened conn).session conn = some 0 :=
      (Function.update_self ..).trans (Listed.opened_sessions conn)
    exact Option.some.inj (hsession.symm.trans hlookup)
  subst hsid
  refine ⟨h.session, ?_, ?_, .inl ?_⟩
  · rw [h.gateway]
    exact Listed.opened conn
  · rw [h.sent]
    exact fun _ hx => (List.not_mem_nil hx).elim
  · unfold Attempts.session
    rw [h.gateway, h.member]
    rfl

/-- A message for the owner of the room is sent. -/
theorem sent_send (h : ∀ x ∈ s.sent, x.2.2 = some x.2.1) (howner : s.owner code = some w) :
    ∀ x ∈ (s.send code w).sent, x.2.2 = some x.2.1 := by
  intro x hx
  rcases List.mem_append.mp hx with hx | hx
  · exact h x hx
  · obtain rfl := List.mem_singleton.mp hx
    exact howner

/-- The session of an attempt that a stream has taken is listed under the room at once. -/
theorem joinRoom_listed {gw : GatewayState Unit} (hsession : gw.session conn = some sid)
    (h : Listed gw.registry sid) (hroom : (gw.registry.heap sid).roomCode = "")
    (hcode : code ≠ "") :
    Listed (gw.joinRoom conn code w true).registry sid ∧
      ((gw.joinRoom conn code w true).registry.heap sid).roomCode = code := by
  have hupdated := h.updateIdentity (gw.registry.heap sid).playerID code
  have hheap := Registry.updateIdentity_heap h.sessions (gw.registry.heap sid).playerID code sid
  rw [if_pos rfl, if_pos hcode] at hheap
  unfold GatewayState.joinRoom
  simp only [hsession, hroom, hcode, ne_eq, not_true_eq_false, or_self, if_false, if_true]
  refine ⟨hupdated.modify rfl ?_, ?_⟩
  · rw [hheap]
  · rw [Registry.modify_heap, if_pos rfl]

/-- The session of an attempt that is accepted is listed under the room. -/
theorem identity_listed {gw : GatewayState Unit} (h : Listed gw.registry sid) {playerID : String}
    (hname : playerID ≠ "") (hcode : code ≠ "") :
    Listed (gw.identity (gw.registry.heap sid).playerID playerID code).registry sid ∧
      ((gw.identity (gw.registry.heap sid).playerID playerID code).registry.heap sid).roomCode =
        code := by
  have hheap := Registry.updateIdentity_heap h.sessions playerID code sid
  rw [if_pos rfl, if_pos hcode] at hheap
  unfold GatewayState.identity Registry.getByPlayer
  simp only [h.sessions, hname, hcode, false_and, if_false]
  split
  · refine ⟨h.updateIdentity playerID code, ?_⟩
    rw [hheap]
  · rename_i hsame
    exact ⟨h, (not_not.mp (not_or.mp hsame).2).symm⟩

/-- An attempt of a session that has no room yet. -/
theorem Inv.join (h : s.Inv conn sid) (hcode : code ≠ "") (hroom : (s.session sid).roomCode = "")
    (hcache : ∀ w, s.ownerCache code = some w → s.owner code = some w)
    (least least' : Option String) :
    (s.handleJoinRoom conn code least least' true).Inv conn sid := by
  obtain ⟨owner, cache, hstate, howner⟩ := resolve_spec s code least least'
  have hmember : s.member = "" := by
    rcases h.member with hsame | ⟨hmember, -⟩
    · rw [← hsame, hroom]
    · exact hmember
  unfold handleJoinRoom
  generalize s.resolve code least least' = resolved at hstate howner
  obtain ⟨s', o⟩ := resolved
  dsimp only at hstate howner ⊢
  subst hstate
  cases o with
  | none => exact ⟨h.session, h.listed, h.sent, h.member⟩
  | some w =>
    obtain ⟨registry, hgateway⟩ := s.gateway.joinRoom_registry conn code w true
    obtain ⟨hlisted, hcode'⟩ := joinRoom_listed (w := w) h.session h.listed hroom hcode
    refine ⟨?_, hlisted, sent_send h.sent (howner hcache w rfl), .inr ⟨hmember, ?_⟩⟩
    · change (s.gateway.joinRoom conn code w true).session conn = some sid
      rw [hgateway]
      exact h.session
    · change some ((s.gateway.joinRoom conn code w true).registry.heap sid).roomCode ∈ _
      rw [hcode']
      exact List.mem_append_right _ (List.mem_singleton_self _)

/-- More messages wait for an answer. -/
theorem member_append {l : List (Option String)} {roomCode : String}
    (h : roomCode = s.member ∨ s.member = "" ∧ some roomCode ∈ s.waiting) :
    roomCode = s.member ∨ s.member = "" ∧ some roomCode ∈ s.waiting ++ l :=
  h.imp_right fun ⟨hmember, hwaits⟩ => ⟨hmember, List.mem_append_left _ hwaits⟩

/-- **Every step keeps the invariant.** -/
theorem Inv.step (h : s.Inv conn sid) (hstep : Step conn sid (Heeds sid) s s') :
    s'.Inv conn sid := by
  obtain ⟨a, hpossible, hheed, rfl⟩ := hstep
  cases a with
  | naming code least least' ok =>
    unfold Heeds at hheed
    dsimp only at hheed
    change (s.handleNaming conn sid code least least' ok).Inv conn sid
    unfold handleNaming
    split
    · exact h
    rename_i hcode
    split
    · rename_i hroom
      rw [if_pos hroom] at hheed
      obtain ⟨rfl, hcache⟩ := hheed
      exact h.join hcode hroom hcache least least'
    · rename_i hroom
      rw [if_neg hroom] at hheed
      split
      · exact ⟨h.session, h.listed, sent_send h.sent hheed, member_append h.member⟩
      · exact h
  | create w ok =>
    change (s.handleCreate sid w ok).Inv conn sid
    unfold handleCreate
    split
    · split
      · have hlisted : Listed (s.gateway.registry.modify sid fun x =>
            { x with workerID := w }) sid := h.listed.modify rfl rfl
        refine ⟨h.session, hlisted, h.sent, ?_⟩
        have hroom : ((s.gateway.registry.modify sid fun x =>
            { x with workerID := w }).heap sid).roomCode = (s.session sid).roomCode := by
          rw [Registry.modify_heap, if_pos rfl]
          rfl
        have hmember := member_append (l := [none]) h.member
        rw [← hroom] at hmember
        exact hmember
      · exact ⟨h.session, h.listed, h.sent, member_append h.member⟩
    · exact h
  | accepts named target playerID code =>
    obtain ⟨-, -, hname, hcode⟩ := hpossible
    obtain rfl : target = (s.session sid).playerID := hheed
    obtain ⟨registry, hgateway⟩ :=
      s.gateway.identity_registry (s.session sid).playerID playerID code
    obtain ⟨hlisted, hroom⟩ := identity_listed h.listed hname hcode
    refine ⟨?_, hlisted, h.sent, .inl hroom⟩
    change (s.gateway.identity (s.session sid).playerID playerID code).session conn = some sid
    rw [hgateway]
    exact h.session
  | rejects named =>
    refine ⟨h.session, h.listed, h.sent, ?_⟩
    rcases h.member with hsame | ⟨hmember, hwaits⟩
    · exact .inl hsame
    · rcases hheed with rfl | hne
      · exact .inr ⟨hmember, (List.mem_erase_of_ne (Option.some_ne_none _)).mpr hwaits⟩
      · exact absurd hmember hne
  | leaves => exact hheed.elim
  | redis owner ownerCache grpcAlive => exact ⟨h.session, h.listed, h.sent, h.member⟩

/-! ## Runs -/

/-- **Messages that name a room go to its owner, and the session is listed where the client is a
member**, in a run whose first attempt is accepted and whose later ones are for rooms of the same
worker. -/
theorem follows_of_run {s₀ : Attempts} (hfresh : s₀.Fresh conn sid)
    (h : Run conn sid (Heeds sid) s₀ s) : s.Follows sid := by
  have hinv : s.Inv conn sid := by
    induction h with
    | refl => exact .of_fresh hfresh
    | tail _ hstep ih => exact ih.step hstep
  exact hinv.follows

/-- The first connection of a gateway; one worker has the room `A`, and another the room `B`. -/
def twoRooms : Attempts where
  gateway := GatewayState.new.opened 1
  owner code := if code = "A" then some "w1" else if code = "B" then some "w2" else none
  grpcAlive _ := true

/-- The client joins `A`. -/
def joining : Attempts := twoRooms.step 1 0 (.naming "A" none none true)

/-- It has been accepted. -/
def joined : Attempts := joining.step 1 0 (.accepts (some "A") "pending_1" "p1" "A")

/-- It comes back to the room. -/
theorem follows_joined : (joined.step 1 0 (.naming "A" none none true)).Follows 0 ∧
    (joined.step 1 0 (.naming "A" none none true)).sent =
      [("A", "w1", some "w1"), ("A", "w1", some "w1")] := by
  have hfresh : twoRooms.Fresh 1 0 := ⟨rfl, by decide +kernel, rfl, rfl, rfl⟩
  have hjoining : Heeds 0 twoRooms (.naming "A" none none true) := by
    have hroom : (twoRooms.session 0).roomCode = "" := by decide +kernel
    unfold Heeds
    dsimp only
    rw [if_pos hroom]
    exact ⟨rfl, fun _ hw => by cases hw⟩
  have hid : "pending_1" = (joining.session 0).playerID := by decide +kernel
  have hback : Heeds 0 joined (.naming "A" none none true) := by
    have hroom : (joined.session 0).roomCode ≠ "" := by decide +kernel
    unfold Heeds
    dsimp only
    rw [if_neg hroom]
    decide +kernel
  have hrun : Run 1 0 (Heeds 0) twoRooms joining :=
    .single ⟨.naming "A" none none true, trivial, hjoining, rfl⟩
  have hjoined := hrun.tail ⟨.accepts (some "A") "pending_1" "p1" "A",
    ⟨List.mem_singleton_self _, fun _ hx => Option.some.inj hx, by decide, by decide⟩, hid, rfl⟩
  have hagain := hjoined.tail ⟨.naming "A" none none true, trivial, hback, rfl⟩
  exact ⟨follows_of_run hfresh hagain, by decide +kernel⟩

/-- The join of `A` is rejected, and that of `B` goes to the worker of `A`. -/
theorem second_attempt : ¬ ∀ s, Run 1 0 (fun _ _ => True) twoRooms s → s.Follows 0 := by
  intro h
  have hjoining : Run 1 0 (fun _ _ => True) twoRooms joining :=
    .single ⟨.naming "A" none none true, trivial, trivial, rfl⟩
  have hrejected := hjoining.tail ⟨.rejects (some "A"), List.mem_singleton_self _, trivial, rfl⟩
  have hagain := hrejected.tail ⟨.naming "B" none none true, trivial, trivial, rfl⟩
  exact absurd ((h _ hagain).1 ("B", "w1", some "w2") (by decide +kernel)) (by decide)

end Attempts

end Skribbl.System
