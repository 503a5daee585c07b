import Skribbl.Backend.Dispatch
import Skribbl.Backend.ErrorExits
import Skribbl.System.Envelope

/-!
# Which transport answers (`backend/grpc_server.py`)

All players of a gateway share one stream to the worker.  The worker keeps a `VirtualTransport` for
each player id that an envelope has carried, and moves it to the id that the player gets.

* `Stream` — `transports` with the transport objects, and what the gateway knows when it has read
  what is on the stream: the connection of each id.
* `retrieve`, `rebindTransport`, `assign`, `inbound` — `_process_inbound` for one envelope with
  `_rebind_transport`; the manager's answer is given.
* `Stream.Step` — a connection opens, an envelope arrives, or a host, here or elsewhere, admits
  somebody whose transport is on the stream.
* `Heeds` — an envelope comes under the id that the gateway has its connection under, and no answer
  names the player of another connection of the stream, except an identity.

Principal results: `answered_of_run` — then each envelope is answered on the transport of its own
connection and towards its own session; `identifies_answers` — the answer to an identity message
names its sender or nobody; `names_nobody` — only an approval names another player;
`host_answered` — after an approval, the host gets the answers to the player it has admitted.
-/

set_option autoImplicit false
set_option synthInstance.maxSize 100000

namespace Skribbl.System

open Backend Gateway Coro

/-! ## One stream -/

/-- How an envelope was answered: its connection, the connection whose transport was used, and the
connection whose session the gateway has under the target. -/
structure Answered where
  sender : Nat
  used : Nat
  target : Option Nat
  deriving DecidableEq

/-- A stream of a gateway.  `conn` is the connection whose envelope a transport was made for,
`known` the connection that the registry of the gateway has under an id, and `held` the connections
that have gone by an id: what they have sent under it may still be on its way. -/
structure Stream where
  transports : Ident → Option WsId := fun _ => none
  transport : WsId → Transport := fun _ => {}
  next : WsId := 0
  conn : WsId → Nat := fun _ => 0
  known : Ident → Option Nat := fun _ => none
  held : Ident → List Nat := fun _ => []
  answers : List Answered := []

/-- An answer to an identity message: it identifies a player or names none. -/
abbrev IdentityAnswer := { m : Message // m.identifies = true ∨ m.payloadPlayerId = none }

/-- What the dispatch of an envelope comes to. -/
inductive Inbound where
  /-- `create_room`, `join_room` or `reconnect`, with the manager's answer. -/
  | identity (result : IdentityAnswer)
  /-- A message whose branch returns the manager's answer. -/
  | returned (result : Message)
  /-- Any other message; it may be answered, but nothing is returned. -/
  | other
  /-- The dispatch raises, and the error goes to the player id of the envelope. -/
  | raised

namespace Stream

variable {s s' : Stream} {q : Nat} {p u : Ident} {rc : String} {c : Nat} {t : WsId} {m : Inbound}

/-- A transport's room code, unless it has one. -/
def setRoomCode (s : Stream) (t : WsId) (code : String) : Stream :=
  if code ≠ "" ∧ (s.transport t).roomCode = "" then
    { s with
      transport := Function.update s.transport t { s.transport t with roomCode := code } }
  else s

/-- The transport for a player id is made or retrieved; `q` is the queue of the stream. -/
def retrieve (s : Stream) (q : Nat) (p : Ident) (rc : String) (c : Nat) : Stream × WsId :=
  (s.transports p).elim
    ({ s with
        transports := Function.update s.transports p (some s.next)
        transport := Function.update s.transport s.next ⟨some q, p, rc⟩
        conn := Function.update s.conn s.next c
        next := s.next + 1 }, s.next)
    fun t => (s.setRoomCode t rc, t)

/-- The gateway reads, under the id of `t`, that its session is now known as `u`: the former id goes
(`UpdateIdentity`). -/
def learn (s : Stream) (t : WsId) (u : Ident) : Stream :=
  (s.known (s.transport t).playerId).elim s fun c => { s with
    known := Function.update (Function.update s.known (s.transport t).playerId none) u (some c)
    held := Function.update s.held u (c :: s.held u) }

/-- `_rebind_transport`. -/
def rebindTransport (s : Stream) (t : WsId) (result : Message) : Stream :=
  if result.isError then s
  else
    let s := s.setRoomCode t (result.payloadRoomCode.getD "")
    result.payloadPlayerId.elim s fun u =>
      if u = (s.transport t).playerId then s
      else { s with
        transport := Function.update s.transport t { s.transport t with playerId := u }
        transports := Function.update s.transports u (some t) }

/-- What follows the dispatch in `_process_inbound`: the id in the answer is entered as well. -/
def assign (s : Stream) (p : Ident) (rc : String) (t : WsId) (result : Message) : Stream :=
  let s := result.payloadPlayerId.elim s fun u =>
    if u = p then s else { s with transports := Function.update s.transports u (some t) }
  s.setRoomCode t (result.payloadRoomCode.getD rc)

/-- An answer goes out on the transport. -/
def reply (s : Stream) (c : Nat) (t : WsId) : Stream :=
  { s with answers := s.answers ++ [⟨c, s.conn t, s.known (s.transport t).playerId⟩] }

/-- `_process_inbound` for an envelope of the connection `c`.  An answer to an identity message goes
out first, and the gateway reads it before all that follows. -/
def inbound (s : Stream) (q : Nat) (p : Ident) (rc : String) (c : Nat) : Inbound → Stream
  | .identity result =>
    let (s, t) := s.retrieve q p rc c
    let s := s.reply c t
    let s := if result.val.identifies then result.val.payloadPlayerId.elim s (s.learn t) else s
    (s.rebindTransport t result.val).assign p rc t result.val
  | .returned result =>
    let (s, t) := s.retrieve q p rc c
    (s.reply c t).assign p rc t result
  | .other =>
    let (s, t) := s.retrieve q p rc c
    s.reply c t
  | .raised =>
    let (s, t) := s.retrieve q p rc c
    { s with answers := s.answers ++ [⟨c, s.conn t, s.known p⟩] }

/-- The transport `t` goes by the id `u` from now on. -/
def named (s : Stream) (t : WsId) (u : Ident) : Stream :=
  { s with transport := Function.update s.transport t { s.transport t with playerId := u } }

/-- `respond_join_request` has admitted the player `u` on the transport `t`. -/
def admitted (s : Stream) (t : WsId) (u : Ident) : Stream := (s.learn t u).named t u

/-- The envelope comes under the id that the gateway has its connection under, when it has read what
was sent to it so far; and no answer names the player of another connection, unless it identifies
the sender. -/
def Heeds (s : Stream) (p : Ident) (c : Nat) (m : Inbound) : Prop :=
  s.known p = some c ∧
    match m with
    | .returned result => ∀ u, result.payloadPlayerId = some u → u = p ∨ s.known u = none
    | _ => True

/-- One step of a stream whose envelopes meet a condition. -/
inductive Step (q : Nat) (cond : Stream → Ident → Nat → Inbound → Prop) : Stream → Stream → Prop
  /-- The gateway numbers a new connection. -/
  | opens (s : Stream) (p : Ident) (c : Nat) : s.held p = [] → s.transports p = none →
    Step q cond s { s with
      known := Function.update s.known p (some c)
      held := Function.update s.held p [c] }
  /-- An envelope arrives from a connection, under an id that it has gone by. -/
  | envelope (s : Stream) (p : Ident) (rc : String) (c : Nat) (m : Inbound) : c ∈ s.held p →
    cond s p c m → Step q cond s (s.inbound q p rc c m)
  /-- A host admits a new player whose transport is on this stream. -/
  | admits (s : Stream) (t : WsId) (u : Ident) : t < s.next → s.known u = none →
    s.transports u = none → Step q cond s (s.admitted t u)

/-- A run: any number of steps. -/
def Run (q : Nat) (cond : Stream → Ident → Nat → Inbound → Prop) : Stream → Stream → Prop :=
  Relation.ReflTransGen (Step q cond)

/-- Each envelope was answered on the transport of its own connection and towards its own
session. -/
def Correct (s : Stream) : Prop := ∀ x ∈ s.answers, x.used = x.sender ∧ x.target = some x.sender

/-- The transport of an id that the gateway knows is that of its connection and goes by that id. -/
structure Inv (s : Stream) : Prop where
  bound : ∀ p t, s.transports p = some t → t < s.next
  own : ∀ p t c, s.transports p = some t → s.known p = some c →
    s.conn t = c ∧ (s.transport t).playerId = p
  correct : s.Correct

/-! ## One envelope -/

@[simp] theorem setRoomCode_transports (s : Stream) (t : WsId) (code : String) :
    (s.setRoomCode t code).transports = s.transports := by unfold setRoomCode; split <;> rfl

@[simp] theorem setRoomCode_next (s : Stream) (t : WsId) (code : String) :
    (s.setRoomCode t code).next = s.next := by unfold setRoomCode; split <;> rfl

@[simp] theorem setRoomCode_conn (s : Stream) (t : WsId) (code : String) :
    (s.setRoomCode t code).conn = s.conn := by unfold setRoomCode; split <;> rfl

@[simp] theorem setRoomCode_known (s : Stream) (t : WsId) (code : String) :
    (s.setRoomCode t code).known = s.known := by unfold setRoomCode; split <;> rfl

@[simp] theorem setRoomCode_answers (s : Stream) (t : WsId) (code : String) :
    (s.setRoomCode t code).answers = s.answers := by unfold setRoomCode; split <;> rfl

@[simp] theorem setRoomCode_playerId (s : Stream) (t t' : WsId) (code : String) :
    ((s.setRoomCode t code).transport t').playerId = (s.transport t').playerId := by
  unfold setRoomCode
  split
  · change (Function.update s.transport t _ t').playerId = _
    rw [Function.update_apply]
    split
    · rename_i h
      rw [h]
    · rfl
  · rfl

theorem Inv.setRoomCode (h : s.Inv) (t : WsId) (code : String) : (s.setRoomCode t code).Inv where
  bound p t' := by simpa using h.bound p t'
  own p t' c := by simpa using h.own p t' c
  correct := by
    have := h.correct
    unfold Correct at this ⊢
    simpa using this

@[simp] theorem reply_next (s : Stream) (c : Nat) (t : WsId) : (s.reply c t).next = s.next := rfl

/-- A transport is entered under an id. -/
theorem Inv.bound_update (h : s.Inv) (ht : t < s.next) {p' : Ident} {t' : WsId}
    (ht' : Function.update s.transports u (some t) p' = some t') : t' < s.next := by
  rw [Function.update_apply] at ht'
  split_ifs at ht' with hp'
  · cases ht'
    exact ht
  · exact h.bound p' t' ht'

/-- What is known of a transport that an envelope of connection `c` has been given. -/
structure Given (s : Stream) (p : Ident) (c : Nat) (t : WsId) : Prop where
  inv : s.Inv
  lt : t < s.next
  conn : s.conn t = c
  named : (s.transport t).playerId = p
  known : s.known p = some c

/-- **The transport that is retrieved belongs to the connection**, and goes by its id. -/
theorem Inv.retrieve (h : s.Inv) (hp : s.known p = some c) :
    (s.retrieve q p rc c).1.Given p c (s.retrieve q p rc c).2 ∧
      (s.retrieve q p rc c).1.known = s.known := by
  unfold Stream.retrieve
  cases ht : s.transports p with
  | some t =>
    obtain ⟨hconn, hnamed⟩ := h.own p t c ht hp
    have hlt : t < s.next := h.bound p t ht
    refine ⟨⟨h.setRoomCode t rc, ?_, ?_, ?_, ?_⟩, setRoomCode_known s t rc⟩ <;> simpa
  | none =>
    refine ⟨⟨⟨fun p' t' ht' => ?_, fun p' t' c' ht' hc' => ?_, h.correct⟩, Nat.lt_succ_self _,
      Function.update_self .., by simp, hp⟩, rfl⟩
    · simp only [Option.elim_none, Function.update_apply] at ht'
      split_ifs at ht' with hp'
      · cases ht'
        exact Nat.lt_succ_self _
      · exact Nat.lt_succ_of_lt (h.bound p' t' ht')
    · simp only [Option.elim_none, Function.update_apply] at ht'
      split_ifs at ht' with hp'
      · cases ht'
        subst hp'
        exact ⟨(Function.update_self ..).trans (Option.some.inj (hp.symm.trans hc')), by simp⟩
      · have hne : t' ≠ s.next := (h.bound p' t' ht').ne
        simpa [Function.update_of_ne hne] using h.own p' t' c' ht' hc'

/-- An answer on the transport goes to its own session. -/
theorem Given.reply (h : s.Given p c t) : (s.reply c t).Given p c t where
  inv :=
    { bound := h.inv.bound
      own := h.inv.own
      correct := fun x hx => by
        rcases List.mem_append.mp hx with hx | hx
        · exact h.inv.correct x hx
        · rw [List.mem_singleton.mp hx, h.named]
          exact ⟨h.conn, h.known⟩ }
  lt := h.lt
  conn := h.conn
  named := h.named
  known := h.known

/-- The id in an answer is entered, if it is not on the stream. -/
theorem Inv.assign (h : s.Inv) (ht : t < s.next) {result : Message}
    (hnames : ∀ u, result.payloadPlayerId = some u → u ≠ p → ∀ c, s.known u = some c →
      s.conn t = c ∧ (s.transport t).playerId = u) : (s.assign p rc t result).Inv := by
  unfold Stream.assign
  refine Inv.setRoomCode ?_ _ _
  cases hu : result.payloadPlayerId with
  | none => exact h
  | some u =>
    rw [Option.elim_some]
    split_ifs with hsame
    · exact h
    · refine ⟨fun _ _ ht' => h.bound_update ht ht', fun p' t' c' ht' hc' => ?_, h.correct⟩
      simp only [Function.update_apply] at ht'
      split_ifs at ht' with hp'
      · cases ht'
        subst hp'
        exact hnames p' hu hsame c' hc'
      · exact h.own p' t' c' ht' hc'

theorem learn_known (hknown : s.known (s.transport t).playerId = some c) :
    (s.learn t u).known =
      Function.update (Function.update s.known (s.transport t).playerId none) u (some c) := by
  unfold learn
  rw [hknown]
  rfl

@[simp] theorem learn_transports (s : Stream) (t : WsId) (u : Ident) :
    (s.learn t u).transports = s.transports := by
  unfold learn; cases s.known (s.transport t).playerId <;> rfl

@[simp] theorem learn_transport (s : Stream) (t : WsId) (u : Ident) :
    (s.learn t u).transport = s.transport := by
  unfold learn; cases s.known (s.transport t).playerId <;> rfl

@[simp] theorem learn_conn (s : Stream) (t : WsId) (u : Ident) : (s.learn t u).conn = s.conn := by
  unfold learn; cases s.known (s.transport t).playerId <;> rfl

@[simp] theorem learn_next (s : Stream) (t : WsId) (u : Ident) : (s.learn t u).next = s.next := by
  unfold learn; cases s.known (s.transport t).playerId <;> rfl

@[simp] theorem learn_answers (s : Stream) (t : WsId) (u : Ident) :
    (s.learn t u).answers = s.answers := by
  unfold learn; cases s.known (s.transport t).playerId <;> rfl

/-- **When a transport takes a new id, no other entry of it is known any longer**: the gateway has
dropped the former id. -/
theorem Inv.own_learn (h : s.Inv) {p' : Ident} {t' : WsId} {c' : Nat} (hp' : p' ≠ u)
    (ht' : s.transports p' = some t') (hc' : (s.learn t u).known p' = some c') :
    s.conn t' = c' ∧ ((s.named t u).transport t').playerId = p' := by
  have hknown : s.known p' = some c' ∧ p' ≠ (s.transport t).playerId := by
    cases hold : s.known (s.transport t).playerId with
    | none =>
      have hc' : s.known p' = some c' := by
        unfold learn at hc'
        rwa [hold] at hc'
      refine ⟨hc', fun hsame => ?_⟩
      rw [hsame, hold] at hc'
      cases hc'
    | some c =>
      rw [learn_known hold, Function.update_of_ne hp', Function.update_apply] at hc'
      split_ifs at hc' with hsame
      exact ⟨hc', hsame⟩
  obtain ⟨hconn, hnamed⟩ := h.own p' t' c' ht' hknown.1
  have hne : t' ≠ t := fun hsame => hknown.2 (hsame ▸ hnamed).symm
  exact ⟨hconn, by simpa [named, Function.update_of_ne hne] using hnamed⟩

/-- A host has admitted a player that no transport is entered for. -/
theorem Inv.admitted (h : s.Inv) (hnew : s.transports u = none) : (s.admitted t u).Inv where
  bound p' t' ht' := by
    rw [show (s.admitted t u).next = s.next from learn_next ..]
    exact h.bound p' t' (by simpa [Stream.admitted, named] using ht')
  own p' t' c' ht' hc' := by
    have ht' : s.transports p' = some t' := by simpa [Stream.admitted, named] using ht'
    have hp' : p' ≠ u := fun hsame => by
      rw [hsame, hnew] at ht'
      cases ht'
    simpa [Stream.admitted, named] using h.own_learn (t := t) hp' ht' hc'
  correct x hx := h.correct x (by simpa [Stream.admitted, named] using hx)

/-- A connection is numbered. -/
theorem Inv.opens (h : s.Inv) (hnew : s.transports p = none) :
    Inv { s with
      known := Function.update s.known p (some c)
      held := Function.update s.held p [c] } where
  bound := h.bound
  own p' t' c' ht' hc' := by
    have hp' : p' ≠ p := fun hsame => by
      rw [hsame, hnew] at ht'
      cases ht'
    simp only [Function.update_of_ne hp'] at hc'
    exact h.own p' t' c' ht' hc'
  correct := h.correct

/-- **An identity message rebinds the transport of its sender.** -/
theorem Given.identified (h : s.Given p c t) {result : Message} (hok : result.isError = false)
    (hu : result.payloadPlayerId = some u) :
    (((s.learn t u).rebindTransport t result).assign p rc t result).Inv := by
  have hold : s.known (s.transport t).playerId = some c := by rw [h.named, h.known]
  unfold rebindTransport
  rw [hok, hu, if_neg (by simp), Option.elim_some, setRoomCode_playerId, learn_transport]
  split_ifs with hsame
  · -- the transport goes by the id already, and the gateway learns nothing
    have hup : u = p := hsame.trans h.named
    have hlearn : (s.learn t u).known = s.known := by
      rw [learn_known hold, ← hsame, Function.update_idem, ← hold, ← hsame, Function.update_eq_self]
    refine Inv.assign (Inv.setRoomCode ⟨?_, ?_, ?_⟩ _ _) (by simpa using h.lt) fun u' hu' hne => ?_
    · simpa using h.inv.bound
    · simpa [hlearn] using h.inv.own
    · exact fun x hx => h.inv.correct x (by simpa using hx)
    · cases hu.symm.trans hu'
      exact absurd hup hne
  · have hnew : (s.learn t u).known u = some c := by rw [learn_known hold, Function.update_self]
    refine Inv.assign ⟨fun p' t' ht' => ?_, fun p' t' c' ht' hc' => ?_, fun x hx => ?_⟩ ?_
      fun u' hu' _ c' hc' => ?_
    · simp only [setRoomCode_transports, learn_transports] at ht'
      simpa using h.inv.bound_update h.lt ht'
    · simp only [setRoomCode_transports, learn_transports, setRoomCode_known] at ht' hc'
      by_cases hp' : p' = u
      · subst hp'
        rw [Function.update_self] at ht'
        cases ht'
        cases hnew.symm.trans hc'
        exact ⟨by simpa using h.conn, by simp⟩
      · rw [Function.update_of_ne hp'] at ht'
        obtain ⟨hconn, hnamed⟩ := h.inv.own_learn (t := t) hp' ht' hc'
        refine ⟨by simpa using hconn, ?_⟩
        by_cases ht : t' = t
        · subst ht
          simpa [Stream.named] using hnamed
        · simpa [Stream.named, Function.update_of_ne ht] using hnamed
    · exact h.inv.correct x (by simpa using hx)
    · simpa using h.lt
    · cases hu.symm.trans hu'
      simp only [setRoomCode_known] at hc'
      cases hnew.symm.trans hc'
      exact ⟨by simpa using h.conn, by simp⟩

/-- **One envelope keeps the invariant.** -/
theorem Inv.inbound (h : s.Inv) (hheed : s.Heeds p c m) : (s.inbound q p rc c m).Inv := by
  obtain ⟨hp, hnames⟩ := hheed
  obtain ⟨hgiven, hsame⟩ : (s.retrieve q p rc c).1.Given p c (s.retrieve q p rc c).2 ∧ _ :=
    h.retrieve hp
  have hreplied := hgiven.reply
  cases m with
  | other => exact hreplied.inv
  | raised =>
    refine ⟨hgiven.inv.bound, hgiven.inv.own, fun x hx => ?_⟩
    rcases List.mem_append.mp hx with hx | hx
    · exact hgiven.inv.correct x hx
    · rw [List.mem_singleton.mp hx]
      exact ⟨hgiven.conn, hgiven.known⟩
  | returned result =>
    refine hreplied.inv.assign hgiven.lt fun u hu hne c' hc' => ?_
    have hc' : s.known u = some c' := by rw [← hsame]; exact hc'
    rcases hnames u hu with hu | hu
    · exact absurd hu hne
    · rw [hu] at hc'
      cases hc'
  | identity result =>
    obtain ⟨result, hresult⟩ := result
    by_cases hid : result.identifies = true
    · obtain ⟨⟨u, hu⟩, -⟩ := Message.payload_of_identifies hid
      unfold Stream.inbound
      simp only [hid, if_true, hu, Option.elim_some]
      exact hreplied.identified (Message.isError_of_identifies hid) hu
    · have hnobody := hresult.resolve_left hid
      unfold Stream.inbound
      simp only [hid]
      refine Inv.assign ?_ ?_ fun u hu => ?_
      · unfold rebindTransport
        split
        · exact hreplied.inv
        · simp only [hnobody, Option.elim_none]
          exact hreplied.inv.setRoomCode _ _
      · unfold rebindTransport
        split
        · exact hgiven.lt
        · simpa [hnobody] using hgiven.lt
      · rw [hnobody] at hu
        cases hu

/-- **One step keeps the invariant.** -/
theorem Inv.step (h : s.Inv) (hstep : Step q Heeds s s') : s'.Inv := by
  cases hstep with
  | opens p c hheld hnew => exact h.opens hnew
  | envelope p rc c m hheld hheed => exact h.inbound hheed
  | admits t u ht hknown hnew => exact h.admitted hnew

theorem inv_empty : ({} : Stream).Inv where
  bound _ _ h := nomatch h
  own _ _ _ h := nomatch h
  correct _ h := nomatch h

/-- **Each reply goes to the requester**, in a run that heeds whom its answers name. -/
theorem answered_of_run (h : Run q Heeds {} s) : s.Correct := by
  have hinv : s.Inv := by
    induction h with
    | refl => exact inv_empty
    | tail _ hstep ih => exact ih.step hstep
  exact hinv.correct

/-- The answer to a host's `create_room`. -/
def hostCreated : IdentityAnswer :=
  ⟨.roomCreated "AB12CD" (.uuid 1) [] (Backend.serializeConfig {}), .inl rfl⟩

/-- Two connections are numbered, and the first creates a room. -/
def created : Stream :=
  let s : Stream := {
    known := Function.update (fun _ => none) (.other "pending_1") (some 1)
    held := Function.update (fun _ => []) (.other "pending_1") [1] }
  let s : Stream := { s with
    known := Function.update s.known (.other "pending_2") (some 2)
    held := Function.update s.held (.other "pending_2") [2] }
  s.inbound 0 (.other "pending_1") "" 1 (.identity hostCreated)

theorem run_created {cond : Stream → Ident → Nat → Inbound → Prop}
    (h : ∀ s, s.known (.other "pending_1") = some 1 →
      cond s (.other "pending_1") 1 (.identity hostCreated)) : Run 0 cond {} created := by
  refine .tail (.tail (.single (.opens {} (.other "pending_1") 1 rfl rfl))
    (.opens _ (.other "pending_2") 2 ?_ rfl))
    (.envelope _ (.other "pending_1") "" 1 _ ?_ (h _ ?_))
  · decide
  · decide
  · decide

/-- The host is answered again under its new id. -/
theorem answered_of_created : (created.inbound 0 (.uuid 1) "AB12CD" 1 .other).Correct :=
  answered_of_run (.tail (run_created fun s hs => ⟨hs, trivial⟩)
    (.envelope _ (.uuid 1) "AB12CD" 1 .other (by decide) ⟨by decide, trivial⟩))

/-- The second connection asks to join and the host admits it. -/
def approved : Stream :=
  let pending : IdentityAnswer := ⟨.joinRequestPending (.uuid 2) "AB12CD" "", .inr rfl⟩
  let resolved : Message := .joinRequestResolved (.uuid 2) "accepted_player" none (some (.uuid 3))
  let s := created.inbound 0 (.other "pending_2") "AB12CD" 2 (.identity pending)
  (s.admitted 1 (.uuid 3)).inbound 0 (.uuid 1) "AB12CD" 1 (.returned resolved)

/-- After an approval, the host gets the answers to the player it has admitted. -/
theorem host_answered : ¬ ∀ s, Run 0 (fun _ _ _ _ => True) {} s → s.Correct := by
  intro h
  have hcreated : Run 0 (fun _ _ _ _ => True) {} created := run_created fun _ _ => trivial
  have hasked := hcreated.tail
    (Step.envelope _ (.other "pending_2") "AB12CD" 2
      (.identity ⟨.joinRequestPending (.uuid 2) "AB12CD" "", .inr rfl⟩) (by decide) trivial)
  have hadmitted := hasked.tail (.admits _ 1 (.uuid 3) (by decide) (by decide) (by decide))
  have happroved := hadmitted.tail (.envelope _ (.uuid 1) "AB12CD" 1
    (.returned (.joinRequestResolved (.uuid 2) "accepted_player" none (some (.uuid 3))))
    (by decide) trivial)
  have hsent := happroved.tail (.envelope _ (.uuid 3) "AB12CD" 2 .other (by decide) trivial)
  have hwrong : (⟨2, 1, some 1⟩ : Answered) ∈
    (approved.inbound 0 (.uuid 3) "AB12CD" 2 .other).answers := by decide
  have hcorrect := h _ hsent _ hwrong
  exact absurd hcorrect.1 (by decide)

end Stream

/-! ## What the answers name -/

/-- The message names nobody. -/
class Nameless (m : Message) : Prop where
  out : m.payloadPlayerId = none

instance (a b : String) : Nameless (.error a b) := ⟨rfl⟩

instance (a : RequestId) (b c : String) : Nameless (.joinRequestPending a b c) := ⟨rfl⟩

instance (a : RequestId) (b : String) (c : Option String) :
    Nameless (.joinRequestResolved a b c none) := ⟨rfl⟩

instance (a : Option RequestId) (b : String) :
    Nameless (.spectatorRoleRequestResolved a b none) := ⟨rfl⟩

instance (a : RequestId) (b : Nat) : Nameless (.becomePlayerRequestPending a b) := ⟨rfl⟩

/-- The answers of the call name nobody. -/
abbrev NamesNobody (c : M Message) : Prop := Always (fun m : Message => m.payloadPlayerId = none) c

instance (m : Message) [h : Nameless m] : NamesNobody (Pure.pure m : M Message) := ⟨fun _ => h.out⟩

/-- The answers of the call identify a player or name nobody. -/
abbrev Identifies (c : M Message) : Prop :=
  Always (fun m : Message => m.identifies = true ∨ m.payloadPlayerId = none) c

instance (m : Message) [h : Nameless m] : Identifies (Pure.pure m : M Message) :=
  ⟨fun _ => .inr h.out⟩

instance (a : String) (b : PlayerId) (c : List PlayerInfo) (d : ConfigInfo) :
    Identifies (Pure.pure (.roomCreated a b c d) : M Message) := ⟨fun _ => .inl rfl⟩

instance (a : JoinedInfo) : Identifies (Pure.pure (.roomJoined a) : M Message) :=
  ⟨fun _ => .inl rfl⟩

instance (a : String) (b : PlayerId) (c : Int) (d : Bool) (e : List PlayerInfo) (f : ConfigInfo)
    (g : RoomState) (i : Nat) (j : PlayerId) (k : Option PlayerId) (l : List Char) :
    Identifies (Pure.pure (.reconnected a b c d e f g i j k l) : M Message) := ⟨fun _ => .inl rfl⟩

/-- **An answer that is no approval names nobody.** -/
theorem names_nobody (p : PlayerId) (requestId : RequestId) :
    NamesNobody (respondJoinRequest p requestId "decline") ∧
      NamesNobody (respondSpectatorRoleRequest p requestId "decline") ∧
      NamesNobody (requestBecomePlayer p) ∧
      ∀ requestId, NamesNobody (cancelSpectatorRoleRequest p requestId) := by
  refine ⟨?_, ?_, ?_, fun requestId => ?_⟩
  · unfold respondJoinRequest
    simp only [if_true]
    infer_instance
  · unfold respondSpectatorRoleRequest
    simp only [if_true]
    infer_instance
  · unfold requestBecomePlayer
    dsimp only
    infer_instance
  · unfold cancelSpectatorRoleRequest
    dsimp only
    infer_instance

instance (r : RoomId) (code name : String) (ws : WsId) (avatar : Option String) :
    Identifies (requestJoin r code name ws avatar) := by
  unfold requestJoin requestJoin.hostUnavailable
  dsimp only
  infer_instance

theorem passwordError_payloadPlayerId {env : Env} {config : GameConfig} {password : Option String}
    {m : Message} (h : env.passwordError config password = some m) : m.payloadPlayerId = none := by
  unfold Env.passwordError at h
  obtain ⟨expected, -, h⟩ := Option.bind_eq_some_iff.mp h
  dsimp only at h
  split_ifs at h <;> cases h <;> rfl

/-- The answers to `create_room` and `reconnect`, and to a `join_room` of a local room. -/
theorem identifies_answers (env : Env) (draws : List String) (r : RoomId) (name code : String)
    (ws : WsId) (avatar password : Option String) (maxPlayers : Option Int) (asSpectator : Bool) :
    Identifies (createRoom env draws name ws avatar password maxPlayers) ∧
      Identifies (handleReconnect name code ws avatar) ∧
      Identifies (joinRoomLocal env r code name ws avatar asSpectator password) := by
  refine ⟨?_, ?_, ?_⟩
  · unfold createRoom
    dsimp only
    infer_instance
  · unfold handleReconnect
    dsimp only
    infer_instance
  · unfold joinRoomLocal
    refine ⟨fun s => ?_⟩
    rw [returns_bind, returns_read, returns_elim]
    refine ⟨fun _ => Always.out s, fun m hm => ?_⟩
    exact .inr (passwordError_payloadPlayerId hm)

end Skribbl.System
