import Mathlib.Data.List.TakeWhile
import Skribbl.Gateway.SessionIndex

/-!
# The read loop of a client (`handleGRPCPath`, `HandleClientMessage`, `Send`)

`Send` drops a lossy message when the buffer of the stream is full.  It reports that as an error,
`HandleClientMessage` returns every error of `Send`, and the read loop ends on any error.

* `send`, `handleClientMessage`, `ReadState.round` — the three layers; a round reads one message,
  and says what `Send` meets in the stream meanwhile.
* `Round.sheds` — the message of the round is dropped to protect the stream.
* `ReadState.Spares` — such a drop ends nothing, and all accepted messages are forwarded in order.

Principal result: `spares_iff` — so it is exactly if the first message that is not accepted, if
there is one, is not dropped for load.
-/

set_option autoImplicit false

namespace Skribbl.Gateway

/-- `GameMessage`. -/
structure GameMessage where
  playerId : String
  roomCode : String
  messageType : String
  payload : String
  deriving DecidableEq

/-- `RoomStream.state`. -/
inductive StreamState where
  | healthy
  | reconnecting
  | dead
  deriving DecidableEq

/-- What a call of `Send` meets: the state of the stream that it finds, the buffer when it tries to
send, and the buffer at the end of the two seconds in which it may wait. -/
structure Meets where
  found : Option StreamState
  first : List GameMessage
  later : List GameMessage

/-- `isLossyClientMessage`. -/
def isLossyClientMessage (msgType : String) : Bool :=
  msgType = "stroke" || msgType = "draw_stroke" || msgType = "cursor_move"

/-- `Send`; the result is what has been put into `sendCh`. -/
def send (bufferSize : Nat) (meets : Meets) (msg : GameMessage) :
    Except String (List GameMessage) :=
  match meets.found with
  | none => .error "no stream"
  | some .healthy =>
    if meets.first.length < bufferSize then .ok [msg]
    else if isLossyClientMessage msg.messageType then .error "send buffer full"
    else if meets.later.length < bufferSize then .ok [msg]
    else .error "send buffer full (timeout)"
  | some _ => .error "stream is unhealthy"

/-- `HandleClientMessage`, for a message with the given `type`, if it is JSON; `handshake` is what a
client without a room may do. -/
def handleClientMessage (bufferSize : Nat) (handshake : String → Except String (List GameMessage))
    (session : IndexedSession) (rawMsg : String) (type : Option String) (meets : Meets) :
    Except String (List GameMessage) :=
  match type with
  | none => .error "INVALID_JSON"
  | some messageType =>
    if session.roomCode = "" then handshake messageType
    else send bufferSize meets ⟨session.playerID, session.roomCode, messageType, rawMsg⟩

/-- What one round of the read loop reads. -/
inductive Round where
  | closed
  | binary (data : String)
  | text (rawMsg : String) (type : Option String) (meets : Meets)

/-- The connection of a client: the registry, its session, whether its read loop is running, what
`Send` has accepted from it, what was fanned out to the others, and what the worker was told when it
ended. -/
structure ReadState where
  registry : SessionRegistry
  sid : SessionId
  running : Bool := true
  forwarded : List GameMessage := []
  relayed : List String := []
  notices : List GameMessage := []

namespace ReadState

/-- The client's session. -/
def session (s : ReadState) : IndexedSession := s.registry.heap s.sid

/-- The loop returns: what `handleGRPCPath` deferred, with `handleClientDisconnect`. -/
def teardown (s : ReadState) : ReadState :=
  { s with
    running := false
    registry := s.registry.unregister s.session.playerID
    notices := if s.session.playerID = "" ∨ s.session.roomCode = "" then s.notices
      else s.notices ++ [⟨s.session.playerID, s.session.roomCode, "client_disconnected", ""⟩] }

/-- One round of the read loop in `handleGRPCPath`. -/
def round (bufferSize : Nat) (handshake : String → Except String (List GameMessage))
    (s : ReadState) (x : Round) : ReadState :=
  if s.running then
    match x with
    | .closed => s.teardown
    | .binary data =>
      if s.session.roomCode ≠ "" then { s with relayed := s.relayed ++ [data] } else s
    | .text rawMsg type meets =>
      match handleClientMessage bufferSize handshake s.session rawMsg type meets with
      | .ok msgs => { s with forwarded := s.forwarded ++ msgs }
      | .error _ => s.teardown
  else s

/-- The read loop. -/
def readLoop (bufferSize : Nat) (handshake : String → Except String (List GameMessage))
    (s : ReadState) (xs : List Round) : ReadState := xs.foldl (round bufferSize handshake) s

/-- The session is stored under its name. -/
def Registered (s : ReadState) : Prop := s.registry.sessions s.session.playerID = some s.sid

end ReadState

/-! ## What a round brings -/

namespace Round

/-- The loop goes on after the round: nothing was to be forwarded, or there was room for it. -/
def accepted (bufferSize : Nat) : Round → Bool
  | .closed => false
  | .binary _ => true
  | .text _ none _ => false
  | .text _ (some messageType) meets => meets.found = some .healthy &&
    (meets.first.length < bufferSize ||
      !isLossyClientMessage messageType && meets.later.length < bufferSize)

/-- A lossy message meets a full buffer. -/
def sheds (bufferSize : Nat) : Round → Bool
  | .text _ (some messageType) meets => isLossyClientMessage messageType &&
    meets.found = some .healthy && bufferSize ≤ meets.first.length
  | _ => false

/-- What is to be forwarded. -/
def envelope (session : IndexedSession) : Round → List GameMessage
  | .text rawMsg (some messageType) _ =>
    [⟨session.playerID, session.roomCode, messageType, rawMsg⟩]
  | _ => []

theorem not_accepted_of_sheds {bufferSize : Nat} {x : Round} (h : x.sheds bufferSize = true) :
    x.accepted bufferSize = false := by
  cases x with
  | closed => rfl
  | binary data => cases h
  | text rawMsg type meets =>
    cases type with
    | none => rfl
    | some messageType =>
      simp only [sheds, Bool.and_eq_true, decide_eq_true_eq] at h
      simp [accepted, h.1.1, h.2]

end Round

namespace ReadState

variable {bufferSize : Nat} {handshake : String → Except String (List GameMessage)} {s : ReadState}
  {x : Round} {xs : List Round}

/-- A drop ends neither the loop nor the session, and whatever is accepted is forwarded in order. -/
structure Spares (bufferSize : Nat) (handshake : String → Except String (List GameMessage))
    (s : ReadState) (xs : List Round) : Prop where
  goesOn : ∀ pre x post, xs = pre ++ x :: post → (s.readLoop bufferSize handshake pre).running →
    x.sheds bufferSize → (s.readLoop bufferSize handshake (pre ++ [x])).running ∧
      (s.readLoop bufferSize handshake (pre ++ [x])).Registered
  forwarded : (s.readLoop bufferSize handshake xs).forwarded = s.forwarded ++
    ((xs.takeWhile fun x => x.accepted bufferSize || x.sheds bufferSize).filter
      (·.accepted bufferSize)).flatMap (·.envelope s.session)

/-! ## One round -/

/-- `Send` accepts a message if there is a stream with room for it. -/
theorem handleClientMessage_accepted {session : IndexedSession} (hroom : session.roomCode ≠ "")
    {rawMsg : String} {type : Option String} {meets : Meets}
    (h : (Round.text rawMsg type meets).accepted bufferSize = true) :
    handleClientMessage bufferSize handshake session rawMsg type meets =
      .ok ((Round.text rawMsg type meets).envelope session) := by
  cases type with
  | none => cases h
  | some messageType =>
    simp only [Round.accepted, Bool.and_eq_true, Bool.or_eq_true, Bool.not_eq_true',
      decide_eq_true_eq] at h
    obtain ⟨hfound, hspace⟩ := h
    simp only [handleClientMessage, hroom, if_false, send, hfound, Round.envelope]
    by_cases hfirst : meets.first.length < bufferSize
    · rw [if_pos hfirst]
    · obtain ⟨hlossy, hlater⟩ := hspace.resolve_left hfirst
      rw [if_neg hfirst, hlossy, if_neg Bool.false_ne_true, if_pos hlater]

/-- Otherwise it fails. -/
theorem handleClientMessage_refused {session : IndexedSession} (hroom : session.roomCode ≠ "")
    {rawMsg : String} {type : Option String} {meets : Meets}
    (h : (Round.text rawMsg type meets).accepted bufferSize = false) :
    ∃ e, handleClientMessage bufferSize handshake session rawMsg type meets = .error e := by
  cases type with
  | none => exact ⟨_, rfl⟩
  | some messageType =>
    simp only [handleClientMessage, hroom, if_false, send]
    simp only [Round.accepted, Bool.and_eq_false_iff, Bool.or_eq_false_iff, Bool.not_eq_false',
      decide_eq_false_iff_not] at h
    split
    · exact ⟨_, rfl⟩
    · rename_i hfound
      obtain ⟨hfirst, hlater⟩ := h.resolve_left (not_not_intro hfound)
      rw [if_neg hfirst]
      split
      · exact ⟨_, rfl⟩
      · rename_i hlossy
        rw [if_neg (hlater.resolve_left hlossy)]
        exact ⟨_, rfl⟩
    · exact ⟨_, rfl⟩

/-- The client has a room, and the loop is running. -/
structure Identified (s : ReadState) : Prop where
  room : s.session.roomCode ≠ ""
  registered : s.Registered
  running : s.running = true

/-- After an accepted round the client is as before, and the message is forwarded. -/
theorem Identified.accepted (h : s.Identified) (hx : x.accepted bufferSize = true) :
    (s.round bufferSize handshake x).Identified ∧
      (s.round bufferSize handshake x).session = s.session ∧
      (s.round bufferSize handshake x).forwarded = s.forwarded ++ x.envelope s.session := by
  cases x with
  | closed => cases hx
  | binary data =>
    have hround : s.round bufferSize handshake (.binary data) =
        { s with relayed := s.relayed ++ [data] } := by
      rw [round, if_pos h.running]
      exact if_pos h.room
    rw [hround]
    exact ⟨⟨h.room, h.registered, h.running⟩, rfl, (List.append_nil _).symm⟩
  | text rawMsg type meets =>
    have hround : s.round bufferSize handshake (.text rawMsg type meets) =
        { s with forwarded :=
          s.forwarded ++ (Round.text rawMsg type meets).envelope s.session } := by
      rw [round, if_pos h.running]
      simp only [handleClientMessage_accepted h.room hx]
    rw [hround]
    exact ⟨⟨h.room, h.registered, h.running⟩, rfl, rfl⟩

/-- After any other round the loop has ended. -/
theorem Identified.refused (h : s.Identified) (hx : x.accepted bufferSize = false) :
    s.round bufferSize handshake x = s.teardown := by
  cases x with
  | closed => simp [round, h.running]
  | binary data => cases hx
  | text rawMsg type meets =>
    obtain ⟨e, he⟩ : ∃ e, handleClientMessage bufferSize handshake s.session rawMsg type meets =
        .error e := handleClientMessage_refused h.room hx
    simp [round, h.running, he]

/-- A loop that has ended reads nothing. -/
theorem readLoop_ended (h : s.running = false) (xs : List Round) :
    s.readLoop bufferSize handshake xs = s := by
  induction xs with
  | nil => rfl
  | cons x xs ih =>
    show (s.round bufferSize handshake x).readLoop bufferSize handshake xs = s
    have hround : s.round bufferSize handshake x = s := by simp [round, h]
    rw [hround, ih]

/-! ## Whole runs -/

/-- Until the first message that is not accepted, the client is as before. -/
theorem Identified.readLoop (h : s.Identified) (hxs : ∀ x ∈ xs, x.accepted bufferSize = true) :
    (s.readLoop bufferSize handshake xs).Identified ∧
      (s.readLoop bufferSize handshake xs).session = s.session ∧
      (s.readLoop bufferSize handshake xs).forwarded =
        s.forwarded ++ xs.flatMap (·.envelope s.session) := by
  induction xs generalizing s with
  | nil => exact ⟨h, rfl, (List.append_nil _).symm⟩
  | cons x xs ih =>
    obtain ⟨hround, hsession, hforwarded⟩ :=
      h.accepted (hxs x List.mem_cons_self)
    obtain ⟨hi, hs, hf⟩ := ih hround fun y hy => hxs y (List.mem_cons_of_mem _ hy)
    refine ⟨hi, hs.trans hsession, hf.trans ?_⟩
    rw [hforwarded, hsession, List.append_assoc]
    rfl

/-- The loop reads up to the first message that is not accepted. -/
theorem readLoop_append (s : ReadState) (xs ys : List Round) :
    s.readLoop bufferSize handshake (xs ++ ys) =
      (s.readLoop bufferSize handshake xs).readLoop bufferSize handshake ys := List.foldl_append

/-- A round after the loop's end was not read. -/
theorem Identified.accepted_of_running (h : s.Identified)
    (hrun : (s.readLoop bufferSize handshake xs).running = true) :
    ∀ x ∈ xs, x.accepted bufferSize = true := by
  induction xs generalizing s with
  | nil => exact fun x hx => absurd hx List.not_mem_nil
  | cons x xs ih =>
    change ((s.round bufferSize handshake x).readLoop bufferSize handshake xs).running =
        true at hrun
    cases hx : x.accepted bufferSize with
    | true =>
      intro y hy
      rcases List.mem_cons.mp hy with rfl | hy
      · exact hx
      · exact ih (h.accepted hx).1 hrun y hy
    | false =>
      rw [h.refused hx, readLoop_ended rfl] at hrun
      cases hrun

/-- The messages up to the first that is not accepted, and the rest. -/
theorem split_accepted (bufferSize : Nat) (xs : List Round) :
    (∀ x ∈ xs, x.accepted bufferSize = true) ∨
      ∃ pre x post, xs = pre ++ x :: post ∧ (∀ y ∈ pre, y.accepted bufferSize = true) ∧
        x.accepted bufferSize = false ∧
        xs.find? (fun y => !y.accepted bufferSize) = some x := by
  cases hfind : xs.find? fun y => !y.accepted bufferSize with
  | none =>
    refine .inl fun x hx => ?_
    simpa using List.find?_eq_none.mp hfind x hx
  | some x =>
    obtain ⟨hx, pre, post, hxs, hpre⟩ := List.find?_eq_some_iff_append.mp hfind
    exact .inr ⟨pre, x, post, hxs, fun y hy => by simpa using hpre y hy, by simpa using hx, rfl⟩

/-- What is forwarded when nothing is dropped for load. -/
theorem Identified.forwarded (h : s.Identified)
    (hcond : ∀ x ∈ xs.find? fun x => !x.accepted bufferSize, x.sheds bufferSize = false) :
    (s.readLoop bufferSize handshake xs).forwarded = s.forwarded ++
      ((xs.takeWhile fun x => x.accepted bufferSize || x.sheds bufferSize).filter
        (·.accepted bufferSize)).flatMap (·.envelope s.session) := by
  have hok : ∀ y : Round, y.accepted bufferSize = true →
      (y.accepted bufferSize || y.sheds bufferSize) = true := fun y hy => by rw [hy]; rfl
  rcases split_accepted bufferSize xs with hall | ⟨pre, x, post, rfl, hpre, hx, hfind⟩
  · rw [(h.readLoop hall).2.2, List.takeWhile_eq_self_iff.mpr fun y hy => hok y (hall y hy),
      List.filter_eq_self.mpr hall]
  · have hshed := hcond x (Option.mem_def.mpr hfind)
    have hstop : (pre ++ x :: post).takeWhile
        (fun x => x.accepted bufferSize || x.sheds bufferSize) = pre := by
      rw [List.takeWhile_append_of_pos fun y hy => hok y (hpre y hy), List.takeWhile_cons_of_neg,
        List.append_nil]
      simp [hx, hshed]
    obtain ⟨hi, -, hforwarded⟩ :
        (s.readLoop bufferSize handshake pre).Identified ∧ _ := h.readLoop hpre
    rw [hstop, List.filter_eq_self.mpr hpre, readLoop_append]
    show ((ReadState.round bufferSize handshake _ x).readLoop bufferSize handshake
      post).forwarded = _
    rw [hi.refused hx, readLoop_ended rfl]
    exact hforwarded

/-- **Load shedding ends no session, exactly if the first message that is not accepted is not
dropped for load.** -/
theorem spares_iff {bufferSize : Nat} {handshake : String → Except String (List GameMessage)}
    {s : ReadState} (h : s.Identified) (xs : List Round) :
    s.Spares bufferSize handshake xs ↔
      ∀ x ∈ xs.find? fun x => !x.accepted bufferSize, x.sheds bufferSize = false := by
  constructor
  · rintro hspares x hfind
    obtain ⟨-, pre, post, rfl, hpre⟩ := List.find?_eq_some_iff_append.mp hfind
    have hpre' : ∀ y ∈ pre, y.accepted bufferSize = true := fun y hy => by simpa using hpre y hy
    obtain ⟨hi, -⟩ : (s.readLoop bufferSize handshake pre).Identified ∧ _ := h.readLoop hpre'
    refine Bool.eq_false_iff.mpr fun hshed => ?_
    have hrun := (hspares.goesOn pre x post rfl hi.running hshed).1
    rw [readLoop_append] at hrun
    change (ReadState.round bufferSize handshake _ x).running = true at hrun
    rw [hi.refused (Round.not_accepted_of_sheds hshed)] at hrun
    cases hrun
  · intro hcond
    refine ⟨?_, h.forwarded hcond⟩
    rintro pre x post rfl hrun hshed
    have hx := Round.not_accepted_of_sheds hshed
    have hpre := h.accepted_of_running hrun
    have hfind : (pre ++ x :: post).find? (fun y => !y.accepted bufferSize) = some x := by
      rw [List.find?_append, List.find?_eq_none.mpr fun y hy => by simp [hpre y hy]]
      simp [hx]
    rw [hcond x (Option.mem_def.mpr hfind)] at hshed
    cases hshed

/-! ### One client -/

/-- A client in a room. -/
def inRoom : ReadState where
  registry := SessionRegistry.new.register "p" "ROOM01" 0
  sid := 0

theorem inRoom_identified : inRoom.Identified := ⟨by decide, rfl, rfl⟩

/-- A chat message, to a stream with room for it. -/
def chatting : Round := .text "hi" (some "guess") ⟨some .healthy, [], []⟩

/-- A stroke, to a stream with room for it. -/
def drawing : Round := .text "line" (some "stroke") ⟨some .healthy, [], []⟩

theorem spares_chat : inRoom.Spares 1 (fun _ => .error "NOT_IDENTIFIED") [drawing, chatting] :=
  (spares_iff inRoom_identified [drawing, chatting]).mpr fun x hx => by cases hx

/-- **A stroke that meets a full buffer** ends the session. -/
theorem shed_ends_session : ¬∀ (bufferSize : Nat)
    (handshake : String → Except String (List GameMessage)) (s : ReadState), s.Identified →
    ∀ xs, s.Spares bufferSize handshake xs := by
  intro h
  let stroke : Round := .text "stroke" (some "stroke") ⟨some .healthy, [⟨"", "", "", ""⟩], []⟩
  have hspares := h 1 (fun _ => .error "NOT_IDENTIFIED") inRoom inRoom_identified [stroke, chatting]
  have hrun := (hspares.goesOn [] stroke [chatting] rfl rfl rfl).1
  exact absurd hrun (by decide)

end ReadState

end Skribbl.Gateway
