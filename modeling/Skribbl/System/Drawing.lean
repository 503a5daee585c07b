import Skribbl.Gateway.FanOut
import Skribbl.Backend.Secrecy
import Skribbl.Backend.Stability

/-!
# Drawing messages across the gateway and the worker

* `handleLocalMessage`, `dispatchMessage`, `handleForwardedMessage` — the drawing branches of
  `_handle_local_message`, `_dispatch_message` and `_handle_forwarded_message`.
* `Site` — a worker and a gateway; `Site.Step` — a drawing message that is relayed, or anything else
  that the two do.
* `binaryFrame` — a binary frame from a client, by the path of its connection.

Principal results: `authorised_of_run` — what is relayed comes from the drawer, if the unchecked
branches are only used by the drawer; `reaches_iff` — when the strokes of a binary frame reach all
others.
-/

set_option autoImplicit false

namespace Skribbl.System

open Backend Gateway Coro ByteJson

/-! ## The dispatchers -/

/-- A drawing message from a client. -/
inductive DrawMessage where
  | stroke (payload : String)
  | highlighter (payload : String)
  | shape (payload : String)
  | fill (payload : String)
  | clearCanvas
  | undo (payload : String)

/-- The message that is broadcast for it. -/
def DrawMessage.relayed : DrawMessage → Message
  | .stroke payload => .draw .stroke payload
  | .highlighter payload => .draw .highlighter payload
  | .shape payload => .draw .shape payload
  | .fill payload => .draw .fill payload
  | .clearCanvas => .clearCanvas
  | .undo payload => .draw .undo payload

/-- The branches of `_handle_local_message`. -/
def handleLocalMessage (p : PlayerId) (m : DrawMessage) : M Unit :=
  relay p (fun w r => w.isDrawer p r) fun _ _ => m.relayed

/-- The branches of `_dispatch_message`. -/
def dispatchMessage (p : PlayerId) (m : DrawMessage) : M Unit :=
  match m with
  | .stroke _ | .fill _ | .clearCanvas => relay p (fun _ _ => true) fun _ _ => m.relayed
  | .undo _ | .shape _ | .highlighter _ =>
    relay p (fun w r => w.isDrawer p r) fun _ _ => m.relayed

/-- The branches of `_handle_forwarded_message`; it has none for the other types. -/
def handleForwardedMessage (code : String) (p : PlayerId) (m : DrawMessage) : M Unit := do
  let w ← read
  (w.roomOf code).elim (return ()) fun r => do
    let found ← getPlayer r p
    found.elim (return ()) fun _ => do
      let room ← readRoom r
      match m with
      | .stroke _ | .fill _ | .clearCanvas => broadcast room.code m.relayed
      | .undo _ | .shape _ | .highlighter _ => return ()

/-- How a client's message reaches the worker. -/
inductive Path where
  | webSocket
  | grpc
  | forwarded (code : String)

/-- The dispatcher of a path. -/
def handle (path : Path) (p : PlayerId) (m : DrawMessage) : M Unit :=
  match path with
  | .webSocket => handleLocalMessage p m
  | .grpc => dispatchMessage p m
  | .forwarded code => handleForwardedMessage code p m

/-- The dispatcher of the path looks at the drawer, or relays no message of the type. -/
def Path.checks : Path → DrawMessage → Prop
  | .webSocket, _ => True
  | _, .stroke _ => False
  | _, .fill _ => False
  | _, .clearCanvas => False
  | _, _ => True

instance (path : Path) (m : DrawMessage) : Decidable (path.checks m) := by
  unfold Path.checks
  split <;> infer_instance

/-- A turn is active in a room of the worker, and the player draws in it. -/
def Draws (w : World) (p : PlayerId) : Prop := ∃ x ∈ w.rooms, w.isDrawer p x.2 = true

/-! ## What the dispatchers relay -/

/-- A checked relay sends only what the drawer has sent. -/
theorem draws_of_relay {p : PlayerId} {m : World → RoomId → Message} {w : World} {x : Message}
    (h : Sends (relay p (fun w r => w.isDrawer p r) m) w x) : Draws w p := by
  obtain ⟨w₁, w₂, y, hmakes, hout, -⟩ := h
  unfold relay at hmakes
  rcases makes_bind.mp hmakes with hmakes | ⟨o, w', hends, hmakes⟩
  · -- the lookup sends nothing
    have hsilent : Within (utters fun _ => False) (findRoomByPlayer p) := by
      have : ∀ code, Silent (.playerToRoom p code) := fun _ => ⟨fun _ => rfl⟩
      unfold findRoomByPlayer
      infer_instance
    exact (hmakes.within hsilent y hout).elim
  · have hfound : (findRoomByPlayer p).wp .atomic 0 (fun o v => ∀ r, o = some r →
        (∃ code, (code, r) ∈ w.rooms) ∧ (v.state.room r).turn = (w.room r).turn) ⟨w, 0, []⟩ := by
      unfold findRoomByPlayer
      simp only [wp_bind, wp_read, wp_elim, wp_put, wp_pure]
      refine ⟨fun _ => ⟨fun _ r hr => ?_, fun z hz => ?_⟩, fun code _ => ?_⟩
      · cases hr
      · intro r hr
        cases hr
        exact ⟨⟨z.1, List.mem_of_find?_eq_some hz⟩, by simp [Update.apply, RoomUpdate.apply]⟩
      · intro r hr
        exact ⟨mem_of_roomOf hr, by simp⟩
    obtain ⟨o', _, ho, hroom⟩ := hends.of_atomic hfound
    cases ho
    cases o with
    | none => exact hmakes.elim
    | some r =>
      obtain ⟨⟨code, hmem⟩, hturn⟩ := hroom r rfl
      change (Coro.when _ _).Makes _ w' w₁ w₂ at hmakes
      unfold Coro.when at hmakes
      split at hmakes
      · rename_i hdrawer
        have hdrawer : w'.isDrawer p r = true := hdrawer
        unfold World.isDrawer at hdrawer
        rw [hturn] at hdrawer
        exact ⟨(code, r), hmem, hdrawer⟩
      · exact hmakes.elim

/-- **A dispatcher that checks relays only what the drawer has sent.** -/
theorem draws_of_sends {path : Path} {p : PlayerId} {m : DrawMessage} {w : World} {x : Message}
    (hcheck : path.checks m) (h : Sends (handle path p m) w x) : Draws w p := by
  cases path with
  | webSocket => exact draws_of_relay h
  | grpc =>
    cases m with
    | stroke | fill | clearCanvas => exact hcheck.elim
    | undo | shape | highlighter => exact draws_of_relay h
  | forwarded code =>
    have hsilent : Within (utters fun _ => False) (handleForwardedMessage code p m) := by
      unfold handleForwardedMessage
      cases m with
      | stroke | fill | clearCanvas => exact hcheck.elim
      | undo | shape | highlighter => infer_instance
    exact (h.uttered hsilent).elim

/-! ## Runs of a worker and a gateway -/

/-- A worker and a gateway in front of it, with what was relayed to other players so far: for each,
whether it came from the drawer of an active turn. -/
structure Site where
  world : World
  gateway : Registry Bytes
  relayed : List Prop

/-- Something that a client draws: a message that a dispatcher of the worker handles, or a binary
frame that the gateway reads from a session. -/
inductive Drawing where
  | message (path : Path) (p : PlayerId) (m : DrawMessage)
  | frame (sid : SessionId) (payload : Bytes)

variable {cap : Nat} {name : PlayerId → String}

/-- A turn is active, and the sender of the drawing is its drawer; `name` is how a worker writes a
player's id. -/
def Site.Authorised (name : PlayerId → String) (s : Site) : Drawing → Prop
  | .message _ p _ => Draws s.world p
  | .frame sid _ => ∃ p, name p = (s.gateway.heap sid).playerID ∧ Draws s.world p

/-- The dispatcher of the message looks at the drawer; the gateway never does. -/
def Drawing.Checked : Drawing → Prop
  | .message path _ m => path.checks m
  | .frame _ _ => False

/-- A session other than the sender's that a binary frame is relayed to. -/
def HasReceiver (sr : Registry Bytes) (sid : SessionId) : Prop :=
  ∃ sid' ∈ sr.getByRoom (sr.heap sid).roomCode, (sr.heap sid').playerID ≠ (sr.heap sid).playerID

/-- One step of a site whose drawings meet a condition. -/
inductive Site.Step (cap : Nat) (name : PlayerId → String) (cond : Drawing → Site → Prop) :
    Site → Site → Prop
  /-- Whatever the worker does besides. -/
  | worker (s : Site) (w : World) : Step cap name cond s { s with world := w }
  /-- Sessions of the gateway come, change and go. -/
  | gateway (s : Site) (sr : Registry Bytes) : Step cap name cond s { s with gateway := sr }
  /-- A dispatcher handles a drawing message and sends something. -/
  | message (s : Site) (path : Path) (p : PlayerId) (m : DrawMessage) (x : Message) (w : World) :
      cond (.message path p m) s → Sends (handle path p m) s.world x →
      Step cap name cond s
        { s with world := w, relayed := s.relayed ++ [s.Authorised name (.message path p m)] }
  /-- The gateway reads a binary frame and relays it. -/
  | frame (s : Site) (sid : SessionId) (payload : Bytes) :
      cond (.frame sid payload) s → HasReceiver s.gateway sid →
      Step cap name cond s
        { s with
          gateway := s.gateway.deliverBinary cap (s.gateway.heap sid).roomCode
            (s.gateway.heap sid).playerID payload
          relayed := s.relayed ++ [s.Authorised name (.frame sid payload)] }

/-- A run: any number of steps. -/
def Site.Run (cap : Nat) (name : PlayerId → String) (cond : Drawing → Site → Prop) :
    Site → Site → Prop :=
  Relation.ReflTransGen (Site.Step cap name cond)

/-- A drawing that no dispatcher checks comes from the drawer. -/
def UncheckedByDrawer (name : PlayerId → String) (d : Drawing) (s : Site) : Prop :=
  d.Checked ∨ s.Authorised name d

/-- Everything that was relayed came from the drawer of an active turn. -/
def Site.AllAuthorised (s : Site) : Prop := ∀ a ∈ s.relayed, a

/-- One step relays only what the drawer has sent. -/
theorem Site.Step.authorised {s s' : Site}
    (h : s.Step cap name (UncheckedByDrawer name) s') (hs : s.AllAuthorised) :
    s'.AllAuthorised := by
  have happend : ∀ a : Prop, a → ∀ b ∈ s.relayed ++ [a], b := by
    intro a ha b hb
    rcases List.mem_append.mp hb with hb | hb
    · exact hs b hb
    · rw [List.mem_singleton.mp hb]
      exact ha
  cases h with
  | worker w => exact hs
  | gateway sr => exact hs
  | message path p m x w hcond hsends =>
    refine happend _ ?_
    rcases hcond with hchecked | hauthorised
    · exact draws_of_sends hchecked hsends
    · exact hauthorised
  | frame sid payload hcond _ =>
    refine happend _ ?_
    rcases hcond with hchecked | hauthorised
    · exact hchecked.elim
    · exact hauthorised

/-- **In a run whose unchecked drawings come from the drawer, everything that is relayed does.** -/
theorem authorised_of_run {s s' : Site} (h : s.Run cap name (UncheckedByDrawer name) s')
    (hs : s.AllAuthorised) : s'.AllAuthorised := by
  induction h with
  | refl => exact hs
  | tail _ hstep ih => exact hstep.authorised ih

/-! ## A drawing of another player -/

/-- Two players with the connections `0` and `1`, in a turn in which the first draws. -/
def drawingRoom : World where
  rooms := [("ROOM01", 0)]
  room _ :=
    { code := "ROOM01"
      hostId := .uuid 0
      players := [.uuid 0, .uuid 1]
      playersById := [.uuid 0, .uuid 1]
      state := .playing
      turn := some
        { turnId := 0
          drawerId := .uuid 0
          word := "owl"
          hint := []
          startTime := 0
          wordChoices := [] } }
  player _ p := { id := p, name := "p", websocket := if p = .uuid 0 then some 0 else some 1 }
  playerToRoom _ := some "ROOM01"

/-- The site of this room, before anything was relayed. -/
def drawingSite : Site := ⟨drawingRoom, twoPlayers, []⟩

/-- The letters of a player's id in the sample site. -/
def sampleLetters : PlayerId → List Char
  | .uuid 0 => ['a']
  | .uuid 1 => ['b']
  | .uuid (n + 2) => 'u' :: List.replicate n 'u'
  | .other s => 'o' :: s.toList

/-- How the sample site writes the ids of its players. -/
def sampleName (p : PlayerId) : String := String.ofList (sampleLetters p)

theorem sampleName_injective : Function.Injective sampleName := by
  intro p q h
  have hlist : sampleLetters p = sampleLetters q := by
    have hlist := congrArg String.toList h
    rwa [sampleName, sampleName, String.toList_ofList, String.toList_ofList] at hlist
  rcases p with (_ | _ | n) | s <;> rcases q with (_ | _ | m) | t <;>
    simp_all [sampleLetters, String.toList_inj]

/-- A guesser fills the canvas over gRPC. -/
theorem guesser_fills : ∃ s, drawingSite.Run 1024 sampleName (fun _ _ => True) s ∧
    ¬s.AllAuthorised := by
  have hsends : Sends (dispatchMessage (.uuid 1) (.fill "red")) drawingRoom
      (.draw .fill "red") := by
    refine ⟨drawingRoom, (Update.send ⟨.one 0, .draw .fill "red", false⟩).apply drawingRoom,
      ⟨.one 0, .draw .fill "red", false⟩, ?_, rfl, rfl⟩
    exact .inl ⟨rfl, rfl⟩
  refine ⟨_, .single (.message drawingSite .grpc (.uuid 1) (.fill "red") _ drawingRoom trivial
    hsends), fun hall => ?_⟩
  obtain ⟨x, hx, hdraws⟩ := hall _ (List.mem_append_right _ (List.mem_singleton_self _))
  rw [List.mem_singleton.mp hx] at hdraws
  exact absurd hdraws (by decide)

/-- The drawer fills the canvas over gRPC. -/
theorem drawer_fills : ∃ s, drawingSite.Run 1024 sampleName (UncheckedByDrawer sampleName) s ∧
    s.relayed ≠ [] ∧ s.AllAuthorised := by
  have hsends : Sends (dispatchMessage (.uuid 0) (.fill "red")) drawingRoom
      (.draw .fill "red") := by
    refine ⟨drawingRoom, (Update.send ⟨.one 0, .draw .fill "red", false⟩).apply drawingRoom,
      ⟨.one 0, .draw .fill "red", false⟩, ?_, rfl, rfl⟩
    exact .inl ⟨rfl, rfl⟩
  have hdraws : Draws drawingRoom (.uuid 0) := ⟨("ROOM01", 0), by decide, by decide⟩
  have hrun : drawingSite.Run 1024 sampleName (UncheckedByDrawer sampleName) _ :=
    .single (.message drawingSite .grpc (.uuid 0) (.fill "red") _ drawingRoom (.inr hdraws) hsends)
  exact ⟨_, hrun, by simp, authorised_of_run hrun nofun⟩

/-! ## A binary frame, by the path of its connection -/

/-- How a client is connected: to a gateway that multiplexes it, to a gateway that pipes it through
to a worker, or to a worker. -/
inductive Connection where
  | grpc (sid : SessionId)
  | proxied (ws : WsId)
  | direct (ws : WsId)

/-- What becomes of a frame: the gateway's queues, what the worker is made to do, and whether the
client's session is still open. -/
structure Handled where
  gateway : Registry Bytes
  calls : List Op
  sessionOpen : Bool

/-- A frame in the loop of `websocket_handler`: `iter_text` yields it, or raises, which ends the
loop and runs the `finally` block.  A binary frame that is yielded is no JSON, and is answered with
an error. -/
def websocketFrame (iterText : MessageType → Bool) (sr : Registry Bytes) (ws : WsId) (p : PlayerId)
    (kind : MessageType) : Handled :=
  if iterText kind then ⟨sr, [], true⟩ else ⟨sr, [.websocketClosed ws (some p)], false⟩

/-- A binary frame from a client: the read loop of `handleGRPCPath`, the pipe of
`handleWSProxyPath`, which passes frames on with their type and ends with either side, and the loop
of `websocket_handler`. -/
def binaryFrame (cap : Nat) (iterText : MessageType → Bool) (sr : Registry Bytes) (c : Connection)
    (p : PlayerId) (payload : Bytes) : Handled :=
  match c with
  | .grpc sid =>
    let session := sr.heap sid
    if session.roomCode ≠ "" then
      ⟨sr.deliverBinary cap session.roomCode session.playerID payload, [], true⟩
    else ⟨sr, [], true⟩
  | .proxied ws => websocketFrame iterText sr ws p .binary
  | .direct ws => websocketFrame iterText sr ws p .binary

/-- The drawer `p` of the turn in room `r` is connected, and no queue of the room is full. -/
structure InTurn (name : PlayerId → String) (cap : Nat) (w : World) (sr : Registry Bytes)
    (r : RoomId) (p : PlayerId) (c : Connection) : Prop where
  code : (w.room r).code ≠ ""
  state : (w.room r).state = .playing
  drawer : w.isDrawer p r = true
  session : ∀ sid, c = .grpc sid →
    (sr.heap sid).playerID = name p ∧ (sr.heap sid).roomCode = (w.room r).code
  names : Function.Injective name
  space : ∀ sid ∈ sr.getByRoom (w.room r).code, (sr.heap sid).sendCh.length < cap

/-- The payload was put on the queue of a session of the player. -/
def Reaches (name : PlayerId → String) (payload : Bytes) (sr sr' : Registry Bytes)
    (q : PlayerId) : Prop :=
  ∃ sid ms, (sr.heap sid).playerID = name q ∧ (sr'.heap sid).sendCh = (sr.heap sid).sendCh ++ ms ∧
    payload ∈ ms

/-- The player has a session in the gateway's index of the room. -/
def Attached (name : PlayerId → String) (sr : Registry Bytes) (code : String) (q : PlayerId) :
    Prop :=
  ∃ sid ∈ sr.getByRoom code, (sr.heap sid).playerID = name q

/-- The frame's strokes reach every other connected player, and the drawer's session stays open. -/
def StrokesDelivered (name : PlayerId → String) (w : World) (sr : Registry Bytes) (r : RoomId)
    (p : PlayerId) (payload : Bytes) (h : Handled) : Prop :=
  (∀ q ∈ w.connected r, q ≠ p → Reaches name payload sr h.gateway q) ∧ h.sessionOpen = true

/-- The gateway relays a frame to a player exactly if it has a session in the room. -/
theorem reaches_deliverBinary_iff {cap : Nat} {name : PlayerId → String} {sr : Registry Bytes}
    {code : String} {p q : PlayerId} {payload : Bytes} (hname : Function.Injective name)
    (hspace : ∀ sid ∈ sr.getByRoom code, (sr.heap sid).sendCh.length < cap) (hq : q ≠ p) :
    Reaches name payload sr (sr.deliverBinary cap code (name p) payload) q ↔
      Attached name sr code q := by
  constructor
  · rintro ⟨sid, ms, hid, hms, hmem⟩
    obtain ⟨ms', hms', -, -, hout⟩ :=
      Registry.deliverBinary_sendCh cap sr code (name p) payload sid
    refine ⟨sid, ?_, hid⟩
    by_contra hroom
    have hnil : ms = [] := by
      rw [hms', hout (.inl hroom), List.append_nil] at hms
      exact (List.append_right_eq_self.mp hms.symm)
    rw [hnil] at hmem
    cases hmem
  · rintro ⟨sid, hroom, hid⟩
    obtain ⟨ms, hms, -, hin, -⟩ := Registry.deliverBinary_sendCh cap sr code (name p) payload sid
    have hne : (sr.heap sid).playerID ≠ name p := fun h => hq (hname (hid.symm.trans h))
    exact ⟨sid, ms, hid, hms, hin hroom hne (hspace sid hroom)⟩

/-- **The strokes of the drawer's frame reach all others exactly if the drawer is connected over
gRPC and all others have a session in the same gateway.** -/
theorem reaches_iff {name : PlayerId → String} {cap : Nat} {iterText : MessageType → Bool}
    (hraises : iterText .binary = false) {w : World} {sr : Registry Bytes} {r : RoomId}
    {p : PlayerId} {c : Connection} (h : InTurn name cap w sr r p c) (payload : Bytes) :
    StrokesDelivered name w sr r p payload (binaryFrame cap iterText sr c p payload) ↔
      (∃ sid, c = .grpc sid) ∧
        ∀ q ∈ w.connected r, q ≠ p → Attached name sr (w.room r).code q := by
  cases c with
  | grpc sid =>
    obtain ⟨hid, hroom⟩ := h.session sid rfl
    have hframe : binaryFrame cap iterText sr (.grpc sid) p payload =
        ⟨sr.deliverBinary cap (w.room r).code (name p) payload, [], true⟩ := by
      simp only [binaryFrame, hid, hroom]
      rw [if_pos h.code]
    rw [hframe]
    constructor
    · rintro ⟨hreach, -⟩
      refine ⟨⟨sid, rfl⟩, fun q hq hne => ?_⟩
      exact (reaches_deliverBinary_iff h.names h.space hne).mp (hreach q hq hne)
    · rintro ⟨-, hattached⟩
      refine ⟨fun q hq hne => ?_, rfl⟩
      exact (reaches_deliverBinary_iff h.names h.space hne).mpr (hattached q hq hne)
  | proxied ws =>
    constructor
    · rintro ⟨-, hopen⟩
      simp [binaryFrame, websocketFrame, hraises] at hopen
    · rintro ⟨⟨sid, hc⟩, -⟩
      cases hc
  | direct ws =>
    constructor
    · rintro ⟨-, hopen⟩
      simp [binaryFrame, websocketFrame, hraises] at hopen
    · rintro ⟨⟨sid, hc⟩, -⟩
      cases hc

/-- The drawer of the sample room sends the opcode of a stroke over gRPC. -/
theorem gateway_reaches : StrokesDelivered sampleName drawingRoom twoPlayers 0 (.uuid 0) [0x01]
    (binaryFrame 1024 (· = .text) twoPlayers (.grpc 0) (.uuid 0) [0x01]) := by
  have hturn : InTurn sampleName 1024 drawingRoom twoPlayers 0 (.uuid 0) (.grpc 0) := by
    refine ⟨by decide, rfl, by decide, ?_, sampleName_injective, by decide +kernel⟩
    rintro sid hsid
    cases hsid
    decide +kernel
  refine (reaches_iff (by decide) hturn [0x01]).mpr ⟨⟨0, rfl⟩, fun q hq hne => ?_⟩
  have hq' : q = .uuid 1 := by
    have hmem : q ∈ [Ident.uuid 0, Ident.uuid 1] := List.mem_of_mem_filter hq
    simpa [hne] using hmem
  subst hq'
  exact ⟨1, by decide +kernel, by decide +kernel⟩

/-- The drawer of the sample room sends it over a direct connection. -/
theorem direct_fails : ¬StrokesDelivered sampleName drawingRoom twoPlayers 0 (.uuid 0) [0x01]
    (binaryFrame 1024 (· = .text) twoPlayers (.direct 0) (.uuid 0) [0x01]) := by
  rintro ⟨-, hopen⟩
  exact absurd hopen (by decide)

end Skribbl.System
