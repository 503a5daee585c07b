import Mathlib.Data.Finset.Card
import Skribbl.Gateway.StreamManager

/-!
# Idle streams (`AddPlayer`, `RemovePlayer`, `scheduleIdleClose`, `handleClientDisconnect`)

A stream counts its players, and is closed some time after the count has come down to zero.  The
count is in the `RoomStream`, so a new one starts at zero whoever is still there.

* `PlayerCounts` — the streams of all workers and the sessions of a gateway, with the worker that
  each of them is on and how far its `handleCreateRoom` or `handleJoinRoom` has come.
* `PlayerCounts.Identified` — a connected session has a room on a worker.
* `PlayerCounts.Covered` — a stream counts at least the sessions that have a room on its worker.
* `PlayerCounts.Fresh` — a stream is put in place only while no session is counted on the worker,
  and is not closed as idle just before one is.

Principal results: `covered_run` — after such steps the streams are covered, and the idle timeout
closes none that a session needs; `not_covered` — after others it does.
-/

set_option autoImplicit false

namespace Skribbl.Gateway

/-- What counts of a `PlayerSession`: its room, and its worker once `create_room` or `join_room` has
been sent. -/
structure PlayerSlot where
  roomCode : String := ""
  workerID : Option String := none
  deriving DecidableEq

/-- How far the read loop of a connection has come after it has sent an envelope to a worker. -/
inductive SentPhase where
  | idle
  /-- `handleCreateRoom`: `AddPlayer` is done, and `session.WorkerID` is set next. -/
  | created (workerID : String)
  /-- `handleJoinRoom`: `session.RoomCode` is set, and `session.WorkerID` is next. -/
  | roomSet (workerID : String)
  /-- `session.WorkerID` is set too, and `AddPlayer` is next. -/
  | workerSet (workerID : String)
  deriving DecidableEq

/-- The streams, the sessions of the connections, what their read loops are doing, the workers whose
`RemovePlayer` is still to come after a disconnect, and the connections that there have been. -/
structure PlayerCounts where
  streams : String → StreamManager := fun _ => {}
  sessions : Nat → Option PlayerSlot := fun _ => none
  sent : Nat → SentPhase := fun _ => .idle
  leaving : Nat → Option String := fun _ => none
  conns : Finset Nat := ∅

namespace PlayerCounts

/-- What happens to the stream of a worker apart from its count. -/
def Uncounted : StreamManager.Action → Bool
  | .addPlayer => false
  | .removePlayer => false
  | _ => true

/-- What may happen on a gateway. -/
inductive Action where
  /-- A client connects. -/
  | opened (c : Nat)
  /-- `UpdateIdentity` gives the session a room, at the start of a join or after an answer. -/
  | identity (c : Nat) (roomCode : String)
  /-- The envelope of `create_room` has been sent to a worker: `AddPlayer`. -/
  | created (c : Nat) (workerID : String)
  /-- The envelope of `join_room` or `reconnect` has been sent to a worker: the room is noted. -/
  | joined (c : Nat) (roomCode workerID : String)
  /-- The next statement of the handler. -/
  | handler (c : Nat)
  /-- The read loop ends: `Unregister`. -/
  | disconnected (c : Nat)
  /-- `handleClientDisconnect` comes to `RemovePlayer`. -/
  | removed (c : Nat)
  /-- A step of the stream of a worker. -/
  | stream (workerID : String) (a : StreamManager.Action)

/-- A step of the stream of one worker. -/
def onStream (bufferSize : StreamManager.BufferSize) (g : PlayerCounts) (workerID : String)
    (a : StreamManager.Action) : PlayerCounts :=
  { g with
    streams := Function.update g.streams workerID ((g.streams workerID).step bufferSize a) }

def setSession (g : PlayerCounts) (c : Nat) (slot : Option PlayerSlot) : PlayerCounts :=
  { g with sessions := Function.update g.sessions c slot }

def setSent (g : PlayerCounts) (c : Nat) (phase : SentPhase) : PlayerCounts :=
  { g with sent := Function.update g.sent c phase }

/-- The statements of a handler after the first. -/
def handlerStep (bufferSize : StreamManager.BufferSize) (g : PlayerCounts) (c : Nat)
    (slot : PlayerSlot) : SentPhase → PlayerCounts
  | .idle => g
  | .created workerID =>
    (g.setSession c (some { slot with workerID := some workerID })).setSent c .idle
  | .roomSet workerID =>
    (g.setSession c (some { slot with workerID := some workerID })).setSent c (.workerSet workerID)
  | .workerSet workerID => (g.onStream bufferSize workerID .addPlayer).setSent c .idle

def step (bufferSize : StreamManager.BufferSize) (g : PlayerCounts) : Action → PlayerCounts
  | .opened c =>
    if c ∈ g.conns then g else { g.setSession c (some {}) with conns := insert c g.conns }
  | .identity c roomCode => (g.sessions c).elim g fun slot =>
    g.setSession c (some { slot with roomCode := roomCode })
  | .created c workerID => (g.sessions c).elim g fun _ =>
    if g.sent c = .idle then (g.onStream bufferSize workerID .addPlayer).setSent c
        (.created workerID)
    else g
  | .joined c roomCode workerID => (g.sessions c).elim g fun slot =>
    if g.sent c = .idle then
      (g.setSession c (some { slot with roomCode := roomCode })).setSent c (.roomSet workerID)
    else g
  | .handler c => (g.sessions c).elim g fun slot => g.handlerStep bufferSize c slot (g.sent c)
  | .disconnected c => (g.sessions c).elim g fun slot =>
    if g.sent c = .idle then
      { g.setSession c none with
        leaving := Function.update g.leaving c
          (if slot.roomCode = "" then none else slot.workerID) }
    else g
  | .removed c => (g.leaving c).elim g fun workerID =>
    { g.onStream bufferSize workerID .removePlayer with
      leaving := Function.update g.leaving c none }
  | .stream workerID a => if Uncounted a then g.onStream bufferSize workerID a else g

/-- The gateway after some steps. -/
def run (bufferSize : StreamManager.BufferSize) (g : PlayerCounts) (as : List Action) :
    PlayerCounts := as.foldl (step bufferSize) g

/-- The connected session has a room on the worker. -/
def Identified (g : PlayerCounts) (w : String) (c : Nat) : Prop :=
  ∃ slot ∈ g.sessions c, slot.roomCode ≠ "" ∧ slot.workerID = some w

/-- The session is counted on the worker: it is there and `AddPlayer` is not still to come, or
`AddPlayer` is done and it is put there next, or `RemovePlayer` is still to come for it. -/
def Holds (g : PlayerCounts) (w : String) (c : Nat) : Prop :=
  ((∃ slot ∈ g.sessions c, slot.workerID = some w) ∧ g.sent c ≠ .workerSet w) ∨
    g.sent c = .created w ∨ g.leaving c = some w

instance (g : PlayerCounts) (w : String) (c : Nat) : Decidable (g.Identified w c) :=
  inferInstanceAs (Decidable (∃ slot ∈ g.sessions c, _))

instance (g : PlayerCounts) (w : String) (c : Nat) : Decidable (g.Holds w c) :=
  inferInstanceAs (Decidable (((∃ slot ∈ g.sessions c, _) ∧ _) ∨ _))

/-- The sessions that have a room on the worker, but for those whose `AddPlayer` is the next
statement of their handler. -/
def identified (g : PlayerCounts) (w : String) : Finset Nat :=
  g.conns.filter fun c => g.Identified w c ∧ g.sent c ≠ .workerSet w

def holders (g : PlayerCounts) (w : String) : Finset Nat := g.conns.filter (g.Holds w)

/-- The stream in the map counts the sessions that have a room on its worker. -/
def Covered (g : PlayerCounts) : Prop :=
  ∀ w, ∀ i ∈ (g.streams w).active,
    ((g.identified w).card : Int) ≤ ((g.streams w).heap i).playerCount

/-- No stream is put in place while a session is counted on the worker, and none is closed as idle
just before one is. -/
def Fresh (g : PlayerCounts) : Action → Prop
  | .stream w (.dialed ok) => (g.streams w).dialing → ok → g.holders w = ∅
  | .stream w (.idleClose i) => (g.streams w).Closing (.idleClose i) → ∀ c, g.sent c ≠ .workerSet w
  | _ => True

/-- So it is in each step of a run. -/
def AllFresh (bufferSize : StreamManager.BufferSize) (g : PlayerCounts) : List Action → Prop
  | [] => True
  | a :: as => g.Fresh a ∧ (g.step bufferSize a).AllFresh bufferSize as

/-- When a step is the idle timeout that closes a stream, no connected session has a room on its
worker. -/
def Unneeded (g : PlayerCounts) : Action → Prop
  | .stream w (.idleClose i) => (g.streams w).Closing (.idleClose i) → ∀ c, ¬g.Identified w c
  | _ => True

/-- Only connections of the past have sessions or are leaving, one or the other, and only a
connection with a session is in a handler. -/
structure Tidy (g : PlayerCounts) : Prop where
  known : ∀ c, c ∉ g.conns → g.sessions c = none ∧ g.leaving c = none
  apart : ∀ c slot, g.sessions c = some slot → g.leaving c = none
  idle : ∀ c, g.sessions c = none → g.sent c = .idle

/-- Besides, the stream in the map counts the sessions on its worker. -/
structure Inv (g : PlayerCounts) : Prop extends Tidy g where
  count : ∀ w, ∀ i ∈ (g.streams w).active,
    ((g.holders w).card : Int) ≤ ((g.streams w).heap i).playerCount

variable {bufferSize : StreamManager.BufferSize} {g : PlayerCounts} {w : String} {c : Nat}
  {i : StreamId}

theorem Tidy.mem_of_session (h : g.Tidy) {slot : PlayerSlot} (hc : g.sessions c = some slot) :
    c ∈ g.conns := by
  by_contra hnot
  rw [(h.known c hnot).1] at hc
  cases hc

theorem Inv.covered (h : g.Inv) : g.Covered := by
  intro w i hi
  have hsub : g.identified w ⊆ g.holders w := by
    refine Finset.monotone_filter_right _ fun c _ hc => ?_
    obtain ⟨⟨slot, hslot, -, hw⟩, hcounted⟩ := hc
    exact .inl ⟨⟨slot, hslot, hw⟩, hcounted⟩
  have hcard := Finset.card_le_card hsub
  have hheld := h.count w i hi
  omega

/-- A stream that is closed as idle counts nobody. -/
theorem Inv.unneeded (h : g.Inv) {a : Action} (ha : g.Fresh a) : g.Unneeded a := by
  cases a with
  | stream w b =>
    cases b with
    | idleClose i =>
      intro hclosing c hc
      have hcounted : g.sent c ≠ .workerSet w := ha hclosing c
      obtain ⟨-, hactive, hidle⟩ := hclosing
      have hmem : c ∈ g.identified w := by
        have hc' := hc
        obtain ⟨slot, hslot, -⟩ := hc'
        exact Finset.mem_filter.mpr ⟨h.mem_of_session hslot, hc, hcounted⟩
      have hpos := Finset.card_pos.mpr ⟨c, hmem⟩
      have hle := h.covered w i hactive
      omega
    | _ => trivial
  | _ => trivial

/-! ## What a step of a stream does to its count -/

/-- The instance in the map was there before, with the same count. -/
def CountKept (sm sm' : StreamManager) : Prop :=
  ∀ i ∈ sm'.active, i ∈ sm.active ∧ (sm'.heap i).playerCount = (sm.heap i).playerCount

variable {sm sm₁ sm' : StreamManager}

theorem CountKept.refl (sm : StreamManager) : CountKept sm sm := fun _ hi => ⟨hi, rfl⟩

theorem CountKept.trans (h : CountKept sm sm₁) (h' : CountKept sm₁ sm') : CountKept sm sm' := by
  intro i hi
  obtain ⟨hi₁, heq₁⟩ := h' i hi
  obtain ⟨hi₀, heq₀⟩ := h i hi₁
  exact ⟨hi₀, heq₁.trans heq₀⟩

theorem countKept_modify {f : RoomStream → RoomStream}
    (hf : (f (sm.heap i)).playerCount = (sm.heap i).playerCount) :
    CountKept sm (sm.modify i f) := by
  intro j hj
  refine ⟨hj, ?_⟩
  rw [StreamManager.modify_heap]
  split
  · rename_i hij
    rw [hij, hf]
  · rfl

theorem countKept_of_eq (hactive : sm'.active = sm.active) (hheap : sm'.heap = sm.heap) :
    CountKept sm sm' := fun _ hi => ⟨hactive ▸ hi, by rw [hheap]⟩

theorem countKept_closeActive (sm : StreamManager) : CountKept sm sm.closeActive := by
  intro i hi
  unfold StreamManager.closeActive at hi
  cases hactive : sm.active with
  | none =>
    rw [hactive] at hi
    exact absurd (hactive ▸ hi : i ∈ (none : Option StreamId)) nofun
  | some j =>
    rw [hactive] at hi
    exact absurd (hi : i ∈ (none : Option StreamId)) nofun

theorem countKept_markUnhealthy (sm : StreamManager) (j : StreamId) :
    CountKept sm (sm.markUnhealthy j) := by
  unfold StreamManager.markUnhealthy
  cases sm.active with
  | none => exact .refl sm
  | some k => exact (countKept_closeActive sm).trans (countKept_of_eq rfl rfl)

theorem countKept_push (sm : StreamManager) (j : StreamId) (msg : GameMessage) :
    CountKept sm (sm.push j msg) := by
  unfold StreamManager.push
  split
  · exact countKept_modify rfl
  · exact countKept_of_eq rfl rfl

theorem countKept_setState (sm : StreamManager) (j : StreamId) (state : StreamState) :
    CountKept sm (sm.setState j state) := countKept_modify rfl

theorem countKept_sendStep (sm : StreamManager) (k : Nat) (j : StreamId) (msg : GameMessage)
    (ph : SendPhase) : CountKept sm (sm.sendStep bufferSize k j msg ph) := by
  cases ph with
  | found => exact countKept_of_eq rfl rfl
  | select =>
    unfold StreamManager.sendStep
    dsimp only
    split
    · exact (countKept_push sm j msg).trans (countKept_of_eq rfl rfl)
    · split <;> exact countKept_of_eq rfl rfl
  | wait =>
    unfold StreamManager.sendStep
    dsimp only
    split
    · exact (countKept_push sm j msg).trans (countKept_of_eq rfl rfl)
    · exact .refl sm

theorem countKept_handlerStep (sm : StreamManager) (k : Nat) (j : StreamId) (ok : Bool)
    (ph : HandlerPhase) : CountKept sm (sm.handlerStep k j ok ph) := by
  cases ph with
  | start =>
    unfold StreamManager.handlerStep
    dsimp only
    split
    · exact (countKept_setState sm j _).trans (countKept_of_eq rfl rfl)
    · split <;> exact countKept_of_eq rfl rfl
  | dialing =>
    unfold StreamManager.handlerStep
    dsimp only
    split <;> exact (countKept_setState sm j _).trans (countKept_of_eq rfl rfl)
  | replaying =>
    refine CountKept.trans (?_ : CountKept sm (if ok then sm else sm.setState j .dead))
      ((countKept_modify (i := j) (f := fun rs => { rs with keepalive := true }) rfl).trans
        (countKept_of_eq rfl rfl))
    split
    · exact .refl sm
    · exact countKept_setState sm j _
  | reporting => exact (countKept_markUnhealthy sm j).trans (countKept_of_eq rfl rfl)

theorem countKept_loopStep (sm : StreamManager) (j : StreamId) (ok : Bool) :
    CountKept sm (sm.loopStep j ok) := by
  unfold StreamManager.loopStep
  split
  · exact countKept_modify rfl
  · split
    · exact countKept_modify rfl
    · exact .refl sm
  · exact (countKept_markUnhealthy sm j).trans (countKept_modify rfl)
  · exact .refl sm

/-- A step that neither counts nor puts a new stream in place keeps the count. -/
theorem countKept_step {a : StreamManager.Action} (ha : Uncounted a = true)
    (hnew : ∀ ok, a = .dialed ok → sm.dialing = true → ok = false) :
    CountKept sm (sm.step bufferSize a) := by
  cases a with
  | getOrCreate =>
    unfold StreamManager.step
    dsimp only
    split
    · exact .refl sm
    · exact countKept_of_eq rfl rfl
  | dialed ok =>
    unfold StreamManager.step
    dsimp only
    split
    · rename_i hdialing
      rw [hnew ok rfl hdialing]
      exact countKept_of_eq rfl rfl
    · exact .refl sm
  | send k msg =>
    unfold StreamManager.step
    dsimp only
    split
    · exact .refl sm
    · cases hactive : sm.active with
      | none => exact .refl sm
      | some j => exact countKept_of_eq rfl rfl
  | sendStep k =>
    show CountKept sm ((sm.calls k).elim sm _)
    cases sm.calls k with
    | none => exact .refl sm
    | some call => exact countKept_sendStep sm k call.1 call.2.1 call.2.2
  | timeout k =>
    show CountKept sm ((sm.calls k).elim sm _)
    cases sm.calls k with
    | none => exact .refl sm
    | some call =>
      simp only [Option.elim]
      split
      · exact countKept_of_eq rfl rfl
      · exact .refl sm
  | close => exact countKept_closeActive sm
  | addPlayer => cases ha
  | removePlayer => cases ha
  | idleClose j =>
    unfold StreamManager.step
    dsimp only
    split
    · split
      · exact (countKept_of_eq rfl rfl).trans (countKept_closeActive _)
      · exact countKept_of_eq rfl rfl
    · exact .refl sm
  | loopStep j ok =>
    unfold StreamManager.step
    dsimp only
    split
    · exact countKept_loopStep sm j ok
    · exact .refl sm
  | recvError j =>
    unfold StreamManager.step
    dsimp only
    split
    · exact (countKept_modify rfl).trans ((countKept_setState _ j _).trans
        (countKept_of_eq rfl rfl))
    · exact .refl sm
  | keepaliveTimeout j =>
    unfold StreamManager.step
    dsimp only
    split
    · exact (countKept_modify rfl).trans ((countKept_setState _ j _).trans
        (countKept_of_eq rfl rfl))
    · exact .refl sm
  | handlerStep k ok =>
    show CountKept sm ((sm.handlers k).elim sm _)
    cases sm.handlers k with
    | none => exact .refl sm
    | some handler => exact countKept_handlerStep sm k handler.1 ok handler.2

/-- A new stream counts nobody. -/
theorem count_install : ∀ i ∈ sm.install.active, (sm.install.heap i).playerCount = 0 := by
  intro i hi
  obtain rfl : sm.closeActive.next = i := Option.some.inj hi
  show (Function.update sm.closeActive.heap sm.closeActive.next {} _).playerCount = 0
  rw [Function.update_self]

/-- `AddPlayer` and `RemovePlayer` change the count by one. -/
theorem count_addPlayer : ∀ i ∈ (sm.step bufferSize .addPlayer).active, i ∈ sm.active ∧
    ((sm.step bufferSize .addPlayer).heap i).playerCount = (sm.heap i).playerCount + 1 := by
  unfold StreamManager.step
  dsimp only
  cases hactive : sm.active with
  | none => exact fun i hi => absurd (hactive ▸ hi : i ∈ (none : Option StreamId)) nofun
  | some j =>
    intro i hi
    obtain rfl : j = i := Option.some.inj (hactive.symm.trans hi)
    refine ⟨rfl, ?_⟩
    show ((sm.modify j fun rs => { rs with playerCount := rs.playerCount + 1 }).heap
      j).playerCount = _
    rw [StreamManager.modify_heap, if_pos rfl]

theorem count_removePlayer : ∀ i ∈ (sm.step bufferSize .removePlayer).active, i ∈ sm.active ∧
    ((sm.step bufferSize .removePlayer).heap i).playerCount = (sm.heap i).playerCount - 1 := by
  unfold StreamManager.step
  dsimp only
  cases hactive : sm.active with
  | none => exact fun i hi => absurd (hactive ▸ hi : i ∈ (none : Option StreamId)) nofun
  | some j =>
    intro i hi
    obtain rfl : j = i := Option.some.inj (hactive.symm.trans hi)
    refine ⟨rfl, ?_⟩
    show ((sm.modify j fun rs => { rs with playerCount := rs.playerCount - 1 }).heap
      j).playerCount = _
    rw [StreamManager.modify_heap, if_pos rfl]

/-! ## What a step does to the sessions -/

theorem Tidy.mem_conns (h : g.Tidy) (hc : g.Holds w c) : c ∈ g.conns := by
  by_contra hnot
  obtain ⟨hsession, hleaving⟩ := h.known c hnot
  rcases hc with ⟨⟨slot, hslot, -⟩, -⟩ | hc | hc
  · cases hsession.symm.trans hslot
  · cases (h.idle c hsession).symm.trans hc
  · cases hleaving.symm.trans hc

/-- Nobody else holds the stream. -/
theorem Tidy.card_le (h : g.Tidy) {g' : PlayerCounts}
    (hsub : ∀ d, g'.Holds w d → g.Holds w d) : (g'.holders w).card ≤ (g.holders w).card := by
  refine Finset.card_le_card fun d hd => ?_
  have hheld := hsub d (Finset.mem_filter.mp hd).2
  exact Finset.mem_filter.mpr ⟨h.mem_conns hheld, hheld⟩

/-- At most one more holds it. -/
theorem Tidy.card_le_succ (h : g.Tidy) {g' : PlayerCounts}
    (hsub : ∀ d, g'.Holds w d → d = c ∨ g.Holds w d) :
    (g'.holders w).card ≤ (g.holders w).card + 1 := by
  refine (Finset.card_le_card (t := insert c (g.holders w)) fun d hd => ?_).trans
    (Finset.card_insert_le c _)
  rcases hsub d (Finset.mem_filter.mp hd).2 with hdc | hheld
  · exact Finset.mem_insert.mpr (.inl hdc)
  · exact Finset.mem_insert_of_mem (Finset.mem_filter.mpr ⟨h.mem_conns hheld, hheld⟩)

/-- One less holds it. -/
theorem Tidy.card_lt (h : g.Tidy) {g' : PlayerCounts} (hc : g.Holds w c) (hnot : ¬g'.Holds w c)
    (hsub : ∀ d, g'.Holds w d → g.Holds w d) : (g'.holders w).card + 1 ≤ (g.holders w).card := by
  refine Finset.card_lt_card ⟨fun d hd => ?_, fun hall => hnot ?_⟩
  · have hheld := hsub d (Finset.mem_filter.mp hd).2
    exact Finset.mem_filter.mpr ⟨h.mem_conns hheld, hheld⟩
  · exact (Finset.mem_filter.mp (hall (Finset.mem_filter.mpr ⟨h.mem_conns hc, hc⟩))).2

/-- The connection `c` is as before for another one. -/
theorem holds_congr (g' : PlayerCounts) (hsession : g'.sessions c = g.sessions c)
    (hsent : g'.sent c = g.sent c) (hleaving : g'.leaving c = g.leaving c) :
    g'.Holds w c ↔ g.Holds w c := by
  unfold Holds
  rw [hsession, hsent, hleaving]

/-- One connection changes, and has a session or may be leaving. -/
theorem Tidy.update (h : g.Tidy) {g' : PlayerCounts} (hc : c ∈ g'.conns)
    (hconns : g.conns ⊆ g'.conns)
    (hother : ∀ d, d ≠ c → g'.sessions d = g.sessions d ∧ g'.sent d = g.sent d ∧
      g'.leaving d = g.leaving d)
    (hself : g'.sessions c = none ∧ g'.sent c = .idle ∨
      g'.leaving c = none ∧ g'.sessions c ≠ none) : g'.Tidy := by
  refine ⟨fun d hd => ?_, fun d y hy => ?_, fun d hd => ?_⟩
  · have hdc : d ≠ c := fun heq => hd (heq ▸ hc)
    obtain ⟨hsession, -, hleaving⟩ := hother d hdc
    rw [hsession, hleaving]
    exact h.known d fun hmem => hd (hconns hmem)
  · by_cases hdc : d = c
    · rw [hdc] at hy ⊢
      rcases hself with ⟨hnone, -⟩ | ⟨hnone, -⟩
      · cases hnone.symm.trans hy
      · exact hnone
    · obtain ⟨hsession, -, hleaving⟩ := hother d hdc
      rw [hleaving]
      exact h.apart d y (hsession ▸ hy)
  · by_cases hdc : d = c
    · rw [hdc] at hd ⊢
      rcases hself with ⟨-, hidle⟩ | ⟨-, hsome⟩
      · exact hidle
      · exact (hsome hd).elim
    · obtain ⟨hsession, hsent, -⟩ := hother d hdc
      rw [hsent]
      exact h.idle d (hsession ▸ hd)

/-- The streams of the other workers are as they were. -/
theorem onStream_streams (v : String) (a : StreamManager.Action) :
    (g.onStream bufferSize v a).streams w =
      if w = v then (g.streams v).step bufferSize a else g.streams w := by
  simp [onStream, Function.update_apply]

/-- One connection changes, and nobody is counted on a worker who was not before. -/
theorem Inv.fewer (h : g.Inv) {g' : PlayerCounts} (hc : c ∈ g'.conns)
    (hconns : g.conns ⊆ g'.conns) (hstreams : g'.streams = g.streams)
    (hother : ∀ d, d ≠ c → g'.sessions d = g.sessions d ∧ g'.sent d = g.sent d ∧
      g'.leaving d = g.leaving d)
    (hself : g'.sessions c = none ∧ g'.sent c = .idle ∨
      g'.leaving c = none ∧ g'.sessions c ≠ none)
    (hsub : ∀ w, g'.Holds w c → g.Holds w c) : g'.Inv := by
  refine ⟨h.toTidy.update hc hconns hother hself, fun w i hi => ?_⟩
  rw [hstreams] at hi ⊢
  have hold := h.count w i hi
  have hcard : (g'.holders w).card ≤ (g.holders w).card := h.card_le fun d hd => by
    by_cases hdc : d = c
    · exact hdc ▸ hsub w (hdc ▸ hd)
    · obtain ⟨hsession, hsent, hleaving⟩ := hother d hdc
      exact (holds_congr g' hsession hsent hleaving).mp hd
  omega

/-- `AddPlayer` for a connection that has a session. -/
theorem Inv.counted (h : g.Inv) {slot : PlayerSlot} (hc : g.sessions c = some slot) {v : String}
    {phase : SentPhase}
    (hsub : ∀ w, w ≠ v → (g.setSent c phase).Holds w c → g.Holds w c) :
    ((g.onStream bufferSize v .addPlayer).setSent c phase).Inv := by
  have hmem : c ∈ g.conns := h.mem_of_session hc
  have hother : ∀ d, d ≠ c → ∀ w, (g.setSent c phase).Holds w d → g.Holds w d := by
    intro d hd w hheld
    have hsent : (g.setSent c phase).sent d = g.sent d := Function.update_of_ne hd ..
    exact (holds_congr (g := g) (g.setSent c phase) rfl hsent rfl).mp hheld
  have htidy : (g.setSent c phase).Tidy :=
    h.toTidy.update hmem (Finset.Subset.refl _)
      (fun _ hd => ⟨rfl, Function.update_of_ne hd _ _, rfl⟩)
      (.inr ⟨h.apart c slot hc, fun hnone => nomatch hc.symm.trans hnone⟩)
  refine ⟨⟨htidy.known, htidy.apart, htidy.idle⟩, fun w i hi => ?_⟩
  change i ∈ ((g.onStream bufferSize v .addPlayer).streams w).active at hi
  change (((g.setSent c phase).holders w).card : Int) ≤
    (((g.onStream bufferSize v .addPlayer).streams w).heap i).playerCount
  rw [onStream_streams] at hi ⊢
  by_cases hw : w = v
  · subst hw
    rw [if_pos rfl] at hi ⊢
    obtain ⟨hactive, hcount⟩ := count_addPlayer i hi
    have hold := h.count w i hactive
    have hcard : ((g.setSent c phase).holders w).card ≤ _ :=
      h.card_le_succ (c := c) fun d hd => by
        by_cases hdc : d = c
        · exact .inl hdc
        · exact .inr (hother d hdc w hd)
    rw [hcount]
    omega
  · rw [if_neg hw] at hi ⊢
    have hold := h.count w i hi
    have hcard : ((g.setSent c phase).holders w).card ≤ _ := h.card_le fun d hd => by
      by_cases hdc : d = c
      · exact hdc ▸ hsub w hw (hdc ▸ hd)
      · exact hother d hdc w hd
    omega

/-- A session is set where there is one. -/
theorem Inv.session (h : g.Inv) {slot : PlayerSlot} (hc : g.sessions c = some slot) (x : PlayerSlot)
    (phase : SentPhase)
    (hsub : ∀ w, ((g.setSession c (some x)).setSent c phase).Holds w c → g.Holds w c) :
    ((g.setSession c (some x)).setSent c phase).Inv := by
  have hsome : ((g.setSession c (some x)).setSent c phase).sessions c ≠ none := by
    change Function.update g.sessions c (some x) c ≠ none
    rw [Function.update_self]
    exact nofun
  exact h.fewer (h.mem_of_session hc) (Finset.Subset.refl _) rfl
    (fun _ hd => ⟨Function.update_of_ne hd _ _, Function.update_of_ne hd _ _, rfl⟩)
    (.inr ⟨h.apart c slot hc, hsome⟩) hsub

/-- What it holds then. -/
theorem holds_session {x : PlayerSlot} {phase : SentPhase}
    (h : ((g.setSession c (some x)).setSent c phase).Holds w c) :
    x.workerID = some w ∧ phase ≠ .workerSet w ∨ phase = .created w ∨ g.leaving c = some w := by
  rcases h with ⟨⟨y, hy, hw⟩, hne⟩ | h | h
  · cases (Function.update_self c _ g.sessions).symm.trans hy
    exact .inl ⟨hw, fun heq => hne ((Function.update_self ..).trans heq)⟩
  · exact .inr (.inl ((Function.update_self c _ g.sent).symm.trans h))
  · exact .inr (.inr h)

/-- A client connects. -/
theorem Inv.opened (h : g.Inv) (hc : c ∉ g.conns) :
    Inv { g.setSession c (some {}) with conns := insert c g.conns } := by
  obtain ⟨hnone, hleaving⟩ := h.known c hc
  have hsent : g.sent c = .idle := h.idle c hnone
  have hsome : (g.setSession c (some {})).sessions c ≠ none := by
    change Function.update g.sessions c (some {}) c ≠ none
    rw [Function.update_self]
    exact nofun
  refine h.fewer (Finset.mem_insert_self c _) (Finset.subset_insert c _) rfl
    (fun _ hd => ⟨Function.update_of_ne hd _ _, rfl, rfl⟩) (.inr ⟨hleaving, hsome⟩) fun w hd => ?_
  rcases hd with ⟨⟨x, hx, hw⟩, -⟩ | hd | hd
  · cases (Function.update_self c _ g.sessions).symm.trans hx
    cases hw
  · cases hsent.symm.trans hd
  · cases hleaving.symm.trans hd

/-- A session gets a room, at the start of a handler or apart from it. -/
theorem Inv.identity (h : g.Inv) {slot : PlayerSlot} (hc : g.sessions c = some slot)
    (roomCode : String) {phase : SentPhase}
    (hphase : phase = g.sent c ∨ g.sent c = .idle ∧ ∀ w, phase ≠ .created w) :
    ((g.setSession c (some { slot with roomCode := roomCode })).setSent c phase).Inv := by
  refine h.session hc _ phase fun w hd => ?_
  rcases holds_session hd with ⟨hw, hne⟩ | hd | hd
  · refine .inl ⟨⟨slot, hc, hw⟩, fun heq => ?_⟩
    rcases hphase with hsame | ⟨hidle, -⟩
    · exact hne (hsame.trans heq)
    · cases hidle.symm.trans heq
  · rcases hphase with hsame | ⟨-, hcreated⟩
    · exact .inr (.inl (hsame.symm.trans hd))
    · exact (hcreated w hd).elim
  · exact .inr (.inr hd)

/-- **A statement of a handler**: a session that is put on a worker is counted there before or
afterwards. -/
theorem Inv.handlerStep (h : g.Inv) {slot : PlayerSlot} (hc : g.sessions c = some slot) :
    (g.handlerStep bufferSize c slot (g.sent c)).Inv := by
  cases hsent : g.sent c with
  | idle => exact h
  | created v =>
    refine h.session hc _ .idle fun w hd => ?_
    rcases holds_session hd with ⟨hw, -⟩ | hd | hd
    · cases hw
      exact .inr (.inl hsent)
    · cases hd
    · exact .inr (.inr hd)
  | roomSet v =>
    refine h.session hc _ (.workerSet v) fun w hd => ?_
    rcases holds_session hd with ⟨hw, hne⟩ | hd | hd
    · cases hw
      exact (hne rfl).elim
    · cases hd
    · exact .inr (.inr hd)
  | workerSet v =>
    refine h.counted hc fun w hw hd => ?_
    rcases hd with ⟨hon, -⟩ | hd | hd
    · refine .inl ⟨hon, fun heq => hw ?_⟩
      cases hsent.symm.trans heq
      rfl
    · cases (Function.update_self c _ g.sent).symm.trans hd
    · exact .inr (.inr hd)

/-- A client disconnects: it still holds its stream if it has a room. -/
theorem Inv.disconnected (h : g.Inv) {slot : PlayerSlot} (hc : g.sessions c = some slot)
    (hsent : g.sent c = .idle) :
    Inv { g.setSession c none with
      leaving := Function.update g.leaving c
        (if slot.roomCode = "" then none else slot.workerID) } := by
  refine h.fewer (h.mem_of_session hc) (Finset.Subset.refl _) rfl
    (fun _ hd => ⟨Function.update_of_ne hd _ _, rfl, Function.update_of_ne hd _ _⟩)
    (.inl ⟨Function.update_self .., hsent⟩) fun w hd => ?_
  rcases hd with ⟨⟨x, hx, hw⟩, -⟩ | hd | hd
  · cases (Function.update_self c _ g.sessions).symm.trans hx
  · cases hsent.symm.trans hd
  · have hd := (Function.update_self c _ g.leaving).symm.trans hd
    split at hd
    · cases hd
    · exact .inl ⟨⟨slot, hc, hd⟩, fun heq => nomatch hsent.symm.trans heq⟩

/-- Nobody else stops holding a stream when one has left. -/
theorem Tidy.holds_left (h : g.Tidy) {v : String} (hc : g.leaving c = some v)
    (hnone : g.sessions c = none) {d : Nat}
    (hd : Holds { g with leaving := Function.update g.leaving c none } w d) :
    d ≠ c ∧ g.Holds w d := by
  by_cases hdc : d = c
  · subst hdc
    rcases hd with ⟨⟨x, hx, hw⟩, -⟩ | hd | hd
    · cases hnone.symm.trans hx
    · cases (h.idle d hnone).symm.trans hd
    · cases (Function.update_self d _ g.leaving).symm.trans hd
  · refine ⟨hdc, ?_⟩
    rcases hd with hd | hd | hd
    · exact .inl hd
    · exact .inr (.inl hd)
    · exact .inr (.inr ((Function.update_of_ne hdc _ _).symm.trans hd))

/-- Who is leaving has no session. -/
theorem Tidy.sessions_of_leaving (h : g.Tidy) {v : String} (hc : g.leaving c = some v) :
    g.sessions c = none := by
  cases hslot : g.sessions c with
  | none => rfl
  | some slot => cases (h.apart c slot hslot).symm.trans hc

/-- `RemovePlayer` for a client that has left. -/
theorem Inv.removed (h : g.Inv) {v : String} (hc : g.leaving c = some v) :
    Inv { g.onStream bufferSize v .removePlayer with
      leaving := Function.update g.leaving c none } := by
  have hnone : g.sessions c = none := h.sessions_of_leaving hc
  have htidy : Tidy { g with leaving := Function.update g.leaving c none } :=
    h.toTidy.update (h.mem_conns (.inr (.inr hc))) (Finset.Subset.refl _)
      (fun _ hd => ⟨rfl, rfl, Function.update_of_ne hd _ _⟩) (.inl ⟨hnone, h.idle c hnone⟩)
  refine ⟨⟨htidy.known, htidy.apart, htidy.idle⟩, fun w i hi => ?_⟩
  change i ∈ ((g.onStream bufferSize v .removePlayer).streams w).active at hi
  change ((holders { g with leaving := Function.update g.leaving c none } w).card : Int) ≤
    (((g.onStream bufferSize v .removePlayer).streams w).heap i).playerCount
  rw [onStream_streams] at hi ⊢
  by_cases hw : w = v
  · subst hw
    rw [if_pos rfl] at hi ⊢
    obtain ⟨hactive, hcount⟩ := count_removePlayer i hi
    have hold := h.count w i hactive
    have hcard := h.card_lt (.inr (.inr hc)) (fun hd => (h.holds_left hc hnone hd).1 rfl)
      fun d hd => (h.holds_left hc hnone hd).2
    rw [hcount]
    omega
  · rw [if_neg hw] at hi ⊢
    have hold := h.count w i hi
    have hcard := h.card_le (w := w) fun d hd => (h.holds_left hc hnone hd).2
    omega

/-- A step of a stream: a new one counts nobody, and nobody is on its worker. -/
theorem Inv.stream (h : g.Inv) {v : String} {b : StreamManager.Action} (hb : Uncounted b)
    (hfresh : g.Fresh (.stream v b)) : (g.onStream bufferSize v b).Inv := by
  refine ⟨⟨h.known, h.apart, h.idle⟩, fun w i hi => ?_⟩
  change ((g.holders w).card : Int) ≤ (((g.onStream bufferSize v b).streams w).heap i).playerCount
  rw [onStream_streams] at hi ⊢
  by_cases hw : w = v
  · subst hw
    rw [if_pos rfl] at hi ⊢
    by_cases hnew : ∀ ok, b = .dialed ok → (g.streams w).dialing = true → ok = false
    · obtain ⟨hactive, hcount⟩ := countKept_step hb hnew i hi
      rw [hcount]
      exact h.count w i hactive
    · push Not at hnew
      obtain ⟨ok, rfl, hdialing, hok⟩ := hnew
      have hok : ok = true := by simpa using hok
      subst hok
      have hempty : g.holders w = ∅ := hfresh hdialing rfl
      have hstep : (g.streams w).step bufferSize (.dialed true) =
          { (g.streams w).install with dialing := false } := by
        simp [StreamManager.step, hdialing]
      rw [hstep] at hi ⊢
      rw [hempty, Finset.card_empty]
      exact (count_install i hi).ge
  · rw [if_neg hw] at hi ⊢
    exact h.count w i hi

/-- **A fresh step keeps the counts.** -/
theorem Inv.step (h : g.Inv) {a : Action} (ha : g.Fresh a) : (g.step bufferSize a).Inv := by
  cases a with
  | opened c =>
    show (if c ∈ g.conns then g else _).Inv
    split
    · exact h
    · exact h.opened ‹_›
  | identity c roomCode =>
    show ((g.sessions c).elim g _).Inv
    cases hc : g.sessions c with
    | none => exact h
    | some slot =>
      have hset := h.identity hc roomCode (.inl rfl)
      rwa [setSent, show (g.setSession c _).sent = g.sent from rfl, Function.update_eq_self] at hset
  | created c v =>
    show ((g.sessions c).elim g _).Inv
    cases hc : g.sessions c with
    | none => exact h
    | some slot =>
      simp only [Option.elim]
      split
      · rename_i hidle
        refine h.counted hc fun w hw hd => ?_
        rcases hd with ⟨hon, -⟩ | hd | hd
        · exact .inl ⟨hon, fun heq => nomatch hidle.symm.trans heq⟩
        · cases (Function.update_self c _ g.sent).symm.trans hd
          exact (hw rfl).elim
        · exact .inr (.inr hd)
      · exact h
  | joined c roomCode v =>
    show ((g.sessions c).elim g _).Inv
    cases hc : g.sessions c with
    | none => exact h
    | some slot =>
      simp only [Option.elim]
      split
      · rename_i hidle
        exact h.identity hc roomCode (.inr ⟨hidle, nofun⟩)
      · exact h
  | handler c =>
    show ((g.sessions c).elim g _).Inv
    cases hc : g.sessions c with
    | none => exact h
    | some slot => exact h.handlerStep hc
  | disconnected c =>
    show ((g.sessions c).elim g _).Inv
    cases hc : g.sessions c with
    | none => exact h
    | some slot =>
      simp only [Option.elim]
      split
      · exact h.disconnected hc ‹_›
      · exact h
  | removed c =>
    show ((g.leaving c).elim g _).Inv
    cases hc : g.leaving c with
    | none => exact h
    | some v => exact h.removed hc
  | stream v b =>
    show (if Uncounted b then g.onStream bufferSize v b else g).Inv
    split
    · exact h.stream ‹_› ha
    · exact h

/-! ## Runs -/

theorem inv_start : Inv {} :=
  ⟨⟨fun _ _ => ⟨rfl, rfl⟩, fun _ _ h => (nomatch h), fun _ _ => rfl⟩, fun _ _ h => (nomatch h)⟩

theorem Inv.run (h : g.Inv) {as : List Action} (has : g.AllFresh bufferSize as) :
    (g.run bufferSize as).Inv := by
  induction as generalizing g with
  | nil => exact h
  | cons a as ih => exact ih (h.step has.1) has.2

/-- A run is fresh up to each of its steps, and in that step. -/
theorem AllFresh.split {bs cs : List Action} (h : g.AllFresh bufferSize (bs ++ cs)) :
    g.AllFresh bufferSize bs ∧ (g.run bufferSize bs).AllFresh bufferSize cs := by
  induction bs generalizing g with
  | nil => exact ⟨trivial, h⟩
  | cons b bs ih =>
    obtain ⟨hbs, hcs⟩ := ih h.2
    exact ⟨⟨h.1, hbs⟩, hcs⟩

/-- A player creates a room on a new stream, leaves, and the stream is closed as idle. -/
def creates : List Action :=
  [.opened 0, .stream "w" .getOrCreate, .stream "w" (.dialed true), .created 0 "w", .handler 0,
    .identity 0 "ROOM01", .disconnected 0, .removed 0, .stream "w" (.idleClose 0)]

/-- The stream fails while the player stays, and another player comes and goes. -/
def replaced : List Action :=
  creates.take 6 ++ [.stream "w" (.recvError 0), .opened 1, .stream "w" .getOrCreate,
    .stream "w" (.dialed true), .joined 1 "ROOM01" "w", .handler 1, .handler 1, .disconnected 1,
    .removed 1]

end PlayerCounts

end Skribbl.Gateway
