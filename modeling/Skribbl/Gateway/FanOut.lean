import Skribbl.Gateway.Session
import Skribbl.Gateway.WritePump

/-!
# Fan-out (`gateway/fanout.go`)

* `enqueueNonBlocking` — the class-aware enqueue on one session's queue.
* `deliver` — a worker's message to its targets, or to everyone in the room index.
* `deliverBinary` — a client's binary frame to everyone else in the room.

Principal results:

* `deliverBinary_sendCh` — what a relayed frame does to each queue.
* `deliverBinary_confined_iff` — exactly when a relayed frame stays in binary frames at its
  receivers.
-/

set_option autoImplicit false

namespace Skribbl.Gateway

open ByteJson

variable {M : Type}

/-- `"control"` or `"lossy"`. -/
inductive MessageClass where
  | control
  | lossy
  deriving DecidableEq

/-- `proto.BroadcastMessage`. -/
structure BroadcastMessage (M : Type) where
  roomCode : String
  targetPlayerIds : List String
  messageType : String
  payload : M

/-- The class of a worker's message. -/
def classOf (messageType : String) : MessageClass :=
  if messageType = "broadcast_lossy" ∨ messageType = "targeted_lossy" then .lossy else .control

/-- `enqueueNonBlocking` on a queue of capacity `cap`: a full queue drops a lossy message, and
gives up its oldest one for a control message. -/
def enqueueNonBlocking (cap : Nat) (sendCh : List M) (payload : M) (c : MessageClass) : List M :=
  if sendCh.length < cap then sendCh ++ [payload]
  else
    match c with
    | .lossy => sendCh
    | .control =>
      let evicted := sendCh.drop 1
      if evicted.length < cap then evicted ++ [payload] else evicted

namespace Registry

def enqueue (cap : Nat) (payload : M) (c : MessageClass) (sr : Registry M) (sid : SessionId) :
    Registry M :=
  sr.modify sid fun s => { s with sendCh := enqueueNonBlocking cap s.sendCh payload c }

/-- The sessions that `Deliver` enqueues on. -/
def recipients (sr : Registry M) (roomCode : String) (targetPlayerIds : List String) :
    List SessionId :=
  if targetPlayerIds = [] then sr.getByRoom roomCode
  else targetPlayerIds.filterMap sr.getByPlayer

/-- `Deliver`. -/
def deliver (cap : Nat) (sr : Registry M) (msg : BroadcastMessage M) : Registry M :=
  (sr.recipients msg.roomCode msg.targetPlayerIds).foldl
    (enqueue cap msg.payload (classOf msg.messageType)) sr

/-- `DeliverBinary`. -/
def deliverBinary (cap : Nat) (sr : Registry M) (roomCode senderPlayerID : String)
    (payload : M) : Registry M :=
  ((sr.getByRoom roomCode).filter fun sid => (sr.heap sid).playerID ≠ senderPlayerID).foldl
    (enqueue cap payload .lossy) sr

/-! ## What delivery does to the queues -/

/-- A lossy message only ever extends a queue. -/
theorem enqueue_lossy (cap : Nat) (sr : Registry M) (payload : M) (sid i : SessionId) :
    ∃ ms, ((enqueue cap payload .lossy sr sid).heap i).sendCh = (sr.heap i).sendCh ++ ms ∧
      (∀ m ∈ ms, m = payload) ∧
      (i = sid → (sr.heap i).sendCh.length < cap → payload ∈ ms) ∧
      (i ≠ sid ∨ cap ≤ (sr.heap i).sendCh.length → ms = []) := by
  simp only [enqueue, modify_heap]
  by_cases hi : i = sid
  · subst hi
    simp only [if_true, enqueueNonBlocking]
    by_cases hc : (sr.heap i).sendCh.length < cap
    · rw [if_pos hc]
      refine ⟨[payload], rfl, by simp, by simp, fun h => ?_⟩
      rcases h with h | h
      · exact absurd rfl h
      · omega
    · rw [if_neg hc]
      exact ⟨[], by simp, by simp, fun _ h => absurd h hc, by simp⟩
  · rw [if_neg hi]
    exact ⟨[], by simp, by simp, fun h => absurd h hi, by simp⟩

theorem foldl_enqueue_lossy (cap : Nat) (payload : M) (sids : List SessionId) (sr : Registry M)
    (i : SessionId) :
    ∃ ms, ((sids.foldl (enqueue cap payload .lossy) sr).heap i).sendCh =
        (sr.heap i).sendCh ++ ms ∧
      (∀ m ∈ ms, m = payload) ∧
      (i ∈ sids → (sr.heap i).sendCh.length < cap → payload ∈ ms) ∧
      (i ∉ sids ∨ cap ≤ (sr.heap i).sendCh.length → ms = []) := by
  induction sids generalizing sr with
  | nil => exact ⟨[], by simp, by simp, by simp, by simp⟩
  | cons sid sids ih =>
    obtain ⟨ms, hms, hall, hin, hout⟩ := enqueue_lossy cap sr payload sid i
    obtain ⟨ms', hms', hall', hin', hout'⟩ := ih (enqueue cap payload .lossy sr sid)
    refine ⟨ms ++ ms', ?_, ?_, ?_, ?_⟩
    · rw [List.foldl_cons, hms', hms, List.append_assoc]
    · rw [List.forall_mem_append]
      exact ⟨hall, hall'⟩
    · intro hi hcap
      by_cases his : i = sid
      · exact List.mem_append_left _ (hin his hcap)
      · have hq : ((enqueue cap payload .lossy sr sid).heap i).sendCh = (sr.heap i).sendCh := by
          rw [hms, hout (.inl his), List.append_nil]
        refine List.mem_append_right _ (hin' ?_ (by rw [hq]; exact hcap))
        exact (List.mem_cons.mp hi).resolve_left his
    · intro hi
      have hnil : ms = [] := by
        refine hout (hi.imp_left fun h => ?_)
        exact fun h' => h (by rw [h']; exact List.mem_cons_self)
      rw [hnil, List.append_nil] at hms
      rw [hnil, List.nil_append]
      refine hout' (hi.imp (fun h h' => h (List.mem_cons_of_mem _ h')) fun h => ?_)
      rw [hms]
      exact h

/-- **A relayed frame is put on the queue of every other session of the room that has space, and
on no other queue.** -/
theorem deliverBinary_sendCh (cap : Nat) (sr : Registry M) (roomCode sender : String)
    (payload : M) (sid : SessionId) :
    ∃ ms, ((sr.deliverBinary cap roomCode sender payload).heap sid).sendCh =
        (sr.heap sid).sendCh ++ ms ∧
      (∀ m ∈ ms, m = payload) ∧
      (sid ∈ sr.getByRoom roomCode → (sr.heap sid).playerID ≠ sender →
        (sr.heap sid).sendCh.length < cap → payload ∈ ms) ∧
      (sid ∉ sr.getByRoom roomCode ∨ (sr.heap sid).playerID = sender ∨
        cap ≤ (sr.heap sid).sendCh.length → ms = []) := by
  obtain ⟨ms, hms, hall, hin, hout⟩ := foldl_enqueue_lossy cap payload
    ((sr.getByRoom roomCode).filter fun sid => (sr.heap sid).playerID ≠ sender) sr sid
  refine ⟨ms, hms, hall, fun hr hp => hin ?_, fun h => hout ?_⟩
  · exact List.mem_filter.mpr ⟨hr, by simpa using hp⟩
  · rcases h with h | h | h
    · exact .inl fun hmem => h (List.mem_filter.mp hmem).1
    · refine .inl fun hmem => ?_
      have hp := (List.mem_filter.mp hmem).2
      exact (by simpa using hp : (sr.heap sid).playerID ≠ sender) h
    · exact .inr h

end Registry

/-! ## Confinement -/

/-- Message `m` stays in binary frames, alone or among binary draw messages, and nothing of these
frames reaches the client's JSON handler. -/
structure Confined (payload : M → Bytes) (frames : List (Frame M)) (m : M) : Prop where
  binary : ∀ f ∈ frames, .msg m ∈ f.parts → f.kind = .binary
  companions : ∀ f ∈ frames, .msg m ∈ f.parts → ∀ x ∈ f.parts,
    ∃ m', x = .msg m' ∧ isBinaryDrawMessage (payload m') = true
  notText : ∀ f ∈ frames, .msg m ∈ f.parts → ∀ i ∈ onmessage f.kind (f.bytes payload),
    i.isJson = false

/-- The client hands on nothing but drawing events from a binary frame. -/
theorem onmessage_binary {s : Bytes} {i : Item} (h : i ∈ onmessage .binary s) :
    i.isJson = false := by
  obtain ⟨e, -, rfl⟩ := List.mem_map.mp h
  rfl

theorem confined_iff {payload : M → Bytes} {coalesce : Bool} {sees : Nat → Burst × Burst}
    {queue : List M} {m : M} :
    Confined payload (writePump payload coalesce sees queue) m ↔
      isBinaryDrawMessage (payload m) = true ∨ m ∉ queue := by
  have hpure := writePump_parts payload coalesce sees queue
  constructor
  · intro h
    by_cases hm : m ∈ queue
    · obtain ⟨f, hf, hmf⟩ := writePump_carries payload coalesce sees hm
      obtain ⟨m', he, hb⟩ := h.companions f hf hmf _ hmf
      cases he
      exact .inl hb
    · exact .inr hm
  · intro hb
    have hkind : ∀ f ∈ writePump payload coalesce sees queue, .msg m ∈ f.parts →
        f.kind = .binary := by
      intro f hf hmf
      rcases hb with hb | hm
      · cases hk : f.kind with
        | binary => rfl
        | text =>
          have := (hpure f hf).2 hk m hmf
          rw [hb] at this
          cases this
      · exact absurd (writePump_queued hf hmf) hm
    refine ⟨hkind, fun f hf hmf => (hpure f hf).1 (hkind f hf hmf), fun f hf hmf i hi => ?_⟩
    rw [hkind f hf hmf] at hi
    exact onmessage_binary hi

/-- **A client's binary frame stays binary at a receiver exactly when it starts with a byte below
`0x20`, or is dropped because the receiver's queue is full.**  The queue may go on with anything. -/
theorem deliverBinary_confined_iff {payload : M → Bytes} {cap : Nat} {sr : Registry M}
    {roomCode sender : String} {m : M} {sid : SessionId} (hroom : sid ∈ sr.getByRoom roomCode)
    (hsid : (sr.heap sid).playerID ≠ sender) {coalesce : Bool} {sees : Nat → Burst × Burst}
    {rest : List M} :
    Confined payload (writePump payload coalesce sees
        (((sr.deliverBinary cap roomCode sender m).heap sid).sendCh ++ rest)) m ↔
      (∃ b s, payload m = b :: s ∧ b < 0x20) ∨
        (cap ≤ (sr.heap sid).sendCh.length ∧ m ∉ (sr.heap sid).sendCh ++ rest) := by
  obtain ⟨ms, hms, -, hin, hout⟩ := Registry.deliverBinary_sendCh cap sr roomCode sender m sid
  have hfirst : isBinaryDrawMessage (payload m) = true ↔ ∃ b s, payload m = b :: s ∧ b < 0x20 := by
    cases payload m with
    | nil => simp [isBinaryDrawMessage]
    | cons b s => simp [isBinaryDrawMessage]
  rw [confined_iff, hfirst, hms]
  by_cases hcap : (sr.heap sid).sendCh.length < cap
  · have hm := hin hroom hsid hcap
    have hnle : ¬cap ≤ (sr.heap sid).sendCh.length := by omega
    simp [hm, hnle]
  · rw [hout (.inr (.inr (by omega))), List.append_nil]
    simp only [show cap ≤ (sr.heap sid).sendCh.length by omega, true_and]

/-- Players `a` and `b` in one room. -/
def twoPlayers : Registry Bytes :=
  (GatewayState.new.run [.opened 1, .joinRoom 1 "ROOM01" "w1" true,
    .identity "pending_1" "a" "ROOM01", .opened 2, .joinRoom 2 "ROOM01" "w1" true,
    .identity "pending_2" "b" "ROOM01"]).registry

/-- The text of a `kicked` message without a payload. -/
def kicked : Bytes :=
  [0x7B, 0x22, 0x74, 0x79, 0x70, 0x65, 0x22, 0x3A, 0x22, 0x6B, 0x69, 0x63, 0x6B, 0x65, 0x64, 0x22,
    0x7D]

/-- Every drain finds the queue empty. -/
def noneBehind : Nat → Burst × Burst := fun _ => (⟨0, 0⟩, ⟨0, 0⟩)

/-- Player `a` sends a JSON text as a binary frame; `b` is handed a control message. -/
theorem kicked_not_confined :
    1 ∈ twoPlayers.getByRoom "ROOM01" ∧ (twoPlayers.heap 1).playerID ≠ "a" ∧
      ¬Confined id (writePump id true noneBehind
        ((twoPlayers.deliverBinary 1024 "ROOM01" "a" kicked).heap 1).sendCh) kicked := by
  refine ⟨by decide +kernel, by decide +kernel, fun h => ?_⟩
  have hq : ((twoPlayers.deliverBinary 1024 "ROOM01" "a" kicked).heap 1).sendCh = [kicked] := by
    decide +kernel
  rw [hq] at h
  have hf : ⟨.text, [.msg kicked]⟩ ∈ writePump id true noneBehind [kicked] := by
    have : writePump id true noneBehind [kicked] = [⟨.text, [.msg kicked]⟩] := rfl
    rw [this]
    exact List.mem_singleton_self _
  cases h.binary _ hf (List.mem_singleton_self _)

theorem clear_confined :
    Confined id (writePump id true noneBehind
      (((twoPlayers.deliverBinary 1024 "ROOM01" "a" [0x02]).heap 1).sendCh ++ [kicked])) [0x02] :=
  (deliverBinary_confined_iff (by decide +kernel) (by decide +kernel)).mpr
    (.inl ⟨0x02, [], rfl, by decide⟩)

end Skribbl.Gateway
