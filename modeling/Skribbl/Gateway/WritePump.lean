import Skribbl.Lib.Json
import Skribbl.Frontend.BinaryDrawing

/-!
# The write pump (`gateway/session.go`) and the client's side of it

* `isBinaryDrawMessage`, `drainLoopBin`, `drainLoop`, `processTextMessage`, `pumpRound`,
  `writePump` — the goroutine that turns a session's queue into WebSocket frames.  What each
  `len(session.SendCh)` call and each receive of a drain loop finds is an argument, so every
  batching is covered.
* `onmessage`, `handleWsMessage` — the client's `ws.onmessage`, up to the single messages that it
  hands on.

A frame keeps the messages it was built from, so that a message can be followed into it; the
message type is arbitrary, with its bytes given by `payload`.

Principal results:

* `writePump_delivers_iff` — exactly when the frames decode to the messages that were queued.
* `writePump_parts` — a binary frame carries binary draw messages only, a text frame none.
* `writePump_carries` — every queued message is carried by some frame.
-/

set_option autoImplicit false

namespace Skribbl.Gateway

open ByteJson
open BinaryDrawing hiding Bytes

/-! ## Frames -/

/-- `websocket.TextMessage` / `websocket.BinaryMessage`. -/
inductive MessageType where
  | text
  | binary
  deriving DecidableEq

/-- What is written into a frame: a byte of the pump's own, or a whole message. -/
inductive Part (M : Type) where
  | lit (b : UInt8)
  | msg (m : M)

structure Frame (M : Type) where
  kind : MessageType
  parts : List (Part M)

variable {M : Type} (payload : M → Bytes)

def Part.bytes : Part M → Bytes
  | .lit b => [b]
  | .msg m => payload m

/-- `buf.Bytes()`. -/
def partsBytes (ps : List (Part M)) : Bytes := ps.flatMap (Part.bytes payload)

def Frame.bytes (f : Frame M) : Bytes := partsBytes payload f.parts

/-! ## The pump -/

/-- `isBinaryDrawMessage`. -/
def isBinaryDrawMessage : Bytes → Bool
  | [] => false
  | b :: _ => b < 0x20

/-- `maxBatchSize`. -/
def maxBatchSize : Nat := 64

/-- What one drain finds: `len(session.SendCh)` before it, and how many receives succeed before
the channel is empty. -/
structure Burst where
  len : Nat
  avail : Nat

/-- The receives of a drain loop: `n`, capped, cut short by `default`. -/
def Burst.rounds (b : Burst) : Nat := min (min b.len (maxBatchSize - 1)) b.avail

/-- `drainLoopBin`: the buffer, the text message it jumps out with, and the queue left. -/
def drainLoopBin : Nat → List (Part M) → List M → List (Part M) × Option M × List M
  | 0, buf, queue => (buf, none, queue)
  | _ + 1, buf, [] => (buf, none, [])
  | n + 1, buf, nextMsg :: queue =>
    if isBinaryDrawMessage (payload nextMsg) then drainLoopBin n (buf ++ [.msg nextMsg]) queue
    else (buf, some nextMsg, queue)

/-- `drainLoop`: the frames written, the closing flush included, and the queue left. -/
def drainLoop : Nat → List (Part M) → List M → List (Frame M) × List M
  | 0, buf, queue => ([⟨.text, buf ++ [.lit 0x5D]⟩], queue)
  | _ + 1, buf, [] => ([⟨.text, buf ++ [.lit 0x5D]⟩], [])
  | n + 1, buf, nextMsg :: queue =>
    if isBinaryDrawMessage (payload nextMsg) then
      -- the buffer goes on as it is, closing bracket included
      let r := drainLoop n (buf ++ [.lit 0x5D]) queue
      (⟨.text, buf ++ [.lit 0x5D]⟩ :: ⟨.binary, [.msg nextMsg]⟩ :: r.1, r.2)
    else drainLoop n (buf ++ [.lit 0x2C, .msg nextMsg]) queue

/-- From the label `processTextMessage` on. -/
def processTextMessage (coalesce : Bool) (b : Burst) (msg : M) (queue : List M) :
    List (Frame M) × List M :=
  if !coalesce || b.len == 0 then ([⟨.text, [.msg msg]⟩], queue)
  else drainLoop payload b.rounds [.lit 0x5B, .msg msg] queue

/-- The branch for a binary message: the frame written, the text message it goes on with, and the
queue left. -/
def processBinaryMessage (coalesce : Bool) (b : Burst) (msg : M) (queue : List M) :
    List (Frame M) × Option M × List M :=
  if !coalesce || b.len == 0 then ([⟨.binary, [.msg msg]⟩], none, queue)
  else
    let r := drainLoopBin payload b.rounds [.msg msg] queue
    ([⟨.binary, r.1⟩], r.2)

/-- How a round starts: the frames of the binary branch, if it is taken, and the text message to
go on with. -/
def roundHead (coalesce : Bool) (b : Burst) (msg : M) (queue : List M) :
    List (Frame M) × Option M × List M :=
  if isBinaryDrawMessage (payload msg) then processBinaryMessage payload coalesce b msg queue
  else ([], some msg, queue)

/-- One round of the `for` loop, for the message it received. -/
def pumpRound (coalesce : Bool) (b : Burst × Burst) (msg : M) (queue : List M) :
    List (Frame M) × List M :=
  match roundHead payload coalesce b.1 msg queue with
  | (frames, none, rest) => (frames, rest)
  | (frames, some text, rest) =>
    let r := processTextMessage payload coalesce b.2 text rest
    (frames ++ r.1, r.2)

/-- The `for` loop, for at most so many rounds. -/
def pumpLoop (coalesce : Bool) : Nat → (Nat → Burst × Burst) → List M → List (Frame M)
  | 0, _, _ => []
  | _ + 1, _, [] => []
  | n + 1, sees, msg :: queue =>
    let r := pumpRound payload coalesce (sees 0) msg queue
    r.1 ++ pumpLoop coalesce n (fun i => sees (i + 1)) r.2

/-- `writePump`, until the queue is empty; every round takes at least one message. -/
def writePump (coalesce : Bool) (sees : Nat → Burst × Burst) (queue : List M) : List (Frame M) :=
  pumpLoop payload coalesce queue.length sees queue

/-! ## What the text drains take -/

/-- The messages that `drainLoop` receives. -/
def textTaken (coalesce : Bool) (b : Burst) (queue : List M) : List M :=
  if !coalesce || b.len == 0 then [] else queue.take b.rounds

/-- The messages that `drainLoop` receives in one round. -/
def roundTaken (coalesce : Bool) (b : Burst × Burst) (msg : M) (queue : List M) : List M :=
  match roundHead payload coalesce b.1 msg queue with
  | (_, none, _) => []
  | (_, some _, rest) => textTaken coalesce b.2 rest

def drainedLoop (coalesce : Bool) : Nat → (Nat → Burst × Burst) → List M → List M
  | 0, _, _ => []
  | _ + 1, _, [] => []
  | n + 1, sees, msg :: queue =>
    roundTaken payload coalesce (sees 0) msg queue ++
      drainedLoop coalesce n (fun i => sees (i + 1))
        (pumpRound payload coalesce (sees 0) msg queue).2

/-- All messages that are received by `drainLoop`, that is behind a text message in one burst. -/
def drainedByText (coalesce : Bool) (sees : Nat → Burst × Burst) (queue : List M) : List M :=
  drainedLoop payload coalesce queue.length sees queue

/-! ## The client -/

/-- What the client hands on. -/
inductive Item where
  | json (v : Value)
  | draw (e : DrawEvent)

def Item.isJson : Item → Bool
  | .json _ => true
  | .draw _ => false

mutual
/-- `handleWsMessage`: arrays are flattened in order. -/
def handleWsMessage : Value → List Value
  | .arr xs => handleWsMessages xs
  | v => [v]

def handleWsMessages : List Value → List Value
  | [] => []
  | v :: vs => handleWsMessage v ++ handleWsMessages vs
end

/-- `ws.onmessage`; a text frame that is not JSON is dropped. -/
def onmessage (kind : MessageType) (data : Bytes) : List Item :=
  match kind with
  | .binary => (decodeBinaryDrawEvents data).map .draw
  | .text =>
    match parseDoc data with
    | some raw => (handleWsMessage raw).map .json
    | none => []

/-- What a client makes of the frames. -/
def received (frames : List (Frame M)) : List Item :=
  frames.flatMap fun f => onmessage f.kind (f.bytes payload)

/-- What a message stands for by itself. -/
def items (msg : Bytes) : List Item :=
  match parseDoc msg with
  | some v => [.json v]
  | none => (decodeBinaryDrawEvents msg).map .draw

/-- A JSON text that is no batch, or a nonempty sequence of draw records. -/
def IsMessage (msg : Bytes) : Prop :=
  (∃ v, parseDoc msg = some v ∧ v.isArr = false) ∨ (msg ≠ [] ∧ ∃ es, IsRecords msg es)

/-- The frames are well formed and decode to the messages, each once and in order. -/
structure Delivers (frames : List (Frame M)) (msgs : List M) : Prop where
  wellFormed : ∀ f ∈ frames, f.kind = .text → (parseDoc (f.bytes payload)).isSome
  items_eq : received payload frames = msgs.flatMap fun m => items (payload m)

/-! ## The shape of the frames -/

variable {payload}

theorem partsBytes_append (ps qs : List (Part M)) :
    partsBytes payload (ps ++ qs) = partsBytes payload ps ++ partsBytes payload qs :=
  List.flatMap_append

/-- The parts `, m` of an array under construction. -/
def commaParts (ms : List M) : List (Part M) := ms.flatMap fun m => [.lit 0x2C, .msg m]

theorem commaParts_bytes (ms : List M) :
    partsBytes payload (commaParts ms) = commas (ms.map payload) := by
  induction ms with
  | nil => rfl
  | cons m ms ih =>
    have : commaParts (m :: ms) = [.lit 0x2C, .msg m] ++ commaParts ms := rfl
    rw [this, partsBytes_append, ih]
    simp [partsBytes, Part.bytes, commas]

theorem msgParts_bytes (ms : List M) :
    partsBytes payload (ms.map .msg) = ms.flatMap payload := by
  induction ms with
  | nil => rfl
  | cons m ms ih =>
    have : (m :: ms).map (Part.msg (M := M)) = [.msg m] ++ ms.map .msg := rfl
    rw [this, partsBytes_append, ih]
    simp [partsBytes, Part.bytes]

/-- Messages and the frames that carry them when no burst mixes them up. -/
inductive Batched (payload : M → Bytes) : List M → List (Frame M) → Prop
  | nil : Batched payload [] []
  | binary {ms : List M} {ns : List M} {fs : List (Frame M)}
      (h : ∀ m ∈ ms, isBinaryDrawMessage (payload m) = true) :
      Batched payload ns fs → Batched payload (ms ++ ns) (⟨.binary, ms.map .msg⟩ :: fs)
  | single {m : M} {ns : List M} {fs : List (Frame M)}
      (h : isBinaryDrawMessage (payload m) = false) :
      Batched payload ns fs → Batched payload (m :: ns) (⟨.text, [.msg m]⟩ :: fs)
  | array {m : M} {ms ns : List M} {fs : List (Frame M)}
      (h : ∀ x ∈ m :: ms, isBinaryDrawMessage (payload x) = false) :
      Batched payload ns fs → Batched payload (m :: ms ++ ns)
        (⟨.text, .lit 0x5B :: .msg m :: (commaParts ms ++ [.lit 0x5D])⟩ :: fs)

variable (payload) in
/-- The binary drain takes binary messages, and stops at the first text message. -/
theorem drainLoopBin_spec (n : Nat) (buf : List (Part M)) (queue : List M) :
    ∃ ms, (drainLoopBin payload n buf queue).1 = buf ++ ms.map .msg ∧
      (∀ m ∈ ms, isBinaryDrawMessage (payload m) = true) ∧
      ((∃ rest, (drainLoopBin payload n buf queue).2 = (none, rest) ∧ queue = ms ++ rest) ∨
       (∃ text rest, (drainLoopBin payload n buf queue).2 = (some text, rest) ∧
          isBinaryDrawMessage (payload text) = false ∧ queue = ms ++ text :: rest)) := by
  induction n generalizing buf queue with
  | zero => exact ⟨[], by simp [drainLoopBin], by simp, .inl ⟨queue, rfl, rfl⟩⟩
  | succ n ih =>
    cases queue with
    | nil => exact ⟨[], by simp [drainLoopBin], by simp, .inl ⟨[], rfl, rfl⟩⟩
    | cons m queue =>
      by_cases hm : isBinaryDrawMessage (payload m) = true
      · simp only [drainLoopBin, if_pos hm]
        obtain ⟨ms, hbuf, hms, hrest⟩ := ih (buf ++ [.msg m]) queue
        refine ⟨m :: ms, by simp [hbuf], by simpa [hm] using hms, ?_⟩
        rcases hrest with ⟨rest, hr, hq⟩ | ⟨text, rest, hr, ht, hq⟩
        · exact .inl ⟨rest, hr, by rw [hq]; rfl⟩
        · exact .inr ⟨text, rest, hr, ht, by rw [hq]; rfl⟩
      · simp only [drainLoopBin, if_neg hm]
        have ht : isBinaryDrawMessage (payload m) = false := by simpa using hm
        exact ⟨[], by simp, by simp, .inr ⟨m, queue, rfl, ht, rfl⟩⟩

/-- The text drain takes the next messages, whatever they are. -/
theorem drainLoop_rest (n : Nat) (buf : List (Part M)) (queue : List M) :
    (drainLoop payload n buf queue).2 = queue.drop n := by
  induction n generalizing buf queue with
  | zero => rfl
  | succ n ih =>
    cases queue with
    | nil => rfl
    | cons m queue =>
      simp only [drainLoop, List.drop_succ_cons]
      split
      · exact ih _ _
      · exact ih _ _

/-- A text drain that meets text messages only writes one frame. -/
theorem drainLoop_text {n : Nat} {queue : List M}
    (h : ∀ m ∈ queue.take n, isBinaryDrawMessage (payload m) = false) (buf : List (Part M)) :
    (drainLoop payload n buf queue).1 =
      [⟨.text, buf ++ (commaParts (queue.take n) ++ [.lit 0x5D])⟩] := by
  induction n generalizing buf queue with
  | zero => simp [drainLoop, commaParts]
  | succ n ih =>
    cases queue with
    | nil => simp [drainLoop, commaParts]
    | cons m queue =>
      rw [List.take_succ_cons, List.forall_mem_cons] at h
      simp only [drainLoop, h.1, Bool.false_eq_true, if_false, ih h.2, List.take_succ_cons]
      simp [commaParts]

variable (payload) in
/-- The last flush of a text drain repeats the whole buffer. -/
theorem drainLoop_flush (n : Nat) (buf : List (Part M)) (queue : List M) :
    ∃ ps, ⟨.text, buf ++ (ps ++ [.lit 0x5D])⟩ ∈ (drainLoop payload n buf queue).1 := by
  induction n generalizing buf queue with
  | zero => exact ⟨[], by simp [drainLoop]⟩
  | succ n ih =>
    cases queue with
    | nil => exact ⟨[], by simp [drainLoop]⟩
    | cons m queue =>
      simp only [drainLoop]
      split
      · obtain ⟨ps, hps⟩ := ih (buf ++ [.lit 0x5D]) queue
        refine ⟨.lit 0x5D :: ps, ?_⟩
        simp only [List.append_assoc, List.cons_append, List.nil_append] at hps
        simp [hps]
      · obtain ⟨ps, hps⟩ := ih (buf ++ [.lit 0x2C, .msg m]) queue
        refine ⟨.lit 0x2C :: .msg m :: ps, ?_⟩
        simp only [List.append_assoc, List.cons_append, List.nil_append] at hps
        simp [hps]

variable (payload) in
/-- How a round starts: a run of binary messages, and perhaps a text message after it. -/
theorem roundHead_spec (coalesce : Bool) (b : Burst) (msg : M) (queue : List M) :
    (∃ ms rest, roundHead payload coalesce b msg queue = ([⟨.binary, ms.map .msg⟩], none, rest) ∧
        msg :: queue = ms ++ rest ∧ rest.length ≤ queue.length ∧
        ∀ m ∈ ms, isBinaryDrawMessage (payload m) = true) ∨
      (∃ ms text rest frames, roundHead payload coalesce b msg queue = (frames, some text, rest) ∧
        msg :: queue = ms ++ text :: rest ∧
        (frames = [] ∧ ms = [] ∨ frames = [⟨.binary, ms.map .msg⟩]) ∧
        (∀ m ∈ ms, isBinaryDrawMessage (payload m) = true) ∧
        isBinaryDrawMessage (payload text) = false) := by
  by_cases hb : isBinaryDrawMessage (payload msg) = true
  · simp only [roundHead, if_pos hb, processBinaryMessage]
    by_cases hc : (!coalesce || b.len == 0) = true
    · rw [if_pos hc]
      exact .inl ⟨[msg], queue, rfl, rfl, Nat.le_refl _, by simpa using hb⟩
    · rw [if_neg hc]
      obtain ⟨ms, hbuf, hms, hrest⟩ := drainLoopBin_spec payload b.rounds [.msg msg] queue
      have hall : ∀ m ∈ msg :: ms, isBinaryDrawMessage (payload m) = true := by
        rw [List.forall_mem_cons]; exact ⟨hb, hms⟩
      rcases hrest with ⟨rest, hr, hq⟩ | ⟨text, rest, hr, ht, hq⟩
      · refine .inl ⟨msg :: ms, rest, ?_, by rw [hq]; rfl, ?_, hall⟩
        · rw [hbuf, hr]; rfl
        · rw [hq, List.length_append]; omega
      · refine .inr ⟨msg :: ms, text, rest, _, ?_, by rw [hq]; rfl, .inr rfl, hall, ht⟩
        rw [hbuf, hr]; rfl
  · simp only [roundHead, if_neg hb]
    exact .inr ⟨[], msg, queue, [], rfl, rfl, .inl ⟨rfl, rfl⟩, by simp, by simpa using hb⟩

variable (payload) in
/-- The text branch takes its message and what `textTaken` says. -/
theorem processTextMessage_rest (coalesce : Bool) (b : Burst) (msg : M) (queue : List M) :
    queue = textTaken coalesce b queue ++ (processTextMessage payload coalesce b msg queue).2 := by
  simp only [processTextMessage, textTaken]
  split
  · rfl
  · rw [drainLoop_rest, List.take_append_drop]

theorem processTextMessage_batched {coalesce : Bool} {b : Burst} {msg : M} {queue : List M}
    (hm : isBinaryDrawMessage (payload msg) = false)
    (h : ∀ m ∈ textTaken coalesce b queue, isBinaryDrawMessage (payload m) = false)
    {ns : List M} {fs : List (Frame M)} (hb : Batched payload ns fs) :
    Batched payload (msg :: textTaken coalesce b queue ++ ns)
      ((processTextMessage payload coalesce b msg queue).1 ++ fs) := by
  simp only [processTextMessage, textTaken] at h ⊢
  split
  · exact .single hm hb
  · rename_i hc
    rw [if_neg hc] at h
    rw [drainLoop_text h]
    exact .array (List.forall_mem_cons.mpr ⟨hm, h⟩) hb

/-- **Step.** A round whose text drain meets no binary message writes well-shaped frames. -/
theorem pumpRound_batched {coalesce : Bool} {b : Burst × Burst} {msg : M} {queue : List M}
    (h : ∀ m ∈ roundTaken payload coalesce b msg queue, isBinaryDrawMessage (payload m) = false) :
    ∃ taken, msg :: queue = taken ++ (pumpRound payload coalesce b msg queue).2 ∧
      ∀ ns fs, Batched payload ns fs →
        Batched payload (taken ++ ns) ((pumpRound payload coalesce b msg queue).1 ++ fs) := by
  rcases roundHead_spec payload coalesce b.1 msg queue with
    ⟨ms, rest, hr, hq, -, hms⟩ | ⟨ms, text, rest, frames, hr, hq, hf, hms, ht⟩
  · simp only [pumpRound, hr]
    exact ⟨ms, hq, fun ns fs hb => .binary hms hb⟩
  · simp only [pumpRound, roundTaken, hr] at h ⊢
    refine ⟨ms ++ (text :: textTaken coalesce b.2 rest), ?_, fun ns fs hb => ?_⟩
    · rw [hq, List.append_assoc, List.cons_append, ← processTextMessage_rest]
    · have ht' := processTextMessage_batched ht h hb
      rcases hf with ⟨rfl, rfl⟩ | rfl
      · exact ht'
      · rw [List.append_assoc]; exact .binary hms ht'

variable (payload) in
/-- Every round takes its message. -/
theorem pumpRound_length (coalesce : Bool) (b : Burst × Burst) (msg : M) (queue : List M) :
    (pumpRound payload coalesce b msg queue).2.length ≤ queue.length := by
  rcases roundHead_spec payload coalesce b.1 msg queue with
    ⟨ms, rest, hr, -, hl, -⟩ | ⟨ms, text, rest, frames, hr, hq, -⟩
  · simp only [pumpRound, hr]; exact hl
  · simp only [pumpRound, hr]
    have h1 := congrArg List.length hq
    have h2 := congrArg List.length
      (processTextMessage_rest payload coalesce b.2 text rest)
    simp only [List.length_cons, List.length_append] at h1 h2
    omega

/-- **Run.** When no text drain meets a binary message, all frames are well shaped. -/
theorem pumpLoop_batched {coalesce : Bool} {n : Nat} {sees : Nat → Burst × Burst} {queue : List M}
    (hn : queue.length ≤ n)
    (h : ∀ m ∈ drainedLoop payload coalesce n sees queue, isBinaryDrawMessage (payload m) = false) :
    Batched payload queue (pumpLoop payload coalesce n sees queue) := by
  induction n generalizing sees queue with
  | zero =>
    obtain rfl : queue = [] := List.length_eq_zero_iff.mp (by omega)
    exact .nil
  | succ n ih =>
    cases queue with
    | nil => exact .nil
    | cons msg queue =>
      simp only [drainedLoop, List.forall_mem_append] at h
      have hl := pumpRound_length payload coalesce (sees 0) msg queue
      simp only [List.length_cons] at hn
      obtain ⟨taken, hq, hb⟩ := pumpRound_batched h.1
      have := hb _ _ (ih (by omega) h.2)
      rw [← hq] at this
      exact this

/-! ## What well-shaped frames decode to -/

theorem onmessage_doc {s : Bytes} {v : Value} (h : parseDoc s = some v) (hv : v.isArr = false) :
    onmessage .text s = [.json v] := by
  have : handleWsMessage v = [v] := by cases v <;> first | rfl | cases hv
  simp [onmessage, h, this]

theorem items_doc {s : Bytes} {v : Value} (h : parseDoc s = some v) : items s = [.json v] := by
  simp only [items, h]

/-- A record sequence is no JSON text. -/
theorem parseDoc_records {s : Bytes} {es : List DrawEvent} (hs : s ≠ []) (h : IsRecords s es) :
    parseDoc s = none := by
  cases hd : parseDoc s with
  | none => rfl
  | some v =>
    obtain ⟨b, s, rfl⟩ := List.exists_cons_of_ne_nil hs
    have hop : b = STROKE ∨ b = HIGHLIGHTER ∨ b = CLEAR_CANVAS ∨ b = FILL := h.opcode
    have hws : skipWs (b :: s) = b :: s := by
      rcases hop with rfl | rfl | rfl | rfl <;> exact skipWs_cons (by decide) s
    have hh := parseDoc_iff.mp hd
    rw [hws] at hh
    have := hh.head
    rcases hop with rfl | rfl | rfl | rfl <;> exact absurd this (by decide)

theorem items_records {s : Bytes} {es : List DrawEvent} (hs : s ≠ []) (h : IsRecords s es) :
    items s = es.map .draw := by
  simp only [items, parseDoc_records hs h, decode_records h]

/-- A message that the pump takes for text is a JSON text. -/
theorem doc_of_not_binary {s : Bytes} (hs : IsMessage s) (hb : isBinaryDrawMessage s = false) :
    ∃ v, parseDoc s = some v ∧ v.isArr = false := by
  rcases hs with h | ⟨hne, es, h⟩
  · exact h
  · obtain ⟨b, s, rfl⟩ := List.exists_cons_of_ne_nil hne
    simp [isBinaryDrawMessage, h.head] at hb

/-- What a list of texts reads as. -/
theorem docs_values {ms : List M}
    (h : ∀ m ∈ ms, ∃ v, parseDoc (payload m) = some v ∧ v.isArr = false) :
    ∃ vs, List.Forall₂ IsDoc (ms.map payload) vs ∧ handleWsMessages vs = vs ∧
      (ms.flatMap fun m => items (payload m)) = vs.map .json := by
  induction ms with
  | nil => exact ⟨[], .nil, rfl, rfl⟩
  | cons m ms ih =>
    rw [List.forall_mem_cons] at h
    obtain ⟨⟨v, hv, harr⟩, hms⟩ := h
    obtain ⟨vs, hvs, hflat, hitems⟩ := ih hms
    have hone : handleWsMessage v = [v] := by cases v <;> first | rfl | cases harr
    refine ⟨v :: vs, .cons hv hvs, ?_, ?_⟩
    · rw [handleWsMessages, hone, hflat]; rfl
    · rw [List.flatMap_cons, hitems, items_doc hv]; rfl

variable (payload) in
theorem array_bytes (m : M) (ms : List M) (ps : List (Part M)) :
    partsBytes payload (.lit 0x5B :: .msg m :: (commaParts ms ++ ps)) =
      0x5B :: (payload m ++ (commas (ms.map payload) ++ partsBytes payload ps)) := by
  have : (Part.lit 0x5B :: .msg m :: (commaParts ms ++ ps) : List (Part M)) =
      [.lit 0x5B, .msg m] ++ (commaParts ms ++ ps) := rfl
  rw [this, partsBytes_append, partsBytes_append, commaParts_bytes]
  simp [partsBytes, Part.bytes]

/-- The array frame of a burst of texts is the array of their values. -/
theorem parseDoc_array {m : M} {ms : List M}
    (h : ∀ x ∈ m :: ms, ∃ v, parseDoc (payload x) = some v ∧ v.isArr = false) :
    ∃ vs, parseDoc (partsBytes payload (.lit 0x5B :: .msg m :: (commaParts ms ++ [.lit 0x5D]))) =
        some (.arr vs) ∧ handleWsMessages vs = vs ∧
      ((m :: ms).flatMap fun x => items (payload x)) = vs.map .json := by
  obtain ⟨vs, hvs, hflat, hitems⟩ := docs_values h
  cases hvs with
  | cons hv hvs =>
    refine ⟨_, ?_, hflat, hitems⟩
    rw [array_bytes]
    exact parseDoc_wrap hv hvs

theorem decode_flatMap {ms : List M}
    (h : ∀ m ∈ ms, payload m ≠ [] ∧ ∃ es, IsRecords (payload m) es) :
    (decodeBinaryDrawEvents (ms.flatMap payload)).map .draw =
      ms.flatMap fun m => items (payload m) := by
  induction ms with
  | nil => rfl
  | cons m ms ih =>
    rw [List.forall_mem_cons] at h
    obtain ⟨⟨hne, es, hes⟩, hms⟩ := h
    rw [List.flatMap_cons, List.flatMap_cons, decode_append hes, List.map_append, ih hms,
      items_records hne hes]

section Decode

variable {ms : List M} {fs : List (Frame M)}

theorem batched_wellFormed (hb : Batched payload ms fs) (hm : ∀ m ∈ ms, IsMessage (payload m)) :
    ∀ f ∈ fs, f.kind = .text → (parseDoc (f.bytes payload)).isSome := by
  induction hb with
  | nil => simp
  | binary _ _ ih =>
    rw [List.forall_mem_append] at hm
    rw [List.forall_mem_cons]
    exact ⟨nofun, ih hm.2⟩
  | @single m ns fs h _ ih =>
    rw [List.forall_mem_cons] at hm ⊢
    obtain ⟨v, hv, -⟩ := doc_of_not_binary hm.1 h
    have hbytes : Frame.bytes payload ⟨.text, [.msg m]⟩ = payload m := by
      simp [Frame.bytes, partsBytes, Part.bytes]
    exact ⟨fun _ => by rw [hbytes, hv]; rfl, ih hm.2⟩
  | @array m ms ns fs h _ ih =>
    rw [List.forall_mem_append] at hm
    rw [List.forall_mem_cons]
    obtain ⟨vs, hvs, -, -⟩ := parseDoc_array fun x hx => doc_of_not_binary (hm.1 x hx) (h x hx)
    exact ⟨fun _ => by simp only [Frame.bytes, hvs]; rfl, ih hm.2⟩

/-- Well-shaped frames decode to their messages, when no text is taken for a record. -/
theorem batched_received (hb : Batched payload ms fs) (hm : ∀ m ∈ ms, IsMessage (payload m))
    (hdoc : ∀ m ∈ ms, (parseDoc (payload m)).isSome → isBinaryDrawMessage (payload m) = false) :
    received payload fs = ms.flatMap fun m => items (payload m) := by
  induction hb with
  | nil => rfl
  | @binary ms ns fs h _ ih =>
    rw [List.forall_mem_append] at hm hdoc
    have hrec : ∀ m ∈ ms, payload m ≠ [] ∧ ∃ es, IsRecords (payload m) es := by
      intro m hmem
      rcases hm.1 m hmem with ⟨v, hv, -⟩ | hr
      · have := hdoc.1 m hmem (by rw [hv]; rfl)
        rw [h m hmem] at this; cases this
      · exact hr
    rw [List.flatMap_append, ← ih hm.2 hdoc.2, ← decode_flatMap hrec, ← msgParts_bytes]
    rfl
  | @single m ns fs h _ ih =>
    rw [List.forall_mem_cons] at hm hdoc
    obtain ⟨v, hv, harr⟩ := doc_of_not_binary hm.1 h
    have hbytes : Frame.bytes payload ⟨.text, [.msg m]⟩ = payload m := by
      simp [Frame.bytes, partsBytes, Part.bytes]
    rw [List.flatMap_cons, ← ih hm.2 hdoc.2, items_doc hv, ← onmessage_doc hv harr, ← hbytes]
    rfl
  | @array m ms ns fs h _ ih =>
    rw [List.forall_mem_append] at hm hdoc
    obtain ⟨vs, hvs, hflat, hitems⟩ :=
      parseDoc_array fun x hx => doc_of_not_binary (hm.1 x hx) (h x hx)
    rw [List.flatMap_append, ← ih hm.2 hdoc.2, hitems, ← hflat]
    simp only [received, List.flatMap_cons, onmessage, Frame.bytes, hvs, handleWsMessage, hflat]

theorem draws_not_json (es : List DrawEvent) : (es.map Item.draw).countP Item.isJson = 0 := by
  rw [List.countP_map]
  exact List.countP_eq_zero.mpr fun _ _ => by simp [Item.isJson]

theorem items_countP {s : Bytes} :
    (items s).countP Item.isJson = if (parseDoc s).isSome then 1 else 0 := by
  simp only [items]
  cases parseDoc s with
  | none => exact draws_not_json _
  | some v => rfl

theorem expected_countP (ms : List M) :
    (ms.flatMap fun m => items (payload m)).countP Item.isJson =
      ms.countP fun m => (parseDoc (payload m)).isSome := by
  induction ms with
  | nil => rfl
  | cons m ms ih =>
    rw [List.flatMap_cons, List.countP_append, ih, items_countP, List.countP_cons, Nat.add_comm]

/-- Well-shaped frames hand on one JSON message for each message taken for text. -/
theorem batched_countP (hb : Batched payload ms fs) (hm : ∀ m ∈ ms, IsMessage (payload m)) :
    (received payload fs).countP Item.isJson =
      ms.countP fun m => !isBinaryDrawMessage (payload m) := by
  induction hb with
  | nil => rfl
  | @binary ms ns fs h _ ih =>
    rw [List.forall_mem_append] at hm
    have hz : ms.countP (fun m => !isBinaryDrawMessage (payload m)) = 0 :=
      List.countP_eq_zero.mpr fun m hmem => by simp [h m hmem]
    rw [List.countP_append, hz, ← ih hm.2, received, List.flatMap_cons, List.countP_append]
    congr 1
    exact draws_not_json _
  | @single m ns fs h hb ih =>
    rw [List.forall_mem_cons] at hm
    obtain ⟨v, hv, harr⟩ := doc_of_not_binary hm.1 h
    have hbytes : Frame.bytes payload ⟨.text, [.msg m]⟩ = payload m := by
      simp [Frame.bytes, partsBytes, Part.bytes]
    rw [List.countP_cons, ← ih hm.2, received, List.flatMap_cons, List.countP_append, hbytes,
      onmessage_doc hv harr, h]
    exact Nat.add_comm _ _
  | @array m ms ns fs h _ ih =>
    rw [List.forall_mem_append] at hm
    have hdocs := fun x hx => doc_of_not_binary (hm.1 x hx) (h x hx)
    obtain ⟨vs, hvs, hflat, hitems⟩ := parseDoc_array hdocs
    have hone : onmessage .text (Frame.bytes payload
        ⟨.text, .lit 0x5B :: .msg m :: (commaParts ms ++ [.lit 0x5D])⟩) =
        (m :: ms).flatMap fun x => items (payload x) := by
      simp only [onmessage, Frame.bytes, hvs, handleWsMessage, hflat, hitems]
    rw [List.countP_append, ← ih hm.2, received, List.flatMap_cons, List.countP_append, hone,
      expected_countP]
    congr 1
    refine List.countP_congr fun x hx => ?_
    obtain ⟨v, hv, -⟩ := hdocs x hx
    simp [hv, h x hx]

end Decode

/-- Counts that agree, of a predicate and a weaker one, leave no room between them. -/
theorem forall_of_countP_eq {p q : M → Bool} {l : List M} (hpq : ∀ a ∈ l, p a = true → q a = true)
    (h : l.countP p = l.countP q) : ∀ a ∈ l, q a = true → p a = true := by
  induction l with
  | nil => simp
  | cons a l ih =>
    rw [List.forall_mem_cons] at hpq ⊢
    have hle := List.countP_mono_left hpq.2
    rw [List.countP_cons, List.countP_cons] at h
    cases hp : p a with
    | true =>
      simp only [hp, hpq.1 hp, if_true] at h
      exact ⟨fun _ => rfl, ih hpq.2 (by omega)⟩
    | false =>
      simp only [hp, Bool.false_eq_true, if_false] at h
      cases hq : q a with
      | true => simp only [hq, if_true] at h; omega
      | false =>
        simp only [hq, Bool.false_eq_true, if_false] at h
        exact ⟨nofun, ih hpq.2 (by omega)⟩

/-! ## A binary message in a text drain -/

theorem skipWs_append_ne_nil {s t : Bytes} (h : skipWs t ≠ []) : skipWs (s ++ t) ≠ [] := by
  induction s with
  | nil => exact h
  | cons b s ih =>
    simp only [List.cons_append, skipWs]
    split
    · exact ih
    · exact List.cons_ne_nil _ _

/-- The buffer that is flushed before a binary message is flushed again at the end of the drain,
with its closing bracket inside. -/
theorem drainLoop_malformed {n : Nat} {m : M} (ms : List M) {queue : List M}
    (hms : ∀ x ∈ m :: ms, ∃ v, parseDoc (payload x) = some v ∧ v.isArr = false)
    (hq : ∀ x ∈ queue, isBinaryDrawMessage (payload x) = false →
      ∃ v, parseDoc (payload x) = some v ∧ v.isArr = false)
    (h : ∃ x ∈ queue.take n, isBinaryDrawMessage (payload x) = true) :
    ∃ f ∈ (drainLoop payload n (.lit 0x5B :: .msg m :: commaParts ms) queue).1,
      f.kind = .text ∧ parseDoc (f.bytes payload) = none := by
  induction n generalizing ms queue with
  | zero => simp at h
  | succ n ih =>
    cases queue with
    | nil => simp at h
    | cons x queue =>
      rw [List.forall_mem_cons] at hq
      simp only [drainLoop]
      by_cases hx : isBinaryDrawMessage (payload x) = true
      · rw [if_pos hx]
        obtain ⟨ps, hps⟩ := drainLoop_flush payload n
          (.lit 0x5B :: .msg m :: commaParts ms ++ [.lit 0x5D]) queue
        refine ⟨_, List.mem_cons_of_mem _ (List.mem_cons_of_mem _ hps), rfl, ?_⟩
        obtain ⟨vs, hvs, -, -⟩ := docs_values hms
        cases hvs with
        | cons hv hvs =>
          have hjunk : skipWs (partsBytes payload (ps ++ [.lit 0x5D])) ≠ [] := by
            rw [partsBytes_append]
            exact skipWs_append_ne_nil (by simp [partsBytes, Part.bytes, skipWs, isWs])
          have hbytes := array_bytes payload m ms (.lit 0x5D :: (ps ++ [.lit 0x5D]))
          simp only [Frame.bytes, List.append_assoc, List.cons_append, List.nil_append, hbytes]
          exact parseDoc_wrap_junk hv hvs hjunk
      · rw [if_neg hx]
        have hx' : isBinaryDrawMessage (payload x) = false := by simpa using hx
        have hbuf : (.lit 0x5B :: .msg m :: commaParts ms) ++ [.lit 0x2C, .msg x] =
            .lit 0x5B :: .msg m :: commaParts (ms ++ [x]) := by
          simp [commaParts]
        rw [hbuf]
        refine ih (ms ++ [x]) ?_ hq.2 ?_
        · rw [← List.cons_append, List.forall_mem_append]
          exact ⟨hms, by simpa using hq.1 hx'⟩
        · obtain ⟨y, hy, hby⟩ := h
          rw [List.take_succ_cons, List.mem_cons] at hy
          rcases hy with rfl | hy
          · exact absurd hby hx
          · exact ⟨y, hy, hby⟩

variable (payload) in
/-- The queue that a round leaves is the end of the one it found. -/
theorem pumpRound_suffix (coalesce : Bool) (b : Burst × Burst) (msg : M) (queue : List M) :
    (pumpRound payload coalesce b msg queue).2 <:+ msg :: queue := by
  rcases roundHead_spec payload coalesce b.1 msg queue with
    ⟨ms, rest, hr, hq, -⟩ | ⟨ms, text, rest, frames, hr, hq, -⟩
  · simp only [pumpRound, hr]
    exact ⟨ms, hq.symm⟩
  · simp only [pumpRound, hr]
    refine ⟨ms ++ text :: textTaken coalesce b.2 rest, ?_⟩
    rw [List.append_assoc, List.cons_append, ← processTextMessage_rest, hq]

theorem pumpRound_malformed {coalesce : Bool} {b : Burst × Burst} {msg : M} {queue : List M}
    (hq : ∀ m ∈ msg :: queue, IsMessage (payload m))
    (h : ∃ m ∈ roundTaken payload coalesce b msg queue, isBinaryDrawMessage (payload m) = true) :
    ∃ f ∈ (pumpRound payload coalesce b msg queue).1,
      f.kind = .text ∧ parseDoc (f.bytes payload) = none := by
  rcases roundHead_spec payload coalesce b.1 msg queue with
    ⟨ms, rest, hr, -⟩ | ⟨ms, text, rest, frames, hr, heq, -, -, ht⟩
  · simp [roundTaken, hr] at h
  · simp only [pumpRound, roundTaken, textTaken, hr, processTextMessage] at h ⊢
    rw [heq, List.forall_mem_append, List.forall_mem_cons] at hq
    split at h
    · simp at h
    rename_i hc
    rw [if_neg hc]
    obtain ⟨f, hf, hbad⟩ := drainLoop_malformed []
      (by simpa using doc_of_not_binary hq.2.1 ht)
      (fun x hx => doc_of_not_binary (hq.2.2 x hx)) h
    exact ⟨f, List.mem_append_right _ hf, hbad⟩

theorem pumpLoop_malformed {coalesce : Bool} {n : Nat} {sees : Nat → Burst × Burst}
    {queue : List M} (hq : ∀ m ∈ queue, IsMessage (payload m))
    (h : ∃ m ∈ drainedLoop payload coalesce n sees queue, isBinaryDrawMessage (payload m) = true) :
    ∃ f ∈ pumpLoop payload coalesce n sees queue,
      f.kind = .text ∧ parseDoc (f.bytes payload) = none := by
  induction n generalizing sees queue with
  | zero => simp [drainedLoop] at h
  | succ n ih =>
    cases queue with
    | nil => simp [drainedLoop] at h
    | cons msg queue =>
      obtain ⟨m, hm, hbin⟩ := h
      simp only [drainedLoop, List.mem_append] at hm
      simp only [pumpLoop]
      rcases hm with hm | hm
      · obtain ⟨f, hf, hbad⟩ := pumpRound_malformed hq ⟨m, hm, hbin⟩
        exact ⟨f, List.mem_append_left _ hf, hbad⟩
      · have hrest := (pumpRound_suffix payload coalesce (sees 0) msg queue).subset
        obtain ⟨f, hf, hbad⟩ := ih (fun x hx => hq x (hrest hx)) ⟨m, hm, hbin⟩
        exact ⟨f, List.mem_append_right _ hf, hbad⟩

/-! ## Delivery -/

/-- **The frames decode to the queued messages exactly when no text drain meets a binary draw
message and no JSON text starts like one.** -/
theorem writePump_delivers_iff {coalesce : Bool} {sees : Nat → Burst × Burst} {queue : List M}
    (hq : ∀ m ∈ queue, IsMessage (payload m)) :
    Delivers payload (writePump payload coalesce sees queue) queue ↔
      (∀ m ∈ drainedByText payload coalesce sees queue,
        isBinaryDrawMessage (payload m) = false) ∧
      ∀ m ∈ queue, (parseDoc (payload m)).isSome → isBinaryDrawMessage (payload m) = false := by
  constructor
  · intro h
    have hdrain : ∀ m ∈ drainedByText payload coalesce sees queue,
        isBinaryDrawMessage (payload m) = false := by
      intro m hm
      by_contra hbin
      obtain ⟨f, hf, hk, hbad⟩ := pumpLoop_malformed hq ⟨m, hm, by simpa using hbin⟩
      have := h.wellFormed f hf hk
      rw [hbad] at this
      cases this
    refine ⟨hdrain, fun m hm hdoc => ?_⟩
    -- as many messages are taken for text as there are JSON texts
    have hb := batched_countP (pumpLoop_batched (Nat.le_refl _) hdrain) hq
    have hcount : (received payload (writePump payload coalesce sees queue)).countP Item.isJson =
        queue.countP fun m => (parseDoc (payload m)).isSome := by
      rw [h.items_eq, expected_countP]
    have htext := forall_of_countP_eq (fun x hx hnb => by
      obtain ⟨v, hv, -⟩ := doc_of_not_binary (hq x hx) (by simpa using hnb)
      rw [hv]; rfl) (hb.symm.trans hcount) m hm hdoc
    simpa using htext
  · rintro ⟨hdrain, hdoc⟩
    have hb := pumpLoop_batched (Nat.le_refl _) hdrain
    exact ⟨batched_wellFormed hb hq, batched_received hb hq hdoc⟩

/-- A JSON text, then a clear record. -/
def textThenClear : List Bytes := [[0x7B, 0x7D], [0x02]]

/-- Every drain finds one more message. -/
def oneBehind : Nat → Burst × Burst := fun _ => (⟨1, 1⟩, ⟨1, 1⟩)

theorem textThenClear_malformed :
    (∀ m ∈ textThenClear, IsMessage m) ∧
      ¬Delivers id (writePump id true oneBehind textThenClear) textThenClear := by
  constructor
  · intro m hm
    simp only [textThenClear, List.mem_cons, List.not_mem_nil, or_false] at hm
    rcases hm with rfl | rfl
    · exact .inl ⟨.obj [], rfl, rfl⟩
    · exact .inr ⟨by simp, [.clearCanvas], .single rfl⟩
  · intro h
    have := h.wellFormed
      ⟨.text, [.lit 0x5B, .msg [0x7B, 0x7D], .lit 0x5D, .lit 0x5D]⟩ (by
        simp [writePump, pumpLoop, pumpRound, roundHead, processTextMessage, drainLoop,
          isBinaryDrawMessage, textThenClear, oneBehind, Burst.rounds, maxBatchSize]) rfl
    exact absurd this (by decide)

theorem two_texts_delivered :
    Delivers id (writePump id true oneBehind [[0x7B, 0x7D], [0x7B, 0x7D]])
      [[0x7B, 0x7D], [0x7B, 0x7D]] := by
  have hm : ∀ m ∈ [[0x7B, 0x7D], [0x7B, 0x7D]], IsMessage (id m) := by
    intro m hm
    obtain rfl : m = [0x7B, 0x7D] := by simpa using hm
    exact .inl ⟨.obj [], rfl, rfl⟩
  refine (writePump_delivers_iff hm).mpr ⟨by decide, by decide⟩

/-! ## Which frame a message travels in -/

variable (payload) in
/-- A binary frame is made of binary draw messages; a text frame has none in it. -/
def Frame.Pure (f : Frame M) : Prop :=
  (f.kind = .binary → ∀ x ∈ f.parts, ∃ m, x = .msg m ∧ isBinaryDrawMessage (payload m) = true) ∧
  (f.kind = .text → ∀ m, .msg m ∈ f.parts → isBinaryDrawMessage (payload m) = false)

theorem pure_binary {ms : List M} (h : ∀ m ∈ ms, isBinaryDrawMessage (payload m) = true) :
    Frame.Pure payload ⟨.binary, ms.map .msg⟩ := by
  refine ⟨fun _ x hx => ?_, nofun⟩
  obtain ⟨m, hm, rfl⟩ := List.mem_map.mp hx
  exact ⟨m, rfl, h m hm⟩

theorem pure_text {ps : List (Part M)}
    (h : ∀ m, .msg m ∈ ps → isBinaryDrawMessage (payload m) = false) :
    Frame.Pure payload ⟨.text, ps⟩ :=
  ⟨nofun, fun _ => h⟩

theorem drainLoop_pure {n : Nat} {buf : List (Part M)} {queue : List M}
    (h : ∀ m, .msg m ∈ buf → isBinaryDrawMessage (payload m) = false) :
    ∀ f ∈ (drainLoop payload n buf queue).1, f.Pure payload := by
  have hflush : ∀ m, .msg m ∈ buf ++ [.lit 0x5D] → isBinaryDrawMessage (payload m) = false := by
    intro m hm
    exact h m (by simpa using hm)
  induction n generalizing buf queue with
  | zero =>
    intro f hf
    obtain rfl := List.mem_singleton.mp hf
    exact pure_text hflush
  | succ n ih =>
    cases queue with
    | nil =>
      intro f hf
      obtain rfl := List.mem_singleton.mp hf
      exact pure_text hflush
    | cons x queue =>
      simp only [drainLoop]
      by_cases hx : isBinaryDrawMessage (payload x) = true
      · rw [if_pos hx, List.forall_mem_cons, List.forall_mem_cons]
        refine ⟨pure_text hflush, pure_binary (show ∀ m ∈ [x], _ by simpa using hx), ?_⟩
        exact ih hflush (by simpa using h)
      · rw [if_neg hx]
        have hbuf : ∀ m, .msg m ∈ buf ++ [.lit 0x2C, .msg x] →
            isBinaryDrawMessage (payload m) = false := by
          intro m hm
          rcases List.mem_append.mp hm with hm | hm
          · exact h m hm
          · obtain rfl : m = x := by simpa using hm
            simpa using hx
        exact ih hbuf (by simpa using hbuf)

theorem drainLoop_carries {n : Nat} {buf : List (Part M)} {queue : List M} {m : M}
    (h : .msg m ∈ buf ∨ m ∈ queue.take n) :
    ∃ f ∈ (drainLoop payload n buf queue).1, .msg m ∈ f.parts := by
  induction n generalizing buf queue with
  | zero => exact ⟨_, List.mem_singleton_self _, by simpa using h⟩
  | succ n ih =>
    cases queue with
    | nil => exact ⟨_, List.mem_singleton_self _, by simpa using h⟩
    | cons x queue =>
      rw [List.take_succ_cons, List.mem_cons] at h
      simp only [drainLoop]
      split
      · rcases h with h | rfl | h
        · exact ⟨_, List.mem_cons_self, by simpa using h⟩
        · exact ⟨_, List.mem_cons_of_mem _ List.mem_cons_self, List.mem_cons_self⟩
        · obtain ⟨f, hf, hm⟩ := @ih (buf ++ [.lit 0x5D]) queue (.inr h)
          exact ⟨f, List.mem_cons_of_mem _ (List.mem_cons_of_mem _ hf), hm⟩
      · refine ih ?_
        rcases h with h | rfl | h
        · exact .inl (List.mem_append_left _ h)
        · exact .inl (by simp)
        · exact .inr h

theorem pumpRound_pure (coalesce : Bool) (b : Burst × Burst) (msg : M) (queue : List M) :
    ∀ f ∈ (pumpRound payload coalesce b msg queue).1, f.Pure payload := by
  rcases roundHead_spec payload coalesce b.1 msg queue with
    ⟨ms, rest, hr, -, -, hms⟩ | ⟨ms, text, rest, frames, hr, -, hf, hms, ht⟩
  · simp only [pumpRound, hr, List.forall_mem_singleton]
    exact pure_binary hms
  · simp only [pumpRound, hr, List.forall_mem_append]
    refine ⟨?_, ?_⟩
    · rcases hf with ⟨rfl, -⟩ | rfl
      · simp
      · rw [List.forall_mem_singleton]; exact pure_binary hms
    · simp only [processTextMessage]
      split
      · rw [List.forall_mem_singleton]
        exact pure_text (by simpa using ht)
      · exact drainLoop_pure (by simpa using ht)

theorem pumpRound_carries {coalesce : Bool} {b : Burst × Burst} {msg m : M} {queue : List M}
    (hm : m ∈ msg :: queue) :
    (∃ f ∈ (pumpRound payload coalesce b msg queue).1, .msg m ∈ f.parts) ∨
      m ∈ (pumpRound payload coalesce b msg queue).2 := by
  rcases roundHead_spec payload coalesce b.1 msg queue with
    ⟨ms, rest, hr, hq, -⟩ | ⟨ms, text, rest, frames, hr, hq, hf, -⟩
  · simp only [pumpRound, hr]
    rw [hq] at hm
    rcases List.mem_append.mp hm with hm | hm
    · exact .inl ⟨_, List.mem_singleton_self _, List.mem_map_of_mem hm⟩
    · exact .inr hm
  · simp only [pumpRound, hr]
    rw [hq] at hm
    rcases List.mem_append.mp hm with hm | hm
    · rcases hf with ⟨-, rfl⟩ | rfl
      · cases hm
      · exact .inl ⟨_, List.mem_append_left _ (List.mem_singleton_self _), List.mem_map_of_mem hm⟩
    · rw [processTextMessage_rest payload coalesce b.2 text rest, ← List.cons_append,
        List.mem_append] at hm
      rcases hm with hm | hm
      · left
        have : ∃ f ∈ (processTextMessage payload coalesce b.2 text rest).1, .msg m ∈ f.parts := by
          simp only [processTextMessage, textTaken] at hm ⊢
          split at hm
          · rename_i hc
            rw [if_pos hc]
            obtain rfl := List.mem_singleton.mp hm
            exact ⟨_, List.mem_singleton_self _, List.mem_singleton_self _⟩
          · rename_i hc
            rw [if_neg hc]
            refine drainLoop_carries ?_
            rcases List.mem_cons.mp hm with rfl | hm
            · exact .inl (by simp)
            · exact .inr hm
        obtain ⟨f, hf, hmf⟩ := this
        exact ⟨f, List.mem_append_right _ hf, hmf⟩
      · exact .inr hm

theorem drainLoop_queued {n : Nat} {buf : List (Part M)} {queue : List M} {f : Frame M}
    (hf : f ∈ (drainLoop payload n buf queue).1) {m : M} (hm : .msg m ∈ f.parts) :
    .msg m ∈ buf ∨ m ∈ queue := by
  have hflush : .msg m ∈ buf ++ [Part.lit 0x5D] → .msg m ∈ buf := by simp
  induction n generalizing buf queue with
  | zero =>
    obtain rfl := List.mem_singleton.mp hf
    exact .inl (hflush hm)
  | succ n ih =>
    cases queue with
    | nil =>
      obtain rfl := List.mem_singleton.mp hf
      exact .inl (hflush hm)
    | cons x queue =>
      simp only [drainLoop] at hf
      split at hf
      · rcases List.mem_cons.mp hf with rfl | hf
        · exact .inl (hflush hm)
        rcases List.mem_cons.mp hf with rfl | hf
        · have hx : m = x := by simpa using hm
          exact .inr (hx ▸ List.mem_cons_self)
        · rcases ih hf (by simp) with h | h
          · exact .inl (hflush h)
          · exact .inr (List.mem_cons_of_mem _ h)
      · rcases ih hf (by simp) with h | h
        · rcases List.mem_append.mp h with h | h
          · exact .inl h
          · have hx : m = x := by simpa using h
            exact .inr (hx ▸ List.mem_cons_self)
        · exact .inr (List.mem_cons_of_mem _ h)

theorem pumpRound_queued {coalesce : Bool} {b : Burst × Burst} {msg : M} {queue : List M}
    {f : Frame M} (hf : f ∈ (pumpRound payload coalesce b msg queue).1) {m : M}
    (hm : .msg m ∈ f.parts) : m ∈ msg :: queue := by
  have hbin : ∀ ms : List M, f = ⟨.binary, ms.map .msg⟩ → m ∈ ms := by
    rintro ms rfl
    simpa using hm
  rcases roundHead_spec payload coalesce b.1 msg queue with
    ⟨ms, rest, hr, hq, -⟩ | ⟨ms, text, rest, frames, hr, hq, hframes, -⟩
  · simp only [pumpRound, hr] at hf
    rw [hq]
    exact List.mem_append_left _ (hbin ms (List.mem_singleton.mp hf))
  · simp only [pumpRound, hr, List.mem_append] at hf
    rw [hq]
    rcases hf with hf | hf
    · rcases hframes with ⟨rfl, -⟩ | rfl
      · cases hf
      · exact List.mem_append_left _ (hbin ms (List.mem_singleton.mp hf))
    · refine List.mem_append_right _ ?_
      simp only [processTextMessage] at hf
      split at hf
      · obtain rfl := List.mem_singleton.mp hf
        have hx : m = text := by simpa using hm
        exact hx ▸ List.mem_cons_self
      · rcases drainLoop_queued hf hm with h | h
        · have hx : m = text := by simpa using h
          exact hx ▸ List.mem_cons_self
        · exact List.mem_cons_of_mem _ h

variable (payload) in
/-- **A binary frame carries binary draw messages only, a text frame none.** -/
theorem writePump_parts (coalesce : Bool) (sees : Nat → Burst × Burst) (queue : List M) :
    ∀ f ∈ writePump payload coalesce sees queue, f.Pure payload := by
  suffices ∀ n sees queue, ∀ f ∈ pumpLoop payload coalesce n sees queue, f.Pure payload from
    this _ _ _
  intro n
  induction n with
  | zero => intro sees queue f hf; cases hf
  | succ n ih =>
    intro sees queue
    cases queue with
    | nil => intro f hf; cases hf
    | cons msg queue =>
      simp only [pumpLoop, List.forall_mem_append]
      exact ⟨pumpRound_pure coalesce (sees 0) msg queue, ih _ _⟩

variable (payload) in
/-- **Every queued message is carried by some frame.** -/
theorem writePump_carries (coalesce : Bool) (sees : Nat → Burst × Burst) {queue : List M} {m : M}
    (hm : m ∈ queue) : ∃ f ∈ writePump payload coalesce sees queue, .msg m ∈ f.parts := by
  suffices ∀ n sees queue, queue.length ≤ n → m ∈ queue →
      ∃ f ∈ pumpLoop payload coalesce n sees queue, .msg m ∈ f.parts from
    this _ _ _ (Nat.le_refl _) hm
  intro n
  induction n with
  | zero =>
    intro sees queue hn hm
    obtain rfl : queue = [] := List.length_eq_zero_iff.mp (by omega)
    cases hm
  | succ n ih =>
    intro sees queue hn hm
    cases queue with
    | nil => cases hm
    | cons msg queue =>
      have hl := pumpRound_length payload coalesce (sees 0) msg queue
      simp only [List.length_cons] at hn
      simp only [pumpLoop]
      rcases pumpRound_carries hm with ⟨f, hf, hmf⟩ | hrest
      · exact ⟨f, List.mem_append_left _ hf, hmf⟩
      · obtain ⟨f, hf, hmf⟩ := ih (fun i => sees (i + 1)) _ (by omega) hrest
        exact ⟨f, List.mem_append_right _ hf, hmf⟩

/-- What a frame carries was queued. -/
theorem writePump_queued {coalesce : Bool} {sees : Nat → Burst × Burst} {queue : List M}
    {f : Frame M} (hf : f ∈ writePump payload coalesce sees queue) {m : M}
    (hm : .msg m ∈ f.parts) : m ∈ queue := by
  suffices ∀ n sees queue, f ∈ pumpLoop payload coalesce n sees queue → m ∈ queue from
    this _ _ _ hf
  intro n
  induction n with
  | zero => intro sees queue hf; cases hf
  | succ n ih =>
    intro sees queue hf
    cases queue with
    | nil => cases hf
    | cons msg queue =>
      simp only [pumpLoop, List.mem_append] at hf
      rcases hf with hf | hf
      · exact pumpRound_queued hf hm
      · exact (pumpRound_suffix payload coalesce (sees 0) msg queue).subset (ih _ _ hf)

end Skribbl.Gateway
