import Skribbl.Frontend.BinaryDrawing

/-!
# How a stroke is sent (`frontend/src/hooks/useCanvas.ts`)

The pointer handlers draw each segment of a stroke at once, and queue its points for a batch that is
sent 16 ms later, or when the pointer is released.

* `Pointer` — the refs of the handlers.
* `flushPendingStrokePoints`, `handlePointerDown`, `handlePointerMove`, `handlePointerUp` — with
  what they draw and send; `Pointer.step` also has the timer, and what else writes the refs.
* `Pointer.Keeps` — no point is thrown away that the next batch should start with or contain;
  `Pointer.Finishes` — no stroke begins before another one is recorded.

Principal results: `relayed_iff` — over any run, the segments that are sent are those that are
drawn, exactly if each step keeps the points that wait; `decoded_eq_drawn` — if the pen stays the
same while points wait, the segments that a guesser decodes are those drawn, in the same colours and
sizes, however the frames are joined; `recorded_iff` — the action history has the segments that are
drawn, exactly if each stroke is recorded before the next one begins.
-/

set_option autoImplicit false

namespace Skribbl.Frontend

open BinaryDrawing

abbrev Point := ℚ × ℚ

/-- `DrawingTool`. -/
inductive DrawingTool where
  | pen
  | eraser
  | highlighter
  | fill
  | line
  | rect
  | circle
  deriving DecidableEq

/-- The tools whose points are sent in batches. -/
def DrawingTool.strokes : DrawingTool → Bool
  | .pen | .eraser | .highlighter => true
  | _ => false

/-- The tools that draw a shape between two points. -/
def DrawingTool.shapes : DrawingTool → Bool
  | .line | .rect | .circle => true
  | _ => false

/-- `BrushSize`. -/
inductive BrushSize where
  | xs
  | small
  | medium
  | large
  | xl
  deriving DecidableEq

/-- `BRUSH_SIZES`. -/
def BRUSH_SIZES : BrushSize → ℚ
  | .xs => 2
  | .small => 4
  | .medium => 8
  | .large => 16
  | .xl => 32

def CANVAS_BG : Colour := "#FFFFFF".toList

/-- How a segment is drawn. -/
structure Style where
  color : Colour
  size : ℚ
  isHighlighter : Bool
  deriving DecidableEq

/-- What a handler draws on the local canvas, sends, or adds to the action history. -/
inductive PointerEffect where
  /-- `drawStroke` or `drawHighlighter`. -/
  | draw (points : List Point) (style : Style)
  /-- `sendBinary(encodeStroke(…))`. -/
  | sendStroke (points : List Point) (style : Style)
  /-- `actionHistoryRef.current.push` of a stroke. -/
  | recordStroke (points : List Point) (style : Style)
  /-- A fill, which is drawn, sent and recorded. -/
  | fill (p : Point) (color : Colour)
  /-- A shape, which is drawn, recorded and sent. -/
  | shape (shapeType : DrawingTool) (start stop : Point) (color : Colour) (size : ℚ)
  deriving DecidableEq

/-- The refs of the handlers; `timer` tells that `strokeBatchTimerRef` is set. -/
structure Pointer where
  tool : DrawingTool := .pen
  color : Colour := "#000000".toList
  brushSize : BrushSize := .medium
  isDrawing : Bool := false
  points : List Point := []
  lastCoords : Option Point := none
  shapeStart : Option Point := none
  pending : List Point := []
  lastDispatched : Option Point := none
  timer : Bool := false

namespace Pointer

/-- The colour, size and kind that a handler draws with. -/
def style (s : Pointer) : Style :=
  { color := if s.tool = .eraser then CANVAS_BG else s.color
    size := BRUSH_SIZES s.brushSize
    isHighlighter := s.tool = .highlighter }

/-- `flushPendingStrokePoints`. -/
def flushPendingStrokePoints (s : Pointer) : Pointer × List PointerEffect :=
  if s.pending = [] then ({ s with timer := false }, [])
  else if s.tool.strokes = false then ({ s with timer := false, pending := [] }, [])
  else
    ({ s with timer := false, lastDispatched := s.pending.getLast?, pending := [] },
      [.sendStroke (s.lastDispatched.toList ++ s.pending) s.style])

/-- `handlePointerDown`. -/
def handlePointerDown (s : Pointer) (p : Point) : Pointer × List PointerEffect :=
  let s := { s with lastCoords := some p }
  if s.tool = .fill then (s, [.fill p s.color])
  else if s.tool.shapes then ({ s with isDrawing := true, shapeStart := some p }, [])
  else
    ({ s with isDrawing := true, points := [p], lastDispatched := some p, pending := [],
              timer := false },
      if s.tool = .highlighter then [.draw [p] s.style, .sendStroke [p] s.style]
      else [.sendStroke [p] s.style])

/-- `handlePointerMove`. -/
def handlePointerMove (s : Pointer) (p : Point) : Pointer × List PointerEffect :=
  if s.isDrawing = false then (s, [])
  else
    let s := { s with lastCoords := some p }
    if s.tool.shapes then (s, [])
    else
      ({ s with points := s.points ++ [p], pending := s.pending ++ [p], timer := true },
        s.points.getLast?.toList.map fun q => .draw [q, p] s.style)

/-- The end of `handlePointerUp`, for a shape; `stop` is where it ends. -/
def finishShape (s : Pointer) (stop : Point) : Pointer × List PointerEffect :=
  ({ s with shapeStart := none, lastCoords := none },
    s.shapeStart.toList.map fun start => .shape s.tool start stop s.color (BRUSH_SIZES s.brushSize))

/-- The end of `handlePointerUp`, for a stroke. -/
def finishStroke (s : Pointer) : Pointer × List PointerEffect :=
  ({ s with points := [] },
    (if s.points.length = 1 then [.draw s.points s.style] else []) ++
      if s.points = [] then [] else [.recordStroke s.points s.style])

/-- `handlePointerUp`.  A touch ends without coordinates (`atOrigin`); `constrain` is
`getConstrainedEnd` for the tool if the shape snaps. -/
def handlePointerUp (s : Pointer) (raw : Point) (atOrigin : Bool)
    (constrain : Point → Point → Point) : Pointer × List PointerEffect :=
  if s.isDrawing = false then (s, [])
  else
    let s := { s with isDrawing := false, timer := false }
    let flushed := s.flushPendingStrokePoints
    let s := { flushed.1 with lastDispatched := none, pending := [] }
    let coords := if atOrigin then s.lastCoords.getD raw else raw
    let finished :=
      if s.tool.shapes then s.finishShape (constrain (s.shapeStart.getD coords) coords)
      else s.finishStroke
    (finished.1, flushed.2 ++ finished.2)

end Pointer

/-- What happens to the refs. -/
inductive PointerEvent where
  | down (p : Point)
  | move (p : Point)
  | up (raw : Point) (atOrigin : Bool) (constrain : Point → Point → Point)
  /-- The 16 ms are over. -/
  | timeout
  /-- The effect with the handlers is cleaned up, and runs again. -/
  | remount
  | setTool (tool : DrawingTool)
  | setColor (color : Colour)
  | setBrushSize (size : BrushSize)

namespace Pointer

/-- One event, with what is drawn and sent. -/
def step (s : Pointer) : PointerEvent → Pointer × List PointerEffect
  | .down p => s.handlePointerDown p
  | .move p => s.handlePointerMove p
  | .up raw atOrigin constrain => s.handlePointerUp raw atOrigin constrain
  | .timeout => if s.timer then s.flushPendingStrokePoints else (s, [])
  | .remount => ({ s with timer := false }, [])
  | .setTool tool => ({ s with tool := tool }, [])
  | .setColor color => ({ s with color := color }, [])
  | .setBrushSize size => ({ s with brushSize := size }, [])

/-- A run of events, with all that is drawn and sent. -/
def run (s : Pointer) : List PointerEvent → Pointer × List PointerEffect
  | [] => (s, [])
  | e :: es => (((s.step e).1.run es).1, (s.step e).2 ++ ((s.step e).1.run es).2)

/-- The next batch, if it were sent now. -/
def waiting (s : Pointer) : List Point := s.lastDispatched.toList ++ s.pending

end Pointer

/-! ## Segments -/

section Segments

variable {P : Type}

/-- The segments between the points of a list. -/
def segments : List P → List (P × P)
  | p :: q :: l => (p, q) :: segments (q :: l)
  | _ => []

theorem segments_concat {l : List P} {p q : P} (h : l.getLast? = some q) :
    segments (l ++ [p]) = segments l ++ [(q, p)] := by
  induction l with
  | nil => cases h
  | cons a l ih =>
    cases l with
    | nil =>
      cases h
      rfl
    | cons b l =>
      rw [List.getLast?_cons_cons] at h
      show (a, b) :: segments ((b :: l) ++ [p]) = (a, b) :: segments (b :: l) ++ [(q, p)]
      rw [ih h, List.cons_append]

theorem segments_map {Q : Type} (f : P → Q) (l : List P) :
    segments (l.map f) = (segments l).map fun x => (f x.1, f x.2) := by
  induction l with
  | nil => rfl
  | cons a l ih =>
    cases l with
    | nil => rfl
    | cons b l => exact congrArg ((f a, f b) :: ·) ih

@[simp] theorem segments_toList (o : Option P) : segments o.toList = [] := by cases o <;> rfl

end Segments

section Ink

variable {σ : Type} (view : Style → σ)

/-- The segments of some points, with what there is to see of their style. -/
def inked (points : List Point) (style : Style) : List ((Point × Point) × σ) :=
  (segments points).map fun x => (x, view style)

/-- The segments that are drawn on the local canvas. -/
def PointerEffect.drawn : PointerEffect → List ((Point × Point) × σ)
  | .draw points style => inked view points style
  | _ => []

/-- The segments that are sent. -/
def PointerEffect.sent : PointerEffect → List ((Point × Point) × σ)
  | .sendStroke points style => inked view points style
  | _ => []

def drawnSegments (l : List PointerEffect) : List ((Point × Point) × σ) := l.flatMap (·.drawn view)

def sentSegments (l : List PointerEffect) : List ((Point × Point) × σ) := l.flatMap (·.sent view)

@[simp] theorem drawnSegments_append (l l' : List PointerEffect) :
    drawnSegments view (l ++ l') = drawnSegments view l ++ drawnSegments view l' :=
  List.flatMap_append

@[simp] theorem sentSegments_append (l l' : List PointerEffect) :
    sentSegments view (l ++ l') = sentSegments view l ++ sentSegments view l' :=
  List.flatMap_append

end Ink

namespace Pointer

/-- No point is thrown away that the next batch should start with or contain. -/
def Keeps (s : Pointer) : PointerEvent → Prop
  | .down _ => s.tool.strokes = true → segments s.waiting = []
  | .move _ =>
    s.isDrawing = true → s.tool.shapes = false → s.waiting = [] → s.points = []
  | .up _ _ _ => s.isDrawing = true → s.tool.strokes = false → segments s.waiting = []
  | .timeout => s.timer = true → s.tool.strokes = false → segments s.waiting = []
  | _ => True

/-- The pen is not changed while a segment waits. -/
def SamePen (s : Pointer) : PointerEvent → Prop
  | .setTool _ | .setColor _ | .setBrushSize _ => segments s.waiting = []
  | _ => True

/-- So it is in each step of a run. -/
def Along (holds : Pointer → PointerEvent → Prop) (s : Pointer) : List PointerEvent → Prop
  | [] => True
  | e :: es => holds s e ∧ (s.step e).1.Along holds es

instance decidableKeeps (s : Pointer) : (e : PointerEvent) → Decidable (s.Keeps e)
  | .down _ => inferInstanceAs (Decidable (s.tool.strokes = true → segments s.waiting = []))
  | .move _ => inferInstanceAs (Decidable
      (s.isDrawing = true → s.tool.shapes = false → s.waiting = [] → s.points = []))
  | .up _ _ _ => inferInstanceAs (Decidable
      (s.isDrawing = true → s.tool.strokes = false → segments s.waiting = []))
  | .timeout => inferInstanceAs (Decidable
      (s.timer = true → s.tool.strokes = false → segments s.waiting = []))
  | .remount | .setTool _ | .setColor _ | .setBrushSize _ => .isTrue trivial

instance decidableSamePen (s : Pointer) : (e : PointerEvent) → Decidable (s.SamePen e)
  | .setTool _ | .setColor _ | .setBrushSize _ =>
    inferInstanceAs (Decidable (segments s.waiting = []))
  | .down _ | .move _ | .up _ _ _ | .timeout | .remount => .isTrue trivial

instance decidableAlong {holds : Pointer → PointerEvent → Prop} [∀ s e, Decidable (holds s e)]
    (s : Pointer) : (es : List PointerEvent) → Decidable (s.Along holds es)
  | [] => .isTrue trivial
  | e :: es =>
    have := @decidableAlong holds _ (s.step e).1 es
    inferInstanceAs (Decidable (holds s e ∧ (s.step e).1.Along holds es))

end Pointer

/-- The tools fall into three kinds. -/
theorem DrawingTool.kinds (tool : DrawingTool) :
    tool = .fill ∧ tool.strokes = false ∨ tool.shapes = true ∧ tool.strokes = false ∨
      tool.strokes = true := by
  cases tool <;> decide

theorem DrawingTool.not_shapes {tool : DrawingTool} (h : tool.strokes = true) :
    tool.shapes = false := by
  cases tool <;> first | rfl | cases h

namespace Pointer

/-! ## One step -/

variable {s : Pointer} {p : Point}

theorem down_fill (h : s.tool = .fill) :
    s.handlePointerDown p = ({ s with lastCoords := some p }, [.fill p s.color]) := if_pos h

theorem down_shape (h : s.tool.shapes = true) :
    s.handlePointerDown p =
      ({ s with lastCoords := some p, isDrawing := true, shapeStart := some p }, []) := by
  have hfill : s.tool ≠ .fill := fun hfill => by rw [hfill] at h; cases h
  exact (if_neg hfill).trans (if_pos h)

theorem down_stroke (h : s.tool.strokes = true) :
    s.handlePointerDown p =
      ({ s with lastCoords := some p, isDrawing := true, points := [p], lastDispatched := some p,
                pending := [], timer := false },
        if s.tool = .highlighter then [.draw [p] s.style, .sendStroke [p] s.style]
        else [.sendStroke [p] s.style]) := by
  have hfill : s.tool ≠ .fill := fun hfill => by rw [hfill] at h; cases h
  exact (if_neg hfill).trans (if_neg (by rw [DrawingTool.not_shapes h]; exact Bool.noConfusion))

theorem move_shape (hdrawing : s.isDrawing = true) (h : s.tool.shapes = true) :
    s.handlePointerMove p = ({ s with lastCoords := some p }, []) :=
  (if_neg (by rw [hdrawing]; exact Bool.noConfusion)).trans (if_pos h)

theorem move_stroke (hdrawing : s.isDrawing = true) (h : s.tool.shapes = false) :
    s.handlePointerMove p =
      ({ s with lastCoords := some p, points := s.points ++ [p], pending := s.pending ++ [p],
                timer := true },
        s.points.getLast?.toList.map fun q => .draw [q, p] s.style) :=
  (if_neg (by rw [hdrawing]; exact Bool.noConfusion)).trans
    (if_neg (by rw [h]; exact Bool.noConfusion))

/-- What an event does to the points and to the batch that waits: the segments `d` are drawn and `t`
are sent, and nothing is thrown away if `k`. -/
inductive Change (s s' : Pointer) : (d t : List (Point × Point)) → (k : Prop) → Prop
  /-- Nothing. -/
  | quiet (hpoints : s'.points = s.points) (hwaiting : s'.waiting = s.waiting) :
    Change s s' [] [] True
  /-- A stroke begins. -/
  | begins (p : Point) (hpoints : s'.points = [p]) (hwaiting : s'.waiting = [p]) :
    Change s s' [] [] (segments s.waiting = [])
  /-- It goes on. -/
  | moves (p : Point) (hpoints : s'.points = s.points ++ [p])
    (hwaiting : s'.waiting = s.waiting ++ [p]) :
    Change s s' (s.points.getLast?.toList.map (·, p)) [] (s.waiting = [] → s.points = [])
  /-- The batch is sent. -/
  | flushes (hnone : segments s'.waiting = [])
    (hkept : s'.waiting ≠ [] → s'.points = s.points ∧ s'.waiting.getLast? = s.waiting.getLast?) :
    Change s s' [] (segments s.waiting) True
  /-- It is thrown away. -/
  | discards (hnone : segments s'.waiting = [])
    (hkept : s'.waiting ≠ [] → s.waiting ≠ [] ∧ s'.points = s.points ∧
      (segments s.waiting = [] → s'.waiting = s.waiting)) :
    Change s s' [] [] (segments s.waiting = [])

section Step

variable {σ : Type} (view : Style → σ)

theorem flush_strokes (h : s.tool.strokes = true) :
    s.flushPendingStrokePoints.1.points = s.points ∧
      segments s.flushPendingStrokePoints.1.waiting = [] ∧
      s.flushPendingStrokePoints.1.waiting.getLast? = s.waiting.getLast? ∧
      drawnSegments view s.flushPendingStrokePoints.2 = [] ∧
      sentSegments view s.flushPendingStrokePoints.2 = inked view s.waiting s.style := by
  unfold flushPendingStrokePoints waiting
  by_cases hp : s.pending = []
  · simp [hp, drawnSegments, sentSegments, inked]
  · have hlast := List.getLast?_eq_some_getLast hp
    simp [hp, h, hlast, drawnSegments, sentSegments, PointerEffect.drawn, PointerEffect.sent, inked,
      List.getLast?_append]
    rfl

theorem flush_other (h : s.tool.strokes = false) :
    s.flushPendingStrokePoints.1.points = s.points ∧
      s.flushPendingStrokePoints.1.waiting = s.lastDispatched.toList ∧
      s.flushPendingStrokePoints.2 = [] := by
  unfold flushPendingStrokePoints waiting
  by_cases hp : s.pending = [] <;> simp [hp, h]

/-- If no segment waits, there is only the point that the last batch ended with, or nothing. -/
theorem waiting_eq_of_segments (h : segments s.waiting = []) (hlast : s.lastDispatched ≠ none) :
    s.waiting = s.lastDispatched.toList := by
  unfold waiting at h ⊢
  cases hd : s.lastDispatched with
  | none => exact absurd hd hlast
  | some q =>
    rw [hd] at h
    cases hp : s.pending with
    | nil => rfl
    | cons p l =>
      rw [hp] at h
      cases h

theorem finishShape_quiet (s : Pointer) (stop : Point) :
    (s.finishShape stop).1.waiting = s.waiting ∧
      drawnSegments view (s.finishShape stop).2 = [] ∧
      sentSegments view (s.finishShape stop).2 = [] := by
  unfold finishShape
  refine ⟨rfl, ?_, ?_⟩ <;> cases s.shapeStart <;> rfl

theorem finishStroke_quiet (s : Pointer) :
    s.finishStroke.1.waiting = s.waiting ∧ drawnSegments view s.finishStroke.2 = [] ∧
      sentSegments view s.finishStroke.2 = [] := by
  unfold finishStroke
  have hdot : s.points.length = 1 → segments s.points = [] := by
    intro h
    obtain ⟨p, hp⟩ := List.length_eq_one_iff.mp h
    rw [hp]
    rfl
  refine ⟨rfl, ?_, ?_⟩
  · by_cases h : s.points.length = 1 <;> by_cases hnil : s.points = [] <;>
      simp [h, hnil, drawnSegments, PointerEffect.drawn, inked, hdot]
  · by_cases h : s.points.length = 1 <;> by_cases hnil : s.points = [] <;>
      simp [h, hnil, sentSegments, PointerEffect.sent]

/-- A change of the refs, with what is drawn and sent. -/
def Does (s : Pointer) (x : Pointer × List PointerEffect) (keeps : Prop) : Prop :=
  ∃ d t k, Change s x.1 d t k ∧ (k ↔ keeps) ∧
    drawnSegments view x.2 = d.map (·, view s.style) ∧
    sentSegments view x.2 = t.map (·, view s.style)

theorem does_quiet {x : Pointer × List PointerEffect} {keeps : Prop}
    (hpoints : x.1.points = s.points) (hwaiting : x.1.waiting = s.waiting)
    (hd : drawnSegments view x.2 = []) (ht : sentSegments view x.2 = []) (hk : keeps) :
    s.Does view x keeps :=
  ⟨_, _, _, .quiet hpoints hwaiting, iff_of_true trivial hk, hd, ht⟩

/-- What a flush does to the points and to the batch, and what is left if the batch is thrown
away. -/
theorem flush_does (s : Pointer) :
    s.Does view s.flushPendingStrokePoints (s.tool.strokes = false → segments s.waiting = []) := by
  cases h : s.tool.strokes with
  | true =>
    obtain ⟨hpoints, hnone, hlast, hd, ht⟩ := flush_strokes view h
    exact ⟨_, _, _, .flushes hnone fun _ => ⟨hpoints, hlast⟩,
      iff_of_true trivial (fun h => nomatch h), hd, ht⟩
  | false =>
    obtain ⟨hpoints, hwaiting, hl⟩ := flush_other h
    refine ⟨_, _, _, .discards (by simp [hwaiting]) fun hne => ?_,
      ⟨fun h _ => h, fun h => h rfl⟩, by rw [hl]; rfl, by rw [hl]; rfl⟩
    have hlast : s.lastDispatched ≠ none := fun hnone => hne (by rw [hwaiting, hnone]; rfl)
    refine ⟨fun hnil => ?_, hpoints, fun hsegments =>
      hwaiting.trans (waiting_eq_of_segments hsegments hlast).symm⟩
    exact hne (hwaiting.trans (List.append_eq_nil_iff.mp hnil).1)

/-- Releasing the pointer. -/
theorem up_does (hdrawing : s.isDrawing = true) (raw : Point) (atOrigin : Bool)
    (constrain : Point → Point → Point) :
    s.Does view (s.handlePointerUp raw atOrigin constrain)
      (s.tool.strokes = false → segments s.waiting = []) := by
  set s₁ : Pointer := { s with isDrawing := false, timer := false } with hs₁
  set s₂ : Pointer := { s₁.flushPendingStrokePoints.1 with lastDispatched := none, pending := [] }
    with hs₂
  obtain ⟨finished, hfinished, hwaiting, hdrawn, hsent⟩ : ∃ finished : Pointer × List PointerEffect,
      s.handlePointerUp raw atOrigin constrain =
        (finished.1, s₁.flushPendingStrokePoints.2 ++ finished.2) ∧
      finished.1.waiting = [] ∧ drawnSegments view finished.2 = [] ∧
      sentSegments view finished.2 = [] := by
    refine ⟨_, if_neg (by rw [hdrawing]; exact Bool.noConfusion), ?_⟩
    split
    · exact finishShape_quiet view s₂ _
    · exact finishStroke_quiet view s₂
  rw [hfinished]
  have hchange : ∀ {t k}, t = segments s.waiting ∧ k = True ∨
      t = [] ∧ k = (segments s.waiting = []) → Change s finished.1 [] t k := by
    intro t k h
    rcases h with ⟨rfl, rfl⟩ | ⟨rfl, rfl⟩
    · exact .flushes (by rw [hwaiting]; rfl) fun hne => absurd hwaiting hne
    · exact .discards (by rw [hwaiting]; rfl) fun hne => absurd hwaiting hne
  cases h : s.tool.strokes with
  | true =>
    obtain ⟨-, -, -, hd, ht⟩ := flush_strokes view (s := s₁) h
    refine ⟨_, _, _, hchange (.inl ⟨rfl, rfl⟩), iff_of_true trivial (fun h => nomatch h), ?_, ?_⟩
    · rw [drawnSegments_append, hd, hdrawn]
      rfl
    · rw [sentSegments_append, ht, hsent, List.append_nil]
      rfl
  | false =>
    obtain ⟨-, -, hl⟩ := flush_other (s := s₁) h
    refine ⟨_, _, _, hchange (.inr ⟨rfl, rfl⟩), ⟨fun h _ => h, fun h => h rfl⟩, ?_, ?_⟩
    · rw [drawnSegments_append, hl, hdrawn]
      rfl
    · rw [sentSegments_append, hl, hsent]
      rfl

/-- Pressing the pointer. -/
theorem down_does (s : Pointer) (p : Point) :
    s.Does view (s.handlePointerDown p) (s.tool.strokes = true → segments s.waiting = []) := by
  rcases s.tool.kinds with ⟨hfill, hstrokes⟩ | ⟨hshapes, hstrokes⟩ | hstrokes
  · rw [down_fill hfill]
    exact does_quiet view rfl rfl rfl rfl fun h => by rw [hstrokes] at h; cases h
  · rw [down_shape hshapes]
    exact does_quiet view rfl rfl rfl rfl fun h => by rw [hstrokes] at h; cases h
  · rw [down_stroke hstrokes]
    refine ⟨_, _, _, .begins p rfl rfl, ⟨fun h _ => h, fun h => h hstrokes⟩, ?_, ?_⟩ <;>
      dsimp only <;> split <;> rfl

/-- Moving it. -/
theorem move_does (s : Pointer) (p : Point) :
    s.Does view (s.handlePointerMove p)
      (s.isDrawing = true → s.tool.shapes = false → s.waiting = [] → s.points = []) := by
  cases hdrawing : s.isDrawing with
  | false =>
    rw [show s.handlePointerMove p = (s, []) from if_pos hdrawing]
    exact does_quiet view rfl rfl rfl rfl fun h => nomatch h
  | true =>
    cases hshapes : s.tool.shapes with
    | true =>
      rw [move_shape hdrawing hshapes]
      exact does_quiet view rfl rfl rfl rfl fun _ h => nomatch h
    | false =>
      rw [move_stroke hdrawing hshapes]
      refine ⟨_, _, _, .moves p rfl ?_, ⟨fun h _ _ => h, fun h => h rfl rfl⟩, ?_, ?_⟩
      · exact (List.append_assoc _ _ _).symm
      · cases hlast : s.points.getLast? <;> rfl
      · cases hlast : s.points.getLast? <;> rfl

/-- **What one event does.** -/
theorem step_does (s : Pointer) (e : PointerEvent) : s.Does view (s.step e) (s.Keeps e) := by
  cases e with
  | down p => exact down_does view s p
  | move p => exact move_does view s p
  | up raw atOrigin constrain =>
    cases hdrawing : s.isDrawing with
    | false =>
      rw [show s.step (.up raw atOrigin constrain) = (s, []) from if_pos hdrawing]
      exact does_quiet view rfl rfl rfl rfl fun h => by rw [hdrawing] at h; cases h
    | true =>
      obtain ⟨d, t, k, hchange, hk, hd, ht⟩ := up_does view hdrawing raw atOrigin constrain
      exact ⟨d, t, k, hchange, hk.trans ⟨fun h _ => h, fun h => h hdrawing⟩, hd, ht⟩
  | timeout =>
    cases htimer : s.timer with
    | false =>
      rw [show s.step .timeout = (s, []) from if_neg (by simp [htimer])]
      exact does_quiet view rfl rfl rfl rfl fun h => by rw [htimer] at h; cases h
    | true =>
      obtain ⟨d, t, k, hchange, hk, hd, ht⟩ := flush_does view s
      rw [show s.step .timeout = s.flushPendingStrokePoints from if_pos htimer]
      exact ⟨d, t, k, hchange, hk.trans ⟨fun h _ => h, fun h => h htimer⟩, hd, ht⟩
  | remount => exact does_quiet view rfl rfl rfl rfl trivial
  | setTool tool => exact does_quiet view rfl rfl rfl rfl trivial
  | setColor color => exact does_quiet view rfl rfl rfl rfl trivial
  | setBrushSize size => exact does_quiet view rfl rfl rfl rfl trivial

end Step

/-! ## Runs -/

section Run

variable {σ : Type} {view : Style → σ} {s' : Pointer} {d t : List (Point × Point)} {k : Prop}
  {drawn sent : List ((Point × Point) × σ)}

/-- What is drawn is what is sent, with the batch that waits. -/
structure Aligned (view : Style → σ) (s : Pointer)
    (drawn sent : List ((Point × Point) × σ)) : Prop where
  drawn_eq : drawn = sent ++ inked view s.waiting s.style
  joined : s.waiting ≠ [] → s.points.getLast? = s.waiting.getLast?

/-- `n` segments fewer are sent or wait than are drawn. -/
structure Behind (n : Nat) (s : Pointer) (drawn sent : List ((Point × Point) × σ)) : Prop where
  length_le : sent.length + (segments s.waiting).length + n ≤ drawn.length
  begun : s.waiting ≠ [] → s.points ≠ []

theorem Aligned.change (h : s.Aligned view drawn sent) (hchange : Change s s' d t k) (hk : k)
    (hstyle : view s'.style = view s.style ∨ s'.waiting = s.waiting ∧ segments s.waiting = []) :
    s'.Aligned view (drawn ++ d.map (·, view s.style)) (sent ++ t.map (·, view s.style)) := by
  obtain ⟨hdrawn, hjoined⟩ := h
  cases hchange with
  | quiet hpoints hwaiting =>
    refine ⟨?_, by rwa [hpoints, hwaiting]⟩
    have hinked : inked view s'.waiting s'.style = inked view s.waiting s.style := by
      unfold inked
      rcases hstyle with hstyle | ⟨-, hnone⟩
      · rw [hwaiting, hstyle]
      · rw [hwaiting, hnone]
        rfl
    simp only [List.map_nil, List.append_nil, hinked, hdrawn]
  | begins p hpoints hwaiting =>
    refine ⟨?_, fun _ => by rw [hpoints, hwaiting]⟩
    simp [hdrawn, inked, hwaiting, hk, segments]
  | moves p hpoints hwaiting =>
    refine ⟨?_, fun _ => by rw [hpoints, hwaiting, List.getLast?_concat, List.getLast?_concat]⟩
    have hstyle : view s'.style = view s.style := by
      refine hstyle.resolve_right fun h => ?_
      have hlen := congrArg List.length (hwaiting.symm.trans h.1)
      rw [List.length_append, List.length_singleton] at hlen
      omega
    by_cases hnil : s.waiting = []
    · simp [hdrawn, inked, hwaiting, hnil, hk hnil, segments]
    · have hlast := List.getLast?_eq_some_getLast hnil
      have hpoint := (hjoined hnil).trans hlast
      simp [hdrawn, inked, hwaiting, hpoint, segments_concat hlast, hstyle]
  | flushes hnone hkept =>
    refine ⟨by simp [hdrawn, inked, hnone], fun hne => ?_⟩
    obtain ⟨hpoints, hlast⟩ := hkept hne
    rw [hpoints, hlast]
    refine hjoined fun hnil => hne ?_
    rwa [hnil, List.getLast?_nil, List.getLast?_eq_none_iff] at hlast
  | discards hnone hkept =>
    refine ⟨by simp [hdrawn, inked, hnone, hk], fun hne => ?_⟩
    obtain ⟨-, hpoints, hwaiting⟩ := hkept hne
    rw [hpoints, hwaiting hk]
    exact hjoined (by rwa [← hwaiting hk])

/-- Nothing that is thrown away is made up for. -/
theorem Behind.change {n : Nat} (h : s.Behind n drawn sent) (hchange : Change s s' d t k) (x : σ) :
    s'.Behind n (drawn ++ d.map (·, x)) (sent ++ t.map (·, x)) ∧
      (¬k → s'.Behind (n + 1) (drawn ++ d.map (·, x)) (sent ++ t.map (·, x))) := by
  obtain ⟨hlength, hbegun⟩ := h
  have hadd : ∀ m, sent.length + t.length + (segments s'.waiting).length + m ≤
      drawn.length + d.length → (s'.waiting ≠ [] → s'.points ≠ []) →
      s'.Behind m (drawn ++ d.map (·, x)) (sent ++ t.map (·, x)) := by
    intro m hle hne
    refine ⟨?_, hne⟩
    simpa only [List.length_append, List.length_map] using hle
  cases hchange with
  | quiet hpoints hwaiting =>
    refine ⟨hadd n ?_ (by rwa [hpoints, hwaiting]), fun hk => absurd trivial hk⟩
    rw [hwaiting]
    exact hlength
  | begins p hpoints hwaiting =>
    have hne : s'.points ≠ [] := by rw [hpoints]; exact List.cons_ne_nil _ _
    have hnone : segments s'.waiting = [] := by rw [hwaiting]; rfl
    refine ⟨hadd n ?_ fun _ => hne, fun hk => hadd (n + 1) ?_ fun _ => hne⟩
    · simp only [hnone, List.length_nil]
      omega
    · have hpos := List.length_pos_iff.mpr hk
      simp only [hnone, List.length_nil]
      omega
  | moves p hpoints hwaiting =>
    have hne : s'.points ≠ [] := by
      rw [hpoints]
      exact List.append_ne_nil_of_right_ne_nil _ (List.cons_ne_nil _ _)
    have hd : s.points ≠ [] → (s.points.getLast?.toList.map (·, p)).length = 1 := fun h => by
      rw [List.getLast?_eq_some_getLast h]
      rfl
    by_cases hnil : s.waiting = []
    · have hnone : segments s'.waiting = [] := by rw [hwaiting, hnil]; rfl
      refine ⟨hadd n ?_ fun _ => hne, fun hk => hadd (n + 1) ?_ fun _ => hne⟩
      · simp only [hnone, List.length_nil]
        omega
      · rw [hd fun h => hk fun _ => h]
        simp only [hnone, List.length_nil]
        omega
    · refine ⟨hadd n ?_ fun _ => hne, fun hk => absurd (fun h => absurd h hnil) hk⟩
      rw [hd (hbegun hnil), hwaiting, segments_concat (List.getLast?_eq_some_getLast hnil),
        List.length_append, List.length_singleton, List.length_nil]
      omega
  | flushes hnone hkept =>
    refine ⟨hadd n ?_ fun hne => ?_, fun hk => absurd trivial hk⟩
    · simp only [hnone, List.length_nil]
      omega
    · obtain ⟨hpoints, hlast⟩ := hkept hne
      rw [hpoints]
      refine hbegun fun hnil => hne ?_
      rwa [hnil, List.getLast?_nil, List.getLast?_eq_none_iff] at hlast
  | discards hnone hkept =>
    have hne : s'.waiting ≠ [] → s'.points ≠ [] := fun hne => by
      obtain ⟨hwaiting, hpoints, -⟩ := hkept hne
      rw [hpoints]
      exact hbegun hwaiting
    refine ⟨hadd n ?_ hne, fun hk => hadd (n + 1) ?_ hne⟩
    · simp only [hnone, List.length_nil]
      omega
    · have hpos := List.length_pos_iff.mpr hk
      simp only [hnone, List.length_nil]
      omega

variable {e : PointerEvent} {es : List PointerEvent}

/-- An event that does not change what there is to see of the pen while a segment waits. -/
def Steady (view : Style → σ) (s : Pointer) (e : PointerEvent) : Prop :=
  view (s.step e).1.style = view s.style ∨
    (s.step e).1.waiting = s.waiting ∧ segments s.waiting = []

theorem Aligned.step (h : s.Aligned view drawn sent) (hk : s.Keeps e) (hsteady : s.Steady view e) :
    (s.step e).1.Aligned view (drawn ++ drawnSegments view (s.step e).2)
      (sent ++ sentSegments view (s.step e).2) := by
  obtain ⟨d, t, k, hchange, hkeeps, hd, ht⟩ := step_does view s e
  rw [hd, ht]
  exact h.change hchange (hkeeps.mpr hk) hsteady

variable (view) in
theorem Behind.step {n : Nat} (h : s.Behind n drawn sent) (e : PointerEvent) :
    (s.step e).1.Behind n (drawn ++ drawnSegments view (s.step e).2)
        (sent ++ sentSegments view (s.step e).2) ∧
      (¬s.Keeps e → (s.step e).1.Behind (n + 1) (drawn ++ drawnSegments view (s.step e).2)
        (sent ++ sentSegments view (s.step e).2)) := by
  obtain ⟨d, t, k, hchange, hkeeps, hd, ht⟩ := step_does view s e
  rw [hd, ht, ← hkeeps]
  exact h.change hchange (view s.style)

theorem Aligned.run (h : s.Aligned view drawn sent) (hkept : s.Along Keeps es)
    (hsteady : s.Along (Steady view) es) :
    (s.run es).1.Aligned view (drawn ++ drawnSegments view (s.run es).2)
      (sent ++ sentSegments view (s.run es).2) := by
  induction es generalizing s drawn sent with
  | nil => simpa [Pointer.run, drawnSegments, sentSegments] using h
  | cons e es ih =>
    have hrun := ih (h.step hkept.1 hsteady.1) hkept.2 hsteady.2
    simpa only [Pointer.run, drawnSegments_append, sentSegments_append,
      List.append_assoc] using hrun

variable (view) in
/-- If a step throws something away, what is sent is behind for good. -/
theorem Behind.run {n : Nat} (h : s.Behind n drawn sent) (es : List PointerEvent) :
    (s.run es).1.Behind n (drawn ++ drawnSegments view (s.run es).2)
        (sent ++ sentSegments view (s.run es).2) ∧
      (¬s.Along Keeps es → (s.run es).1.Behind (n + 1) (drawn ++ drawnSegments view (s.run es).2)
        (sent ++ sentSegments view (s.run es).2)) := by
  induction es generalizing s drawn sent n with
  | nil =>
    refine ⟨?_, fun hk => absurd trivial hk⟩
    simpa [Pointer.run, drawnSegments, sentSegments] using h
  | cons e es ih =>
    simp only [Pointer.run, drawnSegments_append, sentSegments_append, ← List.append_assoc]
    obtain ⟨hstep, hlost⟩ := h.step view e
    refine ⟨(ih hstep).1, fun hk => ?_⟩
    by_cases he : s.Keeps e
    · exact (ih hstep).2 fun hrest => hk ⟨he, hrest⟩
    · exact (ih (hlost he)).1

theorem Along.mono {holds holds' : Pointer → PointerEvent → Prop} (h : s.Along holds es)
    (himp : ∀ s e, holds s e → holds' s e) : s.Along holds' es := by
  induction es generalizing s with
  | nil => trivial
  | cons e es ih => exact ⟨himp s e h.1, ih h.2⟩

theorem along_of_forall {holds : Pointer → PointerEvent → Prop} (h : ∀ s e, holds s e)
    (s : Pointer) (es : List PointerEvent) : s.Along holds es := by
  induction es generalizing s with
  | nil => trivial
  | cons e es ih => exact ⟨h s e, ih _⟩

theorem aligned_new (view : Style → σ) : ({} : Pointer).Aligned view [] [] :=
  ⟨rfl, fun h => absurd rfl h⟩

theorem behind_new : ({} : Pointer).Behind 0 ([] : List ((Point × Point) × σ)) [] :=
  ⟨Nat.le_refl 0, fun h => absurd rfl h⟩

end Run

theorem flush_style (s : Pointer) : s.flushPendingStrokePoints.1.style = s.style := by
  unfold flushPendingStrokePoints
  split
  · rfl
  · split <;> rfl

/-- Only the setters change the pen. -/
theorem SamePen.steady {s : Pointer} {e : PointerEvent} (h : s.SamePen e) : s.Steady id e := by
  cases e with
  | setTool tool => exact .inr ⟨rfl, h⟩
  | setColor color => exact .inr ⟨rfl, h⟩
  | setBrushSize size => exact .inr ⟨rfl, h⟩
  | remount => exact .inl rfl
  | down p =>
    refine .inl ?_
    show (s.handlePointerDown p).1.style = s.style
    unfold handlePointerDown
    dsimp only
    split
    · rfl
    · split <;> rfl
  | move p =>
    refine .inl ?_
    show (s.handlePointerMove p).1.style = s.style
    unfold handlePointerMove
    split
    · rfl
    · dsimp only
      split <;> rfl
  | up raw atOrigin constrain =>
    refine .inl ?_
    show (s.handlePointerUp raw atOrigin constrain).1.style = s.style
    have hflush := flush_style { s with isDrawing := false, timer := false }
    unfold handlePointerUp
    split
    · rfl
    · dsimp only
      split <;> exact hflush
  | timeout =>
    refine .inl ?_
    show (if s.timer then s.flushPendingStrokePoints else (s, [])).1.style = s.style
    split
    · exact flush_style s
    · rfl

end Pointer

/-- Only where a segment is. -/
def place (_ : Style) : Unit := ()

/-- **Each segment that is drawn is sent**, in order and once, exactly if no step throws away a
point that waits. -/
theorem relayed_iff (es : List PointerEvent)
    (hdone : segments (({} : Pointer).run es).1.waiting = []) :
    sentSegments place (({} : Pointer).run es).2 = drawnSegments place (({} : Pointer).run es).2 ↔
      ({} : Pointer).Along Pointer.Keeps es := by
  constructor
  · intro heq
    by_contra hlost
    have hbehind := (Pointer.behind_new.run place es).2 hlost
    have hlength := hbehind.length_le
    rw [List.nil_append, List.nil_append, heq] at hlength
    omega
  · intro hkept
    have haligned := ((Pointer.aligned_new place).run hkept
      (Pointer.along_of_forall (fun _ _ => .inl rfl) _ es)).drawn_eq
    rw [List.nil_append, List.nil_append] at haligned
    rw [haligned, inked, hdone, List.map_nil, List.append_nil]

/-- A stroke of three segments in two batches. -/
def threeSegments : List PointerEvent :=
  [.setTool .highlighter, .down (0, 0), .move (1, 0), .move (1, 1), .timeout, .move (2, 2),
    .up (2, 2) false fun _ stop => stop]

theorem threeSegments_relayed :
    sentSegments place (({} : Pointer).run threeSegments).2 =
      drawnSegments place (({} : Pointer).run threeSegments).2 :=
  (relayed_iff threeSegments rfl).mpr (by decide)

/-- A second button is pressed while a segment waits. -/
example : ¬({} : Pointer).Along Pointer.Keeps [.down (0, 0), .move (1, 0), .down (2, 0)] := by
  decide

/-! ## What a guesser decodes -/

/-- The frames that are sent. -/
def PointerEffect.frame : PointerEffect → Option Bytes
  | .sendStroke points style =>
    some (encodeStroke points style.color style.size style.isHighlighter)
  | _ => none

def sentFrames (l : List PointerEffect) : List Bytes := l.filterMap PointerEffect.frame

/-- The segments of a decoded event, with colour, size and kind. -/
def eventSegments : DrawEvent → List (((Nat × Nat) × (Nat × Nat)) × Colour × Nat × Bool)
  | .stroke points color size => (segments points).map (·, color, size, false)
  | .highlighter points color size => (segments points).map (·, color, size, true)
  | _ => []

/-- A segment as it is on the wire: its coordinates are rounded. -/
def onWire (x : (Point × Point) × Style) : ((Nat × Nat) × (Nat × Nat)) × Colour × Nat × Bool :=
  ((wirePoint x.1.1, wirePoint x.1.2), wireColour x.2.color, clampRound 1 255 x.2.size,
    x.2.isHighlighter)

/-- How many points a frame has. -/
def PointerEffect.count : PointerEffect → Nat
  | .sendStroke points _ => points.length
  | _ => 0

/-- The count of a batch has two bytes. -/
def Countable (l : List PointerEffect) : Prop := ∀ x ∈ l, x.count < 65536

theorem eventSegments_wire (points : List Point) (style : Style) :
    eventSegments (wireStroke points style.color style.size style.isHighlighter) =
      (inked id points style).map onWire := by
  unfold wireStroke inked
  split <;> rename_i h <;>
    simp [eventSegments, segments_map, List.map_map, Function.comp_def, onWire, h]

/-- Joined frames decode to what each of them decodes to. -/
theorem decode_flatten {group : List Bytes} (h : ∀ b ∈ group, ∃ e, decodeRecord b = some (e, [])) :
    decodeBinaryDrawEvents group.flatten = group.flatMap decodeBinaryDrawEvents := by
  induction group with
  | nil => rfl
  | cons b group ih =>
    obtain ⟨e, he⟩ := h b List.mem_cons_self
    have hrest := ih fun b' hb' => h b' (List.mem_cons_of_mem _ hb')
    rw [List.flatten_cons, List.flatMap_cons, ← hrest, decode_append (.single he),
      decode_records (.single he)]

theorem record_of_frame {l : List PointerEffect} (h : Countable l) :
    ∀ b ∈ sentFrames l, ∃ e, decodeRecord b = some (e, []) := by
  intro b hb
  obtain ⟨x, hx, hframe⟩ := List.mem_filterMap.mp hb
  cases x with
  | sendStroke points style =>
    cases hframe
    exact ⟨_, decodeRecord_encodeStroke (h _ hx) _ _ _⟩
  | _ => cases hframe

/-- The frames carry the segments that are sent. -/
theorem segments_of_frames {l : List PointerEffect} (h : Countable l) :
    ((sentFrames l).flatMap decodeBinaryDrawEvents).flatMap eventSegments =
      (sentSegments id l).map onWire := by
  induction l with
  | nil => rfl
  | cons x l ih =>
    have hrest := ih fun y hy => h y (List.mem_cons_of_mem _ hy)
    cases x with
    | sendStroke points style =>
      have hcount : points.length < 65536 := h _ List.mem_cons_self
      show (decodeBinaryDrawEvents
        (encodeStroke points style.color style.size style.isHighlighter) ++
          (sentFrames l).flatMap decodeBinaryDrawEvents).flatMap eventSegments =
        (inked id points style ++ sentSegments id l).map onWire
      rw [decode_encodeStroke hcount, List.map_append, ← hrest, List.flatMap_append,
        List.flatMap_singleton, eventSegments_wire]
    | _ => exact hrest

/-- **A guesser decodes what the drawer has drawn**, with the same colours and sizes, however the
frames are joined on their way, if no point that waits is thrown away and the pen is not changed
before it is sent. -/
theorem decoded_eq_drawn {es : List PointerEvent} {groups : List (List Bytes)}
    (hdone : segments (({} : Pointer).run es).1.waiting = [])
    (hkept : ({} : Pointer).Along Pointer.Keeps es) (hpen : ({} : Pointer).Along Pointer.SamePen es)
    (hcount : Countable (({} : Pointer).run es).2)
    (hgroups : groups.flatten = sentFrames (({} : Pointer).run es).2) :
    (groups.flatMap fun group => decodeBinaryDrawEvents group.flatten).flatMap eventSegments =
      (drawnSegments id (({} : Pointer).run es).2).map onWire := by
  have haligned := ((Pointer.aligned_new id).run hkept
    (hpen.mono fun _ _ h => h.steady)).drawn_eq
  rw [List.nil_append, List.nil_append, inked, hdone, List.map_nil, List.append_nil] at haligned
  have hrecord := record_of_frame hcount
  rw [← hgroups] at hrecord
  have hjoined : (groups.flatMap fun group => decodeBinaryDrawEvents group.flatten) =
      groups.flatten.flatMap decodeBinaryDrawEvents := by
    rw [List.flatten_eq_flatMap, List.flatMap_assoc]
    refine List.flatMap_congr fun group hgroup => decode_flatten fun b hb => ?_
    exact hrecord b (List.mem_flatten_of_mem hgroup hb)
  rw [hjoined, hgroups, segments_of_frames hcount, haligned]

theorem threeSegments_decoded :
    (([sentFrames (({} : Pointer).run threeSegments).2].flatMap fun group =>
        decodeBinaryDrawEvents group.flatten).flatMap eventSegments) =
      (drawnSegments id (({} : Pointer).run threeSegments).2).map onWire := by
  have hcount : Countable (({} : Pointer).run threeSegments).2 := by
    unfold Countable
    decide
  exact decoded_eq_drawn rfl (by decide) (by decide) hcount (List.append_nil _)

/-! ## The action history -/

/-- The segments of the strokes that are added to the action history. -/
def PointerEffect.recorded : PointerEffect → List (Point × Point)
  | .recordStroke points _ => segments points
  | _ => []

def recordedSegments (l : List PointerEffect) : List (Point × Point) := l.flatMap (·.recorded)

def drawnPlaces (l : List PointerEffect) : List (Point × Point) :=
  (drawnSegments place l).map Prod.fst

@[simp] theorem recordedSegments_append (l l' : List PointerEffect) :
    recordedSegments (l ++ l') = recordedSegments l ++ recordedSegments l' := List.flatMap_append

@[simp] theorem drawnPlaces_append (l l' : List PointerEffect) :
    drawnPlaces (l ++ l') = drawnPlaces l ++ drawnPlaces l' := by
  rw [drawnPlaces, drawnSegments_append, List.map_append]
  rfl

namespace Pointer

variable {s s' : Pointer} {e : PointerEvent} {es : List PointerEvent}

/-- No stroke begins while the segments of another one are not recorded. -/
def Finishes (s : Pointer) : PointerEvent → Prop
  | .down _ => s.tool.strokes = true → segments s.points = []
  | _ => True

instance decidableFinishes (s : Pointer) : (e : PointerEvent) → Decidable (s.Finishes e)
  | .down _ => inferInstanceAs (Decidable (s.tool.strokes = true → segments s.points = []))
  | .move _ | .up _ _ _ | .timeout | .remount | .setTool _ | .setColor _ | .setBrushSize _ =>
    .isTrue trivial

/-- What an event does to the points of the stroke: the segments `d` are drawn and `h` are
recorded. -/
inductive Records (s s' : Pointer) : (d h : List (Point × Point)) → (k : Prop) → Prop
  | quiet (hpoints : s'.points = s.points) : Records s s' [] [] True
  | begins (p : Point) (hpoints : s'.points = [p]) : Records s s' [] [] (segments s.points = [])
  | moves (p : Point) (hpoints : s'.points = s.points ++ [p]) :
    Records s s' (s.points.getLast?.toList.map (·, p)) [] True
  | finishes (hpoints : s'.points = []) : Records s s' [] (segments s.points) True

theorem flush_records (s : Pointer) :
    s.flushPendingStrokePoints.1.points = s.points ∧ drawnPlaces s.flushPendingStrokePoints.2 = [] ∧
      recordedSegments s.flushPendingStrokePoints.2 = [] := by
  unfold flushPendingStrokePoints
  split
  · exact ⟨rfl, rfl, rfl⟩
  · split <;> exact ⟨rfl, rfl, rfl⟩

theorem finishShape_records (s : Pointer) (stop : Point) :
    (s.finishShape stop).1.points = s.points ∧ drawnPlaces (s.finishShape stop).2 = [] ∧
      recordedSegments (s.finishShape stop).2 = [] := by
  unfold finishShape
  refine ⟨rfl, ?_, ?_⟩ <;> cases s.shapeStart <;> rfl

theorem finishStroke_records (s : Pointer) :
    s.finishStroke.1.points = [] ∧ drawnPlaces s.finishStroke.2 = [] ∧
      recordedSegments s.finishStroke.2 = segments s.points := by
  refine ⟨rfl, congrArg (List.map Prod.fst) (finishStroke_quiet place s).2.1, ?_⟩
  unfold finishStroke
  cases hpoints : s.points with
  | nil => rfl
  | cons p l => cases l <;> simp [recordedSegments, PointerEffect.recorded]

/-- **What one event draws and records.** -/
theorem records_step (s : Pointer) (e : PointerEvent) :
    ∃ k, Records s (s.step e).1 (drawnPlaces (s.step e).2) (recordedSegments (s.step e).2) k ∧
      (k ↔ s.Finishes e) := by
  cases e with
  | down p =>
    show ∃ k, Records s (s.handlePointerDown p).1 (drawnPlaces (s.handlePointerDown p).2)
      (recordedSegments (s.handlePointerDown p).2) k ∧ (k ↔ s.Finishes (.down p))
    rcases s.tool.kinds with ⟨hfill, hstrokes⟩ | ⟨hshapes, hstrokes⟩ | hstrokes
    · rw [down_fill hfill]
      exact ⟨_, .quiet rfl, iff_of_true trivial fun h => by rw [hstrokes] at h; cases h⟩
    · rw [down_shape hshapes]
      exact ⟨_, .quiet rfl, iff_of_true trivial fun h => by rw [hstrokes] at h; cases h⟩
    · rw [down_stroke hstrokes]
      refine ⟨_, ?_, ⟨fun h _ => h, fun h => h hstrokes⟩⟩
      split <;> exact .begins p rfl
  | move p =>
    show ∃ k, Records s (s.handlePointerMove p).1 (drawnPlaces (s.handlePointerMove p).2)
      (recordedSegments (s.handlePointerMove p).2) k ∧ (k ↔ True)
    cases hdrawing : s.isDrawing with
    | false =>
      rw [show s.handlePointerMove p = (s, []) from if_pos hdrawing]
      exact ⟨_, .quiet rfl, Iff.rfl⟩
    | true =>
      cases hshapes : s.tool.shapes with
      | true =>
        rw [move_shape hdrawing hshapes]
        exact ⟨_, .quiet rfl, Iff.rfl⟩
      | false =>
        rw [move_stroke hdrawing hshapes]
        let moved : Pointer := { s with
          lastCoords := some p, points := s.points ++ [p], pending := s.pending ++ [p],
          timer := true }
        have hmoves : Records s moved (s.points.getLast?.toList.map fun q => (q, p)) [] True :=
          .moves p rfl
        refine ⟨_, ?_, Iff.rfl⟩
        cases hlast : s.points.getLast? <;> rw [hlast] at hmoves <;> exact hmoves
  | up raw atOrigin constrain =>
    show ∃ k, Records s (s.handlePointerUp raw atOrigin constrain).1
      (drawnPlaces (s.handlePointerUp raw atOrigin constrain).2)
      (recordedSegments (s.handlePointerUp raw atOrigin constrain).2) k ∧ (k ↔ True)
    refine ⟨True, ?_, Iff.rfl⟩
    obtain ⟨hpoints, hd, hr⟩ := flush_records { s with isDrawing := false, timer := false }
    unfold handlePointerUp
    split
    · exact .quiet rfl
    · dsimp only
      rw [drawnPlaces_append, recordedSegments_append, hd, hr]
      split
      · obtain ⟨hp, hd', hr'⟩ := finishShape_records _ _
        rw [hd', hr']
        exact .quiet (hp.trans hpoints)
      · obtain ⟨hp, hd', hr'⟩ := finishStroke_records { ({ s with
            isDrawing := false, timer := false } : Pointer).flushPendingStrokePoints.1 with
          lastDispatched := none, pending := [] }
        rw [hd', hr'.trans (congrArg segments hpoints)]
        exact .finishes hp
  | timeout =>
    show ∃ k, Records s (if s.timer then s.flushPendingStrokePoints else (s, [])).1
      (drawnPlaces (if s.timer then s.flushPendingStrokePoints else (s, [])).2)
      (recordedSegments (if s.timer then s.flushPendingStrokePoints else (s, [])).2) k ∧ (k ↔ True)
    split
    · obtain ⟨hpoints, hd, hr⟩ := flush_records s
      rw [hd, hr]
      exact ⟨_, .quiet hpoints, Iff.rfl⟩
    · exact ⟨_, .quiet rfl, Iff.rfl⟩
  | remount => exact ⟨_, .quiet rfl, Iff.rfl⟩
  | setTool tool => exact ⟨_, .quiet rfl, Iff.rfl⟩
  | setColor color => exact ⟨_, .quiet rfl, Iff.rfl⟩
  | setBrushSize size => exact ⟨_, .quiet rfl, Iff.rfl⟩

section History

variable {drawn recorded d h : List (Point × Point)} {k : Prop}

/-- What is drawn is what is recorded, with the stroke that is being drawn. -/
def Kept (s : Pointer) (drawn recorded : List (Point × Point)) : Prop :=
  drawn = recorded ++ segments s.points

/-- `n` segments fewer are recorded, or in the points of the stroke, than are drawn. -/
def Short (n : Nat) (s : Pointer) (drawn recorded : List (Point × Point)) : Prop :=
  recorded.length + (segments s.points).length + n ≤ drawn.length

/-- The segments between the points, with one more. -/
theorem segments_points_concat (l : List Point) (p : Point) :
    segments (l ++ [p]) = segments l ++ l.getLast?.toList.map (·, p) := by
  cases hlast : l.getLast? with
  | none =>
    rw [List.getLast?_eq_none_iff] at hlast
    rw [hlast]
    rfl
  | some q => exact segments_concat hlast

theorem Kept.records (hkept : s.Kept drawn recorded) (hrecords : Records s s' d h k) (hk : k) :
    s'.Kept (drawn ++ d) (recorded ++ h) := by
  unfold Kept at hkept ⊢
  cases hrecords with
  | quiet hpoints => simp [hkept, hpoints]
  | begins p hpoints => simp [hkept, hpoints, hk, segments]
  | moves p hpoints => simp [hkept, hpoints, segments_points_concat]
  | finishes hpoints => simp [hkept, hpoints, segments]

theorem Short.records {n : Nat} (hshort : s.Short n drawn recorded)
    (hrecords : Records s s' d h k) :
    s'.Short n (drawn ++ d) (recorded ++ h) ∧
      (¬k → s'.Short (n + 1) (drawn ++ d) (recorded ++ h)) := by
  unfold Short at hshort ⊢
  simp only [List.length_append]
  cases hrecords with
  | quiet hpoints =>
    rw [hpoints]
    exact ⟨hshort, fun hk => absurd trivial hk⟩
  | begins p hpoints =>
    have hnone : segments s'.points = [] := by rw [hpoints]; rfl
    rw [hnone]
    refine ⟨?_, fun hk => ?_⟩
    · simp only [List.length_nil]
      omega
    · have hpos := List.length_pos_iff.mpr hk
      simp only [List.length_nil]
      omega
  | moves p hpoints =>
    rw [hpoints, segments_points_concat, List.length_append]
    refine ⟨?_, fun hk => absurd trivial hk⟩
    simp only [List.length_nil]
    omega
  | finishes hpoints =>
    have hnone : segments s'.points = [] := by rw [hpoints]; rfl
    rw [hnone]
    refine ⟨?_, fun hk => absurd trivial hk⟩
    simp only [List.length_nil]
    omega

theorem kept_new : ({} : Pointer).Kept [] [] := rfl

theorem short_new : ({} : Pointer).Short 0 [] [] := Nat.le_refl 0

theorem Kept.run (hkept : s.Kept drawn recorded) (hfinishes : s.Along Finishes es) :
    (s.run es).1.Kept (drawn ++ drawnPlaces (s.run es).2)
      (recorded ++ recordedSegments (s.run es).2) := by
  induction es generalizing s drawn recorded with
  | nil => simpa [Pointer.run, drawnPlaces, drawnSegments, recordedSegments] using hkept
  | cons e es ih =>
    obtain ⟨k, hrecords, hk⟩ := records_step s e
    have hrun := ih (hkept.records hrecords (hk.mpr hfinishes.1)) hfinishes.2
    simpa only [Pointer.run, drawnPlaces_append, recordedSegments_append, List.append_assoc]
      using hrun

theorem Short.run {n : Nat} (hshort : s.Short n drawn recorded) (es : List PointerEvent) :
    (s.run es).1.Short n (drawn ++ drawnPlaces (s.run es).2)
        (recorded ++ recordedSegments (s.run es).2) ∧
      (¬s.Along Finishes es → (s.run es).1.Short (n + 1) (drawn ++ drawnPlaces (s.run es).2)
        (recorded ++ recordedSegments (s.run es).2)) := by
  induction es generalizing s drawn recorded n with
  | nil =>
    refine ⟨?_, fun h => absurd trivial h⟩
    simpa [Pointer.run, drawnPlaces, drawnSegments, recordedSegments] using hshort
  | cons e es ih =>
    simp only [Pointer.run, drawnPlaces_append, recordedSegments_append, ← List.append_assoc]
    obtain ⟨k, hrecords, hk⟩ := records_step s e
    obtain ⟨hstep, hlost⟩ := hshort.records hrecords
    refine ⟨(ih hstep).1, fun h => ?_⟩
    by_cases he : s.Finishes e
    · exact (ih hstep).2 fun hrest => h ⟨he, hrest⟩
    · exact (ih (hlost fun hk' => he (hk.mp hk'))).1

end History

end Pointer

/-- **The action history has each segment that is drawn**, in order and once, exactly if no stroke
begins while the segments of another one are not recorded. -/
theorem recorded_iff (es : List PointerEvent)
    (hdone : segments (({} : Pointer).run es).1.points = []) :
    recordedSegments (({} : Pointer).run es).2 = drawnPlaces (({} : Pointer).run es).2 ↔
      ({} : Pointer).Along Pointer.Finishes es := by
  constructor
  · intro heq
    by_contra hlost
    have hshort := (Pointer.short_new.run es).2 hlost
    unfold Pointer.Short at hshort
    rw [List.nil_append, List.nil_append, heq] at hshort
    omega
  · intro hfinishes
    have hkept := Pointer.kept_new.run hfinishes
    unfold Pointer.Kept at hkept
    rw [List.nil_append, List.nil_append, hdone, List.append_nil] at hkept
    exact hkept.symm

theorem threeSegments_recorded :
    recordedSegments (({} : Pointer).run threeSegments).2 =
      drawnPlaces (({} : Pointer).run threeSegments).2 :=
  (recorded_iff threeSegments rfl).mpr (by decide)

/-- Of a stroke that ends with a tool for shapes nothing is recorded. -/
example : recordedSegments (({} : Pointer).run
    [.down (0, 0), .move (1, 0), .setTool .line, .up (1, 0) false fun _ stop => stop]).2 = [] := by
  decide

end Skribbl.Frontend
