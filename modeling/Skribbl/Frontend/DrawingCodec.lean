import Skribbl.Frontend.HexColour

/-!
# Round trip of the drawing codec (`frontend/src/utils/binaryDrawing.ts`)

* `encodeEvent` — the record of an event.
* `Admissible` — the events that a client sends.

Principal result: `codec_round_trip` — the records of some events decode to these events, and a part
of them to the events whose records are whole.
-/

set_option autoImplicit false

namespace Skribbl.BinaryDrawing

/-- `#rrggbb` in lower case. -/
def LowerColour (color : Colour) : Prop :=
  ∃ a b c d e f, color = ['#', a, b, c, d, e, f] ∧ ∀ x ∈ [a, b, c, d, e, f], LowerHex x

/-- Integer coordinates of two bytes. -/
def TwoBytes (p : Nat × Nat) : Prop := p.1 ≤ 65535 ∧ p.2 ≤ 65535

/-- The events that a client sends. -/
def Admissible : DrawEvent → Prop
  | .stroke points color size | .highlighter points color size =>
    points.length ≤ 65535 ∧ (∀ p ∈ points, TwoBytes p) ∧ (1 ≤ size ∧ size ≤ 255) ∧ LowerColour color
  | .fill x y color => TwoBytes (x, y) ∧ LowerColour color
  | .clearCanvas => True

/-- The integers as JavaScript numbers. -/
def numbers (points : List (Nat × Nat)) : List (ℚ × ℚ) := points.map fun p => (p.1, p.2)

/-- The record of an event. -/
def encodeEvent : DrawEvent → Bytes
  | .stroke points color size => encodeStroke (numbers points) color size false
  | .highlighter points color size => encodeStroke (numbers points) color size true
  | .fill x y color => encodeFill x y color
  | .clearCanvas => encodeClearCanvas

/-- The records of some events, one after the other. -/
def encodeEvents (es : List DrawEvent) : Bytes := es.flatMap encodeEvent

/-! ## One record -/

theorem clampRound_natCast {lo hi n : Nat} (hlo : lo ≤ n) (hhi : n ≤ hi) :
    clampRound lo hi (n : ℚ) = n := by
  have hround : round (n : ℚ) = n := by
    rw [round, Int.floor_eq_iff]
    constructor <;> push_cast <;> linarith
  rw [clampRound, hround]
  omega

theorem wirePoint_numbers {points : List (Nat × Nat)} (h : ∀ p ∈ points, TwoBytes p) :
    (numbers points).map wirePoint = points := by
  rw [numbers, List.map_map]
  refine (List.map_congr_left fun p hp => ?_).trans (List.map_id points)
  simp only [Function.comp_apply, wirePoint, clampRound_natCast (Nat.zero_le _) (h p hp).1,
    clampRound_natCast (Nat.zero_le _) (h p hp).2, id]

theorem LowerColour.wireColour {color : Colour} (h : LowerColour color) :
    wireColour color = color := by
  obtain ⟨a, b, c, d, e, f, rfl, hlower⟩ := h
  exact wireColour_lower hlower

/-- A stroke or highlighter record decodes to its event. -/
theorem decodeRecord_stroke {points : List (Nat × Nat)} {color : Colour} {size : Nat}
    (hlen : points.length ≤ 65535) (hpoints : ∀ p ∈ points, TwoBytes p)
    (hsize : 1 ≤ size ∧ size ≤ 255) (hcolor : LowerColour color) (isHighlighter : Bool) :
    decodeRecord (encodeStroke (numbers points) color size isHighlighter) =
      some (if isHighlighter then .highlighter points color size else .stroke points color size,
        []) := by
  have hcount : (numbers points).length < 65536 := by
    rw [numbers, List.length_map]
    omega
  rw [decodeRecord_encodeStroke hcount, wireStroke, wirePoint_numbers hpoints, hcolor.wireColour,
    clampRound_natCast hsize.1 hsize.2]

theorem decodeRecord_fill {x y : Nat} {color : Colour} (h : TwoBytes (x, y))
    (hcolor : LowerColour color) :
    decodeRecord (encodeFill x y color) = some (.fill x y color, []) := by
  have hx : x < 65536 := Nat.lt_succ_of_le h.1
  have hy : y < 65536 := Nat.lt_succ_of_le h.2
  have hrecord : encodeFill x y color = FILL :: (hexToRgb color).1 :: (hexToRgb color).2.1 ::
      (hexToRgb color).2.2 :: UInt8.ofNat (x / 256) :: UInt8.ofNat x :: UInt8.ofNat (y / 256) ::
      UInt8.ofNat y :: [] := by
    rw [encodeFill, clampRound_natCast (Nat.zero_le x) h.1, clampRound_natCast (Nat.zero_le y) h.2]
    rfl
  have hcolor := hcolor.wireColour
  rw [BinaryDrawing.wireColour] at hcolor
  rw [hrecord, decodeRecord, if_neg (by decide), if_neg (by decide), if_pos rfl]
  dsimp only
  rw [getUint16_uint16 hx, getUint16_uint16 hy, hcolor]

/-- **A record decodes to its event.** -/
theorem decodeRecord_encodeEvent {e : DrawEvent} (h : Admissible e) :
    decodeRecord (encodeEvent e) = some (e, []) := by
  cases e with
  | stroke points color size => exact decodeRecord_stroke h.1 h.2.1 h.2.2.1 h.2.2.2 false
  | highlighter points color size => exact decodeRecord_stroke h.1 h.2.1 h.2.2.1 h.2.2.2 true
  | fill x y color => exact decodeRecord_fill h.1 h.2
  | clearCanvas => rfl

/-! ## Whole records and truncated ones -/

/-- A truncated record is none. -/
theorem decodeRecord_truncated {s t : Bytes} {e : DrawEvent} (hs : decodeRecord s = some (e, []))
    (ht : t <+: s) (hlt : t.length < s.length) : decodeRecord t = none := by
  obtain ⟨u, rfl⟩ := ht
  cases hd : decodeRecord t with
  | none => rfl
  | some x =>
    obtain ⟨e', r⟩ := x
    rw [decodeRecord_append hd u, Option.some_inj, Prod.mk.injEq, List.append_eq_nil_iff] at hs
    rw [hs.2.2, List.append_nil] at hlt
    exact absurd hlt (Nat.lt_irrefl _)

theorem decode_of_none {s : Bytes} (h : decodeRecord s = none) : decodeBinaryDrawEvents s = [] := by
  unfold decodeBinaryDrawEvents
  cases s.length with
  | zero => rfl
  | succ n => rw [decodeLoop, h]

/-- `k` is the number of events whose records lie within the first `n` bytes. -/
def Whole (es : List DrawEvent) (n k : Nat) : Prop :=
  k ≤ es.length ∧ (encodeEvents (es.take k)).length ≤ n ∧
    (k < es.length → n < (encodeEvents (es.take (k + 1))).length)

theorem encodeEvents_cons (e : DrawEvent) (es : List DrawEvent) :
    encodeEvents (e :: es) = encodeEvent e ++ encodeEvents es := List.flatMap_cons

/-- A part of some records decodes to the events whose records are whole. -/
theorem decode_take {es : List DrawEvent} (h : ∀ e ∈ es, Admissible e) (n : Nat) :
    ∃ k, Whole es n k ∧ decodeBinaryDrawEvents ((encodeEvents es).take n) = es.take k := by
  induction es generalizing n with
  | nil => exact ⟨0, ⟨Nat.le_refl 0, Nat.zero_le n, fun h => absurd h (Nat.lt_irrefl 0)⟩, by
      rw [encodeEvents, List.flatMap_nil, List.take_nil]; rfl⟩
  | cons e es ih =>
    have hrecord := decodeRecord_encodeEvent (h e List.mem_cons_self)
    rw [encodeEvents_cons]
    rcases Nat.lt_or_ge n (encodeEvent e).length with hlt | hge
    · refine ⟨0, ⟨Nat.zero_le _, Nat.zero_le n, fun _ => ?_⟩, ?_⟩
      · simpa [encodeEvents] using hlt
      · rw [List.take_append_of_le_length (Nat.le_of_lt hlt)]
        have hpart : (encodeEvent e).take n <+: encodeEvent e := List.take_prefix _ _
        refine decode_of_none (decodeRecord_truncated hrecord hpart ?_)
        rw [List.length_take]
        omega
    · obtain ⟨k, ⟨hle, hin, hout⟩, hdecode⟩ :=
        ih (fun e he => h e (List.mem_cons_of_mem _ he)) (n - (encodeEvent e).length)
      refine ⟨k + 1, ⟨Nat.succ_le_succ hle, ?_, fun hlt => ?_⟩, ?_⟩
      · rw [List.take_succ_cons, encodeEvents_cons, List.length_append]
        omega
      · have hout := hout (Nat.lt_of_succ_lt_succ hlt)
        rw [List.take_succ_cons, encodeEvents_cons, List.length_append]
        omega
      · rw [List.take_append, List.take_of_length_le hge,
          decode_of_record (decodeRecord_append hrecord _), List.nil_append, hdecode,
          List.take_succ_cons]

/-- **The codec inverts.**  The records of admissible events decode to these events, and every
prefix of the records to the events whose records lie wholly inside it. -/
theorem codec_round_trip {es : List DrawEvent} (h : ∀ e ∈ es, Admissible e) :
    decodeBinaryDrawEvents (encodeEvents es) = es ∧
      ∀ s, s <+: encodeEvents es →
        ∃ k, Whole es s.length k ∧ decodeBinaryDrawEvents s = es.take k := by
  constructor
  · refine decode_records ?_
    induction es with
    | nil => exact .nil
    | cons e es ih =>
      rw [encodeEvents_cons]
      exact .cons (decodeRecord_encodeEvent (h e List.mem_cons_self))
        (ih fun e he => h e (List.mem_cons_of_mem _ he))
  · intro s hs
    rw [List.prefix_iff_eq_take.mp hs]
    obtain ⟨k, hwhole, hdecode⟩ := decode_take h s.length
    refine ⟨k, ?_, hdecode⟩
    rwa [← List.prefix_iff_eq_take.mp hs]

/-- A black stroke and a cleared canvas. -/
theorem codec_round_trip_two :
    decodeBinaryDrawEvents
        (encodeEvents [.stroke [(1, 2), (300, 65535)] "#00af00".toList 5, .clearCanvas]) =
      [.stroke [(1, 2), (300, 65535)] "#00af00".toList 5, .clearCanvas] := by
  have hlower : (['0', '0', 'a', 'f', '0', '0'].all fun x => decide (LowerHex x)) = true := by
    decide
  refine (codec_round_trip fun e he => ?_).1
  simp only [List.mem_cons, List.not_mem_nil, or_false] at he
  rcases he with rfl | rfl
  · refine ⟨by decide, ?_, by decide, '0', '0', 'a', 'f', '0', '0', rfl, fun x hx =>
      of_decide_eq_true (List.all_eq_true.mp hlower x hx)⟩
    unfold TwoBytes
    decide
  · trivial

end Skribbl.BinaryDrawing
