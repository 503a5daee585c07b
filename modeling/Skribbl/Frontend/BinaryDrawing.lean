import Mathlib.Data.Rat.Floor

/-!
# Binary drawing protocol (`frontend/src/utils/binaryDrawing.ts`)

Encoders and the decoder of the binary draw records:

* `encodeStroke` / `encodeFill` / `encodeClearCanvas` — one record each;
* `decodeBinaryDrawEvents` — the events of one binary frame, up to the first byte that does not
  start a complete record.

Bytes are `UInt8`, JavaScript numbers that reach the encoders are rationals (rounded and clamped
there), and colours are character lists.

Principal results: `decode_append` — a frame made of whole records decodes to the events of its
parts in order, whatever follows; `decode_encodeStroke` — a stroke record decodes to the stroke
with its coordinates, size and colour as they were put on the wire.
-/

set_option autoImplicit false

namespace Skribbl.BinaryDrawing

abbrev Bytes := List UInt8

/-! ## Events -/

abbrev Colour := List Char

/-- `DrawingEvent`, the types that have a binary record. -/
inductive DrawEvent where
  | stroke (points : List (Nat × Nat)) (color : Colour) (size : Nat)
  | highlighter (points : List (Nat × Nat)) (color : Colour) (size : Nat)
  | fill (x y : Nat) (color : Colour)
  | clearCanvas
  deriving DecidableEq

/-- `DRAW_OPCODE`. -/
def STROKE : UInt8 := 0x01
def CLEAR_CANVAS : UInt8 := 0x02
def FILL : UInt8 := 0x03
def HIGHLIGHTER : UInt8 := 0x04

/-! ## Colours -/

/-- The value of a hexadecimal digit. -/
def hexVal (c : Char) : Option Nat :=
  if '0' ≤ c ∧ c ≤ '9' then some (c.toNat - '0'.toNat)
  else if 'a' ≤ c ∧ c ≤ 'f' then some (c.toNat - 'a'.toNat + 10)
  else if 'A' ≤ c ∧ c ≤ 'F' then some (c.toNat - 'A'.toNat + 10)
  else none

/-- The hexadecimal digits at the head of a string, as a number; `none` when there are none. -/
def hexPrefix : Option Nat → List Char → Option Nat
  | acc, [] => acc
  | acc, c :: cs =>
    match hexVal c with
    | some d => hexPrefix (some (acc.getD 0 * 16 + d)) cs
    | none => acc

/-- `parseInt(s, 16)`: blanks, a sign and `0x` are skipped; `none` is `NaN`. -/
def parseInt16 (s : List Char) : Option Int :=
  let s := s.dropWhile Char.isWhitespace
  let (neg, s) := match s with
    | '-' :: r => (true, r)
    | '+' :: r => (false, r)
    | r => (false, r)
  let s := match s with
    | '0' :: 'x' :: r => r
    | '0' :: 'X' :: r => r
    | r => r
  (hexPrefix none s).map fun n => if neg then -(n : Int) else n

/-- `(val >> k) & 0xff` for `k = 8 * i`. -/
def byteOf (val : Int) (i : Nat) : UInt8 := UInt8.ofNat ((val / 256 ^ i % 256).toNat)

/-- `hexToRgb`. -/
def hexToRgb (hex : Colour) : UInt8 × UInt8 × UInt8 :=
  let clean := match hex with
    | '#' :: r => r
    | r => r
  let clean := match clean with
    | [a, b, c] => [a, a, b, b, c, c]
    | r => r
  match parseInt16 clean with
  | none => (0, 0, 0)
  | some val => (byteOf val 2, byteOf val 1, byteOf val 0)

def hexDigit (n : Nat) : Char :=
  if n < 10 then Char.ofNat ('0'.toNat + n) else Char.ofNat ('a'.toNat + (n - 10))

/-- `n.toString(16).padStart(2, "0")` of a byte. -/
def hex2 (b : UInt8) : List Char := [hexDigit (b.toNat / 16), hexDigit (b.toNat % 16)]

/-- `rgbToHex`. -/
def rgbToHex (r g b : UInt8) : Colour := '#' :: (hex2 r ++ hex2 g ++ hex2 b)

/-! ## Encoders -/

/-- `Math.round`. -/
def round (q : ℚ) : Int := ⌊q + 1 / 2⌋

/-- `Math.max(lo, Math.min(hi, Math.round(q)))`. -/
def clampRound (lo hi : Nat) (q : ℚ) : Nat := (max (lo : Int) (min hi (round q))).toNat

/-- `view.setUint16(offset, n, false)`. -/
def uint16 (n : Nat) : Bytes := [UInt8.ofNat (n / 256), UInt8.ofNat n]

/-- One coordinate pair as it is put on the wire. -/
def wirePoint (p : ℚ × ℚ) : Nat × Nat := (clampRound 0 65535 p.1, clampRound 0 65535 p.2)

/-- `encodeStroke`. -/
def encodeStroke (points : List (ℚ × ℚ)) (colorHex : Colour) (size : ℚ) (isHighlighter : Bool) :
    Bytes :=
  let rgb := hexToRgb colorHex
  (if isHighlighter then HIGHLIGHTER else STROKE) :: rgb.1 :: rgb.2.1 :: rgb.2.2 ::
    UInt8.ofNat (clampRound 1 255 size) ::
    (uint16 points.length ++
      points.flatMap fun p => uint16 (wirePoint p).1 ++ uint16 (wirePoint p).2)

/-- `encodeFill`. -/
def encodeFill (x y : ℚ) (colorHex : Colour) : Bytes :=
  let rgb := hexToRgb colorHex
  FILL :: rgb.1 :: rgb.2.1 :: rgb.2.2 ::
    (uint16 (clampRound 0 65535 x) ++ uint16 (clampRound 0 65535 y))

/-- `encodeClearCanvas`. -/
def encodeClearCanvas : Bytes := [CLEAR_CANVAS]

/-! ## Decoder -/

/-- `view.getUint16(offset, false)`. -/
def getUint16 (hi lo : UInt8) : Nat := hi.toNat * 256 + lo.toNat

/-- The points loop, over input known to be long enough. -/
def readPoints : Nat → Bytes → List (Nat × Nat)
  | n + 1, a :: b :: c :: d :: s => (getUint16 a b, getUint16 c d) :: readPoints n s
  | _, _ => []

/-- One record and what follows it; `none` on an unknown opcode and on a truncated record. -/
def decodeRecord : Bytes → Option (DrawEvent × Bytes)
  | [] => none
  | op :: s =>
    if op = STROKE ∨ op = HIGHLIGHTER then
      match s with
      | r :: g :: b :: size :: hi :: lo :: s' =>
        let count := getUint16 hi lo
        if s'.length < count * 4 then none
        else
          let points := readPoints count s'
          let color := rgbToHex r g b
          some (if op = HIGHLIGHTER then .highlighter points color size.toNat
                else .stroke points color size.toNat, s'.drop (count * 4))
      | _ => none
    else if op = CLEAR_CANVAS then some (.clearCanvas, s)
    else if op = FILL then
      match s with
      | r :: g :: b :: x₁ :: x₀ :: y₁ :: y₀ :: s' =>
        some (.fill (getUint16 x₁ x₀) (getUint16 y₁ y₀) (rgbToHex r g b), s')
      | _ => none
    else none

/-- The `while (offset < len)` loop; every round reads at least the opcode byte. -/
def decodeLoop : Nat → Bytes → List DrawEvent
  | 0, _ => []
  | n + 1, s =>
    match decodeRecord s with
    | none => []
    | some (e, r) => e :: decodeLoop n r

/-- `decodeBinaryDrawEvents`. -/
def decodeBinaryDrawEvents (buffer : Bytes) : List DrawEvent := decodeLoop buffer.length buffer

/-! ## Records -/

theorem decodeRecord_length {s r : Bytes} {e : DrawEvent} (h : decodeRecord s = some (e, r)) :
    r.length < s.length := by
  cases s with
  | nil => cases h
  | cons op s =>
    simp only [decodeRecord] at h
    split at h
    · split at h
      · split at h
        · cases h
        · cases h; simp only [List.length_drop, List.length_cons]; omega
      · cases h
    split at h
    · cases h; simp
    split at h
    · split at h
      · cases h; simp only [List.length_cons]; omega
      · cases h
    · cases h

theorem readPoints_append {n : Nat} {s : Bytes} (h : n * 4 ≤ s.length) (t : Bytes) :
    readPoints n (s ++ t) = readPoints n s := by
  induction n generalizing s with
  | zero => simp [readPoints]
  | succ n ih =>
    rcases s with _ | ⟨a, _ | ⟨b, _ | ⟨c, _ | ⟨d, s⟩⟩⟩⟩
    case cons.cons.cons.cons =>
      have hs : n * 4 ≤ s.length := by simp only [List.length_cons] at h; omega
      simp only [List.cons_append, readPoints, ih hs]
    all_goals simp only [List.length_cons, List.length_nil] at h; omega

/-- A record is read the same way whatever follows it. -/
theorem decodeRecord_append {s r : Bytes} {e : DrawEvent} (h : decodeRecord s = some (e, r))
    (t : Bytes) : decodeRecord (s ++ t) = some (e, r ++ t) := by
  cases s with
  | nil => cases h
  | cons op s =>
    simp only [decodeRecord, List.cons_append] at h ⊢
    split at h
    · rename_i hop
      rw [if_pos hop]
      split at h
      · rename_i r g b size hi lo s'
        split at h
        · cases h
        rename_i hlen
        have hle : getUint16 hi lo * 4 ≤ s'.length := by omega
        cases h
        have hlen' : ¬(s' ++ t).length < getUint16 hi lo * 4 := by
          rw [List.length_append]; omega
        simp only [List.cons_append, if_neg hlen', readPoints_append hle,
          List.drop_append_of_le_length hle]
      · cases h
    rename_i hop
    rw [if_neg hop]
    split at h
    · rename_i hc; cases h; rw [if_pos hc]
    rename_i hc
    rw [if_neg hc]
    split at h
    · rename_i hf
      rw [if_pos hf]
      split at h
      · cases h; rfl
      · cases h
    · cases h

/-- The loop's fuel is enough. -/
theorem decodeLoop_enough {n : Nat} {s : Bytes} (h : s.length ≤ n) :
    decodeLoop n s = decodeBinaryDrawEvents s := by
  suffices ∀ n m s, s.length ≤ n → s.length ≤ m → decodeLoop n s = decodeLoop m s from
    this n _ s h (Nat.le_refl _)
  intro n
  induction n with
  | zero =>
    intro m s hn _
    obtain rfl : s = [] := List.length_eq_zero_iff.mp (by omega)
    cases m <;> rfl
  | succ n ih =>
    intro m s hn hm
    cases m with
    | zero =>
      obtain rfl : s = [] := List.length_eq_zero_iff.mp (by omega)
      rfl
    | succ m =>
      simp only [decodeLoop]
      cases hd : decodeRecord s with
      | none => rfl
      | some p =>
        obtain ⟨e, r⟩ := p
        have := decodeRecord_length hd
        simp only [ih m r (by omega) (by omega)]

theorem decode_of_record {s r : Bytes} {e : DrawEvent} (h : decodeRecord s = some (e, r)) :
    decodeBinaryDrawEvents s = e :: decodeBinaryDrawEvents r := by
  have hl := decodeRecord_length h
  cases hs : s.length with
  | zero => omega
  | succ n =>
    rw [decodeBinaryDrawEvents, hs, decodeLoop, h]
    simp only [decodeLoop_enough (show r.length ≤ n by omega)]

/-- `s` is a sequence of whole records, with these events. -/
inductive IsRecords : Bytes → List DrawEvent → Prop
  | nil : IsRecords [] []
  | cons {s t : Bytes} {e : DrawEvent} {es : List DrawEvent} :
      decodeRecord s = some (e, []) → IsRecords t es → IsRecords (s ++ t) (e :: es)

theorem IsRecords.single {s : Bytes} {e : DrawEvent} (h : decodeRecord s = some (e, [])) :
    IsRecords s [e] := by
  have := IsRecords.cons h .nil
  rwa [List.append_nil] at this

/-- **Whole records decode to their events in order, whatever follows them.** -/
theorem decode_append {s : Bytes} {es : List DrawEvent} (h : IsRecords s es) (t : Bytes) :
    decodeBinaryDrawEvents (s ++ t) = es ++ decodeBinaryDrawEvents t := by
  induction h with
  | nil => rfl
  | cons hd _ ih =>
    rw [List.append_assoc, decode_of_record (decodeRecord_append hd _), List.nil_append, ih,
      List.cons_append]

theorem IsRecords.append {s t : Bytes} {es fs : List DrawEvent} (hs : IsRecords s es)
    (ht : IsRecords t fs) : IsRecords (s ++ t) (es ++ fs) := by
  induction hs with
  | nil => exact ht
  | cons hd _ ih => rw [List.append_assoc]; exact .cons hd ih

theorem decode_records {s : Bytes} {es : List DrawEvent} (h : IsRecords s es) :
    decodeBinaryDrawEvents s = es := by
  have := decode_append h []
  rwa [List.append_nil, show decodeBinaryDrawEvents [] = [] from rfl, List.append_nil] at this

/-- Every record starts with one of the four opcodes. -/
theorem decodeRecord_opcode {b : UInt8} {s r : Bytes} {e : DrawEvent}
    (h : decodeRecord (b :: s) = some (e, r)) :
    b = STROKE ∨ b = HIGHLIGHTER ∨ b = CLEAR_CANVAS ∨ b = FILL := by
  simp only [decodeRecord] at h
  split at h
  · rename_i hb
    exact hb.elim .inl fun hb => .inr (.inl hb)
  split at h
  · rename_i hb; exact .inr (.inr (.inl hb))
  split at h
  · rename_i hb; exact .inr (.inr (.inr hb))
  · cases h

theorem IsRecords.opcode {b : UInt8} {s : Bytes} {es : List DrawEvent}
    (h : IsRecords (b :: s) es) :
    b = STROKE ∨ b = HIGHLIGHTER ∨ b = CLEAR_CANVAS ∨ b = FILL := by
  generalize hbs : b :: s = bs at h
  cases h with
  | nil => cases hbs
  | @cons s' t e es hd _ =>
    cases s' with
    | nil => cases hd
    | cons b' s' =>
      simp only [List.cons_append, List.cons.injEq] at hbs
      rw [hbs.1]; exact decodeRecord_opcode hd

theorem IsRecords.head {b : UInt8} {s : Bytes} {es : List DrawEvent} (h : IsRecords (b :: s) es) :
    b < 0x20 := by
  rcases h.opcode with rfl | rfl | rfl | rfl <;> decide

/-! ## Encoded strokes -/

theorem getUint16_uint16 {n : Nat} (h : n < 65536) :
    getUint16 (UInt8.ofNat (n / 256)) (UInt8.ofNat n) = n := by
  simp only [getUint16, UInt8.toNat_ofNat']
  omega

theorem clampRound_le (lo hi : Nat) (h : lo ≤ hi) (q : ℚ) : clampRound lo hi q ≤ hi := by
  unfold clampRound; omega

/-- The coordinates of a stroke record. -/
def pointBytes (points : List (ℚ × ℚ)) : Bytes :=
  points.flatMap fun p => uint16 (wirePoint p).1 ++ uint16 (wirePoint p).2

theorem pointBytes_length (points : List (ℚ × ℚ)) :
    (pointBytes points).length = points.length * 4 := by
  induction points with
  | nil => rfl
  | cons p ps ih =>
    have : pointBytes (p :: ps) = uint16 (wirePoint p).1 ++ uint16 (wirePoint p).2 ++
        pointBytes ps := rfl
    rw [this, List.length_append, ih]
    simp only [uint16, List.length_append, List.length_cons, List.length_nil]
    omega

theorem readPoints_pointBytes (points : List (ℚ × ℚ)) :
    readPoints points.length (pointBytes points) = points.map wirePoint := by
  induction points with
  | nil => rfl
  | cons p ps ih =>
    have hx : (wirePoint p).1 < 65536 := by
      have := clampRound_le 0 65535 (by omega) p.1
      simp only [wirePoint]; omega
    have hy : (wirePoint p).2 < 65536 := by
      have := clampRound_le 0 65535 (by omega) p.2
      simp only [wirePoint]; omega
    simp only [pointBytes, List.flatMap_cons, uint16, List.cons_append, List.nil_append,
      List.length_cons, readPoints, getUint16_uint16 hx, getUint16_uint16 hy, List.map_cons]
    rw [← ih]; rfl

/-- The colour a stroke has after the wire. -/
def wireColour (c : Colour) : Colour :=
  rgbToHex (hexToRgb c).1 (hexToRgb c).2.1 (hexToRgb c).2.2

/-- The event that a stroke record carries. -/
def wireStroke (points : List (ℚ × ℚ)) (color : Colour) (size : ℚ) (isHighlighter : Bool) :
    DrawEvent :=
  if isHighlighter then
    .highlighter (points.map wirePoint) (wireColour color) (clampRound 1 255 size)
  else .stroke (points.map wirePoint) (wireColour color) (clampRound 1 255 size)

theorem decodeRecord_encodeStroke {points : List (ℚ × ℚ)} (h : points.length < 65536)
    (color : Colour) (size : ℚ) (isHighlighter : Bool) :
    decodeRecord (encodeStroke points color size isHighlighter) =
      some (wireStroke points color size isHighlighter, []) := by
  have hsize : (UInt8.ofNat (clampRound 1 255 size)).toNat = clampRound 1 255 size := by
    have := clampRound_le 1 255 (by omega) size
    simp only [UInt8.toNat_ofNat']; omega
  have hop : (if isHighlighter then HIGHLIGHTER else STROKE) = STROKE ∨
      (if isHighlighter then HIGHLIGHTER else STROKE) = HIGHLIGHTER := by
    cases isHighlighter <;> simp
  have hlen := pointBytes_length points
  have hnl : ¬(pointBytes points).length < points.length * 4 := by omega
  have henc : encodeStroke points color size isHighlighter =
      (if isHighlighter then HIGHLIGHTER else STROKE) :: (hexToRgb color).1 ::
        (hexToRgb color).2.1 :: (hexToRgb color).2.2 :: UInt8.ofNat (clampRound 1 255 size) ::
        UInt8.ofNat (points.length / 256) :: UInt8.ofNat points.length :: pointBytes points := rfl
  simp only [henc, decodeRecord, if_pos hop, getUint16_uint16 h, if_neg hnl,
    readPoints_pointBytes, List.drop_of_length_le (Nat.le_of_eq hlen), hsize]
  cases isHighlighter <;> rfl

/-- **A stroke record decodes to the stroke as it was put on the wire.** -/
theorem decode_encodeStroke {points : List (ℚ × ℚ)} (h : points.length < 65536)
    (color : Colour) (size : ℚ) (isHighlighter : Bool) :
    decodeBinaryDrawEvents (encodeStroke points color size isHighlighter) =
      [wireStroke points color size isHighlighter] := by
  rw [decode_of_record (decodeRecord_encodeStroke h color size isHighlighter)]; rfl

end Skribbl.BinaryDrawing
