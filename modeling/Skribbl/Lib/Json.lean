import Mathlib.Data.List.Basic

/-!
# JSON text as bytes

A recursive-descent reader of RFC 8259 JSON over byte lists, with explicit fuel.  Number and
string tokens keep their literal bytes; only the shape of a text matters here.

* `parseValue` — one value at the head of the input, and what is left after it.
* `parseDoc` — a whole text: one value between optional white space.

Principal results:

* `parseValue_enough` — a value that some fuel reads is read by every fuel from
  `2 * length` on, so `parseDoc` never fails for want of fuel.
* `parseValue_append` — a value is read the same way when more input follows it (unless that
  input starts with a number character).
* `parseDoc_wrap` — the texts `v₁ , … , vₙ` between square brackets are one array.
* `parseDoc_wrap_junk` — and nothing well formed when a byte follows the closing bracket.
-/

set_option autoImplicit false

namespace ByteJson

abbrev Bytes := List UInt8

/-- A JSON value; numbers and strings keep their literal bytes. -/
inductive Value where
  | null
  | bool (b : Bool)
  | num (lit : Bytes)
  | str (lit : Bytes)
  | arr (xs : List Value)
  | obj (ms : List (Bytes × Value))

/-- `Value` is an array. -/
def Value.isArr : Value → Bool
  | .arr _ => true
  | _ => false

/-! ## Tokens -/

/-- Space, tab, line feed, carriage return. -/
def isWs (b : UInt8) : Bool := b == 0x20 || b == 0x09 || b == 0x0A || b == 0x0D

def skipWs : Bytes → Bytes
  | [] => []
  | b :: s => if isWs b then skipWs s else b :: s

def isDigit (b : UInt8) : Bool := 0x30 ≤ b && b ≤ 0x39

/-- Bytes that can stand in a number: digits, `+`, `-`, `.`, `e`, `E`. -/
def isNumByte (b : UInt8) : Bool :=
  isDigit b || b == 0x2B || b == 0x2D || b == 0x2E || b == 0x65 || b == 0x45

/-- `[eE][+-]?digit+` or nothing. -/
def validExp : Bytes → Bool
  | [] => true
  | e :: s =>
    (e == 0x65 || e == 0x45) &&
      match s with
      | [] => false
      | c :: r => if c == 0x2B || c == 0x2D then !r.isEmpty && r.all isDigit
                  else (c :: r).all isDigit

/-- `(. digit+)? exp?`. -/
def validFrac : Bytes → Bool
  | 0x2E :: s => !(s.takeWhile isDigit).isEmpty && validExp (s.dropWhile isDigit)
  | s => validExp s

/-- `(0 | [1-9] digit*) frac? exp?`. -/
def validUnsigned : Bytes → Bool
  | 0x30 :: s => validFrac s
  | c :: s => isDigit c && validFrac (s.dropWhile isDigit)
  | [] => false

/-- `-? int frac? exp?`. -/
def validNumber : Bytes → Bool
  | 0x2D :: s => validUnsigned s
  | s => validUnsigned s

def isHex (b : UInt8) : Bool :=
  isDigit b || (0x41 ≤ b && b ≤ 0x46) || (0x61 ≤ b && b ≤ 0x66)

/-- The bytes that may follow a backslash, `u` apart. -/
def isEscape (b : UInt8) : Bool :=
  b == 0x22 || b == 0x5C || b == 0x2F || b == 0x62 || b == 0x66 || b == 0x6E || b == 0x72 ||
      b == 0x74

/-- Where the reader stands in a string: in its body, after a backslash, or owing `n + 1` hex
digits of a `u` escape. -/
inductive StrMode where
  | body
  | esc
  | hex (n : Nat)
  deriving DecidableEq

/-- One byte of a string that does not close it. -/
def strStep : StrMode → UInt8 → Option StrMode
  | .body, b => if b = 0x5C then some .esc else if b < 0x20 then none else some .body
  | .esc, b => if isEscape b then some .body else if b = 0x75 then some (.hex 3) else none
  | .hex 0, b => if isHex b then some .body else none
  | .hex (n + 1), b => if isHex b then some (.hex n) else none

/-- A string up to and without its closing quote, from mode `m` on. -/
def parseStrFrom : StrMode → Bytes → Option (Bytes × Bytes)
  | _, [] => none
  | m, b :: s =>
    if m = .body ∧ b = 0x22 then some ([], s)
    else match strStep m b with
      | none => none
      | some m' => (parseStrFrom m' s).map fun p => (b :: p.1, p.2)

/-- A string, its opening quote already read. -/
def parseStr (s : Bytes) : Option (Bytes × Bytes) := parseStrFrom .body s

/-- Consume the literal `l`. -/
def parseLit : Bytes → Bytes → Option Bytes
  | [], s => some s
  | c :: l, d :: s => if c = d then parseLit l s else none
  | _ :: _, [] => none

/-- The keywords and numbers: every value that has no parts. -/
def parseScalar : Bytes → Option (Value × Bytes)
  | [] => none
  | b :: s =>
    if b = 0x6E then (parseLit [0x75, 0x6C, 0x6C] s).map fun r => (.null, r)
    else if b = 0x74 then (parseLit [0x72, 0x75, 0x65] s).map fun r => (.bool true, r)
    else if b = 0x66 then (parseLit [0x61, 0x6C, 0x73, 0x65] s).map fun r => (.bool false, r)
    else if validNumber ((b :: s).takeWhile isNumByte) then
      some (.num ((b :: s).takeWhile isNumByte), (b :: s).dropWhile isNumByte)
    else none

/-! ## Values -/

mutual
/-- One value at the head of the input. -/
def parseValue : Nat → Bytes → Option (Value × Bytes)
  | 0, _ => none
  | _ + 1, [] => none
  | n + 1, b :: s =>
    if b = 0x5B then
      match skipWs s with
      | [] => none
      | c :: r => if c = 0x5D then some (.arr [], r)
                  else (parseElems n (c :: r)).map fun p => (.arr p.1, p.2)
    else if b = 0x7B then
      match skipWs s with
      | [] => none
      | c :: r => if c = 0x7D then some (.obj [], r)
                  else (parseMembers n (c :: r)).map fun p => (.obj p.1, p.2)
    else if b = 0x22 then (parseStr s).map fun p => (.str p.1, p.2)
    else parseScalar (b :: s)

/-- `value (, value)* ]`, the opening bracket already read. -/
def parseElems : Nat → Bytes → Option (List Value × Bytes)
  | 0, _ => none
  | n + 1, s =>
    match parseValue n s with
    | none => none
    | some (v, r) =>
      match skipWs r with
      | [] => none
      | c :: r' =>
        if c = 0x5D then some ([v], r')
        else if c = 0x2C then (parseElems n (skipWs r')).map fun p => (v :: p.1, p.2)
        else none

/-- `string : value (, string : value)* }`, the opening brace already read. -/
def parseMembers : Nat → Bytes → Option (List (Bytes × Value) × Bytes)
  | 0, _ => none
  | _ + 1, [] => none
  | n + 1, q :: s =>
    if q = 0x22 then
      match parseStr s with
      | none => none
      | some (k, r) =>
        match skipWs r with
        | [] => none
        | c :: r₁ =>
          if c = 0x3A then
            match parseValue n (skipWs r₁) with
            | none => none
            | some (v, r₂) =>
              match skipWs r₂ with
              | [] => none
              | d :: r₃ =>
                if d = 0x7D then some ([(k, v)], r₃)
                else if d = 0x2C then
                  (parseMembers n (skipWs r₃)).map fun p => ((k, v) :: p.1, p.2)
                else none
          else none
    else none
end

/-- Fuel that always suffices (`parseValue_enough`). -/
def docFuel (s : Bytes) : Nat := 2 * s.length

/-- A whole JSON text. -/
def parseDoc (s : Bytes) : Option Value :=
  match parseValue (docFuel (skipWs s)) (skipWs s) with
  | some (v, r) => if skipWs r = [] then some v else none
  | none => none

/-! ## White space -/

theorem skipWs_length_le (s : Bytes) : (skipWs s).length ≤ s.length := by
  induction s with
  | nil => exact Nat.le_refl _
  | cons b s ih =>
    simp only [skipWs]
    split
    · simp only [List.length_cons]; omega
    · exact Nat.le_refl _

theorem skipWs_append {s r : Bytes} {c : UInt8} (h : skipWs s = c :: r) (t : Bytes) :
    skipWs (s ++ t) = c :: (r ++ t) := by
  induction s with
  | nil => cases h
  | cons b s ih =>
    simp only [skipWs, List.cons_append] at h ⊢
    split at h
    · rename_i hb; rw [if_pos hb]; exact ih h
    · rename_i hb; cases h; rw [if_neg hb]

theorem skipWs_append_nil {s : Bytes} (h : skipWs s = []) (t : Bytes) :
    skipWs (s ++ t) = skipWs t := by
  induction s with
  | nil => rfl
  | cons b s ih =>
    simp only [skipWs, List.cons_append] at h ⊢
    split at h
    · rename_i hb; rw [if_pos hb]; exact ih h
    · cases h

theorem skipWs_cons {b : UInt8} (h : isWs b = false) (s : Bytes) : skipWs (b :: s) = b :: s := by
  simp [skipWs, h]

/-! ## Tokens read the same way in a longer input -/

/-- The input does not go on with a number byte. -/
def NoNumHead (t : Bytes) : Prop := ∀ c r, t = c :: r → isNumByte c = false

theorem NoNumHead.cons {c : UInt8} (h : isNumByte c = false) (r : Bytes) : NoNumHead (c :: r) := by
  intro c' r' e; cases e; exact h

theorem takeWhile_append_noNum {s t : Bytes} (ht : NoNumHead t) :
    (s ++ t).takeWhile isNumByte = s.takeWhile isNumByte ∧
      (s ++ t).dropWhile isNumByte = s.dropWhile isNumByte ++ t := by
  induction s with
  | nil =>
    cases t with
    | nil => exact ⟨rfl, rfl⟩
    | cons c r => simp [ht c r rfl]
  | cons b s ih =>
    by_cases hb : isNumByte b = true
    · simp [hb, ih.1, ih.2]
    · simp [hb]

theorem parseLit_append {l s r : Bytes} (h : parseLit l s = some r) (t : Bytes) :
    parseLit l (s ++ t) = some (r ++ t) := by
  induction l generalizing s with
  | nil => simp only [parseLit, Option.some.injEq] at h ⊢; rw [h]
  | cons c l ih =>
    cases s with
    | nil => cases h
    | cons d s =>
      simp only [parseLit, List.cons_append] at h ⊢
      split at h
      · rename_i hc; rw [if_pos hc]; exact ih h
      · cases h

theorem parseLit_length {l s r : Bytes} (h : parseLit l s = some r) : r.length ≤ s.length := by
  induction l generalizing s with
  | nil => cases h; exact Nat.le_refl _
  | cons c l ih =>
    cases s with
    | nil => cases h
    | cons d s =>
      simp only [parseLit] at h
      split at h
      · have := ih h; simp only [List.length_cons]; omega
      · cases h

theorem parseScalar_append {s r t : Bytes} {v : Value} (ht : NoNumHead t)
    (h : parseScalar s = some (v, r)) : parseScalar (s ++ t) = some (v, r ++ t) := by
  cases s with
  | nil => cases h
  | cons b s =>
    have htw := takeWhile_append_noNum (s := b :: s) ht
    simp only [List.cons_append] at htw
    simp only [parseScalar, List.cons_append] at h ⊢
    -- the three keywords, then a number
    split at h
    · rename_i hb
      obtain ⟨r', hr, he⟩ := Option.map_eq_some_iff.mp h
      cases he; rw [if_pos hb, parseLit_append hr]; rfl
    rename_i hn
    rw [if_neg hn]
    split at h
    · rename_i hb
      obtain ⟨r', hr, he⟩ := Option.map_eq_some_iff.mp h
      cases he; rw [if_pos hb, parseLit_append hr]; rfl
    rename_i hn
    rw [if_neg hn]
    split at h
    · rename_i hb
      obtain ⟨r', hr, he⟩ := Option.map_eq_some_iff.mp h
      cases he; rw [if_pos hb, parseLit_append hr]; rfl
    rename_i hn
    rw [if_neg hn]
    split at h
    · rename_i hv
      cases h
      rw [htw.1, if_pos hv, htw.2]
    · cases h

theorem parseScalar_length {s r : Bytes} {v : Value} (h : parseScalar s = some (v, r)) :
    r.length < s.length := by
  cases s with
  | nil => cases h
  | cons b s =>
    have hlit : ∀ l (w : Value), (parseLit l s).map (fun r => (w, r)) = some (v, r) →
        r.length < (b :: s).length := by
      intro l w hw
      obtain ⟨r', hr, he⟩ := Option.map_eq_some_iff.mp hw
      cases he
      have := parseLit_length hr
      simp only [List.length_cons]; omega
    simp only [parseScalar] at h
    split at h
    · exact hlit _ _ h
    split at h
    · exact hlit _ _ h
    split at h
    · exact hlit _ _ h
    split at h
    · rename_i hv
      cases h
      by_cases hb : isNumByte b = true
      · have := (List.dropWhile_suffix (l := s) isNumByte).length_le
        simp only [List.dropWhile_cons, hb, if_true, List.length_cons]; omega
      · simp [hb, validNumber, validUnsigned] at hv
    · cases h

theorem parseStrFrom_append {m : StrMode} {s k r : Bytes} (h : parseStrFrom m s = some (k, r))
    (t : Bytes) : parseStrFrom m (s ++ t) = some (k, r ++ t) := by
  induction s generalizing m k r with
  | nil => cases h
  | cons b s ih =>
    simp only [parseStrFrom, List.cons_append] at h ⊢
    split at h
    · rename_i hb; cases h; rw [if_pos hb]
    rename_i hb
    rw [if_neg hb]
    split at h
    · cases h
    rename_i m' hm
    obtain ⟨p, hp, he⟩ := Option.map_eq_some_iff.mp h
    cases he
    simp only [ih hp, Option.map_some]

theorem parseStrFrom_length {m : StrMode} {s k r : Bytes} (h : parseStrFrom m s = some (k, r)) :
    r.length < s.length := by
  induction s generalizing m k r with
  | nil => cases h
  | cons b s ih =>
    simp only [parseStrFrom] at h
    split at h
    · cases h; simp
    split at h
    · cases h
    obtain ⟨p, hp, he⟩ := Option.map_eq_some_iff.mp h
    cases he
    have := ih hp
    simp only [List.length_cons]; omega

/-! ## What one level of the reader did -/

/-- The four ways a value is read. -/
theorem parseValue_succ {n : Nat} {b : UInt8} {s r : Bytes} {v : Value} :
    parseValue (n + 1) (b :: s) = some (v, r) ↔
      (b = 0x5B ∧ ((skipWs s = 0x5D :: r ∧ v = .arr []) ∨
        ∃ c q vs, skipWs s = c :: q ∧ c ≠ 0x5D ∧ parseElems n (c :: q) = some (vs, r) ∧
          v = .arr vs)) ∨
      (b = 0x7B ∧ ((skipWs s = 0x7D :: r ∧ v = .obj []) ∨
        ∃ c q ms, skipWs s = c :: q ∧ c ≠ 0x7D ∧ parseMembers n (c :: q) = some (ms, r) ∧
          v = .obj ms)) ∨
      (b = 0x22 ∧ ∃ k, parseStr s = some (k, r) ∧ v = .str k) ∨
      (b ≠ 0x5B ∧ b ≠ 0x7B ∧ b ≠ 0x22 ∧ parseScalar (b :: s) = some (v, r)) := by
  simp only [parseValue]
  by_cases h1 : b = 0x5B
  · subst h1
    simp only [if_true]
    cases hs : skipWs s with
    | nil => simp
    | cons c q =>
      by_cases hc : c = 0x5D
      · subst hc
        simp only [if_true, Option.some.injEq, Prod.mk.injEq, List.cons.injEq]
        grind
      · simp only [if_neg hc, Option.map_eq_some_iff, List.cons.injEq, Prod.exists, Prod.mk.injEq]
        grind
  by_cases h2 : b = 0x7B
  · subst h2
    simp only [if_neg h1, if_true]
    cases hs : skipWs s with
    | nil => simp
    | cons c q =>
      by_cases hc : c = 0x7D
      · subst hc
        simp only [if_true, Option.some.injEq, Prod.mk.injEq, List.cons.injEq]
        grind
      · simp only [if_neg hc, Option.map_eq_some_iff, List.cons.injEq, Prod.exists, Prod.mk.injEq]
        grind
  by_cases h3 : b = 0x22
  · subst h3
    simp only [if_neg h1, if_neg h2, if_true, Option.map_eq_some_iff, Prod.exists, Prod.mk.injEq]
    grind
  · simp [h1, h2, h3]

/-- The two ways an element list is read. -/
theorem parseElems_succ {n : Nat} {s r : Bytes} {vs : List Value} :
    parseElems (n + 1) s = some (vs, r) ↔
      ∃ v q, parseValue n s = some (v, q) ∧
        ((skipWs q = 0x5D :: r ∧ vs = [v]) ∨
          ∃ q' ws, skipWs q = 0x2C :: q' ∧ parseElems n (skipWs q') = some (ws, r) ∧
            vs = v :: ws) := by
  simp only [parseElems]
  cases hv : parseValue n s with
  | none => simp
  | some p =>
    obtain ⟨v, q⟩ := p
    cases hs : skipWs q with
    | nil => simp [hs]
    | cons c q' =>
      by_cases hc : c = 0x5D
      · subst hc; simp [hs]; grind
      · by_cases hc' : c = 0x2C
        · subst hc'; simp [hs, Option.map_eq_some_iff]; grind
        · simp [hs, hc, hc']

/-- The two ways a member list is read. -/
theorem parseMembers_succ {n : Nat} {q : UInt8} {s r : Bytes} {ms : List (Bytes × Value)} :
    parseMembers (n + 1) (q :: s) = some (ms, r) ↔
      q = 0x22 ∧ ∃ k r₀ r₁ v r₂, parseStr s = some (k, r₀) ∧ skipWs r₀ = 0x3A :: r₁ ∧
        parseValue n (skipWs r₁) = some (v, r₂) ∧
        ((skipWs r₂ = 0x7D :: r ∧ ms = [(k, v)]) ∨
          ∃ r₃ ws, skipWs r₂ = 0x2C :: r₃ ∧ parseMembers n (skipWs r₃) = some (ws, r) ∧
            ms = (k, v) :: ws) := by
  simp only [parseMembers]
  by_cases hq : q = 0x22
  swap
  · simp [hq]
  simp only [hq, if_true, true_and]
  cases hk : parseStr s with
  | none => simp
  | some p =>
    obtain ⟨k, r₀⟩ := p
    cases h0 : skipWs r₀ with
    | nil => simp [h0]
    | cons c r₁ =>
      by_cases hc : c = 0x3A
      swap
      · simp [h0, hc]
      subst hc
      cases hv : parseValue n (skipWs r₁) with
      | none => simp [h0, hv]
      | some p =>
        obtain ⟨v, r₂⟩ := p
        cases h2 : skipWs r₂ with
        | nil => simp [h0, hv, h2]
        | cons d r₃ =>
          by_cases hd : d = 0x7D
          · subst hd; simp [h0, hv, h2]; grind
          · by_cases hd' : d = 0x2C
            · subst hd'; simp [h0, hv, h2, Option.map_eq_some_iff]; grind
            · simp [h0, hv, h2, hd, hd']

/-! ## Fuel -/

/-- What every fuel from `2 * length` on reads, once some fuel has read it. -/
theorem parse_enough : ∀ n : Nat,
    (∀ s v r, parseValue n s = some (v, r) →
      r.length < s.length ∧ ∀ m, 2 * s.length ≤ m → parseValue m s = some (v, r)) ∧
    (∀ s vs r, parseElems n s = some (vs, r) →
      r.length < s.length ∧ ∀ m, 2 * s.length + 1 ≤ m → parseElems m s = some (vs, r)) ∧
    (∀ s ms r, parseMembers n s = some (ms, r) →
      r.length < s.length ∧ ∀ m, 2 * s.length + 1 ≤ m → parseMembers m s = some (ms, r)) := by
  intro n
  induction n with
  | zero =>
    exact ⟨fun _ _ _ h => by simp [parseValue] at h, fun _ _ _ h => by simp [parseElems] at h,
      fun _ _ _ h => by simp [parseMembers] at h⟩
  | succ n ih =>
    obtain ⟨ihv, ihe, ihm⟩ := ih
    refine ⟨?_, ?_, ?_⟩
    · intro s v r h
      cases s with
      | nil => simp [parseValue] at h
      | cons b s =>
        have hws := skipWs_length_le s
        rw [parseValue_succ] at h
        rcases h with ⟨hb, ⟨hs, hv⟩ | ⟨c, q, vs, hs, hc, he, hv⟩⟩ |
          ⟨hb, ⟨hs, hv⟩ | ⟨c, q, ms, hs, hc, he, hv⟩⟩ | ⟨hb, k, hk, hv⟩ | ⟨h1, h2, h3, hv⟩
        · rw [hs] at hws
          simp only [List.length_cons] at hws ⊢
          refine ⟨by omega, fun m hm => ?_⟩
          obtain ⟨m, rfl⟩ : ∃ m', m = m' + 1 := ⟨m - 1, by omega⟩
          exact parseValue_succ.mpr (.inl ⟨hb, .inl ⟨hs, hv⟩⟩)
        · obtain ⟨hl, hm'⟩ := ihe _ _ _ he
          rw [hs] at hws
          simp only [List.length_cons] at hws hl hm' ⊢
          refine ⟨by omega, fun m hm => ?_⟩
          obtain ⟨m, rfl⟩ : ∃ m', m = m' + 1 := ⟨m - 1, by omega⟩
          exact parseValue_succ.mpr (.inl ⟨hb, .inr ⟨c, q, vs, hs, hc, hm' m (by omega), hv⟩⟩)
        · rw [hs] at hws
          simp only [List.length_cons] at hws ⊢
          refine ⟨by omega, fun m hm => ?_⟩
          obtain ⟨m, rfl⟩ : ∃ m', m = m' + 1 := ⟨m - 1, by omega⟩
          exact parseValue_succ.mpr (.inr (.inl ⟨hb, .inl ⟨hs, hv⟩⟩))
        · obtain ⟨hl, hm'⟩ := ihm _ _ _ he
          rw [hs] at hws
          simp only [List.length_cons] at hws hl hm' ⊢
          refine ⟨by omega, fun m hm => ?_⟩
          obtain ⟨m, rfl⟩ : ∃ m', m = m' + 1 := ⟨m - 1, by omega⟩
          exact parseValue_succ.mpr
            (.inr (.inl ⟨hb, .inr ⟨c, q, ms, hs, hc, hm' m (by omega), hv⟩⟩))
        · have := parseStrFrom_length hk
          simp only [List.length_cons]
          refine ⟨by omega, fun m hm => ?_⟩
          obtain ⟨m, rfl⟩ : ∃ m', m = m' + 1 := ⟨m - 1, by omega⟩
          exact parseValue_succ.mpr (.inr (.inr (.inl ⟨hb, k, hk, hv⟩)))
        · refine ⟨parseScalar_length hv, fun m hm => ?_⟩
          simp only [List.length_cons] at hm
          obtain ⟨m, rfl⟩ : ∃ m', m = m' + 1 := ⟨m - 1, by omega⟩
          exact parseValue_succ.mpr (.inr (.inr (.inr ⟨h1, h2, h3, hv⟩)))
    · intro s vs r h
      rw [parseElems_succ] at h
      obtain ⟨v, q, hv, h⟩ := h
      obtain ⟨hl, hm⟩ := ihv _ _ _ hv
      have hws := skipWs_length_le q
      rcases h with ⟨hq, hvs⟩ | ⟨q', ws, hq, he, hvs⟩
      · rw [hq] at hws
        simp only [List.length_cons] at hws
        refine ⟨by omega, fun m hm' => ?_⟩
        obtain ⟨m, rfl⟩ : ∃ m', m = m' + 1 := ⟨m - 1, by omega⟩
        exact parseElems_succ.mpr ⟨v, q, hm m (by omega), .inl ⟨hq, hvs⟩⟩
      · obtain ⟨hl', hme⟩ := ihe _ _ _ he
        have hws' := skipWs_length_le q'
        rw [hq] at hws
        simp only [List.length_cons] at hws
        refine ⟨by omega, fun m hm' => ?_⟩
        obtain ⟨m, rfl⟩ : ∃ m', m = m' + 1 := ⟨m - 1, by omega⟩
        exact parseElems_succ.mpr
          ⟨v, q, hm m (by omega), .inr ⟨q', ws, hq, hme m (by omega), hvs⟩⟩
    · intro s ms r h
      cases s with
      | nil => simp [parseMembers] at h
      | cons b s =>
        rw [parseMembers_succ] at h
        obtain ⟨hb, k, r₀, r₁, v, r₂, hk, h0, hv, h⟩ := h
        have hkl := parseStrFrom_length hk
        have hw0 := skipWs_length_le r₀
        have hw1 := skipWs_length_le r₁
        have hw2 := skipWs_length_le r₂
        obtain ⟨hl, hm⟩ := ihv _ _ _ hv
        rw [h0] at hw0
        rcases h with ⟨h2, hms⟩ | ⟨r₃, ws, h2, he, hms⟩
        · rw [h2] at hw2
          simp only [List.length_cons] at hw0 hw2 ⊢
          refine ⟨by omega, fun m hm' => ?_⟩
          obtain ⟨m, rfl⟩ : ∃ m', m = m' + 1 := ⟨m - 1, by omega⟩
          exact parseMembers_succ.mpr
            ⟨hb, k, r₀, r₁, v, r₂, hk, h0, hm m (by omega), .inl ⟨h2, hms⟩⟩
        · obtain ⟨hl', hme⟩ := ihm _ _ _ he
          have hw3 := skipWs_length_le r₃
          rw [h2] at hw2
          simp only [List.length_cons] at hw0 hw2 ⊢
          refine ⟨by omega, fun m hm' => ?_⟩
          obtain ⟨m, rfl⟩ : ∃ m', m = m' + 1 := ⟨m - 1, by omega⟩
          exact parseMembers_succ.mpr
            ⟨hb, k, r₀, r₁, v, r₂, hk, h0, hm m (by omega),
              .inr ⟨r₃, ws, h2, hme m (by omega), hms⟩⟩

theorem parseValue_enough {n : Nat} {s r : Bytes} {v : Value} (h : parseValue n s = some (v, r))
    {m : Nat} (hm : 2 * s.length ≤ m) : parseValue m s = some (v, r) :=
  ((parse_enough n).1 s v r h).2 m hm

theorem parseElems_enough {n : Nat} {s r : Bytes} {vs : List Value}
    (h : parseElems n s = some (vs, r)) {m : Nat} (hm : 2 * s.length + 1 ≤ m) :
    parseElems m s = some (vs, r) :=
  ((parse_enough n).2.1 s vs r h).2 m hm

/-! ## A longer input -/

/-- A part is read the same way whatever follows it, a number byte right after it apart. -/
theorem parse_append {t : Bytes} (ht : NoNumHead t) : ∀ n : Nat,
    (∀ s v r, parseValue n s = some (v, r) → parseValue n (s ++ t) = some (v, r ++ t)) ∧
    (∀ s vs r, parseElems n s = some (vs, r) → parseElems n (s ++ t) = some (vs, r ++ t)) ∧
    (∀ s ms r, parseMembers n s = some (ms, r) → parseMembers n (s ++ t) = some (ms, r ++ t)) := by
  intro n
  induction n with
  | zero =>
    exact ⟨fun _ _ _ h => by simp [parseValue] at h, fun _ _ _ h => by simp [parseElems] at h,
      fun _ _ _ h => by simp [parseMembers] at h⟩
  | succ n ih =>
    obtain ⟨ihv, ihe, ihm⟩ := ih
    -- the next part of a list starts right after the white space
    have hskip : ∀ {q : Bytes} {α : Type} {f : Bytes → Option α} {a : α},
        f [] = none → f (skipWs q) = some a → ∃ c q', skipWs q = c :: q' := by
      intro q α f a hf h
      cases hq : skipWs q with
      | nil => rw [hq, hf] at h; cases h
      | cons c q' => exact ⟨c, q', rfl⟩
    refine ⟨?_, ?_, ?_⟩
    · intro s v r h
      cases s with
      | nil => simp [parseValue] at h
      | cons b s =>
        rw [List.cons_append]
        rw [parseValue_succ] at h ⊢
        rcases h with ⟨hb, ⟨hs, hv⟩ | ⟨c, q, vs, hs, hc, he, hv⟩⟩ |
          ⟨hb, ⟨hs, hv⟩ | ⟨c, q, ms, hs, hc, he, hv⟩⟩ | ⟨hb, k, hk, hv⟩ | ⟨h1, h2, h3, hv⟩
        · exact .inl ⟨hb, .inl ⟨skipWs_append hs t, hv⟩⟩
        · exact .inl ⟨hb, .inr ⟨c, q ++ t, vs, skipWs_append hs t, hc, ihe _ _ _ he, hv⟩⟩
        · exact .inr (.inl ⟨hb, .inl ⟨skipWs_append hs t, hv⟩⟩)
        · exact .inr (.inl ⟨hb, .inr ⟨c, q ++ t, ms, skipWs_append hs t, hc, ihm _ _ _ he, hv⟩⟩)
        · exact .inr (.inr (.inl ⟨hb, k, parseStrFrom_append hk t, hv⟩))
        · exact .inr (.inr (.inr ⟨h1, h2, h3, parseScalar_append ht hv⟩))
    · intro s vs r h
      rw [parseElems_succ] at h ⊢
      obtain ⟨v, q, hv, h⟩ := h
      refine ⟨v, q ++ t, ihv _ _ _ hv, ?_⟩
      rcases h with ⟨hq, hvs⟩ | ⟨q', ws, hq, he, hvs⟩
      · exact .inl ⟨skipWs_append hq t, hvs⟩
      · have hnil : parseElems n [] = none := by
          rcases n with _ | _ | n <;> simp [parseElems, parseValue]
        obtain ⟨c, q'', hq'⟩ := hskip hnil he
        refine .inr ⟨q' ++ t, ws, skipWs_append hq t, ?_, hvs⟩
        rw [skipWs_append hq' t, ← List.cons_append, ← hq']
        exact ihe _ _ _ he
    · intro s ms r h
      cases s with
      | nil => simp [parseMembers] at h
      | cons b s =>
        rw [List.cons_append]
        rw [parseMembers_succ] at h ⊢
        obtain ⟨hb, k, r₀, r₁, v, r₂, hk, h0, hv, h⟩ := h
        have hnil : parseValue n [] = none := by cases n <;> simp [parseValue]
        obtain ⟨c, q, hq⟩ := hskip hnil hv
        refine ⟨hb, k, r₀ ++ t, r₁ ++ t, v, r₂ ++ t, parseStrFrom_append hk t,
          skipWs_append h0 t, ?_, ?_⟩
        · rw [skipWs_append hq t, ← List.cons_append, ← hq]
          exact ihv _ _ _ hv
        rcases h with ⟨h2, hms⟩ | ⟨r₃, ws, h2, he, hms⟩
        · exact .inl ⟨skipWs_append h2 t, hms⟩
        · have hnil' : parseMembers n [] = none := by cases n <;> simp [parseMembers]
          obtain ⟨c', q', hq'⟩ := hskip hnil' he
          refine .inr ⟨r₃ ++ t, ws, skipWs_append h2 t, ?_, hms⟩
          rw [skipWs_append hq' t, ← List.cons_append, ← hq']
          exact ihm _ _ _ he

theorem parseValue_append {n : Nat} {s r t : Bytes} {v : Value} (ht : NoNumHead t)
    (h : parseValue n s = some (v, r)) : parseValue n (s ++ t) = some (v, r ++ t) :=
  (parse_append ht n).1 s v r h

/-! ## Whole texts -/

/-- `s` is the text of `v`, with no white space before it. -/
def IsText (s : Bytes) (v : Value) : Prop :=
  ∃ n r, parseValue n s = some (v, r) ∧ skipWs r = []

/-- No value starts with a control byte or a blank. -/
theorem parseValue_head {n : Nat} {b : UInt8} {s r : Bytes} {v : Value}
    (h : parseValue n (b :: s) = some (v, r)) : 0x20 < b := by
  cases n with
  | zero => simp [parseValue] at h
  | succ n =>
    rw [parseValue_succ] at h
    rcases h with ⟨rfl, _⟩ | ⟨rfl, _⟩ | ⟨rfl, _⟩ | ⟨h1, h2, h3, hv⟩
    · decide
    · decide
    · decide
    by_contra hb
    have hnum : isNumByte b = false := by
      simp only [isNumByte, isDigit, Bool.or_eq_false_iff, Bool.and_eq_false_iff,
        decide_eq_false_iff_not, beq_eq_false_iff_ne]
      grind
    have hn : b ≠ 0x6E := by rintro rfl; exact hb (by decide)
    have ht : b ≠ 0x74 := by rintro rfl; exact hb (by decide)
    have hf : b ≠ 0x66 := by rintro rfl; exact hb (by decide)
    simp [parseScalar, hn, ht, hf, hnum, validNumber, validUnsigned] at hv

theorem isWs_of_gt {b : UInt8} (h : 0x20 < b) : isWs b = false := by
  simp only [isWs, Bool.or_eq_false_iff, beq_eq_false_iff_ne]
  grind

theorem IsText.ne_nil {s : Bytes} {v : Value} (h : IsText s v) : s ≠ [] := by
  rintro rfl
  obtain ⟨n, r, h, _⟩ := h
  cases n <;> simp [parseValue] at h

theorem IsText.head {b : UInt8} {s : Bytes} {v : Value} (h : IsText (b :: s) v) : 0x20 < b :=
  let ⟨_, _, h, _⟩ := h
  parseValue_head h

theorem IsText.skipWs_eq {s : Bytes} {v : Value} (h : IsText s v) : skipWs s = s := by
  cases s with
  | nil => rfl
  | cons b s => exact skipWs_cons (isWs_of_gt h.head) s

/-- A whole text is a value after white space. -/
theorem parseDoc_iff {s : Bytes} {v : Value} : parseDoc s = some v ↔ IsText (skipWs s) v := by
  simp only [parseDoc, docFuel]
  constructor
  · intro h
    split at h
    · rename_i w r hw
      split at h
      · rename_i hr; cases h; exact ⟨_, r, hw, hr⟩
      · cases h
    · cases h
  · rintro ⟨n, r, hv, hr⟩
    simp only [parseValue_enough hv (Nat.le_refl _), hr, if_true]

theorem parseDoc_of_isText {s : Bytes} {v : Value} (h : IsText s v) : parseDoc s = some v :=
  parseDoc_iff.mpr (h.skipWs_eq.symm ▸ h)

theorem skipWs_append_of_doc {s : Bytes} {v : Value} (h : parseDoc s = some v) (t : Bytes) :
    skipWs (s ++ t) = skipWs s ++ t := by
  obtain ⟨b, q, hq⟩ := List.exists_cons_of_ne_nil (parseDoc_iff.mp h).ne_nil
  rw [skipWs_append hq t, hq, List.cons_append]

/-! ## A bracketed list of texts -/

/-- `s` is a text of `v`. -/
def IsDoc (s : Bytes) (v : Value) : Prop := parseDoc s = some v

/-- `, s₁ , s₂ …` -/
def commas (ss : List Bytes) : Bytes := ss.flatMap fun s => 0x2C :: s

theorem noNumHead_commas (ss : List Bytes) (x : Bytes) : NoNumHead (commas ss ++ 0x5D :: x) := by
  cases ss with
  | nil => exact NoNumHead.cons (by decide) _
  | cons s ss => exact NoNumHead.cons (by decide) _

/-- The texts between brackets are read one by one, up to the bracket that closes them. -/
theorem parseElems_commas {s : Bytes} {v : Value} (hs : IsText s v) {ss : List Bytes}
    {vs : List Value} (hss : List.Forall₂ IsDoc ss vs) (x : Bytes) :
    ∃ n, parseElems n (s ++ (commas ss ++ 0x5D :: x)) = some (v :: vs, x) := by
  induction hss generalizing s v with
  | nil =>
    obtain ⟨n, r, hv, hr⟩ := hs
    refine ⟨n + 1, parseElems_succ.mpr ⟨v, _, parseValue_append (noNumHead_commas [] x) hv, ?_⟩⟩
    left
    rw [skipWs_append_nil hr]
    exact ⟨skipWs_cons (by decide) x, rfl⟩
  | @cons s' v' ss vs hs' _ ih =>
    obtain ⟨ne, he⟩ := ih (parseDoc_iff.mp hs')
    obtain ⟨nv, r, hv, hr⟩ := hs
    have hv' := parseValue_append (noNumHead_commas (s' :: ss) x) hv
    refine ⟨max (2 * (s ++ (commas (s' :: ss) ++ 0x5D :: x)).length)
      (2 * (skipWs s' ++ (commas ss ++ 0x5D :: x)).length + 1) + 1, parseElems_succ.mpr
      ⟨v, _, parseValue_enough hv' (Nat.le_max_left _ _), ?_⟩⟩
    right
    refine ⟨s' ++ (commas ss ++ 0x5D :: x), v' :: vs, ?_, ?_, rfl⟩
    · rw [skipWs_append_nil hr]
      simp [commas, skipWs, isWs]
    · rw [skipWs_append_of_doc hs']
      exact parseElems_enough he (Nat.le_max_right _ _)

/-- The value at the head of a bracketed list is the array of its texts. -/
theorem parseValue_wrap {s : Bytes} {v : Value} (hs : IsDoc s v) {ss : List Bytes}
    {vs : List Value} (hss : List.Forall₂ IsDoc ss vs) (x : Bytes) :
    ∃ n, parseValue n (0x5B :: (s ++ (commas ss ++ 0x5D :: x))) = some (.arr (v :: vs), x) := by
  have ht := parseDoc_iff.mp hs
  obtain ⟨n, hn⟩ := parseElems_commas ht hss x
  have hsk := skipWs_append_of_doc hs (commas ss ++ 0x5D :: x)
  obtain ⟨b, q, hq⟩ := List.exists_cons_of_ne_nil ht.ne_nil
  rw [hq] at hn hsk ht
  refine ⟨n + 1, parseValue_succ.mpr (.inl ⟨rfl, .inr ⟨b, _, _, hsk, ?_, hn, rfl⟩⟩)⟩
  rintro rfl
  -- a text does not start with a closing bracket
  obtain ⟨m, r, hv, _⟩ := ht
  cases m with
  | zero => simp [parseValue] at hv
  | succ m =>
    simp [parseValue, parseScalar, validNumber, validUnsigned, isNumByte, isDigit] at hv

/-- **A bracketed, comma-separated list of texts is one array.** -/
theorem parseDoc_wrap {s : Bytes} {v : Value} (hs : IsDoc s v) {ss : List Bytes}
    {vs : List Value} (hss : List.Forall₂ IsDoc ss vs) :
    parseDoc (0x5B :: (s ++ (commas ss ++ [0x5D]))) = some (.arr (v :: vs)) := by
  obtain ⟨n, hn⟩ := parseValue_wrap hs hss []
  exact parseDoc_of_isText ⟨n, [], hn, rfl⟩

/-- **Anything but white space after the closing bracket makes the text malformed.** -/
theorem parseDoc_wrap_junk {s : Bytes} {v : Value} (hs : IsDoc s v) {ss : List Bytes}
    {vs : List Value} (hss : List.Forall₂ IsDoc ss vs) {x : Bytes} (hx : skipWs x ≠ []) :
    parseDoc (0x5B :: (s ++ (commas ss ++ 0x5D :: x))) = none := by
  obtain ⟨n, hn⟩ := parseValue_wrap hs hss x
  have hsk := skipWs_cons (b := 0x5B) (by decide) (s ++ (commas ss ++ 0x5D :: x))
  simp only [parseDoc, hsk, docFuel, parseValue_enough hn (Nat.le_refl _), if_neg hx]

end ByteJson
