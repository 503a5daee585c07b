import Mathlib.Tactic.NormNum
import Skribbl.Frontend.BinaryDrawing

/-!
# Colours of hexadecimal digits

What `parseInt` and the conversions of `binaryDrawing.ts` make of hexadecimal digits:
`parseInt16_digits`, `hexToRgb_digits`, and the round trip `wireColour_lower`.
-/

set_option autoImplicit false

namespace Skribbl.BinaryDrawing

theorem hexVal_lt {c : Char} {n : Nat} (h : hexVal c = some n) : n < 16 := by
  have hle : ∀ a b : Char, a ≤ b ↔ a.toNat ≤ b.toNat := fun a b => Iff.rfl
  unfold hexVal at h
  simp only [hle] at h
  have h9 : '9'.toNat = '0'.toNat + 9 := rfl
  have hf : 'f'.toNat = 'a'.toNat + 5 := rfl
  have hF : 'F'.toNat = 'A'.toNat + 5 := rfl
  split at h
  · cases h
    omega
  split at h
  · cases h
    omega
  split at h
  · cases h
    omega
  · cases h

/-- A digit is neither a blank nor a sign, and does not begin a prefix. -/
theorem not_digit {c : Char} (h : (hexVal c).isSome) :
    c.isWhitespace = false ∧ c ≠ '-' ∧ c ≠ '+' ∧ c ≠ 'x' ∧ c ≠ 'X' := by
  have hne : ∀ d : Char, hexVal d = none → c ≠ d := by
    rintro d hd rfl
    rw [hd] at h
    cases h
  refine ⟨?_, hne _ (by decide), hne _ (by decide), hne _ (by decide), hne _ (by decide)⟩
  simp [Char.isWhitespace, hne ' ' (by decide), hne '\t' (by decide), hne '\r' (by decide),
    hne '\n' (by decide)]

/-- `parseInt` of digits alone. -/
theorem parseInt16_digits {l : List Char} (h : ∀ c ∈ l, (hexVal c).isSome) :
    parseInt16 l = (hexPrefix none l).map (↑) := by
  have hblank : l.dropWhile Char.isWhitespace = l := by
    cases l with
    | nil => rfl
    | cons c l => simp [(not_digit (h c List.mem_cons_self)).1]
  have hhead : ∀ c r, l = c :: r → (hexVal c).isSome := by
    rintro c r rfl
    exact h c List.mem_cons_self
  have hsecond : ∀ c d r, l = c :: d :: r → (hexVal d).isSome := by
    rintro c d r rfl
    exact h d (by simp)
  unfold parseInt16
  rw [hblank]
  dsimp only
  split
  · exact absurd rfl (not_digit (hhead _ _ rfl)).2.1
  · exact absurd rfl (not_digit (hhead _ _ rfl)).2.2.1
  simp only [Bool.false_eq_true, if_false]
  split
  · exact absurd rfl (not_digit (hsecond _ _ _ rfl)).2.2.2.1
  · exact absurd rfl (not_digit (hsecond _ _ _ rfl)).2.2.2.2
  · cases hexPrefix none l <;> rfl

/-! ## Round trip -/

/-- A decimal digit or a lower-case letter up to `f`. -/
def LowerHex (c : Char) : Prop := '0' ≤ c ∧ c ≤ '9' ∨ 'a' ≤ c ∧ c ≤ 'f'

instance (c : Char) : Decidable (LowerHex c) := by unfold LowerHex; infer_instance

theorem LowerHex.isSome {c : Char} (h : LowerHex c) : (hexVal c).isSome := by
  unfold hexVal
  rcases h with h | h
  · rw [if_pos h]
    rfl
  · split <;> rfl

/-- A lower-case digit is the digit of its value. -/
theorem hexDigit_hexVal {c : Char} {n : Nat} (hc : LowerHex c) (h : hexVal c = some n) :
    hexDigit n = c := by
  have hle : ∀ a b : Char, a ≤ b ↔ a.toNat ≤ b.toNat := fun a b => Iff.rfl
  have h9 : '9'.toNat = '0'.toNat + 9 := rfl
  have hf : 'f'.toNat = 'a'.toNat + 5 := rfl
  have h0a : '9'.toNat < 'a'.toNat := by decide
  unfold hexVal at h
  unfold LowerHex at hc
  simp only [hle] at h hc
  unfold hexDigit
  rcases hc with hc | hc
  · rw [if_pos hc] at h
    cases h
    rw [if_pos (by omega), Nat.add_sub_cancel' hc.1, Char.ofNat_toNat]
  · rw [if_neg (by omega), if_pos hc] at h
    cases h
    rw [if_neg (by omega), Nat.add_sub_cancel, Nat.add_sub_cancel' hc.1, Char.ofNat_toNat]

theorem hexToRgb_of_parse {a b c d e f : Char} {n : Int}
    (hparse : parseInt16 [a, b, c, d, e, f] = some n) :
    hexToRgb ['#', a, b, c, d, e, f] = (byteOf n 2, byteOf n 1, byteOf n 0) := by
  unfold hexToRgb
  dsimp only
  split
  · rename_i hnone
    have hnone : parseInt16 [a, b, c, d, e, f] = none := hnone
    rw [hparse] at hnone
    cases hnone
  · rename_i val hval
    have hval : parseInt16 [a, b, c, d, e, f] = some val := hval
    rw [hparse] at hval
    cases hval
    rfl

/-- The value of six digits. -/
theorem hexToRgb_digits {a b c d e f : Char} {va vb vc vd ve vf : Nat} (ha : hexVal a = some va)
    (hb : hexVal b = some vb) (hc : hexVal c = some vc) (hd : hexVal d = some vd)
    (he : hexVal e = some ve) (hf : hexVal f = some vf) :
    hexToRgb ['#', a, b, c, d, e, f] =
      (UInt8.ofNat (va * 16 + vb), UInt8.ofNat (vc * 16 + vd), UInt8.ofNat (ve * 16 + vf)) := by
  have hdigits : ∀ x ∈ [a, b, c, d, e, f], (hexVal x).isSome := by simp [ha, hb, hc, hd, he, hf]
  have hprefix : hexPrefix none [a, b, c, d, e, f] =
      some (((((va * 16 + vb) * 16 + vc) * 16 + vd) * 16 + ve) * 16 + vf) := by
    simp [hexPrefix, ha, hb, hc, hd, he, hf]
  have := hexVal_lt ha
  have := hexVal_lt hb
  have := hexVal_lt hc
  have := hexVal_lt hd
  have := hexVal_lt he
  have := hexVal_lt hf
  have hparse : parseInt16 [a, b, c, d, e, f] =
      some ((((((va * 16 + vb) * 16 + vc) * 16 + vd) * 16 + ve) * 16 + vf : Nat) : Int) := by
    rw [parseInt16_digits hdigits, hprefix]
    rfl
  rw [hexToRgb_of_parse hparse]
  simp only [byteOf, Prod.mk.injEq]
  refine ⟨?_, ?_, ?_⟩ <;> congr 1 <;> omega

/-- A byte of two lower-case digits is written with them again. -/
theorem hex2_byte {a b : Char} {va vb : Nat} (ha : LowerHex a) (hb : LowerHex b)
    (hva : hexVal a = some va) (hvb : hexVal b = some vb) :
    hex2 (UInt8.ofNat (va * 16 + vb)) = [a, b] := by
  have := hexVal_lt hva
  have := hexVal_lt hvb
  have hbyte : (UInt8.ofNat (va * 16 + vb)).toNat = va * 16 + vb := by
    rw [UInt8.toNat_ofNat']
    omega
  have hhigh : (va * 16 + vb) / 16 = va := by omega
  have hlow : (va * 16 + vb) % 16 = vb := by omega
  rw [hex2, hbyte, hhigh, hlow, hexDigit_hexVal ha hva, hexDigit_hexVal hb hvb]

/-- **A lower-case colour survives the wire.** -/
theorem wireColour_lower {a b c d e f : Char} (h : ∀ x ∈ [a, b, c, d, e, f], LowerHex x) :
    wireColour ['#', a, b, c, d, e, f] = ['#', a, b, c, d, e, f] := by
  simp only [List.mem_cons, List.not_mem_nil, or_false, forall_eq_or_imp, forall_eq] at h
  obtain ⟨ha, hb, hc, hd, he, hf⟩ := h
  obtain ⟨va, hva⟩ := Option.isSome_iff_exists.mp ha.isSome
  obtain ⟨vb, hvb⟩ := Option.isSome_iff_exists.mp hb.isSome
  obtain ⟨vc, hvc⟩ := Option.isSome_iff_exists.mp hc.isSome
  obtain ⟨vd, hvd⟩ := Option.isSome_iff_exists.mp hd.isSome
  obtain ⟨ve, hve⟩ := Option.isSome_iff_exists.mp he.isSome
  obtain ⟨vf, hvf⟩ := Option.isSome_iff_exists.mp hf.isSome
  rw [wireColour, hexToRgb_digits hva hvb hvc hvd hve hvf, rgbToHex, hex2_byte ha hb hva hvb,
    hex2_byte hc hd hvc hvd, hex2_byte he hf hve hvf]
  rfl

end Skribbl.BinaryDrawing
