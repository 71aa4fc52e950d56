import ControlSurface.Decimal.Binary
import Mathlib

/- The order of doubles, read off their bits. A double is a sign bit, a field of eleven bits
   for its exponent and a field of 52 bits for its significand. The fields are taken as
   natural numbers (`signOf`, `exponentOf`, `significandOf`), bits are unpacked to them and
   packed again as they were (`unpack_bits`, `pack_unpack`), and doubles that are not below
   zero compare as their bits do (`compare_eq`): the larger bits have the larger exponent or,
   at the same exponent, the larger significand. -/
namespace ControlSurface.Decimal
open Float.Model UnpackedFloat

/-! ## Fields -/

section
variable (b : BitVec 64)

theorem unpackExponent_toNat :
    (@unpackExponent Format.binary64 b).toNat = b.toNat / 2 ^ 52 % 2048 := by
  simp [unpackExponent, BitVec.extractLsb, Nat.shiftRight_eq_div_pow]

theorem unpackMantissa_toNat :
    (@unpackMantissa Format.binary64 b).toNat = b.toNat % 2 ^ 52 := by
  simp [unpackMantissa, BitVec.extractLsb]

theorem unpackSign_toNat :
    (@unpackSign Format.binary64 b).toNat = b.toNat / 2 ^ 63 := by
  have hlt := b.isLt
  simp [unpackSign, BitVec.extractLsb, Nat.shiftRight_eq_div_pow]
  omega

theorem toNat_implicit (v : BitVec 52) : (1#1 ++ v).toNat = v.toNat + 2 ^ 52 := by
  rw [BitVec.toNat_append, ← Nat.shiftLeft_add_eq_or_of_lt v.isLt, Nat.add_comm]
  rfl

/-- The sign that bits stand for. -/
def signOf (b : Nat) : Sign := if 2 ^ 63 ≤ b then .negative else .positive

/-- The significand that bits stand for. Its first digit is not written, but for the
    smallest doubles, which have none. -/
def significandOf (b : Nat) : Nat :=
  if b / 2 ^ 52 % 2048 = 0 then b % 2 ^ 52 else b % 2 ^ 52 + 2 ^ 52

/-- The exponent that bits stand for, that of a whole significand. -/
def exponentOf (b : Nat) : Int :=
  if b / 2 ^ 52 % 2048 = 0 then -1074 else (b / 2 ^ 52 % 2048 : Nat) - 1075

theorem ofBitVec_unpackSign :
    Sign.ofBitVec (@unpackSign Format.binary64 b) = signOf b.toNat := by
  have hlt := b.isLt
  have hzero : @unpackSign Format.binary64 b = 0#1 ↔ ¬2 ^ 63 ≤ b.toNat := by
    rw [BitVec.toNat_eq, unpackSign_toNat, BitVec.toNat_zero]
    omega
  unfold Sign.ofBitVec signOf
  by_cases h : 2 ^ 63 ≤ b.toNat
  · rw [if_pos h, if_neg fun hsign => hzero.mp hsign h]
  · rw [if_neg h, if_pos (hzero.mpr h)]

/-- Bits of a finite double are unpacked to their sign, significand and exponent. -/
theorem unpack_bits (h : b.toNat / 2 ^ 52 % 2048 ≠ 2047) :
    UnpackedFloat.unpack Format.binary64 b =
      if hm : 0 < significandOf b.toNat then
        .finite (signOf b.toNat) (significandOf b.toNat) (exponentOf b.toNat) hm
      else .zero (signOf b.toNat) := by
  have hlt : b.toNat % 2 ^ 52 < 2 ^ 52 := Nat.mod_lt _ (by decide)
  have hspecial : ¬@unpackExponent Format.binary64 b = -1#11 := by
    rw [BitVec.toNat_eq, unpackExponent_toNat]
    exact h
  have hsubnormal : @unpackExponent Format.binary64 b = 0#11 ↔
      b.toNat / 2 ^ 52 % 2048 = 0 := by rw [BitVec.toNat_eq, unpackExponent_toNat]; rfl
  have hnone : @unpackMantissa Format.binary64 b = 0#52 ↔
      b.toNat % 2 ^ 52 = 0 := by rw [BitVec.toNat_eq, unpackMantissa_toNat]; rfl
  have hbias : (Format.binary64.exponentBias : Int) = 1023 := rfl
  unfold UnpackedFloat.unpack significandOf exponentOf
  simp only [ofBitVec_unpackSign, hspecial, hsubnormal, hnone, unpackExponent_toNat,
    unpackMantissa_toNat, if_false, hbias]
  by_cases hzero : b.toNat / 2 ^ 52 % 2048 = 0
  · simp only [hzero, if_true]
    by_cases hf : b.toNat % 2 ^ 52 = 0
    · rw [dif_pos hf, dif_neg (by omega)]
    · rw [dif_neg hf, dif_pos (by omega)]
      rfl
  · simp only [hzero, if_false]
    rw [dif_pos (by omega)]
    simp only [toNat_implicit, unpackMantissa_toNat, UnpackedFloat.finite.injEq, true_and]
    omega

theorem toNat_packComponents (s : Sign) (e : BitVec 11) (m : BitVec 52) :
    (packComponents Format.binary64 s e m).toNat =
      s.toBitVec.toNat * 2 ^ 63 + e.toNat * 2 ^ 52 + m.toNat := by
  have he := e.isLt
  have hm := m.isLt
  show (s.toBitVec ++ e ++ m).toNat = _
  rw [BitVec.toNat_append, ← Nat.shiftLeft_add_eq_or_of_lt hm, BitVec.toNat_append,
    ← Nat.shiftLeft_add_eq_or_of_lt he, Nat.shiftLeft_eq, Nat.shiftLeft_eq]
  omega

/-- Bits of a finite double are packed again as they were. -/
theorem pack_unpack (h : b.toNat / 2 ^ 52 % 2048 ≠ 2047) :
    UnpackedFloat.pack Format.binary64 (UnpackedFloat.unpack Format.binary64 b) = b := by
  have hlt := b.isLt
  have hsign : (signOf b.toNat).toBitVec.toNat = b.toNat / 2 ^ 63 := by
    unfold signOf
    split
    · show 1 = _
      omega
    · show 0 = _
      omega
  have hbias : (Format.binary64.exponentBias : Int) = 1023 := rfl
  rw [unpack_bits b h]
  apply BitVec.eq_of_toNat_eq
  split
  · next hm =>
    unfold UnpackedFloat.pack
    simp only [hbias]
    have hlog := Nat.log2_lt (k := 52) (Nat.ne_of_gt hm)
    have hlog' := Nat.log2_lt (k := 53) (Nat.ne_of_gt hm)
    generalize (significandOf b.toNat).log2 = l at hlog hlog' ⊢
    unfold significandOf at hlog hlog' ⊢
    unfold exponentOf
    split
    · next hzero =>
      simp only [hzero, if_true] at hlog hlog' ⊢
      rw [if_neg (by decide), if_neg (by show ¬ l + 1 = 53; omega), toNat_packComponents, hsign]
      simp only [BitVec.toNat_ofNat]
      omega
    · next hzero =>
      simp only [hzero, if_false] at hlog hlog' ⊢
      rw [if_neg (by show ¬2048 ≤ _; omega), if_pos (by show l + 1 = 53; omega),
        toNat_packComponents, hsign]
      simp only [BitVec.toNat_ofNat]
      omega
  · next hm =>
    unfold significandOf at hm
    show (packComponents Format.binary64 _ 0#11 0#52).toNat = _
    rw [toNat_packComponents, hsign]
    split at hm <;> simp <;> omega
end

theorem toBits_ofBits {b : Nat} (hlt : b < 2 ^ 64) (h : b / 2 ^ 52 % 2048 ≠ 2047) :
    (Float.ofBits (UInt64.ofNat b)).toBits.toNat = b := by
  have hb : (UInt64.ofNat b).toBitVec.toNat = b := by
    rw [UInt64.toNat_toBitVec, UInt64.toNat_ofNat', Nat.mod_eq_of_lt hlt]
  have hpack := pack_unpack (UInt64.ofNat b).toBitVec (by rw [hb]; exact h)
  exact (congrArg BitVec.toNat hpack).trans hb

/-! ## Order -/

section
variable {x y : Float}

theorem isNegative_iff : isNegative x = true ↔ 2 ^ 63 ≤ x.toBits.toNat := by
  have hlt := x.toBits.toNat_lt
  rw [isNegative, Nat.pow_eq, decide_eq_true_iff]
  omega

theorem isNegative_eq_false_iff : isNegative x = false ↔ x.toBits.toNat < 2 ^ 63 := by
  rw [← Bool.not_eq_true, isNegative_iff, Nat.not_le]

/-- A double is finite if its exponent field is not the last. -/
theorem isFinite_iff : x.isFinite = true ↔ exponentField x ≠ 2047 := by
  constructor
  · intro hfinite h
    have hexponent : @unpackExponent Format.binary64 x.toBits.toBitVec = -1#11 := by
      rw [BitVec.toNat_eq]
      exact (unpackExponent_toNat _).trans h
    have hunpack : (UnpackedFloat.unpack Format.binary64 x.toBits.toBitVec).isFinite = false := by
      unfold UnpackedFloat.unpack
      simp only [hexponent, if_true]
      split <;> rfl
    exact absurd (hfinite.symm.trans hunpack) (by decide)
  · intro h
    show (UnpackedFloat.unpack Format.binary64 x.toBits.toBitVec).isFinite = true
    rw [unpack_bits _ h]
    split <;> rfl

theorem unpack_eq (h : exponentField x ≠ 2047) : x.toModel.unpack =
    if hm : 0 < significandOf x.toBits.toNat then
      .finite (signOf x.toBits.toNat) (significandOf x.toBits.toNat) (exponentOf x.toBits.toNat) hm
    else .zero (signOf x.toBits.toNat) := unpack_bits x.toBits.toBitVec h

theorem significandOf_pos_iff {b : Nat} (h : b < 2 ^ 63) : 0 < significandOf b ↔ 0 < b := by
  unfold significandOf
  split <;> omega

/-- The larger bits have the larger exponent or, where exponents are the same, the larger
    significand. -/
theorem lt_iff_fields {b c : Nat} (hb : b < 2 ^ 63) (hc : c < 2 ^ 63) : b < c ↔
    exponentOf b < exponentOf c ∨
      exponentOf b = exponentOf c ∧ significandOf b < significandOf c := by
  unfold exponentOf significandOf
  split <;> split <;> omega

/-- Doubles that are not below zero compare as their bits do. -/
theorem compare_eq (hx : exponentField x ≠ 2047) (hy : exponentField y ≠ 2047)
    (hxs : x.toBits.toNat < 2 ^ 63) (hys : y.toBits.toNat < 2 ^ 63) :
    x.toModel.unpack.compare y.toModel.unpack = some (compare x.toBits.toNat y.toBits.toNat) := by
  rw [unpack_eq hx, unpack_eq hy, signOf, signOf, if_neg (Nat.not_le.mpr hxs),
    if_neg (Nat.not_le.mpr hys)]
  simp only [significandOf_pos_iff hxs, significandOf_pos_iff hys]
  generalize x.toBits.toNat = b at hxs ⊢
  generalize y.toBits.toNat = c at hys ⊢
  rcases Nat.eq_zero_or_pos b with rfl | hb <;> rcases Nat.eq_zero_or_pos c with rfl | hc
  · rfl
  · rw [dif_neg (Nat.lt_irrefl 0), dif_pos hc, Nat.compare_eq_lt.mpr hc]
    rfl
  · rw [dif_pos hb, dif_neg (Nat.lt_irrefl 0), Nat.compare_eq_gt.mpr hb]
    rfl
  · rw [dif_pos hb, dif_pos hc]
    show some ((compare (exponentOf b) (exponentOf c)).then
      (compare (significandOf b) (significandOf c))) = _
    congr 1
    have hlt := lt_iff_fields hxs hys
    have hgt := lt_iff_fields hys hxs
    rcases Nat.lt_trichotomy b c with h | h | h
    · rw [Nat.compare_eq_lt.mpr h, Ordering.then_eq_lt, Int.compare_eq_lt, Int.compare_eq_eq,
        Nat.compare_eq_lt]
      exact hlt.mp h
    · rw [Nat.compare_eq_eq.mpr h, Ordering.then_eq_eq, Int.compare_eq_eq, Nat.compare_eq_eq]
      omega
    · rw [Nat.compare_eq_gt.mpr h, Ordering.then_eq_gt, Int.compare_eq_gt, Int.compare_eq_eq,
        Nat.compare_eq_gt]
      omega

/-- A double below zero comes before any above it. -/
theorem compare_negative (hx : exponentField x ≠ 2047) (hy : exponentField y ≠ 2047)
    (hxs : 2 ^ 63 ≤ x.toBits.toNat) (hys : y.toBits.toNat < 2 ^ 63) (hpos : 0 < y.toBits.toNat) :
    x.toModel.unpack.compare y.toModel.unpack = some .lt ∧
      y.toModel.unpack.compare x.toModel.unpack = some .gt := by
  rw [unpack_eq hx, unpack_eq hy, dif_pos ((significandOf_pos_iff hys).mpr hpos), signOf, signOf,
    if_pos hxs, if_neg (Nat.not_le.mpr hys)]
  split <;> exact ⟨rfl, rfl⟩

theorem lt_iff : x < y ↔ x.toModel.unpack.compare y.toModel.unpack = some .lt := by
  show decide (UnpackedFloat.lt x.toModel.unpack y.toModel.unpack = true) = true ↔ _
  rw [decide_eq_true_iff, UnpackedFloat.lt, beq_iff_eq]

theorem le_iff : x ≤ y ↔
    x.toModel.unpack.compare y.toModel.unpack = some .lt ∨
      x.toModel.unpack.compare y.toModel.unpack = some .eq := by
  show decide (UnpackedFloat.le x.toModel.unpack y.toModel.unpack = true) = true ↔ _
  rw [decide_eq_true_iff, UnpackedFloat.le]
  cases x.toModel.unpack.compare y.toModel.unpack with
  | none => simp
  | some o => cases o <;> simp [Ordering.isLE]

/-- What is not a number is below nothing. -/
theorem not_lt_of_isNaN {y : Float} (h : x.isNaN = true) : ¬x < y := by
  have hnan : x.toModel.unpack.isNaN = true := h
  rw [lt_iff]
  cases hx : x.toModel.unpack with
  | notANumber => cases y.toModel.unpack <;> simp [UnpackedFloat.compare]
  | infinity s => simp [hx, UnpackedFloat.isNaN] at hnan
  | zero s => simp [hx, UnpackedFloat.isNaN] at hnan
  | finite s m e hm => simp [hx, UnpackedFloat.isNaN] at hnan

end

end ControlSurface.Decimal
