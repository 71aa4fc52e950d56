import ControlSurface.Proofs.Doubles

/- Whole numbers among the doubles. A finite double that is not below zero is a whole number
   of units, the smallest positive double being one unit (`units`); larger bits are more
   units. With `floor` the units are those of the whole number below (`floor_nonneg`), the
   same whole number is what the double turns to as an integer (`toUInt64_eq`, `div_units`),
   and a number below `2 ^ 53` is a double that has as many ones as it says (`ofCount_units`).
   Together they say how many of the first whole numbers are not above a double
   (`lt_count_iff`). -/
namespace ControlSurface.Decimal
open Float.Model UnpackedFloat

/-! ## Units -/

/-- The number of a double that is not below zero, in units of the smallest positive one. -/
def units (b : Nat) : Nat := significandOf b * 2 ^ (exponentOf b + 1074).toNat

theorem units_eq {b : Nat} (h : b < 2 ^ 63) : units b =
    if b / 2 ^ 52 = 0 then b % 2 ^ 52 else (b % 2 ^ 52 + 2 ^ 52) * 2 ^ (b / 2 ^ 52 - 1) := by
  have hfield : b / 2 ^ 52 % 2048 = b / 2 ^ 52 := by omega
  rw [units, significandOf, exponentOf, hfield]
  split
  · exact Nat.mul_one _
  · congr 2
    omega

/-- Units are below the least number of the next exponent. -/
theorem units_lt_pow {b : Nat} (h : b < 2 ^ 63) : units b < 2 ^ 52 * 2 ^ (b / 2 ^ 52) := by
  have hf : b % 2 ^ 52 < 2 ^ 52 := Nat.mod_lt _ (by decide)
  rw [units_eq h]
  generalize b % 2 ^ 52 = f at hf ⊢
  generalize b / 2 ^ 52 = d
  split
  · next hd =>
    rw [hd]
    omega
  · next hd =>
    have hpow : 2 ^ 52 * 2 ^ d = 2 ^ 53 * 2 ^ (d - 1) := by
      rw [← Nat.pow_add, ← Nat.pow_add]
      congr 1
      omega
    rw [hpow]
    exact Nat.mul_lt_mul_of_pos_right (by omega) (Nat.two_pow_pos _)

/-- Units are not below the least number of their exponent. -/
theorem pow_le_units {b : Nat} (h : b < 2 ^ 63) (hd : b / 2 ^ 52 ≠ 0) :
    2 ^ 52 * 2 ^ (b / 2 ^ 52 - 1) ≤ units b := by
  rw [units_eq h, if_neg hd]
  exact Nat.mul_le_mul_right _ (Nat.le_add_left _ _)

/-- Larger bits are more units. -/
theorem units_lt {b c : Nat} (h : b < c) (hc : c < 2 ^ 63) : units b < units c := by
  have hb : b < 2 ^ 63 := Nat.lt_trans h hc
  have hle : b / 2 ^ 52 ≤ c / 2 ^ 52 := Nat.div_le_div_right (Nat.le_of_lt h)
  rcases Nat.lt_or_eq_of_le hle with hlt | heq
  · calc units b < 2 ^ 52 * 2 ^ (b / 2 ^ 52) := units_lt_pow hb
      _ ≤ 2 ^ 52 * 2 ^ (c / 2 ^ 52 - 1) :=
        Nat.mul_le_mul_left _ (Nat.pow_le_pow_right (by decide) (by omega))
      _ ≤ units c := pow_le_units hc (by omega)
  · rw [units_eq hb, units_eq hc, heq]
    split
    · omega
    · exact Nat.mul_lt_mul_of_pos_right (by omega) (Nat.two_pow_pos _)

theorem units_lt_iff {b c : Nat} (hb : b < 2 ^ 63) (hc : c < 2 ^ 63) :
    units b < units c ↔ b < c := by
  refine ⟨fun h => Nat.lt_of_not_le fun hle => ?_, fun h => units_lt h hc⟩
  rcases Nat.lt_or_eq_of_le hle with hlt | rfl
  · exact Nat.lt_asymm h (units_lt hlt hb)
  · exact Nat.lt_irrefl _ h

/-- The units that the number one has. -/
def unitsOfOne : Nat := 2 ^ 1074

theorem unitsOfOne_pos : 0 < unitsOfOne := pow_pos Nat.two_pos 1074

/-- The units of a power of two. -/
theorem units_pow {d : Nat} (hd : 0 < d) (h : d < 2048) : units (d * 2 ^ 52) = 2 ^ (51 + d) := by
  have hexponent : 52 + (d - 1) = 51 + d := by omega
  rw [units_eq (by omega), Nat.mul_div_cancel _ (by decide), Nat.mul_mod_left,
    if_neg (Nat.ne_of_gt hd), Nat.zero_add, ← Nat.pow_add, hexponent]

theorem units_one : units (1023 * 2 ^ 52) = unitsOfOne := by
  rw [units_pow (by decide) (by decide), unitsOfOne]

/-- The whole number of a double is that of its units. -/
theorem div_units {b : Nat} (h : b / 2 ^ 52 % 2048 < 1075) :
    significandOf b / 2 ^ (-exponentOf b).toNat = units b / unitsOfOne := by
  have hexponent : exponentOf b < 0 ∧ -1074 ≤ exponentOf b := by
    unfold exponentOf
    split <;> omega
  have hone : unitsOfOne = 2 ^ (-exponentOf b).toNat * 2 ^ (exponentOf b + 1074).toNat := by
    rw [unitsOfOne, ← Nat.pow_add]
    congr 1
    omega
  rw [units, hone, Nat.mul_div_mul_right _ _ (Nat.two_pow_pos _)]

/-- Without the bits behind the point the exponent is the same, and the units are those of the
    whole number. -/
theorem units_cut {b d k : Nat} (hs : b < 2 ^ 63) (hd : b / 2 ^ 52 = d) (hlarge : 1023 ≤ d)
    (hk : d + k = 1075) (hkpos : 0 < k) :
    b / 2 ^ k * 2 ^ k / 2 ^ 52 = d ∧
      units (b / 2 ^ k * 2 ^ k) = units b / unitsOfOne * unitsOfOne := by
  have hpow : 2 ^ 52 = 2 ^ k * 2 ^ (52 - k) := by
    rw [← Nat.pow_add]
    congr 1
    omega
  have hone : unitsOfOne = 2 ^ k * 2 ^ (d - 1) := by
    rw [unitsOfOne, ← Nat.pow_add]
    congr 1
    omega
  have hf : b % 2 ^ 52 < 2 ^ 52 := Nat.mod_lt _ (by decide)
  have hsplit : ∀ m : Nat, (m * 2 ^ 52 + b % 2 ^ 52) / 2 ^ k * 2 ^ k =
      m * 2 ^ 52 + b % 2 ^ 52 / 2 ^ k * 2 ^ k := by
    intro m
    have hm : m * 2 ^ 52 = 2 ^ k * (2 ^ (52 - k) * m) := by
      rw [hpow, Nat.mul_comm m, Nat.mul_assoc]
    rw [hm, Nat.mul_add_div (Nat.two_pow_pos k), Nat.add_mul, Nat.mul_comm (_ * m)]
  have hcut := hsplit d
  have hfraction : b % 2 ^ 52 / 2 ^ k * 2 ^ k ≤ b % 2 ^ 52 := Nat.div_mul_le_self _ _
  have hb : d * 2 ^ 52 + b % 2 ^ 52 = b := by omega
  rw [hb] at hcut
  have hfield : b / 2 ^ k * 2 ^ k / 2 ^ 52 = d := by omega
  have hrest : b / 2 ^ k * 2 ^ k % 2 ^ 52 = b % 2 ^ 52 / 2 ^ k * 2 ^ k := by omega
  refine ⟨hfield, ?_⟩
  rw [units_eq (Nat.lt_of_le_of_lt (Nat.div_mul_le_self _ _) hs), units_eq hs, hfield, hrest, hd,
    if_neg (by omega), if_neg (by omega), hone, Nat.mul_div_mul_right _ _ (Nat.two_pow_pos _),
    ← Nat.mul_assoc]
  have hwhole := hsplit 1
  rw [Nat.one_mul, Nat.add_comm, Nat.add_comm (2 ^ 52)] at hwhole
  rw [hwhole]

/-! ## Rounding down -/

theorem toBits_zero : (0.0 : Float).toBits.toNat = 0 := rfl

theorem toBits_minusOne : (-1.0 : Float).toBits.toNat = 3071 * 2 ^ 52 := rfl

section
variable {x : Float}

/-- The bits behind the point are cut off a double that is not below zero and has such bits. -/
theorem floor_nonneg (h : exponentField x < 1075) (hs : x.toBits.toNat < 2 ^ 63) :
    (floor x).toBits.toNat < 2 ^ 63 ∧ exponentField (floor x) < 1075 ∧
      units (floor x).toBits.toNat = units x.toBits.toNat / unitsOfOne * unitsOfOne := by
  have hnegative : isNegative x = false := isNegative_eq_false_iff.mpr hs
  have hfield : exponentField x = x.toBits.toNat / 2 ^ 52 := by
    show x.toBits.toNat / 2 ^ 52 % 2048 = _
    omega
  rw [floor, hnegative]
  simp only [if_neg (Nat.not_le.mpr h), Bool.not_false, if_true, Bool.false_eq_true, if_false,
    Nat.add_zero, Nat.pow_eq]
  rw [hfield] at h ⊢
  generalize x.toBits.toNat = b at hs h ⊢
  split
  · next hsmall =>
    have hunits : units b < units (1023 * 2 ^ 52) := units_lt (by omega) (by decide)
    rw [units_one] at hunits
    rw [exponentField, toBits_zero, Nat.div_eq_of_lt hunits, Nat.zero_mul]
    exact ⟨by decide, by decide, Nat.zero_mul _⟩
  · next hlarge =>
    obtain ⟨hd, hunits⟩ := units_cut hs rfl (Nat.not_lt.mp hlarge)
      (Nat.add_sub_of_le (Nat.le_of_lt h)) (by omega)
    have hle := Nat.div_mul_le_self b (2 ^ (1075 - b / 2 ^ 52))
    have hbits := toBits_ofBits (b := b / 2 ^ (1075 - b / 2 ^ 52) * 2 ^ (1075 - b / 2 ^ 52))
      (by omega) (by omega)
    refine ⟨?_, ?_, ?_⟩
    · rw [hbits]
      omega
    · rw [exponentField, hbits, Nat.pow_eq]
      omega
    · rw [hbits, hunits]

/-- What is below zero stays below zero. -/
theorem floor_negative (h : exponentField x ≠ 2047) (hs : 2 ^ 63 ≤ x.toBits.toNat) :
    exponentField (floor x) ≠ 2047 ∧ 2 ^ 63 ≤ (floor x).toBits.toNat := by
  have hnegative : isNegative x = true := isNegative_iff.mpr hs
  have hlt := x.toBits.toNat_lt
  have hfield : exponentField x = x.toBits.toNat / 2 ^ 52 % 2048 := rfl
  rw [floor, hnegative]
  simp only [Bool.not_true, Bool.false_eq_true, if_false, if_true, Nat.pow_eq]
  split
  · exact ⟨h, hs⟩
  · split
    · split
      · exact ⟨h, hs⟩
      · rw [exponentField, toBits_minusOne]
        exact ⟨by decide, by decide⟩
    · next hsmall hlarge =>
      -- The carry reaches the next exponent at most.
      have hunit : 2 ^ (1075 - exponentField x) ≤ 2 ^ 52 :=
        Nat.pow_le_pow_right (by decide) (by omega)
      have hpos : 0 < 2 ^ (1075 - exponentField x) := Nat.two_pow_pos _
      generalize 2 ^ (1075 - exponentField x) = u at hunit hpos ⊢
      have hup := Nat.lt_div_mul_add hpos (a := x.toBits.toNat + (u - 1))
      have hdown := Nat.div_mul_le_self (x.toBits.toNat + (u - 1)) u
      generalize (x.toBits.toNat + (u - 1)) / u * u = b at hup hdown ⊢
      have hbits := toBits_ofBits (b := b) (by omega) (by omega)
      refine ⟨?_, ?_⟩
      · rw [exponentField, hbits, Nat.pow_eq]
        omega
      · rw [hbits]
        omega

/-- What is rounded down stays finite, and only that is. -/
theorem floor_isFinite : (floor x).isFinite = x.isFinite := by
  rw [Bool.eq_iff_iff, isFinite_iff, isFinite_iff]
  by_cases h : 1075 ≤ exponentField x
  · rw [floor, if_pos h]
  · refine iff_of_true ?_ (by omega)
    rcases Nat.lt_or_ge x.toBits.toNat (2 ^ 63) with hs | hs
    · have := (floor_nonneg (by omega) hs).2.1
      omega
    · exact (floor_negative (by omega) hs).1

/-! ## As an integer -/

theorem mantissa_shiftRight (em : ExtendedMantissa) (k : Nat) :
    (em >>> k).mantissa = em.mantissa / 2 ^ k := by
  induction k with
  | zero => exact (Nat.div_one _).symm
  | succ k ih =>
    have hstep : (em >>> (k + 1)).mantissa = (em >>> k).mantissa / 2 := rfl
    rw [hstep, ih, Nat.div_div_eq_div_mul, Nat.pow_succ]

theorem significandOf_lt (b : Nat) : significandOf b < 2 ^ 53 := by
  unfold significandOf
  split <;> omega

/-- The whole number of a double, the bits behind its point cut off. -/
theorem toUInt64_eq (h : exponentField x < 1075) (hs : x.toBits.toNat < 2 ^ 63) :
    x.toUInt64.toNat =
      significandOf x.toBits.toNat / 2 ^ (-exponentOf x.toBits.toNat).toNat := by
  have hexponent : exponentOf x.toBits.toNat < 0 := by
    have hfield : x.toBits.toNat / 2 ^ 52 % 2048 < 1075 := h
    unfold exponentOf
    split <;> omega
  have hsignificand := significandOf_lt x.toBits.toNat
  show (UnpackedFloat.toUInt64 x.toModel.unpack).toNat = _
  rw [unpack_eq (by omega), signOf, if_neg (Nat.not_le.mpr hs)]
  generalize significandOf x.toBits.toNat = m at hsignificand ⊢
  generalize exponentOf x.toBits.toNat = e at hexponent ⊢
  split
  · next hm =>
    have hround : UnpackedFloat.toInt 0 (UInt64.size - 1) (.finite .positive m e hm) =
        (m / 2 ^ (-e).toNat : Nat) := by
      have hleft : (e - 0).toNat = 0 := by omega
      have hright : (0 - (e - (0 : Nat))).toNat = (-e).toNat := by omega
      show roundToInt .positive m e = _
      unfold roundToInt decreaseExponent shiftToExponent
      simp only [hleft, hright, mantissa_shiftRight, Nat.shiftLeft_zero]
      rfl
    have hlt : m / 2 ^ (-e).toNat < UInt64.size :=
      Nat.lt_of_le_of_lt (Nat.div_le_self _ _) (Nat.lt_trans hsignificand (by decide))
    rw [UnpackedFloat.toUInt64, hround, Int.toNat_natCast, UInt64.ofNatClamp, dif_pos hlt]
    rfl
  · next hm =>
    have hzero : m = 0 := by omega
    rw [hzero, Nat.zero_div]
    rfl

theorem toUInt64_negative (h : exponentField x ≠ 2047) (hs : 2 ^ 63 ≤ x.toBits.toNat) :
    x.toUInt64.toNat = 0 := by
  show (UnpackedFloat.toUInt64 x.toModel.unpack).toNat = 0
  rw [unpack_eq h, signOf, if_pos hs]
  split
  · next hm =>
    rw [UnpackedFloat.toUInt64]
    have hround : ∀ m e, (roundToInt .negative m e).toNat = 0 := by
      intro m e
      unfold roundToInt
      show (-(_ : Nat) : Int).toNat = 0
      omega
    show (UInt64.ofNatClamp (roundToInt .negative _ _).toNat).toNat = 0
    rw [hround]
    rfl
  · rfl

end

/-! ## The first whole numbers -/

section
variable {m : Nat}

theorem log2_of_full (h : 2 ^ 52 ≤ m) (h' : m < 2 ^ 53) : m.log2 = 52 := by
  have hlow := (Nat.le_log2 (k := 52) (show m ≠ 0 by omega)).mpr h
  have hhigh := (Nat.log2_lt (k := 53) (show m ≠ 0 by omega)).mpr h'
  omega

theorem targetExponent_eq (t : Int) :
    Format.binary64.targetExponent t = max (t - 53) (-1074) := rfl

/-- A significand of full length is not rounded. -/
theorem roundWithAccuracy_eq {e : Int} (hm : 2 ^ 52 ≤ m) (hm' : m < 2 ^ 53) (he : -1074 ≤ e)
    (s : Sign) :
    roundWithAccuracy Format.binary64 s m e .exact = .finite s m e (by omega) := by
  have hlog := log2_of_full hm hm'
  have hshift : shiftToTargetExponent Format.binary64 m e .exact = (⟨m, false, false⟩, e) := by
    have hnone : (Format.binary64.targetExponent (totalExponent m e) - e).toNat = 0 := by
      rw [targetExponent_eq, totalExponent, hlog]
      omega
    unfold shiftToTargetExponent shiftToExponent
    simp only [hnone]
    exact congrArg (_, ·) (Int.add_zero e)
  have hround : ExtendedMantissa.roundedMantissa ⟨m, false, false⟩ = m := rfl
  unfold roundWithAccuracy
  simp only [hshift, hround]
  rw [dif_neg (by omega)]

/-- The fields of a positive double whose significand has full length. -/
theorem toNat_pack {e : Int} (hm : 2 ^ 52 ≤ m) (hm' : m < 2 ^ 53) (he : -1074 ≤ e)
    (he' : e < 972) (hpos : 0 < m) :
    (UnpackedFloat.pack Format.binary64 (.finite .positive m e hpos)).toNat =
      (e + 1075).toNat * 2 ^ 52 + (m - 2 ^ 52) := by
  have hbias : (Format.binary64.exponentBias : Int) = 1023 := rfl
  have hlog := log2_of_full hm hm'
  unfold UnpackedFloat.pack
  simp only [hbias, hlog]
  rw [if_neg (by show ¬2048 ≤ _; omega), if_pos (by rfl), toNat_packComponents]
  simp only [BitVec.toNat_ofNat]
  show 0 * 2 ^ 63 + _ + _ = _
  omega

end

section
variable {n : Nat}

/-- Moved to full length, a number is a significand. -/
theorem full_significand (hn : 0 < n) (h : n < 2 ^ 53) :
    2 ^ 52 ≤ n * 2 ^ (52 - n.log2) ∧ n * 2 ^ (52 - n.log2) < 2 ^ 53 := by
  have hlog : n.log2 < 53 := (Nat.log2_lt (by omega)).mpr h
  have hlow := Nat.mul_le_mul_right (2 ^ (52 - n.log2)) (Nat.log2_self_le (n := n) (by omega))
  have hhigh := Nat.mul_lt_mul_of_pos_right (Nat.lt_log2_self (n := n))
    (Nat.two_pow_pos (52 - n.log2))
  rw [← Nat.pow_add] at hlow hhigh
  have hsum : n.log2 + (52 - n.log2) = 52 := by omega
  have hsum' : n.log2 + 1 + (52 - n.log2) = 53 := by omega
  rw [hsum] at hlow
  rw [hsum'] at hhigh
  exact ⟨hlow, hhigh⟩

theorem ofInt_eq (hn : 0 < n) (h : n < 2 ^ 53) : UnpackedFloat.ofInt Format.binary64 n =
    .finite .positive (n * 2 ^ (52 - n.log2)) ((n.log2 : Int) - 52)
      (Nat.mul_pos hn (Nat.two_pow_pos _)) := by
  obtain ⟨hlow, hhigh⟩ := full_significand hn h
  have hlog : n.log2 < 53 := (Nat.log2_lt (by omega)).mpr h
  have hexponent : Format.binary64.targetExponent (totalExponent n 0) = (n.log2 : Int) - 52 := by
    rw [targetExponent_eq, totalExponent]
    omega
  have hshift : (0 - ((n.log2 : Int) - 52)).toNat = 52 - n.log2 := by omega
  have hback : (0 : Int) - (52 - n.log2 : Nat) = (n.log2 : Int) - 52 := by omega
  unfold UnpackedFloat.ofInt UnpackedFloat.normalize
  rw [Int.compare_eq_gt.mpr (Int.natCast_pos.mpr hn)]
  show UnpackedFloat.round Format.binary64 .positive n 0 = _
  unfold UnpackedFloat.round decreaseExponent
  simp only [hexponent, hshift, hback, Nat.shiftLeft_eq]
  exact roundWithAccuracy_eq hlow hhigh (by omega) _

/-- The bits of a whole number: its length, and its digits behind the first. -/
theorem toBits_ofCount (hn : 0 < n) (h : n < 2 ^ 53) : (ofCount n).toBits.toNat =
    (1023 + n.log2) * 2 ^ 52 + (n * 2 ^ (52 - n.log2) - 2 ^ 52) := by
  obtain ⟨hlow, hhigh⟩ := full_significand hn h
  have hlog : n.log2 < 53 := (Nat.log2_lt (by omega)).mpr h
  have hnat : n.toUInt64.toNat = n := by
    rw [Nat.toUInt64, UInt64.toNat_ofNat', Nat.mod_eq_of_lt (by omega)]
  have hfield : ((n.log2 : Int) - 52 + 1075).toNat = 1023 + n.log2 := by omega
  show (UnpackedFloat.pack Format.binary64 (UnpackedFloat.ofInt Format.binary64
    n.toUInt64.toNat)).toNat = _
  rw [hnat, ofInt_eq hn h, toNat_pack hlow hhigh (by omega) (by omega), hfield]

/-- A number has as many ones as it says. -/
theorem ofCount_units (h : n < 2 ^ 53) : (ofCount n).toBits.toNat < 2 ^ 63 ∧
    exponentField (ofCount n) ≠ 2047 ∧ units (ofCount n).toBits.toNat = n * unitsOfOne := by
  rcases Nat.eq_zero_or_pos n with rfl | hn
  · have hbits : (ofCount 0).toBits.toNat = 0 := rfl
    rw [exponentField, hbits]
    exact ⟨by decide, by decide, (Nat.zero_mul _).trans (Nat.zero_mul _).symm⟩
  · obtain ⟨hlow, hhigh⟩ := full_significand hn h
    have hlog : n.log2 < 53 := (Nat.log2_lt (by omega)).mpr h
    have hone : unitsOfOne = 2 ^ (52 - n.log2) * 2 ^ (1022 + n.log2) := by
      rw [unitsOfOne, ← Nat.pow_add]
      congr 1
      omega
    rw [exponentField, toBits_ofCount hn h, Nat.pow_eq, hone, ← Nat.mul_assoc]
    generalize n * 2 ^ (52 - n.log2) = m at hlow hhigh ⊢
    have hsmall : (1023 + n.log2) * 2 ^ 52 + (m - 2 ^ 52) < 2 ^ 63 := by omega
    have hfield : ((1023 + n.log2) * 2 ^ 52 + (m - 2 ^ 52)) / 2 ^ 52 = 1022 + n.log2 + 1 := by
      omega
    have hfraction : ((1023 + n.log2) * 2 ^ 52 + (m - 2 ^ 52)) % 2 ^ 52 + 2 ^ 52 = m := by omega
    refine ⟨hsmall, by omega, ?_⟩
    rw [units_eq hsmall, hfield, hfraction, if_neg (by omega), Nat.add_sub_cancel]

end

/-! ## The place of a double among them -/

section
variable {x y : Float} {n : Nat}

theorem lt_iff_units (hx : exponentField x ≠ 2047) (hy : exponentField y ≠ 2047)
    (hxs : x.toBits.toNat < 2 ^ 63) (hys : y.toBits.toNat < 2 ^ 63) :
    x < y ↔ units x.toBits.toNat < units y.toBits.toNat := by
  rw [lt_iff, compare_eq hx hy hxs hys, Option.some_inj, Nat.compare_eq_lt, units_lt_iff hxs hys]

theorem le_iff_units (hx : exponentField x ≠ 2047) (hy : exponentField y ≠ 2047)
    (hxs : x.toBits.toNat < 2 ^ 63) (hys : y.toBits.toNat < 2 ^ 63) :
    x ≤ y ↔ units x.toBits.toNat ≤ units y.toBits.toNat := by
  rw [le_iff, compare_eq hx hy hxs hys, Option.some_inj, Option.some_inj, Nat.compare_eq_lt,
    Nat.compare_eq_eq, ← Nat.le_iff_lt_or_eq, ← Nat.not_lt, ← Nat.not_lt, units_lt_iff hys hxs]

theorem lt_ofCount_iff (hx : exponentField x ≠ 2047) (hs : x.toBits.toNat < 2 ^ 63)
    (h : n < 2 ^ 53) : x < ofCount n ↔ units x.toBits.toNat < n * unitsOfOne := by
  obtain ⟨hns, hnfield, hunits⟩ := ofCount_units h
  rw [lt_iff_units hx hnfield hs hns, hunits]

theorem ofCount_le_iff (hx : exponentField x ≠ 2047) (hs : x.toBits.toNat < 2 ^ 63)
    (h : n < 2 ^ 53) : ofCount n ≤ x ↔ n * unitsOfOne ≤ units x.toBits.toNat := by
  obtain ⟨hns, hnfield, hunits⟩ := ofCount_units h
  rw [le_iff_units hnfield hx hns hs, hunits]

theorem toBits_ofCount_pos (hn : 0 < n) (h : n < 2 ^ 53) : 0 < (ofCount n).toBits.toNat := by
  rw [toBits_ofCount hn h]
  omega

/-- A double below zero is below the whole numbers from one on. -/
theorem compare_ofCount (hx : exponentField x ≠ 2047) (hs : 2 ^ 63 ≤ x.toBits.toNat)
    (hn : 0 < n) (h : n < 2 ^ 53) : x < ofCount n ∧ ¬ofCount n ≤ x := by
  obtain ⟨hns, hnfield, -⟩ := ofCount_units h
  obtain ⟨hbelow, habove⟩ := compare_negative hx hnfield hs hns (toBits_ofCount_pos hn h)
  refine ⟨lt_iff.mpr hbelow, fun hle => ?_⟩
  rw [le_iff, habove] at hle
  simp at hle

/-- The whole numbers that are not above a double, counted by rounding it down and cut off at
    `n`. The count starts with zero in any case. -/
theorem lt_count_iff (h : x.isFinite = true) (hn : 0 < n) (hsmall : n ≤ 2 ^ 52) (i : Nat) :
    i < (if floor x < ofCount n then (floor x).toUInt64.toNat + 1 else n) ↔
      i = 0 ∨ i < n ∧ ofCount i ≤ x := by
  rw [isFinite_iff] at h
  rcases Nat.lt_or_ge x.toBits.toNat (2 ^ 63) with hs | hs
  · have hle : i < n → (ofCount i ≤ x ↔ i * unitsOfOne ≤ units x.toBits.toNat) :=
      fun hi => ofCount_le_iff h hs (by omega)
    rcases Nat.lt_or_ge (exponentField x) 1075 with hfield | hfield
    · obtain ⟨hfs, hffield, hfunits⟩ := floor_nonneg hfield hs
      have hbelow : floor x < ofCount n ↔ units x.toBits.toNat / unitsOfOne < n := by
        rw [lt_ofCount_iff (by omega) hfs (by omega), hfunits, Nat.mul_lt_mul_right unitsOfOne_pos]
      rw [toUInt64_eq hffield hfs, div_units hffield, hfunits, Nat.mul_div_cancel _ unitsOfOne_pos]
      rw [← Nat.le_div_iff_mul_le unitsOfOne_pos] at hle
      simp only [hbelow]
      generalize units x.toBits.toNat / unitsOfOne = k at hle ⊢
      by_cases hi : i < n
      · rw [hle hi]
        split <;> omega
      · split <;> omega
    · -- From `2 ^ 52` on there is nothing to cut off, and no number is above `x`.
      have hlarge : 2 ^ 52 * unitsOfOne ≤ units x.toBits.toNat := by
        have hunits : units (1075 * 2 ^ 52) = 2 ^ 52 * unitsOfOne := by
          rw [units_pow (by decide) (by decide), unitsOfOne, ← Nat.pow_add]
        rw [← hunits, ← Nat.not_lt, units_lt_iff hs (by decide)]
        rw [exponentField, Nat.pow_eq] at hfield
        omega
      have hfar : n * unitsOfOne ≤ units x.toBits.toNat :=
        Nat.le_trans (Nat.mul_le_mul_right _ hsmall) hlarge
      rw [floor, if_pos hfield, if_neg (by rw [lt_ofCount_iff h hs (by omega)]; omega)]
      by_cases hi : i < n
      · have hbelow : i * unitsOfOne ≤ n * unitsOfOne := Nat.mul_le_mul_right _ (Nat.le_of_lt hi)
        exact iff_of_true hi (.inr ⟨hi, (hle hi).mpr (Nat.le_trans hbelow hfar)⟩)
      · exact iff_of_false hi (by omega)
  · obtain ⟨hffield, hfs⟩ := floor_negative h hs
    rw [if_pos (compare_ofCount hffield hfs hn (by omega)).1, toUInt64_negative hffield hfs,
      Nat.lt_one_iff]
    refine (or_iff_left_of_imp ?_).symm
    rintro ⟨hi, hle⟩
    rcases Nat.eq_zero_or_pos i with hzero | hpos
    · exact hzero
    · exact absurd hle (compare_ofCount h hs hpos (by omega)).2

end

end ControlSurface.Decimal
