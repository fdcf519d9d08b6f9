import Mathlib
import Stencil.Number.Binary

/-!
# The exact value of a double

A finite double is a rational number. This module gives it that value from both of the
sides a proof meets: from the fields `Double.ofBits` reads (`Double.value?`), and from the
unpacked form that the float operations compute with (`unpackedValue`). The two agree
on every bit pattern (`value?_ofBits`), so `exactValue?` serves for both.

On the side of the operations, an integer converts to a double exactly when its
magnitude has a mantissa of at most 53 bits times a power of two up to `2^971`
(`Representable`, which every magnitude up to `2^53` is). The conversion has two paths,
a multiplication for naturals below `2^53` and a rounding of the whole number above;
both reduce to one fact, that rounding a 53-bit mantissa with zero bits below it drops
only the zero bits (`roundWithAccuracy_exact`), and that the result reads back through
packing unchanged (`Normal.unpack_pack`).
-/

namespace Stencil.Number
open Float.Model Float.Model.UnpackedFloat

/-- The value of a finite non-negative double's fields. -/
def Binary.value (b : Binary) : ℚ := b.mantissa * 2 ^ b.exponent

/-- The value of a double read from its bits; none for a NaN or an infinity. -/
def Double.value? : Double → Option ℚ
  | .finite negative b => some (if negative then -b.value else b.value)
  | _ => none

/-- The value of an unpacked double; none for a NaN or an infinity. -/
def unpackedValue : UnpackedFloat → Option ℚ
  | .finite s m e _ => some ((s.apply m : ℚ) * 2 ^ e)
  | .zero _ => some 0
  | .infinity _ | .notANumber => none

/-! ## The fields of a bit pattern -/

theorem unpackExponent_toNat (b : UInt64) :
    (@unpackExponent .binary64 b.toBitVec).toNat = ((b >>> 52) &&& 0x7FF).toNat := by
  simp only [unpackExponent, BitVec.toNat_cast, BitVec.extractLsb_toNat, UInt64.toNat_and,
    UInt64.toNat_shiftRight]
  show b.toNat >>> 52 % 2 ^ 11 = b.toNat >>> 52 &&& 2 ^ 11 - 1
  rw [Nat.and_two_pow_sub_one_eq_mod]

theorem unpackMantissa_toNat (b : UInt64) :
    (@unpackMantissa .binary64 b.toBitVec).toNat = (b &&& 0xFFFFFFFFFFFFF).toNat := by
  simp only [unpackMantissa, BitVec.toNat_cast, BitVec.extractLsb_toNat, UInt64.toNat_and]
  show b.toNat >>> 0 % 2 ^ 52 = b.toNat &&& 2 ^ 52 - 1
  rw [Nat.and_two_pow_sub_one_eq_mod, Nat.shiftRight_zero]

theorem ofBitVec_unpackSign (b : UInt64) :
    Sign.ofBitVec (@unpackSign .binary64 b.toBitVec) =
      if b >>> 63 = 1 then .negative else .positive := by
  have top : (b >>> 63).toNat = b.toNat / 2 ^ 63 := by
    rw [UInt64.toNat_shiftRight, Nat.shiftRight_eq_div_pow]
    rfl
  have key : (@unpackSign .binary64 b.toBitVec).toNat = b.toNat / 2 ^ 63 := by
    simp only [unpackSign, BitVec.toNat_cast, BitVec.extractLsb_toNat]
    show b.toNat >>> 63 % 2 ^ 1 = _
    have := b.toNat_lt
    rw [Nat.shiftRight_eq_div_pow]
    omega
  have hb := b.toNat_lt
  unfold Sign.ofBitVec
  by_cases h : b >>> 63 = 1
  · have one : b.toNat / 2 ^ 63 = 1 := by rw [← top, h]; rfl
    rw [if_pos h, if_neg]
    intro h0
    have := congrArg BitVec.toNat h0
    rw [key, one] at this
    exact absurd this (by decide)
  · have zero : b.toNat / 2 ^ 63 = 0 := by
      have : (b >>> 63).toNat ≠ 1 := fun h1 => h (UInt64.toNat_inj.mp h1)
      omega
    rw [if_neg h, if_pos]
    exact BitVec.eq_of_toNat_eq (by rw [key, zero]; rfl)

/-- The fields of a finite double: a mantissa below `2^53` at an exponent from `-1074`
to `971`. -/
theorem ofBits_finite_fields {b : UInt64} {negative : Bool} {c : Binary}
    (h : Double.ofBits b = .finite negative c) :
    c.mantissa < 2 ^ 53 ∧ -1074 ≤ c.exponent ∧ c.exponent ≤ 971 := by
  have elt : ((b >>> 52) &&& 0x7FF).toNat < 2048 := by
    rw [UInt64.toNat_and]
    exact lt_of_le_of_lt Nat.and_le_right (by decide)
  have flt : (b &&& 0xFFFFFFFFFFFFF).toNat < 2 ^ 52 := by
    rw [UInt64.toNat_and]
    exact lt_of_le_of_lt Nat.and_le_right (by decide)
  unfold Double.ofBits at h
  dsimp only at h
  split at h
  · split at h <;> cases h
  · cases h
    have lead : Nat.pow 2 52 = 2 ^ 52 := rfl
    unfold Binary.ofFields
    split <;> refine ⟨?_, ?_, ?_⟩ <;> dsimp only <;> omega

/-- Both readings of a bit pattern give one value. -/
theorem value?_ofBits (b : UInt64) :
    (Double.ofBits b).value? = unpackedValue (UnpackedFloat.unpack .binary64 b.toBitVec) := by
  have he := unpackExponent_toNat b
  have hm := unpackMantissa_toNat b
  have mlt : (b &&& 0xFFFFFFFFFFFFF).toNat < 2 ^ 52 := by
    rw [← hm]; exact (@unpackMantissa .binary64 b.toBitVec).isLt
  have bias : (Format.binary64.exponentBias : Int) = 1023 := rfl
  unfold Double.ofBits UnpackedFloat.unpack
  dsimp only
  rw [ofBitVec_unpackSign]
  by_cases hinf : (b >>> 52 &&& 2047).toNat = 2047
  · have top : @unpackExponent .binary64 b.toBitVec = -1#11 :=
      BitVec.eq_of_toNat_eq (by rw [he, hinf]; rfl)
    rw [if_pos hinf, if_pos top]
    by_cases hz : (b &&& 4503599627370495).toNat = 0
    · have : @unpackMantissa .binary64 b.toBitVec = 0#52 :=
        BitVec.eq_of_toNat_eq (by rw [hm, hz]; rfl)
      rw [if_pos hz, if_pos this]
      rfl
    · have : @unpackMantissa .binary64 b.toBitVec ≠ 0#52 := fun h =>
        hz (by rw [← hm, h]; rfl)
      rw [if_neg hz, if_neg this]
      rfl
  · have top : @unpackExponent .binary64 b.toBitVec ≠ -1#11 := fun h =>
      hinf (by rw [← he, h]; rfl)
    rw [if_neg hinf, if_neg top]
    by_cases hsub : (b >>> 52 &&& 2047).toNat = 0
    · have low : @unpackExponent .binary64 b.toBitVec = 0#11 :=
        BitVec.eq_of_toNat_eq (by rw [he, hsub]; rfl)
      rw [if_pos low]
      by_cases hz : (b &&& 4503599627370495).toNat = 0
      · have : @unpackMantissa .binary64 b.toBitVec = 0#52 :=
          BitVec.eq_of_toNat_eq (by rw [hm, hz]; rfl)
        rw [dif_pos this]
        simp [Double.value?, unpackedValue, Binary.ofFields, Binary.value, hsub, hz]
      · have : @unpackMantissa .binary64 b.toBitVec ≠ 0#52 := fun h =>
          hz (by rw [← hm, h]; rfl)
        rw [dif_neg this]
        simp only [Double.value?, unpackedValue, Binary.ofFields, Binary.value, hsub, hm, he,
          if_true, bias]
        generalize (b &&& 4503599627370495).toNat = f
        by_cases hs : b >>> 63 = 1 <;> simp [hs, Sign.apply]
    · have low : @unpackExponent .binary64 b.toBitVec ≠ 0#11 := fun h =>
        hsub (by rw [← he, h]; rfl)
      rw [if_neg low]
      have lead : (1#1 ++ @unpackMantissa .binary64 b.toBitVec).toNat =
          2 ^ 52 + (b &&& 4503599627370495).toNat := by
        rw [BitVec.toNat_append, ← hm, ← Nat.shiftLeft_add_eq_or_of_lt
          (@unpackMantissa .binary64 b.toBitVec).isLt]
        rfl
      simp only [Double.value?, unpackedValue, Binary.ofFields, Binary.value, hsub, he, lead,
        if_false, bias]
      generalize (b &&& 4503599627370495).toNat = f
      generalize (b >>> 52 &&& 2047).toNat = e
      by_cases hs : b >>> 63 = 1
      · simp [hs, Sign.apply]
        ring
      · simp [hs, Sign.apply]

/-! ## Doubles that read back through packing -/

/-- An unpacked double in normal form: zero, or a mantissa of 53 bits at an exponent of
the normal range. -/
inductive Normal : UnpackedFloat → Prop
  | zero (s : Sign) : Normal (.zero s)
  | finite (s : Sign) (m : Nat) (e : Int) (h : 0 < m) (lo : 2 ^ 52 ≤ m) (hi : m < 2 ^ 53)
      (elo : -1074 ≤ e) (ehi : e ≤ 971) : Normal (.finite s m e h)

theorem unpackSign_packComponents (s : Sign) (ev : BitVec 11) (mv : BitVec 52) :
    Sign.ofBitVec (unpackSign (packComponents .binary64 s ev mv)) = s := by
  simp only [unpackSign, packComponents, BitVec.extractLsb]
  rw [BitVec.extractLsb'_append_eq_of_le (by omega), BitVec.extractLsb'_append_eq_of_le (by omega)]
  cases s <;> rfl

theorem Normal.unpack_pack {u : UnpackedFloat} (h : Normal u) : (Float.Model.pack u).unpack = u := by
  cases h with
  | zero s => cases s <;> rfl
  | finite s m e hm lo hi elo ehi =>
    have hlog : m.log2 = 52 := (Nat.log2_eq_iff (by omega)).mpr ⟨lo, hi⟩
    have hbiased : (e + Format.binary64.exponentBias + Format.binary64.mantissaBitsWithoutImplicit).toNat =
        (e + 1075).toNat := by
      show (e + (1023 : Nat) + (52 : Nat)).toNat = _
      omega
    have hexp : (BitVec.ofNat 11 (e + 1075).toNat).toNat = (e + 1075).toNat := by
      rw [BitVec.toNat_ofNat]
      omega
    have hmant : (1#1 ++ BitVec.ofNat 52 m).toNat = m := by
      rw [BitVec.toNat_append, ← Nat.shiftLeft_add_eq_or_of_lt (BitVec.ofNat 52 m).isLt,
        Nat.shiftLeft_eq]
      simp only [BitVec.toNat_ofNat]
      omega
    show UnpackedFloat.unpack .binary64 (UnpackedFloat.pack .binary64 (.finite s m e hm)) = _
    rw [UnpackedFloat.pack]
    simp only [hlog, hbiased]
    rw [if_neg (by omega), if_pos (show 52 + 1 = Format.binary64.mantissaBits from rfl),
      UnpackedFloat.unpack]
    simp only [unpackMantissa_packComponents, unpackExponent_packComponents,
      unpackSign_packComponents]
    rw [if_neg (fun h => by have := congrArg BitVec.toNat h; rw [hexp] at this; simp at this; omega),
      if_neg (fun h => by have := congrArg BitVec.toNat h; rw [hexp] at this; simp at this; omega)]
    have bias : ((Format.binary64.exponentBias : Nat) : Int) = 1023 := rfl
    simp only [hmant, hexp, bias]
    congr 1
    omega

/-! ## Rounding that drops only zero bits -/

/-- Shifting a mantissa with `k` zero bits at the bottom right by `k` places loses
nothing: the round and sticky bits stay clear. -/
theorem shiftRight_exact (M k : Nat) :
    (⟨M * 2 ^ k, false, false⟩ : ExtendedMantissa) >>> k = ⟨M, false, false⟩ := by
  induction k generalizing M with
  | zero => simp [HShiftRight.hShiftRight, Nat.repeat]
  | succ k ih =>
    have step : (⟨M * 2 ^ (k + 1), false, false⟩ : ExtendedMantissa) >>> (k + 1) =
        ExtendedMantissa.shiftRightOne
          ((⟨M * 2 * 2 ^ k, false, false⟩ : ExtendedMantissa) >>> k) := by
      rw [Nat.pow_succ, Nat.mul_comm (2 ^ k) 2, ← Nat.mul_assoc]
      rfl
    rw [step, ih]
    simp [ExtendedMantissa.shiftRightOne]

/-- The exponent a 53-bit mantissa `M` lands at, from `M * 2^k` at `E - k`, is `E`. -/
theorem targetExponent_exact {M : Nat} (k : Nat) {E : Int} (lo : 2 ^ 52 ≤ M) (hi : M < 2 ^ 53)
    (hE : -1074 ≤ E) :
    Format.binary64.targetExponent (totalExponent (M * 2 ^ k) (E - k)) = E := by
  have hlog : (M * 2 ^ k).log2 = 52 + k := by
    apply (Nat.log2_eq_iff (by positivity)).mpr
    constructor
    · rw [Nat.pow_add]; exact Nat.mul_le_mul_right _ lo
    · rw [show 52 + k + 1 = 53 + k by omega, Nat.pow_add]
      exact Nat.mul_lt_mul_of_pos_right hi (by positivity)
  simp only [Format.targetExponent, totalExponent, hlog, Format.mantissaBits, Format.minExponent]
  push_cast
  omega

/-- The first stage of rounding, on `M * 2^k` at `E - k`, drops the `k` zero bits. -/
theorem shiftToTargetExponent_exact {M : Nat} (k : Nat) {E : Int} (lo : 2 ^ 52 ≤ M)
    (hi : M < 2 ^ 53) (hE : -1074 ≤ E) :
    shiftToTargetExponent .binary64 (M * 2 ^ k) (E - k) .exact = (⟨M, false, false⟩, E) := by
  rw [shiftToTargetExponent, targetExponent_exact k lo hi hE, shiftToExponent]
  simp only [ExtendedMantissa.ofMantissaAndAccuracy]
  rw [show (E - (E - k)).toNat = k by omega, shiftRight_exact]
  simp

/-- Rounding is exact on a value that a double holds: `M * 2^k` at exponent `E - k`, for a
53-bit `M` and `E` in the normal range, rounds to the mantissa `M` at `E`. -/
theorem roundWithAccuracy_exact (s : Sign) {M : Nat} (k : Nat) {E : Int} (lo : 2 ^ 52 ≤ M)
    (hi : M < 2 ^ 53) (hE : -1074 ≤ E) :
    roundWithAccuracy .binary64 s (M * 2 ^ k) (E - k) .exact =
      .finite s M E (by have := Nat.one_le_two_pow (n := 52); omega) := by
  -- the second stage sees the mantissa already in place: no shift at all
  have again := shiftToTargetExponent_exact 0 lo hi hE
  simp only [Nat.pow_zero, Nat.mul_one, Nat.cast_zero, sub_zero] at again
  rw [roundWithAccuracy, shiftToTargetExponent_exact k lo hi hE]
  simp only [ExtendedMantissa.roundedMantissa, ExtendedMantissa.accuracy,
    Accuracy.roundToNearestEven, again]
  rw [dif_neg (by omega)]

/-! ## Naturals -/

/-- A positive natural below `2^53`, shifted left until its top bit is bit 52, is a
53-bit mantissa. -/
theorem scaled_bounds {n : Nat} (h0 : 0 < n) (hn : n < 2 ^ 53) :
    2 ^ 52 ≤ n * 2 ^ (52 - n.log2) ∧ n * 2 ^ (52 - n.log2) < 2 ^ 53 := by
  have hlog : n.log2 < 53 := (Nat.log2_lt (by omega)).mpr hn
  constructor
  · calc 2 ^ 52 = 2 ^ n.log2 * 2 ^ (52 - n.log2) := by rw [← Nat.pow_add]; congr 1; omega
      _ ≤ n * 2 ^ (52 - n.log2) := Nat.mul_le_mul_right _ (Nat.log2_self_le (by omega))
  · calc n * 2 ^ (52 - n.log2) < 2 ^ (n.log2 + 1) * 2 ^ (52 - n.log2) :=
          Nat.mul_lt_mul_of_pos_right Nat.lt_log2_self (Nat.two_pow_pos _)
      _ = 2 ^ 53 := by rw [← Nat.pow_add]; congr 1; omega

/-- A natural number below `2^53` and above zero, normalized: shifted left until its
mantissa has 53 bits. -/
theorem normalize_small {n : Nat} (h0 : 0 < n) (hn : n < 2 ^ 53) (zs : Sign) :
    normalize .binary64 n 0 zs =
      .finite .positive (n * 2 ^ (52 - n.log2)) (-((52 - n.log2 : Nat) : Int))
        (Nat.mul_pos h0 (Nat.two_pow_pos _)) := by
  have hlog : n.log2 < 53 := (Nat.log2_lt (by omega)).mpr hn
  obtain ⟨lo, hi⟩ := scaled_bounds h0 hn
  have target : Format.binary64.targetExponent (totalExponent n 0) = (n.log2 : Int) - 52 := by
    simp only [Format.targetExponent, totalExponent, Format.mantissaBits, Format.minExponent]
    push_cast
    omega
  have exact := roundWithAccuracy_exact .positive 0 lo hi (E := -((52 - n.log2 : Nat) : Int))
    (by omega)
  simp only [Nat.pow_zero, Nat.mul_one, Nat.cast_zero, sub_zero] at exact
  rw [UnpackedFloat.normalize, show compare (n : Int) 0 = .gt from Int.compare_eq_gt.mpr (by omega)]
  simp only [UnpackedFloat.round, target, decreaseExponent, Int.toNat_natCast]
  rw [show (0 - ((n.log2 : Int) - 52)).toNat = 52 - n.log2 by omega, Nat.shiftLeft_eq,
    show (0 : Int) - ((52 - n.log2 : Nat) : Int) = -((52 - n.log2 : Nat) : Int) by omega, exact]


/-- The one the conversions multiply by: `2^52` at exponent `-52`. -/
theorem unpack_one :
    (Float.exactlyRepresentablePowersOfTen[0]).toModel.unpack =
      .finite .positive (2 ^ 52) (-52) (Nat.two_pow_pos _) := rfl

/-- A natural number below `2^53` converts to a double exactly. -/
theorem ofNat_toModel_small {n : Nat} (hn : n < 2 ^ 53) :
    ∃ u, (Float.ofNat n).toModel = Float.Model.pack u ∧ Normal u ∧ unpackedValue u = some (n : ℚ) := by
  have convert : (Float.ofNat n).toModel = Float.Model.pack (UnpackedFloat.mul .binary64
      (Float.Model.pack (normalize .binary64 n 0 .positive)).unpack
      (Float.exactlyRepresentablePowersOfTen[0]).toModel.unpack) := by
    unfold Float.ofNat
    show (Float.ofScientific n false 0).toModel = _
    rw [Float.ofScientific, dif_pos ⟨hn, by decide⟩]
    dsimp only
    rw [if_neg (by decide)]
    show (Float.Model.ofUInt64 n.toUInt64).mul (Float.exactlyRepresentablePowersOfTen[0]).toModel = _
    rw [Float.Model.mul, Float.Model.ofUInt64, UnpackedFloat.ofUInt64, UnpackedFloat.ofNat,
      UnpackedFloat.ofInt, UInt64.toNat_ofNat_of_lt' (lt_of_lt_of_le hn (by decide))]
  rw [convert, unpack_one]
  rcases Nat.eq_zero_or_pos n with rfl | h0
  · exact ⟨.zero .positive, rfl, .zero _, by simp [unpackedValue]⟩
  · have hlog : n.log2 < 53 := (Nat.log2_lt (by omega)).mpr hn
    obtain ⟨lo, hi⟩ := scaled_bounds h0 hn
    have normal : Normal (.finite .positive (n * 2 ^ (52 - n.log2)) (-((52 - n.log2 : Nat) : Int))
        (Nat.mul_pos h0 (Nat.two_pow_pos _))) := .finite _ _ _ _ lo hi (by omega) (by omega)
    rw [normalize_small h0 hn, normal.unpack_pack, UnpackedFloat.mul]
    refine ⟨_, ?_, normal, ?_⟩
    · congr 1
      rw [show -((52 - n.log2 : Nat) : Int) + -52 = -((52 - n.log2 : Nat) : Int) - (52 : Nat) by omega]
      exact roundWithAccuracy_exact _ 52 lo hi (by omega)
    · simp only [unpackedValue, Sign.apply]
      push_cast
      rw [mul_assoc, ← zpow_natCast, ← zpow_add₀ (by norm_num)]
      simp


/-- A natural number of at least `2^53` that is a 53-bit mantissa times a power of two
splits as its top 53 bits times a power of two no larger. -/
theorem split_top {n M E : Nat} (h : n = M * 2 ^ E) (hM : M < 2 ^ 53) (h53 : 2 ^ 53 ≤ n) :
    n = n / 2 ^ (n.log2 - 52) * 2 ^ (n.log2 - 52) ∧ 2 ^ 52 ≤ n / 2 ^ (n.log2 - 52) ∧
      n / 2 ^ (n.log2 - 52) < 2 ^ 53 ∧ n.log2 - 52 ≤ E := by
  have n0 : n ≠ 0 := by positivity
  have top := Nat.lt_log2_self (n := n)
  have bottom := Nat.log2_self_le n0
  have big : 53 ≤ n.log2 := (Nat.le_log2 n0).mpr h53
  have below : n.log2 < 53 + E := by
    apply (Nat.log2_lt n0).mpr
    rw [h, Nat.pow_add]
    exact Nat.mul_lt_mul_of_pos_right hM (Nat.two_pow_pos _)
  have dvd : 2 ^ (n.log2 - 52) ∣ n :=
    (Nat.pow_dvd_pow 2 (show n.log2 - 52 ≤ E by omega)).trans ⟨M, by rw [h, Nat.mul_comm]⟩
  have split := (Nat.div_mul_cancel dvd).symm
  refine ⟨split, ?_, ?_, by omega⟩
  · apply (Nat.le_div_iff_mul_le (Nat.two_pow_pos _)).mpr
    rw [← Nat.pow_add, show 52 + (n.log2 - 52) = n.log2 by omega]
    exact bottom
  · apply (Nat.div_lt_iff_lt_mul (Nat.two_pow_pos _)).mpr
    rw [← Nat.pow_add, show 53 + (n.log2 - 52) = n.log2 + 1 by omega]
    exact top

/-- From `2^53` on, a natural converts by rounding: its bits shifted up by 53 places, at
exponent `-53`. -/
theorem ofNat_toModel_slow {n : Nat} (h53 : 2 ^ 53 ≤ n) :
    (Float.ofNat n).toModel =
      Float.Model.pack (roundWithAccuracy .binary64 .positive (n * 2 ^ 53) (-53) .exact) := by
  have n0 : n ≠ 0 := by positivity
  have exponentBits : Format.binary64.exponentBits = 11 := rfl
  have mantissaBits : Format.binary64.mantissaBits = 53 := rfl
  have mantissa : n <<< Format.binary64.mantissaBits * 10 ^ Int.toNat 0 = n * 2 ^ 53 := by
    rw [Nat.shiftLeft_eq, mantissaBits, Int.toNat_zero, Nat.pow_zero, Nat.mul_one]
  have exponent : -(Format.binary64.mantissaBits : Int) + 0 = -53 := by
    rw [mantissaBits]
    rfl
  unfold Float.ofNat
  show (Float.ofScientific n false 0).toModel = _
  rw [Float.ofScientific, dif_neg (by omega)]
  show Float.Model.ofScientific n 0 = _
  rw [Float.Model.ofScientific, UnpackedFloat.ofScientific, dif_neg n0, if_neg (by decide),
    if_neg (by rw [exponentBits]; omega), if_pos le_rfl, UnpackedFloat.mul, mantissa, exponent]
  rfl

/-- A natural number of at least `2^53` that a double holds converts to it exactly. -/
theorem ofNat_toModel_large {n M E : Nat} (h : n = M * 2 ^ E) (hM : M < 2 ^ 53) (hE : E ≤ 971)
    (h53 : 2 ^ 53 ≤ n) :
    ∃ u, (Float.ofNat n).toModel = Float.Model.pack u ∧ Normal u ∧ unpackedValue u = some (n : ℚ) := by
  obtain ⟨split, lo, hi, le⟩ := split_top h hM h53
  generalize hM' : n / 2 ^ (n.log2 - 52) = M' at split lo hi
  generalize hE' : n.log2 - 52 = E' at split le
  have shifted : n * 2 ^ 53 = M' * 2 ^ (E' + 53) := by rw [split, Nat.pow_add, Nat.mul_assoc]
  have exponent : (-53 : Int) = E' - (E' + 53 : Nat) := by push_cast; omega
  have normal : Normal (.finite .positive M' E' (by omega)) := .finite _ _ _ _ lo hi (by omega) (by omega)
  refine ⟨_, ofNat_toModel_slow h53, ?_⟩
  rw [shifted, exponent, roundWithAccuracy_exact _ _ lo hi (by omega)]
  refine ⟨normal, ?_⟩
  simp only [unpackedValue, Sign.apply]
  rw [split]
  push_cast
  rw [zpow_natCast]

/-- Shifting right by `k` places divides the mantissa by `2^k`. -/
theorem shiftRight_mantissa (em : ExtendedMantissa) (k : Nat) :
    (em >>> k).mantissa = em.mantissa / 2 ^ k := by
  induction k with
  | zero => simp [HShiftRight.hShiftRight, Nat.repeat]
  | succ k ih =>
    show (ExtendedMantissa.shiftRightOne (em >>> k)).mantissa = _
    rw [ExtendedMantissa.shiftRightOne, ih, Nat.div_div_eq_div_mul, Nat.pow_succ]

/-- Rounding to nearest keeps a mantissa or adds one to it. -/
theorem roundedMantissa_bounds (em : ExtendedMantissa) :
    em.mantissa ≤ em.roundedMantissa ∧ em.roundedMantissa ≤ em.mantissa + 1 := by
  rcases em with ⟨m, _ | _, _ | _⟩ <;>
    simp only [ExtendedMantissa.roundedMantissa, ExtendedMantissa.accuracy,
      Accuracy.roundToNearestEven] <;> omega

/-- A natural from `2^53` whose top bit is below bit 1023 converts to a double in normal
form: its top 53 bits, rounded to nearest, at the exponent that keeps them. -/
theorem ofNat_toModel_normal {n : Nat} (h53 : 2 ^ 53 ≤ n) (small : n.log2 < 1023) :
    ∃ u, (Float.ofNat n).toModel = Float.Model.pack u ∧ Normal u := by
  have n0 : n ≠ 0 := by positivity
  have big : 53 ≤ n.log2 := (Nat.le_log2 n0).mpr h53
  have bottom := Nat.log2_self_le n0
  have top := Nat.lt_log2_self (n := n)
  -- the first stage drops the `n.log2 + 1` bits below the top 53 of `n * 2^53`
  have logN : (n * 2 ^ 53).log2 = n.log2 + 53 := by
    apply (Nat.log2_eq_iff (by positivity)).mpr
    rw [Nat.pow_add, show n.log2 + 53 + 1 = n.log2 + 1 + 53 by omega, Nat.pow_add]
    exact ⟨Nat.mul_le_mul_right _ bottom, Nat.mul_lt_mul_of_pos_right top (Nat.two_pow_pos _)⟩
  have target : Format.binary64.targetExponent (totalExponent (n * 2 ^ 53) (-53)) =
      (n.log2 : Int) - 52 := by
    simp only [Format.targetExponent, totalExponent, logN, Format.mantissaBits, Format.minExponent]
    push_cast
    omega
  have first : shiftToTargetExponent .binary64 (n * 2 ^ 53) (-53) .exact =
      ((⟨n * 2 ^ 53, false, false⟩ : ExtendedMantissa) >>> (n.log2 + 1), (n.log2 : Int) - 52) := by
    rw [shiftToTargetExponent, target, shiftToExponent]
    simp only [ExtendedMantissa.ofMantissaAndAccuracy]
    rw [show ((n.log2 : Int) - 52 - -53).toNat = n.log2 + 1 by omega]
    push_cast
    congr 1
    omega
  have quotient : ((⟨n * 2 ^ 53, false, false⟩ : ExtendedMantissa) >>> (n.log2 + 1)).mantissa =
      n / 2 ^ (n.log2 - 52) := by
    rw [shiftRight_mantissa, show n.log2 + 1 = (n.log2 - 52) + 53 by omega, Nat.pow_add,
      Nat.mul_div_mul_right _ _ (Nat.two_pow_pos _)]
  have lo : 2 ^ 52 ≤ n / 2 ^ (n.log2 - 52) := by
    apply (Nat.le_div_iff_mul_le (Nat.two_pow_pos _)).mpr
    rw [← Nat.pow_add, show 52 + (n.log2 - 52) = n.log2 by omega]
    exact bottom
  have hi : n / 2 ^ (n.log2 - 52) < 2 ^ 53 := by
    apply (Nat.div_lt_iff_lt_mul (Nat.two_pow_pos _)).mpr
    rw [← Nat.pow_add, show 53 + (n.log2 - 52) = n.log2 + 1 by omega]
    exact top
  have rounded := roundedMantissa_bounds
    ((⟨n * 2 ^ 53, false, false⟩ : ExtendedMantissa) >>> (n.log2 + 1))
  rw [quotient] at rounded
  rw [ofNat_toModel_slow h53, roundWithAccuracy, first]
  dsimp only
  generalize ExtendedMantissa.roundedMantissa _ = R at rounded
  by_cases full : R < 2 ^ 53
  · -- the rounded mantissa still has 53 bits: the second stage keeps it
    have again := shiftToTargetExponent_exact 0 (M := R) (E := (n.log2 : Int) - 52) (by omega) full
      (by omega)
    simp only [Nat.pow_zero, Nat.mul_one, Nat.cast_zero, sub_zero] at again
    rw [again]
    dsimp only
    rw [dif_neg (by omega)]
    exact ⟨_, rfl, .finite _ _ _ _ (by omega) full (by omega) (by omega)⟩
  · -- rounding carried into a 54th bit: the second stage halves it, one exponent up
    have carry : R = 2 ^ 52 * 2 ^ 1 := by omega
    have again := shiftToTargetExponent_exact 1 (M := 2 ^ 52) (E := (n.log2 : Int) - 51) le_rfl
      (by decide) (by omega)
    rw [carry, show (n.log2 : Int) - 52 = (n.log2 : Int) - 51 - (1 : Nat) by omega, again]
    dsimp only
    rw [dif_neg (by decide)]
    exact ⟨_, rfl, .finite _ _ _ _ le_rfl (by decide) (by omega) (by omega)⟩

/-! ## Integers -/

/-- The naturals a double holds: a mantissa of at most 53 bits times a power of two up to
the greatest exponent. -/
def Representable (n : Nat) : Prop := ∃ M E, n = M * 2 ^ E ∧ M < 2 ^ 53 ∧ E ≤ 971

theorem representable_of_le {n : Nat} (h : n ≤ 2 ^ 53) : Representable n := by
  rcases Nat.lt_or_eq_of_le h with lt | rfl
  · exact ⟨n, 0, by simp, lt, by decide⟩
  · exact ⟨2 ^ 52, 1, by norm_num, by decide, by decide⟩

/-- A natural number a double holds converts to it exactly. -/
theorem ofNat_toModel {n : Nat} (h : Representable n) :
    ∃ u, (Float.ofNat n).toModel = Float.Model.pack u ∧ Normal u ∧ unpackedValue u = some (n : ℚ) := by
  obtain ⟨M, E, split, hM, hE⟩ := h
  by_cases small : n < 2 ^ 53
  · exact ofNat_toModel_small small
  · exact ofNat_toModel_large split hM hE (by omega)

/-- Negation keeps the normal form: it changes only the sign. -/
theorem Normal.neg {u : UnpackedFloat} (h : Normal u) : Normal u.neg := by
  cases h with
  | zero s => exact .zero _
  | finite s m e hm lo hi elo ehi => exact .finite _ _ _ _ lo hi elo ehi

theorem unpackedValue_neg (u : UnpackedFloat) :
    unpackedValue u.neg = (unpackedValue u).map Neg.neg := by
  cases u with
  | finite s m e hm => cases s <;> simp [UnpackedFloat.neg, unpackedValue, Sign.apply]
  | zero s => simp [UnpackedFloat.neg, unpackedValue]
  | infinity s => rfl
  | notANumber => rfl

/-- The exact rational value of a finite double; none for a NaN or an infinity. -/
def exactValue? (x : Float) : Option ℚ := unpackedValue x.toModel.unpack

/-- Reading a double's bits gives its exact value. -/
theorem value?_ofFloat (x : Float) : (Double.ofFloat x).value? = exactValue? x :=
  value?_ofBits x.toModel.toBits

/-- An integer whose magnitude a double holds converts to it exactly. -/
theorem exactValue?_ofInt {n : Int} (h : Representable n.natAbs) :
    exactValue? (Float.ofInt n) = some (n : ℚ) := by
  cases n with
  | ofNat k =>
    obtain ⟨u, hu, normal, value⟩ := ofNat_toModel (show Representable k from h)
    show unpackedValue (Float.ofNat k).toModel.unpack = _
    rw [hu, normal.unpack_pack, value]
    simp
  | negSucc k =>
    obtain ⟨u, hu, normal, value⟩ := ofNat_toModel (show Representable (k + 1) from h)
    show unpackedValue (Float.Model.pack (Float.ofNat (k + 1)).toModel.unpack.neg).unpack = _
    rw [hu, normal.unpack_pack, normal.neg.unpack_pack, unpackedValue_neg, value]
    simp [Int.negSucc_eq]

/-- Every natural whose top bit is below bit 1023 converts to a double in normal form. -/
theorem ofNat_toModel_finite {n : Nat} (h : n.log2 < 1023) :
    ∃ u, (Float.ofNat n).toModel = Float.Model.pack u ∧ Normal u := by
  by_cases small : n < 2 ^ 53
  · obtain ⟨u, hu, normal, -⟩ := ofNat_toModel_small small
    exact ⟨u, hu, normal⟩
  · exact ofNat_toModel_normal (by omega) h

theorem Normal.unpackedValue_isSome {u : UnpackedFloat} (h : Normal u) : (unpackedValue u).isSome := by
  cases h <;> rfl

/-- An integer whose magnitude has its top bit below bit 1023 converts to a finite
double, never to an infinity. -/
theorem exactValue?_ofInt_isSome {n : Int} (h : n.natAbs.log2 < 1023) :
    (exactValue? (Float.ofInt n)).isSome := by
  cases n with
  | ofNat k =>
    obtain ⟨u, hu, normal⟩ := ofNat_toModel_finite (show k.log2 < 1023 from h)
    show (unpackedValue (Float.ofNat k).toModel.unpack).isSome
    rw [hu, normal.unpack_pack]
    exact normal.unpackedValue_isSome
  | negSucc k =>
    obtain ⟨u, hu, normal⟩ := ofNat_toModel_finite (show (k + 1).log2 < 1023 from h)
    show (unpackedValue (Float.Model.pack (Float.ofNat (k + 1)).toModel.unpack.neg).unpack).isSome
    rw [hu, normal.unpack_pack, normal.neg.unpack_pack]
    exact normal.neg.unpackedValue_isSome

end Stencil.Number
