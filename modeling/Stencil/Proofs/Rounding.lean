import Stencil.Proofs.DoubleValue
import Stencil.Value.Method

/-!
# Rounding doubles to integers

The float methods `to_i`, `round`, `floor` and `ceil` compute on the fields of a double
with natural-number division. This module states what they compute on the double's
exact rational value (`exactValue?`):

* `roundHalfAway` gives `halfAway v = sign v * ⌊|v| + 1/2⌋`, the nearest integer with a
  half going away from zero, and fails, with an invalid-argument error, exactly on a NaN
  or an infinity (`roundHalfAway_of_exactValue`, `roundHalfAway_of_nonfinite`);
* a double that is a whole number rounds to itself, and one that is not lies below
  `2^52` in magnitude, so its rounding has at most 16 digits (`abs_lt_of_not_whole`);
* every integer these functions produce is one a double holds (`Representable`), so
  converting it back to a double is exact (`exactValue?_floorFloat` and the others).
-/

namespace Stencil.Number
open Float.Model

/-- The nearest integer to a rational, a half going away from zero. -/
def halfAway (v : ℚ) : ℤ := (SignType.sign v : ℤ) * ⌊|v| + 1 / 2⌋

/-- A whole number is its own nearest integer. -/
theorem halfAway_intCast (n : ℤ) : halfAway n = n := by
  have whole : ⌊|(n : ℚ)| + 1 / 2⌋ = |n| := by
    rw [Int.floor_eq_iff]
    push_cast
    constructor <;> linarith
  rw [halfAway, whole, sign_intCast]
  exact sign_mul_abs n

namespace Binary

theorem value_nonneg (b : Binary) : 0 ≤ b.value := by
  unfold value
  positivity

/-- On an exponent of at least zero the value is the whole number `m * 2^q`. -/
theorem value_of_nonneg {b : Binary} (h : 0 ≤ b.exponent) :
    b.value = ((b.mantissa * 2 ^ b.exponent.toNat : ℕ) : ℚ) := by
  obtain ⟨q, hq⟩ := Int.eq_ofNat_of_zero_le h
  rw [value, hq, Int.toNat_natCast, zpow_natCast]
  push_cast
  rfl

/-- On a negative exponent the value is the fraction `m / 2^k`. -/
theorem value_of_neg {b : Binary} (h : b.exponent < 0) :
    b.value = (b.mantissa : ℚ) / ((2 ^ (-b.exponent).toNat : ℕ) : ℚ) := by
  obtain ⟨k, hk⟩ := Int.exists_eq_neg_ofNat h.le
  rw [value, hk, neg_neg, Int.toNat_natCast, zpow_neg, zpow_natCast, div_eq_mul_inv]
  push_cast
  rfl

/-- The ceiling of a fraction of naturals, by natural division. -/
theorem ceil_div_natCast {m d : ℕ} (hd : 0 < d) : ⌈(m : ℚ) / d⌉₊ = (m + d - 1) / d := by
  apply eq_of_forall_ge_iff
  intro n
  rw [Nat.ceil_le, div_le_iff₀ (by positivity), Nat.div_le_iff_le_mul_add_pred hd]
  norm_cast
  rw [Nat.mul_comm n d]
  omega

theorem floorNat_eq (b : Binary) : b.floorNat = ⌊b.value⌋₊ := by
  unfold floorNat
  split
  case isTrue h => rw [value_of_nonneg h, Nat.floor_natCast]; rfl
  case isFalse h =>
    rw [value_of_neg (by omega), Nat.floor_div_eq_div]
    rfl

theorem ceilNat_eq (b : Binary) : b.ceilNat = ⌈b.value⌉₊ := by
  unfold ceilNat
  split
  case isTrue h => rw [value_of_nonneg h, Nat.ceil_natCast]; rfl
  case isFalse h =>
    rw [value_of_neg (by omega), ceil_div_natCast (Nat.two_pow_pos _)]
    rfl

theorem roundHalfUpNat_eq (b : Binary) : b.roundHalfUpNat = ⌊b.value + 1 / 2⌋₊ := by
  unfold roundHalfUpNat
  split
  case isTrue h =>
    have half : ⌊(1 / 2 : ℚ)⌋₊ = 0 := Nat.floor_eq_zero.mpr (by norm_num)
    rw [value_of_nonneg h, add_comm, Nat.floor_add_natCast (by norm_num), half, Nat.zero_add]
    rfl
  case isFalse h =>
    have half : b.value + 1 / 2 =
        ((2 * b.mantissa + 2 ^ (-b.exponent).toNat : ℕ) : ℚ) / ((2 ^ ((-b.exponent).toNat + 1) : ℕ) : ℚ) := by
      rw [value_of_neg (by omega)]
      push_cast
      field_simp
      ring
    rw [half, Nat.floor_div_eq_div]
    rfl

end Binary

namespace Double

/-- The floor of a finite double, as an integer, is the floor of its value. -/
theorem floorInt_eq (negative : Bool) (b : Binary) :
    floorInt negative b = ⌊if negative then -b.value else b.value⌋ := by
  cases negative
  · simp [floorInt, Binary.floorNat_eq, Int.natCast_floor_eq_floor b.value_nonneg]
  · simp [floorInt, Binary.ceilNat_eq, Int.natCast_ceil_eq_ceil b.value_nonneg, Int.floor_neg]

theorem ceilInt_eq (negative : Bool) (b : Binary) :
    ceilInt negative b = ⌈if negative then -b.value else b.value⌉ := by
  cases negative
  · simp [ceilInt, Binary.ceilNat_eq, Int.natCast_ceil_eq_ceil b.value_nonneg]
  · simp [ceilInt, Binary.floorNat_eq, Int.natCast_floor_eq_floor b.value_nonneg, Int.ceil_neg]

/-- The half-away rounding of a finite double's fields is `halfAway` of its value; a zero
of either sign rounds to zero. -/
theorem roundHalfAwayInt_eq (negative : Bool) (b : Binary) :
    roundHalfAwayInt negative b = halfAway (if negative then -b.value else b.value) := by
  have up : (b.roundHalfUpNat : ℤ) = ⌊b.value + 1 / 2⌋ := by
    rw [Binary.roundHalfUpNat_eq, Int.natCast_floor_eq_floor (by linarith [b.value_nonneg])]
  rcases b.value_nonneg.eq_or_lt with zero | pos
  · have none : b.roundHalfUpNat = 0 := by
      rw [Binary.roundHalfUpNat_eq, ← zero, Nat.floor_eq_zero]
      norm_num
    cases negative <;> simp [roundHalfAwayInt, signed, halfAway, none, ← zero]
  · cases negative
    · simp [roundHalfAwayInt, signed, halfAway, up, abs_of_pos pos, sign_pos pos]
    · simp [roundHalfAwayInt, signed, halfAway, up, abs_of_pos pos, sign_neg (neg_neg_of_pos pos)]

end Double

/-! ## The rounding functions on exact values -/

section
variable {x : Float}

/-- A finite double read from its bits: its sign, its fields, and its value. -/
theorem ofFloat_of_exactValue {v : ℚ} (h : exactValue? x = some v) :
    ∃ negative b, Double.ofFloat x = .finite negative b ∧ v = if negative then -b.value else b.value := by
  rw [← value?_ofFloat] at h
  cases hx : Double.ofFloat x with
  | finite negative b =>
    rw [hx] at h
    exact ⟨negative, b, rfl, (Option.some.inj h).symm⟩
  | nan => rw [hx] at h; cases h
  | infinite _ => rw [hx] at h; cases h

/-- A NaN or an infinity read from its bits. -/
theorem ofFloat_of_nonfinite (h : exactValue? x = none) :
    ∀ negative b, Double.ofFloat x ≠ .finite negative b := by
  intro negative b hx
  rw [← value?_ofFloat, hx] at h
  cases h

theorem roundHalfAway_of_exactValue {v : ℚ} (h : exactValue? x = some v) :
    roundHalfAway x = .ok (halfAway v) := by
  obtain ⟨negative, b, hx, rfl⟩ := ofFloat_of_exactValue h
  simp only [roundHalfAway, hx, Double.roundHalfAwayInt_eq]

theorem roundHalfAway_of_nonfinite (h : exactValue? x = none) :
    roundHalfAway x = .error (.ofFault (.cannotRound x)) := by
  unfold roundHalfAway
  split
  case h_1 negative b hx => exact absurd hx (ofFloat_of_nonfinite h negative b)
  case h_2 => rfl

/-- A double that is not a whole number has a negative exponent, so its magnitude is below
`2^52`. -/
theorem abs_lt_of_not_whole {v : ℚ} (h : exactValue? x = some v) (frac : ∀ n : ℤ, v ≠ n) :
    |v| < 2 ^ 52 := by
  obtain ⟨negative, b, hx, rfl⟩ := ofFloat_of_exactValue h
  obtain ⟨hm, -, -⟩ := ofBits_finite_fields hx
  have modulus : |(if negative then -b.value else b.value)| = b.value := by
    cases negative <;> simp [abs_of_nonneg b.value_nonneg]
  rw [modulus]
  by_cases q : 0 ≤ b.exponent
  · -- a whole exponent makes a whole value, which `frac` excludes
    exfalso
    apply frac (if negative then -((b.mantissa * 2 ^ b.exponent.toNat : ℕ) : ℤ)
      else ((b.mantissa * 2 ^ b.exponent.toNat : ℕ) : ℤ))
    cases negative <;> simp [Binary.value_of_nonneg q]
  · have two : (2 : ℚ) ≤ ((2 ^ (-b.exponent).toNat : ℕ) : ℚ) := by
      have : 2 ≤ 2 ^ (-b.exponent).toNat := by
        calc 2 = 2 ^ 1 := rfl
          _ ≤ 2 ^ (-b.exponent).toNat := Nat.pow_le_pow_right (by decide) (by omega)
      exact_mod_cast this
    have mantissa : (b.mantissa : ℚ) < 2 ^ 53 := by exact_mod_cast hm
    rw [Binary.value_of_neg (by omega), div_lt_iff₀ (by linarith)]
    nlinarith

/-- The nearest integer to a value below `2^52` in magnitude is at most `2^52` in
magnitude. -/
theorem abs_halfAway_le {v : ℚ} (h : |v| < 2 ^ 52) : |halfAway v| ≤ 2 ^ 52 := by
  have floor_le : ⌊|v| + 1 / 2⌋ ≤ 2 ^ 52 := by
    rw [Int.floor_le_iff]
    push_cast
    linarith
  have floor_nonneg : 0 ≤ ⌊|v| + 1 / 2⌋ := Int.floor_nonneg.mpr (by positivity)
  rw [halfAway, abs_mul]
  calc |(SignType.sign v : ℤ)| * |⌊|v| + 1 / 2⌋| ≤ 1 * ⌊|v| + 1 / 2⌋ := by
        rw [abs_of_nonneg floor_nonneg]
        apply mul_le_mul_of_nonneg_right _ floor_nonneg
        rcases lt_trichotomy v 0 with neg | zero | pos
        · simp [sign_neg neg]
        · simp [zero]
        · simp [sign_pos pos]
    _ ≤ 2 ^ 52 := by linarith

end

/-! ## Converting the results back -/

/-- The whole parts of a finite double's fields are integers a double holds: the value
itself on a whole exponent, and at most `2^53` on a negative one. -/
theorem Binary.representable_parts {b : Binary} (hm : b.mantissa < 2 ^ 53)
    (hq : b.exponent ≤ 971) :
    Representable b.floorNat ∧ Representable b.ceilNat ∧ Representable b.roundHalfUpNat := by
  by_cases whole : 0 ≤ b.exponent
  · have self : Representable (b.mantissa * Nat.pow 2 b.exponent.toNat) :=
      ⟨b.mantissa, b.exponent.toNat, rfl, hm, by omega⟩
    simp only [floorNat, ceilNat, roundHalfUpNat, if_pos whole]
    exact ⟨self, self, self⟩
  · -- the exponent is `-k` with `k ≥ 1`, and `P = 2^k`
    have pos : 0 < Nat.pow 2 (-b.exponent).toNat := Nat.two_pow_pos _
    have double : Nat.pow 2 ((-b.exponent).toNat + 1) = 2 * Nat.pow 2 (-b.exponent).toNat := by
      show 2 ^ ((-b.exponent).toNat + 1) = 2 * 2 ^ (-b.exponent).toNat
      rw [Nat.pow_succ, Nat.mul_comm]
    simp only [floorNat, ceilNat, roundHalfUpNat, if_neg whole, double]
    generalize Nat.pow 2 (-b.exponent).toNat = P at pos
    refine ⟨representable_of_le ?_, representable_of_le ?_, representable_of_le ?_⟩
    · exact le_trans (Nat.div_le_self _ _) hm.le
    · exact Nat.div_le_of_le_mul (by omega)
    · exact Nat.div_le_of_le_mul (by omega)

section
variable {x : Float}

/-- The fields of a finite double whose value is `v`, with the whole parts a double
holds. -/
theorem parts_of_exactValue {v : ℚ} (h : exactValue? x = some v) :
    ∃ negative b, Double.ofFloat x = .finite negative b ∧
      v = (if negative then -b.value else b.value) ∧
      Representable b.floorNat ∧ Representable b.ceilNat ∧ Representable b.roundHalfUpNat := by
  obtain ⟨negative, b, hx, rfl⟩ := ofFloat_of_exactValue h
  obtain ⟨hm, -, hq⟩ := ofBits_finite_fields hx
  exact ⟨negative, b, hx, rfl, b.representable_parts hm hq⟩

theorem floorFloat_of_nonfinite (h : exactValue? x = none) : floorFloat x = x := by
  unfold floorFloat
  split
  case h_1 negative b hx => exact absurd hx (ofFloat_of_nonfinite h negative b)
  case h_2 => rfl

theorem ceilFloat_of_nonfinite (h : exactValue? x = none) : ceilFloat x = x := by
  unfold ceilFloat
  split
  case h_1 negative b hx => exact absurd hx (ofFloat_of_nonfinite h negative b)
  case h_2 => rfl

/-- `⌊x⌋` as a double is exactly the floor of `x`'s value. -/
theorem exactValue?_floorFloat (x : Float) :
    exactValue? (floorFloat x) = (exactValue? x).map fun v => (⌊v⌋ : ℚ) := by
  cases h : exactValue? x with
  | none => rw [floorFloat_of_nonfinite h, h]; rfl
  | some v =>
    obtain ⟨negative, b, hx, rfl, floor, ceil, -⟩ := parts_of_exactValue h
    have whole : Representable (Double.floorInt negative b).natAbs := by
      cases negative <;> simpa [Double.floorInt]
    simp only [floorFloat, hx, Option.map_some]
    rw [exactValue?_ofInt whole, Double.floorInt_eq]

/-- `⌈x⌉` as a double is exactly the ceiling of `x`'s value. -/
theorem exactValue?_ceilFloat (x : Float) :
    exactValue? (ceilFloat x) = (exactValue? x).map fun v => (⌈v⌉ : ℚ) := by
  cases h : exactValue? x with
  | none => rw [ceilFloat_of_nonfinite h, h]; rfl
  | some v =>
    obtain ⟨negative, b, hx, rfl, floor, ceil, -⟩ := parts_of_exactValue h
    have whole : Representable (Double.ceilInt negative b).natAbs := by
      cases negative <;> simpa [Double.ceilInt]
    simp only [ceilFloat, hx, Option.map_some]
    rw [exactValue?_ofInt whole, Double.ceilInt_eq]

/-- The half-away rounding of a finite double converts back to a double exactly. -/
theorem exactValue?_ofInt_halfAway {v : ℚ} (h : exactValue? x = some v) :
    exactValue? (Float.ofInt (halfAway v)) = some (halfAway v : ℚ) := by
  obtain ⟨negative, b, hx, rfl, -, -, round⟩ := parts_of_exactValue h
  rw [← Double.roundHalfAwayInt_eq]
  apply exactValue?_ofInt
  cases negative <;> simpa [Double.roundHalfAwayInt, Double.signed]

end

end Stencil.Number

/-! ## The float methods -/

namespace Stencil.Value
open Number

/-- An integer result is the integer itself exactly when it fits in 64 signed bits. -/
theorem ofInt?_eq_ok {n : Int} {w : Value} : ofInt? n = .ok w ↔ fitsInt n = true ∧ w = .int n := by
  unfold ofInt?
  split
  case isTrue fits => exact ⟨fun h => ⟨fits, (Except.ok.inj h).symm⟩, fun h => h.2 ▸ rfl⟩
  case isFalse fits => exact ⟨fun h => (nomatch h), fun h => absurd h.1 fits⟩

/-- An integer that does not fit is an invalid argument. -/
theorem ofInt?_error_class {n : Int} {e : TemplateError} (h : ofInt? n = .error e) :
    e.errorClass = .invalidArgument := by
  unfold ofInt? at h
  split at h
  · cases h
  · cases h
    rfl

section
variable {x : Float}

/-- `to_i` rounds the double and checks the rounding against the integer range. -/
theorem invoke_toI (x : Float) :
    (Value.float x).invoke "to_i" [] = (roundHalfAway x).bind ofInt? := by
  show applyBuiltin .floatToI (.float x) [] = _
  -- the method's own branch, without unfolding the other methods' equations
  delta applyBuiltin
  dsimp only
  cases roundHalfAway x <;> rfl

/-- `round` rounds the double and converts the rounding back. -/
theorem invoke_round (x : Float) :
    (Value.float x).invoke "round" [] = (roundHalfAway x).map fun n => .float (Float.ofInt n) :=
  rfl

theorem invoke_toI_of_exactValue {v : ℚ} (h : exactValue? x = some v) :
    (Value.float x).invoke "to_i" [] = ofInt? (halfAway v) := by
  rw [invoke_toI, roundHalfAway_of_exactValue h]
  rfl

theorem invoke_toI_of_nonfinite (h : exactValue? x = none) :
    (Value.float x).invoke "to_i" [] = .error (.ofFault (.cannotRound x)) := by
  rw [invoke_toI, roundHalfAway_of_nonfinite h]
  rfl

/-- `round` on a finite double: a double whose value is the half-away rounding. -/
theorem invoke_round_of_exactValue {v : ℚ} (h : exactValue? x = some v) :
    ∃ y, (Value.float x).invoke "round" [] = .ok (.float y) ∧ exactValue? y = some (halfAway v : ℚ) := by
  refine ⟨Float.ofInt (halfAway v), ?_, exactValue?_ofInt_halfAway h⟩
  rw [invoke_round, roundHalfAway_of_exactValue h]
  rfl

theorem invoke_round_of_nonfinite (h : exactValue? x = none) :
    (Value.float x).invoke "round" [] = .error (.ofFault (.cannotRound x)) := by
  rw [invoke_round, roundHalfAway_of_nonfinite h]
  rfl

/-- `to_i` succeeds on exactly the finite doubles whose rounding fits in 64 signed bits,
with that rounding. -/
theorem invoke_toI_eq_ok {w : Value} :
    (Value.float x).invoke "to_i" [] = .ok w ↔
      ∃ v, exactValue? x = some v ∧ fitsInt (halfAway v) = true ∧ w = .int (halfAway v) := by
  cases h : exactValue? x with
  | none =>
    rw [invoke_toI_of_nonfinite h]
    exact ⟨fun e => (nomatch e), fun ⟨_, hv, _⟩ => (nomatch hv)⟩
  | some v =>
    rw [invoke_toI_of_exactValue h, ofInt?_eq_ok]
    exact ⟨fun fits => ⟨v, rfl, fits⟩, fun ⟨_, hv, fits⟩ => Option.some.inj hv ▸ fits⟩

/-- Every failure of `to_i` is an invalid argument: a NaN, an infinity, or a rounding out of
range. -/
theorem invoke_toI_error_class {e : TemplateError} (he : (Value.float x).invoke "to_i" [] = .error e) :
    e.errorClass = .invalidArgument := by
  cases h : exactValue? x with
  | none =>
    rw [invoke_toI_of_nonfinite h] at he
    cases he
    rfl
  | some v =>
    rw [invoke_toI_of_exactValue h] at he
    exact ofInt?_error_class he

theorem invoke_floor (x : Float) :
    (Value.float x).invoke "floor" [] = .ok (.float (floorFloat x)) := rfl

theorem invoke_ceil (x : Float) :
    (Value.float x).invoke "ceil" [] = .ok (.float (ceilFloat x)) := rfl

end

/-- The float rounding methods compute exactly on the value of a double. Rounding to the
nearest integer takes a half away from zero (`halfAway v = sign v * ⌊|v| + 1/2⌋` on the
exact value `v`), and fails as an invalid argument exactly on a NaN or an infinity. A
double that is a whole number rounds to itself, and one that is not is below `2^52` in
magnitude, as is its rounding. `to_i` gives that integer when it fits in 64 signed bits
and an invalid-argument error otherwise; `round` gives a double whose value is exactly
that integer; `floor` and `ceil` give doubles whose values are exactly `⌊v⌋` and `⌈v⌉`,
and give back a NaN or an infinity unchanged. -/
theorem float_rounding_exact :
    (∀ x v, exactValue? x = some v → roundHalfAway x = .ok (halfAway v)) ∧
    (∀ x, exactValue? x = none →
      ∃ e, roundHalfAway x = .error e ∧ e.errorClass = .invalidArgument) ∧
    (∀ x (n : ℤ), exactValue? x = some (n : ℚ) → roundHalfAway x = .ok n) ∧
    (∀ x v, exactValue? x = some v → (∀ n : ℤ, v ≠ n) → |v| < 2 ^ 52 ∧ |halfAway v| ≤ 2 ^ 52) ∧
    (∀ x w, (Value.float x).invoke "to_i" [] = .ok w ↔
      ∃ v, exactValue? x = some v ∧ fitsInt (halfAway v) = true ∧ w = .int (halfAway v)) ∧
    (∀ x e, (Value.float x).invoke "to_i" [] = .error e → e.errorClass = .invalidArgument) ∧
    (∀ x v, exactValue? x = some v →
      ∃ y, (Value.float x).invoke "round" [] = .ok (.float y) ∧ exactValue? y = some (halfAway v : ℚ)) ∧
    (∀ x, exactValue? x = none →
      ∃ e, (Value.float x).invoke "round" [] = .error e ∧ e.errorClass = .invalidArgument) ∧
    (∀ x, ∃ y, (Value.float x).invoke "floor" [] = .ok (.float y) ∧
      exactValue? y = (exactValue? x).map (fun v => (⌊v⌋ : ℚ)) ∧ (exactValue? x = none → y = x)) ∧
    (∀ x, ∃ y, (Value.float x).invoke "ceil" [] = .ok (.float y) ∧
      exactValue? y = (exactValue? x).map (fun v => (⌈v⌉ : ℚ)) ∧ (exactValue? x = none → y = x)) := by
  refine ⟨fun _ _ h => roundHalfAway_of_exactValue h, ?_, ?_, ?_, fun _ _ => invoke_toI_eq_ok,
    fun _ _ => invoke_toI_error_class, fun _ _ h => invoke_round_of_exactValue h, ?_, ?_, ?_⟩
  · intro x h
    exact ⟨_, roundHalfAway_of_nonfinite h, rfl⟩
  · intro x n h
    rw [roundHalfAway_of_exactValue h, halfAway_intCast]
  · intro x v h frac
    have small := abs_lt_of_not_whole h frac
    exact ⟨small, abs_halfAway_le small⟩
  · intro x h
    exact ⟨_, invoke_round_of_nonfinite h, rfl⟩
  · intro x
    exact ⟨floorFloat x, invoke_floor x, exactValue?_floorFloat x, floorFloat_of_nonfinite⟩
  · intro x
    exact ⟨ceilFloat x, invoke_ceil x, exactValue?_ceilFloat x, ceilFloat_of_nonfinite⟩

/-- The documented ties and near-ties: `2.5` rounds to `3` and `-2.5` to `-3`, while
`0.49999999999999994`, the double just below a half, rounds to `0`; `4.0` is a whole
number and rounds to `4`; a NaN does not round. -/
theorem float_rounding_exact_ties :
    roundHalfAway 2.5 = .ok 3 ∧ roundHalfAway (-2.5) = .ok (-3) ∧
    roundHalfAway 0.49999999999999994 = .ok 0 ∧ roundHalfAway 4.0 = .ok 4 ∧
    ∃ e, roundHalfAway (0.0 / 0.0) = .error e ∧ e.errorClass = .invalidArgument := by
  refine ⟨?_, ?_, ?_, ?_, float_rounding_exact.2.1 _ (by decide +kernel)⟩
  · rw [float_rounding_exact.1 2.5 (5 / 2) (by decide +kernel)]
    exact congrArg _ (by decide +kernel)
  · rw [float_rounding_exact.1 (-2.5) (-5 / 2) (by decide +kernel)]
    exact congrArg _ (by decide +kernel)
  · rw [float_rounding_exact.1 0.49999999999999994 (9007199254740991 / 18014398509481984)
      (by decide +kernel)]
    exact congrArg _ (by decide +kernel)
  · exact float_rounding_exact.2.2.1 4.0 4 (by decide +kernel)

end Stencil.Value
