/-!
# Doubles as exact binary numbers

A double is a NaN, a signed infinity, or a signed finite value `m * 2^q` with a
natural `m` and an integer `q`. `Double.ofFloat` reads the bit pattern of a
`Float` into this form, so every question about a value (its digits, its floor,
its nearest integer) is answered with exact integer arithmetic.

`Binary.narrowBelow` marks the values whose gap to the neighbour below is half
the gap to the neighbour above: the powers of two above the least normal.
-/

namespace Stencil.Number

/-- A finite non-negative double, `mantissa * 2^exponent`. -/
structure Binary where
  mantissa : Nat
  exponent : Int
  /-- the gap to the value below is half the gap to the value above -/
  narrowBelow : Bool
  deriving Repr, DecidableEq

/-- The three kinds of double, with the sign of the infinite and finite ones. -/
inductive Double where
  | nan
  | infinite (negative : Bool)
  | finite (negative : Bool) (magnitude : Binary)
  deriving Repr, DecidableEq

namespace Binary

/-- The value of the eleven exponent bits and the fifty-two fraction bits. -/
def ofFields (e f : Nat) : Binary :=
  if e = 0 then ⟨f, -1074, false⟩
  else ⟨Nat.pow 2 52 + f, (e : Int) - 1075, f = 0 && 1 < e⟩

/-- Whether the value is zero. -/
def isZero (b : Binary) : Bool := b.mantissa = 0

/-- The integer part of a magnitude: `⌊m * 2^q⌋`. -/
def floorNat (b : Binary) : Nat :=
  if 0 ≤ b.exponent then b.mantissa * Nat.pow 2 b.exponent.toNat
  else b.mantissa / Nat.pow 2 (-b.exponent).toNat

/-- The least integer not below a magnitude: `⌈m * 2^q⌉`. -/
def ceilNat (b : Binary) : Nat :=
  if 0 ≤ b.exponent then b.mantissa * Nat.pow 2 b.exponent.toNat
  else (b.mantissa + Nat.pow 2 (-b.exponent).toNat - 1) / Nat.pow 2 (-b.exponent).toNat

/-- The nearest integer to a magnitude, a half going up: `⌊m * 2^q + 1/2⌋`. -/
def roundHalfUpNat (b : Binary) : Nat :=
  if 0 ≤ b.exponent then b.mantissa * Nat.pow 2 b.exponent.toNat
  else (2 * b.mantissa + Nat.pow 2 (-b.exponent).toNat) / Nat.pow 2 ((-b.exponent).toNat + 1)

end Binary

namespace Double

/-- Read a double from its sixty-four bits. -/
def ofBits (bits : UInt64) : Double :=
  let negative := bits >>> 63 = 1
  let e := ((bits >>> 52) &&& 0x7FF).toNat
  let f := (bits &&& 0xFFFFFFFFFFFFF).toNat
  if e = 0x7FF then
    if f = 0 then .infinite negative else .nan
  else .finite negative (Binary.ofFields e f)

/-- Read a double from a `Float`. -/
def ofFloat (x : Float) : Double := ofBits x.toBits

/-- Apply a sign to a natural number. -/
def signed (negative : Bool) (n : Nat) : Int := if negative then -(n : Int) else n

/-- `⌊x⌋` of a finite double. -/
def floorInt (negative : Bool) (b : Binary) : Int :=
  if negative then -(b.ceilNat : Int) else b.floorNat

/-- `⌈x⌉` of a finite double. -/
def ceilInt (negative : Bool) (b : Binary) : Int :=
  if negative then -(b.floorNat : Int) else b.ceilNat

/-- The nearest integer of a finite double, a half going away from zero:
`sign(x) * ⌊|x| + 1/2⌋`. -/
def roundHalfAwayInt (negative : Bool) (b : Binary) : Int :=
  signed negative b.roundHalfUpNat

/-- The integer a double equals exactly, if it is a whole number. -/
def wholeValue? (x : Float) : Option Int :=
  match ofFloat x with
  | .finite negative b =>
    if floorInt negative b = ceilInt negative b then some (floorInt negative b) else none
  | _ => none

end Double

end Stencil.Number
