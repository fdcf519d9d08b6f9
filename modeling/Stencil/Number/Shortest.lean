import Stencil.Number.Binary

/-!
# The shortest decimal that reads back

A finite double stands for every real number that rounds to it: the interval
from halfway to its lower neighbour to halfway to its upper neighbour, both ends
included when the mantissa is even (reading rounds halves to even).
`Binary.readsBack` tests whether a decimal lies in that interval, by comparing
integers only.

`Binary.shortest` selects the decimal that is printed: the one with the fewest
significant digits that reads back, and of two such the nearer to the value, an
exact tie going to the even digits. The search walks the decimal grids
`10^(k-1), 10^(k-2), …` below the leading digit and tries the value's two
neighbours on each, since if any point of a grid lies in the interval, one of
them does.
-/

namespace Stencil.Number

/-- A decimal number `digits * 10^exponent`. -/
structure Decimal where
  digits : Nat
  exponent : Int
  deriving Repr, DecidableEq

/-- Compare `a * 10^i` with `n * 2^j`, exactly. -/
def compareScaled (a : Nat) (i : Int) (n : Nat) (j : Int) : Ordering :=
  compare (a * Nat.pow 10 i.toNat * Nat.pow 2 (-j).toNat) (n * Nat.pow 2 j.toNat * Nat.pow 10 (-i).toNat)

namespace Binary

/-- Whether a decimal lies among the reals that round to this value. -/
def readsBack (x : Binary) (d : Decimal) : Bool :=
  let lower := if x.narrowBelow then 4 * x.mantissa - 1 else 4 * x.mantissa - 2
  let upper := 4 * x.mantissa + 2
  let closed := x.mantissa % 2 == 0
  let atLower := compareScaled d.digits d.exponent lower (x.exponent - 2)
  let atUpper := compareScaled d.digits d.exponent upper (x.exponent - 2)
  (atLower == .gt || (closed && atLower == .eq)) &&
    (atUpper == .lt || (closed && atUpper == .eq))

/-- Whether the value is below `10^k`. -/
def belowPowerOfTen (x : Binary) (k : Int) : Bool :=
  compareScaled 1 k x.mantissa x.exponent == .gt

/-- A first guess at the least `k` with the value below `10^k`, from the binary
length of the value: `log10 2` is a little above `0.30103`. -/
def scaleGuess (x : Binary) : Int :=
  ((Nat.log2 x.mantissa + 1 : Int) + x.exponent) * 30103 / 100000

/-- Move a guess `k` up or down, at most `fuel` steps, toward the least `k` with the
value below `10^k`. -/
def correctScale (x : Binary) : Nat → Int → Int
  | 0, k => k
  | fuel + 1, k =>
    if !x.belowPowerOfTen k then correctScale x fuel (k + 1)
    else if x.belowPowerOfTen (k - 1) then correctScale x fuel (k - 1)
    else k

/-- The least `k` with the value below `10^k`, for a value that is not zero. -/
def scale (x : Binary) : Int := x.correctScale 8 x.scaleGuess

/-- The floor of the value divided by `10^g`. -/
def quotientByPowerOfTen (x : Binary) (g : Int) : Nat :=
  (x.mantissa * Nat.pow 2 x.exponent.toNat * Nat.pow 10 (-g).toNat) /
    (Nat.pow 2 (-x.exponent).toNat * Nat.pow 10 g.toNat)

/-- The decimal chosen on the grid `10^g`, if one of the value's two neighbours on
that grid reads back: the nearer one, an exact tie going to the even one. -/
def onGrid (x : Binary) (g : Int) : Option Decimal :=
  let below := x.quotientByPowerOfTen g
  let low : Decimal := ⟨below, g⟩
  let high : Decimal := ⟨below + 1, g⟩
  match x.readsBack low, x.readsBack high with
  | false, false => none
  | true, false => some low
  | false, true => some high
  | true, true =>
    -- twice the value against the midpoint of the two neighbours
    match compareScaled (2 * below + 1) g (2 * x.mantissa) x.exponent with
    | .gt => some low
    | .lt => some high
    | .eq => if below % 2 = 0 then some low else some high

/-- The first grid, of `10^(k-1)` down to `10^(k-count)`, on which a decimal reads back. -/
def firstOnGrids (x : Binary) (k : Int) : Nat → Nat → Option Decimal
  | 0, _ => none
  | count + 1, n =>
    match x.onGrid (k - n) with
    | some d => some d
    | none => firstOnGrids x k count (n + 1)

/-- The exact decimal value of `m * 2^q`, used only if no grid has a decimal that
reads back (seventeen digits always suffice). -/
def exactDecimal (x : Binary) : Decimal :=
  if 0 ≤ x.exponent then ⟨x.mantissa * Nat.pow 2 x.exponent.toNat, 0⟩
  else ⟨x.mantissa * Nat.pow 5 (-x.exponent).toNat, x.exponent⟩

end Binary

/-- Move trailing zeros of the digits into the exponent. -/
def Decimal.normalize : Nat → Decimal → Decimal
  | 0, d => d
  | fuel + 1, d =>
    if d.digits ≠ 0 ∧ d.digits % 10 = 0 then
      Decimal.normalize fuel ⟨d.digits / 10, d.exponent + 1⟩
    else d

namespace Binary

/-- The decimal printed for a finite non-zero value: fewest digits, then nearest. -/
def shortest (x : Binary) : Decimal :=
  let d := (x.firstOnGrids x.scale 17 1).getD x.exactDecimal
  Decimal.normalize (Nat.log2 d.digits + 1) d

end Binary

end Stencil.Number
