import Stencil.Number.Shortest

/-!
# The text of a double

How a double is written wherever a template shows one:

* the digits are the shortest that read back (`Binary.shortest`);
* the value is written positionally when its leading digit stands at a decimal
  exponent from `-4` to `15`, with `.0` after an integral value (`25.0`,
  `0.0001`, `1000000000000000.0`);
* otherwise in exponent form, with a point only when there is more than one
  digit, a signed exponent and at least two exponent digits (`1e+16`, `1e-05`,
  `1.7976931348623157e+308`);
* zero keeps its sign (`-0.0`), the infinities are `inf` and `-inf`, and every
  NaN is `nan`.
-/

namespace Stencil.Number

/-- The decimal digits of a natural number, most significant first. -/
def natDigits (n : Nat) : List Char := (toString n).toList

/-- The exponent part of exponent form: a sign and at least two digits. -/
def exponentText (e : Int) : String :=
  let digits := toString e.natAbs
  let padded := if digits.length < 2 then "0" ++ digits else digits
  (if e < 0 then "e-" else "e+") ++ padded

/-- Lay out significant digits `ds` whose leading digit stands at decimal exponent
`lead`: positionally for `-4 ≤ lead < 16`, else in exponent form. -/
def layoutDigits (ds : List Char) (lead : Int) : String :=
  if lead < -4 ∨ 16 ≤ lead then
    match ds with
    | [] => "0"
    | [d] => String.ofList [d] ++ exponentText lead
    | d :: rest => String.ofList (d :: '.' :: rest) ++ exponentText lead
  else
    let point := lead + 1
    if point ≤ 0 then
      "0." ++ String.ofList (List.replicate point.natAbs '0' ++ ds)
    else if ds.length ≤ point.toNat then
      String.ofList (ds ++ List.replicate (point.toNat - ds.length) '0') ++ ".0"
    else
      String.ofList (ds.take point.toNat ++ '.' :: ds.drop point.toNat)

/-- The text of a finite non-negative value. -/
def Binary.text (x : Binary) : String :=
  if x.isZero then "0.0"
  else
    let d := x.shortest
    let ds := natDigits d.digits
    layoutDigits ds (d.exponent + (ds.length : Int) - 1)

/-- The text of a double. -/
def Double.text : Double → String
  | .nan => "nan"
  | .infinite negative => if negative then "-inf" else "inf"
  | .finite negative x => (if negative then "-" else "") ++ x.text

/-- The text of a `Float`. -/
def floatText (x : Float) : String := (Double.ofFloat x).text

end Stencil.Number
