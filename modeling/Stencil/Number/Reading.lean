import Stencil.Number.Binary
import Stencil.Text.Blank
import Stencil.Text.Digit

/-!
# Reading numerals

The two numeral grammars of configuration values and command-line variables.

Before either grammar applies, every blank beyond ASCII becomes a space and
every decimal digit beyond ASCII becomes its ASCII digit (`numeralForm`); any
other character beyond ASCII can match nothing. Only the six ASCII blanks (space,
tab, line feed, carriage return, vertical tab, form feed) count as spaces in the
grammars.

* An integer numeral (`readInteger?`) is optional spaces, an optional sign,
  digits in groups joined by single underscores, and optional spaces: `" 7 "`,
  `"+3"`, `"1_000"`, `"٣"`. At most 4300 digits are read.
* A decimal numeral (`readDecimal?`) may join digits by single underscores
  anywhere in the text; with the underscores removed it is optional spaces, an
  optional sign, then either `inf`, `infinity` or `nan` in any case, or digits
  with an optional point and fraction (at least one digit in all) and an optional
  exponent, then optional spaces: `"1e3"`, `".5"`, `"5."`, `"-Infinity"`.

The value of a decimal numeral is the double nearest to it, a tie going to the
even mantissa; beyond the largest double it is an infinity, below half the least
one it is a zero of the numeral's sign.
-/

namespace Stencil.Number

open Stencil.Text

/-- A character of a numeral after blanks and digits beyond ASCII are put in ASCII
form: ASCII characters below U+007F stay as they are, so the ASCII separators
U+001C to U+001F are no blanks here; `none` for any other character that is
neither a blank nor a digit. -/
def numeralChar (c : Char) : Option Char :=
  if c.toNat < 0x7F then some c
  else if isBlank c then some ' '
  else match decimalDigitValue? c with
    | some d => some (Char.ofNat (0x30 + d))
    | none => none

/-- The ASCII form of a numeral; a character outside ASCII that is neither a blank
nor a digit becomes `?`, which no grammar accepts. -/
def numeralForm (s : String) : List Char :=
  s.toList.map fun c => (numeralChar c).getD '?'

/-- Whether a character is an ASCII blank. -/
def isAsciiSpace (c : Char) : Bool :=
  c = ' ' || c = '\t' || c = '\n' || c = '\r' || c = '\x0b' || c = '\x0c'

/-- The value of a run of ASCII digits. -/
def digitsValue (ds : List Char) : Nat :=
  ds.foldl (fun n d => 10 * n + (d.toNat - 0x30)) 0

/-- Read digit groups joined by single underscores, from the first digit; the
digits read and the rest, or `none` when an underscore is not between digits. -/
def groupedDigits : List Char → List Char → Option (List Char × List Char)
  | acc, '_' :: d :: rest =>
    if d.isDigit then groupedDigits (d :: acc) rest else none
  | _, ['_'] => none
  | acc, d :: rest =>
    if d.isDigit then groupedDigits (d :: acc) rest else some (acc.reverse, d :: rest)
  | acc, [] => some (acc.reverse, [])

/-- The largest number of digits that an integer numeral may have. -/
def integerDigitLimit : Nat := 4300

/-- The words for an integer numeral with more digits than `integerDigitLimit`. -/
def digitLimitMessage (digits : Nat) : String :=
  "Exceeds the limit (" ++ toString integerDigitLimit ++
    " digits) for integer string conversion: value has " ++ toString digits ++
    " digits; use sys.set_int_max_str_digits() to increase the limit"

/-- The words for writing out an integer of more digits than `integerDigitLimit`. -/
def writeLimitMessage : String :=
  "Exceeds the limit (" ++ toString integerDigitLimit ++
    " digits) for integer string conversion; use sys.set_int_max_str_digits() to increase the limit"

/-- Whether an integer has more digits than `integerDigitLimit`, so that it is not written
out in decimal. -/
def exceedsDigitLimit (n : Int) : Bool :=
  Nat.pow 10 integerDigitLimit ≤ n.natAbs

/-- Read an integer numeral. -/
def readInteger? (s : String) : Option Int :=
  let cs := (numeralForm s).dropWhile isAsciiSpace
  let (negative, body) :=
    match cs with
    | '-' :: rest => (true, rest)
    | '+' :: rest => (false, rest)
    | _ => (false, cs)
  match body with
  | d :: rest =>
    if d.isDigit then
      match groupedDigits [d] rest with
      | some (ds, tail) =>
        if tail.all isAsciiSpace && ds.length ≤ integerDigitLimit then
          some (Double.signed negative (digitsValue ds))
        else none
      | none => none
    else none
  | [] => none

/-- Remove underscores that stand between two digits; `none` when some underscore
does not. -/
def dropDigitUnderscores : Option Char → List Char → Option (List Char)
  | _, [] => some []
  | prev, '_' :: rest =>
    match prev, rest with
    | some p, d :: _ => if p.isDigit && d.isDigit then dropDigitUnderscores (some '_') rest else none
    | _, _ => none
  | _, c :: rest => (dropDigitUnderscores (some c) rest).map (c :: ·)

/-- A decimal numeral, read: its sign, its value as `digits * 10^exponent`, or a
special value. -/
inductive Numeral where
  | finite (negative : Bool) (digits : Nat) (exponent : Int)
  | infinity (negative : Bool)
  | notANumber
  deriving Repr, DecidableEq

/-- Whether two lists of characters agree up to ASCII case. -/
def sameLetters (a b : List Char) : Bool :=
  a.length = b.length && (a.zip b).all fun (x, y) => x.toLower = y.toLower

/-- Read the exponent part `e[sign]digits` at the start of a text; its value and the
rest, or `none` when there is no complete exponent part. -/
def exponentPart : List Char → Option (Int × List Char)
  | e :: rest =>
    if e = 'e' || e = 'E' then
      let (negative, body) :=
        match rest with
        | '-' :: r => (true, r)
        | '+' :: r => (false, r)
        | _ => (false, rest)
      let ds := body.takeWhile Char.isDigit
      if ds.isEmpty then none
      else some (Double.signed negative (digitsValue ds), body.dropWhile Char.isDigit)
    else none
  | [] => none

/-- Read the unsigned part of a decimal numeral, which must take the whole text. -/
def unsignedNumeral (negative : Bool) (cs : List Char) : Option Numeral :=
  if sameLetters cs "inf".toList || sameLetters cs "infinity".toList then
    some (.infinity negative)
  else if sameLetters cs "nan".toList then some .notANumber
  else
    let whole := cs.takeWhile Char.isDigit
    let afterWhole := cs.dropWhile Char.isDigit
    let (fraction, afterFraction) :=
      match afterWhole with
      | '.' :: rest => (rest.takeWhile Char.isDigit, rest.dropWhile Char.isDigit)
      | _ => ([], afterWhole)
    if whole.isEmpty && fraction.isEmpty then none
    else
      let mantissa := digitsValue (whole ++ fraction)
      let scale : Int := -(fraction.length : Int)
      match afterFraction with
      | [] => some (.finite negative mantissa scale)
      | rest =>
        match exponentPart rest with
        | some (e, []) => some (.finite negative mantissa (scale + e))
        | _ => none

/-- Read a decimal numeral. -/
def readNumeral? (s : String) : Option Numeral :=
  match dropDigitUnderscores none (numeralForm s) with
  | none => none
  | some cs =>
    let trimmed := ((cs.dropWhile isAsciiSpace).reverse.dropWhile isAsciiSpace).reverse
    match trimmed with
    | '-' :: rest => unsignedNumeral true rest
    | '+' :: rest => unsignedNumeral false rest
    | _ => unsignedNumeral false trimmed

/-- The number of decimal digits of a natural number. -/
def decimalLength (n : Nat) : Nat := (toString n).length

/-- The positive infinity. -/
def positiveInfinity : Float := 1 / 0

/-- The double nearest to `digits * 10^exponent`. Far above the largest double
the value is infinite and far below the least it is zero, so the power of ten is
only formed when the numeral's magnitude lies between `10^-400` and `10^400`. -/
def nearestDouble (negative : Bool) (digits : Nat) (exponent : Int) : Float :=
  let magnitude : Float :=
    if digits = 0 then 0
    else
      let lead := exponent + (decimalLength digits : Int)
      if 400 < lead then positiveInfinity
      else if lead < -400 then 0
      else Float.ofScientific digits (exponent < 0) exponent.natAbs
  if negative then -magnitude else magnitude

/-- The double that a numeral stands for. -/
def Numeral.toFloat : Numeral → Float
  | .finite negative digits exponent => nearestDouble negative digits exponent
  | .infinity negative => if negative then -positiveInfinity else positiveInfinity
  | .notANumber => 0 / 0

/-- Read a decimal numeral as a double. -/
def readDecimal? (s : String) : Option Float :=
  (readNumeral? s).map Numeral.toFloat

end Stencil.Number
