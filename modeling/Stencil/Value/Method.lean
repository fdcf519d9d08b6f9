import Stencil.Value.Basic
import Stencil.Text.Case
import Stencil.Text.Blank

/-!
# Methods of values

Each kind of value has a fixed table of methods, each with a number of
arguments and a line of documentation; some methods answer to a second name
(`to_s` and `to_string`, `reverse` and `rev`). Nil has no methods.

`Value.invoke` looks a method up by the receiver's kind and the name called,
checks the number of arguments, and applies it. Method results obey the rules of
values: every integer a method makes (an absolute value, a clamp, a length, an index
of `enumerate`, a rounded double) is checked against 64 signed bits and is an
overflow error outside them, so `Integer.abs` of `-2^63` fails.

Rounding is exact: `Float.to_i` and `Float.round` take the nearest integer to
the double's exact binary value, a half going away from zero, so
`0.49999999999999994` rounds to `0`, `2.5` to `3` and `-2.5` to `-3`.
String methods follow the Unicode rules of `Stencil.Text`: full case mapping,
blanks of every script for `trim`, and characters (code points) for `len` and
`reverse`.
-/

namespace Stencil

/-- The built-in methods. -/
inductive Builtin where
  | intAbs | intToS | intToF | intToI | intTimes | intClampZero | intClampOne
  | floatAbs | floatToS | floatToI | floatToF | floatRound | floatFloor | floatCeil | floatSqrt
  | strToS | strUpcase | strDowncase | strTrim | strCapitalize | strLen | strEmpty
  | strReverse | strReplace | strStartsWith | strEndsWith
  | boolToS
  | listLen | listEmpty | listEnumerate | listReverse | listFirst | listLast | listJoin
  | hashKeys | hashValues | hashIter | hashLen | hashEmpty
  | tupleLen
  deriving Repr, DecidableEq, Inhabited

namespace Builtin

/-- Every method, by kind in the order of `Kind.all`. -/
def all : List Builtin :=
  [.intAbs, .intToS, .intToF, .intToI, .intTimes, .intClampZero, .intClampOne,
   .floatAbs, .floatToS, .floatToI, .floatToF, .floatRound, .floatFloor, .floatCeil, .floatSqrt,
   .strToS, .strUpcase, .strDowncase, .strTrim, .strCapitalize, .strLen, .strEmpty,
   .strReverse, .strReplace, .strStartsWith, .strEndsWith,
   .boolToS,
   .listLen, .listEmpty, .listEnumerate, .listReverse, .listFirst, .listLast, .listJoin,
   .hashKeys, .hashValues, .hashIter, .hashLen, .hashEmpty,
   .tupleLen]

/-- The kind whose values have the method. -/
def kind : Builtin → Kind
  | .intAbs | .intToS | .intToF | .intToI | .intTimes | .intClampZero | .intClampOne => .integer
  | .floatAbs | .floatToS | .floatToI | .floatToF | .floatRound | .floatFloor | .floatCeil
  | .floatSqrt => .float
  | .strToS | .strUpcase | .strDowncase | .strTrim | .strCapitalize | .strLen | .strEmpty
  | .strReverse | .strReplace | .strStartsWith | .strEndsWith => .string
  | .boolToS => .bool
  | .listLen | .listEmpty | .listEnumerate | .listReverse | .listFirst | .listLast
  | .listJoin => .list
  | .hashKeys | .hashValues | .hashIter | .hashLen | .hashEmpty => .hash
  | .tupleLen => .tuple

/-- The names a method answers to, its own name first. -/
def names : Builtin → List String
  | .intAbs | .floatAbs => ["abs"]
  | .intToS | .floatToS | .strToS | .boolToS => ["to_s", "to_string"]
  | .intToF | .floatToF => ["to_f", "to_float"]
  | .intToI | .floatToI => ["to_i", "to_integer"]
  | .intTimes => ["times"]
  | .intClampZero => ["clamp_zero"]
  | .intClampOne => ["clamp_one"]
  | .floatRound => ["round"]
  | .floatFloor => ["floor"]
  | .floatCeil => ["ceil"]
  | .floatSqrt => ["sqrt"]
  | .strUpcase => ["upcase", "to_uppercase"]
  | .strDowncase => ["downcase", "to_lowercase"]
  | .strTrim => ["trim"]
  | .strCapitalize => ["capitalize"]
  | .strLen | .listLen | .hashLen | .tupleLen => ["len"]
  | .strEmpty | .listEmpty | .hashEmpty => ["empty"]
  | .strReverse | .listReverse => ["reverse", "rev"]
  | .strReplace => ["replace"]
  | .strStartsWith => ["starts_with"]
  | .strEndsWith => ["ends_with"]
  | .listEnumerate => ["enumerate"]
  | .listFirst => ["first"]
  | .listLast => ["last"]
  | .listJoin => ["join"]
  | .hashKeys => ["keys"]
  | .hashValues => ["values"]
  | .hashIter => ["iter"]

/-- The method's own name. -/
def primaryName (m : Builtin) : String := m.names.headD ""

/-- The number of arguments a method takes. -/
def arity : Builtin → Nat
  | .strReplace => 2
  | .strStartsWith | .strEndsWith | .listJoin => 1
  | _ => 0

/-- What a method does, in a line. -/
def doc : Builtin → String
  | .intAbs | .floatAbs => "absolute value"
  | .intToS => "decimal text"
  | .intToF => "widen to Float"
  | .intToI | .floatToF | .strToS => "identity"
  | .intTimes => "list of integers from 0 up to and including n"
  | .intClampZero => "n, or 0 when negative"
  | .intClampOne => "n, or 1 when below 1"
  | .floatToS => "shortest round-tripping decimal text"
  | .floatToI => "nearest integer, ties away from zero"
  | .floatRound => "nearest whole number, ties away from zero"
  | .floatFloor => "round toward negative infinity"
  | .floatCeil => "round toward positive infinity"
  | .floatSqrt => "square root"
  | .strUpcase => "upper-case every character"
  | .strDowncase => "lower-case every character"
  | .strTrim => "strip leading and trailing whitespace"
  | .strCapitalize => "upper-case the first character"
  | .strLen => "number of characters"
  | .strEmpty => "true when the string has no characters"
  | .strReverse => "characters in reverse order"
  | .strReplace => "replace every occurrence"
  | .strStartsWith => "prefix test"
  | .strEndsWith => "suffix test"
  | .boolToS => "true or false"
  | .listLen => "number of elements"
  | .listEmpty => "true when the list has no elements"
  | .listEnumerate => "list of (index, element) tuples"
  | .listReverse => "elements in reverse order"
  | .listFirst => "first element"
  | .listLast => "last element"
  | .listJoin => "text of every element joined by a separator"
  | .hashKeys => "keys in insertion order"
  | .hashValues => "values in insertion order"
  | .hashIter => "list of (key, value) tuples"
  | .hashLen => "number of entries"
  | .hashEmpty => "true when the hash has no entries"
  | .tupleLen => "number of elements"

/-- The method of a kind that answers to a name. -/
def find? (k : Kind) (name : String) : Option Builtin :=
  all.find? fun m => m.kind = k ∧ name ∈ m.names

/-- The names a kind's methods answer to, aliases included, in sorted order, each
with its method. -/
def namesOf (k : Kind) : List (String × Builtin) :=
  let pairs := (all.filter (·.kind = k)).flatMap fun m => m.names.map fun n => (n, m)
  pairs.mergeSort fun a b => decide (a.1 ≤ b.1)

end Builtin

namespace Number

open Stencil.Number

/-- The nearest integer to a double, a half going away from zero, or the error for a
NaN or an infinity. -/
def roundHalfAway (x : Float) : Except TemplateError Int :=
  match Double.ofFloat x with
  | .finite negative b => .ok (Double.roundHalfAwayInt negative b)
  | _ => .error (.ofFault (.cannotRound x))

/-- `⌊x⌋` as a double; a NaN or an infinity stays as it is. -/
def floorFloat (x : Float) : Float :=
  match Double.ofFloat x with
  | .finite negative b => Float.ofInt (Double.floorInt negative b)
  | _ => x

/-- `⌈x⌉` as a double; a NaN or an infinity stays as it is. -/
def ceilFloat (x : Float) : Float :=
  match Double.ofFloat x with
  | .finite negative b => Float.ofInt (Double.ceilInt negative b)
  | _ => x

end Number

namespace Text

/-- Replace every occurrence of `old` in a text by `new`, left to right without
overlaps; an empty `old` occurs before every character and at the end. -/
def replaceAll (s old new : List Char) : List Char :=
  match old with
  | [] => new ++ s.flatMap (fun c => c :: new)
  | o :: os => replaceFrom (o :: os) new s (s.length + 1)
where
  /-- Replace in `s`, with at most `fuel` steps, one per character passed. -/
  replaceFrom (old new s : List Char) : Nat → List Char
    | 0 => s
    | fuel + 1 =>
      match s with
      | [] => []
      | c :: rest =>
        if old.isPrefixOf (c :: rest) then new ++ replaceFrom old new ((c :: rest).drop old.length) fuel
        else c :: replaceFrom old new rest fuel

end Text

namespace Value

/-- The string an argument must be, or the error naming the method. -/
def stringArgument (method : String) : Value → Except TemplateError String
  | .str s => .ok s
  | v => .error (.ofFault (.methodArgument method v.kind))

/-- The texts of values in order, failing at the first value with no text. -/
def texts : List Value → Except TemplateError (List String)
  | [] => .ok []
  | v :: rest =>
    match v.text with
    | .error e => .error e
    | .ok t =>
      match texts rest with
      | .error e => .error e
      | .ok ts => .ok (t :: ts)

/-- The integers from `0` up to and including `n`. -/
def countUpTo (n : Nat) : List Value := (List.range (n + 1)).map fun (i : Nat) => Value.int i

/-- The pairs of each element's index, from `0`, and the element, in order, as tuples;
each index is an integer value, so it is checked against 64 signed bits. -/
def enumerated (items : List Value) : Except TemplateError (List Value) :=
  items.zipIdx.mapM fun (v, (i : Nat)) => (ofInt? i).map fun n => .tuple [n, v]

/-- Apply a method to a receiver of its kind and arguments of its number. -/
def applyBuiltin (m : Builtin) (self : Value) (args : List Value) : Except TemplateError Value :=
  match m, self, args with
  | .intAbs, .int n, _ => ofInt? n.natAbs
  | .intToS, .int n, _ => .ok (.str (toString n))
  | .intToF, .int n, _ => .ok (.float (Float.ofInt n))
  | .intToI, v, _ => .ok v
  | .intTimes, .int n, _ =>
    if n < 0 then .error (.ofFault (.negativeTimes n)) else .ok (.list (countUpTo n.toNat))
  | .intClampZero, .int n, _ => ofInt? (max n 0)
  | .intClampOne, .int n, _ => ofInt? (max n 1)
  | .floatAbs, .float x, _ => .ok (.float x.abs)
  | .floatToS, .float x, _ => .ok (.str (Number.floatText x))
  | .floatToI, .float x, _ =>
    match Number.roundHalfAway x with
    | .ok n => ofInt? n
    | .error e => .error e
  | .floatToF, v, _ => .ok v
  | .floatRound, .float x, _ => (Number.roundHalfAway x).map fun n => .float (Float.ofInt n)
  | .floatFloor, .float x, _ => .ok (.float (Number.floorFloat x))
  | .floatCeil, .float x, _ => .ok (.float (Number.ceilFloat x))
  | .floatSqrt, .float x, _ =>
    if x < 0 then .error (.ofFault (.negativeSqrt x)) else .ok (.float x.sqrt)
  | .strToS, v, _ => .ok v
  | .strUpcase, .str s, _ => .ok (.str (Text.toUpperCase s))
  | .strDowncase, .str s, _ => .ok (.str (Text.toLowerCase s))
  | .strTrim, .str s, _ => .ok (.str (Text.trimBlanks s))
  | .strCapitalize, .str s, _ =>
    match s.toList with
    | [] => .ok (.str "")
    | c :: rest => .ok (.str (String.ofList (Text.upperChar c ++ rest)))
  | .strLen, .str s, _ => ofInt? s.length
  | .strEmpty, .str s, _ => .ok (.bool s.isEmpty)
  | .strReverse, .str s, _ => .ok (.str (String.ofList s.toList.reverse))
  | .strReplace, .str s, [old, new] =>
    match stringArgument "replace" old with
    | .error e => .error e
    | .ok o =>
      match stringArgument "replace" new with
      | .error e => .error e
      | .ok n => .ok (.str (String.ofList (Text.replaceAll s.toList o.toList n.toList)))
  | .strStartsWith, .str s, [p] =>
    (stringArgument "starts_with" p).map fun pre => .bool (pre.toList.isPrefixOf s.toList)
  | .strEndsWith, .str s, [p] =>
    (stringArgument "ends_with" p).map fun suf => .bool (suf.toList.isSuffixOf s.toList)
  | .boolToS, .bool b, _ => .ok (.str (if b then "true" else "false"))
  | .listLen, .list items, _ => ofInt? items.length
  | .listEmpty, .list items, _ => .ok (.bool items.isEmpty)
  | .listEnumerate, .list items, _ => (enumerated items).map .list
  | .listReverse, .list items, _ => .ok (.list items.reverse)
  | .listFirst, .list items, _ =>
    match items.head? with
    | some v => .ok v
    | none => .error (.ofFault (.emptyList "first"))
  | .listLast, .list items, _ =>
    match items.getLast? with
    | some v => .ok v
    | none => .error (.ofFault (.emptyList "last"))
  | .listJoin, .list items, [sep] =>
    match stringArgument "join" sep with
    | .error e => .error e
    | .ok separator => (texts items).map fun ts => .str (separator.intercalate ts)
  | .hashKeys, .hash entries, _ => .ok (.list (entries.map fun (k, _) => .str k))
  | .hashValues, .hash entries, _ => .ok (.list (entries.map Prod.snd))
  | .hashIter, .hash entries, _ => .ok (.list (entries.map fun (k, v) => .tuple [.str k, v]))
  | .hashLen, .hash entries, _ => ofInt? entries.length
  | .hashEmpty, .hash entries, _ => .ok (.bool entries.isEmpty)
  | .tupleLen, .tuple items, _ => ofInt? items.length
  | m, v, _ => .error (.ofFault (.unknownMethod v.kind m.primaryName))

/-- Call a method by name on a value with arguments. -/
def invoke (self : Value) (name : String) (args : List Value) : Except TemplateError Value :=
  match Builtin.find? self.kind name with
  | none => .error (.ofFault (.unknownMethod self.kind name))
  | some m =>
    if args.length = m.arity then applyBuiltin m self args
    else .error (.ofFault (.methodArity self.kind name m.arity args.length))

end Value

end Stencil
