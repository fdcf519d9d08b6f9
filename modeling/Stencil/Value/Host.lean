import Stencil.Value.Basic
import Stencil.Number.Binary
import Stencil.Number.Reading

/-!
# Host data

The data a host hands to a template, before it becomes template values: nothing,
truth values, integers of any size, doubles, strings, lists, tuples, mappings
with keys of several kinds in insertion order, and values of other types that
templates cannot hold.

`HostData.wrap` turns host data into a value, depth first and left to right,
and fails on the first thing it cannot take: an integer outside 64 signed bits,
a mapping key that is not a string, or a value of another type. Nothing becomes
a truth value but a truth value, and nothing an integer but an integer. The error
for an integer outside the range writes the integer out, and the host refuses to
write out an integer of more than `Number.integerDigitLimit` digits: such an
integer fails with the host's failure instead.

`Value.unwrap` goes back. For host data that wraps, unwrapping gives it back
(floats keep their bits, keys their order); for a value whose integers fit,
wrapping its unwrapping gives the value back.
-/

namespace Stencil

/-- A key of a host mapping. -/
inductive HostKey where
  | str (s : String)
  | int (n : Int)
  | bool (b : Bool)
  | float (x : Float)
  | none
  deriving Inhabited

namespace HostKey

/-- The host type name of a key, as messages show it. -/
def typeName : HostKey → String
  | .str _ => "str"
  | .int _ => "int"
  | .bool _ => "bool"
  | .float _ => "float"
  | .none => "NoneType"

/-- The whole number a key stands for in comparisons: truth values count as `0` and
`1`, a double only when it is a whole number. -/
def number? : HostKey → Option Int
  | .int n => some n
  | .bool b => some (if b then 1 else 0)
  | .float x => Number.Double.wholeValue? x
  | _ => Option.none

/-- Whether two keys name the same entry of a mapping: equal strings, equal numbers
(a truth value as `0` or `1`, numbers compared exactly), or both nothing. -/
def same (a b : HostKey) : Bool :=
  match a, b with
  | .str x, .str y => x == y
  | .none, .none => true
  | .float x, .float y => x == y
  | _, _ =>
    match a.number?, b.number? with
    | some x, some y => x == y
    | _, _ => false

end HostKey

/-- Host data. -/
inductive HostData where
  | none
  | bool (b : Bool)
  | int (n : Int)
  | float (x : Float)
  | str (s : String)
  | list (items : List HostData)
  | tuple (items : List HostData)
  | dict (entries : List (HostKey × HostData))
  | other (typeName : String)
  deriving Inhabited

namespace HostData

/-- Put an entry into a mapping's entries: a key already there keeps its place and
takes the new value; a new key goes last. -/
def putEntry (key : HostKey) (value : HostData) :
    List (HostKey × HostData) → List (HostKey × HostData)
  | [] => [(key, value)]
  | (k, v) :: rest => if k.same key then (k, value) :: rest else (k, v) :: putEntry key value rest

/-- A mapping built from pairs in order, later pairs overriding earlier ones. -/
def dictOfPairs (pairs : List (HostKey × HostData)) : HostData :=
  .dict (pairs.foldl (fun acc (k, v) => putEntry k v acc) [])

/-- Putting an entry keeps the keys in place, adding the key last when no key
there names the same entry. -/
theorem keys_putEntry (k : HostKey) (v : HostData) (es : List (HostKey × HostData)) :
    (putEntry k v es).map (·.1) =
      if es.any (·.1.same k) then es.map (·.1) else es.map (·.1) ++ [k] := by
  induction es with
  | nil => simp [putEntry]
  | cons e rest ih =>
    obtain ⟨k', v'⟩ := e
    by_cases h : k'.same k
    · simp [putEntry, h]
    · by_cases h2 : rest.any (·.1.same k) <;> simp [putEntry, h, h2, ih]

mutual

/-- Turn host data into a template value. -/
def wrap : HostData → Except Failure Value
  | .none => .ok .nil
  | .bool b => .ok (.bool b)
  | .int n =>
    if Value.fitsInt n then .ok (.int n)
    else if Number.exceedsDigitLimit n then .error (.host ⟨"ValueError", Number.writeLimitMessage⟩)
    else .error (.ofFault (.hostIntegerRange n))
  | .float x => .ok (.float x)
  | .str s => .ok (.str s)
  | .list items => (wrapAll items).map .list
  | .tuple items => (wrapAll items).map .tuple
  | .dict entries => (wrapEntries entries).map .hash
  | .other typeName => .error (.ofFault (.hostValue typeName))

/-- Wrap a sequence, in order. -/
def wrapAll : List HostData → Except Failure (List Value)
  | [] => .ok []
  | d :: rest =>
    match wrap d with
    | .error e => .error e
    | .ok v =>
      match wrapAll rest with
      | .error e => .error e
      | .ok vs => .ok (v :: vs)

/-- Wrap a mapping's entries, in order, each key before its value. -/
def wrapEntries : List (HostKey × HostData) → Except Failure (List (String × Value))
  | [] => .ok []
  | (k, d) :: rest =>
    match k with
    | .str key =>
      match wrap d with
      | .error e => .error e
      | .ok v =>
        match wrapEntries rest with
        | .error e => .error e
        | .ok vs => .ok ((key, v) :: vs)
    | _ => .error (.ofFault (.hostKey k.typeName))

end

end HostData

mutual

/-- Turn a template value back into host data. -/
def Value.unwrap : Value → HostData
  | .int n => .int n
  | .float x => .float x
  | .str s => .str s
  | .bool b => .bool b
  | .nil => .none
  | .list items => .list (Value.unwrapAll items)
  | .tuple items => .tuple (Value.unwrapAll items)
  | .hash entries => .dict (Value.unwrapEntries entries)

/-- Unwrap a sequence. -/
def Value.unwrapAll : List Value → List HostData
  | [] => []
  | v :: rest => v.unwrap :: Value.unwrapAll rest

/-- Unwrap a hash's entries. -/
def Value.unwrapEntries : List (String × Value) → List (HostKey × HostData)
  | [] => []
  | (k, v) :: rest => (.str k, v.unwrap) :: Value.unwrapEntries rest

end

end Stencil
