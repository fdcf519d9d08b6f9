import Stencil.Value.Kind
import Stencil.Error
import Stencil.Number.Notation

/-!
# Template values

The values a template computes with: integers of 64 signed bits, doubles,
strings, truth values, lists, hashes (string keys in insertion order, each key
once), tuples of fixed length, and nil. Values never change; operations build
new ones.

Two values are equal (`Value.equal`) when

* both are numbers and equal as numbers, an integer taken as the double nearest
  to it when compared with a double; a NaN equals nothing;
* both are lists, or both tuples, of the same length with equal elements in order;
* both are hashes with the same keys, in any order, and equal values under each key;
* both are strings, truth values or nil, and the same.

A truth value is never equal to a number, and a list never to a tuple.

The text of a value (`Value.text`) is what an output tag writes: a string
itself, an integer in decimal, a double as `Number.floatText` writes it, `true`
or `false`; the other kinds have no text.
-/

namespace Stencil

/-- Template values. -/
inductive Value where
  | int (n : Int)
  | float (x : Float)
  | str (s : String)
  | bool (b : Bool)
  | list (items : List Value)
  | hash (entries : List (String × Value))
  | tuple (items : List Value)
  | nil
  deriving Inhabited

/-- The least integer a value can hold, `-2^63`. -/
def Value.minInt : Int := -Int.pow 2 63

/-- The greatest integer a value can hold, `2^63 - 1`. -/
def Value.maxInt : Int := Int.pow 2 63 - 1

/-- Whether an integer fits in 64 signed bits. -/
def Value.fitsInt (n : Int) : Bool := decide (Value.minInt ≤ n ∧ n ≤ Value.maxInt)

namespace Value

/-- The kind of a value. -/
def kind : Value → Kind
  | .int _ => .integer
  | .float _ => .float
  | .str _ => .string
  | .bool _ => .bool
  | .list _ => .list
  | .hash _ => .hash
  | .tuple _ => .tuple
  | .nil => .nil

/-- An integer value, or the overflow error when it does not fit in 64 signed bits. -/
def ofInt? (n : Int) : Except TemplateError Value :=
  if fitsInt n then .ok (.int n) else .error (.ofFault (.overflow n))

/-- The value under a key of a hash's entries. -/
def lookupEntry (key : String) : List (String × Value) → Option Value
  | [] => none
  | (k, v) :: rest => if k = key then some v else lookupEntry key rest

mutual

/-- Template equality. -/
def equal : Value → Value → Bool
  | .int a, .int b => a == b
  | .float a, .float b => a == b
  | .int a, .float b => Float.ofInt a == b
  | .float a, .int b => a == Float.ofInt b
  | .str a, .str b => a == b
  | .bool a, .bool b => a == b
  | .nil, .nil => true
  | .list a, .list b => equalItems a b
  | .tuple a, .tuple b => equalItems a b
  | .hash a, .hash b => a.length == b.length && equalUnder a b
  | _, _ => false

/-- Equality of two sequences of elements, element by element. -/
def equalItems : List Value → List Value → Bool
  | [], [] => true
  | a :: as, b :: bs => equal a b && equalItems as bs
  | _, _ => false

/-- Whether every key of the first entries is a key of `other`, with equal values. -/
def equalUnder : List (String × Value) → List (String × Value) → Bool
  | [], _ => true
  | (k, v) :: rest, other =>
    match lookupEntry k other with
    | some w => equal v w && equalUnder rest other
    | none => false

end

/-- The text an output tag writes for a value, or the error for a kind with no text. -/
def text : Value → Except TemplateError String
  | .str s => .ok s
  | .int n => .ok (toString n)
  | .float x => .ok (Number.floatText x)
  | .bool b => .ok (if b then "true" else "false")
  | v => .error (.ofFault (.noText v.kind))

end Value

end Stencil
