import Stencil.Value.Basic

/-!
# Reading parts of values

Two ways to read a part of a value:

* `Value.position v i`, written `v.i` in a template, reads the `i`-th element of
  a tuple, counting from `0`;
* `Value.index v k`, written `v[k]`, reads an element of a list or a tuple by an
  integer between `0` and the length, or the entry of a hash under a string key.

A template can only write natural positions. A host asking for a position may
also give a negative one, which counts from the end as in host sequences
(`-1` is the last element); `Value.positionFrom` reads those, and a negative
position before the first element, or below the least index a host can hold, is a
host failure, not a template error.
Indexing never counts from the end: `[1, 2][-1]` is an error.

Below the window, a position and an index read the same element of a tuple
(`position_tuple_of_lt`, `index_tuple_of_lt`), and a host's natural position reads
as a template's (`positionFrom_ofNat`).
-/

namespace Stencil

namespace Value

/-- The element at a position of a tuple, counting from `0`. -/
def position (v : Value) (i : Nat) : Except TemplateError Value :=
  match v with
  | .tuple items =>
    match items[i]? with
    | some x => .ok x
    | none => .error (.ofFault (.tupleIndexRange i items.length))
  | _ => .error (.ofFault (.positionalAccess i v.kind))

/-- The element at a position of a tuple given by a host: a natural position
counts from the start, a negative one from the end. -/
def positionFrom (v : Value) (i : Int) : Except Failure Value :=
  match v with
  | .tuple items =>
    if items.length ≤ i then .error (.template (.ofFault (.tupleIndexRange i items.length)))
    else if 0 ≤ i then
      match items[i.toNat]? with
      | some x => .ok x
      | none => .error (.template (.ofFault (.tupleIndexRange i items.length)))
    else if i < minInt then
      .error (.host { className := "IndexError",
                      message := "cannot fit 'int' into an index-sized integer" })
    else
      match items[(items.length + i).toNat]? with
      | some x => if items.length + i < 0 then outOfRange else .ok x
      | none => outOfRange
  | _ => .error (.template (.ofFault (.positionalAccess i v.kind)))
where
  /-- The host's failure for a position before the first element. -/
  outOfRange : Except Failure Value :=
    .error (.host { className := "IndexError", message := "tuple index out of range" })

/-- The element of a list or a tuple at an integer index, or the entry of a hash
under a string key. -/
def index (v key : Value) : Except TemplateError Value :=
  match v with
  | .list items | .tuple items =>
    match key with
    | .int i =>
      if 0 ≤ i then
        match items[i.toNat]? with
        | some x => .ok x
        | none => .error (.ofFault (.indexRange i v.kind items.length))
      else .error (.ofFault (.indexRange i v.kind items.length))
    | _ => .error (.ofFault (.indexKind v.kind key.kind))
  | .hash entries =>
    match key with
    | .str k =>
      match lookupEntry k entries with
      | some x => .ok x
      | none => .error (.ofFault (.missingKey k))
    | _ => .error (.ofFault (.hashKeyKind key.kind))
  | _ => .error (.ofFault (.notIndexable v.kind))

theorem position_tuple_of_lt {xs : List Value} {i : Nat} (h : i < xs.length) :
    (Value.tuple xs).position i = .ok xs[i] := by
  simp [position, h]

theorem position_tuple_of_le {xs : List Value} {i : Nat} (h : xs.length ≤ i) :
    (Value.tuple xs).position i = .error (.ofFault (.tupleIndexRange i xs.length)) := by
  simp [position, List.getElem?_eq_none h]

theorem index_tuple_of_lt {xs : List Value} {i : Nat} (h : i < xs.length) :
    (Value.tuple xs).index (.int i) = .ok xs[i] := by
  simp [index, h]

theorem index_list_of_lt {xs : List Value} {i : Nat} (h : i < xs.length) :
    (Value.list xs).index (.int i) = .ok xs[i] := by
  simp [index, h]

/-- A natural position given by a host reads as the same position in a template. -/
theorem positionFrom_ofNat (v : Value) (i : Nat) :
    v.positionFrom i = (v.position i).mapError .template := by
  cases v with
  | tuple xs =>
    simp only [positionFrom, position]
    by_cases h : i < xs.length
    · have h1 : ¬ ((xs.length : Int) ≤ (i : Int)) := by omega
      simp [h1, h]
      rfl
    · have h1 : ((xs.length : Int) ≤ (i : Int)) := by omega
      simp [h1, List.getElem?_eq_none (Nat.le_of_not_lt h)]
      rfl
  | _ => rfl

end Value

end Stencil
