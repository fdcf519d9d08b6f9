import Stencil.Proofs.IntegerRange

/-!
# Positional access and indexing on tuples

A tuple's element can be read two ways: by position, `t.i`, and by index, `t[i]`.
A template only ever writes natural positions, and for those the two ways agree
on every tuple: both read the element when the position is inside the tuple, and
both fail with an `IndexOutOfRange` error when it is not
(`Value.positionFrom_tuple_natural`, `Renderer.eval_position_index_literal`).

A host that asks for a position directly (`Value.positionFrom`) may give a
negative one. Positional access checks only that a position is below the
length, so a negative position counts from the end of the tuple as host
sequences do, and one before the first element is the host's own `IndexError`,
not a template error; indexing refuses every negative index. So the two agree
exactly at the natural positions (`Value.positionFrom_agrees_index_iff`).
-/

namespace Stencil

namespace Value

variable {items : List Value}

/-- Positional access and indexing agree: both read the same element, or both fail
with an `IndexOutOfRange` error. -/
def ReadsAlike (byPosition : Except Failure Value) (byIndex : Except TemplateError Value) :
    Prop :=
  (∃ x, byPosition = .ok x ∧ byIndex = .ok x) ∨
    ∃ e₁ e₂, byPosition = .error (.template e₁) ∧ byIndex = .error e₂ ∧
      e₁.errorClass = .indexOutOfRange ∧ e₂.errorClass = .indexOutOfRange

theorem positionFrom_tuple_of_lt {i : Nat} (h : i < items.length) :
    (tuple items).positionFrom i = .ok items[i] := by
  rw [positionFrom_ofNat, position_tuple_of_lt h]
  rfl

theorem positionFrom_tuple_of_le {i : Nat} (h : items.length ≤ i) :
    (tuple items).positionFrom i = .error (.template (.ofFault (.tupleIndexRange i items.length))) := by
  rw [positionFrom_ofNat, position_tuple_of_le h]
  rfl

theorem index_tuple_of_le {i : Nat} (h : items.length ≤ i) :
    (tuple items).index (.int i) = .error (.ofFault (.indexRange i .tuple items.length)) := by
  simp [index, List.getElem?_eq_none h, kind]

/-- Indexing never counts from the end. -/
theorem index_tuple_of_neg {i : Int} (h : i < 0) :
    (tuple items).index (.int i) = .error (.ofFault (.indexRange i .tuple items.length)) := by
  have notNat : ¬ 0 ≤ i := by omega
  simp [index, notNat, kind]

/-- A negative position within the length counts from the end of the tuple. -/
theorem positionFrom_tuple_of_neg {i : Int} {x : Value} (neg : i < 0)
    (within : -(items.length : Int) ≤ i) (fits : minInt ≤ i)
    (fromEnd : items[(items.length + i).toNat]? = some x) :
    (tuple items).positionFrom i = .ok x := by
  have notAbove : ¬ (items.length : Int) ≤ i := by omega
  have notNat : ¬ 0 ≤ i := by omega
  have notBelow : ¬ i < minInt := by omega
  have notBefore : ¬ (items.length : Int) + i < 0 := by omega
  simp [positionFrom, notAbove, notNat, notBelow, fromEnd, notBefore]

/-- A negative position before the first element is the host's own `IndexError`. -/
theorem positionFrom_tuple_before {i : Int} (before : i < -(items.length : Int))
    (fits : minInt ≤ i) :
    (tuple items).positionFrom i =
      .error (.host { className := "IndexError", message := "tuple index out of range" }) := by
  have notAbove : ¬ (items.length : Int) ≤ i := by omega
  have notNat : ¬ 0 ≤ i := by omega
  have notBelow : ¬ i < minInt := by omega
  have before' : (items.length : Int) + i < 0 := by omega
  simp only [positionFrom, notAbove, notNat, notBelow, if_false]
  split <;> simp [before', positionFrom.outOfRange]

/-- Positional access on anything but a tuple is a type mismatch. -/
theorem positionFrom_of_not_tuple {v : Value} (notTuple : ∀ items, v ≠ tuple items) (i : Int) :
    v.positionFrom i = .error (.template (.ofFault (.positionalAccess i v.kind))) := by
  cases v with
  | tuple items => exact absurd rfl (notTuple items)
  | _ => rfl

/-- At a natural position, positional access and indexing read a tuple alike. -/
theorem positionFrom_tuple_natural (i : Nat) :
    ReadsAlike ((tuple items).positionFrom i) ((tuple items).index (.int i)) := by
  by_cases inside : i < items.length
  · left
    exact ⟨items[i], positionFrom_tuple_of_lt inside, index_tuple_of_lt inside⟩
  · have outside : items.length ≤ i := Nat.le_of_not_lt inside
    right
    exact ⟨_, _, positionFrom_tuple_of_le outside, index_tuple_of_le outside, rfl, rfl⟩

/-- At a negative position, indexing fails while positional access reads an element
from the end, or fails as the host does: they never agree. -/
theorem positionFrom_tuple_negative {i : Int} (neg : i < 0) :
    ¬ ReadsAlike ((tuple items).positionFrom i) ((tuple items).index (.int i)) := by
  rw [index_tuple_of_neg neg]
  rintro (⟨x, -, h⟩ | ⟨e₁, e₂, byPosition, -, -, -⟩)
  · cases h
  · by_cases below : i < minInt
    · have notAbove : ¬ (items.length : Int) ≤ i := by omega
      have notNat : ¬ 0 ≤ i := by omega
      simp [positionFrom, notAbove, notNat, below] at byPosition
    · by_cases within : -(items.length : Int) ≤ i
      · have inside : (items.length + i).toNat < items.length := by omega
        rw [positionFrom_tuple_of_neg neg within (by omega) (List.getElem?_eq_getElem inside)]
          at byPosition
        cases byPosition
      · rw [positionFrom_tuple_before (by omega) (by omega)] at byPosition
        cases byPosition

/-- Positional access and indexing agree on a tuple exactly at natural positions. -/
theorem positionFrom_agrees_index_iff (i : Int) :
    ReadsAlike ((tuple items).positionFrom i) ((tuple items).index (.int i)) ↔ 0 ≤ i := by
  constructor
  · intro alike
    by_contra neg
    exact positionFrom_tuple_negative (by omega) alike
  · intro nonneg
    obtain ⟨n, rfl⟩ := Int.eq_ofNat_of_zero_le nonneg
    exact positionFrom_tuple_natural n

end Value

namespace Renderer

variable (r : Renderer) (host : HostBindings) (f : Frame)

/-- In a template, `x.N` and `x[N]` with a literal `N` read a tuple alike: the element
at `N`, or an `IndexOutOfRange` error placed at the access. -/
theorem eval_position_index_literal {x : Expr} {items : List Value} (span span' at_ : Span)
    {n : Nat} (literal : n ≤ largestIntLiteral) (tuple : r.eval host f x = .ok (.tuple items)) :
    (∀ inside : n < items.length,
      r.eval host f (.position span x n) = .ok items[n] ∧
        r.eval host f (.index span' x (.literal at_ (.int n))) = .ok items[n]) ∧
    (items.length ≤ n →
      r.eval host f (.position span x n) =
          .error (.at_ (.tupleIndexRange n items.length) span (f.lineOf span)) ∧
        r.eval host f (.index span' x (.literal at_ (.int n))) =
          .error (.at_ (.indexRange n .tuple items.length) span' (f.lineOf span'))) := by
  have key : r.eval host f (.literal at_ (.int n)) = .ok (.int n) := by
    have fits : Value.fitsInt n = true := by
      have largest : largestIntLiteral = 9223372036854775807 := by decide
      rw [Value.fitsInt_iff]
      omega
    rw [eval, Literal.toValue, Value.ofInt?_of_fits fits]
    rfl
  constructor
  · intro inside
    constructor
    · rw [eval, tuple]
      simp [Value.position_tuple_of_lt inside, Except.mapError, locate]
    · rw [eval, tuple, key]
      simp [Value.index_tuple_of_lt inside, Except.mapError, locate]
  · intro outside
    constructor
    · rw [eval, tuple]
      simp [Value.position_tuple_of_le outside, Except.mapError, locate, TemplateError.locate,
        TemplateError.ofFault, TemplateError.at_]
    · rw [eval, tuple, key]
      simp [Value.index_tuple_of_le outside, Except.mapError, locate, TemplateError.locate,
        TemplateError.ofFault, TemplateError.at_]

end Renderer

/-- Positional access and indexing on tuples. At a natural position they read a tuple
alike: the element when the position is inside, an `IndexOutOfRange` error past the end.
At a negative position they never agree: indexing fails, while positional access reads
the element that far from the end, or, before the first element, fails as the host does
with its `IndexError`. Positional access on anything but a tuple is a type mismatch. In a
template, where a position is a literal, `x.N` and `x[N]` read every tuple alike. -/
theorem Value.position_index_agree_iff_natural (items : List Value) (i : Int) :
    (Value.ReadsAlike ((Value.tuple items).positionFrom i) ((Value.tuple items).index (.int i)) ↔
      0 ≤ i) ∧
    (∀ (n : Nat) (inside : n < items.length),
      (Value.tuple items).positionFrom n = .ok items[n] ∧
        (Value.tuple items).index (.int n) = .ok items[n]) ∧
    (∀ n : Nat, items.length ≤ n →
      (Value.tuple items).positionFrom n =
          .error (.template (.ofFault (.tupleIndexRange n items.length))) ∧
        (Value.tuple items).index (.int n) = .error (.ofFault (.indexRange n .tuple items.length))) ∧
    (Value.minInt ≤ i → i < 0 → -(items.length : Int) ≤ i →
      ∃ x, items[(items.length + i).toNat]? = some x ∧ (Value.tuple items).positionFrom i = .ok x ∧
        (Value.tuple items).index (.int i) = .error (.ofFault (.indexRange i .tuple items.length))) ∧
    (Value.minInt ≤ i → i < -(items.length : Int) →
      (Value.tuple items).positionFrom i =
        .error (.host { className := "IndexError", message := "tuple index out of range" })) ∧
    (∀ v : Value, (∀ xs, v ≠ .tuple xs) →
      ∃ e, v.positionFrom i = .error (.template e) ∧ e.errorClass = .typeMismatch) ∧
    (∀ (r : Renderer) (host : HostBindings) (f : Frame) (x : Expr) (span span' at_ : Span) (n : Nat),
      n ≤ largestIntLiteral → r.eval host f x = .ok (.tuple items) →
      (∀ inside : n < items.length,
        r.eval host f (.position span x n) = .ok items[n] ∧
          r.eval host f (.index span' x (.literal at_ (.int n))) = .ok items[n]) ∧
      (items.length ≤ n →
        r.eval host f (.position span x n) =
            .error (.at_ (.tupleIndexRange n items.length) span (f.lineOf span)) ∧
          r.eval host f (.index span' x (.literal at_ (.int n))) =
            .error (.at_ (.indexRange n .tuple items.length) span' (f.lineOf span')))) := by
  refine ⟨Value.positionFrom_agrees_index_iff i, ?_, ?_, ?_, ?_, ?_, ?_⟩
  · intro n inside
    exact ⟨Value.positionFrom_tuple_of_lt inside, Value.index_tuple_of_lt inside⟩
  · intro n outside
    exact ⟨Value.positionFrom_tuple_of_le outside, Value.index_tuple_of_le outside⟩
  · intro fits neg within
    have inside : (items.length + i).toNat < items.length := by omega
    have fromEnd := List.getElem?_eq_getElem inside
    exact ⟨_, fromEnd, Value.positionFrom_tuple_of_neg neg within fits fromEnd,
      Value.index_tuple_of_neg neg⟩
  · intro fits before
    exact Value.positionFrom_tuple_before before fits
  · intro v notTuple
    exact ⟨_, Value.positionFrom_of_not_tuple notTuple i, rfl⟩
  · intro r host f x span span' at_ n literal tuple
    exact Renderer.eval_position_index_literal r host f span span' at_ literal tuple

/-- The pair `(1, 2)` read at `-1`: positional access gives its last element, indexing
fails. -/
theorem Value.position_index_agree_iff_natural_last :
    (Value.tuple [.int 1, .int 2]).positionFrom (-1) = .ok (.int 2) ∧
      (Value.tuple [.int 1, .int 2]).index (.int (-1)) =
        .error (.ofFault (.indexRange (-1) .tuple 2)) := by
  obtain ⟨x, last, byPosition, byIndex⟩ :=
    (Value.position_index_agree_iff_natural [.int 1, .int 2] (-1)).2.2.2.1 (by decide) (by decide)
      (by decide)
  simp only [List.length_cons, List.length_nil] at last byIndex
  cases last
  exact ⟨byPosition, byIndex⟩

end Stencil
