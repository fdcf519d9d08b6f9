/-!
# Sorted tables of code points

A character class of the Unicode database is a union of closed ranges of code
points. `RangeTable` keeps such a union as an ascending array of disjoint ranges
and answers membership by binary search; `RangeTable.Mem` is the plain statement
that a code point lies in one of the ranges.

`countAtMost` is the search underneath: for an array sorted by a key it
counts the entries whose key is at most a bound, so the last of them is the
entry that may contain the bound. Case-mapping runs and digit blocks are looked
up the same way.
-/

namespace Stencil.Text

/-- Count, among the entries at positions `lo ≤ i < hi` of an array sorted by `key`,
starting from `lo` entries already known to qualify, the entries whose key is at
most `n`. -/
def countAtMostFrom {α : Type} (key : α → Nat) (xs : Array α) (n : Nat) (lo hi : Nat) : Nat :=
  if lo < hi then
    let mid := (lo + hi) / 2
    match xs[mid]? with
    | some x =>
      if key x ≤ n then countAtMostFrom key xs n (mid + 1) hi
      else countAtMostFrom key xs n lo mid
    | none => lo
  else lo
termination_by hi - lo

/-- The number of entries whose key is at most `n`, in an array sorted by `key`. -/
def countAtMost {α : Type} (key : α → Nat) (xs : Array α) (n : Nat) : Nat :=
  countAtMostFrom key xs n 0 xs.size

/-- The last entry whose key is at most `n`, in an array sorted by `key`. -/
def lastAtMost? {α : Type} (key : α → Nat) (xs : Array α) (n : Nat) : Option α :=
  match countAtMost key xs n with
  | 0 => none
  | k + 1 => xs[k]?

/-- A set of code points, as closed ranges `(lo, hi)` in ascending order, pairwise
disjoint. -/
structure RangeTable where
  ranges : Array (Nat × Nat)

namespace RangeTable

/-- A code point belongs to the table when one of its ranges holds it. -/
def Mem (t : RangeTable) (n : Nat) : Prop :=
  ∃ r ∈ t.ranges.toList, r.1 ≤ n ∧ n ≤ r.2

/-- Membership by binary search: the range with the greatest lower end at most `n`
is the only one that can hold `n`. -/
def contains (t : RangeTable) (n : Nat) : Bool :=
  match lastAtMost? Prod.fst t.ranges n with
  | some r => decide (n ≤ r.2)
  | none => false

/-- Membership of a character. -/
def containsChar (t : RangeTable) (c : Char) : Bool :=
  t.contains c.toNat

end RangeTable

end Stencil.Text
