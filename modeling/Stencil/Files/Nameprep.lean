import Stencil.Text.RangeTable
import Stencil.Text.Quoted
import Stencil.Files.Nameprep.Mapping
import Stencil.Files.Nameprep.Decomposition
import Stencil.Files.Nameprep.Classes

/-!
# Nameprep

Nameprep (RFC 3491) prepares a label of a domain name: it maps each character
(`Nameprep/Mapping`), normalizes the result to its compatibility composed form,
refuses a prohibited character, and checks the bidirectional rule: a label that
holds a right-to-left character holds no left-to-right one, and starts and ends
with right-to-left characters. Characters that were unassigned are let through.

```
Invalid character '　'
Violation of BIDI requirement 2
Violation of BIDI requirement 3
```

Normalization decomposes each character fully (`Nameprep/Decomposition`; a Hangul
syllable into its leading consonant, vowel and trailing consonant by rule), puts
each run of combining marks in order of combining class, marks of one class keeping
their order, and composes again from left to right. A leading consonant followed by
a vowel, and a trailing consonant if one comes next, make a syllable. Any other
character absorbs, one after another, the later characters that compose with it
(`Nameprep/Classes`), up to the next starter that does not compose; a mark that does
not compose blocks the marks after it of the same or a lower class.
-/

namespace Stencil.Files.Nameprep

open Stencil.Text

/-- The characters that map to nothing. -/
def removedTable : RangeTable := ⟨removedRanges.toArray⟩

/-- The case foldings, sorted by code point. -/
def foldingTable : Array (Nat × String) := foldings.toArray

/-- The compatibility decompositions, sorted by code point. -/
def decompositionTable : Array (Nat × String) := decompositions.toArray

/-- The runs of combining classes, sorted by their first code point. -/
def combiningTable : Array (Nat × Nat × Nat) := combiningRuns.toArray

/-- The number of code points; a pair of code points is keyed by the first times this
plus the second. -/
def codeSpace : Nat := 0x110000

/-- The composition pairs keyed by their two characters, in increasing order. -/
def compositionTable : Array (Nat × Nat) :=
  (compositionPairs.map fun (a, b, c) => (a * codeSpace + b, c)).toArray

/-- The prohibited characters. -/
def prohibitedTable : RangeTable := ⟨prohibitedRanges.toArray⟩

/-- The right-to-left characters. -/
def rightToLeftTable : RangeTable := ⟨rightToLeftRanges.toArray⟩

/-- The left-to-right characters. -/
def leftToRightTable : RangeTable := ⟨leftToRightRanges.toArray⟩

/-- The entry of a table sorted by code point whose code point is `n`. -/
def entry? {α : Type} (table : Array (Nat × α)) (n : Nat) : Option α :=
  match lastAtMost? Prod.fst table n with
  | some (k, v) => if k = n then some v else none
  | none => none

/-! ## Mapping -/

/-- The characters that a character maps to. -/
def mapChar (c : Char) : List Char :=
  if removedTable.containsChar c then []
  else
    match entry? foldingTable c.toNat with
    | some s => s.toList
    | none => [c]

/-! ## Hangul syllables -/

/-- The first Hangul syllable. -/
def syllableBase : Nat := 0xAC00

/-- The first leading consonant, vowel and trailing consonant (less one). -/
def leadingBase : Nat := 0x1100
def vowelBase : Nat := 0x1161
def trailingBase : Nat := 0x11A7

/-- The numbers of leading consonants, vowels and trailing consonants (with none). -/
def leadingCount : Nat := 19
def vowelCount : Nat := 21
def trailingCount : Nat := 28

/-- The number of syllables with one leading consonant. -/
def syllablesPerLeading : Nat := vowelCount * trailingCount

/-- Whether a code point is a Hangul syllable. -/
def isSyllable (n : Nat) : Bool :=
  syllableBase ≤ n && n < syllableBase + leadingCount * syllablesPerLeading

/-- Whether a code point is a leading consonant, a vowel or a trailing consonant that
syllables are made of. -/
def isLeading (n : Nat) : Bool := leadingBase ≤ n && n < leadingBase + leadingCount
def isVowel (n : Nat) : Bool := vowelBase ≤ n && n < vowelBase + vowelCount
def isTrailing (n : Nat) : Bool := trailingBase < n && n < trailingBase + trailingCount

/-- The parts of a Hangul syllable. -/
def syllableParts (n : Nat) : List Nat :=
  let index := n - syllableBase
  let trailing := index % trailingCount
  [leadingBase + index / syllablesPerLeading,
    vowelBase + index % syllablesPerLeading / trailingCount] ++
    (if trailing = 0 then [] else [trailingBase + trailing])

/-- The trailing consonant at the start of a text, or `trailingBase` for none, and
the rest of the text. -/
def takeTrailing : List Nat → Nat × List Nat
  | t :: after => if isTrailing t then (t, after) else (trailingBase, t :: after)
  | [] => (trailingBase, [])

theorem takeTrailing_length (ns : List Nat) : (takeTrailing ns).2.length ≤ ns.length := by
  cases ns with
  | nil => simp [takeTrailing]
  | cons t after =>
    simp only [takeTrailing]
    split <;> simp

/-- The syllable of a leading consonant, a vowel and a trailing consonant, or
`trailingBase` for none. -/
def syllable (leading vowel trailing : Nat) : Nat :=
  syllableBase + ((leading - leadingBase) * vowelCount + (vowel - vowelBase)) * trailingCount +
    (trailing - trailingBase)

/-! ## Normalization -/

/-- The full compatibility decomposition of a code point. -/
def decompose (n : Nat) : List Nat :=
  if isSyllable n then syllableParts n
  else
    match entry? decompositionTable n with
    | some s => s.toList.map Char.toNat
    | none => [n]

/-- The canonical combining class of a code point. -/
def combiningClass (n : Nat) : Nat :=
  match lastAtMost? Prod.fst combiningTable n with
  | some (_, last, cls) => if n ≤ last then cls else 0
  | none => 0

/-- The composite of two code points, if they compose. -/
def compose? (a b : Nat) : Option Nat :=
  entry? compositionTable (a * codeSpace + b)

/-- Whether a code point is the first of some composition pair. -/
def startsPair (a : Nat) : Bool :=
  match lastAtMost? Prod.fst compositionTable (a * codeSpace + (codeSpace - 1)) with
  | some (k, _) => k / codeSpace = a
  | none => false

/-- The facts about characters that ordering marks and composing use. -/
structure Composition where
  /-- The canonical combining class of a code point; 0 for a starter. -/
  classOf : Nat → Nat
  /-- The composite of two code points, if they compose. -/
  pair? : Nat → Nat → Option Nat
  /-- Whether a code point is the first of some pair that composes. -/
  startsPair : Nat → Bool

namespace Composition

/-- Marks in order of combining class, marks of one class keeping their order. -/
def sortMarks (k : Composition) (marks : List Nat) : List Nat :=
  marks.mergeSort fun a b => k.classOf a ≤ k.classOf b

/-- Put each run of marks in order, with the current run `run` kept in reverse. -/
def orderMarksFrom (k : Composition) (run : List Nat) : List Nat → List Nat
  | [] => k.sortMarks run.reverse
  | n :: rest =>
    if k.classOf n = 0 then k.sortMarks run.reverse ++ n :: k.orderMarksFrom [] rest
    else k.orderMarksFrom (n :: run) rest

/-- Compose the characters after a starter `s` into it, from left to right: the new
starter and the characters that stay. `blocking` is the class of the last mark that
stayed, or 0 if none did; a later mark of that class or a lower one is blocked, and
so is everything after a starter once a mark stayed. -/
def absorb (k : Composition) (s blocking : Nat) : List Nat → Nat × List Nat
  | [] => (s, [])
  | n :: rest =>
    let cls := k.classOf n
    if blocking ≠ 0 ∧ cls = 0 then (s, n :: rest)
    else if blocking ≠ 0 ∧ cls ≤ blocking then (k.absorb s blocking rest).map id (n :: ·)
    else
      match k.pair? s n with
      | some c => if k.startsPair c then k.absorb c blocking rest else (c, rest)
      | none => if cls = 0 then (s, n :: rest) else (k.absorb s cls rest).map id (n :: ·)

/-- What stays after absorbing is never longer than what was there. -/
theorem absorb_length (k : Composition) (s blocking : Nat) (ns : List Nat) :
    (k.absorb s blocking ns).2.length ≤ ns.length := by
  induction ns generalizing s blocking with
  | nil => simp [absorb]
  | cons n rest ih =>
    simp only [absorb]
    split
    · simp
    · split
      · have := ih s blocking
        simp only [Prod.map_snd, List.length_cons]
        omega
      · split
        · next c _ =>
          split
          · have := ih c blocking
            simp only [List.length_cons]
            omega
          · simp
        · split
          · simp
          · have := ih s (k.classOf n)
            simp only [Prod.map_snd, List.length_cons]
            omega

/-- Compose a decomposed text whose marks are in order. -/
def composeFrom (k : Composition) : List Nat → List Nat
  | [] => []
  | [n] => [n]
  | n :: v :: more =>
    if isLeading n ∧ isVowel v then
      let trailing := takeTrailing more
      syllable n v trailing.1 :: k.composeFrom trailing.2
    else if k.startsPair n then
      let absorbed := k.absorb n 0 (v :: more)
      absorbed.1 :: k.composeFrom absorbed.2
    else n :: k.composeFrom (v :: more)
termination_by ns => ns.length
decreasing_by
  all_goals first
    | exact Nat.lt_of_le_of_lt (takeTrailing_length _) (by simp only [List.length_cons]; omega)
    | exact Nat.lt_of_le_of_lt (absorb_length _ _ _ _) (by simp only [List.length_cons]; omega)
    | (simp only [List.length_cons]; omega)

end Composition

/-- Ordering and composing by the Unicode database. -/
def unicodeComposition : Composition where
  classOf := combiningClass
  pair? := compose?
  startsPair := startsPair

/-- The compatibility composed form of a text. -/
def normalize (cs : List Char) : List Char :=
  let k := unicodeComposition
  (k.composeFrom (k.orderMarksFrom [] (cs.flatMap fun c => decompose c.toNat))).map Char.ofNat

/-! ## Preparing a label -/

/-- A label prepared by nameprep, or the reason it is refused. -/
def prepare (label : List Char) : Except String (List Char) :=
  let prepared := normalize (label.flatMap mapChar)
  match prepared.find? prohibitedTable.containsChar with
  | some c => .error ("Invalid character " ++ Text.quote c.toString)
  | none =>
    let rightToLeft := prepared.map rightToLeftTable.containsChar
    if rightToLeft.any id then
      if prepared.any leftToRightTable.containsChar then .error "Violation of BIDI requirement 2"
      else if rightToLeft.head? = some true ∧ rightToLeft.getLast? = some true then .ok prepared
      else .error "Violation of BIDI requirement 3"
    else .ok prepared

end Stencil.Files.Nameprep
