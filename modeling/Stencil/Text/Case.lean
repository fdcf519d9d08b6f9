import Stencil.Text.CaseTable

/-!
# Upper and lower case

Full case mapping of texts by the tables of `Stencil.Text.CaseTable`: every
character maps to one or more characters, so a text may grow (`straße` becomes
`STRASSE`).

Lower case has one rule that looks at the neighbours: the capital sigma `Σ`
becomes the final sigma `ς` when it ends a word, that is when the nearest
character before it that is not case-ignorable exists and is cased, and the
nearest such character after it does not exist or is not cased. Elsewhere it
becomes `σ`. So `ΟΔΟΣ` becomes `οδος` and `ΣΑΣ` becomes `σας`.
-/

namespace Stencil.Text

/-- The image of a code point under a table of runs, if a run moves it. -/
def CaseRun.apply? (runs : Array CaseRun) (n : Nat) : Option Nat :=
  match lastAtMost? CaseRun.first runs n with
  | some r =>
    if n ≤ r.last ∧ (n - r.first) % r.step = 0 then some (Int.toNat (n + r.shift))
    else none
  | none => none

/-- The image of a character under a full case mapping given by runs and expansions. -/
def mapCase (runs : Array CaseRun) (expansions : Array (Nat × String)) (c : Char) : List Char :=
  let expansion :=
    match lastAtMost? Prod.fst expansions c.toNat with
    | some (k, s) => if k = c.toNat then some s.toList else none
    | none => none
  match expansion with
  | some cs => cs
  | none =>
    match CaseRun.apply? runs c.toNat with
    | some n => [Char.ofNat n]
    | none => [c]

/-- The upper case of one character. -/
def upperChar (c : Char) : List Char :=
  if c.toNat < 0x80 then [c.toUpper] else mapCase upperRuns upperExpansions c

/-- The lower case of one character, sigma taken in its medial form. -/
def lowerChar (c : Char) : List Char :=
  if c.toNat < 0x80 then [c.toLower] else mapCase lowerRuns lowerExpansions c

/-- Whether a character is case-ignorable. -/
def isCaseIgnorable (c : Char) : Bool :=
  caseIgnorableRanges.containsChar c

/-- Whether a character that is not case-ignorable is cased. -/
def isCased (c : Char) : Bool :=
  casedRanges.containsChar c

/-- Whether the first character of a text that is not case-ignorable exists and is
cased. -/
def casedAhead : List Char → Bool
  | [] => false
  | c :: rest => if isCaseIgnorable c then casedAhead rest else isCased c

/-- The capital sigma. -/
def capitalSigma : Char := 'Σ'

/-- Lower case of a text whose earlier part ended, past case-ignorable characters,
on a cased character exactly when `casedBefore` holds. -/
def lowerFrom (casedBefore : Bool) : List Char → List Char
  | [] => []
  | c :: rest =>
    let image :=
      if c = capitalSigma then
        if casedBefore && !casedAhead rest then ['ς'] else ['σ']
      else lowerChar c
    let casedNow := if isCaseIgnorable c then casedBefore else isCased c
    image ++ lowerFrom casedNow rest

/-- The upper case of a text. -/
def toUpperCase (s : String) : String :=
  String.ofList (s.toList.flatMap upperChar)

/-- The lower case of a text. -/
def toLowerCase (s : String) : String :=
  String.ofList (lowerFrom false s.toList)

end Stencil.Text
