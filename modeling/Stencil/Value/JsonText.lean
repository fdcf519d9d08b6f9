import Stencil.Value.Host
import Stencil.Number.Reading

/-!
# Host data from JSON text

A context file holds a JSON document; `JsonText.read` turns its text into host
data: objects become mappings with string keys (a repeated key keeps its first
place and takes its last value), arrays lists, numbers integers of any size or
doubles (a number with a fraction or an exponent is a double), and the names
`NaN`, `Infinity` and `-Infinity` doubles too.

A text that is not a document is refused with the reason and the place, counted
in characters from `0`, with its line and column counted from `1`:

```
Expecting value: line 1 column 1 (char 0)
Expecting ',' delimiter: line 3 column 5 (char 20)
```

A document may have blanks (space, tab, line feed, carriage return) around it and
between its tokens, and nothing else after it. Inside strings, characters below
U+0020 must be escaped. An integer of more than 4300 digits is refused.
-/

namespace Stencil.JsonText

/-- Why a text is not a document. -/
inductive ReadError where
  /-- A malformed text: the reason and the position where it was found. -/
  | malformed (reason : String) (position : Nat)
  /-- An integer with more digits than integers may have. -/
  | integerLimit (digits : Nat)
  deriving Inhabited, Repr

/-- The line and column of a position in a text, both counted from `1`. -/
def lineColumn (text : Array Char) (position : Nat) : Nat × Nat :=
  let before := (text.toList.take position)
  let line := before.count '\n' + 1
  match (before.zipIdx.filter (·.1 = '\n')).getLast? with
  | some (_, i) => (line, position - i)
  | none => (line, position + 1)

/-- The message of a read error in a text. -/
def ReadError.message (text : Array Char) : ReadError → String
  | .malformed reason position =>
    let (line, column) := lineColumn text position
    reason ++ ": line " ++ toString line ++ " column " ++ toString column ++ " (char " ++
      toString position ++ ")"
  | .integerLimit digits => Number.digitLimitMessage digits

/-- Whether a character is a blank between tokens. -/
def isSpace (c : Char) : Bool := c = ' ' || c = '\t' || c = '\n' || c = '\r'

/-- The first position from `i` that holds no blank. -/
def skipSpace (cs : Array Char) (i : Nat) : Nat :=
  if h : i < cs.size then
    if isSpace cs[i] then skipSpace cs (i + 1) else i
  else i
termination_by cs.size - i

/-- Whether a word stands at a position. -/
def wordAt (cs : Array Char) (i : Nat) (word : String) : Bool :=
  (cs.toList.drop i).take word.length == word.toList

/-- Whether the character at a position is an ASCII digit. -/
def digitAt (cs : Array Char) (i : Nat) : Bool :=
  match cs[i]? with
  | some c => '0' ≤ c && c ≤ '9'
  | none => false

/-- The first position from `i` that holds no digit. -/
def skipDigits (cs : Array Char) (i : Nat) : Nat :=
  if i < cs.size then
    if digitAt cs i then skipDigits cs (i + 1) else i
  else i
termination_by cs.size - i

/-- A number at a position: its value and the position after it, or the position of
the value that is not there. -/
def scanNumber (cs : Array Char) (start : Nat) : Except ReadError (HostData × Nat) :=
  let last := cs.size - 1
  let afterSign := if cs[start]? = some '-' then start + 1 else start
  if afterSign ≥ cs.size then .error (.malformed "Expecting value" start)
  else
    let intEnd :=
      if digitAt cs afterSign && cs[afterSign]? ≠ some '0' then skipDigits cs (afterSign + 1)
      else if cs[afterSign]? = some '0' then afterSign + 1
      else afterSign
    if intEnd = afterSign then .error (.malformed "Expecting value" start)
    else
      let (fracEnd, hasFrac) :=
        if intEnd < last && cs[intEnd]? = some '.' && digitAt cs (intEnd + 1) then
          (skipDigits cs (intEnd + 2), true)
        else (intEnd, false)
      let (stop, hasExp) :=
        if fracEnd < last && (cs[fracEnd]? = some 'e' || cs[fracEnd]? = some 'E') then
          let afterE := fracEnd + 1
          let afterExpSign :=
            if afterE < last && (cs[afterE]? = some '-' || cs[afterE]? = some '+') then afterE + 1
            else afterE
          let expEnd := skipDigits cs afterExpSign
          if digitAt cs (expEnd - 1) then (expEnd, true) else (fracEnd, false)
        else (fracEnd, false)
      let text := String.ofList ((cs.toList.drop start).take (stop - start))
      if hasFrac || hasExp then
        .ok (.float ((Number.readDecimal? text).getD 0), stop)
      else
        let digits := intEnd - afterSign
        if digits > Number.integerDigitLimit then .error (.integerLimit digits)
        else .ok (.int ((Number.readInteger? text).getD 0), stop)

/-- The value of a hexadecimal digit. -/
def hexValue? (c : Char) : Option Nat :=
  if '0' ≤ c && c ≤ '9' then some (c.toNat - '0'.toNat)
  else if 'a' ≤ c && c ≤ 'f' then some (c.toNat - 'a'.toNat + 10)
  else if 'A' ≤ c && c ≤ 'F' then some (c.toNat - 'A'.toNat + 10)
  else none

/-- The value of four hexadecimal digits from a position. -/
def hex4? (cs : Array Char) (i : Nat) : Option Nat :=
  ((cs.toList.drop i).take 4).foldl (fun acc c =>
    match acc, hexValue? c with
    | some n, some d => some (n * 16 + d)
    | _, _ => none) (some 0)

/-- The character of a code point; a lone surrogate becomes the replacement
character. -/
def charOf (n : Nat) : Char :=
  if 0xD800 ≤ n ∧ n ≤ 0xDFFF then '\uFFFD' else Char.ofNat n

/-- The rest of a string from a position, `begin` being its opening quote: its
characters and the position after the closing quote. -/
def scanString (cs : Array Char) (begin : Nat) (i : Nat) (acc : List Char) :
    Except ReadError (String × Nat) :=
  if h : i < cs.size then
    let c := cs[i]
    if c = '"' then .ok (String.ofList acc.reverse, i + 1)
    else if c = '\\' then
      if i + 1 ≥ cs.size then .error (.malformed "Unterminated string starting at" begin)
      else
        match cs[i + 1]? with
        | some 'u' =>
          if i + 6 ≥ cs.size then .error (.malformed "Invalid \\uXXXX escape" (i + 1))
          else
            match hex4? cs (i + 2) with
            | none => .error (.malformed "Invalid \\uXXXX escape" (i + 1))
            | some n =>
              if 0xD800 ≤ n ∧ n ≤ 0xDBFF ∧ i + 12 < cs.size ∧ cs[i + 6]? = some '\\' ∧
                  cs[i + 7]? = some 'u' then
                match hex4? cs (i + 8) with
                | none => .error (.malformed "Invalid \\uXXXX escape" (i + 7))
                | some low =>
                  if 0xDC00 ≤ low ∧ low ≤ 0xDFFF then
                    scanString cs begin (i + 12)
                      (Char.ofNat (0x10000 + (n - 0xD800) * 0x400 + (low - 0xDC00)) :: acc)
                  else scanString cs begin (i + 6) (charOf n :: acc)
              else scanString cs begin (i + 6) (charOf n :: acc)
        | some e =>
          let plain : Option Char := match e with
            | '"' => some '"'
            | '\\' => some '\\'
            | '/' => some '/'
            | 'b' => some '\x08'
            | 'f' => some '\x0c'
            | 'n' => some '\n'
            | 'r' => some '\r'
            | 't' => some '\t'
            | _ => none
          match plain with
          | some d => scanString cs begin (i + 2) (d :: acc)
          | none => .error (.malformed "Invalid \\escape" i)
        | none => .error (.malformed "Unterminated string starting at" begin)
    else if c.toNat ≤ 0x1f then .error (.malformed "Invalid control character at" i)
    else scanString cs begin (i + 1) (c :: acc)
  else .error (.malformed "Unterminated string starting at" begin)
termination_by cs.size - i

mutual

/-- A value at a position and the position after it, with at most `fuel` nested
steps. -/
def scanValue (cs : Array Char) (i : Nat) : Nat → Except ReadError (HostData × Nat)
  | 0 => .error (.malformed "Expecting value" i)
  | fuel + 1 =>
    match cs[i]? with
    | none => .error (.malformed "Expecting value" i)
    | some '"' => (scanString cs i (i + 1) []).map fun (s, j) => (.str s, j)
    | some '{' => scanObject cs (skipSpace cs (i + 1)) [] true fuel
    | some '[' => scanArray cs (skipSpace cs (i + 1)) [] true fuel
    | some c =>
      if c = 'n' && wordAt cs i "null" then .ok (.none, i + 4)
      else if c = 't' && wordAt cs i "true" then .ok (.bool true, i + 4)
      else if c = 'f' && wordAt cs i "false" then .ok (.bool false, i + 5)
      else if c = 'N' && wordAt cs i "NaN" then .ok (.float (0 / 0), i + 3)
      else if c = 'I' && wordAt cs i "Infinity" then .ok (.float Number.positiveInfinity, i + 8)
      else if c = '-' && wordAt cs i "-Infinity" then
        .ok (.float (-Number.positiveInfinity), i + 9)
      else scanNumber cs i

/-- The elements of an array from a position, `first` when no element has been read. -/
def scanArray (cs : Array Char) (i : Nat) (acc : List HostData) (first : Bool) :
    Nat → Except ReadError (HostData × Nat)
  | 0 => .error (.malformed "Expecting value" i)
  | fuel + 1 =>
    if first && cs[i]? = some ']' then .ok (.list [], i + 1)
    else
      match scanValue cs i fuel with
      | .error e => .error e
      | .ok (v, j) =>
        let k := skipSpace cs j
        match cs[k]? with
        | some ']' => .ok (.list (v :: acc).reverse, k + 1)
        | some ',' => scanArray cs (skipSpace cs (k + 1)) (v :: acc) false fuel
        | _ => .error (.malformed "Expecting ',' delimiter" k)

/-- The members of an object from a position, `first` when no member has been read. -/
def scanObject (cs : Array Char) (i : Nat) (acc : List (HostKey × HostData)) (first : Bool) :
    Nat → Except ReadError (HostData × Nat)
  | 0 => .error (.malformed "Expecting value" i)
  | fuel + 1 =>
    if first && cs[i]? = some '}' then .ok (.dict [], i + 1)
    else if cs[i]? ≠ some '"' then
      .error (.malformed "Expecting property name enclosed in double quotes" i)
    else
      match scanString cs i (i + 1) [] with
      | .error e => .error e
      | .ok (key, j) =>
        let k := skipSpace cs j
        if cs[k]? ≠ some ':' then .error (.malformed "Expecting ':' delimiter" k)
        else
          match scanValue cs (skipSpace cs (k + 1)) fuel with
          | .error e => .error e
          | .ok (v, m) =>
            let n := skipSpace cs m
            let acc' := (HostKey.str key, v) :: acc
            match cs[n]? with
            | some '}' => .ok (HostData.dictOfPairs acc'.reverse, n + 1)
            | some ',' => scanObject cs (skipSpace cs (n + 1)) acc' false fuel
            | _ => .error (.malformed "Expecting ',' delimiter" n)

end

/-- Read a document from its text. -/
def read (text : String) : Except ReadError HostData :=
  let cs := text.toList.toArray
  if cs[0]? = some '\uFEFF' then .error (.malformed "Unexpected UTF-8 BOM (decode using utf-8-sig)" 0)
  else
    -- an opening bracket costs two steps, and every other step reads a character
    match scanValue cs (skipSpace cs 0) (2 * cs.size + 2) with
    | .error e => .error e
    | .ok (v, j) =>
      let k := skipSpace cs j
      if k = cs.size then .ok v else .error (.malformed "Extra data" k)

/-- The message of a failure to read a text. -/
def readMessage (text : String) (e : ReadError) : String := e.message text.toList.toArray

end Stencil.JsonText
