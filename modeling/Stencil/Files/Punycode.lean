import Stencil.Files.CodecError

/-!
# Punycode

Punycode (RFC 3492) writes a text in ASCII: first the ASCII characters of the text
in their order, then, after a hyphen if there were any, numbers that say where each
other character goes. The characters beyond ASCII are taken in increasing order of
code, each at each of its places in turn, and each number counts the steps from the
previous insertion to this one: every place passed over where a character of the
codes inserted so far could stand, and every increase of the code. A number is
written in base 36 with the least significant digit first (`a` to `z` for 0 to 25,
`0` to `9` for 26 to 35); a digit below the threshold of its place ends it, and the
thresholds follow a bias that adapts to the size of the previous number.

Reading undoes this. The numbers are the part after the last hyphen, with their
letters in either case, and the ASCII characters the part before it; both parts
must be ASCII. A reading that goes wrong is refused as a whole:

```
Invalid extended code point '!'
incomplete punicode string
Invalid character U+110000
```
-/

namespace Stencil.Files.Punycode

/-- The threshold of the digit at place `j` of a number under a bias: `36 (j + 1)`
less the bias, held between 1 and 26. -/
def threshold (j bias : Nat) : Nat :=
  min 26 (max 1 (36 * (j + 1) - bias))

theorem one_le_threshold (j bias : Nat) : 1 ≤ threshold j bias := by
  unfold threshold; omega

theorem threshold_le (j bias : Nat) : threshold j bias ≤ 26 := by
  unfold threshold; omega

/-- Divide by 35 until at most 455 is left, counting 36 for each division. -/
def shrink (delta divisions : Nat) : Nat × Nat :=
  if 455 < delta then shrink (delta / 35) (divisions + 36) else (delta, divisions)
termination_by delta
decreasing_by omega

/-- The bias after a number: the number is scaled down, by 700 after the first
number and by 2 after the others, grown by its share among the `count` characters
placed so far, and shrunk by 35 while it is above 455. -/
def adapt (delta : Nat) (first : Bool) (count : Nat) : Nat :=
  let scaled := if first then delta / 700 else delta / 2
  let (rest, divisions) := shrink (scaled + scaled / count) 0
  divisions + 36 * rest / (rest + 38)

/-! ## Writing -/

/-- The digit of a value below 36: `a` to `z`, then `0` to `9`. -/
def digitByte (d : Nat) : UInt8 :=
  if d < 26 then byteOf (0x61 + d) else byteOf (0x30 + (d - 26))

/-- A number in the variable-length notation, from the digit at place `j` on. -/
def numberDigits (bias j n : Nat) : List UInt8 :=
  let t := threshold j bias
  if n < t then [digitByte n]
  else digitByte (t + (n - t) % (36 - t)) :: numberDigits bias (j + 1) ((n - t) / (36 - t))
termination_by n
decreasing_by
  have := one_le_threshold j bias
  have := threshold_le j bias
  exact Nat.lt_of_le_of_lt (Nat.div_le_self _ _) (by omega)

/-- The state of writing: the count of steps since the last insertion, the number
of characters placed, the bias and the digits written. -/
structure Insertion where
  delta : Nat
  placed : Nat
  bias : Nat
  digits : Array UInt8

/-- Pass one character of the text while inserting the code `m`: a smaller code is a
place passed over, the code itself is an insertion, which writes the count. The
first insertion is the one made when only the `basic` ASCII characters are placed. -/
def Insertion.visit (basic m : Nat) (s : Insertion) (c : Char) : Insertion :=
  if c.toNat < m then { s with delta := s.delta + 1 }
  else if c.toNat = m then
    { delta := 0
      placed := s.placed + 1
      bias := adapt s.delta (s.placed = basic) (s.placed + 1)
      digits := s.digits ++ numberDigits s.bias 0 s.delta }
  else s

/-- Insert every place of the code `m`, the previous code being `n`: the increase of
the code counts once for each place where a character could stand. -/
def Insertion.insertCode (cs : List Char) (basic : Nat) (s : Insertion × Nat) (m : Nat) :
    Insertion × Nat :=
  let (s, n) := s
  let s := cs.foldl (visit basic m) { s with delta := s.delta + (m - n) * (s.placed + 1) }
  ({ s with delta := s.delta + 1 }, m + 1)

/-- The codes beyond ASCII of a text, each once, in increasing order. -/
def extendedCodes (cs : List Char) : List Nat :=
  ((cs.map Char.toNat).filter (0x80 ≤ ·)).eraseDups.mergeSort

/-- The numbers that place the characters beyond ASCII of a text. -/
def numbers (cs : List Char) : List UInt8 :=
  let basic := (cs.filter (·.toNat < 0x80)).length
  let start : Insertion := { delta := 0, placed := basic, bias := 72, digits := #[] }
  ((extendedCodes cs).foldl (Insertion.insertCode cs basic) (start, 0x80)).1.digits.toList

/-- A text in Punycode. -/
def encode (cs : List Char) : List UInt8 :=
  let basic := (cs.filter (·.toNat < 0x80)).map fun c => byteOf c.toNat
  if basic.isEmpty then numbers cs else basic ++ [0x2D] ++ numbers cs

/-! ## Reading -/

/-- The value of a digit of upper-case letters and digits: `A` to `Z` are 0 to 25,
`0` to `9` are 26 to 35. -/
def digitValue? (c : Char) : Option Nat :=
  if 'A' ≤ c ∧ c ≤ 'Z' then some (c.toNat - 0x41)
  else if '0' ≤ c ∧ c ≤ '9' then some (c.toNat - 0x30 + 26)
  else none

/-- Read a number from place `j` on, with the weight `w` of its digit there and the
value `acc` of the digits before: the number and the characters after it. -/
def readNumber (bias : Nat) : List Char → Nat → Nat → Nat → Except CodecError (Nat × List Char)
  | [], _, _, _ => .error (.whole "incomplete punicode string")
  | c :: rest, j, w, acc =>
    match digitValue? c with
    | none => .error (.whole ("Invalid extended code point '" ++ c.toString ++ "'"))
    | some d =>
      let t := threshold j bias
      if d < t then .ok (acc + d * w, rest)
      else readNumber bias rest (j + 1) (w * (36 - t)) (acc + d * w)

/-- Reading a number takes at least one character. -/
theorem readNumber_shorter (bias : Nat) :
    ∀ (cs : List Char) (j w acc n : Nat) (rest : List Char),
      readNumber bias cs j w acc = .ok (n, rest) → rest.length < cs.length
  | [], _, _, _, _, _, h => by simp [readNumber] at h
  | c :: cs, j, w, acc, n, rest, h => by
    simp only [readNumber] at h
    split at h
    · simp at h
    · split at h
      · simp only [Except.ok.injEq, Prod.mk.injEq] at h
        simp [← h.2]
      · have := readNumber_shorter bias cs _ _ _ n rest h
        simp only [List.length_cons]
        omega

/-- Insert the characters that the numbers `ext` place into `out`, with the code and
the place `next` reached so far. -/
def insertAll (bias code next : Nat) (first : Bool) (out ext : List Char) :
    Except CodecError (List Char) :=
  match ext with
  | [] => .ok out
  | c :: cs =>
    match h : readNumber bias (c :: cs) 0 1 0 with
    | .error e => .error e
    | .ok (delta, rest) =>
      let steps := next + delta
      let code := code + steps / (out.length + 1)
      if 0x10FFFF < code then
        .error (.whole ("Invalid character U+" ++ String.ofList (Nat.toDigits 16 code)))
      else
        let place := steps % (out.length + 1)
        let out := out.take place ++ charOfCode code :: out.drop place
        insertAll (adapt delta first out.length) code (place + 1) false out rest
termination_by ext.length
decreasing_by exact readNumber_shorter bias _ 0 1 0 delta rest h

/-- Read Punycode from bytes. -/
def decode (bs : List UInt8) : Except CodecError (List Char) := do
  let cut := (bs.zipIdx.filter (·.1 = 0x2D)).getLast?.map (·.2)
  let basic ← decodeAscii (match cut with | some i => bs.take i | none => [])
  let ext ← decodeAscii (match cut with | some i => bs.drop (i + 1) | none => bs)
  insertAll 72 0x80 0 true basic (ext.map Char.toUpper)

end Stencil.Files.Punycode
