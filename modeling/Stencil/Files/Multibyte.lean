import Std.Data.HashMap
import Stencil.Files.CodecError

/-!
# Multibyte codes

The East Asian codes (Shift JIS, EUC, GBK, GB 18030, Big5, UHC, Johab and their
relatives) read a character from one to four bytes. A `MultibyteCode` gives them as
tables:

* `first`, the entry of each byte as the first of a sequence;
* `rows`, the entries of second bytes after a first byte that leads a longer
  sequence, from the second byte the row starts at; bytes outside a row are
  illegal;
* `thirdRows`, the entries of third bytes after the first two, for the codes with
  three-byte sequences.

An entry is the character the sequence reads as, or one of four marks, which are
noncharacters no code reads: `illegalOne` and `illegalTwo` for a sequence that is
illegal over one or two bytes, `longer` for a sequence that goes on, and
`severalMark` for a sequence that reads as several characters (`several`).

Reading stops at the first illegal sequence; a sequence cut short by the end of the
input is incomplete over all the bytes left:

```
'gbk' codec can't decode byte 0x81 in position 0: illegal multibyte sequence
'gb18030' codec can't decode bytes in position 0-2: incomplete multibyte sequence
```

Longer sequences that no row gives follow a rule of the code (`Extension`): the
four-byte sequences of GB 18030, numbered in order over ranges of code points, and
the eight-byte make-up sequences of EUC-KR, which spell a Hangul syllable with its
letters.

A character is written as the sequence the tables read as it, the first such
sequence or, with `lastWins`, the last; `written` lists the characters a code writes
otherwise, or not at all (an empty sequence). Characters the tables do not give are
written by the code's rule if it has one. A character of `combining` may join the
next character into one sequence (`pairs`); at the end of the text such a character
is held back for a continuation, and so is not written.
-/

namespace Stencil.Files

/-- The rule for sequences longer than two bytes that no third-byte row gives. -/
inductive Extension where
  /-- Every longer sequence takes three bytes; those without a row are illegal. -/
  | threeByte
  /-- Four-byte sequences, numbered in order; each range gives the number of its
  first sequence and the code point of its first character. The numbers after the
  ranges' end are illegal up to the supplementary planes, which start at the
  sequence `0x90 0x30 0x81 0x30`. -/
  | fourByte (ranges : List (Nat × Nat))
  /-- Eight-byte make-up sequences `0xA4 0xD4`, then `0xA4` and an initial, `0xA4` and
  a medial, `0xA4` and a final or the filler `0xD4`: the index of the letter each
  byte from `0xA1` (initials, finals) or `0xBF` (medials) names, if any. -/
  | makeUp (initials medials finals : List (Option Nat))
  deriving Inhabited

/-- A multibyte code, given by its tables. -/
structure MultibyteCode where
  /-- The name the code gives itself in messages. -/
  name : String
  /-- The entry of each byte as the first of a sequence, 256 of them. -/
  first : String
  /-- The rows of second bytes: the first byte, the second byte the row starts at,
  and the entries. -/
  rows : List (Nat × Nat × String)
  /-- The rows of third bytes: the first two bytes, the third byte the row starts
  at, and the entries. -/
  thirdRows : List (Nat × Nat × Nat × String) := []
  /-- The sequences that read as several characters, with their code points. -/
  several : List (List Nat × List Nat) := []
  /-- Whether a character read from several sequences is written as the last of
  them. -/
  lastWins : Bool := false
  /-- The characters written otherwise than the tables say, by code point, with their
  sequence; an empty sequence for a character that is not written at all. -/
  written : List (Nat × List Nat) := []
  /-- The characters that may join the next character into one sequence. -/
  combining : List Nat := []
  /-- The sequences of joined pairs of characters. -/
  pairs : List ((Nat × Nat) × List Nat) := []
  extension : Extension := .threeByte
  deriving Inhabited

/-- What the bytes at a position read as: characters and the number of bytes they
take, an illegal sequence of a number of bytes, or too few bytes to tell. -/
inductive MultibyteStep where
  | chars (cs : List Char) (width : Nat)
  | illegal (width : Nat)
  | short
  deriving Inhabited

namespace MultibyteCode

/-- The mark of a sequence that is illegal over one byte. -/
def illegalOne : Char := '﷐'

/-- The mark of a sequence that is illegal over two bytes. -/
def illegalTwo : Char := '﷑'

/-- The mark of a sequence that goes on past its entry. -/
def longer : Char := '﷒'

/-- The mark of a sequence that reads as several characters. -/
def severalMark : Char := '﷓'

/-- Whether an entry is one of the marks rather than a character. -/
def isMark (e : Char) : Bool :=
  e = illegalOne || e = illegalTwo || e = longer || e = severalMark

/-- The code with the entries of some sequences replaced, for a code that is another
edition of `m`: each sequence of `changes` reads as its entry instead. -/
def withEntries (m : MultibyteCode) (changes : List (List Nat × Char)) : MultibyteCode :=
  let change (sequence : Nat → List Nat) (start : Nat) (entries : String) : String :=
    String.ofList ((entries.toList.zipIdx start).map fun (e, b) =>
      (changes.lookup (sequence b)).getD e)
  { m with
    rows := m.rows.map fun (b1, start, s) => (b1, start, change ([b1, ·]) start s)
    thirdRows := m.thirdRows.map fun (b1, b2, start, s) =>
      (b1, b2, start, change ([b1, b2, ·]) start s) }

/-- Characters written otherwise than the tables say, given by rows as the tables are:
the character at a row's position is written as the row's leading bytes and that
position's byte; a mark writes nothing. -/
def writtenByRows (rows : List (List Nat × Nat × String)) : List (Nat × List Nat) :=
  rows.flatMap fun (lead, start, entries) =>
    ((entries.toList.zipIdx start).filter fun (e, _) => !isMark e).map fun (e, b) =>
      (e.toNat, lead ++ [b])

/-- The entry of a byte in a row that starts at `start`. -/
def rowEntry (start : Nat) (entries : String) (b : Nat) : Char :=
  if b < start then illegalOne else entries.toList.getD (b - start) illegalOne

/-- The entry of a second byte after a first. -/
def secondEntry (m : MultibyteCode) (b1 b2 : Nat) : Char :=
  match m.rows.find? (·.1 = b1) with
  | some (_, start, entries) => rowEntry start entries b2
  | none => illegalOne

/-- The step an entry gives for the sequence it ends, unless the sequence goes on. -/
def entryStep (m : MultibyteCode) (bytes : List Nat) (e : Char) : Option MultibyteStep :=
  if e = illegalOne then some (.illegal 1)
  else if e = illegalTwo then some (.illegal 2)
  else if e = longer then none
  else if e = severalMark then
    some (.chars (((m.several.lookup bytes).getD []).map charOfCode) bytes.length)
  else some (.chars [e] bytes.length)

/-- The code point of a four-byte sequence number below the ranges' end. -/
def rangeValue (ranges : List (Nat × Nat)) (n : Nat) : Nat :=
  match (ranges.filter (·.1 ≤ n)).getLast? with
  | some (start, value) => value + (n - start)
  | none => n

/-- The number of four-byte sequences that ranges of the Basic Multilingual Plane
cover. -/
def fourByteCount : Nat := 39420

/-- The step of a four-byte sequence. -/
def fourByteStep (ranges : List (Nat × Nat)) (b1 b2 : Nat) (rest : List UInt8) : MultibyteStep :=
  match rest with
  | c3 :: c4 :: _ =>
    let b3 := c3.toNat
    let b4 := c4.toNat
    if b1 < 0x81 || b1 > 0xFE || b3 < 0x81 || b3 > 0xFE || b4 < 0x30 || b4 > 0x39 then .illegal 1
    else
      let number := (((b1 - 0x81) * 10 + (b2 - 0x30)) * 126 + (b3 - 0x81)) * 10 + (b4 - 0x30)
      if b1 - 0x81 < 4 then
        if number < fourByteCount then .chars [charOfCode (rangeValue ranges number)] 4
        else .illegal 1
      else if b1 - 0x81 ≥ 15 then
        let code := 0x10000 + number - 15 * 12600
        if code ≤ 0x10FFFF then .chars [charOfCode code] 4 else .illegal 1
      else .illegal 1
  | _ => .short

/-- The index a letter byte names in a table that starts at `base`. -/
def letterIndex (table : List (Option Nat)) (base b : Nat) : Option Nat :=
  if b < base then none else (table.getD (b - base) none)

/-- The step of an eight-byte make-up sequence, after its first two bytes. -/
def makeUpStep (initials medials finals : List (Option Nat)) (rest : List UInt8) :
    MultibyteStep :=
  match rest.map UInt8.toNat with
  | l1 :: i :: l2 :: v :: l3 :: f :: _ =>
    if l1 ≠ 0xA4 || l2 ≠ 0xA4 || l3 ≠ 0xA4 then .illegal 1
    else
      let final := if f = 0xD4 then some 0 else letterIndex finals 0xA1 f
      match letterIndex initials 0xA1 i, letterIndex medials 0xBF v, final with
      | some a, some b, some c => .chars [charOfCode (0xAC00 + a * 588 + b * 28 + c)] 8
      | _, _, _ => .illegal 1
  | _ => .short

/-- The step of a sequence that goes on past its second byte. -/
def longerStep (m : MultibyteCode) (b1 b2 : Nat) (rest : List UInt8) : MultibyteStep :=
  match m.extension with
  | .fourByte ranges => fourByteStep ranges b1 b2 rest
  | .makeUp initials medials finals => makeUpStep initials medials finals rest
  | .threeByte =>
    match rest with
    | [] => .short
    | c3 :: _ =>
      let e := match m.thirdRows.find? fun (x, y, _) => x = b1 ∧ y = b2 with
        | some (_, _, start, entries) => rowEntry start entries c3.toNat
        | none => illegalOne
      (m.entryStep [b1, b2, c3.toNat] e).getD (.illegal 1)

/-- What the bytes at a position read as. -/
def step (m : MultibyteCode) : List UInt8 → MultibyteStep
  | [] => .short
  | c1 :: rest =>
    let b1 := c1.toNat
    match m.entryStep [b1] (m.first.toList.getD b1 illegalOne) with
    | some s => s
    | none =>
      match rest with
      | [] => .short
      | c2 :: more =>
        let b2 := c2.toNat
        match m.entryStep [b1, b2] (m.secondEntry b1 b2) with
        | some s => s
        | none => m.longerStep b1 b2 more

/-- Decode bytes from a position of `all`, characters so far reversed in `acc`. -/
def decodeFrom (m : MultibyteCode) (all : List UInt8) (pos : Nat) (acc : List Char)
    (bs : List UInt8) : Except CodecError (List Char) :=
  match bs with
  | [] => .ok acc.reverse
  | b :: rest =>
    match m.step (b :: rest) with
    | .chars cs width => m.decodeFrom all (pos + width) (cs.reverse ++ acc) ((b :: rest).drop (max width 1))
    | .illegal width =>
      .error (decodeError m.name all pos (pos + width) "illegal multibyte sequence")
    | .short => .error (decodeError m.name all pos all.length "incomplete multibyte sequence")
termination_by bs.length
decreasing_by
  simp only [List.length_drop, List.length_cons]
  omega

/-- Decode bytes. -/
def decode (m : MultibyteCode) (bs : List UInt8) : Except CodecError (List Char) :=
  m.decodeFrom bs 0 [] bs

/-- Every sequence the tables read as one character, in order: single bytes, then
pairs by first byte, then three-byte sequences. -/
def sequences (m : MultibyteCode) : List (List Nat × Char) :=
  let entries (start : Nat) (s : String) : List (Nat × Char) :=
    (s.toList.zipIdx.map fun (e, i) => (start + i, e)).filter fun (_, e) => !isMark e
  (entries 0 m.first).map (fun (b, e) => ([b], e)) ++
    m.rows.flatMap (fun (b1, start, s) => (entries start s).map fun (b2, e) => ([b1, b2], e)) ++
    m.thirdRows.flatMap fun (b1, b2, start, s) =>
      (entries start s).map fun (b3, e) => ([b1, b2, b3], e)

/-- The sequence each character is written as by the tables. -/
def encodingTable (m : MultibyteCode) : Std.HashMap Nat (List Nat) :=
  m.sequences.foldl (fun table (bytes, c) =>
    if m.lastWins || !table.contains c.toNat then table.insert c.toNat bytes else table) {}

/-- The four bytes of a sequence number, from a first byte on. -/
def fourBytes (lead number : Nat) : List Nat :=
  [lead + number / 12600, 0x30 + number / 1260 % 10, 0x81 + number / 10 % 126, 0x30 + number % 10]

/-- The sequence a character is written as by the code's rule, if any. -/
def extensionSequence (m : MultibyteCode) (c : Nat) : Option (List Nat) :=
  match m.extension with
  | .fourByte ranges =>
    if c ≥ 0x10000 then some (fourBytes 0x90 (c - 0x10000))
    else if c < 0x80 then none
    else
      let ends := (ranges.drop 1).map (·.1) ++ [fourByteCount]
      ((ranges.zip ends).find? fun ((start, value), stop) => value ≤ c ∧ c < value + (stop - start)).map
        fun ((start, value), _) => fourBytes 0x81 (start + (c - value))
  | .makeUp initials medials finals =>
    if 0xAC00 ≤ c ∧ c ≤ 0xD7A3 then
      let s := c - 0xAC00
      let byteOf (table : List (Option Nat)) (base index : Nat) : Option Nat :=
        (table.zipIdx.filter (·.1 = some index)).getLast?.map (base + ·.2)
      match byteOf initials 0xA1 (s / 588), byteOf medials 0xBF (s % 588 / 28),
          (if s % 28 = 0 then some 0xD4 else byteOf finals 0xA1 (s % 28)) with
      | some i, some v, some f => some [0xA4, 0xD4, 0xA4, i, 0xA4, v, 0xA4, f]
      | _, _, _ => none
    else none
  | .threeByte => none

/-- The sequence a single character is written as, if any. -/
def single (m : MultibyteCode) (table : Std.HashMap Nat (List Nat)) (c : Nat) :
    Option (List Nat) :=
  match m.written.lookup c with
  | some bytes => if bytes.isEmpty then none else some bytes
  | none =>
    match table.get? c with
    | some bytes => some bytes
    | none => m.extensionSequence c

/-- Encode characters from a position of `all`, bytes so far in `acc` reversed. -/
def encodeFrom (m : MultibyteCode) (table : Std.HashMap Nat (List Nat)) (all : List Char)
    (pos : Nat) (acc : List Nat) : List Char → Except CodecError (List Nat)
  | [] => .ok acc.reverse
  | c :: rest =>
    let fail : Except CodecError (List Nat) :=
      .error (encodeError m.name all pos (pos + 1) "illegal multibyte sequence")
    let alone : Except CodecError (List Nat) :=
      match m.single table c.toNat with
      | some bytes => m.encodeFrom table all (pos + 1) (bytes.reverse ++ acc) rest
      | none => fail
    if m.combining.contains c.toNat then
      match rest with
      | [] => .ok acc.reverse
      | d :: more =>
        match m.pairs.lookup (c.toNat, d.toNat) with
        | some bytes => m.encodeFrom table all (pos + 2) (bytes.reverse ++ acc) more
        | none => alone
    else alone

/-- Encode a text. -/
def encode (m : MultibyteCode) (cs : List Char) : Except CodecError (List Nat) :=
  m.encodeFrom m.encodingTable cs 0 [] cs

end MultibyteCode

end Stencil.Files
