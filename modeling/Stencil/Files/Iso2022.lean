import Stencil.Files.CodePage
import Stencil.Files.Multibyte
import Stencil.Files.Multibyte.EucJp
import Stencil.Files.Multibyte.EucKr
import Stencil.Files.Multibyte.Gb2312
import Stencil.Files.Multibyte.EucJis2004
import Stencil.Files.Multibyte.EucJisx0213

/-!
# ISO 2022 codes

The 7-bit codes of ISO 2022 for Japanese and Korean switch between character sets
with escape sequences. A reader keeps three registers, G0, G1 and G2; printable
bytes are read in the set of G0, or of G1 after a shift out (`SO`) until a shift in
(`SI`) or a line feed. An escape sequence designates a set into a register:
`ESC ( F` a set of 94 characters, `ESC $ F` or `ESC $ ( F` a set of 94 × 94
characters into G0, `ESC ) F` and `ESC $ ) F` into G1, `ESC . F` into G2, where the
final byte `F` names the set. `ESC N` reads one character from G2. A set the code
does not know, an escape sequence of another form, and bytes beyond 7 bits are
illegal:

```
'iso2022_jp' codec can't decode bytes in position 0-2: illegal multibyte sequence
'iso2022_jp' codec can't decode byte 0x80 in position 3: illegal multibyte sequence
```

An escape byte followed by anything but the start of a designation is read as
itself, and so are the bytes after it up to a final byte, whatever they are. Reading
a character from G2 when G2 holds a set that only G0 reads is a failure of the codec
itself (`CodecError.internal`).

The sets of 94 × 94 characters are those of the EUC codes, read with the high bit of
each byte set; see `CharacterSet.read?` for the few cells where they differ.

Writing designates the first set of the code that has the character, the sets being
tried in the code's order, and emits the escape sequence only when the set changes.
ASCII returns G0 to ASCII with `ESC ( B`; the Korean code writes its set into G1 and
shifts to it. A writer that is never told the text has ended writes no final
`ESC ( B`, and holds back a final character that may combine with a next one in the
codes of JIS X 0213.
-/

namespace Stencil.Files

/-- A character set that ISO 2022 escape sequences designate. -/
inductive CharacterSet where
  | ascii
  /-- JIS X 0201 Roman: ASCII with the yen sign and the overline. -/
  | jisRoman
  /-- JIS X 0201 Katakana: the halfwidth katakana. -/
  | jisKatakana
  | jis0208
  /-- JIS X 0208 under its 1978 designation, read as JIS X 0208. -/
  | jis0208Old
  | jis0212
  | ksc5601
  | gb2312
  /-- The first plane of JIS X 0213, in its 2004 revision or the earlier one. -/
  | jis0213First (revised : Bool)
  /-- The second plane of JIS X 0213. -/
  | jis0213Second (revised : Bool)
  /-- The upper half of Latin-1, for G2. -/
  | latin1Upper
  /-- The upper half of the Greek code page, for G2. -/
  | greekUpper
  deriving DecidableEq, Inhabited

namespace CharacterSet

/-- The final byte of the escape sequences that designate a set. -/
def final : CharacterSet → Nat
  | .ascii => 0x42
  | .jisRoman => 0x4A
  | .jisKatakana => 0x49
  | .jis0208 => 0x42
  | .jis0208Old => 0x40
  | .jis0212 => 0x44
  | .ksc5601 => 0x43
  | .gb2312 => 0x41
  | .jis0213First revised => if revised then 0x51 else 0x4F
  | .jis0213Second _ => 0x50
  | .latin1Upper => 0x41
  | .greekUpper => 0x46

/-- Whether a set has 94 × 94 characters, written with two bytes each. -/
def double : CharacterSet → Bool
  | .jis0208 | .jis0208Old | .jis0212 | .ksc5601 | .gb2312 | .jis0213First _ | .jis0213Second _ =>
    true
  | _ => false

/-- The number of bytes of a character of a set. -/
def width (s : CharacterSet) : Nat := if s.double then 2 else 1

/-- The characters of an EUC cell, if the entry is not a mark. -/
def eucCell (m : MultibyteCode) (bytes : List Nat) (e : Char) : Option (List Char) :=
  match m.entryStep bytes e with
  | some (.chars cs _) => some cs
  | _ => none

/-- The characters of a two-byte cell in the second-byte rows of an EUC code. -/
def eucPair (m : MultibyteCode) (b1 b2 : Nat) : Option (List Char) :=
  eucCell m [b1 + 0x80, b2 + 0x80] (m.secondEntry (b1 + 0x80) (b2 + 0x80))

/-- The characters of a cell after the lead byte `0x8F` of an EUC code. -/
def eucThird (m : MultibyteCode) (b1 b2 : Nat) : Option (List Char) :=
  let e := match m.thirdRows.find? fun (x, y, _) => x = 0x8F ∧ y = b1 + 0x80 with
    | some (_, _, start, entries) => MultibyteCode.rowEntry start entries (b2 + 0x80)
    | none => MultibyteCode.illegalOne
  eucCell m [0x8F, b1 + 0x80, b2 + 0x80] e

/-- The EUC code whose plane 1 is the first plane of JIS X 0213 in a revision. -/
def jis0213Code (revised : Bool) : MultibyteCode :=
  if revised then MultibyteCode.eucJis2004 else MultibyteCode.eucJisx0213

/-- The characters a set reads from the bytes of one of its cells. The sets of
94 × 94 characters are their EUC codes' with these differences: in KS X 1001 the
cell `0x24 0x54` is the Hangul filler, which EUC-KR reads as the start of a longer
sequence; in the first plane of JIS X 0213 the cell `0x22 0x32` is the tilde; the
second plane has none of the cells of JIS X 0212, which the EUC codes read there,
and in its earlier revision reads `0x7D 0x3B` as U+9B1C. -/
def read? : CharacterSet → List Nat → Option (List Char)
  | .jisRoman, [b] => some [if b = 0x5C then '¥' else if b = 0x7E then '‾' else Char.ofNat b]
  | .jisKatakana, [b] =>
    if 0x21 ≤ b ∧ b ≤ 0x5F then some [Char.ofNat (0xFF61 + (b - 0x21))] else none
  | .jis0208, [b1, b2] | .jis0208Old, [b1, b2] => eucPair MultibyteCode.eucJp b1 b2
  | .jis0212, [b1, b2] => eucThird MultibyteCode.eucJp b1 b2
  | .ksc5601, [b1, b2] =>
    if b1 = 0x24 ∧ b2 = 0x54 then some ['ㅤ'] else eucPair MultibyteCode.eucKr b1 b2
  | .gb2312, [b1, b2] => eucPair MultibyteCode.gb2312 b1 b2
  | .jis0213First revised, [b1, b2] =>
    if b1 = 0x22 ∧ b2 = 0x32 then some ['~'] else eucPair (jis0213Code revised) b1 b2
  | .jis0213Second revised, [b1, b2] =>
    if (eucThird MultibyteCode.eucJp b1 b2).isSome then none
    else if !revised ∧ b1 = 0x7D ∧ b2 = 0x3B then some ['鬜']
    else eucThird (jis0213Code revised) b1 b2
  | _, _ => none

/-- The EUC code that holds a set's characters, for the sets written with one. -/
def source? : CharacterSet → Option MultibyteCode
  | .jis0208 | .jis0212 => some MultibyteCode.eucJp
  | .ksc5601 => some MultibyteCode.eucKr
  | .gb2312 => some MultibyteCode.gb2312
  | .jis0213First revised | .jis0213Second revised => some (jis0213Code revised)
  | _ => none

/-- The bytes a set writes a character as, given the writing table of its EUC code:
the EUC sequence of the right form with the high bits cleared. The sets that are
only read write nothing. -/
def write? (s : CharacterSet) (table : Std.HashMap Nat (List Nat)) (c : Char) :
    Option (List Nat) :=
  let euc := s.source?.bind fun m => m.single table c.toNat
  let low := List.map (· - 0x80)
  match s, euc with
  | .jisRoman, _ => if c = '¥' then some [0x5C] else if c = '‾' then some [0x7E] else none
  | .jisKatakana, _ =>
    if 0xFF61 ≤ c.toNat ∧ c.toNat ≤ 0xFF9F then some [c.toNat - 0xFF61 + 0x21] else none
  | .jis0208, some [b1, b2] | .ksc5601, some [b1, b2] | .gb2312, some [b1, b2] =>
    if 0xA1 ≤ b1 then some (low [b1, b2]) else none
  | .jis0212, some [0x8F, b1, b2] => some (low [b1, b2])
  | .jis0213First _, some [b1, b2] =>
    if 0xA1 ≤ b1 ∧ c ≠ '～' then some (low [b1, b2]) else none
  | .jis0213Second _, some [0x8F, b1, b2] =>
    if (eucThird MultibyteCode.eucJp (b1 - 0x80) (b2 - 0x80)).isSome then none
    else some (low [b1, b2])
  | _, _ => none

/-- The escape sequence that designates a set into G0, or with `second` into G1. -/
def designation (s : CharacterSet) (second : Bool) : List Nat :=
  let register := if second then 0x29 else 0x28
  if !s.double then [0x1B, register, s.final]
  else if s = .jis0208 ∧ !second then [0x1B, 0x24, s.final]
  else [0x1B, 0x24, register, s.final]

end CharacterSet

/-- An ISO 2022 code: its name, the sets it designates and its options. -/
structure Iso2022Code where
  name : String
  /-- The sets that escape sequences may designate besides ASCII, in the order
  writing tries them. -/
  sets : List CharacterSet
  /-- Whether shift out and shift in switch to G1 and back; otherwise they are read
  as control characters, and the code writes into G0 only. -/
  shifting : Bool := false
  /-- Whether `ESC N` reads a character from G2, and `ESC . F` designates into it. -/
  singleShift : Bool := false
  /-- Whether `ESC & @ ESC $ B` designates JIS X 0208. -/
  announcedJis : Bool := true
  /-- The EUC code whose pairs of characters the code writes in one cell of the first
  plane of JIS X 0213, for the codes of JIS X 0213. -/
  pairCode : Option (MultibyteCode × CharacterSet) := none

namespace Iso2022Code

def iso2022Jp : Iso2022Code :=
  { name := "iso2022_jp", sets := [.jis0208, .jisRoman, .jis0208Old] }

def iso2022Jp1 : Iso2022Code :=
  { name := "iso2022_jp_1", sets := [.jis0208, .jis0212, .jisRoman, .jis0208Old] }

def iso2022Jp2 : Iso2022Code :=
  { name := "iso2022_jp_2"
    sets := [.jis0208, .jis0212, .ksc5601, .gb2312, .jisRoman, .jis0208Old, .latin1Upper,
      .greekUpper]
    singleShift := true }

def iso2022Jp2004 : Iso2022Code :=
  { name := "iso2022_jp_2004"
    sets := [.jis0208, .jis0213First true, .jis0213Second true]
    pairCode := some (MultibyteCode.eucJis2004, .jis0213First true) }

def iso2022Jp3 : Iso2022Code :=
  { name := "iso2022_jp_3"
    sets := [.jis0208, .jis0213First false, .jis0213Second false]
    pairCode := some (MultibyteCode.eucJisx0213, .jis0213First false) }

def iso2022JpExt : Iso2022Code :=
  { name := "iso2022_jp_ext", sets := [.jis0208, .jis0212, .jisRoman, .jisKatakana, .jis0208Old] }

def iso2022Kr : Iso2022Code :=
  { name := "iso2022_kr", sets := [.ksc5601], shifting := true, announcedJis := false }

/-! ## Reading -/

/-- The registers of a reader and its modes. -/
structure Reader where
  g0 : CharacterSet := .ascii
  g1 : CharacterSet := .ascii
  g2 : CharacterSet := .ascii
  shifted : Bool := false
  /-- Inside an escape sequence that is not a designation: bytes are read as
  themselves up to a final byte. -/
  passing : Bool := false

/-- What the bytes at a position read as: characters, the bytes they take and the
reader after them; an illegal sequence; too few bytes; a failure of the codec. -/
inductive Step where
  | read (cs : List Char) (width : Nat) (next : Reader)
  | illegal (width : Nat)
  | short
  | internal

/-- The escape byte. -/
def escape : Nat := 0x1B

/-- Whether a byte ends an escape sequence: a capital letter or `@`. -/
def isFinal (b : Nat) : Bool := (0x41 ≤ b && b ≤ 0x5A) || b = 0x40

/-- Whether a byte after the escape byte starts a designation. -/
def startsDesignation (b : Nat) : Bool :=
  b = 0x28 || b = 0x29 || b = 0x24 || b = 0x2E || b = 0x26

/-- How far an escape sequence goes. -/
inductive EscapeEnd where
  | length (n : Nat)
  | short
  | unended

/-- The length of the escape sequence at the start of `bs`, looking from byte `i`:
up to its final byte within 16 bytes; `& @` is passed over where JIS X 0208 may be
announced. -/
def escapeEnd (announced : Bool) (bs : List Nat) (i : Nat) : EscapeEnd :=
  if i < 16 then
    if bs.length ≤ i then .short
    else if isFinal (bs.getD i 0) then .length (i + 1)
    else if announced ∧ i + 1 < bs.length ∧ bs.getD i 0 = 0x26 ∧ bs.getD (i + 1) 0 = 0x40 then
      escapeEnd announced bs (i + 3)
    else escapeEnd announced bs (i + 1)
  else .unended
termination_by 16 - i

/-- The set a code designates by a final byte, as a set of 94 × 94 characters or not. -/
def designated? (code : Iso2022Code) (final : Nat) (double : Bool) : Option CharacterSet :=
  if final = 0x42 ∧ !double then some .ascii
  else code.sets.find? fun s => s.final = final ∧ s.double = double

/-- The register, final byte and kind of set that an escape sequence of length `n`
at the start of `bs` designates, if it has a designation's form. -/
def target (code : Iso2022Code) (bs : List Nat) (n : Nat) : Option (Nat × Nat × Bool) :=
  let b := fun i => bs.getD i 0
  if n = 3 then
    if b 1 = 0x24 then some (0, b 2, true)
    else if b 1 = 0x28 then some (0, b 2, false)
    else if b 1 = 0x29 then some (1, b 2, false)
    else if code.singleShift ∧ b 1 = 0x2E then some (2, b 2, false)
    else none
  else if n = 4 then
    if b 1 = 0x24 ∧ b 2 = 0x28 then some (0, b 3, true)
    else if b 1 = 0x24 ∧ b 2 = 0x29 then some (1, b 3, true)
    else none
  else if n = 6 then
    if code.announcedJis ∧ b 3 = escape ∧ b 4 = 0x24 ∧ b 5 = 0x42 then some (0, 0x42, true)
    else none
  else none

/-- Read the escape sequence at the start of `bs`, which starts a designation. -/
def designate (code : Iso2022Code) (r : Reader) (bs : List Nat) : Step :=
  match escapeEnd code.announcedJis (bs.take 17) 1 with
  | .short => .short
  | .unended => .illegal 1
  | .length n =>
    match code.target bs n with
    | none => .illegal n
    | some (register, final, double) =>
      match code.designated? final double with
      | none => .illegal n
      | some s =>
        if register = 0 then .read [] n { r with g0 := s }
        else if register = 1 then .read [] n { r with g1 := s }
        else .read [] n { r with g2 := s }

/-- The character a byte after `ESC N` reads as from G2. -/
def singleShiftStep (r : Reader) (b : Nat) : Step :=
  match r.g2 with
  | .ascii => if b < 0x80 then .read [Char.ofNat b] 3 r else .illegal 3
  | .latin1Upper => if b < 0x80 then .read [Char.ofNat (b + 0x80)] 3 r else .illegal 3
  | .greekUpper =>
    let upper := if b < 0x80 then b + 0x80 else b - 0x80
    if upper = 0xA4 ∨ upper = 0xA5 ∨ upper = 0xAA then .illegal 3
    else
      match CodePage.iso8859_7.char? (byteOf upper) with
      | some c => .read [c] 3 r
      | none => .illegal 3
  | _ => .internal

/-- What the bytes at a position read as. -/
def step (code : Iso2022Code) (r : Reader) : List Nat → Step
  | [] => .short
  | c :: rest =>
    if r.passing then .read [Char.ofNat c] 1 { r with passing := !isFinal c }
    else if c = escape then
      match rest with
      | [] => .short
      | c2 :: more =>
        if startsDesignation c2 then code.designate r (c :: rest)
        else if code.singleShift ∧ c2 = 0x4E then
          match more with
          | [] => .short
          | c3 :: _ => singleShiftStep r c3
        else .read [Char.ofNat c] 1 { r with passing := true }
    else if (c = 0x0E ∨ c = 0x0F) ∧ code.shifting then .read [] 1 { r with shifted := c = 0x0E }
    else if c = 0x0A then .read ['\n'] 1 { r with shifted := false }
    else if c < 0x20 then .read [Char.ofNat c] 1 r
    else if 0x80 ≤ c then .illegal 1
    else
      let s := if r.shifted then r.g1 else r.g0
      if s = .ascii then .read [Char.ofNat c] 1 r
      else
        let cell := (c :: rest).take s.width
        if cell.length < s.width then .short
        else
          match s.read? cell with
          | some cs => .read cs s.width r
          | none => .illegal s.width

/-- Decode bytes from a position of `all`, characters so far reversed in `acc`. -/
def decodeFrom (code : Iso2022Code) (all : List UInt8) (pos : Nat) (acc : List Char)
    (r : Reader) (bs : List Nat) : Except CodecError (List Char) :=
  match bs with
  | [] => .ok acc.reverse
  | b :: rest =>
    match code.step r (b :: rest) with
    | .read cs width next =>
      code.decodeFrom all (pos + width) (cs.reverse ++ acc) next ((b :: rest).drop (max width 1))
    | .illegal width =>
      .error (decodeError code.name all pos (pos + width) "illegal multibyte sequence")
    | .short => .error (decodeError code.name all pos all.length "incomplete multibyte sequence")
    | .internal => .error .internal
termination_by bs.length
decreasing_by
  simp only [List.length_drop, List.length_cons]
  omega

/-- Decode bytes. -/
def decode (code : Iso2022Code) (bs : List UInt8) : Except CodecError (List Char) :=
  code.decodeFrom bs 0 [] {} (bs.map UInt8.toNat)

/-! ## Writing -/

/-- The registers of a writer: the sets of G0 and G1 and whether it is shifted. -/
structure Writer where
  g0 : CharacterSet := .ascii
  g1 : CharacterSet := .ascii
  shifted : Bool := false

/-- The bytes that make a set current for the next character, and the writer after. -/
def Writer.select (code : Iso2022Code) (w : Writer) (s : CharacterSet) : List Nat × Writer :=
  if code.shifting then
    let designate := if w.g1 = s then [] else s.designation true
    (designate ++ (if w.shifted then [] else [0x0E]), { w with g1 := s, shifted := true })
  else
    let unshift := if w.shifted then [0x0F] else []
    let designate := if w.g0 = s then [] else s.designation false
    (unshift ++ designate, { w with g0 := s, shifted := false })

/-- The bytes that return a writer to ASCII, and the writer after. -/
def Writer.toAscii (w : Writer) : List Nat × Writer :=
  ((if w.g0 = .ascii then [] else [0x1B, 0x28, 0x42]) ++ (if w.shifted then [0x0F] else []),
    { w with g0 := .ascii, shifted := false })

/-- The sets of a code that write, each with the writing table of its EUC code. -/
def writingSets (code : Iso2022Code) : List (CharacterSet × Std.HashMap Nat (List Nat)) :=
  code.sets.map fun s => (s, (s.source?.map MultibyteCode.encodingTable).getD {})

/-- The first set of a code that has a character, with the character's bytes. -/
def written? (sets : List (CharacterSet × Std.HashMap Nat (List Nat))) (c : Char) :
    Option (CharacterSet × List Nat) :=
  sets.findSome? fun (s, table) => (s.write? table c).map (s, ·)

/-- Encode characters from a position of `all`, bytes so far reversed in `acc`. -/
def encodeFrom (code : Iso2022Code) (sets : List (CharacterSet × Std.HashMap Nat (List Nat)))
    (all : List Char) (pos : Nat) (acc : List Nat) (w : Writer) :
    List Char → Except CodecError (List Nat)
  | [] => .ok acc.reverse
  | c :: rest =>
    let emit (s : CharacterSet) (bytes : List Nat) : List Nat × Writer :=
      let (switch, w') := w.select code s
      (switch ++ bytes, w')
    let alone : Except CodecError (List Nat) :=
      match written? sets c with
      | some (s, bytes) =>
        let (out, w') := emit s bytes
        code.encodeFrom sets all (pos + 1) (out.reverse ++ acc) w' rest
      | none => .error (encodeError code.name all pos (pos + 1) "illegal multibyte sequence")
    if c.toNat < 0x80 then
      let (switch, w') := w.toAscii
      code.encodeFrom sets all (pos + 1) (c.toNat :: switch.reverse ++ acc) w' rest
    else
      match code.pairCode with
      | some (m, s) =>
        if m.combining.contains c.toNat then
          match rest with
          | [] => .ok acc.reverse
          | d :: more =>
            match m.pairs.lookup (c.toNat, d.toNat) with
            | some bytes =>
              let (out, w') := emit s (bytes.map (· - 0x80))
              code.encodeFrom sets all (pos + 2) (out.reverse ++ acc) w' more
            | none => alone
        else alone
      | none => alone

/-- The bytes a writer puts out for a text when it is not told that the text has
ended. -/
def encode (code : Iso2022Code) (cs : List Char) : Except CodecError (List Nat) :=
  code.encodeFrom code.writingSets cs 0 [] {} cs

end Iso2022Code

end Stencil.Files
