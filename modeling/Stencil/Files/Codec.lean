import Stencil.Files.CodecError
import Stencil.Files.CodePage
import Stencil.Files.Registry
import Stencil.Files.Multibyte
import Stencil.Files.Multibyte.Big5
import Stencil.Files.Multibyte.Big5hkscs
import Stencil.Files.Multibyte.Cp932
import Stencil.Files.Multibyte.Cp949
import Stencil.Files.Multibyte.Cp950
import Stencil.Files.Multibyte.EucJis2004
import Stencil.Files.Multibyte.EucJisx0213
import Stencil.Files.Multibyte.EucJp
import Stencil.Files.Multibyte.EucKr
import Stencil.Files.Multibyte.Gb18030
import Stencil.Files.Multibyte.Gb2312
import Stencil.Files.Multibyte.Gbk
import Stencil.Files.Multibyte.Johab
import Stencil.Files.Multibyte.ShiftJis
import Stencil.Files.Multibyte.ShiftJis2004
import Stencil.Files.Multibyte.ShiftJisx0213
import Stencil.Files.Idna
import Stencil.Files.Iso2022
import Stencil.Files.Hz

/-!
# Text encodings of files

Template files are read and written in an encoding named by the settings. The name
is looked up in the codec registry (`Registry.module?`); the name `locale` is the
locale's encoding, UTF-8. A name that finds no module is unknown, and a module that
turns bytes into bytes cannot read text:

```
unknown encoding: utf.8
'base64' is not a text encoding; use codecs.open() to handle arbitrary codecs
```

The text codecs are the Unicode transformation formats (UTF-8, with or without a
leading byte order mark, UTF-16 and UTF-32 in either byte order or with a byte order
mark that decides, and UTF-7), ASCII, Latin-1, the single-byte code pages, the
multibyte codes of East Asian scripts, the 7-bit codes of ISO 2022 and HZ, the two
escape codecs, Punycode, the codec of internationalized domain names and the codec
that refuses everything.

Decoding reports the first bytes that do not decode, encoding the first run of
characters that cannot be encoded, in the words of the codec:

```
'ascii' codec can't decode byte 0xc3 in position 1: ordinal not in range(128)
'utf-16-le' codec can't decode bytes in position 2-3: illegal UTF-16 surrogate
'charmap' codec can't encode characters in position 1-2: character maps to <undefined>
```

A few refusals concern the stream as a whole rather than particular bytes, such as
UTF-16 without a byte order mark (`CodecError.whole`).

Text read from a file has its line ends made uniform: `\r\n` and a lone `\r`
become `\n`. Text is written as it is, after the byte order mark of a codec that
writes one. A file's writer is never told that the text has ended, so what a codec
holds back for what may follow is not written: a final character that may combine
with the next in the codes of JIS X 0213, the last label of a domain name, the return
to ASCII at the end of the 7-bit codes.
-/

namespace Stencil.Files

/-- The order of the bytes in a code unit of UTF-16 or UTF-32. -/
inductive ByteOrder where
  | little
  | big
  deriving DecidableEq, Repr, Inhabited

/-- A text encoding. -/
inductive Codec where
  | utf8
  /-- UTF-8 after a byte order mark: the mark is dropped when reading and written
  first when writing. -/
  | utf8Sig
  /-- UTF-16 in a byte order, or with no order given, in the order of a leading byte
  order mark, which must be there. -/
  | utf16 (order : Option ByteOrder)
  /-- UTF-32 in a byte order, or with no order given, in the order of a leading byte
  order mark, which must be there. -/
  | utf32 (order : Option ByteOrder)
  | utf7
  | ascii
  | latin1
  | page (p : CodePage)
  /-- A multibyte code of East Asian scripts. -/
  | multibyte (m : MultibyteCode)
  /-- A 7-bit code of ISO 2022 that switches sets by escape sequences. -/
  | iso2022 (code : Iso2022Code)
  /-- HZ: ASCII, and GB 2312 between `~{` and `~}`. -/
  | hz
  /-- Latin-1 with backslash escapes: `\n`, `\x41`, `é`, octal and the others. -/
  | unicodeEscape
  /-- Latin-1 with only the escapes `\uXXXX` and `\UXXXXXXXX`. -/
  | rawUnicodeEscape
  /-- Punycode: the ASCII characters, then numbers that place the others. -/
  | punycode
  /-- Domain names, label by label, in ASCII or Punycode. -/
  | idna
  /-- The codec that refuses to read or write anything. -/
  | undefined
  deriving Inhabited

/-! ## UTF-8 -/

/-- Whether a byte continues a multi-byte sequence. -/
def isContinuation (b : UInt8) : Bool := 0x80 ≤ b.toNat ∧ b.toNat ≤ 0xBF

/-- The bounds of the second byte of a sequence led by a byte, and the length of
the sequence, for the leading bytes of multi-byte sequences. -/
def secondByteRange (lead : Nat) : Option (Nat × Nat × Nat) :=
  if 0xC2 ≤ lead ∧ lead ≤ 0xDF then some (0x80, 0xBF, 2)
  else if lead = 0xE0 then some (0xA0, 0xBF, 3)
  else if lead = 0xED then some (0x80, 0x9F, 3)
  else if 0xE1 ≤ lead ∧ lead ≤ 0xEF then some (0x80, 0xBF, 3)
  else if lead = 0xF0 then some (0x90, 0xBF, 4)
  else if lead = 0xF4 then some (0x80, 0x8F, 4)
  else if 0xF1 ≤ lead ∧ lead ≤ 0xF3 then some (0x80, 0xBF, 4)
  else none

/-- The code point of a well-formed sequence. -/
def codePoint (lead : Nat) (tail : List UInt8) : Nat :=
  let width := tail.length + 1
  let first := if width = 2 then lead % 0x20 else if width = 3 then lead % 0x10 else lead % 0x08
  tail.foldl (fun acc b => acc * 64 + b.toNat % 64) first

/-- What the UTF-8 bytes at a position read as: a character and the number of bytes
it takes, or an ill-formed part of a number of bytes, with the reason. -/
inductive Utf8Step where
  | char (c : Char) (width : Nat)
  | bad (width : Nat) (reason : String)

/-- What the UTF-8 bytes from a first byte read as. An ill-formed part runs from the
first byte up to the first byte that cannot continue the sequence, or to the end. -/
def utf8Step (b : UInt8) (rest : List UInt8) : Utf8Step :=
  if b.toNat < 0x80 then .char (Char.ofNat b.toNat) 1
  else
    match secondByteRange b.toNat with
    | none => .bad 1 "invalid start byte"
    | some (lo, hi, width) =>
      -- how many bytes after the lead are well formed, up to the sequence's end
      let tail := rest.take (width - 1)
      let good := (tail.zipIdx.takeWhile fun (t, i) =>
        if i = 0 then lo ≤ t.toNat ∧ t.toNat ≤ hi else isContinuation t).length
      if good = width - 1 then .char (Char.ofNat (codePoint b.toNat tail)) width
      else if good = tail.length then .bad (1 + good) "unexpected end of data"
      else .bad (1 + good) "invalid continuation byte"

/-- Decode UTF-8 bytes from a position of `all`, characters so far reversed in `acc`. -/
def decodeUtf8From (all : List UInt8) (pos : Nat) (acc : List Char) :
    List UInt8 → Except CodecError (List Char)
  | [] => .ok acc.reverse
  | b :: rest =>
    match utf8Step b rest with
    | .char c width => decodeUtf8From all (pos + width) (c :: acc) (rest.drop (width - 1))
    | .bad width reason => .error (decodeError "utf-8" all pos (pos + width) reason)
termination_by bs => bs.length
decreasing_by
  simp only [List.length_cons, List.length_drop]
  omega

/-- Decode UTF-8 bytes, each ill-formed part read as one `U+FFFD`. -/
def decodeUtf8Lossy (acc : List Char) : List UInt8 → List Char
  | [] => acc.reverse
  | b :: rest =>
    match utf8Step b rest with
    | .char c width => decodeUtf8Lossy (c :: acc) (rest.drop (width - 1))
    | .bad width _ => decodeUtf8Lossy ('�' :: acc) (rest.drop (width - 1))
termination_by bs => bs.length
decreasing_by
  all_goals simp only [List.length_cons, List.length_drop]
  all_goals omega

/-- Decode UTF-8 bytes. -/
def decodeUtf8 (bs : List UInt8) : Except CodecError (List Char) := decodeUtf8From bs 0 [] bs

/-- The byte order mark of UTF-8. -/
def utf8Mark : List UInt8 := [0xEF, 0xBB, 0xBF]

/-- Decode UTF-8 after an optional byte order mark. Positions in messages count from
after the mark. Input that is too short to tell, because it is the start of a mark,
reads as no text. -/
def decodeUtf8Sig (bs : List UInt8) : Except CodecError (List Char) :=
  if bs.length < 3 then
    if bs.isPrefixOf utf8Mark then .ok [] else decodeUtf8 bs
  else if bs.take 3 = utf8Mark then decodeUtf8 (bs.drop 3)
  else decodeUtf8 bs

/-! ## UTF-16 and UTF-32 -/

/-- The name a UTF-16 codec of a byte order gives itself in messages. -/
def ByteOrder.utf16Name : ByteOrder → String
  | .little => "utf-16-le"
  | .big => "utf-16-be"

/-- The name a UTF-32 codec of a byte order gives itself in messages. -/
def ByteOrder.utf32Name : ByteOrder → String
  | .little => "utf-32-le"
  | .big => "utf-32-be"

/-- The value of bytes in a byte order, the first byte first in the input. -/
def ByteOrder.value (o : ByteOrder) (bs : List UInt8) : Nat :=
  let ordered := match o with
    | .little => bs.reverse
    | .big => bs
  ordered.foldl (fun acc b => acc * 256 + b.toNat) 0

/-- The bytes of a value in a byte order, `width` of them. -/
def ByteOrder.bytes (o : ByteOrder) (width n : Nat) : List UInt8 :=
  let little := (List.range width).map fun i => byteOf (n / Nat.pow 256 i % 256)
  match o with
  | .little => little
  | .big => little.reverse

/-- Whether a code is a high surrogate half. -/
def isHighSurrogate (n : Nat) : Bool := 0xD800 ≤ n && n < 0xDC00

/-- Whether a code is a low surrogate half. -/
def isLowSurrogate (n : Nat) : Bool := 0xDC00 ≤ n && n < 0xE000

/-- The code point of a pair of surrogate halves. -/
def joinSurrogates (high low : Nat) : Nat := 0x10000 + (high - 0xD800) * 0x400 + (low - 0xDC00)

/-- Decode UTF-16 code units in a byte order from a position of `all`. -/
def decodeUtf16From (o : ByteOrder) (all : List UInt8) (pos : Nat) (acc : List Char) :
    List UInt8 → Except CodecError (List Char)
  | [] => .ok acc.reverse
  | [_] => .error (decodeError o.utf16Name all pos (pos + 1) "truncated data")
  | b0 :: b1 :: rest =>
    let u := o.value [b0, b1]
    if !isHighSurrogate u && !isLowSurrogate u then
      decodeUtf16From o all (pos + 2) (Char.ofNat u :: acc) rest
    else if isLowSurrogate u then
      .error (decodeError o.utf16Name all pos (pos + 2) "illegal encoding")
    else
      match rest with
      | c0 :: c1 :: more =>
        let low := o.value [c0, c1]
        if isLowSurrogate low then
          decodeUtf16From o all (pos + 4) (charOfCode (joinSurrogates u low) :: acc) more
        else .error (decodeError o.utf16Name all pos (pos + 2) "illegal UTF-16 surrogate")
      | _ => .error (decodeError o.utf16Name all pos all.length "unexpected end of data")

/-- Decode UTF-32 code units in a byte order from a position of `all`. -/
def decodeUtf32From (o : ByteOrder) (all : List UInt8) (pos : Nat) (acc : List Char) :
    List UInt8 → Except CodecError (List Char)
  | [] => .ok acc.reverse
  | b0 :: b1 :: b2 :: b3 :: rest =>
    let u := o.value [b0, b1, b2, b3]
    if isHighSurrogate u || isLowSurrogate u then
      .error (decodeError o.utf32Name all pos (pos + 4)
        "code point in surrogate code point range(0xd800, 0xe000)")
    else if u ≥ 0x110000 then
      .error (decodeError o.utf32Name all pos (pos + 4) "code point not in range(0x110000)")
    else decodeUtf32From o all (pos + 4) (charOfCode u :: acc) rest
  | _ => .error (decodeError o.utf32Name all pos all.length "truncated data")

/-- Decode UTF-16, in a byte order or after a byte order mark. Without a mark the
bytes are read in little-endian order, and a stream of two bytes or more that reads
well is still refused. -/
def decodeUtf16 (order : Option ByteOrder) (bs : List UInt8) : Except CodecError (List Char) :=
  match order with
  | some o => decodeUtf16From o bs 0 [] bs
  | none =>
    if bs.take 2 = [0xFF, 0xFE] then decodeUtf16From .little bs 2 [] (bs.drop 2)
    else if bs.take 2 = [0xFE, 0xFF] then decodeUtf16From .big bs 2 [] (bs.drop 2)
    else
      match decodeUtf16From .little bs 0 [] bs with
      | .ok cs =>
        if bs.length ≥ 2 then .error (.whole "UTF-16 stream does not start with BOM") else .ok cs
      | .error e => .error e

/-- Decode UTF-32, in a byte order or after a byte order mark, as `decodeUtf16`. -/
def decodeUtf32 (order : Option ByteOrder) (bs : List UInt8) : Except CodecError (List Char) :=
  match order with
  | some o => decodeUtf32From o bs 0 [] bs
  | none =>
    if bs.take 4 = [0xFF, 0xFE, 0, 0] then decodeUtf32From .little bs 4 [] (bs.drop 4)
    else if bs.take 4 = [0, 0, 0xFE, 0xFF] then decodeUtf32From .big bs 4 [] (bs.drop 4)
    else
      match decodeUtf32From .little bs 0 [] bs with
      | .ok cs =>
        if bs.length ≥ 4 then .error (.whole "UTF-32 stream does not start with BOM") else .ok cs
      | .error e => .error e

/-- The UTF-16 code units of a character. -/
def utf16Units (c : Char) : List Nat :=
  if c.toNat < 0x10000 then [c.toNat]
  else [0xD800 + (c.toNat - 0x10000) / 0x400, 0xDC00 + (c.toNat - 0x10000) % 0x400]

/-- Encode a text as UTF-16 in a byte order. -/
def encodeUtf16 (o : ByteOrder) (cs : List Char) : List UInt8 :=
  cs.flatMap fun c => (utf16Units c).flatMap (o.bytes 2)

/-- Encode a text as UTF-32 in a byte order. -/
def encodeUtf32 (o : ByteOrder) (cs : List Char) : List UInt8 :=
  cs.flatMap fun c => o.bytes 4 c.toNat

/-! ## UTF-7 -/

/-- Whether a byte is a base-64 digit. -/
def isBase64 (b : Nat) : Bool :=
  (0x41 ≤ b && b ≤ 0x5A) || (0x61 ≤ b && b ≤ 0x7A) || (0x30 ≤ b && b ≤ 0x39) || b = 0x2B ||
    b = 0x2F

/-- The value of a base-64 digit. -/
def base64Value (b : Nat) : Nat :=
  if 0x41 ≤ b && b ≤ 0x5A then b - 0x41
  else if 0x61 ≤ b && b ≤ 0x7A then b - 0x61 + 26
  else if 0x30 ≤ b && b ≤ 0x39 then b - 0x30 + 52
  else if b = 0x2B then 62
  else 63

/-- The base-64 digit of a value below 64. -/
def base64Digit (n : Nat) : UInt8 :=
  if n < 26 then byteOf (0x41 + n)
  else if n < 52 then byteOf (0x61 + n - 26)
  else if n < 62 then byteOf (0x30 + n - 52)
  else if n = 62 then 0x2B
  else 0x2F

/-- The state of a UTF-7 decoder inside a base-64 run. -/
structure Utf7Shift where
  /-- The position of the `+` that opened the run. -/
  start : Nat
  bits : Nat
  buffer : Nat
  /-- A high surrogate half waiting for its low half. -/
  high : Option Nat

/-- Whether a UTF-7 run ends in a state that loses bits. -/
def Utf7Shift.unfinished (s : Utf7Shift) : Bool :=
  s.high.isSome || s.bits ≥ 6 || (s.bits > 0 && s.buffer ≠ 0)

/-- What a UTF-7 decoder does with a byte outside a base-64 run, given the byte after
it: read a character and skip one or two bytes, open a run, or fail up to a
position past the byte. -/
inductive Utf7Step where
  | char (c : Char) (width : Nat)
  | open
  | fail (width : Nat) (reason : String)

/-- The step for a byte outside a base-64 run. -/
def utf7Plain (b : Nat) (next : Option Nat) : Utf7Step :=
  if b = 0x2B then
    match next with
    | some 0x2D => .char '+' 2
    | some n => if isBase64 n then .open else .fail 2 "ill-formed sequence"
    | none => .open
  else if b ≤ 127 then .char (Char.ofNat b) 1
  else .fail 1 "unexpected special character"

/-- Take one base-64 digit into a run, giving the characters it completes, newest
first, and the run after it. -/
def Utf7Shift.take (s : Utf7Shift) (digit : Nat) : List Char × Utf7Shift :=
  let buffer := s.buffer * 64 + digit
  let bits := s.bits + 6
  if bits < 16 then ([], { s with bits := bits, buffer := buffer })
  else
    let unit := buffer / Nat.pow 2 (bits - 16)
    let rest := { s with bits := bits - 16, buffer := buffer % Nat.pow 2 (bits - 16) }
    match s.high with
    | some high =>
      if isLowSurrogate unit then ([charOfCode (joinSurrogates high unit)], { rest with high := none })
      else if isHighSurrogate unit then ([charOfCode high], { rest with high := some unit })
      else ([charOfCode unit, charOfCode high], { rest with high := none })
    | none =>
      if isHighSurrogate unit then ([], { rest with high := some unit })
      else ([charOfCode unit], rest)

/-- Decode UTF-7 from a position of `all`, inside a base-64 run when `shift` is
given. -/
def decodeUtf7From (all : List UInt8) (pos : Nat) (acc : List Char) (shift : Option Utf7Shift) :
    List UInt8 → Except CodecError (List Char)
  | [] =>
    match shift with
    | some s =>
      if s.unfinished then .error (decodeError "utf7" all s.start all.length "unterminated shift sequence")
      else .ok acc.reverse
    | none => .ok acc.reverse
  | b :: rest =>
    let plain (acc : List Char) : Except CodecError (List Char) :=
      match utf7Plain b.toNat (rest.head?.map UInt8.toNat) with
      | .char c 1 => decodeUtf7From all (pos + 1) (c :: acc) none rest
      | .char c _ => decodeUtf7From all (pos + 2) (c :: acc) none (rest.drop 1)
      | .open => decodeUtf7From all (pos + 1) acc (some ⟨pos, 0, 0, none⟩) rest
      | .fail width reason => .error (decodeError "utf7" all pos (pos + width) reason)
    match shift with
    | none => plain acc
    | some s =>
      if isBase64 b.toNat then
        let (done, s') := s.take (base64Value b.toNat)
        decodeUtf7From all (pos + 1) (done ++ acc) (some s') rest
      else if s.bits ≥ 6 then
        .error (decodeError "utf7" all s.start (pos + 1) "partial character in shift sequence")
      else if s.bits > 0 && s.buffer ≠ 0 then
        .error (decodeError "utf7" all s.start (pos + 1) "non-zero padding bits in shift sequence")
      else
        let acc := match s.high with
          | some high => if b.toNat ≤ 127 && b.toNat ≠ 0x2B then charOfCode high :: acc else acc
          | none => acc
        if b.toNat = 0x2D then decodeUtf7From all (pos + 1) acc none rest else plain acc
termination_by bs => bs.length
decreasing_by
  all_goals simp only [List.length_cons, List.length_drop]
  all_goals omega

/-- The class of an ASCII character for UTF-7: whether it is written as itself. -/
def utf7Direct (c : Char) : Bool :=
  c.toNat < 128 && c.toNat > 0 && c ≠ '+' && c ≠ '\\' && c ≠ '~' &&
    (c.toNat ≥ 0x20 || c = '\t' || c = '\n' || c = '\r') && c.toNat ≠ 0x7F

/-- The state of a UTF-7 encoder: inside a base-64 run or not, and the bits not yet
written. -/
structure Utf7Writer where
  out : List UInt8
  inShift : Bool
  bits : Nat
  buffer : Nat

/-- Write a code unit into a base-64 run. -/
def Utf7Writer.unit (w : Utf7Writer) (u : Nat) : Utf7Writer :=
  let buffer := w.buffer * 65536 + u
  let bits := w.bits + 16
  let digits := (List.range (bits / 6)).map fun i => base64Digit (buffer / Nat.pow 2 (bits - 6 * (i + 1)) % 64)
  { w with out := w.out ++ digits, bits := bits % 6, buffer := buffer % Nat.pow 2 (bits % 6) }

/-- Write the bits left in a base-64 run, padded with zero bits. -/
def Utf7Writer.flushBits (w : Utf7Writer) : Utf7Writer :=
  if w.bits = 0 then w
  else { w with out := w.out ++ [base64Digit (w.buffer * Nat.pow 2 (6 - w.bits) % 64)], bits := 0, buffer := 0 }

/-- Write one character. -/
def Utf7Writer.char (w : Utf7Writer) (c : Char) : Utf7Writer :=
  if w.inShift then
    if utf7Direct c then
      let w := w.flushBits
      let dash := if isBase64 c.toNat || c = '-' then [0x2D] else []
      { w with out := w.out ++ dash ++ [byteOf c.toNat], inShift := false }
    else (utf16Units c).foldl Utf7Writer.unit w
  else if c = '+' then { w with out := w.out ++ [0x2B, 0x2D] }
  else if utf7Direct c then { w with out := w.out ++ [byteOf c.toNat] }
  else (utf16Units c).foldl Utf7Writer.unit { w with out := w.out ++ [0x2B], inShift := true }

/-- Encode a text as UTF-7. -/
def encodeUtf7 (cs : List Char) : List UInt8 :=
  let w := (cs.foldl Utf7Writer.char ⟨[], false, 0, 0⟩).flushBits
  if w.inShift then w.out ++ [0x2D] else w.out

/-! ## The escape codecs -/

/-- The value of a hexadecimal digit byte, if it is one. -/
def hexValue? (b : Nat) : Option Nat :=
  if 0x30 ≤ b && b ≤ 0x39 then some (b - 0x30)
  else if 0x61 ≤ b && b ≤ 0x66 then some (b - 0x61 + 10)
  else if 0x41 ≤ b && b ≤ 0x46 then some (b - 0x41 + 10)
  else none

/-- Whether a byte is a hexadecimal digit. -/
def isHexByte (b : UInt8) : Bool := (hexValue? b.toNat).isSome

/-- The character of a simple backslash escape, the letter or sign after the
backslash. -/
def simpleEscape? (b : Nat) : Option Char :=
  if b = 0x5C then some '\\' else if b = 0x27 then some '\'' else if b = 0x22 then some '"'
  else if b = 0x62 then some (Char.ofNat 8) else if b = 0x66 then some (Char.ofNat 12)
  else if b = 0x74 then some '\t' else if b = 0x6E then some '\n' else if b = 0x72 then some '\r'
  else if b = 0x76 then some (Char.ofNat 11) else if b = 0x61 then some (Char.ofNat 7)
  else none

/-- Whether a byte is an octal digit. -/
def isOctal (b : Nat) : Bool := 0x30 ≤ b && b ≤ 0x37

/-- Decode backslash escapes from a position of `all`. -/
def decodeEscapesFrom (all : List UInt8) (pos : Nat) (acc : List Char) :
    List UInt8 → Except CodecError (List Char)
  | [] => .ok acc.reverse
  | b :: rest =>
    if b.toNat ≠ 0x5C then decodeEscapesFrom all (pos + 1) (Char.ofNat b.toNat :: acc) rest
    else
      match h : rest with
      | [] => .error (decodeError "unicodeescape" all pos (pos + 1) "\\ at end of string")
      | c :: more =>
        let fail (stop : Nat) (reason : String) : Except CodecError (List Char) :=
          .error (decodeError "unicodeescape" all pos stop reason)
        if c.toNat = 0x0A then decodeEscapesFrom all (pos + 2) acc more
        else match simpleEscape? c.toNat with
        | some e => decodeEscapesFrom all (pos + 2) (e :: acc) more
        | none =>
          if isOctal c.toNat then
            let digits := (more.take 2).takeWhile (isOctal ·.toNat)
            let value := (c :: digits).foldl (fun v d => v * 8 + (d.toNat - 0x30)) 0
            decodeEscapesFrom all (pos + 2 + digits.length) (Char.ofNat value :: acc)
              (more.drop digits.length)
          else if c.toNat = 0x78 || c.toNat = 0x75 || c.toNat = 0x55 then
            let count := if c.toNat = 0x78 then 2 else if c.toNat = 0x75 then 4 else 8
            let reason :=
              if c.toNat = 0x78 then "truncated \\xXX escape"
              else if c.toNat = 0x75 then "truncated \\uXXXX escape"
              else "truncated \\UXXXXXXXX escape"
            let good := ((more.take count).takeWhile isHexByte).length
            let value := (more.take good).foldl (fun v d => v * 16 + (hexValue? d.toNat).getD 0) 0
            if good < count then fail (pos + 2 + good) reason
            else if value > 0x10FFFF then fail (pos + 2 + count) "illegal Unicode character"
            else decodeEscapesFrom all (pos + 2 + count) (charOfCode value :: acc) (more.drop count)
          else if c.toNat = 0x4E then
            match more with
            | [] => fail all.length "malformed \\N character escape"
            | o :: name =>
              if o.toNat ≠ 0x7B then fail (pos + 2) "malformed \\N character escape"
              else
                let written := name.takeWhile (·.toNat ≠ 0x7D)
                if written.length = name.length then fail all.length "malformed \\N character escape"
                else if written.isEmpty then fail (pos + 3) "malformed \\N character escape"
                else fail (pos + 4 + written.length) "unknown Unicode character name"
          else decodeEscapesFrom all (pos + 2) (Char.ofNat c.toNat :: '\\' :: acc) more
termination_by bs => bs.length
decreasing_by all_goals (simp only [List.length_cons, List.length_drop]; omega)

set_option linter.unusedVariables false in
/-- Decode raw escapes from a position of `all`: only `\u` and `\U` after an odd
number of backslashes are escapes. The equation `h` is used by the termination proof. -/
def decodeRawEscapesFrom (all : List UInt8) (pos : Nat) (acc : List Char) :
    List UInt8 → Except CodecError (List Char)
  | [] => .ok acc.reverse
  | b :: rest =>
    if b.toNat ≠ 0x5C then decodeRawEscapesFrom all (pos + 1) (Char.ofNat b.toNat :: acc) rest
    else
      let run := 1 + (rest.takeWhile (·.toNat = 0x5C)).length
      let slashes := List.replicate run '\\'
      match h : rest.drop (run - 1) with
      | c :: more =>
        if run % 2 = 1 && (c.toNat = 0x75 || c.toNat = 0x55) then
          let start := pos + run - 1
          let count := if c.toNat = 0x75 then 4 else 8
          let good := ((more.take count).takeWhile isHexByte).length
          let value := (more.take good).foldl (fun v d => v * 16 + (hexValue? d.toNat).getD 0) 0
          if good < count then
            .error (decodeError "rawunicodeescape" all start (pos + run + 1 + good)
              (if count = 4 then "truncated \\uXXXX escape" else "truncated \\UXXXXXXXX escape"))
          else if value > 0x10FFFF then
            .error (decodeError "rawunicodeescape" all start (pos + run + 1 + count)
              "\\Uxxxxxxxx out of range")
          else
            decodeRawEscapesFrom all (pos + run + 1 + count)
              (charOfCode value :: (slashes.drop 1 ++ acc)) (more.drop count)
        else decodeRawEscapesFrom all (pos + run) (slashes ++ acc) (c :: more)
      | [] => .ok (slashes ++ acc).reverse
termination_by bs => bs.length
decreasing_by
  all_goals first
    | (simp only [List.length_cons, List.length_drop]; omega)
    | (have hlen := congrArg List.length h
       simp only [List.length_cons, List.length_drop] at hlen ⊢
       omega)

/-- The hexadecimal digits of a code, `width` of them, in lower case. -/
def lowerHex (width n : Nat) : List UInt8 :=
  (Text.hexDigits width n).map fun c => byteOf c.toLower.toNat

/-- Encode a character with backslash escapes. -/
def escapeChar (c : Char) : List UInt8 :=
  let n := c.toNat
  if n < 0x100 then
    if 0x20 ≤ n && n < 0x7F then (if c = '\\' then [0x5C, 0x5C] else [byteOf n])
    else if c = '\t' then [0x5C, 0x74]
    else if c = '\n' then [0x5C, 0x6E]
    else if c = '\r' then [0x5C, 0x72]
    else [0x5C, 0x78] ++ lowerHex 2 n
  else if n < 0x10000 then [0x5C, 0x75] ++ lowerHex 4 n
  else [0x5C, 0x55] ++ lowerHex 8 n

/-- Encode a character with raw escapes: Latin-1, or `\u` or `\U` and its code. -/
def rawEscapeChar (c : Char) : List UInt8 :=
  let n := c.toNat
  if n < 0x100 then [byteOf n]
  else if n < 0x10000 then [0x5C, 0x75] ++ lowerHex 4 n
  else [0x5C, 0x55] ++ lowerHex 8 n

/-! ## Single-byte codecs -/

/-- Encode a text one character a byte, failing at the first run of characters that
have no byte; `name` and `reason` word the failure. -/
def encodeBytewise (name reason : String) (byte? : Char → Option UInt8) (cs : List Char) :
    Except CodecError (List UInt8) :=
  match cs.findIdx? (byte? · |>.isNone) with
  | none => .ok (cs.filterMap byte?)
  | some i =>
    let run := ((cs.drop i).takeWhile (byte? · |>.isNone)).length
    .error (encodeError name cs i (i + run) reason)

/-- The byte of a character below a limit. -/
def byteBelow (limit : Nat) (c : Char) : Option UInt8 :=
  if c.toNat < limit then some (byteOf c.toNat) else none

namespace Codec

/-- The multibyte codes, by the name of their codec module. -/
def multibyteCodes : List (String × MultibyteCode) :=
  [("big5", MultibyteCode.big5),
   ("big5hkscs", MultibyteCode.big5hkscs),
   ("cp932", MultibyteCode.cp932),
   ("cp949", MultibyteCode.cp949),
   ("cp950", MultibyteCode.cp950),
   ("euc_jis_2004", MultibyteCode.eucJis2004),
   ("euc_jisx0213", MultibyteCode.eucJisx0213),
   ("euc_jp", MultibyteCode.eucJp),
   ("euc_kr", MultibyteCode.eucKr),
   ("gb18030", MultibyteCode.gb18030),
   ("gb2312", MultibyteCode.gb2312),
   ("gbk", MultibyteCode.gbk),
   ("johab", MultibyteCode.johab),
   ("shift_jis", MultibyteCode.shiftJis),
   ("shift_jis_2004", MultibyteCode.shiftJis2004),
   ("shift_jisx0213", MultibyteCode.shiftJisx0213)]

/-- The ISO 2022 codes, by the name of their codec module. -/
def iso2022Codes : List (String × Iso2022Code) :=
  [("iso2022_jp", Iso2022Code.iso2022Jp),
   ("iso2022_jp_1", Iso2022Code.iso2022Jp1),
   ("iso2022_jp_2", Iso2022Code.iso2022Jp2),
   ("iso2022_jp_2004", Iso2022Code.iso2022Jp2004),
   ("iso2022_jp_3", Iso2022Code.iso2022Jp3),
   ("iso2022_jp_ext", Iso2022Code.iso2022JpExt),
   ("iso2022_kr", Iso2022Code.iso2022Kr)]

/-- The codec of a codec module, for the modules that read and write text here. -/
def ofModule? (m : String) : Option Codec :=
  if m = "utf_8" then some .utf8
  else if m = "utf_8_sig" then some .utf8Sig
  else if m = "utf_16" then some (.utf16 none)
  else if m = "utf_16_le" then some (.utf16 (some .little))
  else if m = "utf_16_be" then some (.utf16 (some .big))
  else if m = "utf_32" then some (.utf32 none)
  else if m = "utf_32_le" then some (.utf32 (some .little))
  else if m = "utf_32_be" then some (.utf32 (some .big))
  else if m = "utf_7" then some .utf7
  else if m = "ascii" then some .ascii
  else if m = "latin_1" || m = "charmap" then some .latin1
  else if m = "unicode_escape" then some .unicodeEscape
  else if m = "raw_unicode_escape" then some .rawUnicodeEscape
  else if m = "undefined" then some .undefined
  else if m = "punycode" then some .punycode
  else if m = "hz" then some .hz
  else if m = "idna" then some .idna
  else
    match multibyteCodes.lookup m with
    | some code => some (.multibyte code)
    | none =>
      match iso2022Codes.lookup m with
      | some code => some (.iso2022 code)
      | none => (CodePage.byModule.lookup m).map .page

/-- The first 400 bytes of a name's UTF-8 form, as a text; a character cut short
becomes `U+FFFD`. -/
def clipName (s : String) : String :=
  let cut := s.toUTF8.toList.take 400
  let whole := (s.toList.foldl (fun (taken, size) c =>
    if size + c.utf8Size ≤ 400 then (c :: taken, size + c.utf8Size) else (taken, 401)) ([], 0)).1
  let wholeSize := (whole.map Char.utf8Size).foldr (· + ·) 0
  String.ofList whole.reverse ++ (if wholeSize < cut.length then "�" else "")

/-- The codec an encoding name names, or the message of the lookup error. -/
def lookup (encoding : String) : Except String Codec :=
  if encoding = "locale" then .ok .utf8
  else
    match Registry.module? encoding with
    | none => .error ("unknown encoding: " ++ encoding)
    | some m =>
      if Registry.binaryModules.contains m then
        .error ("'" ++ clipName encoding ++
          "' is not a text encoding; use codecs.open() to handle arbitrary codecs")
      else
        match ofModule? m with
        | some c => .ok c
        | none => .error ("unknown encoding: " ++ encoding)

/-- Decode bytes with a codec, or the first failure. -/
def decode (c : Codec) (bytes : ByteArray) : Except CodecError String :=
  let bs := bytes.toList
  let chars : Except CodecError (List Char) := match c with
    | .utf8 => decodeUtf8 bs
    | .utf8Sig => decodeUtf8Sig bs
    | .utf16 order => decodeUtf16 order bs
    | .utf32 order => decodeUtf32 order bs
    | .utf7 => decodeUtf7From bs 0 [] none bs
    | .latin1 => .ok (bs.map fun b => Char.ofNat b.toNat)
    | .ascii => decodeAscii bs
    | .page p =>
      match bs.findIdx? (p.char? · |>.isNone) with
      | some i => .error (decodeError "charmap" bs i (i + 1) "character maps to <undefined>")
      | none => .ok (bs.filterMap p.char?)
    | .multibyte m => m.decode bs
    | .iso2022 code => code.decode bs
    | .hz => Hz.decode bs
    | .unicodeEscape => decodeEscapesFrom bs 0 [] bs
    | .rawUnicodeEscape => decodeRawEscapesFrom bs 0 [] bs
    | .punycode => Punycode.decode bs
    | .idna => Idna.decode bs
    | .undefined => .error (.whole "undefined encoding")
  chars.map String.ofList

/-- The bytes of a text in a codec, or the first failure. -/
def encode (c : Codec) (s : String) : Except CodecError ByteArray :=
  let cs := s.toList
  let bytes : Except CodecError (List UInt8) := match c with
    | .utf8 => .ok s.toUTF8.toList
    | .utf8Sig => .ok (utf8Mark ++ s.toUTF8.toList)
    | .utf16 none => .ok ([0xFF, 0xFE] ++ encodeUtf16 .little cs)
    | .utf16 (some o) => .ok (encodeUtf16 o cs)
    | .utf32 none => .ok ([0xFF, 0xFE, 0, 0] ++ encodeUtf32 .little cs)
    | .utf32 (some o) => .ok (encodeUtf32 o cs)
    | .utf7 => .ok (encodeUtf7 cs)
    | .ascii => encodeBytewise "ascii" "ordinal not in range(128)" (byteBelow 0x80) cs
    | .latin1 => encodeBytewise "latin-1" "ordinal not in range(256)" (byteBelow 0x100) cs
    | .page p => encodeBytewise "charmap" "character maps to <undefined>" p.byte? cs
    | .multibyte m => (m.encode cs).map (·.map byteOf)
    | .iso2022 code => (code.encode cs).map (·.map byteOf)
    | .hz => (Hz.encode cs).map (·.map byteOf)
    | .unicodeEscape => .ok (cs.flatMap escapeChar)
    | .rawUnicodeEscape => .ok (cs.flatMap rawEscapeChar)
    | .punycode => .ok (Punycode.encode cs)
    | .idna => Idna.encode cs
    | .undefined => .error (.whole "undefined encoding")
  bytes.map fun bs => ByteArray.mk bs.toArray

end Codec

/-- Make line ends uniform: `\r\n` and a lone `\r` become `\n`. -/
def uniformLineEnds : List Char → List Char
  | [] => []
  | '\r' :: '\n' :: rest => '\n' :: uniformLineEnds rest
  | '\r' :: rest => '\n' :: uniformLineEnds rest
  | c :: rest => c :: uniformLineEnds rest

/-- No carriage return is left once line ends are uniform. -/
theorem uniformLineEnds_no_return (cs : List Char) : '\r' ∉ uniformLineEnds cs := by
  fun_induction uniformLineEnds cs <;> simp_all [eq_comm]

/-- Read text from bytes in a codec, line ends made uniform. -/
def readText (c : Codec) (bytes : ByteArray) : Except CodecError String :=
  (c.decode bytes).map fun s => String.ofList (uniformLineEnds s.toList)

/-- Read text from UTF-8 bytes, each ill-formed part read as `U+FFFD`, line ends made
uniform. -/
def readTextLossy (bytes : ByteArray) : String :=
  String.ofList (uniformLineEnds (decodeUtf8Lossy [] bytes.toList))

end Stencil.Files
