import Stencil.Files.Punycode
import Stencil.Files.Nameprep

/-!
# Internationalized domain names

The IDNA codec (RFC 3490) reads and writes a text as a domain name: a sequence of
labels separated by dots.

Writing turns each label into ASCII: an ASCII label stays as it is, any other is
prepared by nameprep and, unless that makes it ASCII, written in Punycode after the
prefix `xn--`. Every label must then have between 1 and 63 characters. Labels are
separated by the full stop, and also by the ideographic, fullwidth and halfwidth
ideographic full stops. A writer keeps the label after the last separator back,
since more of it may follow, and writes it only when it is told the text has ended;
the writer of a file is never told, so that label is not written.

Reading requires ASCII, splits the text at full stops and reads each label that
starts with `xn--` as Punycode; the label must come back when the result is written
again. Everything else is read as it is.

Failures concern the stream as a whole, apart from bytes beyond ASCII:

```
label empty or too long
Label starts with ACE prefix
('IDNA does not round-trip', b'xn--abc-', b'abc')
decoding with 'punycode' codec failed (UnicodeError: incomplete punicode string)
```
-/

namespace Stencil.Files.Idna

/-- The prefix of a label written in Punycode. -/
def acePrefix : List Char := ['x', 'n', '-', '-']

/-- Whether a character separates labels when writing: the full stop, the
ideographic full stop, the fullwidth full stop and the halfwidth ideographic full
stop. -/
def isLabelSeparator (c : Char) : Bool :=
  c = '.' || c = '。' || c = '．' || c = '｡'

/-- The pieces of a text between the characters that satisfy `p`. -/
def splitWhere (p : Char → Bool) : List Char → List (List Char)
  | [] => [[]]
  | c :: rest =>
    if p c then [] :: splitWhere p rest
    else
      match splitWhere p rest with
      | first :: more => (c :: first) :: more
      | [] => [[c]]

/-- The bytes of an ASCII text. -/
def asciiBytes (cs : List Char) : List UInt8 := cs.map fun c => byteOf c.toNat

/-- A label of a sound length: between 1 and 63 bytes. -/
def sized (bs : List UInt8) : Except CodecError (List UInt8) :=
  if 0 < bs.length ∧ bs.length < 64 then .ok bs else .error (.whole "label empty or too long")

/-- A label written in ASCII. -/
def labelToAscii (label : List Char) : Except CodecError (List UInt8) :=
  if label.all (·.toNat < 0x80) then sized (asciiBytes label)
  else
    match Nameprep.prepare label with
    | .error m => .error (.whole m)
    | .ok prepared =>
      if prepared.all (·.toNat < 0x80) then sized (asciiBytes prepared)
      else if acePrefix.isPrefixOf prepared then .error (.whole "Label starts with ACE prefix")
      else sized (asciiBytes acePrefix ++ Punycode.encode prepared)

/-- How a tuple of the reason and two ASCII labels is shown, each label as bytes. -/
def roundTripMessage (label written : List Char) : String :=
  "('IDNA does not round-trip', b" ++ Text.quote (String.ofList label) ++ ", b" ++
    Text.quote (String.ofList written) ++ ")"

/-- A failure of Punycode inside a label, reported as a failure of that codec. -/
def punycodeFailure : CodecError → CodecError
  | .whole m => .whole ("decoding with 'punycode' codec failed (UnicodeError: " ++ m ++ ")")
  | e => e

/-- An ASCII label read: as it is, or, after the prefix `xn--`, as Punycode that
must give the label back when written again. -/
def labelToUnicode (label : List Char) : Except CodecError (List Char) :=
  if acePrefix.isPrefixOf label then do
    let result ← (Punycode.decode (asciiBytes (label.drop acePrefix.length))).mapError
      punycodeFailure
    let written ← labelToAscii result
    let writtenChars := written.map fun b => Char.ofNat b.toNat
    if label.map Char.toLower = writtenChars then .ok result
    else .error (.whole (roundTripMessage label writtenChars))
  else .ok label

/-- Read a domain name from bytes. -/
def decode (bs : List UInt8) : Except CodecError (List Char) :=
  if bs.isEmpty then .ok []
  else do
    let text ← decodeAscii bs
    let labels := splitWhere (· = '.') text
    let (labels, trailing) :=
      if labels.getLast? = some [] then (labels.dropLast, ['.']) else (labels, [])
    let read ← labels.mapM labelToUnicode
    .ok (['.'].intercalate read ++ trailing)

/-- The bytes that a writer puts out for a text when it is not told that the text
has ended: the labels before the last separator, each followed by a full stop. -/
def encode (cs : List Char) : Except CodecError (List UInt8) :=
  if cs.isEmpty then .ok []
  else do
    let labels := (splitWhere isLabelSeparator cs).dropLast
    let written ← labels.mapM labelToAscii
    .ok ([0x2E].intercalate written ++ (if labels.isEmpty then [] else [0x2E]))

end Stencil.Files.Idna
