import Stencil.Text.Quoted

/-!
# Codec errors

What a codec reports when bytes do not decode or a text does not encode. An error
about particular bytes or characters names the codec, the position or the range of
positions, and the reason:

```
'utf-8' codec can't decode byte 0xff in position 2: invalid start byte
'gbk' codec can't decode bytes in position 0-2: incomplete multibyte sequence
'latin-1' codec can't encode character '\u20ac' in position 2: ordinal not in range(256)
```

A single byte is shown in hexadecimal, a single character by its escaped code;
a range by its first and last positions.
-/

namespace Stencil.Files

/-- Why bytes do not decode or a text does not encode. -/
inductive CodecError where
  /-- Some bytes or characters do not fit the codec. -/
  | span (message : String)
  /-- The codec refuses the stream as a whole. -/
  | whole (message : String)
  /-- The codec reaches a state it has no rule for and fails in itself. -/
  | internal
  deriving Inhabited

namespace CodecError

/-- The message of the error. -/
def message : CodecError → String
  | .span m => m
  | .whole m => m
  | .internal => "internal codec error"

end CodecError

/-- The byte of a character code below 256. -/
def byteOf (n : Nat) : UInt8 := UInt8.ofNat n

/-- The character of a code point, with `U+FFFD` standing for a surrogate half,
which no character is. -/
def charOfCode (n : Nat) : Char :=
  if n.isValidChar then Char.ofNat n else '�'

/-- The text of a byte in messages, as `0x` and two hexadecimal digits. -/
def byteText (b : UInt8) : String := "0x" ++ String.ofList (Text.hexDigits 2 b.toNat)

/-- The error for bytes from `start` up to `stop` that a codec cannot decode; `all`
is the input whose positions these are. -/
def decodeError (codec : String) (all : List UInt8) (start stop : Nat) (reason : String) :
    CodecError :=
  let what :=
    if stop = start + 1 then "byte " ++ byteText (all.getD start 0) ++ " in position " ++
      toString start
    else "bytes in position " ++ toString start ++ "-" ++ toString (stop - 1)
  .span ("'" ++ codec ++ "' codec can't decode " ++ what ++ ": " ++ reason)

/-- ASCII bytes as characters, or the error at the first byte beyond ASCII. -/
def decodeAscii (bs : List UInt8) : Except CodecError (List Char) :=
  match bs.findIdx? (·.toNat ≥ 0x80) with
  | some i => .error (decodeError "ascii" bs i (i + 1) "ordinal not in range(128)")
  | none => .ok (bs.map fun b => Char.ofNat b.toNat)

/-- A character escaped as in encoding messages: `\x`, `\u` or `\U` and its hexadecimal
code. -/
def charEscape (c : Char) : String :=
  if c.toNat < 0x100 then "\\x" ++ String.ofList (Text.hexDigits 2 c.toNat)
  else if c.toNat < 0x10000 then "\\u" ++ String.ofList (Text.hexDigits 4 c.toNat)
  else "\\U" ++ String.ofList (Text.hexDigits 8 c.toNat)

/-- The error for the characters from `start` up to `stop` of a text that a codec
cannot encode. -/
def encodeError (codec : String) (cs : List Char) (start stop : Nat) (reason : String) :
    CodecError :=
  let what :=
    if stop = start + 1 then "character '" ++ charEscape (cs.getD start ' ') ++ "' in position " ++
      toString start
    else "characters in position " ++ toString start ++ "-" ++ toString (stop - 1)
  .span ("'" ++ codec ++ "' codec can't encode " ++ what ++ ": " ++ reason)

end Stencil.Files
