import Stencil.Files.Multibyte
import Stencil.Files.Multibyte.Gb2312

/-!
# HZ

HZ (RFC 1843) writes Chinese text in 7-bit bytes. Text is ASCII until `~{`, after
which pairs of bytes are characters of GB 2312 with their high bits cleared, until
`~}`. In ASCII, `~~` is a tilde and `~` before a line feed is a line continuation,
read as nothing; any other byte after `~`, and any byte beyond 7 bits, is illegal:

```
'hz' codec can't decode byte 0x7e in position 0: illegal multibyte sequence
'hz' codec can't decode byte 0x7e in position 3: incomplete multibyte sequence
```

Writing doubles each tilde, enters GB 2312 before a character beyond ASCII and
leaves it before the next ASCII character. A writer that is never told the text has
ended does not leave GB 2312 at the end.
-/

namespace Stencil.Files.Hz

/-- The tilde, which starts every switch. -/
def tilde : Nat := 0x7E

/-- What the bytes at a position read as, in GB 2312 or not: characters, the bytes
they take and the mode after them; an illegal byte; too few bytes. -/
inductive Step where
  | read (cs : List Char) (width : Nat) (chinese : Bool)
  | illegal
  | short

/-- The character of a pair of 7-bit bytes in GB 2312. -/
def pairChar? (b1 b2 : Nat) : Option Char :=
  if 0x21 ≤ b1 ∧ b1 ≤ 0x7E ∧ 0x21 ≤ b2 ∧ b2 ≤ 0x7E then
    let e := MultibyteCode.gb2312.secondEntry (b1 + 0x80) (b2 + 0x80)
    if MultibyteCode.isMark e then none else some e
  else none

/-- What the bytes at a position read as. -/
def step (chinese : Bool) : List Nat → Step
  | [] => .short
  | [c] => if c = tilde then .short
    else if 0x80 ≤ c then .illegal
    else if chinese then .short
    else .read [Char.ofNat c] 1 false
  | c :: c2 :: _ =>
    if c = tilde then
      if !chinese ∧ c2 = tilde then .read ['~'] 2 false
      else if !chinese ∧ c2 = 0x7B then .read [] 2 true
      else if !chinese ∧ c2 = 0x0A then .read [] 2 false
      else if chinese ∧ c2 = 0x7D then .read [] 2 false
      else .illegal
    else if 0x80 ≤ c then .illegal
    else if chinese then
      match pairChar? c c2 with
      | some ch => .read [ch] 2 true
      | none => .illegal
    else .read [Char.ofNat c] 1 false

/-- Decode bytes from a position of `all`, characters so far reversed in `acc`. -/
def decodeFrom (all : List UInt8) (pos : Nat) (acc : List Char) (chinese : Bool)
    (bs : List Nat) : Except CodecError (List Char) :=
  match bs with
  | [] => .ok acc.reverse
  | b :: rest =>
    match step chinese (b :: rest) with
    | .read cs width next =>
      decodeFrom all (pos + width) (cs.reverse ++ acc) next ((b :: rest).drop (max width 1))
    | .illegal => .error (decodeError "hz" all pos (pos + 1) "illegal multibyte sequence")
    | .short => .error (decodeError "hz" all pos all.length "incomplete multibyte sequence")
termination_by bs.length
decreasing_by
  simp only [List.length_drop, List.length_cons]
  omega

/-- Decode bytes. -/
def decode (bs : List UInt8) : Except CodecError (List Char) :=
  decodeFrom bs 0 [] false (bs.map UInt8.toNat)

/-- The pair of 7-bit bytes a character is written as in GB 2312, if it has one. -/
def pairOf? (table : Std.HashMap Nat (List Nat)) (c : Char) : Option (List Nat) :=
  match MultibyteCode.gb2312.single table c.toNat with
  | some [b1, b2] => if 0xA1 ≤ b1 then some [b1 - 0x80, b2 - 0x80] else none
  | _ => none

/-- Encode characters from a position of `all`, bytes so far reversed in `acc`. -/
def encodeFrom (table : Std.HashMap Nat (List Nat)) (all : List Char) (pos : Nat)
    (acc : List Nat) (chinese : Bool) : List Char → Except CodecError (List Nat)
  | [] => .ok acc.reverse
  | c :: rest =>
    if c.toNat < 0x80 then
      let leave := if chinese then [tilde, 0x7D] else []
      let bytes := if c.toNat = tilde then [tilde, tilde] else [c.toNat]
      encodeFrom table all (pos + 1) ((leave ++ bytes).reverse ++ acc) false rest
    else
      match pairOf? table c with
      | some pair =>
        let enter := if chinese then [] else [tilde, 0x7B]
        encodeFrom table all (pos + 1) ((enter ++ pair).reverse ++ acc) true rest
      | none => .error (encodeError "hz" all pos (pos + 1) "illegal multibyte sequence")

/-- The bytes a writer puts out for a text when it is not told that the text has
ended. -/
def encode (cs : List Char) : Except CodecError (List Nat) :=
  encodeFrom MultibyteCode.gb2312.encodingTable cs 0 [] false cs

end Stencil.Files.Hz
