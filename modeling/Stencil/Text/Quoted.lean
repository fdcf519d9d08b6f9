import Stencil.Text.Printable

/-!
# Quoted texts

The quoted form of a text, as outlines of templates and some messages show a
string: in single quotes, or in double quotes when the text holds a single quote
and no double quote. Inside, the chosen quote and the backslash get a backslash
in front; tab, line feed and carriage return are written `\t`, `\n`, `\r`;
the other control characters and every character that is not printable are
written by their code in lower-case hex, as `\xhh` up to U+00FF, `\uhhhh` up to
U+FFFF and `\Uhhhhhhhh` above. Everything else stands as it is.
-/

namespace Stencil.Text

/-- The lower-case hex digits of a number, padded with zeros to a width. -/
def hexDigits (width n : Nat) : List Char :=
  let ds := Nat.toDigits 16 n
  List.replicate (width - ds.length) '0' ++ ds

/-- The written form of one character inside quotes `q`. -/
def quotedChar (q c : Char) : List Char :=
  if c = q ∨ c = '\\' then ['\\', c]
  else if c = '\t' then ['\\', 't']
  else if c = '\n' then ['\\', 'n']
  else if c = '\r' then ['\\', 'r']
  else if c.toNat < 0x20 ∨ c.toNat = 0x7F then '\\' :: 'x' :: hexDigits 2 c.toNat
  else if c.toNat < 0x7F then [c]
  else if isPrintable c then [c]
  else if c.toNat ≤ 0xFF then '\\' :: 'x' :: hexDigits 2 c.toNat
  else if c.toNat ≤ 0xFFFF then '\\' :: 'u' :: hexDigits 4 c.toNat
  else '\\' :: 'U' :: hexDigits 8 c.toNat

/-- The quote that surrounds a text: a double quote only when the text holds a single
quote and no double quote. -/
def quoteFor (cs : List Char) : Char :=
  if cs.contains '\'' && !cs.contains '"' then '"' else '\''

/-- The quoted form of a text. -/
def quote (s : String) : String :=
  let cs := s.toList
  let q := quoteFor cs
  String.ofList (q :: cs.flatMap (quotedChar q) ++ [q])

end Stencil.Text
