import Stencil.Text.RangeTable

/-!
# Blank characters

The blanks are the characters of bidirectional class WS, B or S, together with
the space separators (general category Zs), by the Unicode database, version
14.0: the ASCII tab, line feed, vertical tab, form feed and carriage return, the
information separators U+001C to U+001F, the space, U+0085, the no-break space,
U+1680, U+2000 to U+200A, the line and paragraph separators, U+202F, U+205F and
U+3000. The zero-width space U+200B is not a blank.

`trimBlanks` removes blanks at both ends of a text.
-/

namespace Stencil.Text

/-- The blank code points. -/
def blankRanges : RangeTable :=
  ⟨#[
    (0x9, 0xD), (0x1C, 0x20), (0x85, 0x85), (0xA0, 0xA0), (0x1680, 0x1680), (0x2000, 0x200A),
    (0x2028, 0x2029), (0x202F, 0x202F), (0x205F, 0x205F), (0x3000, 0x3000)]⟩

/-- Whether a character is a blank. -/
def isBlank (c : Char) : Bool :=
  blankRanges.containsChar c

/-- A text without the blanks at its start and at its end. -/
def trimBlanks (s : String) : String :=
  String.ofList ((s.toList.dropWhile isBlank).reverse.dropWhile isBlank).reverse

end Stencil.Text
