/-!
# Lines of a text

Two ways to cut a text into lines.

* `lineFeedLines` cuts at every line feed and at nothing else; the empty text
  has no lines. Diagnostics of the parser and of rendering show these lines.
* `breakLines` cuts at every line break of the Unicode line-boundary rules: line
  feed, carriage return, the pair carriage return and line feed, vertical tab,
  form feed, the separators U+001C to U+001E, U+0085, and the line and paragraph
  separators U+2028 and U+2029. A break at the very end starts no further line.
  Diagnostics of the scanner show these lines.

Line numbers count line feeds only, so where the two ways differ, the scanner's
diagnostics may show a line that is shorter than the one the error is on.
-/

namespace Stencil.Text

/-- Whether a character breaks a line. -/
def isLineBreak (c : Char) : Bool :=
  c = '\n' || c = '\r' || c = '\x0b' || c = '\x0c' || c = '\x1c' || c = '\x1d' ||
    c = '\x1e' || c = '\u0085' || c = '\u2028' || c = '\u2029'

/-- The lines of a text cut at line feeds; none for the empty text. -/
def lineFeedLines (s : String) : List String :=
  if s.isEmpty then [] else (s.toList.splitOn '\n').map String.ofList

/-- The lines of a list of characters cut at every line break, the current line
being `line` (reversed) so far. -/
def breakLinesFrom (line : List Char) : List Char → List String
  | [] => if line.isEmpty then [] else [String.ofList line.reverse]
  | '\r' :: '\n' :: rest => String.ofList line.reverse :: breakLinesFrom [] rest
  | c :: rest =>
    if isLineBreak c then String.ofList line.reverse :: breakLinesFrom [] rest
    else breakLinesFrom (c :: line) rest

/-- The lines of a text cut at every line break. -/
def breakLines (s : String) : List String := breakLinesFrom [] s.toList

/-- The line with a number counted from 1, if the text has that many. -/
def lineAt? (lines : List String) (n : Nat) : Option String :=
  if n = 0 then none else lines[n - 1]?

@[simp] theorem lineAt?_zero (lines : List String) : lineAt? lines 0 = none := rfl

@[simp] theorem lineAt?_succ (lines : List String) (n : Nat) :
    lineAt? lines (n + 1) = lines[n]? := by
  simp [lineAt?]

end Stencil.Text
