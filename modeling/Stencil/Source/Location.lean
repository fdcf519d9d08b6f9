/-!
# Locations and spans in a template's text

A location counts characters (code points), never bytes: its offset from 0, its
line and column from 1. Only a line feed starts a new line, so a carriage return
or a form feed is one more column. A location also carries the name of the
template it belongs to, which diagnostics print in front of line and column.

`Location.advance` is the one step from a location past one character; every
location of a scanned template is the start moved over the characters before it.
-/

namespace Stencil

/-- A position in a template's text. -/
structure Location where
  line : Nat
  column : Nat
  offset : Nat
  file : Option String
  deriving Repr, DecidableEq, Inhabited

/-- A stretch of a template's text, from its first character to just after its last. -/
structure Span where
  start : Location
  stop : Location
  deriving Repr, DecidableEq, Inhabited

namespace Location

/-- The start of a template's text. -/
def initial (file : Option String) : Location := ⟨1, 1, 0, file⟩

/-- The location just after a character. -/
def advance (l : Location) (c : Char) : Location :=
  if c = '\n' then { l with line := l.line + 1, column := 1, offset := l.offset + 1 }
  else { l with column := l.column + 1, offset := l.offset + 1 }

/-- The location just after a run of characters. -/
def advanceAll (l : Location) (cs : List Char) : Location := cs.foldl advance l

/-- `line:column`, after `name:` when the template has a non-empty name. -/
def render (l : Location) : String :=
  let place := toString l.line ++ ":" ++ toString l.column
  match l.file with
  | some name => if name.isEmpty then place else name ++ ":" ++ place
  | none => place

end Location

namespace Span

/-- The span from one location to another. -/
def between (a b : Location) : Span := ⟨a, b⟩

end Span

end Stencil
