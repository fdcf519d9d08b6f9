import Stencil.Source.Location

/-!
# Diagnostics

A diagnostic is what an error shows: a code such as `E401`, a message, where it
happened, the line of the template there, hints and related diagnostics.

`Diagnostic.format` writes it as text:

```
file:2:5: error[E402]: Integer has no method 'nope'
  |
  2 | <%= x.nope %>
    |     ^^^^^^
    = hint: ...
    --> file:1:4: ...
```

The header has the location only when the diagnostic has a span. The three
lines of context appear when it has a span and a source line: the line number
right-aligned in three columns, then carets under the span, at least one, up to
the end of the line when the span runs onto a later line.
-/

namespace Stencil

/-- What an error shows. -/
structure Diagnostic where
  code : String
  message : String
  span : Option Span := none
  sourceLine : Option String := none
  hints : List String := []
  related : List Diagnostic := []
  deriving Inhabited

namespace Diagnostic

/-- A number right-aligned in a field of at least three columns. -/
def lineNumberField (n : Nat) : String :=
  let digits := toString n
  String.ofList (List.replicate (3 - digits.length) ' ') ++ digits

/-- The line of carets under a span, for the source line shown. -/
def underline (span : Span) (sourceLine : String) : String :=
  let col := span.start.column
  let endCol := if span.start.line = span.stop.line then span.stop.column else sourceLine.length + 1
  let width := max 1 ((endCol : Int) - (col : Int))
  "    | " ++ String.ofList (List.replicate (col - 1) ' ') ++
    String.ofList (List.replicate width.toNat '^')

/-- The header line: location, severity, code and message. -/
def header (d : Diagnostic) : String :=
  let head := "error[" ++ d.code ++ "]: " ++ d.message
  match d.span with
  | some span => span.start.render ++ ": " ++ head
  | none => head

/-- The line that points from a diagnostic to a related one. -/
def relatedLine (r : Diagnostic) : String :=
  match r.span with
  | some span => "    --> " ++ span.start.render ++ ": " ++ r.message
  | none => "    --> " ++ r.message

/-- The diagnostic as text, lines joined by line feeds. -/
def format (d : Diagnostic) : String :=
  let context :=
    match d.span, d.sourceLine with
    | some span, some line =>
      ["  |", lineNumberField span.start.line ++ " | " ++ line, underline span line]
    | _, _ => []
  let hints := d.hints.map fun h => "    = hint: " ++ h
  "\n".intercalate ([d.header] ++ context ++ hints ++ d.related.map relatedLine)

end Diagnostic

end Stencil
