import Stencil.Token
import Stencil.Error
import Stencil.Text.Letter
import Stencil.Text.Lines
import Stencil.Number.Reading

/-!
# Scanning a template into tokens

`Token.scan` reads a template's text from the start to the end and returns its
tokens, the last one `eof`, or the first error.

Outside tags, everything up to the next `<%` is one `text` token. An opener is
read longest first: `<%%`, then `<%=`, then `<%-`, then `<%`. Inside a tag,
spaces, tabs, carriage returns and line feeds between tokens are skipped, and a
token is one of:

* `%>`, which closes the tag;
* a string literal: a quote, any characters but that quote, the same quote;
  there are no escapes;
* a number: ASCII digits, and unless the previous token is a dot, a point and
  more digits; digits that run into a letter or an underscore are an error, and
  an integer above `2^63 - 1` is an error; an integer of more digits than
  integers are read with (`Number.integerDigitLimit`) is refused before its
  value is looked at, as a host failure rather than a template error;
* a word: a letter or underscore, then letters, digits and underscores of any
  script; right after a dot every word is an identifier;
* `==`, `!=`, `-`, `(`, `)`, `[`, `]`, `,` and `.`.

Every step consumes at least one character: a scan is a walk down the text, and
each token's lexeme is the stretch of text it consumed.
-/

namespace Stencil

open Text

/-- Whether a character starts a word. -/
def isWordStart (c : Char) : Bool := isLetter c || c = '_'

/-- Whether a character continues a word. -/
def isWordChar (c : Char) : Bool := isLetterOrDigit c || c = '_'

/-- Whether a character is skipped between the tokens of a tag. -/
def isTagBlank (c : Char) : Bool := c = ' ' || c = '\t' || c = '\r' || c = '\n'

/-- The largest integer literal. -/
def largestIntLiteral : Nat := Nat.pow 2 63 - 1

/-- The characters of a text run, from its second character on: everything up to
the next `<%` or the end. -/
def textRunTail : List Char → List Char
  | [] => []
  | '<' :: '%' :: _ => []
  | c :: rest => c :: textRunTail rest

/-- The mode of the scanner: outside tags, or inside a tag opened at a location. -/
inductive ScanMode where
  | text
  | tag (opener : Location)

/-- The text being scanned and its name, for diagnostics. -/
structure ScanSource where
  text : String
  file : Option String

namespace ScanSource

/-- The line of the text with a number, cut at every line break. -/
def lineAt (src : ScanSource) (n : Nat) : Option String :=
  lineAt? (breakLines src.text) n

/-- An error at a span, showing the line where the span starts. -/
def errorAt (src : ScanSource) (f : Fault) (start stop : Location) : TemplateError :=
  TemplateError.at_ f ⟨start, stop⟩ (src.lineAt start.line)

/-- The UTF-8 length of the text before an offset. -/
def byteOffset (src : ScanSource) (offset : Nat) : Nat :=
  (String.ofList (src.text.toList.take offset)).utf8ByteSize

end ScanSource

/-- The kind and width of the opener at the head of a text that starts with `<%`,
from the character after the `<%`. -/
def openerAfter : List Char → TokenKind × Nat
  | '%' :: _ => (.renderStart, 1)
  | '=' :: _ => (.outputStart, 1)
  | '-' :: _ => (.rawOutputStart, 1)
  | _ => (.blockStart, 0)

/-- A token read from the characters `lexeme`, starting at a location; the token and
the location after it. -/
def makeToken (kind : TokenKind) (value : TokenValue) (lexeme : List Char) (start : Location) :
    Token × Location :=
  let stop := start.advanceAll lexeme
  (⟨kind, value, String.ofList lexeme, ⟨start, stop⟩⟩, stop)

/-- The kind of an operator or punctuation character, and whether it takes the next
character with it (`==`, `!=`). -/
def operatorKind : Char → List Char → Option (TokenKind × Nat)
  | '=', '=' :: _ => some (.eq, 1)
  | '!', '=' :: _ => some (.ne, 1)
  | '-', _ => some (.minus, 0)
  | '(', _ => some (.lparen, 0)
  | ')', _ => some (.rparen, 0)
  | '[', _ => some (.lbracket, 0)
  | ']', _ => some (.rbracket, 0)
  | ',', _ => some (.comma, 0)
  | '.', _ => some (.dot, 0)
  | _, _ => none

/-- The value of a word's token. -/
def wordValue (kind : TokenKind) (w : String) : TokenValue :=
  match kind with
  | .boolLiteral => .bool (w = "true")
  | .nilLiteral => .none
  | _ => .str w

/-- The fraction of a number after its leading digits, when it may have one: a point
followed by at least one digit; its length, point included. -/
def fractionWidth (afterDot : Bool) (cs : List Char) : Nat :=
  match afterDot, cs with
  | false, '.' :: d :: rest => if d.isDigit then 2 + (rest.takeWhile Char.isDigit).length else 0
  | _, _ => 0

/-- Scan the tokens of a text from a location, in a mode, after tokens `acc`; the
flag `afterDot` says whether the last token was a dot. -/
def scanFrom (src : ScanSource) (mode : ScanMode) (afterDot : Bool) (loc : Location)
    (acc : Array Token) (cs : List Char) : Except Failure (Array Token) :=
  match cs with
  | [] =>
    match mode with
    | .text => .ok (acc.push ⟨.eof, .none, "", ⟨loc, loc⟩⟩)
    | .tag opener =>
      .error (.template <| src.errorAt (.unterminatedTag (src.byteOffset opener.offset)) opener loc)
  | c :: r =>
    match mode with
    | .text =>
      if c = '<' ∧ r.head? = some '%' then
        let (kind, extra) := openerAfter (r.drop 1)
        let m := 1 + extra
        let lexeme := c :: r.take m
        let (tok, next) := makeToken kind (.str (String.ofList lexeme)) lexeme loc
        scanFrom src (.tag loc) false next (acc.push tok) (r.drop m)
      else
        let m := (textRunTail r).length
        let run := c :: r.take m
        let (tok, next) := makeToken .text (.str (String.ofList run)) run loc
        scanFrom src .text false next (acc.push tok) (r.drop m)
    | .tag _ =>
      if isTagBlank c then
        scanFrom src mode afterDot (loc.advance c) acc r
      else if c = '%' ∧ r.head? = some '>' then
        let (tok, next) := makeToken .tagEnd (.str "%>") ['%', '>'] loc
        scanFrom src .text false next (acc.push tok) (r.drop 1)
      else if c = '"' ∨ c = '\'' then
        let body := r.takeWhile (· ≠ c)
        match r.drop body.length with
        | _ :: _ =>
          let m := body.length + 1
          let (tok, next) :=
            makeToken .stringLiteral (.str (String.ofList body)) (c :: r.take m) loc
          scanFrom src mode false next (acc.push tok) (r.drop m)
        | [] => .error (.template <| src.errorAt .unterminatedString loc (loc.advanceAll (c :: r)))
      else if c.isDigit then
        let whole := r.takeWhile Char.isDigit
        let fraction := fractionWidth afterDot (r.drop whole.length)
        let m := whole.length + fraction
        let afterNumber := r.drop m
        let lexeme := c :: r.take m
        if afterNumber.head?.any isWordStart then
          let wrong := lexeme ++ afterNumber.takeWhile isWordChar
          .error (.template <| src.errorAt (.invalidNumber (String.ofList wrong)) loc (loc.advanceAll wrong))
        else
          let mantissa := Number.digitsValue (lexeme.filter Char.isDigit)
          if fraction = 0 then
            if lexeme.length > Number.integerDigitLimit then
              .error (.host ⟨"ValueError", Number.digitLimitMessage lexeme.length⟩)
            else if mantissa ≤ largestIntLiteral then
              let (tok, next) := makeToken .intLiteral (.int mantissa) lexeme loc
              scanFrom src mode false next (acc.push tok) (r.drop m)
            else
              .error (.template <| src.errorAt (.integerLiteralRange (String.ofList lexeme)) loc
                (loc.advanceAll lexeme))
          else
            let value := Number.nearestDouble false mantissa (-((fraction - 1 : Nat) : Int))
            let (tok, next) := makeToken .floatLiteral (.float value) lexeme loc
            scanFrom src mode false next (acc.push tok) (r.drop m)
      else if isWordStart c then
        let m := (r.takeWhile isWordChar).length
        let word := String.ofList (c :: r.take m)
        let kind := if afterDot then .identifier else TokenKind.ofWord word
        let (tok, next) := makeToken kind (wordValue kind word) (c :: r.take m) loc
        scanFrom src mode false next (acc.push tok) (r.drop m)
      else
        match operatorKind c r with
        | some (kind, m) =>
          let lexeme := c :: r.take m
          let (tok, next) := makeToken kind (.str (String.ofList lexeme)) lexeme loc
          scanFrom src mode (kind = .dot) next (acc.push tok) (r.drop m)
        | none =>
          .error (.template <| src.errorAt (.unexpectedCharacter c) loc (loc.advance c))
termination_by cs.length
decreasing_by all_goals (simp only [List.length_drop, List.length_cons]; omega)

/-- The tokens of a template's text, the last one `eof`, or the first error. -/
def Token.scan (text : String) (file : Option String) : Except Failure (List Token) :=
  (scanFrom ⟨text, file⟩ .text false (Location.initial file) #[] text.toList).map Array.toList

end Stencil
