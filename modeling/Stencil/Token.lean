import Stencil.Source.Location

/-!
# Tokens

A template's text is read in two modes. Outside tags, text runs become `text`
tokens. A tag opens with `<%=` (output), `<%-` (raw output), `<%%` (render a
partial) or `<%` (statement), and closes with `%>`; inside it the text is read
as expression tokens: literals, words, keywords and operators.

Every token records its kind, its value, its lexeme (the characters it was read
from) and its span. The value of a token follows from its kind and lexeme:
integer and float literals their number, a string literal the characters
between its quotes, `true` and `false` their truth value, `nil` and the end of
the text no value, every other token its own text.
-/

namespace Stencil

/-- The kinds of tokens. -/
inductive TokenKind where
  | text
  | outputStart
  | rawOutputStart
  | renderStart
  | blockStart
  | tagEnd
  | intLiteral
  | floatLiteral
  | stringLiteral
  | boolLiteral
  | nilLiteral
  | identifier
  | ifKeyword
  | elsifKeyword
  | elseKeyword
  | forKeyword
  | inKeyword
  | endKeyword
  | eq
  | ne
  | minus
  | lparen
  | rparen
  | lbracket
  | rbracket
  | comma
  | dot
  | eof
  deriving Repr, DecidableEq, Inhabited

namespace TokenKind

/-- The name of a token kind, as listings and messages show it. -/
def name : TokenKind → String
  | .text => "TEXT"
  | .outputStart => "OUTPUT_START"
  | .rawOutputStart => "RAW_OUTPUT_START"
  | .renderStart => "RENDER_START"
  | .blockStart => "BLOCK_START"
  | .tagEnd => "TAG_END"
  | .intLiteral => "INT_LITERAL"
  | .floatLiteral => "FLOAT_LITERAL"
  | .stringLiteral => "STRING_LITERAL"
  | .boolLiteral => "BOOL_LITERAL"
  | .nilLiteral => "NIL_LITERAL"
  | .identifier => "IDENTIFIER"
  | .ifKeyword => "IF"
  | .elsifKeyword => "ELSIF"
  | .elseKeyword => "ELSE"
  | .forKeyword => "FOR"
  | .inKeyword => "IN"
  | .endKeyword => "END"
  | .eq => "EQ"
  | .ne => "NE"
  | .minus => "MINUS"
  | .lparen => "LPAREN"
  | .rparen => "RPAREN"
  | .lbracket => "LBRACKET"
  | .rbracket => "RBRACKET"
  | .comma => "COMMA"
  | .dot => "DOT"
  | .eof => "EOF"

/-- Whether a kind closes or continues the body of a block: `elsif`, `else`, `end`. -/
def isBlockCloser : TokenKind → Bool
  | .elsifKeyword | .elseKeyword | .endKeyword => true
  | _ => false

/-- The kind of a word inside a tag, unless it follows a dot: keywords, the truth
values and `nil` have kinds of their own, every other word is an identifier. -/
def ofWord (w : String) : TokenKind :=
  match w with
  | "if" => .ifKeyword
  | "elsif" => .elsifKeyword
  | "else" => .elseKeyword
  | "for" => .forKeyword
  | "in" => .inKeyword
  | "end" => .endKeyword
  | "true" => .boolLiteral
  | "false" => .boolLiteral
  | "nil" => .nilLiteral
  | _ => .identifier

end TokenKind

/-- The value a token carries. -/
inductive TokenValue where
  | int (n : Nat)
  | float (x : Float)
  | str (s : String)
  | bool (b : Bool)
  | none
  deriving Inhabited

/-- A token. -/
structure Token where
  kind : TokenKind
  value : TokenValue
  lexeme : String
  span : Span
  deriving Inhabited

end Stencil
