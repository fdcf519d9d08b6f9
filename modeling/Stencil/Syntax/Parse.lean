import Stencil.Syntax
import Stencil.Token.Scan
import Stencil.Text.Lines

/-!
# Parsing tokens into a template

A recursive descent over the token list. Expressions, loosest first:

```
expr    := postfix (('==' | '!=') postfix)*          left-associative
postfix := unary ('.' INT | '.' IDENT ['(' args ')'] | '[' expr ']')*
unary   := '-' unary | primary
primary := literal | IDENT ['(' args ')'] | '[' [expr (',' expr)* [',']] ']' | '(' expr ')'
args    := [expr (',' expr)*]
```

so `-5.abs` is `(-5).abs`. Nodes:

```
node := TEXT | '<%=' expr '%>' | '<%-' expr '%>' | '<%%' [expr (',' expr)*] '%>'
      | '<%' '%>' | '<%' expr '%>' | if-block | for-block
```

A block's body runs up to the next `<%` followed by `elsif`, `else` or `end`.
A body that reaches the end of the text, a closer with no open block, an `else`
or `elsif` after an `else`, and an `else` or `elsif` inside a `for` are
unbalanced blocks; anything else out of place is a syntax error that names the
token expected and the token found.

Every parsing function takes the tokens left and returns the tokens left after
it, never more than it was given (`Rest`): that is the measure on which the
mutual recursion ends.

A minus in front of an operand builds what the source's `negation` gives: by default
`Expr.negated`, which folds a minus on a number literal into the literal.
`Unfolded.parse` is the same parser with `Expr.negate` in its place, the fold turned
off: there every minus builds a negation.
-/

namespace Stencil

/-- The tokens left after a parse, no more than before. -/
abbrev Rest (ts : List Token) := { r : List Token // r.length ≤ ts.length }

/-- A parse of a prefix of `ts`: a result and the tokens left, or an error. -/
abbrev Parse (ts : List Token) (α : Type) := Except TemplateError (α × Rest ts)

/-- A parse of fewer tokens, seen as a parse of more. -/
def Parse.widen {ts us : List Token} {α : Type} (p : Parse us α) (h : us.length ≤ ts.length) :
    Parse ts α :=
  match p with
  | .error e => .error e
  | .ok (v, ⟨r, hr⟩) => .ok (v, ⟨r, Nat.le_trans hr h⟩)

/-- What parsing needs to know of the text: its lines, for error messages, and the
expression a minus in front of an operand builds. -/
structure ParseSource where
  lines : List String
  /-- By default a minus in front of a number literal is folded into the literal. -/
  negation : Span → Expr → Expr := Expr.negated

namespace ParseSource

/-- The line of the text where a span starts. -/
def lineOf (src : ParseSource) (span : Span) : Option String :=
  Text.lineAt? src.lines span.start.line

/-- A source that folds a minus in front of a number literal into the literal, as the
grammar does. -/
class FoldsMinus (src : ParseSource) : Prop where
  negation_eq : src.negation = Expr.negated

instance (lines : List String) : FoldsMinus { lines := lines } := ⟨rfl⟩

end ParseSource

/-- The end of the tokens, where no token is left. -/
def endToken : Token := ⟨.eof, .none, "", default⟩

/-- The token the parser looks at: the first of those left. -/
def currentToken : List Token → Token
  | t :: _ => t
  | [] => endToken

/-- The error for a token other than the one expected: at the end of the text an
unexpected end, else the token found, named by its kind (`%>` by its text). -/
def unexpectedAt (src : ParseSource) (ts : List Token) (expected : String) : TemplateError :=
  let t := currentToken ts
  if t.kind = .eof then TemplateError.at_ (.unexpectedEnd expected) t.span none
  else
    let found := if t.kind = .tagEnd then t.lexeme else t.kind.name
    TemplateError.at_ (.unexpectedToken expected found) t.span (src.lineOf t.span)

/-- Take a token of a kind, or fail naming what was expected. -/
def expectKind (src : ParseSource) (kind : TokenKind) (expected : String) (ts : List Token) :
    Except TemplateError (Token × { r : List Token // r.length < ts.length }) :=
  match ts with
  | t :: rest =>
    if t.kind = kind then .ok (t, ⟨rest, by simp⟩) else .error (unexpectedAt src ts expected)
  | [] => .error (unexpectedAt src [] expected)

/-- The literal a token stands for, if it is a literal token. -/
def literalOf (t : Token) : Option Literal :=
  match t.kind, t.value with
  | .intLiteral, .int n => some (.int n)
  | .floatLiteral, .float x => some (.float x)
  | .stringLiteral, .str s => some (.str s)
  | .boolLiteral, .bool b => some (.bool b)
  | .nilLiteral, _ => some .nil
  | _, _ => none

/-- The index of a positional access token. -/
def indexOf (t : Token) : Nat :=
  match t.value with
  | .int n => n
  | _ => 0

mutual

/-- `expr := postfix (('==' | '!=') postfix)*` -/
def parseExpr (src : ParseSource) (ts : List Token) : Parse ts Expr :=
  match parsePostfix src ts with
  | .error e => .error e
  | .ok (left, ⟨r, hr⟩) =>
    match parseEqualityRest src left r with
    | .error e => .error e
    | .ok (e, ⟨r2, hr2⟩) => .ok (e, ⟨r2, by omega⟩)
termination_by 10 * ts.length + 7
decreasing_by all_goals omega

/-- The equality tests after a first operand, grouped to the left. -/
def parseEqualityRest (src : ParseSource) (left : Expr) (ts : List Token) : Parse ts Expr :=
  match ts with
  | t :: rest =>
    if t.kind = .eq ∨ t.kind = .ne then
      match parsePostfix src rest with
      | .error e => .error e
      | .ok (right, ⟨r, hr⟩) =>
        let op := if t.kind = .eq then Equality.eq else Equality.ne
        let e := Expr.compare ⟨left.span.start, right.span.stop⟩ op left right
        match parseEqualityRest src e r with
        | .error e => .error e
        | .ok (e', ⟨r2, hr2⟩) => .ok (e', ⟨r2, by simp; omega⟩)
    else .ok (left, ⟨t :: rest, Nat.le_refl _⟩)
  | [] => .ok (left, ⟨[], Nat.le_refl _⟩)
termination_by 10 * ts.length + 6
decreasing_by all_goals (simp only [List.length_cons] at *; omega)

/-- `postfix := unary (...)*` -/
def parsePostfix (src : ParseSource) (ts : List Token) : Parse ts Expr :=
  match parseUnary src ts with
  | .error e => .error e
  | .ok (e, ⟨r, hr⟩) =>
    match parsePostfixRest src e r with
    | .error e => .error e
    | .ok (e', ⟨r2, hr2⟩) => .ok (e', ⟨r2, by omega⟩)
termination_by 10 * ts.length + 5
decreasing_by all_goals omega

/-- The positional accesses, method calls and bracket indexes after an operand,
applied left to right. -/
def parsePostfixRest (src : ParseSource) (e : Expr) (ts : List Token) : Parse ts Expr :=
  match ts with
  | t :: rest =>
    if t.kind = .dot then
      match rest with
      | i :: rest2 =>
        if i.kind = .intLiteral then
          let e' := Expr.position ⟨e.span.start, i.span.stop⟩ e (indexOf i)
          match parsePostfixRest src e' rest2 with
          | .error err => .error err
          | .ok (e'', ⟨r, hr⟩) => .ok (e'', ⟨r, by simp; omega⟩)
        else if i.kind = .identifier then
          if (currentToken rest2).kind = .lparen then
            match parseArguments src rest2 with
            | .error err => .error err
            | .ok ((args, stop), ⟨r, hr⟩) =>
              let e' := Expr.method ⟨e.span.start, stop⟩ e i.lexeme args
              match parsePostfixRest src e' r with
              | .error err => .error err
              | .ok (e'', ⟨r2, hr2⟩) => .ok (e'', ⟨r2, by simp; omega⟩)
          else
            let e' := Expr.method ⟨e.span.start, i.span.stop⟩ e i.lexeme []
            match parsePostfixRest src e' rest2 with
            | .error err => .error err
            | .ok (e'', ⟨r, hr⟩) => .ok (e'', ⟨r, by simp; omega⟩)
        else .error (unexpectedAt src rest "method name or tuple index")
      | [] => .error (unexpectedAt src [] "method name or tuple index")
    else if t.kind = .lbracket then
      match parseExpr src rest with
      | .error err => .error err
      | .ok (index, ⟨r, hr⟩) =>
        match r with
        | c :: r2 =>
          if c.kind = .rbracket then
            let e' := Expr.index ⟨e.span.start, c.span.stop⟩ e index
            match parsePostfixRest src e' r2 with
            | .error err => .error err
            | .ok (e'', ⟨r3, hr3⟩) => .ok (e'', ⟨r3, by simp at hr ⊢; omega⟩)
          else .error (unexpectedAt src (c :: r2) "']'")
        | [] => .error (unexpectedAt src [] "']'")
    else .ok (e, ⟨t :: rest, Nat.le_refl _⟩)
  | [] => .ok (e, ⟨[], Nat.le_refl _⟩)
termination_by 10 * ts.length + 4
decreasing_by all_goals (simp only [List.length_cons] at *; omega)

/-- `unary := '-' unary | primary`, the minus built by the source's negation. -/
def parseUnary (src : ParseSource) (ts : List Token) : Parse ts Expr :=
  match ts with
  | t :: rest =>
    if t.kind = .minus then
      match parseUnary src rest with
      | .error e => .error e
      | .ok (operand, ⟨r, hr⟩) =>
        .ok (src.negation ⟨t.span.start, operand.span.stop⟩ operand, ⟨r, by simp; omega⟩)
    else parsePrimary src (t :: rest)
  | [] => parsePrimary src []
termination_by 10 * ts.length + 3
decreasing_by all_goals (simp only [List.length_cons, List.length_nil] at *; omega)

/-- `primary := literal | IDENT ['(' args ')'] | '[' elements ']' | '(' expr ')'` -/
def parsePrimary (src : ParseSource) (ts : List Token) : Parse ts Expr :=
  match ts with
  | t :: rest =>
    match literalOf t with
    | some lit => .ok (.literal t.span lit, ⟨rest, by simp⟩)
    | none =>
      if t.kind = .identifier then
        if (currentToken rest).kind = .lparen then
          match parseArguments src rest with
          | .error e => .error e
          | .ok ((args, stop), ⟨r, hr⟩) =>
            .ok (.call ⟨t.span.start, stop⟩ t.lexeme args, ⟨r, by simp; omega⟩)
        else .ok (.identifier t.span t.lexeme, ⟨rest, by simp⟩)
      else if t.kind = .lbracket then
        match parseElements src [] rest with
        | .error e => .error e
        | .ok ((elements, stop), ⟨r, hr⟩) =>
          .ok (.list ⟨t.span.start, stop⟩ elements, ⟨r, by simp; omega⟩)
      else if t.kind = .lparen then
        match parseExpr src rest with
        | .error e => .error e
        | .ok (e, ⟨r, hr⟩) =>
          match r with
          | c :: r2 =>
            if c.kind = .rparen then .ok (e, ⟨r2, by simp at hr; simp; omega⟩)
            else .error (unexpectedAt src (c :: r2) "')'")
          | [] => .error (unexpectedAt src [] "')'")
      else .error (unexpectedAt src (t :: rest) "expression")
  | [] => .error (unexpectedAt src [] "expression")
termination_by 10 * ts.length + 2
decreasing_by all_goals (simp only [List.length_cons] at *; omega)

/-- `'(' args ')'`: the arguments and where the closing parenthesis ends. -/
def parseArguments (src : ParseSource) (ts : List Token) : Parse ts (List Expr × Location) :=
  match ts with
  | t :: rest =>
    if t.kind = .lparen then
      match rest with
      | c :: r2 =>
        if c.kind = .rparen then .ok (([], c.span.stop), ⟨r2, by simp; omega⟩)
        else
          match parseArgumentList src [] (c :: r2) with
          | .error e => .error e
          | .ok (v, ⟨r, hr⟩) => .ok (v, ⟨r, by simp; simp at hr; omega⟩)
      | [] => (parseArgumentList src [] []).widen (by simp)
    else .error (unexpectedAt src (t :: rest) "'('")
  | [] => .error (unexpectedAt src [] "'('")
termination_by 10 * ts.length + 1
decreasing_by all_goals (simp only [List.length_cons] at *; omega)

/-- `expr (',' expr)* ')'`, after the arguments `acc` (reversed). -/
def parseArgumentList (src : ParseSource) (acc : List Expr) (ts : List Token) :
    Parse ts (List Expr × Location) :=
  match parseExpr src ts with
  | .error e => .error e
  | .ok (e, ⟨r, hr⟩) =>
    match r with
    | c :: r2 =>
      if c.kind = .comma then
        match parseArgumentList src (e :: acc) r2 with
        | .error err => .error err
        | .ok (v, ⟨r3, hr3⟩) => .ok (v, ⟨r3, by simp at hr; omega⟩)
      else if c.kind = .rparen then .ok (((e :: acc).reverse, c.span.stop), ⟨r2, by simp at hr; omega⟩)
      else .error (unexpectedAt src (c :: r2) "')'")
    | [] => .error (unexpectedAt src [] "')'")
termination_by 10 * ts.length + 8
decreasing_by
  · omega
  · simp only [List.length_cons] at *
    omega

/-- The elements of a list literal up to its `]`, after the elements `acc`
(reversed); a comma may follow the last element. -/
def parseElements (src : ParseSource) (acc : List Expr) (ts : List Token) :
    Parse ts (List Expr × Location) :=
  match ts with
  | c :: rest =>
    if c.kind = .rbracket then .ok ((acc.reverse, c.span.stop), ⟨rest, by simp⟩)
    else
      match parseExpr src (c :: rest) with
      | .error e => .error e
      | .ok (e, ⟨r, hr⟩) =>
        match r with
        | d :: r2 =>
          if d.kind = .comma then
            match parseElements src (e :: acc) r2 with
            | .error err => .error err
            | .ok (v, ⟨r3, hr3⟩) => .ok (v, ⟨r3, by simp at hr; simp; omega⟩)
          else if d.kind = .rbracket then
            .ok (((e :: acc).reverse, d.span.stop), ⟨r2, by simp at hr; simp; omega⟩)
          else .error (unexpectedAt src (d :: r2) "']'")
        | [] => .error (unexpectedAt src [] "']'")
  | [] =>
    match parseExpr src [] with
    | .error e => .error e
    | .ok _ => .error (unexpectedAt src [] "']'")
termination_by 10 * ts.length + 9
decreasing_by all_goals (simp only [List.length_cons, List.length_nil] at *; omega)

end

/-- Loop variables: `IDENT (',' IDENT)*`, after the names `acc` (reversed). -/
def parseTargets (src : ParseSource) (acc : List String) (ts : List Token) :
    Except TemplateError (List String × { r : List Token // r.length < ts.length }) :=
  match ts with
  | t :: rest =>
    if t.kind = .identifier then
      match rest with
      | c :: r2 =>
        if c.kind = .comma then
          match parseTargets src (t.lexeme :: acc) r2 with
          | .error e => .error e
          | .ok (v, ⟨r, hr⟩) => .ok (v, ⟨r, by simp; omega⟩)
        else .ok ((t.lexeme :: acc).reverse, ⟨c :: r2, by simp⟩)
      | [] => .ok ((t.lexeme :: acc).reverse, ⟨[], by simp⟩)
    else .error (unexpectedAt src (t :: rest) "loop variable")
  | [] => .error (unexpectedAt src [] "loop variable")

/-- The arguments of the render shorthand `<%% ... %>`: none before `%>`, else
`expr (',' expr)*`; the arguments (reversed) and the `%>` token. -/
def parseRenderArguments (src : ParseSource) (acc : List Expr) (ts : List Token) :
    Except TemplateError ((List Expr × Token) × { r : List Token // r.length < ts.length }) :=
  match parseExpr src ts with
  | .error e => .error e
  | .ok (e, ⟨r, hr⟩) =>
    match r with
    | c :: r2 =>
      if c.kind = .comma then
        match parseRenderArguments src (e :: acc) r2 with
        | .error err => .error err
        | .ok (v, ⟨r3, hr3⟩) => .ok (v, ⟨r3, by simp at hr; omega⟩)
      else if c.kind = .tagEnd then .ok (((e :: acc).reverse, c), ⟨r2, by simp at hr; omega⟩)
      else .error (unexpectedAt src (c :: r2) "'%>'")
    | [] => .error (unexpectedAt src [] "'%>'")
termination_by ts.length

/-- `<%% [expr (',' expr)*] %>`, after its opener `start`: a raw output of a call of
`render` with the same span. -/
def parseRenderShorthand (src : ParseSource) (start : Token) (ts : List Token) :
    Parse ts (Option Node) :=
  let finish (args : List Expr) (close : Token) : Node :=
    let span : Span := ⟨start.span.start, close.span.stop⟩
    .rawOutput span (.call span "render" args)
  match ts with
  | t :: rest =>
    if t.kind = .tagEnd then .ok (some (finish [] t), ⟨rest, by simp⟩)
    else
      match parseRenderArguments src [] (t :: rest) with
      | .error e => .error e
      | .ok ((args, close), ⟨r, hr⟩) => .ok (some (finish args close), ⟨r, by omega⟩)
  | [] => .error (unexpectedAt src [] "expression")

/-- An expression and the `%>` after it: the expression and the `%>` token. -/
def parseTagExpr (src : ParseSource) (ts : List Token) :
    Except TemplateError ((Expr × Token) × { r : List Token // r.length < ts.length }) :=
  match parseExpr src ts with
  | .error e => .error e
  | .ok (e, ⟨r, hr⟩) =>
    match expectKind src .tagEnd "'%>'" r with
    | .error err => .error err
    | .ok (close, ⟨r2, hr2⟩) => .ok ((e, close), ⟨r2, by omega⟩)

mutual

/-- The nodes of a block's body up to its closer, after the nodes `acc` (reversed):
the nodes and the closing keyword token, the `<%` before it consumed. -/
def parseBody (src : ParseSource) (opener : Token) (construct : String) (acc : List Node)
    (ts : List Token) : Parse ts (List Node × Token) :=
  match ts with
  | t :: rest =>
    if t.kind = .eof then
      .error (TemplateError.at_ (.unclosedBlock construct opener.span.start) opener.span
        (src.lineOf opener.span))
    else if t.kind = .blockStart ∧ (currentToken rest).kind.isBlockCloser then
      match rest with
      | k :: r2 => .ok ((acc.reverse, k), ⟨r2, by simp; omega⟩)
      | [] => .ok ((acc.reverse, endToken), ⟨[], by simp⟩)
    else
      match parseNode src t rest with
      | .error e => .error e
      | .ok (n, ⟨r, hr⟩) =>
        match parseBody src opener construct (n.toList ++ acc) r with
        | .error e => .error e
        | .ok (v, ⟨r2, hr2⟩) => .ok (v, ⟨r2, by simp; omega⟩)
  | [] =>
    .error (TemplateError.at_ (.unclosedBlock construct opener.span.start) opener.span
      (src.lineOf opener.span))
termination_by 10 * ts.length + 1
decreasing_by all_goals (simp only [List.length_cons] at *; omega)

/-- One node, after its first token `t`; an empty statement tag gives no node. -/
def parseNode (src : ParseSource) (t : Token) (rest : List Token) : Parse rest (Option Node) :=
  match t.kind with
  | .text =>
    let text := match t.value with
      | .str s => s
      | _ => t.lexeme
    .ok (some (.text t.span text), ⟨rest, Nat.le_refl _⟩)
  | .outputStart =>
    match parseTagExpr src rest with
    | .error e => .error e
    | .ok ((e, close), ⟨r, hr⟩) =>
      .ok (some (.output ⟨t.span.start, close.span.stop⟩ e), ⟨r, by omega⟩)
  | .rawOutputStart =>
    match parseTagExpr src rest with
    | .error e => .error e
    | .ok ((e, close), ⟨r, hr⟩) =>
      .ok (some (.rawOutput ⟨t.span.start, close.span.stop⟩ e), ⟨r, by omega⟩)
  | .renderStart => parseRenderShorthand src t rest
  | .blockStart =>
    match rest with
    | k :: r2 =>
      if k.kind = .ifKeyword then (parseIf src t k r2).widen (by simp)
      else if k.kind = .forKeyword then (parseFor src t k r2).widen (by simp)
      else if k.kind = .tagEnd then .ok (none, ⟨r2, by simp⟩)
      else
        match parseTagExpr src (k :: r2) with
        | .error e => .error e
        | .ok ((e, close), ⟨r, hr⟩) =>
          .ok (some (.statement ⟨t.span.start, close.span.stop⟩ e), ⟨r, by omega⟩)
    | [] =>
      match parseTagExpr src [] with
      | .error e => .error e
      | .ok (_, ⟨_, h⟩) => absurd h (by simp)
  | _ => .error (unexpectedAt src (t :: rest) "text or tag")
termination_by 10 * rest.length + 9
decreasing_by all_goals (simp only [List.length_cons] at *; omega)

/-- An `if` block after `<%` (`start`) and `if` (`ifTok`). -/
def parseIf (src : ParseSource) (start ifTok : Token) (ts : List Token) : Parse ts (Option Node) :=
  match parseTagExpr src ts with
  | .error e => .error e
  | .ok ((condition, _), ⟨r, hr⟩) =>
    match parseBody src ifTok "if" [] r with
    | .error e => .error e
    | .ok ((body, closer), ⟨r2, hr2⟩) =>
      match parseIfRest src start ifTok condition body [] closer r2 with
      | .error e => .error e
      | .ok (n, ⟨r3, hr3⟩) => .ok (n, ⟨r3, by omega⟩)
termination_by 10 * ts.length + 9
decreasing_by all_goals omega

/-- The rest of an `if` block after a body closed by `closer`, with the `elsif`
branches `branches` (reversed) so far. -/
def parseIfRest (src : ParseSource) (start ifTok : Token) (condition : Expr) (body : List Node)
    (branches : List Branch) (closer : Token) (ts : List Token) : Parse ts (Option Node) :=
  if closer.kind = .elsifKeyword then
    match parseTagExpr src ts with
    | .error e => .error e
    | .ok ((c, _), ⟨r, hr⟩) =>
      match parseBody src ifTok "if" [] r with
      | .error e => .error e
      | .ok ((nodes, next), ⟨r2, hr2⟩) =>
        let branch := Branch.mk ⟨closer.span.start, c.span.stop⟩ c nodes
        match parseIfRest src start ifTok condition body (branch :: branches) next r2 with
        | .error e => .error e
        | .ok (n, ⟨r3, hr3⟩) => .ok (n, ⟨r3, by omega⟩)
  else if closer.kind = .elseKeyword then
    match expectKind src .tagEnd "'%>'" ts with
    | .error e => .error e
    | .ok (_, ⟨r, hr⟩) =>
      match parseBody src ifTok "if" [] r with
      | .error e => .error e
      | .ok ((elseBody, last), ⟨r2, hr2⟩) =>
        if last.kind = .endKeyword then
          match expectKind src .tagEnd "'%>'" r2 with
          | .error e => .error e
          | .ok (close, ⟨r3, hr3⟩) =>
            .ok (some (.cond ⟨start.span.start, close.span.stop⟩ condition body
              branches.reverse (some elseBody)), ⟨r3, by omega⟩)
        else
          .error (TemplateError.at_ (.afterElse last.lexeme last.span.start ifTok.span.start)
            last.span (src.lineOf last.span))
  else
    match expectKind src .tagEnd "'%>'" ts with
    | .error e => .error e
    | .ok (close, ⟨r, hr⟩) =>
      .ok (some (.cond ⟨start.span.start, close.span.stop⟩ condition body branches.reverse none),
        ⟨r, by omega⟩)
termination_by 10 * ts.length + 8
decreasing_by all_goals omega

/-- A `for` block after `<%` (`start`) and `for` (`forTok`). -/
def parseFor (src : ParseSource) (start forTok : Token) (ts : List Token) : Parse ts (Option Node) :=
  match parseTargets src [] ts with
  | .error e => .error e
  | .ok (targets, ⟨r, hr⟩) =>
    match expectKind src .inKeyword "'in'" r with
    | .error e => .error e
    | .ok (_, ⟨r2, hr2⟩) =>
      match parseTagExpr src r2 with
      | .error e => .error e
      | .ok ((iterable, _), ⟨r3, hr3⟩) =>
        match parseBody src forTok "for" [] r3 with
        | .error e => .error e
        | .ok ((body, closer), ⟨r4, hr4⟩) =>
          if closer.kind = .endKeyword then
            match expectKind src .tagEnd "'%>'" r4 with
            | .error e => .error e
            | .ok (close, ⟨r5, hr5⟩) =>
              .ok (some (.loop ⟨start.span.start, close.span.stop⟩ targets iterable body),
                ⟨r5, by omega⟩)
          else
            .error (TemplateError.at_ (.insideFor closer.lexeme closer.span.start forTok.span.start)
              closer.span (src.lineOf closer.span))
termination_by 10 * ts.length + 9
decreasing_by all_goals omega

end

/-- The nodes of a template up to the end of its tokens, after the nodes `acc`
(reversed); a closer with no open block is an error. -/
def parseTopLevel (src : ParseSource) (acc : List Node) (ts : List Token) : Parse ts (List Node) :=
  match ts with
  | t :: rest =>
    if t.kind = .eof then .ok (acc.reverse, ⟨t :: rest, Nat.le_refl _⟩)
    else if t.kind = .blockStart ∧ (currentToken rest).kind.isBlockCloser then
      let stray := currentToken rest
      .error (TemplateError.at_ (.strayCloser stray.lexeme stray.span.start) stray.span
        (src.lineOf stray.span))
    else
      match parseNode src t rest with
      | .error e => .error e
      | .ok (n, ⟨r, hr⟩) =>
        match parseTopLevel src (n.toList ++ acc) r with
        | .error e => .error e
        | .ok (v, ⟨r2, hr2⟩) => .ok (v, ⟨r2, by simp; omega⟩)
  | [] => .ok (acc.reverse, ⟨[], Nat.le_refl _⟩)
termination_by ts.length

/-- Parse the tokens of a template's text into a template with a name; a minus builds
the expression that `negation` gives. -/
def Template.ofTokens (tokens : List Token) (source : String) (name : Option String)
    (negation : Span → Expr → Expr := Expr.negated) : Except TemplateError Template :=
  let src : ParseSource := { lines := Text.lineFeedLines source, negation := negation }
  match parseTopLevel src [] tokens with
  | .error e => .error e
  | .ok (nodes, ⟨r, _⟩) =>
    .ok { name := name, nodes := nodes, source := source
          span := ⟨(currentToken tokens).span.start, (currentToken r).span.stop⟩ }

/-- Scan and parse a template's text; its name is used in diagnostics. -/
def Template.parse (source : String) (name : Option String)
    (negation : Span → Expr → Expr := Expr.negated) : Except Failure Template :=
  match Token.scan source name with
  | .error e => .error e
  | .ok tokens => (Template.ofTokens tokens source name negation).mapError .template

namespace Unfolded

/-- Read tokens with the minus fold turned off: every minus builds a negation. -/
def ofTokens (tokens : List Token) (source : String) (name : Option String) :
    Except TemplateError Template :=
  Template.ofTokens tokens source name Expr.negate

/-- Scan and parse a template's text with the minus fold turned off. -/
def parse (source : String) (name : Option String) : Except Failure Template :=
  Template.parse source name Expr.negate

end Unfolded

end Stencil
