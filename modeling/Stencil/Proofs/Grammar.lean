import Stencil.Syntax.Parse

/-!
# The grammar of templates

`Template.ofTokens` reads tokens by recursive descent with one token of
lookahead. This module says, without any lookahead, which token lists are
templates and which tree each of them denotes: a context-free grammar whose
rules build the tree as they go.

```
template  := node* EOF
node      := TEXT | '<%=' expr '%>' | '<%-' expr '%>' | '<%%' [expr (',' expr)*] '%>'
           | '<%' '%>' | '<%' expr '%>' | if-block | for-block
if-block  := '<%' 'if' expr '%>' node* ('<%' 'elsif' expr '%>' node*)*
             ['<%' 'else' '%>' node*] '<%' 'end' '%>'
for-block := '<%' 'for' IDENT (',' IDENT)* 'in' expr '%>' node* '<%' 'end' '%>'
expr      := postfix (('==' | '!=') postfix)*
postfix   := unary ('.' INT | '.' IDENT ['(' args ')'] | '[' expr ']')*
unary     := '-' unary | primary
primary   := literal | IDENT ['(' args ')'] | '[' [expr (',' expr)* [',']] ']' | '(' expr ')'
args      := [expr (',' expr)*]
```

Each nonterminal is an inductive predicate on the tokens it spans and the tree
it builds. A repetition is a chain that carries the tree built so far, so that
comparisons nest to the left and postfix operations apply left to right to
their operand. A minus folds into a number literal (`Expr.negated`), the render
shorthand `<%% args %>` builds a raw output of a call of `render`, and an empty
statement tag is a node that builds nothing. A literal token is one whose value
is of its kind (`literalOf`), as every token the scanner makes is.

The rest of the module collects what the parser's lookahead relies on: the
kinds a derivation can start with, the kinds that can follow its parts, and the
kinds of the tokens inside it.
-/

namespace Stencil

namespace TokenKind

/-- The kinds an expression can start with. -/
def startsExpr : TokenKind → Bool
  | .minus | .intLiteral | .floatLiteral | .stringLiteral | .boolLiteral | .nilLiteral
  | .identifier | .lbracket | .lparen => true
  | _ => false

/-- The kinds that extend an operand rather than end it: a dot or a `[` after
any operand, and a `(` after a name. -/
def continuesPostfix : TokenKind → Bool
  | .dot | .lbracket | .lparen => true
  | _ => false

/-- The kinds that extend an expression rather than end it: those that extend an
operand, and the equality tests. -/
def continuesExpr : TokenKind → Bool
  | .eq | .ne | .dot | .lbracket | .lparen => true
  | _ => false

/-- The kinds of the tokens inside a tag: all but text, the openers, `%>` and the
end of the text. -/
def insideTag : TokenKind → Bool
  | .text | .outputStart | .rawOutputStart | .renderStart | .blockStart | .tagEnd | .eof => false
  | _ => true

theorem continuesPostfix_eq_false {k : TokenKind} (h : k.continuesExpr = false) :
    k.continuesPostfix = false := by
  cases k <;> simp_all [continuesExpr, continuesPostfix]

end TokenKind

/-- The token kind of an equality test. -/
def Equality.tokenKind : Equality → TokenKind
  | .eq => .eq
  | .ne => .ne

/-- The text a text token stands for: its value, or its lexeme when its value is
not a text. -/
def Token.textOf (t : Token) : String :=
  match t.value with
  | .str s => s
  | _ => t.lexeme

/-- A call of `render` over the span of a render shorthand tag. -/
def renderShorthand (span : Span) (args : List Expr) : Node :=
  .rawOutput span (.call span "render" args)

mutual

/-- `expr := postfix (('==' | '!=') postfix)*` -/
inductive DerivesExpr : List Token → Expr → Prop
  | chain {ts us : List Token} {first e : Expr} :
      DerivesPostfix ts first → DerivesEqualities first us e → DerivesExpr (ts ++ us) e

/-- `(('==' | '!=') postfix)*`, after the comparison built so far. -/
inductive DerivesEqualities : Expr → List Token → Expr → Prop
  | done {left : Expr} : DerivesEqualities left [] left
  | compare {left right e : Expr} {t : Token} {ts us : List Token} (op : Equality) :
      t.kind = op.tokenKind → DerivesPostfix ts right →
      DerivesEqualities (.compare ⟨left.span.start, right.span.stop⟩ op left right) us e →
      DerivesEqualities left (t :: (ts ++ us)) e

/-- `postfix := unary ('.' INT | '.' IDENT ['(' args ')'] | '[' expr ']')*` -/
inductive DerivesPostfix : List Token → Expr → Prop
  | chain {ts us : List Token} {operand e : Expr} :
      DerivesUnary ts operand → DerivesSuffixes operand us e → DerivesPostfix (ts ++ us) e

/-- `('.' INT | '.' IDENT ['(' args ')'] | '[' expr ']')*`, after the expression
built so far. -/
inductive DerivesSuffixes : Expr → List Token → Expr → Prop
  | done {e : Expr} : DerivesSuffixes e [] e
  | position {e result : Expr} {d i : Token} {us : List Token} :
      d.kind = .dot → i.kind = .intLiteral →
      DerivesSuffixes (.position ⟨e.span.start, i.span.stop⟩ e (indexOf i)) us result →
      DerivesSuffixes e (d :: i :: us) result
  | method {e result : Expr} {d n : Token} {us : List Token} :
      d.kind = .dot → n.kind = .identifier →
      DerivesSuffixes (.method ⟨e.span.start, n.span.stop⟩ e n.lexeme []) us result →
      DerivesSuffixes e (d :: n :: us) result
  | methodCall {e result : Expr} {d n : Token} {ts us : List Token} {args : List Expr}
      {stop : Location} :
      d.kind = .dot → n.kind = .identifier → DerivesArguments ts args stop →
      DerivesSuffixes (.method ⟨e.span.start, stop⟩ e n.lexeme args) us result →
      DerivesSuffixes e (d :: n :: (ts ++ us)) result
  | index {e i result : Expr} {o c : Token} {ts us : List Token} :
      o.kind = .lbracket → DerivesExpr ts i → c.kind = .rbracket →
      DerivesSuffixes (.index ⟨e.span.start, c.span.stop⟩ e i) us result →
      DerivesSuffixes e (o :: (ts ++ c :: us)) result

/-- `unary := '-' unary | primary` -/
inductive DerivesUnary : List Token → Expr → Prop
  | negate {m : Token} {ts : List Token} {e : Expr} :
      m.kind = .minus → DerivesUnary ts e →
      DerivesUnary (m :: ts) (e.negated ⟨m.span.start, e.span.stop⟩)
  | primary {ts : List Token} {e : Expr} : DerivesPrimary ts e → DerivesUnary ts e

/-- `primary := literal | IDENT ['(' args ')'] | '[' [expr (',' expr)* [',']] ']' | '(' expr ')'` -/
inductive DerivesPrimary : List Token → Expr → Prop
  | literal {t : Token} {lit : Literal} :
      literalOf t = some lit → DerivesPrimary [t] (.literal t.span lit)
  | identifier {t : Token} :
      t.kind = .identifier → DerivesPrimary [t] (.identifier t.span t.lexeme)
  | call {t : Token} {ts : List Token} {args : List Expr} {stop : Location} :
      t.kind = .identifier → DerivesArguments ts args stop →
      DerivesPrimary (t :: ts) (.call ⟨t.span.start, stop⟩ t.lexeme args)
  | list {o : Token} {ts : List Token} {elements : List Expr} {stop : Location} :
      o.kind = .lbracket → DerivesElements ts elements stop →
      DerivesPrimary (o :: ts) (.list ⟨o.span.start, stop⟩ elements)
  | group {o c : Token} {ts : List Token} {e : Expr} :
      o.kind = .lparen → DerivesExpr ts e → c.kind = .rparen →
      DerivesPrimary (o :: (ts ++ [c])) e

/-- `'(' args ')'`: the arguments, and where the `)` ends. -/
inductive DerivesArguments : List Token → List Expr → Location → Prop
  | none {o c : Token} :
      o.kind = .lparen → c.kind = .rparen → DerivesArguments [o, c] [] c.span.stop
  | some {o c : Token} {ts : List Token} {args : List Expr} :
      o.kind = .lparen → DerivesSeparated .rparen ts args c →
      DerivesArguments (o :: ts) args c.span.stop

/-- `expr (',' expr)*` and then a token of kind `close`: the expressions and that
token. -/
inductive DerivesSeparated : TokenKind → List Token → List Expr → Token → Prop
  | last {close : TokenKind} {ts : List Token} {e : Expr} {c : Token} :
      DerivesExpr ts e → c.kind = close → DerivesSeparated close (ts ++ [c]) [e] c
  | more {close : TokenKind} {ts us : List Token} {e : Expr} {es : List Expr} {k c : Token} :
      DerivesExpr ts e → k.kind = .comma → DerivesSeparated close us es c →
      DerivesSeparated close (ts ++ k :: us) (e :: es) c

/-- `[expr (',' expr)* [',']] ']'`, a list literal after its `[`: the elements,
and where the `]` ends. -/
inductive DerivesElements : List Token → List Expr → Location → Prop
  | empty {c : Token} : c.kind = .rbracket → DerivesElements [c] [] c.span.stop
  | some {ts : List Token} {elements : List Expr} {c : Token} :
      DerivesSeparated .rbracket ts elements c → DerivesElements ts elements c.span.stop
  | trailing {ts : List Token} {elements : List Expr} {k c : Token} :
      DerivesSeparated .comma ts elements k → c.kind = .rbracket →
      DerivesElements (ts ++ [c]) elements c.span.stop

end

/-- `IDENT (',' IDENT)*`, the variables of a `for` block. -/
inductive DerivesTargets : List Token → List String → Prop
  | one {t : Token} : t.kind = .identifier → DerivesTargets [t] [t.lexeme]
  | more {t c : Token} {ts : List Token} {names : List String} :
      t.kind = .identifier → c.kind = .comma → DerivesTargets ts names →
      DerivesTargets (t :: c :: ts) (t.lexeme :: names)

mutual

/-- `node`: one node of a template; the empty statement tag `<% %>` builds none. -/
inductive DerivesNode : List Token → Option Node → Prop
  | text {t : Token} : t.kind = .text → DerivesNode [t] (some (.text t.span t.textOf))
  | output {o c : Token} {ts : List Token} {e : Expr} :
      o.kind = .outputStart → DerivesExpr ts e → c.kind = .tagEnd →
      DerivesNode (o :: (ts ++ [c])) (some (.output ⟨o.span.start, c.span.stop⟩ e))
  | rawOutput {o c : Token} {ts : List Token} {e : Expr} :
      o.kind = .rawOutputStart → DerivesExpr ts e → c.kind = .tagEnd →
      DerivesNode (o :: (ts ++ [c])) (some (.rawOutput ⟨o.span.start, c.span.stop⟩ e))
  | renderEmpty {o c : Token} :
      o.kind = .renderStart → c.kind = .tagEnd →
      DerivesNode [o, c] (some (renderShorthand ⟨o.span.start, c.span.stop⟩ []))
  | render {o c : Token} {ts : List Token} {args : List Expr} :
      o.kind = .renderStart → DerivesSeparated .tagEnd ts args c →
      DerivesNode (o :: ts) (some (renderShorthand ⟨o.span.start, c.span.stop⟩ args))
  | empty {o c : Token} :
      o.kind = .blockStart → c.kind = .tagEnd → DerivesNode [o, c] none
  | statement {o c : Token} {ts : List Token} {e : Expr} :
      o.kind = .blockStart → DerivesExpr ts e → c.kind = .tagEnd →
      DerivesNode (o :: (ts ++ [c])) (some (.statement ⟨o.span.start, c.span.stop⟩ e))
  | cond {o k c last : Token} {cs bs us : List Token} {condition : Expr} {body : List Node}
      {branches : List Branch} {elseBody : Option (List Node)} :
      o.kind = .blockStart → k.kind = .ifKeyword → DerivesExpr cs condition →
      c.kind = .tagEnd → DerivesNodes bs body → DerivesIfTail us branches elseBody last →
      DerivesNode (o :: k :: (cs ++ c :: (bs ++ us)))
        (some (.cond ⟨o.span.start, last.span.stop⟩ condition body branches elseBody))
  | loop {o k i c o' e' last : Token} {ns cs bs : List Token} {names : List String}
      {iterable : Expr} {body : List Node} :
      o.kind = .blockStart → k.kind = .forKeyword → DerivesTargets ns names →
      i.kind = .inKeyword → DerivesExpr cs iterable → c.kind = .tagEnd →
      DerivesNodes bs body → o'.kind = .blockStart → e'.kind = .endKeyword →
      last.kind = .tagEnd →
      DerivesNode (o :: k :: (ns ++ i :: (cs ++ c :: (bs ++ [o', e', last]))))
        (some (.loop ⟨o.span.start, last.span.stop⟩ names iterable body))

/-- `node*` -/
inductive DerivesNodes : List Token → List Node → Prop
  | nil : DerivesNodes [] []
  | cons {ts us : List Token} {n : Option Node} {ns : List Node} :
      DerivesNode ts n → DerivesNodes us ns → DerivesNodes (ts ++ us) (n.toList ++ ns)

/-- `('<%' 'elsif' expr '%>' node*)* ['<%' 'else' '%>' node*] '<%' 'end' '%>'`, the
rest of an `if` block after its first body: the `elsif` branches, the `else` body
if there is one, and the `%>` that closes the block. -/
inductive DerivesIfTail : List Token → List Branch → Option (List Node) → Token → Prop
  | elsif {o k c last : Token} {cs bs us : List Token} {condition : Expr} {nodes : List Node}
      {branches : List Branch} {elseBody : Option (List Node)} :
      o.kind = .blockStart → k.kind = .elsifKeyword → DerivesExpr cs condition →
      c.kind = .tagEnd → DerivesNodes bs nodes → DerivesIfTail us branches elseBody last →
      DerivesIfTail (o :: k :: (cs ++ c :: (bs ++ us)))
        (.mk ⟨k.span.start, condition.span.stop⟩ condition nodes :: branches) elseBody last
  | otherwise {o k c o' e' last : Token} {bs : List Token} {nodes : List Node} :
      o.kind = .blockStart → k.kind = .elseKeyword → c.kind = .tagEnd →
      DerivesNodes bs nodes → o'.kind = .blockStart → e'.kind = .endKeyword →
      last.kind = .tagEnd →
      DerivesIfTail (o :: k :: c :: (bs ++ [o', e', last])) [] (some nodes) last
  | close {o e' last : Token} :
      o.kind = .blockStart → e'.kind = .endKeyword → last.kind = .tagEnd →
      DerivesIfTail [o, e', last] [] none last

end

/-- `template := node* EOF` -/
inductive DerivesTemplate : List Token → List Node → Prop
  | mk {ts : List Token} {nodes : List Node} {e : Token} :
      DerivesNodes ts nodes → e.kind = .eof → DerivesTemplate (ts ++ [e]) nodes

end Stencil

namespace Stencil

/-! ## First tokens and follow tokens -/

/-- A literal token has a kind that starts an expression. -/
theorem startsExpr_of_literalOf {t : Token} {lit : Literal} (h : literalOf t = some lit) :
    t.kind.startsExpr := by
  unfold literalOf at h
  split at h <;> simp_all [TokenKind.startsExpr]

/-- A literal token is a token of a tag. -/
theorem insideTag_of_literalOf {t : Token} {lit : Literal} (h : literalOf t = some lit) :
    t.kind.insideTag := by
  unfold literalOf at h
  split at h <;> simp_all [TokenKind.insideTag]

/-- A kind that starts an expression is no kind that does not. -/
theorem TokenKind.ne_of_startsExpr {k k' : TokenKind} (h : k.startsExpr)
    (h' : k'.startsExpr = false := by rfl) : k ≠ k' := by
  rintro rfl
  simp [h'] at h

/-- A primary starts with a literal, a name, `[` or `(`: never with a minus. -/
theorem DerivesPrimary.head {ts : List Token} {e : Expr} (d : DerivesPrimary ts e) :
    ∃ t rest, ts = t :: rest ∧ t.kind.startsExpr ∧ t.kind ≠ .minus := by
  cases d with
  | literal lit =>
    refine ⟨_, _, rfl, startsExpr_of_literalOf lit, ?_⟩
    unfold literalOf at lit
    intro minus
    split at lit <;> simp_all
  | identifier name => exact ⟨_, _, rfl, by simp [name, TokenKind.startsExpr], by simp [name]⟩
  | call name _ => exact ⟨_, _, rfl, by simp [name, TokenKind.startsExpr], by simp [name]⟩
  | list open_ _ => exact ⟨_, _, rfl, by simp [open_, TokenKind.startsExpr], by simp [open_]⟩
  | group open_ _ _ => exact ⟨_, _, rfl, by simp [open_, TokenKind.startsExpr], by simp [open_]⟩

theorem DerivesUnary.head {ts : List Token} {e : Expr} (d : DerivesUnary ts e) :
    ∃ t rest, ts = t :: rest ∧ t.kind.startsExpr := by
  cases d with
  | negate minus _ => exact ⟨_, _, rfl, by simp [minus, TokenKind.startsExpr]⟩
  | primary p =>
    obtain ⟨t, rest, rfl, starts, -⟩ := p.head
    exact ⟨t, rest, rfl, starts⟩

theorem DerivesPostfix.head {ts : List Token} {e : Expr} (d : DerivesPostfix ts e) :
    ∃ t rest, ts = t :: rest ∧ t.kind.startsExpr := by
  cases d with
  | chain operand _ =>
    obtain ⟨t, rest, rfl, starts⟩ := operand.head
    exact ⟨t, _, rfl, starts⟩

/-- An expression starts with a minus, a literal, a name, `[` or `(`. -/
theorem DerivesExpr.head {ts : List Token} {e : Expr} (d : DerivesExpr ts e) :
    ∃ t rest, ts = t :: rest ∧ t.kind.startsExpr := by
  cases d with
  | chain first _ =>
    obtain ⟨t, rest, rfl, starts⟩ := first.head
    exact ⟨t, _, rfl, starts⟩

/-- A list of expressions starts as its first expression does. -/
theorem DerivesSeparated.head {close : TokenKind} {ts : List Token} {es : List Expr} {c : Token}
    (d : DerivesSeparated close ts es c) : ∃ t rest, ts = t :: rest ∧ t.kind.startsExpr := by
  cases d with
  | last e _ =>
    obtain ⟨t, rest, rfl, starts⟩ := e.head
    exact ⟨t, _, rfl, starts⟩
  | more e _ _ =>
    obtain ⟨t, rest, rfl, starts⟩ := e.head
    exact ⟨t, _, rfl, starts⟩

/-- Arguments start with `(`. -/
theorem DerivesArguments.head {ts : List Token} {args : List Expr} {stop : Location}
    (d : DerivesArguments ts args stop) : ∃ o rest, ts = o :: rest ∧ o.kind = .lparen := by
  cases d with
  | none open_ _ => exact ⟨_, _, rfl, open_⟩
  | some open_ _ => exact ⟨_, _, rfl, open_⟩

/-- After the equality tests of an expression comes whatever followed it, unless
there is another test. -/
theorem DerivesEqualities.head {left e : Expr} {us : List Token}
    (d : DerivesEqualities left us e) :
    us = [] ∨ ∃ t rest, us = t :: rest ∧ (t.kind = .eq ∨ t.kind = .ne) := by
  cases d with
  | done => exact .inl rfl
  | compare op kind _ _ =>
    refine .inr ⟨_, _, rfl, ?_⟩
    cases op <;> simp [kind, Equality.tokenKind]

/-- A chain of postfix operations is empty or starts with a dot or a `[`. -/
theorem DerivesSuffixes.head {e result : Expr} {us : List Token}
    (d : DerivesSuffixes e us result) :
    us = [] ∨ ∃ t rest, us = t :: rest ∧ (t.kind = .dot ∨ t.kind = .lbracket) := by
  cases d with
  | done => exact .inl rfl
  | position dot _ _ => exact .inr ⟨_, _, rfl, .inl dot⟩
  | method dot _ _ => exact .inr ⟨_, _, rfl, .inl dot⟩
  | methodCall dot _ _ _ => exact .inr ⟨_, _, rfl, .inl dot⟩
  | index open_ _ _ _ => exact .inr ⟨_, _, rfl, .inr open_⟩

/-- What follows the operand of a comparison chain ends a postfix operand. -/
theorem DerivesEqualities.stops {left e : Expr} {us rest : List Token}
    (d : DerivesEqualities left us e) (stop : (currentToken rest).kind.continuesExpr = false) :
    (currentToken (us ++ rest)).kind.continuesPostfix = false := by
  rcases d.head with rfl | ⟨t, tail, rfl, kind⟩
  · exact TokenKind.continuesPostfix_eq_false stop
  · rcases kind with kind | kind <;> simp [currentToken, kind, TokenKind.continuesPostfix]

/-- What follows the operand of a postfix chain is no `(`. -/
theorem DerivesSuffixes.stops {e result : Expr} {us rest : List Token}
    (d : DerivesSuffixes e us result) (stop : (currentToken rest).kind.continuesPostfix = false) :
    (currentToken (us ++ rest)).kind ≠ .lparen := by
  rcases d.head with rfl | ⟨t, tail, rfl, kind⟩
  · intro paren
    rw [List.nil_append] at paren
    simp [paren, TokenKind.continuesPostfix] at stop
  · rcases kind with kind | kind <;> simp [currentToken, kind]

end Stencil

namespace Stencil

/-! ## The kinds of the tokens of a derivation -/

theorem TokenKind.ne_eof_of_insideTag {k : TokenKind} (h : k.insideTag) : k ≠ .eof := by
  rintro rfl
  simp [insideTag] at h

mutual

/-- Every token of an expression is a token of a tag. -/
theorem DerivesExpr.insideTag {ts : List Token} {e : Expr} :
    DerivesExpr ts e → ∀ t ∈ ts, t.kind.insideTag
  | .chain first rest => by
    intro t mem
    rcases List.mem_append.1 mem with mem | mem
    · exact first.insideTag t mem
    · exact rest.insideTag t mem

theorem DerivesEqualities.insideTag {left e : Expr} {ts : List Token} :
    DerivesEqualities left ts e → ∀ t ∈ ts, t.kind.insideTag
  | .done => by simp
  | .compare op kind right rest => by
    intro t mem
    simp only [List.mem_cons, List.mem_append] at mem
    rcases mem with rfl | mem | mem
    · cases op <;> simp [kind, Equality.tokenKind, TokenKind.insideTag]
    · exact right.insideTag t mem
    · exact rest.insideTag t mem

theorem DerivesPostfix.insideTag {ts : List Token} {e : Expr} :
    DerivesPostfix ts e → ∀ t ∈ ts, t.kind.insideTag
  | .chain operand rest => by
    intro t mem
    rcases List.mem_append.1 mem with mem | mem
    · exact operand.insideTag t mem
    · exact rest.insideTag t mem

theorem DerivesSuffixes.insideTag {e result : Expr} {ts : List Token} :
    DerivesSuffixes e ts result → ∀ t ∈ ts, t.kind.insideTag
  | .done => by simp
  | .position dot int rest => by
    intro t mem
    simp only [List.mem_cons] at mem
    rcases mem with rfl | rfl | mem
    · simp [dot, TokenKind.insideTag]
    · simp [int, TokenKind.insideTag]
    · exact rest.insideTag t mem
  | .method dot name rest => by
    intro t mem
    simp only [List.mem_cons] at mem
    rcases mem with rfl | rfl | mem
    · simp [dot, TokenKind.insideTag]
    · simp [name, TokenKind.insideTag]
    · exact rest.insideTag t mem
  | .methodCall dot name args rest => by
    intro t mem
    simp only [List.mem_cons, List.mem_append] at mem
    rcases mem with rfl | rfl | mem | mem
    · simp [dot, TokenKind.insideTag]
    · simp [name, TokenKind.insideTag]
    · exact args.insideTag t mem
    · exact rest.insideTag t mem
  | .index open_ index close rest => by
    intro t mem
    simp only [List.mem_cons, List.mem_append] at mem
    rcases mem with rfl | mem | rfl | mem
    · simp [open_, TokenKind.insideTag]
    · exact index.insideTag t mem
    · simp [close, TokenKind.insideTag]
    · exact rest.insideTag t mem

theorem DerivesUnary.insideTag {ts : List Token} {e : Expr} :
    DerivesUnary ts e → ∀ t ∈ ts, t.kind.insideTag
  | .negate minus operand => by
    intro t mem
    simp only [List.mem_cons] at mem
    rcases mem with rfl | mem
    · simp [minus, TokenKind.insideTag]
    · exact operand.insideTag t mem
  | .primary p => p.insideTag

theorem DerivesPrimary.insideTag {ts : List Token} {e : Expr} :
    DerivesPrimary ts e → ∀ t ∈ ts, t.kind.insideTag
  | .literal lit => by
    intro t mem
    simp only [List.mem_singleton] at mem
    exact mem ▸ insideTag_of_literalOf lit
  | .identifier name => by
    intro t mem
    simp only [List.mem_singleton] at mem
    simp [mem, name, TokenKind.insideTag]
  | .call name args => by
    intro t mem
    simp only [List.mem_cons] at mem
    rcases mem with rfl | mem
    · simp [name, TokenKind.insideTag]
    · exact args.insideTag t mem
  | .list open_ elements => by
    intro t mem
    simp only [List.mem_cons] at mem
    rcases mem with rfl | mem
    · simp [open_, TokenKind.insideTag]
    · exact elements.insideTag t mem
  | .group open_ inner close => by
    intro t mem
    simp only [List.mem_cons, List.mem_append, List.not_mem_nil, or_false] at mem
    rcases mem with rfl | mem | rfl
    · simp [open_, TokenKind.insideTag]
    · exact inner.insideTag t mem
    · simp [close, TokenKind.insideTag]

theorem DerivesArguments.insideTag {ts : List Token} {args : List Expr} {stop : Location} :
    DerivesArguments ts args stop → ∀ t ∈ ts, t.kind.insideTag
  | .none open_ close => by
    intro t mem
    simp only [List.mem_cons, List.not_mem_nil, or_false] at mem
    rcases mem with rfl | rfl
    · simp [open_, TokenKind.insideTag]
    · simp [close, TokenKind.insideTag]
  | .some open_ sep => by
    intro t mem
    simp only [List.mem_cons] at mem
    rcases mem with rfl | mem
    · simp [open_, TokenKind.insideTag]
    · rcases sep.insideTag t mem with inside | isClose
      · exact inside
      · simp [isClose, TokenKind.insideTag]

/-- The tokens of `expr (',' expr)*` are tokens of a tag, and so is its closer
when the closer's kind is. -/
theorem DerivesSeparated.insideTag {close : TokenKind} {ts : List Token} {es : List Expr}
    {c : Token} :
    DerivesSeparated close ts es c → ∀ t ∈ ts, t.kind.insideTag ∨ t.kind = close
  | .last e isClose => by
    intro t mem
    simp only [List.mem_append, List.mem_singleton] at mem
    rcases mem with mem | rfl
    · exact .inl (e.insideTag t mem)
    · exact .inr isClose
  | .more e comma rest => by
    intro t mem
    simp only [List.mem_append, List.mem_cons] at mem
    rcases mem with mem | rfl | mem
    · exact .inl (e.insideTag t mem)
    · exact .inl (by simp [comma, TokenKind.insideTag])
    · exact rest.insideTag t mem

theorem DerivesElements.insideTag {ts : List Token} {es : List Expr} {stop : Location} :
    DerivesElements ts es stop → ∀ t ∈ ts, t.kind.insideTag
  | .empty close => by
    intro t mem
    simp only [List.mem_singleton] at mem
    simp [mem, close, TokenKind.insideTag]
  | .some sep => by
    intro t mem
    rcases sep.insideTag t mem with inside | isClose
    · exact inside
    · simp [isClose, TokenKind.insideTag]
  | .trailing sep close => by
    intro t mem
    simp only [List.mem_append, List.mem_singleton] at mem
    rcases mem with mem | rfl
    · rcases sep.insideTag t mem with inside | isComma
      · exact inside
      · simp [isComma, TokenKind.insideTag]
    · simp [close, TokenKind.insideTag]

end

end Stencil

namespace Stencil

theorem DerivesTargets.insideTag {ts : List Token} {names : List String} :
    DerivesTargets ts names → ∀ t ∈ ts, t.kind.insideTag
  | .one name => by
    intro t mem
    simp only [List.mem_singleton] at mem
    simp [mem, name, TokenKind.insideTag]
  | .more name comma rest => by
    intro t mem
    simp only [List.mem_cons] at mem
    rcases mem with rfl | rfl | mem
    · simp [name, TokenKind.insideTag]
    · simp [comma, TokenKind.insideTag]
    · exact rest.insideTag t mem

/-- A kind that is not the end of the text. -/
theorem ne_eof_of_eq {t : Token} {k : TokenKind} (h : t.kind = k) (hk : k ≠ .eof := by decide) :
    t.kind ≠ .eof := h ▸ hk

mutual

/-- No node contains the end of the text. -/
theorem DerivesNode.ne_eof {ts : List Token} {n : Option Node} :
    DerivesNode ts n → ∀ t ∈ ts, t.kind ≠ .eof
  | .text isText => by
    intro t mem
    simp only [List.mem_singleton] at mem
    exact mem ▸ ne_eof_of_eq isText
  | .output start e close | .rawOutput start e close | .statement start e close => by
    intro t mem
    simp only [List.mem_cons, List.mem_append, List.not_mem_nil, or_false] at mem
    rcases mem with rfl | mem | rfl
    · exact ne_eof_of_eq start
    · exact TokenKind.ne_eof_of_insideTag (e.insideTag t mem)
    · exact ne_eof_of_eq close
  | .renderEmpty start close | .empty start close => by
    intro t mem
    simp only [List.mem_cons, List.not_mem_nil, or_false] at mem
    rcases mem with rfl | rfl
    · exact ne_eof_of_eq start
    · exact ne_eof_of_eq close
  | .render start sep => by
    intro t mem
    simp only [List.mem_cons] at mem
    rcases mem with rfl | mem
    · exact ne_eof_of_eq start
    · rcases sep.insideTag t mem with inside | isClose
      · exact TokenKind.ne_eof_of_insideTag inside
      · exact ne_eof_of_eq isClose
  | .cond start isIf condition close body tail => by
    intro t mem
    simp only [List.mem_cons, List.mem_append] at mem
    rcases mem with rfl | rfl | mem | rfl | mem | mem
    · exact ne_eof_of_eq start
    · exact ne_eof_of_eq isIf
    · exact TokenKind.ne_eof_of_insideTag (condition.insideTag t mem)
    · exact ne_eof_of_eq close
    · exact body.ne_eof t mem
    · exact tail.ne_eof t mem
  | .loop start isFor targets isIn iterable close body start' isEnd last => by
    intro t mem
    simp only [List.mem_cons, List.mem_append, List.not_mem_nil, or_false] at mem
    rcases mem with rfl | rfl | mem | rfl | mem | rfl | mem | rfl | rfl | rfl
    · exact ne_eof_of_eq start
    · exact ne_eof_of_eq isFor
    · exact TokenKind.ne_eof_of_insideTag (targets.insideTag t mem)
    · exact ne_eof_of_eq isIn
    · exact TokenKind.ne_eof_of_insideTag (iterable.insideTag t mem)
    · exact ne_eof_of_eq close
    · exact body.ne_eof t mem
    · exact ne_eof_of_eq start'
    · exact ne_eof_of_eq isEnd
    · exact ne_eof_of_eq last

theorem DerivesNodes.ne_eof {ts : List Token} {ns : List Node} :
    DerivesNodes ts ns → ∀ t ∈ ts, t.kind ≠ .eof
  | .nil => by simp
  | .cons first rest => by
    intro t mem
    rcases List.mem_append.1 mem with mem | mem
    · exact first.ne_eof t mem
    · exact rest.ne_eof t mem

theorem DerivesIfTail.ne_eof {ts : List Token} {branches : List Branch}
    {elseBody : Option (List Node)} {last : Token} :
    DerivesIfTail ts branches elseBody last → ∀ t ∈ ts, t.kind ≠ .eof
  | .elsif start isElsif condition close body tail => by
    intro t mem
    simp only [List.mem_cons, List.mem_append] at mem
    rcases mem with rfl | rfl | mem | rfl | mem | mem
    · exact ne_eof_of_eq start
    · exact ne_eof_of_eq isElsif
    · exact TokenKind.ne_eof_of_insideTag (condition.insideTag t mem)
    · exact ne_eof_of_eq close
    · exact body.ne_eof t mem
    · exact tail.ne_eof t mem
  | .otherwise start isElse close body start' isEnd isLast => by
    intro t mem
    simp only [List.mem_cons, List.mem_append, List.not_mem_nil, or_false] at mem
    rcases mem with rfl | rfl | rfl | mem | rfl | rfl | rfl
    · exact ne_eof_of_eq start
    · exact ne_eof_of_eq isElse
    · exact ne_eof_of_eq close
    · exact body.ne_eof t mem
    · exact ne_eof_of_eq start'
    · exact ne_eof_of_eq isEnd
    · exact ne_eof_of_eq isLast
  | .close start isEnd isLast => by
    intro t mem
    simp only [List.mem_cons, List.not_mem_nil, or_false] at mem
    rcases mem with rfl | rfl | rfl
    · exact ne_eof_of_eq start
    · exact ne_eof_of_eq isEnd
    · exact ne_eof_of_eq isLast

end

end Stencil

namespace Stencil

/-! ## How nodes start -/

/-- A node starts with a text or an opener, and an opener `<%` is never followed by
`elsif`, `else` or `end`: a node never looks like the closer of a block. -/
theorem DerivesNode.head {ts : List Token} {n : Option Node} (d : DerivesNode ts n) :
    ∃ t tail, ts = t :: tail ∧ t.kind ≠ .eof ∧
      ∀ more, ¬ (t.kind = .blockStart ∧ (currentToken (tail ++ more)).kind.isBlockCloser) := by
  cases d with
  | text isText => exact ⟨_, _, rfl, ne_eof_of_eq isText, by simp [isText]⟩
  | output start _ _ => exact ⟨_, _, rfl, ne_eof_of_eq start, by simp [start]⟩
  | rawOutput start _ _ => exact ⟨_, _, rfl, ne_eof_of_eq start, by simp [start]⟩
  | renderEmpty start _ => exact ⟨_, _, rfl, ne_eof_of_eq start, by simp [start]⟩
  | render start _ => exact ⟨_, _, rfl, ne_eof_of_eq start, by simp [start]⟩
  | empty start close =>
    exact ⟨_, _, rfl, ne_eof_of_eq start,
      by simp [currentToken, close, TokenKind.isBlockCloser]⟩
  | statement start e _ =>
    obtain ⟨t, rest, rfl, starts⟩ := e.head
    refine ⟨_, _, rfl, ne_eof_of_eq start, ?_⟩
    intro more
    simp only [List.cons_append, currentToken, not_and]
    intro _ closes
    revert starts closes
    cases t.kind <;> simp [TokenKind.startsExpr, TokenKind.isBlockCloser]
  | cond start isIf _ _ _ _ =>
    exact ⟨_, _, rfl, ne_eof_of_eq start,
      by simp [currentToken, isIf, TokenKind.isBlockCloser]⟩
  | loop start isFor _ _ _ _ _ _ _ _ =>
    exact ⟨_, _, rfl, ne_eof_of_eq start,
      by simp [currentToken, isFor, TokenKind.isBlockCloser]⟩

/-- The rest of an `if` block starts with `<%` and a closer. -/
theorem DerivesIfTail.head {ts : List Token} {branches : List Branch}
    {elseBody : Option (List Node)} {last : Token} (d : DerivesIfTail ts branches elseBody last) :
    ∃ o k tail, ts = o :: k :: tail ∧ o.kind = .blockStart ∧ k.kind.isBlockCloser := by
  cases d with
  | elsif start isElsif _ _ _ _ =>
    exact ⟨_, _, _, rfl, start, by simp [isElsif, TokenKind.isBlockCloser]⟩
  | otherwise start isElse _ _ _ _ _ =>
    exact ⟨_, _, _, rfl, start, by simp [isElse, TokenKind.isBlockCloser]⟩
  | close start isEnd _ =>
    exact ⟨_, _, _, rfl, start, by simp [isEnd, TokenKind.isBlockCloser]⟩

end Stencil
