import Mathlib
import Stencil.Proofs.ParserSound

/-!
# The parser finds every derivation of the grammar

The converse of `Stencil.Proofs.ParserSound`: on a stretch of tokens that the
grammar derives, followed by any tokens that cannot continue it, each parsing
function returns the tree of the derivation and leaves exactly those tokens.
What may follow is where the parser's one token of lookahead shows: an operand
must not be followed by a dot, a `[` or a `(`, an expression also not by an
equality test (`TokenKind.continuesExpr`), and a list of loop variables not by a
comma. In the grammar an expression is only ever followed by `%>`, `,`, `)` or
`]`, so these conditions always hold where the parser needs them.

The lemmas are proved by recursion on the derivation. The main theorem,
`ofTokens_eq_ok_iff`, puts both directions together: a list of tokens that ends
with its only end token is read into a template exactly when the grammar derives
it, and the template holds the nodes of the derivation, which is therefore unique.
-/

namespace Stencil

variable {src : ParseSource}

/-- The operator the parser builds from the token of a comparison. -/
theorem equalityOf_tokenKind {t : Token} {op : Equality} (kind : t.kind = op.tokenKind) :
    (if t.kind = .eq then Equality.eq else Equality.ne) = op := by
  cases op <;> simp [kind, Equality.tokenKind]

/-- A result of a parse is determined by its value and the tokens it leaves. -/
theorem Parse.exists_ok_congr {α : Type} {ts rest : List Token} {v v' : α}
    {h : rest.length ≤ ts.length} (same : v = v') :
    ∃ h', (Except.ok (v, ⟨rest, h⟩) : Parse ts α) = .ok (v', ⟨rest, h'⟩) :=
  ⟨h, by rw [same]⟩

/-- The same for the readers that always take a token. -/
theorem Parse.exists_ok_congr_lt {α : Type} {ts rest : List Token} {v v' : α}
    {h : rest.length < ts.length} (same : v = v') :
    ∃ h', (Except.ok (v, ⟨rest, h⟩) :
      Except TemplateError (α × { r : List Token // r.length < ts.length })) = .ok (v', ⟨rest, h'⟩) :=
  ⟨h, by rw [same]⟩

/-- A widened parse returns what it returned. -/
theorem Parse.widen_ok {ts us : List Token} {α : Type} {v : α} {r : List Token}
    {hr : r.length ≤ us.length} {h : us.length ≤ ts.length} :
    Parse.widen (Except.ok (v, ⟨r, hr⟩) : Parse us α) h = .ok (v, ⟨r, Nat.le_trans hr h⟩) := rfl

/-- A token of the kind expected is taken. -/
theorem expectKind_of_kind {kind : TokenKind} {expected : String} {t : Token}
    {rest : List Token} (same : t.kind = kind) :
    expectKind src kind expected (t :: rest) = .ok (t, ⟨rest, Nat.lt_succ_self _⟩) := by
  simp [expectKind, same]

/-- An operand followed by nothing that could extend it is left as it is. -/
theorem parsePostfixRest_stop {e : Expr} {ts : List Token}
    (stop : (currentToken ts).kind.continuesPostfix = false) :
    ∃ h, parsePostfixRest src e ts = .ok (e, ⟨ts, h⟩) := by
  rw [parsePostfixRest.eq_def]
  split
  next t rest =>
    have notDot : ¬ t.kind = .dot := by
      intro dot
      simp [currentToken, dot, TokenKind.continuesPostfix] at stop
    have notOpen : ¬ t.kind = .lbracket := by
      intro open_
      simp [currentToken, open_, TokenKind.continuesPostfix] at stop
    rw [if_neg notDot, if_neg notOpen]
    exact ⟨Nat.le_refl _, rfl⟩
  next => exact ⟨Nat.le_refl _, rfl⟩

/-- A comparison chain followed by no equality test ends. -/
theorem parseEqualityRest_stop {left : Expr} {ts : List Token}
    (stop : (currentToken ts).kind.continuesExpr = false) :
    ∃ h, parseEqualityRest src left ts = .ok (left, ⟨ts, h⟩) := by
  rw [parseEqualityRest.eq_def]
  split
  next t rest =>
    have notOp : ¬ (t.kind = .eq ∨ t.kind = .ne) := by
      rintro (eq | ne)
      · simp [currentToken, eq, TokenKind.continuesExpr] at stop
      · simp [currentToken, ne, TokenKind.continuesExpr] at stop
    rw [if_neg notOp]
    exact ⟨Nat.le_refl _, rfl⟩
  next => exact ⟨Nat.le_refl _, rfl⟩

/-- `literalOf` gives no literal for a name, a `[` or a `(`. -/
theorem literalOf_eq_none {t : Token}
    (h : t.kind = .identifier ∨ t.kind = .lbracket ∨ t.kind = .lparen) : literalOf t = none := by
  unfold literalOf
  split <;> simp_all

/-- An element followed by a comma: the elements go on after it. -/
theorem parseElements_comma {acc es : List Expr} {t d : Token} {tail more rest : List Token}
    {e : Expr} {stop : Location} (notClose : t.kind ≠ .rbracket)
    (element : ∃ h, parseExpr src (t :: tail) = .ok (e, ⟨d :: more, h⟩))
    (comma : d.kind = .comma)
    (next : ∃ h, parseElements src (e :: acc) more = .ok (((e :: acc).reverse ++ es, stop), ⟨rest, h⟩)) :
    ∃ h, parseElements src acc (t :: tail) = .ok ((acc.reverse ++ e :: es, stop), ⟨rest, h⟩) := by
  obtain ⟨_, he⟩ := element
  obtain ⟨_, hnext⟩ := next
  rw [parseElements, if_neg notClose, he]
  dsimp only
  rw [if_pos comma, hnext]
  exact Parse.exists_ok_congr (by simp)

/-- An element followed by `]` ends the elements. -/
theorem parseElements_close {acc : List Expr} {t d : Token} {tail rest : List Token} {e : Expr}
    (notClose : t.kind ≠ .rbracket)
    (element : ∃ h, parseExpr src (t :: tail) = .ok (e, ⟨d :: rest, h⟩))
    (close : d.kind = .rbracket) :
    ∃ h, parseElements src acc (t :: tail) = .ok ((acc.reverse ++ [e], d.span.stop), ⟨rest, h⟩) := by
  obtain ⟨_, he⟩ := element
  rw [parseElements, if_neg notClose, he]
  dsimp only
  rw [if_neg (by simp [close]), if_pos close]
  exact Parse.exists_ok_congr (by simp)

/-! ## Expressions

The expression parsers find derivations of the grammar when the source folds a minus as
the grammar does. Every lemma of their recursion reaches `parseUnary`, where that is
used; the linter sees only the calls a body makes by name. -/

variable [src.FoldsMinus]
set_option linter.unusedSectionVars false

mutual

theorem parseExpr_complete {pre rest ts : List Token} {e : Expr} (d : DerivesExpr pre e)
    (split : ts = pre ++ rest) (stop : (currentToken rest).kind.continuesExpr = false) :
    ∃ h, parseExpr src ts = .ok (e, ⟨rest, h⟩) := by
  match d with
  | @DerivesExpr.chain pre1 pre2 _ _ first chain =>
    rw [parseExpr]
    obtain ⟨_, hfirst⟩ := parsePostfix_complete first
      (show ts = pre1 ++ (pre2 ++ rest) by simp [split]) (chain.stops stop)
    rw [hfirst]
    dsimp only
    obtain ⟨_, hchain⟩ := parseEqualityRest_complete chain rfl stop
    rw [hchain]
    exact ⟨_, rfl⟩

theorem parseEqualityRest_complete {left e : Expr} {pre rest ts : List Token}
    (d : DerivesEqualities left pre e) (split : ts = pre ++ rest)
    (stop : (currentToken rest).kind.continuesExpr = false) :
    ∃ h, parseEqualityRest src left ts = .ok (e, ⟨rest, h⟩) := by
  match d with
  | .done =>
    subst split
    exact parseEqualityRest_stop stop
  | @DerivesEqualities.compare _ _ _ t pre1 pre2 op kind right chain =>
    obtain rfl : ts = t :: (pre1 ++ (pre2 ++ rest)) := by simp [split]
    have isOp : t.kind = .eq ∨ t.kind = .ne := by cases op <;> simp [kind, Equality.tokenKind]
    rw [parseEqualityRest, if_pos isOp]
    obtain ⟨_, hright⟩ := parsePostfix_complete right rfl (chain.stops stop)
    rw [hright]
    dsimp only
    rw [equalityOf_tokenKind kind]
    obtain ⟨_, hchain⟩ := parseEqualityRest_complete chain rfl stop
    rw [hchain]
    exact ⟨_, rfl⟩

theorem parsePostfix_complete {pre rest ts : List Token} {e : Expr} (d : DerivesPostfix pre e)
    (split : ts = pre ++ rest) (stop : (currentToken rest).kind.continuesPostfix = false) :
    ∃ h, parsePostfix src ts = .ok (e, ⟨rest, h⟩) := by
  match d with
  | @DerivesPostfix.chain pre1 pre2 _ _ operand chain =>
    rw [parsePostfix]
    obtain ⟨_, hoperand⟩ := parseUnary_complete operand
      (show ts = pre1 ++ (pre2 ++ rest) by simp [split]) (chain.stops stop)
    rw [hoperand]
    dsimp only
    obtain ⟨_, hchain⟩ := parsePostfixRest_complete chain rfl stop
    rw [hchain]
    exact ⟨_, rfl⟩

theorem parsePostfixRest_complete {e result : Expr} {pre rest ts : List Token}
    (d : DerivesSuffixes e pre result) (split : ts = pre ++ rest)
    (stop : (currentToken rest).kind.continuesPostfix = false) :
    ∃ h, parsePostfixRest src e ts = .ok (result, ⟨rest, h⟩) := by
  match d with
  | .done =>
    subst split
    exact parsePostfixRest_stop stop
  | @DerivesSuffixes.position _ _ dot i us isDot isInt chain =>
    obtain rfl : ts = dot :: i :: (us ++ rest) := by simp [split]
    rw [parsePostfixRest, if_pos isDot, if_pos isInt]
    dsimp only
    obtain ⟨_, hchain⟩ := parsePostfixRest_complete chain rfl stop
    rw [hchain]
    exact ⟨_, rfl⟩
  | @DerivesSuffixes.method _ _ dot name us isDot isName chain =>
    obtain rfl : ts = dot :: name :: (us ++ rest) := by simp [split]
    have notInt : ¬ name.kind = .intLiteral := by simp [isName]
    have notCall := chain.stops stop
    rw [parsePostfixRest, if_pos isDot, if_neg notInt, if_pos isName, if_neg notCall]
    dsimp only
    obtain ⟨_, hchain⟩ := parsePostfixRest_complete chain rfl stop
    rw [hchain]
    exact ⟨_, rfl⟩
  | @DerivesSuffixes.methodCall _ _ dot name pre1 pre2 _ _ isDot isName args chain =>
    obtain rfl : ts = dot :: name :: (pre1 ++ (pre2 ++ rest)) := by simp [split]
    have notInt : ¬ name.kind = .intLiteral := by simp [isName]
    have isCall : (currentToken (pre1 ++ (pre2 ++ rest))).kind = .lparen := by
      obtain ⟨o, tail, rfl, open_⟩ := args.head
      simpa [currentToken] using open_
    rw [parsePostfixRest, if_pos isDot, if_neg notInt, if_pos isName, if_pos isCall]
    obtain ⟨_, hargs⟩ := parseArguments_complete args rfl
    rw [hargs]
    dsimp only
    obtain ⟨_, hchain⟩ := parsePostfixRest_complete chain rfl stop
    rw [hchain]
    exact ⟨_, rfl⟩
  | @DerivesSuffixes.index _ _ _ o c pre1 pre2 isOpen index isClose chain =>
    obtain rfl : ts = o :: (pre1 ++ c :: (pre2 ++ rest)) := by simp [split]
    have notDot : ¬ o.kind = .dot := by simp [isOpen]
    rw [parsePostfixRest.eq_def]
    dsimp only
    rw [if_neg notDot, if_pos isOpen]
    obtain ⟨_, hindex⟩ := parseExpr_complete index rfl
      (show (currentToken (c :: (pre2 ++ rest))).kind.continuesExpr = false by
        simp [currentToken, isClose, TokenKind.continuesExpr])
    rw [hindex]
    dsimp only
    rw [if_pos isClose]
    obtain ⟨_, hchain⟩ := parsePostfixRest_complete chain rfl stop
    rw [hchain]
    exact ⟨_, rfl⟩

theorem parseUnary_complete {pre rest ts : List Token} {e : Expr} (d : DerivesUnary pre e)
    (split : ts = pre ++ rest) (stop : (currentToken rest).kind ≠ .lparen) :
    ∃ h, parseUnary src ts = .ok (e, ⟨rest, h⟩) := by
  match d with
  | @DerivesUnary.negate m pre1 _ minus operand =>
    obtain rfl : ts = m :: (pre1 ++ rest) := by simp [split]
    rw [parseUnary, if_pos minus]
    obtain ⟨_, hoperand⟩ := parseUnary_complete operand rfl stop
    rw [hoperand, ParseSource.FoldsMinus.negation_eq]
    exact ⟨_, rfl⟩
  | .primary primary =>
    obtain ⟨t, tail, shape, -, notMinus⟩ := primary.head
    obtain rfl : ts = t :: (tail ++ rest) := by simp [split, shape]
    rw [parseUnary, if_neg notMinus]
    exact parsePrimary_complete primary (by simp [shape]) stop

theorem parsePrimary_complete {pre rest ts : List Token} {e : Expr} (d : DerivesPrimary pre e)
    (split : ts = pre ++ rest) (stop : (currentToken rest).kind ≠ .lparen) :
    ∃ h, parsePrimary src ts = .ok (e, ⟨rest, h⟩) := by
  match d with
  | @DerivesPrimary.literal t _ isLit =>
    obtain rfl : ts = t :: rest := by simp [split]
    rw [parsePrimary, isLit]
    exact ⟨_, rfl⟩
  | @DerivesPrimary.identifier t isName =>
    obtain rfl : ts = t :: rest := by simp [split]
    rw [parsePrimary, literalOf_eq_none (.inl isName)]
    dsimp only
    rw [if_pos isName, if_neg stop]
    exact ⟨_, rfl⟩
  | @DerivesPrimary.call t pre1 _ _ isName args =>
    obtain rfl : ts = t :: (pre1 ++ rest) := by simp [split]
    have isCall : (currentToken (pre1 ++ rest)).kind = .lparen := by
      obtain ⟨o, tail, rfl, open_⟩ := args.head
      simpa [currentToken] using open_
    rw [parsePrimary, literalOf_eq_none (.inl isName)]
    dsimp only
    rw [if_pos isName, if_pos isCall]
    obtain ⟨_, hargs⟩ := parseArguments_complete args rfl
    rw [hargs]
    exact ⟨_, rfl⟩
  | @DerivesPrimary.list o pre1 _ _ isOpen elements =>
    obtain rfl : ts = o :: (pre1 ++ rest) := by simp [split]
    have notName : ¬ o.kind = .identifier := by simp [isOpen]
    rw [parsePrimary, literalOf_eq_none (.inr (.inl isOpen))]
    dsimp only
    rw [if_neg notName, if_pos isOpen]
    obtain ⟨_, helements⟩ := parseElements_complete [] elements rfl
    rw [helements]
    exact ⟨_, rfl⟩
  | @DerivesPrimary.group o c pre1 _ isParen inner isClose =>
    obtain rfl : ts = o :: (pre1 ++ c :: rest) := by simp [split]
    have notName : ¬ o.kind = .identifier := by simp [isParen]
    have notOpen : ¬ o.kind = .lbracket := by simp [isParen]
    rw [parsePrimary, literalOf_eq_none (.inr (.inr isParen))]
    dsimp only
    rw [if_neg notName, if_neg notOpen, if_pos isParen]
    obtain ⟨_, hinner⟩ := parseExpr_complete inner rfl
      (show (currentToken (c :: rest)).kind.continuesExpr = false by
        simp [currentToken, isClose, TokenKind.continuesExpr])
    rw [hinner]
    dsimp only
    rw [if_pos isClose]
    exact ⟨_, rfl⟩

theorem parseArguments_complete {pre rest ts : List Token} {args : List Expr} {stop : Location}
    (d : DerivesArguments pre args stop) (split : ts = pre ++ rest) :
    ∃ h, parseArguments src ts = .ok ((args, stop), ⟨rest, h⟩) := by
  match d with
  | @DerivesArguments.none o c isOpen isClose =>
    obtain rfl : ts = o :: c :: rest := by simp [split]
    rw [parseArguments, if_pos isOpen]
    rw [if_pos isClose]
    exact ⟨_, rfl⟩
  | @DerivesArguments.some o _ pre1 _ isOpen list =>
    obtain ⟨t, tail, shape, starts⟩ := list.head
    obtain rfl : ts = o :: t :: (tail ++ rest) := by simp [split, shape]
    rw [parseArguments, if_pos isOpen]
    rw [if_neg (TokenKind.ne_of_startsExpr starts)]
    obtain ⟨_, hlist⟩ := parseArgumentList_complete [] list rfl
      (show t :: (tail ++ rest) = pre1 ++ rest by simp [shape])
    rw [hlist]
    exact ⟨by simp only [List.length_cons, List.length_append]; omega, by simp⟩

/-- Arguments separated by commas up to `)`; the closing kind is a variable so
that the recursion runs on the derivation. -/
theorem parseArgumentList_complete (acc : List Expr) {close : TokenKind} {pre rest ts : List Token}
    {es : List Expr} {c : Token} (d : DerivesSeparated close pre es c) (paren : close = .rparen)
    (split : ts = pre ++ rest) :
    ∃ h, parseArgumentList src acc ts = .ok ((acc.reverse ++ es, c.span.stop), ⟨rest, h⟩) := by
  match d with
  | @DerivesSeparated.last _ pre1 e _ de isClose =>
    have isParen : c.kind = .rparen := isClose.trans paren
    rw [parseArgumentList]
    obtain ⟨_, he⟩ : ∃ h, parseExpr src ts = .ok (e, ⟨c :: rest, h⟩) :=
      parseExpr_complete de (show ts = pre1 ++ c :: rest by simp [split])
      (by simp [currentToken, isParen, TokenKind.continuesExpr])
    rw [he]
    dsimp only
    rw [if_neg (by simp [isParen]), if_pos isParen]
    exact Parse.exists_ok_congr (by simp)
  | @DerivesSeparated.more _ pre1 pre2 e _ k _ de isComma list =>
    rw [parseArgumentList]
    obtain ⟨_, he⟩ : ∃ h, parseExpr src ts = .ok (e, ⟨k :: (pre2 ++ rest), h⟩) :=
      parseExpr_complete de (show ts = pre1 ++ k :: (pre2 ++ rest) by simp [split])
      (by simp [currentToken, isComma, TokenKind.continuesExpr])
    rw [he]
    dsimp only
    rw [if_pos isComma]
    obtain ⟨_, hlist⟩ := parseArgumentList_complete (e :: acc) list paren rfl
    rw [hlist]
    exact Parse.exists_ok_congr (by simp)

theorem parseElements_complete (acc : List Expr) {pre rest ts : List Token} {es : List Expr}
    {stop : Location} (d : DerivesElements pre es stop) (split : ts = pre ++ rest) :
    ∃ h, parseElements src acc ts = .ok ((acc.reverse ++ es, stop), ⟨rest, h⟩) := by
  match d with
  | @DerivesElements.empty c isClose =>
    obtain rfl : ts = c :: rest := by simp [split]
    rw [parseElements, if_pos isClose]
    exact Parse.exists_ok_congr (by simp)
  | .some list => exact parseElements_separated acc list rfl split
  | @DerivesElements.trailing pre1 _ _ c list isClose =>
    exact parseElements_trailing acc list rfl isClose (show ts = pre1 ++ c :: rest by simp [split])

/-- Elements closed by `]` right after the last one. -/
theorem parseElements_separated (acc : List Expr) {close : TokenKind} {pre rest ts : List Token}
    {es : List Expr} {c : Token} (d : DerivesSeparated close pre es c) (bracket : close = .rbracket)
    (split : ts = pre ++ rest) :
    ∃ h, parseElements src acc ts = .ok ((acc.reverse ++ es, c.span.stop), ⟨rest, h⟩) := by
  match d with
  | @DerivesSeparated.last _ pre1 e _ de isClose =>
    have isBracket : c.kind = .rbracket := isClose.trans bracket
    obtain ⟨t, tail, shape, starts⟩ := de.head
    obtain rfl : ts = t :: (tail ++ c :: rest) := by simp [split, shape]
    exact parseElements_close (TokenKind.ne_of_startsExpr starts)
      (parseExpr_complete de (by simp [shape]) (by simp [currentToken, isBracket,
        TokenKind.continuesExpr])) isBracket
  | @DerivesSeparated.more _ pre1 pre2 e _ k _ de isComma list =>
    obtain ⟨t, tail, shape, starts⟩ := de.head
    obtain rfl : ts = t :: (tail ++ k :: (pre2 ++ rest)) := by simp [split, shape]
    exact parseElements_comma (TokenKind.ne_of_startsExpr starts)
      (parseExpr_complete de (by simp [shape]) (by simp [currentToken, isComma,
        TokenKind.continuesExpr])) isComma (parseElements_separated (e :: acc) list bracket rfl)

/-- Elements with a comma after the last one, then `]`. -/
theorem parseElements_trailing (acc : List Expr) {close : TokenKind} {pre rest ts : List Token}
    {es : List Expr} {k c : Token} (d : DerivesSeparated close pre es k) (comma : close = .comma)
    (isClose : c.kind = .rbracket) (split : ts = pre ++ c :: rest) :
    ∃ h, parseElements src acc ts = .ok ((acc.reverse ++ es, c.span.stop), ⟨rest, h⟩) := by
  match d with
  | @DerivesSeparated.last _ pre1 e _ de isComma =>
    have isComma : k.kind = .comma := isComma.trans comma
    obtain ⟨t, tail, shape, starts⟩ := de.head
    obtain rfl : ts = t :: (tail ++ k :: c :: rest) := by simp [split, shape]
    have last : ∃ h, parseElements src (e :: acc) (c :: rest) =
        .ok (((e :: acc).reverse ++ [], c.span.stop), ⟨rest, h⟩) := by
      rw [parseElements, if_pos isClose]
      exact Parse.exists_ok_congr (by simp)
    exact parseElements_comma (TokenKind.ne_of_startsExpr starts)
      (parseExpr_complete de (by simp [shape]) (by simp [currentToken, isComma,
        TokenKind.continuesExpr])) isComma last
  | @DerivesSeparated.more _ pre1 pre2 e _ k' _ de isComma list =>
    obtain ⟨t, tail, shape, starts⟩ := de.head
    obtain rfl : ts = t :: (tail ++ k' :: (pre2 ++ c :: rest)) := by simp [split, shape]
    exact parseElements_comma (TokenKind.ne_of_startsExpr starts)
      (parseExpr_complete de (by simp [shape]) (by simp [currentToken, isComma,
        TokenKind.continuesExpr])) isComma (parseElements_trailing (e :: acc) list comma isClose rfl)

end

/-! ## Tags and blocks -/

omit [src.FoldsMinus] in
/-- The loop variables up to a token that is not a comma. -/
theorem parseTargets_complete (acc : List String) {pre rest ts : List Token}
    {names : List String} (d : DerivesTargets pre names) (split : ts = pre ++ rest)
    (stop : (currentToken rest).kind ≠ .comma) :
    ∃ h, parseTargets src acc ts = .ok (acc.reverse ++ names, ⟨rest, h⟩) := by
  induction d generalizing acc ts with
  | @one t isName =>
    subst split
    cases rest with
    | nil =>
      rw [List.singleton_append, parseTargets, if_pos isName]
      exact Parse.exists_ok_congr_lt (by simp)
    | cons c more =>
      have notComma : ¬ c.kind = .comma := stop
      rw [List.singleton_append, parseTargets, if_pos isName, if_neg notComma]
      exact Parse.exists_ok_congr_lt (by simp)
  | @more t c pre1 names isName isComma _ ih =>
    subst split
    rw [List.cons_append, List.cons_append, parseTargets, if_pos isName, if_pos isComma]
    obtain ⟨_, h⟩ := ih (t.lexeme :: acc) rfl
    rw [h]
    exact Parse.exists_ok_congr_lt (by simp)

/-- The arguments of the render shorthand up to its `%>`. -/
theorem parseRenderArguments_complete (acc : List Expr) {close : TokenKind}
    {pre rest ts : List Token} {es : List Expr} {c : Token} (d : DerivesSeparated close pre es c)
    (tagEnd : close = .tagEnd) (split : ts = pre ++ rest) :
    ∃ h, parseRenderArguments src acc ts = .ok ((acc.reverse ++ es, c), ⟨rest, h⟩) := by
  match d with
  | @DerivesSeparated.last _ pre1 e _ de isClose =>
    have isEnd : c.kind = .tagEnd := isClose.trans tagEnd
    rw [parseRenderArguments]
    obtain ⟨_, he⟩ : ∃ h, parseExpr src ts = .ok (e, ⟨c :: rest, h⟩) :=
      parseExpr_complete de (show ts = pre1 ++ c :: rest by simp [split])
      (by simp [currentToken, isEnd, TokenKind.continuesExpr])
    rw [he]
    dsimp only
    rw [if_neg (by simp [isEnd]), if_pos isEnd]
    exact Parse.exists_ok_congr_lt (by simp)
  | @DerivesSeparated.more _ pre1 pre2 e _ k _ de isComma list =>
    rw [parseRenderArguments]
    obtain ⟨_, he⟩ : ∃ h, parseExpr src ts = .ok (e, ⟨k :: (pre2 ++ rest), h⟩) :=
      parseExpr_complete de (show ts = pre1 ++ k :: (pre2 ++ rest) by simp [split])
      (by simp [currentToken, isComma, TokenKind.continuesExpr])
    rw [he]
    dsimp only
    rw [if_pos isComma]
    obtain ⟨_, hlist⟩ := parseRenderArguments_complete (e :: acc) list tagEnd rfl
    rw [hlist]
    exact Parse.exists_ok_congr_lt (by simp)

/-- An expression and the `%>` after it. -/
theorem parseTagExpr_complete {pre rest ts : List Token} {e : Expr} {c : Token}
    (d : DerivesExpr pre e) (close : c.kind = .tagEnd) (split : ts = pre ++ c :: rest) :
    ∃ h, parseTagExpr src ts = .ok ((e, c), ⟨rest, h⟩) := by
  obtain ⟨_, he⟩ : ∃ h, parseExpr src ts = .ok (e, ⟨c :: rest, h⟩) := parseExpr_complete d split
    (by simp [currentToken, close, TokenKind.continuesExpr])
  rw [parseTagExpr, he]
  dsimp only
  rw [expectKind_of_kind close]
  exact Parse.exists_ok_congr_lt rfl

/-! Each block reader runs its parts one after the other; these lemmas put the
parts' results together, so that the recursion below only supplies them. -/

/-- A widened parse returns what it returned. -/
theorem Parse.exists_widen {ts us : List Token} {α : Type} {p : Parse us α} {v : α}
    {rest : List Token} (hw : us.length ≤ ts.length) (hp : ∃ h, p = .ok (v, ⟨rest, h⟩)) :
    ∃ h, p.widen hw = .ok (v, ⟨rest, h⟩) := by
  obtain ⟨_, hp⟩ := hp
  rw [hp]
  exact ⟨_, Parse.widen_ok⟩

omit [src.FoldsMinus] in
/-- An `if` block: its condition, its first body, then the rest of the block. -/
theorem parseIf_of_parts {start ifTok c closer : Token} {ts r1 r2 rest : List Token}
    {condition : Expr} {body : List Node} {n : Option Node}
    (cond : ∃ h, parseTagExpr src ts = .ok ((condition, c), ⟨r1, h⟩))
    (first : ∃ h, parseBody src ifTok "if" [] r1 = .ok ((body, closer), ⟨r2, h⟩))
    (tail : ∃ h, parseIfRest src start ifTok condition body [] closer r2 = .ok (n, ⟨rest, h⟩)) :
    ∃ h, parseIf src start ifTok ts = .ok (n, ⟨rest, h⟩) := by
  obtain ⟨_, hcond⟩ := cond
  obtain ⟨_, hfirst⟩ := first
  obtain ⟨_, htail⟩ := tail
  rw [parseIf, hcond]
  dsimp only
  rw [hfirst]
  dsimp only
  rw [htail]
  exact Parse.exists_ok_congr rfl

omit [src.FoldsMinus] in
/-- A `for` block: its variables, `in`, the iterable, the body and `end %>`. -/
theorem parseFor_of_parts {start forTok i c closer last : Token} {ts more r3 rest : List Token}
    {names : List String} {iterable : Expr} {body : List Node}
    (targets : ∃ h, parseTargets src [] ts = .ok (names, ⟨i :: more, h⟩))
    (isIn : i.kind = .inKeyword)
    (iter : ∃ h, parseTagExpr src more = .ok ((iterable, c), ⟨r3, h⟩))
    (loopBody : ∃ h, parseBody src forTok "for" [] r3 = .ok ((body, closer), ⟨last :: rest, h⟩))
    (isEnd : closer.kind = .endKeyword) (isLast : last.kind = .tagEnd) :
    ∃ h, parseFor src start forTok ts =
      .ok (some (.loop ⟨start.span.start, last.span.stop⟩ names iterable body), ⟨rest, h⟩) := by
  obtain ⟨_, htargets⟩ := targets
  obtain ⟨_, hiter⟩ := iter
  obtain ⟨_, hbody⟩ := loopBody
  rw [parseFor, htargets]
  dsimp only
  rw [expectKind_of_kind isIn]
  dsimp only
  rw [hiter]
  dsimp only
  rw [hbody]
  dsimp only
  rw [if_pos isEnd, expectKind_of_kind isLast]
  exact Parse.exists_ok_congr rfl

omit [src.FoldsMinus] in
/-- An `elsif` branch: its condition and body, then the rest of the block. -/
theorem parseIfRest_elsif {start ifTok closer c next : Token} {condition c' : Expr}
    {body nodes : List Node} {branches : List Branch} {ts r1 r2 rest : List Token}
    {n : Option Node} (isElsif : closer.kind = .elsifKeyword)
    (cond : ∃ h, parseTagExpr src ts = .ok ((c', c), ⟨r1, h⟩))
    (branch : ∃ h, parseBody src ifTok "if" [] r1 = .ok ((nodes, next), ⟨r2, h⟩))
    (tail : ∃ h, parseIfRest src start ifTok condition body
      (.mk ⟨closer.span.start, c'.span.stop⟩ c' nodes :: branches) next r2 = .ok (n, ⟨rest, h⟩)) :
    ∃ h, parseIfRest src start ifTok condition body branches closer ts = .ok (n, ⟨rest, h⟩) := by
  obtain ⟨_, hcond⟩ := cond
  obtain ⟨_, hbranch⟩ := branch
  obtain ⟨_, htail⟩ := tail
  rw [parseIfRest, if_pos isElsif, hcond]
  dsimp only
  rw [hbranch]
  dsimp only
  rw [htail]
  exact Parse.exists_ok_congr rfl

omit [src.FoldsMinus] in
/-- An `else` branch: `%>`, its body and `end %>`. -/
theorem parseIfRest_else {start ifTok closer c e' last : Token} {condition : Expr}
    {body nodes : List Node} {branches : List Branch} {more rest : List Token}
    (isElse : closer.kind = .elseKeyword) (isClose : c.kind = .tagEnd)
    (otherwise : ∃ h, parseBody src ifTok "if" [] more = .ok ((nodes, e'), ⟨last :: rest, h⟩))
    (isEnd : e'.kind = .endKeyword) (isLast : last.kind = .tagEnd) :
    ∃ h, parseIfRest src start ifTok condition body branches closer (c :: more) =
      .ok (some (.cond ⟨start.span.start, last.span.stop⟩ condition body branches.reverse
        (some nodes)), ⟨rest, h⟩) := by
  obtain ⟨_, hbody⟩ := otherwise
  have notElsif : ¬ closer.kind = .elsifKeyword := by simp [isElse]
  rw [parseIfRest, if_neg notElsif, if_pos isElse, expectKind_of_kind isClose]
  dsimp only
  rw [hbody]
  dsimp only
  rw [if_pos isEnd, expectKind_of_kind isLast]
  exact Parse.exists_ok_congr rfl

omit [src.FoldsMinus] in
/-- A body goes on past a node that does not start its closer. -/
theorem parseBody_of_node {opener t : Token} {construct : String} {acc : List Node}
    {more r rest : List Token} {n : Option Node} {v : List Node × Token}
    (notEnd : t.kind ≠ .eof)
    (notCloser : ¬ (t.kind = .blockStart ∧ (currentToken more).kind.isBlockCloser))
    (node : ∃ h, parseNode src t more = .ok (n, ⟨r, h⟩))
    (next : ∃ h, parseBody src opener construct (n.toList ++ acc) r = .ok (v, ⟨rest, h⟩)) :
    ∃ h, parseBody src opener construct acc (t :: more) = .ok (v, ⟨rest, h⟩) := by
  obtain ⟨_, hnode⟩ := node
  obtain ⟨_, hnext⟩ := next
  rw [parseBody.eq_def]
  dsimp only
  rw [if_neg notEnd, if_neg notCloser, hnode]
  dsimp only
  rw [hnext]
  exact Parse.exists_ok_congr rfl

mutual

/-- A node is read from its first token on. -/
theorem parseNode_complete {t : Token} {pre rest ts : List Token} {n : Option Node}
    (d : DerivesNode pre n) (split : t :: ts = pre ++ rest) :
    ∃ h, parseNode src t ts = .ok (n, ⟨rest, h⟩) := by
  match d with
  | @DerivesNode.text t' isText =>
    obtain ⟨rfl, rfl⟩ : t = t' ∧ ts = rest := by simpa using split
    rw [parseNode.eq_def, isText]
    exact ⟨Nat.le_refl _, rfl⟩
  | @DerivesNode.output o c pre1 e isOutput de isClose =>
    obtain ⟨rfl, rfl⟩ : t = o ∧ ts = pre1 ++ c :: rest := by simpa using split
    obtain ⟨_, he⟩ : ∃ h, parseTagExpr src (pre1 ++ c :: rest) = .ok ((e, c), ⟨rest, h⟩) :=
      parseTagExpr_complete de isClose rfl
    rw [parseNode.eq_def, isOutput]
    dsimp only
    rw [he]
    dsimp only
    exact Parse.exists_ok_congr rfl
  | @DerivesNode.rawOutput o c pre1 e isRaw de isClose =>
    obtain ⟨rfl, rfl⟩ : t = o ∧ ts = pre1 ++ c :: rest := by simpa using split
    obtain ⟨_, he⟩ : ∃ h, parseTagExpr src (pre1 ++ c :: rest) = .ok ((e, c), ⟨rest, h⟩) :=
      parseTagExpr_complete de isClose rfl
    rw [parseNode.eq_def, isRaw]
    dsimp only
    rw [he]
    dsimp only
    exact Parse.exists_ok_congr rfl
  | @DerivesNode.statement o c pre1 e isStart de isClose =>
    obtain ⟨k, tail, shape, starts⟩ := de.head
    obtain ⟨rfl, rfl⟩ : t = o ∧ ts = k :: (tail ++ c :: rest) := by simpa [shape] using split
    obtain ⟨_, he⟩ : ∃ h, parseTagExpr src (k :: (tail ++ c :: rest)) = .ok ((e, c), ⟨rest, h⟩) :=
      parseTagExpr_complete de isClose (by simp [shape])
    rw [parseNode.eq_def, isStart]
    dsimp only
    rw [if_neg (TokenKind.ne_of_startsExpr starts), if_neg (TokenKind.ne_of_startsExpr starts),
      if_neg (TokenKind.ne_of_startsExpr starts), he]
    dsimp only
    exact Parse.exists_ok_congr rfl
  | @DerivesNode.renderEmpty o c isRender isClose =>
    obtain ⟨rfl, rfl⟩ : t = o ∧ ts = c :: rest := by simpa using split
    rw [parseNode.eq_def, isRender]
    dsimp only
    rw [parseRenderShorthand, if_pos isClose]
    exact ⟨Nat.le_succ _, rfl⟩
  | @DerivesNode.render o c pre1 args isRender dargs =>
    obtain ⟨k, tail, shape, starts⟩ := dargs.head
    obtain ⟨rfl, rfl⟩ : t = o ∧ ts = k :: (tail ++ rest) := by simpa [shape] using split
    obtain ⟨_, hargs⟩ : ∃ h, parseRenderArguments src [] (k :: (tail ++ rest)) =
        .ok (([].reverse ++ args, c), ⟨rest, h⟩) :=
      parseRenderArguments_complete [] dargs rfl (by simp [shape])
    rw [parseNode.eq_def, isRender]
    dsimp only
    rw [parseRenderShorthand, if_neg (TokenKind.ne_of_startsExpr starts)]
    dsimp only
    rw [hargs]
    dsimp only
    exact Parse.exists_ok_congr rfl
  | @DerivesNode.empty o c isStart isClose =>
    obtain ⟨rfl, rfl⟩ : t = o ∧ ts = c :: rest := by simpa using split
    rw [parseNode.eq_def, isStart]
    dsimp only
    rw [if_neg (by simp [isClose]), if_neg (by simp [isClose]), if_pos isClose]
    exact ⟨Nat.le_succ _, rfl⟩
  | @DerivesNode.cond o k c last cs bs us condition body branches elseBody isStart isIf dcond
      isClose dbody dtail =>
    obtain ⟨rfl, rfl⟩ : t = o ∧ ts = k :: (cs ++ c :: (bs ++ (us ++ rest))) := by
      simpa using split
    obtain ⟨o', closer, tail, shape, isStart', closes⟩ := dtail.head
    rw [parseNode.eq_def, isStart]
    dsimp only
    rw [if_pos isIf]
    exact Parse.exists_widen _ (parseIf_of_parts (parseTagExpr_complete dcond isClose rfl)
      (parseBody_complete k "if" [] dbody isStart' closes
        (show bs ++ (us ++ rest) = bs ++ o' :: closer :: (tail ++ rest) by simp [shape]))
      (parseIfRest_complete t k condition body [] dtail
        (show o' :: closer :: (tail ++ rest) = us ++ rest by simp [shape])))
  | @DerivesNode.loop o k i c o' e' last ns cs bs names iterable body isStart isFor dtargets isIn
      diter isClose dbody isStart' isEnd isLast =>
    obtain ⟨rfl, rfl⟩ :
        t = o ∧ ts = k :: (ns ++ i :: (cs ++ c :: (bs ++ o' :: e' :: last :: rest))) := by
      simpa using split
    have notIf : ¬ k.kind = .ifKeyword := by simp [isFor]
    rw [parseNode.eq_def, isStart]
    dsimp only
    rw [if_neg notIf, if_pos isFor]
    exact Parse.exists_widen _ (parseFor_of_parts (parseTargets_complete [] dtargets rfl
        (by simp [currentToken, isIn])) isIn (parseTagExpr_complete diter isClose rfl)
      (parseBody_complete k "for" [] dbody isStart' (by simp [isEnd, TokenKind.isBlockCloser]) rfl)
      isEnd isLast)

/-- The nodes of a body up to the `<%` of its closer. -/
theorem parseBody_complete (opener : Token) (construct : String) (acc : List Node)
    {pre rest ts : List Token} {ns : List Node} {o closer : Token} (d : DerivesNodes pre ns)
    (isStart : o.kind = .blockStart) (closes : closer.kind.isBlockCloser)
    (split : ts = pre ++ o :: closer :: rest) :
    ∃ h, parseBody src opener construct acc ts = .ok ((acc.reverse ++ ns, closer), ⟨rest, h⟩) := by
  match d with
  | .nil =>
    subst split
    have notEnd : ¬ o.kind = .eof := by simp [isStart]
    have atCloser : o.kind = .blockStart ∧ (currentToken (closer :: rest)).kind.isBlockCloser :=
      ⟨isStart, closes⟩
    rw [List.nil_append, parseBody.eq_def]
    dsimp only
    rw [if_neg notEnd, if_pos atCloser]
    exact Parse.exists_ok_congr (by simp)
  | @DerivesNodes.cons pre1 pre2 n ns' first others =>
    obtain ⟨t, tail, shape, notEnd, notCloser⟩ := first.head
    obtain rfl : ts = t :: (tail ++ (pre2 ++ o :: closer :: rest)) := by simp [split, shape]
    have step := parseBody_of_node notEnd (notCloser _)
      (parseNode_complete first (show t :: (tail ++ (pre2 ++ o :: closer :: rest)) =
        pre1 ++ (pre2 ++ o :: closer :: rest) by simp [shape]))
      (parseBody_complete opener construct (n.toList ++ acc) others isStart closes rfl)
    rwa [reverse_toList_append] at step

/-- The rest of an `if` block after the closer of a body. -/
theorem parseIfRest_complete (start ifTok : Token) (condition : Expr) (body : List Node)
    (branches : List Branch) {pre rest ts : List Token} {bs : List Branch}
    {eb : Option (List Node)} {last o closer : Token} (d : DerivesIfTail pre bs eb last)
    (split : o :: closer :: ts = pre ++ rest) :
    ∃ h, parseIfRest src start ifTok condition body branches closer ts =
      .ok (some (.cond ⟨start.span.start, last.span.stop⟩ condition body (branches.reverse ++ bs) eb),
        ⟨rest, h⟩) := by
  match d with
  | @DerivesIfTail.elsif o2 k c last' cs ns us c' nodes bs' eb' isStart isElsif dcond isClose
      dnodes dtail =>
    obtain ⟨-, rfl, rfl⟩ : o = o2 ∧ closer = k ∧ ts = cs ++ c :: (ns ++ (us ++ rest)) := by
      simpa using split
    obtain ⟨o', next, tail, shape, isStart', closes⟩ := dtail.head
    have n := parseIfRest_elsif isElsif (parseTagExpr_complete dcond isClose rfl)
      (parseBody_complete ifTok "if" [] dnodes isStart' closes
        (show ns ++ (us ++ rest) = ns ++ o' :: next :: (tail ++ rest) by simp [shape]))
      (parseIfRest_complete start ifTok condition body
        (.mk ⟨closer.span.start, c'.span.stop⟩ c' nodes :: branches) dtail
        (show o' :: next :: (tail ++ rest) = us ++ rest by simp [shape]))
    simpa using n
  | @DerivesIfTail.otherwise o2 k c o' e' last' ns nodes isStart isElse isClose dnodes isStart'
      isEnd isLast =>
    obtain ⟨-, rfl, rfl⟩ : o = o2 ∧ closer = k ∧ ts = c :: (ns ++ o' :: e' :: last' :: rest) := by
      simpa using split
    simpa using parseIfRest_else isElse isClose
      (parseBody_complete ifTok "if" [] dnodes isStart' (by simp [isEnd, TokenKind.isBlockCloser])
        rfl) isEnd isLast
  | @DerivesIfTail.close o2 e' last' isStart isEnd isLast =>
    obtain ⟨-, rfl, rfl⟩ : o = o2 ∧ closer = e' ∧ ts = last' :: rest := by simpa using split
    have notElsif : ¬ closer.kind = .elsifKeyword := by simp [isEnd]
    have notElse : ¬ closer.kind = .elseKeyword := by simp [isEnd]
    rw [parseIfRest, if_neg notElsif, if_neg notElse, expectKind_of_kind isLast]
    exact Parse.exists_ok_congr (by simp)

end

/-! ## Templates -/

omit [src.FoldsMinus] in
/-- The top level goes on past a node that is not a stray closer. -/
theorem parseTopLevel_of_node {t : Token} {acc v : List Node} {more r rest : List Token}
    {n : Option Node} (notEnd : t.kind ≠ .eof)
    (notCloser : ¬ (t.kind = .blockStart ∧ (currentToken more).kind.isBlockCloser))
    (node : ∃ h, parseNode src t more = .ok (n, ⟨r, h⟩))
    (next : ∃ h, parseTopLevel src (n.toList ++ acc) r = .ok (v, ⟨rest, h⟩)) :
    ∃ h, parseTopLevel src acc (t :: more) = .ok (v, ⟨rest, h⟩) := by
  obtain ⟨_, hnode⟩ := node
  obtain ⟨_, hnext⟩ := next
  rw [parseTopLevel, if_neg notEnd, if_neg notCloser, hnode]
  dsimp only
  rw [hnext]
  exact Parse.exists_ok_congr rfl

/-- The nodes of a template up to its end token. -/
theorem parseTopLevel_complete (acc : List Node) {pre rest ts : List Token} {ns : List Node}
    (d : DerivesNodes pre ns) (split : ts = pre ++ rest)
    (stop : (currentToken rest).kind = .eof) :
    ∃ h, parseTopLevel src acc ts = .ok (acc.reverse ++ ns, ⟨rest, h⟩) := by
  match d with
  | .nil =>
    rw [split, List.nil_append]
    cases rest with
    | nil =>
      rw [parseTopLevel]
      exact Parse.exists_ok_congr (by simp)
    | cons t more =>
      rw [parseTopLevel, if_pos (show t.kind = .eof from stop)]
      exact Parse.exists_ok_congr (by simp)
  | @DerivesNodes.cons pre1 pre2 n ns' first others =>
    obtain ⟨t, tail, shape, notEnd, notCloser⟩ := first.head
    obtain rfl : ts = t :: (tail ++ (pre2 ++ rest)) := by simp [split, shape]
    have step := parseTopLevel_of_node notEnd (notCloser _)
      (parseNode_complete first (show t :: (tail ++ (pre2 ++ rest)) =
        pre1 ++ (pre2 ++ rest) by simp [shape]))
      (parseTopLevel_complete (n.toList ++ acc) others rfl stop)
    rwa [reverse_toList_append] at step

/-- A derivation of a whole template: nodes, then the end token. -/
theorem derivesTemplate_iff {ts : List Token} {nodes : List Node} :
    DerivesTemplate ts nodes ↔ ∃ pre e, ts = pre ++ [e] ∧ DerivesNodes pre nodes ∧ e.kind = .eof := by
  constructor
  · rintro ⟨d, isEnd⟩
    exact ⟨_, _, rfl, d, isEnd⟩
  · rintro ⟨pre, e, rfl, d, isEnd⟩
    exact .mk d isEnd

/-- A list whose only end token is its last is cut, by a prefix free of end
tokens followed by an end token or nothing, right before that last token. -/
theorem eq_of_append_eq_append_eof {body pre r : List Token} {last : Token}
    (noEnd : ∀ t ∈ body, t.kind ≠ .eof) (preNoEnd : ∀ t ∈ pre, t.kind ≠ .eof)
    (isEnd : last.kind = .eof) (split : body ++ [last] = pre ++ r)
    (stop : r = [] ∨ (currentToken r).kind = .eof) : pre = body ∧ r = [last] := by
  rcases List.append_eq_append_iff.1 split.symm with ⟨mid, hbody, hr⟩ | ⟨mid, hpre, hlast⟩
  · -- the cut is inside `body`: what follows it in `body` would start with an end token
    cases mid with
    | nil => simp_all
    | cons t more =>
      have end_ : t.kind = .eof := by simpa [hr, currentToken] using stop
      exact absurd end_ (noEnd t (by simp [hbody]))
  · -- the cut is after `last`: the prefix would hold the end token
    cases mid with
    | nil => simp_all
    | cons t more =>
      obtain ⟨rfl, -⟩ : last = t ∧ [] = more ++ r := by simpa using hlast
      exact absurd isEnd (preNoEnd last (by simp [hpre]))

/-- The parser accepts exactly the grammar. A list of tokens whose last token is
its only end token is read into a template exactly when the grammar derives it;
the template holds the nodes of the derivation, with the given name and text and
the span from the first token to the end. The derivation is therefore unique. -/
theorem ofTokens_eq_ok_iff {body : List Token} {last : Token} (isEnd : last.kind = .eof)
    (noEnd : ∀ t ∈ body, t.kind ≠ .eof) (source : String) (name : Option String)
    (template : Template) :
    Template.ofTokens (body ++ [last]) source name = .ok template ↔
      ∃ nodes, DerivesTemplate (body ++ [last]) nodes ∧
        template = ⟨name, nodes, ⟨(currentToken (body ++ [last])).span.start, last.span.stop⟩,
          source⟩ := by
  constructor
  · intro h
    unfold Template.ofTokens at h
    dsimp only at h
    split at h
    next => cases h
    next nodes r _ parsed =>
      cases h
      obtain ⟨pre, ns, split, d, same, stop⟩ := parseTopLevel_sound parsed
      obtain ⟨rfl, rfl⟩ := eq_of_append_eq_append_eof noEnd d.ne_eof isEnd split stop
      exact ⟨ns, .mk d isEnd, by simp [same, currentToken]⟩
  · rintro ⟨nodes, derives, rfl⟩
    obtain ⟨pre, e, split, d, -⟩ := derivesTemplate_iff.1 derives
    obtain ⟨rfl, same⟩ := List.append_inj' split rfl
    obtain rfl := List.singleton_inj.1 same
    unfold Template.ofTokens
    dsimp only
    obtain ⟨_, parsed⟩ : ∃ h, parseTopLevel { lines := Text.lineFeedLines source } []
        (body ++ [last]) = .ok ([].reverse ++ nodes, ⟨[last], h⟩) :=
      parseTopLevel_complete [] d rfl (show (currentToken [last]).kind = .eof from isEnd)
    rw [parsed]
    rfl

/-- The tokens of the page `a⏎<%= x %>`: the parser reads them into a text node and the
output of `x`, and the grammar derives exactly those nodes. -/
theorem ofTokens_eq_ok_iff_page :
    ∃ body last nodes, body = [⟨.text, .str "a\n", "a\n", ⟨⟨1, 1, 0, none⟩, ⟨2, 1, 2, none⟩⟩⟩,
        ⟨.outputStart, .str "<%=", "<%=", ⟨⟨2, 1, 2, none⟩, ⟨2, 4, 5, none⟩⟩⟩,
        ⟨.identifier, .str "x", "x", ⟨⟨2, 5, 6, none⟩, ⟨2, 6, 7, none⟩⟩⟩,
        ⟨.tagEnd, .str "%>", "%>", ⟨⟨2, 7, 8, none⟩, ⟨2, 9, 10, none⟩⟩⟩] ∧
      last = ⟨.eof, .none, "", ⟨⟨2, 9, 10, none⟩, ⟨2, 9, 10, none⟩⟩⟩ ∧
      nodes = [.text ⟨⟨1, 1, 0, none⟩, ⟨2, 1, 2, none⟩⟩ "a\n",
        .output ⟨⟨2, 1, 2, none⟩, ⟨2, 9, 10, none⟩⟩
          (.identifier ⟨⟨2, 5, 6, none⟩, ⟨2, 6, 7, none⟩⟩ "x")] ∧
      Template.ofTokens (body ++ [last]) "a\n<%= x %>" none =
        .ok ⟨none, nodes, ⟨⟨1, 1, 0, none⟩, ⟨2, 9, 10, none⟩⟩, "a\n<%= x %>"⟩ ∧
      DerivesTemplate (body ++ [last]) nodes := by
  refine ⟨_, _, _, rfl, rfl, rfl, (fun parsed => ⟨parsed, ?_⟩) (by cbv)⟩
  -- the derivation is the one the parse found
  obtain ⟨nodes, derives, same⟩ := (ofTokens_eq_ok_iff rfl (by decide) _ _ _).1 parsed
  injection same with _ sameNodes
  rw [sameNodes]
  exact derives

/-- The grammar is unambiguous: a list of tokens has at most one derivation. -/
theorem DerivesTemplate.unique {ts : List Token} {nodes nodes' : List Node}
    (d : DerivesTemplate ts nodes) (d' : DerivesTemplate ts nodes') : nodes = nodes' := by
  obtain ⟨pre, e, rfl, ns, isEnd⟩ := derivesTemplate_iff.1 d
  obtain ⟨pre', e', split, ns', -⟩ := derivesTemplate_iff.1 d'
  obtain ⟨rfl, same⟩ := List.append_inj' split rfl
  obtain rfl := List.singleton_inj.1 same
  -- both derivations are what the parser returns, on any source
  have stop : (currentToken [e]).kind = .eof := isEnd
  obtain ⟨_, parsed⟩ : ∃ h, parseTopLevel { lines := [] } [] (pre ++ [e]) = .ok ([].reverse ++ nodes, ⟨[e], h⟩) :=
    parseTopLevel_complete [] ns rfl stop
  obtain ⟨_, parsed'⟩ : ∃ h, parseTopLevel { lines := [] } [] (pre ++ [e]) =
      .ok ([].reverse ++ nodes', ⟨[e], h⟩) :=
    parseTopLevel_complete [] ns' rfl stop
  simpa using parsed.symm.trans parsed'

end Stencil
