import Stencil.Syntax.Parse

/-!
# Parsing with the minus fold turned off

The parser folds a minus in front of a number literal into the literal (`Expr.negated`):
`-5` is the literal `-5`, and `--5` the literal `5`. What a minus builds is the parse
source's `negation`; `Unfolded.parse` runs the same parser with `Expr.negate` there, the
fold turned off, so that every minus builds a negation.

`Expr.foldMinus` folds a tree's minus signs after the fact, bottom up, as the parser
folds them while it reads. The parser at a source that folds is the parser at the same
source unfolded (`ParseSource.unfolded`), then folding: function by function, by the
parser's own recursion. Main statement (`parse_eq_foldMinus`): parsing with the fold is
parsing without it, then folding. The two parsers fail on the same texts with the same
error, and read the same tokens.
-/

namespace Stencil

mutual

/-- Fold every minus in front of a number literal into the literal, bottom up. -/
def Expr.foldMinus : Expr → Expr
  | .literal span v => .literal span v
  | .identifier span name => .identifier span name
  | .list span elements => .list span (Expr.foldMinusAll elements)
  | .negate span operand => Expr.negated span operand.foldMinus
  | .compare span op left right => .compare span op left.foldMinus right.foldMinus
  | .method span object name arguments =>
    .method span object.foldMinus name (Expr.foldMinusAll arguments)
  | .position span object slot => .position span object.foldMinus slot
  | .index span object key => .index span object.foldMinus key.foldMinus
  | .call span name arguments => .call span name (Expr.foldMinusAll arguments)

/-- Fold the minus signs of expressions, each on its own. -/
def Expr.foldMinusAll : List Expr → List Expr
  | [] => []
  | e :: rest => e.foldMinus :: Expr.foldMinusAll rest

end

mutual

/-- Fold the minus signs of every expression of a node. -/
def Node.foldMinus : Node → Node
  | .text span s => .text span s
  | .output span e => .output span e.foldMinus
  | .rawOutput span e => .rawOutput span e.foldMinus
  | .statement span e => .statement span e.foldMinus
  | .cond span c body branches elseBody =>
    .cond span c.foldMinus (Node.foldMinusAll body) (Branch.foldMinusAll branches)
      (Node.foldMinusElse elseBody)
  | .loop span targets iterable body =>
    .loop span targets iterable.foldMinus (Node.foldMinusAll body)

/-- Fold the minus signs of nodes, each on its own. -/
def Node.foldMinusAll : List Node → List Node
  | [] => []
  | n :: rest => n.foldMinus :: Node.foldMinusAll rest

/-- Fold the minus signs of `elsif` branches. -/
def Branch.foldMinusAll : List Branch → List Branch
  | [] => []
  | .mk span c body :: rest => .mk span c.foldMinus (Node.foldMinusAll body) :: Branch.foldMinusAll rest

/-- Fold the minus signs of an `else` body, if there is one. -/
def Node.foldMinusElse : Option (List Node) → Option (List Node)
  | none => none
  | some nodes => some (Node.foldMinusAll nodes)

end

/-- Fold the minus signs of a template's nodes. -/
def Template.foldMinus (t : Template) : Template := { t with nodes := Node.foldMinusAll t.nodes }

/-! ## Folding after the fact -/

namespace Expr

@[simp] theorem span_negated (span : Span) (e : Expr) : (Expr.negated span e).span = span := by
  unfold negated
  split <;> rfl

/-- Folding keeps the span of an expression. -/
@[simp] theorem span_foldMinus (e : Expr) : e.foldMinus.span = e.span := by
  cases e with
  | negate span operand => exact span_negated span operand.foldMinus
  | _ => rfl

theorem foldMinusAll_eq_map (es : List Expr) : Expr.foldMinusAll es = es.map foldMinus := by
  induction es with
  | nil => rfl
  | cons e rest ih => rw [foldMinusAll, ih, List.map_cons]

end Expr

theorem Node.foldMinusAll_eq_map (ns : List Node) : Node.foldMinusAll ns = ns.map Node.foldMinus := by
  induction ns with
  | nil => rfl
  | cons n rest ih => rw [foldMinusAll, ih, List.map_cons]

/-- A parse whose result is passed through `g`, the tokens left as they are. -/
def mapParsed {ρ α β : Type} (g : β → α) : Except TemplateError (β × ρ) → Except TemplateError (α × ρ)
  | .error e => .error e
  | .ok (v, r) => .ok (g v, r)

/-! ## The parser with and without the fold -/

/-- The same text read with every minus building a negation. -/
def ParseSource.unfolded (src : ParseSource) : ParseSource := { src with negation := Expr.negate }

@[simp] theorem ParseSource.unfolded_negation (src : ParseSource) :
    src.unfolded.negation = Expr.negate := rfl

/-- A token is taken, or refused with the same error, with and without the fold: errors
name only the lines of the text. -/
@[simp] theorem expectKind_unfolded (src : ParseSource) (kind : TokenKind) (expected : String)
    (ts : List Token) : expectKind src.unfolded kind expected ts = expectKind src kind expected ts :=
  rfl

/-- Loop variables are read alike with and without the fold: no minus is among them. -/
@[simp] theorem parseTargets_unfolded (src : ParseSource) :
    ∀ (acc : List String) (ts : List Token),
      parseTargets src.unfolded acc ts = parseTargets src acc ts
  | acc, [] => by rw [parseTargets, parseTargets]; rfl
  | acc, [t] => by rw [parseTargets, parseTargets]; rfl
  | acc, t :: c :: rest => by
    rw [parseTargets, parseTargets, parseTargets_unfolded src (t.lexeme :: acc) rest]
    rfl

section Simulation

variable (src : ParseSource) [src.FoldsMinus]

-- Every lemma of the parser's recursion reaches `parseUnary`, where the source folds; the
-- linter sees only the calls a body makes by name, not those its mutual recursion makes.
set_option linter.unusedSectionVars false

mutual

theorem parseExpr_fold (ts : List Token) :
    parseExpr src ts = mapParsed Expr.foldMinus (parseExpr src.unfolded ts) := by
  rw [parseExpr, parseExpr, parsePostfix_fold ts]
  cases parsePostfix src.unfolded ts with
  | error e => rfl
  | ok p =>
    obtain ⟨left, r, hr⟩ := p
    dsimp only [mapParsed]
    rw [parseEqualityRest_fold left r]
    cases parseEqualityRest src.unfolded left r with
    | error e => rfl
    | ok q => rfl
termination_by 10 * ts.length + 7
decreasing_by all_goals omega

theorem parseEqualityRest_fold (left : Expr) (ts : List Token) :
    parseEqualityRest src left.foldMinus ts =
      mapParsed Expr.foldMinus (parseEqualityRest src.unfolded left ts) := by
  cases ts with
  | nil => rw [parseEqualityRest, parseEqualityRest]; rfl
  | cons t rest =>
    rw [parseEqualityRest, parseEqualityRest]
    by_cases test : t.kind = .eq ∨ t.kind = .ne
    · rw [if_pos test, if_pos test, parsePostfix_fold rest]
      cases parsePostfix src.unfolded rest with
      | error e => rfl
      | ok p =>
        obtain ⟨right, r, hr⟩ := p
        dsimp only [mapParsed]
        -- the comparison built from the folded operands is the folded comparison
        rw [Expr.span_foldMinus, Expr.span_foldMinus]
        rw [← Expr.foldMinus, parseEqualityRest_fold _ r]
        cases parseEqualityRest src.unfolded _ r with
        | error e => rfl
        | ok q => rfl
    · rw [if_neg test, if_neg test]
      rfl
termination_by 10 * ts.length + 6
decreasing_by all_goals (simp only [List.length_cons] at *; omega)

theorem parsePostfix_fold (ts : List Token) :
    parsePostfix src ts = mapParsed Expr.foldMinus (parsePostfix src.unfolded ts) := by
  rw [parsePostfix, parsePostfix, parseUnary_fold ts]
  cases parseUnary src.unfolded ts with
  | error e => rfl
  | ok p =>
    obtain ⟨e, r, hr⟩ := p
    dsimp only [mapParsed]
    rw [parsePostfixRest_fold e r]
    cases parsePostfixRest src.unfolded e r with
    | error e => rfl
    | ok q => rfl
termination_by 10 * ts.length + 5
decreasing_by all_goals omega

theorem parsePostfixRest_fold (e : Expr) (ts : List Token) :
    parsePostfixRest src e.foldMinus ts =
      mapParsed Expr.foldMinus (parsePostfixRest src.unfolded e ts) := by
  cases ts with
  | nil => rw [parsePostfixRest, parsePostfixRest]; rfl
  | cons t rest =>
    rw [parsePostfixRest.eq_def, parsePostfixRest.eq_def]
    dsimp only
    by_cases dot : t.kind = .dot
    · rw [if_pos dot, if_pos dot]
      cases rest with
      | nil => rfl
      | cons i rest2 =>
        dsimp only
        by_cases int : i.kind = .intLiteral
        · rw [if_pos int, if_pos int, Expr.span_foldMinus, ← Expr.foldMinus,
            parsePostfixRest_fold _ rest2]
          cases parsePostfixRest src.unfolded _ rest2 with
          | error err => rfl
          | ok q => rfl
        · rw [if_neg int, if_neg int]
          by_cases name : i.kind = .identifier
          · rw [if_pos name, if_pos name]
            by_cases call : (currentToken rest2).kind = .lparen
            · rw [if_pos call, if_pos call, parseArguments_fold rest2]
              cases parseArguments src.unfolded rest2 with
              | error err => rfl
              | ok p =>
                obtain ⟨⟨args, stop⟩, r, hr⟩ := p
                dsimp only [mapParsed]
                rw [Expr.span_foldMinus, ← Expr.foldMinus, parsePostfixRest_fold _ r]
                cases parsePostfixRest src.unfolded _ r with
                | error err => rfl
                | ok q => rfl
            · rw [if_neg call, if_neg call, Expr.span_foldMinus]
              have folded := parsePostfixRest_fold (.method ⟨e.span.start, i.span.stop⟩ e i.lexeme []) rest2
              rw [Expr.foldMinus, Expr.foldMinusAll] at folded
              rw [folded]
              cases parsePostfixRest src.unfolded _ rest2 with
              | error err => rfl
              | ok q => rfl
          · rw [if_neg name, if_neg name]
            rfl
    · rw [if_neg dot, if_neg dot]
      by_cases open_ : t.kind = .lbracket
      · rw [if_pos open_, if_pos open_, parseExpr_fold rest]
        cases parseExpr src.unfolded rest with
        | error err => rfl
        | ok p =>
          obtain ⟨index, r, hr⟩ := p
          dsimp only [mapParsed]
          cases r with
          | nil => rfl
          | cons c r2 =>
            dsimp only
            by_cases close : c.kind = .rbracket
            · rw [if_pos close, if_pos close, Expr.span_foldMinus, ← Expr.foldMinus,
                parsePostfixRest_fold _ r2]
              cases parsePostfixRest src.unfolded _ r2 with
              | error err => rfl
              | ok q => rfl
            · rw [if_neg close, if_neg close]
              rfl
      · rw [if_neg open_, if_neg open_]
        rfl
termination_by 10 * ts.length + 4
decreasing_by all_goals (simp only [List.length_cons] at *; omega)

theorem parseUnary_fold (ts : List Token) :
    parseUnary src ts = mapParsed Expr.foldMinus (parseUnary src.unfolded ts) := by
  cases ts with
  | nil => rw [parseUnary, parseUnary, parsePrimary_fold []]
  | cons t rest =>
    rw [parseUnary, parseUnary]
    by_cases minus : t.kind = .minus
    · rw [if_pos minus, if_pos minus, parseUnary_fold rest]
      cases parseUnary src.unfolded rest with
      | error e => rfl
      | ok p =>
        obtain ⟨operand, r, hr⟩ := p
        -- the one place the two parsers differ: a fold now, a negation folded later
        dsimp only [mapParsed]
        rw [ParseSource.FoldsMinus.negation_eq, ParseSource.unfolded_negation, Expr.span_foldMinus,
          Expr.foldMinus]
    · rw [if_neg minus, if_neg minus, parsePrimary_fold (t :: rest)]
termination_by 10 * ts.length + 3
decreasing_by all_goals (simp only [List.length_cons, List.length_nil] at *; omega)

theorem parsePrimary_fold (ts : List Token) :
    parsePrimary src ts = mapParsed Expr.foldMinus (parsePrimary src.unfolded ts) := by
  cases ts with
  | nil => rw [parsePrimary, parsePrimary]; rfl
  | cons t rest =>
    rw [parsePrimary, parsePrimary]
    cases literalOf t with
    | some lit => rfl
    | none =>
      dsimp only
      by_cases name : t.kind = .identifier
      · rw [if_pos name, if_pos name]
        by_cases call : (currentToken rest).kind = .lparen
        · rw [if_pos call, if_pos call, parseArguments_fold rest]
          cases parseArguments src.unfolded rest with
          | error e => rfl
          | ok p =>
            obtain ⟨⟨args, stop⟩, r, hr⟩ := p
            dsimp only [mapParsed]
            rw [Expr.foldMinus, Expr.foldMinusAll_eq_map]
        · rw [if_neg call, if_neg call]
          rfl
      · rw [if_neg name, if_neg name]
        by_cases open_ : t.kind = .lbracket
        · have elements : parseElements src [] rest =
              mapParsed (fun p => (Expr.foldMinusAll p.1, p.2)) (parseElements src.unfolded [] rest) :=
            parseElements_fold [] rest
          rw [if_pos open_, if_pos open_, elements]
          cases parseElements src.unfolded [] rest with
          | error e => rfl
          | ok p =>
            obtain ⟨⟨elements, stop⟩, r, hr⟩ := p
            dsimp only [mapParsed]
            rw [Expr.foldMinus]
        · rw [if_neg open_, if_neg open_]
          by_cases group : t.kind = .lparen
          · rw [if_pos group, if_pos group, parseExpr_fold rest]
            cases parseExpr src.unfolded rest with
            | error e => rfl
            | ok p =>
              obtain ⟨e, r, hr⟩ := p
              dsimp only [mapParsed]
              cases r with
              | nil => rfl
              | cons c r2 =>
                dsimp only
                by_cases close : c.kind = .rparen
                · rw [if_pos close, if_pos close]
                · rw [if_neg close, if_neg close]
                  rfl
          · rw [if_neg group, if_neg group]
            rfl
termination_by 10 * ts.length + 2
decreasing_by all_goals (simp only [List.length_cons] at *; omega)

theorem parseArguments_fold (ts : List Token) :
    parseArguments src ts =
      mapParsed (fun p => (Expr.foldMinusAll p.1, p.2)) (parseArguments src.unfolded ts) := by
  cases ts with
  | nil => rw [parseArguments, parseArguments]; rfl
  | cons t rest =>
    rw [parseArguments.eq_def, parseArguments.eq_def]
    dsimp only
    by_cases open_ : t.kind = .lparen
    · rw [if_pos open_, if_pos open_]
      cases rest with
      | nil =>
        dsimp only
        have arguments : parseArgumentList src [] [] =
            mapParsed (fun p => (Expr.foldMinusAll p.1, p.2)) (parseArgumentList src.unfolded [] []) :=
          parseArgumentList_fold [] []
        rw [arguments]
        cases parseArgumentList src.unfolded [] [] with
        | error e => rfl
        | ok p => rfl
      | cons c r2 =>
        dsimp only
        by_cases close : c.kind = .rparen
        · rw [if_pos close, if_pos close]
          rfl
        · have arguments : parseArgumentList src [] (c :: r2) =
              mapParsed (fun p => (Expr.foldMinusAll p.1, p.2))
                (parseArgumentList src.unfolded [] (c :: r2)) :=
            parseArgumentList_fold [] (c :: r2)
          rw [if_neg close, if_neg close, arguments]
          cases parseArgumentList src.unfolded [] (c :: r2) with
          | error e => rfl
          | ok p => rfl
    · rw [if_neg open_, if_neg open_]
      rfl
termination_by 10 * ts.length + 1
decreasing_by all_goals (simp only [List.length_cons] at *; omega)

theorem parseArgumentList_fold (acc : List Expr) (ts : List Token) :
    parseArgumentList src (Expr.foldMinusAll acc) ts =
      mapParsed (fun p => (Expr.foldMinusAll p.1, p.2)) (parseArgumentList src.unfolded acc ts) := by
  rw [parseArgumentList, parseArgumentList, parseExpr_fold ts]
  cases parseExpr src.unfolded ts with
  | error e => rfl
  | ok p =>
    obtain ⟨e, r, hr⟩ := p
    dsimp only [mapParsed]
    cases r with
    | nil => rfl
    | cons c r2 =>
      dsimp only
      by_cases comma : c.kind = .comma
      · rw [if_pos comma, if_pos comma, ← Expr.foldMinusAll, parseArgumentList_fold _ r2]
        cases parseArgumentList src.unfolded _ r2 with
        | error err => rfl
        | ok q => rfl
      · rw [if_neg comma, if_neg comma]
        by_cases close : c.kind = .rparen
        · rw [if_pos close, if_pos close]
          simp only [Expr.foldMinusAll_eq_map, List.map_reverse, List.map_cons]
        · rw [if_neg close, if_neg close]
          rfl
termination_by 10 * ts.length + 8
decreasing_by all_goals (simp only [List.length_cons] at *; omega)

theorem parseElements_fold (acc : List Expr) (ts : List Token) :
    parseElements src (Expr.foldMinusAll acc) ts =
      mapParsed (fun p => (Expr.foldMinusAll p.1, p.2)) (parseElements src.unfolded acc ts) := by
  cases ts with
  | nil =>
    rw [parseElements, parseElements, parseExpr_fold []]
    cases parseExpr src.unfolded [] with
    | error e => rfl
    | ok p => rfl
  | cons c rest =>
    rw [parseElements, parseElements]
    by_cases close : c.kind = .rbracket
    · rw [if_pos close, if_pos close]
      simp only [mapParsed, Expr.foldMinusAll_eq_map, List.map_reverse]
    · rw [if_neg close, if_neg close, parseExpr_fold (c :: rest)]
      cases parseExpr src.unfolded (c :: rest) with
      | error e => rfl
      | ok p =>
        obtain ⟨e, r, hr⟩ := p
        dsimp only [mapParsed]
        cases r with
        | nil => rfl
        | cons d r2 =>
          dsimp only
          by_cases comma : d.kind = .comma
          · rw [if_pos comma, if_pos comma, ← Expr.foldMinusAll, parseElements_fold _ r2]
            cases parseElements src.unfolded _ r2 with
            | error err => rfl
            | ok q => rfl
          · rw [if_neg comma, if_neg comma]
            by_cases last : d.kind = .rbracket
            · rw [if_pos last, if_pos last]
              simp only [Expr.foldMinusAll_eq_map, List.map_reverse, List.map_cons]
            · rw [if_neg last, if_neg last]
              rfl
termination_by 10 * ts.length + 9
decreasing_by all_goals (simp only [List.length_cons] at *; omega)

end

theorem parseRenderArguments_fold (acc : List Expr) (ts : List Token) :
    parseRenderArguments src (Expr.foldMinusAll acc) ts =
      mapParsed (fun p => (Expr.foldMinusAll p.1, p.2)) (parseRenderArguments src.unfolded acc ts) := by
  rw [parseRenderArguments, parseRenderArguments, parseExpr_fold src ts]
  cases parseExpr src.unfolded ts with
  | error e => rfl
  | ok p =>
    obtain ⟨e, r, hr⟩ := p
    dsimp only [mapParsed]
    cases r with
    | nil => rfl
    | cons c r2 =>
      dsimp only
      by_cases comma : c.kind = .comma
      · rw [if_pos comma, if_pos comma, ← Expr.foldMinusAll, parseRenderArguments_fold _ r2]
        cases parseRenderArguments src.unfolded _ r2 with
        | error err => rfl
        | ok q => rfl
      · rw [if_neg comma, if_neg comma]
        by_cases close : c.kind = .tagEnd
        · rw [if_pos close, if_pos close]
          simp only [Expr.foldMinusAll_eq_map, List.map_reverse, List.map_cons]
        · rw [if_neg close, if_neg close]
          rfl
termination_by ts.length
decreasing_by simp at hr; omega

theorem parseRenderShorthand_fold (start : Token) (ts : List Token) :
    parseRenderShorthand src start ts =
      mapParsed (Option.map Node.foldMinus) (parseRenderShorthand src.unfolded start ts) := by
  cases ts with
  | nil => rfl
  | cons t rest =>
    rw [parseRenderShorthand, parseRenderShorthand]
    dsimp only
    by_cases close : t.kind = .tagEnd
    · rw [if_pos close, if_pos close]
      rfl
    · have arguments : parseRenderArguments src [] (t :: rest) =
          mapParsed (fun p => (Expr.foldMinusAll p.1, p.2))
            (parseRenderArguments src.unfolded [] (t :: rest)) :=
        parseRenderArguments_fold src [] (t :: rest)
      rw [if_neg close, if_neg close, arguments]
      cases parseRenderArguments src.unfolded [] (t :: rest) with
      | error e => rfl
      | ok p => rfl

theorem parseTagExpr_fold (ts : List Token) :
    parseTagExpr src ts = mapParsed (fun p => (p.1.foldMinus, p.2)) (parseTagExpr src.unfolded ts) := by
  rw [parseTagExpr, parseTagExpr, parseExpr_fold src ts]
  cases parseExpr src.unfolded ts with
  | error e => rfl
  | ok p =>
    obtain ⟨e, r, hr⟩ := p
    dsimp only [mapParsed]
    rw [expectKind_unfolded]
    cases expectKind src .tagEnd "'%>'" r with
    | error err => rfl
    | ok q => rfl

theorem Parse.widen_mapParsed {ts us : List Token} {α β : Type} (g : β → α) (p : Parse us β)
    (h : us.length ≤ ts.length) : Parse.widen (mapParsed g p) h = mapParsed g (p.widen h) := by
  cases p <;> rfl

theorem Node.foldMinusAll_append (a b : List Node) :
    Node.foldMinusAll (a ++ b) = Node.foldMinusAll a ++ Node.foldMinusAll b := by
  simp only [Node.foldMinusAll_eq_map, List.map_append]

theorem Node.foldMinusAll_toList_append (n : Option Node) (acc : List Node) :
    Node.foldMinusAll (n.toList ++ acc) = (n.map Node.foldMinus).toList ++ Node.foldMinusAll acc := by
  cases n <;> rfl

theorem Node.foldMinusAll_reverse (ns : List Node) :
    Node.foldMinusAll ns.reverse = (Node.foldMinusAll ns).reverse := by
  simp only [Node.foldMinusAll_eq_map, List.map_reverse]

theorem Branch.foldMinusAll_reverse (bs : List Branch) :
    Branch.foldMinusAll bs.reverse = (Branch.foldMinusAll bs).reverse := by
  -- one branch at a time: folding a list put together is folding its parts
  have append : ∀ a b : List Branch,
      Branch.foldMinusAll (a ++ b) = Branch.foldMinusAll a ++ Branch.foldMinusAll b := by
    intro a b
    induction a with
    | nil => rfl
    | cons x rest ih =>
      obtain ⟨span, c, body⟩ := x
      rw [List.cons_append, Branch.foldMinusAll, Branch.foldMinusAll, ih, List.cons_append]
  induction bs with
  | nil => rfl
  | cons x rest ih =>
    obtain ⟨span, c, body⟩ := x
    rw [List.reverse_cons, append, ih]
    simp only [Branch.foldMinusAll, List.reverse_cons]

mutual

theorem parseBody_fold (opener : Token) (construct : String) (acc : List Node) (ts : List Token) :
    parseBody src opener construct (Node.foldMinusAll acc) ts =
      mapParsed (fun p => (Node.foldMinusAll p.1, p.2))
        (parseBody src.unfolded opener construct acc ts) := by
  rw [parseBody.eq_def, parseBody.eq_def]
  cases ts with
  | nil => rfl
  | cons t rest =>
    dsimp only
    by_cases stop : t.kind = .eof
    · rw [if_pos stop, if_pos stop]
      rfl
    · rw [if_neg stop, if_neg stop]
      by_cases closer : t.kind = .blockStart ∧ (currentToken rest).kind.isBlockCloser
      · rw [if_pos closer, if_pos closer]
        cases rest with
        | nil => simp only [mapParsed, Node.foldMinusAll_reverse]
        | cons k r2 => simp only [mapParsed, Node.foldMinusAll_reverse]
      · rw [if_neg closer, if_neg closer, parseNode_fold t rest]
        cases parseNode src.unfolded t rest with
        | error e => rfl
        | ok p =>
          obtain ⟨n, r, hr⟩ := p
          dsimp only [mapParsed]
          rw [← Node.foldMinusAll_toList_append, parseBody_fold opener construct _ r]
          cases parseBody src.unfolded opener construct (n.toList ++ acc) r with
          | error e => rfl
          | ok q => rfl
termination_by 10 * ts.length + 1
decreasing_by all_goals (simp only [List.length_cons] at *; omega)

theorem parseNode_fold (t : Token) (rest : List Token) :
    parseNode src t rest = mapParsed (Option.map Node.foldMinus) (parseNode src.unfolded t rest) := by
  rw [parseNode.eq_def, parseNode.eq_def]
  cases kind : t.kind
  case outputStart | rawOutputStart =>
    dsimp only
    rw [parseTagExpr_fold src rest]
    cases parseTagExpr src.unfolded rest with
    | error e => rfl
    | ok p => rfl
  case renderStart => exact parseRenderShorthand_fold src t rest
  case blockStart =>
    dsimp only
    cases rest with
    | nil =>
      dsimp only
      rw [parseTagExpr_fold src []]
      cases parseTagExpr src.unfolded [] with
      | error e => rfl
      | ok p =>
        obtain ⟨v, r, hr⟩ := p
        exact absurd hr (by simp)
    | cons k r2 =>
      dsimp only
      by_cases isIf : k.kind = .ifKeyword
      · rw [if_pos isIf, if_pos isIf, parseIf_fold t k r2, Parse.widen_mapParsed]
      · rw [if_neg isIf, if_neg isIf]
        by_cases isFor : k.kind = .forKeyword
        · rw [if_pos isFor, if_pos isFor, parseFor_fold t k r2, Parse.widen_mapParsed]
        · rw [if_neg isFor, if_neg isFor]
          by_cases empty : k.kind = .tagEnd
          · rw [if_pos empty, if_pos empty]
            rfl
          · rw [if_neg empty, if_neg empty, parseTagExpr_fold src (k :: r2)]
            cases parseTagExpr src.unfolded (k :: r2) with
            | error e => rfl
            | ok p => rfl
  all_goals rfl
termination_by 10 * rest.length + 9
decreasing_by all_goals (simp only [List.length_cons] at *; omega)

theorem parseIf_fold (start ifTok : Token) (ts : List Token) :
    parseIf src start ifTok ts =
      mapParsed (Option.map Node.foldMinus) (parseIf src.unfolded start ifTok ts) := by
  rw [parseIf, parseIf, parseTagExpr_fold src ts]
  cases parseTagExpr src.unfolded ts with
  | error e => rfl
  | ok p =>
    obtain ⟨⟨condition, close⟩, r, hr⟩ := p
    dsimp only [mapParsed]
    have body := parseBody_fold ifTok "if" [] r
    rw [Node.foldMinusAll] at body
    rw [body]
    cases parseBody src.unfolded ifTok "if" [] r with
    | error e => rfl
    | ok q =>
      obtain ⟨⟨nodes, closer⟩, r2, hr2⟩ := q
      dsimp only [mapParsed]
      have tail := parseIfRest_fold start ifTok condition nodes [] closer r2
      rw [Branch.foldMinusAll] at tail
      rw [tail]
      cases parseIfRest src.unfolded start ifTok condition nodes [] closer r2 with
      | error e => rfl
      | ok s => rfl
termination_by 10 * ts.length + 9
decreasing_by all_goals omega

theorem parseIfRest_fold (start ifTok : Token) (condition : Expr) (body : List Node)
    (branches : List Branch) (closer : Token) (ts : List Token) :
    parseIfRest src start ifTok condition.foldMinus (Node.foldMinusAll body)
        (Branch.foldMinusAll branches) closer ts =
      mapParsed (Option.map Node.foldMinus)
        (parseIfRest src.unfolded start ifTok condition body branches closer ts) := by
  rw [parseIfRest, parseIfRest]
  simp only [expectKind_unfolded]
  by_cases elsif : closer.kind = .elsifKeyword
  · rw [if_pos elsif, if_pos elsif, parseTagExpr_fold src ts]
    cases parseTagExpr src.unfolded ts with
    | error e => rfl
    | ok p =>
      obtain ⟨⟨c, close⟩, r, hr⟩ := p
      dsimp only [mapParsed]
      have nodes := parseBody_fold ifTok "if" [] r
      rw [Node.foldMinusAll] at nodes
      rw [nodes]
      cases parseBody src.unfolded ifTok "if" [] r with
      | error e => rfl
      | ok q =>
        obtain ⟨⟨ns, next⟩, r2, hr2⟩ := q
        dsimp only [mapParsed]
        -- the branch built from the folded condition and body is the folded branch
        rw [Expr.span_foldMinus, ← Branch.foldMinusAll,
          parseIfRest_fold start ifTok condition body _ next r2]
        cases parseIfRest src.unfolded start ifTok condition body _ next r2 with
        | error e => rfl
        | ok s => rfl
  · rw [if_neg elsif, if_neg elsif]
    by_cases otherwise : closer.kind = .elseKeyword
    · rw [if_pos otherwise, if_pos otherwise]
      cases expectKind src .tagEnd "'%>'" ts with
      | error e => rfl
      | ok p =>
        obtain ⟨close, r, hr⟩ := p
        dsimp only
        have elseNodes := parseBody_fold ifTok "if" [] r
        rw [Node.foldMinusAll] at elseNodes
        rw [elseNodes]
        cases parseBody src.unfolded ifTok "if" [] r with
        | error e => rfl
        | ok q =>
          obtain ⟨⟨elseBody, last⟩, r2, hr2⟩ := q
          dsimp only [mapParsed]
          by_cases ends : last.kind = .endKeyword
          · rw [if_pos ends, if_pos ends]
            cases expectKind src .tagEnd "'%>'" r2 with
            | error e => rfl
            | ok s =>
              simp only [Option.map_some, Node.foldMinus, Branch.foldMinusAll_reverse,
                Node.foldMinusElse]
          · rw [if_neg ends, if_neg ends]
            rfl
    · rw [if_neg otherwise, if_neg otherwise]
      cases expectKind src .tagEnd "'%>'" ts with
      | error e => rfl
      | ok p => simp only [mapParsed, Option.map_some, Node.foldMinus, Branch.foldMinusAll_reverse,
          Node.foldMinusElse]
termination_by 10 * ts.length + 8
decreasing_by all_goals omega

theorem parseFor_fold (start forTok : Token) (ts : List Token) :
    parseFor src start forTok ts =
      mapParsed (Option.map Node.foldMinus) (parseFor src.unfolded start forTok ts) := by
  rw [parseFor, parseFor]
  simp only [expectKind_unfolded, parseTargets_unfolded]
  cases parseTargets src [] ts with
  | error e => rfl
  | ok p =>
    obtain ⟨targets, r, hr⟩ := p
    dsimp only
    cases expectKind src .inKeyword "'in'" r with
    | error e => rfl
    | ok q =>
      obtain ⟨_, r2, hr2⟩ := q
      dsimp only
      rw [parseTagExpr_fold src r2]
      cases parseTagExpr src.unfolded r2 with
      | error e => rfl
      | ok s =>
        obtain ⟨⟨iterable, close⟩, r3, hr3⟩ := s
        dsimp only [mapParsed]
        have body := parseBody_fold forTok "for" [] r3
        rw [Node.foldMinusAll] at body
        rw [body]
        cases parseBody src.unfolded forTok "for" [] r3 with
        | error e => rfl
        | ok u =>
          obtain ⟨⟨nodes, closer⟩, r4, hr4⟩ := u
          dsimp only [mapParsed]
          by_cases ends : closer.kind = .endKeyword
          · rw [if_pos ends, if_pos ends]
            cases expectKind src .tagEnd "'%>'" r4 with
            | error e => rfl
            | ok w => simp only [Option.map_some, Node.foldMinus]
          · rw [if_neg ends, if_neg ends]
            rfl
termination_by 10 * ts.length + 9
decreasing_by all_goals omega

end

theorem parseTopLevel_fold (acc : List Node) (ts : List Token) :
    parseTopLevel src (Node.foldMinusAll acc) ts =
      mapParsed Node.foldMinusAll (parseTopLevel src.unfolded acc ts) := by
  cases ts with
  | nil => simp only [parseTopLevel, parseTopLevel, mapParsed, Node.foldMinusAll_reverse]
  | cons t rest =>
    rw [parseTopLevel, parseTopLevel]
    by_cases stop : t.kind = .eof
    · rw [if_pos stop, if_pos stop]
      simp only [mapParsed, Node.foldMinusAll_reverse]
    · rw [if_neg stop, if_neg stop]
      by_cases stray : t.kind = .blockStart ∧ (currentToken rest).kind.isBlockCloser
      · rw [if_pos stray, if_pos stray]
        rfl
      · rw [if_neg stray, if_neg stray, parseNode_fold src t rest]
        cases parseNode src.unfolded t rest with
        | error e => rfl
        | ok p =>
          obtain ⟨n, r, hr⟩ := p
          dsimp only [mapParsed]
          rw [← Node.foldMinusAll_toList_append, parseTopLevel_fold _ r]
          cases parseTopLevel src.unfolded (n.toList ++ acc) r with
          | error e => rfl
          | ok q => rfl
termination_by ts.length
decreasing_by simp only [List.length_cons]; omega

end Simulation

/-- Reading tokens with the fold is reading them without it, then folding. -/
theorem ofTokens_eq_foldMinus (tokens : List Token) (source : String) (name : Option String) :
    Template.ofTokens tokens source name =
      (Unfolded.ofTokens tokens source name).map Template.foldMinus := by
  unfold Unfolded.ofTokens Template.ofTokens
  dsimp only
  have top : parseTopLevel { lines := Text.lineFeedLines source } [] tokens =
      mapParsed Node.foldMinusAll
        (parseTopLevel { lines := Text.lineFeedLines source, negation := Expr.negate } [] tokens) :=
    parseTopLevel_fold _ [] tokens
  rw [top]
  cases parseTopLevel { lines := Text.lineFeedLines source, negation := Expr.negate } [] tokens with
  | error e => rfl
  | ok p => rfl

/-- Parsing a text with the fold is parsing it without the fold, then folding: the two
parsers fail on the same texts, with the same failure, and read the same tokens. -/
theorem parse_eq_foldMinus (source : String) (name : Option String) :
    Template.parse source name = (Unfolded.parse source name).map Template.foldMinus := by
  unfold Unfolded.parse Template.parse
  cases Token.scan source name with
  | error e => rfl
  | ok tokens =>
    dsimp only
    rw [ofTokens_eq_foldMinus, Unfolded.ofTokens]
    cases Template.ofTokens tokens source name Expr.negate with
    | error e => rfl
    | ok t => rfl

end Stencil
