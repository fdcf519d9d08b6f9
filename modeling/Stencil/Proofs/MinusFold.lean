import Stencil.Proofs.UnfoldedParse
import Stencil.Proofs.ParserSound
import Stencil.Proofs.ScanTiling
import Stencil.Proofs.RenderInduction

/-!
# Folding a minus into a literal keeps the meaning

The parser folds a minus in front of a number literal into the literal; the render
negates everything else when it evaluates it. `Template.parse` is `Unfolded.parse`
followed by `Template.foldMinus` (`parse_eq_foldMinus`), so the two parsers accept the
same texts and fail with the same errors. What is left is that the folded tree renders
as the unfolded one.

For a float literal the two agree always. For an integer literal `n` they agree when
`n` and `-n` both fit in 64 bits: the render reads `n` before it negates it, and fails
if `n` does not fit, where the fold reads `-n` alone. So the argument rests on a bound
(`Expr.intsWithin`): every integer literal of a tree is within `Value.maxInt` of zero.
It holds of every parsed tree because the scanner reads no integer literal above
`Value.maxInt`, and minus signs only change the sign of a literal.

Main statement (`parse_unfolded_agree`): the two parsers succeed on the same texts and
fail on them with the same error, every integer literal of the parsed tree is within
bounds, and the two trees render alike for every renderer and host bindings.
-/

namespace Stencil

/-! ## Literals within bounds -/

/-- Whether a literal is within `Value.maxInt` of zero, so that it and its negation
both fit in 64 bits; a literal that is not an integer always is. -/
def Literal.withinMaxInt : Literal → Bool
  | .int n => decide (-Value.maxInt ≤ n ∧ n ≤ Value.maxInt)
  | _ => true

mutual

/-- Whether every literal of an expression is within `Value.maxInt` of zero. -/
def Expr.intsWithin : Expr → Bool
  | .literal _ v => v.withinMaxInt
  | .identifier _ _ => true
  | .list _ elements => Expr.intsWithinAll elements
  | .negate _ operand => operand.intsWithin
  | .compare _ _ left right => left.intsWithin && right.intsWithin
  | .method _ object _ arguments => object.intsWithin && Expr.intsWithinAll arguments
  | .position _ object _ => object.intsWithin
  | .index _ object key => object.intsWithin && key.intsWithin
  | .call _ _ arguments => Expr.intsWithinAll arguments

/-- Whether every literal of some expressions is within `Value.maxInt` of zero. -/
def Expr.intsWithinAll : List Expr → Bool
  | [] => true
  | e :: rest => e.intsWithin && Expr.intsWithinAll rest

end

mutual

/-- Whether every literal of a node's expressions is within `Value.maxInt` of zero. -/
def Node.intsWithin : Node → Bool
  | .text _ _ => true
  | .output _ e => e.intsWithin
  | .rawOutput _ e => e.intsWithin
  | .statement _ e => e.intsWithin
  | .cond _ c body branches elseBody =>
    c.intsWithin && Node.intsWithinAll body && Branch.intsWithinAll branches &&
      Node.intsWithinElse elseBody
  | .loop _ _ iterable body => iterable.intsWithin && Node.intsWithinAll body

/-- `Node.intsWithin` of every node. -/
def Node.intsWithinAll : List Node → Bool
  | [] => true
  | n :: rest => n.intsWithin && Node.intsWithinAll rest

/-- `Node.intsWithin` of every condition and body of `elsif` branches. -/
def Branch.intsWithinAll : List Branch → Bool
  | [] => true
  | .mk _ c body :: rest => c.intsWithin && Node.intsWithinAll body && Branch.intsWithinAll rest

/-- `Node.intsWithin` of an `else` body, if there is one. -/
def Node.intsWithinElse : Option (List Node) → Bool
  | none => true
  | some nodes => Node.intsWithinAll nodes

end

/-- Whether every literal of a template is within `Value.maxInt` of zero. -/
def Template.intsWithin (t : Template) : Bool := Node.intsWithinAll t.nodes

theorem Value.maxInt_eq : Value.maxInt = 9223372036854775807 := by decide

theorem Value.minInt_eq : Value.minInt = -9223372036854775808 := by decide

/-- An integer within `Value.maxInt` of zero fits in 64 bits. -/
theorem Value.fitsInt_of_withinMaxInt {n : Int} (h : (Literal.int n).withinMaxInt) :
    Value.fitsInt n := by
  simp only [Literal.withinMaxInt, decide_eq_true_eq, Value.maxInt_eq] at h
  simp only [Value.fitsInt, decide_eq_true_eq, Value.minInt_eq, Value.maxInt_eq]
  omega

/-- The bound is symmetric: a minus keeps an expression within it. -/
theorem Expr.intsWithin_negated {x : Expr} (span : Span) (h : x.intsWithin) :
    (x.negated span).intsWithin := by
  cases x with
  | literal s v =>
    cases v with
    | int n =>
      simp only [Expr.intsWithin, Literal.withinMaxInt, decide_eq_true_eq] at h
      simp only [Expr.negated, Expr.intsWithin, Literal.withinMaxInt, decide_eq_true_eq]
      omega
    | _ => exact h
  | _ => exact h

/-- What a minus is put in front of is within the bound when the result is. -/
theorem Expr.intsWithin_of_negated {x : Expr} {span : Span} (h : (x.negated span).intsWithin) :
    x.intsWithin := by
  cases x with
  | literal s v =>
    cases v with
    | int n =>
      simp only [Expr.negated, Expr.intsWithin, Literal.withinMaxInt, decide_eq_true_eq] at h
      simp only [Expr.intsWithin, Literal.withinMaxInt, decide_eq_true_eq]
      omega
    | _ => rfl
  | _ => exact h

theorem Node.intsWithinAll_append (a b : List Node) :
    Node.intsWithinAll (a ++ b) = (Node.intsWithinAll a && Node.intsWithinAll b) := by
  induction a with
  | nil => rfl
  | cons n rest ih => rw [List.cons_append, Node.intsWithinAll, Node.intsWithinAll, ih,
      Bool.and_assoc]

/-! ## The folded tree renders as the unfolded one -/

namespace Renderer

variable (r : Renderer) (host : HostBindings)

section Expressions

variable (f : Frame)

/-- A minus folded into a literal evaluates as the negation of the literal, when the
folded literal is within bounds: the literal's own value then fits too, and negating
it gives the folded value. -/
theorem eval_negated (span : Span) (x : Expr) (bounded : (x.negated span).intsWithin) :
    r.eval host f (x.negated span) = r.eval host f (.negate span x) := by
  cases x with
  | literal s v =>
    cases v with
    | int n =>
      have fits : Value.fitsInt n :=
        Value.fitsInt_of_withinMaxInt (Expr.intsWithin_of_negated bounded)
      rw [Expr.negated, eval, eval, eval]
      simp only [Literal.toValue, Value.ofInt?, fits, if_true, Except.mapError, locate, Value.negate]
    | float x => rw [Expr.negated, eval, eval, eval]; rfl
    | _ => rfl
  | _ => rfl

end Expressions

/-- Folding the minus signs of a tree within bounds keeps what every part of it gives,
value or error, in every frame. Partials are rendered as the loader gives them, so they
are the same on both sides. -/
theorem foldMinus_steps : Motive.Steps r
    { eval := fun f e => e.foldMinus.intsWithin → r.eval host f e.foldMinus = r.eval host f e
      evalAll := fun f es => Expr.intsWithinAll (Expr.foldMinusAll es) →
        r.evalAll host f (Expr.foldMinusAll es) = r.evalAll host f es
      renderNodes := fun f ns => Node.intsWithinAll (Node.foldMinusAll ns) →
        r.renderNodes host f (Node.foldMinusAll ns) = r.renderNodes host f ns
      renderNode := fun f n => n.foldMinus.intsWithin →
        r.renderNode host f n.foldMinus = r.renderNode host f n
      renderBranches := fun f bs elseBody => Branch.intsWithinAll (Branch.foldMinusAll bs) →
        Node.intsWithinElse (Node.foldMinusElse elseBody) →
          r.renderBranches host f (Branch.foldMinusAll bs) (Node.foldMinusElse elseBody) =
            r.renderBranches host f bs elseBody
      renderLoop := fun f span targets body items =>
        Node.intsWithinAll (Node.foldMinusAll body) →
          r.renderLoop host f span targets (Node.foldMinusAll body) items =
            r.renderLoop host f span targets body items } where
  literal _ _ _ _ := rfl
  identifier _ _ _ _ := rfl
  list _ _ _ elements bounded := by rw [Expr.foldMinus, eval, eval, elements bounded]
  negate f span operand hoperand bounded := by
    -- the fold is the run-time negation of the folded operand, which evaluates as the operand
    rw [Expr.foldMinus, eval_negated r host f span operand.foldMinus bounded, eval, eval,
      hoperand (Expr.intsWithin_of_negated bounded)]
  compare _ _ _ _ _ left right bounded := by
    simp only [Expr.foldMinus, Expr.intsWithin, Bool.and_eq_true] at bounded
    rw [Expr.foldMinus, eval, eval, left bounded.1, right bounded.2]
  method _ _ _ _ _ object arguments bounded := by
    simp only [Expr.foldMinus, Expr.intsWithin, Bool.and_eq_true] at bounded
    rw [Expr.foldMinus, eval, eval, object bounded.1, arguments bounded.2]
  position _ _ _ _ object bounded := by rw [Expr.foldMinus, eval, eval, object bounded]
  index _ _ _ _ object key bounded := by
    simp only [Expr.foldMinus, Expr.intsWithin, Bool.and_eq_true] at bounded
    rw [Expr.foldMinus, eval, eval, object bounded.1, key bounded.2]
  call _ _ _ _ arguments _ bounded := by rw [Expr.foldMinus, eval, eval, arguments bounded]
  evalNil _ _ := rfl
  evalCons _ _ _ first rest bounded := by
    simp only [Expr.foldMinusAll, Expr.intsWithinAll, Bool.and_eq_true] at bounded
    rw [Expr.foldMinusAll, evalAll, evalAll, first bounded.1, rest bounded.2]
  nodesNil _ _ := rfl
  nodesCons _ _ _ first rest bounded := by
    simp only [Node.foldMinusAll, Node.intsWithinAll, Bool.and_eq_true] at bounded
    rw [Node.foldMinusAll, renderNodes, renderNodes, first bounded.1, rest bounded.2]
  text _ _ _ _ := rfl
  output _ _ e he bounded := by
    rw [Node.foldMinus, renderNode, renderNode, outputText, outputText, he bounded,
      Expr.span_foldMinus]
  rawOutput _ _ e he bounded := by
    rw [Node.foldMinus, renderNode, renderNode, outputText, outputText, he bounded,
      Expr.span_foldMinus]
  statement _ _ _ e bounded := by rw [Node.foldMinus, renderNode, renderNode, e bounded]
  cond _ _ c _ _ _ hc body branches bounded := by
    simp only [Node.foldMinus, Node.intsWithin, Bool.and_eq_true] at bounded
    obtain ⟨⟨⟨inCondition, inBody⟩, inBranches⟩, inElse⟩ := bounded
    rw [Node.foldMinus, renderNode, renderNode, condition, condition, hc inCondition,
      Expr.span_foldMinus, body inBody, branches inBranches inElse]
  loop _ _ _ _ _ iterable iterations bounded := by
    simp only [Node.foldMinus, Node.intsWithin, Bool.and_eq_true] at bounded
    rw [Node.foldMinus, renderNode, renderNode, iterable bounded.1, Expr.span_foldMinus]
    -- the body is rendered in the frame of each element
    simp only [fun items => iterations items bounded.2]
  elseBody _ _ nodes _ bounded := by
    rw [Branch.foldMinusAll, Node.foldMinusElse, renderBranches, renderBranches]
    exact nodes bounded
  noElse _ _ _ := rfl
  branch _ _ c _ _ _ hc body rest bounded inElse := by
    simp only [Branch.foldMinusAll, Branch.intsWithinAll, Bool.and_eq_true] at bounded
    obtain ⟨⟨inCondition, inBody⟩, inRest⟩ := bounded
    rw [Branch.foldMinusAll, renderBranches, renderBranches, condition, condition,
      hc inCondition, Expr.span_foldMinus, body inBody, rest inRest inElse]
  loopNil _ _ _ _ _ := by rw [renderLoop, renderLoop]
  loopCons _ _ _ _ _ _ body rest bounded := by
    simp only [renderLoop, fun bs => body bs bounded, rest bounded]

/-- A template whose folded literals are within bounds renders, folded, as it does. -/
theorem render_foldMinus (t : Template) (bounded : t.foldMinus.intsWithin) :
    r.render host t.foldMinus = r.render host t := by
  unfold render
  rw [show t.foldMinus.nodes = Node.foldMinusAll t.nodes from rfl,
    (foldMinus_steps r host).renderNodes _ t.nodes bounded]
  rfl

end Renderer

/-! ## Parsed trees are within bounds -/

/-- A literal read from a token the scanner could have made is within bounds: the
scanner reads no integer literal above `Value.maxInt`. -/
theorem Literal.withinMaxInt_of_literalOf {t : Token} {lit : Literal} (reads : t.ReadsValue)
    (h : literalOf t = some lit) : lit.withinMaxInt := by
  unfold literalOf at h
  split at h
  next n kind value =>
    cases h
    unfold Token.ReadsValue at reads
    rw [kind] at reads
    obtain ⟨m, read, -, -, -, bound⟩ := reads
    rw [value, TokenValue.int.injEq] at read
    subst read
    have top : Nat.pow 2 63 - 1 = 9223372036854775807 := by decide
    simp only [Literal.withinMaxInt, decide_eq_true_eq, Value.maxInt_eq]
    omega
  all_goals (cases h <;> rfl)

mutual

theorem DerivesExpr.intsWithin {ts : List Token} {e : Expr} :
    DerivesExpr ts e → (∀ t ∈ ts, t.ReadsValue) → e.intsWithin
  | .chain first rest, reads => by
    rw [List.forall_mem_append] at reads
    exact rest.intsWithin (first.intsWithin reads.1) reads.2

theorem DerivesEqualities.intsWithin {left e : Expr} {ts : List Token} :
    DerivesEqualities left ts e → left.intsWithin → (∀ t ∈ ts, t.ReadsValue) → e.intsWithin
  | .done, bounded, _ => bounded
  | .compare _ _ right rest, bounded, reads => by
    simp only [List.forall_mem_cons, List.forall_mem_append] at reads
    refine rest.intsWithin ?_ reads.2.2
    simp [Expr.intsWithin, bounded, right.intsWithin reads.2.1]

theorem DerivesPostfix.intsWithin {ts : List Token} {e : Expr} :
    DerivesPostfix ts e → (∀ t ∈ ts, t.ReadsValue) → e.intsWithin
  | .chain operand rest, reads => by
    rw [List.forall_mem_append] at reads
    exact rest.intsWithin (operand.intsWithin reads.1) reads.2

theorem DerivesSuffixes.intsWithin {e result : Expr} {ts : List Token} :
    DerivesSuffixes e ts result → e.intsWithin → (∀ t ∈ ts, t.ReadsValue) → result.intsWithin
  | .done, bounded, _ => bounded
  | .position _ _ rest, bounded, reads => by
    simp only [List.forall_mem_cons] at reads
    exact rest.intsWithin bounded reads.2.2
  | .method _ _ rest, bounded, reads => by
    simp only [List.forall_mem_cons] at reads
    refine rest.intsWithin ?_ reads.2.2
    simp [Expr.intsWithin, Expr.intsWithinAll, bounded]
  | .methodCall _ _ args rest, bounded, reads => by
    simp only [List.forall_mem_cons, List.forall_mem_append] at reads
    refine rest.intsWithin ?_ reads.2.2.2
    simp [Expr.intsWithin, bounded, args.intsWithin reads.2.2.1]
  | .index _ index _ rest, bounded, reads => by
    simp only [List.forall_mem_cons, List.forall_mem_append] at reads
    refine rest.intsWithin ?_ reads.2.2.2
    simp [Expr.intsWithin, bounded, index.intsWithin reads.2.1]

theorem DerivesUnary.intsWithin {ts : List Token} {e : Expr} :
    DerivesUnary ts e → (∀ t ∈ ts, t.ReadsValue) → e.intsWithin
  | .negate _ operand, reads => by
    rw [List.forall_mem_cons] at reads
    exact Expr.intsWithin_negated _ (operand.intsWithin reads.2)
  | .primary p, reads => p.intsWithin reads

theorem DerivesPrimary.intsWithin {ts : List Token} {e : Expr} :
    DerivesPrimary ts e → (∀ t ∈ ts, t.ReadsValue) → e.intsWithin
  | .literal lit, reads => Literal.withinMaxInt_of_literalOf (reads _ (List.mem_singleton_self _)) lit
  | .identifier _, _ => rfl
  | .call _ args, reads => args.intsWithin (List.forall_mem_cons.1 reads).2
  | .list _ elements, reads => elements.intsWithin (List.forall_mem_cons.1 reads).2
  | .group _ inner _, reads => by
    simp only [List.forall_mem_cons, List.forall_mem_append] at reads
    exact inner.intsWithin reads.2.1

theorem DerivesArguments.intsWithin {ts : List Token} {args : List Expr} {stop : Location} :
    DerivesArguments ts args stop → (∀ t ∈ ts, t.ReadsValue) → Expr.intsWithinAll args
  | .none _ _, _ => rfl
  | .some _ sep, reads => sep.intsWithin (List.forall_mem_cons.1 reads).2

theorem DerivesSeparated.intsWithin {close : TokenKind} {ts : List Token} {es : List Expr}
    {c : Token} : DerivesSeparated close ts es c → (∀ t ∈ ts, t.ReadsValue) → Expr.intsWithinAll es
  | .last e _, reads => by
    rw [List.forall_mem_append] at reads
    simp [Expr.intsWithinAll, e.intsWithin reads.1]
  | .more e _ rest, reads => by
    simp only [List.forall_mem_append, List.forall_mem_cons] at reads
    simp [Expr.intsWithinAll, e.intsWithin reads.1, rest.intsWithin reads.2.2]

theorem DerivesElements.intsWithin {ts : List Token} {es : List Expr} {stop : Location} :
    DerivesElements ts es stop → (∀ t ∈ ts, t.ReadsValue) → Expr.intsWithinAll es
  | .empty _, _ => rfl
  | .some sep, reads => sep.intsWithin reads
  | .trailing sep _, reads => sep.intsWithin (List.forall_mem_append.1 reads).1

end

mutual

theorem DerivesNode.intsWithin {ts : List Token} {n : Option Node} :
    DerivesNode ts n → (∀ t ∈ ts, t.ReadsValue) → Node.intsWithinAll n.toList
  | .text _, _ => rfl
  | .output _ e _, reads => by
    simp only [List.forall_mem_cons, List.forall_mem_append] at reads
    simp [Node.intsWithinAll, Node.intsWithin, e.intsWithin reads.2.1]
  | .rawOutput _ e _, reads => by
    simp only [List.forall_mem_cons, List.forall_mem_append] at reads
    simp [Node.intsWithinAll, Node.intsWithin, e.intsWithin reads.2.1]
  | .renderEmpty _ _, _ => rfl
  | .render _ sep, reads => by
    simp only [List.forall_mem_cons] at reads
    simp [renderShorthand, Node.intsWithinAll, Node.intsWithin, Expr.intsWithin,
      sep.intsWithin reads.2]
  | .empty _ _, _ => rfl
  | .statement _ e _, reads => by
    simp only [List.forall_mem_cons, List.forall_mem_append] at reads
    simp [Node.intsWithinAll, Node.intsWithin, e.intsWithin reads.2.1]
  | .cond _ _ condition _ body tail, reads => by
    simp only [List.forall_mem_cons, List.forall_mem_append] at reads
    have inTail := tail.intsWithin reads.2.2.2.2.2
    simp [Node.intsWithinAll, Node.intsWithin, condition.intsWithin reads.2.2.1,
      body.intsWithin reads.2.2.2.2.1, inTail.1, inTail.2]
  | .loop _ _ _ _ iterable _ body _ _ _, reads => by
    simp only [List.forall_mem_cons, List.forall_mem_append] at reads
    simp [Node.intsWithinAll, Node.intsWithin, iterable.intsWithin reads.2.2.2.2.1,
      body.intsWithin reads.2.2.2.2.2.2.1]

theorem DerivesNodes.intsWithin {ts : List Token} {ns : List Node} :
    DerivesNodes ts ns → (∀ t ∈ ts, t.ReadsValue) → Node.intsWithinAll ns
  | .nil, _ => rfl
  | .cons first rest, reads => by
    rw [List.forall_mem_append] at reads
    rw [Node.intsWithinAll_append, first.intsWithin reads.1, rest.intsWithin reads.2]
    rfl

theorem DerivesIfTail.intsWithin {ts : List Token} {branches : List Branch}
    {elseBody : Option (List Node)} {last : Token} :
    DerivesIfTail ts branches elseBody last → (∀ t ∈ ts, t.ReadsValue) →
      Branch.intsWithinAll branches ∧ Node.intsWithinElse elseBody
  | .elsif _ _ condition _ nodes tail, reads => by
    simp only [List.forall_mem_cons, List.forall_mem_append] at reads
    have inTail := tail.intsWithin reads.2.2.2.2.2
    simp [Branch.intsWithinAll, condition.intsWithin reads.2.2.1, nodes.intsWithin reads.2.2.2.2.1,
      inTail.1, inTail.2]
  | .otherwise _ _ _ nodes _ _ _, reads => by
    simp only [List.forall_mem_cons, List.forall_mem_append] at reads
    exact ⟨rfl, nodes.intsWithin reads.2.2.2.1⟩
  | .close _ _ _, _ => ⟨rfl, rfl⟩

end

/-- Every token of a text that scans has the value its lexeme gives. -/
theorem Token.scan_readsValue {s : String} {file : Option String} {tokens : List Token}
    (h : Token.scan s file = .ok tokens) : ∀ t ∈ tokens, t.ReadsValue := by
  obtain ⟨-, loc, acc, final, -, rfl⟩ :=
    @Token.scan_induction s file tokens (fun _ _ _ _ => True) (fun _ _ _ => trivial)
      (fun _ _ _ => trivial) trivial h
  intro t mem
  rcases List.mem_append.1 mem with old | new
  · exact (final.inText t old).1.value
  · rw [List.mem_singleton.1 new]
    rfl

/-- Every integer literal of a parsed template is within `Value.maxInt` of zero. -/
theorem Template.parse_intsWithin {source : String} {name : Option String} {t : Template}
    (h : Template.parse source name = .ok t) : t.intsWithin := by
  unfold Template.parse at h
  split at h
  next => cases h
  next tokens scanned =>
    unfold Template.ofTokens at h
    dsimp only at h
    cases parsed : parseTopLevel { lines := Text.lineFeedLines source } [] tokens with
    | error e => simp [parsed, Except.mapError] at h
    | ok p =>
      obtain ⟨nodes, r, hr⟩ := p
      simp only [parsed, Except.mapError, Except.ok.injEq] at h
      subst h
      obtain ⟨pre, ns, split, d, same, -⟩ := parseTopLevel_sound parsed
      have reads := Token.scan_readsValue scanned
      rw [split, List.forall_mem_append] at reads
      rw [Template.intsWithin, same, List.reverse_nil, List.nil_append]
      exact d.intsWithin reads.1

/-! ## The two parsers -/

/-- Folding a minus into a literal keeps the meaning. The parser with the fold and the
parser without it succeed on the same texts and fail on the others with the same
error; the folded tree is the unfolded one with its minus signs folded, and every
integer literal of it is within `Value.maxInt` of zero; and for every renderer, with its
settings and services, and every host bindings, the two trees render to the same text
or fail with the same error. -/
theorem parse_unfolded_agree (source : String) (name : Option String) :
    ((∃ t, Template.parse source name = .ok t) ↔ ∃ t', Unfolded.parse source name = .ok t') ∧
    (∀ failure, Template.parse source name = .error failure ↔
      Unfolded.parse source name = .error failure) ∧
    ∀ t t', Template.parse source name = .ok t → Unfolded.parse source name = .ok t' →
      t = t'.foldMinus ∧ t.intsWithin ∧
        ∀ (r : Renderer) (host : HostBindings), r.render host t = r.render host t' := by
  rw [parse_eq_foldMinus]
  refine ⟨?_, ?_, ?_⟩
  · cases Unfolded.parse source name <;> simp [Except.map]
  · intro failure
    cases Unfolded.parse source name <;> simp [Except.map]
  · intro t t' folded unfolded
    have bounded := Template.parse_intsWithin (parse_eq_foldMinus source name ▸ folded)
    rw [unfolded] at folded
    cases folded
    exact ⟨rfl, bounded, fun r host => r.render_foldMinus host t' bounded⟩

end Stencil
