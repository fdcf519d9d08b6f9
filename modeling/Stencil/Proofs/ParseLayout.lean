import Stencil.Proofs.ScanShape
import Stencil.Proofs.ParserSound

/-!
# Parsing scanned tokens

Two errors of the parser never come from a scanned text: the end of the text where
the grammar needs more (`unexpectedEnd`), and the fallback of `parseNode` for a token
that is neither a text run nor an opener (`expected text or tag`). Both are
`Fault.outOfShape`.

The layout of scanned tokens (`Shape.units`) rules them out: whole units, each a
text run or a tag closed by its `%>`, then the end of the text. Every parsing
function starts either at a unit (`Layout`) or inside a tag (`InTag`). Inside a tag
the next token is never the end, so an error there names the token found; at a unit
a node starts with a text run or an opener. The expression parsers never leave their
tag, since what they read derives in the grammar and so holds only tokens of a tag.
The node parsers start at a unit and stop at the next one, or, for a block's body,
inside the tag of its closer (`Keeps`). The main statement is
`Template.parse_in_shape`.
-/

namespace Stencil

/-- The faults a parse of scanned tokens never meets: the end of the text where the
grammar needs more, and a node that starts with neither text nor a tag. -/
def Fault.outOfShape : Fault → Bool
  | .unexpectedEnd _ => true
  | .unexpectedToken expected _ => expected == "text or tag"
  | _ => false

/-- The faults of a scan are in shape. -/
theorem Fault.outOfShape_of_ofScan {f : Fault} (h : f.ofScan) : f.outOfShape = false := by
  cases f <;> simp_all [Fault.ofScan, Fault.outOfShape]

/-! ## Layouts of tokens -/

/-- Tokens that start at a unit: whole units, then the end of the text. -/
def Layout (ts : List Token) : Prop :=
  ∃ body last, ts = body ++ [last] ∧ last.kind = .eof ∧ Units (body.map Token.kind)

/-- Tokens inside a tag: tokens of the tag, its `%>`, then whole units and the end. -/
def InTag (ts : List Token) : Prop :=
  ∃ xs c post, ts = xs ++ c :: post ∧ (∀ x ∈ xs, x.kind.insideTag) ∧ c.kind = .tagEnd ∧
    Layout post

/-- A word of units starts with a text run or with a whole tag. -/
theorem Units.cons_inv {k : TokenKind} {ks : List TokenKind} (h : Units (k :: ks)) :
    k = .text ∧ Units ks ∨
      k.opensTag ∧ ∃ xs more, ks = xs ++ .tagEnd :: more ∧ (∀ x ∈ xs, x.insideTag) ∧
        Units more := by
  cases h with
  | text rest => exact .inl ⟨rfl, rest⟩
  | tag opens inside rest => exact .inr ⟨opens, _, _, rfl, inside, rest⟩

/-- A token of a kind of the tag's tokens is one. -/
theorem Token.insideTag_of_kind {t : Token} {k : TokenKind} (h : t.kind = k)
    (inside : k.insideTag := by decide) : t.kind.insideTag := h ▸ inside

/-- A token of an opener's kind opens a tag. -/
theorem Token.opensTag_of_kind {t : Token} {k : TokenKind} (h : t.kind = k)
    (opens : k.opensTag := by decide) : t.kind.opensTag := h ▸ opens

namespace Layout

variable {t : Token} {rest : List Token}

/-- A layout starts with the end of the text, with a text run before a layout, or
with an opener before the inside of its tag. -/
theorem cons (h : Layout (t :: rest)) :
    t.kind = .eof ∨ t.kind = .text ∧ Layout rest ∨ t.kind.opensTag ∧ InTag rest := by
  obtain ⟨body, last, split, isEnd, units⟩ := h
  cases body with
  | nil =>
    simp only [List.nil_append, List.cons.injEq] at split
    obtain ⟨rfl, -⟩ := split
    exact .inl isEnd
  | cons b body =>
    simp only [List.cons_append, List.cons.injEq] at split
    obtain ⟨rfl, rfl⟩ := split
    rw [List.map_cons] at units
    rcases Units.cons_inv units with ⟨isText, units⟩ | ⟨opens, xs, ks, kinds, inside, units⟩
    · exact .inr (.inl ⟨isText, body, last, rfl, isEnd, units⟩)
    · -- the tag's own tokens, its `%>`, and the units after it
      obtain ⟨pre, post, rfl, rfl, postKinds⟩ := List.map_eq_append_iff.1 kinds
      obtain ⟨c, post, rfl, isClose, rfl⟩ := List.map_eq_cons_iff.1 postKinds
      refine .inr (.inr ⟨opens, pre, c, post ++ [last], by simp, ?_, isClose,
        post, last, rfl, isEnd, units⟩)
      exact fun x mem => inside _ (List.mem_map_of_mem mem)

theorem of_text (h : Layout (t :: rest)) (isText : t.kind = .text) : Layout rest := by
  rcases h.cons with isEnd | ⟨-, layout⟩ | ⟨opens, -⟩
  · simp [isText] at isEnd
  · exact layout
  · simp [isText, TokenKind.opensTag] at opens

theorem of_opener (h : Layout (t :: rest)) (opens : t.kind.opensTag) : InTag rest := by
  rcases h.cons with isEnd | ⟨isText, -⟩ | ⟨-, inTag⟩
  · simp [isEnd, TokenKind.opensTag] at opens
  · simp [isText, TokenKind.opensTag] at opens
  · exact inTag

end Layout

namespace InTag

variable {t : Token} {rest : List Token}

theorem not_nil : ¬ InTag [] := by
  rintro ⟨xs, c, post, split, -⟩
  simp at split

/-- A token of the tag leaves the rest of the tag. -/
theorem tail (h : InTag (t :: rest)) (inside : t.kind.insideTag) : InTag rest := by
  obtain ⟨xs, c, post, split, insideXs, isClose, layout⟩ := h
  cases xs with
  | nil =>
    simp only [List.nil_append, List.cons.injEq] at split
    obtain ⟨rfl, -⟩ := split
    simp [isClose, TokenKind.insideTag] at inside
  | cons x xs =>
    simp only [List.cons_append, List.cons.injEq] at split
    obtain ⟨rfl, rfl⟩ := split
    exact ⟨xs, c, post, rfl, fun y mem => insideXs y (.tail _ mem), isClose, layout⟩

/-- The `%>` of the tag leaves a layout. -/
theorem close (h : InTag (t :: rest)) (isClose : t.kind = .tagEnd) : Layout rest := by
  obtain ⟨xs, c, post, split, insideXs, -, layout⟩ := h
  cases xs with
  | nil =>
    simp only [List.nil_append, List.cons.injEq] at split
    obtain ⟨-, rfl⟩ := split
    exact layout
  | cons x xs =>
    simp only [List.cons_append, List.cons.injEq] at split
    obtain ⟨rfl, -⟩ := split
    simpa [isClose, TokenKind.insideTag] using insideXs t (.head _)

/-- Tokens of the tag leave the rest of the tag. -/
theorem after {ts pre r : List Token} (h : InTag ts) (split : ts = pre ++ r)
    (inside : ∀ t ∈ pre, t.kind.insideTag) : InTag r := by
  subst split
  induction pre with
  | nil => exact h
  | cons t pre ih => exact ih (fun x mem => inside x (.tail _ mem)) (h.tail (inside t (.head _)))

theorem head_ne_eof (h : InTag (t :: rest)) : t.kind ≠ .eof := by
  obtain ⟨xs, c, post, split, insideXs, isClose, -⟩ := h
  cases xs with
  | nil =>
    simp only [List.nil_append, List.cons.injEq] at split
    rw [split.1, isClose]
    decide
  | cons x xs =>
    simp only [List.cons_append, List.cons.injEq] at split
    rw [split.1]
    exact TokenKind.ne_eof_of_insideTag (insideXs x (.head _))

/-- Inside a tag, a parse that expects a token fails naming the token it finds. -/
theorem unexpectedAt_fault {ts : List Token} {expected : String} (h : InTag ts)
    (src : ParseSource) (notNode : expected ≠ "text or tag" := by decide) :
    (unexpectedAt src ts expected).fault.outOfShape = false := by
  cases ts with
  | nil => exact absurd h not_nil
  | cons t rest =>
    simp [unexpectedAt, currentToken, h.head_ne_eof, TemplateError.at_, Fault.outOfShape, notNode]

end InTag

/-! ## Expressions

Inside a tag an expression parser fails only by naming a token it finds; the tokens
left after what it reads are still inside the tag. -/

section Expressions

variable {src : ParseSource}

theorem expectKind_fault {kind : TokenKind} {expected : String} {ts : List Token}
    {e : TemplateError} (inTag : InTag ts) (h : expectKind src kind expected ts = .error e)
    (notNode : expected ≠ "text or tag" := by decide) : e.fault.outOfShape = false := by
  unfold expectKind at h
  split at h
  next =>
    split at h
    next => cases h
    next =>
      cases h
      exact inTag.unexpectedAt_fault src notNode
  next =>
    cases h
    exact inTag.unexpectedAt_fault src notNode

-- From here on the lemmas read derivations off the parser, which needs the source to fold
-- a minus as the grammar does. The linter sees only the calls a body makes by name, not
-- those its mutual recursion makes.
variable [src.FoldsMinus]
set_option linter.unusedSectionVars false

mutual

theorem parseExpr_fault {ts : List Token} {e : TemplateError} (inTag : InTag ts)
    (h : parseExpr src ts = .error e) : e.fault.outOfShape = false := by
  rw [parseExpr] at h
  split at h
  next _ err hfirst =>
    cases h
    exact parsePostfix_fault inTag hfirst
  next _ left r1 hr1 hfirst =>
    split at h
    next _ err hrest =>
      cases h
      obtain ⟨pre, split1, d⟩ := parsePostfix_sound hfirst
      exact parseEqualityRest_fault (inTag.after split1 d.insideTag) hrest
    next => cases h
termination_by 10 * ts.length + 7
decreasing_by all_goals (subst_vars; omega)

theorem parseEqualityRest_fault {left : Expr} {ts : List Token} {e : TemplateError}
    (inTag : InTag ts) (h : parseEqualityRest src left ts = .error e) :
    e.fault.outOfShape = false := by
  rw [parseEqualityRest.eq_def] at h
  split at h
  next t rest =>
    split at h
    next isOp =>
      have afterOp := inTag.tail
        (by rcases isOp with same | same <;> exact Token.insideTag_of_kind same)
      split at h
      next _ err hright =>
        cases h
        exact parsePostfix_fault afterOp hright
      next _ right r1 hr1 hright =>
        dsimp only at h
        -- name the operator, so that the next split is the one on the chain's rest
        generalize (if t.kind = .eq then Equality.eq else Equality.ne) = op at h
        split at h
        next _ err hrest =>
          cases h
          -- the right operand derives, so it holds only tokens of the tag
          obtain ⟨pre, split1, d⟩ := parsePostfix_sound hright
          exact parseEqualityRest_fault (afterOp.after split1 d.insideTag) hrest
        next => cases h
    next => cases h
  next => cases h
termination_by 10 * ts.length + 6
decreasing_by all_goals (subst_vars; simp only [List.length_cons] at *; omega)

theorem parsePostfix_fault {ts : List Token} {e : TemplateError} (inTag : InTag ts)
    (h : parsePostfix src ts = .error e) : e.fault.outOfShape = false := by
  rw [parsePostfix] at h
  split at h
  next _ err hoperand =>
    cases h
    exact parseUnary_fault inTag hoperand
  next _ operand r1 hr1 hoperand =>
    split at h
    next _ err hrest =>
      cases h
      obtain ⟨pre, split1, d⟩ := parseUnary_sound hoperand
      exact parsePostfixRest_fault (inTag.after split1 d.insideTag) hrest
    next => cases h
termination_by 10 * ts.length + 5
decreasing_by all_goals (subst_vars; omega)

theorem parsePostfixRest_fault {e0 : Expr} {ts : List Token} {e : TemplateError}
    (inTag : InTag ts) (h : parsePostfixRest src e0 ts = .error e) :
    e.fault.outOfShape = false := by
  rw [parsePostfixRest.eq_def] at h
  split at h
  next t rest =>
    split at h
    next isDot =>
      have afterDot := inTag.tail (Token.insideTag_of_kind isDot)
      split at h
      next i rest2 =>
        split at h
        next isInt =>
          dsimp only at h
          split at h
          next _ err hrest =>
            cases h
            exact parsePostfixRest_fault (afterDot.tail (Token.insideTag_of_kind isInt)) hrest
          next => cases h
        next =>
          split at h
          next isName =>
            have afterName := afterDot.tail (Token.insideTag_of_kind isName)
            split at h
            next =>
              split at h
              next _ err hargs =>
                cases h
                exact parseArguments_fault afterName hargs
              next _ args stop r1 hr1 hargs =>
                dsimp only at h
                split at h
                next _ err hrest =>
                  cases h
                  obtain ⟨pre, split1, d⟩ := parseArguments_sound hargs
                  exact parsePostfixRest_fault (afterName.after split1 d.insideTag) hrest
                next => cases h
            next =>
              dsimp only at h
              split at h
              next _ err hrest =>
                cases h
                exact parsePostfixRest_fault afterName hrest
              next => cases h
          next =>
            cases h
            exact afterDot.unexpectedAt_fault src
      next =>
        cases h
        exact absurd afterDot InTag.not_nil
    next =>
      split at h
      next isOpen =>
        have afterOpen := inTag.tail (Token.insideTag_of_kind isOpen)
        split at h
        next _ err hindex =>
          cases h
          exact parseExpr_fault afterOpen hindex
        next _ index r1 hr1 hindex =>
          obtain ⟨pre, split1, d⟩ := parseExpr_sound hindex
          have afterIndex := afterOpen.after split1 d.insideTag
          split at h
          next c r2 hr1' =>
            have shorter : r2.length < rest.length :=
              Nat.lt_of_lt_of_le (Nat.lt_succ_self _) hr1'
            split at h
            next isClose =>
              dsimp only at h
              split at h
              next _ err hrest =>
                cases h
                exact parsePostfixRest_fault
                  (afterIndex.tail (Token.insideTag_of_kind isClose)) hrest
              next => cases h
            next =>
              cases h
              exact afterIndex.unexpectedAt_fault src
          next =>
            cases h
            exact absurd afterIndex InTag.not_nil
      next => cases h
  next => cases h
termination_by 10 * ts.length + 4
decreasing_by all_goals (subst_vars; simp only [List.length_cons] at *; omega)

theorem parseUnary_fault {ts : List Token} {e : TemplateError} (inTag : InTag ts)
    (h : parseUnary src ts = .error e) : e.fault.outOfShape = false := by
  rw [parseUnary.eq_def] at h
  split at h
  next t rest =>
    split at h
    next minus =>
      split at h
      next _ err hoperand =>
        cases h
        exact parseUnary_fault (inTag.tail (Token.insideTag_of_kind minus)) hoperand
      next => cases h
    next => exact parsePrimary_fault inTag h
  next => exact absurd inTag InTag.not_nil
termination_by 10 * ts.length + 3
decreasing_by all_goals (subst_vars; simp only [List.length_cons] at *; omega)

theorem parsePrimary_fault {ts : List Token} {e : TemplateError} (inTag : InTag ts)
    (h : parsePrimary src ts = .error e) : e.fault.outOfShape = false := by
  rw [parsePrimary.eq_def] at h
  split at h
  next t rest =>
    split at h
    next => cases h
    next =>
      split at h
      next isName =>
        split at h
        next =>
          split at h
          next _ err hargs =>
            cases h
            exact parseArguments_fault (inTag.tail (Token.insideTag_of_kind isName)) hargs
          next => cases h
        next => cases h
      next =>
        split at h
        next isOpen =>
          split at h
          next _ err helements =>
            cases h
            exact parseElements_fault (inTag.tail (Token.insideTag_of_kind isOpen))
              helements
          next => cases h
        next =>
          split at h
          next isParen =>
            have afterParen := inTag.tail (Token.insideTag_of_kind isParen)
            split at h
            next _ err hinner =>
              cases h
              exact parseExpr_fault afterParen hinner
            next _ inner r1 hr1 hinner =>
              obtain ⟨pre, split1, d⟩ := parseExpr_sound hinner
              have afterInner := afterParen.after split1 d.insideTag
              split at h
              next c r2 hr1' =>
                split at h
                next => cases h
                next =>
                  cases h
                  exact afterInner.unexpectedAt_fault src
              next =>
                cases h
                exact absurd afterInner InTag.not_nil
          next =>
            cases h
            exact inTag.unexpectedAt_fault src
  next =>
    cases h
    exact absurd inTag InTag.not_nil
termination_by 10 * ts.length + 2
decreasing_by all_goals (subst_vars; (try simp only [List.length_cons]); omega)

theorem parseArguments_fault {ts : List Token} {e : TemplateError} (inTag : InTag ts)
    (h : parseArguments src ts = .error e) : e.fault.outOfShape = false := by
  rw [parseArguments.eq_def] at h
  split at h
  next t rest =>
    split at h
    next isOpen =>
      have afterOpen := inTag.tail (Token.insideTag_of_kind isOpen)
      split at h
      next c r2 =>
        split at h
        next => cases h
        next =>
          split at h
          next _ err hlist =>
            cases h
            exact parseArgumentList_fault afterOpen hlist
          next => cases h
      next => exact absurd afterOpen InTag.not_nil
    next =>
      cases h
      exact inTag.unexpectedAt_fault src
  next =>
    cases h
    exact absurd inTag InTag.not_nil
termination_by 10 * ts.length + 1
decreasing_by all_goals (subst_vars; simp only [List.length_cons] at *; omega)

theorem parseArgumentList_fault {acc : List Expr} {ts : List Token} {e : TemplateError}
    (inTag : InTag ts) (h : parseArgumentList src acc ts = .error e) :
    e.fault.outOfShape = false := by
  rw [parseArgumentList] at h
  split at h
  next _ err he =>
    cases h
    exact parseExpr_fault inTag he
  next _ e1 r1 hr1 he =>
    obtain ⟨pre, split1, d⟩ := parseExpr_sound he
    have afterExpr := inTag.after split1 d.insideTag
    split at h
    next c r2 hr1' =>
      have shorter : r2.length < ts.length := Nat.lt_of_lt_of_le (Nat.lt_succ_self _) hr1'
      split at h
      next isComma =>
        split at h
        next _ err hrest =>
          cases h
          exact parseArgumentList_fault (afterExpr.tail (Token.insideTag_of_kind isComma))
            hrest
        next => cases h
      next =>
        split at h
        next => cases h
        next =>
          cases h
          exact afterExpr.unexpectedAt_fault src
    next =>
      cases h
      exact absurd afterExpr InTag.not_nil
termination_by 10 * ts.length + 8
decreasing_by all_goals (subst_vars; omega)

theorem parseElements_fault {acc : List Expr} {ts : List Token} {e : TemplateError}
    (inTag : InTag ts) (h : parseElements src acc ts = .error e) :
    e.fault.outOfShape = false := by
  rw [parseElements.eq_def] at h
  split at h
  next c rest =>
    split at h
    next => cases h
    next =>
      split at h
      next _ err he =>
        cases h
        exact parseExpr_fault inTag he
      next _ e1 r1 hr1 he =>
        obtain ⟨pre, split1, d⟩ := parseExpr_sound he
        have afterExpr := inTag.after split1 d.insideTag
        split at h
        next d' r2 hr1' =>
          have shorter : r2.length < (c :: rest).length :=
            Nat.lt_of_lt_of_le (Nat.lt_succ_self _) hr1'
          split at h
          next isComma =>
            split at h
            next _ err hrest =>
              cases h
              exact parseElements_fault
                (afterExpr.tail (Token.insideTag_of_kind isComma)) hrest
            next => cases h
          next =>
            split at h
            next => cases h
            next =>
              cases h
              exact afterExpr.unexpectedAt_fault src
        next =>
          cases h
          exact absurd afterExpr InTag.not_nil
  next => exact absurd inTag InTag.not_nil
termination_by 10 * ts.length + 9
decreasing_by all_goals (subst_vars; omega)

end

omit [src.FoldsMinus] in
theorem parseTargets_fault {acc : List String} {ts : List Token} {e : TemplateError}
    (inTag : InTag ts) (h : parseTargets src acc ts = .error e) : e.fault.outOfShape = false := by
  rw [parseTargets.eq_def] at h
  split at h
  next t rest =>
    split at h
    next isName =>
      have afterName := inTag.tail (Token.insideTag_of_kind isName)
      split at h
      next c r2 =>
        split at h
        next isComma =>
          split at h
          next _ err hrest =>
            cases h
            exact parseTargets_fault (afterName.tail (Token.insideTag_of_kind isComma))
              hrest
          next => cases h
        next => cases h
      next => cases h
    next =>
      cases h
      exact inTag.unexpectedAt_fault src
  next =>
    cases h
    exact absurd inTag InTag.not_nil
termination_by ts.length
decreasing_by all_goals (subst_vars; (try simp only [List.length_cons]); omega)

end Expressions

/-! ## Nodes

A node parser starts at a unit and, unless it fails in shape, stops at the next
unit; a block's body stops inside the tag of its closer. -/

/-- A parse keeps to the layout of its tokens: it fails with a fault in shape, or
stops where `next` holds of the tokens it leaves. -/
def Keeps {α : Type} {P : List Token → Prop} (next : List Token → Prop) :
    Except TemplateError (α × Subtype P) → Prop
  | .error e => e.fault.outOfShape = false
  | .ok (_, r) => next r.1

theorem Keeps.fault {α : Type} {P : List Token → Prop} {next : List Token → Prop}
    {e : TemplateError} (k : Keeps next (.error e : Except TemplateError (α × Subtype P))) :
    e.fault.outOfShape = false := k

theorem Keeps.rest {α : Type} {P : List Token → Prop} {next : List Token → Prop} {v : α}
    {r : Subtype P} (k : Keeps next (.ok (v, r) : Except TemplateError (α × Subtype P))) :
    next r.1 := k

theorem Keeps.widen {ts us : List Token} {α : Type} {next : List Token → Prop} {p : Parse us α}
    {h : us.length ≤ ts.length} (k : Keeps next p) : Keeps next (p.widen h) := by
  unfold Parse.widen
  split <;> exact k

theorem TokenKind.insideTag_of_isBlockCloser {k : TokenKind} (h : k.isBlockCloser) :
    k.insideTag := by
  cases k <;> simp_all [TokenKind.isBlockCloser, TokenKind.insideTag]

section Nodes

variable {src : ParseSource} [src.FoldsMinus]
set_option linter.unusedSectionVars false

omit [src.FoldsMinus] in
/-- Inside a tag, taking its `%>` fails in shape or leaves a layout. -/
theorem expectKind_tagEnd_keeps {expected : String} {ts : List Token} {res} (inTag : InTag ts)
    (h : expectKind src .tagEnd expected ts = res)
    (notNode : expected ≠ "text or tag" := by decide) : Keeps Layout res := by
  subst h
  cases taken : expectKind src .tagEnd expected ts with
  | error err => exact expectKind_fault inTag taken notNode
  | ok v =>
    obtain ⟨split, isClose⟩ := expectKind_sound taken
    rw [split] at inTag
    exact inTag.close isClose

theorem parseTagExpr_keeps {ts : List Token} {res} (inTag : InTag ts)
    (h : parseTagExpr src ts = res) : Keeps Layout res := by
  subst h
  unfold parseTagExpr
  split
  next _ err he => exact parseExpr_fault inTag he
  next _ e r1 hr1 he =>
    obtain ⟨pre, split1, d⟩ := parseExpr_sound he
    have afterExpr := inTag.after split1 d.insideTag
    split
    next _ err hclose => exact expectKind_fault afterExpr hclose
    next _ close r2 hr2 hclose => exact (expectKind_tagEnd_keeps afterExpr hclose).rest

theorem parseRenderArguments_keeps {acc : List Expr} {ts : List Token} {res} (inTag : InTag ts)
    (h : parseRenderArguments src acc ts = res) : Keeps Layout res := by
  subst h
  rw [parseRenderArguments]
  split
  next _ err he => exact parseExpr_fault inTag he
  next _ e r1 hr1 he =>
    obtain ⟨pre, split1, d⟩ := parseExpr_sound he
    have afterExpr := inTag.after split1 d.insideTag
    split
    next c r2 hr1' =>
      have shorter : r2.length < ts.length := Nat.lt_of_lt_of_le (Nat.lt_succ_self _) hr1'
      split
      next isComma =>
        have afterComma := afterExpr.tail (Token.insideTag_of_kind isComma)
        split
        next _ err hrest => exact (parseRenderArguments_keeps afterComma hrest).fault
        next _ v r3 hr3 hrest => exact (parseRenderArguments_keeps afterComma hrest).rest
      next =>
        split
        next isClose => exact afterExpr.close isClose
        next => exact afterExpr.unexpectedAt_fault src
    next => exact absurd afterExpr InTag.not_nil
termination_by ts.length
decreasing_by all_goals (subst_vars; omega)

theorem parseRenderShorthand_keeps {start : Token} {ts : List Token} {res} (inTag : InTag ts)
    (h : parseRenderShorthand src start ts = res) : Keeps Layout res := by
  subst h
  unfold parseRenderShorthand
  dsimp only
  split
  next t rest =>
    split
    next isClose => exact inTag.close isClose
    next =>
      split
      next _ err hargs => exact (parseRenderArguments_keeps inTag hargs).fault
      next _ args close r1 hr1 hargs => exact (parseRenderArguments_keeps inTag hargs).rest
  next => exact absurd inTag InTag.not_nil

mutual

theorem parseBody_keeps {opener : Token} {construct : String} {acc : List Node} {ts : List Token}
    {res} (layout : Layout ts) (h : parseBody src opener construct acc ts = res) :
    Keeps InTag res := by
  subst h
  rw [parseBody.eq_def]
  split
  next t rest =>
    split
    next => rfl
    next notEnd =>
      split
      next atCloser =>
        obtain ⟨isStart, closes⟩ := atCloser
        have inTag := layout.of_opener (Token.opensTag_of_kind isStart)
        split
        next k r2 =>
          exact inTag.tail
            (TokenKind.insideTag_of_isBlockCloser (by simpa [currentToken] using closes))
        next => simp [currentToken, endToken, TokenKind.isBlockCloser] at closes
      next =>
        split
        next _ err hnode => exact (parseNode_keeps layout notEnd hnode).fault
        next _ n r1 hr1 hnode =>
          have layout' : Layout r1 := (parseNode_keeps layout notEnd hnode).rest
          split
          next _ err hrest => exact (parseBody_keeps layout' hrest).fault
          next _ v r2 hr2 hrest => exact (parseBody_keeps layout' hrest).rest
  next => rfl
termination_by 10 * ts.length + 1
decreasing_by all_goals (subst_vars; (try simp only [List.length_cons]); omega)

theorem parseNode_keeps {t : Token} {rest : List Token} {res} (layout : Layout (t :: rest))
    (notEnd : t.kind ≠ .eof) (h : parseNode src t rest = res) : Keeps Layout res := by
  subst h
  rw [parseNode.eq_def]
  split
  next isText => exact layout.of_text isText
  next isOutput =>
    have inTag := layout.of_opener (Token.opensTag_of_kind isOutput)
    split
    next _ err he => exact (parseTagExpr_keeps inTag he).fault
    next _ e close r1 hr1 he => exact (parseTagExpr_keeps inTag he).rest
  next isRaw =>
    have inTag := layout.of_opener (Token.opensTag_of_kind isRaw)
    split
    next _ err he => exact (parseTagExpr_keeps inTag he).fault
    next _ e close r1 hr1 he => exact (parseTagExpr_keeps inTag he).rest
  next isRender =>
    exact parseRenderShorthand_keeps (layout.of_opener (Token.opensTag_of_kind isRender)) rfl
  next isStart =>
    have inTag := layout.of_opener (Token.opensTag_of_kind isStart)
    split
    next k r2 =>
      split
      next isIf =>
        exact (parseIf_keeps (inTag.tail (Token.insideTag_of_kind isIf)) rfl).widen
      next =>
        split
        next isFor =>
          exact (parseFor_keeps (inTag.tail (Token.insideTag_of_kind isFor)) rfl).widen
        next =>
          split
          next isClose => exact inTag.close isClose
          next =>
            split
            next _ err he => exact (parseTagExpr_keeps inTag he).fault
            next _ e close r1 hr1 he => exact (parseTagExpr_keeps inTag he).rest
    next => exact absurd inTag InTag.not_nil
  next notText notOutput notRaw notRender notStart =>
    -- a layout starts with the end, a text run or an opener: the fallback is never taken
    rcases layout.cons with isEnd | ⟨isText, -⟩ | ⟨opens, -⟩
    · exact absurd isEnd notEnd
    · exact absurd isText notText
    · revert opens notOutput notRaw notRender notStart
      cases t.kind <;> simp [TokenKind.opensTag]
termination_by 10 * rest.length + 9
decreasing_by all_goals (subst_vars; (try simp only [List.length_cons]); omega)

theorem parseIf_keeps {start ifTok : Token} {ts : List Token} {res} (inTag : InTag ts)
    (h : parseIf src start ifTok ts = res) : Keeps Layout res := by
  subst h
  rw [parseIf]
  split
  next _ err hcond => exact (parseTagExpr_keeps inTag hcond).fault
  next _ condition close r1 hr1 hcond =>
    have layout : Layout r1 := (parseTagExpr_keeps inTag hcond).rest
    split
    next _ err hbody => exact (parseBody_keeps layout hbody).fault
    next _ body closer r2 hr2 hbody =>
      have inTag' : InTag r2 := (parseBody_keeps layout hbody).rest
      split
      next _ err hrest => exact (parseIfRest_keeps inTag' hrest).fault
      next _ n r3 hr3 hrest => exact (parseIfRest_keeps inTag' hrest).rest
termination_by 10 * ts.length + 9
decreasing_by all_goals (subst_vars; omega)

theorem parseIfRest_keeps {start ifTok : Token} {condition : Expr} {body : List Node}
    {branches : List Branch} {closer : Token} {ts : List Token} {res} (inTag : InTag ts)
    (h : parseIfRest src start ifTok condition body branches closer ts = res) :
    Keeps Layout res := by
  subst h
  rw [parseIfRest]
  split
  next =>
    split
    next _ err hcond => exact (parseTagExpr_keeps inTag hcond).fault
    next _ c close r1 hr1 hcond =>
      have layout : Layout r1 := (parseTagExpr_keeps inTag hcond).rest
      split
      next _ err hbody => exact (parseBody_keeps layout hbody).fault
      next _ nodes next r2 hr2 hbody =>
        have inTag' : InTag r2 := (parseBody_keeps layout hbody).rest
        dsimp only
        split
        next _ err hrest => exact (parseIfRest_keeps inTag' hrest).fault
        next _ n r3 hr3 hrest => exact (parseIfRest_keeps inTag' hrest).rest
  next =>
    split
    next =>
      split
      next _ err hclose => exact expectKind_fault inTag hclose
      next _ tok r1 hr1 hclose =>
        have layout : Layout r1 := (expectKind_tagEnd_keeps inTag hclose).rest
        split
        next _ err hbody => exact (parseBody_keeps layout hbody).fault
        next _ elseBody last r2 hr2 hbody =>
          have inTag' : InTag r2 := (parseBody_keeps layout hbody).rest
          split
          next =>
            split
            next _ err hend => exact (expectKind_tagEnd_keeps inTag' hend).fault
            next _ close r3 hr3 hend => exact (expectKind_tagEnd_keeps inTag' hend).rest
          next => rfl
    next =>
      split
      next _ err hclose => exact (expectKind_tagEnd_keeps inTag hclose).fault
      next _ close r1 hr1 hclose => exact (expectKind_tagEnd_keeps inTag hclose).rest
termination_by 10 * ts.length + 8
decreasing_by all_goals (subst_vars; omega)

theorem parseFor_keeps {start forTok : Token} {ts : List Token} {res} (inTag : InTag ts)
    (h : parseFor src start forTok ts = res) : Keeps Layout res := by
  subst h
  rw [parseFor]
  split
  next _ err htargets => exact parseTargets_fault inTag htargets
  next _ targets r1 hr1 htargets =>
    obtain ⟨pre, ns, split1, d, -⟩ := parseTargets_sound htargets
    have afterTargets : InTag r1 := inTag.after split1 d.insideTag
    split
    next _ err hin => exact expectKind_fault afterTargets hin
    next _ inTok r2 hr2 hin =>
      obtain ⟨split2, isIn⟩ := expectKind_sound hin
      rw [split2] at afterTargets
      have afterIn := afterTargets.tail (Token.insideTag_of_kind isIn)
      split
      next _ err hiter => exact (parseTagExpr_keeps afterIn hiter).fault
      next _ iterable close r3 hr3 hiter =>
        have layout : Layout r3 := (parseTagExpr_keeps afterIn hiter).rest
        split
        next _ err hbody => exact (parseBody_keeps layout hbody).fault
        next _ body closer r4 hr4 hbody =>
          have inTag' : InTag r4 := (parseBody_keeps layout hbody).rest
          split
          next =>
            split
            next _ err hclose => exact (expectKind_tagEnd_keeps inTag' hclose).fault
            next _ close r5 hr5 hclose => exact (expectKind_tagEnd_keeps inTag' hclose).rest
          next => rfl
termination_by 10 * ts.length + 9
decreasing_by all_goals (subst_vars; omega)

end

theorem parseTopLevel_fault {acc : List Node} {ts : List Token} {e : TemplateError}
    (layout : Layout ts) (h : parseTopLevel src acc ts = .error e) :
    e.fault.outOfShape = false := by
  rw [parseTopLevel.eq_def] at h
  split at h
  next t rest =>
    split at h
    next => cases h
    next notEnd =>
      split at h
      next =>
        cases h
        rfl
      next =>
        split at h
        next _ err hnode =>
          cases h
          exact (parseNode_keeps layout notEnd hnode).fault
        next _ n r1 hr1 hnode =>
          have layout' : Layout r1 := (parseNode_keeps layout notEnd hnode).rest
          split at h
          next _ err hrest =>
            cases h
            exact parseTopLevel_fault layout' hrest
          next => cases h
  next => cases h
termination_by ts.length
decreasing_by all_goals (subst_vars; (try simp only [List.length_cons]); omega)

end Nodes

theorem Template.ofTokens_fault {tokens : List Token} {source : String} {name : Option String}
    {e : TemplateError} (layout : Layout tokens)
    (h : Template.ofTokens tokens source name = .error e) :
    e.fault.outOfShape = false := by
  unfold Template.ofTokens at h
  dsimp only at h
  split at h
  next _ err htop =>
    cases h
    exact parseTopLevel_fault layout htop
  next => cases h

/-- Every text that scans gives tokens in the two-mode shape of the scanner, and the
parse of every text fails, if it does, with no fault out of shape: never at an end
of the text where the grammar needs more, and never at a node that is neither text
nor a tag. -/
theorem Template.parse_in_shape (s : String) (file : Option String) :
    (∀ tokens, Token.scan s file = .ok tokens → Shape s tokens) ∧
      ∀ e, Template.parse s file = .error (.template e) → e.fault.outOfShape = false := by
  refine ⟨fun _ scanned => Token.scan_shape scanned, fun e failed => ?_⟩
  unfold Template.parse at failed
  split at failed
  next f scanFails =>
    cases failed
    exact Fault.outOfShape_of_ofScan (Token.scan_error scanFails)
  next tokens scanned =>
    cases parsed : Template.ofTokens tokens s file with
    | error err =>
      rw [parsed] at failed
      cases failed
      exact Template.ofTokens_fault (Token.scan_shape scanned).units parsed
    | ok template =>
      rw [parsed] at failed
      cases failed

end Stencil
