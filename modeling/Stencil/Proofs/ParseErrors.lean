import Stencil.Proofs.ParseLayout
import Stencil.Proofs.ScanErrors

/-!
# The line an error shows

Every error of a parse is placed at a character of its text, located by its offset, and
shows the line of the text there; how that line is cut depends on what raised the error.
The scanner cuts the text at every line break (`Token.scan_error_site`). The parser cuts
it at line feeds only, as the renderer does: it raises an error at a token it has read or
at the keyword of the block it is in, and shows the line where that token starts
(`ParseSource.Reports`), unless the tokens end where the grammar needs more, which
scanned tokens never do (`Template.ofTokens_fault`). Every parsing function keeps to
this, since the tokens it leaves are the end of those it was given.

So the two cuttings agree on a text whose only line breaks are line feeds; on another
text, an error of the scanner may show a line other than the one its location counts.
The main statement is `Template.parse_error_line`.
-/

namespace Stencil

/-- How the parser reports an error of its own: at the end of the tokens where the
grammar needs more, or at one of `tokens`, showing the line of the text where that token
starts. -/
def ParseSource.Reports (src : ParseSource) (tokens : List Token) (e : TemplateError) : Prop :=
  e.fault.ofScan = false ∧
    ((∃ expected, e.fault = .unexpectedEnd expected) ∨
      ∃ t ∈ tokens, e.span = some t.span ∧ e.sourceLine = src.lineOf t.span)

namespace ParseSource

variable {src : ParseSource} {tokens : List Token}

/-- An error of the parser's own at a token, with the line of the token. -/
theorem reports_at {t : Token} (mem : t ∈ tokens) {φ : Fault} (own : φ.ofScan = false) :
    src.Reports tokens (TemplateError.at_ φ t.span (src.lineOf t.span)) :=
  ⟨own, .inr ⟨t, mem, rfl, rfl⟩⟩

/-- The error for a token other than the one expected is reported at that token, or at
the end of the tokens. -/
theorem reports_unexpectedAt {ts : List Token} (within : ts ⊆ tokens) (expected : String) :
    src.Reports tokens (unexpectedAt src ts expected) := by
  cases ts with
  | nil => exact ⟨rfl, .inl ⟨expected, rfl⟩⟩
  | cons t rest =>
    unfold unexpectedAt
    by_cases atEnd : t.kind = .eof
    · simp only [currentToken, atEnd, if_true]
      exact ⟨rfl, .inl ⟨expected, rfl⟩⟩
    · simp only [currentToken, atEnd, if_false]
      exact reports_at (within List.mem_cons_self) rfl

end ParseSource

open ParseSource

/-- The tokens a parse leaves are among those it was given. -/
theorem subset_of_split {tokens ts pre r : List Token} (within : ts ⊆ tokens)
    (split : ts = pre ++ r) : r ⊆ tokens := by
  subst split
  exact (List.append_subset.1 within).2

/-- A widened parse fails as the parse it widens. -/
theorem Parse.eq_error_of_widen {ts us : List Token} {α : Type} {p : Parse us α}
    {fewer : us.length ≤ ts.length} {e : TemplateError} (h : p.widen fewer = .error e) :
    p = .error e := by
  unfold Parse.widen at h
  split at h
  next => cases h; rfl
  next => cases h

/-! ## Expressions -/

section Expressions

variable {src : ParseSource} {tokens : List Token}

theorem expectKind_reports {kind : TokenKind} {expected : String} {ts : List Token}
    {e : TemplateError} (within : ts ⊆ tokens) (h : expectKind src kind expected ts = .error e) :
    src.Reports tokens e := by
  unfold expectKind at h
  split at h
  next =>
    split at h
    next => cases h
    next =>
      cases h
      exact reports_unexpectedAt within expected
  next =>
    cases h
    exact reports_unexpectedAt within expected

-- From here on the lemmas read derivations off the parser, which needs the source to fold
-- a minus as the grammar does. The linter sees only the calls a body makes by name, not
-- those its mutual recursion makes.
variable [src.FoldsMinus]
set_option linter.unusedSectionVars false

mutual

theorem parseExpr_reports {ts : List Token} {e : TemplateError} (within : ts ⊆ tokens)
    (h : parseExpr src ts = .error e) : src.Reports tokens e := by
  rw [parseExpr] at h
  split at h
  next _ err hfirst =>
    cases h
    exact parsePostfix_reports within hfirst
  next _ left r1 hr1 hfirst =>
    split at h
    next _ err hrest =>
      cases h
      obtain ⟨pre, split1, -⟩ := parsePostfix_sound hfirst
      exact parseEqualityRest_reports (subset_of_split within split1) hrest
    next => cases h
termination_by 10 * ts.length + 7
decreasing_by all_goals (subst_vars; omega)

theorem parseEqualityRest_reports {left : Expr} {ts : List Token} {e : TemplateError}
    (within : ts ⊆ tokens) (h : parseEqualityRest src left ts = .error e) :
    src.Reports tokens e := by
  rw [parseEqualityRest.eq_def] at h
  split at h
  next t rest =>
    have afterOp := List.subset_of_cons_subset within
    split at h
    next =>
      split at h
      next _ err hright =>
        cases h
        exact parsePostfix_reports afterOp hright
      next _ right r1 hr1 hright =>
        dsimp only at h
        -- name the operator, so that the next split is the one on the chain's rest
        generalize (if t.kind = .eq then Equality.eq else Equality.ne) = op at h
        split at h
        next _ err hrest =>
          cases h
          obtain ⟨pre, split1, -⟩ := parsePostfix_sound hright
          exact parseEqualityRest_reports (subset_of_split afterOp split1) hrest
        next => cases h
    next => cases h
  next => cases h
termination_by 10 * ts.length + 6
decreasing_by all_goals (subst_vars; simp only [List.length_cons] at *; omega)

theorem parsePostfix_reports {ts : List Token} {e : TemplateError} (within : ts ⊆ tokens)
    (h : parsePostfix src ts = .error e) : src.Reports tokens e := by
  rw [parsePostfix] at h
  split at h
  next _ err hoperand =>
    cases h
    exact parseUnary_reports within hoperand
  next _ operand r1 hr1 hoperand =>
    split at h
    next _ err hrest =>
      cases h
      obtain ⟨pre, split1, -⟩ := parseUnary_sound hoperand
      exact parsePostfixRest_reports (subset_of_split within split1) hrest
    next => cases h
termination_by 10 * ts.length + 5
decreasing_by all_goals (subst_vars; omega)

theorem parsePostfixRest_reports {e0 : Expr} {ts : List Token} {e : TemplateError}
    (within : ts ⊆ tokens) (h : parsePostfixRest src e0 ts = .error e) :
    src.Reports tokens e := by
  rw [parsePostfixRest.eq_def] at h
  split at h
  next t rest =>
    have afterFirst := List.subset_of_cons_subset within
    split at h
    next =>
      split at h
      next i rest2 =>
        have afterName := List.subset_of_cons_subset afterFirst
        split at h
        next =>
          dsimp only at h
          split at h
          next _ err hrest =>
            cases h
            exact parsePostfixRest_reports afterName hrest
          next => cases h
        next =>
          split at h
          next =>
            split at h
            next =>
              split at h
              next _ err hargs =>
                cases h
                exact parseArguments_reports afterName hargs
              next _ args stop r1 hr1 hargs =>
                dsimp only at h
                split at h
                next _ err hrest =>
                  cases h
                  obtain ⟨pre, split1, -⟩ := parseArguments_sound hargs
                  exact parsePostfixRest_reports (subset_of_split afterName split1) hrest
                next => cases h
            next =>
              dsimp only at h
              split at h
              next _ err hrest =>
                cases h
                exact parsePostfixRest_reports afterName hrest
              next => cases h
          next =>
            cases h
            exact reports_unexpectedAt afterFirst _
      next =>
        cases h
        exact reports_unexpectedAt (List.nil_subset _) _
    next =>
      split at h
      next =>
        split at h
        next _ err hindex =>
          cases h
          exact parseExpr_reports afterFirst hindex
        next _ index r1 hr1 hindex =>
          obtain ⟨pre, split1, -⟩ := parseExpr_sound hindex
          have afterIndex := subset_of_split afterFirst split1
          split at h
          next c r2 hr1' =>
            have shorter : r2.length < rest.length :=
              Nat.lt_of_lt_of_le (Nat.lt_succ_self _) hr1'
            split at h
            next =>
              dsimp only at h
              split at h
              next _ err hrest =>
                cases h
                exact parsePostfixRest_reports (List.subset_of_cons_subset afterIndex) hrest
              next => cases h
            next =>
              cases h
              exact reports_unexpectedAt afterIndex _
          next =>
            cases h
            exact reports_unexpectedAt (List.nil_subset _) _
      next => cases h
  next => cases h
termination_by 10 * ts.length + 4
decreasing_by all_goals (subst_vars; simp only [List.length_cons] at *; omega)

theorem parseUnary_reports {ts : List Token} {e : TemplateError} (within : ts ⊆ tokens)
    (h : parseUnary src ts = .error e) : src.Reports tokens e := by
  rw [parseUnary.eq_def] at h
  split at h
  next t rest =>
    split at h
    next =>
      split at h
      next _ err hoperand =>
        cases h
        exact parseUnary_reports (List.subset_of_cons_subset within) hoperand
      next => cases h
    next => exact parsePrimary_reports within h
  next => exact parsePrimary_reports within h
termination_by 10 * ts.length + 3
decreasing_by all_goals (subst_vars; simp only [List.length_cons] at *; omega)

theorem parsePrimary_reports {ts : List Token} {e : TemplateError} (within : ts ⊆ tokens)
    (h : parsePrimary src ts = .error e) : src.Reports tokens e := by
  rw [parsePrimary.eq_def] at h
  split at h
  next t rest =>
    have afterFirst := List.subset_of_cons_subset within
    split at h
    next => cases h
    next =>
      split at h
      next =>
        split at h
        next =>
          split at h
          next _ err hargs =>
            cases h
            exact parseArguments_reports afterFirst hargs
          next => cases h
        next => cases h
      next =>
        split at h
        next =>
          split at h
          next _ err helements =>
            cases h
            exact parseElements_reports afterFirst helements
          next => cases h
        next =>
          split at h
          next =>
            split at h
            next _ err hinner =>
              cases h
              exact parseExpr_reports afterFirst hinner
            next _ inner r1 hr1 hinner =>
              obtain ⟨pre, split1, -⟩ := parseExpr_sound hinner
              have afterInner := subset_of_split afterFirst split1
              split at h
              next c r2 hr1' =>
                split at h
                next => cases h
                next =>
                  cases h
                  exact reports_unexpectedAt afterInner _
              next =>
                cases h
                exact reports_unexpectedAt (List.nil_subset _) _
          next =>
            cases h
            exact reports_unexpectedAt within _
  next =>
    cases h
    exact reports_unexpectedAt (List.nil_subset _) _
termination_by 10 * ts.length + 2
decreasing_by all_goals (subst_vars; (try simp only [List.length_cons]); omega)

theorem parseArguments_reports {ts : List Token} {e : TemplateError} (within : ts ⊆ tokens)
    (h : parseArguments src ts = .error e) : src.Reports tokens e := by
  rw [parseArguments.eq_def] at h
  split at h
  next t rest =>
    have afterOpen := List.subset_of_cons_subset within
    split at h
    next =>
      split at h
      next c r2 =>
        split at h
        next => cases h
        next =>
          split at h
          next _ err hlist =>
            cases h
            exact parseArgumentList_reports afterOpen hlist
          next => cases h
      next => exact parseArgumentList_reports (List.nil_subset _) (Parse.eq_error_of_widen h)
    next =>
      cases h
      exact reports_unexpectedAt within _
  next =>
    cases h
    exact reports_unexpectedAt (List.nil_subset _) _
termination_by 10 * ts.length + 1
decreasing_by all_goals (subst_vars; simp only [List.length_cons] at *; omega)

theorem parseArgumentList_reports {acc : List Expr} {ts : List Token} {e : TemplateError}
    (within : ts ⊆ tokens) (h : parseArgumentList src acc ts = .error e) :
    src.Reports tokens e := by
  rw [parseArgumentList] at h
  split at h
  next _ err he =>
    cases h
    exact parseExpr_reports within he
  next _ e1 r1 hr1 he =>
    obtain ⟨pre, split1, -⟩ := parseExpr_sound he
    have afterExpr := subset_of_split within split1
    split at h
    next c r2 hr1' =>
      have shorter : r2.length < ts.length := Nat.lt_of_lt_of_le (Nat.lt_succ_self _) hr1'
      split at h
      next =>
        split at h
        next _ err hrest =>
          cases h
          exact parseArgumentList_reports (List.subset_of_cons_subset afterExpr) hrest
        next => cases h
      next =>
        split at h
        next => cases h
        next =>
          cases h
          exact reports_unexpectedAt afterExpr _
    next =>
      cases h
      exact reports_unexpectedAt (List.nil_subset _) _
termination_by 10 * ts.length + 8
decreasing_by all_goals (subst_vars; omega)

theorem parseElements_reports {acc : List Expr} {ts : List Token} {e : TemplateError}
    (within : ts ⊆ tokens) (h : parseElements src acc ts = .error e) :
    src.Reports tokens e := by
  rw [parseElements.eq_def] at h
  split at h
  next c rest =>
    split at h
    next => cases h
    next =>
      split at h
      next _ err he =>
        cases h
        exact parseExpr_reports within he
      next _ e1 r1 hr1 he =>
        obtain ⟨pre, split1, -⟩ := parseExpr_sound he
        have afterExpr := subset_of_split within split1
        split at h
        next d' r2 hr1' =>
          have shorter : r2.length < (c :: rest).length :=
            Nat.lt_of_lt_of_le (Nat.lt_succ_self _) hr1'
          split at h
          next =>
            split at h
            next _ err hrest =>
              cases h
              exact parseElements_reports (List.subset_of_cons_subset afterExpr) hrest
            next => cases h
          next =>
            split at h
            next => cases h
            next =>
              cases h
              exact reports_unexpectedAt afterExpr _
        next =>
          cases h
          exact reports_unexpectedAt (List.nil_subset _) _
  next =>
    split at h
    next _ err he =>
      cases h
      exact parseExpr_reports (List.nil_subset _) he
    next =>
      cases h
      exact reports_unexpectedAt (List.nil_subset _) _
termination_by 10 * ts.length + 9
decreasing_by all_goals (subst_vars; omega)

end

omit [src.FoldsMinus] in
theorem parseTargets_reports {acc : List String} {ts : List Token} {e : TemplateError}
    (within : ts ⊆ tokens) (h : parseTargets src acc ts = .error e) : src.Reports tokens e := by
  rw [parseTargets.eq_def] at h
  split at h
  next t rest =>
    split at h
    next =>
      split at h
      next c r2 =>
        split at h
        next =>
          split at h
          next _ err hrest =>
            cases h
            exact parseTargets_reports
              (List.subset_of_cons_subset (List.subset_of_cons_subset within)) hrest
          next => cases h
        next => cases h
      next => cases h
    next =>
      cases h
      exact reports_unexpectedAt within _
  next =>
    cases h
    exact reports_unexpectedAt (List.nil_subset _) _
termination_by ts.length
decreasing_by all_goals (subst_vars; (try simp only [List.length_cons]); omega)

end Expressions

/-! ## Nodes

A block's body that reaches the end of the tokens is reported at the keyword that opened
the block, and a closer out of place at the closer; both are tokens read. -/

section Nodes

variable {src : ParseSource} [src.FoldsMinus] {tokens : List Token}

theorem parseTagExpr_reports {ts : List Token} {e : TemplateError} (within : ts ⊆ tokens)
    (h : parseTagExpr src ts = .error e) : src.Reports tokens e := by
  unfold parseTagExpr at h
  split at h
  next _ err he =>
    cases h
    exact parseExpr_reports within he
  next _ e1 r1 hr1 he =>
    obtain ⟨pre, split1, -⟩ := parseExpr_sound he
    split at h
    next _ err hclose =>
      cases h
      exact expectKind_reports (subset_of_split within split1) hclose
    next => cases h

theorem parseRenderArguments_reports {acc : List Expr} {ts : List Token} {e : TemplateError}
    (within : ts ⊆ tokens) (h : parseRenderArguments src acc ts = .error e) :
    src.Reports tokens e := by
  rw [parseRenderArguments] at h
  split at h
  next _ err he =>
    cases h
    exact parseExpr_reports within he
  next _ e1 r1 hr1 he =>
    obtain ⟨pre, split1, -⟩ := parseExpr_sound he
    have afterExpr := subset_of_split within split1
    split at h
    next c r2 hr1' =>
      have shorter : r2.length < ts.length := Nat.lt_of_lt_of_le (Nat.lt_succ_self _) hr1'
      split at h
      next =>
        split at h
        next _ err hrest =>
          cases h
          exact parseRenderArguments_reports (List.subset_of_cons_subset afterExpr) hrest
        next => cases h
      next =>
        split at h
        next => cases h
        next =>
          cases h
          exact reports_unexpectedAt afterExpr _
    next =>
      cases h
      exact reports_unexpectedAt (List.nil_subset _) _
termination_by ts.length
decreasing_by all_goals (subst_vars; omega)

theorem parseRenderShorthand_reports {start : Token} {ts : List Token} {e : TemplateError}
    (within : ts ⊆ tokens) (h : parseRenderShorthand src start ts = .error e) :
    src.Reports tokens e := by
  unfold parseRenderShorthand at h
  dsimp only at h
  split at h
  next t rest =>
    split at h
    next => cases h
    next =>
      split at h
      next _ err hargs =>
        cases h
        exact parseRenderArguments_reports within hargs
      next => cases h
  next =>
    cases h
    exact reports_unexpectedAt (List.nil_subset _) _

mutual

theorem parseBody_reports {opener : Token} {construct : String} {acc : List Node}
    {ts : List Token} {e : TemplateError} (openerIn : opener ∈ tokens) (within : ts ⊆ tokens)
    (h : parseBody src opener construct acc ts = .error e) : src.Reports tokens e := by
  rw [parseBody.eq_def] at h
  split at h
  next t rest =>
    split at h
    next =>
      cases h
      exact reports_at openerIn rfl
    next =>
      split at h
      next => split at h <;> cases h
      next =>
        split at h
        next _ err hnode =>
          cases h
          exact parseNode_reports within hnode
        next _ n r1 hr1 hnode =>
          split at h
          next _ err hrest =>
            cases h
            obtain ⟨pre, split1, -⟩ := parseNode_sound hnode
            exact parseBody_reports openerIn
              (subset_of_split (List.subset_of_cons_subset within) split1) hrest
          next => cases h
  next =>
    cases h
    exact reports_at openerIn rfl
termination_by 10 * ts.length + 1
decreasing_by all_goals (subst_vars; (try simp only [List.length_cons]); omega)

theorem parseNode_reports {t : Token} {rest : List Token} {e : TemplateError}
    (within : t :: rest ⊆ tokens) (h : parseNode src t rest = .error e) : src.Reports tokens e := by
  have afterFirst := List.subset_of_cons_subset within
  rw [parseNode.eq_def] at h
  split at h
  next => cases h
  next =>
    split at h
    next _ err he =>
      cases h
      exact parseTagExpr_reports afterFirst he
    next => cases h
  next =>
    split at h
    next _ err he =>
      cases h
      exact parseTagExpr_reports afterFirst he
    next => cases h
  next => exact parseRenderShorthand_reports afterFirst h
  next =>
    split at h
    next k r2 =>
      have keyword : k ∈ tokens := afterFirst List.mem_cons_self
      have afterKeyword := List.subset_of_cons_subset afterFirst
      split at h
      next => exact parseIf_reports keyword afterKeyword (Parse.eq_error_of_widen h)
      next =>
        split at h
        next => exact parseFor_reports keyword afterKeyword (Parse.eq_error_of_widen h)
        next =>
          split at h
          next => cases h
          next =>
            split at h
            next _ err he =>
              cases h
              exact parseTagExpr_reports afterFirst he
            next => cases h
    next =>
      split at h
      next _ err he =>
        cases h
        exact parseTagExpr_reports afterFirst he
      next _ _ fewer _ => exact absurd fewer (Nat.not_lt_zero _)
  next =>
    cases h
    exact reports_unexpectedAt within _
termination_by 10 * rest.length + 9
decreasing_by all_goals (subst_vars; (try simp only [List.length_cons]); omega)

theorem parseIf_reports {start ifTok : Token} {ts : List Token} {e : TemplateError}
    (ifIn : ifTok ∈ tokens) (within : ts ⊆ tokens) (h : parseIf src start ifTok ts = .error e) :
    src.Reports tokens e := by
  rw [parseIf] at h
  split at h
  next _ err hcond =>
    cases h
    exact parseTagExpr_reports within hcond
  next _ condition close r1 hr1 hcond =>
    obtain ⟨pre, split1, -, -⟩ := parseTagExpr_sound hcond
    have afterCondition := List.subset_of_cons_subset (subset_of_split within split1)
    split at h
    next _ err hbody =>
      cases h
      exact parseBody_reports ifIn afterCondition hbody
    next _ body closer r2 hr2 hbody =>
      obtain ⟨pre2, ns, o, split2, -, -, -, -⟩ := parseBody_sound hbody
      have atCloser := List.subset_of_cons_subset (subset_of_split afterCondition split2)
      split at h
      next _ err hrest =>
        cases h
        exact parseIfRest_reports ifIn (List.subset_of_cons_subset atCloser) hrest
      next => cases h
termination_by 10 * ts.length + 9
decreasing_by all_goals (subst_vars; omega)

theorem parseIfRest_reports {start ifTok : Token} {condition : Expr} {body : List Node}
    {branches : List Branch} {closer : Token} {ts : List Token} {e : TemplateError}
    (ifIn : ifTok ∈ tokens) (within : ts ⊆ tokens)
    (h : parseIfRest src start ifTok condition body branches closer ts = .error e) :
    src.Reports tokens e := by
  rw [parseIfRest] at h
  split at h
  next =>
    split at h
    next _ err hcond =>
      cases h
      exact parseTagExpr_reports within hcond
    next _ c close r1 hr1 hcond =>
      obtain ⟨pre, split1, -, -⟩ := parseTagExpr_sound hcond
      have afterCondition := List.subset_of_cons_subset (subset_of_split within split1)
      split at h
      next _ err hbody =>
        cases h
        exact parseBody_reports ifIn afterCondition hbody
      next _ nodes next r2 hr2 hbody =>
        obtain ⟨pre2, ns, o, split2, -, -, -, -⟩ := parseBody_sound hbody
        have atNext := List.subset_of_cons_subset (subset_of_split afterCondition split2)
        dsimp only at h
        split at h
        next _ err hrest =>
          cases h
          exact parseIfRest_reports ifIn (List.subset_of_cons_subset atNext) hrest
        next => cases h
  next =>
    split at h
    next =>
      split at h
      next _ err hclose =>
        cases h
        exact expectKind_reports within hclose
      next _ tok r1 hr1 hclose =>
        obtain ⟨split1, -⟩ := expectKind_sound hclose
        have afterClose := List.subset_of_cons_subset (split1 ▸ within)
        split at h
        next _ err hbody =>
          cases h
          exact parseBody_reports ifIn afterClose hbody
        next _ elseBody last r2 hr2 hbody =>
          obtain ⟨pre2, ns, o, split2, -, -, -, -⟩ := parseBody_sound hbody
          have atLast := List.subset_of_cons_subset (subset_of_split afterClose split2)
          split at h
          next =>
            split at h
            next _ err hend =>
              cases h
              exact expectKind_reports (List.subset_of_cons_subset atLast) hend
            next => cases h
          next =>
            -- a closer after the `else` branch other than `end`
            cases h
            exact reports_at (atLast List.mem_cons_self) rfl
    next =>
      split at h
      next _ err hclose =>
        cases h
        exact expectKind_reports within hclose
      next => cases h
termination_by 10 * ts.length + 8
decreasing_by all_goals (subst_vars; omega)

theorem parseFor_reports {start forTok : Token} {ts : List Token} {e : TemplateError}
    (forIn : forTok ∈ tokens) (within : ts ⊆ tokens) (h : parseFor src start forTok ts = .error e) :
    src.Reports tokens e := by
  rw [parseFor] at h
  split at h
  next _ err htargets =>
    cases h
    exact parseTargets_reports within htargets
  next _ targets r1 hr1 htargets =>
    obtain ⟨pre, ns, split1, -, -⟩ := parseTargets_sound htargets
    have afterTargets := subset_of_split within split1
    split at h
    next _ err hin =>
      cases h
      exact expectKind_reports afterTargets hin
    next _ inTok r2 hr2 hin =>
      obtain ⟨split2, -⟩ := expectKind_sound hin
      have afterIn : r2 ⊆ tokens :=
        List.subset_of_cons_subset (by rw [← split2]; exact afterTargets)
      split at h
      next _ err hiter =>
        cases h
        exact parseTagExpr_reports afterIn hiter
      next _ iterable close r3 hr3 hiter =>
        obtain ⟨pre3, split3, -, -⟩ := parseTagExpr_sound hiter
        have afterIterable := List.subset_of_cons_subset (subset_of_split afterIn split3)
        split at h
        next _ err hbody =>
          cases h
          exact parseBody_reports forIn afterIterable hbody
        next _ body closer r4 hr4 hbody =>
          obtain ⟨pre4, bs, o, split4, -, -, -, -⟩ := parseBody_sound hbody
          have atCloser := List.subset_of_cons_subset (subset_of_split afterIterable split4)
          split at h
          next =>
            split at h
            next _ err hclose =>
              cases h
              exact expectKind_reports (List.subset_of_cons_subset atCloser) hclose
            next => cases h
          next =>
            -- a closer of the `for` body other than `end`
            cases h
            exact reports_at (atCloser List.mem_cons_self) rfl
termination_by 10 * ts.length + 9
decreasing_by all_goals (subst_vars; omega)

end

theorem parseTopLevel_reports {acc : List Node} {ts : List Token} {e : TemplateError}
    (within : ts ⊆ tokens) (h : parseTopLevel src acc ts = .error e) : src.Reports tokens e := by
  rw [parseTopLevel.eq_def] at h
  split at h
  next t rest =>
    split at h
    next => cases h
    next =>
      split at h
      next atCloser =>
        cases h
        -- the stray closer is the token after `<%`: the end token closes nothing
        obtain ⟨-, closes⟩ := atCloser
        cases rest with
        | nil => simp [currentToken, endToken, TokenKind.isBlockCloser] at closes
        | cons k r2 => exact reports_at (within (List.mem_cons_of_mem t List.mem_cons_self)) rfl
      next =>
        split at h
        next _ err hnode =>
          cases h
          exact parseNode_reports within hnode
        next _ n r1 hr1 hnode =>
          split at h
          next _ err hrest =>
            cases h
            obtain ⟨pre, split1, -⟩ := parseNode_sound hnode
            exact parseTopLevel_reports
              (subset_of_split (List.subset_of_cons_subset within) split1) hrest
          next => cases h
  next => cases h
termination_by ts.length
decreasing_by all_goals (subst_vars; (try simp only [List.length_cons]); omega)

end Nodes

/-- The parser reports its errors at tokens it reads, with the lines of the text cut at
line feeds, or at an end of the tokens where the grammar needs more. -/
theorem Template.ofTokens_reports {tokens : List Token} {source : String} {name : Option String}
    {e : TemplateError} (h : Template.ofTokens tokens source name = .error e) :
    ParseSource.Reports { lines := Text.lineFeedLines source } tokens e := by
  unfold Template.ofTokens at h
  dsimp only at h
  split at h
  next _ err htop =>
    cases h
    exact parseTopLevel_reports (List.Subset.refl _) htop
  next => cases h

/-! ## The line an error shows -/

/-- An error of a parse comes from the scan of the text, or from the parse of the tokens
the scan reads. -/
theorem Template.parse_error_cases {s : String} {name : Option String} {e : TemplateError}
    (h : Template.parse s name = .error (.template e)) :
    Token.scan s name = .error (.template e) ∨
      ∃ tokens, Token.scan s name = .ok tokens ∧ Template.ofTokens tokens s name = .error e := by
  unfold Template.parse at h
  split at h
  next f scanFails =>
    cases h
    exact .inl scanFails
  next tokens scanned =>
    cases parsed : Template.ofTokens tokens s name with
    | error err =>
      rw [parsed] at h
      cases h
      exact .inr ⟨tokens, scanned, parsed⟩
    | ok template =>
      rw [parsed] at h
      cases h

/-- The empty text parses. -/
theorem Template.parse_empty (name : Option String) : ∃ t, Template.parse "" name = .ok t := by
  have scanned : Token.scan "" name =
      .ok [⟨.eof, .none, "", ⟨Location.initial name, Location.initial name⟩⟩] := by
    unfold Token.scan
    rw [String.toList_empty, scanFrom.eq_1]
    rfl
  unfold Template.parse
  rw [scanned]
  simp [Template.ofTokens, parseTopLevel.eq_def, Except.mapError]

/-- An error of the parser on a scanned text is placed at a token of the text, located
by its offset, and shows the line there with the text cut at line feeds. -/
theorem Template.ofTokens_error_line {s : String} {name : Option String} {tokens : List Token}
    {e : TemplateError} (scanned : Token.scan s name = .ok tokens)
    (h : Template.ofTokens tokens s name = .error e) :
    ∃ t ∈ tokens, e.span = some t.span ∧
      t.span.start = Location.ofOffset name s.toList t.span.start.offset ∧
      t.span.start.offset ≤ s.length ∧
      e.sourceLine = Text.lineAt? (Text.lineFeedLines s) t.span.start.line ∧
      e.fault.ofScan = false := by
  obtain ⟨own, ⟨expected, atEnd⟩ | ⟨t, mem, span, line⟩⟩ := Template.ofTokens_reports h
  · -- scanned tokens never end where the grammar needs more
    have inShape := Template.ofTokens_fault (Token.scan_shape scanned).units h
    rw [atEnd] at inShape
    cases inShape
  · have placed := (Token.scan_tiles scanned).inText t mem
    have within : t.span.start.offset ≤ s.length := by
      have := Nat.le_trans placed.ordered placed.within
      rwa [String.length_toList] at this
    exact ⟨t, mem, span, placed.start, within, line, own⟩

/-- Every error of a parse is placed where its offset says, at a character of the text or
a token read, and shows the line of the text there, cut at every line break for an error
of the scanner and at line feeds for one of the parser. A tag left open is reported at
the last opener read, the one that closing the text with `%>` closes, with the UTF-8
length of the text before it. -/
theorem Template.parse_error_line (s : String) (name : Option String) (e : TemplateError)
    (h : Template.parse s name = .error (.template e)) :
    ∃ sp, e.span = some sp ∧ sp.start = Location.ofOffset name s.toList sp.start.offset ∧
      sp.start.offset ≤ s.length ∧ e.sourceLine.isSome ∧
      (e.fault.ofScan = true → e.sourceLine = Text.lineAt? (Text.breakLines s) sp.start.line) ∧
      (e.fault.ofScan = false →
        e.sourceLine = Text.lineAt? (Text.lineFeedLines s) sp.start.line) ∧
      ∀ b, e.fault = .unterminatedTag b →
        b = ScanSource.byteOffset ⟨s, name⟩ sp.start.offset ∧
        ∃ pre opener inner close last,
          Token.scan (s ++ " %>") name = .ok (pre ++ opener :: inner ++ [close, last]) ∧
          opener.kind.opensTag ∧ opener.span.start = sp.start ∧
          (∀ t ∈ inner, t.kind.insideTag) ∧ close.kind = .tagEnd ∧ last.kind = .eof := by
  rcases Template.parse_error_cases h with scanFails | ⟨tokens, scanned, parsed⟩
  · -- an error of the scanner, at a character of the text
    have ofScan := Token.scan_error scanFails
    obtain ⟨φ, start, stop, rfl, here, inside, which⟩ := Token.scan_error_site scanFails
    refine ⟨⟨start, stop⟩, rfl, here, Nat.le_of_lt inside, ?_, fun _ => rfl, fun own => ?_,
      fun b unterminated => ?_⟩
    · show (Text.lineAt? (Text.breakLines s) start.line).isSome
      rw [here]
      exact Text.lineAt?_breakLines_isSome name inside
    · have scanFault : φ.ofScan = true := ofScan
      have ownFault : φ.ofScan = false := own
      rw [scanFault] at ownFault
      cases ownFault
    · obtain ⟨stop', pre, opener, inner, close, last, placed, closed, opens, insides, isClose,
        isEnd⟩ := Token.scan_close_unterminated scanFails unterminated
      cases unterminated
      have atOpener : start = opener.span.start := by
        cases placed
        rfl
      refine ⟨?_, pre, opener, inner, close, last, closed, opens, atOpener.symm, insides, isClose,
        isEnd⟩
      rcases which with atChar | open_
      · cases atChar
      · cases open_
        rfl
  · -- an error of the parser, at a token read
    obtain ⟨t, -, span, here, within, line, own⟩ := Template.ofTokens_error_line scanned parsed
    have nonempty : s ≠ "" := by
      rintro rfl
      obtain ⟨template, parses⟩ := Template.parse_empty name
      rw [parses] at h
      cases h
    refine ⟨t.span, span, here, within, ?_, fun scan => ?_, fun _ => line, fun b unterminated => ?_⟩
    · rw [line, here]
      exact Text.lineAt?_lineFeedLines_isSome nonempty name
    · rw [own] at scan
      cases scan
    · rw [unterminated] at own
      cases own

/-- A carriage return ends the line an error of the scanner shows, and not the line that
the parser and the renderer count. -/
theorem Template.parse_error_line_return :
    ∃ e, Template.parse "a\rb<%= @ %>" none = .error (.template e) ∧
      e.sourceLine = Text.lineAt? (Text.breakLines "a\rb<%= @ %>") 1 ∧ e.sourceLine = some "a" ∧
      Text.lineAt? (Text.lineFeedLines "a\rb<%= @ %>") 1 = some "a\rb<%= @ %>" := by
  have scanned : Token.scan "a\rb<%= @ %>" none = .error (.template (TemplateError.at_
      (.unexpectedCharacter '@') ⟨⟨1, 8, 7, none⟩, ⟨1, 9, 8, none⟩⟩ (some "a"))) := by
    cbv
  have parsed : Template.parse "a\rb<%= @ %>" none = .error (.template (TemplateError.at_
      (.unexpectedCharacter '@') ⟨⟨1, 8, 7, none⟩, ⟨1, 9, 8, none⟩⟩ (some "a"))) := by
    unfold Template.parse
    rw [scanned]
  obtain ⟨sp, span, -, -, -, scanLine, -, -⟩ := Template.parse_error_line _ _ _ parsed
  cases span
  exact ⟨_, parsed, scanLine rfl, rfl, by cbv⟩

end Stencil
