import Stencil.Proofs.Grammar

/-!
# The parser builds only derivations of the grammar

Every parsing function that succeeds has read a stretch of its input that the
grammar of `Stencil.Proofs.Grammar` derives, and returns the tree of that
derivation together with the tokens after the stretch. The lemmas follow the
parser function by function; each is proved by the same recursion as its
function, on the same measure, and cites the lemmas of the functions it calls.

Functions with an accumulator (the argument lists, the list elements, the loop
variables, a block's body, the `elsif` branches) return what they were given,
reversed, in front of what they derived.
-/

namespace Stencil

variable {src : ParseSource}

/-- The operator the parser builds from an equality token. -/
theorem tokenKind_equalityOf {k : TokenKind} (h : k = .eq ∨ k = .ne) :
    k = (if k = .eq then Equality.eq else Equality.ne).tokenKind := by
  rcases h with rfl | rfl <;> rfl

/-- A parse widened to a longer input returns what it returned. -/
theorem Parse.widen_eq_ok {ts us : List Token} {α : Type} {p : Parse us α}
    {h : us.length ≤ ts.length} {v : α} {r : Rest ts} (hp : p.widen h = .ok (v, r)) :
    ∃ r' : Rest us, p = .ok (v, r') ∧ r'.1 = r.1 := by
  unfold Parse.widen at hp
  split at hp
  next => cases hp
  next v' r' hr' =>
    cases hp
    exact ⟨⟨r', hr'⟩, rfl, rfl⟩

/-- A list literal's elements, with one more in front of a comma. -/
theorem DerivesElements.cons {ts us : List Token} {e : Expr} {k : Token} {es : List Expr}
    {stop : Location} (first : DerivesExpr ts e) (comma : k.kind = .comma)
    (rest : DerivesElements us es stop) : DerivesElements (ts ++ k :: us) (e :: es) stop := by
  cases rest with
  | empty close =>
    have single : DerivesSeparated .comma (ts ++ [k]) [e] k := .last first comma
    simpa using DerivesElements.trailing single close
  | some sep => exact .some (.more first comma sep)
  | trailing sep close =>
    simpa using DerivesElements.trailing (.more first comma sep) close

/-- A token taken by its kind is the first one. -/
theorem expectKind_sound {kind : TokenKind} {expected : String} {ts : List Token} {t : Token}
    {r : { r : List Token // r.length < ts.length }}
    (h : expectKind src kind expected ts = .ok (t, r)) : ts = t :: r.1 ∧ t.kind = kind := by
  unfold expectKind at h
  split at h
  next t' rest =>
    split at h
    next same =>
      cases h
      exact ⟨rfl, same⟩
    next => cases h
  next => cases h

/-! ## Expressions

The expression parsers build derivations of the grammar when the source folds a minus
as the grammar does. Every lemma of their recursion reaches `parseUnary`, where that is
used; the linter sees only the calls a body makes by name. -/

variable [src.FoldsMinus]
set_option linter.unusedSectionVars false

mutual

theorem parseExpr_sound {ts : List Token} {e : Expr} {r : Rest ts}
    (h : parseExpr src ts = .ok (e, r)) : ∃ pre, ts = pre ++ r.1 ∧ DerivesExpr pre e := by
  rw [parseExpr] at h
  split at h
  next => cases h
  next _ first r1 hr1 hfirst =>
    split at h
    next => cases h
    next _ e' r2 hr2 hrest =>
      cases h
      obtain ⟨pre1, split1, d1⟩ := parsePostfix_sound hfirst
      obtain ⟨pre2, split2, d2⟩ := parseEqualityRest_sound hrest
      exact ⟨pre1 ++ pre2, by simp [split1, split2], .chain d1 d2⟩
termination_by 10 * ts.length + 7
decreasing_by all_goals (subst_vars; omega)

theorem parseEqualityRest_sound {left : Expr} {ts : List Token} {e : Expr} {r : Rest ts}
    (h : parseEqualityRest src left ts = .ok (e, r)) :
    ∃ pre, ts = pre ++ r.1 ∧ DerivesEqualities left pre e := by
  rw [parseEqualityRest.eq_def] at h
  split at h
  next t rest =>
    split at h
    next isOp =>
      split at h
      next => cases h
      next _ right r1 hr1 hright =>
        have kindOp := tokenKind_equalityOf isOp
        dsimp only at h
        -- name the operator, so that the next split is the one on the chain's rest
        generalize (if t.kind = .eq then Equality.eq else Equality.ne) = op at h kindOp
        split at h
        next => cases h
        next _ e' r2 hr2 hrest =>
          cases h
          obtain ⟨pre1, split1, d1⟩ := parsePostfix_sound hright
          obtain ⟨pre2, split2, d2⟩ := parseEqualityRest_sound hrest
          exact ⟨t :: (pre1 ++ pre2), by simp [split1, split2], .compare op kindOp d1 d2⟩
    next =>
      cases h
      exact ⟨[], rfl, .done⟩
  next =>
    cases h
    exact ⟨[], rfl, .done⟩
termination_by 10 * ts.length + 6
decreasing_by all_goals (subst_vars; simp only [List.length_cons] at *; omega)

theorem parsePostfix_sound {ts : List Token} {e : Expr} {r : Rest ts}
    (h : parsePostfix src ts = .ok (e, r)) : ∃ pre, ts = pre ++ r.1 ∧ DerivesPostfix pre e := by
  rw [parsePostfix] at h
  split at h
  next => cases h
  next _ operand r1 hr1 hoperand =>
    split at h
    next => cases h
    next _ e' r2 hr2 hrest =>
      cases h
      obtain ⟨pre1, split1, d1⟩ := parseUnary_sound hoperand
      obtain ⟨pre2, split2, d2⟩ := parsePostfixRest_sound hrest
      exact ⟨pre1 ++ pre2, by simp [split1, split2], .chain d1 d2⟩
termination_by 10 * ts.length + 5
decreasing_by all_goals (subst_vars; omega)

theorem parsePostfixRest_sound {e : Expr} {ts : List Token} {result : Expr} {r : Rest ts}
    (h : parsePostfixRest src e ts = .ok (result, r)) :
    ∃ pre, ts = pre ++ r.1 ∧ DerivesSuffixes e pre result := by
  rw [parsePostfixRest.eq_def] at h
  split at h
  next t rest =>
    split at h
    next isDot =>
      split at h
      next i rest2 =>
        split at h
        next isInt =>
          dsimp only at h
          split at h
          next => cases h
          next _ e'' r1 hr1 hrest =>
            cases h
            obtain ⟨pre, split1, d⟩ := parsePostfixRest_sound hrest
            exact ⟨t :: i :: pre, by simp [split1], .position isDot isInt d⟩
        next =>
          split at h
          next isName =>
            split at h
            next =>
              split at h
              next => cases h
              next _ args stop r1 hr1 hargs =>
                dsimp only at h
                split at h
                next => cases h
                next _ e'' r2 hr2 hrest =>
                  cases h
                  obtain ⟨pre1, split1, d1⟩ := parseArguments_sound hargs
                  obtain ⟨pre2, split2, d2⟩ := parsePostfixRest_sound hrest
                  exact ⟨t :: i :: (pre1 ++ pre2), by simp [split1, split2],
                    .methodCall isDot isName d1 d2⟩
            next =>
              dsimp only at h
              split at h
              next => cases h
              next _ e'' r1 hr1 hrest =>
                cases h
                obtain ⟨pre, split1, d⟩ := parsePostfixRest_sound hrest
                exact ⟨t :: i :: pre, by simp [split1], .method isDot isName d⟩
          next => cases h
      next => cases h
    next =>
      split at h
      next isOpen =>
        split at h
        next => cases h
        next _ index r1 hr1 hindex =>
          split at h
          next c r2 hr1' =>
            have shorter : r2.length < rest.length :=
              Nat.lt_of_lt_of_le (Nat.lt_succ_self _) hr1'
            split at h
            next isClose =>
              dsimp only at h
              split at h
              next => cases h
              next _ e'' r3 hr3 hrest =>
                cases h
                obtain ⟨pre1, split1, d1⟩ := parseExpr_sound hindex
                obtain ⟨pre2, split2, d2⟩ := parsePostfixRest_sound hrest
                exact ⟨t :: (pre1 ++ c :: pre2), by simp [split1, split2],
                  .index isOpen d1 isClose d2⟩
            next => cases h
          next => cases h
      next =>
        cases h
        exact ⟨[], rfl, .done⟩
  next =>
    cases h
    exact ⟨[], rfl, .done⟩
termination_by 10 * ts.length + 4
decreasing_by all_goals (subst_vars; simp only [List.length_cons] at *; omega)

theorem parseUnary_sound {ts : List Token} {e : Expr} {r : Rest ts}
    (h : parseUnary src ts = .ok (e, r)) : ∃ pre, ts = pre ++ r.1 ∧ DerivesUnary pre e := by
  rw [parseUnary.eq_def] at h
  split at h
  next t rest =>
    split at h
    next minus =>
      split at h
      next => cases h
      next _ operand r1 hr1 hoperand =>
        cases h
        obtain ⟨pre, split1, d⟩ := parseUnary_sound hoperand
        rw [ParseSource.FoldsMinus.negation_eq]
        exact ⟨t :: pre, by simp [split1], .negate minus d⟩
    next =>
      obtain ⟨pre, split1, d⟩ := parsePrimary_sound h
      exact ⟨pre, split1, .primary d⟩
  next =>
    obtain ⟨pre, split1, d⟩ := parsePrimary_sound h
    exact ⟨pre, split1, .primary d⟩
termination_by 10 * ts.length + 3
decreasing_by all_goals (subst_vars; simp only [List.length_cons] at *; omega)

theorem parsePrimary_sound {ts : List Token} {e : Expr} {r : Rest ts}
    (h : parsePrimary src ts = .ok (e, r)) : ∃ pre, ts = pre ++ r.1 ∧ DerivesPrimary pre e := by
  rw [parsePrimary.eq_def] at h
  split at h
  next t rest =>
    split at h
    next lit isLit =>
      cases h
      exact ⟨[t], rfl, .literal isLit⟩
    next =>
      split at h
      next isName =>
        split at h
        next =>
          split at h
          next => cases h
          next _ args stop r1 hr1 hargs =>
            cases h
            obtain ⟨pre, split1, d⟩ := parseArguments_sound hargs
            exact ⟨t :: pre, by simp [split1], .call isName d⟩
        next =>
          cases h
          exact ⟨[t], rfl, .identifier isName⟩
      next =>
        split at h
        next isOpen =>
          split at h
          next => cases h
          next _ elements stop r1 hr1 helements =>
            cases h
            obtain ⟨pre, es, split1, d, rfl⟩ := parseElements_sound helements
            exact ⟨t :: pre, by simp [split1], .list isOpen (by simpa using d)⟩
        next =>
          split at h
          next isParen =>
            split at h
            next => cases h
            next _ inner r1 hr1 hinner =>
              split at h
              next c r2 hr1' =>
                split at h
                next isClose =>
                  cases h
                  obtain ⟨pre, split1, d⟩ := parseExpr_sound hinner
                  exact ⟨t :: (pre ++ [c]), by simp [split1], .group isParen d isClose⟩
                next => cases h
              next => cases h
          next => cases h
  next => cases h
termination_by 10 * ts.length + 2
decreasing_by all_goals (subst_vars; (try simp only [List.length_cons]); omega)

theorem parseArguments_sound {ts : List Token} {args : List Expr} {stop : Location} {r : Rest ts}
    (h : parseArguments src ts = .ok ((args, stop), r)) :
    ∃ pre, ts = pre ++ r.1 ∧ DerivesArguments pre args stop := by
  rw [parseArguments.eq_def] at h
  split at h
  next t rest =>
    split at h
    next isOpen =>
      split at h
      next c r2 =>
        split at h
        next isClose =>
          cases h
          exact ⟨[t, c], rfl, .none isOpen isClose⟩
        next =>
          split at h
          next => cases h
          next _ v r1 hr1 hlist =>
            cases h
            obtain ⟨pre, es, c', split1, d, rfl, rfl⟩ := parseArgumentList_sound hlist
            exact ⟨t :: pre, by simp [split1], .some isOpen (by simpa using d)⟩
      next =>
        obtain ⟨r', hlist, same⟩ := Parse.widen_eq_ok h
        obtain ⟨pre, es, c', split1, d, rfl, rfl⟩ := parseArgumentList_sound hlist
        exact ⟨t :: pre, by simp [split1, ← same], .some isOpen (by simpa using d)⟩
    next => cases h
  next => cases h
termination_by 10 * ts.length + 1
decreasing_by all_goals (subst_vars; simp only [List.length_cons] at *; omega)

theorem parseArgumentList_sound {acc : List Expr} {ts : List Token} {args : List Expr}
    {stop : Location} {r : Rest ts}
    (h : parseArgumentList src acc ts = .ok ((args, stop), r)) :
    ∃ pre es c, ts = pre ++ r.1 ∧ DerivesSeparated .rparen pre es c ∧
      args = acc.reverse ++ es ∧ stop = c.span.stop := by
  rw [parseArgumentList] at h
  split at h
  next => cases h
  next _ e r1 hr1 he =>
    split at h
    next c r2 hr1' =>
      have shorter : r2.length < ts.length := Nat.lt_of_lt_of_le (Nat.lt_succ_self _) hr1'
      split at h
      next isComma =>
        split at h
        next => cases h
        next _ v r3 hr3 hrest =>
          cases h
          obtain ⟨pre1, split1, d1⟩ := parseExpr_sound he
          obtain ⟨pre2, es, c', split2, d2, rfl, rfl⟩ := parseArgumentList_sound hrest
          exact ⟨pre1 ++ c :: pre2, e :: es, c', by simp [split1, split2],
            .more d1 isComma d2, by simp, rfl⟩
      next =>
        split at h
        next isClose =>
          cases h
          obtain ⟨pre, split1, d⟩ := parseExpr_sound he
          exact ⟨pre ++ [c], [e], c, by simp [split1], .last d isClose, by simp, rfl⟩
        next => cases h
    next => cases h
termination_by 10 * ts.length + 8
decreasing_by all_goals (subst_vars; omega)

theorem parseElements_sound {acc : List Expr} {ts : List Token} {es : List Expr} {stop : Location}
    {r : Rest ts} (h : parseElements src acc ts = .ok ((es, stop), r)) :
    ∃ pre es', ts = pre ++ r.1 ∧ DerivesElements pre es' stop ∧ es = acc.reverse ++ es' := by
  rw [parseElements.eq_def] at h
  split at h
  next c rest =>
    split at h
    next isClose =>
      cases h
      exact ⟨[c], [], rfl, .empty isClose, by simp⟩
    next =>
      split at h
      next => cases h
      next _ e r1 hr1 he =>
        split at h
        next d r2 hr1' =>
          have shorter : r2.length < (c :: rest).length :=
            Nat.lt_of_lt_of_le (Nat.lt_succ_self _) hr1'
          split at h
          next isComma =>
            split at h
            next => cases h
            next _ v r3 hr3 hrest =>
              cases h
              obtain ⟨pre1, split1, d1⟩ := parseExpr_sound he
              obtain ⟨pre2, es', split2, d2, rfl⟩ := parseElements_sound hrest
              exact ⟨pre1 ++ d :: pre2, e :: es', by simp [split1, split2],
                .cons d1 isComma d2, by simp⟩
          next =>
            split at h
            next isClose =>
              cases h
              obtain ⟨pre, split1, d1⟩ := parseExpr_sound he
              exact ⟨pre ++ [d], [e], by simp [split1], .some (.last d1 isClose), by simp⟩
            next => cases h
        next => cases h
  next =>
    split at h <;> cases h
termination_by 10 * ts.length + 9
decreasing_by all_goals (subst_vars; omega)

end

/-! ## Nodes -/

omit [src.FoldsMinus] in
theorem parseTargets_sound {acc : List String} {ts : List Token} {names : List String}
    {r : { r : List Token // r.length < ts.length }}
    (h : parseTargets src acc ts = .ok (names, r)) :
    ∃ pre ns, ts = pre ++ r.1 ∧ DerivesTargets pre ns ∧ names = acc.reverse ++ ns := by
  rw [parseTargets.eq_def] at h
  split at h
  next t rest =>
    split at h
    next isName =>
      split at h
      next c r2 =>
        split at h
        next isComma =>
          split at h
          next => cases h
          next _ v r1 hr1 hrest =>
            cases h
            obtain ⟨pre, ns, split1, d, rfl⟩ := parseTargets_sound hrest
            exact ⟨t :: c :: pre, t.lexeme :: ns, by simp [split1], .more isName isComma d,
              by simp⟩
        next =>
          cases h
          exact ⟨[t], [t.lexeme], rfl, .one isName, by simp⟩
      next =>
        cases h
        exact ⟨[t], [t.lexeme], rfl, .one isName, by simp⟩
    next => cases h
  next => cases h
termination_by ts.length
decreasing_by all_goals (subst_vars; (try simp only [List.length_cons]); omega)

theorem parseRenderArguments_sound {acc : List Expr} {ts : List Token} {args : List Expr}
    {close : Token} {r : { r : List Token // r.length < ts.length }}
    (h : parseRenderArguments src acc ts = .ok ((args, close), r)) :
    ∃ pre es, ts = pre ++ r.1 ∧ DerivesSeparated .tagEnd pre es close ∧
      args = acc.reverse ++ es := by
  rw [parseRenderArguments] at h
  split at h
  next => cases h
  next _ e r1 hr1 he =>
    split at h
    next c r2 hr1' =>
      have shorter : r2.length < ts.length := Nat.lt_of_lt_of_le (Nat.lt_succ_self _) hr1'
      split at h
      next isComma =>
        split at h
        next => cases h
        next _ v r3 hr3 hrest =>
          cases h
          obtain ⟨pre1, split1, d1⟩ := parseExpr_sound he
          obtain ⟨pre2, es, split2, d2, rfl⟩ := parseRenderArguments_sound hrest
          exact ⟨pre1 ++ c :: pre2, e :: es, by simp [split1, split2], .more d1 isComma d2,
            by simp⟩
      next =>
        split at h
        next isClose =>
          cases h
          obtain ⟨pre, split1, d⟩ := parseExpr_sound he
          exact ⟨pre ++ [close], [e], by simp [split1], .last d isClose, by simp⟩
        next => cases h
    next => cases h
termination_by ts.length
decreasing_by all_goals (subst_vars; omega)

theorem parseRenderShorthand_sound {start : Token} {ts : List Token} {n : Option Node}
    {r : Rest ts} (isStart : start.kind = .renderStart)
    (h : parseRenderShorthand src start ts = .ok (n, r)) :
    ∃ pre, ts = pre ++ r.1 ∧ DerivesNode (start :: pre) n := by
  unfold parseRenderShorthand at h
  dsimp only at h
  split at h
  next t rest =>
    split at h
    next isClose =>
      cases h
      exact ⟨[t], rfl, .renderEmpty isStart isClose⟩
    next =>
      split at h
      next => cases h
      next _ args close r1 hr1 hargs =>
        cases h
        obtain ⟨pre, es, split1, d, rfl⟩ := parseRenderArguments_sound hargs
        exact ⟨pre, by simp [split1], .render isStart (by simpa using d)⟩
  next => cases h

theorem parseTagExpr_sound {ts : List Token} {e : Expr} {close : Token}
    {r : { r : List Token // r.length < ts.length }}
    (h : parseTagExpr src ts = .ok ((e, close), r)) :
    ∃ pre, ts = pre ++ close :: r.1 ∧ DerivesExpr pre e ∧ close.kind = .tagEnd := by
  unfold parseTagExpr at h
  split at h
  next => cases h
  next _ e' r1 hr1 he =>
    split at h
    next => cases h
    next _ c r2 hr2 hclose =>
      cases h
      obtain ⟨pre, split1, d⟩ := parseExpr_sound he
      obtain ⟨split2, isClose⟩ := expectKind_sound hclose
      exact ⟨pre, by simp [split1, split2], d, isClose⟩

/-- Nodes taken in front of an accumulator come out in their order. -/
theorem reverse_toList_append (n : Option Node) (acc ns : List Node) :
    (n.toList ++ acc).reverse ++ ns = acc.reverse ++ (n.toList ++ ns) := by
  cases n <;> simp

mutual

theorem parseBody_sound {opener : Token} {construct : String} {acc : List Node}
    {ts : List Token} {nodes : List Node} {closer : Token} {r : Rest ts}
    (h : parseBody src opener construct acc ts = .ok ((nodes, closer), r)) :
    ∃ pre ns o, ts = pre ++ o :: closer :: r.1 ∧ DerivesNodes pre ns ∧
      nodes = acc.reverse ++ ns ∧ o.kind = .blockStart ∧ closer.kind.isBlockCloser := by
  rw [parseBody.eq_def] at h
  split at h
  next t rest =>
    split at h
    next => cases h
    next =>
      split at h
      next atCloser =>
        obtain ⟨isStart, closes⟩ := atCloser
        split at h
        next k r2 =>
          cases h
          exact ⟨[], [], t, rfl, .nil, by simp, isStart, closes⟩
        next => simp [currentToken, endToken, TokenKind.isBlockCloser] at closes
      next =>
        split at h
        next => cases h
        next _ n r1 hr1 hnode =>
          split at h
          next => cases h
          next _ v r2 hr2 hrest =>
            cases h
            obtain ⟨pre1, split1, d1⟩ := parseNode_sound hnode
            obtain ⟨pre2, ns, o, split2, d2, rfl, isStart, closes⟩ := parseBody_sound hrest
            exact ⟨t :: pre1 ++ pre2, n.toList ++ ns, o, by simp [split1, split2], .cons d1 d2,
              reverse_toList_append n acc ns, isStart, closes⟩
  next => cases h
termination_by 10 * ts.length + 1
decreasing_by all_goals (subst_vars; (try simp only [List.length_cons]); omega)

theorem parseNode_sound {t : Token} {rest : List Token} {n : Option Node} {r : Rest rest}
    (h : parseNode src t rest = .ok (n, r)) :
    ∃ pre, rest = pre ++ r.1 ∧ DerivesNode (t :: pre) n := by
  rw [parseNode.eq_def] at h
  split at h
  next isText =>
    cases h
    exact ⟨[], rfl, .text isText⟩
  next isOutput =>
    split at h
    next => cases h
    next _ e close r1 hr1 he =>
      cases h
      obtain ⟨pre, split1, d, isClose⟩ := parseTagExpr_sound he
      exact ⟨pre ++ [close], by simp [split1], .output isOutput d isClose⟩
  next isRaw =>
    split at h
    next => cases h
    next _ e close r1 hr1 he =>
      cases h
      obtain ⟨pre, split1, d, isClose⟩ := parseTagExpr_sound he
      exact ⟨pre ++ [close], by simp [split1], .rawOutput isRaw d isClose⟩
  next isRender => exact parseRenderShorthand_sound isRender h
  next isStart =>
    split at h
    next k r2 =>
      split at h
      next isIf =>
        obtain ⟨r', hif, same⟩ := Parse.widen_eq_ok h
        obtain ⟨pre, split1, d⟩ := parseIf_sound isStart isIf hif
        exact ⟨k :: pre, by simp [split1, same], d⟩
      next =>
        split at h
        next isFor =>
          obtain ⟨r', hfor, same⟩ := Parse.widen_eq_ok h
          obtain ⟨pre, split1, d⟩ := parseFor_sound isStart isFor hfor
          exact ⟨k :: pre, by simp [split1, same], d⟩
        next =>
          split at h
          next isClose =>
            cases h
            exact ⟨[k], rfl, .empty isStart isClose⟩
          next =>
            split at h
            next => cases h
            next _ e close r1 hr1 he =>
              cases h
              obtain ⟨pre, split1, d, isClose⟩ := parseTagExpr_sound he
              exact ⟨pre ++ [close], by simp [split1], .statement isStart d isClose⟩
    next =>
      split at h
      next => cases h
      next _ _ _ shorter _ => simp at shorter
  next => cases h
termination_by 10 * rest.length + 9
decreasing_by all_goals (subst_vars; (try simp only [List.length_cons]); omega)

theorem parseIf_sound {start ifTok : Token} {ts : List Token} {n : Option Node} {r : Rest ts}
    (isStart : start.kind = .blockStart) (isIf : ifTok.kind = .ifKeyword)
    (h : parseIf src start ifTok ts = .ok (n, r)) :
    ∃ pre, ts = pre ++ r.1 ∧ DerivesNode (start :: ifTok :: pre) n := by
  rw [parseIf] at h
  split at h
  next => cases h
  next _ condition close r1 hr1 hcond =>
    split at h
    next => cases h
    next _ body closer r2 hr2 hbody =>
      split at h
      next => cases h
      next _ n' r3 hr3 hrest =>
        cases h
        obtain ⟨pre1, split1, d1, isClose⟩ := parseTagExpr_sound hcond
        obtain ⟨pre2, ns, o, split2, d2, rfl, oStart, closes⟩ := parseBody_sound hbody
        obtain ⟨pre3, bs, eb, last, split3, d3, rfl⟩ := parseIfRest_sound closes oStart hrest
        refine ⟨pre1 ++ close :: (pre2 ++ o :: closer :: pre3),
          by simp [split1, split2, split3], ?_⟩
        simpa using DerivesNode.cond isStart isIf d1 isClose d2 d3
termination_by 10 * ts.length + 9
decreasing_by all_goals (subst_vars; omega)

theorem parseIfRest_sound {start ifTok closer o : Token} {condition : Expr} {body : List Node}
    {branches : List Branch} {ts : List Token} {n : Option Node} {r : Rest ts}
    (closes : closer.kind.isBlockCloser) (isStart : o.kind = .blockStart)
    (h : parseIfRest src start ifTok condition body branches closer ts = .ok (n, r)) :
    ∃ pre bs eb last, ts = pre ++ r.1 ∧ DerivesIfTail (o :: closer :: pre) bs eb last ∧
      n = some (.cond ⟨start.span.start, last.span.stop⟩ condition body
        (branches.reverse ++ bs) eb) := by
  rw [parseIfRest] at h
  split at h
  next isElsif =>
    split at h
    next => cases h
    next _ c close r1 hr1 hcond =>
      split at h
      next => cases h
      next _ nodes next r2 hr2 hbody =>
        dsimp only at h
        split at h
        next => cases h
        next _ n' r3 hr3 hrest =>
          cases h
          obtain ⟨pre1, split1, d1, isClose⟩ := parseTagExpr_sound hcond
          obtain ⟨pre2, ns, o', split2, d2, rfl, o'Start, closes'⟩ := parseBody_sound hbody
          obtain ⟨pre3, bs, eb, last, split3, d3, rfl⟩ := parseIfRest_sound closes' o'Start hrest
          refine ⟨pre1 ++ close :: (pre2 ++ o' :: next :: pre3),
            .mk ⟨closer.span.start, c.span.stop⟩ c nodes :: bs, eb, last,
            by simp [split1, split2, split3], ?_, by simp⟩
          simpa using DerivesIfTail.elsif isStart isElsif d1 isClose d2 d3
  next notElsif =>
    split at h
    next isElse =>
      split at h
      next => cases h
      next _ c r1 hr1 hc =>
        split at h
        next => cases h
        next _ elseBody last r2 hr2 hbody =>
          split at h
          next isEnd =>
            split at h
            next => cases h
            next _ close r3 hr3 hclose =>
              cases h
              obtain ⟨split1, isClose⟩ := expectKind_sound hc
              obtain ⟨pre2, ns, o', split2, d2, rfl, o'Start, -⟩ := parseBody_sound hbody
              obtain ⟨split3, isClose'⟩ := expectKind_sound hclose
              refine ⟨c :: (pre2 ++ [o', last, close]), [], some elseBody, close,
                by simp [split1, split2, split3], ?_, by simp⟩
              exact .otherwise isStart isElse isClose d2 o'Start isEnd isClose'
          next => cases h
    next notElse =>
      split at h
      next => cases h
      next _ close r1 hr1 hclose =>
        cases h
        have isEnd : closer.kind = .endKeyword := by
          revert closes notElsif notElse
          cases closer.kind <;> simp [TokenKind.isBlockCloser]
        obtain ⟨split1, isClose⟩ := expectKind_sound hclose
        exact ⟨[close], [], none, close, by simp [split1], .close isStart isEnd isClose, by simp⟩
termination_by 10 * ts.length + 8
decreasing_by all_goals (subst_vars; omega)

theorem parseFor_sound {start forTok : Token} {ts : List Token} {n : Option Node} {r : Rest ts}
    (isStart : start.kind = .blockStart) (isFor : forTok.kind = .forKeyword)
    (h : parseFor src start forTok ts = .ok (n, r)) :
    ∃ pre, ts = pre ++ r.1 ∧ DerivesNode (start :: forTok :: pre) n := by
  rw [parseFor] at h
  split at h
  next => cases h
  next _ names r1 hr1 hnames =>
    split at h
    next => cases h
    next _ inTok r2 hr2 hin =>
      split at h
      next => cases h
      next _ iterable close r3 hr3 hiter =>
        split at h
        next => cases h
        next _ body closer r4 hr4 hbody =>
          split at h
          next isEnd =>
            split at h
            next => cases h
            next _ last r5 hr5 hlast =>
              cases h
              obtain ⟨pre1, ns, split1, d1, rfl⟩ := parseTargets_sound hnames
              obtain ⟨split2, isIn⟩ := expectKind_sound hin
              obtain ⟨pre3, split3, d3, isClose⟩ := parseTagExpr_sound hiter
              obtain ⟨pre4, bs, o, split4, d4, rfl, oStart, -⟩ := parseBody_sound hbody
              obtain ⟨split5, isLast⟩ := expectKind_sound hlast
              refine ⟨pre1 ++ inTok :: (pre3 ++ close :: (pre4 ++ [o, closer, last])),
                by simp [split1, split2, split3, split4, split5], ?_⟩
              simpa using DerivesNode.loop isStart isFor d1 isIn d3 isClose d4 oStart isEnd isLast
          next => cases h
termination_by 10 * ts.length + 9
decreasing_by all_goals (subst_vars; omega)

end

/-- The nodes of a whole template: what the parser reads before the end of the
tokens is derived by `node*`, and it stops at the end. -/
theorem parseTopLevel_sound {acc : List Node} {ts : List Token} {nodes : List Node}
    {r : Rest ts} (h : parseTopLevel src acc ts = .ok (nodes, r)) :
    ∃ pre ns, ts = pre ++ r.1 ∧ DerivesNodes pre ns ∧ nodes = acc.reverse ++ ns ∧
      (r.1 = [] ∨ (currentToken r.1).kind = .eof) := by
  rw [parseTopLevel.eq_def] at h
  split at h
  next t rest =>
    split at h
    next isEnd =>
      cases h
      exact ⟨[], [], rfl, .nil, by simp, .inr isEnd⟩
    next =>
      split at h
      next => cases h
      next =>
        split at h
        next => cases h
        next _ n r1 hr1 hnode =>
          split at h
          next => cases h
          next _ v r2 hr2 hrest =>
            cases h
            obtain ⟨pre1, split1, d1⟩ := parseNode_sound hnode
            obtain ⟨pre2, ns, split2, d2, rfl, ends⟩ := parseTopLevel_sound hrest
            exact ⟨t :: pre1 ++ pre2, n.toList ++ ns, by simp [split1, split2], .cons d1 d2,
              reverse_toList_append n acc ns, ends⟩
  next =>
    cases h
    exact ⟨[], [], rfl, .nil, by simp, .inl rfl⟩
termination_by ts.length
decreasing_by all_goals (subst_vars; (try simp only [List.length_cons]); omega)

end Stencil
