import Stencil.Proofs.BlockScan
import Stencil.Proofs.ParserComplete
import Stencil.Proofs.ScanTiling

/-!
# Unbalanced blocks are diagnosed exactly

Take a text whose tags each stand on their own, with one of the shapes `<%= e %>`,
`<%- e %>`, `<%% [e (, e)*] %>`, `<% %>`, `<% e %>`, `<% if e %>`, `<% elsif e %>`,
`<% else %>`, `<% end %>` or `<% for x (, y)* in e %>`. How its block tags nest is then
all that decides its parse: the parse succeeds exactly when their keywords are a sequence
of `B*` (`Blocks`), and otherwise fails with the error of `scanBlocks`, at the first
keyword out of place or, when the text ends inside a block, at the keyword of the
innermost open one. It never fails with a syntax error.

Such a text is a sequence of pieces (`Pieces`): text runs, tags that are no block tags
(`PlainTag`), and block tags, a `<%`, a keyword and the rest of the tag (`KeywordTail`).
Each parsing function, started at a boundary of pieces, either fails as the scan of the
keywords fails, or reads whole pieces and stops at a boundary again (`ReadsPieces`); a body
stops instead right after the keyword of the tag that closes it. The lemmas follow the
parser function by function, on its own measure, the number of tokens left.

Main statement: `parse_blocks_diagnosed`.
-/

namespace Stencil

/-- What follows the keyword `k` of a block tag, up to its `%>`: a condition after `if`
and `elsif`, loop variables, `in` and the iterable after `for`, nothing after `else` and
`end`. -/
inductive KeywordTail : Token → List Token → Prop
  | opensIf {k c : Token} {ts : List Token} {e : Expr} :
      k.kind = .ifKeyword → DerivesExpr ts e → c.kind = .tagEnd → KeywordTail k (ts ++ [c])
  | opensFor {k i c : Token} {ns ts : List Token} {names : List String} {e : Expr} :
      k.kind = .forKeyword → DerivesTargets ns names → i.kind = .inKeyword → DerivesExpr ts e →
      c.kind = .tagEnd → KeywordTail k (ns ++ i :: (ts ++ [c]))
  | elsif {k c : Token} {ts : List Token} {e : Expr} :
      k.kind = .elsifKeyword → DerivesExpr ts e → c.kind = .tagEnd → KeywordTail k (ts ++ [c])
  | otherwise {k c : Token} : k.kind = .elseKeyword → c.kind = .tagEnd → KeywordTail k [c]
  | close {k c : Token} : k.kind = .endKeyword → c.kind = .tagEnd → KeywordTail k [c]

/-- A tag that is no block tag: an output, a raw output, a render shorthand, an empty
statement tag or a statement. -/
inductive PlainTag : List Token → Prop
  | output {o c : Token} {ts : List Token} {e : Expr} :
      o.kind = .outputStart → DerivesExpr ts e → c.kind = .tagEnd → PlainTag (o :: (ts ++ [c]))
  | rawOutput {o c : Token} {ts : List Token} {e : Expr} :
      o.kind = .rawOutputStart → DerivesExpr ts e → c.kind = .tagEnd →
      PlainTag (o :: (ts ++ [c]))
  | renderEmpty {o c : Token} : o.kind = .renderStart → c.kind = .tagEnd → PlainTag [o, c]
  | render {o c : Token} {ts : List Token} {args : List Expr} :
      o.kind = .renderStart → DerivesSeparated .tagEnd ts args c → PlainTag (o :: ts)
  | empty {o c : Token} : o.kind = .blockStart → c.kind = .tagEnd → PlainTag [o, c]
  | statement {o c : Token} {ts : List Token} {e : Expr} :
      o.kind = .blockStart → DerivesExpr ts e → c.kind = .tagEnd → PlainTag (o :: (ts ++ [c]))

/-- Text runs and tags that each stand on their own, one after the other, with the
keywords of the block tags among them, in order. -/
inductive Pieces : List Token → List Token → Prop
  | nil : Pieces [] []
  | text {t : Token} {rest tags : List Token} :
      t.kind = .text → Pieces rest tags → Pieces (t :: rest) tags
  | plain {ts rest tags : List Token} : PlainTag ts → Pieces rest tags → Pieces (ts ++ rest) tags
  | block {o k : Token} {tail rest tags : List Token} :
      o.kind = .blockStart → KeywordTail k tail → Pieces rest tags →
      Pieces (o :: k :: (tail ++ rest)) (k :: tags)

namespace KeywordTail

variable {k : Token} {tail : List Token}

/-- A block keyword opens a block or closes a body. -/
theorem opens_or_closes (d : KeywordTail k tail) :
    (k.kind = .ifKeyword ∨ k.kind = .forKeyword) ∨ k.kind.isBlockCloser := by
  cases d with
  | opensIf isIf _ _ => exact .inl (.inl isIf)
  | opensFor isFor _ _ _ _ => exact .inl (.inr isFor)
  | elsif isElsif _ _ => exact .inr (by simp [isElsif, TokenKind.isBlockCloser])
  | otherwise isElse _ => exact .inr (by simp [isElse, TokenKind.isBlockCloser])
  | close isEnd _ => exact .inr (by simp [isEnd, TokenKind.isBlockCloser])

/-- After `end` comes its `%>` and nothing else. -/
theorem of_end (d : KeywordTail k tail) (isEnd : k.kind = .endKeyword) :
    ∃ c, tail = [c] ∧ c.kind = .tagEnd := by
  cases d with
  | close _ close => exact ⟨_, rfl, close⟩
  | opensIf isIf _ _ => simp [isIf] at isEnd
  | opensFor isFor _ _ _ _ => simp [isFor] at isEnd
  | elsif isElsif _ _ => simp [isElsif] at isEnd
  | otherwise isElse _ => simp [isElse] at isEnd

theorem length_pos (d : KeywordTail k tail) : 0 < tail.length := by
  cases d <;> simp

end KeywordTail

/-- A tag that is no block tag is a node of the grammar. -/
theorem PlainTag.derivesNode {ts : List Token} (tag : PlainTag ts) : ∃ n, DerivesNode ts n := by
  cases tag with
  | output start e close => exact ⟨_, .output start e close⟩
  | rawOutput start e close => exact ⟨_, .rawOutput start e close⟩
  | renderEmpty start close => exact ⟨_, .renderEmpty start close⟩
  | render start args => exact ⟨_, .render start args⟩
  | empty start close => exact ⟨_, .empty start close⟩
  | statement start e close => exact ⟨_, .statement start e close⟩

/-- A closer is no keyword that opens a block. -/
theorem TokenKind.not_opens_of_closer {k : TokenKind} (closes : k.isBlockCloser) :
    k ≠ .ifKeyword ∧ k ≠ .forKeyword := by
  constructor <;> (intro same; simp [same, TokenKind.isBlockCloser] at closes)

/-- A closer other than `end` continues an `if`. -/
theorem TokenKind.continues_of_closer {k : TokenKind} (closes : k.isBlockCloser)
    (notEnd : k ≠ .endKeyword) : k = .elsifKeyword ∨ k = .elseKeyword := by
  cases k <;> simp_all [TokenKind.isBlockCloser]

section Propagate

variable {src : ParseSource} {t : Token} {more r : List Token} {n : Option Node}
  {e : TemplateError}

/-- A body fails where the node in front of it fails. -/
theorem parseBody_of_node_error {opener : Token} {construct : String} {acc : List Node}
    (notEnd : t.kind ≠ .eof)
    (notCloser : ¬ (t.kind = .blockStart ∧ (currentToken more).kind.isBlockCloser))
    (node : parseNode src t more = .error e) :
    parseBody src opener construct acc (t :: more) = .error e := by
  rw [parseBody.eq_def]
  dsimp only
  rw [if_neg notEnd, if_neg notCloser, node]

/-- A body fails where the rest of it fails, after a node. -/
theorem parseBody_of_next_error {opener : Token} {construct : String} {acc : List Node}
    (notEnd : t.kind ≠ .eof)
    (notCloser : ¬ (t.kind = .blockStart ∧ (currentToken more).kind.isBlockCloser))
    (node : ∃ h, parseNode src t more = .ok (n, ⟨r, h⟩))
    (next : parseBody src opener construct (n.toList ++ acc) r = .error e) :
    parseBody src opener construct acc (t :: more) = .error e := by
  obtain ⟨_, hnode⟩ := node
  rw [parseBody.eq_def]
  dsimp only
  rw [if_neg notEnd, if_neg notCloser, hnode]
  dsimp only
  rw [next]

/-- The top level fails where the node in front of it fails. -/
theorem parseTopLevel_of_node_error {acc : List Node} (notEnd : t.kind ≠ .eof)
    (notCloser : ¬ (t.kind = .blockStart ∧ (currentToken more).kind.isBlockCloser))
    (node : parseNode src t more = .error e) :
    parseTopLevel src acc (t :: more) = .error e := by
  rw [parseTopLevel, if_neg notEnd, if_neg notCloser, node]

/-- The top level fails where the rest of it fails, after a node. -/
theorem parseTopLevel_of_next_error {acc : List Node} (notEnd : t.kind ≠ .eof)
    (notCloser : ¬ (t.kind = .blockStart ∧ (currentToken more).kind.isBlockCloser))
    (node : ∃ h, parseNode src t more = .ok (n, ⟨r, h⟩))
    (next : parseTopLevel src (n.toList ++ acc) r = .error e) :
    parseTopLevel src acc (t :: more) = .error e := by
  obtain ⟨_, hnode⟩ := node
  rw [parseTopLevel, if_neg notEnd, if_neg notCloser, hnode]
  dsimp only
  rw [next]

end Propagate

section Parse

variable {src : ParseSource} [src.FoldsMinus] {last : Token}

-- The readers of blocks need the source to fold a minus as the grammar does; the linter
-- sees only the calls a body makes by name, not those its mutual recursion makes.
set_option linter.unusedSectionVars false

/-- A parse `p` started at a boundary of pieces, followed by `last`, whose block keywords
are `tags`: it fails with an error that `fails` admits, or it reads whole pieces, whose
keywords `pre` satisfy `reads`, and stops at a boundary again. -/
def ReadsPieces (last : Token) {ts : List Token} {α : Type} (p : Parse ts α) (tags : List Token)
    (fails : TemplateError → Prop) (reads : List Token → Prop) : Prop :=
  (∃ e, p = .error e ∧ fails e) ∨
    ∃ v U pre tags', (∃ h, p = .ok (v, ⟨U ++ [last], h⟩)) ∧ Pieces U tags' ∧
      tags = pre ++ tags' ∧ reads pre

theorem ReadsPieces.widen {ts us : List Token} {α : Type} {p : Parse us α} {tags : List Token}
    {fails : TemplateError → Prop} {reads : List Token → Prop}
    (h : ReadsPieces last p tags fails reads) (hw : us.length ≤ ts.length) :
    ReadsPieces last (p.widen hw) tags fails reads := by
  rcases h with ⟨e, hp, failed⟩ | ⟨v, U, pre, tags', ok, pieces, split, read⟩
  · exact .inl ⟨e, by rw [hp]; rfl, failed⟩
  · exact .inr ⟨v, U, pre, tags', Parse.exists_widen hw ok, pieces, split, read⟩

/-! The lemmas below recurse on the pieces left, five times their number of tokens, plus a
rank for the calls made on the same pieces: a body hands them to `parseBody_node`, an
opening tag to `parseIf_pieces` or `parseFor_pieces`, which hand them to a body and then to
the rest of the `if`. -/

mutual

/-- A body, from a boundary of pieces: it fails as the scan fails with the body's block
open, whatever is open around it, or it reads whole pieces whose keywords are `B*` up to
a tag that closes it, and stops right after that tag's keyword. -/
theorem parseBody_pieces (isEnd : last.kind = .eof) (b : OpenBlock) (acc : List Node)
    {U tags : List Token} (pieces : Pieces U tags) :
    (∃ e, parseBody src b.keyword b.construct acc (U ++ [last]) = .error e ∧
      ∀ outer, scanBlocks src (b :: outer) tags = .error e) ∨
    ∃ v k tail U' pre tags', (∃ h, parseBody src b.keyword b.construct acc (U ++ [last]) =
        .ok ((v, k), ⟨tail ++ (U' ++ [last]), h⟩)) ∧
      KeywordTail k tail ∧ k.kind.isBlockCloser ∧ Pieces U' tags' ∧ tags = pre ++ k :: tags' ∧
      Blocks pre := by
  match pieces with
  | .nil =>
    -- the text ends inside the block
    refine .inl ⟨b.unclosed src, ?_, fun _ => rfl⟩
    rw [List.nil_append, parseBody.eq_def]
    dsimp only
    rw [if_pos isEnd]
    rfl
  | .text isText rest => exact parseBody_node isEnd b acc (.text isText) rest
  | .plain tag rest =>
    obtain ⟨n, d⟩ := tag.derivesNode
    exact parseBody_node isEnd b acc d rest
  | @Pieces.block o k tail rest tags start ktail rest' =>
    have stream : o :: k :: (tail ++ rest) ++ [last] = o :: k :: (tail ++ (rest ++ [last])) := by
      simp
    rw [stream]
    have notEnd : o.kind ≠ .eof := ne_eof_of_eq start
    rcases ktail.opens_or_closes with opens | closes
    · -- a block inside the body: read it whole, then go on with the body
      have notCloser : ¬ (o.kind = .blockStart ∧
          (currentToken (k :: (tail ++ (rest ++ [last])))).kind.isBlockCloser) := by
        rcases opens with kind | kind <;> simp [currentToken, kind, TokenKind.isBlockCloser]
      rcases parseNode_opens isEnd start ktail opens rest' with
        ⟨e, hnode, failed⟩ | ⟨n, U'', pre, tags'', ⟨h, hnode⟩, pieces'', rfl, block⟩
      · exact .inl ⟨e, parseBody_of_node_error notEnd notCloser hnode, fun outer => failed _⟩
      · have fewer : U''.length ≤ tail.length + rest.length + 1 := by
          have := h
          simp only [List.length_append, List.length_cons, List.length_nil] at this
          omega
        rcases parseBody_pieces isEnd b (n.toList ++ acc) pieces'' with
          ⟨e, hbody, failed⟩ |
            ⟨v, k2, tail2, U2, pre2, tags2, body, ktail2, closes2, pieces2, rfl, blocks⟩
        · refine .inl ⟨e, parseBody_of_next_error notEnd notCloser ⟨h, hnode⟩ hbody,
            fun outer => ?_⟩
          rw [← List.cons_append, block.scanBlocks_append src]
          exact failed outer
        · refine .inr ⟨v, k2, tail2, U2, k :: pre ++ pre2, tags2,
            parseBody_of_node notEnd notCloser ⟨h, hnode⟩ body, ktail2, closes2, pieces2,
            by simp, .cons block blocks⟩
    · -- a tag that closes the body: stop right after its keyword
      refine .inr ⟨acc.reverse, k, tail, rest, [], tags, ?_, ktail, closes, rest', rfl, .nil⟩
      have atCloser : o.kind = .blockStart ∧
          (currentToken (k :: (tail ++ (rest ++ [last])))).kind.isBlockCloser := ⟨start, closes⟩
      rw [parseBody.eq_def]
      dsimp only
      rw [if_neg notEnd, if_pos atCloser]
      exact Parse.exists_ok_congr rfl
termination_by 5 * U.length + 1
decreasing_by
  all_goals simp only [List.length_append, List.length_cons, List.length_nil]
  all_goals omega

/-- A body goes past a text run or a tag that is no block tag. -/
theorem parseBody_node (isEnd : last.kind = .eof) (b : OpenBlock) (acc : List Node)
    {ts rest tags : List Token} {n : Option Node} (d : DerivesNode ts n) (pieces : Pieces rest tags) :
    (∃ e, parseBody src b.keyword b.construct acc (ts ++ rest ++ [last]) = .error e ∧
      ∀ outer, scanBlocks src (b :: outer) tags = .error e) ∨
    ∃ v k tail U' pre tags', (∃ h, parseBody src b.keyword b.construct acc (ts ++ rest ++ [last]) =
        .ok ((v, k), ⟨tail ++ (U' ++ [last]), h⟩)) ∧
      KeywordTail k tail ∧ k.kind.isBlockCloser ∧ Pieces U' tags' ∧ tags = pre ++ k :: tags' ∧
      Blocks pre := by
  obtain ⟨t, more, shape, notEnd, notCloser⟩ := d.head
  have stream : ts ++ rest ++ [last] = t :: (more ++ (rest ++ [last])) := by simp [shape]
  obtain ⟨h, hnode⟩ : ∃ h, parseNode src t (more ++ (rest ++ [last])) =
      .ok (n, ⟨rest ++ [last], h⟩) :=
    parseNode_complete d (by simp [shape])
  have longer : 0 < ts.length := by simp [shape]
  rw [stream]
  rcases parseBody_pieces isEnd b (n.toList ++ acc) pieces with
    ⟨e, hbody, failed⟩ |
      ⟨v, k, tail, U', pre, tags', body, ktail, closes, pieces', split, blocks⟩
  · exact .inl ⟨e, parseBody_of_next_error notEnd (notCloser _) ⟨h, hnode⟩ hbody, failed⟩
  · exact .inr ⟨v, k, tail, U', pre, tags',
      parseBody_of_node notEnd (notCloser _) ⟨h, hnode⟩ body, ktail, closes, pieces', split, blocks⟩
termination_by 5 * (ts ++ rest).length
decreasing_by
  all_goals simp only [List.length_append]
  all_goals omega

/-- A block tag that opens a block, and the block up to its `end` tag. -/
theorem parseNode_opens (isEnd : last.kind = .eof) {o k : Token} {tail U tags : List Token}
    (start : o.kind = .blockStart) (ktail : KeywordTail k tail)
    (opens : k.kind = .ifKeyword ∨ k.kind = .forKeyword) (pieces : Pieces U tags) :
    ReadsPieces last (parseNode src o (k :: (tail ++ (U ++ [last])))) tags
      (fun e => ∀ opened, scanBlocks src opened (k :: tags) = .error e)
      (fun pre => Block (k :: pre)) := by
  rw [parseNode.eq_def, start]
  dsimp only
  cases ktail with
  | opensIf isIf cond close =>
    rw [if_pos isIf, List.append_assoc, List.singleton_append]
    exact (parseIf_pieces isEnd isIf cond close pieces).widen _
  | opensFor isFor targets isIn iterable close =>
    rw [if_neg (by simp [isFor]), if_pos isFor]
    exact (parseFor_pieces isEnd isFor targets isIn iterable close pieces).widen _
  | elsif isElsif _ _ => simp [isElsif] at opens
  | otherwise isElse _ => simp [isElse] at opens
  | close isEnd' _ => simp [isEnd'] at opens
termination_by 5 * U.length + 4

/-- An `if` block after its `<%` and `if`: its condition, its first body and the rest. -/
theorem parseIf_pieces (isEnd : last.kind = .eof) {o k c : Token} {cond U tags : List Token}
    {e : Expr} (isIf : k.kind = .ifKeyword) (dcond : DerivesExpr cond e) (close : c.kind = .tagEnd)
    (pieces : Pieces U tags) :
    ReadsPieces last (parseIf src o k (cond ++ c :: (U ++ [last]))) tags
      (fun e => ∀ opened, scanBlocks src opened (k :: tags) = .error e)
      (fun pre => Block (k :: pre)) := by
  obtain ⟨_, hcond⟩ : ∃ h, parseTagExpr src (cond ++ c :: (U ++ [last])) =
      .ok ((e, c), ⟨U ++ [last], h⟩) :=
    parseTagExpr_complete dcond close rfl
  have enter : ∀ opened, scanBlocks src opened (k :: tags) =
      scanBlocks src (.ifBlock k false :: opened) tags := fun opened =>
    scanBlocks_step src (stepBlocks_if src isIf opened) tags
  rcases parseBody_pieces isEnd (.ifBlock k false) [] pieces with
    ⟨err, hbody, failed⟩ | ⟨nodes, k1, tail1, U1, pre1, tags1, ⟨h1, hbody⟩, ktail1, closes1,
      pieces1, rfl, blocks1⟩
  · refine .inl ⟨err, ?_, fun opened => (enter opened).trans (failed opened)⟩
    rw [parseIf, hcond]
    dsimp only
    rw [show parseBody src k "if" [] (U ++ [last]) = .error err from hbody]
  · have fewer : U1.length ≤ U.length := by
      have := h1
      simp only [List.length_append, List.length_cons, List.length_nil] at this
      omega
    rcases parseIfRest_pieces isEnd o k e nodes [] ktail1 closes1 pieces1 with
      ⟨err, hrest, failed⟩ | ⟨n, U2, pre2, tags2, rest, pieces2, rfl, ifTail⟩
    · refine .inl ⟨err, ?_, fun opened => ?_⟩
      · rw [parseIf, hcond]
        dsimp only
        rw [show parseBody src k "if" [] (U ++ [last]) = _ from hbody]
        dsimp only
        rw [hrest]
      · rw [enter, blocks1.scanBlocks_append src]
        exact failed opened
    · exact .inr ⟨n, U2, pre1 ++ k1 :: pre2, tags2,
        parseIf_of_parts ⟨_, hcond⟩ ⟨h1, hbody⟩ rest, pieces2, by simp,
        .ifBlock isIf blocks1 ifTail⟩
termination_by 5 * U.length + 3
decreasing_by all_goals omega

/-- The rest of an `if` block after a body closed by the keyword `k`: an `elsif` branch and
the rest after it, an `else` body up to its `end` tag, or the `%>` of the `end` tag. -/
theorem parseIfRest_pieces (isEnd : last.kind = .eof) (start ifTok : Token) (condition : Expr)
    (body : List Node) (branches : List Branch) {k : Token} {tail U tags : List Token}
    (ktail : KeywordTail k tail) (closes : k.kind.isBlockCloser) (pieces : Pieces U tags) :
    ReadsPieces last (parseIfRest src start ifTok condition body branches k (tail ++ (U ++ [last])))
      tags (fun e => ∀ outer, scanBlocks src (.ifBlock ifTok false :: outer) (k :: tags) = .error e)
      (fun pre => IfTail (k :: pre)) := by
  cases ktail with
  | opensIf isIf _ _ => simp [isIf, TokenKind.isBlockCloser] at closes
  | opensFor isFor _ _ _ _ => simp [isFor, TokenKind.isBlockCloser] at closes
  | @elsif c cond e isElsif dcond close =>
    rw [List.append_assoc, List.singleton_append]
    obtain ⟨_, hcond⟩ : ∃ h, parseTagExpr src (cond ++ c :: (U ++ [last])) =
        .ok ((e, c), ⟨U ++ [last], h⟩) :=
      parseTagExpr_complete dcond close rfl
    have stay : ∀ outer, scanBlocks src (.ifBlock ifTok false :: outer) (k :: tags) =
        scanBlocks src (.ifBlock ifTok false :: outer) tags := fun outer =>
      scanBlocks_step src (stepBlocks_elsif src isElsif ifTok outer) tags
    rcases parseBody_pieces isEnd (.ifBlock ifTok false) [] pieces with
      ⟨err, hbody, failed⟩ | ⟨nodes, k1, tail1, U1, pre1, tags1, ⟨h1, hbody⟩, ktail1, closes1,
        pieces1, rfl, blocks1⟩
    · refine .inl ⟨err, ?_, fun outer => (stay outer).trans (failed outer)⟩
      rw [parseIfRest, if_pos isElsif, hcond]
      dsimp only
      rw [show parseBody src ifTok "if" [] (U ++ [last]) = .error err from hbody]
    · have fewer : U1.length < U.length := by
        have := h1
        simp only [List.length_append, List.length_cons, List.length_nil] at this
        have := ktail1.length_pos
        omega
      rcases parseIfRest_pieces isEnd start ifTok condition body
          (.mk ⟨k.span.start, e.span.stop⟩ e nodes :: branches) ktail1 closes1 pieces1 with
        ⟨err, hrest, failed⟩ | ⟨n, U2, pre2, tags2, rest, pieces2, rfl, ifTail⟩
      · refine .inl ⟨err, ?_, fun outer => ?_⟩
        · rw [parseIfRest, if_pos isElsif, hcond]
          dsimp only
          rw [show parseBody src ifTok "if" [] (U ++ [last]) = _ from hbody]
          dsimp only
          rw [hrest]
        · rw [stay, blocks1.scanBlocks_append src]
          exact failed outer
      · exact .inr ⟨n, U2, pre1 ++ k1 :: pre2, tags2,
          parseIfRest_elsif isElsif ⟨_, hcond⟩ ⟨h1, hbody⟩ rest, pieces2, by simp,
          .elsif isElsif blocks1 ifTail⟩
  | @otherwise c isElse close =>
    have notElsif : k.kind ≠ .elsifKeyword := by simp [isElse]
    have pass : ∀ outer, scanBlocks src (.ifBlock ifTok false :: outer) (k :: tags) =
        scanBlocks src (.ifBlock ifTok true :: outer) tags := fun outer =>
      scanBlocks_step src (stepBlocks_else src isElse ifTok outer) tags
    rw [List.singleton_append]
    rcases parseBody_pieces isEnd (.ifBlock ifTok true) [] pieces with
      ⟨err, hbody, failed⟩ | ⟨nodes, k1, tail1, U1, pre1, tags1, ⟨h1, hbody⟩, ktail1, closes1,
        pieces1, rfl, blocks1⟩
    · refine .inl ⟨err, ?_, fun outer => (pass outer).trans (failed outer)⟩
      rw [parseIfRest, if_neg notElsif, if_pos isElse, expectKind_of_kind close]
      dsimp only
      rw [show parseBody src ifTok "if" [] (U ++ [last]) = .error err from hbody]
    · by_cases ends : k1.kind = .endKeyword
      · -- the `end` tag after the `else` body closes the block
        obtain ⟨c1, rfl, close1⟩ := ktail1.of_end ends
        exact .inr ⟨_, U1, pre1 ++ [k1], tags1,
          parseIfRest_else isElse close ⟨h1, hbody⟩ ends close1, pieces1, by simp,
          .otherwise isElse blocks1 ends⟩
      · -- an `elsif` or a second `else` after the `else` body
        refine .inl ⟨misplaced src k1 [.ifBlock ifTok true], ?_, fun outer => ?_⟩
        · rw [parseIfRest, if_neg notElsif, if_pos isElse, expectKind_of_kind close]
          dsimp only
          rw [show parseBody src ifTok "if" [] (U ++ [last]) = _ from hbody]
          dsimp only
          rw [if_neg ends]
          rfl
        · have continues := TokenKind.continues_of_closer closes1 ends
          rw [pass, blocks1.scanBlocks_append src, scanBlocks_cons,
            stepBlocks_afterElse src continues]
          rfl
  | @close c isEnd' close =>
    have notElsif : k.kind ≠ .elsifKeyword := by simp [isEnd']
    have notElse : k.kind ≠ .elseKeyword := by simp [isEnd']
    have closed : ∃ h, parseIfRest src start ifTok condition body branches k (c :: (U ++ [last])) =
        .ok (some (.cond ⟨start.span.start, c.span.stop⟩ condition body branches.reverse none),
          ⟨U ++ [last], h⟩) := by
      rw [parseIfRest, if_neg notElsif, if_neg notElse, expectKind_of_kind close]
      exact Parse.exists_ok_congr rfl
    exact .inr ⟨_, U, [], tags, closed, pieces, rfl, .close isEnd'⟩
termination_by 5 * U.length + 2
decreasing_by all_goals omega

/-- A `for` block after its `<%` and `for`: its loop variables, `in`, its iterable, its
body and the `end` tag that closes it. -/
theorem parseFor_pieces (isEnd : last.kind = .eof) {o k i c : Token} {ns ts U tags : List Token}
    {names : List String} {e : Expr} (isFor : k.kind = .forKeyword)
    (dtargets : DerivesTargets ns names) (isIn : i.kind = .inKeyword) (diter : DerivesExpr ts e)
    (close : c.kind = .tagEnd) (pieces : Pieces U tags) :
    ReadsPieces last (parseFor src o k (ns ++ i :: (ts ++ [c]) ++ (U ++ [last]))) tags
      (fun e => ∀ opened, scanBlocks src opened (k :: tags) = .error e)
      (fun pre => Block (k :: pre)) := by
  have stream : ns ++ i :: (ts ++ [c]) ++ (U ++ [last]) = ns ++ i :: (ts ++ c :: (U ++ [last])) := by
    simp
  rw [stream]
  obtain ⟨_, htargets⟩ : ∃ h, parseTargets src [] (ns ++ i :: (ts ++ c :: (U ++ [last]))) =
      .ok (names, ⟨i :: (ts ++ c :: (U ++ [last])), h⟩) :=
    parseTargets_complete [] dtargets rfl (by simp [currentToken, isIn])
  obtain ⟨_, hiter⟩ : ∃ h, parseTagExpr src (ts ++ c :: (U ++ [last])) =
      .ok ((e, c), ⟨U ++ [last], h⟩) :=
    parseTagExpr_complete diter close rfl
  have enter : ∀ opened, scanBlocks src opened (k :: tags) =
      scanBlocks src (.forBlock k :: opened) tags := fun opened =>
    scanBlocks_step src (stepBlocks_for src isFor opened) tags
  rcases parseBody_pieces isEnd (.forBlock k) [] pieces with
    ⟨err, hbody, failed⟩ | ⟨nodes, k1, tail1, U1, pre1, tags1, ⟨h1, hbody⟩, ktail1, closes1,
      pieces1, rfl, blocks1⟩
  · refine .inl ⟨err, ?_, fun opened => (enter opened).trans (failed opened)⟩
    rw [parseFor, htargets]
    dsimp only
    rw [expectKind_of_kind isIn]
    dsimp only
    rw [hiter]
    dsimp only
    rw [show parseBody src k "for" [] (U ++ [last]) = .error err from hbody]
  · by_cases ends : k1.kind = .endKeyword
    · -- the `end` tag closes the loop
      obtain ⟨c1, rfl, close1⟩ := ktail1.of_end ends
      exact .inr ⟨_, U1, pre1 ++ [k1], tags1,
        parseFor_of_parts ⟨_, htargets⟩ isIn ⟨_, hiter⟩ ⟨h1, hbody⟩ ends close1, pieces1,
        by simp, .forBlock isFor blocks1 ends⟩
    · -- an `elsif` or `else` cannot close a loop's body
      refine .inl ⟨misplaced src k1 [.forBlock k], ?_, fun opened => ?_⟩
      · rw [parseFor, htargets]
        dsimp only
        rw [expectKind_of_kind isIn]
        dsimp only
        rw [hiter]
        dsimp only
        rw [show parseBody src k "for" [] (U ++ [last]) = _ from hbody]
        dsimp only
        rw [if_neg ends]
        rfl
      · have continues := TokenKind.continues_of_closer closes1 ends
        rw [enter, blocks1.scanBlocks_append src, scanBlocks_cons,
          stepBlocks_insideFor src continues]
        rfl
termination_by 5 * U.length + 3
decreasing_by all_goals omega

end

mutual

/-- The top level, from a boundary of pieces: it fails with the error of the scan of the
keywords, or it reads all of them, and they are `B*`. -/
theorem parseTopLevel_pieces (isEnd : last.kind = .eof) (acc : List Node) {U tags : List Token}
    (pieces : Pieces U tags) :
    (∃ e, parseTopLevel src acc (U ++ [last]) = .error e ∧ scanBlocks src [] tags = .error e) ∨
      (∃ v, parseTopLevel src acc (U ++ [last]) = .ok v) ∧ Blocks tags := by
  match pieces with
  | .nil =>
    -- only the end token is left
    have stop : parseTopLevel src acc [last] = .ok (acc.reverse, ⟨[last], Nat.le_refl _⟩) := by
      rw [parseTopLevel, if_pos isEnd]
    exact .inr ⟨⟨_, stop⟩, .nil⟩
  | .text isText rest => exact parseTopLevel_node isEnd acc (.text isText) rest
  | .plain tag rest =>
    obtain ⟨n, d⟩ := tag.derivesNode
    exact parseTopLevel_node isEnd acc d rest
  | @Pieces.block o k tail rest tags start ktail rest' =>
    have stream : o :: k :: (tail ++ rest) ++ [last] = o :: k :: (tail ++ (rest ++ [last])) := by
      simp
    rw [stream]
    have notEnd : o.kind ≠ .eof := ne_eof_of_eq start
    rcases ktail.opens_or_closes with opens | closes
    · -- a block: read it whole, then go on
      have notCloser : ¬ (o.kind = .blockStart ∧
          (currentToken (k :: (tail ++ (rest ++ [last])))).kind.isBlockCloser) := by
        rcases opens with kind | kind <;> simp [currentToken, kind, TokenKind.isBlockCloser]
      rcases (parseNode_opens isEnd start ktail opens rest' :
          ReadsPieces last (parseNode src o _) _ _ _) with
        ⟨e, hnode, failed⟩ | ⟨n, U'', pre, tags'', ⟨h, hnode⟩, pieces'', rfl, block⟩
      · exact .inl ⟨e, parseTopLevel_of_node_error notEnd notCloser hnode, failed []⟩
      · have fewer : U''.length ≤ tail.length + rest.length + 1 := by
          have := h
          simp only [List.length_append, List.length_cons, List.length_nil] at this
          omega
        rcases parseTopLevel_pieces isEnd (n.toList ++ acc) pieces'' with
          ⟨e, htop, failed⟩ | ⟨⟨⟨nodes, r, hr⟩, htop⟩, blocks⟩
        · refine .inl ⟨e, parseTopLevel_of_next_error notEnd notCloser ⟨h, hnode⟩ htop, ?_⟩
          rw [← List.cons_append, block.scanBlocks_append src]
          exact failed
        · obtain ⟨_, htop'⟩ := parseTopLevel_of_node notEnd notCloser ⟨h, hnode⟩ ⟨hr, htop⟩
          exact .inr ⟨⟨_, htop'⟩, .cons block blocks⟩
    · -- a closer with no block open
      have atCloser : o.kind = .blockStart ∧
          (currentToken (k :: (tail ++ (rest ++ [last])))).kind.isBlockCloser := ⟨start, closes⟩
      obtain ⟨notIf, notFor⟩ := TokenKind.not_opens_of_closer closes
      refine .inl ⟨misplaced src k [], ?_, ?_⟩
      · rw [parseTopLevel, if_neg notEnd, if_pos atCloser]
        rfl
      · rw [scanBlocks_cons, stepBlocks_stray src notIf notFor]
termination_by 2 * U.length + 1
decreasing_by
  all_goals simp only [List.length_append, List.length_cons, List.length_nil]
  all_goals omega

/-- The top level goes past a text run or a tag that is no block tag. -/
theorem parseTopLevel_node (isEnd : last.kind = .eof) (acc : List Node)
    {ts rest tags : List Token} {n : Option Node} (d : DerivesNode ts n) (pieces : Pieces rest tags) :
    (∃ e, parseTopLevel src acc (ts ++ rest ++ [last]) = .error e ∧
      scanBlocks src [] tags = .error e) ∨
      (∃ v, parseTopLevel src acc (ts ++ rest ++ [last]) = .ok v) ∧ Blocks tags := by
  obtain ⟨t, more, shape, notEnd, notCloser⟩ := d.head
  have longer : 0 < ts.length := by simp [shape]
  have stream : ts ++ rest ++ [last] = t :: (more ++ (rest ++ [last])) := by simp [shape]
  obtain ⟨h, hnode⟩ : ∃ h, parseNode src t (more ++ (rest ++ [last])) =
      .ok (n, ⟨rest ++ [last], h⟩) :=
    parseNode_complete d (by simp [shape])
  rw [stream]
  rcases parseTopLevel_pieces isEnd (n.toList ++ acc) pieces with
    ⟨e, htop, failed⟩ | ⟨⟨⟨nodes, r, hr⟩, htop⟩, blocks⟩
  · exact .inl ⟨e, parseTopLevel_of_next_error notEnd (notCloser _) ⟨h, hnode⟩ htop, failed⟩
  · obtain ⟨_, htop'⟩ := parseTopLevel_of_node notEnd (notCloser _) ⟨h, hnode⟩ ⟨hr, htop⟩
    exact .inr ⟨⟨_, htop'⟩, blocks⟩
termination_by 2 * (ts ++ rest).length
decreasing_by
  all_goals simp only [List.length_append]
  all_goals omega

end

end Parse

/-- Unbalanced blocks are diagnosed exactly. Take a text that scans into pieces followed
by its end token, whose block tags have the keywords `tags`. Its parse succeeds exactly
when `tags` is a sequence of `B*`; it fails with an engine error `e` exactly when the scan
of `tags` does, so at the first keyword out of place or, at the end, at the keyword of the
innermost block left open; and it fails with nothing but an unbalanced block. -/
theorem parse_blocks_diagnosed (source : String) (name : Option String)
    {body tags : List Token} {last : Token}
    (scanned : Token.scan source name = .ok (body ++ [last])) (pieces : Pieces body tags) :
    ((∃ t, Template.parse source name = .ok t) ↔ Blocks tags) ∧
    (∀ e, Template.parse source name = .error (.template e) ↔
      scanBlocks { lines := Text.lineFeedLines source } [] tags = .error e) ∧
    ∀ failure, Template.parse source name = .error failure →
      ∃ e, failure = .template e ∧ e.fault.errorClass = .unbalancedBlock := by
  -- the scan closes its tokens with the end token
  have isEnd : last.kind = .eof := by
    obtain ⟨-, loc, acc, -, -, split⟩ :=
      @Token.scan_induction source name _ (fun _ _ _ _ => True) (fun _ _ _ => trivial)
        (fun _ _ _ => trivial) trivial scanned
    obtain ⟨-, same⟩ := List.append_inj' split rfl
    rw [List.singleton_inj.1 same]
  have parsed : Template.parse source name =
      (Template.ofTokens (body ++ [last]) source name).mapError .template := by
    rw [Template.parse, scanned]
  rcases (parseTopLevel_pieces isEnd [] pieces :
      (∃ e, parseTopLevel { lines := Text.lineFeedLines source } [] (body ++ [last]) = .error e ∧ _) ∨ _) with
    ⟨e, htop, scan⟩ | ⟨⟨⟨nodes, r, hr⟩, htop⟩, blocks⟩
  · have fails : Template.parse source name = .error (.template e) := by
      rw [parsed, Template.ofTokens, htop]
      rfl
    refine ⟨⟨?_, fun blocks => ?_⟩, fun e' => ?_, fun failure failed => ?_⟩
    · rintro ⟨t, ht⟩
      rw [fails] at ht
      cases ht
    · rw [(scanBlocks_eq_ok_iff _ tags).2 blocks] at scan
      cases scan
    · rw [fails, scan]
      simp
    · rw [fails] at failed
      cases failed
      exact ⟨e, rfl, scanBlocks_errorClass _ scan⟩
  · obtain ⟨t, ok⟩ : ∃ t, Template.parse source name = .ok t := by
      rw [parsed, Template.ofTokens, htop]
      exact ⟨_, rfl⟩
    have scanOk := (scanBlocks_eq_ok_iff { lines := Text.lineFeedLines source } tags).2 blocks
    refine ⟨⟨fun _ => blocks, fun _ => ⟨t, ok⟩⟩, fun e => ?_, fun failure failed => ?_⟩
    · rw [ok, scanOk]
      simp
    · rw [ok] at failed
      cases failed

/-- A lone `end` tag: the hypotheses hold, and the parse fails as the scan of its one
keyword does. -/
theorem parse_blocks_diagnosed_stray_end :
    ∃ body tags last, Token.scan "<% end %>" none = .ok (body ++ [last]) ∧ Pieces body tags ∧
      ∀ e, Template.parse "<% end %>" none = .error (.template e) ↔
        scanBlocks { lines := Text.lineFeedLines "<% end %>" } [] tags = .error e :=
  have scanned : Token.scan "<% end %>" none = .ok
      ([⟨.blockStart, .str "<%", "<%", ⟨⟨1, 1, 0, none⟩, ⟨1, 3, 2, none⟩⟩⟩,
        ⟨.endKeyword, .str "end", "end", ⟨⟨1, 4, 3, none⟩, ⟨1, 7, 6, none⟩⟩⟩,
        ⟨.tagEnd, .str "%>", "%>", ⟨⟨1, 8, 7, none⟩, ⟨1, 10, 9, none⟩⟩⟩] ++
       [⟨.eof, .none, "", ⟨⟨1, 10, 9, none⟩, ⟨1, 10, 9, none⟩⟩⟩]) := by
    cbv
  have pieces := @Pieces.block _ _ [_] [] [] rfl (.close rfl rfl) .nil
  ⟨_, _, _, scanned, pieces, (parse_blocks_diagnosed "<% end %>" none scanned pieces).2.1⟩

end Stencil
