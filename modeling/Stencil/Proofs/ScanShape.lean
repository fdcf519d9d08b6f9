import Stencil.Proofs.ScanTiling

/-!
# The shape of a scanned token stream

A scan alternates between two modes, and its tokens show it. Their kinds form a
word of `(TEXT | OPEN X* TAG_END)* EOF`, where `OPEN` is one of the four openers and
`X` a token of a tag (`Units` is the part before the end). Every text run is
non-empty, holds no `<%` and is followed by an opener or the end; an opener is read
longest first; and the token after a dot is never a keyword, a truth value, `nil` or
a float literal (`Token.Follows`). The main statement is `Token.scan_shape`; like
the tiling of the text, it is proved from an invariant of the scan (`Shaped`) that
both kinds of step keep.
-/

namespace Stencil

/-! ## Words of token kinds -/

/-- The words of token kinds made of text runs and whole tags, each an opener, tokens
of the tag and `%>`. -/
inductive Units : List TokenKind → Prop
  | nil : Units []
  | text {ks : List TokenKind} (rest : Units ks) : Units (.text :: ks)
  | tag {o : TokenKind} {xs ks : List TokenKind} (opens : o.opensTag)
      (inside : ∀ x ∈ xs, x.insideTag) (rest : Units ks) : Units (o :: (xs ++ .tagEnd :: ks))

/-- The words of token kinds inside a tag: whole units, then an opener and tokens of
the tag. -/
def OpenTag (ks : List TokenKind) : Prop :=
  ∃ us o xs, ks = us ++ o :: xs ∧ Units us ∧ o.opensTag ∧ ∀ x ∈ xs, x.insideTag

namespace Units

variable {ks : List TokenKind}

theorem append {us : List TokenKind} (first : Units us) (second : Units ks) :
    Units (us ++ ks) := by
  induction first with
  | nil => exact second
  | text _ ih => exact .text ih
  | tag opens inside _ ih => simpa using Units.tag opens inside ih

theorem push_text (h : Units ks) : Units (ks ++ [.text]) := h.append (.text .nil)

theorem push_opener {o : TokenKind} (h : Units ks) (opens : o.opensTag) : OpenTag (ks ++ [o]) :=
  ⟨ks, o, [], by simp, h, opens, by simp⟩

end Units

namespace OpenTag

variable {ks : List TokenKind}

theorem push {x : TokenKind} (h : OpenTag ks) (inside : x.insideTag) : OpenTag (ks ++ [x]) := by
  obtain ⟨us, o, xs, rfl, units, opens, inside'⟩ := h
  refine ⟨us, o, xs ++ [x], by simp, units, opens, fun y mem => ?_⟩
  rcases List.mem_append.1 mem with old | new
  · exact inside' y old
  · rw [List.mem_singleton.1 new]
    exact inside

theorem close (h : OpenTag ks) : Units (ks ++ [.tagEnd]) := by
  obtain ⟨us, o, xs, rfl, units, opens, inside⟩ := h
  simpa using units.append (.tag opens inside .nil)

end OpenTag

/-! ## What follows what -/

/-- Whether a token of a kind may follow a dot: every kind but the keywords, the truth
values, `nil` and float literals. -/
def TokenKind.fitsAfterDot : TokenKind → Bool
  | .ifKeyword | .elsifKeyword | .elseKeyword | .forKeyword | .inKeyword | .endKeyword
  | .boolLiteral | .nilLiteral | .floatLiteral => false
  | _ => true

/-- What may follow what among scanned tokens: after a text run an opener or the end,
after a dot a token that fits there. -/
structure Token.Follows (a b : Token) : Prop where
  afterText : a.kind = .text → b.kind.opensTag ∨ b.kind = .eof
  afterDot : a.kind = .dot → b.kind.fitsAfterDot

/-- How an opener is read from a text: longest first, `<%%`, `<%=` and `<%-` before
`<%`, so that a bare `<%` is never followed by `%`, `=` or `-`. -/
def Token.OpensLongest (text : List Char) (t : Token) : Prop :=
  t.kind = .renderStart ∧ t.lexeme.toList = ['<', '%', '%'] ∨
  t.kind = .outputStart ∧ t.lexeme.toList = ['<', '%', '='] ∨
  t.kind = .rawOutputStart ∧ t.lexeme.toList = ['<', '%', '-'] ∨
  t.kind = .blockStart ∧ t.lexeme.toList = ['<', '%'] ∧
    ∀ c ∈ (text.drop t.span.stop.offset).head?, c ≠ '%' ∧ c ≠ '=' ∧ c ≠ '-'

/-- How a token of a text is read: a text run is non-empty and holds no `<%`, and an
opener is read longest first. -/
structure Token.ReadWhole (text : List Char) (t : Token) : Prop where
  plain : t.kind = .text → t.lexeme ≠ "" ∧ ∀ a b, t.lexeme.toList ≠ a ++ '<' :: '%' :: b
  longest : t.kind.opensTag → t.OpensLongest text

/-- The shape of the tokens of a scanned text `s`: their kinds are whole units and the
end, each follows the one before as `Token.Follows` says, and each is read whole. -/
structure Shape (s : String) (tokens : List Token) : Prop where
  units : ∃ body last, tokens = body ++ [last] ∧ last.kind = .eof ∧ Units (body.map Token.kind)
  follows : tokens.IsChain Token.Follows
  read : ∀ t ∈ tokens, t.ReadWhole s.toList

/-! ## What each step reads -/

/-- What follows a text run is the end of the text or `<%`. -/
theorem textRunTail_stop (r : List Char) :
    r.drop (textRunTail r).length = [] ∨
      ∃ t, r.drop (textRunTail r).length = '<' :: '%' :: t := by
  induction r using textRunTail.induct with
  | case1 => exact .inl rfl
  | case2 t => exact .inr ⟨t, rfl⟩
  | case3 c rest _ ih =>
    rw [textRunTail.eq_3 c rest (by assumption)]
    simpa using ih

/-- A text run that does not start with `<%` holds no `<%`. -/
theorem textRun_plain {c : Char} {r : List Char} (notOpen : ¬ (c = '<' ∧ r.head? = some '%')) :
    ∀ a b, c :: textRunTail r ≠ a ++ '<' :: '%' :: b := by
  induction r using textRunTail.induct generalizing c with
  | case1 =>
    intro a b same
    have := congrArg List.length same
    simp [textRunTail] at this
    omega
  | case2 t =>
    intro a b same
    have := congrArg List.length same
    simp [textRunTail] at this
    omega
  | case3 x rest notHere ih =>
    rw [textRunTail.eq_3 x rest notHere]
    intro a b same
    cases a with
    | nil =>
      simp only [List.nil_append, List.cons.injEq] at same
      exact notOpen ⟨same.1, by simp [same.2.1]⟩
    | cons a0 a' =>
      simp only [List.cons_append, List.cons.injEq] at same
      refine ih (fun opens => ?_) a' b same.2
      obtain ⟨isLt, next⟩ := opens
      cases rest with
      | nil => cases next
      | cons y rest' =>
        simp only [List.head?_cons, Option.some.injEq] at next
        exact notHere rest' isLt (by rw [next])

section Emits

variable {loc : Location} {mode mode' : ScanMode} {afterDot afterDot' : Bool}
  {cs lex rest : List Char} {kind : TokenKind} {value : TokenValue}

/-- Only a step outside tags reads a text run or an opener. -/
theorem Emits.outside_of_text_or_opener
    (e : Emits loc mode afterDot cs kind value lex rest mode' afterDot')
    (h : kind = .text ∨ kind.opensTag) : mode = .text := by
  rcases e.modes with ⟨outside, -⟩ | ⟨o, -, ⟨rfl, -⟩ | ⟨inside, -⟩⟩
  · exact outside
  · rcases h with h | h <;> cases h
  · rcases h with rfl | h
    · cases inside
    · rw [TokenKind.opensTag_eq_false inside] at h
      cases h

/-- A text run is a non-empty stretch without `<%`, and the text after it starts with
`<%` or ends. -/
theorem Emits.textRun (e : Emits loc mode afterDot cs kind value lex rest mode' afterDot')
    (isText : kind = .text) :
    lex ≠ [] ∧ (∀ a b, lex ≠ a ++ '<' :: '%' :: b) ∧
      (rest = [] ∨ ∃ t, rest = '<' :: '%' :: t) := by
  obtain rfl := e.outside_of_text_or_opener (.inl isText)
  cases e with
  | text notOpen => exact ⟨List.cons_ne_nil _ _, textRun_plain notOpen, textRunTail_stop _⟩
  | @opener afterDot r kind extra _ which =>
    have opens := TokenKind.opensTag_openerAfter (r.drop 1)
    rw [which, isText] at opens
    cases opens

/-- A text run never starts at `<%`. -/
theorem Emits.text_not_opener (e : Emits loc mode afterDot cs kind value lex rest mode' afterDot')
    (isText : kind = .text) {t : List Char} : cs ≠ '<' :: '%' :: t := by
  obtain rfl := e.outside_of_text_or_opener (.inl isText)
  cases e with
  | text notOpen =>
    intro same
    simp only [List.cons.injEq] at same
    exact notOpen ⟨same.1, by simp [same.2]⟩
  | @opener afterDot r kind extra _ which =>
    have opens := TokenKind.opensTag_openerAfter (r.drop 1)
    rw [which, isText] at opens
    cases opens

/-- An opener is read longest first. -/
theorem Emits.opensLongest (e : Emits loc mode afterDot cs kind value lex rest mode' afterDot')
    (opens : kind.opensTag) :
    kind = .renderStart ∧ lex = ['<', '%', '%'] ∨ kind = .outputStart ∧ lex = ['<', '%', '='] ∨
    kind = .rawOutputStart ∧ lex = ['<', '%', '-'] ∨
    kind = .blockStart ∧ lex = ['<', '%'] ∧ ∀ c ∈ rest.head?, c ≠ '%' ∧ c ≠ '=' ∧ c ≠ '-' := by
  obtain rfl := e.outside_of_text_or_opener (.inr opens)
  cases e with
  | text => cases opens
  | @opener afterDot r kind extra percent which =>
    obtain ⟨t, rfl⟩ : ∃ t, r = '%' :: t := by
      cases r with
      | nil => cases percent
      | cons x t =>
        simp only [List.head?_cons, Option.some.injEq] at percent
        exact ⟨t, by rw [percent]⟩
    simp only [List.drop_succ_cons, List.drop_zero] at which
    unfold openerAfter at which
    split at which
    · cases which
      simp
    · cases which
      simp
    · cases which
      simp
    · next notPercent notEquals notMinus =>
      cases which
      refine .inr (.inr (.inr ⟨rfl, by simp, fun c first => ?_⟩))
      cases t with
      | nil => cases first
      | cons y u =>
        simp only [Nat.add_zero, List.drop_succ_cons, List.drop_zero, List.head?_cons,
          Option.mem_def, Option.some.injEq] at first
        subst first
        exact ⟨fun h => notPercent u (by rw [h]), fun h => notEquals u (by rw [h]),
          fun h => notMinus u (by rw [h])⟩

/-- Right after a dot, a word is a name and digits are an integer. -/
theorem Emits.fitsAfterDot (e : Emits loc mode true cs kind value lex rest mode' afterDot') :
    kind.fitsAfterDot := by
  cases e with
  | text | tagEnd | string | int => rfl
  | @opener afterDot r kind extra _ which =>
    have opens := TokenKind.opensTag_openerAfter (r.drop 1)
    rw [which] at opens
    cases kind <;> simp_all [TokenKind.opensTag, TokenKind.fitsAfterDot]
  | word _ _ hkind =>
    rw [hkind]
    rfl
  | operator which =>
    unfold operatorKind at which
    split at which <;> cases which <;> rfl

/-- A dot sets the flag that the next token reads. -/
theorem Emits.afterDot_of_dot (e : Emits loc mode afterDot cs kind value lex rest mode' afterDot')
    (dot : kind = .dot) : afterDot' = true := by
  cases e with
  | text | tagEnd | string | int | float => cases dot
  | @opener afterDot r kind extra _ which =>
    have opens := TokenKind.opensTag_openerAfter (r.drop 1)
    rw [which, dot] at opens
    cases opens
  | word _ _ hkind =>
    rw [dot, eq_comm] at hkind
    split at hkind
    · cases hkind
    · unfold TokenKind.ofWord at hkind
      split at hkind <;> cases hkind
  | operator => simp [dot]

end Emits

/-! ## The scan, step by step -/

/-- What holds after each step of a scan of the text `text`, in `mode`, after a dot
or not, with `cs` left to read after the tokens `acc`: outside a tag the kinds read
are whole units, inside one they end in an open tag; after a text run the scan is
outside tags, at `<%` or at the end; after a dot the flag is set; the tokens read
follow each other as they may, and each is read whole. -/
structure Shaped (text : List Char) (mode : ScanMode) (afterDot : Bool) (acc : List Token)
    (cs : List Char) : Prop where
  closed : mode = .text → Units (acc.map Token.kind)
  opened : ∀ o, mode = .tag o → OpenTag (acc.map Token.kind)
  afterText : ∀ t ∈ acc.getLast?, t.kind = .text →
    mode = .text ∧ (cs = [] ∨ ∃ r, cs = '<' :: '%' :: r)
  afterDot : ∀ t ∈ acc.getLast?, t.kind = .dot → afterDot = true
  follows : acc.IsChain Token.Follows
  read : ∀ t ∈ acc, t.ReadWhole text

namespace Shaped

variable {text : List Char}

theorem start : Shaped text .text false [] text where
  closed := fun _ => .nil
  opened := fun _ tagged => by cases tagged
  afterText := by simp
  afterDot := by simp
  follows := .nil
  read := by simp

/-- Skipping a blank inside a tag changes nothing that was read. -/
theorem skip {o : Location} {afterDot : Bool} {acc : List Token} {c : Char} {r : List Char}
    (sh : Shaped text (.tag o) afterDot acc (c :: r)) : Shaped text (.tag o) afterDot acc r :=
  { sh with
    afterText := fun t isLast isText => by
      obtain ⟨tagged, -⟩ := sh.afterText t isLast isText
      cases tagged }

/-- Reading a token keeps the shape: the token extends the units or the open tag, it
may follow the last token, and it is read whole. -/
theorem emit {file : Option String} {mode mode' : ScanMode} {afterDot afterDot' : Bool}
    {loc : Location} {acc : List Token} {cs lex rest : List Char} {kind : TokenKind}
    {value : TokenValue} (e : Emits loc mode afterDot cs kind value lex rest mode' afterDot')
    (s : Scanned file text mode loc acc cs) (sh : Shaped text mode afterDot acc cs) :
    Shaped text mode' afterDot' (acc ++ [(makeToken kind value lex loc).1]) rest := by
  have after := s.drop_after e
  simp only [makeToken_fst]
  generalize new :
    (⟨kind, value, String.ofList lex, ⟨loc, loc.advanceAll lex⟩⟩ : Token) = tok
  have tokKind : tok.kind = kind := by rw [← new]
  have tokLexeme : tok.lexeme.toList = lex := by rw [← new, String.toList_ofList]
  have tokStop : text.drop tok.span.stop.offset = rest := by rw [← new]; exact after
  have kinds : (acc ++ [tok]).map Token.kind = acc.map Token.kind ++ [kind] := by simp [tokKind]
  -- the new token may follow the last one read
  have follows : ∀ a ∈ acc.getLast?, Token.Follows a tok := by
    intro a wasLast
    constructor
    · intro isText
      rw [tokKind]
      obtain ⟨rfl, early⟩ := sh.afterText a wasLast isText
      rcases early with rfl | ⟨r, rfl⟩
      · exact absurd (List.append_eq_nil_iff.1 e.split.1.symm).1 e.split.2
      · rcases e.modes with ⟨-, ⟨rfl, -⟩ | ⟨opens, -⟩⟩ | ⟨o, tagged, -⟩
        · exact absurd rfl (e.text_not_opener rfl)
        · exact .inl opens
        · cases tagged
    · intro isDot
      have flag := sh.afterDot a wasLast isDot
      subst flag
      rw [tokKind]
      exact e.fitsAfterDot
  refine ⟨fun outside => ?_, fun o' tagged => ?_, fun t last isText => ?_,
    fun t last isDot => ?_, sh.follows.append (.singleton _) ?_, fun t mem => ?_⟩
  · rw [kinds]
    rcases e.modes with ⟨rfl, ⟨rfl, -⟩ | ⟨-, rfl⟩⟩ | ⟨o, rfl, ⟨rfl, -⟩ | ⟨-, rfl⟩⟩
    · exact (sh.closed rfl).push_text
    · cases outside
    · exact (sh.opened o rfl).close
    · cases outside
  · rw [kinds]
    rcases e.modes with ⟨rfl, ⟨-, rfl⟩ | ⟨opens, -⟩⟩ | ⟨o, rfl, ⟨-, rfl⟩ | ⟨inside, -⟩⟩
    · cases tagged
    · exact (sh.closed rfl).push_opener opens
    · cases tagged
    · exact (sh.opened o rfl).push inside
  · simp only [List.getLast?_append, List.getLast?_singleton, Option.some_or, Option.mem_def,
      Option.some.injEq] at last
    rw [← last, tokKind] at isText
    obtain ⟨-, -, stop⟩ := e.textRun isText
    rcases e.modes with ⟨-, ⟨-, rfl⟩ | ⟨opens, -⟩⟩ | ⟨o, -, ⟨-, rfl⟩ | ⟨inside, -⟩⟩
    · exact ⟨rfl, stop⟩
    · rw [isText] at opens
      cases opens
    · exact ⟨rfl, stop⟩
    · rw [isText] at inside
      cases inside
  · simp only [List.getLast?_append, List.getLast?_singleton, Option.some_or, Option.mem_def,
      Option.some.injEq] at last
    rw [← last, tokKind] at isDot
    exact e.afterDot_of_dot isDot
  · intro a wasLast b isHead
    simp only [List.head?_cons, Option.mem_def, Option.some.injEq] at isHead
    rw [← isHead]
    exact follows a wasLast
  · rcases List.mem_append.1 mem with old | new
    · exact sh.read t old
    rw [List.mem_singleton.1 new]
    refine ⟨fun isText => ?_, fun opens => ?_⟩
    · rw [tokKind] at isText
      obtain ⟨nonempty, plain, -⟩ := e.textRun isText
      refine ⟨fun empty => nonempty ?_, by rw [tokLexeme]; exact plain⟩
      rw [← tokLexeme, empty]
      rfl
    · rw [tokKind] at opens
      unfold Token.OpensLongest
      rw [tokKind, tokLexeme, tokStop]
      exact e.opensLongest opens

end Shaped

/-- The tokens of every text that scans have the shape of a two-mode stream: whole text
runs and tags, then the end; text runs followed by openers or the end; openers read
longest first; and after a dot only a name, an integer, or a token that is no word. -/
theorem Token.scan_shape {s : String} {file : Option String} {tokens : List Token}
    (h : Token.scan s file = .ok tokens) : Shape s tokens := by
  obtain ⟨afterDot, loc, acc, -, final, rfl⟩ :=
    @Token.scan_induction s file tokens
      (fun mode afterDot acc cs => Shaped s.toList mode afterDot acc cs)
      (fun _ _ sh => sh.skip) (fun e s sh => sh.emit e s) Shaped.start h
  refine ⟨⟨acc, _, rfl, rfl, final.closed rfl⟩, final.follows.append (.singleton _) ?_, ?_⟩
  · intro a wasLast b isHead
    simp only [List.head?_cons, Option.mem_def, Option.some.injEq] at isHead
    subst isHead
    exact ⟨fun _ => .inr rfl, fun _ => rfl⟩
  · intro t mem
    rcases List.mem_append.1 mem with old | new
    · exact final.read t old
    · rw [List.mem_singleton.1 new]
      exact ⟨fun isText => (by cases isText), fun opens => (by cases opens)⟩

end Stencil
