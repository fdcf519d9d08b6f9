import Stencil.Proofs.ScanValues
import Mathlib

/-!
# Scanned tokens tile their text

When `Token.scan` reads a text, its tokens lie end to end along the text: each
token's lexeme is the stretch of text between its start and its stop, only blanks
inside tags stand between consecutive tokens, and the last token, the only end
token, sits at the end of the text. Every location is the one its offset gives:
the line is one more than the line feeds before it, the column its distance from
the last of them, both counted in characters. Every value is the one its lexeme
gives (`Token.ReadsValue`).

`Scanned` is what holds after each step of the scan; `Scanned.skip` and
`Scanned.emit` show that both kinds of step keep it, and `scanFrom_induction`
carries it to the end of the text. The main statement is `Token.scan_tiles`.
-/

namespace Stencil

/-! ## Locations from offsets -/

/-- The index of the last line feed among some characters, `-1` when there is none. -/
def lastLineFeed (cs : List Char) : Int :=
  match cs.reverse.findIdx? (· == '\n') with
  | some i => (cs.length : Int) - 1 - i
  | none => -1

theorem lastLineFeed_lt (cs : List Char) : lastLineFeed cs < cs.length := by
  unfold lastLineFeed
  split <;> omega

theorem lastLineFeed_snoc (cs : List Char) (c : Char) :
    lastLineFeed (cs ++ [c]) = if c = '\n' then (cs.length : Int) else lastLineFeed cs := by
  unfold lastLineFeed
  rw [List.reverse_append, List.reverse_singleton, List.singleton_append, List.findIdx?_cons]
  by_cases h : c = '\n'
  · simp [h]
  · cases cs.reverse.findIdx? (· == '\n') with
    | none => simp [h]
    | some i => simp [h]; omega

namespace Location

/-- The location of an offset into a text named `file`: its line is one more than the
number of line feeds before the offset, its column the offset less the index of the
last of them, or less `-1` when there is none. -/
def ofOffset (file : Option String) (text : List Char) (offset : Nat) : Location :=
  ⟨1 + (text.take offset).count '\n', (offset - lastLineFeed (text.take offset)).toNat, offset,
    file⟩

variable {file : Option String} {text : List Char}

@[simp] theorem ofOffset_offset (k : Nat) : (ofOffset file text k).offset = k := rfl

theorem ofOffset_zero : ofOffset file text 0 = initial file := rfl

/-- Moving past the character at an offset moves to the next offset. -/
theorem ofOffset_advance {k : Nat} {c : Char} {r : List Char} (h : text.drop k = c :: r) :
    (ofOffset file text k).advance c = ofOffset file text (k + 1) := by
  have within : k < text.length := by
    have := congrArg List.length h
    simp only [List.length_drop, List.length_cons] at this
    omega
  have taken : text.take (k + 1) = text.take k ++ [c] := by
    have at_k : text[k]? = some c := by rw [← Nat.add_zero k, ← List.getElem?_drop, h]; rfl
    rw [List.take_add_one, at_k]
    rfl
  have length : (text.take k).length = k := by simp [List.length_take]; omega
  have before := lastLineFeed_lt (text.take k)
  rw [length] at before
  unfold advance ofOffset
  rw [taken, List.count_append, lastLineFeed_snoc, length]
  by_cases feed : c = '\n'
  · subst feed
    simp
    omega
  · simp [feed]
    omega

/-- Moving past the characters at an offset moves past their number of offsets. -/
theorem ofOffset_advanceAll {k : Nat} {lex rest : List Char} (h : text.drop k = lex ++ rest) :
    (ofOffset file text k).advanceAll lex = ofOffset file text (k + lex.length) := by
  induction lex generalizing k with
  | nil => rfl
  | cons c lex ih =>
    have next : text.drop (k + 1) = lex ++ rest := by
      rw [← List.drop_drop, h]
      rfl
    rw [advanceAll, List.foldl_cons, ← advanceAll, ofOffset_advance h, ih next,
      List.length_cons, Nat.add_assoc, Nat.add_comm 1]

@[simp] theorem offset_advanceAll (l : Location) (cs : List Char) :
    (l.advanceAll cs).offset = l.offset + cs.length := by
  induction cs generalizing l with
  | nil => rfl
  | cons c cs ih =>
    rw [advanceAll, List.foldl_cons, ← advanceAll, ih, List.length_cons]
    unfold advance
    split <;> (simp only; omega)

end Location

/-! ## What the tokens of a text are -/

/-- A token in its place in a text named `file`: its lexeme is the stretch of the
text between its start and its stop, which are located as their offsets say, and its
value is the one its lexeme gives. -/
structure Token.InText (file : Option String) (text : List Char) (t : Token) : Prop where
  ordered : t.span.start.offset ≤ t.span.stop.offset
  within : t.span.stop.offset ≤ text.length
  slice : t.lexeme.toList = (text.take t.span.stop.offset).drop t.span.start.offset
  start : t.span.start = Location.ofOffset file text t.span.start.offset
  stop : t.span.stop = Location.ofOffset file text t.span.stop.offset
  value : t.ReadsValue

/-- Two consecutive tokens of a text: the second starts where the first stops or
later, only tag blanks stand between them, and when some do, they are inside a tag:
the first token opens the tag or is a token of it, the second is a token of it or
`%>`. -/
structure Token.Adjacent (text : List Char) (a b : Token) : Prop where
  ordered : a.span.stop.offset ≤ b.span.start.offset
  blanks : ∀ c ∈ (text.take b.span.start.offset).drop a.span.stop.offset, isTagBlank c
  inTag : a.span.stop.offset < b.span.start.offset →
    (a.kind.opensTag ∨ a.kind.insideTag) ∧ (b.kind.insideTag ∨ b.kind = .tagEnd)

/-- The tokens that a scan of the text `s` named `file` gives: they end with the only
end token, at the end of the text, all others have non-empty lexemes, each lies in
its place in the text, the first starts the text, and each is adjacent to the next. -/
structure Tiling (file : Option String) (s : String) (tokens : List Token) : Prop where
  ends : ∃ body last, tokens = body ++ [last] ∧ last.kind = .eof ∧
    last.span.start.offset = s.length ∧ last.span.stop.offset = s.length ∧
    ∀ t ∈ body, t.kind ≠ .eof ∧ t.lexeme ≠ ""
  inText : ∀ t ∈ tokens, t.InText file s.toList
  first : ∀ t ∈ tokens.head?, t.span.start.offset = 0
  adjacent : tokens.IsChain (Token.Adjacent s.toList)

/-! ## The scan, step by step -/

/-- What holds after each step of a scan of the text `text` named `file`: the scan
stands at `loc`, in `mode`, with `cs` left to read after the tokens `acc`. The
location is the one its offset gives and `cs` is the text from there on; the tokens
read so far lie in their places and are adjacent; the last of them stops at `loc` or
before, with only tag blanks in between and those only inside a tag; and inside a tag
the last token opens it or is a token of it. -/
structure Scanned (file : Option String) (text : List Char) (mode : ScanMode) (loc : Location)
    (acc : List Token) (cs : List Char) : Prop where
  rest : cs = text.drop loc.offset
  within : loc.offset ≤ text.length
  here : loc = Location.ofOffset file text loc.offset
  inText : ∀ t ∈ acc, t.InText file text ∧ t.kind ≠ .eof ∧ t.lexeme ≠ ""
  first : ∀ t ∈ acc.head?, t.span.start.offset = 0
  fresh : acc = [] → loc.offset = 0 ∧ mode = .text
  adjacent : acc.IsChain (Token.Adjacent text)
  last : ∀ t ∈ acc.getLast?, t.span.stop.offset ≤ loc.offset ∧
    (∀ c ∈ (text.take loc.offset).drop t.span.stop.offset, isTagBlank c) ∧
    (t.span.stop.offset < loc.offset → ∃ o, mode = .tag o)
  openTag : ∀ o, mode = .tag o → ∃ t ∈ acc.getLast?, t.kind.opensTag ∨ t.kind.insideTag

namespace Scanned

variable {file : Option String} {text : List Char}

theorem start : Scanned file text .text (Location.initial file) [] text where
  rest := rfl
  within := Nat.zero_le _
  here := rfl
  inText := by simp
  first := by simp
  fresh := fun _ => ⟨rfl, rfl⟩
  adjacent := .nil
  last := by simp
  openTag := by simp

/-- Skipping a blank inside a tag widens the gap after the last token by a blank. -/
theorem skip {o : Location} {loc : Location} {acc : List Token} {c : Char} {r : List Char}
    (blank : isTagBlank c) (s : Scanned file text (.tag o) loc acc (c :: r)) :
    Scanned file text (.tag o) (loc.advance c) acc r := by
  have next : loc.advance c = Location.ofOffset file text (loc.offset + 1) := by
    rw [s.here]
    exact Location.ofOffset_advance s.rest.symm
  have within : loc.offset + 1 ≤ text.length := by
    have := congrArg List.length s.rest
    simp only [List.length_drop, List.length_cons] at this
    omega
  have taken : text.take (loc.offset + 1) = text.take loc.offset ++ [c] := by
    rw [List.take_add_one, ← Nat.add_zero loc.offset, ← List.getElem?_drop, ← s.rest]
    rfl
  rw [next]
  refine ⟨?_, within, rfl, s.inText, s.first, ?_, s.adjacent, ?_, s.openTag⟩
  · rw [Location.ofOffset_offset, ← List.drop_drop, ← s.rest]
    rfl
  · intro empty
    exact absurd (s.fresh empty).2 (by simp)
  · intro t isLast
    obtain ⟨before, blanks, -⟩ := s.last t isLast
    refine ⟨by simp; omega, ?_, fun _ => ⟨o, rfl⟩⟩
    rw [Location.ofOffset_offset, taken,
      List.drop_append_of_le_length (by simp [List.length_take]; omega)]
    intro x mem
    rcases List.mem_append.1 mem with early | now
    · exact blanks x early
    · rw [List.mem_singleton.1 now]
      exact blank

section Push

variable {mode : ScanMode} {loc : Location} {acc : List Token} {cs : List Char} {t : Token}

/-- A token that starts where the scan stands is first when no token came before. -/
theorem first_push (s : Scanned file text mode loc acc cs)
    (start : t.span.start.offset = loc.offset) :
    ∀ u ∈ (acc ++ [t]).head?, u.span.start.offset = 0 := by
  intro u isHead
  cases acc with
  | nil =>
    simp only [List.nil_append, List.head?_cons, Option.mem_def, Option.some.injEq] at isHead
    rw [← isHead, start]
    exact (s.fresh rfl).1
  | cons a acc => exact s.first u (by simpa using isHead)

/-- A token that starts where the scan stands follows the last token read, if inside a
tag it is a token of the tag or `%>`. -/
theorem adjacent_push (s : Scanned file text mode loc acc cs)
    (start : t.span.start.offset = loc.offset)
    (kinds : ∀ o, mode = .tag o → t.kind.insideTag ∨ t.kind = .tagEnd) :
    (acc ++ [t]).IsChain (Token.Adjacent text) := by
  refine s.adjacent.append (.singleton _) (fun a isLast b isHead => ?_)
  simp only [List.head?_cons, Option.mem_def, Option.some.injEq] at isHead
  subst isHead
  obtain ⟨before, blanks, gap⟩ := s.last a isLast
  rw [← start] at before blanks gap
  refine ⟨before, blanks, fun wider => ?_⟩
  -- a gap opens only inside a tag, where the last token read belongs to the tag
  obtain ⟨o, tagged⟩ := gap wider
  obtain ⟨a', isLast', opens⟩ := s.openTag o tagged
  rw [isLast] at isLast'
  cases isLast'
  exact ⟨opens, kinds o tagged⟩

end Push

/-- Reading a token adds it, in its place, right after the tokens read before. -/
theorem emit {mode mode' : ScanMode} {afterDot afterDot' : Bool} {loc : Location}
    {acc : List Token} {cs lex rest : List Char} {kind : TokenKind} {value : TokenValue}
    (e : Emits loc mode afterDot cs kind value lex rest mode' afterDot')
    (s : Scanned file text mode loc acc cs) :
    Scanned file text mode' (makeToken kind value lex loc).2
      (acc ++ [(makeToken kind value lex loc).1]) rest := by
  obtain ⟨split, nonempty⟩ := e.split
  have atLoc : text.drop loc.offset = lex ++ rest := s.rest ▸ split
  have stop : loc.advanceAll lex = Location.ofOffset file text (loc.offset + lex.length) := by
    rw [s.here]
    exact Location.ofOffset_advanceAll atLoc
  have within : loc.offset + lex.length ≤ text.length := by
    have := congrArg List.length atLoc
    simp only [List.length_drop, List.length_append] at this
    have := s.within
    omega
  have notEnd : kind ≠ .eof := by
    rcases e.modes with ⟨-, ⟨rfl, -⟩ | ⟨opens, -⟩⟩ | ⟨o, -, ⟨rfl, -⟩ | ⟨inside, -⟩⟩
    · simp
    · rintro rfl
      simp [TokenKind.opensTag] at opens
    · simp
    · exact TokenKind.ne_eof_of_insideTag inside
  -- the new token, in its place
  have placed : Token.InText file text ⟨kind, value, String.ofList lex,
      ⟨loc, Location.ofOffset file text (loc.offset + lex.length)⟩⟩ := by
    refine ⟨by simp, within, ?_, s.here, rfl, e.readsValue _⟩
    show (String.ofList lex).toList = (text.take (loc.offset + lex.length)).drop loc.offset
    rw [String.toList_ofList, List.drop_take, Nat.add_sub_cancel_left, atLoc,
      List.take_left]
  simp only [makeToken_fst, makeToken_snd, stop]
  refine ⟨?_, within, rfl, ?_, ?_, ?_, ?_, ?_, ?_⟩
  · rw [Location.ofOffset_offset, ← List.drop_drop, atLoc, List.drop_left]
  · intro t mem
    rcases List.mem_append.1 mem with old | new
    · exact s.inText t old
    · rw [List.mem_singleton.1 new]
      exact ⟨placed, notEnd, by simpa [String.ofList_eq_empty_iff] using nonempty⟩
  · exact s.first_push rfl
  · intro empty
    simp at empty
  · refine s.adjacent_push rfl (fun o tagged => ?_)
    rcases e.modes with ⟨open_, -⟩ | ⟨o', -, ⟨rfl, -⟩ | ⟨inside, -⟩⟩
    · rw [tagged] at open_
      cases open_
    · exact .inr rfl
    · exact .inl inside
  · intro t isLast
    simp only [List.getLast?_append, List.getLast?_singleton, Option.some_or, Option.mem_def,
      Option.some.injEq] at isLast
    subst isLast
    simp
  · intro o' tagged
    refine ⟨⟨kind, value, String.ofList lex,
      ⟨loc, Location.ofOffset file text (loc.offset + lex.length)⟩⟩, by simp, ?_⟩
    rcases e.modes with ⟨-, ⟨-, rfl⟩ | ⟨opens, -⟩⟩ | ⟨o, -, ⟨-, rfl⟩ | ⟨inside, -⟩⟩
    · cases tagged
    · exact .inl opens
    · cases tagged
    · exact .inr inside

/-- The text after a token that the scan reads is what the scan goes on with. -/
theorem drop_after {mode mode' : ScanMode} {afterDot afterDot' : Bool} {loc : Location}
    {acc : List Token} {cs lex rest : List Char} {kind : TokenKind} {value : TokenValue}
    (s : Scanned file text mode loc acc cs)
    (e : Emits loc mode afterDot cs kind value lex rest mode' afterDot') :
    text.drop (loc.advanceAll lex).offset = rest := by
  rw [Location.offset_advanceAll, ← List.drop_drop, ← s.rest, e.split.1, List.drop_left]

end Scanned

/-- A property of the scan that both kinds of step keep, from any state the scan
reaches, holds when a scan of `s` succeeds, beside `Scanned`: the scan then stands at
the end of the text, outside any tag, and its tokens are those read and the end token. -/
theorem Token.scan_induction {s : String} {file : Option String} {tokens : List Token}
    {Q : ScanMode → Bool → List Token → List Char → Prop}
    (skip : ∀ {o afterDot loc acc c r}, isTagBlank c →
      Scanned file s.toList (.tag o) loc acc (c :: r) → Q (.tag o) afterDot acc (c :: r) →
      Q (.tag o) afterDot acc r)
    (emit : ∀ {mode afterDot loc acc cs kind value lex rest mode' afterDot'},
      Emits loc mode afterDot cs kind value lex rest mode' afterDot' →
      Scanned file s.toList mode loc acc cs → Q mode afterDot acc cs →
      Q mode' afterDot' (acc ++ [(makeToken kind value lex loc).1]) rest)
    (start : Q .text false [] s.toList) (h : Token.scan s file = .ok tokens) :
    ∃ afterDot loc acc, Scanned file s.toList .text loc acc [] ∧ Q .text afterDot acc [] ∧
      tokens = acc ++ [⟨.eof, .none, "", ⟨loc, loc⟩⟩] := by
  obtain ⟨out, scanned, rfl⟩ : ∃ out, scanFrom ⟨s, file⟩ .text false (Location.initial file) #[]
      s.toList = .ok out ∧ tokens = out.toList := by
    unfold Token.scan at h
    cases found : scanFrom ⟨s, file⟩ .text false (Location.initial file) #[] s.toList with
    | error e => simp [found, Except.map] at h
    | ok out => simp only [found, Except.map, Except.ok.injEq] at h; exact ⟨out, rfl, h.symm⟩
  obtain ⟨afterDot, loc, acc, ⟨final, holds⟩, shape⟩ :=
    @scanFrom_induction
      (fun mode afterDot loc acc cs => Scanned file s.toList mode loc acc cs ∧ Q mode afterDot acc cs)
      (fun blank state => ⟨state.1.skip blank, skip blank state.1 state.2⟩)
      (fun e state => ⟨state.1.emit e, emit e state.1 state.2⟩) _ _ _ _ _ _ _ scanned
      ⟨Scanned.start, start⟩
  exact ⟨afterDot, loc, acc, final, holds, shape⟩

/-- The tokens of every text that scans lie end to end along it, each in its place
and with the value its lexeme gives, and the end token closes them at the end of the
text. -/
theorem Token.scan_tiles {s : String} {file : Option String} {tokens : List Token}
    (h : Token.scan s file = .ok tokens) : Tiling file s tokens := by
  obtain ⟨afterDot, loc, acc, final, -, rfl⟩ :=
    @Token.scan_induction s file tokens (fun _ _ _ _ => True) (fun _ _ _ => trivial)
      (fun _ _ _ => trivial) trivial h
  -- the scan ends outside any tag, at the end of the text, where the end token stands
  have atEnd : loc.offset = s.length := by
    have := List.drop_eq_nil_iff.1 final.rest.symm
    have := final.within
    rw [String.length_toList] at *
    omega
  have placed : Token.InText file s.toList ⟨.eof, .none, "", ⟨loc, loc⟩⟩ :=
    ⟨Nat.le_refl _, final.within, by simp, final.here, final.here, rfl⟩
  refine ⟨⟨acc, _, rfl, rfl, atEnd, atEnd, fun t mem => (final.inText t mem).2⟩, ?_,
    final.first_push rfl, final.adjacent_push rfl (fun o tagged => by cases tagged)⟩
  intro t mem
  rcases List.mem_append.1 mem with old | new
  · exact (final.inText t old).1
  · rw [List.mem_singleton.1 new]
    exact placed

/-- A text over two lines, with a tag on the second. -/
theorem Token.scan_tiles_page : ∃ tokens, Token.scan "a\n<%= x %>" (some "page") = .ok tokens ∧
    Tiling (some "page") "a\n<%= x %>" tokens :=
  have scanned : Token.scan "a\n<%= x %>" (some "page") = .ok
      [⟨.text, .str "a\n", "a\n", ⟨⟨1, 1, 0, some "page"⟩, ⟨2, 1, 2, some "page"⟩⟩⟩,
       ⟨.outputStart, .str "<%=", "<%=", ⟨⟨2, 1, 2, some "page"⟩, ⟨2, 4, 5, some "page"⟩⟩⟩,
       ⟨.identifier, .str "x", "x", ⟨⟨2, 5, 6, some "page"⟩, ⟨2, 6, 7, some "page"⟩⟩⟩,
       ⟨.tagEnd, .str "%>", "%>", ⟨⟨2, 7, 8, some "page"⟩, ⟨2, 9, 10, some "page"⟩⟩⟩,
       ⟨.eof, .none, "", ⟨⟨2, 9, 10, some "page"⟩, ⟨2, 9, 10, some "page"⟩⟩⟩] := by
    cbv
  ⟨_, scanned, Token.scan_tiles scanned⟩

end Stencil
