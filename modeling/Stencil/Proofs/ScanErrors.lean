import Stencil.Proofs.ScanTiling

/-!
# Where a scan fails

A scan fails with a template error at a character of its text: the character it stopped
at, or, when the text ends inside a tag, the tag's opener. The error shows the line of
the text there, cut at every line break (`Token.scan_error_site`). When the text ends
inside a tag, the opener is the last one read, and the same text with the tag closed
after a blank scans, its tokens ending with that opener, tokens of the tag, `%>` and
the end (`Token.scan_close_unterminated`): every reading at the end of a text reads the
same with a blank after it (`Emits.append_blank`).

A location's line is one more than the line feeds before it (`Location.ofOffset`). The
lines of a text can be cut two ways (`Text.lineFeedLines`, `Text.breakLines`), and a
location inside the text has its line both ways: cut at line feeds, a non-empty text
has one more line than line feeds (`Text.length_lineFeedLines`); cut at every line break,
the line feeds before a character are fewer than the lines
(`Text.count_take_lt_length_breakLinesFrom`), since every line feed is a line break.
The two cuttings give the same line only where no other line break stands before it on
its line.
-/

namespace Stencil

namespace Text

/-- Cut at a character, a list has one more part than it has that character. -/
theorem length_splitOn (c : Char) (cs : List Char) : (cs.splitOn c).length = cs.count c + 1 := by
  induction cs with
  | nil => rfl
  | cons x cs ih =>
    rw [List.splitOn_eq_splitOnP] at ih ⊢
    rw [List.splitOnP_cons_eq_if_modifyHead, List.count_cons]
    by_cases same : x = c
    · simp [same, ih]
    · simp [same, ih]

/-- A non-empty text cut at line feeds has one more line than line feeds. -/
theorem length_lineFeedLines {s : String} (nonempty : s ≠ "") :
    (lineFeedLines s).length = s.toList.count '\n' + 1 := by
  have notEmpty : s.isEmpty = false := by simpa using nonempty
  rw [lineFeedLines, notEmpty, if_neg Bool.false_ne_true, List.length_map, length_splitOn]

/-- Every location of a non-empty text, its end included, has its line among the text's
lines cut at line feeds. -/
theorem lineAt?_lineFeedLines_isSome {s : String} (nonempty : s ≠ "") (file : Option String)
    {k : Nat} : (lineAt? (lineFeedLines s) (Location.ofOffset file s.toList k).line).isSome := by
  have fewer : (s.toList.take k).count '\n' ≤ s.toList.count '\n' :=
    (List.take_sublist k s.toList).count_le '\n'
  have inside : (s.toList.take k).count '\n' < (lineFeedLines s).length := by
    rw [length_lineFeedLines nonempty]
    omega
  simp only [Location.ofOffset, Nat.add_comm 1, lineAt?_succ, List.getElem?_eq_getElem inside,
    Option.isSome_some]

/-- Cutting at line breaks after a line that has begun gives at least that line. -/
theorem breakLinesFrom_ne_nil (line cs : List Char) (begun : line ≠ []) :
    breakLinesFrom line cs ≠ [] := by
  fun_induction breakLinesFrom line cs with
  | case1 line isEmpty => exact absurd (List.isEmpty_iff.mp isEmpty) begun
  | case2 => simp
  | case3 => simp
  | case4 => simp
  | case5 line c rest _ _ ih => exact ih (List.cons_ne_nil c line)

/-- The line feeds before a character of a list are fewer than the lines the list is cut
into at line breaks: each line feed ends a line, and so does each other break. -/
theorem count_take_lt_length_breakLinesFrom (line cs : List Char) (k : Nat)
    (inside : k < cs.length) : (cs.take k).count '\n' < (breakLinesFrom line cs).length := by
  fun_induction breakLinesFrom line cs generalizing k with
  | case1 => simp at inside
  | case2 => simp at inside
  | case3 line rest ih =>
    -- a carriage return and a line feed end one line together
    match k with
    | 0 => simp
    | 1 => simp
    | k + 2 =>
      have fewer := ih k (by simp at inside; omega)
      simp
      omega
  | case4 line c rest _ isBreak ih =>
    match k with
    | 0 => simp
    | k + 1 =>
      have fewer := ih k (by simp at inside; omega)
      simp only [List.take_succ_cons, List.count_cons, List.length_cons]
      split <;> omega
  | case5 line c rest _ notBreak ih =>
    -- a character that breaks no line is no line feed
    have notFeed : c ≠ '\n' := by
      rintro rfl
      simp [isLineBreak] at notBreak
    match k with
    | 0 =>
      have lines := breakLinesFrom_ne_nil (c :: line) rest (List.cons_ne_nil c line)
      simp only [List.take_zero, List.count_nil]
      exact List.length_pos_iff.mpr lines
    | k + 1 =>
      have fewer := ih k (by simp at inside; omega)
      simpa [List.count_cons, notFeed] using fewer

/-- Every location of a character of a text has its line among the text's lines cut at
every line break. -/
theorem lineAt?_breakLines_isSome {s : String} (file : Option String) {k : Nat}
    (inside : k < s.length) :
    (lineAt? (breakLines s) (Location.ofOffset file s.toList k).line).isSome := by
  have fewer := count_take_lt_length_breakLinesFrom [] s.toList k
    (by rw [String.length_toList]; exact inside)
  simp only [Location.ofOffset, Nat.add_comm 1, lineAt?_succ, breakLines,
    List.getElem?_eq_getElem fewer, Option.isSome_some]

end Text

/-! ## Readings at the end of a text

A reading that the text's end stops reads the same when a blank follows: words, digits
and fractions stop at a blank, and no opener or operator takes one. A text run is the
exception, since it would run on; but a text run that the end stops is the last token
of a scan that succeeds. -/

/-- A run of characters that a blank stops is the same with a blank after the text. -/
theorem takeWhile_append_blank (p : Char → Bool) (stops : p ' ' = false) (r more : List Char) :
    (r ++ ' ' :: more).takeWhile p = r.takeWhile p := by
  induction r with
  | nil => simp [stops]
  | cons x r ih =>
    by_cases keep : p x
    · simp [keep, ih]
    · simp [keep]

/-- No fraction starts but at a point. -/
theorem fractionWidth_of_ne {afterDot : Bool} {x : Char} {cs : List Char} (notPoint : x ≠ '.') :
    fractionWidth afterDot (x :: cs) = 0 := by
  unfold fractionWidth
  split
  · simp_all
  · rfl

theorem fractionWidth_append_blank (afterDot : Bool) (cs more : List Char) :
    fractionWidth afterDot (cs ++ ' ' :: more) = fractionWidth afterDot cs := by
  cases afterDot with
  | true => rfl
  | false =>
    rcases cs with _ | ⟨x, _ | ⟨d, rest⟩⟩
    · rfl
    · by_cases point : x = '.'
      · subst point
        rfl
      · rw [List.cons_append, fractionWidth_of_ne point, fractionWidth_of_ne point]
    · by_cases point : x = '.'
      · subst point
        simp only [List.cons_append, fractionWidth, takeWhile_append_blank Char.isDigit rfl]
      · rw [List.cons_append, fractionWidth_of_ne point, fractionWidth_of_ne point]

/-- The kind of an opener is read from one character at most. -/
theorem openerAfter_append_blank (cs more : List Char) :
    openerAfter (cs ++ ' ' :: more) = openerAfter cs := by
  cases cs with
  | nil => rfl
  | cons x cs =>
    unfold openerAfter
    split <;> split <;> simp_all

theorem openerAfter_snd_le (cs : List Char) : (openerAfter cs).2 ≤ cs.length := by
  unfold openerAfter
  split <;> simp

/-- No operator takes a blank with it. -/
theorem operatorKind_append_blank (c : Char) (r more : List Char) :
    operatorKind c (r ++ ' ' :: more) = operatorKind c r := by
  cases r with
  | nil =>
    unfold operatorKind
    split <;> simp_all
  | cons x r =>
    unfold operatorKind
    split <;> simp_all

theorem operatorKind_width_le {c : Char} {r : List Char} {kind : TokenKind} {m : Nat}
    (which : operatorKind c r = some (kind, m)) : m ≤ r.length := by
  unfold operatorKind at which
  split at which <;> cases which <;> simp

/-- A text run that stops before an opener stops there whatever follows. -/
theorem textRunTail_append (r t : List Char) (stopped : r.drop (textRunTail r).length ≠ []) :
    textRunTail (r ++ t) = textRunTail r := by
  induction r using textRunTail.induct with
  | case1 => simp at stopped
  | case2 rest => simp [textRunTail]
  | case3 c rest notOpen ih =>
    rw [textRunTail.eq_3 c rest notOpen] at stopped ⊢
    cases rest with
    | nil => simp at stopped
    | cons x rest =>
      have notOpen' : ∀ tail, c = '<' → x :: (rest ++ t) = '%' :: tail → False :=
        fun _ isLt isPercent => notOpen rest isLt (by rw [(List.cons.inj isPercent).1])
      rw [List.cons_append, List.cons_append, textRunTail.eq_3 c _ notOpen',
        ← List.cons_append, ih (by simpa using stopped)]

theorem not_wordStart_append_blank {cs : List Char} (more : List Char)
    (noWord : ¬ cs.head?.any isWordStart) : ¬ (cs ++ ' ' :: more).head?.any isWordStart := by
  cases cs with
  | nil =>
    rw [List.nil_append, List.head?_cons, Option.any_some]
    decide
  | cons x cs => exact noWord

/-- A token read from a text, unless it is a text run that the text's end stops, is
read the same from the text with a blank and more after it. -/
theorem Emits.append_blank {loc : Location} {mode mode' : ScanMode} {afterDot afterDot' : Bool}
    {cs lex rest : List Char} {kind : TokenKind} {value : TokenValue}
    (e : Emits loc mode afterDot cs kind value lex rest mode' afterDot')
    (going : rest = [] → ∃ o, mode' = .tag o) (more : List Char) :
    Emits loc mode afterDot (cs ++ ' ' :: more) kind value lex (rest ++ ' ' :: more) mode'
      afterDot' := by
  cases e with
  | @text afterDot c r notOpen =>
    -- a text run that the text does not end stops before an opener, which it keeps
    have stopped : r.drop (textRunTail r).length ≠ [] := fun ends => by
      obtain ⟨o, tagged⟩ := going ends
      cases tagged
    have nonempty : r ≠ [] := by
      rintro rfl
      exact stopped rfl
    have notOpen' : ¬ (c = '<' ∧ (r ++ ' ' :: more).head? = some '%') := by
      obtain ⟨x, r, rfl⟩ := List.exists_cons_of_ne_nil nonempty
      exact notOpen
    have within : (textRunTail r).length ≤ r.length := by
      have whole := congrArg List.length (textRunTail_append_drop r)
      rw [List.length_append] at whole
      omega
    have e' := @Emits.text loc afterDot c (r ++ ' ' :: more) notOpen'
    rwa [textRunTail_append r _ stopped, List.drop_append_of_le_length within] at e'
  | @opener afterDot r kind extra percent which =>
    obtain ⟨r, rfl⟩ : ∃ r', r = '%' :: r' := by
      cases r with
      | nil => cases percent
      | cons x r =>
        simp only [List.head?_cons, Option.some.injEq] at percent
        exact ⟨r, by rw [percent]⟩
    have which' : openerAfter ((('%' :: r) ++ ' ' :: more).drop 1) = (kind, extra) := by
      rw [List.cons_append, List.drop_succ_cons, List.drop_zero, openerAfter_append_blank]
      exact which
    have width : 1 + extra ≤ ('%' :: r).length := by
      have := openerAfter_snd_le r
      rw [List.drop_succ_cons, List.drop_zero] at which
      rw [which] at this
      simp only [List.length_cons]
      omega
    have e' := @Emits.opener loc afterDot (('%' :: r) ++ ' ' :: more) kind extra rfl which'
    rwa [List.take_append_of_le_length width, List.drop_append_of_le_length width] at e'
  | @tagEnd o afterDot r close =>
    obtain ⟨r, rfl⟩ : ∃ r', r = '>' :: r' := by
      cases r with
      | nil => cases close
      | cons x r =>
        simp only [List.head?_cons, Option.some.injEq] at close
        exact ⟨r, by rw [close]⟩
    exact @Emits.tagEnd loc o afterDot (('>' :: r) ++ ' ' :: more) rfl
  | @string o afterDot c body rest quote other =>
    rw [List.cons_append, List.append_assoc, List.cons_append]
    exact @Emits.string loc o afterDot c body (rest ++ ' ' :: more) quote other
  | @int o afterDot c r whole digit hwhole noFraction noWord short small =>
    have whole' : whole = (r ++ ' ' :: more).takeWhile Char.isDigit := by
      rw [takeWhile_append_blank _ rfl, hwhole]
    have after : (r ++ ' ' :: more).drop whole.length = r.drop whole.length ++ ' ' :: more :=
      List.drop_append_of_le_length (hwhole ▸ (List.takeWhile_sublist _).length_le)
    have noFraction' : fractionWidth afterDot ((r ++ ' ' :: more).drop whole.length) = 0 := by
      rw [after, fractionWidth_append_blank, noFraction]
    have noWord' : ¬ ((r ++ ' ' :: more).drop whole.length).head?.any isWordStart := by
      rw [after]
      exact not_wordStart_append_blank more noWord
    have e' := @Emits.int loc o afterDot c (r ++ ' ' :: more) whole digit whole' noFraction'
      noWord' short small
    rwa [after] at e'
  | @float o c r whole frac digits digit hwhole point hdigits nonempty noWord =>
    have whole' : whole = (r ++ ' ' :: more).takeWhile Char.isDigit := by
      rw [takeWhile_append_blank _ rfl, hwhole]
    have point' : (r ++ ' ' :: more).drop whole.length = '.' :: (frac ++ ' ' :: more) := by
      rw [List.drop_append_of_le_length (hwhole ▸ (List.takeWhile_sublist _).length_le), point]
      rfl
    have digits' : digits = (frac ++ ' ' :: more).takeWhile Char.isDigit := by
      rw [takeWhile_append_blank _ rfl, hdigits]
    have after : (frac ++ ' ' :: more).drop digits.length = frac.drop digits.length ++ ' ' :: more :=
      List.drop_append_of_le_length (hdigits ▸ (List.takeWhile_sublist _).length_le)
    have noWord' : ¬ ((frac ++ ' ' :: more).drop digits.length).head?.any isWordStart := by
      rw [after]
      exact not_wordStart_append_blank more noWord
    have e' := @Emits.float loc o c (r ++ ' ' :: more) whole (frac ++ ' ' :: more) digits digit
      whole' point' digits' nonempty noWord'
    rwa [after] at e'
  | @word o afterDot c r kind start notDigit hkind =>
    have takes : (r ++ ' ' :: more).takeWhile isWordChar = r.takeWhile isWordChar :=
      takeWhile_append_blank _ (by decide) r more
    have e' := @Emits.word loc o afterDot c (r ++ ' ' :: more) kind start notDigit
      (by rw [takes]; exact hkind)
    rwa [takes, List.drop_append_of_le_length ((List.takeWhile_sublist _).length_le)] at e'
  | @operator o afterDot c r kind m which =>
    have which' : operatorKind c (r ++ ' ' :: more) = some (kind, m) := by
      rw [operatorKind_append_blank]
      exact which
    have width := operatorKind_width_le which
    have e' := @Emits.operator loc o afterDot c (r ++ ' ' :: more) kind m which'
    rwa [List.take_append_of_le_length width, List.drop_append_of_le_length width] at e'

/-! ## Where the error is placed -/

/-- Inside a tag, the tokens read end with the tag's opener, read where the tag was
opened, and tokens of the tag after it. -/
def Opened (mode : ScanMode) (acc : List Token) : Prop :=
  ∀ o, mode = .tag o → ∃ pre opener inner, acc = pre ++ opener :: inner ∧
    opener.kind.opensTag ∧ opener.span.start = o ∧ ∀ t ∈ inner, t.kind.insideTag

/-- Reading a token keeps the opener of the tag the scan is inside. -/
theorem Opened.emit {loc : Location} {mode mode' : ScanMode} {afterDot afterDot' : Bool}
    {cs lex rest : List Char} {kind : TokenKind} {value : TokenValue} {acc : List Token}
    (e : Emits loc mode afterDot cs kind value lex rest mode' afterDot') (h : Opened mode acc) :
    Opened mode' (acc ++ [(makeToken kind value lex loc).1]) := by
  intro o' tagged
  rcases e.modes with ⟨rfl, ⟨-, rfl⟩ | ⟨opens, rfl⟩⟩ | ⟨o, rfl, ⟨-, rfl⟩ | ⟨inside, rfl⟩⟩
  · cases tagged
  · cases tagged
    exact ⟨acc, _, [], rfl, opens, rfl, by simp⟩
  · cases tagged
  · cases tagged
    obtain ⟨pre, opener, inner, rfl, opens, at_, insides⟩ := h _ rfl
    refine ⟨pre, opener, inner ++ [(makeToken kind value lex loc).1], by simp, opens, at_,
      fun t mem => ?_⟩
    rcases List.mem_append.1 mem with old | new
    · exact insides t old
    · rw [List.mem_singleton.1 new]
      exact inside

/-- A token with a non-empty lexeme starts at a character of its text. -/
theorem Token.InText.start_lt {file : Option String} {text : List Char} {t : Token}
    (placed : t.InText file text) (nonempty : t.lexeme ≠ "") : t.span.start.offset < text.length := by
  have chars : (text.take t.span.stop.offset).drop t.span.start.offset ≠ [] := by
    rw [← placed.slice]
    simpa using nonempty
  have within := placed.within
  have some := List.length_pos_iff.2 chars
  simp only [List.length_drop, List.length_take] at some
  omega

/-- A scan that fails with a template error places it at a character of the text: the
one it stopped at, with a fault of that character, or the opener of the tag that the
text ends inside, with the UTF-8 length of the text before the opener. -/
theorem scanFrom_error_site {text : String} {file : Option String} {mode : ScanMode}
    {afterDot : Bool} {loc : Location} {acc : Array Token} {cs : List Char} {e : TemplateError}
    (h : scanFrom ⟨text, file⟩ mode afterDot loc acc cs = .error (.template e))
    (scanned : Scanned file text.toList mode loc acc.toList cs) (opened : Opened mode acc.toList) :
    ∃ φ start stop, e = ScanSource.errorAt ⟨text, file⟩ φ start stop ∧
      start = Location.ofOffset file text.toList start.offset ∧ start.offset < text.length ∧
      (φ.atCharacter ∨ φ = .unterminatedTag (ScanSource.byteOffset ⟨text, file⟩ start.offset)) := by
  obtain ⟨mode', afterDot', loc', acc', c, r, φ, stop, ⟨scanned', -⟩, rfl, atChar⟩ |
      ⟨o, afterDot', loc', acc', ⟨scanned', opened'⟩, rfl⟩ :=
    @scanFrom_failure_induction
      (fun m d l a rest => Scanned file text.toList m l a rest ∧ Opened m a)
      (fun blank state => ⟨state.1.skip blank, state.2⟩)
      (fun e _ state => ⟨state.1.emit e, state.2.emit e⟩)
      _ mode afterDot loc acc cs e h ⟨scanned, opened⟩
  · -- the scan stopped at a character of the text
    have inside : loc'.offset < text.length := by
      have chars := congrArg List.length scanned'.rest
      simp only [List.length_cons, List.length_drop, String.length_toList] at chars
      omega
    exact ⟨φ, loc', stop, rfl, scanned'.here, inside, .inl atChar⟩
  · -- the text ended inside a tag, opened by a token read earlier
    obtain ⟨pre, opener, inner, rfl, -, rfl, -⟩ := opened' _ rfl
    have read := scanned'.inText opener (by simp)
    have inside := read.1.start_lt read.2.2
    rw [String.length_toList] at inside
    exact ⟨_, opener.span.start, loc', rfl, read.1.start, inside, .inr rfl⟩

/-- A text that does not scan fails at a character of it, located by its offset, and
shows the line there with the text cut at every line break. -/
theorem Token.scan_error_site {s : String} {file : Option String} {e : TemplateError}
    (h : Token.scan s file = .error (.template e)) :
    ∃ φ start stop, e = TemplateError.at_ φ ⟨start, stop⟩ (Text.lineAt? (Text.breakLines s) start.line) ∧
      start = Location.ofOffset file s.toList start.offset ∧ start.offset < s.length ∧
      (φ.atCharacter ∨ φ = .unterminatedTag (ScanSource.byteOffset ⟨s, file⟩ start.offset)) :=
  scanFrom_error_site (Token.scan_eq_error h) Scanned.start (fun _ tagged => by cases tagged)

/-! ## Closing the tag left open -/

/-- When a scan fails because the text ends inside a tag, the scan of the text closed
by a blank and `%>` reads the same tokens and then closes the tag: the last opener read
is where the error is placed, and only tokens of the tag follow it. -/
theorem scanFrom_close_unterminated {src src' : ScanSource} {mode : ScanMode} {afterDot : Bool}
    {loc : Location} {acc : Array Token} {cs : List Char} {e : TemplateError} {b : Nat}
    (h : scanFrom src mode afterDot loc acc cs = .error (.template e))
    (unterminated : e.fault = .unterminatedTag b) (opened : Opened mode acc.toList) :
    ∃ stop pre opener inner close last,
      e = src.errorAt (.unterminatedTag (src.byteOffset opener.span.start.offset))
        opener.span.start stop ∧
      scanFrom src' mode afterDot loc acc (cs ++ [' ', '%', '>']) =
        .ok (pre ++ opener :: inner ++ [close, last]).toArray ∧
      opener.kind.opensTag ∧ (∀ t ∈ inner, t.kind.insideTag) ∧ close.kind = .tagEnd ∧
      last.kind = .eof := by
  -- the scan of the closed text takes the same steps, and at the end closes the tag
  obtain ⟨mode', afterDot', loc', acc', c, r, φ, stop, -, rfl, atChar⟩ |
      ⟨o, afterDot', loc', acc', ⟨opened', closes⟩, rfl⟩ :=
    @scanFrom_failure_induction
      (fun m d l a rest => Opened m a ∧ scanFrom src' m d l a.toArray (rest ++ [' ', '%', '>']) =
        scanFrom src' mode afterDot loc acc (cs ++ [' ', '%', '>']))
      (fun {o d l a c r} blank state => by
        have step : scanFrom src' (.tag o) d l a.toArray ((c :: r) ++ [' ', '%', '>']) =
            scanFrom src' (.tag o) d (l.advance c) a.toArray (r ++ [' ', '%', '>']) := by
          rw [List.cons_append, scanFrom.eq_4, if_pos blank]
        exact ⟨state.1, step ▸ state.2⟩)
      (fun e going state => by
        refine ⟨state.1.emit e, ?_⟩
        rw [← List.push_toArray, ← state.2, (e.append_blank going ['%', '>']).scanFrom_eq])
      src mode afterDot loc acc cs e h ⟨opened, by rw [Array.toArray_toList]⟩
  · -- a fault at a character is no tag left open
    cases unterminated
    cases atChar
  · obtain ⟨pre, opener, inner, rfl, opens, rfl, insides⟩ := opened' _ rfl
    rw [List.nil_append, scanFrom.eq_4, if_pos (by decide),
      (@Emits.tagEnd (loc'.advance ' ') opener.span.start afterDot' ['>'] rfl).scanFrom_eq,
      List.drop_one, List.tail_cons, scanFrom.eq_1] at closes
    let close := makeToken .tagEnd (.str "%>") ['%', '>'] (loc'.advance ' ')
    refine ⟨loc', pre, opener, inner, close.1, ⟨.eof, .none, "", ⟨close.2, close.2⟩⟩, rfl, ?_, opens,
      insides, rfl, rfl⟩
    rw [← closes, List.push_toArray, List.push_toArray, List.append_assoc]
    rfl

/-- A text that ends inside a tag fails at the last opener it reads: the text closed
after a blank scans, and its tokens end with that opener, tokens of the tag, `%>` and
the end. -/
theorem Token.scan_close_unterminated {s : String} {file : Option String} {e : TemplateError}
    {b : Nat} (h : Token.scan s file = .error (.template e)) (unterminated : e.fault = .unterminatedTag b) :
    ∃ stop pre opener inner close last,
      e = ScanSource.errorAt ⟨s, file⟩
        (.unterminatedTag (ScanSource.byteOffset ⟨s, file⟩ opener.span.start.offset))
        opener.span.start stop ∧
      Token.scan (s ++ " %>") file = .ok (pre ++ opener :: inner ++ [close, last]) ∧
      opener.kind.opensTag ∧ (∀ t ∈ inner, t.kind.insideTag) ∧ close.kind = .tagEnd ∧
      last.kind = .eof := by
  obtain ⟨stop, pre, opener, inner, close, last, rfl, closed, opens, insides, isClose, isEnd⟩ :=
    @scanFrom_close_unterminated _ ⟨s ++ " %>", file⟩ _ _ _ _ _ _ _ (Token.scan_eq_error h)
      unterminated (fun _ tagged => by cases tagged)
  refine ⟨stop, pre, opener, inner, close, last, rfl, ?_, opens, insides, isClose, isEnd⟩
  have text : (s ++ " %>").toList = s.toList ++ [' ', '%', '>'] := by simp
  unfold Token.scan
  rw [text, closed]
  rfl

end Stencil
