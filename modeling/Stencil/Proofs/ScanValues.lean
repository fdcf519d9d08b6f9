import Stencil.Proofs.ScanSteps
import Mathlib.Data.List.TakeWhile

/-!
# The values of scanned tokens

A token's value follows from its kind and its lexeme (`Token.ReadsValue`): a number
literal's value is what the numeral readers of `Stencil.Number` read from its
lexeme, a string literal's the characters between its quotes, a truth value's
whether it is `true`, and every other token's its own lexeme. `Emits.readsValue`
says that each token the scanner reads has that value.

The numeral readers accept much more than the scanner's literals (blanks, signs,
underscores, exponents, digits beyond ASCII); the first part of this file says what
they give on plain runs of ASCII digits with at most one point inside.
-/

namespace Stencil

namespace Number

theorem toNat_lt_of_isDigit {c : Char} (h : c.isDigit) : c.toNat < 0x7F := by
  have := Char.isDigit_iff_toNat.1 h
  simp at this
  omega

theorem ne_of_isDigit {c x : Char} (h : c.isDigit) (hx : x.isDigit = false) : c ≠ x := by
  rintro rfl
  simp [h] at hx

theorem isAsciiSpace_of_isDigit {c : Char} (h : c.isDigit) : isAsciiSpace c = false := by
  have digit := Char.isDigit_iff_toNat.1 h
  simp only [isAsciiSpace, Bool.or_eq_false_iff, decide_eq_false_iff_not]
  refine ⟨⟨⟨⟨⟨?_, ?_⟩, ?_⟩, ?_⟩, ?_⟩, ?_⟩ <;> (rintro rfl; simp at digit)

theorem toLower_of_isDigit {c : Char} (h : c.isDigit) : c.toLower = c := by
  have digit := Char.isDigit_iff_toNat.1 h
  unfold Char.toLower
  rw [dif_neg]
  rintro ⟨upper, -⟩
  simp [UInt32.le_iff_toNat_le] at upper digit
  omega

/-- ASCII characters below U+007F keep their form in a numeral. -/
theorem numeralForm_ofList {cs : List Char} (ascii : ∀ c ∈ cs, c.toNat < 0x7F) :
    numeralForm (String.ofList cs) = cs := by
  unfold numeralForm
  rw [String.toList_ofList]
  conv => rhs; rw [← List.map_id cs]
  apply List.map_congr_left
  intro c mem
  simp [numeralChar, ascii c mem]

theorem groupedDigits_digits (acc : List Char) {ds : List Char} (digits : ∀ d ∈ ds, d.isDigit) :
    groupedDigits acc ds = some (acc.reverse ++ ds, []) := by
  induction ds generalizing acc with
  | nil => simp [groupedDigits]
  | cons d ds ih =>
    have notUnderscore : d ≠ '_' := ne_of_isDigit (digits d (by simp)) (by decide)
    simp [groupedDigits, digits d, notUnderscore,
      ih (d :: acc) (fun x mem => digits x (by simp [mem]))]

/-- A run of ASCII digits, not too long, reads as the integer it writes. -/
theorem readInteger?_digits {ds : List Char} (nonempty : ds ≠ []) (digits : ∀ d ∈ ds, d.isDigit)
    (short : ds.length ≤ integerDigitLimit) :
    readInteger? (String.ofList ds) = some (digitsValue ds : Int) := by
  obtain ⟨d, rest, rfl⟩ := List.exists_cons_of_ne_nil nonempty
  have digit := digits d (by simp)
  have grouped : groupedDigits [d] rest = some ([d].reverse ++ rest, []) :=
    groupedDigits_digits [d] (fun x mem => digits x (List.mem_cons_of_mem d mem))
  unfold readInteger?
  rw [numeralForm_ofList (fun c mem => toNat_lt_of_isDigit (digits c mem)),
    List.dropWhile_cons_of_neg (by simp [isAsciiSpace_of_isDigit digit])]
  dsimp only
  -- the outer split is on the digits after the sign; the inner one finds no sign
  split
  next d' rest' heq =>
    split at heq
    next => simp_all
    next => simp_all
    next =>
      obtain ⟨rfl, rfl⟩ := List.cons.inj heq
      simpa [digit, grouped, Double.signed] using short
  next heq => split at heq <;> simp_all

theorem dropDigitUnderscores_of_not_mem (prev : Option Char) {cs : List Char} (plain : '_' ∉ cs) :
    dropDigitUnderscores prev cs = some cs := by
  induction cs generalizing prev with
  | nil => simp [dropDigitUnderscores]
  | cons c cs ih =>
    -- the discharger needs that the head is no underscore
    have notUnderscore : c ≠ '_' := fun h => plain (h ▸ List.mem_cons_self)
    simp [dropDigitUnderscores, ih (some c) (fun h => plain (List.mem_cons_of_mem c h))]

theorem sameLetters_of_isDigit {d x : Char} {cs w : List Char} (digit : d.isDigit)
    (letter : x.isDigit = false) (lower : x.toLower = x) :
    sameLetters (d :: cs) (x :: w) = false := by
  have differ : d.toLower ≠ x.toLower := by
    rw [toLower_of_isDigit digit, lower]
    exact ne_of_isDigit digit letter
  simp [sameLetters, differ]

/-- Digits, a point and digits read as the double nearest to the decimal they write. -/
theorem readDecimal?_point {whole fraction : List Char} (wholeDigits : whole ≠ [])
    (fractionDigits : fraction ≠ []) (digits : ∀ c ∈ whole ++ fraction, c.isDigit) :
    readDecimal? (String.ofList (whole ++ '.' :: fraction)) =
      some (nearestDouble false (digitsValue (whole ++ fraction)) (-(fraction.length : Int))) := by
  have inWhole : ∀ c ∈ whole, c.isDigit := fun c mem => digits c (List.mem_append_left _ mem)
  have inFraction : ∀ c ∈ fraction, c.isDigit :=
    fun c mem => digits c (List.mem_append_right _ mem)
  have digitOrPoint : ∀ c ∈ whole ++ '.' :: fraction, c.isDigit ∨ c = '.' := by
    intro c mem
    rcases List.mem_append.1 mem with inW | inRest
    · exact .inl (inWhole c inW)
    · rcases List.mem_cons.1 inRest with rfl | inF
      · exact .inr rfl
      · exact .inl (inFraction c inF)
  have ascii : ∀ c ∈ whole ++ '.' :: fraction, c.toNat < 0x7F := by
    intro c mem
    rcases digitOrPoint c mem with digit | rfl
    · exact toNat_lt_of_isDigit digit
    · decide
  have plain : '_' ∉ whole ++ '.' :: fraction := by
    intro mem
    rcases digitOrPoint '_' mem with digit | point
    · exact absurd digit (by decide)
    · exact absurd point (by decide)
  obtain ⟨w, ws, rfl⟩ := List.exists_cons_of_ne_nil wholeDigits
  have first := inWhole w List.mem_cons_self
  -- no blanks to trim: the numeral starts and ends with a digit
  have trimmed : (((w :: ws ++ '.' :: fraction).dropWhile isAsciiSpace).reverse.dropWhile
      isAsciiSpace).reverse = w :: ws ++ '.' :: fraction := by
    obtain ⟨fs, f, rfl⟩ : ∃ fs f, fraction = fs ++ [f] := by
      rcases List.eq_nil_or_concat fraction with h | ⟨fs, f, h⟩
      · exact absurd h fractionDigits
      · exact ⟨fs, f, by rw [h, List.concat_eq_append]⟩
    have last := inFraction f (by simp)
    rw [List.cons_append, List.dropWhile_cons_of_neg (by simp [isAsciiSpace_of_isDigit first])]
    simp [List.dropWhile_cons_of_neg, isAsciiSpace_of_isDigit last]
  have wholeFirst : (w :: ws ++ '.' :: fraction).takeWhile Char.isDigit = w :: ws := by
    rw [List.takeWhile_append_of_pos inWhole, List.takeWhile_cons_of_neg (by decide),
      List.append_nil]
  have pointNext : (w :: ws ++ '.' :: fraction).dropWhile Char.isDigit = '.' :: fraction := by
    rw [List.dropWhile_append_of_pos inWhole, List.dropWhile_cons_of_neg (by decide)]
  unfold readDecimal? readNumeral?
  rw [numeralForm_ofList ascii, dropDigitUnderscores_of_not_mem none plain]
  dsimp only
  rw [trimmed]
  split
  next => simp_all
  next => simp_all
  next =>
    unfold unsignedNumeral
    rw [wholeFirst, pointNext]
    simp [sameLetters_of_isDigit first, List.takeWhile_eq_self_iff.2 inFraction,
      List.dropWhile_eq_nil_iff.2 inFraction, Numeral.toFloat]

end Number

/-- The value that a token's lexeme gives it:
* an integer literal is a non-empty run of ASCII digits, and its value is the integer
  that the integer reader reads from it, at most `2^63 - 1`;
* a float literal is digits, a point and digits, and its value is the double that the
  decimal reader reads from it;
* a string literal is a quote, characters other than that quote and the quote again,
  and its value is the characters between the quotes;
* a truth value's value is whether its lexeme is `true`;
* `nil` and the end of the text have no value;
* every other token, a text run or a name among them, has its lexeme as its value. -/
def Token.ReadsValue (t : Token) : Prop :=
  match t.kind with
  | .intLiteral =>
    ∃ n : Nat, t.value = .int n ∧ t.lexeme ≠ "" ∧ (∀ c ∈ t.lexeme.toList, c.isDigit) ∧
      Number.readInteger? t.lexeme = some (n : Int) ∧ n ≤ Nat.pow 2 63 - 1
  | .floatLiteral =>
    ∃ whole fraction x, t.lexeme.toList = whole ++ '.' :: fraction ∧ whole ≠ [] ∧
      fraction ≠ [] ∧ (∀ c ∈ whole ++ fraction, c.isDigit) ∧
      Number.readDecimal? t.lexeme = some x ∧ t.value = .float x
  | .stringLiteral =>
    ∃ quote body, t.lexeme.toList = quote :: body ++ [quote] ∧ (quote = '"' ∨ quote = '\'') ∧
      quote ∉ body ∧ t.value = .str (String.ofList body)
  | .boolLiteral => t.value = .bool (t.lexeme = "true")
  | .nilLiteral | .eof => t.value = .none
  | _ => t.value = .str t.lexeme

theorem Token.readsValue_opener {kind : TokenKind} {s : String} {span : Span}
    (opens : kind.opensTag) : ReadsValue ⟨kind, .str s, s, span⟩ := by
  cases kind <;> simp_all [TokenKind.opensTag, ReadsValue]

theorem Token.readsValue_operator {c : Char} {r : List Char} {kind : TokenKind} {m : Nat}
    {s : String} {span : Span} (which : operatorKind c r = some (kind, m)) :
    ReadsValue ⟨kind, .str s, s, span⟩ := by
  unfold operatorKind at which
  split at which <;> cases which <;> rfl

theorem Token.readsValue_word {kind : TokenKind} {w : String} {span : Span}
    (word : kind = .identifier ∨ kind = TokenKind.ofWord w) :
    ReadsValue ⟨kind, wordValue kind w, w, span⟩ := by
  -- a word is never a number, a string or the end
  have notLiteral : kind ≠ .intLiteral ∧ kind ≠ .floatLiteral ∧ kind ≠ .stringLiteral ∧
      kind ≠ .eof := by
    rcases word with rfl | rfl
    · simp
    · unfold TokenKind.ofWord
      split <;> simp
  cases kind <;> simp_all [ReadsValue, wordValue]

/-- Every token the scanner reads has the value its lexeme gives. -/
theorem Emits.readsValue {loc : Location} {mode mode' : ScanMode} {afterDot afterDot' : Bool}
    {cs lex rest : List Char} {kind : TokenKind} {value : TokenValue} (span : Span)
    (e : Emits loc mode afterDot cs kind value lex rest mode' afterDot') :
    Token.ReadsValue ⟨kind, value, String.ofList lex, span⟩ := by
  cases e with
  | text => rfl
  | @opener afterDot r kind extra _ which =>
    have opens := TokenKind.opensTag_openerAfter (r.drop 1)
    rw [which] at opens
    exact Token.readsValue_opener opens
  | tagEnd => rfl
  | @string o afterDot c body rest quote other =>
    exact ⟨c, body, by simp, quote, fun mem => other c mem rfl, rfl⟩
  | @int o afterDot c r whole digit hwhole _ _ short small =>
    have digits : ∀ d ∈ c :: whole, d.isDigit := by
      intro d mem
      rcases List.mem_cons.1 mem with rfl | inWhole
      · exact digit
      · rw [hwhole] at inWhole
        exact List.mem_takeWhile_imp inWhole
    refine ⟨_, rfl, by simp, by simpa using digits, ?_, small⟩
    exact Number.readInteger?_digits (List.cons_ne_nil _ _) digits short
  | @float o c r whole frac digits digit hwhole _ hdigits some _ =>
    have allDigits : ∀ d ∈ (c :: whole) ++ digits, d.isDigit := by
      intro d mem
      rcases List.mem_append.1 mem with inWhole | inDigits
      · rcases List.mem_cons.1 inWhole with rfl | inWhole
        · exact digit
        · rw [hwhole] at inWhole
          exact List.mem_takeWhile_imp inWhole
      · rw [hdigits] at inDigits
        exact List.mem_takeWhile_imp inDigits
    exact ⟨c :: whole, digits, _, by simp, List.cons_ne_nil _ _, some, allDigits,
      Number.readDecimal?_point (List.cons_ne_nil _ _) some allDigits, rfl⟩
  | @word o afterDot c r kind _ _ hkind =>
    apply Token.readsValue_word
    rw [hkind]
    split
    · exact .inl rfl
    · exact .inr rfl
  | operator which => exact Token.readsValue_operator which

end Stencil
