import Stencil.Token.Scan
import Stencil.Proofs.Grammar

/-!
# The steps of a scan

`scanFrom` walks down a template's text one step at a time. A step inside a tag
may skip one blank; every other step reads one token at the head of the text,
from a non-empty lexeme, and goes on after it in a mode that the token decides.
`Emits` lists these readings, one constructor per kind of token, each with the
conditions under which the scanner takes it and with its lexeme, value and rest
written out. `scanFrom_cons_eq` says that a scan takes one of these steps or
fails with one of its own faults, and `Emits.scanFrom_eq` that each reading is the
step the scan takes. `scanFrom_induction` turns a property kept by
both kinds of step into a property of the whole run: whatever holds at the start
holds at the end of the text, where the scanner adds the end token, and
`scanFrom_failure_induction` carries it to the place where a scan fails;
`scanFrom_error` and `Token.scan_error` say that a failed scan fails with one of the
scan's faults.

Properties of the scanned tokens are proved from these lemmas alone, so that none
of them unfolds the scanner again.
-/

namespace Stencil

/-- The token that `makeToken` reads. -/
@[simp] theorem makeToken_fst (kind : TokenKind) (value : TokenValue) (lexeme : List Char)
    (start : Location) :
    (makeToken kind value lexeme start).1 =
      ⟨kind, value, String.ofList lexeme, ⟨start, start.advanceAll lexeme⟩⟩ := rfl

/-- The location after the token that `makeToken` reads. -/
@[simp] theorem makeToken_snd (kind : TokenKind) (value : TokenValue) (lexeme : List Char)
    (start : Location) :
    (makeToken kind value lexeme start).2 = start.advanceAll lexeme := rfl

/-- One token read at the head of the characters `cs`, at the location `loc`, in a
mode and with the flag that says whether the last token was a dot: its kind, value
and lexeme, the characters left after it, and the mode and flag the scan goes on
with. -/
inductive Emits (loc : Location) : ScanMode → Bool → List Char → TokenKind → TokenValue →
    List Char → List Char → ScanMode → Bool → Prop
  /-- A run of text, up to the next `<%` or the end. -/
  | text {afterDot : Bool} {c : Char} {r : List Char}
      (notOpen : ¬ (c = '<' ∧ r.head? = some '%')) :
      Emits loc .text afterDot (c :: r) .text (.str (String.ofList (c :: textRunTail r)))
        (c :: textRunTail r) (r.drop (textRunTail r).length) .text false
  /-- A tag opener, read longest first; the tag is open from here on. -/
  | opener {afterDot : Bool} {r : List Char} {kind : TokenKind} {extra : Nat}
      (percent : r.head? = some '%') (which : openerAfter (r.drop 1) = (kind, extra)) :
      Emits loc .text afterDot ('<' :: r) kind (.str (String.ofList ('<' :: r.take (1 + extra))))
        ('<' :: r.take (1 + extra)) (r.drop (1 + extra)) (.tag loc) false
  /-- `%>`, which closes the tag. -/
  | tagEnd {o : Location} {afterDot : Bool} {r : List Char} (close : r.head? = some '>') :
      Emits loc (.tag o) afterDot ('%' :: r) .tagEnd (.str "%>") ['%', '>'] (r.drop 1) .text false
  /-- A string literal: a quote, characters other than that quote, the same quote. -/
  | string {o : Location} {afterDot : Bool} {c : Char} {body rest : List Char}
      (quote : c = '"' ∨ c = '\'') (other : ∀ x ∈ body, x ≠ c) :
      Emits loc (.tag o) afterDot (c :: (body ++ c :: rest)) .stringLiteral
        (.str (String.ofList body)) (c :: (body ++ [c])) rest (.tag o) false
  /-- An integer literal: the longest run of ASCII digits, with no fraction after it,
  not running into a word, of at most `Number.integerDigitLimit` digits and at most
  `largestIntLiteral`. -/
  | int {o : Location} {afterDot : Bool} {c : Char} {r whole : List Char}
      (digit : c.isDigit) (hwhole : whole = r.takeWhile Char.isDigit)
      (noFraction : fractionWidth afterDot (r.drop whole.length) = 0)
      (noWord : ¬ (r.drop whole.length).head?.any isWordStart)
      (short : (c :: whole).length ≤ Number.integerDigitLimit)
      (small : Number.digitsValue (c :: whole) ≤ largestIntLiteral) :
      Emits loc (.tag o) afterDot (c :: r) .intLiteral (.int (Number.digitsValue (c :: whole)))
        (c :: whole) (r.drop whole.length) (.tag o) false
  /-- A float literal, never right after a dot: digits, a point and digits, not
  running into a word; its value is the double nearest to it. -/
  | float {o : Location} {c : Char} {r whole frac digits : List Char}
      (digit : c.isDigit) (hwhole : whole = r.takeWhile Char.isDigit)
      (point : r.drop whole.length = '.' :: frac) (hdigits : digits = frac.takeWhile Char.isDigit)
      (some : digits ≠ []) (noWord : ¬ (frac.drop digits.length).head?.any isWordStart) :
      Emits loc (.tag o) false (c :: r) .floatLiteral
        (.float (Number.nearestDouble false (Number.digitsValue (c :: whole ++ digits))
          (-(digits.length : Int))))
        (c :: whole ++ '.' :: digits) (frac.drop digits.length) (.tag o) false
  /-- A word: a keyword, a truth value, `nil` or a name, and always a name right
  after a dot. -/
  | word {o : Location} {afterDot : Bool} {c : Char} {r : List Char} {kind : TokenKind}
      (start : isWordStart c) (notDigit : ¬ c.isDigit)
      (hkind : kind = if afterDot then .identifier
        else TokenKind.ofWord (String.ofList (c :: r.takeWhile isWordChar))) :
      Emits loc (.tag o) afterDot (c :: r) kind
        (wordValue kind (String.ofList (c :: r.takeWhile isWordChar)))
        (c :: r.takeWhile isWordChar) (r.drop (r.takeWhile isWordChar).length) (.tag o) false
  /-- An operator or a punctuation mark. -/
  | operator {o : Location} {afterDot : Bool} {c : Char} {r : List Char} {kind : TokenKind}
      {m : Nat} (which : operatorKind c r = some (kind, m)) :
      Emits loc (.tag o) afterDot (c :: r) kind (.str (String.ofList (c :: r.take m)))
        (c :: r.take m) (r.drop m) (.tag o) (kind = .dot)

/-- The kinds of the tokens that open a tag. -/
def TokenKind.opensTag : TokenKind → Bool
  | .outputStart | .rawOutputStart | .renderStart | .blockStart => true
  | _ => false

theorem TokenKind.opensTag_openerAfter (cs : List Char) : (openerAfter cs).1.opensTag := by
  unfold openerAfter
  split <;> rfl

theorem TokenKind.insideTag_ofWord (w : String) : (TokenKind.ofWord w).insideTag := by
  unfold TokenKind.ofWord
  split <;> rfl

theorem TokenKind.opensTag_eq_false {k : TokenKind} (inside : k.insideTag) : k.opensTag = false := by
  cases k <;> simp_all [insideTag, opensTag]

theorem insideTag_of_operatorKind {c : Char} {r : List Char} {kind : TokenKind} {m : Nat}
    (which : operatorKind c r = some (kind, m)) : kind.insideTag := by
  unfold operatorKind at which
  split at which <;> cases which <;> rfl

/-! ## What the scanner reads -/

/-- The characters that are an operator or a punctuation mark. -/
theorem char_of_operatorKind {c : Char} {r : List Char} {kind : TokenKind} {m : Nat}
    (which : operatorKind c r = some (kind, m)) :
    c = '=' ∨ c = '!' ∨ c = '-' ∨ c = '(' ∨ c = ')' ∨ c = '[' ∨ c = ']' ∨ c = ',' ∨ c = '.' := by
  unfold operatorKind at which
  split at which <;> simp_all

theorem isTagBlank_of_isDigit {c : Char} (digit : c.isDigit) : isTagBlank c = false := by
  simp only [isTagBlank, Bool.or_eq_false_iff, decide_eq_false_iff_not]
  refine ⟨⟨⟨?_, ?_⟩, ?_⟩, ?_⟩ <;> (rintro rfl; cases digit)

theorem isTagBlank_of_isWordStart {c : Char} (start : isWordStart c) : isTagBlank c = false := by
  simp only [isTagBlank, Bool.or_eq_false_iff, decide_eq_false_iff_not]
  refine ⟨⟨⟨?_, ?_⟩, ?_⟩, ?_⟩ <;> (rintro rfl; revert start; decide)


/-- The characters of a text run are the first ones of the text. -/
theorem take_textRunTail (r : List Char) : r.take (textRunTail r).length = textRunTail r := by
  induction r using textRunTail.induct with
  | case1 => rfl
  | case2 => simp [textRunTail]
  | case3 c rest notOpen ih =>
    rw [textRunTail.eq_3 c rest notOpen]
    simp [ih]

/-- What `takeWhile` leaves, found by dropping as many characters as it took. -/
theorem drop_length_takeWhile (p : Char → Bool) (r : List Char) :
    r.drop (r.takeWhile p).length = r.dropWhile p := by
  rw [List.takeWhile_eq_take_findIdx_not, List.dropWhile_eq_drop_findIdx_not, List.length_take,
    Nat.min_eq_left List.findIdx_le_length]

/-- What `takeWhile` takes, found by taking as many characters. -/
theorem take_length_takeWhile (p : Char → Bool) (r : List Char) :
    r.take (r.takeWhile p).length = r.takeWhile p := by
  rw [List.takeWhile_eq_take_findIdx_not, List.length_take,
    Nat.min_eq_left List.findIdx_le_length]

/-- A text run and what follows it. -/
theorem textRunTail_append_drop (r : List Char) :
    textRunTail r ++ r.drop (textRunTail r).length = r := by
  have whole := List.take_append_drop (textRunTail r).length r
  rwa [take_textRunTail] at whole

/-- What `takeWhile` takes and what it leaves. -/
theorem takeWhile_append_drop (p : Char → Bool) (r : List Char) :
    r.takeWhile p ++ r.drop (r.takeWhile p).length = r := by
  rw [drop_length_takeWhile, List.takeWhile_append_dropWhile]

/-- A fraction is read only when no dot came before: a point and at least one digit. -/
theorem fractionWidth_ne_zero {afterDot : Bool} {cs : List Char}
    (h : fractionWidth afterDot cs ≠ 0) :
    afterDot = false ∧ ∃ frac, cs = '.' :: frac ∧ frac.takeWhile Char.isDigit ≠ [] ∧
      fractionWidth afterDot cs = 1 + (frac.takeWhile Char.isDigit).length := by
  unfold fractionWidth at h ⊢
  split at h
  next d rest =>
    split at h
    next digit =>
      refine ⟨rfl, d :: rest, rfl, ?_, ?_⟩
      · rw [List.takeWhile_cons_of_pos digit]
        exact List.cons_ne_nil _ _
      · rw [if_pos digit, List.takeWhile_cons_of_pos digit, List.length_cons]
        omega
    next => exact absurd rfl h
  next => exact absurd rfl h

/-- Every character that `takeWhile` takes passes its test. -/
theorem of_mem_takeWhile {p : Char → Bool} {r : List Char} {x : Char}
    (mem : x ∈ r.takeWhile p) : p x :=
  List.all_eq_true.1 List.all_takeWhile x mem

/-- The characters up to a quote, then the quote itself. -/
theorem split_at_quote {c head : Char} {r tail : List Char}
    (h : r.drop (r.takeWhile (· ≠ c)).length = head :: tail) :
    r = r.takeWhile (· ≠ c) ++ c :: tail := by
  rw [drop_length_takeWhile] at h
  have stops := List.head_dropWhile_not (fun x => decide (x ≠ c)) (l := r)
    (by rw [h]; exact List.cons_ne_nil _ _)
  simp only [h, List.head_cons, decide_eq_false_iff_not, ne_eq, Decidable.not_not] at stops
  subst stops
  rw [← h, List.takeWhile_append_dropWhile]

/-- The faults a scan can end with: a tag or a string left open, a character that
starts no token, digits that run into a word, an integer literal out of range. -/
def Fault.ofScan : Fault → Bool
  | .unterminatedTag _ | .unexpectedCharacter _ | .unterminatedString | .invalidNumber _
  | .integerLiteralRange _ => true
  | _ => false

/-- The failures a scan can end with: its own faults, and the host's refusal of an
integer literal with too many digits. -/
def Failure.ofScan : Failure → Bool
  | .template e => e.fault.ofScan
  | .host _ => true

/-- The faults a scan meets at a character: one that starts no token, a string left
open, digits that run into a word, an integer literal out of range. -/
def Fault.atCharacter : Fault → Bool
  | .unexpectedCharacter _ | .unterminatedString | .invalidNumber _ | .integerLiteralRange _ => true
  | _ => false

theorem Fault.ofScan_of_atCharacter {φ : Fault} (h : φ.atCharacter) : φ.ofScan := by
  cases φ <;> simp_all [Fault.atCharacter, Fault.ofScan]

/-- A scan of a non-empty text skips a blank inside a tag, or reads one token at its
head and goes on after it, or fails right there: with a fault at a character, placed
where the scan stands, or with the host's refusal of a long integer literal. -/
theorem scanFrom_cons_eq {src : ScanSource} {mode : ScanMode} {afterDot : Bool}
    {loc : Location} {acc : Array Token} {c : Char} {r : List Char}
    {res : Except Failure (Array Token)}
    (h : scanFrom src mode afterDot loc acc (c :: r) = res) :
    (∃ o, mode = .tag o ∧ isTagBlank c ∧
      scanFrom src mode afterDot (loc.advance c) acc r = res) ∨
    (∃ kind value lex rest mode' afterDot',
      Emits loc mode afterDot (c :: r) kind value lex rest mode' afterDot' ∧
      scanFrom src mode' afterDot' (makeToken kind value lex loc).2
        (acc.push (makeToken kind value lex loc).1) rest = res) ∨
    (∃ φ stop, res = .error (.template (src.errorAt φ loc stop)) ∧ φ.atCharacter) ∨
    ∃ refusal, res = .error (.host refusal) := by
  cases mode with
  | text =>
    rw [scanFrom.eq_3] at h
    split at h
    next opens =>
      obtain ⟨rfl, percent⟩ := opens
      generalize which : openerAfter (r.drop 1) = pair at h
      obtain ⟨kind, extra⟩ := pair
      exact .inr (.inl ⟨_, _, _, _, _, _, .opener percent which, h⟩)
    next notOpen =>
      dsimp only at h
      rw [take_textRunTail] at h
      exact .inr (.inl ⟨_, _, _, _, _, _, .text notOpen, h⟩)
  | tag o =>
    rw [scanFrom.eq_4] at h
    split at h
    next blank => exact .inl ⟨o, rfl, blank, h⟩
    next =>
    split at h
    next closes =>
      obtain ⟨rfl, close⟩ := closes
      exact .inr (.inl ⟨_, _, _, _, _, _, .tagEnd close, h⟩)
    next =>
    split at h
    next quote =>
      dsimp only at h
      split at h
      next head tail found =>
        have whole := split_at_quote found
        have other : ∀ x ∈ r.takeWhile (· ≠ c), x ≠ c := fun x mem => by
          simpa using of_mem_takeWhile mem
        generalize r.takeWhile (· ≠ c) = body at h whole other
        subst whole
        have lexeme : (body ++ c :: tail).take (body.length + 1) = body ++ [c] := by
          rw [List.take_append, List.take_of_length_le (by omega), Nat.add_sub_cancel_left,
            List.take_succ_cons, List.take_zero]
        have rest : (body ++ c :: tail).drop (body.length + 1) = tail := by
          rw [List.drop_append, List.drop_of_length_le (by omega), Nat.add_sub_cancel_left,
            List.drop_succ_cons, List.drop_zero, List.nil_append]
        rw [lexeme, rest] at h
        exact .inr (.inl ⟨_, _, _, _, _, _, .string quote other, h⟩)
      next => exact .inr (.inr (.inl ⟨_, _, h.symm, rfl⟩))
    next =>
    split at h
    next digit =>
      dsimp only at h
      generalize hwhole : r.takeWhile Char.isDigit = whole at h
      have takeWhole : r.take whole.length = whole := by rw [← hwhole, take_length_takeWhile]
      split at h
      next => exact .inr (.inr (.inl ⟨_, _, h.symm, rfl⟩))
      next noWord =>
      split at h
      next noFraction =>
        rw [noFraction, Nat.add_zero] at noWord h
        rw [takeWhole] at h
        split at h
        next => exact .inr (.inr (.inr ⟨_, h.symm⟩))
        next short =>
        split at h
        next small =>
          have allDigits : (c :: whole).filter Char.isDigit = c :: whole := by
            rw [List.filter_eq_self]
            intro x mem
            simp only [List.mem_cons] at mem
            rcases mem with rfl | mem
            · exact digit
            · rw [← hwhole] at mem
              exact of_mem_takeWhile mem
          rw [allDigits] at small h
          exact .inr (.inl ⟨_, _, _, _, _, _,
            .int digit hwhole.symm noFraction noWord (Nat.le_of_not_lt short) small, h⟩)
        next => exact .inr (.inr (.inl ⟨_, _, h.symm, rfl⟩))
      next someFraction =>
        obtain ⟨rfl, frac, point, some, width⟩ := fractionWidth_ne_zero someFraction
        rw [width] at noWord h
        generalize hdigits : frac.takeWhile Char.isDigit = digits at some noWord h
        have takeDigits : frac.take digits.length = digits := by
          rw [← hdigits, take_length_takeWhile]
        have split : r = whole ++ '.' :: frac := by
          rw [← takeWhole, ← point, List.take_append_drop]
        have lexeme : r.take (whole.length + (1 + digits.length)) = whole ++ '.' :: digits := by
          rw [split, List.take_append, List.take_of_length_le (by omega), Nat.add_sub_cancel_left,
            Nat.add_comm, List.take_succ_cons, takeDigits]
        have rest : r.drop (whole.length + (1 + digits.length)) = frac.drop digits.length := by
          rw [split, List.drop_append, List.drop_of_length_le (by omega), Nat.add_sub_cancel_left,
            Nat.add_comm, List.drop_succ_cons, List.nil_append]
        have mantissa :
            (c :: (whole ++ '.' :: digits)).filter Char.isDigit = c :: whole ++ digits := by
          have wholeDigits : ∀ x ∈ whole, x.isDigit := fun x mem =>
            of_mem_takeWhile (hwhole ▸ mem)
          have fracDigits : ∀ x ∈ digits, x.isDigit := fun x mem =>
            of_mem_takeWhile (hdigits ▸ mem)
          rw [List.filter_cons_of_pos digit, List.filter_append, List.filter_cons_of_neg (by decide),
            List.filter_eq_self.2 wholeDigits, List.filter_eq_self.2 fracDigits]
          rfl
        rw [rest] at noWord
        rw [lexeme, rest, mantissa, Nat.add_sub_cancel_left] at h
        exact .inr (.inl ⟨_, _, _, _, _, _, .float digit hwhole.symm point hdigits.symm some noWord, h⟩)
    next notDigit =>
    split at h
    next start =>
      dsimp only at h
      rw [take_length_takeWhile] at h
      exact .inr (.inl ⟨_, _, _, _, _, _, .word start notDigit rfl, h⟩)
    next =>
    split at h
    next kind m which =>
      exact .inr (.inl ⟨_, _, _, _, _, _, .operator which, h⟩)
    next => exact .inr (.inr (.inl ⟨_, _, h.symm, rfl⟩))

/-- The end of the text, outside any tag, adds the end token; inside a tag it is an
error, a tag left open, placed at the tag's opener. -/
theorem scanFrom_nil_eq {src : ScanSource} {mode : ScanMode} {afterDot : Bool} {loc : Location}
    {acc : Array Token} {res : Except Failure (Array Token)}
    (h : scanFrom src mode afterDot loc acc [] = res) :
    (mode = .text ∧ res = .ok (acc.push ⟨.eof, .none, "", ⟨loc, loc⟩⟩)) ∨
      ∃ o, mode = .tag o ∧
        res = .error (.template (src.errorAt (.unterminatedTag (src.byteOffset o.offset)) o loc)) := by
  cases mode with
  | text =>
    rw [scanFrom.eq_1] at h
    exact .inl ⟨rfl, h.symm⟩
  | tag o =>
    rw [scanFrom.eq_2] at h
    exact .inr ⟨o, rfl, h.symm⟩

section Emits

variable {loc : Location} {mode mode' : ScanMode} {afterDot afterDot' : Bool}
  {cs lex rest : List Char} {kind : TokenKind} {value : TokenValue}

/-- A token's lexeme is a non-empty first part of the characters it is read from, and
the scan goes on with the rest. -/
theorem Emits.split (e : Emits loc mode afterDot cs kind value lex rest mode' afterDot') :
    cs = lex ++ rest ∧ lex ≠ [] := by
  cases e with
  | text => exact ⟨by rw [List.cons_append, textRunTail_append_drop], List.cons_ne_nil _ _⟩
  | opener => exact ⟨by rw [List.cons_append, List.take_append_drop], List.cons_ne_nil _ _⟩
  | @tagEnd o afterDot r close =>
    obtain ⟨t, rfl⟩ : ∃ t, r = '>' :: t := by
      cases r with
      | nil => cases close
      | cons x t => simp only [List.head?_cons, Option.some.injEq] at close; exact ⟨t, by rw [close]⟩
    exact ⟨rfl, List.cons_ne_nil _ _⟩
  | string => exact ⟨by simp, List.cons_ne_nil _ _⟩
  | int _ hwhole =>
    exact ⟨by rw [List.cons_append, hwhole, takeWhile_append_drop], List.cons_ne_nil _ _⟩
  | @float o c r whole frac digits _ hwhole point hdigits =>
    refine ⟨?_, List.cons_ne_nil _ _⟩
    have wholeFirst : r = whole ++ '.' :: frac := by
      rw [← point, hwhole, takeWhile_append_drop]
    have digitsFirst : frac = digits ++ frac.drop digits.length := by
      rw [hdigits, takeWhile_append_drop]
    rw [wholeFirst]
    simp only [List.cons_append, List.append_assoc]
    rw [← digitsFirst]
  | word => exact ⟨by rw [List.cons_append, takeWhile_append_drop], List.cons_ne_nil _ _⟩
  | operator => exact ⟨by rw [List.cons_append, List.take_append_drop], List.cons_ne_nil _ _⟩

/-- What a token does to the mode: outside a tag it is text, or an opener that opens
a tag at its own location; inside a tag it is `%>`, which closes the tag, or a token
of the tag, which keeps it open. -/
theorem Emits.modes (e : Emits loc mode afterDot cs kind value lex rest mode' afterDot') :
    (mode = .text ∧ (kind = .text ∧ mode' = .text ∨ kind.opensTag ∧ mode' = .tag loc)) ∨
      ∃ o, mode = .tag o ∧ (kind = .tagEnd ∧ mode' = .text ∨ kind.insideTag ∧ mode' = .tag o) := by
  cases e with
  | text => exact .inl ⟨rfl, .inl ⟨rfl, rfl⟩⟩
  | @opener afterDot r kind extra _ which =>
    have opens := TokenKind.opensTag_openerAfter (r.drop 1)
    rw [which] at opens
    exact .inl ⟨rfl, .inr ⟨opens, rfl⟩⟩
  | tagEnd => exact .inr ⟨_, rfl, .inl ⟨rfl, rfl⟩⟩
  | string | int | float => exact .inr ⟨_, rfl, .inr ⟨rfl, rfl⟩⟩
  | @word o afterDot c r kind _ _ hkind =>
    refine .inr ⟨o, rfl, .inr ⟨?_, rfl⟩⟩
    rw [hkind]
    split
    · rfl
    · exact TokenKind.insideTag_ofWord _
  | operator which => exact .inr ⟨_, rfl, .inr ⟨insideTag_of_operatorKind which, rfl⟩⟩

/-- The scan goes on with fewer characters. -/
theorem Emits.shorter (e : Emits loc mode afterDot cs kind value lex rest mode' afterDot') :
    rest.length < cs.length := by
  obtain ⟨split, nonempty⟩ := e.split
  have : lex.length ≠ 0 := by simpa using nonempty
  rw [split, List.length_append]
  omega

/-- Reading a token is a step of the scan: the scan goes on after the token, in the mode
and with the flag it gives. -/
theorem Emits.scanFrom_eq (e : Emits loc mode afterDot cs kind value lex rest mode' afterDot')
    (src : ScanSource) (acc : Array Token) :
    scanFrom src mode afterDot loc acc cs =
      scanFrom src mode' afterDot' (makeToken kind value lex loc).2
        (acc.push (makeToken kind value lex loc).1) rest := by
  cases e with
  | text notOpen =>
    rw [scanFrom.eq_3, if_neg notOpen]
    simp only [take_textRunTail]
  | opener percent which =>
    rw [scanFrom.eq_3, if_pos ⟨rfl, percent⟩]
    simp only [which]
  | tagEnd close =>
    rw [scanFrom.eq_4, if_neg (by decide), if_pos ⟨rfl, close⟩]
  | @string o afterDot c body rest quote other =>
    have notBlank : isTagBlank c = false := by rcases quote with rfl | rfl <;> rfl
    have notClose : ¬ (c = '%' ∧ (body ++ c :: rest).head? = some '>') := by
      rintro ⟨rfl, -⟩
      rcases quote with h | h <;> cases h
    have takeBody : (body ++ c :: rest).takeWhile (· ≠ c) = body := by
      rw [List.takeWhile_append_of_pos (by simpa using other)]
      simp
    have lexeme : (body ++ c :: rest).take (body.length + 1) = body ++ [c] := by
      rw [List.take_append, List.take_of_length_le (by omega), Nat.add_sub_cancel_left]
      rfl
    have after : (body ++ c :: rest).drop (body.length + 1) = rest := by
      rw [List.drop_append, List.drop_of_length_le (by omega), Nat.add_sub_cancel_left]
      rfl
    rw [scanFrom.eq_4, notBlank, if_neg Bool.false_ne_true, if_neg notClose, if_pos quote]
    dsimp only
    rw [takeBody, List.drop_left]
    dsimp only
    rw [lexeme, after]
  | @int o afterDot c r whole digit hwhole noFraction noWord short small =>
    have notClose : ¬ (c = '%' ∧ r.head? = some '>') := by
      rintro ⟨rfl, -⟩
      cases digit
    have notQuote : ¬ (c = '"' ∨ c = '\'') := by
      rintro (rfl | rfl) <;> cases digit
    have takeWhole : r.take whole.length = whole := by rw [hwhole, take_length_takeWhile]
    have allDigits : (c :: whole).filter Char.isDigit = c :: whole := by
      rw [List.filter_eq_self]
      intro x mem
      rcases List.mem_cons.1 mem with rfl | mem
      · exact digit
      · exact of_mem_takeWhile (hwhole ▸ mem)
    rw [scanFrom.eq_4, isTagBlank_of_isDigit digit, if_neg Bool.false_ne_true, if_neg notClose,
      if_neg notQuote, if_pos digit]
    dsimp only
    rw [← hwhole, noFraction, Nat.add_zero, if_neg noWord, if_pos rfl, takeWhole, allDigits,
      if_neg (Nat.not_lt.2 short), if_pos small]
  | @float o c r whole frac digits digit hwhole point hdigits nonempty noWord =>
    have notClose : ¬ (c = '%' ∧ r.head? = some '>') := by
      rintro ⟨rfl, -⟩
      cases digit
    have notQuote : ¬ (c = '"' ∨ c = '\'') := by
      rintro (rfl | rfl) <;> cases digit
    have takeWhole : r.take whole.length = whole := by rw [hwhole, take_length_takeWhile]
    have width : fractionWidth false ('.' :: frac) = 1 + digits.length := by
      obtain ⟨d, more, rfl⟩ : ∃ d more, frac = d :: more := by
        cases frac with
        | nil => exact absurd (by simpa using hdigits) nonempty
        | cons d more => exact ⟨d, more, rfl⟩
      have dDigit : d.isDigit := by
        cases isDigit : d.isDigit with
        | true => rfl
        | false => exact absurd (by simpa [List.takeWhile_cons, isDigit] using hdigits) nonempty
      rw [hdigits, List.takeWhile_cons_of_pos dDigit]
      simp only [fractionWidth, dDigit, if_true, List.length_cons]
      omega
    have takeDigits : frac.take digits.length = digits := by
      rw [hdigits, take_length_takeWhile]
    have split : r = whole ++ '.' :: frac := by
      rw [← takeWhole, ← point, List.take_append_drop]
    have lexeme : r.take (whole.length + (1 + digits.length)) = whole ++ '.' :: digits := by
      rw [split, List.take_append, List.take_of_length_le (by omega), Nat.add_sub_cancel_left,
        Nat.add_comm, List.take_succ_cons, takeDigits]
    have rest : r.drop (whole.length + (1 + digits.length)) = frac.drop digits.length := by
      rw [split, List.drop_append, List.drop_of_length_le (by omega), Nat.add_sub_cancel_left,
        Nat.add_comm, List.drop_succ_cons, List.nil_append]
    have mantissa :
        (c :: (whole ++ '.' :: digits)).filter Char.isDigit = c :: whole ++ digits := by
      have wholeDigits : ∀ x ∈ whole, x.isDigit := fun x mem =>
        of_mem_takeWhile (hwhole ▸ mem)
      have fracDigits : ∀ x ∈ digits, x.isDigit := fun x mem =>
        of_mem_takeWhile (hdigits ▸ mem)
      rw [List.filter_cons_of_pos digit, List.filter_append, List.filter_cons_of_neg (by decide),
        List.filter_eq_self.2 wholeDigits, List.filter_eq_self.2 fracDigits]
      rfl
    rw [scanFrom.eq_4, isTagBlank_of_isDigit digit, if_neg Bool.false_ne_true, if_neg notClose,
      if_neg notQuote, if_pos digit]
    dsimp only
    rw [← hwhole, point, width, rest, if_neg noWord, if_neg (by omega), lexeme, mantissa,
      Nat.add_sub_cancel_left]
    rfl
  | @word o afterDot c r kind start notDigit hkind =>
    have notClose : ¬ (c = '%' ∧ r.head? = some '>') := by
      rintro ⟨rfl, -⟩
      revert start; decide
    have notQuote : ¬ (c = '"' ∨ c = '\'') := by
      rintro (rfl | rfl) <;> revert start <;> decide
    rw [scanFrom.eq_4, isTagBlank_of_isWordStart start, if_neg Bool.false_ne_true, if_neg notClose,
      if_neg notQuote, if_neg notDigit, if_pos start]
    dsimp only
    rw [take_length_takeWhile, ← hkind]
  | @operator o afterDot c r kind m which =>
    have tests : isTagBlank c = false ∧ c ≠ '%' ∧ ¬ (c = '"' ∨ c = '\'') ∧ c.isDigit = false ∧
        isWordStart c = false := by
      rcases char_of_operatorKind which with rfl | rfl | rfl | rfl | rfl | rfl | rfl | rfl | rfl <;>
        decide
    obtain ⟨notBlank, notPercent, notQuote, notDigit, notWord⟩ := tests
    rw [scanFrom.eq_4, notBlank, if_neg Bool.false_ne_true, if_neg (fun close => notPercent close.1),
      if_neg notQuote,
      notDigit, if_neg Bool.false_ne_true, notWord, if_neg Bool.false_ne_true]
    simp only [which]

end Emits

/-- A property of the scan's state that skipping a blank and reading a token both
keep holds when the text ends: the scan is then outside any tag, and its tokens are
those gathered so far and the end token. -/
theorem scanFrom_induction {P : ScanMode → Bool → Location → List Token → List Char → Prop}
    (skip : ∀ {o afterDot loc acc c r}, isTagBlank c → P (.tag o) afterDot loc acc (c :: r) →
      P (.tag o) afterDot (loc.advance c) acc r)
    (emit : ∀ {mode afterDot loc acc cs kind value lex rest mode' afterDot'},
      Emits loc mode afterDot cs kind value lex rest mode' afterDot' →
      P mode afterDot loc acc cs →
      P mode' afterDot' (makeToken kind value lex loc).2 (acc ++ [(makeToken kind value lex loc).1])
        rest)
    {src : ScanSource} {mode : ScanMode} {afterDot : Bool} {loc : Location}
    {acc out : Array Token} {cs : List Char}
    (h : scanFrom src mode afterDot loc acc cs = .ok out) (start : P mode afterDot loc acc.toList cs) :
    ∃ afterDot' loc' acc', P .text afterDot' loc' acc' [] ∧
      out.toList = acc' ++ [⟨.eof, .none, "", ⟨loc', loc'⟩⟩] := by
  match cs with
  | [] =>
    rcases scanFrom_nil_eq h with ⟨rfl, done⟩ | ⟨o, -, fails⟩
    · cases done
      exact ⟨afterDot, loc, acc.toList, start, Array.toList_push⟩
    · cases fails
  | c :: r =>
    rcases scanFrom_cons_eq h with ⟨o, rfl, blank, next⟩ |
      ⟨kind, value, lex, rest, mode', afterDot', e, next⟩ | ⟨φ, stop, fails, -⟩ | ⟨refusal, fails⟩
    · exact scanFrom_induction skip emit next (skip blank start)
    · have shorter := e.shorter
      refine scanFrom_induction skip emit next ?_
      rw [Array.toList_push]
      exact emit e start
    · cases fails
    · cases fails
termination_by cs.length
decreasing_by
  · simp
  · exact shorter

/-- A scan that fails, fails with one of the scan's own failures. -/
theorem scanFrom_error {src : ScanSource} {mode : ScanMode} {afterDot : Bool} {loc : Location}
    {acc : Array Token} {cs : List Char} {f : Failure}
    (h : scanFrom src mode afterDot loc acc cs = .error f) : f.ofScan := by
  match cs with
  | [] =>
    rcases scanFrom_nil_eq h with ⟨-, done⟩ | ⟨o, -, fails⟩
    · cases done
    · cases fails
      rfl
  | c :: r =>
    rcases scanFrom_cons_eq h with ⟨o, -, -, next⟩ |
      ⟨kind, value, lex, rest, mode', afterDot', e, next⟩ | ⟨φ, stop, fails, atChar⟩ |
      ⟨refusal, fails⟩
    · exact scanFrom_error next
    · have shorter := e.shorter
      exact scanFrom_error next
    · cases fails
      exact Fault.ofScan_of_atCharacter atChar
    · cases fails
      rfl
termination_by cs.length
decreasing_by
  · simp
  · exact shorter

/-- A property of the scan's state that skipping a blank and reading a token both
keep holds where a scan fails with a template error: at a character, where the scan
stands and the error is placed, or at the end of the text inside a tag, whose opener
the error is placed at. On the way no token is the last of the text outside a tag,
where the scan would end well. -/
theorem scanFrom_failure_induction
    {P : ScanMode → Bool → Location → List Token → List Char → Prop}
    (skip : ∀ {o afterDot loc acc c r}, isTagBlank c → P (.tag o) afterDot loc acc (c :: r) →
      P (.tag o) afterDot (loc.advance c) acc r)
    (emit : ∀ {mode afterDot loc acc cs kind value lex rest mode' afterDot'},
      Emits loc mode afterDot cs kind value lex rest mode' afterDot' →
      (rest = [] → ∃ o, mode' = .tag o) → P mode afterDot loc acc cs →
      P mode' afterDot' (makeToken kind value lex loc).2 (acc ++ [(makeToken kind value lex loc).1])
        rest)
    {src : ScanSource} {mode : ScanMode} {afterDot : Bool} {loc : Location}
    {acc : Array Token} {cs : List Char} {e : TemplateError}
    (h : scanFrom src mode afterDot loc acc cs = .error (.template e))
    (start : P mode afterDot loc acc.toList cs) :
    (∃ mode' afterDot' loc' acc' c r φ stop, P mode' afterDot' loc' acc' (c :: r) ∧
      e = src.errorAt φ loc' stop ∧ φ.atCharacter) ∨
    ∃ o afterDot' loc' acc', P (.tag o) afterDot' loc' acc' [] ∧
      e = src.errorAt (.unterminatedTag (src.byteOffset o.offset)) o loc' := by
  match cs with
  | [] =>
    rcases scanFrom_nil_eq h with ⟨-, done⟩ | ⟨o, rfl, fails⟩
    · cases done
    · cases fails
      exact .inr ⟨o, afterDot, loc, acc.toList, start, rfl⟩
  | c :: r =>
    rcases scanFrom_cons_eq h with ⟨o, rfl, blank, next⟩ |
      ⟨kind, value, lex, rest, mode', afterDot', e', next⟩ | ⟨φ, stop, fails, atChar⟩ |
      ⟨refusal, fails⟩
    · exact scanFrom_failure_induction skip emit next (skip blank start)
    · have shorter := e'.shorter
      -- the scan fails after the token, so the text does not end there outside a tag
      have going : rest = [] → ∃ o, mode' = .tag o := by
        rintro rfl
        rcases scanFrom_nil_eq next with ⟨-, done⟩ | ⟨o, tagged, -⟩
        · cases done
        · exact ⟨o, tagged⟩
      refine scanFrom_failure_induction skip emit next ?_
      rw [Array.toList_push]
      exact emit e' going start
    · cases fails
      exact .inl ⟨mode, afterDot, loc, acc.toList, c, r, φ, stop, start, rfl, atChar⟩
    · cases fails
termination_by cs.length
decreasing_by
  · simp
  · exact shorter

/-- A text fails to scan as the scan from its start fails. -/
theorem Token.scan_eq_error {s : String} {file : Option String} {f : Failure}
    (h : Token.scan s file = .error f) :
    scanFrom ⟨s, file⟩ .text false (Location.initial file) #[] s.toList = .error f := by
  unfold Token.scan at h
  cases scanned : scanFrom ⟨s, file⟩ .text false (Location.initial file) #[] s.toList with
  | error f' =>
    rw [scanned] at h
    cases h
    rfl
  | ok tokens =>
    rw [scanned] at h
    cases h

/-- A text that does not scan fails with a fault of the scanner. -/
theorem Token.scan_error {s : String} {file : Option String} {f : Failure}
    (h : Token.scan s file = .error f) : f.ofScan :=
  scanFrom_error (Token.scan_eq_error h)

end Stencil
