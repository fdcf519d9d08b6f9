import Mathlib
import Stencil.Proofs.ScanValues
import Stencil.Proofs.RenderInduction
import Stencil.Proofs.HostRoundTrip
import Stencil.Render.Source

/-!
# What rendering a template's text fails with

Rendering a template's text fails with an engine error, which carries its diagnostic,
or with a failure of the host, which is not an engine error. The host fails in two
places. Reading an integer numeral of more digits than the host reads integers with
(`Number.integerDigitLimit`, 4300) is refused before the engine can check the numeral's
range; and writing out such an integer is refused too, which wrapping a host integer
does when it writes the integer into its range error.

The renderer makes no host failure of its own and passes on those it meets: a render of
a parsed template fails with a host failure only where its bindings answered a lookup
with it (`Renderer.render_host`), and bindings given as data answer so only for a datum
holding an integer too long to write out (`HostBindings.failsWith_mapping`). So a text
fails with a host failure only where it holds a stretch of more than 4300 digits, the
failure naming its length, or where its bindings answered with one
(`Renderer.renderSource_host`); an output tag made of such a numeral, or of a name bound
to such an integer, is refused so (`Renderer.renderSource_long_numeral`,
`Renderer.renderSource_long_binding`). `Renderer.renderSource_failures` puts these
together.
-/

namespace Stencil

/-- A stretch within the rest of a list is a stretch within the list. -/
theorem List.infix_cons_of_drop {α : Type} {xs r : List α} {c : α} {m : Nat}
    (h : xs <:+: r.drop m) : xs <:+: c :: r :=
  h.trans ((List.drop_suffix m r).isInfix.trans (List.suffix_cons c r).isInfix)

/-- The host's refusal of an integer numeral of the text `cs`: a stretch of more digits
than the host reads integers with, the failure naming how many. -/
def HostFailure.RefusesNumeral (h : HostFailure) (cs : List Char) : Prop :=
  ∃ digits, digits <:+: cs ∧ (∀ d ∈ digits, d.isDigit) ∧
    Number.integerDigitLimit < digits.length ∧
    h = ⟨"ValueError", Number.digitLimitMessage digits.length⟩

/-- A scan that fails with a host failure has met an integer numeral with more digits
than the host reads, a stretch of the text it was scanning. -/
theorem scanFrom_host {src : ScanSource} {mode : ScanMode} {afterDot : Bool} {loc : Location}
    {acc : Array Token} {cs : List Char} {h : HostFailure}
    (fails : scanFrom src mode afterDot loc acc cs = .error (.host h)) : h.RefusesNumeral cs := by
  fun_induction scanFrom src mode afterDot loc acc cs
  -- the end of the text, and the scan's own errors
  case case1 | case2 | case8 | case9 | case12 | case16 => cases fails
  -- an integer numeral too long for the host
  case case10 c r _ _ _ _ digit whole fraction m _ lexeme _ noFraction long =>
    cases fails
    have numeral : lexeme <:+: c :: r :=
      ⟨[], r.drop m, by simp [lexeme, List.take_append_drop]⟩
    have digits : ∀ d ∈ lexeme, d.isDigit := by
      intro d mem
      simp only [lexeme, m, whole, noFraction, Nat.add_zero, take_length_takeWhile,
        List.mem_cons] at mem
      rcases mem with rfl | mem
      · exact digit
      · exact of_mem_takeWhile mem
    exact ⟨lexeme, numeral, digits, long, rfl⟩
  -- a blank inside a tag
  case case5 ih =>
    obtain ⟨digits, within, rest⟩ := ih fails
    exact ⟨digits, within.trans (List.suffix_cons _ _).isInfix, rest⟩
  -- every other step reads one token and goes on after it
  all_goals
    rename_i ih
    obtain ⟨digits, within, rest⟩ := ih fails
    exact ⟨digits, List.infix_cons_of_drop within, rest⟩

/-- A text's scan fails with a host failure only at a numeral of the text that is too
long. -/
theorem Token.scan_host {s : String} {file : Option String} {h : HostFailure}
    (fails : Token.scan s file = .error (.host h)) : h.RefusesNumeral s.toList := by
  unfold Token.scan at fails
  cases scanned : scanFrom ⟨s, file⟩ .text false (Location.initial file) #[] s.toList with
  | error f =>
    rw [scanned] at fails
    cases fails
    exact scanFrom_host scanned
  | ok tokens =>
    rw [scanned] at fails
    cases fails

/-- Parsing fails with a host failure only where its scan does. -/
theorem Template.parse_host {source : String} {name : Option String} {h : HostFailure}
    (fails : Template.parse source name = .error (.host h)) : h.RefusesNumeral source.toList := by
  unfold Template.parse at fails
  split at fails
  next e scanned =>
    cases fails
    exact Token.scan_host scanned
  next tokens _ =>
    cases parsed : Template.ofTokens tokens source name with
    | error e =>
      rw [parsed] at fails
      cases fails
    | ok t =>
      rw [parsed] at fails
      cases fails

/-! ## Host failures of a render -/

/-- The bindings answer a lookup with a host failure. -/
def HostBindings.FailsWith (host : HostBindings) (h : HostFailure) : Prop :=
  ∃ name, host.get name = some (.error (.host h))

/-- Bindings given as data, keywords laid over them, answer with a host failure only
for a datum that holds an integer too long to write out, and the failure is the
refusal to write it. -/
theorem HostBindings.failsWith_mapping {entries keywords : List (String × HostData)}
    {h : HostFailure} (fails : ((HostBindings.mapping entries).withKeywords keywords).FailsWith h) :
    h = ⟨"ValueError", Number.writeLimitMessage⟩ ∧
      ∃ d ∈ (entries ++ keywords).map (·.2), d.hasLongInt = true := by
  obtain ⟨name, answered⟩ := fails
  rw [get_withKeywords_mapping, Option.map_eq_some_iff] at answered
  obtain ⟨d, found, wrapped⟩ := answered
  obtain ⟨refused, long⟩ := HostData.wrap_host wrapped
  refine ⟨refused, d, ?_, long⟩
  -- the datum is bound by a keyword or by an entry
  have bound : ∀ es : List (String × HostData), find? es name = some d → d ∈ es.map (·.2) := by
    intro es h
    obtain ⟨p, hp, rfl⟩ := Option.map_eq_some_iff.1 h
    exact List.mem_map_of_mem (List.mem_of_find?_eq_some hp)
  rw [List.map_append, List.mem_append]
  cases byKeyword : find? keywords.reverse name with
  | some d' =>
    rw [byKeyword, Option.some_or] at found
    cases found
    exact .inr (by simpa using bound _ byKeyword)
  | none =>
    rw [byKeyword, Option.none_or] at found
    exact .inl (bound _ found)

/-- A name bound by the one keyword is answered by the keyword, whatever the bindings
under it. -/
theorem HostBindings.get_withKeywords_single (host : HostBindings) (k : String) (d : HostData) :
    (host.withKeywords [(k, d)]).get k = some d.wrap := by
  cases host with
  | mapping entries => simp [get_withKeywords_mapping, find?_cons]
  | supplier S => simp [get_withKeywords_supplier, find?_cons]
  | empty => simp [withKeywords, get, withKeywords.merge, withKeywords.put, find?_cons]
  | overlay => simp [withKeywords, get, find?_cons]

namespace Renderer

/-- Placing an error lets a host failure through as it is. -/
theorem locate_eq_host {α : Type} {f : Frame} {span : Span} {x : Except Failure α}
    {h : HostFailure} (fails : locate f span x = .error (.host h)) : x = .error (.host h) := by
  cases x with
  | ok a => cases fails
  | error e =>
    cases e with
    | template e => cases fails
    | host h' => exact fails

/-- An engine error lifted among the failures is no host failure. -/
theorem mapError_template_ne_host {α : Type} (x : Except TemplateError α) (h : HostFailure) :
    x.mapError Failure.template ≠ .error (.host h) := by
  cases x <;> simp [Except.mapError]

/-- A name's value is a loop variable's, or the host's answer. -/
theorem Frame.lookup_host {f : Frame} {host : HostBindings} {name : String} {h : HostFailure}
    (found : f.lookup host name = some (.error (.host h))) : host.FailsWith h := by
  unfold Frame.lookup at found
  split at found
  · cases found
  · exact ⟨name, found⟩

/-- The elements of a loop are bound to its variables by the engine, which fails, if it
does, with its own error. -/
theorem loopBindings_ne_host (f : Frame) (span : Span) (targets : List String) (item : Value)
    (h : HostFailure) : loopBindings f span targets item ≠ .error (.host h) := by
  unfold loopBindings
  split
  · simp
  · split <;> simp
  · simp

variable {r : Renderer} {host : HostBindings} {f : Frame}

theorem outputText_host {e : Expr}
    (evaluated : ∀ h, r.eval host f e = .error (.host h) → host.FailsWith h) {h : HostFailure}
    (fails : r.outputText host f e = .error (.host h)) : host.FailsWith h := by
  rw [outputText] at fails
  split at fails
  next failed =>
    cases fails
    exact evaluated _ failed
  next v _ => exact absurd (locate_eq_host fails) (mapError_template_ne_host _ _)

theorem condition_host {c : Expr}
    (evaluated : ∀ h, r.eval host f c = .error (.host h) → host.FailsWith h) {h : HostFailure}
    (fails : r.condition host f c = .error (.host h)) : host.FailsWith h := by
  rw [condition] at fails
  split at fails
  next failed =>
    cases fails
    exact evaluated _ failed
  next => cases fails
  next => cases fails

variable (r host)

/-- The renderer makes no host failure of its own: each part of a render that fails
with one passes on the failure of a part, and at the bottom a name whose lookup the
host answered with it. -/
theorem hostFailure_steps : Motive.Steps r
    { eval := fun f e => ∀ h, r.eval host f e = .error (.host h) → host.FailsWith h
      evalAll := fun f es => ∀ h, r.evalAll host f es = .error (.host h) → host.FailsWith h
      renderPartial := fun f path => ∀ h,
        r.renderPartial host f path = .error (.host h) → host.FailsWith h
      renderNodes := fun f ns => ∀ h,
        r.renderNodes host f ns = .error (.host h) → host.FailsWith h
      renderNode := fun f n => ∀ h, r.renderNode host f n = .error (.host h) → host.FailsWith h
      renderBranches := fun f branches elseBody => ∀ h,
        r.renderBranches host f branches elseBody = .error (.host h) → host.FailsWith h
      renderLoop := fun f span targets body items => ∀ h,
        r.renderLoop host f span targets body items = .error (.host h) → host.FailsWith h } where
  literal _ _ _ _ fails := by
    rw [eval] at fails
    exact absurd (locate_eq_host fails) (mapError_template_ne_host _ _)
  identifier _ _ _ _ fails := by
    rw [eval] at fails
    have answered := locate_eq_host fails
    split at answered
    next found =>
      subst answered
      exact Frame.lookup_host found
    next => cases answered
  list _ _ _ elements _ fails := by
    rw [eval] at fails
    have inner := locate_eq_host fails
    split at inner
    next => cases inner
    next failed =>
      cases inner
      exact elements _ failed
  negate _ _ _ operand _ fails := by
    rw [eval] at fails
    have inner := locate_eq_host fails
    split at inner
    next => exact absurd inner (mapError_template_ne_host _ _)
    next failed =>
      cases inner
      exact operand _ failed
  compare _ _ _ _ _ left right _ fails := by
    rw [eval] at fails
    have inner := locate_eq_host fails
    split at inner
    next failed =>
      cases inner
      exact left _ failed
    next =>
      split at inner
      next failed =>
        cases inner
        exact right _ failed
      next => cases inner
  method _ _ _ _ _ object arguments _ fails := by
    rw [eval] at fails
    have inner := locate_eq_host fails
    split at inner
    next failed =>
      cases inner
      exact object _ failed
    next =>
      split at inner
      next failed =>
        cases inner
        exact arguments _ failed
      next => exact absurd inner (mapError_template_ne_host _ _)
  position _ _ _ _ object _ fails := by
    rw [eval] at fails
    have inner := locate_eq_host fails
    split at inner
    next failed =>
      cases inner
      exact object _ failed
    next => exact absurd inner (mapError_template_ne_host _ _)
  index _ _ _ _ object key _ fails := by
    rw [eval] at fails
    have inner := locate_eq_host fails
    split at inner
    next failed =>
      cases inner
      exact object _ failed
    next =>
      split at inner
      next failed =>
        cases inner
        exact key _ failed
      next => exact absurd inner (mapError_template_ne_host _ _)
  call _ _ _ _ arguments partials _ fails := by
    rw [eval] at fails
    have inner := locate_eq_host fails
    split at inner
    next failed =>
      cases inner
      exact arguments _ failed
    next =>
      split at inner
      next => cases inner
      next path _ =>
        split at inner
        next => cases inner
        next failed =>
          cases inner
          exact partials path _ failed
      next => exact absurd inner (mapError_template_ne_host _ _)
      next => exact absurd inner (mapError_template_ne_host _ _)
  evalNil _ _ fails := by
    rw [evalAll] at fails
    cases fails
  evalCons _ _ _ first rest _ fails := by
    rw [evalAll] at fails
    split at fails
    next failed =>
      cases fails
      exact first _ failed
    next =>
      split at fails
      next failed =>
        cases fails
        exact rest _ failed
      next => cases fails
  enter _ _ inner _ fails := by
    rw [renderPartial] at fails
    split at fails
    next below =>
      split at fails
      next => cases fails
      next t _ => exact inner below t _ fails
    next => cases fails
  nodesNil _ _ fails := by
    rw [renderNodes] at fails
    cases fails
  nodesCons _ _ _ first rest _ fails := by
    rw [renderNodes] at fails
    split at fails
    next failed =>
      cases fails
      exact first _ failed
    next =>
      split at fails
      next failed =>
        cases fails
        exact rest _ failed
      next => cases fails
  text _ _ _ _ fails := by
    rw [renderNode] at fails
    cases fails
  output _ _ _ e _ fails := by
    rw [renderNode] at fails
    split at fails
    next failed =>
      cases fails
      exact outputText_host e failed
    next => cases fails
  rawOutput _ _ _ e _ fails := by
    rw [renderNode] at fails
    split at fails
    next failed =>
      cases fails
      exact outputText_host e failed
    next => cases fails
  statement _ _ _ e _ fails := by
    rw [renderNode] at fails
    split at fails
    next failed =>
      cases fails
      exact e _ failed
    next => cases fails
  cond _ _ _ _ _ _ c body branches _ fails := by
    rw [renderNode] at fails
    split at fails
    next failed =>
      cases fails
      exact condition_host c failed
    next => exact body _ fails
    next => exact branches _ fails
  loop _ _ _ _ _ iterable iterations _ fails := by
    rw [renderNode] at fails
    split at fails
    next failed =>
      cases fails
      exact iterable _ failed
    next items _ => exact iterations items _ fails
    next => cases fails
  elseBody _ _ nodes _ fails := by
    rw [renderBranches] at fails
    exact nodes _ fails
  noElse _ _ fails := by
    rw [renderBranches] at fails
    cases fails
  branch _ _ _ _ _ _ c body rest _ fails := by
    rw [renderBranches] at fails
    split at fails
    next failed =>
      cases fails
      exact condition_host c failed
    next => exact body _ fails
    next => exact rest _ fails
  loopNil _ _ _ _ _ fails := by
    rw [renderLoop] at fails
    cases fails
  loopCons f span targets _ item _ body rest _ fails := by
    rw [renderLoop] at fails
    split at fails
    next refused =>
      cases fails
      exact absurd refused (loopBindings_ne_host f span targets item _)
    next bs _ =>
      split at fails
      next failed =>
        cases fails
        exact body bs _ failed
      next =>
        split at fails
        next failed =>
          cases fails
          exact rest _ failed
        next => cases fails

/-- A render fails with a host failure only where its bindings answered a lookup with
it. -/
theorem render_host {t : Template} {h : HostFailure}
    (fails : r.render host t = .error (.host h)) : host.FailsWith h := by
  rw [render] at fails
  cases rendered : r.renderNodes host (Frame.top t.source) t.nodes with
  | ok pieces =>
    rw [rendered] at fails
    cases fails
  | error failure =>
    rw [rendered] at fails
    cases fails
    exact (hostFailure_steps r host).renderNodes _ t.nodes _ rendered

end Renderer

/-- Rendering a template's text fails with a host failure only where parsing it does,
at a numeral of the text too long, or where the bindings, keywords laid over them,
answered a lookup with it. -/
theorem Renderer.renderSource_host {r : Renderer} {source : String} {name : Option String}
    {host : HostBindings} {keywords : List (String × HostData)} {h : HostFailure}
    (fails : r.renderSource source name host keywords = .error (.host h)) :
    h.RefusesNumeral source.toList ∨ (host.withKeywords keywords).FailsWith h := by
  unfold Renderer.renderSource at fails
  split at fails
  next e parsed =>
    cases fails
    exact .inl (Template.parse_host parsed)
  next t _ => exact .inr (Renderer.render_host _ _ fails)

/-! ## A numeral too long -/

/-- The digits of a numeral stop at the blank after it. -/
theorem takeWhile_isDigit_blank {ds more : List Char} (digits : ∀ d ∈ ds, d.isDigit) :
    (ds ++ ' ' :: more).takeWhile Char.isDigit = ds := by
  rw [List.takeWhile_append_of_pos digits]
  simp

/-- A numeral followed by a blank has no fraction. -/
theorem fractionWidth_blank (afterDot : Bool) (more : List Char) :
    fractionWidth afterDot (' ' :: more) = 0 := by
  cases afterDot <;> rfl

/-- Inside a tag, an integer numeral followed by a blank, of more digits than the host
reads, is refused by the host. -/
theorem scanFrom_long_numeral {src : ScanSource} {o : Location} {afterDot : Bool}
    {loc : Location} {acc : Array Token} {d : Char} {ds more : List Char} (digit : d.isDigit)
    (digits : ∀ x ∈ ds, x.isDigit) (long : Number.integerDigitLimit < ds.length + 1) :
    scanFrom src (.tag o) afterDot loc acc (d :: (ds ++ ' ' :: more)) =
      .error (.host ⟨"ValueError", Number.digitLimitMessage (ds.length + 1)⟩) := by
  have ne : ∀ x : Char, x.isDigit = false → d ≠ x := fun x other => Number.ne_of_isDigit digit other
  have notBlank : isTagBlank d = false := by
    simp [isTagBlank, ne ' ' (by decide), ne '\t' (by decide), ne '\r' (by decide),
      ne '\n' (by decide)]
  have blankEnds : isWordStart ' ' = false := by decide
  -- the numeral's branch of the scan: not a blank, a tag's end or a quote, but a digit
  rw [scanFrom.eq_4, if_neg (by simp [notBlank]), if_neg (by simp [ne '%' (by decide)]),
    if_neg (by simp [ne '"' (by decide), ne '\'' (by decide)]), if_pos digit]
  -- its digits stop at the blank, with no fraction and no word after them
  simp only [takeWhile_isDigit_blank digits, List.drop_left, fractionWidth_blank, Nat.add_zero,
    List.take_left, List.head?_cons, Option.any_some, blankEnds]
  rw [if_neg Bool.false_ne_true, if_pos trivial, if_pos (by simpa using long)]
  rfl

/-- An output tag made of an integer numeral of more digits than the host reads: its
scan is refused by the host. -/
theorem Token.scan_long_numeral {file : Option String} {digits : List Char}
    (all : ∀ d ∈ digits, d.isDigit) (long : Number.integerDigitLimit < digits.length) :
    Token.scan ("<%= " ++ String.ofList digits ++ " %>") file =
      .error (.host ⟨"ValueError", Number.digitLimitMessage digits.length⟩) := by
  obtain ⟨d, ds, rfl⟩ : ∃ d ds, digits = d :: ds :=
    List.exists_cons_of_ne_nil (List.ne_nil_of_length_pos (by unfold Number.integerDigitLimit at long; omega))
  have text : ("<%= " ++ String.ofList (d :: ds) ++ " %>").toList =
      '<' :: '%' :: '=' :: ' ' :: d :: (ds ++ ' ' :: ['%', '>']) := by
    simp [String.toList_append]
  unfold Token.scan
  rw [text, scanFrom.eq_3, if_pos ⟨rfl, rfl⟩]
  -- the opener `<%=`, then the blank after it
  simp only [List.drop_succ_cons, List.drop_zero, openerAfter, Nat.reduceAdd]
  rw [scanFrom.eq_4, if_pos (by decide)]
  -- the numeral, up to the blank before `%>`
  rw [scanFrom_long_numeral (all d (List.mem_cons_self ..))
    (fun x mem => all x (List.mem_cons_of_mem d mem)) long]
  rfl

/-- Rendering an output tag made of an integer numeral of more digits than the host
reads fails with the host's refusal, before anything is rendered. -/
theorem Renderer.renderSource_long_numeral (r : Renderer) {digits : List Char}
    (all : ∀ d ∈ digits, d.isDigit) (long : Number.integerDigitLimit < digits.length)
    (name : Option String) (host : HostBindings) (keywords : List (String × HostData)) :
    r.renderSource ("<%= " ++ String.ofList digits ++ " %>") name host keywords =
      .error (.host ⟨"ValueError", Number.digitLimitMessage digits.length⟩) := by
  rw [Renderer.renderSource, Template.parse, Token.scan_long_numeral all long]

/-- Rendering an output tag that writes a name a keyword binds to an integer of more
digits than the host writes out fails with the host's refusal to write it, whatever the
bindings under the keyword. -/
theorem Renderer.renderSource_long_binding (r : Renderer) {n : Int}
    (long : Number.exceedsDigitLimit n = true) (name : Option String) (host : HostBindings) :
    r.renderSource "<%= x %>" name host [("x", .int n)] =
      .error (.host ⟨"ValueError", Number.writeLimitMessage⟩) := by
  -- the text parses to one output tag, which writes the identifier `x`
  have parsed : Template.parse "<%= x %>" name = .ok ⟨name,
      [.output ⟨⟨1, 1, 0, name⟩, ⟨1, 9, 8, name⟩⟩
        (.identifier ⟨⟨1, 5, 4, name⟩, ⟨1, 6, 5, name⟩⟩ "x")],
      ⟨⟨1, 1, 0, name⟩, ⟨1, 9, 8, name⟩⟩, "<%= x %>"⟩ := by
    cbv
  -- no loop variable binds `x`, and the keyword answers for it
  have answered : (host.withKeywords [("x", .int n)]).get "x" =
      some (.error (.host ⟨"ValueError", Number.writeLimitMessage⟩)) := by
    rw [HostBindings.get_withKeywords_single, HostData.wrap_long_int long]
  rw [Renderer.renderSource, parsed]
  simp only [Renderer.render, Renderer.renderNodes, Renderer.renderNode, Renderer.outputText,
    Renderer.eval, Frame.lookup, Frame.top, List.find?_nil, answered]
  rfl

/-! ## What a render fails with -/

/-- Rendering a template's text fails with an engine error, or with a failure of the
host: the refusal of an integer numeral of the text that has more digits than the host
reads, or a failure that the bindings, keywords laid over them, answered a lookup with.
Bindings given as data answer with one only for a datum that holds an integer of more
digits than the host writes out, and it is the refusal to write that integer. An output
tag made of such a numeral, or of a name a keyword binds to such an integer, is refused
so, whatever the renderer and the bindings. -/
theorem Renderer.renderSource_failures (r : Renderer) :
    (∀ source name host keywords f, r.renderSource source name host keywords = .error f →
      (∃ e, f = .template e) ∨ ∃ h, f = .host h ∧
        (h.RefusesNumeral source.toList ∨ (host.withKeywords keywords).FailsWith h)) ∧
    (∀ (entries keywords : List (String × HostData)) (h : HostFailure),
      ((HostBindings.mapping entries).withKeywords keywords).FailsWith h →
      h = ⟨"ValueError", Number.writeLimitMessage⟩ ∧
        ∃ d ∈ (entries ++ keywords).map (·.2), d.hasLongInt = true) ∧
    (∀ (digits : List Char) name host keywords, (∀ d ∈ digits, d.isDigit) →
      Number.integerDigitLimit < digits.length →
      r.renderSource ("<%= " ++ String.ofList digits ++ " %>") name host keywords =
        .error (.host ⟨"ValueError", Number.digitLimitMessage digits.length⟩)) ∧
    (∀ (n : Int) name host, Number.exceedsDigitLimit n = true →
      r.renderSource "<%= x %>" name host [("x", .int n)] =
        .error (.host ⟨"ValueError", Number.writeLimitMessage⟩)) := by
  refine ⟨fun source name host keywords f fails => ?_,
    fun _ _ _ answered => HostBindings.failsWith_mapping answered,
    fun digits name host keywords all long => r.renderSource_long_numeral all long name host keywords,
    fun _ name host long => r.renderSource_long_binding long name host⟩
  cases f with
  | template e => exact .inl ⟨e, rfl⟩
  | host h => exact .inr ⟨h, rfl, Renderer.renderSource_host fails⟩

/-- A numeral of 4301 digits in an output tag: the render fails, and not with an engine
error but with the host's refusal of that numeral. A name bound to `10^4300`, an integer
of 4301 digits, fails alike, with the host's refusal to write it out, which the bindings
answered. -/
theorem Renderer.renderSource_refuses_4301_digits :
    let digits := List.replicate 4301 '1'
    let source := "<%= " ++ String.ofList digits ++ " %>"
    (∀ d ∈ digits, d.isDigit) ∧ Number.integerDigitLimit < digits.length ∧
      ({} : Renderer).renderSource source none .empty [] =
        .error (.host ⟨"ValueError", Number.digitLimitMessage 4301⟩) ∧
      (⟨"ValueError", Number.digitLimitMessage 4301⟩ : HostFailure).RefusesNumeral source.toList ∧
      Number.exceedsDigitLimit (10 ^ 4300) = true ∧
      ({} : Renderer).renderSource "<%= x %>" none (.mapping []) [("x", .int (10 ^ 4300))] =
        .error (.host ⟨"ValueError", Number.writeLimitMessage⟩) ∧
      ((HostBindings.mapping []).withKeywords [("x", .int (10 ^ 4300))]).FailsWith
        ⟨"ValueError", Number.writeLimitMessage⟩ ∧
      ∃ d ∈ (([] : List (String × HostData)) ++ [("x", HostData.int (10 ^ 4300))]).map (·.2),
        d.hasLongInt = true := by
  intro digits source
  have all : ∀ d ∈ digits, d.isDigit := by
    intro d mem
    rw [List.eq_of_mem_replicate mem]
    decide
  have long : Number.integerDigitLimit < digits.length := by
    rw [List.length_replicate]
    decide
  have fails := (Renderer.renderSource_failures {}).2.2.1 digits none .empty [] all long
  rw [List.length_replicate] at fails
  have longInt : Number.exceedsDigitLimit (10 ^ 4300) = true :=
    HostData.exceedsDigitLimit_pow (by decide)
  have refused := (Renderer.renderSource_failures {}).2.2.2 _ none (.mapping []) longInt
  have answered : ((HostBindings.mapping []).withKeywords [("x", .int (10 ^ 4300))]).FailsWith
      ⟨"ValueError", Number.writeLimitMessage⟩ :=
    ⟨"x", by rw [HostBindings.get_withKeywords_single, HostData.wrap_long_int longInt]⟩
  refine ⟨all, long, fails, ?_, longInt, refused, answered,
    ((Renderer.renderSource_failures {}).2.1 _ _ _ answered).2⟩
  rcases (Renderer.renderSource_failures {}).1 source none .empty [] _ fails with
    ⟨e, engine⟩ | ⟨h, same, numeral | answered⟩
  · cases engine
  · cases same
    exact numeral
  · -- no bindings and no keywords answer a lookup
    obtain ⟨name, found⟩ := answered
    cases found

end Stencil
