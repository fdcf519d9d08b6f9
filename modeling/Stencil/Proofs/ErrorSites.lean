import Stencil.Proofs.RenderFrames
import Stencil.Proofs.PartialDepth
import Stencil.Partial.Store

/-!
# Where a render error is placed

An error that rendering ends with is placed at the site whose own step failed, in the
template being rendered at that moment: the template itself, or the partial it had
descended into. A site is an expression's own step (a method of the method table, a
name that is undefined or whose host datum does not wrap, a call of a global function
with its check, nesting limit, loader and injectors, a literal, a negation, a position
or an index), the text of an output tag's value, an `if` or `elsif` condition that is
not a Bool, a `for` iterable that is not a List, or a `for` element that does not
unpack. The error carries the site's span and the line of that template there
(`render_error_site`).

Two things are taken from the host, as its documentation has them: a supplier answers
a name with a value or nothing, so the errors of its answers have no place yet; and
the loader's own engine errors have no place either. Bindings given as data, and a
store of partials as loader, are shown to be so (`HostBindings.unplaced_mapping`,
`PartialStore.loader_unplaced`). Every error the engine makes on its own is made
without a place (`Unplaced`), and the renderer places it on the way out, the
innermost expression first; an error that has its place keeps it.
-/

namespace Stencil

/-- An outcome whose failure, if it fails, has no place yet. -/
def Unplaced {α : Type} (x : Except TemplateError α) : Prop :=
  ∀ e, x = .error e → e.span = none

namespace Unplaced

variable {α β : Type}

@[simp] theorem ok (a : α) : Unplaced (.ok a : Except TemplateError α) := by
  intro e h
  cases h

@[simp] theorem ofFault (φ : Fault) : Unplaced (.error (.ofFault φ) : Except TemplateError α) := by
  intro e h
  cases h
  rfl

theorem map {x : Except TemplateError α} (h : Unplaced x) (g : α → β) : Unplaced (x.map g) := by
  intro e he
  cases x with
  | error e' =>
    cases he
    exact h _ rfl
  | ok a => cases he

theorem mapM {γ : Type} {f : γ → Except TemplateError β} (h : ∀ x, Unplaced (f x)) :
    ∀ xs : List γ, Unplaced (xs.mapM f)
  | [] => ok []
  | x :: xs => by
    intro e he
    simp only [List.mapM_cons, bind, Except.bind] at he
    split at he
    next e' hx =>
      cases he
      exact h x _ hx
    next =>
      split at he
      next e' hxs =>
        cases he
        exact mapM h xs _ hxs
      next => cases he

end Unplaced

/-- An outcome among a render's failures whose engine error, if it fails with one, has no
place yet. A host failure has no place at all. -/
def FailureUnplaced {α : Type} (x : Except Failure α) : Prop :=
  ∀ e, x = .error (.template e) → e.span = none

theorem FailureUnplaced.map {α β : Type} {x : Except Failure α} (h : FailureUnplaced x)
    (g : α → β) : FailureUnplaced (x.map g) := by
  intro e he
  cases x with
  | error e' =>
    cases he
    exact h _ rfl
  | ok a => cases he

/-- An engine error among a render's failures is the error it was lifted from. -/
theorem mapError_template_eq_error {α : Type} {x : Except TemplateError α} {e : TemplateError}
    (h : x.mapError Failure.template = .error (.template e)) : x = .error e := by
  cases x with
  | ok a => cases h
  | error e' =>
    cases h
    rfl

/-! ## The errors the engine makes have no place -/

theorem Value.ofInt?_unplaced (n : Int) : Unplaced (Value.ofInt? n) := by
  unfold Value.ofInt?
  split <;> simp

theorem Literal.toValue_unplaced (v : Literal) : Unplaced v.toValue := by
  cases v with
  | int n => exact Value.ofInt?_unplaced n
  | float | str | bool | nil => simp [Literal.toValue]

theorem Value.negate_unplaced (v : Value) : Unplaced v.negate := by
  cases v with
  | int n => exact Value.ofInt?_unplaced (-n)
  | float => simp [Value.negate]
  | _ => simp [Value.negate]

theorem Value.text_unplaced (v : Value) : Unplaced v.text := by
  unfold Value.text
  split <;> simp

theorem Value.enumerated_unplaced (items : List Value) : Unplaced (Value.enumerated items) :=
  Unplaced.mapM (fun _ => (Value.ofInt?_unplaced _).map _) _

theorem Value.texts_unplaced (vs : List Value) : Unplaced (Value.texts vs) := by
  induction vs with
  | nil => simp [Value.texts]
  | cons v rest ih =>
    intro e h
    rw [Value.texts] at h
    split at h
    next e' he =>
      cases h
      exact Value.text_unplaced v _ he
    next =>
      split at h
      next e' he =>
        cases h
        exact ih _ he
      next => cases h

/-- Every error of the method table is made without a place. -/
theorem Value.applyBuiltin_unplaced (m : Builtin) (self : Value) (args : List Value) :
    Unplaced (Value.applyBuiltin m self args) := by
  have ofInt := Value.ofInt?_unplaced
  have round : ∀ x, Unplaced (Number.roundHalfAway x) := fun x => by
    unfold Number.roundHalfAway
    split <;> simp
  have argument : ∀ method v, Unplaced (Value.stringArgument method v) := fun method v => by
    unfold Value.stringArgument
    split <;> simp
  intro e h
  unfold Value.applyBuiltin at h
  -- one case per method; what is left is a guard or a helper's failure
  split at h <;>
    grind [Unplaced, Unplaced.map, Value.texts_unplaced, Value.enumerated_unplaced,
      TemplateError.ofFault]

theorem Value.invoke_unplaced (v : Value) (name : String) (args : List Value) :
    Unplaced (v.invoke name args) := by
  unfold Value.invoke
  split
  · simp
  · split
    · exact Value.applyBuiltin_unplaced _ _ _
    · simp

theorem Value.position_unplaced (v : Value) (i : Nat) : Unplaced (v.position i) := by
  unfold Value.position
  split
  · split <;> simp
  · simp

theorem Value.index_unplaced (v key : Value) : Unplaced (v.index key) := by
  intro e h
  unfold Value.index at h
  split at h <;> grind [TemplateError.ofFault]

theorem GlobalCall.ofCall_unplaced (name : String) (args : List Value) :
    Unplaced (GlobalCall.ofCall name args) := by
  unfold GlobalCall.ofCall
  split
  · simp
  · split
    · simp
    · split
      · simp
      · split
        · split <;> simp
        · simp

theorem Reply.toText_unplaced (name : String) (reply : Reply) : Unplaced (reply.toText name) := by
  cases reply <;> simp [Reply.toText]

theorem Collaborators.headText_unplaced (c : Collaborators) : Unplaced c.headText := by
  unfold Collaborators.headText
  split
  · simp
  · exact Reply.toText_unplaced _ _

theorem Collaborators.turboText_unplaced (c : Collaborators) (endpoint : String) :
    Unplaced (c.turboText endpoint) := by
  unfold Collaborators.turboText
  split
  · simp
  · exact Reply.toText_unplaced _ _

mutual

theorem HostData.wrap_unplaced : ∀ d : HostData, FailureUnplaced d.wrap
  | .none | .bool _ | .float _ | .str _ | .other _ => by
    simp [HostData.wrap, FailureUnplaced, TemplateError.ofFault]
  | .int n => by
    unfold HostData.wrap
    split
    · simp [FailureUnplaced]
    · split <;> simp [FailureUnplaced, TemplateError.ofFault]
  | .list items => by
    rw [HostData.wrap]
    exact (HostData.wrapAll_unplaced items).map _
  | .tuple items => by
    rw [HostData.wrap]
    exact (HostData.wrapAll_unplaced items).map _
  | .dict entries => by
    rw [HostData.wrap]
    exact (HostData.wrapEntries_unplaced entries).map _

theorem HostData.wrapAll_unplaced : ∀ ds : List HostData, FailureUnplaced (HostData.wrapAll ds)
  | [] => by simp [HostData.wrapAll, FailureUnplaced]
  | d :: rest => by
    intro e h
    rw [HostData.wrapAll] at h
    split at h
    next e' he =>
      cases h
      exact HostData.wrap_unplaced d _ he
    next =>
      split at h
      next e' he =>
        cases h
        exact HostData.wrapAll_unplaced rest _ he
      next => cases h

theorem HostData.wrapEntries_unplaced :
    ∀ es : List (HostKey × HostData), FailureUnplaced (HostData.wrapEntries es)
  | [] => by simp [HostData.wrapEntries, FailureUnplaced]
  | (k, d) :: rest => by
    intro e h
    cases k with
    | str key =>
      rw [HostData.wrapEntries] at h
      split at h
      next e' he =>
        cases h
        exact HostData.wrap_unplaced d _ he
      next =>
        split at h
        next e' he =>
          cases h
          exact HostData.wrapEntries_unplaced rest _ he
        next => cases h
    | _ =>
      simp only [HostData.wrapEntries, Except.error.injEq] at h
      cases h
      rfl

end

/-- Host bindings that never answer a name with an error already placed. -/
def HostBindings.Unplaced (host : HostBindings) : Prop :=
  ∀ name e, host.get name = some (.error (.template e)) → e.span = none

namespace HostBindings

theorem unplaced_empty : HostBindings.empty.Unplaced := by
  intro name e h
  cases h

/-- Bindings given as data answer with the errors of wrapping, which have no place. -/
theorem unplaced_mapping (entries : List (String × HostData)) :
    (HostBindings.mapping entries).Unplaced := by
  intro name e h
  simp only [get, Option.map_eq_some_iff] at h
  obtain ⟨d, -, wrapped⟩ := h
  exact HostData.wrap_unplaced d _ wrapped

theorem unplaced_overlay {overrides : List (String × HostData)} {fallback : HostBindings}
    (h : fallback.Unplaced) : (HostBindings.overlay overrides fallback).Unplaced := by
  intro name e found
  simp only [get] at found
  split at found
  next d _ =>
    exact HostData.wrap_unplaced d _ (Option.some.inj found)
  next => exact h name e found

end HostBindings

/-- Loop variables hold values; the errors of a name come from the host. -/
theorem Frame.lookup_unplaced {host : HostBindings} (h : host.Unplaced) (f : Frame)
    {name : String} {e : TemplateError} (found : f.lookup host name = some (.error (.template e))) :
    e.span = none := by
  unfold Frame.lookup at found
  split at found
  · cases found
  · exact h name e found

/-- A loader that never answers with an engine error already placed. -/
def Collaborators.Unplaced (c : Collaborators) : Prop :=
  ∀ load, c.loader = some load → ∀ path e, load path = .error e → e.span = none

theorem Collaborators.loadPartial_unplaced {c : Collaborators} (h : c.Unplaced) (path : String) :
    Stencil.Unplaced (c.loadPartial path) := by
  unfold Collaborators.loadPartial
  split
  · simp
  · next load hload =>
    split
    · simp
    · next e he =>
      intro e' h'
      cases h'
      exact h load hload path e he
    · simp
    · simp

/-- A store of partials answers only with errors it makes itself, which have no
place: a missing partial, or a partial that does not parse. -/
theorem PartialStore.loader_unplaced (s : PartialStore) : ∀ path e, s.loader path = .error e → e.span = none := by
  intro path e h
  unfold PartialStore.loader PartialStore.load at h
  split at h
  · cases h
  · split at h
    · cases h
    · next err fetched =>
      simp only [LoadReply.ofResult] at h
      unfold PartialStore.fetch at fetched
      split at fetched
      · cases fetched
        cases h
        rfl
      · unfold PartialStore.parsePartial at fetched
        split at fetched
        · cases fetched
        · cases fetched
          cases h
          rfl
        · cases fetched
          cases h

/-! ## Sites -/

/-- A place in a template where a render can fail on its own, rather than pass on the
failure of a part. -/
inductive Site where
  /-- The step of an expression itself, once its parts have values. -/
  | step (e : Expr)
  /-- The text of the value of an output tag's expression. -/
  | text (e : Expr)
  /-- The condition of an `if` or an `elsif`, which must be a Bool. -/
  | condition (c : Expr)
  /-- The iterable of a `for`, which must be a List. -/
  | iterable (e : Expr)
  /-- The elements of a `for`, each of which must unpack into its variables. -/
  | unpack (span : Span) (targets : List String) (iterable : Expr)

namespace Site

/-- The span an error at the site is placed at: the expression's, or the loop's for
an element that does not unpack. -/
def span : Site → Span
  | .step e | .text e | .condition e | .iterable e => e.span
  | .unpack span _ _ => span

end Site

mutual

/-- The sites of an expression: its own step, then the sites of its parts. -/
def Expr.sites : Expr → List Site
  | .literal span v => [.step (.literal span v)]
  | .identifier span name => [.step (.identifier span name)]
  | .list span elements => .step (.list span elements) :: Expr.sitesAll elements
  | .negate span operand => .step (.negate span operand) :: operand.sites
  | .compare span op left right => .step (.compare span op left right) :: (left.sites ++ right.sites)
  | .method span object name arguments =>
    .step (.method span object name arguments) :: (object.sites ++ Expr.sitesAll arguments)
  | .position span object slot => .step (.position span object slot) :: object.sites
  | .index span object key => .step (.index span object key) :: (object.sites ++ key.sites)
  | .call span name arguments => .step (.call span name arguments) :: Expr.sitesAll arguments

/-- The sites of expressions, in order. -/
def Expr.sitesAll : List Expr → List Site
  | [] => []
  | e :: rest => e.sites ++ Expr.sitesAll rest

end

mutual

/-- The sites of a node: those of its tag's expression, the text of an output tag, the
conditions and iterables of blocks and their bodies. -/
def Node.sites : Node → List Site
  | .text _ _ => []
  | .output _ e => .text e :: e.sites
  | .rawOutput _ e => .text e :: e.sites
  | .statement _ e => e.sites
  | .cond _ c body branches elseBody =>
    .condition c :: (c.sites ++ Node.sitesAll body ++ Branch.sitesAll branches ++
      Node.sitesElse elseBody)
  | .loop span targets iterable body =>
    .iterable iterable :: .unpack span targets iterable :: (iterable.sites ++ Node.sitesAll body)

/-- The sites of nodes, in order. -/
def Node.sitesAll : List Node → List Site
  | [] => []
  | n :: rest => n.sites ++ Node.sitesAll rest

/-- The sites of `elsif` branches: each condition and body. -/
def Branch.sitesAll : List Branch → List Site
  | [] => []
  | .mk _ c body :: rest => .condition c :: (c.sites ++ Node.sitesAll body ++ Branch.sitesAll rest)

/-- The sites of an `else` body, if there is one. -/
def Node.sitesElse : Option (List Node) → List Site
  | none => []
  | some nodes => Node.sitesAll nodes

end

/-- The sites of a template. -/
def Template.sites (t : Template) : List Site := Node.sitesAll t.nodes

theorem Expr.step_mem_sites (e : Expr) : Site.step e ∈ e.sites := by
  cases e <;> simp [Expr.sites]

namespace Renderer

/-- The step of a call of a global function fails, from a frame, with a fault: the
check of the call; for `render`, the nesting limit or the loader; for the other two,
their injector. -/
def CallFails (r : Renderer) (f : Frame) (name : String) (args : List Value) (φ : Fault) :
    Prop :=
  (∃ e, GlobalCall.ofCall name args = .error e ∧ e.fault = φ) ∨
  (∃ path, GlobalCall.ofCall name args = .ok (.render path) ∧
    ((r.config.maxPartialDepth ≤ f.depth ∧ φ = .nestingLimit path r.config.maxPartialDepth) ∨
      (f.depth < r.config.maxPartialDepth ∧
        ∃ e, r.collaborators.loadPartial path = .error e ∧ e.fault = φ))) ∨
  (GlobalCall.ofCall name args = .ok .head ∧ ∃ e, r.collaborators.headText = .error e ∧ e.fault = φ) ∨
  (∃ endpoint, GlobalCall.ofCall name args = .ok (.turbo endpoint) ∧
    ∃ e, r.collaborators.turboText endpoint = .error e ∧ e.fault = φ)

end Renderer

/-- The site's own step fails, from a frame, with a fault: the parts it reads have
values there, and what it does with them fails. -/
def Site.Fails (r : Renderer) (host : HostBindings) (f : Frame) : Site → Fault → Prop
  | .step (.literal _ v), φ => ∃ e, v.toValue = .error e ∧ e.fault = φ
  | .step (.identifier _ name), φ =>
    (f.lookup host name = none ∧ φ = .undefinedVariable name) ∨
      ∃ e, f.lookup host name = some (.error (.template e)) ∧ e.fault = φ
  | .step (.list _ _), _ => False
  | .step (.negate _ operand), φ =>
    ∃ v e, r.eval host f operand = .ok v ∧ v.negate = .error e ∧ e.fault = φ
  | .step (.compare _ _ _ _), _ => False
  | .step (.method _ object name arguments), φ =>
    ∃ v vs e, r.eval host f object = .ok v ∧ r.evalAll host f arguments = .ok vs ∧
      v.invoke name vs = .error e ∧ e.fault = φ
  | .step (.position _ object slot), φ =>
    ∃ v e, r.eval host f object = .ok v ∧ v.position slot = .error e ∧ e.fault = φ
  | .step (.index _ object key), φ =>
    ∃ v k e, r.eval host f object = .ok v ∧ r.eval host f key = .ok k ∧ v.index k = .error e ∧
      e.fault = φ
  | .step (.call _ name arguments), φ =>
    ∃ vs, r.evalAll host f arguments = .ok vs ∧ r.CallFails f name vs φ
  | .text e, φ => ∃ v err, r.eval host f e = .ok v ∧ v.text = .error err ∧ err.fault = φ
  | .condition c, φ =>
    ∃ v, r.eval host f c = .ok v ∧ (∀ b, v ≠ .bool b) ∧ φ = .conditionKind v.kind
  | .iterable e, φ =>
    ∃ v, r.eval host f e = .ok v ∧ (∀ items, v ≠ .list items) ∧ φ = .loopKind v.kind
  | .unpack _ targets iterated, φ =>
    ∃ items item, r.eval host f iterated = .ok (.list items) ∧ item ∈ items ∧
      targets.length ≠ 1 ∧ (∀ parts, item = .tuple parts → parts.length ≠ targets.length) ∧
      φ = .unpack item.kind targets.length

/-! ## The way down -/

namespace Descent

/-- The template being rendered after going down a path from `T`: the last partial
entered, or `T`. -/
def current (T : Template) : List Descent → Template
  | [] => T
  | .iteration _ :: ds => current T ds
  | .enter t :: ds => current t ds

/-- The partials entered on the way down are templates the loader gave. -/
def Loaded (r : Renderer) (ds : List Descent) : Prop :=
  ∀ t, Descent.enter t ∈ ds → ∃ path, r.collaborators.loadPartial path = .ok t

theorem current_append (T : Template) (ds ds' : List Descent) :
    current T (ds ++ ds') = current (current T ds) ds' := by
  induction ds generalizing T with
  | nil => rfl
  | cons d ds ih =>
    cases d with
    | iteration bs => exact ih T
    | enter t => exact ih t

theorem loaded_nil (r : Renderer) : Loaded r [] := by
  intro t mem
  cases mem

theorem Loaded.iteration {r : Renderer} {ds : List Descent} (h : Loaded r ds)
    (bs : List (String × Value)) : Loaded r (ds ++ [.iteration bs]) := by
  intro t mem
  rcases List.mem_append.1 mem with inner | last
  · exact h t inner
  · simp at last

theorem Loaded.enter {r : Renderer} {ds : List Descent} (h : Loaded r ds) {path : String}
    {t : Template} (loaded : r.collaborators.loadPartial path = .ok t) :
    Loaded r (ds ++ [.enter t]) := by
  intro t' mem
  rcases List.mem_append.1 mem with inner | last
  · exact h t' inner
  · simp only [List.mem_singleton, Descent.enter.injEq] at last
    exact ⟨path, last ▸ loaded⟩

end Descent

namespace Frame

theorem descend_append (f : Frame) (ds ds' : List Descent) :
    f.descend (ds ++ ds') = (f.descend ds).descend ds' := by
  induction ds generalizing f with
  | nil => rfl
  | cons d ds ih =>
    cases d with
    | iteration bs => exact ih (f.bind bs)
    | enter t => exact ih (Renderer.Frame.enter f t)

/-- The lines of a frame down a path are those of the template being rendered there. -/
theorem lines_descend {f : Frame} {U : Template} (h : f.lines = Text.lineFeedLines U.source)
    (ds : List Descent) :
    (f.descend ds).lines = Text.lineFeedLines (Descent.current U ds).source := by
  induction ds generalizing f U with
  | nil => exact h
  | cons d ds ih =>
    cases d with
    | iteration bs => exact ih h
    | enter t => exact ih rfl

end Frame

/-! ## Placing errors -/

namespace Renderer

/-- An error placed at a site of the template being rendered at that moment: down a
path of loop iterations and loaded partials from the top of `T`, the site's own step
fails with the error's fault, and the error has the site's span and the line of that
template there. -/
def PlacedError (r : Renderer) (host : HostBindings) (T : Template) (err : TemplateError) :
    Prop :=
  ∃ ds x, Descent.Loaded r ds ∧ x ∈ (Descent.current T ds).sites ∧
    x.Fails r host ((Frame.top T.source).descend ds) err.fault ∧
    err.span = some x.span ∧ err.sourceLine = ((Frame.top T.source).descend ds).lineOf x.span

variable {r : Renderer} {host : HostBindings} {T : Template}

/-- A placed error keeps its place on the way out. -/
theorem PlacedError.locate {err : TemplateError} (h : r.PlacedError host T err) (span : Span)
    (line : Option String) : r.PlacedError host T (err.locate span line) := by
  obtain ⟨ds, x, loaded, mem, fails, placedAt, sourceLine⟩ := h
  have keep : err.locate span line = err := by simp [TemplateError.locate, placedAt]
  rw [keep]
  exact ⟨ds, x, loaded, mem, fails, placedAt, sourceLine⟩

/-- An error made without a place, at a site whose own step fails with it, is placed at
the site by the renderer. -/
theorem placed_at {f : Frame} {ds : List Descent} (reached : f = (Frame.top T.source).descend ds)
    (loaded : Descent.Loaded r ds) {x : Site} (mem : x ∈ (Descent.current T ds).sites)
    {e : TemplateError} (fails : x.Fails r host f e.fault) (unplaced : e.span = none) :
    r.PlacedError host T (e.locate x.span (f.lineOf x.span)) := by
  subst reached
  have placed : e.locate x.span (((Frame.top T.source).descend ds).lineOf x.span) =
      { e with span := some x.span,
               sourceLine := ((Frame.top T.source).descend ds).lineOf x.span } := by
    simp [TemplateError.locate, unplaced]
  rw [placed]
  exact ⟨ds, x, loaded, mem, fails, rfl, rfl⟩

/-- An error the renderer makes at a site, with the site's span and line. -/
theorem placed_at_fault {f : Frame} {ds : List Descent}
    (reached : f = (Frame.top T.source).descend ds) (loaded : Descent.Loaded r ds) {x : Site}
    (mem : x ∈ (Descent.current T ds).sites) {φ : Fault} (fails : x.Fails r host f φ) :
    r.PlacedError host T (.at_ φ x.span (f.lineOf x.span)) :=
  placed_at reached loaded mem (show x.Fails r host f (TemplateError.ofFault φ).fault from fails) rfl

/-- Placing lets an engine error through only placed, and a host failure as it is. -/
theorem locate_eq_error {α : Type} {f : Frame} {span : Span} {x : Except Failure α}
    {err : TemplateError} (h : locate f span x = .error (.template err)) :
    ∃ e, x = .error (.template e) ∧ err = e.locate span (f.lineOf span) := by
  cases x with
  | ok a => cases h
  | error e =>
    cases e with
    | template e => exact ⟨e, rfl, (Failure.template.inj (Except.error.inj h)).symm⟩
    | host failure => cases h

theorem map_eq_error {ε α β : Type} {x : Except ε α} {g : α → β} {err : ε}
    (h : x.map g = .error err) : x = .error err := by
  cases x with
  | ok a => cases h
  | error e =>
    simp only [Except.map, Except.error.injEq] at h
    rw [h]

/-- An element that does not bind a loop's variables: more or fewer than one variable,
and not a tuple of as many parts; the error is placed at the loop. -/
theorem loopBindings_error {f : Frame} {span : Span} {targets : List String} {item : Value}
    {e : TemplateError} (h : loopBindings f span targets item = .error (.template e)) :
    e = .at_ (.unpack item.kind targets.length) span (f.lineOf span) ∧ targets.length ≠ 1 ∧
      ∀ parts, item = .tuple parts → parts.length ≠ targets.length := by
  unfold loopBindings at h
  split at h
  next => cases h
  next parts notSingle =>
    have several : targets.length ≠ 1 := fun one => by
      obtain ⟨t, rfl⟩ := List.length_eq_one_iff.1 one
      exact notSingle t rfl
    split at h
    next => cases h
    next differ =>
      cases h
      exact ⟨rfl, several, fun parts' same => by cases same; exact differ⟩
  next notSingle notTuple =>
    cases h
    refine ⟨rfl, fun one => ?_, fun parts same => absurd same (notTuple parts)⟩
    obtain ⟨t, rfl⟩ := List.length_eq_one_iff.1 one
    exact notSingle t rfl

/-- The text of an output tag that fails places its error, once every failure of its
expression does: at the expression, or at the tag's text. -/
theorem outputText_placed {f : Frame} {ds : List Descent}
    (reached : f = (Frame.top T.source).descend ds) (loaded : Descent.Loaded r ds) {e : Expr}
    (textSite : Site.text e ∈ (Descent.current T ds).sites)
    (evaluated : ∀ err, r.eval host f e = .error (.template err) → r.PlacedError host T err)
    {err : TemplateError} (fails : r.outputText host f e = .error (.template err)) :
    r.PlacedError host T err := by
  rw [outputText] at fails
  split at fails
  next e1 failed =>
    cases fails
    exact evaluated _ failed
  next v evaluatedTo =>
    obtain ⟨e0, lifted, rfl⟩ := locate_eq_error fails
    have body := mapError_template_eq_error lifted
    exact placed_at reached loaded textSite ⟨v, e0, evaluatedTo, body, rfl⟩
      (Value.text_unplaced v e0 body)

/-- A condition that fails places its error, once every failure of its expression does: at
the expression, or at the condition when it is not a Bool. -/
theorem condition_placed {f : Frame} {ds : List Descent}
    (reached : f = (Frame.top T.source).descend ds) (loaded : Descent.Loaded r ds) {c : Expr}
    (conditionSite : Site.condition c ∈ (Descent.current T ds).sites)
    (evaluated : ∀ err, r.eval host f c = .error (.template err) → r.PlacedError host T err)
    {err : TemplateError} (fails : r.condition host f c = .error (.template err)) :
    r.PlacedError host T err := by
  rw [condition] at fails
  split at fails
  next e1 failed =>
    cases fails
    exact evaluated _ failed
  next => cases fails
  next v notBool evaluatedTo =>
    cases fails
    exact placed_at_fault reached loaded conditionSite
      ⟨v, evaluatedTo, fun b same => notBool b same, rfl⟩

section Placement

set_option linter.unusedSectionVars false

variable (hostUnplaced : host.Unplaced) (loaderUnplaced : r.collaborators.Unplaced)
include hostUnplaced loaderUnplaced

/-- Each part of a render that fails places its error. Along the render the frame stays
the one reached from the top of `T` down a path `ds`, and the syntax stays within the
template being rendered there; a failing partial places its error inside itself, or fails
on its own step, at the nesting limit or with the loader's error. -/
theorem placed_steps : Motive.Steps r
    { eval := fun f e => ∀ ds, f = (Frame.top T.source).descend ds → Descent.Loaded r ds →
        e.sites ⊆ (Descent.current T ds).sites → ∀ err, r.eval host f e = .error (.template err) →
          r.PlacedError host T err
      evalAll := fun f es => ∀ ds, f = (Frame.top T.source).descend ds → Descent.Loaded r ds →
        Expr.sitesAll es ⊆ (Descent.current T ds).sites → ∀ err,
          r.evalAll host f es = .error (.template err) → r.PlacedError host T err
      renderPartial := fun f path => ∀ ds, f = (Frame.top T.source).descend ds →
        Descent.Loaded r ds → ∀ err, r.renderPartial host f path = .error (.template err) →
          r.PlacedError host T err ∨ (err.span = none ∧
            ((r.config.maxPartialDepth ≤ f.depth ∧
                err.fault = .nestingLimit path r.config.maxPartialDepth) ∨
              (f.depth < r.config.maxPartialDepth ∧
                ∃ e, r.collaborators.loadPartial path = .error e ∧ e.fault = err.fault)))
      renderNodes := fun f ns => ∀ ds, f = (Frame.top T.source).descend ds →
        Descent.Loaded r ds → Node.sitesAll ns ⊆ (Descent.current T ds).sites → ∀ err,
          r.renderNodes host f ns = .error (.template err) → r.PlacedError host T err
      renderNode := fun f n => ∀ ds, f = (Frame.top T.source).descend ds → Descent.Loaded r ds →
        n.sites ⊆ (Descent.current T ds).sites → ∀ err,
          r.renderNode host f n = .error (.template err) → r.PlacedError host T err
      renderBranches := fun f branches elseBody => ∀ ds, f = (Frame.top T.source).descend ds →
        Descent.Loaded r ds → Branch.sitesAll branches ⊆ (Descent.current T ds).sites →
        Node.sitesElse elseBody ⊆ (Descent.current T ds).sites → ∀ err,
          r.renderBranches host f branches elseBody = .error (.template err) →
            r.PlacedError host T err
      renderLoop := fun f span targets body items => ∀ ds iterated all,
        f = (Frame.top T.source).descend ds → Descent.Loaded r ds →
        r.eval host f iterated = .ok (.list all) →
        Site.unpack span targets iterated ∈ (Descent.current T ds).sites →
        Node.sitesAll body ⊆ (Descent.current T ds).sites → (∀ item ∈ items, item ∈ all) →
        ∀ err, r.renderLoop host f span targets body items = .error (.template err) →
          r.PlacedError host T err } where
  literal _ _ v _ reached loaded within _ fails := by
    rw [eval] at fails
    obtain ⟨e0, lifted, rfl⟩ := locate_eq_error fails
    have body := mapError_template_eq_error lifted
    exact placed_at reached loaded (within (Expr.step_mem_sites _)) ⟨e0, body, rfl⟩
      (Literal.toValue_unplaced v e0 body)
  identifier f _ _ _ reached loaded within _ fails := by
    have here := within (Expr.step_mem_sites _)
    rw [eval] at fails
    obtain ⟨e0, body, rfl⟩ := locate_eq_error fails
    split at body
    next result found =>
      subst body
      exact placed_at reached loaded here (.inr ⟨e0, found, rfl⟩)
        (Frame.lookup_unplaced hostUnplaced f found)
    next missing =>
      cases body
      exact placed_at reached loaded here (.inl ⟨missing, rfl⟩) rfl
  list _ _ _ elements ds reached loaded within _ fails := by
    obtain ⟨-, parts⟩ := List.cons_subset.1 (by simpa only [Expr.sites] using within)
    rw [eval] at fails
    obtain ⟨e0, body, rfl⟩ := locate_eq_error fails
    split at body
    next => cases body
    next e1 failed =>
      cases body
      exact (elements ds reached loaded parts _ failed).locate _ _
  negate _ _ _ operand ds reached loaded within _ fails := by
    obtain ⟨here, parts⟩ := List.cons_subset.1 (by simpa only [Expr.sites] using within)
    rw [eval] at fails
    obtain ⟨e0, body, rfl⟩ := locate_eq_error fails
    split at body
    next v evaluated =>
      have body := mapError_template_eq_error body
      exact placed_at reached loaded here ⟨v, e0, evaluated, body, rfl⟩
        (Value.negate_unplaced v e0 body)
    next e1 failed =>
      cases body
      exact (operand ds reached loaded parts _ failed).locate _ _
  compare _ _ _ _ _ left right ds reached loaded within _ fails := by
    obtain ⟨-, parts⟩ := List.cons_subset.1 (by simpa only [Expr.sites] using within)
    obtain ⟨leftWithin, rightWithin⟩ := List.append_subset.1 parts
    rw [eval] at fails
    obtain ⟨e0, body, rfl⟩ := locate_eq_error fails
    split at body
    next e1 failed =>
      cases body
      exact (left ds reached loaded leftWithin _ failed).locate _ _
    next a _ =>
      split at body
      next e1 failed =>
        cases body
        exact (right ds reached loaded rightWithin _ failed).locate _ _
      next => cases body
  method _ _ _ name _ object arguments ds reached loaded within _ fails := by
    obtain ⟨here, parts⟩ := List.cons_subset.1 (by simpa only [Expr.sites] using within)
    obtain ⟨objectWithin, argumentsWithin⟩ := List.append_subset.1 parts
    rw [eval] at fails
    obtain ⟨e0, body, rfl⟩ := locate_eq_error fails
    split at body
    next e1 failed =>
      cases body
      exact (object ds reached loaded objectWithin _ failed).locate _ _
    next v evaluated =>
      split at body
      next e1 failed =>
        cases body
        exact (arguments ds reached loaded argumentsWithin _ failed).locate _ _
      next vs evaluatedAll =>
        have body := mapError_template_eq_error body
        exact placed_at reached loaded here ⟨v, vs, e0, evaluated, evaluatedAll, body, rfl⟩
          (Value.invoke_unplaced v name vs e0 body)
  position _ _ _ slot object ds reached loaded within _ fails := by
    obtain ⟨here, parts⟩ := List.cons_subset.1 (by simpa only [Expr.sites] using within)
    rw [eval] at fails
    obtain ⟨e0, body, rfl⟩ := locate_eq_error fails
    split at body
    next e1 failed =>
      cases body
      exact (object ds reached loaded parts _ failed).locate _ _
    next v evaluated =>
      have body := mapError_template_eq_error body
      exact placed_at reached loaded here ⟨v, e0, evaluated, body, rfl⟩
        (Value.position_unplaced v slot e0 body)
  index _ _ _ _ object key ds reached loaded within _ fails := by
    obtain ⟨here, parts⟩ := List.cons_subset.1 (by simpa only [Expr.sites] using within)
    obtain ⟨objectWithin, keyWithin⟩ := List.append_subset.1 parts
    rw [eval] at fails
    obtain ⟨e0, body, rfl⟩ := locate_eq_error fails
    split at body
    next e1 failed =>
      cases body
      exact (object ds reached loaded objectWithin _ failed).locate _ _
    next v evaluated =>
      split at body
      next e1 failed =>
        cases body
        exact (key ds reached loaded keyWithin _ failed).locate _ _
      next k evaluatedKey =>
        have body := mapError_template_eq_error body
        exact placed_at reached loaded here ⟨v, k, e0, evaluated, evaluatedKey, body, rfl⟩
          (Value.index_unplaced v k e0 body)
  call _ _ name _ arguments partials ds reached loaded within _ fails := by
    obtain ⟨here, parts⟩ := List.cons_subset.1 (by simpa only [Expr.sites] using within)
    rw [eval] at fails
    obtain ⟨e0, body, rfl⟩ := locate_eq_error fails
    split at body
    next e1 failed =>
      cases body
      exact (arguments ds reached loaded parts _ failed).locate _ _
    next vs evaluated =>
      split at body
      next e1 refused =>
        cases body
        exact placed_at reached loaded here ⟨vs, evaluated, .inl ⟨e0, refused, rfl⟩⟩
          (GlobalCall.ofCall_unplaced name vs e0 refused)
      next path isRender =>
        split at body
        next => cases body
        next e1 partialFails =>
          cases body
          rcases partials path ds reached loaded _ partialFails with placed | ⟨unplaced, own⟩
          · exact placed.locate _ _
          · exact placed_at reached loaded here ⟨vs, evaluated, .inr (.inl ⟨path, isRender, own⟩)⟩
              unplaced
      next isHead =>
        have refused := map_eq_error (mapError_template_eq_error body)
        exact placed_at reached loaded here
          ⟨vs, evaluated, .inr (.inr (.inl ⟨isHead, e0, refused, rfl⟩))⟩
          (Collaborators.headText_unplaced _ e0 refused)
      next endpoint isTurbo =>
        have refused := map_eq_error (mapError_template_eq_error body)
        exact placed_at reached loaded here
          ⟨vs, evaluated, .inr (.inr (.inr ⟨endpoint, isTurbo, e0, refused, rfl⟩))⟩
          (Collaborators.turboText_unplaced _ endpoint e0 refused)
  evalNil _ _ _ _ _ _ fails := by
    rw [evalAll] at fails
    cases fails
  evalCons _ _ _ first rest ds reached loaded within _ fails := by
    obtain ⟨firstWithin, others⟩ :=
      List.append_subset.1 (by simpa only [Expr.sitesAll] using within)
    rw [evalAll] at fails
    split at fails
    next e1 failed =>
      cases fails
      exact first ds reached loaded firstWithin _ failed
    next v _ =>
      split at fails
      next e1 failed =>
        cases fails
        exact rest ds reached loaded others _ failed
      next => cases fails
  enter f path inner ds reached loaded err fails := by
    by_cases below : f.depth < r.config.maxPartialDepth
    · rw [renderPartial_below_limit r host below] at fails
      cases found : r.collaborators.loadPartial path with
      | error e =>
        rw [found] at fails
        cases fails
        exact .inr ⟨Collaborators.loadPartial_unplaced loaderUnplaced path err found,
          .inr ⟨below, err, rfl, rfl⟩⟩
      | ok t =>
        rw [found] at fails
        have failed : r.renderNodes host (Frame.enter f t) t.nodes = .error (.template err) := fails
        -- the partial is rendered one level deeper, and is now the template being rendered
        have deeper : Frame.enter f t = (Frame.top T.source).descend (ds ++ [.enter t]) := by
          rw [Frame.descend_append, ← reached]
          rfl
        have within : Node.sitesAll t.nodes ⊆ (Descent.current T (ds ++ [.enter t])).sites := by
          rw [Descent.current_append]
          exact List.Subset.refl _
        exact .inl (inner below t _ deeper (loaded.enter found) within err failed)
    · have limit := Nat.le_of_not_lt below
      rw [renderPartial_at_limit r host limit] at fails
      cases fails
      exact .inr ⟨rfl, .inl ⟨limit, rfl⟩⟩
  nodesNil _ _ _ _ _ _ fails := by
    rw [renderNodes] at fails
    cases fails
  nodesCons _ _ _ first rest ds reached loaded within _ fails := by
    obtain ⟨firstWithin, others⟩ :=
      List.append_subset.1 (by simpa only [Node.sitesAll] using within)
    rw [renderNodes] at fails
    split at fails
    next e1 failed =>
      cases fails
      exact first ds reached loaded firstWithin _ failed
    next a _ =>
      split at fails
      next e1 failed =>
        cases fails
        exact rest ds reached loaded others _ failed
      next => cases fails
  text _ _ _ _ _ _ _ _ fails := by
    rw [renderNode] at fails
    cases fails
  output _ _ _ e ds reached loaded within _ fails := by
    obtain ⟨textSite, parts⟩ := List.cons_subset.1 (by simpa only [Node.sites] using within)
    rw [renderNode] at fails
    split at fails
    next e1 failed =>
      cases fails
      exact outputText_placed reached loaded textSite (e ds reached loaded parts) failed
    next => cases fails
  rawOutput _ _ _ e ds reached loaded within _ fails := by
    obtain ⟨textSite, parts⟩ := List.cons_subset.1 (by simpa only [Node.sites] using within)
    rw [renderNode] at fails
    split at fails
    next e1 failed =>
      cases fails
      exact outputText_placed reached loaded textSite (e ds reached loaded parts) failed
    next => cases fails
  statement _ _ _ e ds reached loaded within _ fails := by
    rw [renderNode] at fails
    split at fails
    next e1 failed =>
      cases fails
      exact e ds reached loaded (by simpa only [Node.sites] using within) _ failed
    next => cases fails
  cond _ _ _ _ _ _ c body branches ds reached loaded within _ fails := by
    obtain ⟨conditionSite, parts⟩ := List.cons_subset.1 (by simpa only [Node.sites] using within)
    obtain ⟨parts, elseWithin⟩ := List.append_subset.1 parts
    obtain ⟨parts, branchesWithin⟩ := List.append_subset.1 parts
    obtain ⟨conditionWithin, bodyWithin⟩ := List.append_subset.1 parts
    rw [renderNode] at fails
    split at fails
    next e1 failed =>
      cases fails
      exact condition_placed reached loaded conditionSite (c ds reached loaded conditionWithin)
        failed
    next => exact body ds reached loaded bodyWithin _ fails
    next => exact branches ds reached loaded branchesWithin elseWithin _ fails
  loop _ _ _ _ _ iterable iterations ds reached loaded within _ fails := by
    obtain ⟨iterableSite, parts⟩ := List.cons_subset.1 (by simpa only [Node.sites] using within)
    obtain ⟨unpackSite, parts⟩ := List.cons_subset.1 parts
    obtain ⟨iteratedWithin, bodyWithin⟩ := List.append_subset.1 parts
    rw [renderNode] at fails
    split at fails
    next e1 failed =>
      cases fails
      exact iterable ds reached loaded iteratedWithin _ failed
    next items evaluated =>
      exact iterations items ds _ items reached loaded evaluated unpackSite bodyWithin
        (fun _ mem => mem) _ fails
    next v notList evaluated =>
      cases fails
      exact placed_at_fault reached loaded iterableSite
        ⟨v, evaluated, fun items same => notList items same, rfl⟩
  elseBody _ _ nodes ds reached loaded _ elseWithin _ fails := by
    rw [renderBranches] at fails
    exact nodes ds reached loaded elseWithin _ fails
  noElse _ _ _ _ _ _ _ fails := by
    rw [renderBranches] at fails
    cases fails
  branch _ _ _ _ _ _ c body rest ds reached loaded within elseWithin _ fails := by
    obtain ⟨conditionSite, parts⟩ :=
      List.cons_subset.1 (by simpa only [Branch.sitesAll] using within)
    obtain ⟨parts, restWithin⟩ := List.append_subset.1 parts
    obtain ⟨conditionWithin, bodyWithin⟩ := List.append_subset.1 parts
    rw [renderBranches] at fails
    split at fails
    next e1 failed =>
      cases fails
      exact condition_placed reached loaded conditionSite (c ds reached loaded conditionWithin)
        failed
    next => exact body ds reached loaded bodyWithin _ fails
    next => exact rest ds reached loaded restWithin elseWithin _ fails
  loopNil _ _ _ _ _ _ _ _ _ _ _ _ _ _ fails := by
    rw [renderLoop] at fails
    cases fails
  loopCons f _ _ nodes item _ body rest ds iterated all reached loaded iterates unpackSite bodyWithin
      inAll _ fails := by
    rw [renderLoop] at fails
    split at fails
    next e1 refused =>
      cases fails
      obtain ⟨rfl, several, parts⟩ := loopBindings_error refused
      exact placed_at_fault reached loaded unpackSite
        ⟨all, item, iterates, inAll item (List.mem_cons_self ..), several, parts, rfl⟩
    next bs _ =>
      split at fails
      next e1 failed =>
        cases fails
        -- an iteration is one step further down, in the same template
        have iteration : f.bind bs = (Frame.top T.source).descend (ds ++ [.iteration bs]) := by
          rw [Frame.descend_append, ← reached]
          rfl
        have within : Node.sitesAll nodes ⊆ (Descent.current T (ds ++ [.iteration bs])).sites := by
          rw [Descent.current_append]
          exact bodyWithin
        exact body bs _ iteration (loaded.iteration bs) within _ failed
      next a _ =>
        split at fails
        next e1 failed =>
          cases fails
          exact rest ds iterated all reached loaded iterates unpackSite bodyWithin
            (fun x mem => inAll x (List.mem_cons_of_mem _ mem)) _ failed
        next => cases fails

end Placement

/-- Every error a render ends with is placed where evaluation failed. Down some path of
loop iterations and partials the loader gave, from the top of the template, it is at a
site of the template being rendered at that moment (the template, or the partial it was
in), whose own step fails there with the error's fault: a literal, a name, a negation,
a method, a position, an index or a global call, the text of an output tag, an `if` or
`elsif` condition, a `for` iterable or element. The error's span is the site's, and its
source line is that template's line where the span starts. This holds when the host's
supplier and the loader give no error already placed, as bindings given as data and a
store of partials do. -/
theorem render_error_site {r : Renderer} {host : HostBindings} {T : Template}
    {err : TemplateError} (hostUnplaced : host.Unplaced) (loaderUnplaced : r.collaborators.Unplaced)
    (fails : r.render host T = .error (.template err)) :
    ∃ (ds : List Descent) (x : Site), Descent.Loaded r ds ∧ x ∈ (Descent.current T ds).sites ∧
      x.Fails r host ((Frame.top T.source).descend ds) err.fault ∧
      err.diagnostic.span = some x.span ∧
      err.diagnostic.sourceLine =
        Text.lineAt? (Text.lineFeedLines (Descent.current T ds).source) x.span.start.line := by
  rw [render] at fails
  obtain ⟨ds, x, loaded, mem, own, placedAt, line⟩ :=
    (placed_steps hostUnplaced loaderUnplaced).renderNodes _ T.nodes []
      (show Frame.top T.source = (Frame.top T.source).descend [] from rfl) (Descent.loaded_nil r)
      (List.Subset.refl _) err (map_eq_error fails)
  refine ⟨ds, x, loaded, mem, own, placedAt, ?_⟩
  show err.sourceLine = _
  rw [line, Frame.lineOf, Frame.lines_descend rfl]

/-- A template that renders the partial `p`, in which `y` is undefined: the error is
placed at `y`, in the partial, with the partial's line. -/
theorem render_error_site_partial :
    let span : Span := ⟨⟨1, 5, 4, some "p"⟩, ⟨1, 6, 5, some "p"⟩⟩
    let p : Template := ⟨some "p", [.output default (.identifier span "y")], default, "<%= y %>"⟩
    let r : Renderer := { collaborators := { loader := some fun _ => .template p } }
    let T : Template :=
      ⟨none, [.output default (.call default "render" [.literal default (.str "p")])], default,
        "<%= render(\"p\") %>"⟩
    ∃ err, r.render .empty T = .error (.template err) ∧ err.fault = .undefinedVariable "y" ∧
      ∃ (ds : List Descent) (x : Site), Descent.Loaded r ds ∧ x ∈ (Descent.current T ds).sites ∧
        x.Fails r .empty ((Frame.top T.source).descend ds) err.fault ∧
        err.diagnostic.span = some x.span ∧
        err.diagnostic.sourceLine =
          Text.lineAt? (Text.lineFeedLines (Descent.current T ds).source) x.span.start.line := by
  intro span p r T
  have undefined : r.eval .empty (Frame.enter (Frame.top T.source) p) (.identifier span "y") =
      .error (.at_ (.undefinedVariable "y") span ((Frame.enter (Frame.top T.source) p).lineOf span)) := by
    rw [eval]
    rfl
  have arg : r.eval .empty (Frame.top T.source) (.literal default (.str "p")) = .ok (.str "p") := by
    rw [eval]
    rfl
  have inPartial : r.renderNodes .empty (Frame.enter (Frame.top T.source) p) p.nodes =
      .error (.at_ (.undefinedVariable "y") span ((Frame.enter (Frame.top T.source) p).lineOf span)) := by
    show r.renderNodes _ _ [.output default (.identifier span "y")] = _
    rw [renderNodes, renderNode, outputText, undefined]
  have loaded : r.collaborators.loadPartial "p" = .ok p := rfl
  have fails : r.render .empty T =
      .error (.at_ (.undefinedVariable "y") span ((Frame.enter (Frame.top T.source) p).lineOf span)) := by
    rw [render, renderNodes, renderNode, outputText, show "render" = GlobalCall.renderName from rfl,
      eval_render_below_limit r .empty (by decide) arg, loaded]
    simp only [Except.mapError, bind, Except.bind]
    rw [inPartial]
    rfl
  have loaderUnplaced : r.collaborators.Unplaced := by
    intro load found path e answered
    cases found
    cases answered
  exact ⟨_, fails, rfl, render_error_site HostBindings.unplaced_empty loaderUnplaced fails⟩

end Renderer

end Stencil
