import Mathlib
import Stencil.Proofs.RenderInduction

/-!
# The nesting limit of partials

A call of `render(path)` is checked against the nesting limit before the loader is
asked. At a depth at or beyond the limit it fails with the nesting-limit error, and
what the loader would answer plays no part; below the limit the loader is asked, and
the partial is rendered one level deeper (`eval_render_at_limit`,
`eval_render_below_limit`).

So from a frame at the limit nothing a render does depends on the loader
(`renderNodes_withLoader`): partials are rendered at the depths from `1` to the limit
only, and a limit of `0` renders none. A set of partials each of which opens by
rendering one of the set (a partial that renders itself is such a set) ends in the
nesting-limit error from every depth (`renderPartial_of_closed`).

That a render ends, for every loader, is the definition itself: its measure is the
number of levels left below the limit, then the size of the syntax. Nor does a
partial change the depth of its caller: a frame is a value, and the caller goes on
from its own.
-/

namespace Stencil

namespace TemplateError

/-- Placing an error never changes what went wrong. -/
@[simp] theorem locate_fault (e : TemplateError) (span : Span) (line : Option String) :
    (e.locate span line).fault = e.fault := by
  unfold locate
  split <;> rfl

end TemplateError

namespace Renderer

/-- The renderer with another partial loader, its settings and other services as
they are. -/
def withLoader (r : Renderer) (loader : Option (String → LoadReply)) : Renderer :=
  { r with collaborators := { r.collaborators with loader := loader } }

@[simp] theorem withLoader_config (r : Renderer) (loader : Option (String → LoadReply)) :
    (r.withLoader loader).config = r.config := rfl

@[simp] theorem withLoader_escape (r : Renderer) (loader : Option (String → LoadReply)) :
    (r.withLoader loader).collaborators.escape = r.collaborators.escape := rfl

@[simp] theorem withLoader_headText (r : Renderer) (loader : Option (String → LoadReply)) :
    (r.withLoader loader).collaborators.headText = r.collaborators.headText := rfl

@[simp] theorem withLoader_turboText (r : Renderer) (loader : Option (String → LoadReply)) :
    (r.withLoader loader).collaborators.turboText = r.collaborators.turboText := rfl

@[simp] theorem withLoader_loadPartial (r : Renderer) (loader : Option (String → LoadReply)) :
    (r.withLoader loader).collaborators.loadPartial =
      { r.collaborators with loader := loader }.loadPartial := rfl

@[simp] theorem locate_template {α : Type} (f : Frame) (span : Span) (e : TemplateError) :
    (locate f span (.error (.template e) : Except Failure α)) =
      .error (.template (e.locate span (f.lineOf span))) :=
  rfl

@[simp] theorem locate_host {α : Type} (f : Frame) (span : Span) (h : HostFailure) :
    (locate f span (.error (.host h) : Except Failure α)) = .error (.host h) :=
  rfl

@[simp] theorem locate_ok {α : Type} (f : Frame) (span : Span) (a : α) :
    (locate f span (.ok a : Except Failure α)) = .ok a :=
  rfl

variable (r : Renderer) (host : HostBindings)

/-- At or beyond the nesting limit a partial fails before its loader is asked. -/
theorem renderPartial_at_limit {f : Frame} (limit : r.config.maxPartialDepth ≤ f.depth)
    (path : String) :
    r.renderPartial host f path =
      .error (.ofFault (.nestingLimit path r.config.maxPartialDepth)) := by
  rw [renderPartial, if_neg (Nat.not_lt.2 limit)]

/-- Below the nesting limit a partial is loaded and rendered one level deeper. -/
theorem renderPartial_below_limit {f : Frame} (below : f.depth < r.config.maxPartialDepth)
    (path : String) :
    r.renderPartial host f path =
      ((r.collaborators.loadPartial path).mapError .template >>= fun t =>
        r.renderNodes host (Frame.enter f t) t.nodes) := by
  rw [renderPartial, if_pos below]
  cases r.collaborators.loadPartial path <;> rfl

section Loader

variable (load : Option (String → LoadReply))

/-- From a frame at the nesting limit, every part of a render is the same with any
loader: no partial is entered, so every frame reached stays at the limit. -/
theorem withLoader_steps : Motive.Steps r
    { eval := fun f e => r.config.maxPartialDepth ≤ f.depth →
        (r.withLoader load).eval host f e = r.eval host f e
      evalAll := fun f es => r.config.maxPartialDepth ≤ f.depth →
        (r.withLoader load).evalAll host f es = r.evalAll host f es
      renderPartial := fun f path => r.config.maxPartialDepth ≤ f.depth →
        (r.withLoader load).renderPartial host f path = r.renderPartial host f path
      renderNodes := fun f ns => r.config.maxPartialDepth ≤ f.depth →
        (r.withLoader load).renderNodes host f ns = r.renderNodes host f ns
      renderNode := fun f n => r.config.maxPartialDepth ≤ f.depth →
        (r.withLoader load).renderNode host f n = r.renderNode host f n
      renderBranches := fun f branches elseBody => r.config.maxPartialDepth ≤ f.depth →
        (r.withLoader load).renderBranches host f branches elseBody =
          r.renderBranches host f branches elseBody
      renderLoop := fun f span targets body items => r.config.maxPartialDepth ≤ f.depth →
        (r.withLoader load).renderLoop host f span targets body items =
          r.renderLoop host f span targets body items } where
  literal _ _ _ _ := by rw [eval, eval]
  identifier _ _ _ _ := by rw [eval, eval]
  list _ _ _ elements limit := by rw [eval, eval, elements limit]
  negate _ _ _ operand limit := by rw [eval, eval, operand limit]
  compare _ _ _ _ _ left right limit := by rw [eval, eval, left limit, right limit]
  method _ _ _ _ _ object arguments limit := by rw [eval, eval, object limit, arguments limit]
  position _ _ _ _ object limit := by rw [eval, eval, object limit]
  index _ _ _ _ object key limit := by rw [eval, eval, object limit, key limit]
  call _ _ _ _ arguments partials limit := by
    simp only [eval, arguments limit, partials _ limit, withLoader_headText, withLoader_turboText]
  evalNil _ _ := by rw [evalAll, evalAll]
  evalCons _ _ _ first rest limit := by rw [evalAll, evalAll, first limit, rest limit]
  enter _ path _ limit := by
    rw [renderPartial_at_limit _ _ (by simpa using limit), renderPartial_at_limit _ _ limit,
      withLoader_config]
  nodesNil _ _ := by rw [renderNodes, renderNodes]
  nodesCons _ _ _ first rest limit := by rw [renderNodes, renderNodes, first limit, rest limit]
  text _ _ _ _ := by rw [renderNode, renderNode]
  output _ _ _ e limit := by
    rw [renderNode, renderNode, outputText, outputText, e limit, withLoader_config,
      withLoader_escape]
  rawOutput _ _ _ e limit := by rw [renderNode, renderNode, outputText, outputText, e limit]
  statement _ _ _ e limit := by rw [renderNode, renderNode, e limit]
  cond _ _ _ _ _ _ c body branches limit := by
    rw [renderNode, renderNode, condition, condition, c limit, body limit, branches limit]
  loop _ _ _ _ _ iterable iterations limit := by
    simp only [renderNode, iterable limit, fun items => iterations items limit]
  elseBody _ _ nodes limit := by rw [renderBranches, renderBranches, nodes limit]
  noElse _ _ := by rw [renderBranches, renderBranches]
  branch _ _ _ _ _ _ c body rest limit := by
    rw [renderBranches, renderBranches, condition, condition, c limit, body limit, rest limit]
  loopNil _ _ _ _ _ := by rw [renderLoop, renderLoop]
  loopCons _ _ _ _ _ _ body rest limit := by
    simp only [renderLoop, fun bs => body bs (by simpa using limit), rest limit]

/-- From a frame at the nesting limit, rendering nodes is the same with any loader. -/
theorem renderNodes_withLoader {f : Frame} (limit : r.config.maxPartialDepth ≤ f.depth)
    (ns : List Node) : (r.withLoader load).renderNodes host f ns = r.renderNodes host f ns :=
  (withLoader_steps r host load).renderNodes f ns limit

end Loader

/-- With a nesting limit of `0`, a template renders the same with any loader, so it
renders no partial. -/
theorem render_withLoader_of_zero (zero : r.config.maxPartialDepth = 0)
    (load : Option (String → LoadReply)) (t : Template) :
    (r.withLoader load).render host t = r.render host t := by
  have limit : r.config.maxPartialDepth ≤ (Frame.top t.source).depth := by
    rw [zero]
    exact Nat.zero_le _
  rw [render, render, renderNodes_withLoader r host load limit]

/-! ## A call of `render` -/

/-- The one argument of a call, evaluated. -/
theorem evalAll_singleton {f : Frame} {a : Expr} {v : Value} (arg : r.eval host f a = .ok v) :
    r.evalAll host f [a] = .ok [v] := by
  rw [evalAll, arg, evalAll]

theorem ofCall_render (path : String) :
    GlobalCall.ofCall GlobalCall.renderName [.str path] = .ok (.render path) := rfl

/-- A call of `render` whose argument evaluates to a path, from a frame at or beyond
the nesting limit: the nesting-limit error, placed at the call. -/
theorem eval_render_at_limit {f : Frame} (limit : r.config.maxPartialDepth ≤ f.depth)
    {span : Span} {a : Expr} {path : String} (arg : r.eval host f a = .ok (.str path)) :
    r.eval host f (.call span GlobalCall.renderName [a]) =
      .error (.at_ (.nestingLimit path r.config.maxPartialDepth) span (f.lineOf span)) := by
  rw [eval, evalAll_singleton r host arg]
  simp only [ofCall_render, renderPartial_at_limit r host limit]
  rfl

/-- A call of `render` whose argument evaluates to a path, from a frame below the
nesting limit: the loader's template rendered one level deeper, its text joined. -/
theorem eval_render_below_limit {f : Frame} (below : f.depth < r.config.maxPartialDepth)
    {span : Span} {a : Expr} {path : String} (arg : r.eval host f a = .ok (.str path)) :
    r.eval host f (.call span GlobalCall.renderName [a]) =
      locate f span (((r.collaborators.loadPartial path).mapError .template >>= fun t =>
        r.renderNodes host (Frame.enter f t) t.nodes).map fun pieces => .str (String.join pieces)) := by
  rw [eval, evalAll_singleton r host arg]
  simp only [ofCall_render, renderPartial_below_limit r host below]
  cases r.collaborators.loadPartial path with
  | error e => rfl
  | ok t =>
    simp only [Except.mapError, bind, Except.bind]
    cases r.renderNodes host (Frame.enter f t) t.nodes <;> rfl

/-! ## Partials that render one another -/

end Renderer

namespace Expr

/-- The path an expression renders when it is `render` of a string literal. -/
def renderedPath? : Expr → Option String
  | .call _ name [.literal _ (.str path)] =>
    if name = GlobalCall.renderName then some path else none
  | _ => none

end Expr

namespace Node

/-- The path a tag renders when its expression is `render` of a string literal:
`<%= render("p") %>`, `<%- render("p") %>`, `<% render("p") %>` or `<%% "p" %>`. -/
def renderedPath? : Node → Option String
  | .output _ e | .rawOutput _ e | .statement _ e => e.renderedPath?
  | _ => none

/-- The path that nodes render first: after text only, a tag that renders a partial
at a literal path. -/
def opening? : List Node → Option String
  | [] => none
  | .text _ _ :: rest => opening? rest
  | n :: _ => n.renderedPath?

end Node

namespace Renderer

/-- Every partial of a set is loaded and opens by rendering a partial of the set. A
partial that opens by rendering itself is such a set, and so is a cycle of partials. -/
def RendersWithin (r : Renderer) (P : String → Prop) : Prop :=
  ∀ p, P p → ∃ t q, r.collaborators.loadPartial p = .ok t ∧ Node.opening? t.nodes = some q ∧ P q

variable {r : Renderer} {host : HostBindings}

theorem eval_of_renderedPath {f : Frame} {e : Expr} {path : String} {err : TemplateError}
    (renders : e.renderedPath? = some path)
    (fails : r.renderPartial host f path = .error (.template err)) :
    ∃ err', r.eval host f e = .error (.template err') ∧ err'.fault = err.fault := by
  match e, renders with
  | .call span name [.literal span' (.str p)], renders =>
    simp only [Expr.renderedPath?, Option.ite_none_right_eq_some, Option.some.injEq] at renders
    obtain ⟨rfl, rfl⟩ := renders
    have arg : r.eval host f (.literal span' (.str p)) = .ok (.str p) := by
      rw [eval]
      rfl
    rw [eval, evalAll_singleton r host arg]
    simp only [ofCall_render, fails]
    exact ⟨_, rfl, TemplateError.locate_fault _ _ _⟩

theorem renderNode_of_renderedPath {f : Frame} {n : Node} {path : String} {err : TemplateError}
    (renders : n.renderedPath? = some path)
    (fails : r.renderPartial host f path = .error (.template err)) :
    ∃ err', r.renderNode host f n = .error (.template err') ∧ err'.fault = err.fault := by
  cases n with
  | output span e =>
    obtain ⟨err', he, same⟩ := eval_of_renderedPath renders fails
    exact ⟨err', by rw [renderNode, outputText, he], same⟩
  | rawOutput span e =>
    obtain ⟨err', he, same⟩ := eval_of_renderedPath renders fails
    exact ⟨err', by rw [renderNode, outputText, he], same⟩
  | statement span e =>
    obtain ⟨err', he, same⟩ := eval_of_renderedPath renders fails
    exact ⟨err', by rw [renderNode, he], same⟩
  | text | cond | loop => simp [Node.renderedPath?] at renders

/-- Nodes that open by rendering a partial fail as that partial does. -/
theorem renderNodes_of_opening {f : Frame} {ns : List Node} {path : String} {err : TemplateError}
    (opens : Node.opening? ns = some path)
    (fails : r.renderPartial host f path = .error (.template err)) :
    ∃ err', r.renderNodes host f ns = .error (.template err') ∧ err'.fault = err.fault := by
  induction ns with
  | nil => simp [Node.opening?] at opens
  | cons n rest ih =>
    cases n
    case text span s =>
      obtain ⟨err', hr, same⟩ := ih opens
      exact ⟨err', by rw [renderNodes, renderNode, hr], same⟩
    all_goals
      obtain ⟨err', hn, same⟩ := renderNode_of_renderedPath opens fails
      exact ⟨err', by rw [renderNodes, hn], same⟩

/-- A partial of a set whose partials open by rendering one another fails, from every
frame, with the nesting-limit error of a partial of the set. The induction is on the
levels left below the limit: each partial renders the next one level deeper. -/
theorem renderPartial_of_closed {P : String → Prop} (closed : r.RendersWithin P) :
    ∀ (n : Nat) (f : Frame) (p : String), r.config.maxPartialDepth - f.depth = n → P p →
      ∃ q err, P q ∧ r.renderPartial host f p = .error (.template err) ∧
        err.fault = .nestingLimit q r.config.maxPartialDepth
  | 0, f, p, left, hp =>
    ⟨p, _, hp, renderPartial_at_limit r host (by omega) p, rfl⟩
  | n + 1, f, p, left, hp => by
    obtain ⟨t, q, loaded, opens, hq⟩ := closed p hp
    have deeper : r.config.maxPartialDepth - (Frame.enter f t).depth = n := by
      rw [enter_depth]
      omega
    obtain ⟨q', err, hq', inner, fault⟩ := renderPartial_of_closed closed n _ q deeper hq
    obtain ⟨err', nodes, same⟩ := renderNodes_of_opening opens inner
    refine ⟨q', err', hq', ?_, same.trans fault⟩
    rw [renderPartial_below_limit r host (by omega), loaded]
    exact nodes

/-- A template that opens by rendering a partial of such a set ends in the
nesting-limit error. -/
theorem render_of_closed {P : String → Prop} (closed : r.RendersWithin P) {t : Template}
    {p : String} (opens : Node.opening? t.nodes = some p) (hp : P p) :
    ∃ q err, P q ∧ r.render host t = .error (.template err) ∧
      err.fault = .nestingLimit q r.config.maxPartialDepth := by
  obtain ⟨q, err, hq, fails, fault⟩ := renderPartial_of_closed closed _ (Frame.top t.source) p rfl hp
  obtain ⟨err', nodes, same⟩ := renderNodes_of_opening opens fails
  exact ⟨q, err', hq, by rw [render, nodes]; rfl, same.trans fault⟩

/-- Partials nest no deeper than the limit. A call of `render` whose argument
evaluates to a path fails with the nesting-limit error, placed at the call, exactly
from a frame at or beyond the limit, and there without the loader; from below it the
loader's template is rendered one level deeper. From a frame at the limit a render is
the same with any loader, so a limit of `0` renders no partial. A template that opens
by rendering a partial of a set whose partials open by rendering one another, a
partial that renders itself among them, ends in the nesting-limit error. -/
theorem partial_nesting_bounded (r : Renderer) (host : HostBindings) :
    (∀ (f : Frame) (span : Span) (a : Expr) (path : String),
      r.eval host f a = .ok (.str path) →
      r.eval host f (.call span GlobalCall.renderName [a]) =
        if r.config.maxPartialDepth ≤ f.depth then
          .error (.at_ (.nestingLimit path r.config.maxPartialDepth) span (f.lineOf span))
        else
          locate f span (((r.collaborators.loadPartial path).mapError .template >>= fun t =>
            r.renderNodes host (Frame.enter f t) t.nodes).map fun pieces =>
              .str (String.join pieces))) ∧
    (∀ (f : Frame) (load : Option (String → LoadReply)) (ns : List Node),
      r.config.maxPartialDepth ≤ f.depth →
      (r.withLoader load).renderNodes host f ns = r.renderNodes host f ns) ∧
    (r.config.maxPartialDepth = 0 →
      ∀ (load : Option (String → LoadReply)) (t : Template),
        (r.withLoader load).render host t = r.render host t) ∧
    (∀ (P : String → Prop) (t : Template) (p : String),
      r.RendersWithin P → Node.opening? t.nodes = some p → P p →
      ∃ q err, P q ∧ r.render host t = .error (.template err) ∧ err.errorClass = .recursionLimit ∧
        err.fault = .nestingLimit q r.config.maxPartialDepth) := by
  refine ⟨fun f span a path arg => ?_, fun f load ns limit => renderNodes_withLoader r host load limit ns,
    fun zero load t => render_withLoader_of_zero r host zero load t,
    fun P t p closed opens hp => ?_⟩
  · split
    next limit => exact eval_render_at_limit r host limit arg
    next below => exact eval_render_below_limit r host (Nat.lt_of_not_le below) arg
  · obtain ⟨q, err, hq, fails, fault⟩ := render_of_closed closed opens hp
    exact ⟨q, err, hq, fails, by rw [TemplateError.errorClass, fault]; rfl, fault⟩

/-- A partial `p` that renders itself, rendered from a template that renders it: the
render ends in the nesting-limit error of `p` at the default limit of `32`. -/
theorem partial_nesting_bounded_self :
    ({ collaborators := { loader := some fun _ => .template ⟨some "p",
        [.output default (.call default "render" [.literal default (.str "p")])], default,
        "<%= render(\"p\") %>"⟩ } } : Renderer).RendersWithin (· = "p") ∧
    Node.opening? [.output default (.call default "render" [.literal default (.str "p")])] =
      some "p" ∧
    ∃ q err, q = "p" ∧
      ({ collaborators := { loader := some fun _ => .template ⟨some "p",
        [.output default (.call default "render" [.literal default (.str "p")])], default,
        "<%= render(\"p\") %>"⟩ } } : Renderer).render .empty
        ⟨none, [.output default (.call default "render" [.literal default (.str "p")])], default,
          "<%= render(\"p\") %>"⟩ = .error (.template err) ∧
      err.errorClass = .recursionLimit ∧ err.fault = .nestingLimit q 32 :=
  have closed : ({ collaborators := { loader := some fun _ => .template ⟨some "p",
      [.output default (.call default "render" [.literal default (.str "p")])], default,
      "<%= render(\"p\") %>"⟩ } } : Renderer).RendersWithin (· = "p") :=
    fun _ _ => ⟨_, "p", rfl, by decide, rfl⟩
  ⟨closed, by decide, (partial_nesting_bounded _ .empty).2.2.2 (· = "p") _ "p" closed (by decide) rfl⟩

end Renderer

end Stencil
