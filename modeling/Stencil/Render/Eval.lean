import Stencil.Config
import Stencil.Render.Bindings
import Stencil.Render.Collaborators
import Stencil.Value.Method
import Stencil.Value.Access

/-!
# Rendering

A renderer walks a parsed template left to right, depth first, and writes the
text of its nodes:

* a text node writes itself;
* an output tag writes the text of its expression (`Value.text`), escaped when
  autoescaping is on; a raw output tag writes it as it is; a statement tag
  evaluates its expression and writes nothing;
* an `if` writes the body of the first condition that holds, `elsif` branches in
  order, or the `else` body; every condition evaluated must be a Bool;
* a `for` evaluates its iterable, which must be a List, and writes its body once
  per element, with the loop variables bound to the element (or, for several
  variables, to the parts of a tuple of as many parts).

Expressions are evaluated left to right: the object of a method before its
arguments, the arguments in order, the left side of a comparison before the
right. A call of `render(path)` renders the partial at `path` one level deeper,
seeing the loop variables in force; the nesting limit is checked before the
loader is asked, so a partial that renders itself ends in an error.

Rendering is all or nothing: the first error ends it. An error is placed at the
innermost expression whose own step failed, with the line of the template being
rendered at that moment (the partial, inside a partial). A condition that is not
a Bool is placed at the condition, an iterable that is not a List at the
iterable, an element that cannot be unpacked at the loop. A failure of the host,
met when host data is turned into a value, is no error of the engine: it passes
through the render unplaced and ends it.

Rendering terminates for every loader: each partial is one level deeper, and the
levels are bounded by the nesting limit.
-/

namespace Stencil

/-- A renderer: settings and services, the same for every render. -/
structure Renderer where
  config : Config := {}
  collaborators : Collaborators := {}
  deriving Inhabited

/-- The value of a literal. -/
def Literal.toValue : Literal → Except TemplateError Value
  | .int n => Value.ofInt? n
  | .float x => .ok (.float x)
  | .str s => .ok (.str s)
  | .bool b => .ok (.bool b)
  | .nil => .ok .nil

/-- The negation of a number. -/
def Value.negate : Value → Except TemplateError Value
  | .int n => Value.ofInt? (-n)
  | .float x => .ok (.float (-x))
  | v => .error (.ofFault (.negate v.kind))

/-- The result of an equality test. -/
def Equality.test (op : Equality) (a b : Value) : Value :=
  match op with
  | .eq => .bool (a.equal b)
  | .ne => .bool (!a.equal b)

namespace Renderer

/-- Give an engine error without a place the place of a span in the frame's template; a
host failure passes as it is. -/
def locate {α : Type} (f : Frame) (span : Span) : Except Failure α → Except Failure α
  | .ok a => .ok a
  | .error (.template e) => .error (.template (e.locate span (f.lineOf span)))
  | .error (.host h) => .error (.host h)

/-- The bindings of a loop's variables to one element: a single variable takes the
element; several take the parts of a tuple with as many parts. -/
def loopBindings (f : Frame) (span : Span) (targets : List String) (item : Value) :
    Except Failure (List (String × Value)) :=
  match targets, item with
  | [t], _ => .ok [(t, item)]
  | _, .tuple parts =>
    if parts.length = targets.length then .ok (targets.zip parts)
    else .error (.at_ (.unpack item.kind targets.length) span (f.lineOf span))
  | _, _ => .error (.at_ (.unpack item.kind targets.length) span (f.lineOf span))

/-- The frame of a partial rendered from a frame. -/
def Frame.enter (f : Frame) (t : Template) : Frame :=
  { lines := Text.lineFeedLines t.source, depth := f.depth + 1, scope := f.scope }

mutual

/-- Evaluate an expression. -/
def eval (r : Renderer) (host : HostBindings) (f : Frame) : Expr → Except Failure Value
  | .literal span v => locate f span (v.toValue.mapError .template)
  | .identifier span name =>
    locate f span (match f.lookup host name with
      | some result => result
      | none => .error (.ofFault (.undefinedVariable name)))
  | .list span elements =>
    locate f span (match r.evalAll host f elements with
      | .ok vs => .ok (.list vs)
      | .error e => .error e)
  | .negate span operand =>
    locate f span (match r.eval host f operand with
      | .ok v => v.negate.mapError .template
      | .error e => .error e)
  | .compare span op left right =>
    locate f span (match r.eval host f left with
      | .error e => .error e
      | .ok a =>
        match r.eval host f right with
        | .error e => .error e
        | .ok b => .ok (op.test a b))
  | .method span object name arguments =>
    locate f span (match r.eval host f object with
      | .error e => .error e
      | .ok o =>
        match r.evalAll host f arguments with
        | .error e => .error e
        | .ok args => (o.invoke name args).mapError .template)
  | .position span object slot =>
    locate f span (match r.eval host f object with
      | .error e => .error e
      | .ok o => (o.position slot).mapError .template)
  | .index span object key =>
    locate f span (match r.eval host f object with
      | .error e => .error e
      | .ok o =>
        match r.eval host f key with
        | .error e => .error e
        | .ok k => (o.index k).mapError .template)
  | .call span name arguments =>
    locate f span (match r.evalAll host f arguments with
      | .error e => .error e
      | .ok args =>
        match GlobalCall.ofCall name args with
        | .error e => .error (.template e)
        | .ok (.render path) =>
          match r.renderPartial host f path with
          | .ok pieces => .ok (.str (String.join pieces))
          | .error e => .error e
        | .ok .head => (r.collaborators.headText.map .str).mapError .template
        | .ok (.turbo endpoint) => ((r.collaborators.turboText endpoint).map .str).mapError .template)
termination_by e => (r.config.maxPartialDepth - f.depth, sizeOf e, 0)

/-- Evaluate expressions in order. -/
def evalAll (r : Renderer) (host : HostBindings) (f : Frame) :
    List Expr → Except Failure (List Value)
  | [] => .ok []
  | e :: rest =>
    match r.eval host f e with
    | .error err => .error err
    | .ok v =>
      match r.evalAll host f rest with
      | .error err => .error err
      | .ok vs => .ok (v :: vs)
termination_by es => (r.config.maxPartialDepth - f.depth, sizeOf es, 0)

/-- Render the partial at a path, one level deeper, unless the nesting limit is
reached. -/
def renderPartial (r : Renderer) (host : HostBindings) (f : Frame) (path : String) :
    Except Failure (List String) :=
  if f.depth < r.config.maxPartialDepth then
    match r.collaborators.loadPartial path with
    | .error e => .error (.template e)
    | .ok t => r.renderNodes host (Frame.enter f t) t.nodes
  else .error (.ofFault (.nestingLimit path r.config.maxPartialDepth))
termination_by (r.config.maxPartialDepth - f.depth, 0, 0)
decreasing_by
  all_goals (simp only [Frame.enter]; apply Prod.Lex.left; omega)

/-- Render nodes in order: the pieces of text they write. -/
def renderNodes (r : Renderer) (host : HostBindings) (f : Frame) :
    List Node → Except Failure (List String)
  | [] => .ok []
  | n :: rest =>
    match r.renderNode host f n with
    | .error e => .error e
    | .ok a =>
      match r.renderNodes host f rest with
      | .error e => .error e
      | .ok b => .ok (a ++ b)
termination_by ns => (r.config.maxPartialDepth - f.depth, sizeOf ns, 0)

/-- Render one node: the pieces of text it writes. -/
def renderNode (r : Renderer) (host : HostBindings) (f : Frame) :
    Node → Except Failure (List String)
  | .text _ s => .ok [s]
  | .output _ e =>
    match r.outputText host f e with
    | .error err => .error err
    | .ok t => .ok [if r.config.autoescape then r.collaborators.escape.apply t else t]
  | .rawOutput _ e =>
    match r.outputText host f e with
    | .error err => .error err
    | .ok t => .ok [t]
  | .statement _ e =>
    match r.eval host f e with
    | .error err => .error err
    | .ok _ => .ok []
  | .cond _ c body branches elseBody =>
    match r.condition host f c with
    | .error e => .error e
    | .ok true => r.renderNodes host f body
    | .ok false => r.renderBranches host f branches elseBody
  | .loop span targets iterable body =>
    match r.eval host f iterable with
    | .error e => .error e
    | .ok (.list items) => r.renderLoop host f span targets body items
    | .ok v => .error (.at_ (.loopKind v.kind) iterable.span (f.lineOf iterable.span))
termination_by n => (r.config.maxPartialDepth - f.depth, sizeOf n, 0)

/-- The text an output tag writes for an expression. -/
def outputText (r : Renderer) (host : HostBindings) (f : Frame) (e : Expr) :
    Except Failure String :=
  match r.eval host f e with
  | .error err => .error err
  | .ok v => locate f e.span (v.text.mapError .template)
termination_by (r.config.maxPartialDepth - f.depth, sizeOf e, 1)

/-- Evaluate the condition of an `if` or an `elsif`, which must be a Bool. -/
def condition (r : Renderer) (host : HostBindings) (f : Frame) (c : Expr) :
    Except Failure Bool :=
  match r.eval host f c with
  | .error e => .error e
  | .ok (.bool b) => .ok b
  | .ok v => .error (.at_ (.conditionKind v.kind) c.span (f.lineOf c.span))
termination_by (r.config.maxPartialDepth - f.depth, sizeOf c, 1)

/-- Render the first `elsif` branch whose condition holds, or else the `else` body. -/
def renderBranches (r : Renderer) (host : HostBindings) (f : Frame) (branches : List Branch)
    (elseBody : Option (List Node)) : Except Failure (List String) :=
  match branches with
  | [] =>
    match elseBody with
    | some nodes => r.renderNodes host f nodes
    | none => .ok []
  | .mk _ c body :: rest =>
    match r.condition host f c with
    | .error e => .error e
    | .ok true => r.renderNodes host f body
    | .ok false => r.renderBranches host f rest elseBody
termination_by (r.config.maxPartialDepth - f.depth, sizeOf branches + sizeOf elseBody, 0)

/-- Render a loop's body once per element. -/
def renderLoop (r : Renderer) (host : HostBindings) (f : Frame) (span : Span)
    (targets : List String) (body : List Node) : List Value → Except Failure (List String)
  | [] => .ok []
  | item :: rest =>
    match loopBindings f span targets item with
    | .error e => .error e
    | .ok bindings =>
      match r.renderNodes host (f.bind bindings) body with
      | .error e => .error e
      | .ok a =>
        match r.renderLoop host f span targets body rest with
        | .error e => .error e
        | .ok b => .ok (a ++ b)
termination_by items => (r.config.maxPartialDepth - f.depth, sizeOf body, items.length + 1)

end

/-- Render a template with host bindings. -/
def render (r : Renderer) (host : HostBindings) (t : Template) : Except Failure String :=
  (r.renderNodes host (Frame.top t.source) t.nodes).map String.join

end Renderer

end Stencil
