import Stencil.Render.Eval

/-!
# Induction over a render

The renderer's functions call each other in one recursion: an expression evaluates its
parts, a call of `render` renders a partial one level deeper, a node renders its
expressions and its bodies, a loop renders its body once per element. The recursion ends
because each call goes down in the renderer's measure: the levels left below the nesting
limit, then the size of the syntax.

`Motive.Steps` states that recursion once, as the cases of an induction: a property of
each of the renderer's functions holds everywhere (`Motive.Steps.eval`,
`Motive.Steps.renderNodes`, ...) once each case holds given the property for the calls the
case makes. A partial is entered only below the nesting limit, at any template, and a
loop's body is rendered with its variables bound to anything. Every proof that follows a
render case by case goes through these steps, with no measure of its own.
-/

namespace Stencil

namespace Renderer

@[simp] theorem bind_depth (f : Frame) (bs : List (String × Value)) : (f.bind bs).depth = f.depth :=
  rfl

@[simp] theorem enter_depth (f : Frame) (t : Template) : (Frame.enter f t).depth = f.depth + 1 :=
  rfl

/-- The renderer's measure goes down, at one nesting level, when the size of the syntax
goes down, or stays while the rank goes down. -/
theorem measure_lt_of_size {d m n i j : Nat} (h : m < n ∨ m = n ∧ i < j) :
    Prod.Lex (· < ·) (Prod.Lex (· < ·) (· < ·)) (d, m, i) (d, n, j) := by
  rcases h with smaller | ⟨rfl, lower⟩
  · exact .right _ (.left _ _ smaller)
  · exact .right _ (.right _ lower)

/-- A property of each of the renderer's functions at each frame: evaluating an
expression, evaluating expressions in order, rendering the partial at a path, rendering
nodes, rendering one node, the `elsif` branches with the `else` body, and a loop's
iterations over elements. A function the property does not speak of is left at `True`. -/
structure Motive where
  eval : Frame → Expr → Prop := fun _ _ => True
  evalAll : Frame → List Expr → Prop := fun _ _ => True
  renderPartial : Frame → String → Prop := fun _ _ => True
  renderNodes : Frame → List Node → Prop := fun _ _ => True
  renderNode : Frame → Node → Prop := fun _ _ => True
  renderBranches : Frame → List Branch → Option (List Node) → Prop := fun _ _ _ => True
  renderLoop : Frame → Span → List String → List Node → List Value → Prop :=
    fun _ _ _ _ _ => True

/-- The cases of an induction over a render: each case of each function holds once the
property holds for the calls that case makes. A case whose property is left at `True`
holds by itself. -/
structure Motive.Steps (r : Renderer) (M : Motive) : Prop where
  literal : ∀ f span v, M.eval f (.literal span v) := by intros; trivial
  identifier : ∀ f span name, M.eval f (.identifier span name) := by intros; trivial
  list : ∀ f span elements, M.evalAll f elements → M.eval f (.list span elements) := by
    intros; trivial
  negate : ∀ f span operand, M.eval f operand → M.eval f (.negate span operand) := by
    intros; trivial
  compare : ∀ f span op left right, M.eval f left → M.eval f right →
    M.eval f (.compare span op left right) := by intros; trivial
  method : ∀ f span object name arguments, M.eval f object → M.evalAll f arguments →
    M.eval f (.method span object name arguments) := by intros; trivial
  position : ∀ f span object slot, M.eval f object → M.eval f (.position span object slot) := by
    intros; trivial
  index : ∀ f span object key, M.eval f object → M.eval f key →
    M.eval f (.index span object key) := by intros; trivial
  call : ∀ f span name arguments, M.evalAll f arguments → (∀ path, M.renderPartial f path) →
    M.eval f (.call span name arguments) := by intros; trivial
  evalNil : ∀ f, M.evalAll f [] := by intros; trivial
  evalCons : ∀ f e rest, M.eval f e → M.evalAll f rest → M.evalAll f (e :: rest) := by
    intros; trivial
  enter : ∀ f path, (f.depth < r.config.maxPartialDepth →
    ∀ t : Template, M.renderNodes (Frame.enter f t) t.nodes) → M.renderPartial f path := by
    intros; trivial
  nodesNil : ∀ f, M.renderNodes f [] := by intros; trivial
  nodesCons : ∀ f n rest, M.renderNode f n → M.renderNodes f rest →
    M.renderNodes f (n :: rest) := by intros; trivial
  text : ∀ f span s, M.renderNode f (.text span s) := by intros; trivial
  output : ∀ f span e, M.eval f e → M.renderNode f (.output span e) := by intros; trivial
  rawOutput : ∀ f span e, M.eval f e → M.renderNode f (.rawOutput span e) := by intros; trivial
  statement : ∀ f span e, M.eval f e → M.renderNode f (.statement span e) := by intros; trivial
  cond : ∀ f span c body branches elseBody, M.eval f c → M.renderNodes f body →
    M.renderBranches f branches elseBody →
    M.renderNode f (.cond span c body branches elseBody) := by intros; trivial
  loop : ∀ f span targets iterable body, M.eval f iterable →
    (∀ items, M.renderLoop f span targets body items) →
    M.renderNode f (.loop span targets iterable body) := by intros; trivial
  elseBody : ∀ f nodes, M.renderNodes f nodes → M.renderBranches f [] (some nodes) := by
    intros; trivial
  noElse : ∀ f, M.renderBranches f [] none := by intros; trivial
  branch : ∀ f span c body rest elseBody, M.eval f c → M.renderNodes f body →
    M.renderBranches f rest elseBody →
    M.renderBranches f (.mk span c body :: rest) elseBody := by intros; trivial
  loopNil : ∀ f span targets body, M.renderLoop f span targets body [] := by intros; trivial
  loopCons : ∀ f span targets body item rest,
    (∀ bindings, M.renderNodes (f.bind bindings) body) → M.renderLoop f span targets body rest →
    M.renderLoop f span targets body (item :: rest) := by intros; trivial

namespace Motive.Steps

variable {r : Renderer} {M : Motive} (h : M.Steps r)
include h

/-! The recursion is the renderer's own, on the same measure: the property for a call is
built from the property for the calls it makes. -/

mutual

theorem eval (f : Frame) : ∀ e, M.eval f e
  | .literal span v => h.literal f span v
  | .identifier span name => h.identifier f span name
  | .list span elements => h.list f span elements (evalAll f elements)
  | .negate span operand => h.negate f span operand (eval f operand)
  | .compare span op left right => h.compare f span op left right (eval f left) (eval f right)
  | .method span object name arguments =>
    h.method f span object name arguments (eval f object) (evalAll f arguments)
  | .position span object slot => h.position f span object slot (eval f object)
  | .index span object key => h.index f span object key (eval f object) (eval f key)
  | .call span name arguments =>
    h.call f span name arguments (evalAll f arguments) (fun path => renderPartial f path)
termination_by e => (r.config.maxPartialDepth - f.depth, sizeOf e, 1)
decreasing_by
  all_goals
    apply measure_lt_of_size
    simp only [Expr.list.sizeOf_spec, Expr.negate.sizeOf_spec, Expr.compare.sizeOf_spec,
      Expr.method.sizeOf_spec, Expr.position.sizeOf_spec, Expr.index.sizeOf_spec,
      Expr.call.sizeOf_spec]
    omega

theorem evalAll (f : Frame) : ∀ es, M.evalAll f es
  | [] => h.evalNil f
  | e :: rest => h.evalCons f e rest (eval f e) (evalAll f rest)
termination_by es => (r.config.maxPartialDepth - f.depth, sizeOf es, 1)
decreasing_by all_goals (apply measure_lt_of_size; simp only [List.cons.sizeOf_spec]; omega)

theorem renderPartial (f : Frame) (path : String) : M.renderPartial f path :=
  h.enter f path fun _ t => renderNodes (Frame.enter f t) t.nodes
termination_by (r.config.maxPartialDepth - f.depth, 0, 0)
decreasing_by all_goals (simp only [enter_depth]; apply Prod.Lex.left; omega)

theorem renderNodes (f : Frame) : ∀ ns, M.renderNodes f ns
  | [] => h.nodesNil f
  | n :: rest => h.nodesCons f n rest (renderNode f n) (renderNodes f rest)
termination_by ns => (r.config.maxPartialDepth - f.depth, sizeOf ns, 1)
decreasing_by all_goals (apply measure_lt_of_size; simp only [List.cons.sizeOf_spec]; omega)

theorem renderNode (f : Frame) : ∀ n, M.renderNode f n
  | .text span s => h.text f span s
  | .output span e => h.output f span e (eval f e)
  | .rawOutput span e => h.rawOutput f span e (eval f e)
  | .statement span e => h.statement f span e (eval f e)
  | .cond span c body branches elseBody =>
    h.cond f span c body branches elseBody (eval f c) (renderNodes f body)
      (renderBranches f branches elseBody)
  | .loop span targets iterable body =>
    h.loop f span targets iterable body (eval f iterable)
      (fun items => renderLoop f span targets body items)
termination_by n => (r.config.maxPartialDepth - f.depth, sizeOf n, 1)
decreasing_by
  all_goals
    apply measure_lt_of_size
    simp only [Node.output.sizeOf_spec, Node.rawOutput.sizeOf_spec, Node.statement.sizeOf_spec,
      Node.cond.sizeOf_spec, Node.loop.sizeOf_spec]
    omega

theorem renderBranches (f : Frame) (branches : List Branch) (elseBody : Option (List Node)) :
    M.renderBranches f branches elseBody :=
  match branches, elseBody with
  | [], some nodes => h.elseBody f nodes (renderNodes f nodes)
  | [], none => h.noElse f
  | .mk span c body :: rest, elseBody =>
    h.branch f span c body rest elseBody (eval f c) (renderNodes f body)
      (renderBranches f rest elseBody)
termination_by (r.config.maxPartialDepth - f.depth, sizeOf branches + sizeOf elseBody, 1)
decreasing_by
  all_goals
    apply measure_lt_of_size
    simp only [List.cons.sizeOf_spec, List.nil.sizeOf_spec, Branch.mk.sizeOf_spec,
      Option.some.sizeOf_spec]
    omega

theorem renderLoop (f : Frame) (span : Span) (targets : List String) (body : List Node) :
    ∀ items, M.renderLoop f span targets body items
  | [] => h.loopNil f span targets body
  | item :: rest =>
    h.loopCons f span targets body item rest (fun bs => renderNodes (f.bind bs) body)
      (renderLoop f span targets body rest)
termination_by items => (r.config.maxPartialDepth - f.depth, sizeOf body, items.length + 2)
decreasing_by all_goals (apply measure_lt_of_size; simp only [List.length_cons, true_and]; omega)

end

end Motive.Steps

end Renderer

end Stencil
