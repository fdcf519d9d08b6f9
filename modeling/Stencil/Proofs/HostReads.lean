import Stencil.Proofs.PartialDepth

/-!
# What a render reads of the host

A render asks its host bindings for a name only when it evaluates an identifier that
no loop variable in force binds. `Renderer.renderReads` lists the names it asks, in the
order it asks them. The list follows the render's own course: the branch an `if`
takes, every iteration of a loop, every partial rendered, and nothing after the first
error, since a render stops there.

Main statements:

* `render_of_agree`: two host bindings that answer alike for every name that rendering
  a template with the first one reads give the same render, output or error. So a
  datum the render never asks for, even one that cannot become a value, plays no part.
* `lookupAllCached_eq_map_get`: within one render the host's memo answers each lookup
  as the bindings themselves do, whatever was asked before.

The reads are taken in the first bindings: the second are never asked for more, since
the two renders take the same course. The proof follows the renderer's recursion (on
the levels of partials left, then the size of the syntax), each step comparing the
parts it evaluates in order: equal so far, the next part is read, so it agrees too.
-/

namespace Stencil

namespace HostBindings

/-- Two host bindings answer alike for every name of a list. -/
def AgreeOn (names : List String) (h₁ h₂ : HostBindings) : Prop :=
  ∀ n ∈ names, h₂.get n = h₁.get n

namespace AgreeOn

variable {a b : List String} {h₁ h₂ : HostBindings}

theorem left (h : AgreeOn (a ++ b) h₁ h₂) : AgreeOn a h₁ h₂ :=
  fun n mem => h n (List.mem_append_left b mem)

theorem right (h : AgreeOn (a ++ b) h₁ h₂) : AgreeOn b h₁ h₂ :=
  fun n mem => h n (List.mem_append_right a mem)

theorem of_get (h : ∀ n, h₂.get n = h₁.get n) : AgreeOn a h₁ h₂ :=
  fun n _ => h n

end AgreeOn

/-! ## The memo of one render -/

/-- The answers to lookups of names in order, through one memo, starting from `memo`. -/
def lookupAllCached (b : HostBindings) : List (String × Value) → List String →
    List (Option (Except Failure Value))
  | _, [] => []
  | memo, n :: rest => (b.lookupCached memo n).1 :: b.lookupAllCached (b.lookupCached memo n).2 rest

/-- A memo holds only values the bindings give for their names. -/
def Faithful (b : HostBindings) (memo : List (String × Value)) : Prop :=
  ∀ p ∈ memo, b.get p.1 = some (.ok p.2)

variable {b : HostBindings} {memo : List (String × Value)}

theorem faithful_nil (b : HostBindings) : b.Faithful [] := by
  intro p mem
  cases mem

/-- A lookup through a faithful memo answers what the bindings answer. -/
theorem lookupCached_fst (faithful : b.Faithful memo) (name : String) :
    (b.lookupCached memo name).1 = b.get name := by
  unfold lookupCached
  cases found : memo.find? (·.1 = name) with
  | some p =>
    have same : p.1 = name := by simpa using List.find?_some found
    rw [← same, faithful p (List.mem_of_find?_eq_some found)]
  | none =>
    simp only
    split <;> simp_all

/-- A lookup keeps the memo faithful: it adds only what the bindings give. -/
theorem lookupCached_snd (faithful : b.Faithful memo) (name : String) :
    b.Faithful (b.lookupCached memo name).2 := by
  unfold lookupCached
  cases memo.find? (·.1 = name) with
  | some p => exact faithful
  | none =>
    simp only
    split
    · rename_i v given
      intro p mem
      rcases List.mem_cons.1 mem with rfl | kept
      · exact given
      · exact faithful p kept
    · exact faithful

/-- Lookups through a faithful memo, one after another, answer each name as the
bindings do: the memo is never seen. -/
theorem lookupAllCached_eq_map_get (names : List String) (faithful : b.Faithful memo) :
    b.lookupAllCached memo names = names.map b.get := by
  -- the invariant is the memo's faithfulness, kept by each lookup
  induction names generalizing memo with
  | nil => rfl
  | cons n rest ih =>
    rw [lookupAllCached, List.map_cons, lookupCached_fst faithful,
      ih (lookupCached_snd faithful n)]

end HostBindings

namespace Frame

/-- The names a lookup asks of the host: the name, unless a loop variable in force
binds it. -/
def hostReads (f : Frame) (name : String) : List String :=
  match f.scope.find? (·.1 = name) with
  | some _ => []
  | none => [name]

theorem lookup_of_agree {f : Frame} {h₁ h₂ : HostBindings} {name : String}
    (agree : h₁.AgreeOn (f.hostReads name) h₂) : f.lookup h₂ name = f.lookup h₁ name := by
  unfold hostReads at agree
  unfold lookup
  cases bound : f.scope.find? (·.1 = name) with
  | some p => rfl
  | none =>
    rw [bound] at agree
    exact agree name (List.mem_singleton_self name)

end Frame

namespace Renderer

/-- The names read after a step: those given, unless the step failed, since a render
stops at its first error. -/
def readsAfter {α : Type} (x : Except Failure α) (names : List String) : List String :=
  match x with
  | .ok _ => names
  | .error _ => []

@[simp] theorem readsAfter_ok {α : Type} (a : α) (names : List String) :
    readsAfter (.ok a : Except Failure α) names = names := rfl

@[simp] theorem readsAfter_error {α : Type} (e : Failure) (names : List String) :
    readsAfter (.error e : Except Failure α) names = [] := rfl

@[simp] theorem readsAfter_nil {α : Type} (x : Except Failure α) : readsAfter x [] = [] := by
  cases x <;> rfl

mutual

/-- The names evaluating an expression asks of the host, in order. -/
def evalReads (r : Renderer) (host : HostBindings) (f : Frame) : Expr → List String
  | .literal _ _ => []
  | .identifier _ name => f.hostReads name
  | .list _ elements => r.evalAllReads host f elements
  | .negate _ operand => r.evalReads host f operand
  | .compare _ _ left right =>
    r.evalReads host f left ++ readsAfter (r.eval host f left) (r.evalReads host f right)
  | .method _ object _ arguments =>
    r.evalReads host f object ++
      readsAfter (r.eval host f object) (r.evalAllReads host f arguments)
  | .position _ object _ => r.evalReads host f object
  | .index _ object key =>
    r.evalReads host f object ++ readsAfter (r.eval host f object) (r.evalReads host f key)
  | .call _ name arguments =>
    r.evalAllReads host f arguments ++
      match r.evalAll host f arguments with
      | .ok args =>
        match GlobalCall.ofCall name args with
        | .ok (.render path) => r.partialReads host f path
        | _ => []
      | .error _ => []
termination_by e => (r.config.maxPartialDepth - f.depth, sizeOf e, 0)

/-- The names evaluating expressions in order asks of the host. -/
def evalAllReads (r : Renderer) (host : HostBindings) (f : Frame) : List Expr → List String
  | [] => []
  | e :: rest => r.evalReads host f e ++ readsAfter (r.eval host f e) (r.evalAllReads host f rest)
termination_by es => (r.config.maxPartialDepth - f.depth, sizeOf es, 0)

/-- The names rendering the partial at a path asks of the host: none at the nesting
limit, nor when the loader fails. -/
def partialReads (r : Renderer) (host : HostBindings) (f : Frame) (path : String) :
    List String :=
  if f.depth < r.config.maxPartialDepth then
    match r.collaborators.loadPartial path with
    | .ok t => r.nodesReads host (Frame.enter f t) t.nodes
    | .error _ => []
  else []
termination_by (r.config.maxPartialDepth - f.depth, 0, 0)
decreasing_by all_goals (simp only [Frame.enter]; apply Prod.Lex.left; omega)

/-- The names rendering nodes in order asks of the host. -/
def nodesReads (r : Renderer) (host : HostBindings) (f : Frame) : List Node → List String
  | [] => []
  | n :: rest =>
    r.nodeReads host f n ++ readsAfter (r.renderNode host f n) (r.nodesReads host f rest)
termination_by ns => (r.config.maxPartialDepth - f.depth, sizeOf ns, 0)

/-- The names rendering one node asks of the host: an `if` reads the body it takes,
a loop its body once per element. -/
def nodeReads (r : Renderer) (host : HostBindings) (f : Frame) : Node → List String
  | .text _ _ => []
  | .output _ e => r.evalReads host f e
  | .rawOutput _ e => r.evalReads host f e
  | .statement _ e => r.evalReads host f e
  | .cond _ c body branches elseBody =>
    r.evalReads host f c ++
      match r.condition host f c with
      | .ok true => r.nodesReads host f body
      | .ok false => r.branchesReads host f branches elseBody
      | .error _ => []
  | .loop span targets iterable body =>
    r.evalReads host f iterable ++
      match r.eval host f iterable with
      | .ok (.list items) => r.loopReads host f span targets body items
      | _ => []
termination_by n => (r.config.maxPartialDepth - f.depth, sizeOf n, 0)

/-- The names the `elsif` branches and the `else` body ask of the host. -/
def branchesReads (r : Renderer) (host : HostBindings) (f : Frame) (branches : List Branch)
    (elseBody : Option (List Node)) : List String :=
  match branches with
  | [] =>
    match elseBody with
    | some nodes => r.nodesReads host f nodes
    | none => []
  | .mk _ c body :: rest =>
    r.evalReads host f c ++
      match r.condition host f c with
      | .ok true => r.nodesReads host f body
      | .ok false => r.branchesReads host f rest elseBody
      | .error _ => []
termination_by (r.config.maxPartialDepth - f.depth, sizeOf branches + sizeOf elseBody, 0)

/-- The names a loop's iterations over the elements ask of the host. -/
def loopReads (r : Renderer) (host : HostBindings) (f : Frame) (span : Span)
    (targets : List String) (body : List Node) : List Value → List String
  | [] => []
  | item :: rest =>
    match loopBindings f span targets item with
    | .error _ => []
    | .ok bindings =>
      r.nodesReads host (f.bind bindings) body ++
        readsAfter (r.renderNodes host (f.bind bindings) body)
          (r.loopReads host f span targets body rest)
termination_by items => (r.config.maxPartialDepth - f.depth, sizeOf body, items.length + 1)

end

/-- The names rendering a template asks of the host, in order. -/
def renderReads (r : Renderer) (host : HostBindings) (t : Template) : List String :=
  r.nodesReads host (Frame.top t.source) t.nodes

/-! ## A render depends on the names it reads only -/

section Agree

variable {r : Renderer} {h₁ h₂ : HostBindings}

/-- Each part of a render is the same with host bindings that answer alike for every
name it reads with the first of them: a step that reads further reads only after the
steps before it succeeded, and then both renders made the same steps. -/
theorem agree_steps : Motive.Steps r
    { eval := fun f e => h₁.AgreeOn (r.evalReads h₁ f e) h₂ → r.eval h₂ f e = r.eval h₁ f e
      evalAll := fun f es =>
        h₁.AgreeOn (r.evalAllReads h₁ f es) h₂ → r.evalAll h₂ f es = r.evalAll h₁ f es
      renderPartial := fun f path => h₁.AgreeOn (r.partialReads h₁ f path) h₂ →
        r.renderPartial h₂ f path = r.renderPartial h₁ f path
      renderNodes := fun f ns =>
        h₁.AgreeOn (r.nodesReads h₁ f ns) h₂ → r.renderNodes h₂ f ns = r.renderNodes h₁ f ns
      renderNode := fun f n =>
        h₁.AgreeOn (r.nodeReads h₁ f n) h₂ → r.renderNode h₂ f n = r.renderNode h₁ f n
      renderBranches := fun f branches elseBody =>
        h₁.AgreeOn (r.branchesReads h₁ f branches elseBody) h₂ →
          r.renderBranches h₂ f branches elseBody = r.renderBranches h₁ f branches elseBody
      renderLoop := fun f span targets body items =>
        h₁.AgreeOn (r.loopReads h₁ f span targets body items) h₂ →
          r.renderLoop h₂ f span targets body items =
            r.renderLoop h₁ f span targets body items } where
  literal _ _ _ _ := by rw [eval, eval]
  identifier _ _ _ agree := by
    rw [evalReads] at agree
    rw [eval, eval, Frame.lookup_of_agree agree]
  list _ _ _ elements agree := by
    rw [evalReads] at agree
    rw [eval, eval, elements agree]
  negate _ _ _ operand agree := by
    rw [evalReads] at agree
    rw [eval, eval, operand agree]
  compare f _ _ left _ hleft hright agree := by
    rw [evalReads] at agree
    rw [eval, eval, hleft agree.left]
    cases hl : r.eval h₁ f left with
    | error e => rfl
    | ok a => rw [hright (by simpa [hl] using agree.right)]
  method f _ object _ _ hobject harguments agree := by
    rw [evalReads] at agree
    rw [eval, eval, hobject agree.left]
    cases ho : r.eval h₁ f object with
    | error e => rfl
    | ok o => rw [harguments (by simpa [ho] using agree.right)]
  position _ _ _ _ object agree := by
    rw [evalReads] at agree
    rw [eval, eval, object agree]
  index f _ object _ hobject hkey agree := by
    rw [evalReads] at agree
    rw [eval, eval, hobject agree.left]
    cases ho : r.eval h₁ f object with
    | error e => rfl
    | ok o => rw [hkey (by simpa [ho] using agree.right)]
  call f _ name arguments harguments partials agree := by
    rw [evalReads] at agree
    rw [eval, eval, harguments agree.left]
    cases ha : r.evalAll h₁ f arguments with
    | error e => rfl
    | ok args =>
      -- only a call of `render` reads further: the partial it renders
      dsimp only
      cases hc : GlobalCall.ofCall name args with
      | error e => rfl
      | ok g =>
        cases g with
        | render path =>
          dsimp only
          rw [partials path (by simpa [ha, hc] using agree.right)]
        | head => rfl
        | turbo endpoint => rfl
  evalNil _ _ := by rw [evalAll, evalAll]
  evalCons f e _ first rest agree := by
    rw [evalAllReads] at agree
    rw [evalAll, evalAll, first agree.left]
    cases he : r.eval h₁ f e with
    | error err => rfl
    | ok v => rw [rest (by simpa [he] using agree.right)]
  enter f path inner agree := by
    rw [partialReads] at agree
    rw [renderPartial, renderPartial]
    split
    · rename_i below
      rw [if_pos below] at agree
      cases ht : r.collaborators.loadPartial path with
      | error e => rfl
      | ok t => exact inner below t (by simpa [ht] using agree)
    · rfl
  nodesNil _ _ := by rw [renderNodes, renderNodes]
  nodesCons f n _ first rest agree := by
    rw [nodesReads] at agree
    rw [renderNodes, renderNodes, first agree.left]
    cases hn : r.renderNode h₁ f n with
    | error e => rfl
    | ok a => rw [rest (by simpa [hn] using agree.right)]
  text _ _ _ _ := by rw [renderNode, renderNode]
  output _ _ _ e agree := by
    rw [nodeReads] at agree
    rw [renderNode, renderNode, outputText, outputText, e agree]
  rawOutput _ _ _ e agree := by
    rw [nodeReads] at agree
    rw [renderNode, renderNode, outputText, outputText, e agree]
  statement _ _ _ e agree := by
    rw [nodeReads] at agree
    rw [renderNode, renderNode, e agree]
  cond f _ c _ _ _ hc body branches agree := by
    rw [nodeReads] at agree
    have same : r.condition h₂ f c = r.condition h₁ f c := by
      rw [condition, condition, hc agree.left]
    rw [renderNode, renderNode, same]
    cases hcond : r.condition h₁ f c with
    | error e => rfl
    | ok holds =>
      cases holds with
      | true => rw [body (by simpa [hcond] using agree.right)]
      | false => rw [branches (by simpa [hcond] using agree.right)]
  loop f _ _ iterable _ hiterable iterations agree := by
    rw [nodeReads] at agree
    rw [renderNode, renderNode, hiterable agree.left]
    cases hi : r.eval h₁ f iterable with
    | error e => rfl
    | ok v =>
      cases v
      case list items =>
        dsimp only
        rw [iterations items (by simpa [hi] using agree.right)]
      all_goals rfl
  elseBody _ _ nodes agree := by
    rw [branchesReads] at agree
    rw [renderBranches, renderBranches, nodes agree]
  noElse _ _ := by rw [renderBranches, renderBranches]
  branch f _ c _ _ _ hc body rest agree := by
    rw [branchesReads] at agree
    have same : r.condition h₂ f c = r.condition h₁ f c := by
      rw [condition, condition, hc agree.left]
    rw [renderBranches, renderBranches, same]
    cases hcond : r.condition h₁ f c with
    | error e => rfl
    | ok holds =>
      cases holds with
      | true => rw [body (by simpa [hcond] using agree.right)]
      | false => rw [rest (by simpa [hcond] using agree.right)]
  loopNil _ _ _ _ _ := by rw [renderLoop, renderLoop]
  loopCons f span targets body item _ hbody rest agree := by
    rw [loopReads] at agree
    rw [renderLoop, renderLoop]
    cases hb : loopBindings f span targets item with
    | error e => rfl
    | ok bindings =>
      rw [hb] at agree
      dsimp only
      rw [hbody bindings agree.left]
      cases hn : r.renderNodes h₁ (f.bind bindings) body with
      | error e => rfl
      | ok a => rw [rest (by simpa [hn] using agree.right)]

/-- Host bindings that answer alike for every name a render of a template with the
first of them reads give the same render. -/
theorem render_of_agree {t : Template} (agree : h₁.AgreeOn (r.renderReads h₁ t) h₂) :
    r.render h₂ t = r.render h₁ t := by
  rw [render, render, agree_steps.renderNodes _ t.nodes agree]

/-- Host bindings that answer alike for every name give the same render. -/
theorem render_congr (t : Template) (same : ∀ n, h₂.get n = h₁.get n) :
    r.render h₂ t = r.render h₁ t :=
  render_of_agree (HostBindings.AgreeOn.of_get same)

end Agree

/-- A render with a host mapping depends on the names it asks only. A second mapping
that holds the same datum, or none, for each of them gives the same render, output or
error; a name it never asks may be bound to anything, a datum that cannot become a
value included. Within the render, the memo answers each lookup with the datum's value,
or the failure to wrap it, or nothing for a name not bound, as a lookup without the
memo does. -/
theorem render_reads_only (r : Renderer) (t : Template) (c₁ c₂ : List (String × HostData))
    (agree : ∀ n ∈ r.renderReads (.mapping c₁) t,
      HostBindings.find? c₂ n = HostBindings.find? c₁ n) :
    r.render (.mapping c₂) t = r.render (.mapping c₁) t ∧
    (∀ n d, n ∉ r.renderReads (.mapping c₁) t →
      r.render (.mapping ((n, d) :: c₁)) t = r.render (.mapping c₁) t) ∧
    (HostBindings.mapping c₁).lookupAllCached [] (r.renderReads (.mapping c₁) t) =
      (r.renderReads (.mapping c₁) t).map fun n => (HostBindings.find? c₁ n).map HostData.wrap := by
  refine ⟨?_, ?_, ?_⟩
  · apply render_of_agree
    intro n asked
    simp only [HostBindings.get, agree n asked]
  · intro n d unasked
    apply render_of_agree
    intro m asked
    have other : n ≠ m := fun same => unasked (same ▸ asked)
    simp only [HostBindings.get, HostBindings.find?_cons, if_neg other]
  · rw [HostBindings.lookupAllCached_eq_map_get _ (HostBindings.faithful_nil _)]
    rfl

/-- A template that writes `x`, rendered with a mapping that also binds `data` to bytes,
which cannot become a value: the render asks only for `x`, so it is the render without
`data`. -/
theorem render_reads_only_unasked_bytes :
    (∀ n ∈ (default : Renderer).renderReads (.mapping [("x", .int 1), ("data", .other "bytes")])
        ⟨none, [.output default (.identifier default "x")], default, "<%= x %>"⟩,
      HostBindings.find? [("x", .int 1)] n =
        HostBindings.find? [("x", .int 1), ("data", .other "bytes")] n) ∧
    (default : Renderer).render (.mapping [("x", .int 1)])
        ⟨none, [.output default (.identifier default "x")], default, "<%= x %>"⟩ =
      (default : Renderer).render (.mapping [("x", .int 1), ("data", .other "bytes")])
        ⟨none, [.output default (.identifier default "x")], default, "<%= x %>"⟩ := by
  have asked : (default : Renderer).renderReads (.mapping [("x", .int 1), ("data", .other "bytes")])
      ⟨none, [.output default (.identifier default "x")], default, "<%= x %>"⟩ = ["x"] := by
    simp [renderReads, nodesReads, nodeReads, evalReads, Frame.hostReads, Frame.top]
  have agree : ∀ n ∈ (default : Renderer).renderReads
      (.mapping [("x", .int 1), ("data", .other "bytes")])
      ⟨none, [.output default (.identifier default "x")], default, "<%= x %>"⟩,
      HostBindings.find? [("x", .int 1)] n =
        HostBindings.find? [("x", .int 1), ("data", .other "bytes")] n := by
    rw [asked]
    intro n mem
    rw [List.mem_singleton.1 mem]
    rfl
  exact ⟨agree, (render_reads_only _ _ _ _ agree).1⟩

end Renderer

end Stencil
