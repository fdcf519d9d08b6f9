import Stencil.Render.Eval
import Stencil.Syntax.Parse

/-!
# Rendering template texts

The entry points a host uses: parse a template's text, then render it with host
bindings, with keyword bindings laid over them (keywords win over the host's
bindings of the same names). Parsing may fail with a host failure as well as a
template error, and so may rendering, when host data it looks up cannot be turned
into a value.

`Renderer.renderTemplate` does the same but reports an engine error, of the parse or
of the render, as an unsuccessful result instead of failing with it.

`Renderer.renderEach` parses once and renders the one template with each of
several host bindings in order; each render starts afresh, so every result is
the result that rendering alone would give.
-/

namespace Stencil

namespace Renderer

/-- Parse a template's text and render it with host bindings, keyword bindings laid
over them. -/
def renderSource (r : Renderer) (source : String) (name : Option String)
    (host : HostBindings) (keywords : List (String × HostData)) :
    Except Failure String :=
  match Template.parse source name with
  | .error e => .error e
  | .ok t => r.render (host.withKeywords keywords) t

/-- The outcome of a render that reports its engine error instead of failing with it. -/
structure RenderResult where
  success : Bool
  output : Option String := none
  error : Option TemplateError := none

/-- Parse a template's text and render it with host bindings, an engine error of the
parse or of the render given as an unsuccessful result. A host failure is no engine
error, and the call still fails with it. -/
def renderTemplate (r : Renderer) (source : String) (name : Option String) (host : HostBindings) :
    Except HostFailure RenderResult :=
  match Template.parse source name with
  | .error (.template e) => .ok { success := false, error := some e }
  | .error (.host h) => .error h
  | .ok t =>
    match r.render host t with
    | .ok out => .ok { success := true, output := some out }
    | .error (.template e) => .ok { success := false, error := some e }
    | .error (.host h) => .error h

/-- Parse a template's text once and render it with each of several host bindings,
in order, keyword bindings laid over each. -/
def renderEach (r : Renderer) (source : String) (name : Option String)
    (hosts : List HostBindings) (keywords : List (String × HostData)) :
    Except Failure (List (Except Failure String)) :=
  match Template.parse source name with
  | .error e => .error e
  | .ok t => .ok (hosts.map fun host => r.render (host.withKeywords keywords) t)

end Renderer

end Stencil
