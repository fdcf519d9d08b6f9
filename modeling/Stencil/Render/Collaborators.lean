import Stencil.Syntax
import Stencil.Value.Basic

/-!
# Collaborators and global functions

A renderer works with services that its host supplies:

* an escape, which output tags apply to their text when autoescaping is on; the
  default replaces the five characters of markup, `&`, `<`, `>`, `"` and `'`, by
  their character references;
* a partial loader, which turns a path into a parsed template;
* a head injector and a turbo stream injector, which produce markup.

Templates reach the services through three global functions: `render(path)`,
`rwf_head()` and `rwf_turbo_stream(endpoint)`. A call is checked before it is
carried out (`GlobalCall.ofCall`): an unknown name first, then the number of
arguments, then that every argument is a String.

A service answers with a reply; a reply that is a failure or not a text becomes
the error of the call, and a service that is not configured is an error of its
own.
-/

namespace Stencil

/-- What an injector answers: a text, a failure with its message, or a host value
of another type. -/
inductive Reply where
  | text (s : String)
  | failure (message : String)
  | other (typeName : String)
  deriving Inhabited

/-- What a partial loader answers: a template, an engine error, a failure with its
message, or a host value of another type. -/
inductive LoadReply where
  | template (t : Template)
  | error (e : TemplateError)
  | failure (message : String)
  | other (typeName : String)
  deriving Inhabited

namespace LoadReply

/-- The reply of a loader that parsed a partial: the template, the engine error, or
a host failure with its message. -/
def ofResult : Except Failure Template → LoadReply
  | .ok t => .template t
  | .error (.template e) => .error e
  | .error (.host f) => .failure f.message

end LoadReply

/-- An escape given by a table: each character of the table becomes its text, every
other character stays. -/
structure Escape where
  table : List (Char × String)
  deriving Inhabited

namespace Escape

/-- The text a character becomes. -/
def charText (e : Escape) (c : Char) : String :=
  match e.table.find? (·.1 = c) with
  | some (_, t) => t
  | none => String.ofList [c]

/-- Escape a text, character by character. -/
def apply (e : Escape) (s : String) : String :=
  String.join (s.toList.map e.charText)

/-- The markup escape: the five markup characters become character references. -/
def html : Escape :=
  ⟨[('&', "&amp;"), ('<', "&lt;"), ('>', "&gt;"), ('"', "&quot;"), ('\'', "&#x27;")]⟩

/-- The escape that changes nothing. -/
def identity : Escape := ⟨[]⟩

theorem identity_charText (c : Char) : identity.charText c = String.ofList [c] := rfl

/-- The identity escape leaves every text as it is. -/
@[simp] theorem identity_apply (s : String) : identity.apply s = s := by
  rw [← String.toList_inj]
  simp only [apply, String.toList_join, List.flatMap_map, identity_charText, String.toList_ofList]
  simp

end Escape

/-- The services a renderer works with. -/
structure Collaborators where
  escape : Escape := Escape.html
  loader : Option (String → LoadReply) := none
  head : Option Reply := none
  turbo : Option (String → Reply) := none
  deriving Inhabited

/-- A checked call of a global function. -/
inductive GlobalCall where
  | render (path : String)
  | head
  | turbo (endpoint : String)

namespace GlobalCall

/-- The name of the global function that renders a partial. -/
def renderName : String := "render"

/-- The name of the global function that injects head markup. -/
def headName : String := "rwf_head"

/-- The name of the global function that injects a turbo stream. -/
def turboName : String := "rwf_turbo_stream"

/-- The number of arguments of a global function, if there is one of that name. -/
def arity? (name : String) : Option Nat :=
  if name = renderName then some 1
  else if name = headName then some 0
  else if name = turboName then some 1
  else none

/-- The first argument that is not a String, with its kind. -/
def firstNonString : List Value → Option Kind
  | [] => none
  | .str _ :: rest => firstNonString rest
  | v :: _ => some v.kind

/-- Check a call of a global function by name and arguments. -/
def ofCall (name : String) (args : List Value) : Except TemplateError GlobalCall :=
  match arity? name with
  | none => .error (.ofFault (.unknownGlobal name))
  | some arity =>
    if args.length ≠ arity then .error (.ofFault (.globalArity name arity args.length))
    else
      match firstNonString args with
      | some k => .error (.ofFault (.globalArgument name k))
      | none =>
        match args with
        | [.str s] => if name = renderName then .ok (.render s) else .ok (.turbo s)
        | _ => .ok .head

end GlobalCall

namespace Reply

/-- The text of a reply of the service behind a global function, or its error. -/
def toText (name : String) : Reply → Except TemplateError String
  | .text s => .ok s
  | .failure message => .error (.ofFault (.collaboratorFailed name message))
  | .other typeName => .error (.ofFault (.collaboratorResult name typeName))

end Reply

namespace Collaborators

/-- The template of a partial, through the loader. -/
def loadPartial (c : Collaborators) (path : String) : Except TemplateError Template :=
  match c.loader with
  | none => .error (.ofFault (.missingCollaborator GlobalCall.renderName "partial loader"))
  | some load =>
    match load path with
    | .template t => .ok t
    | .error e => .error e
    | .failure message => .error (.ofFault (.loadFailed path message))
    | .other typeName => .error (.ofFault (.loaderResult typeName path))

/-- The head markup, through the head injector. -/
def headText (c : Collaborators) : Except TemplateError String :=
  match c.head with
  | none => .error (.ofFault (.missingCollaborator GlobalCall.headName "head injector"))
  | some reply => reply.toText GlobalCall.headName

/-- The turbo stream markup for an endpoint, through the turbo stream injector. -/
def turboText (c : Collaborators) (endpoint : String) : Except TemplateError String :=
  match c.turbo with
  | none =>
    .error (.ofFault (.missingCollaborator GlobalCall.turboName "turbo stream injector"))
  | some inject => (inject endpoint).toText GlobalCall.turboName

end Collaborators

end Stencil
