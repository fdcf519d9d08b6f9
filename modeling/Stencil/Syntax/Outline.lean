import Stencil.Syntax
import Stencil.Number.Notation
import Stencil.Text.Quoted

/-!
# Outlines of templates

An outline shows a parsed template one node or expression a line, each child
two spaces further in than its parent; the condition of an `if`, of an `elsif`
and the iterable of a `for` stand four spaces further in. Literals are shown as
their source would write them in a host language with quoted strings: integers
and floats by their text, strings quoted (`Stencil.Text.quote`), the truth
values as `True` and `False`, and nil as `None`.

```
Template(page)
  Output
    MethodCall(.upcase)
      Identifier(name)
```
-/

namespace Stencil

/-- The text of a literal in an outline. -/
def Literal.outlineText : Literal → String
  | .int n => toString n
  | .float x => Number.floatText x
  | .str s => Text.quote s
  | .bool b => if b then "True" else "False"
  | .nil => "None"

/-- The indentation of a depth. -/
def outlinePad (depth : Nat) : String := String.ofList (List.replicate (2 * depth) ' ')

/-- The name of an equality test in an outline. -/
def Equality.outlineName : Equality → String
  | .eq => "EQ"
  | .ne => "NE"

/-- The outline lines of an expression at a depth. -/
def Expr.outline (depth : Nat) : Expr → List String
  | .literal _ v => [outlinePad depth ++ "Literal(" ++ v.outlineText ++ ")"]
  | .identifier _ name => [outlinePad depth ++ "Identifier(" ++ name ++ ")"]
  | .list _ elements =>
    (outlinePad depth ++ "ListLiteral") :: elements.flatMap (fun e => e.outline (depth + 1))
  | .negate _ operand => (outlinePad depth ++ "UnaryOp(MINUS)") :: operand.outline (depth + 1)
  | .compare _ op left right =>
    (outlinePad depth ++ "BinaryOp(" ++ op.outlineName ++ ")") ::
      (left.outline (depth + 1) ++ right.outline (depth + 1))
  | .method _ object name arguments =>
    (outlinePad depth ++ "MethodCall(." ++ name ++ ")") ::
      (object.outline (depth + 1) ++ arguments.flatMap (fun e => e.outline (depth + 1)))
  | .position _ object slot =>
    (outlinePad depth ++ "TupleIndex(." ++ toString slot ++ ")") :: object.outline (depth + 1)
  | .index _ object key =>
    (outlinePad depth ++ "IndexAccess") ::
      (object.outline (depth + 1) ++ key.outline (depth + 1))
  | .call _ name arguments =>
    (outlinePad depth ++ "Call(" ++ name ++ ")") ::
      arguments.flatMap (fun e => e.outline (depth + 1))

mutual

/-- The outline lines of a node at a depth. -/
def Node.outline (depth : Nat) : Node → List String
  | .text _ text => [outlinePad depth ++ "Text(" ++ Text.quote text ++ ")"]
  | .output _ e => (outlinePad depth ++ "Output") :: e.outline (depth + 1)
  | .rawOutput _ e => (outlinePad depth ++ "RawOutput") :: e.outline (depth + 1)
  | .statement _ e => (outlinePad depth ++ "ExpressionStatement") :: e.outline (depth + 1)
  | .cond _ condition body branches elseBody =>
    (outlinePad depth ++ "If") :: (condition.outline (depth + 2) ++
      Node.outlineAll (depth + 1) body ++ Branch.outlineAll depth branches ++
      match elseBody with
      | some nodes => (outlinePad depth ++ "Else") :: Node.outlineAll (depth + 1) nodes
      | none => [])
  | .loop _ targets iterable body =>
    (outlinePad depth ++ "For(" ++ ", ".intercalate targets ++ ")") ::
      (iterable.outline (depth + 2) ++ Node.outlineAll (depth + 1) body)

/-- The outline lines of a list of nodes at a depth. -/
def Node.outlineAll (depth : Nat) : List Node → List String
  | [] => []
  | n :: rest => n.outline depth ++ Node.outlineAll depth rest

/-- The outline lines of `elsif` branches, headed at a depth. -/
def Branch.outlineAll (depth : Nat) : List Branch → List String
  | [] => []
  | .mk _ condition body :: rest =>
    ((outlinePad depth ++ "Elsif") :: (condition.outline (depth + 2) ++
      Node.outlineAll (depth + 1) body)) ++ Branch.outlineAll depth rest

end

/-- The outline of a template. -/
def Template.outline (t : Template) : String :=
  let name := match t.name with
    | some n => if n.isEmpty then "<string>" else n
    | none => "<string>"
  "\n".intercalate (("Template(" ++ name ++ ")") :: Node.outlineAll 1 t.nodes)

end Stencil
