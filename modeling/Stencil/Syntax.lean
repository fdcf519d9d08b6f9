import Stencil.Source.Location

/-!
# The syntax of templates

A template is a list of nodes: literal text, output tags, statement tags and
the two blocks, `if` and `for`. Expressions inside tags are literals, names,
list literals, negation, the two equality tests, method calls, positional
access to tuples, bracket indexing and calls of global functions.

Every node and expression records its span. A minus in front of a number
literal is folded into the literal when the template is parsed (`-5` is the
literal `-5`); on anything else it is a negation.
-/

namespace Stencil

/-- The value of a literal in a template. -/
inductive Literal where
  | int (n : Int)
  | float (x : Float)
  | str (s : String)
  | bool (b : Bool)
  | nil
  deriving Inhabited

/-- The two equality tests. -/
inductive Equality where
  | eq
  | ne
  deriving Repr, DecidableEq, Inhabited

/-- Expressions. -/
inductive Expr where
  | literal (span : Span) (value : Literal)
  | identifier (span : Span) (name : String)
  | list (span : Span) (elements : List Expr)
  | negate (span : Span) (operand : Expr)
  | compare (span : Span) (op : Equality) (left right : Expr)
  | method (span : Span) (object : Expr) (name : String) (arguments : List Expr)
  | position (span : Span) (object : Expr) (index : Nat)
  | index (span : Span) (object index : Expr)
  | call (span : Span) (name : String) (arguments : List Expr)
  deriving Inhabited

namespace Expr

/-- The span of an expression. -/
def span : Expr → Span
  | .literal s _ | .identifier s _ | .list s _ | .negate s _ | .compare s _ _ _
  | .method s _ _ _ | .position s _ _ | .index s _ _ | .call s _ _ => s

/-- Minus in front of an expression over a span: folded into a number literal,
a negation of anything else. -/
def negated (span : Span) : Expr → Expr
  | .literal _ (.int n) => .literal span (.int (-n))
  | .literal _ (.float x) => .literal span (.float (-x))
  | e => .negate span e

end Expr

mutual

/-- Nodes of a template. -/
inductive Node where
  | text (span : Span) (text : String)
  | output (span : Span) (expr : Expr)
  | rawOutput (span : Span) (expr : Expr)
  | statement (span : Span) (expr : Expr)
  | cond (span : Span) (condition : Expr) (body : List Node) (branches : List Branch)
      (elseBody : Option (List Node))
  | loop (span : Span) (targets : List String) (iterable : Expr) (body : List Node)

/-- An `elsif` branch of an `if` block. -/
inductive Branch where
  | mk (span : Span) (condition : Expr) (body : List Node)

end

instance : Inhabited Node := ⟨.text default ""⟩

namespace Node

/-- The span of a node. -/
def span : Node → Span
  | .text s _ | .output s _ | .rawOutput s _ | .statement s _ | .cond s _ _ _ _ | .loop s _ _ _ => s

end Node

/-- A parsed template: its name, its nodes, its span and its text. -/
structure Template where
  name : Option String
  nodes : List Node
  span : Span
  source : String
  deriving Inhabited

end Stencil
