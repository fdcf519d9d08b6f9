/-!
# Kinds of template values

Every value a template handles has one of eight kinds. Messages name a kind by
its capitalised word: `Integer`, `Float`, `String`, `Bool`, `List`, `Hash`,
`Tuple`, `Nil`.
-/

namespace Stencil

/-- The kinds of template values. -/
inductive Kind where
  | integer
  | float
  | string
  | bool
  | list
  | hash
  | tuple
  | nil
  deriving Repr, DecidableEq, Inhabited

namespace Kind

/-- Every kind, in the order listings show them. -/
def all : List Kind := [.integer, .float, .string, .bool, .list, .hash, .tuple, .nil]

/-- The word that names a kind in messages. -/
def name : Kind → String
  | .integer => "Integer"
  | .float => "Float"
  | .string => "String"
  | .bool => "Bool"
  | .list => "List"
  | .hash => "Hash"
  | .tuple => "Tuple"
  | .nil => "Nil"

end Kind

end Stencil
