import Stencil.Template.Location

/-!
# Template trees

The tree of a Handlebars template: statements, and the expressions in them. A node carries the
location that the parser recorded for it.
-/

namespace Stencil.Template

set_option autoImplicit false

/-- A variable reference: `depth` steps `../` up, then the dotted `parts`. -/
structure Path where
  /-- The path starts with `@`. -/
  data : Bool
  depth : UInt64
  parts : List String
  /-- The path as it is written in the template. -/
  written : String
  loc : Option Location
deriving Repr, DecidableEq

def Path.head? (p : Path) : Option String := p.parts.head?

/-- A named argument `key=value`. -/
structure HashPair (ε : Type) where
  key : String
  value : ε
  loc : Option Location

structure Hash (ε : Type) where
  pairs : List (HashPair ε)
  loc : Option Location

inductive Expr where
  | path (path : Path)
  /-- A call in parentheses. -/
  | sub (path : Expr) (params : List Expr) (hash : Option (Hash Expr)) (loc : Option Location)
  | str (value : String) (loc : Option Location)
  | num (value : Number) (loc : Option Location)
  | bool (value : Bool) (loc : Option Location)
  | undefined (loc : Option Location)
  | null (loc : Option Location)

namespace Expr

def kinds : List String :=
  ["PathExpression", "SubExpression", "StringLiteral", "NumberLiteral", "BooleanLiteral",
    "UndefinedLiteral", "NullLiteral"]

def kind : Expr → String
  | .path _ => "PathExpression"
  | .sub .. => "SubExpression"
  | .str .. => "StringLiteral"
  | .num .. => "NumberLiteral"
  | .bool .. => "BooleanLiteral"
  | .undefined _ => "UndefinedLiteral"
  | .null _ => "NullLiteral"

def loc : Expr → Option Location
  | .path p => p.loc
  | .sub _ _ _ l => l
  | .str _ l => l
  | .num _ l => l
  | .bool _ l => l
  | .undefined l => l
  | .null l => l

end Expr

/-- A call: a path with positional and named arguments. -/
structure Call where
  path : Expr
  params : List Expr
  hash : Option (Hash Expr)

/-- A mustache: a value or a call to write, escaped or raw. -/
structure Mustache where
  call : Call
  escaped : Bool
  loc : Option Location

/-- A sequence of statements, with the names that `as |x y|` gives. -/
structure Program (ν : Type) where
  body : List ν
  blockParams : List String
  loc : Option Location

/-- A block: a call with a body and an alternative body. -/
structure Block (ν : Type) where
  call : Call
  program : Option (Program ν)
  inverse : Option (Program ν)
  loc : Option Location

inductive Node where
  | program (program : Program Node)
  | content (value written : String) (loc : Option Location)
  | comment (value : String) (loc : Option Location)
  | mustache (mustache : Mustache)
  | block (block : Block Node)
  | partialCall (call : Call) (loc : Option Location)
  | partialBlock (call : Call) (program : Option (Program Node)) (loc : Option Location)
  | decorator (mustache : Mustache)
  | decoratorBlock (block : Block Node)

namespace Node

instance : Inhabited Node := ⟨.comment "" none⟩

def kinds : List String :=
  ["Program", "ContentStatement", "CommentStatement", "MustacheStatement", "BlockStatement",
    "PartialStatement", "PartialBlockStatement", "Decorator", "DecoratorBlock"]

def kind : Node → String
  | .program _ => "Program"
  | .content .. => "ContentStatement"
  | .comment .. => "CommentStatement"
  | .mustache _ => "MustacheStatement"
  | .block _ => "BlockStatement"
  | .partialCall .. => "PartialStatement"
  | .partialBlock .. => "PartialBlockStatement"
  | .decorator _ => "Decorator"
  | .decoratorBlock _ => "DecoratorBlock"

def loc : Node → Option Location
  | .program p => p.loc
  | .content _ _ l => l
  | .comment _ l => l
  | .mustache m => m.loc
  | .block b => b.loc
  | .partialCall _ l => l
  | .partialBlock _ _ l => l
  | .decorator m => m.loc
  | .decoratorBlock b => b.loc

/-- The statements of a root, none for any other statement. -/
def children : Node → List Node
  | .program p => p.body
  | _ => []

end Node

end Stencil.Template
