import Stencil.Json.Basic
import Stencil.Script.Basic

/-!
# Scripts as documents

Every node starts with its `type`; a literal without a written form has no `raw`.
-/

namespace Stencil.Script

set_option autoImplicit false

def node (type : String) (fields : List (String × Json)) : Json :=
  .obj (("type", .str type) :: fields)

/-- A name outside of expressions. -/
def nameToJson (name : String) : Json := node "Identifier" [("name", .str name)]

def Scalar.toJson : Scalar → Json
  | .str s => .str s
  | .num n => .num n
  | .bool b => .bool b
  | .null => .null

def Literal.toJson (l : Literal) : Json :=
  node "Literal" (("value", l.value.toJson) :: l.raw.toList.map fun r => ("raw", .str r))

def ImportSpecifier.toJson (s : ImportSpecifier) : Json :=
  node "ImportSpecifier" [("local", nameToJson s.localName), ("imported", nameToJson s.imported)]

def ExportSpecifier.toJson (s : ExportSpecifier) : Json :=
  node "ExportSpecifier" [("local", nameToJson s.localName), ("exported", nameToJson s.exported)]

/-- The fields of a function whose statements are written already. -/
def functionFields (id : Option String) (params : List String) (body : List Json)
    (generator isAsync : Bool) : List (String × Json) :=
  [("id", id.elim .null nameToJson), ("params", .arr (params.map nameToJson)),
    ("body", node "BlockStatement" [("body", .arr body)]), ("generator", .bool generator),
    ("async", .bool isAsync)]

mutual
def Statement.toJson : Statement → Json
  | .function ⟨id, params, body, generator, isAsync⟩ =>
    node "FunctionDeclaration" (functionFields id params (Statement.listToJson body) generator isAsync)
  | .ret none => node "ReturnStatement" [("argument", .null)]
  | .ret (some e) => node "ReturnStatement" [("argument", e.toJson)]
  | .importNamed specifiers source => node "ImportDeclaration"
    [("specifiers", .arr (specifiers.map ImportSpecifier.toJson)), ("source", source.toJson)]
  | .exportNamed declaration specifiers source => node "ExportNamedDeclaration"
    [("declaration", declaration.toJson), ("specifiers", .arr (specifiers.map ExportSpecifier.toJson)),
      ("source", source.elim .null Literal.toJson)]
def Statement.listToJson : List Statement → List Json
  | [] => []
  | s :: ss => s.toJson :: Statement.listToJson ss
def Expr.toJson : Expr → Json
  | .ident name => nameToJson name
  | .lit l => l.toJson
  | .plus left right => node "BinaryExpression"
    [("operator", .str "+"), ("left", left.toJson), ("right", right.toJson)]
  | .call callee arguments => node "CallExpression"
    [("callee", callee.toJson), ("arguments", .arr (Expr.listToJson arguments))]
  | .member target property computed => node "MemberExpression"
    [("object", target.toJson), ("property", property.toJson), ("computed", .bool computed)]
  | .cond test consequent alternate => node "ConditionalExpression"
    [("test", test.toJson), ("consequent", consequent.toJson), ("alternate", alternate.toJson)]
  | .object properties => node "ObjectExpression" [("properties", .arr (Expr.propertiesToJson properties))]
  | .func ⟨id, params, body, generator, isAsync⟩ =>
    node "FunctionExpression" (functionFields id params (Statement.listToJson body) generator isAsync)
def Expr.listToJson : List Expr → List Json
  | [] => []
  | e :: es => e.toJson :: Expr.listToJson es
def Expr.propertiesToJson : List (Property Expr) → List Json
  | [] => []
  | ⟨key, value, computed, method, shorthand⟩ :: ps =>
    node "Property"
      [("key", key.toJson), ("value", value.toJson), ("kind", .str "init"), ("computed", .bool computed),
        ("method", .bool method), ("shorthand", .bool shorthand)] :: Expr.propertiesToJson ps
end

def SourceType.name : SourceType → String
  | .script => "script"
  | .module => "module"

def Program.toJson (p : Program) : Json :=
  node "Program" [("body", .arr (Statement.listToJson p.body)), ("sourceType", .str p.sourceType.name)]

end Stencil.Script
