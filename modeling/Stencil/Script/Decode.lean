import Stencil.Json.Record
import Stencil.Script.Basic

/-!
# Documents as scripts

Statements and expressions are tagged unions; the remaining nodes are records, of which blocks,
specifiers and properties check their `type` as a field, and programs, names and literals ignore it.
-/

namespace Stencil.Script

set_option autoImplicit false

open Json (Place)

/-- A field whose only value is the given name. -/
def only? (name : String) (j : Json) : Option Unit :=
  (j.name? .inside [name]).map fun _ => ()

/-- A name outside of expressions. -/
def nameOfJson? (j : Json) : Option String := do
  let r ← j.row? ["name"]
  r.need "name" Json.str?

def Scalar.ofJson? : Json → Option Scalar
  | .str s => some (.str s)
  | .num n => some (.num n)
  | .bool b => some (.bool b)
  | .null => some .null
  | _ => none

def Literal.ofJson? (j : Json) : Option Literal := do
  let r ← j.row? ["value", "raw"]
  let value ← r.need "value" Scalar.ofJson?
  let raw ← r.maybe "raw" Json.str?
  return ⟨value, raw⟩

def ImportSpecifier.ofJson? (j : Json) : Option ImportSpecifier := do
  let r ← j.row? ["type", "local", "imported"]
  r.need "type" (only? "ImportSpecifier")
  let localName ← r.need "local" nameOfJson?
  let imported ← r.need "imported" nameOfJson?
  return ⟨localName, imported⟩

def ExportSpecifier.ofJson? (j : Json) : Option ExportSpecifier := do
  let r ← j.row? ["type", "local", "exported"]
  r.need "type" (only? "ExportSpecifier")
  let localName ← r.need "local" nameOfJson?
  let exported ← r.need "exported" nameOfJson?
  return ⟨localName, exported⟩

def blockOfJson? (statement : Json → Option Statement) (j : Json) : Option (List Statement) := do
  let r ← j.row? ["type", "body"]
  r.need "type" (only? "BlockStatement")
  r.need "body" (Json.list? statement)

def Function.ofJson? (statement : Json → Option Statement) (j : Json) : Option (Function Statement) := do
  let r ← j.row? ["id", "params", "body", "generator", "async"]
  let id ← r.mayBeNull "id" nameOfJson?
  let params ← r.need "params" (Json.list? nameOfJson?)
  let body ← r.need "body" (blockOfJson? statement)
  let generator ← r.orDefault "generator" Json.bool? false
  let isAsync ← r.orDefault "async" Json.bool? false
  return ⟨id, params, body, generator, isAsync⟩

def Property.ofJson? (expr : Json → Option Expr) (j : Json) : Option (Property Expr) := do
  let r ← j.row? ["type", "key", "value", "kind", "computed", "method", "shorthand"]
  r.need "type" (only? "Property")
  let key ← r.need "key" expr
  let value ← r.need "value" expr
  r.need "kind" (only? "init")
  let computed ← r.need "computed" Json.bool?
  let method ← r.need "method" Json.bool?
  let shorthand ← r.need "shorthand" Json.bool?
  return ⟨key, value, computed, method, shorthand⟩

/-- The names of the kinds of statements, in declaration order. -/
def Statement.kinds : List String :=
  ["FunctionDeclaration", "ReturnStatement", "ImportDeclaration", "ExportNamedDeclaration"]

def Expr.kinds : List String :=
  ["Identifier", "Literal", "BinaryExpression", "CallExpression", "MemberExpression",
    "ConditionalExpression", "ObjectExpression", "FunctionExpression"]

/-- The statement of a kind, from the record behind its tag. -/
def Statement.ofTagged? (statement : Json → Option Statement) (expr : Json → Option Expr)
    (kind : String) (j : Json) : Option Statement :=
  match kind with
  | "FunctionDeclaration" => (Function.ofJson? statement j).map .function
  | "ReturnStatement" => do
    let r ← j.row? ["argument"]
    let argument ← r.mayBeNull "argument" expr
    return .ret argument
  | "ImportDeclaration" => do
    let r ← j.row? ["specifiers", "source"]
    let specifiers ← r.need "specifiers" (Json.list? ImportSpecifier.ofJson?)
    let source ← r.need "source" Literal.ofJson?
    return .importNamed specifiers source
  | "ExportNamedDeclaration" => do
    let r ← j.row? ["declaration", "specifiers", "source"]
    let declaration ← r.need "declaration" statement
    let specifiers ← r.need "specifiers" (Json.list? ExportSpecifier.ofJson?)
    let source ← r.mayBeNull "source" Literal.ofJson?
    return .exportNamed declaration specifiers source
  | _ => none

def Expr.ofTagged? (statement : Json → Option Statement) (expr : Json → Option Expr)
    (kind : String) (j : Json) : Option Expr :=
  match kind with
  | "Identifier" => (nameOfJson? j).map .ident
  | "Literal" => (Literal.ofJson? j).map .lit
  | "BinaryExpression" => do
    let r ← j.row? ["operator", "left", "right"]
    r.need "operator" (only? "+")
    let left ← r.need "left" expr
    let right ← r.need "right" expr
    return .plus left right
  | "CallExpression" => do
    let r ← j.row? ["callee", "arguments"]
    let callee ← r.need "callee" expr
    let arguments ← r.need "arguments" (Json.list? expr)
    return .call callee arguments
  | "MemberExpression" => do
    let r ← j.row? ["object", "property", "computed"]
    let target ← r.need "object" expr
    let property ← r.need "property" expr
    let computed ← r.need "computed" Json.bool?
    return .member target property computed
  | "ConditionalExpression" => do
    let r ← j.row? ["test", "consequent", "alternate"]
    let test ← r.need "test" expr
    let consequent ← r.need "consequent" expr
    let alternate ← r.need "alternate" expr
    return .cond test consequent alternate
  | "ObjectExpression" => do
    let r ← j.row? ["properties"]
    let properties ← r.need "properties" (Json.list? (Property.ofJson? expr))
    return .object properties
  | "FunctionExpression" => (Function.ofJson? statement j).map .func
  | _ => none

mutual
/-- A statement of at most `budget` levels inside of a document. -/
def Statement.within : Nat → Json → Option Statement
  | 0, _ => none
  | budget + 1, j => do
    let (kind, body) ← j.tagged? .inside Statement.kinds
    Statement.ofTagged? (Statement.within budget) (Expr.within budget) kind body
def Expr.within : Nat → Json → Option Expr
  | 0, _ => none
  | budget + 1, j => do
    let (kind, body) ← j.tagged? .inside Expr.kinds
    Expr.ofTagged? (Statement.within budget) (Expr.within budget) kind body
end

def Statement.ofRoot? (kind : String) (body : Json) : Option Statement :=
  Statement.ofTagged? (Statement.within body.depth) (Expr.within body.depth) kind body

def Statement.ofJson? (j : Json) : Option Statement := do
  let (kind, body) ← j.tagged? .root Statement.kinds
  Statement.ofRoot? kind body

def SourceType.names : List String := ["script", "module"]

def SourceType.ofName? : String → Option SourceType
  | "script" => some .script
  | "module" => some .module
  | _ => none

namespace Program

def ofJson? (j : Json) : Option Program := do
  let r ← j.row? ["body", "sourceType"]
  let body ← r.need "body" (Json.list? Statement.ofJson?)
  let sourceType ← r.need "sourceType" fun j => (j.name? .root SourceType.names).bind SourceType.ofName?
  return ⟨body, sourceType⟩

/-- What has been read of a program. -/
structure Draft where
  body : Option (List Statement)
  sourceType : Option SourceType

/-- The fields of a program. Its statements are two levels below the program. -/
def field (d : Draft) (name : String) : Reader Draft := fun ts =>
  match name with
  | "body" => do
    let statement := (Reader.tagged Statement.kinds (Reader.nestingLimit - 2)).check
      fun (kind, body) => Statement.ofRoot? kind body
    let (body, ts) ← Reader.list statement ts
    .ok ({ d with body := some body }, ts)
  | _ => do
    let (t, ts) ← (Reader.name SourceType.names).check SourceType.ofName? ts
    .ok ({ d with sourceType := some t }, ts)

def ofText (text : String) : Except Fault Program :=
  Reader.run ((Reader.record ["body", "sourceType"] field ⟨none, none⟩).check fun d => do
    return ⟨← d.body, ← d.sourceType⟩) text

end Program

end Stencil.Script
