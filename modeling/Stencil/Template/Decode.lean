import Stencil.Template.Basic

/-!
# Documents as template trees

Fields that hold a default may be missing, and fields of other names are ignored. A reader of
nested nodes works within a budget of levels; the depth of the document is always enough.
-/

namespace Stencil.Template

set_option autoImplicit false

open Json (Row Place)

/-- Named arguments, whose values `expr` reads. -/
def Hash.ofJson? (expr : Json → Option Expr) (j : Json) : Option (Hash Expr) := do
  let r ← j.row? ["pairs", "loc"]
  let pairs ← r.orDefault "pairs" (Json.list? pair) []
  let loc ← r.maybe "loc" Location.ofJson?
  return ⟨pairs, loc⟩
where
  pair (j : Json) : Option (HashPair Expr) := do
    let r ← j.row? ["key", "value", "loc"]
    let key ← r.need "key" Json.str?
    let value ← r.need "value" expr
    let loc ← r.maybe "loc" Location.ofJson?
    return ⟨key, value, loc⟩

/-- The call in a record, whose path stands under the given name. -/
def Call.ofRow? (expr : Json → Option Expr) (name : String) (r : Row) : Option Call := do
  let path ← r.need name expr
  let params ← r.orDefault "params" (Json.list? expr) []
  let hash ← r.maybe "hash" (Hash.ofJson? expr)
  return ⟨path, params, hash⟩

def Path.ofJson? (j : Json) : Option Path := do
  let r ← j.row? ["data", "depth", "parts", "original", "loc"]
  let data ← r.orDefault "data" Json.bool? false
  let depth ← r.orDefault "depth" Json.word? 0
  let parts ← r.orDefault "parts" (Json.list? Json.str?) []
  let written ← r.orDefault "original" Json.str? ""
  let loc ← r.maybe "loc" Location.ofJson?
  return ⟨data, depth, parts, written, loc⟩

namespace Expr

/-- A literal: its value and location. -/
def literal? {α : Type} (value : Json → Option α) (make : α → Option Location → Expr) (j : Json) :
    Option Expr := do
  let r ← j.row? ["value", "loc"]
  let v ← r.need "value" value
  let loc ← r.maybe "loc" Location.ofJson?
  return make v loc

/-- An expression that is all location. -/
def bare? (make : Option Location → Expr) (j : Json) : Option Expr := do
  let r ← j.row? ["loc"]
  let loc ← r.maybe "loc" Location.ofJson?
  return make loc

def ofTagged? (expr : Json → Option Expr) (kind : String) (j : Json) : Option Expr :=
  match kind with
  | "PathExpression" => (Path.ofJson? j).map .path
  | "SubExpression" => do
    let r ← j.row? ["path", "params", "hash", "loc"]
    let call ← Call.ofRow? expr "path" r
    let loc ← r.maybe "loc" Location.ofJson?
    return .sub call.path call.params call.hash loc
  | "StringLiteral" => literal? Json.str? .str j
  | "NumberLiteral" => literal? Json.num? .num j
  | "BooleanLiteral" => literal? Json.bool? .bool j
  | "UndefinedLiteral" => bare? .undefined j
  | "NullLiteral" => bare? .null j
  | _ => none

/-- An expression of at most `budget` levels inside of a document. -/
def within : Nat → Json → Option Expr
  | 0, _ => none
  | budget + 1, j => do
    let (kind, body) ← j.tagged? .inside kinds
    ofTagged? (within budget) kind body

def ofJson? (j : Json) : Option Expr := do
  let (kind, body) ← j.tagged? .root kinds
  ofTagged? (within j.depth) kind body

end Expr

def Mustache.ofJson? (expr : Json → Option Expr) (j : Json) : Option Mustache := do
  let r ← j.row? ["path", "params", "hash", "escaped", "loc"]
  let call ← Call.ofRow? expr "path" r
  let escaped ← r.orDefault "escaped" Json.bool? true
  let loc ← r.maybe "loc" Location.ofJson?
  return ⟨call, escaped, loc⟩

/-- A sequence of statements, which `node` reads. Its names may be `null`. -/
def Program.ofJson? (node : Json → Option Node) (j : Json) : Option (Program Node) := do
  let r ← j.row? ["body", "blockParams", "loc"]
  let body ← r.orDefault "body" (Json.list? node) []
  let names ← r.maybe "blockParams" (Json.list? Json.str?)
  let loc ← r.maybe "loc" Location.ofJson?
  return ⟨body, names.getD [], loc⟩

def Block.ofJson? (node : Json → Option Node) (expr : Json → Option Expr) (j : Json) :
    Option (Block Node) := do
  let r ← j.row? ["path", "params", "hash", "program", "inverse", "loc"]
  let call ← Call.ofRow? expr "path" r
  let program ← r.maybe "program" (Program.ofJson? node)
  let inverse ← r.maybe "inverse" (Program.ofJson? node)
  let loc ← r.maybe "loc" Location.ofJson?
  return ⟨call, program, inverse, loc⟩

namespace Node

def ofTagged? (node : Json → Option Node) (expr : Json → Option Expr) (kind : String) (j : Json) :
    Option Node :=
  match kind with
  | "Program" => (Program.ofJson? node j).map .program
  | "ContentStatement" => do
    let r ← j.row? ["value", "original", "loc"]
    let value ← r.need "value" Json.str?
    let written ← r.orDefault "original" Json.str? ""
    let loc ← r.maybe "loc" Location.ofJson?
    return .content value written loc
  | "CommentStatement" => do
    let r ← j.row? ["value", "loc"]
    let value ← r.orDefault "value" Json.str? ""
    let loc ← r.maybe "loc" Location.ofJson?
    return .comment value loc
  | "MustacheStatement" => (Mustache.ofJson? expr j).map .mustache
  | "BlockStatement" => (Block.ofJson? node expr j).map .block
  | "PartialStatement" => do
    let r ← j.row? ["name", "params", "hash", "loc"]
    let call ← Call.ofRow? expr "name" r
    let loc ← r.maybe "loc" Location.ofJson?
    return .partialCall call loc
  | "PartialBlockStatement" => do
    let r ← j.row? ["name", "params", "hash", "program", "loc"]
    let call ← Call.ofRow? expr "name" r
    let main ← r.maybe "program" (Program.ofJson? node)
    let loc ← r.maybe "loc" Location.ofJson?
    return .partialBlock call main loc
  | "Decorator" => (Mustache.ofJson? expr j).map .decorator
  | "DecoratorBlock" => (Block.ofJson? node expr j).map .decoratorBlock
  | _ => none

def within : Nat → Json → Option Node
  | 0, _ => none
  | budget + 1, j => do
    let (kind, body) ← j.tagged? .inside kinds
    ofTagged? (within budget) (Expr.within budget) kind body

def ofRoot? (kind : String) (body : Json) : Option Node :=
  ofTagged? (within body.depth) (Expr.within body.depth) kind body

def ofJson? (j : Json) : Option Node := do
  let (kind, body) ← j.tagged? .root kinds
  ofRoot? kind body

def ofText (text : String) : Except Fault Node :=
  Reader.run ((Reader.tagged kinds Reader.nestingLimit).check fun (kind, body) => ofRoot? kind body) text

end Node

end Stencil.Template
