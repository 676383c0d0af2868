import Stencil.Template.Basic

/-!
# Template trees as documents

Every field is written, in declaration order, also those that hold their default. A tagged node
starts with its `type`.
-/

namespace Stencil.Template

set_option autoImplicit false

namespace Expr

mutual
def toJson : Expr → Json
  | .path p => .obj
    [("type", .str "PathExpression"), ("data", .bool p.data), ("depth", .num (.ofWord p.depth)),
      ("parts", .arr (p.parts.map .str)), ("original", .str p.written),
      ("loc", Location.optToJson p.loc)]
  | .sub callee params hash loc => .obj
    [("type", .str "SubExpression"), ("path", callee.toJson), ("params", .arr (listToJson params)),
      ("hash", hashToJson hash), ("loc", Location.optToJson loc)]
  | .str s loc => .obj
    [("type", .str "StringLiteral"), ("value", .str s), ("loc", Location.optToJson loc)]
  | .num n loc => .obj
    [("type", .str "NumberLiteral"), ("value", .num n), ("loc", Location.optToJson loc)]
  | .bool b loc => .obj
    [("type", .str "BooleanLiteral"), ("value", .bool b), ("loc", Location.optToJson loc)]
  | .undefined loc => .obj [("type", .str "UndefinedLiteral"), ("loc", Location.optToJson loc)]
  | .null loc => .obj [("type", .str "NullLiteral"), ("loc", Location.optToJson loc)]
def listToJson : List Expr → List Json
  | [] => []
  | e :: es => e.toJson :: listToJson es
def hashToJson : Option (Hash Expr) → Json
  | none => .null
  | some ⟨pairs, loc⟩ => .obj [("pairs", .arr (pairsToJson pairs)), ("loc", Location.optToJson loc)]
def pairsToJson : List (HashPair Expr) → List Json
  | [] => []
  | ⟨key, value, loc⟩ :: ps =>
    .obj [("key", .str key), ("value", value.toJson), ("loc", Location.optToJson loc)] :: pairsToJson ps
end

end Expr

/-- The fields of a call, whose path stands under the given name. -/
def Call.fields (name : String) (c : Call) : List (String × Json) :=
  [(name, c.path.toJson), ("params", .arr (Expr.listToJson c.params)), ("hash", Expr.hashToJson c.hash)]

def Mustache.fields (m : Mustache) : List (String × Json) :=
  m.call.fields "path" ++ [("escaped", .bool m.escaped), ("loc", Location.optToJson m.loc)]

namespace Node

/-- The fields of a sequence whose statements are written already. -/
def programFields (body : List Json) (names : List String) (loc : Option Location) :
    List (String × Json) :=
  [("body", .arr body), ("blockParams", .arr (names.map .str)), ("loc", Location.optToJson loc)]

mutual
def toJson : Node → Json
  | .program ⟨body, names, loc⟩ =>
    .obj (("type", .str "Program") :: programFields (listToJson body) names loc)
  | .content value written loc => .obj
    [("type", .str "ContentStatement"), ("value", .str value), ("original", .str written),
      ("loc", Location.optToJson loc)]
  | .comment value loc => .obj
    [("type", .str "CommentStatement"), ("value", .str value), ("loc", Location.optToJson loc)]
  | .mustache m => .obj (("type", .str "MustacheStatement") :: m.fields)
  | .block ⟨call, main, inverse, loc⟩ => .obj (("type", .str "BlockStatement") :: call.fields "path" ++
    [("program", optToJson main), ("inverse", optToJson inverse), ("loc", Location.optToJson loc)])
  | .partialCall call loc => .obj (("type", .str "PartialStatement") :: call.fields "name" ++
    [("loc", Location.optToJson loc)])
  | .partialBlock call main loc => .obj (("type", .str "PartialBlockStatement") :: call.fields "name" ++
    [("program", optToJson main), ("loc", Location.optToJson loc)])
  | .decorator m => .obj (("type", .str "Decorator") :: m.fields)
  | .decoratorBlock ⟨call, main, inverse, loc⟩ => .obj (("type", .str "DecoratorBlock") :: call.fields "path" ++
    [("program", optToJson main), ("inverse", optToJson inverse), ("loc", Location.optToJson loc)])
def listToJson : List Node → List Json
  | [] => []
  | n :: ns => n.toJson :: listToJson ns
/-- A body that may be missing, as a document without a tag. -/
def optToJson : Option (Program Node) → Json
  | none => .null
  | some ⟨body, names, loc⟩ => .obj (programFields (listToJson body) names loc)
end

end Node

end Stencil.Template
