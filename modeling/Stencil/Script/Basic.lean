import Stencil.Json.Number

/-!
# Script trees

The part of the ESTree node set that compiled templates need: modules with named imports, function
declarations and exports, function bodies that return, and expressions built from identifiers,
literals, `+`, calls, member access, conditionals, object literals and function expressions.
-/

namespace Stencil.Script

set_option autoImplicit false

inductive Scalar where
  | str (value : String)
  | num (value : Number)
  | bool (value : Bool)
  | null

/-- A literal: its value and how it is written. -/
structure Literal where
  value : Scalar
  raw : Option String

/-- `imported as local` in an import. -/
structure ImportSpecifier where
  localName : String
  imported : String
deriving Repr, DecidableEq

/-- `local as exported` in an export. -/
structure ExportSpecifier where
  localName : String
  exported : String
deriving Repr, DecidableEq

/-- The common part of function declarations and function expressions. -/
structure Function (σ : Type) where
  id : Option String
  params : List String
  body : List σ
  generator : Bool
  isAsync : Bool

/-- `key: value` in an object literal. -/
structure Property (ε : Type) where
  key : ε
  value : ε
  computed : Bool
  method : Bool
  shorthand : Bool

mutual
inductive Statement where
  | function (function : Function Statement)
  | ret (argument : Option Expr)
  | importNamed (specifiers : List ImportSpecifier) (source : Literal)
  | exportNamed (declaration : Statement) (specifiers : List ExportSpecifier) (source : Option Literal)
inductive Expr where
  | ident (name : String)
  | lit (literal : Literal)
  | plus (left right : Expr)
  | call (callee : Expr) (arguments : List Expr)
  | member (target property : Expr) (computed : Bool)
  | cond (test consequent alternate : Expr)
  | object (properties : List (Property Expr))
  | func (function : Function Statement)
end

inductive SourceType where
  | script
  | module
deriving Repr, DecidableEq

structure Program where
  body : List Statement
  sourceType : SourceType

/-- The expression of the first return statement with an argument. -/
def Function.returned? (f : Function Statement) : Option Expr :=
  f.body.findSome? fun
    | .ret argument => argument
    | _ => none

/-- The function that a statement declares, also behind an export. -/
def Statement.declared? : Statement → Option (Function Statement)
  | .function f => some f
  | .exportNamed (.function f) _ _ => some f
  | _ => none

/-- The local name and the source of an import: those of its first specifier. -/
def Statement.import? : Statement → Option (String × String)
  | .importNamed (s :: _) ⟨.str source, _⟩ => some (s.localName, source)
  | _ => none

/-- The key of a property, if it is an identifier or a string. -/
def Property.name? (p : Property Expr) : Option String :=
  match p.key with
  | .ident name => some name
  | .lit ⟨.str s, _⟩ => some s
  | _ => none

namespace Program

/-- The first function declaration. -/
def render? (p : Program) : Option (Function Statement) :=
  p.body.findSome? Statement.declared?

def imports (p : Program) : List (String × String) :=
  p.body.filterMap Statement.import?

end Program

end Stencil.Script
