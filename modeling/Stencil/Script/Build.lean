import Stencil.Json.Writer
import Stencil.Script.Basic
import Stencil.Script.Name

/-!
# Building scripts

A literal is written as it would stand in a JSON document. A name that is no identifier is written
as a string instead: behind brackets in a member access, as a quoted key in an object.
-/

namespace Stencil.Script

set_option autoImplicit false

def Scalar.text : Scalar → String
  | .str s => String.ofList (Json.quoted s)
  | .num n => n.text
  | .bool b => if b then "true" else "false"
  | .null => "null"

def Literal.of (v : Scalar) : Literal := ⟨v, some v.text⟩

namespace Expr

def ofScalar (v : Scalar) : Expr := .lit (.of v)

def text (s : String) : Expr := ofScalar (.str s)

def callNamed (name : String) (arguments : List Expr) : Expr := .call (.ident name) arguments

def get (target : Expr) (name : String) : Expr :=
  if isIdentifier name then .member target (.ident name) false else .member target (text name) true

/-- Members of members, from a variable on. -/
def chain (root : String) (parts : List String) : Expr :=
  parts.foldl get (.ident root)

/-- The sum of some expressions, from the left; nothing for none. -/
def sum? : List Expr → Option Expr
  | [] => none
  | e :: es => some (es.foldl .plus e)

end Expr

/-- `key: value` -/
def Property.of (key : String) (value : Expr) : Property Expr where
  key := if isIdentifier key then .ident key else .text key
  value := value
  computed := false
  method := false
  shorthand := false

/-- `function id(param) { return argument; }` -/
def Function.returning (id : Option String) (param : String) (argument : Expr) : Function Statement where
  id := id
  params := [param]
  body := [.ret (some argument)]
  generator := false
  isAsync := false

/-- `export declaration` -/
def Statement.exported (declaration : Statement) : Statement := .exportNamed declaration [] none

/-- `import { name } from source` -/
def Statement.importing (name source : String) : Statement :=
  .importNamed [⟨name, name⟩] (.of (.str source))

end Stencil.Script
