/-!
# Evaluation errors
-/

namespace Stencil

set_option autoImplicit false

/-- A script outside of what the evaluator runs. -/
inductive Beyond where
  | topLevelReturn
  | statementInBody
  | computedKey
deriving Repr, DecidableEq

def Beyond.text : Beyond → String
  | .topLevelReturn => "top-level return"
  | .statementInBody => "statement in function body"
  | .computedKey => "computed object key"

inductive EvalError where
  | reference (name : String)
  /-- A call of a value that is no function, given by its type. -/
  | notAFunction (type : String)
  /-- A member of `undefined` or `null`, given by its type. -/
  | memberOf (type key : String)
  /-- A value that a helper refuses. -/
  | type (message : String)
  | unresolvedImport (name module : String)
  | missingRender
  | unsupported (what : Beyond)
  | helper (name message : String)
deriving Repr, DecidableEq

namespace EvalError

def message : EvalError → String
  | .reference name => "ReferenceError: " ++ name ++ " is not defined"
  | .notAFunction t => "TypeError: " ++ t ++ " is not a function"
  | .memberOf t key =>
    "TypeError: Cannot read properties of " ++ t ++ " (reading '" ++ key ++ "')"
  | .type text => "TypeError: " ++ text
  | .unresolvedImport name module =>
    "No helper registered for import '" ++ name ++ "' from '" ++ module ++ "'"
  | .missingRender => "Program does not declare a render function"
  | .unsupported what => "Cannot evaluate " ++ what.text
  | .helper name text => "Helper '" ++ name ++ "' failed: " ++ text

end EvalError

end Stencil
