import Stencil.Evaluator.Error
import Stencil.Value.Text

/-!
# What a helper does

A helper of the host computes its result from its arguments and from what its block bodies render
to. A `Routine` is that computation as a finite tree: it is done, or it renders a body on some
context and goes on with the outcome.
-/

namespace Stencil

set_option autoImplicit false

inductive Body where
  | main
  | inverse
deriving Repr, DecidableEq

/-- The key under which a call hands over a body. -/
def Body.key : Body → String
  | .main => "fn"
  | .inverse => "inverse"

inductive Routine (η : Type) where
  | done (result : Except EvalError (Value η))
  | render (body : Body) (context : Value η) (next : Except EvalError (Value η) → Routine η)

namespace Routine

variable {η : Type}

def value (v : Value η) : Routine η := .done (.ok v)

/-- Renders a body; an error of it ends the helper. -/
def thenWith (body : Body) (context : Value η) (next : Value η → Routine η) : Routine η :=
  .render body context fun
    | .ok v => next v
    | .error e => .done (.error e)

/-- The outcome of a body is that of the helper. -/
def only (body : Body) (context : Value η) : Routine η := .render body context .done

end Routine

namespace Invocation

variable {η : Type}

def named (args : List (Value η)) (key : String) : Value η :=
  (args.head?.map (·.get key)).getD .undefined

/-- A body of a call, `undefined` if there is none. -/
def body (args : List (Value η)) (b : Body) : Value η :=
  (args[1]?.map (·.get b.key)).getD .undefined

def hasMain (args : List (Value η)) : Bool := (body args .main).isFunction

end Invocation

end Stencil
