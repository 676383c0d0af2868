import Stencil.Evaluator.Routine
import Stencil.Script.Depth
import Stencil.Value.Escape

/-!
# Evaluating scripts

An evaluator runs the render function of a program on data. It knows global names, and what the
helpers of the host do. The depth of calls is bounded by fuel, and running out of it is told apart
from every error; nothing else limits an evaluation, since expressions are evaluated along their
structure and a helper's routine is finite.
-/

namespace Stencil

set_option autoImplicit false

open Script (Function Statement Expr Property)

structure HostCall (η : Type) where
  name : String
  helper : η
  args : List (Value η)

inductive Stop where
  | failed (error : EvalError)
  /-- The calls were nested deeper than the fuel allows. -/
  | exhausted
deriving Repr, DecidableEq

/-- An evaluation: a value or a stop, and the calls of helpers in the order in which they began. -/
abbrev Eval (η : Type) := ExceptT Stop (StateM (List (HostCall η)))

structure Evaluator (η : Type) where
  globals : List (String × Value η)
  behaviour : η → List (Value η) → Routine η

namespace Eval

variable {η : Type}

def fail {α : Type} (e : EvalError) : Eval η α := throw (.failed e)

/-- The outcome of an evaluation that did not run out of fuel. -/
def outcome {α : Type} (x : Eval η α) : Eval η (Except EvalError α) :=
  tryCatch (Except.ok <$> x) fun
    | .failed e => return .error e
    | .exhausted => throw .exhausted

def ofOutcome {α : Type} : Except EvalError α → Eval η α
  | .ok a => return a
  | .error e => fail e

def note (c : HostCall η) : Eval η Unit := modify fun cs => cs ++ [c]

end Eval

/-- Runs a routine, given how a body is rendered. -/
def Routine.run {η : Type} (render : Body → Value η → Eval η (Value η)) : Routine η → Eval η (Value η)
  | .done r => Eval.ofOutcome r
  | .render b context next => do
    let r ← Eval.outcome (render b context)
    (next r).run render

def Builtin.apply {η : Type} (f : Builtin) (args : List (Value η)) : Value η :=
  let v := args.head?.getD .undefined
  match f with
  | .escape => .string v.escaped
  | .string => .string v.text

/-- Binds parameters to arguments; a parameter without an argument is `undefined`. -/
def bindParams {η : Type} : List String → List (Value η) → Variables η → Variables η
  | [], _, vars => vars
  | p :: ps, [], vars => bindParams ps [] ((p, .undefined) :: vars)
  | p :: ps, v :: vs, vars => bindParams ps vs ((p, v) :: vars)

namespace Evaluator

variable {η : Type}

/-- An evaluator that knows only the two built-in functions. -/
def new (behaviour : η → List (Value η) → Routine η) : Evaluator η where
  globals := [("escape", .builtin .escape), ("String", .builtin .string)]
  behaviour := behaviour

def define (ev : Evaluator η) (name : String) (v : Value η) : Evaluator η :=
  { ev with globals := Value.setField name v ev.globals }

def register (ev : Evaluator η) (name : String) (helper : η) : Evaluator η :=
  ev.define name (.host name helper)

/-- Binds another name to what a global name is bound to. -/
def aliasTo (ev : Evaluator η) (name existing : String) : Except EvalError (Evaluator η) :=
  match ev.globals.lookup existing with
  | some v => .ok (ev.define name v)
  | none => .error (.reference existing)

/-- What a name stands for: a variable, else a global name, else `undefined` for itself. -/
def lookup (ev : Evaluator η) (vars : Variables η) (name : String) : Eval η (Value η) :=
  match vars.lookup name with
  | some v => return v
  | none =>
    match ev.globals.lookup name with
    | some v => return v
    | none => if name = "undefined" then return .undefined else Eval.fail (.reference name)

def scalar : Script.Scalar → Value η
  | .str s => .string s
  | .num n => .number n.toFloat
  | .bool b => .bool b
  | .null => .null

def member (v : Value η) (key : String) : Eval η (Value η) :=
  if v.isNullish then Eval.fail (.memberOf v.typeName key) else return v.get key

mutual
/-- The value of an expression, given how functions are called. -/
def evaluate (ev : Evaluator η) (call : Value η → List (Value η) → Eval η (Value η))
    (vars : Variables η) : Expr → Eval η (Value η)
  | .ident name => ev.lookup vars name
  | .lit l => return scalar l.value
  | .plus left right => do
    let a ← evaluate ev call vars left
    let b ← evaluate ev call vars right
    return a.add b
  | .call callee arguments => do
    let f ← evaluate ev call vars callee
    let args ← evaluateAll ev call vars arguments
    call f args
  | .member target (.ident name) false => do
    let v ← evaluate ev call vars target
    member v name
  | .member target property _ => do
    let v ← evaluate ev call vars target
    let key ← evaluate ev call vars property
    member v key.text
  | .cond test consequent alternate => do
    let t ← evaluate ev call vars test
    if t.isTruthy then evaluate ev call vars consequent else evaluate ev call vars alternate
  | .object properties => do
    let fields ← evaluateFields ev call vars [] properties
    return .object fields
  | .func f => return .closure f vars
def evaluateAll (ev : Evaluator η) (call : Value η → List (Value η) → Eval η (Value η))
    (vars : Variables η) : List Expr → Eval η (List (Value η))
  | [] => return []
  | e :: es => do
    let v ← evaluate ev call vars e
    let vs ← evaluateAll ev call vars es
    return v :: vs
def evaluateFields (ev : Evaluator η) (call : Value η → List (Value η) → Eval η (Value η))
    (vars : Variables η) (fields : List (String × Value η)) :
    List (Property Expr) → Eval η (List (String × Value η))
  | [] => return fields
  | ⟨key, value, computed, method, shorthand⟩ :: ps =>
    match Property.name? ⟨key, value, computed, method, shorthand⟩ with
    | none => Eval.fail (.unsupported .computedKey)
    | some name => do
      let v ← evaluate ev call vars value
      evaluateFields ev call vars (Value.setField name v fields) ps
end

/-- Runs the body of a function: its first statement has to return. -/
def runBody (ev : Evaluator η) (call : Value η → List (Value η) → Eval η (Value η))
    (vars : Variables η) : List Statement → Eval η (Value η)
  | [] => return .undefined
  | .ret none :: _ => return .undefined
  | .ret (some e) :: _ => evaluate ev call vars e
  | _ => Eval.fail (.unsupported .statementInBody)

/-- Renders a body of a helper call; one that is not there renders to the empty text. -/
def renderBody (call : Value η → List (Value η) → Eval η (Value η)) (args : List (Value η)) (b : Body)
    (context : Value η) : Eval η (Value η) :=
  match Invocation.body args b with
  | .undefined => return .string ""
  | f => call f [context]

/-- Calls a value, with calls nested at most `fuel` deep. -/
def callWithin (ev : Evaluator η) : Nat → Value η → List (Value η) → Eval η (Value η)
  | 0, _, _ => throw .exhausted
  | fuel + 1, callee, args =>
    match callee with
    | .closure f vars => runBody ev (callWithin ev fuel) (bindParams f.params args vars) f.body
    | .builtin f => return f.apply args
    | .host name helper => do
      Eval.note ⟨name, helper, args⟩
      (ev.behaviour helper args).run (renderBody (callWithin ev fuel) args)
    | v => Eval.fail (.notAFunction v.typeName)

def imported (ev : Evaluator η) (name module : String) : Eval η (Value η) :=
  match ev.globals.lookup name with
  | some v => return v
  | none => Eval.fail (.unresolvedImport name module)

def bindImport (ev : Evaluator η) (module : String) :
    List Script.ImportSpecifier → Variables η → Eval η (Variables η)
  | [], vars => return vars
  | s :: ss, vars => do
    let v ← ev.imported s.imported module
    bindImport ev module ss ((s.localName, v) :: vars)

def bindImports (ev : Evaluator η) : List Statement → Variables η → Eval η (Variables η)
  | [], vars => return vars
  | .importNamed specifiers source :: ss, vars => do
    let module := match source.value with
      | .str s => s
      | _ => ""
    let vars ← ev.bindImport module specifiers vars
    bindImports ev ss vars
  | .ret _ :: _, _ => Eval.fail (.unsupported .topLevelReturn)
  | .function _ :: ss, vars => bindImports ev ss vars
  | .exportNamed .. :: ss, vars => bindImports ev ss vars

/-- Renders data with the render function of a program, with calls nested at most `fuel` deep. -/
def renderWithin (ev : Evaluator η) (fuel : Nat) (p : Script.Program) (data : Value η) : Eval η String := do
  let vars ← ev.bindImports p.body []
  match p.render? with
  | none => Eval.fail .missingRender
  | some f =>
    let v ← ev.callWithin fuel (.closure f vars) [data]
    return v.text

/-- How deep calls may nest without regard to the program: scripts that pass functions to functions
may call deeper than they are nested. -/
def callAllowance : Nat := 1000000

/-- The fuel for a program: two calls for each nested function, that of the function and that of the
helper which calls it, and the allowance. -/
def fuelFor (p : Script.Program) : Nat := 2 * p.functionDepth + callAllowance

/-- An outcome and the calls of helpers on the way. -/
structure Trace (η α : Type) where
  outcome : Except Stop α
  calls : List (HostCall η)

def trace {α : Type} (x : Eval η α) : Trace η α :=
  let (r, cs) := x.run.run []
  ⟨r, cs⟩

def call (ev : Evaluator η) (callee : Value η) (args : List (Value η)) : Trace η (Value η) :=
  trace (ev.callWithin callAllowance callee args)

def render (ev : Evaluator η) (p : Script.Program) (data : Value η) : Trace η String :=
  trace (ev.renderWithin (fuelFor p) p data)

end Evaluator

end Stencil
