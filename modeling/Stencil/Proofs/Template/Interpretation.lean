import Stencil.Evaluator.Basic
import Stencil.Proofs.Template.Statement

/-!
# Templates without scripts

What a template means when nobody compiles it. A statement is read over a stack of contexts, the
innermost first: `../` goes down the stack, a body of a helper block is read with the context that
the helper renders it on on top, and a branch of a conditional with the stack as it is.

A helper of the host sees the first argument of a call and which bodies there are, and it renders
them. It cannot tell how a body is represented.
-/

namespace Stencil

set_option autoImplicit false

open Template (Node Path Mustache HashPair)

variable {η : Type}

/-- A context as a body is rendered on it. -/
abbrev Rendering (η : Type) := Value η → Except EvalError (Value η)

def Body.select {α : Type} (main inverse : α) : Body → α
  | .main => main
  | .inverse => inverse

/-- What a helper sees of a call. -/
structure Sight (η : Type) where
  /-- The first argument: the named arguments, or the value to write. -/
  argument : Value η
  has : Body → Bool

def Sight.ofArgs (args : List (Value η)) : Sight η :=
  ⟨args.head?.getD .undefined, fun b => (Invocation.body args b).isFunction⟩

/-- The result of a routine, given what bodies render to. -/
def Routine.result (render : Body → Rendering η) : Routine η → Except EvalError (Value η)
  | .done r => r
  | .render b context next => (next (render b context)).result render

/-- Global names, and helpers that act on nothing but the sight of a call. -/
structure Host (η : Type) where
  globals : List (String × Value η)
  conduct : η → Sight η → Routine η

namespace Host

def evaluator (host : Host η) : Evaluator η where
  globals := host.globals
  behaviour h args := host.conduct h (Sight.ofArgs args)

/-- A function that scripts did not make is known under this name. -/
def Registered (host : Host η) (name : String) : Prop :=
  (∃ f, host.globals.lookup name = some (.builtin f)) ∨
    ∃ registered h, host.globals.lookup name = some (.host registered h)

def apply (host : Host η) (f argument : Value η) (bodies : Body → Option (Rendering η)) :
    Except EvalError (Value η) :=
  match f with
  | .builtin f => .ok (f.apply [argument])
  | .host _ h =>
    (host.conduct h ⟨argument, fun b => (bodies b).isSome⟩).result fun b =>
      (bodies b).getD fun _ => .ok (.string "")
  | f => .error (.notAFunction f.typeName)

def call (host : Host η) (name : String) (argument : Value η)
    (bodies : Body → Option (Rendering η)) : Except EvalError (Value η) :=
  match host.globals.lookup name with
  | some f => host.apply f argument bodies
  | none => .error (.reference name)

end Host

namespace Interpretation

open Compiling (isConditional)

def member (v : Value η) (key : String) : Except EvalError (Value η) :=
  if v.isNullish then .error (.memberOf v.typeName key) else .ok (v.get key)

/-- The value of a path: members of members of a context, from left to right. -/
def path (stack : List (Value η)) (p : Path) : Except EvalError (Value η) :=
  p.parts.foldlM member (stack[p.depth.toNat]?.getD .undefined)

def value (stack : List (Value η)) : Template.Expr → Except EvalError (Value η)
  | .path p => path stack p
  | .str s _ => .ok (.string s)
  | .num n _ => .ok (.number n.toFloat)
  | .bool b _ => .ok (.bool b)
  | .null _ => .ok .null
  | .undefined _ => .ok .undefined
  | .sub .. => .ok .undefined

/-- The values of named arguments, from left to right; of a repeated key the last one counts. -/
def fields (stack : List (Value η)) (found : List (String × Value η)) :
    List (HashPair Template.Expr) → Except EvalError (List (String × Value η))
  | [] => .ok found
  | pair :: pairs => do
    let v ← value stack pair.value
    fields stack (Value.setField pair.key v found) pairs

/-- Outputs are added up from the left. -/
def join : List (Value η) → Value η
  | [] => .string ""
  | v :: vs => vs.foldl Value.add v

/-- A mustache writes the value of a path, or calls a helper without bodies. -/
def mustache (host : Host η) (o : Options) (stack : List (Value η)) (m : Mustache) :
    Except EvalError (Option (Value η)) :=
  if m.call.named.isEmpty then
    match m.call.path with
    | .path p => do
      let v ← path stack p
      some <$> host.call (if m.escaped then o.escapeFn else o.stringifyFn) v fun _ => none
    | _ => .ok none
  else
    match m.call.helper? with
    | some name => do
      let named ← fields stack [] m.call.named
      some <$> host.call name (.object named) fun _ => none
    | none => .ok none

mutual
/-- The output of a statement, if it has one. -/
def node (host : Host η) (o : Options) (stack : List (Value η)) :
    Node → Except EvalError (Option (Value η))
  | .content text _ _ => .ok (some (.string text))
  | .mustache m => mustache host o stack m
  | .block ⟨call, main, inverse, _⟩ =>
    match call.path.plainName? with
    | none => .ok none
    | some name =>
      if isConditional name then
        match call.params with
        | [] => .ok none
        | test :: _ => do
          let t ← value stack test
          some <$> if t.isTruthy = (name == "if") then branch host o stack main
            else branch host o stack inverse
      else do
        let named ← fields stack [] call.named
        some <$> host.call name (.object named)
          (Body.select (body host o stack main) (body host o stack inverse))
  | _ => .ok none
def nodes (host : Host η) (o : Options) (stack : List (Value η)) :
    List Node → Except EvalError (List (Value η))
  | [] => .ok []
  | n :: ns => do
    let v ← node host o stack n
    let vs ← nodes host o stack ns
    return v.toList ++ vs
def branch (host : Host η) (o : Options) (stack : List (Value η)) :
    Option (Template.Program Node) → Except EvalError (Value η)
  | none => .ok (.string "")
  | some ⟨ns, _, _⟩ => join <$> nodes host o stack ns
/-- A body of a helper block. An empty body is none. -/
def body (host : Host η) (o : Options) (stack : List (Value η)) :
    Option (Template.Program Node) → Option (Rendering η)
  | none => none
  | some ⟨[], _, _⟩ => none
  | some ⟨n :: ns, _, _⟩ => some fun context => join <$> nodes host o (context :: stack) (n :: ns)
end

/-- What a template renders data to. -/
def root (host : Host η) (o : Options) (data : Value η) : Node → Except EvalError String
  | .program ⟨ns, _, _⟩ => (fun vs => (join vs).text) <$> nodes host o [data] ns
  | _ => .ok ""

end Interpretation

end Stencil
