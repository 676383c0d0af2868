import Stencil.Compile.Diagnostic
import Stencil.Compile.HelperTable
import Stencil.Compile.Options
import Stencil.Script.Build
import Stencil.Template.Basic

/-!
# Compiling templates

A template becomes one render function. Every body of a helper block is a function of its own
whose only parameter is the context of that scope: `data1` in the render function, `data2` one
block deeper, and so on, so that a path with `depth` steps up starts at the variable of that many
scopes out. `if` and `unless` become conditionals in the scope where they stand.

The pass carries the helpers met so far, the warnings, and the names that the resolver was asked
for; it keeps them also when it fails.
-/

namespace Stencil

set_option autoImplicit false

open Template (Node Location Path Call Mustache Hash HashPair)
open Script (Property Function Statement)

/-- What stays the same during a compilation. -/
structure Settings where
  options : Options
  resolve : Resolver

structure Gathered where
  helpers : HelperTable
  report : Report
  /-- The names that the resolver was asked for, in order. -/
  asked : List String

def Gathered.none : Gathered := ⟨.empty, .empty, []⟩

/-- A step of a compilation. What it gathers stays also if it fails. -/
abbrev Compiling := ExceptT CompileError (StateM Gathered)

namespace Compiling

/-- Fails with a construct that scripts have no counterpart of. -/
def unsupported {α : Type} (c : Construct) (loc : Option Location) : Compiling α :=
  throw (.unsupported c loc)

def warn (code : String) (c : Construct) (loc : Option Location) : Compiling Unit :=
  modify fun g =>
    { g with report := g.report.warn code ("dropped unsupported construct: " ++ c.text) loc }

/-- Unless the options are strict, a construct without a counterpart becomes a warning and no
result. Every other error stays. -/
def tolerate {α : Type} (s : Settings) (code : String) (x : Compiling α) : Compiling (Option α) :=
  tryCatch (some <$> x) fun
    | .unsupported c loc =>
      if s.options.strict then unsupported c loc
      else do
        warn code c loc
        return none
    | e => throw e

def ignore (s : Settings) (c : Construct) (loc : Option Location) : Compiling Unit := do
  let _ ← tolerate s Diagnostic.ignoredParams (unsupported (α := Unit) c loc)

/-- The variable of a scope; the render function's is scope one. -/
def contextName (scope : Nat) : String := "data" ++ toString scope

def isContextName (name : String) : Bool :=
  match name.toList with
  | 'd' :: 'a' :: 't' :: 'a' :: ds => !ds.isEmpty && ds.all Char.isDigit
  | _ => false

def path (scope : Nat) (p : Path) : Compiling Script.Expr :=
  if p.data then unsupported (.dataVariable p.written) p.loc
  else if p.depth.toNat < scope then return .chain (contextName (scope - p.depth.toNat)) p.parts
  else throw (.scopeOutOfRange p.written p.depth.toNat scope p.loc)

def value (scope : Nat) : Template.Expr → Compiling Script.Expr
  | .path p => path scope p
  | .str s _ => return .ofScalar (.str s)
  | .num n _ => return .ofScalar (.num n)
  | .bool b _ => return .ofScalar (.bool b)
  | .null _ => return .ofScalar .null
  | .undefined _ => return .ident "undefined"
  | .sub _ _ _ loc => unsupported .subExpression loc

/-- Positional parameters are reported, where the first one stands. -/
def checkParams (s : Settings) (callee : String) (params : List Template.Expr)
    (loc : Option Location) : Compiling Unit :=
  match params with
  | [] => return ()
  | p :: _ => ignore s (.positionalParams params.length callee) (p.loc.or loc)

def checkHash (s : Settings) (callee : String) (hash : Option (Hash Template.Expr)) : Compiling Unit :=
  match hash with
  | none => return ()
  | some h =>
    if h.pairs.isEmpty then return ()
    else ignore s (.hashArguments (h.pairs.map (·.key)) callee) h.loc

def checkBlockParams (s : Settings) (names : List String) (loc : Option Location) : Compiling Unit :=
  if names.isEmpty then return () else ignore s (.blockParams names) loc

/-- The name of the helper that a path calls: only a plain name can be called. -/
def helperName (p : Template.Expr) (loc : Option Location) : Compiling String :=
  match p with
  | .path ⟨false, 0, [name], _, _⟩ => return name
  | .path p => unsupported (.callThroughPath p.written) (p.loc.or loc)
  | e => unsupported (.helperNamedBy e.kind) (e.loc.or loc)

def isConditional (name : String) : Bool := name == "if" || name == "unless"

def record (s : Settings) (name : String) : Compiling Unit := do
  let g ← get
  let r := g.helpers.record name s.resolve
  set { g with helpers := r.table, asked := g.asked ++ r.asked }
  match r.answer with
  | .ok _ => return ()
  | .error cause => throw (.helperResolution name cause)

/-- The properties of some named arguments; one without a counterpart is dropped. -/
def properties (s : Settings) (scope : Nat) :
    List (HashPair Template.Expr) → Compiling (List (Property Script.Expr))
  | [] => return []
  | p :: ps => do
    let v ← tolerate s Diagnostic.droppedHashPair (value scope p.value)
    let rest ← properties s scope ps
    return match v with
      | some v => .of p.key v :: rest
      | none => rest

/-- The named arguments of a helper call, after the checks on its name. -/
def arguments (s : Settings) (scope : Nat) (name : String) (call : Call) (loc : Option Location) :
    Compiling (List (Property Script.Expr)) := do
  if Script.isReserved name then unsupported (.reservedHelper name) loc
  if name = s.options.renderName ∨ isContextName name then unsupported (.clashingHelper name) loc
  record s name
  checkParams s name call.params loc
  properties s scope ((call.hash.map (·.pairs)).getD [])

/-- The call of a helper: its named arguments, and its bodies if it has any. -/
def helperCall (name : String) (named bodies : List (Property Script.Expr)) : Script.Expr :=
  .callNamed name (.object named :: if bodies.isEmpty then [] else [.object bodies])

/-- A mustache without named arguments writes the value of a path. -/
def interpolation (s : Settings) (scope : Nat) (m : Mustache) : Compiling Script.Expr :=
  match m.call.path with
  | .path p => do
    checkParams s p.written m.call.params m.loc
    let e ← path scope p
    return .callNamed (if m.escaped then s.options.escapeFn else s.options.stringifyFn) [e]
  | e => unsupported (.mustacheOf e.kind) m.loc

/-- A mustache with named arguments calls a helper. -/
def mustacheCall (s : Settings) (scope : Nat) (m : Mustache) : Compiling Script.Expr := do
  let name ← helperName m.call.path m.loc
  if isConditional name then throw (.invalidHelperCall name .notABlock m.loc)
  let named ← arguments s scope name m.call m.loc
  return helperCall name named []

def mustache (s : Settings) (scope : Nat) (m : Mustache) : Compiling Script.Expr :=
  if ((m.call.hash.map (·.pairs)).getD []).isEmpty then interpolation s scope m
  else mustacheCall s scope m

/-- The test of a conditional: its only parameter. -/
def test (s : Settings) (scope : Nat) (name : String) (call : Call) (loc : Option Location) :
    Compiling (Option Script.Expr) :=
  match call.params with
  | [] => throw (.invalidHelperCall name .oneParameter loc)
  | condition :: extra => do
    checkParams s name extra loc
    checkHash s name call.hash
    tolerate s Diagnostic.unsupportedConstruct (value scope condition)

/-- The sum of some parts, the empty text for none. -/
def join (parts : List Script.Expr) : Script.Expr := (Script.Expr.sum? parts).getD (.text "")

mutual
/-- A statement; nothing if it has no output. -/
def node (s : Settings) (scope : Nat) : Node → Compiling (Option Script.Expr)
  | .content text _ _ => return some (.text text)
  | .comment .. => return none
  | .mustache m => some <$> mustache s scope m
  | .block ⟨call, main, inverse, loc⟩ => do
    let name ← helperName call.path loc
    if isConditional name then
      match ← test s scope name call loc with
      | none => return none
      | some t =>
        let a ← branch s scope main
        let b ← branch s scope inverse
        return some (if name == "if" then .cond t a b else .cond t b a)
    else
      let named ← arguments s scope name call loc
      let a ← body s scope "fn" main
      let b ← body s scope "inverse" inverse
      return some (helperCall name named (a ++ b))
  | .partialCall _ loc => unsupported (.partialTemplate "PartialStatement") loc
  | .partialBlock _ _ loc => unsupported (.partialTemplate "PartialBlockStatement") loc
  | .decorator m => unsupported (.decorator "Decorator") m.loc
  | .decoratorBlock b => unsupported (.decorator "DecoratorBlock") b.loc
  | .program p => unsupported .nestedProgram p.loc
/-- The outputs of some statements. A statement without a counterpart has none. -/
def nodes (s : Settings) (scope : Nat) : List Node → Compiling (List Script.Expr)
  | [] => return []
  | n :: ns => do
    let e ← tolerate s Diagnostic.unsupportedConstruct (node s scope n)
    let es ← nodes s scope ns
    return match e with
      | some (some e) => e :: es
      | _ => es
/-- A branch of a conditional, in the scope of the conditional. -/
def branch (s : Settings) (scope : Nat) : Option (Template.Program Node) → Compiling Script.Expr
  | none => return .text ""
  | some ⟨ns, names, loc⟩ => do
    checkBlockParams s names loc
    let es ← nodes s scope ns
    return join es
/-- A body of a helper block as a property: a function one scope deeper. An empty body has none. -/
def body (s : Settings) (scope : Nat) (key : String) :
    Option (Template.Program Node) → Compiling (List (Property Script.Expr))
  | none => return []
  | some ⟨[], _, _⟩ => return []
  | some ⟨n :: ns, names, loc⟩ => do
    checkBlockParams s names loc
    let es ← nodes s (scope + 1) (n :: ns)
    return [.of key (.func (.returning none (contextName (scope + 1)) (join es)))]
end

def root (s : Settings) : Node → Compiling (Function Statement)
  | .program ⟨ns, names, loc⟩ => do
    checkBlockParams s names loc
    let es ← nodes s 1 ns
    return .returning (some s.options.renderName) (contextName 1) (join es)
  | n => throw (.notAProgram n.kind)

end Compiling

structure Compilation where
  /-- The imports of helpers, then the render function. -/
  program : Script.Program
  helpers : HelperTable
  diagnostics : List Diagnostic

def Compilation.module (exported : Bool) (helpers : HelperTable) (f : Function Statement) : Script.Program where
  body := helpers.imports.map (fun (name, source) => .importing name source) ++
    [if exported then .exported (.function f) else .function f]
  sourceType := .module

/-- The result of a compilation, and what is left of it also if it failed: the names that the resolver
was asked for, and the warnings so far. -/
structure Compiled where
  result : Except CompileError Compilation
  asked : List String
  warned : List Diagnostic

def compile (t : Node) (options : Options) (resolve : Resolver) : Compiled :=
  let (r, g) := (Compiling.root ⟨options, resolve⟩ t).run.run Gathered.none
  ⟨r.map fun f => ⟨Compilation.module options.exported g.helpers f, g.helpers, g.report.entries⟩, g.asked,
    g.report.entries⟩

end Stencil
