import Stencil.Compile.Options

/-!
# Arguments of the command line

Options come as `--name value` or `--name=value`, the output also as `-o value` or `-ovalue`; what
follows `--` is no option. Each option but `--helper` may come once. Arguments are taken one after
the other, and the first one that asks for the version or does not fit decides.
-/

namespace Stencil.CommandLine

set_option autoImplicit false

structure Arguments where
  /-- The template to read; standard input if it is missing or `-`. -/
  input : Option String := none
  /-- Where to write; standard output if it is missing. -/
  output : Option String := none
  escapeFn : Option String := none
  stringifyFn : Option String := none
  renderName : Option String := none
  helpers : Option String := none
  helper : List (String × String) := []
  exported : Bool := false
  legacy : Bool := false
  pretty : Bool := false
  diagnostics : Bool := false
deriving Repr, DecidableEq

inductive Valued where
  | output
  | escapeFn
  | stringifyFn
  | renderName
  | helpers
  | helper
deriving Repr, DecidableEq

inductive Flag where
  | exported
  | legacy
  | pretty
  | diagnostics
deriving Repr, DecidableEq

inductive Switch where
  | valued (option : Valued)
  | flag (option : Flag)
  | version
deriving Repr, DecidableEq

def Switch.ofName? : String → Option Switch
  | "output" => some (.valued .output)
  | "escape-fn" => some (.valued .escapeFn)
  | "stringify-fn" => some (.valued .stringifyFn)
  | "render-name" => some (.valued .renderName)
  | "helpers" => some (.valued .helpers)
  | "helper" => some (.valued .helper)
  | "export" => some (.flag .exported)
  | "legacy" => some (.flag .legacy)
  | "pretty" => some (.flag .pretty)
  | "diagnostics" => some (.flag .diagnostics)
  | "version" => some .version
  | _ => none

/-- What an argument list asks for. -/
inductive Command where
  | run (args : Arguments)
  | version
  | refused
deriving Repr, DecidableEq

def splitAtEquals (cs : List Char) : List Char × Option (List Char) :=
  match cs.dropWhile (· != '=') with
  | [] => (cs, none)
  | _ :: v => (cs.takeWhile (· != '='), some v)

/-- The name and the source of a helper: `name=source`, neither of them empty. -/
def helperPair? (v : String) : Option (String × String) :=
  match splitAtEquals v.toList with
  | (n :: ns, some (s :: ss)) => some (String.ofList (n :: ns), String.ofList (s :: ss))
  | _ => none

/-- Sets what may be set once. -/
def once {α : Type} (old : Option α) (new : α) : Option (Option α) :=
  match old with
  | none => some (some new)
  | some _ => none

def fileName? (v : String) : Option String := if v.isEmpty then none else some v

def Arguments.set? (a : Arguments) (o : Valued) (v : String) : Option Arguments :=
  match o with
  | .output => do return { a with output := ← once a.output (← fileName? v) }
  | .escapeFn => do return { a with escapeFn := ← once a.escapeFn v }
  | .stringifyFn => do return { a with stringifyFn := ← once a.stringifyFn v }
  | .renderName => do return { a with renderName := ← once a.renderName v }
  | .helpers => do return { a with helpers := ← once a.helpers (← fileName? v) }
  | .helper => do return { a with helper := a.helper ++ [← helperPair? v] }

def Arguments.raise? (a : Arguments) (f : Flag) : Option Arguments :=
  match f with
  | .exported => if a.exported then none else some { a with exported := true }
  | .legacy => if a.legacy then none else some { a with legacy := true }
  | .pretty => if a.pretty then none else some { a with pretty := true }
  | .diagnostics => if a.diagnostics then none else some { a with diagnostics := true }

def Arguments.place? (a : Arguments) (v : String) : Option Arguments := do
  return { a with input := ← once a.input (← fileName? v) }

/-- Whether an argument looks like an option: it starts with `-` and goes on. -/
def looksLikeOption (v : String) : Bool :=
  match v.toList with
  | '-' :: _ :: _ => true
  | _ => false

inductive Taken where
  | goOn (args : Arguments)
  | needsValue (option : Valued)
  | version
  | refused

def Taken.ofOption : Option Arguments → Taken
  | some a => .goOn a
  | none => .refused

def Arguments.take (a : Arguments) (v : String) : Taken :=
  match v.toList with
  | '-' :: '-' :: cs =>
    let (name, value) := splitAtEquals cs
    match Switch.ofName? (String.ofList name), value with
    | some (.valued o), some v => .ofOption (a.set? o (String.ofList v))
    | some (.valued o), none => .needsValue o
    | some (.flag f), none => .ofOption (a.raise? f)
    | some .version, none => .version
    | _, _ => .refused
  | '-' :: 'V' :: _ => .version
  | ['-', 'o'] => .needsValue .output
  | '-' :: 'o' :: '=' :: cs => .ofOption (a.set? .output (String.ofList cs))
  | '-' :: 'o' :: cs => .ofOption (a.set? .output (String.ofList cs))
  | '-' :: _ :: _ => .refused
  | _ => .ofOption (a.place? v)

/-- Takes arguments of which none is an option. -/
def positional : Arguments → List String → Command
  | a, [] => .run a
  | a, v :: vs =>
    match a.place? v with
    | some a => positional a vs
    | none => .refused

/-- Takes arguments; `pending` is an option that waits for its value. -/
def takeAll : Option Valued → Arguments → List String → Command
  | none, a, [] => .run a
  | some _, _, [] => .refused
  | some o, a, v :: vs =>
    if looksLikeOption v then .refused
    else match a.set? o v with
      | some a => takeAll none a vs
      | none => .refused
  | none, a, v :: vs =>
    if v = "--" then positional a vs
    else match a.take v with
      | .goOn a => takeAll none a vs
      | .needsValue o => takeAll (some o) a vs
      | .version => .version
      | .refused => .refused

def Command.ofList (args : List String) : Command := takeAll none {} args

def Arguments.options (a : Arguments) : Options :=
  let d : Options := {}
  { escapeFn := a.escapeFn.getD d.escapeFn
    stringifyFn := a.stringifyFn.getD d.stringifyFn
    exported := a.exported
    renderName := a.renderName.getD d.renderName
    strict := !a.legacy }

end Stencil.CommandLine
