import Stencil.Compile.Pass

/-!
# The names that a script mentions

A walk over a script lists the names in reference position and the functions, each with the
parameters of the functions around it. What stands behind a dot, the key of an object and the names
that a function or an import declares are no references.
-/

namespace Stencil.Script

set_option autoImplicit false

inductive Mention where
  /-- A variable, and the members that are read from it one after the other. -/
  | read (name : String) (members : List String)
  /-- A function that is called by its name, on an object literal or on something else. -/
  | call (name : String) (onObject : Bool)
  | function (params : List String)
deriving Repr, DecidableEq

structure Site where
  /-- The parameters of the functions around, those of the innermost first. -/
  scopes : List (List String)
  mention : Mention
deriving Repr, DecidableEq

def Expr.isObject : Expr → Bool
  | .object _ => true
  | _ => false

mutual
def Statement.sites (scopes : List (List String)) : Statement → List Site
  | .function ⟨_, params, body, _, _⟩ =>
    ⟨scopes, .function params⟩ :: Statement.sitesAll (params :: scopes) body
  | .ret none => []
  | .ret (some e) => e.sites scopes []
  | .importNamed .. => []
  | .exportNamed declaration specifiers source =>
    declaration.sites scopes ++
      if source.isNone then specifiers.map fun s => ⟨scopes, .read s.localName []⟩ else []
def Statement.sitesAll (scopes : List (List String)) : List Statement → List Site
  | [] => []
  | s :: ss => s.sites scopes ++ Statement.sitesAll scopes ss
/-- The sites of an expression from whose value the given members are read. -/
def Expr.sites (scopes : List (List String)) (members : List String) : Expr → List Site
  | .ident name => [⟨scopes, .read name members⟩]
  | .lit _ => []
  | .plus left right => left.sites scopes [] ++ right.sites scopes []
  | .call (.ident name) arguments =>
    ⟨scopes, .call name (arguments.head?.any Expr.isObject)⟩ :: Expr.sitesAll scopes arguments
  | .call callee arguments => callee.sites scopes [] ++ Expr.sitesAll scopes arguments
  | .member target (.ident key) false => target.sites scopes (key :: members)
  | .member target (.lit ⟨.str key, _⟩) true => target.sites scopes (key :: members)
  | .member target property _ => target.sites scopes [] ++ property.sites scopes []
  | .cond test consequent alternate =>
    test.sites scopes [] ++ (consequent.sites scopes [] ++ alternate.sites scopes [])
  | .object properties => Expr.sitesIn scopes properties
  | .func ⟨_, params, body, _, _⟩ =>
    ⟨scopes, .function params⟩ :: Statement.sitesAll (params :: scopes) body
def Expr.sitesAll (scopes : List (List String)) : List Expr → List Site
  | [] => []
  | e :: es => e.sites scopes [] ++ Expr.sitesAll scopes es
def Expr.sitesIn (scopes : List (List String)) : List (Property Expr) → List Site
  | [] => []
  | ⟨key, value, computed, _, _⟩ :: ps =>
    (if computed then key.sites scopes [] else []) ++
      (value.sites scopes [] ++ Expr.sitesIn scopes ps)
end

def Program.sites (p : Program) : List Site := Statement.sitesAll [] p.body

/-- The helpers that a program calls: what is called on an object literal. -/
def Program.helperCalls (p : Program) : List String :=
  p.sites.filterMap fun
    | ⟨_, .call name true⟩ => some name
    | _ => none

theorem Program.mem_helperCalls_iff (p : Program) (name : String) :
    name ∈ p.helperCalls ↔ ∃ scopes, ⟨scopes, .call name true⟩ ∈ p.sites := by
  unfold Program.helperCalls
  rw [List.mem_filterMap]
  constructor
  · rintro ⟨site, hm, heq⟩
    split at heq
    · cases heq
      exact ⟨_, hm⟩
    · cases heq
  · rintro ⟨scopes, hm⟩
    exact ⟨_, hm, rfl⟩

section Built
variable (scopes : List (List String))

open Compiling (helperCall join)

-- The walk is one mutual recursion: all its equations are made here, and not when many lemmas below
-- ask for them at once.
attribute [local simp] Statement.sites Statement.sitesAll Expr.sites Expr.sitesAll Expr.sitesIn

@[simp] theorem sites_ofScalar (v : Scalar) (members : List String) :
    (Expr.ofScalar v).sites scopes members = [] := by
  rw [Expr.ofScalar, Expr.sites]

@[simp] theorem sites_text (s : String) (members : List String) :
    (Expr.text s).sites scopes members = [] := sites_ofScalar scopes (.str s) members

/-- How a member is written makes no difference. -/
theorem sites_get (target : Expr) (name : String) (members : List String) :
    (target.get name).sites scopes members = target.sites scopes (name :: members) := by
  unfold Expr.get
  split
  · rw [Expr.sites]
  · rw [Expr.text, Expr.ofScalar, Literal.of, Expr.sites]

theorem sites_foldl_get (e : Expr) (parts members : List String) :
    (parts.foldl Expr.get e).sites scopes members = e.sites scopes (parts ++ members) := by
  induction parts generalizing e with
  | nil => rfl
  | cons key parts ih => rw [List.foldl_cons, ih, sites_get, List.cons_append]

theorem sites_chain (root : String) (parts : List String) :
    (Expr.chain root parts).sites scopes [] = [⟨scopes, .read root parts⟩] := by
  rw [Expr.chain, sites_foldl_get, List.append_nil, Expr.sites]

theorem sites_foldl_plus (e : Expr) (es : List Expr) :
    (es.foldl .plus e).sites scopes [] = e.sites scopes [] ++ Expr.sitesAll scopes es := by
  induction es generalizing e with
  | nil => simp
  | cons e' es ih => rw [List.foldl_cons, ih, Expr.sites, Expr.sitesAll, List.append_assoc]

theorem sites_join (es : List Expr) : (join es).sites scopes [] = Expr.sitesAll scopes es := by
  cases es with
  | nil => simp [join, Expr.sum?]
  | cons e es => simp [join, Expr.sum?, sites_foldl_plus]

theorem sitesAll_append (es es' : List Expr) :
    Expr.sitesAll scopes (es ++ es') = Expr.sitesAll scopes es ++ Expr.sitesAll scopes es' := by
  induction es with
  | nil => rfl
  | cons e es ih => rw [List.cons_append, Expr.sitesAll, ih, Expr.sitesAll, List.append_assoc]

@[simp] theorem sitesAll_toList (e : Option Expr) :
    Expr.sitesAll scopes e.toList = e.toList.flatMap fun e => e.sites scopes [] := by
  cases e with
  | none => rfl
  | some e => simp

theorem sitesIn_append (ps ps' : List (Property Expr)) :
    Expr.sitesIn scopes (ps ++ ps') = Expr.sitesIn scopes ps ++ Expr.sitesIn scopes ps' := by
  induction ps with
  | nil => rfl
  | cons p ps ih =>
    obtain ⟨key, value, computed, method, shorthand⟩ := p
    rw [List.cons_append, Expr.sitesIn, ih, Expr.sitesIn]
    simp only [List.append_assoc]

theorem sitesIn_of (key : String) (e : Expr) (ps : List (Property Expr)) :
    Expr.sitesIn scopes (.of key e :: ps) = e.sites scopes [] ++ Expr.sitesIn scopes ps := by
  rw [Property.of, Expr.sitesIn]
  rfl

theorem sites_callNamed (name : String) (e : Expr) (h : e.isObject = false) :
    (Expr.callNamed name [e]).sites scopes [] = ⟨scopes, .call name false⟩ :: e.sites scopes [] := by
  rw [Expr.callNamed, Expr.sites, Expr.sitesAll, Expr.sitesAll, List.append_nil]
  simp [h]

theorem sites_helperCall (name : String) (named bodies : List (Property Expr)) :
    (helperCall name named bodies).sites scopes [] = ⟨scopes, .call name true⟩ ::
      (Expr.sitesIn scopes named ++ Expr.sitesIn scopes bodies) := by
  unfold helperCall Expr.callNamed
  cases bodies with
  | nil => simp [Expr.isObject]
  | cons p ps => simp [Expr.isObject]

theorem sites_func_returning (id : Option String) (param : String) (e : Expr) :
    (Expr.func (.returning id param e)).sites scopes [] =
      ⟨scopes, .function [param]⟩ :: e.sites ([param] :: scopes) [] := by
  simp [Function.returning]

end Built

theorem sitesAll_append_of_silent {scopes : List (List String)} {ss : List Statement}
    (h : ∀ s ∈ ss, s.sites scopes = []) (rest : List Statement) :
    Statement.sitesAll scopes (ss ++ rest) = Statement.sitesAll scopes rest := by
  induction ss with
  | nil => rfl
  | cons s ss ih =>
    rw [List.cons_append, Statement.sitesAll, h s List.mem_cons_self, List.nil_append,
      ih fun s hs => h s (List.mem_cons_of_mem _ hs)]

/-- Imports mention nothing, and a program what its render function mentions. -/
theorem sites_module (exported : Bool) (helpers : HelperTable) (id : Option String) (param : String)
    (e : Expr) : (Compilation.module exported helpers (.returning id param e)).sites =
      ⟨[], .function [param]⟩ :: e.sites [[param]] [] := by
  rw [Program.sites, Compilation.module, sitesAll_append_of_silent]
  · cases exported with
    | false => simp [Statement.sitesAll, Statement.sites, Function.returning]
    | true => simp [Statement.sitesAll, Statement.sites, Statement.exported, Function.returning]
  · intro s hs
    obtain ⟨⟨name, source⟩, -, rfl⟩ := List.mem_map.mp hs
    change (Statement.importing name source).sites [] = []
    rw [Statement.importing, Statement.sites]

end Stencil.Script
