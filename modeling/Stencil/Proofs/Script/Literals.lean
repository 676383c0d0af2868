import Stencil.Compile.Pass
import Stencil.Proofs.Script.Nesting

/-!
# The literals of a script

A literal says twice what it stands for, by its value and by the text it is written as. The text of a
value is a JSON text, from which this value is read back (`Scalar.ofText_text`), and a literal that is
`Written` has it. All expressions and statements that are built from written literals with the builders
of scripts have no others.
-/

namespace Stencil.Script

set_option autoImplicit false

open Compiling (helperCall join)

mutual
def Statement.literals : Statement → List Literal
  | .function ⟨_, _, body, _, _⟩ => Statement.literalsAll body
  | .ret none => []
  | .ret (some e) => e.literals
  | .importNamed _ source => [source]
  | .exportNamed declaration _ source => declaration.literals ++ source.toList
def Statement.literalsAll : List Statement → List Literal
  | [] => []
  | s :: ss => s.literals ++ Statement.literalsAll ss
def Expr.literals : Expr → List Literal
  | .ident _ => []
  | .lit l => [l]
  | .plus left right => left.literals ++ right.literals
  | .call callee arguments => callee.literals ++ Expr.literalsAll arguments
  | .member target property _ => target.literals ++ property.literals
  | .cond test consequent alternate => test.literals ++ (consequent.literals ++ alternate.literals)
  | .object properties => Expr.literalsIn properties
  | .func ⟨_, _, body, _, _⟩ => Statement.literalsAll body
def Expr.literalsAll : List Expr → List Literal
  | [] => []
  | e :: es => e.literals ++ Expr.literalsAll es
/-- The literals of some properties, those of their keys included. -/
def Expr.literalsIn : List (Property Expr) → List Literal
  | [] => []
  | ⟨key, value, _, _, _⟩ :: ps => key.literals ++ (value.literals ++ Expr.literalsIn ps)
end

def Program.literals (p : Program) : List Literal := Statement.literalsAll p.body

theorem Scalar.text_eq_compact (v : Scalar) : v.text = v.toJson.compact := by
  cases v with
  | str s => rfl
  | num n => exact String.ofList_toList.symm
  | bool b =>
    cases b
    · rfl
    · rfl
  | null => rfl

/-- The text of a value is a JSON text of this value. -/
theorem Scalar.ofText_text {v : Scalar}
    (hfloat : ∀ x hx, v = .num (.float x hx) → (Number.float x hx).ReadsBack) (limit : Nat) :
    Json.ofText limit v.text = .ok v.toJson := by
  have hnumbers : Json.NumbersReadBack v.toJson.numbers := by
    apply Json.numbersReadBack_of_floats
    intro x hx hm
    cases v with
    | num n => exact hfloat x hx (congrArg Scalar.num (List.mem_singleton.mp hm).symm)
    | _ => cases hm
  have hnesting : v.toJson.nesting ≤ limit := by
    rw [Scalar.nesting_toJson]
    exact Nat.zero_le limit
  rw [v.text_eq_compact, Json.ofText_compact hnumbers, if_pos hnesting]

/-- A literal is written as the text of its value. -/
def Literal.Written (l : Literal) : Prop := l.raw = some l.value.text

abbrev AllWritten (ls : List Literal) : Prop := ∀ l ∈ ls, l.Written

theorem AllWritten.append {ls ls' : List Literal} (h : AllWritten ls) (h' : AllWritten ls') :
    AllWritten (ls ++ ls') := List.forall_mem_append.mpr ⟨h, h'⟩

section Built

attribute [local simp] Statement.literals Statement.literalsAll Expr.literals Expr.literalsAll
  Expr.literalsIn

theorem written_ofScalar (v : Scalar) : AllWritten (Expr.ofScalar v).literals := by
  rw [Expr.ofScalar, Expr.literals]
  exact List.forall_mem_singleton.mpr rfl

theorem written_text (s : String) : AllWritten (Expr.text s).literals := written_ofScalar (.str s)

theorem written_ident (name : String) : AllWritten (Expr.ident name).literals := by
  rw [Expr.literals]
  exact List.forall_mem_nil _

/-- A name that is no identifier is a literal behind brackets. -/
theorem written_get {e : Expr} (he : AllWritten e.literals) (name : String) :
    AllWritten (e.get name).literals := by
  unfold Expr.get
  split
  · rw [Expr.literals]
    exact he.append (written_ident name)
  · rw [Expr.literals]
    exact he.append (written_text name)

theorem written_chain (root : String) (parts : List String) :
    AllWritten (Expr.chain root parts).literals := by
  have hfold : ∀ e : Expr, AllWritten e.literals → AllWritten (parts.foldl Expr.get e).literals := by
    induction parts with
    | nil => exact fun _ he => he
    | cons part parts ih => exact fun e he => ih (e.get part) (written_get he part)
  exact hfold (.ident root) (written_ident root)

theorem written_callNamed (name : String) {es : List Expr} (hes : AllWritten (Expr.literalsAll es)) :
    AllWritten (Expr.callNamed name es).literals := by
  rw [Expr.callNamed, Expr.literals]
  exact (written_ident name).append hes

theorem written_join {es : List Expr} (hes : AllWritten (Expr.literalsAll es)) :
    AllWritten (join es).literals := by
  cases es with
  | nil => exact written_text ""
  | cons e es =>
    have hfold : (es.foldl .plus e).literals = Expr.literalsAll (e :: es) := by
      clear hes
      induction es generalizing e with
      | nil => simp
      | cons e' es ih =>
        rw [List.foldl_cons, ih, Expr.literalsAll, Expr.literals, List.append_assoc]
        rfl
    rw [join, Expr.sum?, Option.getD_some, hfold]
    exact hes

theorem literalsIn_append (ps ps' : List (Property Expr)) :
    Expr.literalsIn (ps ++ ps') = Expr.literalsIn ps ++ Expr.literalsIn ps' := by
  induction ps with
  | nil => rfl
  | cons p ps ih =>
    obtain ⟨key, value, computed, method, shorthand⟩ := p
    rw [List.cons_append, Expr.literalsIn, ih, Expr.literalsIn, List.append_assoc, List.append_assoc]

/-- A key that is no identifier is a literal. -/
theorem written_property (key : String) {e : Expr} (he : AllWritten e.literals)
    {ps : List (Property Expr)} (hps : AllWritten (Expr.literalsIn ps)) :
    AllWritten (Expr.literalsIn (.of key e :: ps)) := by
  rw [Property.of, Expr.literalsIn]
  refine AllWritten.append ?_ (he.append hps)
  split
  · exact written_ident key
  · exact written_text key

theorem written_helperCall (name : String) {named bodies : List (Property Expr)}
    (hnamed : AllWritten (Expr.literalsIn named)) (hbodies : AllWritten (Expr.literalsIn bodies)) :
    AllWritten (helperCall name named bodies).literals := by
  apply written_callNamed
  rw [Expr.literalsAll, Expr.literals]
  apply hnamed.append
  split
  · exact List.forall_mem_nil _
  · rw [Expr.literalsAll, Expr.literals, Expr.literalsAll]
    exact hbodies.append (List.forall_mem_nil _)

theorem literals_func_returning (id : Option String) (param : String) (e : Expr) :
    (Expr.func (.returning id param e)).literals = e.literals := by
  simp [Function.returning]

theorem Statement.literalsAll_eq_flatMap (ss : List Statement) :
    Statement.literalsAll ss = ss.flatMap Statement.literals := by
  induction ss with
  | nil => rfl
  | cons s ss ih => rw [Statement.literalsAll, ih, List.flatMap_cons]

/-- The literals of a module are the sources of its imports, and what its render function has. -/
theorem literals_module (exported : Bool) (helpers : HelperTable) (id : Option String) (param : String)
    (e : Expr) : (Compilation.module exported helpers (.returning id param e)).literals =
      (helpers.imports.map fun i => Literal.of (.str i.2)) ++ e.literals := by
  have himports : (helpers.imports.map fun i => Statement.importing i.1 i.2).flatMap Statement.literals =
      helpers.imports.map fun i => Literal.of (.str i.2) := by
    rw [List.flatMap_map, List.map_eq_flatMap]
    simp only [Statement.importing, Statement.literals]
  have hrender : (if exported then Statement.exported (.function (.returning id param e))
      else .function (.returning id param e)).literals = e.literals := by
    cases exported with
    | false => simp [Function.returning]
    | true => simp [Function.returning, Statement.exported]
  rw [Program.literals, Compilation.module, Statement.literalsAll_eq_flatMap, List.flatMap_append, himports,
    List.flatMap_singleton, hrender]

theorem written_module (exported : Bool) (helpers : HelperTable) (id : Option String) (param : String)
    {e : Expr} (he : AllWritten e.literals) :
    AllWritten (Compilation.module exported helpers (.returning id param e)).literals := by
  rw [literals_module]
  apply AllWritten.append _ he
  exact List.forall_mem_map.mpr fun _ _ => rfl

end Built

end Stencil.Script
