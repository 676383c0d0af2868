import Stencil.Compile.Pass
import Stencil.Script.Depth

/-!
# How deep the functions of generated expressions are nested
-/

namespace Stencil.Script

set_option autoImplicit false

open Compiling (helperCall join)

attribute [local simp] Statement.functionDepth Statement.functionDepths Expr.functionDepth
  Expr.functionDepths Expr.propertiesDepth

theorem functionDepth_foldl_plus (e : Expr) (es : List Expr) :
    (es.foldl .plus e).functionDepth = max e.functionDepth (Expr.functionDepths es) := by
  induction es generalizing e with
  | nil => simp
  | cons e' es ih => rw [List.foldl_cons, ih, Expr.functionDepth, Expr.functionDepths, Nat.max_assoc]

theorem functionDepth_join (es : List Expr) : (join es).functionDepth = Expr.functionDepths es := by
  cases es with
  | nil => simp [join, Expr.sum?, Expr.text, Expr.ofScalar]
  | cons e es => simp [join, Expr.sum?, functionDepth_foldl_plus]

theorem functionDepths_append (es es' : List Expr) :
    Expr.functionDepths (es ++ es') = max (Expr.functionDepths es) (Expr.functionDepths es') := by
  induction es with
  | nil => simp
  | cons e es ih => simp [ih, Nat.max_assoc]

theorem functionDepth_func_returning (id : Option String) (param : String) (e : Expr) :
    (Expr.func (.returning id param e)).functionDepth = e.functionDepth + 1 := by
  simp [Function.returning]

theorem functionDepth_get (e : Expr) (name : String) :
    (e.get name).functionDepth = e.functionDepth := by
  unfold Expr.get
  split
  · simp
  · simp [Expr.text, Expr.ofScalar]

theorem functionDepth_callNamed (name : String) (e : Expr) :
    (Expr.callNamed name [e]).functionDepth = e.functionDepth := by
  simp [Expr.callNamed]

theorem functionDepth_le_of_mem_properties {key : String} {e : Expr} {ps : List (Property Expr)}
    (h : Property.of key e ∈ ps) : e.functionDepth ≤ Expr.propertiesDepth ps := by
  induction ps with
  | nil => cases h
  | cons p ps ih =>
    obtain ⟨k, v, computed, method, shorthand⟩ := p
    rw [Expr.propertiesDepth]
    rcases List.mem_cons.mp h with heq | hm
    · have hv : e = v := congrArg Property.value heq
      rw [hv]
      omega
    · have := ih hm
      omega

theorem functionDepth_le_of_mem_statements {s : Statement} {ss : List Statement} (h : s ∈ ss) :
    s.functionDepth ≤ Statement.functionDepths ss := by
  induction ss with
  | nil => cases h
  | cons t ss ih =>
    rw [Statement.functionDepths]
    rcases List.mem_cons.mp h with rfl | hm
    · omega
    · have := ih hm
      omega

/-- The functions of a call are nested in the call. -/
theorem functionDepth_le_helperCall {key : String} {e : Expr} {ps : List (Property Expr)}
    (h : Property.of key e ∈ ps) (name : String) (named : List (Property Expr)) :
    e.functionDepth ≤ (helperCall name named ps).functionDepth := by
  have hne : ps.isEmpty = false := by
    cases ps with
    | nil => cases h
    | cons => rfl
  have hle := functionDepth_le_of_mem_properties h
  simp only [helperCall, Expr.callNamed, hne, Expr.functionDepth, Expr.functionDepths]
  simp only [Bool.false_eq_true, if_false, Expr.functionDepths, Expr.functionDepth]
  omega

theorem functionDepth_le_helperCall_of_named {key : String} {e : Expr} {named : List (Property Expr)}
    (h : Property.of key e ∈ named) (name : String) (ps : List (Property Expr)) :
    e.functionDepth ≤ (helperCall name named ps).functionDepth := by
  have hle := functionDepth_le_of_mem_properties h
  simp only [helperCall, Expr.callNamed, Expr.functionDepth, Expr.functionDepths]
  omega

end Stencil.Script
