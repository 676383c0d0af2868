import Stencil.Proofs.Evaluator.Naming
import Stencil.Proofs.Template.Interpretation

/-!
# Outcomes of evaluations

An evaluation yields an outcome if it ends with it whatever calls were noted before; what it notes
itself is left open, and running out of fuel is no outcome. The relation follows the steps of an
evaluation, so that an evaluator and a function into `Except` are compared step by step. What is
only claimed of values is said by `Gives`, which leaves errors and lack of fuel aside.
-/

namespace Stencil

set_option autoImplicit false

open Script (Property)

variable {η α β : Type}

namespace Eval

/-- The evaluation ends with this outcome. -/
def Yields (x : Eval η α) (r : Except EvalError α) : Prop :=
  ∀ calls, ∃ calls', x.run.run calls = (r.mapError Stop.failed, calls')

theorem yields_pure (a : α) : Yields (pure a : Eval η α) (.ok a) := fun calls => ⟨calls, rfl⟩

theorem yields_fail (e : EvalError) : Yields (fail e : Eval η α) (.error e) :=
  fun calls => ⟨calls, rfl⟩

theorem yields_ofOutcome (r : Except EvalError α) : Yields (ofOutcome r : Eval η α) r := by
  cases r with
  | ok a => exact yields_pure a
  | error e => exact yields_fail e

theorem yields_note (c : HostCall η) : Yields (note c) (.ok ()) := fun calls => ⟨calls ++ [c], rfl⟩

theorem Yields.bind {x : Eval η α} {f : α → Eval η β} {r : Except EvalError α}
    {k : α → Except EvalError β} (hx : Yields x r) (hf : ∀ a, Yields (f a) (k a)) :
    Yields (x >>= f) (r >>= k) := by
  intro calls
  obtain ⟨calls', h⟩ := hx calls
  rw [ExceptT.run_bind, StateT.run_bind, h]
  cases r with
  | ok a => exact hf a calls'
  | error e => exact ⟨calls', rfl⟩

theorem Yields.map {x : Eval η α} {r : Except EvalError α} (f : α → β) (hx : Yields x r) :
    Yields (f <$> x) (f <$> r) := by
  rw [map_eq_pure_bind, map_eq_pure_bind]
  exact hx.bind fun a => yields_pure (f a)

theorem Yields.outcome {x : Eval η α} {r : Except EvalError α} (hx : Yields x r) :
    Yields (Eval.outcome x) (.ok r) := by
  intro calls
  obtain ⟨calls', h⟩ := hx.map Except.ok calls
  rw [Eval.outcome, ExceptT.run_tryCatch, StateT.run_bind, h]
  cases r with
  | ok a => exact ⟨calls', rfl⟩
  | error e => exact ⟨calls', rfl⟩

/-- If the evaluation ends with a value, then with one like this. -/
def Gives (x : Eval η α) (P : α → Prop) : Prop :=
  ∀ calls a calls', x.run.run calls = (.ok a, calls') → P a

theorem gives_pure {P : α → Prop} {a : α} (h : P a) : Gives (pure a : Eval η α) P := by
  intro calls b calls' hrun
  cases hrun
  exact h

theorem gives_throw {P : α → Prop} (s : Stop) : Gives (throw s : Eval η α) P := by
  intro calls a calls' hrun
  cases hrun

theorem Gives.mono {x : Eval η α} {P Q : α → Prop} (hx : Gives x P) (h : ∀ a, P a → Q a) :
    Gives x Q := fun calls a calls' hrun => h a (hx calls a calls' hrun)

theorem Gives.bind {x : Eval η α} {f : α → Eval η β} {P : α → Prop} {Q : β → Prop}
    (hx : Gives x P) (hf : ∀ a, P a → Gives (f a) Q) : Gives (x >>= f) Q := by
  intro calls b calls' hrun
  rw [ExceptT.run_bind, StateT.run_bind] at hrun
  rcases h : x.run.run calls with ⟨s | a, calls₁⟩
  · rw [h] at hrun
    cases hrun
  · rw [h] at hrun
    exact hf a (hx calls a calls₁ h) calls₁ b calls' hrun

theorem Gives.map {x : Eval η α} {P : α → Prop} {Q : β → Prop} {f : α → β} (hx : Gives x P)
    (hf : ∀ a, P a → Q (f a)) : Gives (f <$> x) Q := by
  rw [map_eq_pure_bind]
  exact hx.bind fun a ha => gives_pure (hf a ha)

end Eval

open Eval (Yields yields_pure yields_fail)

/-- A routine has the result that its bodies lead to. -/
theorem Routine.run_yields {render : Body → Value η → Eval η (Value η)}
    {rendered : Body → Rendering η}
    (h : ∀ b context, Yields (render b context) (rendered b context)) (routine : Routine η) :
    Yields (routine.run render) (routine.result rendered) := by
  induction routine with
  | done r => exact Eval.yields_ofOutcome r
  | render b context next ih =>
    rw [Routine.run, Routine.result]
    exact (h b context).outcome.bind (k := fun r => (next r).result rendered) fun r => ih r

namespace Evaluator

variable (ev : Evaluator η) (call : Value η → List (Value η) → Eval η (Value η)) (vars : Variables η)

theorem member_yields (v : Value η) (key : String) :
    Yields (member v key) (Interpretation.member v key) := by
  unfold member Interpretation.member
  split
  · exact yields_fail _
  · exact yields_pure _

/-- How a member is written makes no difference. -/
theorem evaluate_get (target : Script.Expr) (name : String) :
    evaluate ev call vars (target.get name) =
      evaluate ev call vars target >>= fun v => member v name :=
  evaluate_getBy ev call vars Script.isIdentifier target name

theorem evaluate_text (s : String) : evaluate ev call vars (.text s) = pure (.string s) := by
  simp [evaluate, Script.Expr.text, Script.Expr.ofScalar, Script.Literal.of, scalar]

/-- A sum is evaluated from left to right. -/
theorem evaluate_foldl_plus (e : Script.Expr) (es : List Script.Expr) :
    evaluate ev call vars (es.foldl .plus e) = (do
      let v ← evaluate ev call vars e
      let vs ← evaluateAll ev call vars es
      return vs.foldl Value.add v) := by
  induction es generalizing e with
  | nil => simp [evaluateAll]
  | cons e' es ih =>
    rw [List.foldl_cons, ih]
    simp [evaluate, evaluateAll]

/-- Parts are joined as their values are. -/
theorem evaluate_join (es : List Script.Expr) :
    evaluate ev call vars (Compiling.join es) =
      Interpretation.join <$> evaluateAll ev call vars es := by
  cases es with
  | nil => simp [Compiling.join, Script.Expr.sum?, evaluate_text, evaluateAll, Interpretation.join]
  | cons e es =>
    simp [Compiling.join, Script.Expr.sum?, evaluate_foldl_plus, evaluateAll, Interpretation.join]

theorem evaluateAll_append (es es' : List Script.Expr) :
    evaluateAll ev call vars (es ++ es') = (do
      let vs ← evaluateAll ev call vars es
      let vs' ← evaluateAll ev call vars es'
      return vs ++ vs') := by
  induction es with
  | nil => simp [evaluateAll]
  | cons e es ih => simp [evaluateAll, ih]

theorem evaluateAll_toList (e : Option Script.Expr) :
    evaluateAll ev call vars e.toList = Option.toList <$> e.mapM (evaluate ev call vars) := by
  cases e with
  | none => simp [evaluateAll]
  | some e => simp [evaluateAll]

theorem evaluateFields_nil (fields : List (String × Value η)) :
    evaluateFields ev call vars fields [] = pure fields := by
  rw [evaluateFields]

/-- How a key is written makes no difference. -/
theorem evaluateFields_of (fields : List (String × Value η)) (key : String) (e : Script.Expr)
    (ps : List (Property Script.Expr)) :
    evaluateFields ev call vars fields (.of key e :: ps) = (do
      let v ← evaluate ev call vars e
      evaluateFields ev call vars (Value.setField key v fields) ps) :=
  evaluateFields_by ev call vars Script.isIdentifier fields key e ps

end Evaluator

end Stencil
