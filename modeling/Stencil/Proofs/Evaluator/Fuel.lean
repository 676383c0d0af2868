import Stencil.Evaluator.Basic

/-!
# Fuel

More fuel keeps a finished answer. An evaluation agrees with another one if it ends as that one
does, with the same value or error and the same calls noted, unless that one runs out of fuel. Fuel
is spent by calls only, so whatever an evaluator does with a way of calling functions, it does with
every way that agrees with it.
-/

namespace Stencil

set_option autoImplicit false

open Script (Property Statement)

variable {η α β : Type}

namespace Eval

/-- The second evaluation ends as the first one does, unless the first one runs out of fuel. -/
def Agrees (x y : Eval η α) : Prop :=
  ∀ calls, (x.run.run calls).1 ≠ .error .exhausted → y.run.run calls = x.run.run calls

theorem Agrees.refl (x : Eval η α) : Agrees x x := fun _ _ => rfl

theorem agrees_exhausted (y : Eval η α) : Agrees (throw .exhausted) y :=
  fun _ h => absurd rfl h

theorem Agrees.bind {x y : Eval η α} {f k : α → Eval η β} (hx : Agrees x y)
    (hf : ∀ a, Agrees (f a) (k a)) : Agrees (x >>= f) (y >>= k) := by
  intro calls h
  rw [ExceptT.run_bind, StateT.run_bind] at h
  rw [ExceptT.run_bind, StateT.run_bind, ExceptT.run_bind, StateT.run_bind]
  rcases hrun : x.run.run calls with ⟨s | a, calls'⟩
  · rw [hrun] at h
    have hs : s ≠ .exhausted := fun heq => h (by rw [heq]; rfl)
    rw [hx calls (by rw [hrun]; simpa using hs), hrun]
    rfl
  · rw [hrun] at h
    have hends : (x.run.run calls).1 ≠ .error .exhausted := by
      rw [hrun]
      intro heq
      cases heq
    rw [hx calls hends, hrun]
    exact hf a calls' h

theorem Agrees.map {x y : Eval η α} (f : α → β) (hx : Agrees x y) : Agrees (f <$> x) (f <$> y) := by
  rw [map_eq_pure_bind, map_eq_pure_bind]
  exact hx.bind fun a => .refl _

theorem Agrees.outcome {x y : Eval η α} (hx : Agrees x y) :
    Agrees (Eval.outcome x) (Eval.outcome y) := by
  intro calls h
  rw [Eval.outcome, ExceptT.run_tryCatch, StateT.run_bind] at h
  rw [Eval.outcome, ExceptT.run_tryCatch, StateT.run_bind, Eval.outcome, ExceptT.run_tryCatch,
    StateT.run_bind]
  have hmap := hx.map (Except.ok (ε := EvalError)) calls
  rw [hmap]
  intro hrun
  rcases hm : (Except.ok (ε := EvalError) <$> x).run.run calls with ⟨s | r, calls'⟩
  · rw [hm] at h hrun
    cases hrun
    exact h rfl
  · rw [hm] at hrun
    cases hrun

theorem Agrees.trace_eq {x y : Eval η α} (h : Agrees x y)
    (hx : (Evaluator.trace x).outcome ≠ .error .exhausted) :
    Evaluator.trace y = Evaluator.trace x := by
  unfold Evaluator.trace
  rw [h [] hx]

end Eval

open Eval (Agrees)

theorem Routine.run_agrees {render render' : Body → Value η → Eval η (Value η)}
    (h : ∀ b context, Agrees (render b context) (render' b context)) (routine : Routine η) :
    Agrees (routine.run render) (routine.run render') := by
  induction routine with
  | done r => exact .refl _
  | render b context next ih =>
    rw [Routine.run, Routine.run]
    exact (h b context).outcome.bind ih

namespace Evaluator

variable (ev : Evaluator η)

section Calls
variable {call call' : Value η → List (Value η) → Eval η (Value η)}

mutual
theorem evaluate_agrees (h : ∀ f args, Agrees (call f args) (call' f args)) (vars : Variables η) :
    ∀ e, Agrees (evaluate ev call vars e) (evaluate ev call' vars e)
  | .ident _ => .refl _
  | .lit _ => .refl _
  | .plus left right => by
    rw [evaluate, evaluate]
    exact (evaluate_agrees h vars left).bind fun _ => (evaluate_agrees h vars right).bind fun _ => .refl _
  | .call callee arguments => by
    rw [evaluate, evaluate]
    exact (evaluate_agrees h vars callee).bind fun f =>
      (evaluateAll_agrees h vars arguments).bind fun args => h f args
  | .member target property computed => by
    have ht := evaluate_agrees h vars target
    have hp := evaluate_agrees h vars property
    by_cases hname : ∃ name, property = .ident name ∧ computed = false
    · obtain ⟨name, rfl, rfl⟩ := hname
      rw [evaluate, evaluate]
      exact ht.bind fun _ => .refl _
    · have hother : ∀ name, property = .ident name → computed = false → False :=
        fun name heq hc => hname ⟨name, heq, hc⟩
      rw [evaluate, evaluate]
      · exact ht.bind fun _ => hp.bind fun _ => .refl _
      · exact hother
      · exact hother
  | .cond test consequent alternate => by
    rw [evaluate, evaluate]
    refine (evaluate_agrees h vars test).bind fun t => ?_
    split
    · exact evaluate_agrees h vars consequent
    · exact evaluate_agrees h vars alternate
  | .object properties => by
    rw [evaluate, evaluate]
    exact (evaluateFields_agrees h vars [] properties).bind fun _ => .refl _
  | .func _ => .refl _
theorem evaluateAll_agrees (h : ∀ f args, Agrees (call f args) (call' f args)) (vars : Variables η) :
    ∀ es, Agrees (evaluateAll ev call vars es) (evaluateAll ev call' vars es)
  | [] => .refl _
  | e :: es => by
    rw [evaluateAll, evaluateAll]
    exact (evaluate_agrees h vars e).bind fun _ => (evaluateAll_agrees h vars es).bind fun _ => .refl _
theorem evaluateFields_agrees (h : ∀ f args, Agrees (call f args) (call' f args))
    (vars : Variables η) : ∀ fields ps,
    Agrees (evaluateFields ev call vars fields ps) (evaluateFields ev call' vars fields ps)
  | _, [] => .refl _
  | fields, ⟨key, value, computed, method, shorthand⟩ :: ps => by
    rw [evaluateFields, evaluateFields]
    split
    · exact .refl _
    · exact (evaluate_agrees h vars value).bind fun _ => evaluateFields_agrees h vars _ ps
end

theorem runBody_agrees (h : ∀ f args, Agrees (call f args) (call' f args)) (vars : Variables η)
    (body : List Statement) : Agrees (runBody ev call vars body) (runBody ev call' vars body) := by
  unfold runBody
  split
  · exact .refl _
  · exact .refl _
  · exact evaluate_agrees ev h vars _
  · exact .refl _

theorem renderBody_agrees (h : ∀ f args, Agrees (call f args) (call' f args))
    (args : List (Value η)) (b : Body) (context : Value η) :
    Agrees (renderBody call args b context) (renderBody call' args b context) := by
  unfold renderBody
  split
  · exact .refl _
  · exact h _ _

end Calls

/-- More fuel keeps the answer of a call that does not run out of it. -/
theorem callWithin_agrees {fuel fuel' : Nat} (hle : fuel ≤ fuel') (f : Value η)
    (args : List (Value η)) : Agrees (ev.callWithin fuel f args) (ev.callWithin fuel' f args) := by
  induction fuel generalizing fuel' f args with
  | zero => exact Eval.agrees_exhausted _
  | succ fuel ih =>
    obtain ⟨more, rfl⟩ := Nat.exists_eq_add_one_of_ne_zero (by omega : fuel' ≠ 0)
    have hcall : ∀ f args, Agrees (ev.callWithin fuel f args) (ev.callWithin more f args) :=
      fun f args => ih (by omega) f args
    cases f with
    | closure f vars => exact runBody_agrees ev hcall _ f.body
    | host name helper =>
      exact (Agrees.refl _).bind fun _ => Routine.run_agrees (renderBody_agrees hcall args) _
    | _ => exact .refl _

theorem renderWithin_agrees {fuel fuel' : Nat} (hle : fuel ≤ fuel') (p : Script.Program)
    (data : Value η) : Agrees (ev.renderWithin fuel p data) (ev.renderWithin fuel' p data) := by
  unfold renderWithin
  refine (Agrees.refl _).bind fun vars => ?_
  cases p.render? with
  | none => exact .refl _
  | some f => exact (callWithin_agrees ev hle _ _).bind fun _ => .refl _

end Evaluator

end Stencil
