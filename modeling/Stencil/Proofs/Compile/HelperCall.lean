import Stencil.Proofs.Compile.Frame

/-!
# Calls of helpers

A call hands over its argument and, if it has bodies, an object of functions. What a helper of a
host makes of it is what `Host.call` says, as long as each function renders what the body stands
for: of the functions the helper sees only that they are there.
-/

namespace Stencil

set_option autoImplicit false

open Script (Function Statement Property)
open Compiling (isContextName helperCall)
open Eval (Yields yields_pure yields_note)

variable {η : Type}

def bodyProperties (fs : Body → Option (Function Statement)) : List (Property Script.Expr) :=
  (fs .main).toList.map (fun f => .of Body.main.key (.func f)) ++
    (fs .inverse).toList.map fun f => .of Body.inverse.key (.func f)

def bodyFields (vars : Variables η) (fs : Body → Option (Function Statement)) :
    List (String × Value η) :=
  (fs .main).toList.map (fun f => (Body.main.key, .closure f vars)) ++
    (fs .inverse).toList.map fun f => (Body.inverse.key, .closure f vars)

/-- The arguments of a call after the first one: an object of the bodies, if there are any. -/
def bodyArgs (vars : Variables η) (fs : Body → Option (Function Statement)) : List (Value η) :=
  if (bodyFields vars fs).isEmpty then [] else [.object (bodyFields vars fs)]

theorem mem_bodyProperties {fs : Body → Option (Function Statement)} {b : Body}
    {f : Function Statement} (h : f ∈ fs b) : Property.of b.key (.func f) ∈ bodyProperties fs := by
  unfold bodyProperties
  cases b with
  | main => simp [Option.mem_def.mp h]
  | inverse => simp [Option.mem_def.mp h]

theorem isEmpty_bodyProperties (vars : Variables η) (fs : Body → Option (Function Statement)) :
    (bodyProperties fs).isEmpty = (bodyFields vars fs).isEmpty := by
  unfold bodyProperties bodyFields
  cases fs .main <;> cases fs .inverse <;> rfl

theorem lookup_bodyFields (vars : Variables η) (fs : Body → Option (Function Statement)) (b : Body) :
    (bodyFields vars fs).lookup b.key = (fs b).map (Value.closure · vars) := by
  unfold bodyFields
  cases b <;> cases fs .main <;> cases fs .inverse <;> simp [Body.key, List.lookup_cons]

theorem body_bodyArgs (vars : Variables η) (fs : Body → Option (Function Statement)) (v : Value η)
    (b : Body) : Invocation.body (v :: bodyArgs vars fs) b =
      ((fs b).map (Value.closure · vars)).getD .undefined := by
  unfold Invocation.body bodyArgs
  rw [← lookup_bodyFields]
  split
  · rename_i hempty
    simp [List.isEmpty_iff.mp hempty]
  · simp [Value.get]

section Evaluation
variable {ev : Evaluator η} {call : Value η → List (Value η) → Eval η (Value η)} {vars : Variables η}

theorem renderBody_bodyArgs (fs : Body → Option (Function Statement)) (v : Value η) (b : Body)
    (context : Value η) : Evaluator.renderBody call (v :: bodyArgs vars fs) b context =
      match fs b with
      | none => pure (.string "")
      | some f => call (.closure f vars) [context] := by
  unfold Evaluator.renderBody
  rw [body_bodyArgs]
  cases fs b with
  | none => rfl
  | some f => rfl

theorem evaluateFields_bodyProperties (fs : Body → Option (Function Statement)) :
    ev.evaluateFields call vars [] (bodyProperties fs) = pure (bodyFields vars fs) := by
  unfold bodyProperties bodyFields
  cases fs .main <;> cases fs .inverse <;>
    simp [Evaluator.evaluateFields_of, Evaluator.evaluateFields_nil, Evaluator.evaluate,
      Value.setField, Body.key]

/-- A call finds its helper, evaluates its named arguments, and hands over the bodies. -/
theorem evaluate_helperCall (name : String) (named : List (Property Script.Expr))
    (fs : Body → Option (Function Statement)) :
    ev.evaluate call vars (helperCall name named (bodyProperties fs)) = (do
      let f ← ev.lookup vars name
      let fields ← ev.evaluateFields call vars [] named
      call f (.object fields :: bodyArgs vars fs)) := by
  unfold helperCall bodyArgs Script.Expr.callNamed
  rw [isEmpty_bodyProperties vars]
  split
  · simp [Evaluator.evaluate, Evaluator.evaluateAll]
  · simp [Evaluator.evaluate, Evaluator.evaluateAll, evaluateFields_bodyProperties]

theorem evaluate_callNamed (name : String) (e : Script.Expr) :
    ev.evaluate call vars (.callNamed name [e]) = (do
      let f ← ev.lookup vars name
      let v ← ev.evaluate call vars e
      call f (v :: bodyArgs vars fun _ => none)) := by
  simp [Script.Expr.callNamed, Evaluator.evaluate, Evaluator.evaluateAll, bodyArgs, bodyFields]

end Evaluation

/-- A function renders what a body stands for. -/
def Renders (ev : Evaluator η) (fuel : Nat) (vars : Variables η) (f : Function Statement)
    (r : Rendering η) : Prop :=
  ∀ context, Yields (ev.callWithin fuel (.closure f vars) [context]) (r context)

section Hosted
variable {host : Host η} {fuel : Nat} {vars : Variables η} {stack : List (Value η)}
  {fs : Body → Option (Function Statement)} {bodies : Body → Option (Rendering η)}

theorem renderBody_yields
    (h : ∀ b, Option.Rel (Renders host.evaluator fuel vars) (fs b) (bodies b)) (v : Value η)
    (b : Body) (context : Value η) :
    Yields (Evaluator.renderBody (host.evaluator.callWithin fuel) (v :: bodyArgs vars fs) b context)
      ((bodies b).getD (fun _ => .ok (.string "")) context) := by
  rw [renderBody_bodyArgs]
  have hb := h b
  generalize fs b = f, bodies b = r at hb ⊢
  cases hb with
  | some hr => exact hr context
  | none => exact yields_pure _

theorem sight_bodyArgs
    (h : ∀ b, Option.Rel (Renders host.evaluator fuel vars) (fs b) (bodies b)) (v : Value η) :
    Sight.ofArgs (v :: bodyArgs vars fs) = ⟨v, fun b => (bodies b).isSome⟩ := by
  have hhas : ∀ b, (Invocation.body (v :: bodyArgs vars fs) b).isFunction = (bodies b).isSome := by
    intro b
    rw [body_bodyArgs]
    have hb := h b
    generalize fs b = f, bodies b = r at hb ⊢
    cases hb with
    | some => rfl
    | none => rfl
  simp [Sight.ofArgs, hhas]

/-- A registered name is found, and calling what it stands for has the outcome of the host. -/
theorem Frame.call_yields (hframe : Frame host.evaluator vars stack) {name : String}
    (hreg : host.Registered name) (hname : isContextName name = false)
    (h : ∀ b, Option.Rel (Renders host.evaluator fuel vars) (fs b) (bodies b)) :
    ∃ f, host.evaluator.lookup vars name = pure f ∧ ∀ v,
      Yields (host.evaluator.callWithin (fuel + 1) f (v :: bodyArgs vars fs))
        (host.call name v bodies) := by
  rcases hreg with ⟨f, hf⟩ | ⟨registered, helper, hf⟩
  · refine ⟨_, hframe.lookup_global hname hf, fun v => ?_⟩
    rw [Host.call, hf]
    exact yields_pure _
  · refine ⟨_, hframe.lookup_global hname hf, fun v => ?_⟩
    rw [Host.call, hf, Evaluator.callWithin]
    refine (yields_note _).bind
      (k := fun _ => host.apply (.host registered helper) v bodies) fun _ => ?_
    change Yields ((host.conduct helper (Sight.ofArgs (v :: bodyArgs vars fs))).run _) _
    rw [sight_bodyArgs h]
    exact Routine.run_yields (renderBody_yields h v) _

end Hosted

end Stencil
