import Stencil.Evaluator.Basic

/-!
# Evaluations that settle

An evaluation settles if it ends without running out of fuel, fails only with errors of a given
kind, and calls helpers only in a given way. Which errors are of the kind may depend on the calls
that were made; `Evaluator.Closed` says what such a kind of errors has to have for settling to pass
from the parts of an evaluation to the whole. The smallest such kind is `Evaluator.Fault`: a member
of `undefined` or `null` was asked for, or a helper that was called returned the error.
-/

namespace Stencil

set_option autoImplicit false

variable {η α β : Type}

/-- What a routine returns if the bodies that it renders come to these outcomes, one after the
other. -/
def Routine.resultOn : Routine η → List (Except EvalError (Value η)) →
    Option (Except EvalError (Value η))
  | .done r, [] => some r
  | .done _, _ :: _ => none
  | .render _ _ _, [] => none
  | .render _ _ next, r :: rs => (next r).resultOn rs

/-- The errors that are not to be avoided, given the calls of helpers that were made. -/
inductive Evaluator.Fault (ev : Evaluator η) (calls : List (HostCall η)) : EvalError → Prop
  | member {v : Value η} (key : String) : v.isNullish = true → Fault ev calls (.memberOf v.typeName key)
  /-- The bodies that the helper rendered failed only with such errors themselves. -/
  | helper {c : HostCall η} {outcomes : List (Except EvalError (Value η))} {e : EvalError} :
      c ∈ calls → (∀ e', .error e' ∈ outcomes → Fault ev calls e') →
      (ev.behaviour c.helper c.args).resultOn outcomes = some (.error e) → Fault ev calls e

structure Evaluator.Closed (ev : Evaluator η) (P : List (HostCall η) → EvalError → Prop) : Prop where
  mono : ∀ {calls calls' : List (HostCall η)} {e : EvalError}, calls ⊆ calls' → P calls e → P calls' e
  member : ∀ {v : Value η} (key : String), v.isNullish = true → P [] (.memberOf v.typeName key)
  helper : ∀ {calls : List (HostCall η)} {c : HostCall η}
    {outcomes : List (Except EvalError (Value η))} {e : EvalError},
    c ∈ calls → (∀ e', .error e' ∈ outcomes → P calls e') →
    (ev.behaviour c.helper c.args).resultOn outcomes = some (.error e) → P calls e

theorem Evaluator.Fault.mono {ev : Evaluator η} {calls calls' : List (HostCall η)} {e : EvalError}
    (hsub : calls ⊆ calls') (h : ev.Fault calls e) : ev.Fault calls' e := by
  induction h with
  | member key hv => exact .member key hv
  | helper hc _ hr ih => exact .helper (hsub hc) ih hr

theorem Evaluator.closed_fault (ev : Evaluator η) : ev.Closed ev.Fault where
  mono hsub h := h.mono hsub
  member key hv := .member key hv
  helper hc ho hr := .helper hc ho hr

namespace Eval

/-- The evaluation ends. If it fails then with an error that `P` has after the calls that were made,
and each of these is as `Q` says. -/
def Settles (P : List (HostCall η) → EvalError → Prop) (Q : HostCall η → Prop) (x : Eval η α) :
    Prop :=
  ∀ calls, ∃ r new, x.run.run calls = (Except.mapError Stop.failed r, calls ++ new) ∧
    (∀ c ∈ new, Q c) ∧ ∀ e, r = .error e → P new e

variable {P : List (HostCall η) → EvalError → Prop} {Q : HostCall η → Prop}

theorem settles_pure (a : α) : Settles P Q (pure a) := by
  intro calls
  refine ⟨.ok a, [], ?_, fun _ hc => absurd hc List.not_mem_nil, fun e he => ?_⟩
  · rw [List.append_nil]
    rfl
  · cases he

theorem settles_fail {e : EvalError} (he : P [] e) : Settles P Q (fail e : Eval η α) := by
  intro calls
  refine ⟨.error e, [], ?_, fun _ hc => absurd hc List.not_mem_nil, fun e' heq => ?_⟩
  · rw [List.append_nil]
    rfl
  · cases heq
    exact he

theorem Settles.weaken {Q' : HostCall η → Prop} {x : Eval η α} (hx : Settles P Q x)
    (h : ∀ c, Q c → Q' c) : Settles P Q' x := by
  intro calls
  obtain ⟨r, new, hrun, hnew, he⟩ := hx calls
  exact ⟨r, new, hrun, fun c hc => h c (hnew c hc), he⟩

end Eval

namespace Evaluator.Closed

open Eval (Settles settles_pure settles_fail)

variable {ev : Evaluator η} {P : List (HostCall η) → EvalError → Prop} {Q : HostCall η → Prop}
  (hP : ev.Closed P)
include hP

theorem settles_bind {x : Eval η α} {f : α → Eval η β} (hx : Settles P Q x)
    (hf : ∀ a, Settles P Q (f a)) : Settles P Q (x >>= f) := by
  intro calls
  obtain ⟨r, new, hrun, hnew, he⟩ := hx calls
  rw [ExceptT.run_bind, StateT.run_bind, hrun]
  cases r with
  | error e => exact ⟨.error e, new, rfl, hnew, fun e' heq => by cases heq; exact he e rfl⟩
  | ok a =>
    obtain ⟨r', new', hrun', hnew', he'⟩ := hf a (calls ++ new)
    refine ⟨r', new ++ new', ?_, ?_, ?_⟩
    · rw [← List.append_assoc]
      exact hrun'
    · intro c hc
      rcases List.mem_append.mp hc with hc | hc
      · exact hnew c hc
      · exact hnew' c hc
    · intro e heq
      exact hP.mono (List.subset_append_right new new') (he' e heq)

theorem settles_map {x : Eval η α} (f : α → β) (hx : Settles P Q x) : Settles P Q (f <$> x) := by
  rw [map_eq_pure_bind]
  exact hP.settles_bind hx fun a => settles_pure (f a)

theorem settles_member (v : Value η) (key : String) : Settles P Q (Evaluator.member v key) := by
  unfold Evaluator.member
  split
  · rename_i hv
    exact settles_fail (hP.member key hv)
  · exact settles_pure _

/-- A routine returns what it returns on the outcomes of its bodies, and these outcomes are as good
as rendering bodies is. -/
theorem run_routine {render : Body → Value η → Eval η (Value η)}
    (h : ∀ b context, Settles P Q (render b context)) (routine : Routine η)
    (calls : List (HostCall η)) : ∃ r new outcomes,
      (routine.run render).run.run calls = (Except.mapError Stop.failed r, calls ++ new) ∧
      (∀ c ∈ new, Q c) ∧ routine.resultOn outcomes = some r ∧
      ∀ e, .error e ∈ outcomes → P new e := by
  induction routine generalizing calls with
  | done r =>
    refine ⟨r, [], [], ?_, fun _ hc => absurd hc List.not_mem_nil, rfl,
      fun _ he => absurd he List.not_mem_nil⟩
    rw [List.append_nil]
    cases r <;> rfl
  | render b context next ih =>
    obtain ⟨r, new, hrun, hnew, he⟩ := h b context calls
    obtain ⟨r', new', outcomes, hrun', hnew', hresult, he'⟩ := ih r (calls ++ new)
    refine ⟨r', new ++ new', r :: outcomes, ?_, ?_, hresult, ?_⟩
    · have houtcome : (Eval.outcome (render b context)).run.run calls = (.ok r, calls ++ new) := by
        rw [Eval.outcome, ExceptT.run_tryCatch, StateT.run_bind, map_eq_pure_bind, ExceptT.run_bind,
          StateT.run_bind, hrun]
        cases r <;> rfl
      rw [Routine.run, ExceptT.run_bind, StateT.run_bind, houtcome, ← List.append_assoc]
      exact hrun'
    · intro c hc
      rcases List.mem_append.mp hc with hc | hc
      · exact hnew c hc
      · exact hnew' c hc
    · intro e hm
      rcases List.mem_cons.mp hm with heq | hm
      · exact hP.mono (List.subset_append_left new new') (he e heq.symm)
      · exact hP.mono (List.subset_append_right new new') (he' e hm)

theorem settles_host {name : String} {helper : η} {args : List (Value η)} {fuel : Nat}
    (hq : Q ⟨name, helper, args⟩)
    (h : ∀ b context, Settles P Q (renderBody (ev.callWithin fuel) args b context)) :
    Settles P Q (ev.callWithin (fuel + 1) (.host name helper) args) := by
  intro calls
  let c : HostCall η := ⟨name, helper, args⟩
  obtain ⟨r, new, outcomes, hrun, hnew, hresult, he⟩ :=
    hP.run_routine h (ev.behaviour helper args) (calls ++ [c])
  refine ⟨r, c :: new, ?_, ?_, ?_⟩
  · rw [List.append_cons]
    exact hrun
  · intro d hd
    rcases List.mem_cons.mp hd with rfl | hd
    · exact hq
    · exact hnew d hd
  · rintro e rfl
    exact hP.helper List.mem_cons_self
      (fun e' hm => hP.mono (List.subset_cons_self c new) (he e' hm)) hresult

end Evaluator.Closed

end Stencil
