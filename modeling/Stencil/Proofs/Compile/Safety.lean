import Stencil.Proofs.Compile.Mentions
import Stencil.Proofs.Compile.Runnable
import Stencil.Proofs.Evaluator.Fuel

/-!
# Compiled programs do not go wrong, and they end

A compiled program runs on every evaluator that knows the functions it calls, whatever its helpers do
with their bodies: if it fails, a member of `undefined` or `null` was asked for or a helper returned
the error (`render_goesRight`). Even on an evaluator that does not know all of them it ends, with
calls nested at most twice as deep as its functions (`render_terminates`).
-/

namespace Stencil

set_option autoImplicit false

open Template (Node)
open Compiling (contextName isContextName join)
open Eval (Settles settles_pure settles_fail)

variable {η α : Type}

/-! ## Faults -/

/-- Errors that only a script can be blamed for: it names what is not there, calls what is no
function, or is no script that can be run. -/
def EvalError.isScriptFault : EvalError → Bool
  | .reference _ => true
  | .notAFunction _ => true
  | .unresolvedImport .. => true
  | .missingRender => true
  | .unsupported _ => true
  | _ => false

namespace Evaluator

/-- A helper that returns such an error although no body that it renders fails with one. -/
def Blamed (ev : Evaluator η) (c : HostCall η) : Prop :=
  ∃ outcomes e, (∀ e', .error e' ∈ outcomes → e'.isScriptFault = false) ∧
    (ev.behaviour c.helper c.args).resultOn outcomes = some (.error e) ∧ e.isScriptFault = true

theorem Fault.exists_blamed {ev : Evaluator η} {calls : List (HostCall η)} {e : EvalError}
    (h : ev.Fault calls e) (he : e.isScriptFault = true) : ∃ c ∈ calls, ev.Blamed c := by
  induction h with
  | member key _ => cases he
  | @helper c outcomes e hc _ hresult ih =>
    by_cases hbody : ∃ e', .error e' ∈ outcomes ∧ e'.isScriptFault = true
    · obtain ⟨e', hm, he'⟩ := hbody
      exact ih e' hm he'
    · refine ⟨c, hc, outcomes, e, ?_, hresult, he⟩
      intro e' hm
      cases hfault : e'.isScriptFault with
      | false => rfl
      | true => exact absurd ⟨e', hm, hfault⟩ hbody

/-- A run that ends, and whose errors are not the fault of a script. -/
structure Trace.GoesRight (ev : Evaluator η) (tr : Trace η α) : Prop where
  ends : tr.outcome ≠ .error .exhausted
  fault : ∀ e, tr.outcome = .error (.failed e) → ev.Fault tr.calls e
  blame : ∀ e, tr.outcome = .error (.failed e) → e.isScriptFault = true →
    ∃ c ∈ tr.calls, ev.Blamed c

theorem trace_of_settles {P : List (HostCall η) → EvalError → Prop} {Q : HostCall η → Prop}
    {x : Eval η α} (h : Settles P Q x) : (trace x).outcome ≠ .error .exhausted ∧
      (∀ e, (trace x).outcome = .error (.failed e) → P (trace x).calls e) ∧
      ∀ c ∈ (trace x).calls, Q c := by
  obtain ⟨r, new, hrun, hnew, he⟩ := h []
  have htrace : trace x = ⟨r.mapError Stop.failed, new⟩ := by
    rw [trace, hrun]
    rfl
  rw [htrace]
  refine ⟨?_, ?_, hnew⟩
  · intro heq
    cases r with
    | ok a => cases heq
    | error e => cases heq
  · intro e heq
    cases r with
    | ok a => cases heq
    | error e' =>
      cases heq
      exact he e rfl

theorem goesRight_of_settles {ev : Evaluator η} {Q : HostCall η → Prop} {x : Eval η α}
    (h : Settles ev.Fault Q x) : (trace x).GoesRight ev := by
  obtain ⟨hends, hfault, -⟩ := trace_of_settles h
  exact ⟨hends, hfault, fun e heq he => (hfault e heq).exists_blamed he⟩

/-! ## Evaluators -/

/-- A function that is not a script's is known under this name. -/
def Registered (ev : Evaluator η) (name : String) : Prop :=
  ∃ v, ev.globals.lookup name = some v ∧ v.isNative = true

/-- Nothing but such functions is known. -/
def Native (ev : Evaluator η) : Prop :=
  ∀ name v, ev.globals.lookup name = some v → v.isNative = true

theorem Native.define {ev : Evaluator η} (h : ev.Native) (name : String) {v : Value η}
    (hv : v.isNative = true) : (ev.define name v).Native := by
  intro n w hw
  have hlookup : (if n = name then some v else ev.globals.lookup n) = some w := by
    rw [← Value.lookup_setField]
    exact hw
  split at hlookup
  · cases hlookup
    exact hv
  · exact h n w hlookup

theorem native_new (behaviour : η → List (Value η) → Routine η) : (new behaviour).Native := by
  intro name v hv
  rw [new, List.lookup_cons] at hv
  split at hv
  · cases hv
    rfl
  · rw [List.lookup_cons] at hv
    split at hv
    · cases hv
      rfl
    · cases hv

theorem Native.register {ev : Evaluator η} (h : ev.Native) (name : String) (helper : η) :
    (ev.register name helper).Native := h.define name rfl

theorem Native.aliasTo {ev ev' : Evaluator η} (h : ev.Native) {name existing : String}
    (ha : ev.aliasTo name existing = .ok ev') : ev'.Native := by
  unfold Evaluator.aliasTo at ha
  cases hv : ev.globals.lookup existing with
  | none =>
    rw [hv] at ha
    cases ha
  | some v =>
    rw [hv] at ha
    cases ha
    exact h.define name (h existing v hv)

/-- An evaluator that knows the functions of a compiled program, those for interpolations under names
that no variable has. -/
structure Provides (ev : Evaluator η) (o : Options) (helpers : List String) : Prop where
  escape : ev.Registered o.escapeFn
  stringify : ev.Registered o.stringifyFn
  escapeFree : isContextName o.escapeFn = false
  stringifyFree : isContextName o.stringifyFn = false
  helper : ∀ name ∈ helpers, ev.Registered name

theorem Registered.answers {ev : Evaluator η} {name : String} (h : ev.Registered name)
    (hfree : isContextName name = false) (P : List (HostCall η) → EvalError → Prop) :
    ev.Answers P name := by
  obtain ⟨v, hv, hnative⟩ := h
  refine ⟨hfree, ?_, ?_⟩
  · intro w hw
    rw [hv] at hw
    cases hw
    exact hnative
  · intro hnone
    rw [hv] at hnone
    cases hnone

end Evaluator

/-! ## Programs -/

namespace Generated

variable {o : Options} {resolve : Resolver} {ns : List Node} {c : Compilation}
  {ev : Evaluator η} {P : List (HostCall η) → EvalError → Prop} {fuel least : Nat}

theorem functionDepth_program (h : Generated o resolve ns c) :
    (join (Translation.nodes o 1 ns)).functionDepth + 1 ≤ c.program.functionDepth := by
  rw [h.program]
  have hle := functionDepth_le_module o.exported c.helpers (.returning (some o.renderName)
    (contextName 1) (join (Translation.nodes o 1 ns)))
  rw [Script.functionDepth_func_returning] at hle
  exact hle

/-- A program settles if its imports do. -/
theorem settles_renderWithin (h : Generated o resolve ns c) (hP : ev.Closed P)
    (hanswers : ∀ name ∈ o.escapeFn :: o.stringifyFn :: c.helpers.names, ev.Answers P name)
    (himports : ∀ name source, (name, source) ∈ c.helpers.imports →
      ev.globals.lookup name = none → P [] (.unresolvedImport name source))
    (hfuel : 2 * c.program.functionDepth ≤ fuel) (hleast : 2 * c.program.functionDepth ≤ least)
    (data : Value η) :
    Settles P (ev.Serviceable P least) (ev.renderWithin fuel c.program data) := by
  have hdepth := h.functionDepth_program
  rw [h.program] at hdepth hfuel hleast ⊢
  rcases renderWithin_module ev fuel o.exported c.helpers (.returning (some o.renderName)
    (contextName 1) (join (Translation.nodes o 1 ns))) data with
    ⟨vars, hframe, hrender⟩ | ⟨name, source, hm, hnone, hfail⟩
  · rw [hrender]
    exact hP.settles_map _ (Runnable.settles_bodyFunction (h.runnable.settles hP hanswers) hframe
      (by omega) (by omega) (some o.renderName) data)
  · rw [hfail]
    exact settles_fail (himports name source hm hnone)

end Generated

/-- What strict or lenient options make of a template does not go wrong on an evaluator that provides
for it, and neither do the bodies that its helpers are called with, on any context. -/
theorem render_goesRight {η : Type} (ev : Evaluator η) (t : Node) (o : Options) (resolve : Resolver)
    (c : Compilation) (data : Value η) (hc : (compile t o resolve).result = .ok c)
    (hprovides : ev.Provides o c.helpers.names) :
    (ev.render c.program data).GoesRight ev ∧
    ∀ call ∈ (ev.render c.program data).calls,
      (∃ name, ev.globals.lookup name = some (.host call.name call.helper)) ∧
      ∀ b context, (Evaluator.trace (Evaluator.renderBody
        (ev.callWithin (Evaluator.fuelFor c.program)) call.args b context)).GoesRight ev := by
  obtain ⟨p, -, h⟩ := compile_generated hc
  have hanswers : ∀ name ∈ o.escapeFn :: o.stringifyFn :: c.helpers.names,
      ev.Answers ev.Fault name := by
    intro name hname
    rcases List.mem_cons.mp hname with rfl | hname
    · exact hprovides.escape.answers hprovides.escapeFree _
    rcases List.mem_cons.mp hname with rfl | hname
    · exact hprovides.stringify.answers hprovides.stringifyFree _
    · exact (hprovides.helper name hname).answers (h.callable hname).notContext _
  have himports : ∀ name source, (name, source) ∈ c.helpers.imports →
      ev.globals.lookup name = none → ev.Fault [] (.unresolvedImport name source) := by
    intro name source hm hnone
    obtain ⟨v, hv, -⟩ := hprovides.helper name (HelperTable.mem_names_of_mem_imports hm)
    rw [hnone] at hv
    cases hv
  have hfuel : 2 * c.program.functionDepth ≤ Evaluator.fuelFor c.program :=
    Nat.le_add_right _ _
  have hsettles := h.settles_renderWithin ev.closed_fault hanswers himports hfuel hfuel data
  obtain ⟨-, -, hcalls⟩ := Evaluator.trace_of_settles hsettles
  refine ⟨Evaluator.goesRight_of_settles hsettles, fun call hcall => ?_⟩
  have hserviceable := hcalls call hcall
  refine ⟨hserviceable.registered, fun b context => ?_⟩
  exact Evaluator.goesRight_of_settles
    (hserviceable.body (Evaluator.fuelFor c.program) (Nat.le_refl _) b context)

namespace Walking

/-- `{{#walk}}{{name}}{{else}}{{../title.text}}{{/walk}}` -/
def template : Node :=
  .root [.block ⟨.new (.new 0 ["walk"]), some (.new [.mustache ⟨.new (.new 0 ["name"]), true, none⟩]),
    some (.new [.mustache ⟨.new (.new 1 ["title", "text"]), true, none⟩]), none⟩]

/-- A helper that renders its body on this body itself, and then its other body on `null`. -/
def evaluator : Evaluator Unit :=
  (Evaluator.new fun _ args => .thenWith .main (Invocation.body args .main) fun a =>
    .thenWith .inverse .null fun b => .value (a.add b)).register "walk" ()

theorem provides : evaluator.Provides {} ["walk"] where
  escape := ⟨_, rfl, rfl⟩
  stringify := ⟨_, rfl, rfl⟩
  escapeFree := by decide
  stringifyFree := by decide
  helper := by
    intro name hname
    rw [List.mem_singleton.mp hname]
    exact ⟨_, rfl, rfl⟩

/-- The title is missing: the other body fails, and the helper hands its error on. -/
theorem goesRight_template : ∃ c, (compile template {} Resolver.none).result = .ok c ∧
    evaluator.Provides {} c.helpers.names ∧
    (evaluator.render c.program (.object [])).outcome =
      .error (.failed (.memberOf "undefined" "text")) ∧
    (evaluator.render c.program (.object [])).GoesRight evaluator := by
  refine ⟨_, rfl, provides, rfl, ?_⟩
  exact (render_goesRight evaluator template {} Resolver.none _ (.object []) rfl provides).1

end Walking

/-- Two calls for each nested function are enough for every compiled program, whatever the data are
and whatever the helpers do: more fuel changes nothing. -/
theorem render_terminates {η : Type} (ev : Evaluator η) (t : Node) (o : Options)
    (resolve : Resolver) (c : Compilation) (data : Value η)
    (hc : (compile t o resolve).result = .ok c) (hnative : ev.Native)
    (hescape : isContextName o.escapeFn = false) (hstringify : isContextName o.stringifyFn = false)
    (fuel : Nat) (hfuel : 2 * c.program.functionDepth ≤ fuel) :
    (Evaluator.trace (ev.renderWithin fuel c.program data)).outcome ≠ .error .exhausted ∧
    Evaluator.trace (ev.renderWithin fuel c.program data) = ev.render c.program data := by
  obtain ⟨p, -, h⟩ := compile_generated hc
  -- all errors are of the kind, so that only the end is left to show
  let P : List (HostCall η) → EvalError → Prop := fun _ _ => True
  have hclosed : ev.Closed P :=
    { mono := fun _ _ => trivial
      member := fun _ _ => trivial
      helper := fun _ _ _ => trivial }
  have hfree : ∀ name ∈ o.escapeFn :: o.stringifyFn :: c.helpers.names,
      isContextName name = false := by
    intro name hname
    rcases List.mem_cons.mp hname with rfl | hname
    · exact hescape
    rcases List.mem_cons.mp hname with rfl | hname
    · exact hstringify
    · exact (h.callable hname).notContext
  have hanswers : ∀ name ∈ o.escapeFn :: o.stringifyFn :: c.helpers.names, ev.Answers P name :=
    fun name hname => ⟨hfree name hname, hnative name, fun _ => ⟨trivial, trivial⟩⟩
  have hends : ∀ fuel, 2 * c.program.functionDepth ≤ fuel →
      (Evaluator.trace (ev.renderWithin fuel c.program data)).outcome ≠ .error .exhausted := by
    intro fuel hfuel
    exact (Evaluator.trace_of_settles (h.settles_renderWithin hclosed hanswers
      (fun _ _ _ _ => trivial) hfuel hfuel data)).1
  -- of two runs that end the one with more fuel ends as the other one does
  have hleast := hends _ (Nat.le_refl _)
  have hsame : ∀ fuel, 2 * c.program.functionDepth ≤ fuel →
      Evaluator.trace (ev.renderWithin fuel c.program data) =
        Evaluator.trace (ev.renderWithin (2 * c.program.functionDepth) c.program data) :=
    fun fuel hfuel => (ev.renderWithin_agrees hfuel c.program data).trace_eq hleast
  refine ⟨hends fuel hfuel, ?_⟩
  rw [hsame fuel hfuel, Evaluator.render, hsame (Evaluator.fuelFor c.program) (Nat.le_add_right _ _)]

namespace Walking

/-- One function in another one takes four calls at most. -/
theorem terminates_template : ∃ c, (compile template {} Resolver.none).result = .ok c ∧
    evaluator.Native ∧ 2 * c.program.functionDepth = 4 ∧
    (Evaluator.trace (evaluator.renderWithin 4 c.program (.object []))).outcome ≠
      .error .exhausted := by
  have hnative : evaluator.Native := (Evaluator.native_new _).register "walk" ()
  refine ⟨_, rfl, hnative, rfl, ?_⟩
  exact (render_terminates evaluator template {} Resolver.none _ (.object []) rfl hnative (by decide)
    (by decide) 4 (Nat.le_refl 4)).1

end Walking

end Stencil
