import Stencil.Proofs.Compile.Acceptance
import Stencil.Proofs.Compile.HelperCall
import Stencil.Proofs.Script.Depth
import Stencil.Template.Build

/-!
# Compiled templates mean what templates mean

Evaluating the translation of a supported statement yields its interpretation, if the variables
hold the stack of contexts and the fuel covers the functions nested in the translation: a helper
and the body that it renders take one call each. The render function of a compiled template is the
outermost of these functions, so running it yields the interpretation of the template
(`render_compile_eq_interpretation`).
-/

namespace Stencil

set_option autoImplicit false

open Template (Node Path Call Mustache HashPair)
open Script (Function Statement Property)
open Compiling (contextName isContextName isConditional helperCall join)
open Eval (Yields yields_pure yields_fail)

namespace Translation

def function? (o : Options) (scope : Nat) :
    Option (Template.Program Node) → Option (Function Statement)
  | none => none
  | some ⟨[], _, _⟩ => none
  | some ⟨n :: ns, _, _⟩ =>
    some (.returning none (contextName (scope + 1)) (join (nodes o (scope + 1) (n :: ns))))

theorem body_eq (o : Options) (scope : Nat) (key : String) (b : Option (Template.Program Node)) :
    body o scope key b = (function? o scope b).toList.map fun f => .of key (.func f) := by
  rcases b with _ | ⟨_ | ⟨n, ns⟩, names, loc⟩
  · simp [body, function?]
  · simp [body, function?]
  · simp [body, function?]

end Translation

/-- A host that compiled templates can run on: it knows the functions for interpolations, under
names that no context has, and some helpers, and `undefined` is none of them. -/
structure Host.Serves {η : Type} (host : Host η) (o : Options) (helpers : List String) : Prop where
  escape : host.Registered o.escapeFn
  stringify : host.Registered o.stringifyFn
  escapeFree : isContextName o.escapeFn = false
  stringifyFree : isContextName o.stringifyFn = false
  undefined : host.globals.lookup "undefined" = none
  helper : ∀ name ∈ helpers, host.Registered name

abbrev Host.evaluate {η : Type} (host : Host η) (fuel : Nat) (vars : Variables η) (e : Script.Expr) :
    Eval η (Value η) :=
  host.evaluator.evaluate (host.evaluator.callWithin fuel) vars e

namespace Translation

variable {η : Type} {host : Host η} {o : Options} {helpers : List String}
  {fuel : Nat} {vars : Variables η} {stack : List (Value η)}

theorem chain_yields {e : Script.Expr} {r : Except EvalError (Value η)}
    (h : Yields (host.evaluate fuel vars e) r) (parts : List String) :
    Yields (host.evaluate fuel vars (parts.foldl .get e))
      (r >>= fun v => parts.foldlM Interpretation.member v) := by
  induction parts generalizing e r with
  | nil => simpa using h
  | cons key parts ih =>
    have hget : Yields (host.evaluate fuel vars (e.get key))
        (r >>= fun v => Interpretation.member v key) := by
      rw [Host.evaluate, Evaluator.evaluate_get]
      exact h.bind fun v => Evaluator.member_yields v key
    simpa using ih hget

theorem path_yields (hframe : Frame host.evaluator vars stack) {p : Path} (hp : Reached stack.length p) :
    Yields (host.evaluate fuel vars (Translation.path stack.length p))
      (Interpretation.path stack p) := by
  have hroot : Yields
      (host.evaluate fuel vars (.ident (contextName (stack.length - p.depth.toNat))))
      (.ok (stack[p.depth.toNat]?.getD .undefined)) := by
    rw [Host.evaluate, Evaluator.evaluate, hframe.lookup_context hp.inside]
    exact yields_pure _
  exact chain_yields hroot p.parts

theorem value_yields (hframe : Frame host.evaluator vars stack)
    (hnone : host.globals.lookup "undefined" = none) {e : Template.Expr} (he : SupportedValue stack.length e) :
    Yields (host.evaluate fuel vars (Translation.value stack.length e))
      (Interpretation.value stack e) := by
  cases e with
  | path p => exact path_yields hframe he
  | sub => exact he.elim
  | undefined =>
    rw [Translation.value, Host.evaluate, Evaluator.evaluate, hframe.lookup_undefined hnone]
    exact yields_pure _
  | _ =>
    rw [Translation.value, Host.evaluate, Script.Expr.ofScalar, Evaluator.evaluate]
    exact yields_pure _

theorem fields_yields (hframe : Frame host.evaluator vars stack)
    (hnone : host.globals.lookup "undefined" = none) {pairs : List (HashPair Template.Expr)}
    (hv : ∀ pair ∈ pairs, SupportedValue stack.length pair.value)
    (found : List (String × Value η)) :
    Yields (host.evaluator.evaluateFields (host.evaluator.callWithin fuel) vars found
      (Translation.properties stack.length pairs)) (Interpretation.fields stack found pairs) := by
  induction pairs generalizing found with
  | nil =>
    rw [Translation.properties, List.map_nil, Evaluator.evaluateFields_nil]
    exact yields_pure _
  | cons pair pairs ih =>
    rw [Translation.properties, List.map_cons, Evaluator.evaluateFields_of]
    exact (value_yields hframe hnone (hv pair List.mem_cons_self)).bind fun v =>
      ih (fun q hq => hv q (List.mem_cons_of_mem _ hq)) _

/-- Whatever runs it, the translation of a statement yields its interpretation. -/
def Simulated (host : Host η) (o : Options) (helpers : List String) (scope : Nat) (n : Node) :
    Prop :=
  ∀ {fuel : Nat} {vars : Variables η} {stack : List (Value η)}, stack.length = scope →
    Frame host.evaluator vars stack → (∀ name ∈ n.called, name ∈ helpers) →
    (∀ e ∈ Translation.node o scope n, 2 * e.functionDepth < fuel) →
    Yields ((Translation.node o scope n).mapM (host.evaluate fuel vars))
      (Interpretation.node host o stack n)

section Bodies
variable {scope : Nat} (hlen : stack.length = scope) (hframe : Frame host.evaluator vars stack)
include hlen hframe

theorem nodes_yields {ns : List Node} (h : ∀ n ∈ ns, Simulated host o helpers scope n)
    (hcalled : ∀ name ∈ Node.calledBy ns, name ∈ helpers)
    (hfuel : 2 * Script.Expr.functionDepths (Translation.nodes o scope ns) < fuel) :
    Yields (host.evaluator.evaluateAll (host.evaluator.callWithin fuel) vars
      (Translation.nodes o scope ns)) (Interpretation.nodes host o stack ns) := by
  induction ns with
  | nil =>
    rw [Translation.nodes, Evaluator.evaluateAll]
    exact yields_pure _
  | cons n ns ih =>
    rw [Translation.nodes, Script.functionDepths_append] at hfuel
    have hn : Yields ((Translation.node o scope n).mapM (host.evaluate fuel vars))
        (Interpretation.node host o stack n) := by
      apply h n List.mem_cons_self hlen hframe
      · exact fun name hm => hcalled name (List.mem_append_left _ hm)
      · intro e he
        rw [Option.mem_def.mp he] at hfuel
        simp only [Option.toList_some, Script.Expr.functionDepths] at hfuel
        omega
    have ht := ih (fun m hm => h m (List.mem_cons_of_mem _ hm))
      (fun name hm => hcalled name (List.mem_append_right _ hm)) (by omega)
    rw [Translation.nodes, Interpretation.nodes, Evaluator.evaluateAll_append,
      Evaluator.evaluateAll_toList, bind_map_left]
    exact hn.bind fun v => ht.bind fun vs => yields_pure _

theorem join_yields {ns : List Node} (h : ∀ n ∈ ns, Simulated host o helpers scope n)
    (hcalled : ∀ name ∈ Node.calledBy ns, name ∈ helpers)
    (hfuel : 2 * (join (Translation.nodes o scope ns)).functionDepth < fuel) :
    Yields (host.evaluate fuel vars (join (Translation.nodes o scope ns)))
      (Interpretation.join <$> Interpretation.nodes host o stack ns) := by
  rw [Script.functionDepth_join] at hfuel
  rw [Host.evaluate, Evaluator.evaluate_join]
  exact (nodes_yields hlen hframe h hcalled hfuel).map _

theorem branch_yields {b : Option (Template.Program Node)}
    (h : ∀ p ∈ b, ∀ n ∈ p.body, Simulated host o helpers scope n)
    (hcalled : ∀ name ∈ Node.calledIn b, name ∈ helpers)
    (hfuel : 2 * (Translation.branch o scope b).functionDepth < fuel) :
    Yields (host.evaluate fuel vars (Translation.branch o scope b))
      (Interpretation.branch host o stack b) := by
  cases b with
  | none =>
    rw [Translation.branch, Host.evaluate, Evaluator.evaluate_text]
    exact yields_pure _
  | some p =>
    obtain ⟨ns, names, loc⟩ := p
    rw [Translation.branch] at hfuel ⊢
    rw [Interpretation.branch]
    exact join_yields hlen hframe (h _ rfl) hcalled hfuel

end Bodies

/-- A body is a function that takes its context on top of the stack. -/
theorem function_renders (hframe : Frame host.evaluator vars stack) {b : Option (Template.Program Node)}
    (h : ∀ p ∈ b, ∀ n ∈ p.body, Simulated host o helpers (stack.length + 1) n)
    (hcalled : ∀ name ∈ Node.calledIn b, name ∈ helpers)
    (hfuel : ∀ f ∈ Translation.function? o stack.length b,
      2 * (Script.Expr.func f).functionDepth ≤ fuel) :
    Option.Rel (Renders host.evaluator fuel vars) (Translation.function? o stack.length b)
      (Interpretation.body host o stack b) := by
  rcases b with _ | ⟨_ | ⟨n, ns⟩, names, loc⟩
  · exact .none
  · exact .none
  · rw [Translation.function?] at hfuel ⊢
    rw [Interpretation.body]
    refine .some fun context => ?_
    have hdepth := hfuel _ rfl
    rw [Script.functionDepth_func_returning] at hdepth
    obtain ⟨rest, rfl⟩ := Nat.exists_eq_add_one_of_ne_zero (by omega : fuel ≠ 0)
    have hlen : (context :: stack).length = stack.length + 1 := rfl
    exact join_yields hlen (hframe.push context) (h _ rfl) hcalled (by omega)

section Serving
variable (hserves : host.Serves o helpers)
include hserves

theorem interpolation_yields (hframe : Frame host.evaluator vars stack) {p : Path}
    (hp : Reached stack.length p) (hfuel : 0 < fuel) (escaped : Bool) :
    Yields (host.evaluate fuel vars (.callNamed (if escaped then o.escapeFn else o.stringifyFn)
        [Translation.path stack.length p]))
      (Interpretation.path stack p >>= fun v =>
        host.call (if escaped then o.escapeFn else o.stringifyFn) v fun _ => none) := by
  obtain ⟨rest, rfl⟩ := Nat.exists_eq_add_one_of_ne_zero (by omega : fuel ≠ 0)
  have hreg : host.Registered (if escaped then o.escapeFn else o.stringifyFn) := by
    cases escaped
    · exact hserves.stringify
    · exact hserves.escape
  have hfree : isContextName (if escaped then o.escapeFn else o.stringifyFn) = false := by
    cases escaped
    · exact hserves.stringifyFree
    · exact hserves.escapeFree
  obtain ⟨f, hf, hcall⟩ := hframe.call_yields hreg hfree fun _ => Option.Rel.none
  rw [Host.evaluate, evaluate_callNamed, hf, pure_bind]
  exact (path_yields hframe hp).bind hcall

/-- The call of a helper yields what the host makes of it, if its functions render its bodies. -/
theorem helperCall_yields (hframe : Frame host.evaluator vars stack) {name : String} (hname : name ∈ helpers)
    (hc : Callable o name) {pairs : List (HashPair Template.Expr)}
    (hv : ∀ pair ∈ pairs, SupportedValue stack.length pair.value)
    {fs : Body → Option (Function Statement)} {bodies : Body → Option (Rendering η)}
    (h : ∀ b, Option.Rel (Renders host.evaluator fuel vars) (fs b) (bodies b)) :
    Yields (host.evaluate (fuel + 1) vars
        (helperCall name (Translation.properties stack.length pairs) (bodyProperties fs)))
      (Interpretation.fields stack [] pairs >>= fun fields =>
        host.call name (.object fields) bodies) := by
  obtain ⟨f, hf, hcall⟩ := hframe.call_yields (hserves.helper name hname) hc.notContext h
  rw [Host.evaluate, evaluate_helperCall, hf, pure_bind]
  exact (fields_yields hframe hserves.undefined hv []).bind fun fields => hcall (.object fields)

theorem conditional_yields (hframe : Frame host.evaluator vars stack) (name : String) {test : Template.Expr}
    (htest : SupportedValue stack.length test) {a b : Script.Expr}
    {r r' : Except EvalError (Value η)} (ha : Yields (host.evaluate fuel vars a) r)
    (hb : Yields (host.evaluate fuel vars b) r') :
    Yields (host.evaluate fuel vars
        (if name == "if" then .cond (Translation.value stack.length test) a b
          else .cond (Translation.value stack.length test) b a))
      (Interpretation.value stack test >>= fun t =>
        if t.isTruthy = (name == "if") then r else r') := by
  have hvalue : Yields (host.evaluate fuel vars (Translation.value stack.length test))
      (Interpretation.value stack test) := value_yields hframe hserves.undefined htest
  by_cases hif : (name == "if") = true
  · rw [if_pos hif, Host.evaluate, Evaluator.evaluate]
    refine hvalue.bind fun t => ?_
    rw [hif]
    split
    · exact ha
    · exact hb
  · rw [if_neg hif, Host.evaluate, Evaluator.evaluate]
    refine hvalue.bind fun t => ?_
    rw [Bool.not_eq_true] at hif
    rw [hif]
    cases t.isTruthy
    · exact ha
    · exact hb

theorem simulated_interpolation {scope : Nat} {m : Mustache} {p : Path} (hnamed : m.call.named = [])
    (hpath : m.call.path = .path p) (hp : Reached scope p) :
    Simulated host o helpers scope (.mustache m) := by
  intro fuel vars stack hlen hframe _ hfuel
  subst hlen
  have ht : Translation.node o stack.length (.mustache m) = some (.callNamed
      (if m.escaped then o.escapeFn else o.stringifyFn) [Translation.path stack.length p]) :=
    Translation.node_interpolation hnamed hpath
  have hi : Interpretation.node host o stack (.mustache m) = some <$> (do
      let v ← Interpretation.path stack p
      host.call (if m.escaped then o.escapeFn else o.stringifyFn) v fun _ => none) := by
    simp [Interpretation.node, Interpretation.mustache, hnamed, hpath]
  have hpos := hfuel _ ht
  rw [ht, hi, Option.mapM_some]
  exact (interpolation_yields hserves hframe hp (by omega) m.escaped).map _

theorem simulated_call {scope : Nat} {m : Mustache} {name : String} (hnamed : m.call.named ≠ [])
    (hhelper : m.call.helper? = some name) (hc : Callable o name)
    (hv : ∀ pair ∈ m.call.named, SupportedValue scope pair.value) :
    Simulated host o helpers scope (.mustache m) := by
  intro fuel vars stack hlen hframe hcalled hfuel
  subst hlen
  have ht : Translation.node o stack.length (.mustache m) = some (helperCall name
      (Translation.properties stack.length m.call.named) (bodyProperties fun _ => none)) := by
    simp [Translation.node, Translation.mustache, hnamed, hhelper, bodyProperties]
  have hi : Interpretation.node host o stack (.mustache m) = some <$> (do
      let fields ← Interpretation.fields stack [] m.call.named
      host.call name (.object fields) fun _ => none) := by
    simp [Interpretation.node, Interpretation.mustache, hnamed, hhelper]
  have hpos := hfuel _ ht
  obtain ⟨rest, rfl⟩ := Nat.exists_eq_add_one_of_ne_zero (by omega : fuel ≠ 0)
  have hmem : name ∈ helpers := hcalled name (by simp [Node.called, hnamed, hhelper])
  rw [ht, hi, Option.mapM_some]
  exact (helperCall_yields hserves hframe hmem hc hv fun _ => Option.Rel.none).map _

section Block
variable {scope : Nat} {call : Call} {main inverse : Option (Template.Program Node)}
  {loc : Option Template.Location} {name : String}

theorem simulated_conditional {test : Template.Expr} (hname : call.path.plainName? = some name)
    (hcond : isConditional name = true) (hparams : call.params = [test])
    (htest : SupportedValue scope test)
    (ihm : ∀ p ∈ main, ∀ n ∈ p.body, Simulated host o helpers scope n)
    (ihi : ∀ p ∈ inverse, ∀ n ∈ p.body, Simulated host o helpers scope n) :
    Simulated host o helpers scope (.block ⟨call, main, inverse, loc⟩) := by
  intro fuel vars stack hlen hframe hcalled hfuel
  subst hlen
  let a := Translation.branch o stack.length main
  let b := Translation.branch o stack.length inverse
  have ht : Translation.node o stack.length (.block ⟨call, main, inverse, loc⟩) = some
      (if name == "if" then .cond (Translation.value stack.length test) a b
        else .cond (Translation.value stack.length test) b a) :=
    Translation.node_conditional hname hcond hparams
  have hi : Interpretation.node host o stack (.block ⟨call, main, inverse, loc⟩) = some <$> (do
      let t ← Interpretation.value stack test
      if t.isTruthy = (name == "if") then Interpretation.branch host o stack main
        else Interpretation.branch host o stack inverse) := by
    simp [Interpretation.node, hname, hcond, hparams]
  have hdepth : 2 * a.functionDepth < fuel ∧ 2 * b.functionDepth < fuel := by
    have h := hfuel _ ht
    split at h
    · rw [Script.Expr.functionDepth] at h
      omega
    · rw [Script.Expr.functionDepth] at h
      omega
  rw [Node.called] at hcalled
  have ha := branch_yields rfl hframe ihm
    (fun n hn => hcalled n (List.mem_append_right _ (List.mem_append_left _ hn))) hdepth.1
  have hb := branch_yields rfl hframe ihi
    (fun n hn => hcalled n (List.mem_append_right _ (List.mem_append_right _ hn))) hdepth.2
  rw [ht, hi, Option.mapM_some]
  exact (conditional_yields hserves hframe name htest ha hb).map _

theorem simulated_block (hname : call.path.plainName? = some name)
    (hcond : isConditional name = false) (hc : Callable o name)
    (hv : ∀ pair ∈ call.named, SupportedValue scope pair.value)
    (ihm : ∀ p ∈ main, ∀ n ∈ p.body, Simulated host o helpers (scope + 1) n)
    (ihi : ∀ p ∈ inverse, ∀ n ∈ p.body, Simulated host o helpers (scope + 1) n) :
    Simulated host o helpers scope (.block ⟨call, main, inverse, loc⟩) := by
  intro fuel vars stack hlen hframe hcalled hfuel
  subst hlen
  let fs := Body.select (Translation.function? o stack.length main)
    (Translation.function? o stack.length inverse)
  have ht : Translation.node o stack.length (.block ⟨call, main, inverse, loc⟩) =
      some (helperCall name (Translation.properties stack.length call.named)
        (bodyProperties fs)) := by
    simp [Translation.node, hname, hcond, Translation.body_eq, bodyProperties, fs, Body.select,
      Body.key]
  have hi : Interpretation.node host o stack (.block ⟨call, main, inverse, loc⟩) = some <$> (do
      let fields ← Interpretation.fields stack [] call.named
      host.call name (.object fields) (Body.select (Interpretation.body host o stack main)
        (Interpretation.body host o stack inverse))) := by
    simp [Interpretation.node, hname, hcond]
  have hpos := hfuel _ ht
  obtain ⟨rest, rfl⟩ := Nat.exists_eq_add_one_of_ne_zero (by omega : fuel ≠ 0)
  -- of two calls the helper takes one, and leaves one to the function
  have hdepth : ∀ b, ∀ f ∈ fs b, 2 * (Script.Expr.func f).functionDepth ≤ rest := by
    intro b f hf
    have hle := Script.functionDepth_le_helperCall (mem_bodyProperties hf) name
      (Translation.properties stack.length call.named)
    omega
  have hhelper : call.helper? = some name := by simp [Call.helper?, hname, hcond]
  rw [Node.called, hhelper] at hcalled
  have hmem : name ∈ helpers := hcalled name List.mem_cons_self
  rw [ht, hi, Option.mapM_some]
  refine (helperCall_yields hserves hframe hmem hc hv fun b => ?_).map _
  cases b with
  | main =>
    exact function_renders hframe ihm
      (fun n hn => hcalled n (List.mem_append_right _ (List.mem_append_left _ hn))) (hdepth .main)
  | inverse =>
    exact function_renders hframe ihi
      (fun n hn => hcalled n (List.mem_append_right _ (List.mem_append_right _ hn)))
      (hdepth .inverse)

end Block

/-- Supported statements are translated faithfully. -/
theorem simulated_of_supported {scope : Nat} {n : Node} (h : Supported o scope n) :
    Simulated host o helpers scope n := by
  induction h with
  | content =>
    intro fuel vars stack _ _ _ _
    rw [Translation.node, Option.mapM_some, Host.evaluate, Evaluator.evaluate_text, map_pure]
    exact yields_pure _
  | comment =>
    intro fuel vars stack _ _ _ _
    exact yields_pure _
  | interpolation hnamed hpath hp _ => exact simulated_interpolation hserves hnamed hpath hp
  | call hnamed hname hcond hc _ hv =>
    exact simulated_call hserves hnamed (by simp [Call.helper?, hname, hcond]) hc hv
  | conditional hname hcond hparams htest _ _ _ _ _ ihm ihi =>
    exact simulated_conditional hserves hname hcond hparams htest ihm ihi
  | block hname hcond hc _ hv _ _ _ _ ihm ihi =>
    exact simulated_block hserves hname hcond hc hv ihm ihi

end Serving

end Translation

/-! ## Programs -/

section Program
variable {η : Type} {host : Host η}

theorem render?_module (exported : Bool) (helpers : HelperTable) (f : Function Statement) :
    (Compilation.module exported helpers f).render? = some f := by
  rw [Script.Program.render?, Compilation.module, List.findSome?_append,
    List.findSome?_eq_none_iff.mpr]
  · cases exported with
    | false => rfl
    | true => rfl
  · intro s hs
    obtain ⟨entry, -, rfl⟩ := List.mem_map.mp hs
    rfl

theorem functionDepth_le_module (exported : Bool) (helpers : HelperTable) (f : Function Statement) :
    (Script.Expr.func f).functionDepth ≤ (Compilation.module exported helpers f).functionDepth := by
  have hmem : (if exported then .exported (.function f) else .function f) ∈
      (Compilation.module exported helpers f).body := List.mem_append_right _ List.mem_cons_self
  have hle := Script.functionDepth_le_of_mem_statements hmem
  cases exported with
  | false => exact hle
  | true => exact hle

/-- A program gives the text of what its render function gives, unless it imports a name that stands
for nothing. -/
theorem renderWithin_module (ev : Evaluator η) (fuel : Nat) (exported : Bool)
    (helpers : HelperTable) (f : Function Statement) (data : Value η) :
    (∃ vars, Frame ev vars [] ∧
      ev.renderWithin fuel (Compilation.module exported helpers f) data =
        Value.text <$> ev.callWithin fuel (.closure f vars) [data]) ∨
    ∃ name source, (name, source) ∈ helpers.imports ∧ ev.globals.lookup name = none ∧
      ev.renderWithin fuel (Compilation.module exported helpers f) data =
        Eval.fail (.unresolvedImport name source) := by
  have hdecl : ∀ vars, ev.bindImports
      [if exported then .exported (.function f) else .function f] vars = pure vars := by
    intro vars
    cases exported with
    | false => rfl
    | true => rfl
  rw [Evaluator.renderWithin, render?_module]
  rcases (Frame.nil ev).bindImports helpers.imports
    [if exported then .exported (.function f) else .function f] with
    ⟨vars, hframe, hvars⟩ | ⟨name, source, hm, hnone, hfail⟩
  · refine Or.inl ⟨vars, hframe, ?_⟩
    rw [Compilation.module, hvars, hdecl, pure_bind, map_eq_pure_bind]
  · refine Or.inr ⟨name, source, hm, hnone, ?_⟩
    rw [Compilation.module, hfail]
    rfl

/-- A program yields the text of what its render function yields. -/
theorem renderWithin_yields {fuel : Nat} {helpers : HelperTable} {f : Function Statement}
    {data : Value η} {r : Except EvalError (Value η)}
    (hreg : ∀ name ∈ helpers.names, host.Registered name)
    (hcall : ∀ vars, Frame host.evaluator vars [] →
      Yields (host.evaluator.callWithin fuel (.closure f vars) [data]) r) (exported : Bool) :
    Yields (host.evaluator.renderWithin fuel (Compilation.module exported helpers f) data)
      (Value.text <$> r) := by
  rcases renderWithin_module host.evaluator fuel exported helpers f data with
    ⟨vars, hframe, hrender⟩ | ⟨name, source, hm, hnone, -⟩
  · rw [hrender]
    exact (hcall vars hframe).map _
  · have hnone : host.globals.lookup name = none := hnone
    rcases hreg name (HelperTable.mem_names_of_mem_imports hm) with
      ⟨f, hf⟩ | ⟨registered, helper, hf⟩
    · rw [hnone] at hf
      cases hf
    · rw [hnone] at hf
      cases hf

theorem outcome_render_of_yields {p : Script.Program} {data : Value η} {r : Except EvalError String}
    (h : Yields (host.evaluator.renderWithin (Evaluator.fuelFor p) p data) r) :
    (host.evaluator.render p data).outcome = r.mapError Stop.failed := by
  obtain ⟨calls, hrun⟩ := h []
  rw [Evaluator.render, Evaluator.trace, hrun]

/-- What a strict compilation gives: the translation of a supported template, and a table with all
the helpers that it calls. -/
theorem compile_strict_ok {t : Node} {o : Options} {resolve : Resolver} {c : Compilation}
    (hs : o.strict = true) (hc : (compile t o resolve).result = .ok c) :
    ∃ p, t = .program p ∧ (∀ n ∈ p.body, Supported o 1 n) ∧
      (∀ name ∈ Node.calledBy p.body, name ∈ c.helpers.names) ∧
      c.program = Compilation.module o.exported c.helpers (.returning (some o.renderName)
        (contextName 1) (join (Translation.nodes o 1 p.body))) := by
  let s : Settings := ⟨o, resolve⟩
  rcases h : Compiling.after (Compiling.root s t) .none with ⟨e | f, g⟩
  · rw [compile_of_error h] at hc
    cases hc
  · rw [compile_of_ok h] at hc
    cases hc
    obtain ⟨p, rfl, hnames, hbody⟩ := Compiling.supported_root_of_passes (s := s) hs ⟨_, f, g, h⟩
    rw [Compiling.root_eq_recording (s := s) hs hnames hbody] at h
    obtain ⟨g', h', -, hmem⟩ := Compiling.after_recording_of_recordable
      (Script.Function.returning (some o.renderName) (contextName 1)
        (join (Translation.nodes o 1 p.body))) (Compiling.recordable_of_after_recording h)
    cases h.symm.trans h'
    exact ⟨p, rfl, hbody, fun name hn => (hmem name).mpr (Or.inr hn), rfl⟩

end Program

/-- Rendering data with a template that strict options accept ends as reading the template over the
data does: with the same text or with the same error. -/
theorem render_compile_eq_interpretation {η : Type} (host : Host η) (t : Node) (o : Options)
    (resolve : Resolver) (c : Compilation) (data : Value η) (hs : o.strict = true)
    (hc : (compile t o resolve).result = .ok c) (hserves : host.Serves o c.helpers.names) :
    (host.evaluator.render c.program data).outcome =
      (Interpretation.root host o data t).mapError Stop.failed := by
  obtain ⟨p, rfl, hbody, hcalled, hprogram⟩ := compile_strict_ok hs hc
  rw [hprogram]
  apply outcome_render_of_yields
  let e := join (Translation.nodes o 1 p.body)
  let f := Script.Function.returning (some o.renderName) (contextName 1) e
  have hdepth : 2 * e.functionDepth + 2 ≤
      Evaluator.fuelFor (Compilation.module o.exported c.helpers f) := by
    have hle := functionDepth_le_module o.exported c.helpers f
    rw [Script.functionDepth_func_returning] at hle
    rw [Evaluator.fuelFor]
    omega
  obtain ⟨rest, hrest⟩ := Nat.exists_eq_add_one_of_ne_zero
    (by omega : Evaluator.fuelFor (Compilation.module o.exported c.helpers f) ≠ 0)
  have hroot : Interpretation.root host o data (.program p) =
      Value.text <$> Interpretation.join <$> Interpretation.nodes host o [data] p.body := by
    rw [Interpretation.root, Functor.map_map]
  rw [hroot]
  refine renderWithin_yields hserves.helper (fun vars hframe => ?_) o.exported
  rw [hrest]
  have hlen : [data].length = 1 := rfl
  have hfuel : 2 * e.functionDepth < rest := by omega
  exact Translation.join_yields hlen (hframe.push data)
    (fun n hn => Translation.simulated_of_supported hserves (hbody n hn)) hcalled hfuel

namespace Twice

/-- `{{#twice on=row}}{{../title}}{{{name}}}{{/twice}}` -/
def template : Node :=
  .root [.block ⟨⟨.path (.new 0 ["twice"]), [], some (.new [("on", .path (.new 0 ["row"]))])⟩,
    some (.new [.mustache ⟨.new (.new 1 ["title"]), true, none⟩,
      .mustache ⟨.new (.new 0 ["name"]), false, none⟩]), none, none⟩]

/-- A helper that renders its body on a named argument, and once more on the first outcome. -/
def host : Host Unit where
  globals := [("escape", .builtin .escape), ("String", .builtin .string),
    ("twice", .host "twice" ())]
  conduct _ sight := .thenWith .main (sight.argument.get "on") fun a =>
    .thenWith .main (.object [("name", a)]) fun b => .value (a.add b)

def data : Value Unit := .object [("title", .string "<"), ("row", .object [("name", .string "n")])]

/-- The second rendering still finds the title of the context around the block. -/
theorem render_nested : ∃ c, (compile template {} Resolver.none).result = .ok c ∧
    host.Serves {} c.helpers.names ∧
    (host.evaluator.render c.program data).outcome = .ok "&lt;n&lt;&lt;n" := by
  refine ⟨_, rfl, ?_⟩
  have hserves : host.Serves {} ["twice"] :=
    { escape := Or.inl ⟨.escape, rfl⟩
      stringify := Or.inl ⟨.string, rfl⟩
      escapeFree := by decide
      stringifyFree := by decide
      undefined := rfl
      helper := by
        intro name hname
        rw [List.mem_singleton.mp hname]
        exact Or.inr ⟨_, _, rfl⟩ }
  exact ⟨hserves,
    render_compile_eq_interpretation host template {} Resolver.none _ data rfl rfl hserves⟩

end Twice

end Stencil
