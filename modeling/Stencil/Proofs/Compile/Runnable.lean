import Stencil.Proofs.Compile.Generated
import Stencil.Proofs.Compile.Correctness
import Stencil.Proofs.Evaluator.Settling

/-!
# Expressions that can be run anywhere

`Runnable` is a type system with one type: inside of `k` functions an expression reads the variables
of these functions, `undefined` and members, it calls nothing but functions that have a name of
their own, and to these it hands over values and functions one level deeper. In particular it never
calls a value that it has read. Whatever a runnable expression is evaluated on, the evaluation
settles (`Runnable.settles`), and what a template is compiled to is runnable
(`Generated.runnable`).
-/

namespace Stencil

set_option autoImplicit false

open Template (Node Path Call Mustache HashPair)
open Script (Property)
open Compiling (contextName isContextName isConditional helperCall join)
open Eval (Settles settles_pure settles_fail)

/-- A body of a helper call one scope deeper. -/
def bodyFunction (scope : Nat) (e : Script.Expr) : Script.Function Script.Statement :=
  .returning none (contextName (scope + 1)) e

/-- An expression that can be run inside of `k` functions, if the callees can be called. -/
inductive Runnable (callees : List String) : Nat → Script.Expr → Prop
  | context {k i : Nat} : 1 ≤ i → i ≤ k → Runnable callees k (.ident (contextName i))
  | undefined {k : Nat} : Runnable callees k (.ident "undefined")
  | scalar {k : Nat} (v : Script.Scalar) : Runnable callees k (.ofScalar v)
  | get {k : Nat} {e : Script.Expr} (name : String) : Runnable callees k e →
      Runnable callees k (e.get name)
  | plus {k : Nat} {a b : Script.Expr} : Runnable callees k a → Runnable callees k b →
      Runnable callees k (.plus a b)
  | cond {k : Nat} {t a b : Script.Expr} : Runnable callees k t → Runnable callees k a →
      Runnable callees k b → Runnable callees k (.cond t a b)
  | apply {k : Nat} {name : String} {e : Script.Expr} : name ∈ callees → Runnable callees k e →
      Runnable callees k (.callNamed name [e])
  | call {k : Nat} {name : String} {named : List (String × Script.Expr)}
      {bodies : Body → Option Script.Expr} : name ∈ callees →
      (∀ p ∈ named, Runnable callees k p.2) → (∀ b, ∀ e ∈ bodies b, Runnable callees (k + 1) e) →
      Runnable callees k (helperCall name (named.map fun p => .of p.1 p.2)
        (bodyProperties fun b => (bodies b).map (bodyFunction k)))

def Value.isNative {η : Type} : Value η → Bool
  | .builtin _ => true
  | .host .. => true
  | _ => false

namespace Evaluator

variable {η : Type}

/-- A name that is no variable's and that stands for no function of a script. If it stands for
nothing at all, the errors to expect are of the kind. -/
structure Answers (ev : Evaluator η) (P : List (HostCall η) → EvalError → Prop) (name : String) :
    Prop where
  free : isContextName name = false
  native : ∀ v, ev.globals.lookup name = some v → v.isNative = true
  missing : ev.globals.lookup name = none → P [] (.reference name) ∧ P [] (.notAFunction "undefined")

/-- A call of a registered helper, the bodies of which settle on every context. -/
structure Serviceable (ev : Evaluator η) (P : List (HostCall η) → EvalError → Prop) (least : Nat)
    (c : HostCall η) : Prop where
  registered : ∃ name, ev.globals.lookup name = some (.host c.name c.helper)
  body : ∀ fuel, least ≤ fuel → ∀ b context,
    Settles P (fun _ => True) (renderBody (ev.callWithin fuel) c.args b context)

variable {ev : Evaluator η} {P : List (HostCall η) → EvalError → Prop} {least : Nat}

theorem settles_callWithin (hP : ev.Closed P) {v : Value η} (hv : v.isNative = true)
    (hreg : ∃ name, ev.globals.lookup name = some v) {fuel : Nat} {args : List (Value η)}
    (hargs : ∀ fuel', fuel ≤ fuel' ∨ least ≤ fuel' → ∀ b context,
      Settles P (ev.Serviceable P least) (renderBody (ev.callWithin fuel') args b context)) :
    Settles P (ev.Serviceable P least) (ev.callWithin (fuel + 1) v args) := by
  cases v with
  | builtin f => exact settles_pure _
  | host name helper =>
    refine hP.settles_host ⟨hreg, ?_⟩ (hargs fuel (Or.inl (Nat.le_refl fuel)))
    intro fuel' hfuel b context
    exact (hargs fuel' (Or.inr hfuel) b context).weaken fun _ _ => trivial
  | _ => cases hv

/-- A function is found by its name, and called on what something comes to. -/
theorem Answers.settles_call {name : String} (hname : ev.Answers P name) (hP : ev.Closed P)
    {vars : Variables η} {stack : List (Value η)} (hframe : Frame ev vars stack) {fuel : Nat}
    {α : Type} {x : Eval η α} (hx : Settles P (ev.Serviceable P least) x) {args : α → List (Value η)}
    (hargs : ∀ a fuel', fuel ≤ fuel' ∨ least ≤ fuel' → ∀ b context,
      Settles P (ev.Serviceable P least) (renderBody (ev.callWithin fuel') (args a) b context)) :
    Settles P (ev.Serviceable P least) (do
      let f ← ev.lookup vars name
      let a ← x
      ev.callWithin (fuel + 1) f (args a)) := by
  rw [hframe.lookup_eq hname.free]
  cases hv : ev.globals.lookup name with
  | some v =>
    simp only [pure_bind]
    exact hP.settles_bind hx fun a =>
      settles_callWithin hP (hname.native v hv) ⟨name, hv⟩ (hargs a)
  | none =>
    obtain ⟨hreference, hcall⟩ := hname.missing hv
    by_cases hundefined : name = "undefined"
    · simp only [hundefined, if_true, pure_bind]
      exact hP.settles_bind hx fun a => settles_fail hcall
    · simp only [hundefined, if_false]
      exact settles_fail hreference

end Evaluator

namespace Runnable

variable {η : Type} {ev : Evaluator η} {P : List (HostCall η) → EvalError → Prop} {least : Nat}
  {callees : List String} {fuel : Nat} {vars : Variables η} {stack : List (Value η)}

/-- However and on whatever it is run, the expression settles. -/
def Settling (ev : Evaluator η) (P : List (HostCall η) → EvalError → Prop) (least k : Nat)
    (e : Script.Expr) : Prop :=
  ∀ {fuel : Nat} {vars : Variables η} {stack : List (Value η)}, stack.length = k →
    Frame ev vars stack → 2 * e.functionDepth < fuel → 2 * e.functionDepth ≤ least →
    Settles P (ev.Serviceable P least) (ev.evaluate (ev.callWithin fuel) vars e)

theorem settles_fields (hP : ev.Closed P) {named : List (String × Script.Expr)}
    (h : ∀ p ∈ named, Settles P (ev.Serviceable P least)
      (ev.evaluate (ev.callWithin fuel) vars p.2)) (fields : List (String × Value η)) :
    Settles P (ev.Serviceable P least) (ev.evaluateFields (ev.callWithin fuel) vars fields
      (named.map fun p => .of p.1 p.2)) := by
  induction named generalizing fields with
  | nil =>
    rw [List.map_nil, Evaluator.evaluateFields_nil]
    exact settles_pure _
  | cons p named ih =>
    rw [List.map_cons, Evaluator.evaluateFields_of]
    exact hP.settles_bind (h p List.mem_cons_self) fun v =>
      ih (fun q hq => h q (List.mem_cons_of_mem _ hq)) _

/-- A body is entered with its context as one more variable. -/
theorem settles_bodyFunction {e : Script.Expr} (h : Settling ev P least (stack.length + 1) e)
    (hframe : Frame ev vars stack) (hfuel : 2 * (e.functionDepth + 1) ≤ fuel)
    (hleast : 2 * (e.functionDepth + 1) ≤ least) (id : Option String) (context : Value η) :
    Settles P (ev.Serviceable P least)
      (ev.callWithin fuel (.closure (.returning id (contextName (stack.length + 1)) e) vars) [context]) := by
  obtain ⟨rest, rfl⟩ := Nat.exists_eq_add_one_of_ne_zero (by omega : fuel ≠ 0)
  have hlen : (context :: stack).length = stack.length + 1 := rfl
  exact h hlen (hframe.push context) (by omega) (by omega)

/-- Runnable expressions settle. -/
theorem settles (hP : ev.Closed P) (hcallees : ∀ name ∈ callees, ev.Answers P name) {k : Nat}
    {e : Script.Expr} (h : Runnable callees k e) : Settling ev P least k e := by
  induction h with
  | @context k i hlow hhigh =>
    intro fuel vars stack hlen hframe _ _
    have hi : stack.length - (stack.length - i) = i := by omega
    have hlookup := hframe.lookup_context (i := stack.length - i) (by omega)
    rw [hi] at hlookup
    rw [Evaluator.evaluate, hlookup]
    exact settles_pure _
  | undefined =>
    intro fuel vars stack _ hframe _ _
    rw [Evaluator.evaluate, hframe.lookup_eq (by decide)]
    cases ev.globals.lookup "undefined" with
    | some v => exact settles_pure _
    | none => exact settles_pure _
  | scalar v =>
    intro fuel vars stack _ _ _ _
    rw [Script.Expr.ofScalar, Evaluator.evaluate]
    exact settles_pure _
  | @get k e name _ ih =>
    intro fuel vars stack hlen hframe hfuel hleast
    rw [Script.functionDepth_get] at hfuel hleast
    rw [Evaluator.evaluate_get]
    exact hP.settles_bind (ih hlen hframe hfuel hleast) fun v => hP.settles_member v name
  | @plus k a b _ _ iha ihb =>
    intro fuel vars stack hlen hframe hfuel hleast
    rw [Script.Expr.functionDepth] at hfuel hleast
    rw [Evaluator.evaluate]
    refine hP.settles_bind (iha hlen hframe (by omega) (by omega)) fun v => ?_
    exact hP.settles_bind (ihb hlen hframe (by omega) (by omega)) fun w => settles_pure _
  | @cond k t a b _ _ _ iht iha ihb =>
    intro fuel vars stack hlen hframe hfuel hleast
    rw [Script.Expr.functionDepth] at hfuel hleast
    rw [Evaluator.evaluate]
    refine hP.settles_bind (iht hlen hframe (by omega) (by omega)) fun v => ?_
    split
    · exact iha hlen hframe (by omega) (by omega)
    · exact ihb hlen hframe (by omega) (by omega)
  | @apply k name e hname _ ih =>
    intro fuel vars stack hlen hframe hfuel hleast
    rw [Script.functionDepth_callNamed] at hfuel hleast
    obtain ⟨rest, rfl⟩ := Nat.exists_eq_add_one_of_ne_zero (by omega : fuel ≠ 0)
    rw [evaluate_callNamed]
    refine (hcallees name hname).settles_call hP hframe (ih hlen hframe hfuel hleast) ?_
    intro v fuel' _ b context
    rw [renderBody_bodyArgs]
    exact settles_pure _
  | @call k name named bodies hname _ _ ihn ihb =>
    intro fuel vars stack hlen hframe hfuel hleast
    subst hlen
    obtain ⟨rest, rfl⟩ := Nat.exists_eq_add_one_of_ne_zero (by omega : fuel ≠ 0)
    let fs : Body → Option (Script.Function Script.Statement) :=
      fun b => (bodies b).map (bodyFunction stack.length)
    let ps : List (Property Script.Expr) := named.map fun p => .of p.1 p.2
    have hfuel : 2 * (helperCall name ps (bodyProperties fs)).functionDepth < rest + 1 := hfuel
    have hleast : 2 * (helperCall name ps (bodyProperties fs)).functionDepth ≤ least := hleast
    have hnamed : ∀ p ∈ named, Settles P (ev.Serviceable P least)
        (ev.evaluate (ev.callWithin (rest + 1)) vars p.2) := by
      intro p hp
      have hmem : Property.of p.1 p.2 ∈ ps := List.mem_map.mpr ⟨p, hp, rfl⟩
      have hle := Script.functionDepth_le_helperCall_of_named hmem name (bodyProperties fs)
      exact ihn p hp rfl hframe (by omega) (by omega)
    rw [evaluate_helperCall]
    refine (hcallees name hname).settles_call hP hframe (settles_fields hP hnamed []) ?_
    -- of two calls the helper takes one, and leaves one to the function of its body
    intro fields fuel' hor b context
    rw [renderBody_bodyArgs]
    cases hb : bodies b with
    | none => exact settles_pure _
    | some e =>
      have hmem : bodyFunction stack.length e ∈ fs b := by simp [fs, hb]
      have hle := Script.functionDepth_le_helperCall (mem_bodyProperties hmem) name ps
      rw [bodyFunction, Script.functionDepth_func_returning] at hle
      refine settles_bodyFunction (ihb b e hb) hframe ?_ (by omega) none context
      omega

theorem foldl_get {k : Nat} {e : Script.Expr} (h : Runnable callees k e) (parts : List String) :
    Runnable callees k (parts.foldl .get e) := by
  induction parts generalizing e with
  | nil => exact h
  | cons key parts ih => exact ih (.get key h)

theorem foldl_plus {k : Nat} {e : Script.Expr} {es : List Script.Expr} (h : Runnable callees k e)
    (hes : ∀ e' ∈ es, Runnable callees k e') : Runnable callees k (es.foldl .plus e) := by
  induction es generalizing e with
  | nil => exact h
  | cons e' es ih =>
    exact ih (.plus h (hes e' List.mem_cons_self)) fun e'' hm => hes e'' (List.mem_cons_of_mem _ hm)

theorem joined {k : Nat} {es : List Script.Expr} (h : ∀ e ∈ es, Runnable callees k e) :
    Runnable callees k (join es) := by
  cases es with
  | nil => exact .scalar (.str "")
  | cons e es =>
    exact foldl_plus (h e List.mem_cons_self) fun e' hm => h e' (List.mem_cons_of_mem _ hm)

end Runnable

/-! ## Compiled templates -/

namespace Translation

variable {o : Options} {callees : List String} {k : Nat}

theorem runnable_path {p : Path} (hp : Reached k p) : Runnable callees k (path k p) := by
  have hlt := hp.inside
  exact Runnable.foldl_get (.context (by omega) (by omega)) p.parts

theorem runnable_value {e : Template.Expr} (he : SupportedValue k e) :
    Runnable callees k (value k e) := by
  cases e with
  | path p => exact runnable_path he
  | sub => exact he.elim
  | undefined => exact .undefined
  | _ => exact .scalar _

theorem runnable_nodes {ns : List Node} (h : ∀ n ∈ ns, ∀ e ∈ node o k n, Runnable callees k e) :
    ∀ e ∈ nodes o k ns, Runnable callees k e := by
  induction ns with
  | nil =>
    intro e he
    cases he
  | cons n ns ih =>
    intro e he
    rcases List.mem_append.mp he with he | he
    · exact h n List.mem_cons_self e (Option.mem_toList.mp he)
    · exact ih (fun m hm => h m (List.mem_cons_of_mem _ hm)) e he

theorem runnable_branch {b : Option (Template.Program Node)}
    (h : ∀ p ∈ b, ∀ n ∈ p.body, ∀ e ∈ node o k n, Runnable callees k e) :
    Runnable callees k (branch o k b) := by
  cases b with
  | none => exact .scalar (.str "")
  | some p => exact .joined (runnable_nodes (h p rfl))

/-- What the function of a body returns. -/
def returned? (o : Options) (k : Nat) : Option (Template.Program Node) → Option Script.Expr
  | none => none
  | some ⟨[], _, _⟩ => none
  | some ⟨n :: ns, _, _⟩ => some (join (nodes o (k + 1) (n :: ns)))

theorem function?_eq_map (o : Options) (k : Nat) (b : Option (Template.Program Node)) :
    function? o k b = (returned? o k b).map (bodyFunction k) := by
  rcases b with _ | ⟨_ | ⟨n, ns⟩, names, loc⟩
  · rfl
  · rfl
  · rfl

theorem runnable_returned {b : Option (Template.Program Node)}
    (h : ∀ p ∈ b, ∀ n ∈ p.body, ∀ e ∈ node o (k + 1) n, Runnable callees (k + 1) e) :
    ∀ e ∈ returned? o k b, Runnable callees (k + 1) e := by
  rcases b with _ | ⟨_ | ⟨n, ns⟩, names, loc⟩
  · rintro e ⟨⟩
  · rintro e ⟨⟩
  · rintro e ⟨⟩
    exact .joined (runnable_nodes (h _ rfl))

theorem runnable_helperCall (bodies : Body → Option Script.Expr) {name : String}
    (hname : name ∈ callees) {pairs : List (HashPair Template.Expr)}
    (hv : ∀ pair ∈ pairs, SupportedValue k pair.value)
    (hb : ∀ b, ∀ e ∈ bodies b, Runnable callees (k + 1) e) :
    Runnable callees k (helperCall name (properties k pairs)
      (bodyProperties fun b => (bodies b).map (bodyFunction k))) := by
  let named := pairs.map fun pair => (pair.key, value k pair.value)
  have hproperties : properties k pairs = named.map fun p => .of p.1 p.2 := by
    rw [properties, List.map_map]
    rfl
  have hrunnable : ∀ p ∈ named, Runnable callees k p.2 := by
    intro p hp
    obtain ⟨pair, hpair, rfl⟩ := List.mem_map.mp hp
    exact runnable_value (hv pair hpair)
  rw [hproperties]
  exact .call hname hrunnable hb

/-- The translation of a supported statement is runnable, if the helpers that it calls are among the
callees. -/
theorem runnable_of_supported (hescape : o.escapeFn ∈ callees) (hstringify : o.stringifyFn ∈ callees)
    {n : Node} (hn : Supported o k n) (hcalled : ∀ name ∈ n.called, name ∈ callees) :
    ∀ e ∈ node o k n, Runnable callees k e := by
  induction hn with
  | content =>
    rintro e ⟨⟩
    exact .scalar _
  | comment =>
    rintro e ⟨⟩
  | @interpolation k m p hnamed hpath hp _ =>
    rw [node_interpolation hnamed hpath]
    rintro e ⟨⟩
    refine .apply ?_ (runnable_path hp)
    split
    · exact hescape
    · exact hstringify
  | @call k m name hnamed hname hcond _ _ hv =>
    have hhelper := Call.helper?_of_plainName hname hcond
    have hmem : name ∈ callees := hcalled name (by simp [Node.called, hnamed, hhelper])
    rw [node_call hnamed hhelper]
    rintro e ⟨⟩
    refine runnable_helperCall (fun _ => none) hmem hv fun _ e he => ?_
    cases he
  | @conditional k call main inverse loc name test hname hcond hparams htest _ _ _ _ _ ihm ihi =>
    obtain ⟨hmain, hinverse⟩ := Node.forall_calledIn hcalled
    have ha := runnable_branch fun p hp n hn =>
      ihm p hp n hn fun name hm => hmain name (Node.mem_calledIn hp hn hm)
    have hb := runnable_branch fun p hp n hn =>
      ihi p hp n hn fun name hm => hinverse name (Node.mem_calledIn hp hn hm)
    rw [node_conditional hname hcond hparams]
    rintro e ⟨⟩
    split
    · exact .cond (runnable_value htest) ha hb
    · exact .cond (runnable_value htest) hb ha
  | @block k call main inverse loc name hname hcond _ _ hv _ _ _ _ ihm ihi =>
    obtain ⟨hmain, hinverse⟩ := Node.forall_calledIn hcalled
    have hmem : name ∈ callees := by
      rw [Node.called, Call.helper?_of_plainName hname hcond] at hcalled
      exact hcalled name List.mem_cons_self
    have hm := runnable_returned fun p hp n hn =>
      ihm p hp n hn fun name hm => hmain name (Node.mem_calledIn hp hn hm)
    have hi := runnable_returned fun p hp n hn =>
      ihi p hp n hn fun name hm => hinverse name (Node.mem_calledIn hp hn hm)
    rw [node_block hname hcond, body_eq, body_eq, function?_eq_map, function?_eq_map]
    rintro e ⟨⟩
    refine runnable_helperCall (Body.select (returned? o k main) (returned? o k inverse)) hmem hv ?_
    rintro (_ | _)
    · exact hm
    · exact hi

end Translation

theorem Generated.runnable {o : Options} {resolve : Resolver} {ns : List Node} {c : Compilation}
    (h : Generated o resolve ns c) :
    Runnable (o.escapeFn :: o.stringifyFn :: c.helpers.names) 1 (join (Translation.nodes o 1 ns)) := by
  apply Runnable.joined
  apply Translation.runnable_nodes
  intro n hn
  apply Translation.runnable_of_supported _ _ (h.supported n hn)
  · intro name hm
    have hcalled : name ∈ c.helpers.names := by
      rw [h.names]
      exact List.mem_eraseDups.mpr (Node.mem_calledBy hn hm)
    exact List.mem_cons_of_mem _ (List.mem_cons_of_mem _ hcalled)
  · exact List.mem_cons_self
  · exact List.mem_cons_of_mem _ List.mem_cons_self

end Stencil
