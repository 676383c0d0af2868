import Stencil.Proofs.Compile.Grammar
import Stencil.Proofs.Compile.Step

/-!
# Two passes step by step

The pass is built from results, errors, tolerated steps and records of helpers, one after the other.
A relation between steps that all of these keep relates the passes of two compilations over the same
template (`Stepwise.root`).
-/

namespace Stencil

set_option autoImplicit false

open Template (Node Location Call Mustache HashPair)

/-- Errors of the resolver. -/
def CompileError.isResolution : CompileError → Bool
  | .helperResolution .. => true
  | _ => false

namespace Compiling

/-- A relation between steps under two settings that generate the same names. Only recording asks the
resolver, and only helpers that can be called are recorded. -/
structure Stepwise (s s' : Settings) (R : (α : Type) → Compiling α → Compiling α → Prop) : Prop where
  escapeFn : s'.options.escapeFn = s.options.escapeFn
  stringifyFn : s'.options.stringifyFn = s.options.stringifyFn
  renderName : s'.options.renderName = s.options.renderName
  pure {α : Type} (a : α) : R α (Pure.pure a) (Pure.pure a)
  throw {α : Type} {e : CompileError} : e.isResolution = false →
    R α (MonadExcept.throw e) (MonadExcept.throw e)
  bind {α β : Type} {x y : Compiling α} {f f' : α → Compiling β} : R α x y →
    (∀ a, R β (f a) (f' a)) → R β (x >>= f) (y >>= f')
  tolerate {α : Type} {x y : Compiling α} (code : String) : R α x y →
    R (Option α) (Compiling.tolerate s code x) (Compiling.tolerate s' code y)
  record {name : String} : Callable s.options name → isConditional name = false →
    R Unit (Compiling.record s name) (Compiling.record s' name)

namespace Stepwise

variable {s s' : Settings} {R : (α : Type) → Compiling α → Compiling α → Prop} {α β : Type}
  {scope : Nat}

theorem callable_iff (h : Stepwise s s' R) (name : String) :
    Callable s'.options name ↔ Callable s.options name := by
  rw [Stencil.callable_iff, Stencil.callable_iff, h.renderName]

theorem map (h : Stepwise s s' R) (f : α → β) {x y : Compiling α} (hxy : R α x y) :
    R β (f <$> x) (f <$> y) := by
  rw [map_eq_pure_bind, map_eq_pure_bind]
  exact h.bind hxy fun a => h.pure (f a)

theorem unsupported (h : Stepwise s s' R) (c : Construct) (loc : Option Location) :
    R α (Compiling.unsupported c loc) (Compiling.unsupported c loc) := h.throw rfl

theorem ignore (h : Stepwise s s' R) (c : Construct) (loc : Option Location) :
    R Unit (Compiling.ignore s c loc) (Compiling.ignore s' c loc) :=
  h.bind (h.tolerate _ (h.unsupported c loc)) fun _ => h.pure ()

theorem checkParams (h : Stepwise s s' R) (callee : String) (params : List Template.Expr)
    (loc : Option Location) : R Unit (Compiling.checkParams s callee params loc)
      (Compiling.checkParams s' callee params loc) := by
  cases params with
  | nil => exact h.pure ()
  | cons p ps => exact h.ignore _ _

theorem checkHash (h : Stepwise s s' R) (callee : String)
    (hash : Option (Template.Hash Template.Expr)) :
    R Unit (Compiling.checkHash s callee hash) (Compiling.checkHash s' callee hash) := by
  unfold Compiling.checkHash
  split
  · exact h.pure ()
  · split
    · exact h.pure ()
    · exact h.ignore _ _

theorem checkBlockParams (h : Stepwise s s' R) (names : List String) (loc : Option Location) :
    R Unit (Compiling.checkBlockParams s names loc) (Compiling.checkBlockParams s' names loc) := by
  unfold Compiling.checkBlockParams
  split
  · exact h.pure ()
  · exact h.ignore _ _

theorem path (h : Stepwise s s' R) (p : Template.Path) :
    R Script.Expr (Compiling.path scope p) (Compiling.path scope p) := by
  unfold Compiling.path
  split
  · exact h.unsupported _ _
  · split
    · exact h.pure _
    · exact h.throw rfl

theorem value (h : Stepwise s s' R) (e : Template.Expr) :
    R Script.Expr (Compiling.value scope e) (Compiling.value scope e) := by
  cases e with
  | path p => exact h.path p
  | sub => exact h.unsupported _ _
  | _ => exact h.pure _

theorem helperName (h : Stepwise s s' R) (e : Template.Expr) (loc : Option Location) :
    R String (Compiling.helperName e loc) (Compiling.helperName e loc) := by
  unfold Compiling.helperName
  split
  · exact h.pure _
  · exact h.unsupported _ _
  · exact h.unsupported _ _

theorem properties (h : Stepwise s s' R) (pairs : List (HashPair Template.Expr)) :
    R (List (Script.Property Script.Expr)) (Compiling.properties s scope pairs)
      (Compiling.properties s' scope pairs) := by
  induction pairs with
  | nil => exact h.pure []
  | cons p ps ih =>
    rw [Compiling.properties, Compiling.properties]
    exact h.bind (h.tolerate _ (h.value p.value)) fun _ => h.bind ih fun _ => h.pure _

theorem arguments (h : Stepwise s s' R) {name : String} (hcond : isConditional name = false)
    (call : Call) (loc : Option Location) :
    R (List (Script.Property Script.Expr)) (Compiling.arguments s scope name call loc)
      (Compiling.arguments s' scope name call loc) := by
  by_cases hc : Callable s.options name
  · rw [arguments_of_callable hc, arguments_of_callable ((h.callable_iff name).mpr hc)]
    exact h.bind (h.record hc hcond) fun _ => h.bind (h.checkParams _ _ _) fun _ => h.properties _
  · rw [arguments_of_not_callable hc, arguments_of_not_callable (mt (h.callable_iff name).mp hc)]
    exact h.unsupported _ _

theorem interpolation (h : Stepwise s s' R) (m : Mustache) :
    R Script.Expr (Compiling.interpolation s scope m) (Compiling.interpolation s' scope m) := by
  unfold Compiling.interpolation
  rw [h.escapeFn, h.stringifyFn]
  split
  · exact h.bind (h.checkParams _ _ _) fun _ => h.bind (h.path _) fun _ => h.pure _
  · exact h.unsupported _ _

theorem mustacheCall (h : Stepwise s s' R) (m : Mustache) :
    R Script.Expr (Compiling.mustacheCall s scope m) (Compiling.mustacheCall s' scope m) := by
  unfold Compiling.mustacheCall
  refine h.bind (h.helperName _ _) fun name => ?_
  cases hcond : isConditional name with
  | true => exact h.throw (e := .invalidHelperCall name .notABlock m.loc) rfl
  | false => exact h.bind (h.arguments hcond _ _) fun _ => h.pure _

theorem mustache (h : Stepwise s s' R) (m : Mustache) :
    R Script.Expr (Compiling.mustache s scope m) (Compiling.mustache s' scope m) := by
  unfold Compiling.mustache
  split
  · exact h.interpolation m
  · exact h.mustacheCall m

theorem test (h : Stepwise s s' R) (name : String) (call : Call) (loc : Option Location) :
    R (Option Script.Expr) (Compiling.test s scope name call loc)
      (Compiling.test s' scope name call loc) := by
  unfold Compiling.test
  split
  · exact h.throw rfl
  · exact h.bind (h.checkParams _ _ _) fun _ => h.bind (h.checkHash _ _) fun _ =>
      h.tolerate _ (h.value _)

theorem nodes (h : Stepwise s s' R) {ns : List Node} (ih : ∀ n ∈ ns,
      R (Option Script.Expr) (Compiling.node s scope n) (Compiling.node s' scope n)) :
    R (List Script.Expr) (Compiling.nodes s scope ns) (Compiling.nodes s' scope ns) := by
  induction ns with
  | nil =>
    rw [Compiling.nodes, Compiling.nodes]
    exact h.pure []
  | cons n ns ihl =>
    have hn := ih n List.mem_cons_self
    have hns := ihl fun m hm => ih m (List.mem_cons_of_mem _ hm)
    rw [Compiling.nodes, Compiling.nodes]
    exact h.bind (h.tolerate _ hn) fun _ => h.bind hns fun _ => h.pure _

theorem branch (h : Stepwise s s' R) {b : Option (Template.Program Node)}
    (ih : ∀ p ∈ b, ∀ n ∈ p.body,
      R (Option Script.Expr) (Compiling.node s scope n) (Compiling.node s' scope n)) :
    R Script.Expr (Compiling.branch s scope b) (Compiling.branch s' scope b) := by
  cases b with
  | none =>
    rw [Compiling.branch, Compiling.branch]
    exact h.pure _
  | some p =>
    obtain ⟨ns, names, loc⟩ := p
    rw [Compiling.branch, Compiling.branch]
    exact h.bind (h.checkBlockParams _ _) fun _ => h.bind (h.nodes (ih _ rfl)) fun _ => h.pure _

theorem body (h : Stepwise s s' R) (key : String) {b : Option (Template.Program Node)}
    (ih : ∀ p ∈ b, ∀ n ∈ p.body,
      R (Option Script.Expr) (Compiling.node s (scope + 1) n) (Compiling.node s' (scope + 1) n)) :
    R (List (Script.Property Script.Expr)) (Compiling.body s scope key b)
      (Compiling.body s' scope key b) := by
  cases b with
  | none =>
    rw [Compiling.body, Compiling.body]
    exact h.pure _
  | some p =>
    obtain ⟨ns, names, loc⟩ := p
    cases ns with
    | nil =>
      rw [Compiling.body, Compiling.body]
      exact h.pure _
    | cons n ns =>
      rw [Compiling.body, Compiling.body]
      exact h.bind (h.checkBlockParams _ _) fun _ => h.bind (h.nodes (ih _ rfl)) fun _ => h.pure _

theorem node (h : Stepwise s s' R) (n : Node) :
    R (Option Script.Expr) (Compiling.node s scope n) (Compiling.node s' scope n) := by
  induction n using Node.bodyInduction generalizing scope with
  | content =>
    rw [Compiling.node, Compiling.node]
    exact h.pure _
  | comment =>
    rw [Compiling.node, Compiling.node]
    exact h.pure _
  | mustache m =>
    rw [Compiling.node, Compiling.node]
    exact h.map some (h.mustache m)
  | block call main inverse loc ihm ihi =>
    rw [Compiling.node, Compiling.node]
    refine h.bind (h.helperName _ _) fun name => ?_
    cases hcond : isConditional name with
    | true =>
      refine h.bind (h.test name call loc) fun t => ?_
      cases t with
      | none => exact h.pure _
      | some t =>
        exact h.bind (h.branch fun p hp n hn => ihm p hp n hn) fun _ =>
          h.bind (h.branch fun p hp n hn => ihi p hp n hn) fun _ => h.pure _
    | false =>
      exact h.bind (h.arguments hcond call loc) fun _ =>
        h.bind (h.body "fn" fun p hp n hn => ihm p hp n hn) fun _ =>
          h.bind (h.body "inverse" fun p hp n hn => ihi p hp n hn) fun _ => h.pure _
  | foreign n hn =>
    cases n with
    | content | comment | mustache | block => cases hn
    | _ =>
      rw [Compiling.node, Compiling.node]
      exact h.unsupported _ _

theorem root (h : Stepwise s s' R) (t : Node) :
    R (Script.Function Script.Statement) (Compiling.root s t) (Compiling.root s' t) := by
  cases t with
  | program p =>
    obtain ⟨ns, names, loc⟩ := p
    rw [Compiling.root, Compiling.root, h.renderName]
    exact h.bind (h.checkBlockParams _ _) fun _ =>
      h.bind (h.nodes fun n _ => h.node n) fun _ => h.pure _
  | _ => exact h.throw rfl

end Stepwise

end Compiling

end Stencil
