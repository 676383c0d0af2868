import Stencil.Proofs.Template.Statement

/-!
# The templates that strict options accept

`Supported o scope n` says without reference to the pass that the statement `n` has a counterpart
in a scope: the grammar of accepted statements. The scope counts the helper bodies around a
statement, the render function included. It grows in the bodies of a helper block only, not in
the branches of a conditional.
-/

namespace Stencil

set_option autoImplicit false

open Template (Node Path Call Mustache)

/-- A name that a helper can have: neither reserved nor that of a generated binding. -/
structure Callable (o : Options) (name : String) : Prop where
  notReserved : Script.isReserved name = false
  notRender : name ≠ o.renderName
  notContext : Compiling.isContextName name = false

theorem callable_iff (o : Options) (name : String) : Callable o name ↔
    Script.isReserved name = false ∧ name ≠ o.renderName ∧ Compiling.isContextName name = false :=
  ⟨fun h => ⟨h.notReserved, h.notRender, h.notContext⟩, fun ⟨hr, hn, hc⟩ => ⟨hr, hn, hc⟩⟩

instance (o : Options) (name : String) : Decidable (Callable o name) :=
  decidable_of_iff _ (callable_iff o name).symm

/-- A path that leads to a value from a scope: a plain one that does not leave the root. -/
structure Reached (scope : Nat) (p : Path) : Prop where
  plain : p.data = false
  inside : p.depth.toNat < scope

/-- Literals and paths have a counterpart, calls in parentheses have none. -/
def SupportedValue (scope : Nat) : Template.Expr → Prop
  | .path p => Reached scope p
  | .sub .. => False
  | _ => True

/-- Statements with a counterpart. -/
inductive Supported (o : Options) : Nat → Node → Prop
  | content {scope text written loc} : Supported o scope (.content text written loc)
  | comment {scope text loc} : Supported o scope (.comment text loc)
  /-- `{{path}}` -/
  | interpolation {scope m p} :
      m.call.named = [] → m.call.path = .path p → Reached scope p → m.call.params = [] →
      Supported o scope (.mustache m)
  /-- `{{name key=value}}` -/
  | call {scope m name} :
      m.call.named ≠ [] → m.call.path.plainName? = some name →
      Compiling.isConditional name = false → Callable o name → m.call.params = [] →
      (∀ pair ∈ m.call.named, SupportedValue scope pair.value) →
      Supported o scope (.mustache m)
  /-- `{{#if test}}main{{else}}inverse{{/if}}` -/
  | conditional {scope call main inverse loc name test} :
      call.path.plainName? = some name → Compiling.isConditional name = true →
      call.params = [test] → SupportedValue scope test → call.named = [] →
      (∀ p ∈ main, p.blockParams = []) → (∀ p ∈ main, ∀ n ∈ p.body, Supported o scope n) →
      (∀ p ∈ inverse, p.blockParams = []) → (∀ p ∈ inverse, ∀ n ∈ p.body, Supported o scope n) →
      Supported o scope (.block ⟨call, main, inverse, loc⟩)
  /-- `{{#name key=value}}main{{else}}inverse{{/name}}`; what an empty body is called with does
  not matter. -/
  | block {scope call main inverse loc name} :
      call.path.plainName? = some name → Compiling.isConditional name = false →
      Callable o name → call.params = [] →
      (∀ pair ∈ call.named, SupportedValue scope pair.value) →
      (∀ p ∈ main, p.body ≠ [] → p.blockParams = []) →
      (∀ p ∈ main, ∀ n ∈ p.body, Supported o (scope + 1) n) →
      (∀ p ∈ inverse, p.body ≠ [] → p.blockParams = []) →
      (∀ p ∈ inverse, ∀ n ∈ p.body, Supported o (scope + 1) n) →
      Supported o scope (.block ⟨call, main, inverse, loc⟩)

namespace Compiling

theorem helperName_of_plainName? {e : Template.Expr} {name : String} (h : e.plainName? = some name)
    (loc : Option Template.Location) : helperName e loc = pure name := by
  unfold Template.Expr.plainName? at h
  split at h
  · cases h
    rfl
  · cases h

theorem helperName_of_not_plainName? {e : Template.Expr} (h : e.plainName? = none)
    (loc : Option Template.Location) : ∃ c l, helperName e loc = unsupported c l := by
  unfold helperName
  split
  · cases h
  · exact ⟨_, _, rfl⟩
  · exact ⟨_, _, rfl⟩

theorem mustache_of_named_eq_nil {m : Mustache} (h : m.call.named = []) (s : Settings) (scope : Nat) :
    mustache s scope m = interpolation s scope m := if_pos (List.isEmpty_iff.mpr h)

theorem mustache_of_named_ne_nil {m : Mustache} (h : m.call.named ≠ []) (s : Settings) (scope : Nat) :
    mustache s scope m = mustacheCall s scope m := if_neg fun he => h (List.isEmpty_iff.mp he)

theorem interpolation_of_path {m : Mustache} {p : Path} (h : m.call.path = .path p) (s : Settings)
    (scope : Nat) : interpolation s scope m = (do
      checkParams s p.written m.call.params m.loc
      let e ← path scope p
      return .callNamed (if m.escaped then s.options.escapeFn else s.options.stringifyFn) [e]) := by
  unfold interpolation
  rw [h]

theorem mustacheCall_of_helper {m : Mustache} {name : String}
    (hname : m.call.path.plainName? = some name) (hcond : isConditional name = false) (s : Settings)
    (scope : Nat) : mustacheCall s scope m =
      (fun named => helperCall name named []) <$> arguments s scope name m.call m.loc := by
  unfold mustacheCall
  rw [helperName_of_plainName? hname, pure_bind]
  simp [hcond]

/-- What is reported for a name that cannot be called. -/
def nameFault (name : String) : Construct :=
  if Script.isReserved name then .reservedHelper name else .clashingHelper name

/-- A name that can be called is recorded before the arguments are looked at. -/
theorem arguments_of_callable {s : Settings} {name : String} (hc : Callable s.options name)
    (scope : Nat) (call : Call) (loc : Option Template.Location) :
    arguments s scope name call loc = (do
      record s name
      checkParams s name call.params loc
      properties s scope call.named) := by
  simp [arguments, hc.notReserved, hc.notRender, hc.notContext, Call.named]

/-- A name that cannot be called is not recorded. -/
theorem arguments_of_not_callable {s : Settings} {name : String} (hc : ¬ Callable s.options name)
    (scope : Nat) (call : Call) (loc : Option Template.Location) :
    arguments s scope name call loc = unsupported (nameFault name) loc := by
  by_cases hreserved : Script.isReserved name = true
  · simp only [arguments, nameFault, hreserved, if_true]
    rfl
  · have hclash : name = s.options.renderName ∨ isContextName name = true := by
      apply Classical.byContradiction
      intro h
      obtain ⟨hrender, hcontext⟩ := not_or.mp h
      exact hc ⟨by simpa using hreserved, hrender, by simpa using hcontext⟩
    simp only [arguments, nameFault, hreserved, hclash, if_true]
    rfl

end Compiling

end Stencil
