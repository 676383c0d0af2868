import Stencil.Proofs.Compile.Grammar
import Stencil.Proofs.Compile.Step

/-!
# The translation of supported templates

What the pass gives for a supported statement depends on nothing that it gathers. `Translation.node`
is that expression as a plain function of the tree, and in strict mode the pass does nothing more
than to record the helpers of the statement in order (`Compiling.node_eq_recording`).
-/

namespace Stencil

set_option autoImplicit false

open Template (Node Path Call Mustache HashPair)
open Script (Property)

namespace Translation

open Compiling (contextName isConditional helperCall join)

def path (scope : Nat) (p : Path) : Script.Expr :=
  .chain (contextName (scope - p.depth.toNat)) p.parts

def value (scope : Nat) : Template.Expr → Script.Expr
  | .path p => path scope p
  | .str s _ => .ofScalar (.str s)
  | .num n _ => .ofScalar (.num n)
  | .bool b _ => .ofScalar (.bool b)
  | .null _ => .ofScalar .null
  | .undefined _ => .ident "undefined"
  | .sub .. => .ident "undefined"

def properties (scope : Nat) (pairs : List (HashPair Template.Expr)) : List (Property Script.Expr) :=
  pairs.map fun p => .of p.key (value scope p.value)

def mustache (o : Options) (scope : Nat) (m : Mustache) : Option Script.Expr :=
  if m.call.named.isEmpty then
    match m.call.path with
    | .path p => some (.callNamed (if m.escaped then o.escapeFn else o.stringifyFn) [path scope p])
    | _ => none
  else m.call.helper?.map fun name => helperCall name (properties scope m.call.named) []

def conditional (scope : Nat) (name : String) (params : List Template.Expr) (a b : Script.Expr) :
    Option Script.Expr :=
  params.head?.map fun test =>
    if name == "if" then .cond (value scope test) a b else .cond (value scope test) b a

mutual
/-- A statement; nothing if it has no output. -/
def node (o : Options) (scope : Nat) : Node → Option Script.Expr
  | .content text _ _ => some (.text text)
  | .mustache m => mustache o scope m
  | .block ⟨call, main, inverse, _⟩ =>
    call.path.plainName?.bind fun name =>
      if isConditional name then
        conditional scope name call.params (branch o scope main) (branch o scope inverse)
      else
        some (helperCall name (properties scope call.named)
          (body o scope "fn" main ++ body o scope "inverse" inverse))
  | _ => none
def nodes (o : Options) (scope : Nat) : List Node → List Script.Expr
  | [] => []
  | n :: ns => (node o scope n).toList ++ nodes o scope ns
def branch (o : Options) (scope : Nat) : Option (Template.Program Node) → Script.Expr
  | none => .text ""
  | some ⟨ns, _, _⟩ => join (nodes o scope ns)
/-- A body of a helper block, a function one scope deeper. -/
def body (o : Options) (scope : Nat) (key : String) :
    Option (Template.Program Node) → List (Property Script.Expr)
  | none => []
  | some ⟨[], _, _⟩ => []
  | some ⟨n :: ns, _, _⟩ =>
    [.of key (.func (.returning none (contextName (scope + 1)) (join (nodes o (scope + 1) (n :: ns)))))]
end

section Equations
variable {o : Options} {scope : Nat}

attribute [local simp] node nodes branch body

theorem node_interpolation {m : Mustache} {p : Path} (hnamed : m.call.named = [])
    (hpath : m.call.path = .path p) : node o scope (.mustache m) = some (.callNamed
      (if m.escaped then o.escapeFn else o.stringifyFn) [path scope p]) := by
  simp [mustache, hnamed, hpath]

theorem node_call {m : Mustache} {name : String} (hnamed : m.call.named ≠ [])
    (hhelper : m.call.helper? = some name) : node o scope (.mustache m) =
      some (helperCall name (properties scope m.call.named) []) := by
  simp [mustache, hnamed, hhelper]

variable {call : Call} {main inverse : Option (Template.Program Node)}
  {loc : Option Template.Location} {name : String}

theorem node_conditional {test : Template.Expr} (hname : call.path.plainName? = some name)
    (hcond : isConditional name = true) (hparams : call.params = [test]) :
    node o scope (.block ⟨call, main, inverse, loc⟩) = some
      (if name == "if" then .cond (value scope test) (branch o scope main) (branch o scope inverse)
        else .cond (value scope test) (branch o scope inverse) (branch o scope main)) := by
  simp [hname, hcond, conditional, hparams]

theorem node_block (hname : call.path.plainName? = some name)
    (hcond : isConditional name = false) : node o scope (.block ⟨call, main, inverse, loc⟩) =
      some (helperCall name (properties scope call.named)
        (body o scope "fn" main ++ body o scope "inverse" inverse)) := by
  simp [hname, hcond]

end Equations

end Translation

namespace Compiling

variable {α β : Type}

/-- Records some helpers and ends with a result. -/
def recording (s : Settings) (names : List String) (a : α) : Compiling α := do
  forM names (record s)
  return a

@[simp] theorem recording_nil (s : Settings) (a : α) : recording s [] a = pure a := by
  simp [recording]

theorem record_bind_recording (s : Settings) (name : String) (names : List String) (a : α) :
    (record s name >>= fun _ => recording s names a) = recording s (name :: names) a := by
  simp [recording]

theorem map_recording (s : Settings) (names : List String) (a : α) (f : α → β) :
    f <$> recording s names a = recording s names (f a) := by
  simp [recording]

theorem path_of_reached {scope : Nat} {p : Path} (h : Reached scope p) :
    path scope p = pure (Translation.path scope p) := by
  simp [path, Translation.path, h.plain, h.inside]

theorem value_of_supported {scope : Nat} {e : Template.Expr} (h : SupportedValue scope e) :
    value scope e = pure (Translation.value scope e) := by
  cases e with
  | path p => exact path_of_reached h
  | sub => exact h.elim
  | _ => rfl

section Strict
variable {s : Settings}

theorem properties_of_supported (hs : s.options.strict = true) {scope : Nat}
    {pairs : List (HashPair Template.Expr)} (h : ∀ pair ∈ pairs, SupportedValue scope pair.value) :
    properties s scope pairs = pure (Translation.properties scope pairs) := by
  induction pairs with
  | nil => rfl
  | cons pair pairs ih =>
    have hv := value_of_supported (h pair List.mem_cons_self)
    have ht := ih fun q hq => h q (List.mem_cons_of_mem _ hq)
    simp [properties, tolerate_strict hs, hv, ht, Translation.properties]

theorem arguments_of_supported (hs : s.options.strict = true) {scope : Nat} {name : String}
    {call : Call} (hc : Callable s.options name) (hp : call.params = [])
    (hv : ∀ pair ∈ call.named, SupportedValue scope pair.value) (loc : Option Template.Location) :
    arguments s scope name call loc =
      recording s [name] (Translation.properties scope call.named) := by
  rw [arguments_of_callable hc, hp, properties_of_supported hs hv]
  simp [checkParams, recording]

theorem interpolation_of_supported {scope : Nat} {m : Mustache} {p : Path}
    (hpath : m.call.path = .path p) (hp : Reached scope p) (hparams : m.call.params = []) :
    interpolation s scope m = pure (.callNamed
      (if m.escaped then s.options.escapeFn else s.options.stringifyFn)
      [Translation.path scope p]) := by
  rw [interpolation_of_path hpath, hparams, path_of_reached hp]
  simp [checkParams]

theorem test_of_supported (hs : s.options.strict = true) {scope : Nat} {call : Call}
    {test : Template.Expr} (hp : call.params = [test]) (hv : SupportedValue scope test)
    (hn : call.named = []) (name : String) (loc : Option Template.Location) :
    Compiling.test s scope name call loc = pure (some (Translation.value scope test)) := by
  have hhash : checkHash s name call.hash = pure () := by
    unfold checkHash
    cases h : call.hash with
    | none => rfl
    | some hash =>
      have hpairs : hash.pairs = [] := by simpa [Call.named, h] using hn
      simp [hpairs]
  simp [Compiling.test, hp, checkParams, hhash, tolerate_strict hs, value_of_supported hv]

section Bodies
variable {scope : Nat}

theorem nodes_eq_recording (hs : s.options.strict = true) {ns : List Node}
    (h : ∀ n ∈ ns, node s scope n = recording s n.called (Translation.node s.options scope n)) :
    nodes s scope ns =
      recording s (Node.calledBy ns) (Translation.nodes s.options scope ns) := by
  induction ns with
  | nil => simp [nodes, Node.calledBy, Translation.nodes]
  | cons n ns ih =>
    have hn := h n List.mem_cons_self
    have ht := ih fun m hm => h m (List.mem_cons_of_mem _ hm)
    rw [nodes, Node.calledBy, Translation.nodes, tolerate_strict hs, hn, map_recording, ht]
    cases Translation.node s.options scope n <;> simp [recording]

theorem branch_eq_recording (hs : s.options.strict = true)
    {b : Option (Template.Program Node)} (hnames : ∀ p ∈ b, p.blockParams = [])
    (h : ∀ p ∈ b, ∀ n ∈ p.body,
      node s scope n = recording s n.called (Translation.node s.options scope n)) :
    branch s scope b = recording s (Node.calledIn b) (Translation.branch s.options scope b) := by
  cases b with
  | none => simp [branch, Node.calledIn, Translation.branch]
  | some p =>
    obtain ⟨ns, names, loc⟩ := p
    have hempty : names = [] := hnames _ rfl
    have hns := nodes_eq_recording hs (h _ rfl)
    simp [branch, Node.calledIn, Translation.branch, checkBlockParams, hempty, hns, map_recording]

theorem body_eq_recording (hs : s.options.strict = true) (key : String)
    {b : Option (Template.Program Node)} (hnames : ∀ p ∈ b, p.body ≠ [] → p.blockParams = [])
    (h : ∀ p ∈ b, ∀ n ∈ p.body,
      node s (scope + 1) n = recording s n.called (Translation.node s.options (scope + 1) n)) :
    body s scope key b =
      recording s (Node.calledIn b) (Translation.body s.options scope key b) := by
  cases b with
  | none => simp [body, Node.calledIn, Translation.body]
  | some p =>
    obtain ⟨ns, names, loc⟩ := p
    cases ns with
    | nil => simp [body, Node.calledIn, Node.calledBy, Translation.body]
    | cons n ns =>
      have hempty : names = [] := hnames _ rfl (List.cons_ne_nil n ns)
      have hns := nodes_eq_recording hs (h _ rfl)
      simp [body, Node.calledIn, Translation.body, checkBlockParams, hempty, hns, map_recording]

end Bodies

/-- In strict mode the pass over a supported statement records its helpers in order, and gives its
translation. -/
theorem node_eq_recording (hs : s.options.strict = true) {scope : Nat} {n : Node}
    (h : Supported s.options scope n) :
    node s scope n = recording s n.called (Translation.node s.options scope n) := by
  induction h with
  | content => simp [node, Node.called, Translation.node]
  | comment => simp [node, Node.called, Translation.node]
  | @interpolation scope m p hnamed hpath hp hparams =>
    have hi := interpolation_of_supported (s := s) hpath hp hparams
    rw [node, mustache_of_named_eq_nil hnamed, hi]
    simp [Node.called, hnamed, Translation.node, Translation.mustache, hpath]
  | @call scope m name hnamed hname hcond hc hparams hv =>
    have ha := arguments_of_supported hs hc hparams hv m.loc
    have hhelper : m.call.helper? = some name := by simp [Call.helper?, hname, hcond]
    rw [node, mustache_of_named_ne_nil hnamed, mustacheCall_of_helper hname hcond, ha, map_recording,
      map_recording]
    simp [Node.called, hnamed, hhelper, Translation.node, Translation.mustache]
  | @conditional scope call main inverse loc name test hname hcond hparams htest hnamed hmp _ hip _
      ihm ihi =>
    have ht := test_of_supported hs hparams htest hnamed name loc
    have hm := branch_eq_recording hs hmp ihm
    have hi := branch_eq_recording hs hip ihi
    have hhelper : call.helper? = none := by simp [Call.helper?, hname, hcond]
    rw [node, helperName_of_plainName? hname, pure_bind, if_pos hcond, ht, pure_bind, hm, hi]
    simp [recording, Node.called, hhelper, Translation.node, hname, hcond, Translation.conditional,
      hparams]
  | @block scope call main inverse loc name hname hcond hc hparams hv hmp _ hip _ ihm ihi =>
    have ha := arguments_of_supported hs hc hparams hv loc
    have hm := body_eq_recording hs "fn" hmp ihm
    have hi := body_eq_recording hs "inverse" hip ihi
    have hhelper : call.helper? = some name := by simp [Call.helper?, hname, hcond]
    rw [node, helperName_of_plainName? hname, pure_bind, if_neg (by simp [hcond]), ha, hm, hi]
    simp [recording, Node.called, hhelper, Translation.node, hname, hcond]

end Strict
end Compiling
end Stencil
