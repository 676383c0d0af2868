import Stencil.Proofs.Compile.Generated
import Stencil.Proofs.Script.Site

/-!
# What generated code mentions

In the translation of supported statements a function around is always the body of a helper block or
the render function, and its only parameter is the variable of its scope. `InScope` lists what can
be mentioned between such functions, and `inScope_of_mem_sites` says that nothing else is. Of the
helpers that statements call none is left out (`exists_site_of_called`).
-/

namespace Stencil

set_option autoImplicit false

open Template (Node Path Call Mustache HashPair)
open Script (Property Site Mention)
open Compiling (contextName isContextName isConditional helperCall join)

/-- The parameters of nested functions, those of the innermost first. -/
def contextScopes : Nat → List (List String)
  | 0 => []
  | k + 1 => [contextName (k + 1)] :: contextScopes k

theorem mem_contextScopes_iff (k : Nat) (params : List String) :
    params ∈ contextScopes k ↔ ∃ i, 1 ≤ i ∧ i ≤ k ∧ params = [contextName i] := by
  induction k with
  | zero =>
    constructor
    · intro h
      cases h
    · rintro ⟨i, hlow, hhigh, -⟩
      omega
  | succ k ih =>
    rw [contextScopes, List.mem_cons, ih]
    constructor
    · rintro (rfl | ⟨i, hlow, hhigh, rfl⟩)
      · exact ⟨k + 1, by omega, by omega, rfl⟩
      · exact ⟨i, hlow, by omega, rfl⟩
    · rintro ⟨i, hlow, hhigh, rfl⟩
      by_cases hi : i = k + 1
      · exact Or.inl (by rw [hi])
      · exact Or.inr ⟨i, hlow, by omega, rfl⟩

/-- What generated code mentions inside of `k` functions. -/
inductive InScope (o : Options) (helpers : List String) : Site → Prop
  | function (k : Nat) : InScope o helpers ⟨contextScopes k, .function [contextName (k + 1)]⟩
  | context {k i : Nat} (members : List String) : 1 ≤ i → i ≤ k →
      InScope o helpers ⟨contextScopes k, .read (contextName i) members⟩
  | undefined (k : Nat) : InScope o helpers ⟨contextScopes k, .read "undefined" []⟩
  | interpolation (k : Nat) (escaped : Bool) :
      InScope o helpers
        ⟨contextScopes k, .call (if escaped then o.escapeFn else o.stringifyFn) false⟩
  | helper (k : Nat) {name : String} : name ∈ helpers → Callable o name →
      InScope o helpers ⟨contextScopes k, .call name true⟩

namespace Template

/-- The statements of a body, none if it is not there. -/
def statementsOf (b : Option (Program Node)) : List Node := (b.map (·.body)).getD []

theorem exists_of_mem_statementsOf {b : Option (Program Node)} {n : Node}
    (h : n ∈ statementsOf b) : ∃ p ∈ b, n ∈ p.body := by
  cases b with
  | none => cases h
  | some p => exact ⟨p, rfl, h⟩

theorem Node.calledBy_eq_flatMap (ns : List Node) : Node.calledBy ns = ns.flatMap Node.called := by
  induction ns with
  | nil => rfl
  | cons n ns ih => rw [Node.calledBy, ih, List.flatMap_cons]

theorem Node.calledIn_eq_flatMap (b : Option (Program Node)) :
    Node.calledIn b = (statementsOf b).flatMap Node.called := by
  cases b with
  | none => rfl
  | some p => exact Node.calledBy_eq_flatMap p.body

end Template

open Template (statementsOf exists_of_mem_statementsOf)

namespace Translation

variable (o : Options) (scopes : List (List String)) (scope : Nat)

def sites (n : Node) : List Site := Script.Expr.sitesAll scopes (node o scope n).toList

theorem sites_path (p : Path) : (path scope p).sites scopes [] =
    [⟨scopes, .read (contextName (scope - p.depth.toNat)) p.parts⟩] :=
  Script.sites_chain scopes _ _

theorem isObject_path (p : Path) : (path scope p).isObject = false := by
  have hget : ∀ (parts : List String) (e : Script.Expr), e.isObject = false →
      (parts.foldl Script.Expr.get e).isObject = false := by
    intro parts
    induction parts with
    | nil => exact fun _ he => he
    | cons key parts ih =>
      intro e _
      apply ih
      unfold Script.Expr.get
      split <;> rfl
  exact hget p.parts _ rfl

theorem sitesIn_properties (pairs : List (HashPair Template.Expr)) :
    Script.Expr.sitesIn scopes (properties scope pairs) =
      (pairs.map (·.value)).flatMap fun e => (value scope e).sites scopes [] := by
  induction pairs with
  | nil => rfl
  | cons pair pairs ih =>
    rw [properties, List.map_cons, Script.sitesIn_of, List.map_cons, List.flatMap_cons, ← ih]
    rfl

theorem sitesAll_nodes (ns : List Node) :
    Script.Expr.sitesAll scopes (nodes o scope ns) = ns.flatMap (sites o scopes scope) := by
  induction ns with
  | nil => rfl
  | cons n ns ih =>
    rw [nodes, Script.sitesAll_append, ih, List.flatMap_cons]
    rfl

theorem sites_branch (b : Option (Template.Program Node)) :
    (branch o scope b).sites scopes [] = (statementsOf b).flatMap (sites o scopes scope) := by
  cases b with
  | none => simp [branch, statementsOf]
  | some p =>
    obtain ⟨ns, names, loc⟩ := p
    rw [branch, Script.sites_join, sitesAll_nodes]
    rfl

/-- The sites of a body: one for its function, and those inside. -/
def bodySites (b : Option (Template.Program Node)) : List Site :=
  match statementsOf b with
  | [] => []
  | n :: ns => ⟨scopes, .function [contextName (scope + 1)]⟩ ::
      (n :: ns).flatMap (sites o ([contextName (scope + 1)] :: scopes) (scope + 1))

theorem sitesIn_body (key : String) (b : Option (Template.Program Node)) :
    Script.Expr.sitesIn scopes (body o scope key b) = bodySites o scopes scope b := by
  rcases b with _ | ⟨_ | ⟨n, ns⟩, names, loc⟩
  · rfl
  · rfl
  · rw [body, Script.sitesIn_of, Script.sites_func_returning, Script.sites_join, sitesAll_nodes]
    simp [bodySites, statementsOf, Script.Expr.sitesIn]

theorem mem_bodySites_iff (b : Option (Template.Program Node)) (site : Site) :
    site ∈ bodySites o scopes scope b ↔
      (statementsOf b ≠ [] ∧ site = ⟨scopes, .function [contextName (scope + 1)]⟩) ∨
        ∃ n ∈ statementsOf b, site ∈ sites o ([contextName (scope + 1)] :: scopes) (scope + 1) n := by
  unfold bodySites
  cases statementsOf b with
  | nil => simp
  | cons n ns => simp [List.mem_flatMap]

variable {o scopes scope}

theorem sites_content (text written : String) (loc : Option Template.Location) :
    sites o scopes scope (.content text written loc) = [] := by
  simp [sites, node, Script.Expr.sitesAll]

theorem sites_comment (text : String) (loc : Option Template.Location) :
    sites o scopes scope (.comment text loc) = [] := by
  simp [sites, node, Script.Expr.sitesAll]

theorem sites_interpolation {m : Mustache} {p : Path} (hnamed : m.call.named = [])
    (hpath : m.call.path = .path p) : sites o scopes scope (.mustache m) =
      [⟨scopes, .call (if m.escaped then o.escapeFn else o.stringifyFn) false⟩,
        ⟨scopes, .read (contextName (scope - p.depth.toNat)) p.parts⟩] := by
  rw [sites, node_interpolation hnamed hpath, Script.sitesAll_toList, Option.toList_some,
    List.flatMap_singleton, Script.sites_callNamed _ _ _ (isObject_path scope p), sites_path]

theorem sites_call {m : Mustache} {name : String} (hnamed : m.call.named ≠ [])
    (hhelper : m.call.helper? = some name) : sites o scopes scope (.mustache m) =
      ⟨scopes, .call name true⟩ ::
        (m.call.named.map (·.value)).flatMap fun e => (value scope e).sites scopes [] := by
  rw [sites, node_call hnamed hhelper, Script.sitesAll_toList, Option.toList_some,
    List.flatMap_singleton, Script.sites_helperCall, sitesIn_properties]
  simp [Script.Expr.sitesIn]

section Block
variable {call : Call} {main inverse : Option (Template.Program Node)}
  {loc : Option Template.Location} {name : String}

/-- The test of a conditional comes first. Of its branches `unless` writes the second one first. -/
theorem sites_conditional {test : Template.Expr} (hname : call.path.plainName? = some name)
    (hcond : isConditional name = true) (hparams : call.params = [test]) :
    (sites o scopes scope (.block ⟨call, main, inverse, loc⟩)).Perm
      ((value scope test).sites scopes [] ++
        ((statementsOf main).flatMap (sites o scopes scope) ++
          (statementsOf inverse).flatMap (sites o scopes scope))) := by
  rw [sites, node_conditional hname hcond hparams, Script.sitesAll_toList, Option.toList_some,
    List.flatMap_singleton]
  split
  · rw [Script.Expr.sites, sites_branch, sites_branch]
  · rw [Script.Expr.sites, sites_branch, sites_branch]
    exact List.perm_append_comm.append_left _

theorem sites_block (hname : call.path.plainName? = some name)
    (hcond : isConditional name = false) :
    sites o scopes scope (.block ⟨call, main, inverse, loc⟩) = ⟨scopes, .call name true⟩ ::
      (((call.named.map (·.value)).flatMap fun e => (value scope e).sites scopes []) ++
        (bodySites o scopes scope main ++ bodySites o scopes scope inverse)) := by
  rw [sites, node_block hname hcond, Script.sitesAll_toList, Option.toList_some,
    List.flatMap_singleton, Script.sites_helperCall, sitesIn_properties, Script.sitesIn_append,
    sitesIn_body, sitesIn_body]

end Block

theorem inScope_of_mem_value {k : Nat} {helpers : List String} {e : Template.Expr}
    (he : SupportedValue k e) {site : Site}
    (h : site ∈ (value k e).sites (contextScopes k) []) : InScope o helpers site := by
  cases e with
  | path p =>
    rw [value, sites_path] at h
    obtain rfl := List.mem_singleton.mp h
    have hlt : p.depth.toNat < k := he.inside
    exact .context p.parts (by omega) (by omega)
  | undefined =>
    rw [value, Script.Expr.sites] at h
    obtain rfl := List.mem_singleton.mp h
    exact .undefined k
  | sub => exact he.elim
  | _ =>
    rw [value, Script.sites_ofScalar] at h
    cases h

theorem inScope_of_mem_values {k : Nat} {helpers : List String}
    {pairs : List (HashPair Template.Expr)} (hv : ∀ pair ∈ pairs, SupportedValue k pair.value)
    {site : Site} (h : site ∈ (pairs.map (·.value)).flatMap fun e =>
      (value k e).sites (contextScopes k) []) : InScope o helpers site := by
  obtain ⟨e, he, h⟩ := List.mem_flatMap.mp h
  obtain ⟨pair, hpair, rfl⟩ := List.mem_map.mp he
  exact inScope_of_mem_value (hv pair hpair) h

section Bodies
variable {k : Nat} {helpers : List String} {b : Option (Template.Program Node)}

theorem inScope_of_mem_statements
    (ih : ∀ p ∈ b, ∀ n ∈ p.body, (∀ name ∈ n.called, name ∈ helpers) →
      ∀ {site}, site ∈ sites o (contextScopes k) k n → InScope o helpers site)
    (hcalled : ∀ name ∈ Node.calledIn b, name ∈ helpers) {site : Site}
    (h : site ∈ (statementsOf b).flatMap (sites o (contextScopes k) k)) :
    InScope o helpers site := by
  rw [Node.calledIn_eq_flatMap] at hcalled
  obtain ⟨n, hm, h⟩ := List.mem_flatMap.mp h
  obtain ⟨p, hp, hn⟩ := exists_of_mem_statementsOf hm
  refine ih p hp n hn (fun name hname => hcalled name ?_) h
  exact List.mem_flatMap.mpr ⟨n, hm, hname⟩

theorem inScope_of_mem_bodySites
    (ih : ∀ p ∈ b, ∀ n ∈ p.body, (∀ name ∈ n.called, name ∈ helpers) →
      ∀ {site}, site ∈ sites o (contextScopes (k + 1)) (k + 1) n → InScope o helpers site)
    (hcalled : ∀ name ∈ Node.calledIn b, name ∈ helpers) {site : Site}
    (h : site ∈ bodySites o (contextScopes k) k b) : InScope o helpers site := by
  rcases (mem_bodySites_iff _ _ _ _ _).mp h with ⟨-, rfl⟩ | h
  · exact .function k
  · exact inScope_of_mem_statements ih hcalled (List.mem_flatMap.mpr h)

end Bodies

/-- A supported statement mentions nothing but what is in scope, and the helpers that it calls. -/
theorem inScope_of_mem_sites {k : Nat} {helpers : List String} {n : Node}
    (hn : Supported o k n) (hcalled : ∀ name ∈ n.called, name ∈ helpers) {site : Site}
    (h : site ∈ sites o (contextScopes k) k n) : InScope o helpers site := by
  induction hn generalizing site with
  | content =>
    rw [sites_content] at h
    cases h
  | comment =>
    rw [sites_comment] at h
    cases h
  | @interpolation k m p hnamed hpath hp _ =>
    rw [sites_interpolation hnamed hpath] at h
    have hlt := hp.inside
    rcases List.mem_cons.mp h with rfl | h
    · exact .interpolation k m.escaped
    · obtain rfl := List.mem_singleton.mp h
      exact .context p.parts (by omega) (by omega)
  | @call k m name hnamed hname hcond hc _ hv =>
    have hhelper := Call.helper?_of_plainName hname hcond
    rw [sites_call hnamed hhelper] at h
    rcases List.mem_cons.mp h with rfl | h
    · exact .helper k (hcalled name (by simp [Node.called, hnamed, hhelper])) hc
    · exact inScope_of_mem_values hv h
  | @conditional k call main inverse loc name test hname hcond hparams htest _ _ _ _ _ ihm ihi =>
    obtain ⟨hmain, hinverse⟩ := Node.forall_calledIn hcalled
    -- the branches stand between the same functions as the conditional
    rw [(sites_conditional hname hcond hparams).mem_iff] at h
    rcases List.mem_append.mp h with h | h
    · exact inScope_of_mem_value htest h
    rcases List.mem_append.mp h with h | h
    · exact inScope_of_mem_statements ihm hmain h
    · exact inScope_of_mem_statements ihi hinverse h
  | @block k call main inverse loc name hname hcond hc _ hv _ _ _ _ ihm ihi =>
    obtain ⟨hmain, hinverse⟩ := Node.forall_calledIn hcalled
    rw [sites_block hname hcond] at h
    rcases List.mem_cons.mp h with rfl | h
    · rw [Node.called, Call.helper?_of_plainName hname hcond] at hcalled
      exact .helper k (hcalled name List.mem_cons_self) hc
    rcases List.mem_append.mp h with h | h
    · exact inScope_of_mem_values hv h
    -- the bodies stand inside of one function more
    rcases List.mem_append.mp h with h | h
    · exact inScope_of_mem_bodySites ihm hmain h
    · exact inScope_of_mem_bodySites ihi hinverse h

theorem exists_site_of_calledIn {name : String} {b : Option (Template.Program Node)}
    (ih : ∀ p ∈ b, ∀ n ∈ p.body, ∀ {scopes}, name ∈ n.called →
      ∃ outer, ⟨outer, .call name true⟩ ∈ sites o scopes scope n)
    (h : name ∈ Node.calledIn b) : ∃ outer, ⟨outer, .call name true⟩ ∈
      (statementsOf b).flatMap (sites o scopes scope) := by
  rw [Node.calledIn_eq_flatMap] at h
  obtain ⟨n, hm, h⟩ := List.mem_flatMap.mp h
  obtain ⟨p, hp, hn⟩ := exists_of_mem_statementsOf hm
  obtain ⟨outer, ho⟩ : ∃ outer, ⟨outer, .call name true⟩ ∈ sites o scopes scope n :=
    ih p hp n hn h
  exact ⟨outer, List.mem_flatMap.mpr ⟨n, hm, ho⟩⟩

/-- Every helper that a supported statement calls is called in its translation. -/
theorem exists_site_of_called {n : Node} (hn : Supported o scope n) {name : String}
    (h : name ∈ n.called) : ∃ outer, ⟨outer, .call name true⟩ ∈ sites o scopes scope n := by
  induction hn generalizing scopes with
  | content => cases h
  | comment => cases h
  | interpolation hnamed _ _ _ =>
    rw [Node.called, hnamed] at h
    cases h
  | @call scope m helper hnamed hname hcond _ _ _ =>
    have hhelper := Call.helper?_of_plainName hname hcond
    have heq : name = helper := by simpa [Node.called, hnamed, hhelper] using h
    rw [sites_call hnamed hhelper, heq]
    exact ⟨scopes, List.mem_cons_self⟩
  | @conditional scope call main inverse loc helper test hname hcond hparams _ _ _ _ _ _ ihm ihi =>
    rw [Node.called, Call.helper?_of_conditional hname hcond, Option.toList_none, List.nil_append] at h
    simp only [(sites_conditional hname hcond hparams).mem_iff]
    rcases List.mem_append.mp h with h | h
    · obtain ⟨outer, ho⟩ := exists_site_of_calledIn ihm h
      exact ⟨outer, List.mem_append_right _ (List.mem_append_left _ ho)⟩
    · obtain ⟨outer, ho⟩ := exists_site_of_calledIn ihi h
      exact ⟨outer, List.mem_append_right _ (List.mem_append_right _ ho)⟩
  | @block scope call main inverse loc helper hname hcond _ _ _ _ _ _ _ ihm ihi =>
    rw [Node.called, Call.helper?_of_plainName hname hcond, Option.toList_some,
      List.singleton_append] at h
    rw [sites_block hname hcond]
    rcases List.mem_cons.mp h with rfl | h
    · exact ⟨scopes, List.mem_cons_self⟩
    rcases List.mem_append.mp h with h | h
    · obtain ⟨outer, ho⟩ := exists_site_of_calledIn ihm h
      have hbody := (mem_bodySites_iff o scopes scope main _).mpr (Or.inr (List.mem_flatMap.mp ho))
      exact ⟨outer, List.mem_cons_of_mem _ (List.mem_append_right _ (List.mem_append_left _ hbody))⟩
    · obtain ⟨outer, ho⟩ := exists_site_of_calledIn ihi h
      have hbody := (mem_bodySites_iff o scopes scope inverse _).mpr
        (Or.inr (List.mem_flatMap.mp ho))
      exact ⟨outer, List.mem_cons_of_mem _ (List.mem_append_right _ (List.mem_append_right _ hbody))⟩

end Translation

namespace Generated

variable {o : Options} {resolve : Resolver} {ns : List Node} {c : Compilation}

theorem sites_program (h : Generated o resolve ns c) : c.program.sites =
    ⟨contextScopes 0, .function [contextName 1]⟩ ::
      ns.flatMap (Translation.sites o (contextScopes 1) 1) := by
  rw [h.program, Script.sites_module, Script.sites_join, Translation.sitesAll_nodes]
  rfl

theorem mem_names_iff (h : Generated o resolve ns c) (name : String) :
    name ∈ c.helpers.names ↔ ∃ n ∈ ns, name ∈ n.called := by
  rw [h.names, List.mem_eraseDups, Node.calledBy_eq_flatMap, List.mem_flatMap]

theorem inScope (h : Generated o resolve ns c) {site : Site} (hs : site ∈ c.program.sites) :
    InScope o c.helpers.names site := by
  rw [h.sites_program] at hs
  rcases List.mem_cons.mp hs with rfl | hs
  · exact .function 0
  · obtain ⟨n, hn, hs⟩ := List.mem_flatMap.mp hs
    exact Translation.inScope_of_mem_sites (h.supported n hn)
      (fun name hname => (h.mem_names_iff name).mpr ⟨n, hn, hname⟩) hs

theorem exists_site (h : Generated o resolve ns c) {name : String} (hname : name ∈ c.helpers.names) :
    ∃ outer, ⟨outer, .call name true⟩ ∈ c.program.sites := by
  obtain ⟨n, hn, hcalled⟩ := (h.mem_names_iff name).mp hname
  obtain ⟨outer, ho⟩ : ∃ outer, ⟨outer, .call name true⟩ ∈
      Translation.sites o (contextScopes 1) 1 n :=
    Translation.exists_site_of_called (h.supported n hn) hcalled
  refine ⟨outer, ?_⟩
  rw [h.sites_program]
  exact List.mem_cons_of_mem _ (List.mem_flatMap.mpr ⟨n, hn, ho⟩)

theorem callable (h : Generated o resolve ns c) {name : String} (hname : name ∈ c.helpers.names) :
    Callable o name := by
  obtain ⟨outer, ho⟩ := h.exists_site hname
  cases h.inScope ho with
  | helper _ _ hc => exact hc

end Generated

end Stencil
