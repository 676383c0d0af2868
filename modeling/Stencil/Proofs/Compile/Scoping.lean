import Mathlib.Data.List.Perm.Basic
import Stencil.Proofs.Compile.Frame
import Stencil.Proofs.Compile.Mentions

/-!
# Scopes of generated code

The paths of a template, each with the number of helper bodies around it, are what the generated
program reads from its variables: a path that goes `d` steps up inside of `k` helper bodies is read
from the variable of the `k + 1 - d`th function. Every other name is a callee or `undefined`, and no
helper has the name of a generated binding (`compile_wellScoped`).
-/

namespace Stencil

set_option autoImplicit false

open Template (Node Path Call Mustache HashPair statementsOf exists_of_mem_statementsOf)
open Script (Site Mention)
open Compiling (contextName isContextName isConditional)

namespace Template

def Expr.path? : Expr → Option Path
  | .path p => some p
  | _ => none

/-- All that is handed over in a call. -/
def Call.values (c : Call) : List Expr := c.params ++ c.named.map (·.value)

def Call.isConditional (c : Call) : Bool := c.path.plainName?.any Compiling.isConditional

def pathsAt (k : Nat) (es : List Expr) : List (Nat × Path) :=
  (es.filterMap Expr.path?).map fun p => (k, p)

mutual
/-- The paths of a statement that stands inside of `k` helper bodies, each with the number of helper
bodies around it. The name of a call is none. -/
def Node.paths (k : Nat) : Node → List (Nat × Path)
  | .mustache m =>
    pathsAt k ((if m.call.named.isEmpty then [m.call.path] else []) ++ m.call.values)
  | .block ⟨call, main, inverse, _⟩ =>
    pathsAt k call.values ++
      if call.isConditional then Node.pathsIn k main ++ Node.pathsIn k inverse
      else Node.pathsIn (k + 1) main ++ Node.pathsIn (k + 1) inverse
  | _ => []
def Node.pathsBy (k : Nat) : List Node → List (Nat × Path)
  | [] => []
  | n :: ns => n.paths k ++ Node.pathsBy k ns
def Node.pathsIn (k : Nat) : Option (Program Node) → List (Nat × Path)
  | none => []
  | some ⟨ns, _, _⟩ => Node.pathsBy k ns
end

theorem Node.pathsBy_eq_flatMap (k : Nat) (ns : List Node) :
    Node.pathsBy k ns = ns.flatMap (Node.paths k) := by
  induction ns with
  | nil => rfl
  | cons n ns ih => rw [Node.pathsBy, ih, List.flatMap_cons]

theorem Node.pathsIn_eq_flatMap (k : Nat) (b : Option (Program Node)) :
    Node.pathsIn k b = (statementsOf b).flatMap (Node.paths k) := by
  cases b with
  | none => rfl
  | some p => exact Node.pathsBy_eq_flatMap k p.body

end Template

theorem Callable.not_mem_contextScopes {o : Options} {name : String} (h : Callable o name) {k : Nat}
    {params : List String} (hp : params ∈ contextScopes k) : name ∉ params := by
  intro hm
  obtain ⟨i, -, -, rfl⟩ := (mem_contextScopes_iff k params).mp hp
  have hcontext := h.notContext
  rw [List.mem_singleton.mp hm, Compiling.isContextName_contextName] at hcontext
  cases hcontext

/-- A variable is read, and it is not `undefined`. -/
def Script.Site.isContextRead (site : Site) : Bool :=
  match site.mention with
  | .read name _ => name != "undefined"
  | _ => false

/-- Where a path inside of some helper bodies is read from. -/
def pathSite : Nat × Path → Site
  | (k, p) => ⟨contextScopes (k + 1), .read (contextName (k + 1 - p.depth.toNat)) p.parts⟩

/-- What is well scoped about the compilation of some statements. -/
structure WellScoped (o : Options) (ns : List Node) (c : Compilation) : Prop where
  /-- Inside of `k` functions a function has the parameter `data{k + 1}` and no other one; a name is
  one of `data1` to `data{k}`, or `undefined`, or that of a called function. -/
  inScope : ∀ site ∈ c.program.sites, InScope o c.helpers.names site
  /-- Paths become members of the variable of their scope, one for one. -/
  paths : (c.program.sites.filter Site.isContextRead).Perm ((Node.pathsBy 0 ns).map pathSite)
  inside : ∀ k p, (k, p) ∈ Node.pathsBy 0 ns →
    1 ≤ k + 1 - p.depth.toNat ∧ k + 1 - p.depth.toNat ≤ k + 1
  /-- No helper is called as a reserved word, the render function or a variable is. -/
  callable : ∀ name ∈ c.helpers.names, Callable o name
  imported : ∀ name source, (name, source) ∈ c.program.imports → Callable o name
  /-- No helper is hidden by a parameter of a function around its call, or by the render function. -/
  unhidden : ∀ scopes name, ⟨scopes, .call name true⟩ ∈ c.program.sites →
    name ≠ o.renderName ∧ ∀ params ∈ scopes, name ∉ params

namespace Translation

variable {o : Options} {k : Nat}

open Template (pathsAt)

theorem reads_value {e : Template.Expr} (he : SupportedValue (k + 1) e) :
    ((value (k + 1) e).sites (contextScopes (k + 1)) []).filter Site.isContextRead =
      (pathsAt k [e]).map pathSite := by
  cases e with
  | path p =>
    have hne : contextName (k + 1 - p.depth.toNat) ≠ "undefined" := by
      intro heq
      have h := Compiling.isContextName_contextName (k + 1 - p.depth.toNat)
      rw [heq] at h
      exact absurd h (by decide)
    rw [value, sites_path]
    simp [Site.isContextRead, hne, pathsAt, Template.Expr.path?, pathSite]
  | sub => exact he.elim
  | undefined =>
    rw [value, Script.Expr.sites]
    rfl
  | _ =>
    rw [value, Script.sites_ofScalar]
    rfl

theorem reads_values {es : List Template.Expr} (hv : ∀ e ∈ es, SupportedValue (k + 1) e) :
    (es.flatMap fun e => (value (k + 1) e).sites (contextScopes (k + 1)) []).filter
        Site.isContextRead =
      (pathsAt k es).map pathSite := by
  induction es with
  | nil => rfl
  | cons e es ih =>
    have hcons : pathsAt k (e :: es) = pathsAt k [e] ++ pathsAt k es := by
      rw [pathsAt, pathsAt, pathsAt, ← List.map_append, ← List.filterMap_append,
        List.singleton_append]
    rw [List.flatMap_cons, List.filter_append, reads_value (hv e List.mem_cons_self),
      ih fun e he => hv e (List.mem_cons_of_mem _ he), hcons, List.map_append]

theorem reads_statements {b : Option (Template.Program Node)}
    (ih : ∀ p ∈ b, ∀ n ∈ p.body,
      ((sites o (contextScopes (k + 1)) (k + 1) n).filter Site.isContextRead).Perm
        ((n.paths k).map pathSite)) :
    (((statementsOf b).flatMap (sites o (contextScopes (k + 1)) (k + 1))).filter
      Site.isContextRead).Perm ((Node.pathsIn k b).map pathSite) := by
  rw [Node.pathsIn_eq_flatMap, List.filter_flatMap, List.map_flatMap]
  apply List.Perm.flatMap_left
  intro n hm
  obtain ⟨p, hp, hn⟩ := exists_of_mem_statementsOf hm
  exact ih p hp n hn

theorem reads_bodySites (b : Option (Template.Program Node)) :
    (bodySites o (contextScopes k) k b).filter Site.isContextRead =
      ((statementsOf b).flatMap (sites o (contextScopes (k + 1)) (k + 1))).filter
        Site.isContextRead := by
  unfold bodySites
  cases statementsOf b with
  | nil => rfl
  | cons n ns =>
    rw [List.filter_cons_of_neg (by simp [Site.isContextRead])]
    rfl

/-- What a supported statement reads is what its paths say. -/
theorem reads_sites {scope : Nat} {n : Node} (hn : Supported o scope n) (hk : scope = k + 1) :
    ((sites o (contextScopes scope) scope n).filter Site.isContextRead).Perm
      ((n.paths k).map pathSite) := by
  induction hn generalizing k with
  | content =>
    rw [sites_content]
    exact .refl []
  | comment =>
    rw [sites_comment]
    exact .refl []
  | @interpolation scope m p hnamed hpath hp hparams =>
    subst hk
    have hpaths : (Node.mustache m).paths k = pathsAt k [.path p] := by
      simp [Node.paths, hnamed, hpath, Call.values, hparams]
    have hvalue := reads_value (e := .path p) hp
    rw [value, sites_path] at hvalue
    rw [sites_interpolation hnamed hpath, hpaths, ← hvalue,
      List.filter_cons_of_neg (by simp [Site.isContextRead])]
  | @call scope m name hnamed hname hcond _ hparams hv =>
    subst hk
    have hhelper := Call.helper?_of_plainName hname hcond
    have hpaths : (Node.mustache m).paths k = pathsAt k (m.call.named.map (·.value)) := by
      simp [Node.paths, hnamed, Call.values, hparams]
    rw [sites_call hnamed hhelper, hpaths, List.filter_cons_of_neg (by simp [Site.isContextRead]),
      reads_values (List.forall_mem_map.mpr hv)]
  | @conditional scope call main inverse loc name test hname hcond hparams htest hnamed _ _ _ _ ihm
      ihi =>
    subst hk
    have hpaths : (Node.block ⟨call, main, inverse, loc⟩).paths k =
        pathsAt k [test] ++ (Node.pathsIn k main ++ Node.pathsIn k inverse) := by
      simp [Node.paths, Call.isConditional, hname, hcond, Call.values, hparams, hnamed]
    have hmain := reads_statements fun p hp n hn => ihm p hp n hn rfl
    have hinverse := reads_statements fun p hp n hn => ihi p hp n hn rfl
    -- `unless` writes its branches the other way round, so the order of the reads is not kept
    refine ((sites_conditional hname hcond hparams).filter _).trans ?_
    rw [hpaths, List.filter_append, List.filter_append, List.map_append, List.map_append,
      reads_value htest]
    exact (hmain.append hinverse).append_left _
  | @block scope call main inverse loc name hname hcond _ hparams hv _ _ _ _ ihm ihi =>
    subst hk
    have hpaths : (Node.block ⟨call, main, inverse, loc⟩).paths k =
        pathsAt k (call.named.map (·.value)) ++
          (Node.pathsIn (k + 1) main ++ Node.pathsIn (k + 1) inverse) := by
      simp [Node.paths, Call.isConditional, hname, hcond, Call.values, hparams]
    have hmain := reads_statements fun p hp n hn => ihm p hp n hn rfl
    have hinverse := reads_statements fun p hp n hn => ihi p hp n hn rfl
    rw [sites_block hname hcond, hpaths, List.filter_cons_of_neg (by simp [Site.isContextRead]),
      List.filter_append, List.filter_append, List.map_append, List.map_append,
      reads_values (List.forall_mem_map.mpr hv), reads_bodySites, reads_bodySites]
    exact (hmain.append hinverse).append_left _

end Translation

namespace Generated

variable {o : Options} {resolve : Resolver} {ns : List Node} {c : Compilation}

theorem reads_program (h : Generated o resolve ns c) :
    (c.program.sites.filter Site.isContextRead).Perm ((Node.pathsBy 0 ns).map pathSite) := by
  rw [h.sites_program, List.filter_cons_of_neg (by simp [Site.isContextRead]),
    Node.pathsBy_eq_flatMap, List.filter_flatMap, List.map_flatMap]
  apply List.Perm.flatMap_left
  intro n hn
  exact Translation.reads_sites (h.supported n hn) rfl

/-- No path leaves the root: it is read from a variable, and variables are numbered from one. -/
theorem inside_of_mem_paths (h : Generated o resolve ns c) {k : Nat} {p : Path}
    (hp : (k, p) ∈ Node.pathsBy 0 ns) :
    1 ≤ k + 1 - p.depth.toNat ∧ k + 1 - p.depth.toNat ≤ k + 1 := by
  have hmem : pathSite (k, p) ∈ c.program.sites.filter Site.isContextRead :=
    h.reads_program.mem_iff.mpr (List.mem_map_of_mem hp)
  obtain ⟨hsite, hread⟩ := List.mem_filter.mp hmem
  have hscope := h.inScope hsite
  generalize hs : pathSite (k, p) = site at hscope hread
  cases hscope with
  | function | interpolation | helper => cases hread
  | undefined => cases hread
  | context members hlow hhigh =>
    obtain ⟨-, hmention⟩ := Site.mk.inj hs
    obtain ⟨hname, -⟩ := Mention.read.inj hmention
    have heq := Compiling.contextName_injective hname
    omega

theorem callable_of_mem_imports (h : Generated o resolve ns c) {name source : String}
    (hm : (name, source) ∈ c.program.imports) : Callable o name := by
  rw [h.program, Compilation.imports_module] at hm
  exact h.callable (HelperTable.mem_names_of_mem_imports hm)

theorem not_mem_params (h : Generated o resolve ns c) {scopes : List (List String)} {name : String}
    (hs : ⟨scopes, .call name true⟩ ∈ c.program.sites) :
    name ≠ o.renderName ∧ ∀ params ∈ scopes, name ∉ params := by
  cases h.inScope hs with
  | helper k _ hc => exact ⟨hc.notRender, fun _ hp => hc.not_mem_contextScopes hp⟩

end Generated

/-- What strict or lenient options make of a template is well scoped. -/
theorem compile_wellScoped (t : Node) (o : Options) (resolve : Resolver) (c : Compilation)
    (hc : (compile t o resolve).result = .ok c) :
    ∃ p, t = .program p ∧ WellScoped o (Prune.kept o p).body c := by
  obtain ⟨p, rfl, h⟩ := compile_generated hc
  refine ⟨p, rfl, ?_⟩
  exact
    { inScope := fun _ hs => h.inScope hs
      paths := h.reads_program
      inside := fun _ _ hp => h.inside_of_mem_paths hp
      callable := fun _ hn => h.callable hn
      imported := fun _ _ hm => h.callable_of_mem_imports hm
      unhidden := fun _ _ hs => h.not_mem_params hs }

/-- `{{#outer}}{{#unless ../a}}{{> p}}{{#inner x=b}}{{../../c}}{{/inner}}{{/unless}}{{/outer}}` -/
def nestedBlocks : Template.Program Node :=
  .new [.block ⟨.new (.new 0 ["outer"]), some (.new [.block ⟨⟨.path (.new 0 ["unless"]),
      [.path (.new 1 ["a"])], none⟩, some (.new [.partialCall (.new (.new 0 ["p"])) none,
        .block ⟨⟨.path (.new 0 ["inner"]), [], some (.new [("x", .path (.new 0 ["b"]))])⟩,
          some (.new [.mustache ⟨.new (.new 2 ["c"]), true, none⟩]), none, none⟩]),
      none, none⟩]), none, none⟩]

/-- The negated conditional adds no function, and the dropped partial changes nothing. -/
theorem compile_nestedBlocks : ∃ c,
    (compile (.program nestedBlocks) { strict := false } Resolver.none).result = .ok c ∧
    (c.program.sites.filter Site.isContextRead).Perm
      [⟨[["data2"], ["data1"]], .read "data1" ["a"]⟩, ⟨[["data2"], ["data1"]], .read "data2" ["b"]⟩,
        ⟨[["data3"], ["data2"], ["data1"]], .read "data1" ["c"]⟩] := by
  refine ⟨_, rfl, ?_⟩
  obtain ⟨p, hp, h⟩ :=
    compile_wellScoped (.program nestedBlocks) { strict := false } Resolver.none _ rfl
  cases hp
  exact h.paths

end Stencil
