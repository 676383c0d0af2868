import Stencil.Proofs.Compile.Imports
import Stencil.Proofs.Compile.Scoping

/-!
# Imports that capture

Generated code has names that its template does not: the functions for interpolations, and
`undefined`. An import of that name captures them. The pass refuses helpers with the names of its own
bindings only, so a helper that is called `escape`, `String` or `undefined` does capture
(`Capturing.compile_added`). Nothing else does: `compile_captures_iff` says from the template and the
resolver which imports capture.
-/

namespace Stencil

set_option autoImplicit false

open Template (Node Call Mustache HashPair statementsOf exists_of_mem_statementsOf)
open Script (Site Mention)
open Compiling (contextName isContextName isConditional)

/-! ## Names that no template gives -/

namespace Script

/-- The name at a site if it is neither that of a variable nor that of a helper. -/
def Site.implied? (site : Site) : Option String :=
  match site.mention with
  | .read name _ => if isContextName name then none else some name
  | .call name onObject => if onObject then none else some name
  | .function _ => none

/-- An import is what such a name stands for somewhere: no function around has a parameter of that
name. -/
def Program.Captures (p : Program) (name : String) : Prop :=
  (∃ source, (name, source) ∈ p.imports) ∧
    ∃ site ∈ p.sites, site.implied? = some name ∧ ∀ params ∈ site.scopes, name ∉ params

end Script

namespace Template

def Expr.implied : Expr → List String
  | .undefined _ => ["undefined"]
  | _ => []

mutual
/-- The names that the translation of a statement has besides those of variables and helpers. -/
def Node.implied (o : Options) : Node → List String
  | .mustache m =>
    (if m.call.named.isEmpty then [if m.escaped then o.escapeFn else o.stringifyFn] else []) ++
      m.call.values.flatMap Expr.implied
  | .block ⟨call, main, inverse, _⟩ =>
    call.values.flatMap Expr.implied ++ (Node.impliedIn o main ++ Node.impliedIn o inverse)
  | _ => []
def Node.impliedBy (o : Options) : List Node → List String
  | [] => []
  | n :: ns => n.implied o ++ Node.impliedBy o ns
def Node.impliedIn (o : Options) : Option (Program Node) → List String
  | none => []
  | some ⟨ns, _, _⟩ => Node.impliedBy o ns
end

theorem Node.impliedBy_eq_flatMap (o : Options) (ns : List Node) :
    Node.impliedBy o ns = ns.flatMap (Node.implied o) := by
  induction ns with
  | nil => rfl
  | cons n ns ih => rw [Node.impliedBy, ih, List.flatMap_cons]

theorem Node.impliedIn_eq_flatMap (o : Options) (b : Option (Program Node)) :
    Node.impliedIn o b = (statementsOf b).flatMap (Node.implied o) := by
  cases b with
  | none => rfl
  | some p => exact Node.impliedBy_eq_flatMap o p.body

end Template

namespace Translation

variable {o : Options} {scope : Nat} {scopes : List (List String)}

theorem implied_value {e : Template.Expr} (he : SupportedValue scope e) :
    ((value scope e).sites scopes []).filterMap Site.implied? = e.implied := by
  cases e with
  | path p =>
    have hcontext := Compiling.isContextName_contextName (scope - p.depth.toNat)
    rw [value, sites_path]
    simp [Site.implied?, hcontext, Template.Expr.implied]
  | sub => exact he.elim
  | undefined =>
    have hfree : isContextName "undefined" = false := by decide
    rw [value, Script.Expr.sites]
    simp [Site.implied?, hfree, Template.Expr.implied]
  | _ =>
    rw [value, Script.sites_ofScalar]
    rfl

theorem implied_values {es : List Template.Expr} (hv : ∀ e ∈ es, SupportedValue scope e) :
    (es.flatMap fun e => (value scope e).sites scopes []).filterMap Site.implied? =
      es.flatMap Template.Expr.implied := by
  rw [List.filterMap_flatMap]
  exact List.flatMap_congr fun e he => implied_value (hv e he)

theorem implied_statements {b : Option (Template.Program Node)}
    (ih : ∀ p ∈ b, ∀ n ∈ p.body,
      ((sites o scopes scope n).filterMap Site.implied?).Perm (n.implied o)) :
    (((statementsOf b).flatMap (sites o scopes scope)).filterMap Site.implied?).Perm
      (Node.impliedIn o b) := by
  rw [Node.impliedIn_eq_flatMap, List.filterMap_flatMap]
  apply List.Perm.flatMap_left
  intro n hm
  obtain ⟨p, hp, hn⟩ := exists_of_mem_statementsOf hm
  exact ih p hp n hn

theorem implied_bodySites (b : Option (Template.Program Node)) :
    (bodySites o scopes scope b).filterMap Site.implied? =
      ((statementsOf b).flatMap (sites o ([contextName (scope + 1)] :: scopes) (scope + 1))).filterMap
        Site.implied? := by
  unfold bodySites
  cases statementsOf b with
  | nil => rfl
  | cons n ns => rw [List.filterMap_cons_none rfl]

/-- The names that no template gives stand in the translation of a supported statement as often as
its interpolations and literals ask for them. -/
theorem implied_sites {n : Node} (hn : Supported o scope n) :
    ((sites o scopes scope n).filterMap Site.implied?).Perm (n.implied o) := by
  induction hn generalizing scopes with
  | content =>
    rw [sites_content]
    exact .refl []
  | comment =>
    rw [sites_comment]
    exact .refl []
  | @interpolation scope m p hnamed hpath _ hparams =>
    have himplied : (Node.mustache m).implied o =
        [if m.escaped then o.escapeFn else o.stringifyFn] := by
      simp [Node.implied, hnamed, Call.values, hparams]
    have hcontext := Compiling.isContextName_contextName (scope - p.depth.toNat)
    rw [sites_interpolation hnamed hpath, himplied]
    simp [Site.implied?, hcontext]
  | @call scope m name hnamed hname hcond _ hparams hv =>
    have himplied : (Node.mustache m).implied o =
        (m.call.named.map (·.value)).flatMap Template.Expr.implied := by
      simp [Node.implied, hnamed, Call.values, hparams]
    rw [sites_call hnamed (Call.helper?_of_plainName hname hcond), himplied,
      List.filterMap_cons_none rfl, implied_values (List.forall_mem_map.mpr hv)]
  | @conditional scope call main inverse loc name test hname hcond hparams htest hnamed _ _ _ _ ihm
      ihi =>
    have himplied : (Node.block ⟨call, main, inverse, loc⟩).implied o =
        test.implied ++ (Node.impliedIn o main ++ Node.impliedIn o inverse) := by
      simp [Node.implied, Call.values, hparams, hnamed]
    refine ((sites_conditional hname hcond hparams).filterMap _).trans ?_
    rw [himplied, List.filterMap_append, List.filterMap_append, implied_value htest]
    apply List.Perm.append_left
    exact (implied_statements fun p hp n hn => ihm p hp n hn).append
      (implied_statements fun p hp n hn => ihi p hp n hn)
  | @block scope call main inverse loc name hname hcond _ hparams hv _ _ _ _ ihm ihi =>
    have himplied : (Node.block ⟨call, main, inverse, loc⟩).implied o =
        (call.named.map (·.value)).flatMap Template.Expr.implied ++
          (Node.impliedIn o main ++ Node.impliedIn o inverse) := by
      simp [Node.implied, Call.values, hparams]
    rw [sites_block hname hcond, himplied, List.filterMap_cons_none rfl, List.filterMap_append,
      List.filterMap_append, implied_values (List.forall_mem_map.mpr hv), implied_bodySites,
      implied_bodySites]
    apply List.Perm.append_left
    exact (implied_statements fun p hp n hn => ihm p hp n hn).append
      (implied_statements fun p hp n hn => ihi p hp n hn)

end Translation

/-! ## Programs -/

namespace InScope

variable {o : Options} {helpers : List String} {site : Site}

theorem exists_scopes (h : InScope o helpers site) : ∃ k, site.scopes = contextScopes k := by
  cases h with
  | function k => exact ⟨k, rfl⟩
  | context _ _ _ => exact ⟨_, rfl⟩
  | undefined k => exact ⟨k, rfl⟩
  | interpolation k _ => exact ⟨k, rfl⟩
  | helper k _ _ => exact ⟨k, rfl⟩

theorem eq_of_implied (h : InScope o helpers site) {name : String}
    (himplied : site.implied? = some name) :
    name = o.escapeFn ∨ name = o.stringifyFn ∨ name = "undefined" := by
  cases h with
  | function | helper => cases himplied
  | @context k i members _ _ =>
    simp [Site.implied?, Compiling.isContextName_contextName] at himplied
  | undefined k =>
    cases himplied
    exact Or.inr (Or.inr rfl)
  | interpolation k escaped =>
    cases himplied
    cases escaped with
    | true => exact Or.inl rfl
    | false => exact Or.inr (Or.inl rfl)

end InScope

theorem HelperTable.Faithful.exists_import_iff {resolve : Resolver} {t : HelperTable}
    (h : t.Faithful resolve) (name : String) :
    (∃ source, (name, source) ∈ t.imports) ↔
      name ∈ t.names ∧ (resolve.import? name).isSome = true := by
  constructor
  · rintro ⟨source, hm⟩
    refine ⟨HelperTable.mem_names_of_mem_imports hm, ?_⟩
    obtain ⟨answer, hanswer, hsource⟩ := h.answered _ _ ((t.mem_imports_iff name source).mp hm)
    rw [Resolver.import?_eq_map hanswer, ← hsource]
    rfl
  · rintro ⟨hn, hsome⟩
    obtain ⟨⟨n, source?⟩, he, rfl⟩ := List.mem_map.mp hn
    obtain ⟨answer, hanswer, rfl⟩ := h.answered _ _ he
    rw [Resolver.import?_eq_map hanswer, Option.isSome_map] at hsome
    obtain ⟨source, hsource⟩ := Option.isSome_iff_exists.mp hsome
    rw [hsource] at he
    exact ⟨source, (t.mem_imports_iff _ source).mpr he⟩

namespace Generated

variable {o : Options} {resolve : Resolver} {ns : List Node} {c : Compilation}

theorem implied_program (h : Generated o resolve ns c) :
    (c.program.sites.filterMap Site.implied?).Perm (Node.impliedBy o ns) := by
  rw [h.sites_program, List.filterMap_cons_none rfl, Node.impliedBy_eq_flatMap,
    List.filterMap_flatMap]
  apply List.Perm.flatMap_left
  intro n hn
  exact Translation.implied_sites (h.supported n hn)

theorem exists_import_iff (h : Generated o resolve ns c) (name : String) :
    (∃ source, (name, source) ∈ c.program.imports) ↔
      name ∈ Node.calledBy ns ∧ (resolve.import? name).isSome = true := by
  rw [h.imports_program, h.faithful.exists_import_iff, h.names, List.mem_eraseDups]

theorem captures_iff (h : Generated o resolve ns c) (name : String) :
    c.program.Captures name ↔ name ∈ Node.calledBy ns ∧ (resolve.import? name).isSome = true ∧
      name ∈ Node.impliedBy o ns := by
  unfold Script.Program.Captures
  rw [h.exists_import_iff, ← h.implied_program.mem_iff, List.mem_filterMap, and_assoc]
  refine and_congr_right fun hcalled => and_congr_right fun _ => ?_
  -- what is imported is a helper, and no parameter has the name of one
  have hname : Callable o name := by
    apply h.callable
    rw [h.names, List.mem_eraseDups]
    exact hcalled
  constructor
  · rintro ⟨site, hs, himplied, -⟩
    exact ⟨site, hs, himplied⟩
  · rintro ⟨site, hs, himplied⟩
    obtain ⟨k, hk⟩ := (h.inScope hs).exists_scopes
    refine ⟨site, hs, himplied, fun params hp => ?_⟩
    rw [hk] at hp
    exact hname.not_mem_contextScopes hp

end Generated

/-- Which imports of a compiled program capture: those of helpers that have the name of a function
for interpolations or of `undefined`, if the template has such an interpolation or literal. -/
theorem compile_captures_iff (t : Node) (o : Options) (resolve : Resolver) (c : Compilation)
    (hc : (compile t o resolve).result = .ok c) : ∃ p, t = .program p ∧ ∀ name,
      (c.program.Captures name ↔ name ∈ Node.calledBy (Prune.kept o p).body ∧
        (resolve.import? name).isSome = true ∧ name ∈ Node.impliedBy o (Prune.kept o p).body) ∧
      (c.program.Captures name →
        name = o.escapeFn ∨ name = o.stringifyFn ∨ name = "undefined") := by
  obtain ⟨p, rfl, h⟩ := compile_generated hc
  refine ⟨p, rfl, fun name => ⟨h.captures_iff name, ?_⟩⟩
  rintro ⟨-, site, hs, himplied, -⟩
  exact (h.inScope hs).eq_of_implied himplied

namespace Capturing

def call (name : String) (value : Template.Expr) : Node :=
  .mustache ⟨⟨.path (.new 0 [name]), [], some (.new [("k", value)])⟩, true, none⟩

/-- `{{x}}{{f k=undefined}}` -/
def statements : List Node :=
  [.mustache ⟨.new (.new 0 ["x"]), true, none⟩, call "f" (.undefined none)]

/-- `{{escape k=true}}{{undefined k=true}}` -/
def added : List Node := [call "escape" (.bool true none), call "undefined" (.bool true none)]

/-- Every helper has a file of its own. -/
def resolve : Resolver := .ofFunction fun name => some ("./" ++ name ++ ".js")

/-- Of the three helpers that are imported two capture. -/
theorem captures_statements_added : ∃ c,
    (compile (.root (statements ++ added)) {} resolve).result = .ok c ∧
    c.program.imports.map (·.1) = ["f", "escape", "undefined"] ∧
    c.program.Captures "escape" ∧ c.program.Captures "undefined" ∧ ¬ c.program.Captures "f" := by
  refine ⟨_, rfl, rfl, ?_⟩
  obtain ⟨p, hp, h⟩ := compile_captures_iff (.root (statements ++ added)) {} resolve _ rfl
  cases hp
  refine ⟨(h "escape").1.mpr (by decide), (h "undefined").1.mpr (by decide), fun hf => ?_⟩
  exact absurd ((h "f").1.mp hf) (by decide)

/-- Two calls of helpers change what the interpolation and the literal before them refer to. -/
theorem compile_added : ∃ c c',
    (compile (.root statements) {} resolve).result = .ok c ∧
    (compile (.root (statements ++ added)) {} resolve).result = .ok c' ∧
    (∀ name, ¬ c.program.Captures name) ∧
    c'.program.Captures "escape" ∧ c'.program.Captures "undefined" := by
  refine ⟨_, _, rfl, rfl, ?_, ?_, ?_⟩
  · rintro name ⟨⟨source, hm⟩, site, hs, himplied, -⟩
    have hname : (name, source) ∈ [("f", "./f.js")] := hm
    have himplied' : name ∈ ["escape", "undefined"] := List.mem_filterMap.mpr ⟨site, hs, himplied⟩
    cases List.mem_singleton.mp hname
    exact absurd himplied' (by decide)
  · refine ⟨⟨"./escape.js", by decide⟩, ⟨[["data1"]], .call "escape" false⟩, by decide, rfl, ?_⟩
    decide
  · refine ⟨⟨"./undefined.js", by decide⟩, ⟨[["data1"]], .read "undefined" []⟩, by decide, rfl, ?_⟩
    decide

end Capturing

end Stencil
