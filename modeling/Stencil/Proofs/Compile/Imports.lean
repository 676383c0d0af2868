import Mathlib.Data.List.Basic
import Stencil.Proofs.Compile.Mentions

/-!
# Imports of generated code

The helper table and the generated program know the same helpers: what is called is in the table,
nothing else is, and the program imports those of them that the resolver has a source for, in the
order of the table (`compile_linked`).
-/

namespace Stencil

set_option autoImplicit false

open Template (Node Call)

/-- The import of a helper. A helper without a source, or with an empty one, has none. -/
def Resolver.import? (resolve : Resolver) (name : String) : Option Script.Statement :=
  match resolve name with
  | .ok (some source) => if source.isEmpty then Option.none else some (.importing name source)
  | _ => Option.none

theorem Resolver.import?_eq_map {resolve : Resolver} {name : String} {answer : Option String}
    (h : resolve name = .ok answer) : resolve.import? name =
      (HelperTable.nonEmpty answer).map (Script.Statement.importing name) := by
  rw [Resolver.import?, h]
  cases answer with
  | none => rfl
  | some source =>
    by_cases he : source.isEmpty = true
    · simp [HelperTable.nonEmpty, Option.filter_some, he]
    · simp [HelperTable.nonEmpty, Option.filter_some, he]

theorem HelperTable.Faithful.imports_eq {resolve : Resolver} {t : HelperTable}
    (h : t.Faithful resolve) :
    t.imports.map (fun (name, source) => Script.Statement.importing name source) =
      t.names.filterMap resolve.import? := by
  rw [HelperTable.imports, HelperTable.names, List.map_filterMap, List.filterMap_map]
  apply List.filterMap_congr
  rintro ⟨name, source⟩ hm
  obtain ⟨answer, hanswer, rfl⟩ := h.answered name source hm
  rw [Function.comp_apply, Resolver.import?_eq_map hanswer, Option.map_map]
  rfl

/-- How the table of a compilation fits its program and its template. -/
structure Linked (o : Options) (resolve : Resolver) (p : Template.Program Node) (c : Compilation) :
    Prop where
  nodup : c.helpers.names.Nodup
  called : ∀ name, name ∈ c.helpers.names ↔ name ∈ c.program.helperCalls
  /-- The imports come first, then the render function and nothing else. -/
  body : ∃ f : Script.Function Script.Statement, f.id = some o.renderName ∧
    c.program.body = c.helpers.names.filterMap resolve.import? ++
      [if o.exported then .exported (.function f) else .function f]
  imports : c.program.imports = c.helpers.imports
  /-- Helpers are met in the order of their first calls. -/
  order : o.strict = true → c.helpers.names = (Node.calledBy p.body).eraseDups

namespace Generated

variable {o : Options} {resolve : Resolver} {ns : List Node} {c : Compilation}

theorem mem_names_iff_called (h : Generated o resolve ns c) (name : String) :
    name ∈ c.helpers.names ↔ name ∈ c.program.helperCalls := by
  rw [Script.Program.mem_helperCalls_iff]
  constructor
  · exact h.exists_site
  · rintro ⟨scopes, hs⟩
    cases h.inScope hs with
    | helper _ hn _ => exact hn

theorem body_program (h : Generated o resolve ns c) :
    ∃ f : Script.Function Script.Statement, f.id = some o.renderName ∧
      c.program.body = c.helpers.names.filterMap resolve.import? ++
        [if o.exported then .exported (.function f) else .function f] := by
  rw [h.program, Compilation.module, h.faithful.imports_eq]
  exact ⟨_, rfl, rfl⟩

theorem imports_program (h : Generated o resolve ns c) :
    c.program.imports = c.helpers.imports := by
  rw [h.program, Compilation.imports_module]

end Generated

/-- What is imported is what is called. -/
theorem compile_linked (t : Node) (o : Options) (resolve : Resolver) (c : Compilation)
    (hc : (compile t o resolve).result = .ok c) : ∃ p, t = .program p ∧ Linked o resolve p c := by
  obtain ⟨p, rfl, h⟩ := compile_generated hc
  refine ⟨p, rfl, ?_⟩
  exact
    { nodup := h.faithful.nodup
      called := h.mem_names_iff_called
      body := h.body_program
      imports := h.imports_program
      order := fun hs => by rw [h.names, Prune.kept_of_strict hs] }

/-- `{{#wrap}}{{b k=x}}{{else}}{{a k=x}}{{/wrap}}{{#unless x}}{{a k=x}}{{else}}{{c k=x}}{{/unless}}` -/
def sharedHelpers : Template.Program Node :=
  let call (name : String) : Node :=
    .mustache ⟨⟨.path (.new 0 [name]), [], some (.new [("k", .path (.new 0 ["x"]))])⟩, true, none⟩
  .new [.block ⟨.new (.new 0 ["wrap"]), some (.new [call "b"]), some (.new [call "a"]), none⟩,
    .block ⟨⟨.path (.new 0 ["unless"]), [.path (.new 0 ["x"])], none⟩, some (.new [call "a"]),
      some (.new [call "c"]), none⟩]

/-- A helper that is called twice is imported once, and one with an empty source not at all. -/
theorem compile_sharedHelpers : ∃ c,
    (compile (.program sharedHelpers) {}
      (HelperMap.ofList [("a", "./a.js"), ("b", "")]).resolver).result = .ok c ∧
    c.helpers.names = ["wrap", "b", "a", "c"] ∧ c.program.imports = [("a", "./a.js")] := by
  refine ⟨_, rfl, ?_⟩
  obtain ⟨p, hp, h⟩ := compile_linked (.program sharedHelpers) {}
    (HelperMap.ofList [("a", "./a.js"), ("b", "")]).resolver _ rfl
  cases hp
  exact ⟨h.order rfl, h.imports⟩

end Stencil
