import Stencil.Proofs.Compile.Acceptance
import Stencil.Proofs.Compile.Asking

/-!
# Where helpers come from

The sources that a resolver answers with end up in the helper table and in the imports, and nowhere
else. Two compilations of one template whose resolvers answer for all that they are asked take the
same steps: they fail with the same error, or give the same render function, the same helpers in the
same order and the same diagnostics (`compile_sourcesApart`).
-/

namespace Stencil

set_option autoImplicit false

open Template (Node)

/-- The same was gathered, up to the sources of helpers. -/
structure Gathered.Akin (g g' : Gathered) : Prop where
  names : g.helpers.names = g'.helpers.names
  report : g.report = g'.report
  asked : g.asked = g'.asked

theorem Gathered.Akin.refl (g : Gathered) : g.Akin g := ⟨rfl, rfl, rfl⟩

theorem Gathered.Akin.warned {g g' : Gathered} (h : g.Akin g') (code : String) (c : Construct)
    (loc : Option Template.Location) : (g.warned code c loc).Akin (g'.warned code c loc) :=
  ⟨h.names, congrArg (fun r : Report => r.warn code _ loc) h.report, h.asked⟩

namespace Compiling

variable {α β : Type}

/-- The resolver failed on a helper. -/
def Refused (r : Except CompileError α) : Prop :=
  ∃ helper cause, r = .error (.helperResolution helper cause)

theorem Refused.after_eq {x : Compiling α} {g : Gathered} (h : Refused (after x g).1) :
    ∃ helper cause g', after x g = (.error (.helperResolution helper cause), g') := by
  obtain ⟨helper, cause, h⟩ := h
  exact ⟨helper, cause, (after x g).2, Prod.ext h rfl⟩

theorem Refused.bind {x : Compiling α} {g : Gathered} (h : Refused (after x g).1)
    (f : α → Compiling β) : Refused (after (x >>= f) g).1 := by
  obtain ⟨helper, cause, g', h⟩ := h.after_eq
  rw [after_bind_error h]
  exact ⟨helper, cause, rfl⟩

theorem Refused.tolerate {x : Compiling α} {g : Gathered} (h : Refused (after x g).1) (s : Settings)
    (code : String) : Refused (after (Compiling.tolerate s code x) g).1 := by
  obtain ⟨helper, cause, g', h⟩ := h.after_eq
  rw [after_tolerate_error rfl h]
  exact ⟨helper, cause, rfl⟩

/-- Two steps that do the same up to the sources of helpers, as long as neither resolver fails. -/
def Akin (x y : Compiling α) : Prop :=
  ∀ g g', g.Akin g' → Refused (after x g).1 ∨ Refused (after y g').1 ∨
    ∃ r g₁ g₁', after x g = (r, g₁) ∧ after y g' = (r, g₁') ∧ g₁.Akin g₁'

namespace Akin

theorem pure (a : α) : Akin (Pure.pure a) (Pure.pure a) :=
  fun g g' hg => Or.inr (Or.inr ⟨.ok a, g, g', rfl, rfl, hg⟩)

theorem throw (e : CompileError) : Akin (throw e : Compiling α) (MonadExcept.throw e) :=
  fun g g' hg => Or.inr (Or.inr ⟨.error e, g, g', rfl, rfl, hg⟩)

theorem bind {x y : Compiling α} {f f' : α → Compiling β} (hxy : Akin x y)
    (hf : ∀ a, Akin (f a) (f' a)) : Akin (x >>= f) (y >>= f') := by
  intro g g' hg
  rcases hxy g g' hg with hx | hy | ⟨r, g₁, g₁', hx, hy, hg₁⟩
  · exact Or.inl (hx.bind f)
  · exact Or.inr (Or.inl (hy.bind f'))
  · cases r with
    | error e =>
      exact Or.inr (Or.inr ⟨.error e, g₁, g₁', after_bind_error hx, after_bind_error hy, hg₁⟩)
    | ok a =>
      rw [after_bind_ok hx, after_bind_ok hy]
      exact hf a g₁ g₁' hg₁

section Resolvers
variable {o : Options} {resolve resolve' : Resolver}

theorem tolerate {x y : Compiling α} (code : String) (hxy : Akin x y) :
    Akin (Compiling.tolerate ⟨o, resolve⟩ code x) (Compiling.tolerate ⟨o, resolve'⟩ code y) := by
  intro g g' hg
  rcases hxy g g' hg with hx | hy | ⟨r, g₁, g₁', hx, hy, hg₁⟩
  · exact Or.inl (hx.tolerate _ code)
  · exact Or.inr (Or.inl (hy.tolerate _ code))
  refine Or.inr (Or.inr ?_)
  by_cases hs : o.strict = true
  · rw [tolerate_strict (s := ⟨o, resolve⟩) hs, tolerate_strict (s := ⟨o, resolve'⟩) hs]
    cases r with
    | error e => exact ⟨.error e, g₁, g₁', after_map_error hx, after_map_error hy, hg₁⟩
    | ok a => exact ⟨.ok (some a), g₁, g₁', after_map_ok hx, after_map_ok hy, hg₁⟩
  · rw [Bool.not_eq_true] at hs
    cases r with
    | error e =>
      cases e with
      | unsupported c loc =>
        exact ⟨.ok none, _, _, after_tolerate_unsupported (s := ⟨o, resolve⟩) hs hx,
          after_tolerate_unsupported (s := ⟨o, resolve'⟩) hs hy, hg₁.warned code c loc⟩
      | _ => exact ⟨_, g₁, g₁', after_tolerate_error rfl hx, after_tolerate_error rfl hy, hg₁⟩
    | ok a => exact ⟨.ok (some a), g₁, g₁', after_tolerate_ok hx, after_tolerate_ok hy, hg₁⟩

/-- Whether a helper is new depends on the names in the table only. -/
theorem record (name : String) :
    Akin (Compiling.record ⟨o, resolve⟩ name) (Compiling.record ⟨o, resolve'⟩ name) := by
  intro g g' hg
  rcases g.helpers.record_cases name resolve with
    ⟨hn, h⟩ | ⟨-, cause, -, h⟩ | ⟨hn, source, -, h⟩
  · rcases g'.helpers.record_cases name resolve' with ⟨-, h'⟩ | ⟨hn', -⟩ | ⟨hn', -⟩
    · refine Or.inr (Or.inr ⟨.ok (), _, _, after_record_ok (by rw [h]), after_record_ok (by rw [h']), ?_⟩)
      simpa [Gathered.recorded, h, h'] using hg
    · exact absurd (hg.names ▸ hn) hn'
    · exact absurd (hg.names ▸ hn) hn'
  · refine Or.inl ⟨name, cause, ?_⟩
    rw [after_record_error (by rw [h])]
  · rcases g'.helpers.record_cases name resolve' with ⟨hn', -⟩ | ⟨-, cause, -, h'⟩ | ⟨-, source', -, h'⟩
    · exact absurd (hg.names ▸ hn') hn
    · refine Or.inr (Or.inl ⟨name, cause, ?_⟩)
      rw [after_record_error (by rw [h'])]
    · refine Or.inr (Or.inr ⟨.ok (), _, _, after_record_ok (by rw [h]), after_record_ok (by rw [h']), ?_⟩)
      constructor
      · have hnames := hg.names
        simp only [HelperTable.names] at hnames
        simp [Gathered.recorded, h, h', HelperTable.names, hnames]
      · exact hg.report
      · simp [Gathered.recorded, h, h', hg.asked]

theorem stepwise : Stepwise ⟨o, resolve⟩ ⟨o, resolve'⟩ fun _ => Akin where
  escapeFn := rfl
  stringifyFn := rfl
  renderName := rfl
  pure := pure
  throw := fun _ => throw _
  bind := bind
  tolerate := tolerate
  record := fun _ _ => record _

end Resolvers

end Akin

/-- A resolver that answers for all that it is asked is never the reason of a failure. -/
theorem not_refused_root {t : Node} {o : Options} {resolve : Resolver}
    (h : resolve.AnswersAll (compile t o resolve).asked) :
    ¬ Refused (after (root ⟨o, resolve⟩ t) .none).1 := by
  intro hrefused
  have hend := Asks.stepwise.root t .none (consistent_none ⟨o, resolve⟩)
  obtain ⟨helper, cause, g, hg⟩ := hrefused.after_eq
  rw [compile_of_error hg] at h
  rw [hg] at hend
  cases hend with
  | failed he _ => cases he
  | refused hasked _ _ hcause =>
    obtain ⟨source, hsource⟩ := h helper (hasked ▸ List.mem_append_right _ (List.mem_singleton.mpr rfl))
    cases hsource.symm.trans hcause

end Compiling

/-- The imports of both programs are those of their helpers, and behind them stands the same
declaration. -/
def Compilation.SameRender (c c' : Compilation) : Prop :=
  ∃ d : Script.Statement,
    c.program = ⟨c.helpers.imports.map (fun (name, source) => .importing name source) ++ [d], .module⟩ ∧
    c'.program = ⟨c'.helpers.imports.map (fun (name, source) => .importing name source) ++ [d], .module⟩

/-- Two compilations that differ at most in the sources of their helpers. -/
structure Compilation.SourcesApart (c c' : Compilation) : Prop where
  render : c.SameRender c'
  names : c.helpers.names = c'.helpers.names
  diagnostics : c.diagnostics = c'.diagnostics

/-- A resolver decides on nothing but sources. -/
theorem compile_sourcesApart (t : Node) (o : Options) (resolve resolve' : Resolver)
    (h : resolve.AnswersAll (compile t o resolve).asked)
    (h' : resolve'.AnswersAll (compile t o resolve').asked) :
    (compile t o resolve).asked = (compile t o resolve').asked ∧
    ((∃ e, (compile t o resolve).result = .error e ∧ (compile t o resolve').result = .error e) ∨
      ∃ c c', (compile t o resolve).result = .ok c ∧ (compile t o resolve').result = .ok c' ∧
        c.SourcesApart c') := by
  have hakin : Compiling.Akin (Compiling.root ⟨o, resolve⟩ t) (Compiling.root ⟨o, resolve'⟩ t) :=
    Compiling.Akin.stepwise.root t
  rcases hakin .none .none (.refl _) with hr | hr | ⟨r, g, g', hg, hg', hsame⟩
  · exact absurd hr (Compiling.not_refused_root h)
  · exact absurd hr (Compiling.not_refused_root h')
  · cases r with
    | error e =>
      rw [compile_of_error hg, compile_of_error hg']
      exact ⟨hsame.asked, Or.inl ⟨e, rfl, rfl⟩⟩
    | ok f =>
      rw [compile_of_ok hg, compile_of_ok hg']
      refine ⟨hsame.asked, Or.inr ⟨_, _, rfl, rfl, ?_⟩⟩
      exact ⟨⟨_, rfl, rfl⟩, hsame.names, congrArg Report.entries hsame.report⟩

theorem Resolver.answersAll_ofFunction (f : String → Option String) (names : List String) :
    (Resolver.ofFunction f).AnswersAll names := fun name _ => ⟨f name, rfl⟩

/-- The list of titles, once with nothing to import and once with a source for its helper. -/
theorem titledList_sourcesApart :
    let bare := compile (.program titledList) {} Resolver.none
    let mapped := compile (.program titledList) {} (HelperMap.ofList [("list", "./list.js")]).resolver
    Resolver.none.AnswersAll bare.asked ∧
    (HelperMap.ofList [("list", "./list.js")]).resolver.AnswersAll mapped.asked ∧
    ∃ c c', bare.result = .ok c ∧ mapped.result = .ok c' ∧ c.SourcesApart c' ∧
      c.program.imports = [] ∧ c'.program.imports = [("list", "./list.js")] := by
  intro bare mapped
  have h := Resolver.answersAll_ofFunction (fun _ => none) bare.asked
  have h' := Resolver.answersAll_ofFunction (HelperMap.ofList [("list", "./list.js")]).get? mapped.asked
  refine ⟨h, h', ?_⟩
  obtain ⟨-, ⟨e, he, -⟩ | ⟨c, c', hc, hc', hapart⟩⟩ :=
    compile_sourcesApart (.program titledList) {} Resolver.none
      (HelperMap.ofList [("list", "./list.js")]).resolver h h'
  · cases he
  · refine ⟨c, c', hc, hc', hapart, ?_⟩
    cases hc
    cases hc'
    exact ⟨rfl, rfl⟩

end Stencil
