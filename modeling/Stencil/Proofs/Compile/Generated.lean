import Stencil.Proofs.Compile.Acceptance
import Stencil.Proofs.Compile.Prune

/-!
# What a compilation gives

Strict options compile the statements of a template as they are, lenient ones what pruning leaves of
them: `Prune.kept`. In both cases what is compiled is supported, the program is its translation, and
the table has the helpers that it calls, each once, in the order in which they are met
(`compile_generated`). Being supported is also enough, as far as the resolver answers
(`compile_ok_iff_kept`).
-/

namespace Stencil

set_option autoImplicit false

open Template (Node)

namespace HelperTable

/-- Every name stands once, with what the resolver answers for it. -/
structure Faithful (resolve : Resolver) (t : HelperTable) : Prop where
  nodup : t.names.Nodup
  answered : ∀ name source, (name, source) ∈ t.entries →
    ∃ answer, resolve name = .ok answer ∧ source = nonEmpty answer

theorem Faithful.resolves {resolve : Resolver} {t : HelperTable} (h : t.Faithful resolve)
    {name : String} (hn : name ∈ t.names) : ∃ source, resolve name = .ok source := by
  obtain ⟨⟨n, source⟩, hm, rfl⟩ := List.mem_map.mp hn
  obtain ⟨answer, hanswer, -⟩ := h.answered n source hm
  exact ⟨answer, hanswer⟩

theorem faithful_empty (resolve : Resolver) : empty.Faithful resolve :=
  ⟨List.nodup_nil, fun _ _ h => absurd h List.not_mem_nil⟩

theorem faithful_record {t : HelperTable} {resolve : Resolver} (h : t.Faithful resolve)
    (name : String) : (t.record name resolve).table.Faithful resolve := by
  refine ⟨nodup_record h.nodup name resolve, ?_⟩
  rcases t.record_cases name resolve with ⟨_, hr⟩ | ⟨_, cause, _, hr⟩ | ⟨_, answer, ha, hr⟩
  · rw [hr]
    exact h.answered
  · rw [hr]
    exact h.answered
  · rw [hr]
    intro n source hm
    rcases List.mem_append.mp hm with hm | hm
    · exact h.answered n source hm
    · cases List.mem_singleton.mp hm
      exact ⟨answer, ha, rfl⟩

end HelperTable

namespace Compiling

variable {α : Type} {s : Settings}

theorem names_recorded {name : String} {g : Gathered} (hr : Recordable s g name) :
    (g.recorded name s.resolve).helpers.names =
      if name ∈ g.helpers.names then g.helpers.names else g.helpers.names ++ [name] := by
  unfold Gathered.recorded
  rcases g.helpers.record_cases name s.resolve with ⟨hn, h⟩ | ⟨hn, cause, he, _⟩ | ⟨hn, source, _, h⟩
  · rw [h, if_pos hn]
  · rcases hr with hm | ⟨source, hok⟩
    · exact absurd hm hn
    · rw [he] at hok
      cases hok
  · rw [h, if_neg hn]
    simp [HelperTable.names]

/-- A run of recordings adds the new names in the order of their first occurrence. -/
theorem names_after_recording {names : List String} {a b : α} {g g' : Gathered}
    (h : after (recording s names a) g = (.ok b, g')) : b = a ∧
    g'.helpers.names =
      g.helpers.names ++ (names.filter fun n => decide (n ∉ g.helpers.names)).eraseDups := by
  induction names generalizing g with
  | nil =>
    rw [recording_nil, after_pure] at h
    cases h
    simp
  | cons name names ih =>
    have hr := recordable_of_after_recording h name List.mem_cons_self
    rw [after_recording_cons hr] at h
    obtain ⟨hb, hnames⟩ := ih h
    refine ⟨hb, ?_⟩
    rw [hnames, names_recorded hr]
    by_cases hm : name ∈ g.helpers.names
    · simp [hm]
    · rw [if_neg hm, eraseDups_filter_new hm]
      simp

theorem faithful_after_recording {names : List String} {a b : α} {g g' : Gathered}
    (h : after (recording s names a) g = (.ok b, g')) (hg : g.helpers.Faithful s.resolve) :
    g'.helpers.Faithful s.resolve := by
  induction names generalizing g with
  | nil =>
    rw [recording_nil, after_pure] at h
    cases h
    exact hg
  | cons name names ih =>
    have hr := recordable_of_after_recording h name List.mem_cons_self
    rw [after_recording_cons hr] at h
    exact ih h (HelperTable.faithful_record hg name)

end Compiling

/-- What is compiled of a template. -/
def Prune.kept (o : Options) (p : Template.Program Node) : Template.Program Node :=
  if o.strict then p else ⟨Prune.nodes o p.body, [], p.loc⟩

theorem Prune.kept_of_strict {o : Options} (hs : o.strict = true) (p : Template.Program Node) :
    Prune.kept o p = p := if_pos hs

theorem Prune.kept_of_lenient {o : Options} (hs : o.strict = false) (p : Template.Program Node) :
    Prune.kept o p = ⟨Prune.nodes o p.body, [], p.loc⟩ := by
  rw [Prune.kept, hs, if_neg Bool.false_ne_true]

theorem Supported.mono {o o' : Options} (h : ∀ name, Callable o name → Callable o' name)
    {scope : Nat} {n : Node} (hn : Supported o scope n) : Supported o' scope n := by
  induction hn with
  | content => exact .content
  | comment => exact .comment
  | interpolation hnamed hpath hp hparams => exact .interpolation hnamed hpath hp hparams
  | call hnamed hname hcond hc hparams hv => exact .call hnamed hname hcond (h _ hc) hparams hv
  | conditional hname hcond hparams htest hnamed hmp _ hip _ ihm ihi =>
    exact .conditional hname hcond hparams htest hnamed hmp ihm hip ihi
  | block hname hcond hc hparams hv hmp _ hip _ ihm ihi =>
    exact .block hname hcond (h _ hc) hparams hv hmp ihm hip ihi

/-- The compiled statements and what came of them. -/
structure Generated (o : Options) (resolve : Resolver) (ns : List Node) (c : Compilation) :
    Prop where
  supported : ∀ n ∈ ns, Supported o 1 n
  names : c.helpers.names = (Node.calledBy ns).eraseDups
  faithful : c.helpers.Faithful resolve
  program : c.program = Compilation.module o.exported c.helpers
    (.returning (some o.renderName) (Compiling.contextName 1)
      (Compiling.join (Translation.nodes o 1 ns)))

theorem Compilation.imports_module (exported : Bool) (helpers : HelperTable)
    (f : Script.Function Script.Statement) :
    (Compilation.module exported helpers f).imports = helpers.imports := by
  have himport : (Script.Statement.import? ∘ fun (e : String × String) =>
      Script.Statement.importing e.1 e.2) = some := rfl
  rw [Script.Program.imports, Compilation.module, List.filterMap_append, List.filterMap_map,
    himport, List.filterMap_some]
  cases exported with
  | false => exact List.append_nil _
  | true => exact List.append_nil _

namespace Compiling

variable {o : Options} {resolve : Resolver}

theorem translation_strictly (ns : List Node) :
    Translation.nodes (strictly o resolve).options 1 ns = Translation.nodes o 1 ns := by
  -- of the options only the names of the two functions for values are read
  delta Translation.nodes
  rfl

theorem generated_of_after_root {t : Node} {f : Script.Function Script.Statement} {g : Gathered}
    (h : after (root (strictly o resolve) t) .none = (.ok f, g)) (diagnostics : List Diagnostic) :
    ∃ p, t = .program p ∧ Generated o resolve p.body
      ⟨Compilation.module o.exported g.helpers f, g.helpers, diagnostics⟩ := by
  obtain ⟨p, rfl, hnames, hbody⟩ :=
    supported_root_of_passes (s := strictly o resolve) rfl ⟨_, f, g, h⟩
  rw [root_eq_recording (s := strictly o resolve) rfl hnames hbody, translation_strictly] at h
  obtain ⟨rfl, hn⟩ := names_after_recording h
  refine ⟨p, rfl, ?_, ?_, faithful_after_recording h (HelperTable.faithful_empty resolve), rfl⟩
  · exact fun n hn => (hbody n hn).mono fun _ => callable_strictly.mp
  · have hall : ∀ n ∈ Node.calledBy p.body,
        decide (n ∉ Gathered.none.helpers.names) = true := fun _ _ => rfl
    rw [hn, List.filter_eq_self.mpr hall]
    rfl

/-- What options make of a root, strict options make of what is kept of it. -/
theorem after_root_kept (o : Options) (resolve : Resolver) (p : Template.Program Node) :
    ∃ g', after (root (strictly o resolve) (.program (Prune.kept o p))) .none =
        ((after (root ⟨o, resolve⟩ (.program p)) .none).1, g') ∧
      g'.helpers = (after (root ⟨o, resolve⟩ (.program p)) .none).2.helpers := by
  obtain ⟨escapeFn, stringifyFn, exported, renderName, strict⟩ := o
  cases strict with
  | true =>
    rw [Prune.kept_of_strict rfl]
    exact ⟨_, rfl, rfl⟩
  | false =>
    -- strict options give for the pruned root what lenient ones give for the root itself
    let o : Options := ⟨escapeFn, stringifyFn, exported, renderName, false⟩
    have halike : Alike (root (leniently o resolve) (.program p))
        (root (strictly o resolve) (Prune.root o (.program p))) := alike_root _
    obtain ⟨hr, hg⟩ := halike .none .none (.refl _)
    rw [Prune.kept_of_lenient rfl]
    refine ⟨(after (root (strictly o resolve) (Prune.root o (.program p))) .none).2, ?_,
      hg.helpers.symm⟩
    exact Prod.ext hr.symm rfl

end Compiling

/-- A compilation translates what is kept of its template. -/
theorem compile_generated {t : Node} {o : Options} {resolve : Resolver} {c : Compilation}
    (hc : (compile t o resolve).result = .ok c) :
    ∃ p, t = .program p ∧ Generated o resolve (Prune.kept o p).body c := by
  rcases h : Compiling.after (Compiling.root ⟨o, resolve⟩ t) .none with ⟨e | f, g⟩
  · rw [compile_of_error h] at hc
    cases hc
  rw [compile_of_ok h] at hc
  cases hc
  cases t with
  | program p =>
    obtain ⟨g', hafter, hhelpers⟩ := Compiling.after_root_kept o resolve p
    rw [h] at hafter hhelpers
    obtain ⟨q, hq, hg⟩ := Compiling.generated_of_after_root hafter g.report.entries
    cases hq
    rw [hhelpers] at hg
    exact ⟨p, rfl, hg⟩
  | _ => cases h

/-- A template compiles if what is kept of it is supported, and the resolver answers for the helpers
that this calls. -/
theorem compile_of_kept_supported {o : Options} {resolve : Resolver} {p : Template.Program Node}
    (hnames : (Prune.kept o p).blockParams = [])
    (hbody : ∀ n ∈ (Prune.kept o p).body, Supported o 1 n)
    (hresolve : ∀ name ∈ Node.calledBy (Prune.kept o p).body, ∃ source, resolve name = .ok source) :
    ∃ c, (compile (.program p) o resolve).result = .ok c := by
  obtain ⟨g', hafter, -⟩ := Compiling.after_root_kept o resolve p
  have hstrict : ∀ n ∈ (Prune.kept o p).body,
      Supported (Compiling.strictly o resolve).options 1 n :=
    fun n hn => (hbody n hn).mono fun _ => Compiling.callable_strictly.mpr
  -- over supported statements the strict pass only records helpers, and all of them are answered for
  rw [Compiling.root_eq_recording (s := Compiling.strictly o resolve) rfl hnames hstrict] at hafter
  obtain ⟨g, hok, -⟩ := Compiling.after_recording_of_recordable
    (s := Compiling.strictly o resolve) (g := .none) _ fun name hn => Or.inr (hresolve name hn)
  rw [hok] at hafter
  rcases h : Compiling.after (Compiling.root ⟨o, resolve⟩ (.program p)) .none with ⟨e | f, g₁⟩
  · rw [h] at hafter
    cases hafter
  · rw [compile_of_ok h]
    exact ⟨_, rfl⟩

theorem Generated.resolves {o : Options} {resolve : Resolver} {ns : List Node} {c : Compilation}
    (h : Generated o resolve ns c) {name : String} (hn : name ∈ Node.calledBy ns) :
    ∃ source, resolve name = .ok source := by
  rw [← List.mem_eraseDups, ← h.names] at hn
  exact h.faithful.resolves hn

theorem blockParams_kept_of_ok {o : Options} {resolve : Resolver} {p : Template.Program Node}
    {c : Compilation} (hc : (compile (.program p) o resolve).result = .ok c) :
    (Prune.kept o p).blockParams = [] := by
  obtain ⟨g', hafter, -⟩ := Compiling.after_root_kept o resolve p
  rcases h : Compiling.after (Compiling.root ⟨o, resolve⟩ (.program p)) .none with ⟨e | f, g⟩
  · rw [compile_of_error h] at hc
    cases hc
  · rw [h] at hafter
    obtain ⟨q, hq, hnames, -⟩ :=
      Compiling.supported_root_of_passes (s := Compiling.strictly o resolve) rfl ⟨_, f, g', hafter⟩
    cases hq
    exact hnames

/-- A template compiles exactly if what is kept of it is supported, and the resolver answers for the
helpers that this calls. -/
theorem compile_ok_iff_kept (p : Template.Program Node) (o : Options) (resolve : Resolver) :
    (∃ c, (compile (.program p) o resolve).result = .ok c) ↔
      (Prune.kept o p).blockParams = [] ∧ (∀ n ∈ (Prune.kept o p).body, Supported o 1 n) ∧
        ∀ name ∈ Node.calledBy (Prune.kept o p).body, ∃ source, resolve name = .ok source := by
  constructor
  · rintro ⟨c, hc⟩
    obtain ⟨q, hq, hg⟩ := compile_generated hc
    cases hq
    exact ⟨blockParams_kept_of_ok hc, hg.supported, fun _ => hg.resolves⟩
  · rintro ⟨hnames, hbody, hresolve⟩
    exact compile_of_kept_supported hnames hbody hresolve

end Stencil
