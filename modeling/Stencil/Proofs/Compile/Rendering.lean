import Mathlib.Data.List.Chain
import Stencil.Proofs.Compile.Correctness
import Stencil.Proofs.Compile.Mentions

/-!
# Rendering statements one after the other

Strict or lenient, a compiled template renders to the joined outputs of the statements that are kept
(`Generated.outcome_render`). Outputs are joined by `+`, and this is the concatenation of their texts
as long as no two neighbours are numbers, truth values, `null` or `undefined`: the results of helpers
are not turned into text, so two of them can be added up (`render_append`, `render_append_adds`).
-/

namespace Stencil

set_option autoImplicit false

open Template (Node)
open Compiling (contextName join)

/-! ## Templates one after the other -/

section Append
variable {o : Options} {resolve : Resolver} {b₁ b₂ : List Node} {c₁ c₂ : Compilation}

theorem Prune.nodes_append (o : Options) (ns ns' : List Node) :
    Prune.nodes o (ns ++ ns') = Prune.nodes o ns ++ Prune.nodes o ns' := by
  induction ns with
  | nil => rfl
  | cons n ns ih => rw [List.cons_append, Prune.nodes, ih, Prune.nodes, List.cons_append]

/-- What is kept of some statements of a root. -/
def Prune.statements (o : Options) (ns : List Node) : List Node := (Prune.kept o (.new ns)).body

theorem Prune.statements_append (o : Options) (ns ns' : List Node) :
    Prune.statements o (ns ++ ns') = Prune.statements o ns ++ Prune.statements o ns' := by
  unfold Prune.statements
  cases hs : o.strict with
  | true => simp only [Prune.kept_of_strict hs, Template.Program.new]
  | false =>
    simp only [Prune.kept_of_lenient hs, Template.Program.new]
    exact Prune.nodes_append o ns ns'

theorem Prune.blockParams_kept (o : Options) (ns : List Node) :
    (Prune.kept o (.new ns)).blockParams = [] := by
  cases hs : o.strict with
  | true => rw [Prune.kept_of_strict hs]; rfl
  | false => rw [Prune.kept_of_lenient hs]

theorem generated_root {b : List Node} {c : Compilation}
    (hc : (compile (.root b) o resolve).result = .ok c) :
    Generated o resolve (Prune.statements o b) c := by
  obtain ⟨p, hp, h⟩ := compile_generated hc
  cases hp
  exact h

/-- Statements that compile do so one after the other, and call the helpers of both. -/
theorem compile_append (h₁ : Generated o resolve (Prune.statements o b₁) c₁)
    (h₂ : Generated o resolve (Prune.statements o b₂) c₂) :
    ∃ c, (compile (.root (b₁ ++ b₂)) o resolve).result = .ok c ∧
      ∀ name ∈ c.helpers.names, name ∈ c₁.helpers.names ++ c₂.helpers.names := by
  have hkept : (Prune.kept o (.new (b₁ ++ b₂))).body =
      Prune.statements o b₁ ++ Prune.statements o b₂ := Prune.statements_append o b₁ b₂
  have hsupported : ∀ n ∈ (Prune.kept o (.new (b₁ ++ b₂))).body, Supported o 1 n := by
    intro n hn
    rw [hkept] at hn
    rcases List.mem_append.mp hn with hn | hn
    · exact h₁.supported n hn
    · exact h₂.supported n hn
  have hcalled : ∀ n ∈ Prune.statements o b₁ ++ Prune.statements o b₂, ∀ name ∈ n.called,
      name ∈ c₁.helpers.names ++ c₂.helpers.names := by
    intro n hn name hname
    rcases List.mem_append.mp hn with hn | hn
    · exact List.mem_append_left _ ((h₁.mem_names_iff name).mpr ⟨n, hn, hname⟩)
    · exact List.mem_append_right _ ((h₂.mem_names_iff name).mpr ⟨n, hn, hname⟩)
  obtain ⟨c, hc⟩ := compile_of_kept_supported (Prune.blockParams_kept o _) hsupported <| by
    intro name hname
    rw [hkept, Node.calledBy_eq_flatMap] at hname
    obtain ⟨n, hn, hname⟩ := List.mem_flatMap.mp hname
    rcases List.mem_append.mp (hcalled n hn name hname) with hm | hm
    · exact h₁.faithful.resolves hm
    · exact h₂.faithful.resolves hm
  refine ⟨c, hc, fun name hname => ?_⟩
  obtain ⟨n, hn, hname⟩ := ((generated_root hc).mem_names_iff name).mp hname
  rw [Prune.statements_append] at hn
  exact hcalled n hn name hname

end Append

/-! ## Texts of outputs -/

namespace Value

variable {η : Type}

theorem add_eq_string {a b : Value η} (h : a.joinsAsText = true ∨ b.joinsAsText = true) :
    a.add b = .string (a.text ++ b.text) := by
  rw [add, if_pos]
  rcases h with h | h
  · rw [h, Bool.true_or]
  · rw [h, Bool.or_true]

/-- Of two neighbours at least one is joined as text. -/
def Textual (vs : List (Value η)) : Prop :=
  vs.IsChain fun v w => v.joinsAsText = true ∨ w.joinsAsText = true

theorem text_foldl_add {v : Value η} {vs : List (Value η)} (h : Textual (v :: vs)) :
    (vs.foldl add v).text = v.text ++ String.join (vs.map text) := by
  induction vs generalizing v with
  | nil => simp
  | cons w ws ih =>
    obtain ⟨hvw, hws⟩ := List.isChain_cons_cons.mp h
    have hadd := add_eq_string hvw
    -- the sum of the first two is a text, whatever comes next
    have htail : Textual (v.add w :: ws) := by
      apply hws.cons_of_imp
      intro u _
      rw [hadd]
      exact Or.inl rfl
    rw [List.foldl_cons, ih htail, hadd, text, List.map_cons, String.join_cons, String.append_assoc]

end Value

namespace Interpretation

variable {η : Type} {host : Host η} {o : Options}

theorem text_join {vs : List (Value η)} (h : Value.Textual vs) :
    (join vs).text = String.join (vs.map Value.text) := by
  cases vs with
  | nil => rfl
  | cons v vs => rw [join, Value.text_foldl_add h, List.map_cons, String.join_cons]

theorem nodes_append (stack : List (Value η)) (ns ns' : List Node) :
    nodes host o stack (ns ++ ns') = (do
      let vs ← nodes host o stack ns
      let vs' ← nodes host o stack ns'
      return vs ++ vs') := by
  induction ns with
  | nil =>
    rw [List.nil_append, nodes]
    exact (bind_pure (nodes host o stack ns')).symm
  | cons n ns ih =>
    rw [List.cons_append, nodes, ih, nodes]
    simp only [bind_assoc, pure_bind, List.append_assoc]

end Interpretation

/-! ## Rendering -/

theorem Host.Serves.mono {η : Type} {host : Host η} {o : Options} {helpers helpers' : List String}
    (h : host.Serves o helpers) (hsub : ∀ name ∈ helpers', name ∈ helpers) :
    host.Serves o helpers' :=
  { h with helper := fun name hn => h.helper name (hsub name hn) }

namespace Generated

variable {η : Type} {host : Host η} {o : Options} {resolve : Resolver} {ns : List Node}
  {c : Compilation}

/-- Rendering ends as reading the compiled statements over the data does. -/
theorem outcome_render (h : Generated o resolve ns c) (hserves : host.Serves o c.helpers.names)
    (data : Value η) : (host.evaluator.render c.program data).outcome =
      ((fun vs => (Interpretation.join vs).text) <$>
        Interpretation.nodes host o [data] ns).mapError Stop.failed := by
  have hcalled : ∀ name ∈ Node.calledBy ns, name ∈ c.helpers.names := by
    intro name hn
    rw [h.names]
    exact List.mem_eraseDups.mpr hn
  let f := Script.Function.returning (some o.renderName) (contextName 1)
    (join (Translation.nodes o 1 ns))
  -- the render function takes one call, and leaves two for every function inside of it
  have hdepth : 2 * (join (Translation.nodes o 1 ns)).functionDepth + 2 ≤
      Evaluator.fuelFor (Compilation.module o.exported c.helpers f) := by
    have hle := functionDepth_le_module o.exported c.helpers f
    rw [Script.functionDepth_func_returning] at hle
    rw [Evaluator.fuelFor]
    omega
  obtain ⟨rest, hrest⟩ := Nat.exists_eq_add_one_of_ne_zero
    (by omega : Evaluator.fuelFor (Compilation.module o.exported c.helpers f) ≠ 0)
  rw [h.program, ← Functor.map_map]
  apply outcome_render_of_yields
  refine renderWithin_yields hserves.helper (fun vars hframe => ?_) o.exported
  rw [hrest]
  have hlen : [data].length = 1 := rfl
  exact Translation.join_yields hlen (hframe.push data)
    (fun n hn => Translation.simulated_of_supported hserves (h.supported n hn)) hcalled (by omega)

theorem exists_outputs (h : Generated o resolve ns c) (hserves : host.Serves o c.helpers.names)
    {data : Value η} {s : String} (hr : (host.evaluator.render c.program data).outcome = .ok s) :
    ∃ vs, Interpretation.nodes host o [data] ns = .ok vs ∧ s = (Interpretation.join vs).text := by
  rw [h.outcome_render hserves] at hr
  cases hvs : Interpretation.nodes host o [data] ns with
  | error e =>
    rw [hvs] at hr
    cases hr
  | ok vs =>
    rw [hvs] at hr
    cases hr
    exact ⟨vs, rfl, rfl⟩

end Generated

/-- Statements that compile and render by themselves do so one after the other, to the joined outputs
of both; this is the concatenation of what they render to if neighbours are joined as texts. -/
theorem render_append {η : Type} (host : Host η) (o : Options) (resolve : Resolver)
    (b₁ b₂ : List Node) (c₁ c₂ : Compilation) (data : Value η) (s₁ s₂ : String)
    (hc₁ : (compile (.root b₁) o resolve).result = .ok c₁)
    (hc₂ : (compile (.root b₂) o resolve).result = .ok c₂)
    (hserves : host.Serves o (c₁.helpers.names ++ c₂.helpers.names))
    (hr₁ : (host.evaluator.render c₁.program data).outcome = .ok s₁)
    (hr₂ : (host.evaluator.render c₂.program data).outcome = .ok s₂) :
    ∃ c vs₁ vs₂, (compile (.root (b₁ ++ b₂)) o resolve).result = .ok c ∧
      Interpretation.nodes host o [data] (Prune.statements o b₁) = .ok vs₁ ∧
      Interpretation.nodes host o [data] (Prune.statements o b₂) = .ok vs₂ ∧
      (host.evaluator.render c.program data).outcome =
        .ok (Interpretation.join (vs₁ ++ vs₂)).text ∧
      (Value.Textual (vs₁ ++ vs₂) →
        (host.evaluator.render c.program data).outcome = .ok (s₁ ++ s₂)) := by
  have h₁ := generated_root hc₁
  have h₂ := generated_root hc₂
  obtain ⟨c, hc, hnames⟩ := compile_append h₁ h₂
  obtain ⟨vs₁, hvs₁, hs₁⟩ :=
    h₁.exists_outputs (hserves.mono fun _ hn => List.mem_append_left _ hn) hr₁
  obtain ⟨vs₂, hvs₂, hs₂⟩ :=
    h₂.exists_outputs (hserves.mono fun _ hn => List.mem_append_right _ hn) hr₂
  have hrender : (host.evaluator.render c.program data).outcome =
      .ok (Interpretation.join (vs₁ ++ vs₂)).text := by
    rw [(generated_root hc).outcome_render (hserves.mono hnames), Prune.statements_append,
      Interpretation.nodes_append, hvs₁, hvs₂]
    rfl
  refine ⟨c, vs₁, vs₂, hc, hvs₁, hvs₂, hrender, fun h => ?_⟩
  obtain ⟨ht₁, ht₂, -⟩ := List.isChain_append.mp h
  rw [hrender, hs₁, hs₂, Interpretation.text_join h, Interpretation.text_join ht₁,
    Interpretation.text_join ht₂, List.map_append, String.join_append]

namespace Counting

/-- Helpers whose results are numbers. -/
def host : Host Float where
  globals := [("escape", .builtin .escape), ("String", .builtin .string), ("one", .host "one" 1),
    ("two", .host "two" 2)]
  conduct x _ := .value (.number x)

/-- `{{name k=true}}` -/
def call (name : String) : Node :=
  .mustache ⟨⟨.path (.new 0 [name]), [], some (.new [("k", .bool true none)])⟩, true, none⟩

theorem serves : host.Serves {} ["one", "two"] :=
  { escape := Or.inl ⟨.escape, rfl⟩
    stringify := Or.inl ⟨.string, rfl⟩
    escapeFree := by decide
    stringifyFree := by decide
    undefined := rfl
    helper := by
      intro name hname
      rcases List.mem_cons.mp hname with rfl | hname
      · exact Or.inr ⟨_, _, rfl⟩
      · rw [List.mem_singleton.mp hname]
        exact Or.inr ⟨_, _, rfl⟩ }

/-- Text in front of each number keeps them apart. -/
theorem render_separated : ∃ c,
    (compile (.root ([.text "a", call "one"] ++ [.text "b", call "two"])) {} Resolver.none).result =
      .ok c ∧
    (host.evaluator.render c.program .null).outcome = .ok "a1b2" := by
  obtain ⟨c, vs₁, vs₂, hc, hvs₁, hvs₂, -, h⟩ := render_append host {} Resolver.none
    [.text "a", call "one"] [.text "b", call "two"] _ _ .null "a1" "b2" rfl rfl serves
    (by decide +kernel) (by decide +kernel)
  have hvs₁ : Except.ok [.string "a", .number 1] = Except.ok vs₁ := hvs₁
  have hvs₂ : Except.ok [.string "b", .number 2] = Except.ok vs₂ := hvs₂
  cases hvs₁
  cases hvs₂
  exact ⟨c, hc, h (by simp [Value.Textual, Value.joinsAsText])⟩

/-- Without it they are added up. -/
theorem render_append_adds : ∃ c₁ c₂ c,
    (compile (.root [call "one"]) {} Resolver.none).result = .ok c₁ ∧
    (compile (.root [call "two"]) {} Resolver.none).result = .ok c₂ ∧
    (compile (.root ([call "one"] ++ [call "two"])) {} Resolver.none).result = .ok c ∧
    (host.evaluator.render c₁.program .null).outcome = .ok "1" ∧
    (host.evaluator.render c₂.program .null).outcome = .ok "2" ∧
    (host.evaluator.render c.program .null).outcome = .ok "3" := by
  refine ⟨_, _, _, rfl, rfl, rfl, ?_, ?_, ?_⟩
  · decide +kernel
  · decide +kernel
  · decide +kernel

end Counting

end Stencil
