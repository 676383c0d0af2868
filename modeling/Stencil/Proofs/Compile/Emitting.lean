import Stencil.CommandLine.Run
import Stencil.Proofs.Compile.Generated
import Stencil.Proofs.Script.Nesting
import Stencil.Proofs.Script.Reading
import Stencil.Proofs.Template.Reading

/-!
# Reading what has been emitted

The text that is written for a compiled template is read back as the same program if at most as many
arrays and objects are nested in it as a text may nest, and is malformed otherwise
(`ofText_output_compile`). How many are nested follows from the template alone: `Nesting.module` counts
them. In a body every statement but the first adds one, and so does every part of a path, so that a
template which is flat itself can be too deep once it is emitted (`Flat.ofText_output_malformed`).
-/

namespace Stencil

set_option autoImplicit false

open Template (Node Path Call Mustache HashPair)
open Compiling (isConditional helperCall join)

namespace Nesting

/-- How many arrays and objects are nested in what is emitted for a value. -/
def value : Template.Expr → Nat
  | .path p => p.parts.length + 1
  | _ => 1

/-- The properties of some named arguments. -/
def named : List (HashPair Template.Expr) → Nat
  | [] => 0
  | p :: ps => max (value p.value + 1) (named ps)

def mustache (m : Mustache) : Option Nat :=
  if m.call.named.isEmpty then
    match m.call.path with
    | .path p => some (p.parts.length + 3)
    | _ => none
  else m.call.helper?.map fun _ => named m.call.named + 4

/-- A sum from the left: every part but the first is one level deeper than the sum so far. -/
def join : List Nat → Nat
  | [] => 1
  | k :: ks => ks.foldl (fun sum k => max sum k + 1) k

mutual
/-- A statement; nothing if it has no output. -/
def node : Node → Option Nat
  | .content .. => some 1
  | .mustache m => mustache m
  | .block ⟨call, main, inverse, _⟩ =>
    call.path.plainName?.bind fun name =>
      if isConditional name then
        call.params.head?.map fun test => max (value test) (max (branch main) (branch inverse)) + 1
      else some (max (named call.named) (max (body main) (body inverse)) + 4)
  | _ => none
def nodes : List Node → List Nat
  | [] => []
  | n :: ns => (node n).toList ++ nodes ns
def branch : Option (Template.Program Node) → Nat
  | none => 1
  | some ⟨ns, _, _⟩ => join (nodes ns)
/-- The property of a body: a function that returns its sum. -/
def body : Option (Template.Program Node) → Nat
  | none => 0
  | some ⟨[], _, _⟩ => 0
  | some ⟨n :: ns, _, _⟩ => join (nodes (n :: ns)) + 5
end

/-- The module whose render function returns the sum of some statements. -/
def module (exported : Bool) (ns : List Node) : Nat :=
  join (nodes ns) + if exported then 7 else 6

end Nesting

namespace Translation

variable (o : Options) (scope : Nat)

theorem nesting_path (p : Path) : (path scope p).toJson.nesting = p.parts.length + 1 :=
  Script.Expr.nesting_chain _ _

theorem nesting_value (e : Template.Expr) : (value scope e).toJson.nesting = Nesting.value e := by
  cases e with
  | path p => exact nesting_path scope p
  | _ => simp [value, Nesting.value]

theorem nesting_properties (pairs : List (HashPair Template.Expr)) :
    Json.nestingOfItems (Script.Expr.propertiesToJson (properties scope pairs)) = Nesting.named pairs := by
  induction pairs with
  | nil => simp [properties, Nesting.named]
  | cons p pairs ih =>
    rw [properties] at ih ⊢
    rw [List.map_cons, Script.Expr.nestingOfItems_properties_cons, ih, nesting_value, Nesting.named]

theorem nesting_helperCall (name : String) (named bodies : List (Script.Property Script.Expr)) :
    (helperCall name named bodies).toJson.nesting =
      max (Json.nestingOfItems (Script.Expr.propertiesToJson named))
        (Json.nestingOfItems (Script.Expr.propertiesToJson bodies)) + 4 := by
  rw [helperCall, Script.Expr.nesting_callNamed]
  cases bodies with
  | nil => simp [Script.Expr.listToJson, Json.nestingOfItems, Script.Expr.nesting_object]
  | cons p ps =>
    simp only [List.isEmpty_cons, Bool.false_eq_true, if_false, Script.Expr.listToJson,
      Json.nestingOfItems, Script.Expr.nesting_object]
    omega

theorem nesting_join (es : List Script.Expr) :
    (join es).toJson.nesting = Nesting.join (es.map fun e => e.toJson.nesting) := by
  cases es with
  | nil => simp [join, Script.Expr.sum?, Nesting.join]
  | cons e es =>
    rw [join, Script.Expr.sum?, Option.getD_some, List.map_cons, Nesting.join, List.foldl_map]
    induction es generalizing e with
    | nil => rfl
    | cons e' es ih => rw [List.foldl_cons, ih, Script.Expr.nesting_plus, List.foldl_cons]

theorem nesting_mustache (m : Mustache) :
    (mustache o scope m).map (fun e => e.toJson.nesting) = Nesting.mustache m := by
  unfold mustache Nesting.mustache
  split
  · cases m.call.path with
    | path p => simp [Script.Expr.nesting_callNamed, Script.Expr.listToJson, Json.nestingOfItems, nesting_path]
    | _ => rfl
  · rw [Option.map_map]
    congr 1
    funext name
    simp [nesting_helperCall, nesting_properties]

mutual
theorem nesting_node : (n : Node) → (scope : Nat) →
    (node o scope n).map (fun e => e.toJson.nesting) = Nesting.node n
  | .content text written loc, _ => by simp [node, Nesting.node]
  | .mustache m, scope => by rw [node, nesting_mustache, Nesting.node]
  | .block ⟨call, main, inverse, loc⟩, scope => by
    have hmain := nesting_branch main scope
    have hinverse := nesting_branch inverse scope
    have hfn := nesting_body main scope "fn"
    have hother := nesting_body inverse scope "inverse"
    cases hname : call.path.plainName? with
    | none => simp [node, Nesting.node, hname]
    | some name =>
      by_cases hcond : isConditional name = true
      · cases hparams : call.params.head? with
        | none => simp [node, Nesting.node, hname, hcond, conditional, hparams]
        | some test =>
          simp only [node, Nesting.node, hname, hcond, conditional, hparams, Option.bind_some, if_true, Option.map_some]
          split
          · simp [hmain, hinverse, nesting_value]
          · simp [hmain, hinverse, nesting_value, Nat.max_comm]
      · simp [node, Nesting.node, hname, hcond, nesting_helperCall, nesting_properties,
          Script.Expr.nestingOfItems_properties_append, hfn, hother]
  | .comment .., _ => rfl
  | .partialCall .., _ => rfl
  | .partialBlock .., _ => rfl
  | .decorator _, _ => rfl
  | .decoratorBlock _, _ => rfl
  | .program _, _ => rfl
theorem nesting_nodes : (ns : List Node) → (scope : Nat) →
    (nodes o scope ns).map (fun e => e.toJson.nesting) = Nesting.nodes ns
  | [], _ => rfl
  | n :: ns, scope => by
    have hn := nesting_node n scope
    have hns := nesting_nodes ns scope
    rw [nodes, Nesting.nodes, List.map_append, hns, ← hn]
    cases node o scope n <;> rfl
theorem nesting_branch : (b : Option (Template.Program Node)) → (scope : Nat) →
    (branch o scope b).toJson.nesting = Nesting.branch b
  | none, _ => by simp [branch, Nesting.branch]
  | some ⟨ns, _, _⟩, scope => by
    rw [branch, nesting_join, nesting_nodes ns scope, Nesting.branch]
theorem nesting_body : (b : Option (Template.Program Node)) → (scope : Nat) → (key : String) →
    Json.nestingOfItems (Script.Expr.propertiesToJson (body o scope key b)) = Nesting.body b
  | none, _, _ => by simp [body, Nesting.body]
  | some ⟨[], _, _⟩, _, _ => by simp [body, Nesting.body]
  | some ⟨n :: ns, _, _⟩, scope, key => by
    have hns := nesting_nodes (n :: ns) (scope + 1)
    rw [body, Script.Expr.nestingOfItems_properties_cons, Script.Expr.nesting_func, nesting_join, hns,
      Script.Expr.nestingOfItems_properties_nil, Nesting.body, Nat.max_eq_left (Nat.zero_le _)]
end

end Translation

/-- The imports of a module are not deeper than its render function. -/
theorem Compilation.nesting_module (exported : Bool) (helpers : HelperTable) (name param : String)
    (e : Script.Expr) :
    (Compilation.module exported helpers (.returning (some name) param e)).toJson.nesting =
      e.toJson.nesting + if exported then 7 else 6 := by
  have he := e.one_le_nesting
  have himports : Json.nestingOfItems ((helpers.imports.map fun i => Script.Statement.importing i.1 i.2).map
      Script.Statement.toJson) ≤ 4 := by
    rw [Json.nestingOfItems_le_iff, List.forall_mem_map, List.forall_mem_map]
    intro i _
    exact Nat.le_of_eq (Script.Statement.nesting_importing i.1 i.2)
  rw [Script.Program.nesting_toJson, Compilation.module, List.map_append, Json.nestingOfItems_append]
  cases exported with
  | false =>
    simp only [Bool.false_eq_true, if_false, List.map_cons, List.map_nil, Json.nestingOfItems,
      Script.Statement.nesting_function]
    omega
  | true =>
    simp only [if_true, List.map_cons, List.map_nil, Json.nestingOfItems, Script.Statement.nesting_exported,
      Script.Statement.nesting_function]
    omega

/-- How deep a compiled program is nested follows from what is kept of its template. -/
theorem nesting_compile {t : Node} {o : Options} {resolve : Resolver} {c : Compilation}
    (hc : (compile t o resolve).result = .ok c) :
    ∃ p, t = .program p ∧ c.program.toJson.nesting = Nesting.module o.exported (Prune.kept o p).body := by
  obtain ⟨p, ht, hgenerated⟩ := compile_generated hc
  refine ⟨p, ht, ?_⟩
  rw [hgenerated.program, Compilation.nesting_module, Translation.nesting_join, Translation.nesting_nodes,
    Nesting.module]

theorem CommandLine.scan_output (a : Arguments) {p : Script.Program}
    (hn : Json.NumbersReadBack p.toJson.numbers) : Token.scan (output a p) = p.toJson.tokens := by
  unfold output
  split
  · exact Json.scan_pretty hn
  · exact Json.scan_compact hn

/-- What has been written for a compiled template is read back unless it is nested too deep. -/
theorem ofText_output_compile {t : Node} {o : Options} {resolve : Resolver} {c : Compilation}
    (hc : (compile t o resolve).result = .ok c)
    (hfloats : ∀ x hx, Number.float x hx ∈ c.program.toJson.numbers → (Number.float x hx).ReadsBack)
    (a : CommandLine.Arguments) :
    (Script.Program.ofText (CommandLine.output a c.program) =
      if c.program.toJson.nesting ≤ Reader.nestingLimit then .ok c.program else .error .malformed) ∧
    ∃ p, t = .program p ∧ c.program.toJson.nesting = Nesting.module o.exported (Prune.kept o p).body := by
  have hscan := CommandLine.scan_output a (Json.numbersReadBack_of_floats hfloats)
  exact ⟨Script.Program.ofText_of_scan hscan, nesting_compile hc⟩

namespace Half

/-- The number `0.5`. -/
def number : Number := .float 0.5 (by decide +kernel)

theorem readsBack_number : number.ReadsBack := by
  have htext : number.text = "0.5" := by decide +kernel
  refine ⟨⟨false, ['0'], some ['5'], none⟩, ?_, rfl⟩
  rw [htext]
  rfl

/-- The template `{{scale by=0.5}}`. -/
def template : Template.Program Node :=
  ⟨[.mustache ⟨⟨.path ⟨false, 0, ["scale"], "scale", none⟩, [],
    some ⟨[⟨"by", .num number none, none⟩], none⟩⟩, true, none⟩], [], none⟩

theorem nesting_template : Nesting.module false template.body ≤ Reader.nestingLimit := by decide +kernel

theorem template_compiles : ∃ c, (compile (.program template) {} .none).result = .ok c ∧
    c.program.toJson.numbers = [number] := ⟨_, rfl, rfl⟩

end Half

theorem ofText_output_half : ∃ c, (compile (.program Half.template) {} .none).result = .ok c ∧
    c.program.toJson.numbers = [Half.number] ∧
    Script.Program.ofText (CommandLine.output { pretty := true } c.program) = .ok c.program := by
  obtain ⟨c, hc, hnumbers⟩ := Half.template_compiles
  have hfloats : ∀ x hx, Number.float x hx ∈ c.program.toJson.numbers → (Number.float x hx).ReadsBack := by
    intro x hx hm
    rw [hnumbers, List.mem_singleton] at hm
    rw [hm]
    exact Half.readsBack_number
  obtain ⟨hread, p, hp, hnesting⟩ := ofText_output_compile hc hfloats { pretty := true }
  cases hp
  rw [Prune.kept_of_strict rfl] at hnesting
  exact ⟨c, hc, hnumbers, hread.trans (if_pos (hnesting ▸ Half.nesting_template))⟩

namespace Flat

/-- A template of that many texts of one letter. -/
def template (count : Nat) : Template.Program Node :=
  ⟨List.replicate count (.content "x" "x" none), [], none⟩

theorem nodes_template (count : Nat) : Nesting.nodes (template count).body = List.replicate count 1 := by
  unfold template
  induction count with
  | zero => rfl
  | succ count ih =>
    rw [List.replicate_succ, Nesting.nodes, ih, List.replicate_succ]
    rfl

/-- Every text but the first is one level deeper than the one before. -/
theorem module_template (count : Nat) :
    Nesting.module false (template (count + 1)).body = count + 7 := by
  have hfold : ∀ sum, 1 ≤ sum →
      (List.replicate count 1).foldl (fun sum k => max sum k + 1) sum = sum + count := by
    induction count with
    | zero => exact fun _ _ => rfl
    | succ count ih =>
      intro sum hsum
      rw [List.replicate_succ, List.foldl_cons, Nat.max_eq_left hsum, ih (sum + 1) (by omega)]
      omega
  rw [Nesting.module, nodes_template, List.replicate_succ, Nesting.join, hfold 1 (Nat.le_refl 1),
    if_neg Bool.false_ne_true]
  omega

theorem numbersReadBack_of_eq_nil {numbers : List Number} (h : numbers = []) :
    Json.NumbersReadBack numbers := by
  rw [h]
  exact List.forall_mem_nil _

theorem template_readable : (Node.program (template 122)).toJson.numbers = [] ∧
    (Node.program (template 122)).toJson.nesting ≤ Reader.nestingLimit := by
  rw [← List.isEmpty_iff]
  decide +kernel

theorem template_compiles : ∃ c, (compile (.program (template 122)) {} .none).result = .ok c ∧
    c.program.toJson.numbers = [] := by
  have hrun : ((compile (.program (template 122)) {} .none).result.toOption.map
      fun c => c.program.toJson.numbers.isEmpty) = some true := by
    decide +kernel
  obtain ⟨c, hc, hnumbers⟩ := Option.map_eq_some_iff.mp hrun
  refine ⟨c, ?_, List.isEmpty_iff.mp hnumbers⟩
  revert hc
  cases (compile (.program (template 122)) {} .none).result <;> simp [Except.toOption]

/-- A text of three levels that can be read as a template, and whose program cannot be read back,
although no number stands in it. -/
theorem ofText_output_malformed : ∃ c,
    Node.ofText ((Node.program (template 122)).toJson.compact ++ "\n") = .ok (.program (template 122)) ∧
    (compile (.program (template 122)) {} .none).result = .ok c ∧
    c.program.toJson.numbers = [] ∧
    ∀ a, Script.Program.ofText (CommandLine.output a c.program) = .error .malformed := by
  obtain ⟨hnumbers, hnesting⟩ := template_readable
  obtain ⟨c, hc, hc'⟩ := template_compiles
  refine ⟨c, ?_, hc, hc', ?_⟩
  · have hscan := Json.scan_compact (numbersReadBack_of_eq_nil hnumbers)
    rw [Template.Node.ofText_of_scan hscan, if_pos hnesting]
  · intro a
    obtain ⟨p, hp, hnest⟩ := nesting_compile hc
    cases hp
    have hscan := CommandLine.scan_output a (numbersReadBack_of_eq_nil hc')
    have hdeep : ¬c.program.toJson.nesting ≤ Reader.nestingLimit := by
      rw [hnest, Prune.kept_of_strict rfl, module_template]
      decide
    rw [Script.Program.ofText_of_scan hscan, if_neg hdeep]

end Flat

end Stencil
