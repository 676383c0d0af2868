import Stencil.Proofs.Compile.Emitting
import Stencil.Proofs.Script.Literals

/-!
# The literals of generated code

Whatever a template consists of, the literals of its program are written as texts of their values,
from which these values are read back (`compile_literals_reread`). A printer that writes down values
and one that copies what is written print the same program.
-/

namespace Stencil

set_option autoImplicit false

open Template (Node Path Mustache HashPair)
open Script (AllWritten)

namespace Translation

variable (o : Options) (scope : Nat)

theorem written_path (p : Path) : AllWritten (path scope p).literals := Script.written_chain _ _

theorem written_value (e : Template.Expr) : AllWritten (value scope e).literals := by
  cases e with
  | path p => exact written_path scope p
  | undefined => exact Script.written_ident "undefined"
  | sub => exact Script.written_ident "undefined"
  | _ => exact Script.written_ofScalar _

theorem written_properties (pairs : List (HashPair Template.Expr)) :
    AllWritten (Script.Expr.literalsIn (properties scope pairs)) := by
  induction pairs with
  | nil => exact List.forall_mem_nil _
  | cons pair pairs ih => exact Script.written_property pair.key (written_value scope pair.value) ih

theorem written_mustache (m : Mustache) :
    ∀ e ∈ mustache o scope m, AllWritten e.literals := by
  intro e he
  unfold mustache at he
  split at he
  · split at he
    next p _ =>
      cases he
      apply Script.written_callNamed
      rw [Script.Expr.literalsAll, Script.Expr.literalsAll, List.append_nil]
      exact written_path scope p
    next => cases he
  · obtain ⟨name, -, rfl⟩ := Option.map_eq_some_iff.mp he
    exact Script.written_helperCall name (written_properties scope m.call.named) (List.forall_mem_nil _)

theorem written_conditional (name : String) (params : List Template.Expr) {a b : Script.Expr}
    (ha : AllWritten a.literals) (hb : AllWritten b.literals) :
    ∀ e ∈ conditional scope name params a b, AllWritten e.literals := by
  intro e he
  obtain ⟨test, -, rfl⟩ := Option.map_eq_some_iff.mp he
  have htest := written_value scope test
  split
  · rw [Script.Expr.literals]
    exact htest.append (ha.append hb)
  · rw [Script.Expr.literals]
    exact htest.append (hb.append ha)

mutual
theorem written_node : (n : Node) → (scope : Nat) → (e : Script.Expr) → node o scope n = some e →
    AllWritten e.literals
  | .content text _ _, _, e, he => by
    rw [node, Option.some.injEq] at he
    rw [← he]
    exact Script.written_text text
  | .mustache m, scope, e, he => by
    rw [node] at he
    exact written_mustache o scope m e he
  | .block ⟨call, main, inverse, _⟩, scope, e, he => by
    have hmain := written_branch main scope
    have hinverse := written_branch inverse scope
    have hfn := written_body main scope "fn"
    have hother := written_body inverse scope "inverse"
    rw [node] at he
    obtain ⟨name, -, he⟩ := Option.bind_eq_some_iff.mp he
    split at he
    · exact written_conditional scope name call.params hmain hinverse e he
    · rw [Option.some.injEq] at he
      rw [← he]
      apply Script.written_helperCall name (written_properties scope call.named)
      rw [Script.literalsIn_append]
      exact hfn.append hother
  | .comment .., _, _, he => by cases he
  | .partialCall .., _, _, he => by cases he
  | .partialBlock .., _, _, he => by cases he
  | .decorator _, _, _, he => by cases he
  | .decoratorBlock _, _, _, he => by cases he
  | .program _, _, _, he => by cases he
theorem written_nodes : (ns : List Node) → (scope : Nat) →
    AllWritten (Script.Expr.literalsAll (nodes o scope ns))
  | [], _ => List.forall_mem_nil _
  | n :: ns, scope => by
    have hn := written_node n scope
    have hns := written_nodes ns scope
    rw [nodes]
    cases hnode : node o scope n with
    | none => exact hns
    | some e => exact AllWritten.append (hn e hnode) hns
theorem written_branch : (b : Option (Template.Program Node)) → (scope : Nat) →
    AllWritten (branch o scope b).literals
  | none, _ => by
    rw [branch]
    exact Script.written_text ""
  | some ⟨ns, _, _⟩, scope => by
    rw [branch]
    exact Script.written_join (written_nodes ns scope)
theorem written_body : (b : Option (Template.Program Node)) → (scope : Nat) → (key : String) →
    AllWritten (Script.Expr.literalsIn (body o scope key b))
  | none, _, _ => List.forall_mem_nil _
  | some ⟨[], _, _⟩, _, _ => List.forall_mem_nil _
  | some ⟨n :: ns, _, _⟩, scope, key => by
    rw [body]
    apply Script.written_property key _ (List.forall_mem_nil _)
    rw [Script.literals_func_returning]
    exact Script.written_join (written_nodes (n :: ns) (scope + 1))
end

end Translation

/-- Every literal of a compiled program has a text, and this text read as JSON gives its value. Of a
float it is assumed that its numeral is read back. -/
theorem compile_literals_reread {t : Node} {o : Options} {resolve : Resolver} {c : Compilation}
    (hc : (compile t o resolve).result = .ok c) : ∀ l ∈ c.program.literals,
      ∃ raw, l.raw = some raw ∧
        ((∀ x hx, l.value = .num (.float x hx) → (Number.float x hx).ReadsBack) →
          Json.ofText Reader.nestingLimit raw = .ok l.value.toJson) := by
  obtain ⟨p, -, hgenerated⟩ := compile_generated hc
  -- strict or not, what is kept of the template is translated, and the sources of imports are literals too
  have hwritten : AllWritten c.program.literals := by
    rw [hgenerated.program]
    apply Script.written_module
    exact Script.written_join (Translation.written_nodes o _ 1)
  intro l hl
  refine ⟨l.value.text, hwritten l hl, ?_⟩
  intro hfloat
  exact Script.Scalar.ofText_text hfloat Reader.nestingLimit

namespace Badge

/-- A text with a quote, a backslash and a control character, `{{[user-name]}}`,
`{{badge data-id="7" count=7 scale=0.5 last=null}}` and `{{#if true}}on{{/if}}`. -/
def template : Template.Program Node :=
  ⟨[.content "\"\\\x01" "" none,
    .mustache ⟨⟨.path ⟨false, 0, ["user-name"], "[user-name]", none⟩, [], none⟩, true, none⟩,
    .mustache ⟨⟨.path ⟨false, 0, ["badge"], "badge", none⟩, [],
      some ⟨[⟨"data-id", .str "7" none, none⟩, ⟨"count", .num (.int 7 (by decide)) none, none⟩,
        ⟨"scale", .num Half.number none, none⟩, ⟨"last", .null none, none⟩], none⟩⟩, true, none⟩,
    .block ⟨⟨.path ⟨false, 0, ["if"], "if", none⟩, [.bool true none], none⟩,
      some ⟨[.content "on" "on" none], [], none⟩, none, none⟩], [], none⟩

/-- The source of the import, the text, the key behind brackets, the quoted key and the values, the
test, and both branches. -/
def scalars : List Script.Scalar :=
  [.str "./badge.js", .str "\"\\\x01", .str "user-name", .str "data-id", .str "7",
    .num (.int 7 (by decide)), .num Half.number, .null, .bool true, .str "on", .str ""]

def resolve : Resolver := .ofFunction fun name => some ("./" ++ name ++ ".js")

theorem template_compiles : ∃ c, (compile (.program template) {} resolve).result = .ok c ∧
    c.program.literals.map (·.value) = scalars := ⟨_, rfl, rfl⟩

theorem readsBack_of_mem {x : Float} {hx : x.isFinite = true}
    (h : Script.Scalar.num (.float x hx) ∈ scalars) : (Number.float x hx).ReadsBack := by
  have heq : Number.float x hx = Half.number := by
    simpa [scalars] using h
  rw [heq]
  exact Half.readsBack_number

end Badge

theorem compile_badge_reread : ∃ c, (compile (.program Badge.template) {} Badge.resolve).result = .ok c ∧
    c.program.literals.map (·.value) = Badge.scalars ∧
    ∀ l ∈ c.program.literals, ∃ raw, l.raw = some raw ∧
      Json.ofText Reader.nestingLimit raw = .ok l.value.toJson := by
  obtain ⟨c, hc, hscalars⟩ := Badge.template_compiles
  refine ⟨c, hc, hscalars, ?_⟩
  intro l hl
  obtain ⟨raw, hraw, hread⟩ := compile_literals_reread hc l hl
  refine ⟨raw, hraw, hread ?_⟩
  intro x hx hvalue
  apply Badge.readsBack_of_mem
  rw [← hscalars, ← hvalue]
  exact List.mem_map_of_mem hl

end Stencil
