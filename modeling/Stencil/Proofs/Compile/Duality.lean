import Stencil.Proofs.Compile.Generated
import Stencil.Proofs.Compile.Sources
import Stencil.Proofs.Compile.Warnings

/-!
# `if` and `unless` are dual

`{{#if a}}x{{else}}y{{/if}}` and `{{#unless a}}y{{else}}x{{/unless}}` say the same. `Dual t t'` says
that `t'` comes from `t` by turning some of its conditionals in this way, however deep they stand.
Dual templates compile under the same conditions, to the same render function; helpers and
diagnostics may come in another order (`compile_dual`).
-/

namespace Stencil

set_option autoImplicit false

open Template (Node Call Location)

namespace Template

/-- The two conditionals with the same test and no named arguments. -/
structure Call.Opposite (test : Expr) (c c' : Call) : Prop where
  names : c.path.plainName? = some "if" ∧ c'.path.plainName? = some "unless" ∨
    c.path.plainName? = some "unless" ∧ c'.path.plainName? = some "if"
  params : c.params = [test]
  params' : c'.params = [test]
  named : c.named = []
  named' : c'.named = []

namespace Node

/-- Bodies with related statements and the same names. -/
inductive Bodies (R : Node → Node → Prop) :
    Option (Program Node) → Option (Program Node) → Prop
  | none : Bodies R none none
  | some {ns ns' names loc} : List.Forall₂ R ns ns' →
      Bodies R (some ⟨ns, names, loc⟩) (some ⟨ns', names, loc⟩)

/-- Some conditionals are turned into the other one, with their bodies swapped. -/
inductive Dual : Node → Node → Prop
  | same (n) : Dual n n
  | turned {test call call' main main' inverse inverse' loc} : call.Opposite test call' →
      Bodies Dual main main' → Bodies Dual inverse inverse' →
      Dual (.block ⟨call, main, inverse, loc⟩) (.block ⟨call', inverse', main', loc⟩)
  | block {call main main' inverse inverse' loc} :
      Bodies Dual main main' → Bodies Dual inverse inverse' →
      Dual (.block ⟨call, main, inverse, loc⟩) (.block ⟨call, main', inverse', loc⟩)
  | program {ns ns' names loc} : List.Forall₂ Dual ns ns' →
      Dual (.program ⟨ns, names, loc⟩) (.program ⟨ns', names, loc⟩)
  | partialBlock {call main main' loc} : Bodies Dual main main' →
      Dual (.partialBlock call main loc) (.partialBlock call main' loc)
  | decoratorBlock {call main main' inverse inverse' loc} :
      Bodies Dual main main' → Bodies Dual inverse inverse' →
      Dual (.decoratorBlock ⟨call, main, inverse, loc⟩) (.decoratorBlock ⟨call, main', inverse', loc⟩)

/-- Induction over dual statements, as far as the pass looks into them. -/
@[elab_as_elim]
theorem Dual.bodyInduction {P : Node → Node → Prop}
    (same : ∀ n, P n n)
    (turned : ∀ {test call call' main main' inverse inverse' loc}, call.Opposite test call' →
      Bodies P main main' → Bodies P inverse inverse' →
      P (.block ⟨call, main, inverse, loc⟩) (.block ⟨call', inverse', main', loc⟩))
    (block : ∀ {call main main' inverse inverse' loc},
      Bodies P main main' → Bodies P inverse inverse' →
      P (.block ⟨call, main, inverse, loc⟩) (.block ⟨call, main', inverse', loc⟩))
    (foreign : ∀ {n n'}, n.isForeign = true → n'.isForeign = true → n.kind = n'.kind →
      n.loc = n'.loc → P n n')
    {n n' : Node} (h : Dual n n') : P n n' := by
  -- the recursor asks for the bodies and for the lists in them apart
  refine @Dual.rec (fun n n' _ => P n n') (fun b b' _ => Bodies P b b')
    (fun ns ns' _ => List.Forall₂ P ns ns') ?_ ?_ ?_ ?_ ?_ ?_ ?_ ?_ ?_ ?_ n n' h
  · exact same
  · exact fun ho _ _ hm hi => turned ho hm hi
  · exact fun _ _ hm hi => block hm hi
  · exact fun _ _ => foreign rfl rfl rfl rfl
  · exact fun _ _ => foreign rfl rfl rfl rfl
  · exact fun _ _ _ _ => foreign rfl rfl rfl rfl
  · exact .none
  · exact fun _ hns => .some hns
  · exact .nil
  · exact fun _ _ hn hns => .cons hn hns

/-- Roots are dual to roots only. -/
theorem Dual.root_cases {t t' : Node} (h : Dual t t') :
    (∃ ns ns' names loc, t = .program ⟨ns, names, loc⟩ ∧ t' = .program ⟨ns', names, loc⟩ ∧
      List.Forall₂ Dual ns ns') ∨ (∀ p, t ≠ .program p) ∧ ∀ p, t' ≠ .program p := by
  cases h with
  | same =>
    cases t with
    | program p => exact Or.inl ⟨_, _, _, _, rfl, rfl, List.forall₂_same.mpr fun n _ => .same n⟩
    | _ => exact Or.inr ⟨nofun, nofun⟩
  | program hns => exact Or.inl ⟨_, _, _, _, rfl, rfl, hns⟩
  | _ => exact Or.inr ⟨nofun, nofun⟩

theorem called_of_foreign {n : Node} (h : n.isForeign = true) : n.called = [] := by
  cases n with
  | content | comment | mustache | block => cases h
  | _ => simp only [called]

theorem calledBy_perm {ns ns' : List Node}
    (h : List.Forall₂ (fun n n' => n.called.Perm n'.called) ns ns') :
    (calledBy ns).Perm (calledBy ns') := by
  induction h with
  | nil => exact .refl _
  | cons hn _ ih =>
    rw [calledBy, calledBy]
    exact hn.append ih

theorem calledIn_perm {b b' : Option (Program Node)}
    (h : Bodies (fun n n' => n.called.Perm n'.called) b b') : (calledIn b).Perm (calledIn b') := by
  cases h with
  | none => exact .refl _
  | some hns => exact calledBy_perm hns

end Node

/-- Both names are those of a conditional, one in each direction. -/
theorem Call.Opposite.plainName? {test : Expr} {c c' : Call} (h : c.Opposite test c') :
    ∃ name name', c.path.plainName? = some name ∧ c'.path.plainName? = some name' ∧
      Compiling.isConditional name = true ∧ Compiling.isConditional name' = true ∧
      (name == "if") = !(name' == "if") := by
  rcases h.names with ⟨hn, hn'⟩ | ⟨hn, hn'⟩
  · exact ⟨_, _, hn, hn', rfl, rfl, rfl⟩
  · exact ⟨_, _, hn, hn', rfl, rfl, rfl⟩

theorem Node.Dual.called {n n' : Node} (h : Dual n n') : n.called.Perm n'.called := by
  refine Dual.bodyInduction ?same ?turned ?block ?foreign h
  case same => exact fun n => .refl _
  case turned =>
    intro test call call' main main' inverse inverse' loc ho hm hi
    obtain ⟨name, name', hn, hn', hc, hc', -⟩ := ho.plainName?
    rw [Node.called, Node.called, Call.helper?_of_conditional hn hc,
      Call.helper?_of_conditional hn' hc']
    exact ((calledIn_perm hm).append (calledIn_perm hi)).trans List.perm_append_comm
  case block =>
    intro call main main' inverse inverse' loc hm hi
    rw [Node.called, Node.called]
    exact ((calledIn_perm hm).append (calledIn_perm hi)).append_left _
  case foreign =>
    intro n n' hn hn' _ _
    rw [called_of_foreign hn, called_of_foreign hn']

end Template

open Template.Node (Dual Bodies)

section Supported
variable {o : Options} {scope : Nat} {call : Call} {main inverse : Option (Template.Program Node)}
  {loc : Option Location} {name : String}

/-- The bodies that may stand in a conditional. -/
def SupportedBranch (o : Options) (scope : Nat) (b : Option (Template.Program Node)) : Prop :=
  (∀ p ∈ b, p.blockParams = []) ∧ ∀ p ∈ b, ∀ n ∈ p.body, Supported o scope n

/-- The bodies that may stand in a helper block. -/
def SupportedBody (o : Options) (scope : Nat) (b : Option (Template.Program Node)) : Prop :=
  (∀ p ∈ b, p.body ≠ [] → p.blockParams = []) ∧ ∀ p ∈ b, ∀ n ∈ p.body, Supported o (scope + 1) n

theorem supported_conditional_iff (hname : call.path.plainName? = some name)
    (hcond : Compiling.isConditional name = true) :
    Supported o scope (.block ⟨call, main, inverse, loc⟩) ↔
      (∃ test, call.params = [test] ∧ SupportedValue scope test) ∧ call.named = [] ∧
        SupportedBranch o scope main ∧ SupportedBranch o scope inverse := by
  constructor
  · intro h
    cases h with
    | conditional _ _ hparams htest hnamed hmp hm hip hi =>
      exact ⟨⟨_, hparams, htest⟩, hnamed, ⟨hmp, hm⟩, hip, hi⟩
    | block hname' hcond' =>
      cases hname.symm.trans hname'
      cases hcond.symm.trans hcond'
  · rintro ⟨⟨test, hparams, htest⟩, hnamed, ⟨hmp, hm⟩, hip, hi⟩
    exact .conditional hname hcond hparams htest hnamed hmp hm hip hi

theorem supported_block_iff (hname : call.path.plainName? = some name)
    (hcond : Compiling.isConditional name = false) :
    Supported o scope (.block ⟨call, main, inverse, loc⟩) ↔
      (Callable o name ∧ call.params = [] ∧ ∀ pair ∈ call.named, SupportedValue scope pair.value) ∧
        SupportedBody o scope main ∧ SupportedBody o scope inverse := by
  constructor
  · intro h
    cases h with
    | conditional hname' hcond' =>
      cases hname.symm.trans hname'
      cases hcond.symm.trans hcond'
    | block hname' _ hc hparams hv hmp hm hip hi =>
      cases hname.symm.trans hname'
      exact ⟨⟨hc, hparams, hv⟩, ⟨hmp, hm⟩, hip, hi⟩
  · rintro ⟨⟨hc, hparams, hv⟩, ⟨hmp, hm⟩, hip, hi⟩
    exact .block hname hcond hc hparams hv hmp hm hip hi

theorem not_supported_of_not_plainName (hname : call.path.plainName? = none) :
    ¬ Supported o scope (.block ⟨call, main, inverse, loc⟩) := by
  intro h
  cases h with
  | conditional hname' => cases hname.symm.trans hname'
  | block hname' => cases hname.symm.trans hname'

theorem not_supported_of_foreign {n : Node} (h : n.isForeign = true) : ¬ Supported o scope n := by
  intro hn
  cases hn <;> cases h

end Supported

section Dual
variable {o : Options}

theorem supported_forall_iff {scope : Nat} {ns ns' : List Node}
    (h : List.Forall₂ (fun n n' => ∀ scope, Supported o scope n ↔ Supported o scope n') ns ns') :
    (∀ n ∈ ns, Supported o scope n) ↔ ∀ n ∈ ns', Supported o scope n := by
  induction h with
  | nil => exact Iff.rfl
  | cons hn _ ih => rw [List.forall_mem_cons, List.forall_mem_cons, hn scope, ih]

theorem supportedBranch_iff {scope : Nat} {b b' : Option (Template.Program Node)}
    (h : Bodies (fun n n' => ∀ scope, Supported o scope n ↔ Supported o scope n') b b') :
    SupportedBranch o scope b ↔ SupportedBranch o scope b' := by
  cases h with
  | none => exact Iff.rfl
  | some hns => simp [SupportedBranch, supported_forall_iff hns]

theorem supportedBody_iff {scope : Nat} {b b' : Option (Template.Program Node)}
    (h : Bodies (fun n n' => ∀ scope, Supported o scope n ↔ Supported o scope n') b b') :
    SupportedBody o scope b ↔ SupportedBody o scope b' := by
  cases h with
  | none => exact Iff.rfl
  | some hns =>
    have hempty := hns.length_eq
    simp [SupportedBody, supported_forall_iff hns, ← List.length_eq_zero_iff, hempty]

theorem Template.Node.Dual.supported {n n' : Node} (h : Dual n n') :
    ∀ scope, Supported o scope n ↔ Supported o scope n' := by
  refine Dual.bodyInduction ?same ?turned ?block ?foreign h
  case same => exact fun n scope => Iff.rfl
  case turned =>
    intro test call call' main main' inverse inverse' loc ho hm hi scope
    obtain ⟨name, name', hn, hn', hc, hc', -⟩ := ho.plainName?
    rw [supported_conditional_iff hn hc, supported_conditional_iff hn' hc', ho.params, ho.params',
      ho.named, ho.named', supportedBranch_iff hm, supportedBranch_iff hi,
      and_comm (a := SupportedBranch o scope main')]
  case block =>
    intro call main main' inverse inverse' loc hm hi scope
    cases hname : call.path.plainName? with
    | none =>
      exact iff_of_false (not_supported_of_not_plainName hname) (not_supported_of_not_plainName hname)
    | some name =>
      cases hcond : Compiling.isConditional name with
      | true =>
        rw [supported_conditional_iff hname hcond, supported_conditional_iff hname hcond,
          supportedBranch_iff hm, supportedBranch_iff hi]
      | false =>
        rw [supported_block_iff hname hcond, supported_block_iff hname hcond,
          supportedBody_iff hm, supportedBody_iff hi]
  case foreign =>
    intro n n' hn hn' _ _ scope
    exact iff_of_false (not_supported_of_foreign hn) (not_supported_of_foreign hn')

end Dual

namespace Translation

variable {o : Options}

theorem node_of_foreign {n : Node} (h : n.isForeign = true) (scope : Nat) :
    node o scope n = none := by
  cases n with
  | content | comment | mustache | block => cases h
  | _ => simp only [node]

theorem nodes_congr {ns ns' : List Node}
    (h : List.Forall₂ (fun n n' => ∀ scope, node o scope n = node o scope n') ns ns') (scope : Nat) :
    nodes o scope ns = nodes o scope ns' := by
  induction h with
  | nil => rfl
  | cons hn _ ih => rw [nodes, nodes, hn scope, ih]

theorem branch_congr {b b' : Option (Template.Program Node)}
    (h : Bodies (fun n n' => ∀ scope, node o scope n = node o scope n') b b') (scope : Nat) :
    branch o scope b = branch o scope b' := by
  cases h with
  | none => rfl
  | some hns => rw [branch, branch, nodes_congr hns]

theorem body_congr {b b' : Option (Template.Program Node)}
    (h : Bodies (fun n n' => ∀ scope, node o scope n = node o scope n') b b') (scope : Nat)
    (key : String) : body o scope key b = body o scope key b' := by
  cases h with
  | none => rfl
  | some hns =>
    cases hns with
    | nil => rfl
    | cons hn hns => rw [body, body, nodes_congr (.cons hn hns)]

/-- A turned conditional tests the same, and its branches come back in order. -/
theorem node_dual {n n' : Node} (h : Dual n n') : ∀ scope, node o scope n = node o scope n' := by
  refine Dual.bodyInduction ?same ?turned ?block ?foreign h
  case same => exact fun n scope => rfl
  case turned =>
    intro test call call' main main' inverse inverse' loc ho hm hi scope
    obtain ⟨name, name', hn, hn', hc, hc', hif⟩ := ho.plainName?
    rw [node_conditional hn hc ho.params, node_conditional hn' hc' ho.params', branch_congr hm,
      branch_congr hi, hif]
    cases name' == "if" <;> rfl
  case block =>
    intro call main main' inverse inverse' loc hm hi scope
    simp only [node, branch_congr hm, branch_congr hi, body_congr hm, body_congr hi]
  case foreign =>
    intro n n' hn hn' _ _ scope
    rw [node_of_foreign hn, node_of_foreign hn']

end Translation

namespace Prune

variable {o : Options}

theorem node_of_foreign {n : Node} (h : n.isForeign = true) : node o n = .comment "" n.loc := by
  cases n with
  | content | comment | mustache | block => cases h
  | _ => simp only [node, Node.loc]

theorem nodes_forall₂ {R : Node → Node → Prop} {ns ns' : List Node}
    (h : List.Forall₂ (fun n n' => R (node o n) (node o n')) ns ns') :
    List.Forall₂ R (nodes o ns) (nodes o ns') := by
  induction h with
  | nil =>
    rw [nodes]
    exact .nil
  | cons hn _ ih =>
    rw [nodes, nodes]
    exact .cons hn ih

theorem body_bodies {R : Node → Node → Prop} {b b' : Option (Template.Program Node)}
    (h : Bodies (fun n n' => R (node o n) (node o n')) b b') :
    Bodies R (body o b) (body o b') := by
  cases h with
  | none =>
    rw [body]
    exact .none
  | some hns =>
    rw [body, body]
    exact .some (nodes_forall₂ hns)

theorem node_dual {n n' : Node} (h : Dual n n') : Dual (node o n) (node o n') := by
  refine Dual.bodyInduction ?same ?turned ?block ?foreign h
  case same => exact fun n => .same _
  case turned =>
    intro test call call' main main' inverse inverse' loc ho hm hi
    obtain ⟨name, name', hn, hn', hc, hc', -⟩ := ho.plainName?
    simp only [node, hn, hn', hc, hc', ho.params, ho.params', if_true]
    split
    · exact .same _
    · exact .turned ⟨ho.names, rfl, rfl, rfl, rfl⟩ (body_bodies hm) (body_bodies hi)
  case block =>
    intro call main main' inverse inverse' loc hm hi
    rw [node, node]
    split
    · exact .same _
    · split
      · split
        · exact .same _
        · exact .block (body_bodies hm) (body_bodies hi)
      · split
        · exact .block (body_bodies hm) (body_bodies hi)
        · exact .same _
  case foreign =>
    intro n n' hn hn' _ hloc
    rw [node_of_foreign hn, node_of_foreign hn', hloc]
    exact .same _

end Prune

namespace Warnings

variable {o : Options}

theorem node_of_foreign {n n' : Node} (h : n.isForeign = true) (hkind : n.kind = n'.kind)
    (hloc : n.loc = n'.loc) : node o n = node o n' := by
  cases n with
  | content | comment | mustache | block => cases h
  | _ =>
    cases n' <;> simp_all [Node.kind, Node.loc, node]

theorem nodes_perm {ns ns' : List Node}
    (h : List.Forall₂ (fun n n' => (node o n).Perm (node o n')) ns ns') :
    (nodes o ns).Perm (nodes o ns') := by
  induction h with
  | nil => exact .refl _
  | cons hn _ ih =>
    rw [nodes, nodes]
    exact hn.append ih

theorem branch_perm {b b' : Option (Template.Program Node)}
    (h : Bodies (fun n n' => (node o n).Perm (node o n')) b b') :
    (branch o b).Perm (branch o b') := by
  cases h with
  | none => exact .refl _
  | some hns =>
    rw [branch, branch]
    exact (nodes_perm hns).append_left _

theorem body_perm {b b' : Option (Template.Program Node)}
    (h : Bodies (fun n n' => (node o n).Perm (node o n')) b b') : (body o b).Perm (body o b') := by
  cases h with
  | none => exact .refl _
  | some hns =>
    cases hns with
    | nil => exact .refl _
    | cons hn hns =>
      rw [body, body]
      exact (nodes_perm (.cons hn hns)).append_left _

theorem conditional_perm {name : String} {c : Call} {loc : Option Location}
    {ws ws' : List Diagnostic} (h : ws.Perm ws') :
    (conditional name c loc ws).Perm (conditional name c loc ws') := by
  unfold conditional
  split
  · exact .refl _
  · refine .append_left _ (.append_left _ (.append_left _ ?_))
    split
    · exact .refl _
    · exact h

/-- With one parameter and no named arguments only the test can be reported. -/
theorem conditional_of_test {test : Template.Expr} {c : Call} (hparams : c.params = [test])
    (hnamed : c.named = []) (name : String) (loc : Option Location) (ws : List Diagnostic) :
    conditional name c loc ws = value Diagnostic.unsupportedConstruct test ++
      if Prune.isDropped test then [] else ws := by
  have hhash : hash name c.hash = [] := by
    unfold hash
    split
    · rfl
    · rename_i h hc
      have hempty : h.pairs = [] := by simpa [Call.named, hc] using hnamed
      rw [hempty]
      rfl
  simp only [conditional, hparams, params, hhash, List.nil_append]

theorem node_dual {n n' : Node} (h : Dual n n') : (node o n).Perm (node o n') := by
  refine Dual.bodyInduction ?same ?turned ?block ?foreign h
  case same => exact fun n => .refl _
  case turned =>
    intro test call call' main main' inverse inverse' loc ho hm hi
    obtain ⟨name, name', hn, hn', hc, hc', -⟩ := ho.plainName?
    simp only [node, hn, hn', hc, hc', if_true, conditional_of_test ho.params ho.named,
      conditional_of_test ho.params' ho.named']
    split
    · exact .refl _
    · exact .append_left _ (((branch_perm hm).append (branch_perm hi)).trans List.perm_append_comm)
  case block =>
    intro call main main' inverse inverse' loc hm hi
    rw [node, node]
    split
    · exact .refl _
    · split
      · exact conditional_perm ((branch_perm hm).append (branch_perm hi))
      · split
        · exact .append_left _ ((body_perm hm).append (body_perm hi))
        · exact .refl _
  case foreign =>
    intro n n' hn _ hkind hloc
    rw [node_of_foreign hn hkind hloc]

end Warnings

namespace HelperTable

/-- With one resolver the names of a table decide on its entries, up to their order. -/
theorem Faithful.entries_perm {resolve : Resolver} {t t' : HelperTable} (h : t.Faithful resolve)
    (h' : t'.Faithful resolve) (hnames : ∀ name, name ∈ t.names ↔ name ∈ t'.names) :
    t.entries.Perm t'.entries := by
  have hsub : ∀ {t t' : HelperTable}, t.Faithful resolve → t'.Faithful resolve →
      (∀ name, name ∈ t.names → name ∈ t'.names) → ∀ e ∈ t.entries, e ∈ t'.entries := by
    rintro t t' h h' hnames ⟨name, source⟩ he
    obtain ⟨⟨_, source'⟩, he', rfl⟩ :=
      List.mem_map.mp (hnames name (List.mem_map_of_mem (f := Prod.fst) he))
    obtain ⟨answer, ha, rfl⟩ := h.answered _ _ he
    obtain ⟨answer', ha', rfl⟩ := h'.answered _ _ he'
    cases ha.symm.trans ha'
    exact he'
  refine (List.perm_ext_iff_of_nodup (.of_map _ h.nodup) (.of_map _ h'.nodup)).mpr fun e => ?_
  exact ⟨hsub h h' (fun name => (hnames name).mp) e, hsub h' h (fun name => (hnames name).mpr) e⟩

end HelperTable

theorem Prune.kept_dual {ns ns' : List Node} (h : List.Forall₂ Dual ns ns') (o : Options)
    (names : List String) (loc : Option Location) :
    (kept o ⟨ns, names, loc⟩).blockParams = (kept o ⟨ns', names, loc⟩).blockParams ∧
      List.Forall₂ Dual (kept o ⟨ns, names, loc⟩).body (kept o ⟨ns', names, loc⟩).body := by
  cases hs : o.strict with
  | true =>
    rw [kept_of_strict hs, kept_of_strict hs]
    exact ⟨rfl, h⟩
  | false =>
    rw [kept_of_lenient hs, kept_of_lenient hs]
    exact ⟨rfl, nodes_forall₂ (h.imp fun _ _ => node_dual)⟩

/-- Strict options report nothing. -/
theorem diagnostics_of_strict {t : Node} {o : Options} {resolve : Resolver} {c : Compilation}
    (hc : (compile t { o with strict := true } resolve).result = .ok c) : c.diagnostics = [] := by
  rw [← compile_warned_of_ok hc]
  exact compile_warned_of_strict rfl t resolve

/-- Two compilations that differ at most in the order of helpers and diagnostics. -/
structure Compilation.Reordered (c c' : Compilation) : Prop where
  render : c.SameRender c'
  helpers : c.helpers.entries.Perm c'.helpers.entries
  diagnostics : c.diagnostics.Perm c'.diagnostics

section Roots
variable {ns ns' : List Node} {names : List String} {loc : Option Location} {o : Options}
  {resolve : Resolver}

theorem compile_ok_iff_of_dual (h : List.Forall₂ Dual ns ns') :
    (∃ c, (compile (.program ⟨ns, names, loc⟩) o resolve).result = .ok c) ↔
      ∃ c', (compile (.program ⟨ns', names, loc⟩) o resolve).result = .ok c' := by
  obtain ⟨hparams, hkept⟩ := Prune.kept_dual h o names loc
  have hcalled := Node.calledBy_perm (hkept.imp fun _ _ h => h.called)
  rw [compile_ok_iff_kept, compile_ok_iff_kept, hparams,
    supported_forall_iff (hkept.imp fun _ _ h => h.supported)]
  simp only [hcalled.mem_iff]

theorem diagnostics_perm_of_dual (h : List.Forall₂ Dual ns ns') {c c' : Compilation}
    (hc : (compile (.program ⟨ns, names, loc⟩) o resolve).result = .ok c)
    (hc' : (compile (.program ⟨ns', names, loc⟩) o resolve).result = .ok c') :
    c.diagnostics.Perm c'.diagnostics := by
  obtain ⟨escapeFn, stringifyFn, exported, renderName, strict⟩ := o
  let o : Options := ⟨escapeFn, stringifyFn, exported, renderName, strict⟩
  cases strict with
  | true => rw [diagnostics_of_strict (o := o) hc, diagnostics_of_strict (o := o) hc']
  | false =>
    rw [compile_diagnostics (o := o) hc, compile_diagnostics (o := o) hc']
    exact (Warnings.nodes_perm (h.imp fun _ _ => Warnings.node_dual)).append_left _

theorem compile_reordered_of_dual (h : List.Forall₂ Dual ns ns') {c c' : Compilation}
    (hc : (compile (.program ⟨ns, names, loc⟩) o resolve).result = .ok c)
    (hc' : (compile (.program ⟨ns', names, loc⟩) o resolve).result = .ok c') : c.Reordered c' := by
  obtain ⟨-, hkept⟩ := Prune.kept_dual h o names loc
  obtain ⟨p, hp, hg⟩ := compile_generated hc
  cases hp
  obtain ⟨p', hp', hg'⟩ := compile_generated hc'
  cases hp'
  constructor
  · have hnodes := Translation.nodes_congr (hkept.imp fun _ _ => Translation.node_dual (o := o)) 1
    refine ⟨_, hg.program, ?_⟩
    rw [hnodes]
    exact hg'.program
  · have hcalled := Node.calledBy_perm (hkept.imp fun _ _ h => h.called)
    refine hg.faithful.entries_perm hg'.faithful fun name => ?_
    rw [hg.names, hg'.names, List.mem_eraseDups, List.mem_eraseDups]
    exact hcalled.mem_iff
  · exact diagnostics_perm_of_dual h hc hc'

end Roots

/-- Turning conditionals changes nothing but the order of what is gathered. -/
theorem compile_dual {t t' : Node} (h : Dual t t') (o : Options) (resolve : Resolver) :
    ((∃ c, (compile t o resolve).result = .ok c) ↔ ∃ c', (compile t' o resolve).result = .ok c') ∧
    ∀ c c', (compile t o resolve).result = .ok c → (compile t' o resolve).result = .ok c' →
      c.Reordered c' := by
  rcases h.root_cases with ⟨ns, ns', names, loc, rfl, rfl, hns⟩ | ⟨ht, ht'⟩
  · exact ⟨compile_ok_iff_of_dual hns, fun c c' => compile_reordered_of_dual hns⟩
  · -- only a root compiles
    have hfail : ∀ {t : Node}, (∀ p, t ≠ .program p) → ∀ c, (compile t o resolve).result ≠ .ok c := by
      intro t ht c hc
      obtain ⟨p, rfl, -⟩ := compile_generated hc
      exact ht p rfl
    constructor
    · exact ⟨fun ⟨c, hc⟩ => absurd hc (hfail ht c), fun ⟨c, hc⟩ => absurd hc (hfail ht' c)⟩
    · exact fun c _ hc => absurd hc (hfail ht c)

/-- `{{helper key=@first}}` -/
def firstArgument (helper : String) : Node :=
  let first : Template.Path := ⟨true, 0, ["first"], "@first", none⟩
  .mustache ⟨⟨.path (.new 0 [helper]), [], some (.new [("key", .path first)])⟩, true, none⟩

/-- The call of a conditional on `shown`. -/
def ifShown (conditional : String) : Call :=
  ⟨.path (.new 0 [conditional]), [.path (.new 0 ["shown"])], none⟩

/-- A list with a conditional on `shown` in it. -/
def listChoice (conditional : String) (main inverse : Node) : Node :=
  .root [.block ⟨.new (.new 0 ["list"]), some (.new [
    .block ⟨ifShown conditional, some (.new [main]), some (.new [inverse]), none⟩]), none, none⟩]

/-- With a conditional turned, its helpers are met in the other order. -/
theorem compile_listChoice :
    let t := listChoice "if" (firstArgument "link") (firstArgument "icon")
    let t' := listChoice "unless" (firstArgument "icon") (firstArgument "link")
    Dual t t' ∧ ∃ c c', (compile t { strict := false } Resolver.none).result = .ok c ∧
      (compile t' { strict := false } Resolver.none).result = .ok c' ∧ c.Reordered c' ∧
      c.helpers.names = ["list", "link", "icon"] ∧ c'.helpers.names = ["list", "icon", "link"] ∧
      c.diagnostics.length = 2 := by
  intro t t'
  have hdual : Dual t t' := by
    have ho : (ifShown "if").Opposite (.path (.new 0 ["shown"])) (ifShown "unless") :=
      ⟨Or.inl ⟨rfl, rfl⟩, rfl, rfl, rfl, rfl⟩
    refine .program (.cons (.block (.some (.cons (.turned ho ?_ ?_) .nil)) .none) .nil)
    · exact .some (.cons (.same _) .nil)
    · exact .some (.cons (.same _) .nil)
  have hreordered := (compile_dual hdual { strict := false } Resolver.none).2
  exact ⟨hdual, _, _, rfl, rfl, hreordered _ _ rfl rfl, rfl, rfl, rfl⟩

end Stencil
