import Stencil.Proofs.Compile.Acceptance
import Stencil.Proofs.Compile.Warnings

/-!
# The names of a sequence

Scripts have no counterpart of the names that `as |x y|` gives to a sequence of statements. The pass
looks at the names of every sequence that it enters: the root, the branches of conditionals and the
bodies of helper blocks. An empty body of a helper block is not entered. Its names go unnoticed even
with strict options, and of all sequences that are reached it is the only kind
(`compile_blockParams`).
-/

namespace Stencil

set_option autoImplicit false

open Template (Node Call Location)

namespace Template.Node

mutual
/-- The sequences that are reached from a statement through the bodies of blocks, each with the call
of its block. -/
def reached : Node → List (Call × Program Node)
  | .block ⟨call, main, inverse, _⟩ => reachedIn call main ++ reachedIn call inverse
  | _ => []
def reachedBy : List Node → List (Call × Program Node)
  | [] => []
  | n :: ns => n.reached ++ reachedBy ns
def reachedIn (call : Call) : Option (Program Node) → List (Call × Program Node)
  | none => []
  | some ⟨ns, names, loc⟩ => (call, ⟨ns, names, loc⟩) :: reachedBy ns
end

theorem mem_reachedBy {ns : List Node} {r : Call × Program Node} (h : r ∈ reachedBy ns) :
    ∃ n ∈ ns, r ∈ n.reached := by
  induction ns with
  | nil => cases h
  | cons n ns ih =>
    rcases List.mem_append.mp h with h | h
    · exact ⟨n, List.mem_cons_self, h⟩
    · obtain ⟨m, hm, hr⟩ := ih h
      exact ⟨m, List.mem_cons_of_mem _ hm, hr⟩

theorem mem_reachedIn {call : Call} {b : Option (Program Node)} {r : Call × Program Node}
    (h : r ∈ reachedIn call b) : ∃ p ∈ b, r = (call, p) ∨ ∃ n ∈ p.body, r ∈ n.reached := by
  cases b with
  | none => cases h
  | some p =>
    refine ⟨p, rfl, ?_⟩
    rcases List.mem_cons.mp h with h | h
    · exact Or.inl h
    · exact Or.inr (mem_reachedBy h)

end Template.Node

namespace Entered

open Compiling (isConditional)

mutual
/-- The sequences that lenient options enter in a statement, in the order of the text. -/
def node (o : Options) : Node → List (Template.Program Node)
  | .block ⟨c, main, inverse, _⟩ =>
    match c.path.plainName? with
    | none => []
    | some name =>
      if isConditional name then
        match c.params with
        | [] => []
        | test :: _ => if Prune.isDropped test then [] else branch o main ++ branch o inverse
      else if Callable o name then body o main ++ body o inverse
      else []
  | _ => []
def nodes (o : Options) : List Node → List (Template.Program Node)
  | [] => []
  | n :: ns => node o n ++ nodes o ns
def branch (o : Options) : Option (Template.Program Node) → List (Template.Program Node)
  | none => []
  | some ⟨ns, names, loc⟩ => ⟨ns, names, loc⟩ :: nodes o ns
/-- An empty body of a helper block is not entered. -/
def body (o : Options) : Option (Template.Program Node) → List (Template.Program Node)
  | none => []
  | some ⟨[], _, _⟩ => []
  | some ⟨n :: ns, names, loc⟩ => ⟨n :: ns, names, loc⟩ :: nodes o (n :: ns)
end

/-- The sequences that lenient options enter in a template, the template first. -/
def root (o : Options) (p : Template.Program Node) : List (Template.Program Node) :=
  p :: nodes o p.body

/-- The warnings for the names of some sequences. -/
def warnings (ps : List (Template.Program Node)) : List Diagnostic :=
  ps.flatMap fun p => Warnings.blockParams p.blockParams p.loc

theorem warnings_append (ps qs : List (Template.Program Node)) :
    warnings (ps ++ qs) = warnings ps ++ warnings qs := List.flatMap_append

theorem warnings_ne_nil {ps : List (Template.Program Node)} {p : Template.Program Node} (hp : p ∈ ps)
    (hn : p.blockParams ≠ []) : warnings ps ≠ [] := by
  intro h
  have hnone := List.flatMap_eq_nil_iff.mp h p hp
  rw [Warnings.blockParams, if_neg (fun he => hn (List.isEmpty_iff.mp he))] at hnone
  cases hnone

section Sublist
variable {o : Options}

theorem warnings_nodes {ns : List Node}
    (ih : ∀ n ∈ ns, (warnings (node o n)).Sublist (Warnings.node o n)) :
    (warnings (nodes o ns)).Sublist (Warnings.nodes o ns) := by
  induction ns with
  | nil =>
    rw [nodes, Warnings.nodes]
    exact .slnil
  | cons n ns ihl =>
    have hn := ih n List.mem_cons_self
    have hns := ihl fun m hm => ih m (List.mem_cons_of_mem _ hm)
    rw [nodes, Warnings.nodes, warnings_append]
    exact hn.append hns

theorem warnings_branch {b : Option (Template.Program Node)}
    (ih : ∀ p ∈ b, ∀ n ∈ p.body, (warnings (node o n)).Sublist (Warnings.node o n)) :
    (warnings (branch o b)).Sublist (Warnings.branch o b) := by
  cases b with
  | none =>
    rw [branch, Warnings.branch]
    exact .slnil
  | some p =>
    obtain ⟨ns, names, loc⟩ := p
    rw [branch, Warnings.branch]
    exact (List.Sublist.refl _).append (warnings_nodes (ih _ rfl))

theorem warnings_body {b : Option (Template.Program Node)}
    (ih : ∀ p ∈ b, ∀ n ∈ p.body, (warnings (node o n)).Sublist (Warnings.node o n)) :
    (warnings (body o b)).Sublist (Warnings.body o b) := by
  cases b with
  | none =>
    rw [body, Warnings.body]
    exact .slnil
  | some p =>
    obtain ⟨ns, names, loc⟩ := p
    cases ns with
    | nil =>
      rw [body, Warnings.body]
      exact .slnil
    | cons n ns =>
      rw [body, Warnings.body]
      exact (List.Sublist.refl _).append (warnings_nodes (ih _ rfl))

/-- The names of the sequences that are entered are reported, in order, among other things. -/
theorem warnings_node (n : Node) : (warnings (node o n)).Sublist (Warnings.node o n) := by
  induction n using Node.bodyInduction with
  | block c main inverse loc ihm ihi =>
    rw [node, Warnings.node]
    cases c.path.plainName? with
    | none => exact List.nil_sublist _
    | some name =>
      dsimp only
      by_cases hcond : isConditional name = true
      · rw [if_pos hcond, if_pos hcond, Warnings.conditional]
        cases c.params with
        | nil => exact List.nil_sublist _
        | cons test extra =>
          dsimp only
          by_cases hd : Prune.isDropped test = true
          · rw [if_pos hd]
            exact List.nil_sublist _
          · rw [if_neg hd, if_neg hd, warnings_append]
            have h := (warnings_branch ihm).append (warnings_branch ihi)
            exact ((h.trans (List.sublist_append_right _ _)).trans
              (List.sublist_append_right _ _)).trans (List.sublist_append_right _ _)
      · rw [if_neg hcond, if_neg hcond]
        by_cases hc : Callable o name
        · rw [if_pos hc, if_pos hc, warnings_append]
          have h := (warnings_body ihm).append (warnings_body ihi)
          exact h.trans (List.sublist_append_right _ _)
        · rw [if_neg hc]
          exact List.nil_sublist _
  | foreign n hn =>
    cases n with
    | content | comment | mustache | block => cases hn
    | _ =>
      rw [node]
      · exact List.nil_sublist _
      · intro c main inverse loc h
        cases h
  | _ =>
    rw [node]
    · exact List.nil_sublist _
    · intro c main inverse loc h
      cases h

theorem warnings_root (p : Template.Program Node) :
    (warnings (root o p)).Sublist (Warnings.root o p) :=
  (List.Sublist.refl _).append (warnings_nodes fun n _ => warnings_node n)

end Sublist

end Entered

/-- A sequence whose names the pass does not look at: an empty body of a helper block. -/
def Unnoticed (r : Call × Template.Program Node) : Prop :=
  r.2.body = [] ∧ r.1.helper?.isSome = true

/-- In a supported statement a sequence has no names, unless they go unnoticed. -/
theorem Supported.blockParams {o : Options} {scope : Nat} {n : Node} (h : Supported o scope n) :
    ∀ r ∈ n.reached, r.2.blockParams = [] ∨ Unnoticed r := by
  induction h with
  | content | comment | interpolation | call =>
    rw [Node.reached]
    · exact List.forall_mem_nil _
    · intro c main inverse loc h
      cases h
  | conditional _ _ _ _ _ hmp _ hip _ ihm ihi =>
    intro r hr
    rcases List.mem_append.mp hr with hr | hr
    · obtain ⟨p, hp, rfl | ⟨n, hn, hr⟩⟩ := Node.mem_reachedIn hr
      · exact Or.inl (hmp p hp)
      · exact ihm p hp n hn r hr
    · obtain ⟨p, hp, rfl | ⟨n, hn, hr⟩⟩ := Node.mem_reachedIn hr
      · exact Or.inl (hip p hp)
      · exact ihi p hp n hn r hr
  | @block scope call main inverse loc name hname hcond _ _ _ hmp _ hip _ ihm ihi =>
    have hhelper : call.helper?.isSome = true := by
      rw [Call.helper?_of_plainName hname hcond]
      rfl
    have hbody : ∀ p : Template.Program Node, (p.body ≠ [] → p.blockParams = []) →
        p.blockParams = [] ∨ Unnoticed (call, p) := by
      intro p hp
      by_cases he : p.body = []
      · exact Or.inr ⟨he, hhelper⟩
      · exact Or.inl (hp he)
    intro r hr
    rcases List.mem_append.mp hr with hr | hr
    · obtain ⟨p, hp, rfl | ⟨n, hn, hr⟩⟩ := Node.mem_reachedIn hr
      · exact hbody p (hmp p hp)
      · exact ihm p hp n hn r hr
    · obtain ⟨p, hp, rfl | ⟨n, hn, hr⟩⟩ := Node.mem_reachedIn hr
      · exact hbody p (hip p hp)
      · exact ihi p hp n hn r hr

theorem blockParams_of_compile_strict {t : Node} {o : Options} {resolve : Resolver} {c : Compilation}
    (hc : (compile t { o with strict := true } resolve).result = .ok c) :
    ∃ p, t = .program p ∧ p.blockParams = [] ∧
      ∀ r ∈ Node.reachedBy p.body, r.2.blockParams = [] ∨ Unnoticed r := by
  rcases h : Compiling.after (Compiling.root (Compiling.strictly o resolve) t) .none with ⟨e | f, g⟩
  · rw [compile_of_error h] at hc
    cases hc
  · obtain ⟨p, rfl, hnames, hbody⟩ :=
      Compiling.supported_root_of_passes (s := Compiling.strictly o resolve) rfl ⟨_, f, g, h⟩
    refine ⟨p, rfl, hnames, ?_⟩
    intro r hr
    obtain ⟨n, hn, hr⟩ := Node.mem_reachedBy hr
    exact (hbody n hn).blockParams r hr

theorem exists_program_of_compile {t : Node} {o : Options} {resolve : Resolver} {c : Compilation}
    (hc : (compile t o resolve).result = .ok c) : ∃ p, t = .program p := by
  cases t with
  | program p => exact ⟨p, rfl⟩
  | _ => cases hc

/-- Where lenient options report something, strict options fail with an unsupported construct. -/
theorem unsupported_of_diagnostics {t : Node} {o : Options} {resolve : Resolver} {c : Compilation}
    (hc : (compile t { o with strict := false } resolve).result = .ok c) (hd : c.diagnostics ≠ []) :
    ∃ construct loc, (compile t { o with strict := true } resolve).result =
      .error (.unsupported construct loc) := by
  have h := compile_demotion t o resolve
  rw [hc] at h
  generalize (compile t { o with strict := true } resolve).result = strict at h
  cases h with
  | same hnone => exact absurd hnone hd
  | dropped => exact ⟨_, _, rfl⟩

/-- What becomes of the names of sequences. A template that strict options accept has none, except on
empty bodies of helper blocks. Lenient options report all names of the sequences that they enter, and
if there are any, strict options fail with an unsupported construct. -/
theorem compile_blockParams (t : Node) (o : Options) (resolve : Resolver) :
    let strict := (compile t { o with strict := true } resolve).result
    let lenient := (compile t { o with strict := false } resolve).result
    (∀ c, strict = .ok c → ∃ p, t = .program p ∧ p.blockParams = [] ∧
      ∀ r ∈ Node.reachedBy p.body, r.2.blockParams = [] ∨ Unnoticed r) ∧
    (∀ c, lenient = .ok c → ∃ p, t = .program p ∧
      (Entered.warnings (Entered.root o p)).Sublist c.diagnostics ∧
      ((∃ q ∈ Entered.root o p, q.blockParams ≠ []) →
        ∃ construct loc, strict = .error (.unsupported construct loc))) := by
  intro strict lenient
  refine ⟨fun c hc => blockParams_of_compile_strict hc, ?_⟩
  intro c hc
  obtain ⟨p, rfl⟩ := exists_program_of_compile hc
  have hsub : (Entered.warnings (Entered.root o p)).Sublist c.diagnostics := by
    rw [compile_diagnostics hc]
    exact Entered.warnings_root p
  refine ⟨p, rfl, hsub, ?_⟩
  rintro ⟨q, hq, hn⟩
  apply unsupported_of_diagnostics hc
  intro hnone
  rw [hnone, List.sublist_nil] at hsub
  exact Entered.warnings_ne_nil hq hn hsub

namespace Naming

/-- `{{#each as |item|}}{{/each}}` -/
def template : Template.Program Node :=
  .new [.block ⟨.new (.new 0 ["each"]), some ⟨[], ["item"], none⟩, none, none⟩]

/-- The names of an empty body pass with strict options, and without a warning with lenient ones. -/
theorem compile_empty :
    (∃ r ∈ Node.reachedBy template.body, r.2.blockParams = ["item"]) ∧
    (∃ c, (compile (.program template) {} Resolver.none).result = .ok c) ∧
    ∃ c, (compile (.program template) { strict := false } Resolver.none).result = .ok c ∧
      c.diagnostics = [] :=
  ⟨⟨_, List.mem_singleton.mpr rfl, rfl⟩, ⟨_, rfl⟩, _, rfl, rfl⟩

end Naming

end Stencil
