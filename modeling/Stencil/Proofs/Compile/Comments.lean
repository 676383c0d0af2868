import Stencil.Proofs.Compile.BlockParams
import Stencil.Proofs.Script.Site

/-!
# Comments have no effect

`Node.uncommented` leaves out every comment of a template, however deep it stands. The pass takes the
same steps over what is left: a comment adds nothing to the statements around it, and a sequence of
comments is joined to the empty text just as an empty sequence is. Only for the body of a helper block
it matters whether it has statements at all, so that such a body must not consist of comments alone
(`Node.NoBareComments`). Then the compilation stays the same in all that can be seen of it, warnings,
errors and the questions to the resolver included (`compile_uncommented`).
-/

namespace Stencil

set_option autoImplicit false

open Template (Node Call Location)

namespace Template.Node

def isComment : Node → Bool
  | .comment .. => true
  | _ => false

mutual
/-- A statement without the comments inside of it. -/
def uncommented : Node → Node
  | .program ⟨ns, names, loc⟩ => .program ⟨uncommentedAll ns, names, loc⟩
  | .block ⟨call, main, inverse, loc⟩ => .block ⟨call, uncommentedIn main, uncommentedIn inverse, loc⟩
  | .partialBlock call main loc => .partialBlock call (uncommentedIn main) loc
  | .decoratorBlock ⟨call, main, inverse, loc⟩ =>
    .decoratorBlock ⟨call, uncommentedIn main, uncommentedIn inverse, loc⟩
  | n => n
/-- Some statements without the comments among them and inside of them. -/
def uncommentedAll : List Node → List Node
  | [] => []
  | n :: ns => if n.isComment then uncommentedAll ns else n.uncommented :: uncommentedAll ns
def uncommentedIn : Option (Program Node) → Option (Program Node)
  | none => none
  | some ⟨ns, names, loc⟩ => some ⟨uncommentedAll ns, names, loc⟩
end

/-- A sequence that is no body of comments alone, if it is the body of a helper block. -/
def Beside (r : Call × Program Node) : Prop :=
  r.1.helper?.isSome = true → r.2.body ≠ [] → ∃ n ∈ r.2.body, n.isComment = false

instance (r : Call × Program Node) : Decidable (Beside r) :=
  inferInstanceAs (Decidable (_ → _ → ∃ n ∈ r.2.body, n.isComment = false))

/-- No body of a helper block consists of comments alone. -/
def NoBareComments (t : Node) : Prop := ∀ r ∈ reachedBy t.children, Beside r

instance (t : Node) : Decidable (NoBareComments t) :=
  inferInstanceAs (Decidable (∀ r ∈ reachedBy t.children, Beside r))

theorem reachedBy_of_mem {ns : List Node} {n : Node} {r : Call × Program Node} (hn : n ∈ ns)
    (hr : r ∈ n.reached) : r ∈ reachedBy ns := by
  induction ns with
  | nil => cases hn
  | cons m ns ih =>
    rw [reachedBy]
    rcases List.mem_cons.mp hn with rfl | hn
    · exact List.mem_append_left _ hr
    · exact List.mem_append_right _ (ih hn)

/-- What holds of all sequences of a body holds of the body itself and of the sequences inside. -/
theorem forall_reachedIn {P : Call × Program Node → Prop} {call : Call} {b : Option (Program Node)}
    (h : ∀ r ∈ reachedIn call b, P r) :
    (∀ p ∈ b, P (call, p)) ∧ ∀ p ∈ b, ∀ n ∈ p.body, ∀ r ∈ n.reached, P r := by
  cases b with
  | none => exact ⟨nofun, nofun⟩
  | some p =>
    obtain ⟨ns, names, loc⟩ := p
    rw [reachedIn] at h
    obtain ⟨hself, hinside⟩ := List.forall_mem_cons.mp h
    constructor
    · rintro _ ⟨⟩
      exact hself
    · rintro _ ⟨⟩ n hn r hr
      exact hinside r (reachedBy_of_mem hn hr)

theorem uncommentedAll_ne_nil {ns : List Node} {n : Node} (hn : n ∈ ns) (hc : n.isComment = false) :
    uncommentedAll ns ≠ [] := by
  induction ns with
  | nil => cases hn
  | cons m ns ih =>
    rw [uncommentedAll]
    rcases List.mem_cons.mp hn with rfl | hn
    · rw [hc, if_neg Bool.false_ne_true]
      exact List.cons_ne_nil _ _
    · split
      · exact ih hn
      · exact List.cons_ne_nil _ _

end Template.Node

namespace Compiling

variable {s : Settings} {scope : Nat}

/-- A comment adds nothing to the statements behind it. -/
theorem nodes_comment {n : Node} (hn : n.isComment = true) (ns : List Node) :
    nodes s scope (n :: ns) = nodes s scope ns := by
  cases n with
  | comment text loc =>
    apply ext
    intro g
    have hcomment : after (tolerate s Diagnostic.unsupportedConstruct (node s scope (.comment text loc))) g =
        (.ok (some none), g) := by
      apply after_tolerate_ok
      rw [node, after_pure]
    rw [nodes, after_bind_ok hcomment]
    exact congrArg (after · g) (bind_pure _)
  | _ => cases hn

theorem nodes_uncommented {ns : List Node}
    (ih : ∀ n ∈ ns, node s scope n.uncommented = node s scope n) :
    nodes s scope (Node.uncommentedAll ns) = nodes s scope ns := by
  induction ns with
  | nil => rw [Node.uncommentedAll]
  | cons n ns ihl =>
    have hn := ih n List.mem_cons_self
    have hns := ihl fun m hm => ih m (List.mem_cons_of_mem _ hm)
    rw [Node.uncommentedAll]
    split
    next hcomment => rw [nodes_comment hcomment, hns]
    next => rw [nodes, nodes, hn, hns]

theorem branch_uncommented {b : Option (Template.Program Node)}
    (ih : ∀ p ∈ b, ∀ n ∈ p.body, node s scope n.uncommented = node s scope n) :
    branch s scope (Node.uncommentedIn b) = branch s scope b := by
  cases b with
  | none => rw [Node.uncommentedIn]
  | some p =>
    obtain ⟨ns, names, loc⟩ := p
    rw [Node.uncommentedIn, branch, branch, nodes_uncommented (ih _ rfl)]

theorem body_of_ne_nil (key : String) {ns : List Node} (hns : ns ≠ []) (names : List String)
    (loc : Option Location) : body s scope key (some ⟨ns, names, loc⟩) = (do
      checkBlockParams s names loc
      let es ← nodes s (scope + 1) ns
      return [.of key (.func (.returning none (contextName (scope + 1)) (join es)))]) := by
  cases ns with
  | nil => exact absurd rfl hns
  | cons n ns => rw [body]

/-- A body that is not empty stays so, since something else than comments stands in it. -/
theorem body_uncommented (key : String) {b : Option (Template.Program Node)}
    (hbeside : ∀ p ∈ b, p.body ≠ [] → ∃ n ∈ p.body, n.isComment = false)
    (ih : ∀ p ∈ b, ∀ n ∈ p.body, node s (scope + 1) n.uncommented = node s (scope + 1) n) :
    body s scope key (Node.uncommentedIn b) = body s scope key b := by
  cases b with
  | none => rw [Node.uncommentedIn]
  | some p =>
    obtain ⟨ns, names, loc⟩ := p
    by_cases hns : ns = []
    · rw [hns, Node.uncommentedIn, Node.uncommentedAll]
    · obtain ⟨n, hn, hcomment⟩ := hbeside _ rfl hns
      rw [Node.uncommentedIn, body_of_ne_nil key (Node.uncommentedAll_ne_nil hn hcomment),
        body_of_ne_nil key hns, nodes_uncommented (ih _ rfl)]

theorem node_uncommented {n : Node} (h : ∀ r ∈ n.reached, Node.Beside r) :
    node s scope n.uncommented = node s scope n := by
  induction n using Node.bodyInduction generalizing scope with
  | content => rfl
  | comment => rfl
  | mustache => rfl
  | block call main inverse loc ihm ihi =>
    rw [Node.reached] at h
    obtain ⟨hmain, hinverse⟩ := List.forall_mem_append.mp h
    obtain ⟨hbesidem, hinsidem⟩ := Node.forall_reachedIn hmain
    obtain ⟨hbesidei, hinsidei⟩ := Node.forall_reachedIn hinverse
    rw [Node.uncommented, node, node]
    cases hname : call.path.plainName? with
    | none =>
      obtain ⟨c, l, hl⟩ := helperName_of_not_plainName? hname loc
      rw [hl]
      rfl
    | some name =>
      rw [helperName_of_plainName? hname, pure_bind, pure_bind]
      by_cases hcond : isConditional name = true
      · rw [if_pos hcond, if_pos hcond]
        have hm : branch s scope (Node.uncommentedIn main) = branch s scope main :=
          branch_uncommented fun p hp n hn => ihm p hp n hn (hinsidem p hp n hn)
        have hi : branch s scope (Node.uncommentedIn inverse) = branch s scope inverse :=
          branch_uncommented fun p hp n hn => ihi p hp n hn (hinsidei p hp n hn)
        rw [hm, hi]
      · rw [if_neg hcond, if_neg hcond]
        rw [Bool.not_eq_true] at hcond
        have hhelper : call.helper?.isSome = true := by
          rw [Call.helper?_of_plainName hname hcond]
          rfl
        have hm : body s scope "fn" (Node.uncommentedIn main) = body s scope "fn" main :=
          body_uncommented "fn" (fun p hp => hbesidem p hp hhelper)
            fun p hp n hn => ihm p hp n hn (hinsidem p hp n hn)
        have hi : body s scope "inverse" (Node.uncommentedIn inverse) = body s scope "inverse" inverse :=
          body_uncommented "inverse" (fun p hp => hbesidei p hp hhelper)
            fun p hp n hn => ihi p hp n hn (hinsidei p hp n hn)
        rw [hm, hi]
  | foreign n hn =>
    -- of these only the kind and the location are looked at
    cases n with
    | content | comment | mustache | block => cases hn
    | _ => rfl

theorem root_uncommented {t : Node} (h : t.NoBareComments) : root s t.uncommented = root s t := by
  cases t with
  | program p =>
    obtain ⟨ns, names, loc⟩ := p
    have hns : nodes s 1 (Node.uncommentedAll ns) = nodes s 1 ns :=
      nodes_uncommented fun n hn => node_uncommented fun r hr => h r (Node.reachedBy_of_mem hn hr)
    rw [Node.uncommented, root, root, hns]
  | _ => rfl

end Compiling

/-- A template and the template without its comments compile to the same result, or fail with the
same error, after the same questions to the resolver. No name is asked for twice, so that it makes no
difference whether the resolver remembers what it was asked. -/
theorem compile_uncommented (t : Node) (o : Options) (resolve : Resolver) (h : t.NoBareComments) :
    compile t.uncommented o resolve = compile t o resolve := by
  unfold compile
  rw [Compiling.root_uncommented h]

namespace Annotated

/-- The template `{{! rows }}{{#list}}{{! row }}{{title}}{{#if last}}{{! none }}{{else}}, {{/if}}{{/list}}`. -/
def template : Node :=
  .root [.remark " rows ", .block ⟨.new (.new 0 ["list"]), some (.new [.remark " row ",
    .mustache ⟨.new (.new 0 ["title"]), true, none⟩,
    .block ⟨⟨.path (.new 0 ["if"]), [.path (.new 0 ["last"])], none⟩,
      some (.new [.remark " none "]), some (.new [.text ", "]), none⟩]), none, none⟩]

/-- The same template without its comments. -/
def plain : Node :=
  .root [.block ⟨.new (.new 0 ["list"]), some (.new [.mustache ⟨.new (.new 0 ["title"]), true, none⟩,
    .block ⟨⟨.path (.new 0 ["if"]), [.path (.new 0 ["last"])], none⟩,
      some (.new []), some (.new [.text ", "]), none⟩]), none, none⟩]

/-- A block whose body is a comment and nothing else. -/
def bare : Node :=
  .root [.block ⟨.new (.new 0 ["list"]), some (.new [.remark ""]), none, none⟩]

end Annotated

/-- Comments in the root, beside other statements of a helper body, and alone in a branch. -/
theorem compile_annotated : Annotated.template.NoBareComments ∧
    compile Annotated.template {} .none = compile Annotated.plain {} .none ∧
    ∃ c, (compile Annotated.plain {} .none).result = .ok c := by
  have hbeside : Annotated.template.NoBareComments := by decide
  refine ⟨hbeside, ?_, _, rfl⟩
  exact (compile_uncommented Annotated.template {} .none hbeside).symm

-- with the comment the helper is called with a function, without it there is none
example : ((compile Annotated.bare {} .none).result.toOption.map (·.program.sites)) ≠
    (compile Annotated.bare.uncommented {} .none).result.toOption.map (·.program.sites) := by decide

end Stencil
