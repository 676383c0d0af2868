import Stencil.Proofs.Compile.Correctness
import Stencil.Proofs.Compile.Mentions
import Stencil.Proofs.Value.Html

/-!
# Markup of rendered texts

Seen by its markup alone, what a template of text, escaped values and conditionals renders to is the
text of the branches that the data selects (`marks_render`): escaped values contribute nothing, so
data has no other way to put markup into an output than to choose among the texts of the template.
-/

namespace Stencil

set_option autoImplicit false

open Template (Node Call Path)
open Compiling (contextName isConditional)
open Eval (Gives gives_pure gives_throw)

namespace Template

mutual
/-- Text, comments, escaped values, and conditionals between such statements. -/
def Node.isPlain : Node → Bool
  | .content .. => true
  | .comment .. => true
  | .mustache m => m.escaped && m.call.named.isEmpty
  | .block ⟨call, main, inverse, _⟩ =>
    call.path.plainName?.any isConditional && (Node.arePlainIn main && Node.arePlainIn inverse)
  | _ => false
def Node.arePlain : List Node → Bool
  | [] => true
  | n :: ns => n.isPlain && Node.arePlain ns
def Node.arePlainIn : Option (Program Node) → Bool
  | none => true
  | some ⟨ns, _, _⟩ => Node.arePlain ns
end

variable {η : Type}

/-- The value that data has for a literal or a path. -/
def Expr.over (data : Value η) : Expr → Value η
  | .path p => p.parts.foldl Value.get data
  | .str s _ => .string s
  | .num n _ => .number n.toFloat
  | .bool b _ => .bool b
  | .null _ => .null
  | _ => .undefined

mutual
/-- The text of a statement, in the branches that data selects. -/
def Node.chosen (data : Value η) : Node → String
  | .content text _ _ => text
  | .block ⟨call, main, inverse, _⟩ =>
    if (call.params.head?.any fun test => (test.over data).isTruthy) = (call.path.plainName? == some "if")
    then Node.chosenIn data main else Node.chosenIn data inverse
  | _ => ""
def Node.chosenBy (data : Value η) : List Node → String
  | [] => ""
  | n :: ns => n.chosen data ++ Node.chosenBy data ns
def Node.chosenIn (data : Value η) : Option (Program Node) → String
  | none => ""
  | some ⟨ns, _, _⟩ => Node.chosenBy data ns
end

theorem Node.arePlain_iff (ns : List Node) :
    Node.arePlain ns = true ↔ ∀ n ∈ ns, n.isPlain = true := by
  induction ns with
  | nil => simp [Node.arePlain]
  | cons n ns ih => simp [Node.arePlain, ih]

theorem Node.isPlain_of_mem_body {b : Option (Program Node)} (h : Node.arePlainIn b = true)
    {p : Program Node} (hp : p ∈ b) {n : Node} (hn : n ∈ p.body) : n.isPlain = true := by
  obtain rfl := Option.mem_def.mp hp
  exact (Node.arePlain_iff p.body).mp h n hn

theorem Node.called_of_isPlain (n : Node) (h : n.isPlain = true) : n.called = [] := by
  induction n using Node.bodyInduction with
  | content | comment => rfl
  | mustache m =>
    rw [Node.isPlain, Bool.and_eq_true] at h
    rw [Node.called, if_pos h.2]
  | block call main inverse loc ihm ihi =>
    rw [Node.isPlain, Bool.and_eq_true, Bool.and_eq_true] at h
    obtain ⟨hcond, hmain, hinverse⟩ := h
    have hbody : ∀ b : Option (Program Node), Node.arePlainIn b = true →
        (∀ p ∈ b, ∀ n ∈ p.body, n.isPlain = true → n.called = []) → Node.calledIn b = [] := by
      intro b hb ih
      rw [Node.calledIn_eq_flatMap, List.flatMap_eq_nil_iff]
      intro n hn
      obtain ⟨p, hp, hn⟩ := exists_of_mem_statementsOf hn
      exact ih p hp n hn (Node.isPlain_of_mem_body hb hp hn)
    have hhelper : call.helper? = none := by
      obtain ⟨name, hname, hname'⟩ := (Option.any_eq_true _ _).mp hcond
      exact Call.helper?_of_conditional hname hname'
    rw [Node.called, hhelper, hbody main hmain ihm, hbody inverse hinverse ihi]
    rfl
  | foreign n hn =>
    cases n with
    | content | comment | mustache | block => cases hn
    | _ => cases h

end Template

/-! ## Evaluating plain statements -/

/-- Outputs are texts, with the markup of the given text. -/
def Marked {η : Type} (text : String) (vs : List (Value η)) : Prop :=
  ∃ ss : List String, vs = ss.map .string ∧ Html.marks (String.join ss) = Html.marks text

namespace Marked

variable {η : Type} {text text' : String} {vs vs' : List (Value η)}

theorem of_marks_eq {s : String} (h : Html.marks s = Html.marks text) :
    Marked text [(.string s : Value η)] := by
  refine ⟨[s], rfl, ?_⟩
  rw [String.join_cons, String.join_nil, String.append_empty, h]

theorem append (h : Marked text vs) (h' : Marked text' vs') :
    Marked (text ++ text') (vs ++ vs') := by
  obtain ⟨ss, rfl, hss⟩ := h
  obtain ⟨ss', rfl, hss'⟩ := h'
  refine ⟨ss ++ ss', List.map_append.symm, ?_⟩
  rw [String.join_append, Html.marks_append, Html.marks_append, hss, hss']

theorem foldl_add_strings (s : String) (ss : List String) :
    (ss.map .string).foldl Value.add (.string s : Value η) = .string (s ++ String.join ss) := by
  induction ss generalizing s with
  | nil => rw [List.map_nil, List.foldl_nil, String.join_nil, String.append_empty]
  | cons s' ss ih =>
    have hadd : (.string s : Value η).add (.string s') = .string (s ++ s') := rfl
    rw [List.map_cons, List.foldl_cons, hadd, ih, String.join_cons, String.append_assoc]

theorem join (h : Marked text vs) : Marked text [Interpretation.join vs] := by
  obtain ⟨ss, rfl, hss⟩ := h
  cases ss with
  | nil => exact of_marks_eq hss
  | cons s ss =>
    rw [List.map_cons, Interpretation.join, foldl_add_strings]
    rw [String.join_cons] at hss
    exact of_marks_eq hss

theorem marks_text {v : Value η} (h : Marked text [v]) : Html.marks v.text = Html.marks text := by
  obtain ⟨ss, heq, hss⟩ := h
  obtain ⟨s, rfl, rfl⟩ := List.map_eq_singleton_iff.mp heq.symm
  rw [← hss, String.join_cons, String.join_nil, String.append_empty, Value.text]

end Marked

/-- Variables and functions as plain statements need them. -/
structure Escaping {η : Type} (ev : Evaluator η) (call : Value η → List (Value η) → Eval η (Value η))
    (o : Options) (data : Value η) (vars : Variables η) : Prop where
  context : ev.lookup vars (contextName 1) = pure data
  undefined : ev.lookup vars "undefined" = pure .undefined
  escape : ev.lookup vars o.escapeFn = pure (.builtin .escape)
  call : ∀ v args, Gives (call (.builtin .escape) (v :: args)) (· = .string v.escaped)

section Plain
variable {η : Type} {ev : Evaluator η} {call : Value η → List (Value η) → Eval η (Value η)}
  {o : Options} {data : Value η} {vars : Variables η}

theorem gives_member (v : Value η) (key : String) :
    Gives (Evaluator.member v key) (· = v.get key) := by
  unfold Evaluator.member
  split
  · exact gives_throw _
  · exact gives_pure rfl

theorem gives_chain {e : Script.Expr} {v : Value η} (h : Gives (ev.evaluate call vars e) (· = v))
    (parts : List String) :
    Gives (ev.evaluate call vars (parts.foldl .get e)) (· = parts.foldl Value.get v) := by
  induction parts generalizing e v with
  | nil => exact h
  | cons key parts ih =>
    apply ih
    rw [Evaluator.evaluate_get]
    refine h.bind fun w hw => ?_
    rw [hw]
    exact gives_member v key

theorem gives_nodes {ns : List Node}
    (h : ∀ n ∈ ns, Gives ((Translation.node o 1 n).mapM (ev.evaluate call vars))
      fun v => Marked (n.chosen data) v.toList) :
    Gives (ev.evaluateAll call vars (Translation.nodes o 1 ns)) (Marked (Node.chosenBy data ns)) := by
  induction ns with
  | nil =>
    rw [Translation.nodes, Evaluator.evaluateAll]
    exact gives_pure ⟨[], rfl, rfl⟩
  | cons n ns ih =>
    have htail := ih fun m hm => h m (List.mem_cons_of_mem _ hm)
    rw [Translation.nodes, Node.chosenBy, Evaluator.evaluateAll_append,
      Evaluator.evaluateAll_toList, bind_map_left]
    exact (h n List.mem_cons_self).bind fun v hv => htail.bind fun vs hvs =>
      gives_pure (hv.append hvs)

theorem gives_branch {b : Option (Template.Program Node)}
    (h : ∀ p ∈ b, ∀ n ∈ p.body, Gives ((Translation.node o 1 n).mapM (ev.evaluate call vars))
      fun v => Marked (n.chosen data) v.toList) :
    Gives (ev.evaluate call vars (Translation.branch o 1 b))
      fun v => Marked (Node.chosenIn data b) [v] := by
  cases b with
  | none =>
    rw [Translation.branch, Evaluator.evaluate_text]
    exact gives_pure (.of_marks_eq rfl)
  | some p =>
    obtain ⟨ns, names, loc⟩ := p
    rw [Translation.branch, Evaluator.evaluate_join]
    exact (gives_nodes (h _ rfl)).map fun vs hvs => hvs.join

section
variable (he : Escaping ev call o data vars)
include he

theorem gives_path {p : Path} (hp : Reached 1 p) :
    Gives (ev.evaluate call vars (Translation.path 1 p)) (· = p.parts.foldl Value.get data) := by
  have hdepth : 1 - p.depth.toNat = 1 := by
    have hlt := hp.inside
    omega
  rw [Translation.path, hdepth]
  apply gives_chain
  rw [Evaluator.evaluate, he.context]
  exact gives_pure rfl

theorem gives_value {e : Template.Expr} (h : SupportedValue 1 e) :
    Gives (ev.evaluate call vars (Translation.value 1 e)) (· = e.over data) := by
  cases e with
  | path p => exact gives_path he h
  | sub => exact h.elim
  | undefined =>
    rw [Translation.value, Evaluator.evaluate, he.undefined]
    exact gives_pure rfl
  | _ =>
    rw [Translation.value, Script.Expr.ofScalar, Evaluator.evaluate]
    exact gives_pure rfl

theorem gives_conditional (name : String) {test : Template.Expr} (htest : SupportedValue 1 test)
    {a b : Script.Expr} {s s' : String}
    (ha : Gives (ev.evaluate call vars a) fun v => Marked s [v])
    (hb : Gives (ev.evaluate call vars b) fun v => Marked s' [v]) :
    Gives (ev.evaluate call vars
        (if name == "if" then .cond (Translation.value 1 test) a b
          else .cond (Translation.value 1 test) b a))
      fun v => Marked (if (test.over data).isTruthy = (name == "if") then s else s') [v] := by
  by_cases hif : (name == "if") = true
  · rw [if_pos hif, hif, Evaluator.evaluate]
    refine (gives_value he htest).bind fun t ht => ?_
    rw [ht]
    cases (test.over data).isTruthy
    · exact hb
    · exact ha
  · rw [if_neg hif, Evaluator.evaluate]
    rw [Bool.not_eq_true] at hif
    rw [hif]
    refine (gives_value he htest).bind fun t ht => ?_
    rw [ht]
    cases (test.over data).isTruthy
    · exact ha
    · exact hb

/-- What a plain statement writes has the markup of its chosen text. -/
theorem gives_node {scope : Nat} {n : Node} (hn : Supported o scope n) (hscope : scope = 1)
    (hplain : n.isPlain = true) :
    Gives ((Translation.node o scope n).mapM (ev.evaluate call vars))
      fun v => Marked (n.chosen data) v.toList := by
  -- no plain statement opens a scope, so the induction stays in that of the render function
  induction hn with
  | content =>
    rw [Translation.node, Option.mapM_some, Evaluator.evaluate_text, map_pure]
    exact gives_pure (.of_marks_eq rfl)
  | comment => exact gives_pure ⟨[], rfl, rfl⟩
  | @interpolation scope m p hnamed hpath hp _ =>
    subst hscope
    rw [Node.isPlain, Bool.and_eq_true] at hplain
    have hnode : Translation.node o 1 (.mustache m) =
        some (.callNamed o.escapeFn [Translation.path 1 p]) := by
      simp [Translation.node, Translation.mustache, hnamed, hpath, hplain.1]
    rw [hnode, Option.mapM_some, evaluate_callNamed, he.escape, pure_bind]
    refine Gives.map ((gives_path he hp).bind fun v _ => ?_) fun w hw => hw
    refine (he.call v _).mono fun w hw => ?_
    rw [hw]
    exact .of_marks_eq (Html.marks_escaped v)
  | call hnamed _ _ _ _ _ =>
    rw [Node.isPlain, Bool.and_eq_true, List.isEmpty_iff] at hplain
    exact absurd hplain.2 hnamed
  | @conditional scope c main inverse loc name test hname hcond hparams htest _ _ _ _ _ ihm ihi =>
    subst hscope
    rw [Node.isPlain, Bool.and_eq_true, Bool.and_eq_true] at hplain
    obtain ⟨-, hmain, hinverse⟩ := hplain
    have ha := gives_branch fun p hp n hn => ihm p hp n hn rfl
      (Node.isPlain_of_mem_body hmain hp hn)
    have hb := gives_branch fun p hp n hn => ihi p hp n hn rfl
      (Node.isPlain_of_mem_body hinverse hp hn)
    let a := Translation.branch o 1 main
    let b := Translation.branch o 1 inverse
    have hnode : Translation.node o 1 (.block ⟨c, main, inverse, loc⟩) = some
        (if name == "if" then .cond (Translation.value 1 test) a b
          else .cond (Translation.value 1 test) b a) :=
      Translation.node_conditional hname hcond hparams
    have hchosen : (Node.block ⟨c, main, inverse, loc⟩).chosen data =
        if (test.over data).isTruthy = (name == "if") then Node.chosenIn data main
          else Node.chosenIn data inverse := by
      simp [Node.chosen, hname, hparams]
    rw [hnode, hchosen, Option.mapM_some]
    exact (gives_conditional he name htest ha hb).map fun v hv => hv
  | block hname hcond _ _ _ _ _ _ _ _ _ =>
    rw [Node.isPlain, hname, Option.any_some, hcond] at hplain
    cases hplain

end

theorem gives_render {fuel : Nat} {id : Option String} {ns : List Node}
    (hsupported : ∀ n ∈ ns, Supported o 1 n) (hplain : ∀ n ∈ ns, n.isPlain = true)
    (he : ∀ fuel, Escaping ev (ev.callWithin fuel) o data (bindParams [contextName 1] [data] vars)) :
    Gives (ev.callWithin fuel (.closure (.returning id (contextName 1)
        (Compiling.join (Translation.nodes o 1 ns))) vars) [data])
      fun v => Marked (Node.chosenBy data ns) [v] := by
  cases fuel with
  | zero => exact gives_throw _
  | succ fuel =>
    have hnodes := gives_nodes fun n hn =>
      gives_node (he fuel) (hsupported n hn) rfl (hplain n hn)
    rw [Evaluator.callWithin, Script.Function.returning, Evaluator.runBody, Evaluator.evaluate_join]
    exact hnodes.map fun vs hvs => hvs.join

end Plain

/-- An evaluator without helpers escapes in the only way that it knows. -/
theorem escaping_new {η : Type} (behaviour : η → List (Value η) → Routine η) (fuel : Nat)
    (data : Value η) : Escaping (.new behaviour) ((Evaluator.new behaviour).callWithin fuel) {} data
      (bindParams [contextName 1] [data] []) :=
  { context := rfl
    undefined := rfl
    escape := rfl
    call := by
      intro v args
      cases fuel with
      | zero => exact gives_throw _
      | succ fuel => exact gives_pure rfl }

theorem gives_of_outcome {η : Type} {ev : Evaluator η} {p : Script.Program} {data : Value η}
    {P : String → Prop} (h : ∀ fuel, Gives (ev.renderWithin fuel p data) P) {out : String}
    (hr : (ev.render p data).outcome = .ok out) : P out := by
  rcases hrun : (ev.renderWithin (Evaluator.fuelFor p) p data).run.run [] with ⟨r, calls⟩
  rw [Evaluator.render, Evaluator.trace, hrun] at hr
  cases hr
  exact h _ [] out calls hrun

/-- What plain statements render to has the markup of their chosen text. -/
theorem marks_render {η : Type} (behaviour : η → List (Value η) → Routine η) (t : Node)
    (resolve : Resolver) (c : Compilation) (data : Value η) (out : String)
    (hc : (compile t {} resolve).result = .ok c) (hplain : Node.arePlain t.children = true)
    (hr : ((Evaluator.new behaviour).render c.program data).outcome = .ok out) :
    Html.marks out = Html.marks (Node.chosenBy data t.children) := by
  obtain ⟨p, rfl, h⟩ := compile_generated hc
  rw [Prune.kept_of_strict rfl] at h
  have hplain : ∀ n ∈ p.body, n.isPlain = true := (Node.arePlain_iff p.body).mp hplain
  have himports : c.helpers.imports = [] := by
    have hnames : c.helpers.names = [] := by
      rw [List.eq_nil_iff_forall_not_mem]
      intro name hname
      obtain ⟨n, hn, hcalled⟩ := (h.mem_names_iff name).mp hname
      rw [Node.called_of_isPlain n (hplain n hn)] at hcalled
      cases hcalled
    rw [HelperTable.imports, List.map_eq_nil_iff.mp hnames]
    rfl
  have hbind : (Evaluator.new behaviour).bindImports c.program.body [] = pure [] := by
    rw [h.program, Compilation.module, himports]
    rfl
  refine gives_of_outcome (P := fun s => Html.marks s = Html.marks (Node.chosenBy data p.body))
    (fun fuel => ?_) hr
  rw [Evaluator.renderWithin, hbind, pure_bind, h.program, render?_module]
  exact (gives_render h.supported hplain fun fuel => escaping_new behaviour fuel data).bind
    fun v hv => gives_pure hv.marks_text

/-- `<a title="{{t}}">{{#unless n}}{{! none }}<i>{{t}}</i>{{else}}{{#if t}}{{n}}>{{/if}}{{/unless}}</a>` -/
def titledLink : Node :=
  let value (name : String) : Node := .mustache ⟨.new (.new 0 [name]), true, none⟩
  let test (kind name : String) : Call := ⟨.path (.new 0 [kind]), [.path (.new 0 [name])], none⟩
  .root [.text "<a title=\"", value "t", .text "\">",
    .block ⟨test "unless" "n", some (.new [.remark "none", .text "<i>", value "t", .text "</i>"]),
      some (.new [.block ⟨test "if" "t", some (.new [value "n", .text ">"]), none, none⟩]), none⟩,
    .text "</a>"]

/-- Quotes and tags in the data are no markup of the output. -/
theorem marks_titledLink : ∃ c, (compile titledLink {} Resolver.none).result = .ok c ∧
    ((Evaluator.new fun (h : Empty) _ => nomatch h).render c.program
        (.ofJson (.obj [("t", .str "\"><b x='=>"), ("n", .arr [.str "<br>"])]))).outcome =
      .ok "<a title=\"&quot;&gt;&lt;b x&#x3D;&#x27;&#x3D;&gt;\">&lt;br&gt;></a>" ∧
    Html.marks "<a title=\"&quot;&gt;&lt;b x&#x3D;&#x27;&#x3D;&gt;\">&lt;br&gt;></a>" =
      Html.marks "<a title=\"\">></a>" := by
  refine ⟨_, rfl, rfl, ?_⟩
  have h := marks_render (fun (h : Empty) _ => nomatch h) titledLink Resolver.none _
    (.ofJson (.obj [("t", .str "\"><b x='=>"), ("n", .arr [.str "<br>"])])) _ rfl rfl rfl
  exact h.trans (by decide +kernel)

end Stencil
