import Stencil.Proofs.Compile.Prune

/-!
# What lenient options report

`Warnings.node o n` lists the warnings for what lenient options drop of a statement, as a plain
function of the tree. They depend neither on the scope nor on what was gathered before. The
diagnostics of a lenient compilation are the warnings of its template, in the order of the text
(`compile_diagnostics`).
-/

namespace Stencil

set_option autoImplicit false

open Template (Node Location Call Mustache Hash)

/-- The warning for a construct that is dropped. -/
def Construct.warning (code : String) (c : Construct) (loc : Option Location) : Diagnostic :=
  ⟨.warning, code, "dropped unsupported construct: " ++ c.text, loc⟩

namespace Warnings

open Compiling (isConditional nameFault)
open Diagnostic (unsupportedConstruct ignoredParams droppedHashPair)

def params (callee : String) (ps : List Template.Expr) (loc : Option Location) : List Diagnostic :=
  match ps with
  | [] => []
  | p :: _ => [(Construct.positionalParams ps.length callee).warning ignoredParams (p.loc.or loc)]

def hash (callee : String) : Option (Hash Template.Expr) → List Diagnostic
  | none => []
  | some h =>
    if h.pairs.isEmpty then []
    else [(Construct.hashArguments (h.pairs.map (·.key)) callee).warning ignoredParams h.loc]

def blockParams (names : List String) (loc : Option Location) : List Diagnostic :=
  if names.isEmpty then [] else [(Construct.blockParams names).warning ignoredParams loc]

/-- A parameter or named argument; the code says which. -/
def value (code : String) : Template.Expr → List Diagnostic
  | .path p => if p.data then [(Construct.dataVariable p.written).warning code p.loc] else []
  | .sub _ _ _ loc => [Construct.subExpression.warning code loc]
  | _ => []

def arguments (name : String) (c : Call) (loc : Option Location) : List Diagnostic :=
  params name c.params loc ++ c.named.flatMap fun p => value droppedHashPair p.value

/-- An expression that stands for a helper's name and is not one. -/
def callee (loc : Option Location) : Template.Expr → List Diagnostic
  | .path p => [(Construct.callThroughPath p.written).warning unsupportedConstruct (p.loc.or loc)]
  | e => [(Construct.helperNamedBy e.kind).warning unsupportedConstruct (e.loc.or loc)]

def mustache (o : Options) (m : Mustache) : List Diagnostic :=
  if m.call.named.isEmpty then
    match m.call.path with
    | .path p => params p.written m.call.params m.loc ++ value unsupportedConstruct (.path p)
    | e => [(Construct.mustacheOf e.kind).warning unsupportedConstruct m.loc]
  else
    match m.call.path.plainName? with
    | none => callee m.loc m.call.path
    | some name =>
      if isConditional name then []
      else if Callable o name then arguments name m.call m.loc
      else [(nameFault name).warning unsupportedConstruct m.loc]

/-- With a test that is dropped the branches are not looked at. -/
def conditional (name : String) (c : Call) (loc : Option Location) (branches : List Diagnostic) :
    List Diagnostic :=
  match c.params with
  | [] => []
  | test :: extra => params name extra loc ++ (hash name c.hash ++
      (value unsupportedConstruct test ++ if Prune.isDropped test then [] else branches))

mutual
def node (o : Options) : Node → List Diagnostic
  | .content .. => []
  | .comment .. => []
  | .mustache m => mustache o m
  | .block ⟨c, main, inverse, loc⟩ =>
    match c.path.plainName? with
    | none => callee loc c.path
    | some name =>
      if isConditional name then conditional name c loc (branch o main ++ branch o inverse)
      else if Callable o name then arguments name c loc ++ (body o main ++ body o inverse)
      else [(nameFault name).warning unsupportedConstruct loc]
  | .partialCall _ loc =>
    [(Construct.partialTemplate "PartialStatement").warning unsupportedConstruct loc]
  | .partialBlock _ _ loc =>
    [(Construct.partialTemplate "PartialBlockStatement").warning unsupportedConstruct loc]
  | .decorator m => [(Construct.decorator "Decorator").warning unsupportedConstruct m.loc]
  | .decoratorBlock b => [(Construct.decorator "DecoratorBlock").warning unsupportedConstruct b.loc]
  | .program p => [Construct.nestedProgram.warning unsupportedConstruct p.loc]
def nodes (o : Options) : List Node → List Diagnostic
  | [] => []
  | n :: ns => node o n ++ nodes o ns
def branch (o : Options) : Option (Template.Program Node) → List Diagnostic
  | none => []
  | some ⟨ns, names, loc⟩ => blockParams names loc ++ nodes o ns
/-- A body of a helper block. The names of an empty one are not looked at. -/
def body (o : Options) : Option (Template.Program Node) → List Diagnostic
  | none => []
  | some ⟨[], _, _⟩ => []
  | some ⟨n :: ns, names, loc⟩ => blockParams names loc ++ nodes o (n :: ns)
end

/-- A whole template. -/
def root (o : Options) (p : Template.Program Node) : List Diagnostic :=
  blockParams p.blockParams p.loc ++ nodes o p.body

end Warnings

namespace Compiling

variable {α β : Type}

/-- Adds some diagnostics to the report. -/
def report (ws : List Diagnostic) : Compiling Unit :=
  modify fun g => { g with report := ⟨g.report.entries ++ ws⟩ }

theorem after_report (ws : List Diagnostic) (g : Gathered) :
    after (report ws) g = (.ok (), { g with report := ⟨g.report.entries ++ ws⟩ }) := rfl

theorem neverUnsupported_report (ws : List Diagnostic) : NeverUnsupported (report ws) := by
  intro g e g' h
  cases h

theorem report_nil : report [] = pure () := by
  apply ext
  intro g
  rw [after_report, List.append_nil, after_pure]

/-- Where the step succeeds, it adds these diagnostics to the report. -/
def Reports (x : Compiling α) (ws : List Diagnostic) : Prop :=
  ∀ g a g', after x g = (.ok a, g') → g'.report.entries = g.report.entries ++ ws

namespace Reports

theorem pure (a : α) : Reports (Pure.pure a) [] := by
  intro g b g' h
  cases h
  rw [List.append_nil]

theorem throw (e : CompileError) (ws : List Diagnostic) : Reports (throw e : Compiling α) ws := by
  intro g a g' h
  cases h

theorem report (ws : List Diagnostic) : Reports (Compiling.report ws) ws := by
  intro g a g' h
  cases h
  rfl

theorem bind {x : Compiling α} {f : α → Compiling β} {ws ws' : List Diagnostic} (hx : Reports x ws)
    (hf : ∀ a, Reports (f a) ws') : Reports (x >>= f) (ws ++ ws') := by
  intro g b g' h
  rcases hxg : after x g with ⟨e | a, g₁⟩
  · rw [after_bind_error hxg] at h
    cases h
  · rw [after_bind_ok hxg] at h
    rw [hf a g₁ b g' h, hx g a g₁ hxg, List.append_assoc]

theorem map (f : α → β) {x : Compiling α} {ws : List Diagnostic} (hx : Reports x ws) :
    Reports (f <$> x) ws := by
  have h := hx.bind fun a => pure (f a)
  rwa [List.append_nil, ← map_eq_pure_bind] at h

theorem record (s : Settings) (name : String) : Reports (Compiling.record s name) [] := by
  intro g a g' h
  rw [after_record] at h
  split at h
  · cases h
    rw [List.append_nil]
    rfl
  · cases h

end Reports

section Lenient
variable {o : Options} {resolve : Resolver} {scope : Nat}

/-- What is reported before an unsupported construct stays when the construct is dropped. -/
theorem tolerate_report_unsupported (code : String) (ws : List Diagnostic) (c : Construct)
    (loc : Option Location) :
    tolerate (leniently o resolve) code (report ws >>= fun _ => unsupported c loc) =
      (fun _ => (none : Option α)) <$> report (ws ++ [c.warning code loc]) := by
  apply ext
  intro g
  have h : after (report ws >>= fun _ => (unsupported c loc : Compiling α)) g =
      (.error (.unsupported c loc), { g with report := ⟨g.report.entries ++ ws⟩ }) := by
    rw [after_bind_ok (after_report ws g), after_unsupported]
  rw [after_tolerate_unsupported rfl h, after_map_ok (after_report _ g), ← List.append_assoc]
  rfl

theorem tolerate_unsupported (code : String) (c : Construct) (loc : Option Location) :
    tolerate (leniently o resolve) code (unsupported c loc) =
      (fun _ => (none : Option α)) <$> report [c.warning code loc] := by
  have h : tolerate (leniently o resolve) code
      (report [] >>= fun _ => (unsupported c loc : Compiling α)) = _ :=
    tolerate_report_unsupported code [] c loc
  rwa [report_nil, pure_bind, List.nil_append] at h

theorem checkParams_lenient (callee : String) (params : List Template.Expr) (loc : Option Location) :
    checkParams (leniently o resolve) callee params loc =
      report (Warnings.params callee params loc) := by
  cases params with
  | nil => exact report_nil.symm
  | cons p ps => exact ignore_lenient rfl _ _

theorem checkHash_lenient (callee : String) (hash : Option (Hash Template.Expr)) :
    checkHash (leniently o resolve) callee hash = report (Warnings.hash callee hash) := by
  cases hash with
  | none => exact report_nil.symm
  | some h =>
    rw [checkHash, Warnings.hash]
    split
    · exact report_nil.symm
    · exact ignore_lenient rfl _ _

theorem checkBlockParams_lenient (names : List String) (loc : Option Location) :
    checkBlockParams (leniently o resolve) names loc = report (Warnings.blockParams names loc) := by
  rw [checkBlockParams, Warnings.blockParams]
  split
  · exact report_nil.symm
  · exact ignore_lenient rfl _ _

theorem reports_path (p : Template.Path) : Reports (path scope p) [] := by
  unfold path
  split
  · exact .throw _ _
  · split
    · exact .pure _
    · exact .throw _ _

theorem reports_value (e : Template.Expr) : Reports (value scope e) [] := by
  cases e with
  | path p => exact reports_path p
  | sub => exact .throw _ _
  | _ => exact .pure _

/-- A dropped value is reported and gives nothing. -/
theorem tolerate_value_of_dropped (code : String) {e : Template.Expr}
    (h : Prune.isDropped e = true) : tolerate (leniently o resolve) code (value scope e) =
      (fun _ => none) <$> report (Warnings.value code e) := by
  cases e with
  | path p =>
    have hd : p.data = true := h
    simp only [value, path, Warnings.value, hd, if_true]
    exact tolerate_unsupported _ _ _
  | sub => exact tolerate_unsupported _ _ _
  | _ => cases h

theorem warnings_value_of_not_dropped (code : String) {e : Template.Expr}
    (h : Prune.isDropped e = false) : Warnings.value code e = [] := by
  cases e with
  | path p =>
    have hd : p.data = false := h
    rw [Warnings.value, hd, if_neg Bool.false_ne_true]
  | sub => cases h
  | _ => rfl

theorem reports_tolerate {x : Compiling α} {ws : List Diagnostic} (code : String) (hx : Reports x ws)
    (hn : NeverUnsupported x) : Reports (tolerate (leniently o resolve) code x) ws := by
  rw [tolerate_of_neverUnsupported hn]
  exact hx.map some

theorem reports_tolerate_value (code : String) (e : Template.Expr) :
    Reports (tolerate (leniently o resolve) code (value scope e)) (Warnings.value code e) := by
  by_cases hd : Prune.isDropped e = true
  · rw [tolerate_value_of_dropped code hd]
    exact (Reports.report _).map _
  · rw [Bool.not_eq_true] at hd
    rw [warnings_value_of_not_dropped code hd]
    exact reports_tolerate code (reports_value e) (neverUnsupported_value hd)

theorem reports_properties (ps : List (Template.HashPair Template.Expr)) :
    Reports (properties (leniently o resolve) scope ps)
      (ps.flatMap fun p => Warnings.value Diagnostic.droppedHashPair p.value) := by
  induction ps with
  | nil => exact .pure []
  | cons p ps ih =>
    rw [properties, List.flatMap_cons]
    refine (reports_tolerate_value _ _).bind fun v => ?_
    rw [bind_pure_comp]
    exact ih.map _

theorem reports_arguments {name : String} (hc : Callable o name) (c : Call) (loc : Option Location) :
    Reports (arguments (leniently o resolve) scope name c loc) (Warnings.arguments name c loc) := by
  rw [arguments_of_callable (callable_leniently.mpr hc), checkParams_lenient, Warnings.arguments]
  exact (Reports.record _ name).bind fun _ => (Reports.report _).bind fun _ => reports_properties _

theorem reports_output {n : Node} {ws : List Diagnostic}
    (h : Reports (node (leniently o resolve) scope n) ws)
    (hn : NeverUnsupported (node (leniently o resolve) scope n)) :
    Reports (output (leniently o resolve) scope n) ws :=
  (reports_tolerate _ h hn).map Option.join

/-- A statement that is dropped is reported behind what was reported of it before. -/
theorem reports_output_of_unsupported {n : Node} {ws : List Diagnostic} {c : Construct}
    {loc : Option Location}
    (h : node (leniently o resolve) scope n = report ws >>= fun _ => unsupported c loc) :
    Reports (output (leniently o resolve) scope n)
      (ws ++ [c.warning Diagnostic.unsupportedConstruct loc]) := by
  rw [output, h, tolerate_report_unsupported]
  exact ((Reports.report _).map _).map Option.join

theorem reports_output_of_refused {n : Node} {c : Construct} {loc : Option Location}
    (h : node (leniently o resolve) scope n = unsupported c loc) :
    Reports (output (leniently o resolve) scope n)
      [c.warning Diagnostic.unsupportedConstruct loc] := by
  have hnil : node (leniently o resolve) scope n = report [] >>= fun _ => unsupported c loc := by
    rw [h, report_nil, pure_bind]
  exact reports_output_of_unsupported hnil

theorem helperName_of_not_plainName {e : Template.Expr} (h : e.plainName? = none)
    (loc : Option Location) : ∃ c l, helperName e loc = unsupported c l ∧
      Warnings.callee loc e = [c.warning Diagnostic.unsupportedConstruct l] := by
  unfold helperName
  split
  · cases h
  · exact ⟨_, _, rfl, rfl⟩
  · rename_i hpath
    refine ⟨_, _, rfl, ?_⟩
    unfold Warnings.callee
    split
    · exact absurd rfl (hpath _)
    · rfl

theorem reports_output_mustache (m : Mustache) :
    Reports (output (leniently o resolve) scope (.mustache m)) (Warnings.mustache o m) := by
  unfold Warnings.mustache
  by_cases hnamed : m.call.named = []
  · rw [if_pos (List.isEmpty_iff.mpr hnamed)]
    split
    · rename_i p hpath
      have hnode : node (leniently o resolve) scope (.mustache m) =
          some <$> (report (Warnings.params p.written m.call.params m.loc) >>= fun _ =>
            path scope p >>= fun e => pure (.callNamed (if m.escaped then o.escapeFn
              else o.stringifyFn) [e])) := by
        rw [node, mustache_of_named_eq_nil hnamed, interpolation_of_path hpath, checkParams_lenient]
        rfl
      by_cases hdata : p.data = true
      · rw [Warnings.value, hdata, if_pos rfl]
        apply reports_output_of_unsupported
        rw [hnode, path, hdata, if_pos rfl, map_bind]
        rfl
      · rw [Bool.not_eq_true] at hdata
        rw [Warnings.value, hdata, if_neg Bool.false_ne_true]
        apply reports_output
        · rw [hnode]
          exact ((Reports.report _).bind fun _ => (reports_path p).bind fun _ => .pure _).map _
        · rw [hnode]
          exact .map _ ((neverUnsupported_report _).bind fun _ =>
            (neverUnsupported_path hdata).bind fun _ => .pure _)
    · rename_i hpath
      apply reports_output_of_refused
      rw [node, mustache_of_named_eq_nil hnamed]
      unfold interpolation
      split
      · exact absurd ‹_› (hpath _)
      · rfl
  · rw [if_neg fun he => hnamed (List.isEmpty_iff.mp he)]
    have hnode := mustache_of_named_ne_nil hnamed (leniently o resolve) scope
    cases hname : m.call.path.plainName? with
    | none =>
      obtain ⟨c, l, hl, hw⟩ := helperName_of_not_plainName hname m.loc
      dsimp only
      rw [hw]
      apply reports_output_of_refused
      rw [node, hnode, mustacheCall, hl]
      rfl
    | some name =>
      dsimp only
      by_cases hcond : isConditional name = true
      · have hfail : node (leniently o resolve) scope (.mustache m) =
            throw (.invalidHelperCall name .notABlock m.loc) := by
          rw [node, hnode, mustacheCall, helperName_of_plainName? hname, pure_bind, if_pos hcond]
          rfl
        rw [if_pos hcond]
        apply reports_output
        · rw [hfail]
          exact .throw _ _
        · rw [hfail]
          exact .throw rfl
      · rw [if_neg hcond]
        rw [Bool.not_eq_true] at hcond
        rw [mustacheCall_of_helper hname hcond] at hnode
        by_cases hc : Callable o name
        · rw [if_pos hc]
          apply reports_output
          · rw [node, hnode]
            exact ((reports_arguments hc _ _).map _).map _
          · rw [node, hnode]
            exact .map _ (.map _ (neverUnsupported_arguments hc _ _))
        · rw [if_neg hc]
          apply reports_output_of_refused
          rw [node, hnode, arguments_of_not_callable (mt callable_leniently.mp hc)]
          rfl

theorem reports_nodes {ns : List Node}
    (ih : ∀ n ∈ ns, Reports (output (leniently o resolve) scope n) (Warnings.node o n)) :
    Reports (nodes (leniently o resolve) scope ns) (Warnings.nodes o ns) := by
  induction ns with
  | nil =>
    rw [nodes, Warnings.nodes]
    exact .pure []
  | cons n ns ihl =>
    have hn := ih n List.mem_cons_self
    have hns := ihl fun m hm => ih m (List.mem_cons_of_mem _ hm)
    rw [nodes_cons, Warnings.nodes]
    refine hn.bind fun e => ?_
    have h := hns.bind fun es => Reports.pure (e.toList ++ es)
    rwa [List.append_nil] at h

theorem reports_branch {b : Option (Template.Program Node)}
    (ih : ∀ p ∈ b, ∀ n ∈ p.body, Reports (output (leniently o resolve) scope n) (Warnings.node o n)) :
    Reports (branch (leniently o resolve) scope b) (Warnings.branch o b) := by
  cases b with
  | none =>
    rw [branch, Warnings.branch]
    exact .pure _
  | some p =>
    obtain ⟨ns, names, loc⟩ := p
    rw [branch, Warnings.branch, checkBlockParams_lenient, bind_pure_comp]
    exact (Reports.report _).bind fun _ => (reports_nodes (ih _ rfl)).map _

theorem reports_body (key : String) {b : Option (Template.Program Node)}
    (ih : ∀ p ∈ b, ∀ n ∈ p.body,
      Reports (output (leniently o resolve) (scope + 1) n) (Warnings.node o n)) :
    Reports (body (leniently o resolve) scope key b) (Warnings.body o b) := by
  cases b with
  | none =>
    rw [body, Warnings.body]
    exact .pure _
  | some p =>
    obtain ⟨ns, names, loc⟩ := p
    cases ns with
    | nil =>
      rw [body, Warnings.body]
      exact .pure _
    | cons n ns =>
      rw [body, Warnings.body, checkBlockParams_lenient, bind_pure_comp]
      exact (Reports.report _).bind fun _ => (reports_nodes (ih _ rfl)).map _

theorem reports_conditional {name : String} {c : Call} {loc : Option Location}
    {f : Script.Expr → Compiling (Option Script.Expr)} {ws : List Diagnostic}
    (hf : ∀ t, Reports (f t) ws) :
    Reports (do
      match ← test (leniently o resolve) scope name c loc with
      | none => return none
      | some t => f t) (Warnings.conditional name c loc ws) := by
  unfold test Warnings.conditional
  cases c.params with
  | nil => exact .throw _ _
  | cons test extra =>
    simp only [checkParams_lenient, checkHash_lenient, bind_assoc]
    refine (Reports.report _).bind fun _ => (Reports.report _).bind fun _ => ?_
    by_cases hd : Prune.isDropped test = true
    · rw [if_pos hd, List.append_nil, tolerate_value_of_dropped _ hd, bind_map_left, bind_pure_comp]
      exact (Reports.report _).map fun _ => none
    · rw [if_neg hd]
      rw [Bool.not_eq_true] at hd
      rw [warnings_value_of_not_dropped _ hd,
        tolerate_of_neverUnsupported (neverUnsupported_value hd), bind_map_left]
      exact (reports_value test).bind hf

section Block
variable {c : Call} {main inverse : Option (Template.Program Node)} {loc : Option Location}
  {name : String}

theorem reports_output_conditional (hname : c.path.plainName? = some name)
    (hcond : isConditional name = true)
    (ihm : ∀ p ∈ main, ∀ n ∈ p.body,
      Reports (output (leniently o resolve) scope n) (Warnings.node o n))
    (ihi : ∀ p ∈ inverse, ∀ n ∈ p.body,
      Reports (output (leniently o resolve) scope n) (Warnings.node o n)) :
    Reports (output (leniently o resolve) scope (.block ⟨c, main, inverse, loc⟩))
      (Warnings.conditional name c loc (Warnings.branch o main ++ Warnings.branch o inverse)) := by
  apply reports_output
  · rw [node, helperName_of_plainName? hname, pure_bind, if_pos hcond]
    refine reports_conditional fun t => (reports_branch ihm).bind fun a => ?_
    rw [bind_pure_comp]
    exact (reports_branch ihi).map _
  · rw [node, helperName_of_plainName? hname, pure_bind, if_pos hcond]
    refine (neverUnsupported_test name c loc).bind fun t => ?_
    cases t with
    | none => exact .pure none
    | some t =>
      exact (neverUnsupported_branch main).bind fun _ =>
        (neverUnsupported_branch inverse).bind fun _ => .pure _

theorem reports_output_block (hname : c.path.plainName? = some name)
    (hcond : ¬ isConditional name = true) (hc : Callable o name)
    (ihm : ∀ p ∈ main, ∀ n ∈ p.body,
      Reports (output (leniently o resolve) (scope + 1) n) (Warnings.node o n))
    (ihi : ∀ p ∈ inverse, ∀ n ∈ p.body,
      Reports (output (leniently o resolve) (scope + 1) n) (Warnings.node o n)) :
    Reports (output (leniently o resolve) scope (.block ⟨c, main, inverse, loc⟩))
      (Warnings.arguments name c loc ++ (Warnings.body o main ++ Warnings.body o inverse)) := by
  have hnode : node (leniently o resolve) scope (.block ⟨c, main, inverse, loc⟩) = (do
      let named ← arguments (leniently o resolve) scope name c loc
      let a ← body (leniently o resolve) scope "fn" main
      let b ← body (leniently o resolve) scope "inverse" inverse
      return some (helperCall name named (a ++ b))) := by
    rw [node, helperName_of_plainName? hname, pure_bind, if_neg hcond]
  apply reports_output
  · rw [hnode]
    refine (reports_arguments hc c loc).bind fun named => (reports_body "fn" ihm).bind fun a => ?_
    rw [bind_pure_comp]
    exact (reports_body "inverse" ihi).map _
  · rw [hnode]
    exact (neverUnsupported_arguments hc c loc).bind fun _ =>
      (neverUnsupported_body "fn" main).bind fun _ =>
        (neverUnsupported_body "inverse" inverse).bind fun _ => .pure _

end Block

/-- What lenient options report for a statement depends on the statement only. -/
theorem reports_node (n : Node) :
    Reports (output (leniently o resolve) scope n) (Warnings.node o n) := by
  induction n using Node.bodyInduction generalizing scope with
  | content text written loc =>
    rw [Warnings.node]
    apply reports_output
    · rw [node]
      exact .pure _
    · rw [node]
      exact .pure _
  | comment text loc =>
    rw [Warnings.node]
    apply reports_output
    · rw [node]
      exact .pure _
    · rw [node]
      exact .pure _
  | mustache m =>
    rw [Warnings.node]
    exact reports_output_mustache m
  | block c main inverse loc ihm ihi =>
    rw [Warnings.node]
    cases hname : c.path.plainName? with
    | none =>
      obtain ⟨construct, l, hl, hw⟩ := helperName_of_not_plainName hname loc
      dsimp only
      rw [hw]
      apply reports_output_of_refused
      rw [node, hl]
      rfl
    | some name =>
      dsimp only
      by_cases hcond : isConditional name = true
      · rw [if_pos hcond]
        exact reports_output_conditional hname hcond (fun p hp n hn => ihm p hp n hn)
          (fun p hp n hn => ihi p hp n hn)
      · rw [if_neg hcond]
        by_cases hc : Callable o name
        · rw [if_pos hc]
          exact reports_output_block hname hcond hc (fun p hp n hn => ihm p hp n hn)
            (fun p hp n hn => ihi p hp n hn)
        · rw [if_neg hc]
          apply reports_output_of_refused
          rw [node, helperName_of_plainName? hname, pure_bind, if_neg hcond,
            arguments_of_not_callable (mt callable_leniently.mp hc)]
          rfl
  | foreign n hn =>
    cases n with
    | content | comment | mustache | block => cases hn
    | _ =>
      rw [Warnings.node]
      apply reports_output_of_refused
      rw [node]

theorem reports_root (p : Template.Program Node) :
    Reports (root (leniently o resolve) (.program p)) (Warnings.root o p) := by
  obtain ⟨ns, names, loc⟩ := p
  rw [root, checkBlockParams_lenient, bind_pure_comp]
  exact (Reports.report _).bind fun _ => (reports_nodes fun n _ => reports_node n).map _

end Lenient

section Strict
variable {s : Settings}

/-- Strict options turn every warning into an error. -/
theorem stepwise_report (hs : s.options.strict = true) :
    Stepwise s s fun _ x _ => ∀ g, (after x g).2.report = g.report where
  escapeFn := rfl
  stringifyFn := rfl
  renderName := rfl
  pure _ _ := rfl
  throw _ _ := rfl
  bind := by
    intro α β x y f f' hx hf g
    rcases h : after x g with ⟨e | a, g'⟩
    · rw [after_bind_error h]
      simpa [h] using hx g
    · have hg := hx g
      rw [h] at hg
      rw [after_bind_ok h, hf a g', hg]
  tolerate := by
    intro α x y code hx g
    rw [tolerate_strict hs]
    rcases h : after x g with ⟨e | a, g'⟩
    · rw [after_map_error h]
      simpa [h] using hx g
    · rw [after_map_ok h]
      simpa [h] using hx g
  record := by
    intro name _ _ g
    rw [after_record]
    cases (g.helpers.record name s.resolve).answer <;> rfl

end Strict

end Compiling

/-- The diagnostics of a compilation are all its warnings. -/
theorem compile_warned_of_ok {t : Node} {o : Options} {resolve : Resolver} {c : Compilation}
    (hc : (compile t o resolve).result = .ok c) : (compile t o resolve).warned = c.diagnostics := by
  rcases h : Compiling.after (Compiling.root ⟨o, resolve⟩ t) .none with ⟨e | f, g⟩
  · rw [compile_of_error h] at hc
    cases hc
  · rw [compile_of_ok h] at hc ⊢
    cases hc
    rfl

/-- Strict options never warn, not even before an error. -/
theorem compile_warned_of_strict {o : Options} (hs : o.strict = true) (t : Node) (resolve : Resolver) :
    (compile t o resolve).warned = [] := by
  have hreport := (Compiling.stepwise_report (s := ⟨o, resolve⟩) hs).root t .none
  rcases h : Compiling.after (Compiling.root ⟨o, resolve⟩ t) .none with ⟨e | f, g⟩
  · rw [h] at hreport
    rw [compile_of_error h]
    exact congrArg Report.entries hreport
  · rw [h] at hreport
    rw [compile_of_ok h]
    exact congrArg Report.entries hreport

/-- A lenient compilation reports the warnings of its template. -/
theorem compile_diagnostics {p : Template.Program Node} {o : Options} {resolve : Resolver}
    {c : Compilation}
    (hc : (compile (.program p) { o with strict := false } resolve).result = .ok c) :
    c.diagnostics = Warnings.root o p := by
  rcases h : Compiling.after (Compiling.root (Compiling.leniently o resolve) (.program p)) .none with
    ⟨e | f, g⟩
  · rw [compile_of_error h] at hc
    cases hc
  · rw [compile_of_ok h] at hc
    cases hc
    exact Compiling.reports_root p .none f g h

end Stencil
