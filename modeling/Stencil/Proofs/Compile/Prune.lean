import Stencil.Proofs.Compile.Lockstep

/-!
# Lenient options as strict options on less

`Prune.root o t` is the template `t` without what lenient options drop. A statement that is dropped
leaves a comment, so that no body becomes empty by it. Lenient options compile a template exactly
as strict options compile the pruned one, warnings apart (`compile_lenient_eq_strict_prune`).
-/

namespace Stencil

set_option autoImplicit false

open Template (Node Location Call Mustache HashPair)

namespace Prune

open Compiling (isConditional)

/-- Values that are dropped. -/
def isDropped : Template.Expr → Bool
  | .path p => p.data
  | .sub .. => true
  | _ => false

def pairs (ps : List (HashPair Template.Expr)) : List (HashPair Template.Expr) :=
  ps.filter fun p => !isDropped p.value

/-- The call of a helper without its positional parameters. -/
def call (c : Call) : Call :=
  ⟨c.path, [], c.hash.map fun h => ⟨pairs h.pairs, h.loc⟩⟩

/-- A mustache. A helper call that loses all its named arguments becomes a block, since a mustache
without named arguments would not call the helper. -/
def mustache (o : Options) (m : Mustache) : Node :=
  if m.call.named.isEmpty then
    match m.call.path with
    | .path p =>
      if p.data then .comment "" m.loc
      else .mustache ⟨⟨m.call.path, [], m.call.hash⟩, m.escaped, m.loc⟩
    | _ => .comment "" m.loc
  else
    match m.call.path.plainName? with
    | none => .comment "" m.loc
    | some name =>
      if isConditional name then .mustache m
      else if Callable o name then
        if (pairs m.call.named).isEmpty then .block ⟨call m.call, none, none, m.loc⟩
        else .mustache ⟨call m.call, m.escaped, m.loc⟩
      else .comment "" m.loc

mutual
def node (o : Options) : Node → Node
  | .content text written loc => .content text written loc
  | .comment text loc => .comment text loc
  | .mustache m => mustache o m
  | .block ⟨c, main, inverse, loc⟩ =>
    match c.path.plainName? with
    | none => .comment "" loc
    | some name =>
      if isConditional name then
        if c.params.head?.any isDropped then .comment "" loc
        else .block ⟨⟨c.path, c.params.take 1, none⟩, body o main, body o inverse, loc⟩
      else if Callable o name then .block ⟨call c, body o main, body o inverse, loc⟩
      else .comment "" loc
  | .program p => .comment "" p.loc
  | .partialCall _ loc => .comment "" loc
  | .partialBlock _ _ loc => .comment "" loc
  | .decorator m => .comment "" m.loc
  | .decoratorBlock b => .comment "" b.loc
/-- Some statements, as many as before. -/
def nodes (o : Options) : List Node → List Node
  | [] => []
  | n :: ns => node o n :: nodes o ns
/-- A body, without the names that it gives. -/
def body (o : Options) : Option (Template.Program Node) → Option (Template.Program Node)
  | none => none
  | some ⟨ns, _, loc⟩ => some ⟨nodes o ns, [], loc⟩
end

/-- A root. What is no root stays as it is. -/
def root (o : Options) : Node → Node
  | .program ⟨ns, _, loc⟩ => .program ⟨nodes o ns, [], loc⟩
  | n => n

theorem named_call (c : Call) : (call c).named = pairs c.named := by
  obtain ⟨path, params, hash⟩ := c
  cases hash <;> rfl

end Prune

/-- The same helpers were met and asked for. -/
structure Gathered.Alike (g g' : Gathered) : Prop where
  helpers : g.helpers = g'.helpers
  asked : g.asked = g'.asked

namespace Gathered.Alike

theorem refl (g : Gathered) : g.Alike g := ⟨rfl, rfl⟩

theorem trans {g₁ g₂ g₃ : Gathered} (h : g₁.Alike g₂) (h' : g₂.Alike g₃) : g₁.Alike g₃ :=
  ⟨h.helpers.trans h'.helpers, h.asked.trans h'.asked⟩

theorem warned (g : Gathered) (code : String) (c : Construct) (loc : Option Location) :
    (g.warned code c loc).Alike g := ⟨rfl, rfl⟩

end Gathered.Alike

namespace Compiling

variable {α β : Type}

/-- Two steps that do the same, reports apart. -/
def Alike (x y : Compiling α) : Prop :=
  ∀ g g', g.Alike g' → (after x g).1 = (after y g').1 ∧ (after x g).2.Alike (after y g').2

namespace Alike

theorem pure (a : α) : Alike (Pure.pure a) (Pure.pure a) := fun _ _ h => ⟨rfl, h⟩

theorem throw (e : CompileError) : Alike (throw e : Compiling α) (MonadExcept.throw e) :=
  fun _ _ h => ⟨rfl, h⟩

theorem after_eq {x y : Compiling α} (hxy : Alike x y) {g g' g₁ : Gathered} (hg : g.Alike g')
    {r : Except CompileError α} (h : after x g = (r, g₁)) :
    ∃ g₁', after y g' = (r, g₁') ∧ g₁.Alike g₁' := by
  obtain ⟨hr, hg₁⟩ := hxy g g' hg
  rw [h] at hr hg₁
  exact ⟨(after y g').2, Prod.ext hr.symm rfl, hg₁⟩

theorem bind {x y : Compiling α} {f h : α → Compiling β} (hxy : Alike x y)
    (hfh : ∀ a, Alike (f a) (h a)) : Alike (x >>= f) (y >>= h) := by
  intro g g' hg
  rcases hx : after x g with ⟨e | a, g₁⟩
  · obtain ⟨g₁', hy, hg₁⟩ := hxy.after_eq hg hx
    rw [after_bind_error hx, after_bind_error hy]
    exact ⟨rfl, hg₁⟩
  · obtain ⟨g₁', hy, hg₁⟩ := hxy.after_eq hg hx
    rw [after_bind_ok hx, after_bind_ok hy]
    exact hfh a g₁ g₁' hg₁

/-- A step that does nothing but report can be left out. -/
theorem bind_left {x : Compiling α} {a : α} {f : α → Compiling β} {y : Compiling β}
    (hx : Alike x (Pure.pure a)) (hf : Alike (f a) y) : Alike (x >>= f) y := by
  intro g g' hg
  rcases h : after x g with ⟨r, g₁⟩
  obtain ⟨g₁', hpure, hg₁⟩ := hx.after_eq hg h
  cases hpure
  rw [after_bind_ok h]
  exact hf g₁ g' hg₁

theorem map {x y : Compiling α} (f : α → β) (hxy : Alike x y) : Alike (f <$> x) (f <$> y) := by
  rw [map_eq_pure_bind, map_eq_pure_bind]
  exact hxy.bind fun a => pure (f a)

theorem record {s s' : Settings} (hs : s.resolve = s'.resolve) (name : String) :
    Alike (Compiling.record s name) (Compiling.record s' name) := by
  intro g g' hg
  have hr : (g.recorded name s.resolve).Alike (g'.recorded name s'.resolve) := by
    unfold Gathered.recorded
    rw [hs, hg.helpers, hg.asked]
    exact ⟨rfl, rfl⟩
  rw [after_record, after_record, ← hs, ← hg.helpers]
  rw [← hs] at hr
  split
  · exact ⟨rfl, hr⟩
  · exact ⟨rfl, hr⟩

theorem neverUnsupported {x y : Compiling α} (hxy : Alike x y) (hy : NeverUnsupported y) :
    NeverUnsupported x := by
  intro g e g' h
  obtain ⟨g'', h', _⟩ := hxy.after_eq (.refl g) h
  exact hy g e g'' h'

end Alike

/-- The step meets an unsupported construct before any helper. -/
def Drops (x : Compiling α) : Prop :=
  ∀ g, ∃ c loc g', after x g = (.error (.unsupported c loc), g') ∧ g'.Alike g

namespace Drops

theorem unsupported (c : Construct) (loc : Option Location) :
    Drops (Compiling.unsupported c loc : Compiling α) :=
  fun g => ⟨c, loc, g, rfl, .refl g⟩

theorem bind {x : Compiling α} (hx : Drops x) (f : α → Compiling β) : Drops (x >>= f) := by
  intro g
  obtain ⟨c, loc, g', h, hg⟩ := hx g
  exact ⟨c, loc, g', after_bind_error h, hg⟩

theorem map {x : Compiling α} (hx : Drops x) (f : α → β) : Drops (f <$> x) := by
  rw [map_eq_pure_bind]
  exact hx.bind _

/-- A step that does nothing but report may come first. -/
theorem bind_right {x : Compiling α} {a : α} {f : α → Compiling β} (hx : Alike x (pure a))
    (hf : Drops (f a)) : Drops (x >>= f) := by
  intro g
  rcases h : after x g with ⟨r, g₁⟩
  obtain ⟨g₁', hpure, hg⟩ := hx.after_eq (.refl g) h
  cases hpure
  obtain ⟨c, loc, g', hf, hg'⟩ := hf g₁
  exact ⟨c, loc, g', by rw [after_bind_ok h, hf], hg'.trans hg⟩

end Drops

section Pass
variable {o : Options} {resolve : Resolver} {scope : Nat}

/-- Without unsupported constructs lenient options tolerate nothing either. -/
theorem tolerate_of_neverUnsupported {x : Compiling α} (hx : NeverUnsupported x) (code : String) :
    tolerate (leniently o resolve) code x = some <$> x := by
  apply ext
  intro g
  rcases h : after x g with ⟨e | a, g₁⟩
  · rw [after_tolerate_error (hx g e g₁ h) h, after_map_error h]
  · rw [after_tolerate_ok h, after_map_ok h]

theorem alike_tolerate {x y : Compiling α} (hxy : Alike x y) (hx : NeverUnsupported x)
    (code : String) :
    Alike (tolerate (leniently o resolve) code x) (tolerate (strictly o resolve) code y) := by
  rw [tolerate_strict (s := strictly o resolve) rfl, tolerate_of_neverUnsupported hx]
  exact hxy.map some

theorem alike_tolerate_of_drops {x : Compiling α} (hx : Drops x) (code : String) :
    Alike (tolerate (leniently o resolve) code x) (pure none) := by
  intro g g' hg
  obtain ⟨c, loc, g₁, h, hg₁⟩ := hx g
  rw [after_tolerate_unsupported rfl h]
  exact ⟨rfl, (Gathered.Alike.warned g₁ code c loc).trans (hg₁.trans hg)⟩

theorem alike_ignore (c : Construct) (loc : Option Location) :
    Alike (ignore (leniently o resolve) c loc) (pure ()) := by
  rw [ignore_lenient rfl]
  exact fun g g' hg => ⟨rfl, (Gathered.Alike.warned g _ c loc).trans hg⟩

theorem alike_checkParams (callee : String) (params : List Template.Expr) (loc : Option Location) :
    Alike (checkParams (leniently o resolve) callee params loc) (pure ()) := by
  cases params with
  | nil => exact .pure ()
  | cons p ps => exact alike_ignore _ _

theorem alike_checkHash (callee : String) (hash : Option (Template.Hash Template.Expr)) :
    Alike (checkHash (leniently o resolve) callee hash) (pure ()) := by
  unfold checkHash
  split
  · exact .pure ()
  · split
    · exact .pure ()
    · exact alike_ignore _ _

theorem alike_checkBlockParams (names : List String) (loc : Option Location) :
    Alike (checkBlockParams (leniently o resolve) names loc) (pure ()) := by
  unfold checkBlockParams
  split
  · exact .pure ()
  · exact alike_ignore _ _

theorem drops_value {e : Template.Expr} (h : Prune.isDropped e = true) :
    Drops (value scope e) := by
  cases e with
  | path p =>
    have hd : p.data = true := h
    simp only [value, path, hd, if_true]
    exact .unsupported _ _
  | sub => exact .unsupported _ _
  | _ => cases h

theorem alike_path (p : Template.Path) : Alike (path scope p) (path scope p) := by
  unfold path
  split
  · exact .throw _
  · split
    · exact .pure _
    · exact .throw _

theorem neverUnsupported_path {p : Template.Path} (h : p.data = false) :
    NeverUnsupported (path scope p) := by
  unfold path
  rw [h, if_neg Bool.false_ne_true]
  split
  · exact .pure _
  · exact .throw rfl

theorem alike_value (e : Template.Expr) : Alike (value scope e) (value scope e) := by
  cases e with
  | path p => exact alike_path p
  | sub => exact .throw _
  | _ => exact .pure _

theorem neverUnsupported_value {e : Template.Expr} (h : Prune.isDropped e = false) :
    NeverUnsupported (value scope e) := by
  cases e with
  | path p => exact neverUnsupported_path h
  | sub => cases h
  | _ => exact .pure _

/-- A dropped named argument adds no property. -/
theorem alike_properties (ps : List (HashPair Template.Expr)) :
    Alike (properties (leniently o resolve) scope ps)
      (properties (strictly o resolve) scope (Prune.pairs ps)) := by
  induction ps with
  | nil => exact .pure []
  | cons p ps ih =>
    by_cases hd : Prune.isDropped p.value = true
    · have hpairs : Prune.pairs (p :: ps) = Prune.pairs ps := by simp [Prune.pairs, hd]
      rw [hpairs, properties]
      refine (alike_tolerate_of_drops (drops_value hd) _).bind_left ?_
      change Alike (properties (leniently o resolve) scope ps >>= pure) _
      rwa [bind_pure]
    · rw [Bool.not_eq_true] at hd
      have hpairs : Prune.pairs (p :: ps) = p :: Prune.pairs ps := by simp [Prune.pairs, hd]
      rw [hpairs, properties, properties]
      exact (alike_tolerate (alike_value _) (neverUnsupported_value hd) _).bind fun _ =>
        ih.bind fun _ => .pure _

theorem neverUnsupported_properties (ps : List (HashPair Template.Expr)) :
    NeverUnsupported (properties (leniently o resolve) scope ps) := by
  induction ps with
  | nil => exact .pure []
  | cons p ps ih =>
    rw [properties]
    exact (neverUnsupported_tolerate rfl _ _).bind fun _ => ih.bind fun _ => .pure _

theorem alike_arguments {name : String} (hc : Callable o name) (call : Call)
    (loc loc' : Option Location) :
    Alike (arguments (leniently o resolve) scope name call loc)
      (arguments (strictly o resolve) scope name (Prune.call call) loc') := by
  rw [arguments_of_callable (callable_leniently.mpr hc),
    arguments_of_callable (callable_strictly.mpr hc), Prune.named_call]
  exact (Alike.record rfl name).bind fun _ => (alike_checkParams _ _ _).bind fun _ =>
    alike_properties _

theorem neverUnsupported_record (s : Settings) (name : String) :
    NeverUnsupported (record s name) := by
  intro g e g' h
  rw [after_record] at h
  split at h
  · cases h
  · cases h
    rfl

theorem neverUnsupported_arguments {name : String} (hc : Callable o name) (call : Call)
    (loc : Option Location) :
    NeverUnsupported (arguments (leniently o resolve) scope name call loc) := by
  rw [arguments_of_callable (callable_leniently.mpr hc)]
  exact (neverUnsupported_record _ _).bind fun _ =>
    ((alike_checkParams _ _ _).neverUnsupported (.pure ())).bind fun _ =>
      neverUnsupported_properties _

/-- What a statement adds to those around it. -/
def output (s : Settings) (scope : Nat) (n : Node) : Compiling (Option Script.Expr) :=
  Option.join <$> tolerate s Diagnostic.unsupportedConstruct (node s scope n)

theorem nodes_cons (s : Settings) (scope : Nat) (n : Node) (ns : List Node) :
    nodes s scope (n :: ns) = (do
      let e ← output s scope n
      let es ← nodes s scope ns
      return e.toList ++ es) := by
  rw [nodes, output, bind_map_left]
  congr 1
  funext e
  rcases e with _ | _ | e <;> rfl

/-- What lenient options make of a statement, strict options make of the pruned one. -/
def Pruned (o : Options) (resolve : Resolver) (scope : Nat) (n : Node) : Prop :=
  Alike (output (leniently o resolve) scope n) (output (strictly o resolve) scope (Prune.node o n))

theorem alike_output {n n' : Node}
    (h : Alike (node (leniently o resolve) scope n) (node (strictly o resolve) scope n'))
    (hn : NeverUnsupported (node (leniently o resolve) scope n)) :
    Alike (output (leniently o resolve) scope n) (output (strictly o resolve) scope n') :=
  (alike_tolerate h hn _).map Option.join

/-- A statement that is dropped adds what a comment adds. -/
theorem alike_output_of_drops {n : Node} (h : Drops (node (leniently o resolve) scope n))
    (text : String) (loc : Option Location) :
    Alike (output (leniently o resolve) scope n)
      (output (strictly o resolve) scope (.comment text loc)) := by
  have hc : output (strictly o resolve) scope (.comment text loc) = pure none := by
    simp [output, tolerate_strict (s := strictly o resolve) rfl, node]
  rw [hc]
  exact (alike_tolerate_of_drops h _).map Option.join

theorem alike_nodes {ns : List Node} (ih : ∀ n ∈ ns, Pruned o resolve scope n) :
    Alike (nodes (leniently o resolve) scope ns)
      (nodes (strictly o resolve) scope (Prune.nodes o ns)) := by
  induction ns with
  | nil =>
    rw [Prune.nodes, nodes, nodes]
    exact .pure []
  | cons n ns ihl =>
    have hn := ih n List.mem_cons_self
    have hns := ihl fun m hm => ih m (List.mem_cons_of_mem _ hm)
    rw [Prune.nodes, nodes_cons, nodes_cons]
    exact hn.bind fun _ => hns.bind fun _ => .pure _

theorem alike_branch {b : Option (Template.Program Node)}
    (ih : ∀ p ∈ b, ∀ n ∈ p.body, Pruned o resolve scope n) :
    Alike (branch (leniently o resolve) scope b)
      (branch (strictly o resolve) scope (Prune.body o b)) := by
  cases b with
  | none =>
    rw [Prune.body, branch, branch]
    exact .pure _
  | some p =>
    obtain ⟨ns, names, loc⟩ := p
    rw [Prune.body, branch, branch]
    exact (alike_checkBlockParams _ _).bind fun _ => (alike_nodes (ih _ rfl)).bind fun _ => .pure _

theorem alike_body (key : String) {b : Option (Template.Program Node)}
    (ih : ∀ p ∈ b, ∀ n ∈ p.body, Pruned o resolve (scope + 1) n) :
    Alike (body (leniently o resolve) scope key b)
      (body (strictly o resolve) scope key (Prune.body o b)) := by
  cases b with
  | none =>
    rw [Prune.body, body, body]
    exact .pure _
  | some p =>
    obtain ⟨ns, names, loc⟩ := p
    cases ns with
    | nil =>
      rw [Prune.body, Prune.nodes, body, body]
      exact .pure _
    | cons n ns =>
      -- the pruned body has as many statements, so it is a function as well
      have hns := alike_nodes (ih _ rfl)
      rw [Prune.nodes] at hns
      rw [Prune.body, Prune.nodes, body, body]
      exact (alike_checkBlockParams _ _).bind fun _ => hns.bind fun _ => .pure _

theorem neverUnsupported_branch (b : Option (Template.Program Node)) :
    NeverUnsupported (branch (leniently o resolve) scope b) := by
  cases b with
  | none =>
    rw [branch]
    exact .pure _
  | some p =>
    obtain ⟨ns, names, loc⟩ := p
    rw [branch]
    exact (neverUnsupported_checkBlockParams rfl _ _).bind fun _ =>
      (neverUnsupported_nodes rfl _ _).bind fun _ => .pure _

theorem neverUnsupported_body (key : String) (b : Option (Template.Program Node)) :
    NeverUnsupported (body (leniently o resolve) scope key b) := by
  cases b with
  | none =>
    rw [body]
    exact .pure _
  | some p =>
    obtain ⟨ns, names, loc⟩ := p
    cases ns with
    | nil =>
      rw [body]
      exact .pure _
    | cons n ns =>
      rw [body]
      exact (neverUnsupported_checkBlockParams rfl _ _).bind fun _ =>
        (neverUnsupported_nodes rfl _ _).bind fun _ => .pure _

theorem alike_test {name : String} {call : Call} (loc : Option Location)
    (hd : call.params.head?.any Prune.isDropped = false) :
    Alike (test (leniently o resolve) scope name call loc)
      (test (strictly o resolve) scope name ⟨call.path, call.params.take 1, none⟩ loc) := by
  unfold test
  cases hp : call.params with
  | nil => exact .throw _
  | cons c extra =>
    have hc : Prune.isDropped c = false := by simpa [hp] using hd
    exact (alike_checkParams _ _ _).bind fun _ => (alike_checkHash _ _).bind fun _ =>
      alike_tolerate (alike_value c) (neverUnsupported_value hc) _

theorem alike_test_of_dropped {name : String} {call : Call} (loc : Option Location)
    (hd : call.params.head?.any Prune.isDropped = true) :
    Alike (test (leniently o resolve) scope name call loc) (pure none) := by
  unfold test
  cases hp : call.params with
  | nil => simp [hp] at hd
  | cons c extra =>
    have hc : Prune.isDropped c = true := by simpa [hp] using hd
    exact (alike_checkParams _ _ _).bind_left ((alike_checkHash _ _).bind_left
      (alike_tolerate_of_drops (drops_value hc) _))

theorem neverUnsupported_test (name : String) (call : Call) (loc : Option Location) :
    NeverUnsupported (test (leniently o resolve) scope name call loc) := by
  unfold test
  split
  · exact .throw rfl
  · exact ((alike_checkParams _ _ _).neverUnsupported (.pure ())).bind fun _ =>
      ((alike_checkHash _ _).neverUnsupported (.pure ())).bind fun _ =>
        neverUnsupported_tolerate rfl _ _

theorem alike_output_interpolation {m : Mustache} {p : Template.Path} (hnamed : m.call.named = [])
    (hpath : m.call.path = .path p) (hdata : p.data = false) :
    Alike (output (leniently o resolve) scope (.mustache m))
      (output (strictly o resolve) scope
        (.mustache ⟨⟨m.call.path, [], m.call.hash⟩, m.escaped, m.loc⟩)) := by
  obtain ⟨⟨path, params, hash⟩, escaped, loc⟩ := m
  have hl := mustache_of_named_eq_nil hnamed (leniently o resolve) scope
  have hs := mustache_of_named_eq_nil (m := ⟨⟨path, [], hash⟩, escaped, loc⟩) hnamed
    (strictly o resolve) scope
  rw [interpolation_of_path hpath] at hl
  rw [interpolation_of_path (m := ⟨⟨path, [], hash⟩, escaped, loc⟩) hpath] at hs
  apply alike_output
  · rw [node, node, hl, hs]
    exact .map _ ((alike_checkParams _ _ _).bind fun _ => (alike_path p).bind fun _ => .pure _)
  · rw [node, hl]
    exact .map _ (((alike_checkParams _ _ _).neverUnsupported (.pure ())).bind fun _ =>
      (neverUnsupported_path hdata).bind fun _ => .pure _)

/-- A helper call that loses all its named arguments is the same call as a block. -/
theorem alike_output_helper {m : Mustache} {name : String} (hnamed : m.call.named ≠ [])
    (hname : m.call.path.plainName? = some name) (hcond : isConditional name = false)
    (hc : Callable o name) :
    Alike (output (leniently o resolve) scope (.mustache m))
      (output (strictly o resolve) scope
        (if (Prune.pairs m.call.named).isEmpty then .block ⟨Prune.call m.call, none, none, m.loc⟩
          else .mustache ⟨Prune.call m.call, m.escaped, m.loc⟩)) := by
  have hl : node (leniently o resolve) scope (.mustache m) =
      (fun named => some (helperCall name named [])) <$>
        arguments (leniently o resolve) scope name m.call m.loc := by
    rw [node, mustache_of_named_ne_nil hnamed, mustacheCall_of_helper hname hcond, Functor.map_map]
  have hname' : (Prune.call m.call).path.plainName? = some name := hname
  have hargs : Alike (arguments (leniently o resolve) scope name m.call m.loc)
      (arguments (strictly o resolve) scope name (Prune.call m.call) m.loc) :=
    alike_arguments hc m.call m.loc m.loc
  apply alike_output
  · rw [hl]
    split
    · rw [node, helperName_of_plainName? hname', pure_bind, if_neg (by simp [hcond]),
        map_eq_pure_bind]
      refine hargs.bind fun named => ?_
      rw [body, body]
      exact .pure _
    · rename_i hpairs
      have hnamed' : (Prune.call m.call).named ≠ [] := by
        rw [Prune.named_call]
        exact fun he => hpairs (List.isEmpty_iff.mpr he)
      rw [node, mustache_of_named_ne_nil hnamed',
        mustacheCall_of_helper (m := ⟨Prune.call m.call, m.escaped, m.loc⟩) hname' hcond,
        Functor.map_map]
      exact hargs.map _
  · rw [hl]
    exact .map _ (neverUnsupported_arguments hc _ _)

theorem alike_output_mustache (m : Mustache) :
    Alike (output (leniently o resolve) scope (.mustache m))
      (output (strictly o resolve) scope (Prune.mustache o m)) := by
  unfold Prune.mustache
  by_cases hnamed : m.call.named = []
  · rw [if_pos (List.isEmpty_iff.mpr hnamed)]
    split
    · rename_i p hpath
      split
      · rename_i hdata
        apply alike_output_of_drops
        rw [node, mustache_of_named_eq_nil hnamed, interpolation_of_path hpath]
        exact .map (.bind_right (alike_checkParams _ _ _)
          (.bind (drops_value (e := .path p) hdata) _)) _
      · rename_i hdata
        exact alike_output_interpolation hnamed hpath (by simpa using hdata)
    · rename_i hpath
      apply alike_output_of_drops
      rw [node, mustache_of_named_eq_nil hnamed]
      unfold interpolation
      split
      · exact absurd ‹_› (hpath _)
      · exact .map (.unsupported _ _) _
  · rw [if_neg fun he => hnamed (List.isEmpty_iff.mp he)]
    cases hname : m.call.path.plainName? with
    | none =>
      apply alike_output_of_drops
      obtain ⟨c, l, hl⟩ := helperName_of_not_plainName? hname m.loc
      rw [node, mustache_of_named_ne_nil hnamed, mustacheCall, hl]
      exact .map (.bind (.unsupported c l) _) _
    | some name =>
      by_cases hcond : isConditional name = true
      · -- such a mustache fails, and it fails in the same way as it stands
        have hfail : ∀ s : Settings, node s scope (.mustache m) =
            throw (.invalidHelperCall name .notABlock m.loc) := by
          intro s
          rw [node, mustache_of_named_ne_nil hnamed, mustacheCall, helperName_of_plainName? hname,
            pure_bind, if_pos hcond]
          rfl
        simp only [hcond, if_true]
        apply alike_output
        · rw [hfail, hfail]
          exact .throw _
        · rw [hfail]
          exact .throw rfl
      · rw [Bool.not_eq_true] at hcond
        simp only [hcond, Bool.false_eq_true, if_false]
        by_cases hc : Callable o name
        · rw [if_pos hc]
          exact alike_output_helper hnamed hname hcond hc
        · rw [if_neg hc]
          apply alike_output_of_drops
          rw [node, mustache_of_named_ne_nil hnamed, mustacheCall_of_helper hname hcond,
            arguments_of_not_callable (mt callable_leniently.mp hc)]
          exact .map (.map (.unsupported _ _) _) _

section Block
variable {call : Call} {main inverse : Option (Template.Program Node)} {loc : Option Location}
  {name : String}

/-- With a test that is dropped the branches are not looked at. -/
theorem alike_output_of_dropped_test (hname : call.path.plainName? = some name)
    (hcond : isConditional name = true) (hd : call.params.head?.any Prune.isDropped = true) :
    Alike (output (leniently o resolve) scope (.block ⟨call, main, inverse, loc⟩))
      (output (strictly o resolve) scope (.comment "" loc)) := by
  have hnone : Alike (node (leniently o resolve) scope (.block ⟨call, main, inverse, loc⟩))
      (node (strictly o resolve) scope (.comment "" loc)) := by
    rw [node, node, helperName_of_plainName? hname, pure_bind, if_pos hcond]
    exact (alike_test_of_dropped loc hd).bind_left (.pure none)
  refine alike_output hnone (hnone.neverUnsupported ?_)
  rw [node]
  exact .pure none

theorem alike_output_conditional (hname : call.path.plainName? = some name)
    (hcond : isConditional name = true) (hd : call.params.head?.any Prune.isDropped = false)
    (ihm : ∀ p ∈ main, ∀ n ∈ p.body, Pruned o resolve scope n)
    (ihi : ∀ p ∈ inverse, ∀ n ∈ p.body, Pruned o resolve scope n) :
    Alike (output (leniently o resolve) scope (.block ⟨call, main, inverse, loc⟩))
      (output (strictly o resolve) scope (.block ⟨⟨call.path, call.params.take 1, none⟩,
        Prune.body o main, Prune.body o inverse, loc⟩)) := by
  apply alike_output
  · rw [node, node, helperName_of_plainName? hname, pure_bind, pure_bind, if_pos hcond, if_pos hcond]
    refine (alike_test loc hd).bind fun t => ?_
    cases t with
    | none => exact .pure none
    | some t => exact (alike_branch ihm).bind fun _ => (alike_branch ihi).bind fun _ => .pure _
  · rw [node, helperName_of_plainName? hname, pure_bind, if_pos hcond]
    refine (neverUnsupported_test name call loc).bind fun t => ?_
    cases t with
    | none => exact .pure none
    | some t =>
      exact (neverUnsupported_branch main).bind fun _ =>
        (neverUnsupported_branch inverse).bind fun _ => .pure _

theorem alike_output_block (hname : call.path.plainName? = some name)
    (hcond : ¬ isConditional name = true) (hc : Callable o name)
    (ihm : ∀ p ∈ main, ∀ n ∈ p.body, Pruned o resolve (scope + 1) n)
    (ihi : ∀ p ∈ inverse, ∀ n ∈ p.body, Pruned o resolve (scope + 1) n) :
    Alike (output (leniently o resolve) scope (.block ⟨call, main, inverse, loc⟩))
      (output (strictly o resolve) scope (.block ⟨Prune.call call, Prune.body o main,
        Prune.body o inverse, loc⟩)) := by
  have hname' : (Prune.call call).path.plainName? = some name := hname
  apply alike_output
  · rw [node, node, helperName_of_plainName? hname, helperName_of_plainName? hname', pure_bind,
      pure_bind, if_neg hcond, if_neg hcond]
    exact (alike_arguments hc call loc loc).bind fun _ => (alike_body "fn" ihm).bind fun _ =>
      (alike_body "inverse" ihi).bind fun _ => .pure _
  · rw [node, helperName_of_plainName? hname, pure_bind, if_neg hcond]
    exact (neverUnsupported_arguments hc call loc).bind fun _ =>
      (neverUnsupported_body "fn" main).bind fun _ =>
        (neverUnsupported_body "inverse" inverse).bind fun _ => .pure _

end Block

theorem pruned (n : Node) : Pruned o resolve scope n := by
  unfold Pruned
  induction n using Node.bodyInduction generalizing scope with
  | content text written loc =>
    rw [Prune.node]
    apply alike_output
    · rw [node, node]
      exact .pure _
    · rw [node]
      exact .pure _
  | comment text loc =>
    rw [Prune.node]
    apply alike_output
    · rw [node, node]
      exact .pure _
    · rw [node]
      exact .pure _
  | mustache m =>
    rw [Prune.node]
    exact alike_output_mustache m
  | block call main inverse loc ihm ihi =>
    rw [Prune.node]
    cases hname : call.path.plainName? with
    | none =>
      apply alike_output_of_drops
      obtain ⟨c, l, hl⟩ := helperName_of_not_plainName? hname loc
      rw [node, hl]
      exact .bind (.unsupported c l) _
    | some name =>
      dsimp only
      by_cases hcond : isConditional name = true
      · rw [if_pos hcond]
        by_cases hd : call.params.head?.any Prune.isDropped = true
        · rw [if_pos hd]
          exact alike_output_of_dropped_test hname hcond hd
        · rw [if_neg hd]
          exact alike_output_conditional hname hcond (by simpa using hd)
            (fun p hp n hn => ihm p hp n hn) (fun p hp n hn => ihi p hp n hn)
      · rw [if_neg hcond]
        by_cases hc : Callable o name
        · rw [if_pos hc]
          exact alike_output_block hname hcond hc
            (fun p hp n hn => ihm p hp n hn) (fun p hp n hn => ihi p hp n hn)
        · rw [if_neg hc]
          apply alike_output_of_drops
          rw [node, helperName_of_plainName? hname, pure_bind, if_neg hcond,
            arguments_of_not_callable (mt callable_leniently.mp hc)]
          exact .bind (.unsupported _ _) _
  | foreign n hn =>
    cases n with
    | content | comment | mustache | block => cases hn
    | _ =>
      rw [Prune.node]
      apply alike_output_of_drops
      rw [node]
      exact .unsupported _ _

theorem alike_root (t : Node) :
    Alike (root (leniently o resolve) t) (root (strictly o resolve) (Prune.root o t)) := by
  cases t with
  | program p =>
    obtain ⟨ns, names, loc⟩ := p
    rw [Prune.root, root, root]
    exact (alike_checkBlockParams _ _).bind fun _ =>
      (alike_nodes fun n _ => pruned n).bind fun _ => .pure _
  | _ => exact .throw _

end Pass

end Compiling

/-- Lenient options compile a template as strict options compile the pruned template: both fail with
the same error, or both give the same program and the same helpers. The resolver is asked for the
same names. -/
theorem compile_lenient_eq_strict_prune (t : Node) (o : Options) (resolve : Resolver) :
    let lenient := compile t { o with strict := false } resolve
    let strict := compile (Prune.root o t) { o with strict := true } resolve
    lenient.result.map (fun c => (c.program, c.helpers)) =
      strict.result.map (fun c => (c.program, c.helpers)) ∧ lenient.asked = strict.asked := by
  intro lenient strict
  have halike : Compiling.Alike (Compiling.root (Compiling.leniently o resolve) t)
      (Compiling.root (Compiling.strictly o resolve) (Prune.root o t)) := Compiling.alike_root t
  rcases hl : Compiling.after (Compiling.root (Compiling.leniently o resolve) t) .none with ⟨e | f, g⟩
  · obtain ⟨g', hs, hg⟩ := halike.after_eq (.refl _) hl
    have h : lenient = ⟨.error e, g.asked, g.report.entries⟩ := compile_of_error hl
    have h' : strict = ⟨.error e, g'.asked, g'.report.entries⟩ := compile_of_error hs
    rw [h, h']
    exact ⟨rfl, hg.asked⟩
  · obtain ⟨g', hs, hg⟩ := halike.after_eq (.refl _) hl
    have h : lenient = ⟨.ok ⟨Compilation.module o.exported g.helpers f, g.helpers,
      g.report.entries⟩, g.asked, g.report.entries⟩ := compile_of_ok hl
    have h' : strict = ⟨.ok ⟨Compilation.module o.exported g'.helpers f, g'.helpers,
      g'.report.entries⟩, g'.asked, g'.report.entries⟩ := compile_of_ok hs
    rw [h, h', hg.helpers]
    exact ⟨rfl, hg.asked⟩

end Stencil
