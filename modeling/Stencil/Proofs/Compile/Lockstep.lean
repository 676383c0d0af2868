import Stencil.Proofs.Compile.Stepwise

/-!
# Strict and lenient compilations in lockstep

Two compilations that differ in strictness only take the same steps up to the first construct
without a counterpart. There the strict one fails. The lenient one reports that very construct, and
whatever it does afterwards adds only warnings.

`Lockstep x y` relates a strict step `x` to its lenient counterpart `y`. It is kept by what the pass
is built from (`Lockstep.stepwise`), so that it holds of whole passes.
-/

namespace Stencil

set_option autoImplicit false

open Template (Node Location)

namespace Compiling

variable {α β : Type}

/-- The settings of a strict compilation. -/
def strictly (o : Options) (resolve : Resolver) : Settings := ⟨{ o with strict := true }, resolve⟩

/-- The settings of a lenient compilation. -/
def leniently (o : Options) (resolve : Resolver) : Settings := ⟨{ o with strict := false }, resolve⟩

theorem callable_strictly {o : Options} {resolve : Resolver} {name : String} :
    Callable (strictly o resolve).options name ↔ Callable o name := by
  rw [callable_iff, callable_iff]
  rfl

theorem callable_leniently {o : Options} {resolve : Resolver} {name : String} :
    Callable (leniently o resolve).options name ↔ Callable o name := by
  rw [callable_iff, callable_iff]
  rfl

/-- What is gathered later differs in its report by further warnings. -/
def WarnedSince (g g' : Gathered) : Prop :=
  ∃ ws : List Diagnostic, (∀ w ∈ ws, w.severity = .warning) ∧
    g'.report.entries = g.report.entries ++ ws

/-- The first of the further warnings is for the given construct. -/
def DroppedSince (c : Construct) (loc : Option Location) (g g' : Gathered) : Prop :=
  ∃ (code : String) (ws : List Diagnostic), (∀ w ∈ ws, w.severity = .warning) ∧
    g'.report.entries = g.report.entries ++
      ⟨.warning, code, "dropped unsupported construct: " ++ c.text, loc⟩ :: ws

theorem WarnedSince.of_report_eq {g g' : Gathered} (h : g'.report = g.report) : WarnedSince g g' :=
  ⟨[], fun _ hw => absurd hw List.not_mem_nil, by rw [h, List.append_nil]⟩

theorem WarnedSince.trans {g₁ g₂ g₃ : Gathered} (h : WarnedSince g₁ g₂) (h' : WarnedSince g₂ g₃) :
    WarnedSince g₁ g₃ := by
  obtain ⟨ws, hws, h⟩ := h
  obtain ⟨ws', hws', h'⟩ := h'
  refine ⟨ws ++ ws', fun w hw => ?_, by rw [h', h, List.append_assoc]⟩
  rcases List.mem_append.mp hw with hw | hw
  · exact hws w hw
  · exact hws' w hw

theorem DroppedSince.trans {c : Construct} {loc : Option Location} {g₁ g₂ g₃ : Gathered}
    (h : DroppedSince c loc g₁ g₂) (h' : WarnedSince g₂ g₃) : DroppedSince c loc g₁ g₃ := by
  obtain ⟨code, ws, hws, h⟩ := h
  obtain ⟨ws', hws', h'⟩ := h'
  refine ⟨code, ws ++ ws', fun w hw => ?_, by rw [h', h, List.append_assoc, List.cons_append]⟩
  rcases List.mem_append.mp hw with hw | hw
  · exact hws w hw
  · exact hws' w hw

theorem DroppedSince.of_report_eq {c : Construct} {loc : Option Location} {g₁ g₂ g₃ : Gathered}
    (he : g₂.report = g₁.report) (h : DroppedSince c loc g₂ g₃) : DroppedSince c loc g₁ g₃ := by
  unfold DroppedSince at h ⊢
  rwa [he] at h

theorem DroppedSince.warned (code : String) (c : Construct) (loc : Option Location) (g : Gathered) :
    DroppedSince c loc g (g.warned code c loc) :=
  ⟨code, [], fun _ hw => absurd hw List.not_mem_nil, rfl⟩

/-- A further warning is a further warning, whatever it is for. -/
theorem DroppedSince.warnedSince {c : Construct} {loc : Option Location} {g g' : Gathered}
    (h : DroppedSince c loc g g') : WarnedSince g g' := by
  obtain ⟨code, ws, hws, h⟩ := h
  refine ⟨_, fun w hw => ?_, h⟩
  rcases List.mem_cons.mp hw with rfl | hw
  · rfl
  · exact hws w hw

/-- A strict step and its lenient counterpart: they agree and report nothing, or the strict one
fails with the first construct that the lenient one reports. -/
structure Lockstep (x y : Compiling α) : Prop where
  warns : ∀ g, WarnedSince g (after y g).2
  agree : ∀ g, (after x g = after y g ∧ (after y g).2.report = g.report) ∨
    ∃ c loc g', after x g = (.error (.unsupported c loc), g') ∧ DroppedSince c loc g (after y g).2

namespace Lockstep

/-- A step that reports nothing is its own counterpart. -/
theorem of_report_eq {x : Compiling α} (h : ∀ g, (after x g).2.report = g.report) : Lockstep x x :=
  ⟨fun g => .of_report_eq (h g), fun g => Or.inl ⟨rfl, h g⟩⟩

theorem pure (a : α) : Lockstep (Pure.pure a) (Pure.pure a) := of_report_eq fun _ => rfl

theorem throw (e : CompileError) : Lockstep (throw e : Compiling α) (MonadExcept.throw e) :=
  of_report_eq fun _ => rfl

theorem bind {x y : Compiling α} {f h : α → Compiling β} (hxy : Lockstep x y)
    (hfh : ∀ a, Lockstep (f a) (h a)) : Lockstep (x >>= f) (y >>= h) := by
  constructor
  · intro g
    have hw := hxy.warns g
    rcases hy : after y g with ⟨e | a, g₁⟩
    · rw [hy] at hw
      rwa [after_bind_error hy]
    · rw [hy] at hw
      rw [after_bind_ok hy]
      exact hw.trans ((hfh a).warns g₁)
  · intro g
    rcases hy : after y g with ⟨e | a, g₁⟩
    · rcases hxy.agree g with ⟨hx, hr⟩ | ⟨c, loc, g', hx, hd⟩
      · rw [hy] at hx hr
        rw [after_bind_error hx, after_bind_error hy]
        exact Or.inl ⟨rfl, hr⟩
      · rw [hy] at hd
        rw [after_bind_error hx, after_bind_error hy]
        exact Or.inr ⟨c, loc, g', rfl, hd⟩
    · rcases hxy.agree g with ⟨hx, hr⟩ | ⟨c, loc, g', hx, hd⟩
      · rw [hy] at hx hr
        rw [after_bind_ok hx, after_bind_ok hy]
        rcases (hfh a).agree g₁ with ⟨hf, hr'⟩ | ⟨c, loc, g', hf, hd⟩
        · exact Or.inl ⟨hf, hr'.trans hr⟩
        · exact Or.inr ⟨c, loc, g', hf, hd.of_report_eq hr⟩
      · -- the runs have parted already; what follows in the lenient one only warns
        rw [hy] at hd
        rw [after_bind_error hx, after_bind_ok hy]
        exact Or.inr ⟨c, loc, g', rfl, hd.trans ((hfh a).warns g₁)⟩

section Pass
variable {o : Options} {resolve : Resolver}

/-- Lenient options add a warning at most. -/
theorem warnedSince_tolerate (code : String) (y : Compiling α) (g : Gathered) :
    WarnedSince (after y g).2 (after (Compiling.tolerate (leniently o resolve) code y) g).2 := by
  rcases hy : after y g with ⟨e | a, g₁⟩
  · cases e with
    | unsupported c loc =>
      rw [after_tolerate_unsupported rfl hy]
      exact (DroppedSince.warned code c loc g₁).warnedSince
    | _ =>
      rw [after_tolerate_error rfl hy]
      exact .of_report_eq rfl
  · rw [after_tolerate_ok hy]
    exact .of_report_eq rfl

/-- Here the runs part: strict options fail with the construct, lenient ones report it. -/
theorem tolerate {x y : Compiling α} (hxy : Lockstep x y) (code : String) :
    Lockstep (Compiling.tolerate (strictly o resolve) code x)
      (Compiling.tolerate (leniently o resolve) code y) := by
  rw [tolerate_strict (s := strictly o resolve) rfl]
  constructor
  · intro g
    exact (hxy.warns g).trans (warnedSince_tolerate code y g)
  · intro g
    rcases hxy.agree g with ⟨hx, hr⟩ | ⟨c, loc, g', hx, hd⟩
    · rcases hy : after y g with ⟨e | a, g₁⟩
      · rw [hy] at hx hr
        cases e with
        | unsupported c loc =>
          rw [after_map_error hx, after_tolerate_unsupported rfl hy]
          exact Or.inr ⟨c, loc, g₁, rfl, (DroppedSince.warned code c loc g₁).of_report_eq hr⟩
        | _ =>
          rw [after_map_error hx, after_tolerate_error rfl hy]
          exact Or.inl ⟨rfl, hr⟩
      · rw [hy] at hx hr
        rw [after_map_ok hx, after_tolerate_ok hy]
        exact Or.inl ⟨rfl, hr⟩
    · rw [after_map_error hx]
      exact Or.inr ⟨c, loc, g', rfl, hd.trans (warnedSince_tolerate code y g)⟩

theorem record (name : String) :
    Lockstep (Compiling.record (strictly o resolve) name)
      (Compiling.record (leniently o resolve) name) := by
  apply of_report_eq (x := Compiling.record (leniently o resolve) name)
  intro g
  rw [after_record]
  split <;> rfl

theorem stepwise : Stepwise (strictly o resolve) (leniently o resolve) fun _ => Lockstep where
  escapeFn := rfl
  stringifyFn := rfl
  renderName := rfl
  pure := pure
  throw := fun _ => throw _
  bind := bind
  tolerate := fun code hxy => tolerate hxy code
  record := fun _ _ => record _

end Pass

end Lockstep

/-- The step never fails with an unsupported construct. -/
def NeverUnsupported (x : Compiling α) : Prop :=
  ∀ g e g', after x g = (.error e, g') → e.isUnsupported = false

theorem NeverUnsupported.pure (a : α) : NeverUnsupported (Pure.pure a) := by
  intro g e g' h
  cases h

theorem NeverUnsupported.throw {e : CompileError} (he : e.isUnsupported = false) :
    NeverUnsupported (throw e : Compiling α) := by
  intro g e' g' h
  cases h
  exact he

theorem NeverUnsupported.bind {x : Compiling α} {f : α → Compiling β} (hx : NeverUnsupported x)
    (hf : ∀ a, NeverUnsupported (f a)) : NeverUnsupported (x >>= f) := by
  intro g e g' h
  rcases hxg : after x g with ⟨e₁ | a, g₁⟩
  · rw [after_bind_error hxg] at h
    cases h
    exact hx g _ _ hxg
  · rw [after_bind_ok hxg] at h
    exact hf a g₁ e g' h

theorem NeverUnsupported.map {x : Compiling α} (f : α → β) (hx : NeverUnsupported x) :
    NeverUnsupported (f <$> x) := by
  rw [map_eq_pure_bind]
  exact hx.bind fun a => .pure (f a)

section Lenient
variable {s : Settings} (hs : s.options.strict = false)
include hs

theorem neverUnsupported_tolerate (code : String) (x : Compiling α) :
    NeverUnsupported (tolerate s code x) := by
  intro g e g' h
  rcases hx : after x g with ⟨e₁ | a, g₁⟩
  · by_cases he : e₁.isUnsupported = true
    · cases e₁ with
      | unsupported c loc =>
        rw [after_tolerate_unsupported hs hx] at h
        cases h
      | _ => cases he
    · rw [Bool.not_eq_true] at he
      rw [after_tolerate_error he hx] at h
      cases h
      exact he
  · rw [after_tolerate_ok hx] at h
    cases h

theorem neverUnsupported_checkBlockParams (names : List String) (loc : Option Location) :
    NeverUnsupported (checkBlockParams s names loc) := by
  unfold checkBlockParams
  split
  · exact .pure ()
  · exact (neverUnsupported_tolerate hs _ _).bind fun _ => .pure ()

theorem neverUnsupported_nodes (scope : Nat) (ns : List Node) :
    NeverUnsupported (nodes s scope ns) := by
  induction ns with
  | nil =>
    rw [nodes]
    exact .pure []
  | cons n ns ih =>
    rw [nodes]
    exact (neverUnsupported_tolerate hs _ _).bind fun _ => ih.bind fun _ => .pure _

/-- Every construct that the pass can refuse is tolerated around it. -/
theorem neverUnsupported_root (t : Node) : NeverUnsupported (root s t) := by
  cases t with
  | program p =>
    obtain ⟨ns, names, loc⟩ := p
    rw [root]
    exact (neverUnsupported_checkBlockParams hs _ _).bind fun _ =>
      (neverUnsupported_nodes hs _ _).bind fun _ => .pure _
  | _ => exact .throw rfl

end Lenient

end Compiling

/-- How the result of a lenient compilation follows from that of the strict one. -/
inductive Demotion : Except CompileError Compilation → Except CompileError Compilation → Prop
  | same {c : Compilation} : c.diagnostics = [] → Demotion (.ok c) (.ok c)
  | failed {e : CompileError} : e.isUnsupported = false → Demotion (.error e) (.error e)
  | failedLater {construct : Construct} {loc : Option Location} {e : CompileError} :
      e.isUnsupported = false → Demotion (.error (.unsupported construct loc)) (.error e)
  | dropped {construct : Construct} {loc : Option Location} {c : Compilation} {first : Diagnostic}
      {rest : List Diagnostic} : c.diagnostics = first :: rest →
      (∀ d ∈ c.diagnostics, d.severity = .warning) →
      first.message = "dropped unsupported construct: " ++ construct.text → first.loc = loc →
      Demotion (.error (.unsupported construct loc)) (.ok c)

theorem compile_demotion (t : Node) (o : Options) (resolve : Resolver) :
    Demotion (compile t { o with strict := true } resolve).result
      (compile t { o with strict := false } resolve).result := by
  have hnever := Compiling.neverUnsupported_root (s := Compiling.leniently o resolve) rfl t .none
  have hlock : Compiling.Lockstep (Compiling.root (Compiling.strictly o resolve) t)
      (Compiling.root (Compiling.leniently o resolve) t) := Compiling.Lockstep.stepwise.root t
  rcases hlock.agree .none with
    ⟨hs, hr⟩ | ⟨construct, loc, g', hs, hd⟩
  · rcases hl : Compiling.after (Compiling.root (Compiling.leniently o resolve) t) .none with
      ⟨e | f, g⟩
    · rw [hl] at hs
      rw [compile_of_error hs, compile_of_error hl]
      exact .failed (hnever e g hl)
    · rw [hl] at hs hr
      rw [compile_of_ok hs, compile_of_ok hl]
      exact .same (congrArg Report.entries hr)
  · rw [compile_of_error hs]
    rcases hl : Compiling.after (Compiling.root (Compiling.leniently o resolve) t) .none with
      ⟨e | f, g⟩
    · rw [compile_of_error hl]
      exact .failedLater (hnever e g hl)
    · rw [hl] at hd
      rw [compile_of_ok hl]
      obtain ⟨code, rest, hrest, hentries⟩ := hd
      refine .dropped hentries (fun d hd => ?_) rfl rfl
      rcases List.mem_cons.mp ((congrArg (d ∈ ·) hentries).mp hd) with rfl | hd
      · rfl
      · exact hrest d hd

/-- Two compilations that differ in strictness only. What strict options accept, lenient ones compile
to the same without a warning. Errors other than an unsupported construct are the same. Where strict
options fail with an unsupported construct, lenient ones fail for another reason or report that
construct first. So lenient options never fail with an unsupported construct, and where they report
nothing strict options give the same. -/
theorem strict_lenient_agree (t : Node) (o : Options) (resolve : Resolver) :
    let strict := (compile t { o with strict := true } resolve).result
    let lenient := (compile t { o with strict := false } resolve).result
    (∀ c, strict = .ok c → ∃ c', lenient = .ok c' ∧ c'.program = c.program ∧
      c'.helpers = c.helpers ∧ c.diagnostics = [] ∧ c'.diagnostics = []) ∧
    (∀ e, strict = .error e → e.isUnsupported = false → lenient = .error e) ∧
    (∀ construct loc, strict = .error (.unsupported construct loc) →
      (∃ e, lenient = .error e ∧ e.isUnsupported = false) ∨
      ∃ c first rest, lenient = .ok c ∧ c.diagnostics = first :: rest ∧
        (∀ d ∈ c.diagnostics, d.severity = .warning) ∧
        first.message = "dropped unsupported construct: " ++ construct.text ∧ first.loc = loc) ∧
    (∀ construct loc, lenient ≠ .error (.unsupported construct loc)) ∧
    (∀ c, lenient = .ok c → c.diagnostics = [] → strict = .ok c) := by
  intro strict lenient
  have h : Demotion strict lenient := compile_demotion t o resolve
  clear_value strict lenient
  refine ⟨?_, ?_, ?_, ?_, ?_⟩
  · rintro c rfl
    cases h with
    | same hd => exact ⟨c, rfl, rfl, rfl, hd, hd⟩
  · rintro e rfl he
    cases h with
    | failed => rfl
    | failedLater => cases he
    | dropped => cases he
  · rintro construct loc rfl
    cases h with
    | failed he => cases he
    | failedLater he => exact Or.inl ⟨_, rfl, he⟩
    | dropped hfirst hall hmessage hloc => exact Or.inr ⟨_, _, _, rfl, hfirst, hall, hmessage, hloc⟩
  · rintro construct loc rfl
    cases h with
    | failed he => cases he
    | failedLater he => cases he
  · rintro c rfl hd
    cases h with
    | same => rfl
    | dropped hfirst =>
      rw [hd] at hfirst
      cases hfirst

end Stencil
