import Stencil.Compile.Pass

/-!
# Steps of a compilation

`after x g` is what the step `x` comes to from what was gathered so far: its outcome, and what is
gathered then. Strict options turn `tolerate` into nothing at all; lenient ones turn an unsupported
construct into a warning.
-/

namespace Stencil

set_option autoImplicit false

open Template (Location)

/-- What is gathered after a warning for a dropped construct. -/
def Gathered.warned (g : Gathered) (code : String) (c : Construct) (loc : Option Location) :
    Gathered :=
  { g with report := g.report.warn code ("dropped unsupported construct: " ++ c.text) loc }

/-- What is gathered after a helper was recorded, or failed to be. -/
def Gathered.recorded (g : Gathered) (name : String) (resolve : Resolver) : Gathered where
  helpers := (g.helpers.record name resolve).table
  report := g.report
  asked := g.asked ++ (g.helpers.record name resolve).asked

/-- Errors that lenient options demote to warnings. -/
def CompileError.isUnsupported : CompileError → Bool
  | .unsupported .. => true
  | _ => false

namespace Compiling

variable {α β : Type}

/-- The outcome of a step, and what is gathered after it. -/
def after (x : Compiling α) (g : Gathered) : Except CompileError α × Gathered := x.run.run g

theorem ext {x y : Compiling α} (h : ∀ g, after x g = after y g) : x = y := funext h

@[simp] theorem after_pure (a : α) (g : Gathered) : after (pure a) g = (.ok a, g) := rfl

@[simp] theorem after_throw (e : CompileError) (g : Gathered) :
    after (throw e : Compiling α) g = (.error e, g) := rfl

@[simp] theorem after_unsupported (c : Construct) (loc : Option Location) (g : Gathered) :
    after (unsupported c loc : Compiling α) g = (.error (.unsupported c loc), g) := rfl

@[simp] theorem after_warn (code : String) (c : Construct) (loc : Option Location) (g : Gathered) :
    after (warn code c loc) g = (.ok (), g.warned code c loc) := rfl

theorem after_bind_ok {x : Compiling α} {f : α → Compiling β} {g g' : Gathered} {a : α}
    (h : after x g = (.ok a, g')) : after (x >>= f) g = after (f a) g' := by
  unfold after at h ⊢
  rw [ExceptT.run_bind, StateT.run_bind, h]
  rfl

theorem after_bind_error {x : Compiling α} {f : α → Compiling β} {g g' : Gathered}
    {e : CompileError} (h : after x g = (.error e, g')) : after (x >>= f) g = (.error e, g') := by
  unfold after at h ⊢
  rw [ExceptT.run_bind, StateT.run_bind, h]
  rfl

theorem after_map_ok {x : Compiling α} {f : α → β} {g g' : Gathered} {a : α}
    (h : after x g = (.ok a, g')) : after (f <$> x) g = (.ok (f a), g') := by
  rw [map_eq_pure_bind, after_bind_ok h, after_pure]

theorem after_map_error {x : Compiling α} {f : α → β} {g g' : Gathered} {e : CompileError}
    (h : after x g = (.error e, g')) : after (f <$> x) g = (.error e, g') := by
  rw [map_eq_pure_bind, after_bind_error h]

theorem after_tryCatch_ok {x : Compiling α} {f : CompileError → Compiling α} {g g' : Gathered}
    {a : α} (h : after x g = (.ok a, g')) : after (tryCatch x f) g = (.ok a, g') := by
  unfold after at h ⊢
  rw [ExceptT.run_tryCatch, StateT.run_bind, h]
  rfl

theorem after_tryCatch_error {x : Compiling α} {f : CompileError → Compiling α} {g g' : Gathered}
    {e : CompileError} (h : after x g = (.error e, g')) :
    after (tryCatch x f) g = after (f e) g' := by
  unfold after at h ⊢
  rw [ExceptT.run_tryCatch, StateT.run_bind, h]
  rfl

section Tolerate
variable {s : Settings} {code : String} {x : Compiling α} {g g' : Gathered}

theorem after_tolerate_ok {a : α} (h : after x g = (.ok a, g')) :
    after (tolerate s code x) g = (.ok (some a), g') :=
  after_tryCatch_ok (after_map_ok h)

theorem after_tolerate_error {e : CompileError} (he : e.isUnsupported = false)
    (h : after x g = (.error e, g')) : after (tolerate s code x) g = (.error e, g') := by
  unfold tolerate
  rw [after_tryCatch_error (after_map_error h)]
  cases e <;> first | rfl | cases he

theorem after_tolerate_unsupported {c : Construct} {loc : Option Location}
    (hs : s.options.strict = false) (h : after x g = (.error (.unsupported c loc), g')) :
    after (tolerate s code x) g = (.ok none, g'.warned code c loc) := by
  unfold tolerate
  rw [after_tryCatch_error (after_map_error h)]
  simp only [hs, Bool.false_eq_true, if_false]
  rfl

/-- Strict options tolerate nothing. -/
theorem tolerate_strict (hs : s.options.strict = true) (code : String) (x : Compiling α) :
    tolerate s code x = some <$> x := by
  apply ext
  intro g
  rcases h : after x g with ⟨_ | a, g'⟩
  case error e =>
    unfold tolerate
    rw [after_map_error h, after_tryCatch_error (after_map_error h)]
    cases e <;> simp [hs]
  case ok => rw [after_map_ok h, after_tolerate_ok h]

end Tolerate

theorem ignore_strict {s : Settings} (hs : s.options.strict = true) (c : Construct)
    (loc : Option Location) : ignore s c loc = unsupported c loc := by
  unfold ignore
  rw [tolerate_strict hs]
  rfl

theorem ignore_lenient {s : Settings} (hs : s.options.strict = false) (c : Construct)
    (loc : Option Location) : ignore s c loc = warn Diagnostic.ignoredParams c loc := by
  apply ext
  intro g
  have h : after (tolerate s Diagnostic.ignoredParams (unsupported (α := Unit) c loc)) g =
      (.ok none, g.warned Diagnostic.ignoredParams c loc) :=
    after_tolerate_unsupported hs (after_unsupported c loc g)
  unfold ignore
  rw [after_bind_ok h, after_pure, after_warn]

/-- Recording keeps the table's answer, and fails with its failure. -/
theorem after_record (s : Settings) (name : String) (g : Gathered) :
    after (record s name) g = after (match (g.helpers.record name s.resolve).answer with
      | .ok _ => pure ()
      | .error cause => throw (.helperResolution name cause)) (g.recorded name s.resolve) := rfl

theorem after_record_ok {s : Settings} {name : String} {g : Gathered} {source : Option String}
    (h : (g.helpers.record name s.resolve).answer = .ok source) :
    after (record s name) g = (.ok (), g.recorded name s.resolve) := by
  rw [after_record, h, after_pure]

theorem after_record_error {s : Settings} {name cause : String} {g : Gathered}
    (h : (g.helpers.record name s.resolve).answer = .error cause) :
    after (record s name) g = (.error (.helperResolution name cause), g.recorded name s.resolve) := by
  rw [after_record, h, after_throw]

end Compiling

theorem compile_of_ok {t : Template.Node} {o : Options} {resolve : Resolver}
    {f : Script.Function Script.Statement} {g : Gathered}
    (h : Compiling.after (Compiling.root ⟨o, resolve⟩ t) Gathered.none = (.ok f, g)) :
    compile t o resolve =
      ⟨.ok ⟨Compilation.module o.exported g.helpers f, g.helpers, g.report.entries⟩, g.asked,
        g.report.entries⟩ := by
  unfold Compiling.after at h
  unfold compile
  rw [h]
  rfl

theorem compile_of_error {t : Template.Node} {o : Options} {resolve : Resolver} {e : CompileError}
    {g : Gathered} (h : Compiling.after (Compiling.root ⟨o, resolve⟩ t) Gathered.none = (.error e, g)) :
    compile t o resolve = ⟨.error e, g.asked, g.report.entries⟩ := by
  unfold Compiling.after at h
  unfold compile
  rw [h]
  rfl

end Stencil
