import Mathlib.Data.List.Nodup
import Stencil.Proofs.Compile.Recording
import Stencil.Proofs.Compile.Stepwise

/-!
# What the resolver is asked

A compilation asks its resolver once for each helper that it records, and for nothing else: not for
the built-in helpers, and not for names that no helper can have. It stops at the first helper that the
resolver fails on, also where it drops what it cannot compile (`compile_asksOnce`).
-/

namespace Stencil

set_option autoImplicit false

open Template (Node)

/-- Names that a resolver can be asked for one after the other: different ones, of helpers that can be
called and are not built in. -/
structure Askable (o : Options) (names : List String) : Prop where
  nodup : names.Nodup
  callable : ∀ name ∈ names, Callable o name
  notConditional : ∀ name ∈ names, Compiling.isConditional name = false

theorem askable_nil (o : Options) : Askable o [] :=
  ⟨List.nodup_nil, List.forall_mem_nil _, List.forall_mem_nil _⟩

theorem Askable.append {o : Options} {names : List String} (h : Askable o names) {name : String}
    (hn : name ∉ names) (hc : Callable o name) (hcond : Compiling.isConditional name = false) :
    Askable o (names ++ [name]) where
  nodup := by
    rw [← List.concat_eq_append]
    exact h.nodup.concat hn
  callable := List.forall_mem_append.mpr ⟨h.callable, List.forall_mem_singleton.mpr hc⟩
  notConditional := List.forall_mem_append.mpr ⟨h.notConditional, List.forall_mem_singleton.mpr hcond⟩

/-- The resolver has an answer for each of these names. -/
def Resolver.AnswersAll (resolve : Resolver) (names : List String) : Prop :=
  ∀ name ∈ names, ∃ source, resolve name = .ok source

namespace Compiling

variable {α β : Type} {s : Settings}

/-- Between two steps all questions have been answered, and the table has the answers. -/
structure Consistent (s : Settings) (g : Gathered) : Prop where
  names : g.helpers.names = g.asked
  askable : Askable s.options g.asked
  answered : s.resolve.AnswersAll g.asked

theorem consistent_none (s : Settings) : Consistent s .none where
  names := rfl
  askable := askable_nil s.options
  answered := List.forall_mem_nil _

/-- How a step ends. An error of the resolver is about the last question. -/
inductive Ended (s : Settings) : Except CompileError α → Gathered → Prop
  | ok {a : α} {g : Gathered} : Consistent s g → Ended s (.ok a) g
  | failed {e : CompileError} {g : Gathered} : e.isResolution = false → Consistent s g →
      Ended s (.error e) g
  | refused {helper cause : String} {earlier : List String} {g : Gathered} :
      g.asked = earlier ++ [helper] → Askable s.options g.asked → s.resolve.AnswersAll earlier →
      s.resolve helper = .error cause → Ended s (.error (.helperResolution helper cause)) g

theorem Ended.error {e : CompileError} {g : Gathered} (h : Ended s (.error e : Except _ α) g) :
    Ended s (.error e : Except _ β) g := by
  cases h with
  | failed he hg => exact .failed he hg
  | refused hasked haskable hearlier hcause => exact .refused hasked haskable hearlier hcause

def Asks (s : Settings) (x : Compiling α) : Prop :=
  ∀ g, Consistent s g → Ended s (after x g).1 (after x g).2

namespace Asks

theorem pure (a : α) : Asks s (Pure.pure a) := fun _ hg => .ok hg

theorem throw {e : CompileError} (he : e.isResolution = false) : Asks s (throw e : Compiling α) :=
  fun _ hg => .failed he hg

theorem bind {x : Compiling α} {f : α → Compiling β} (hx : Asks s x) (hf : ∀ a, Asks s (f a)) :
    Asks s (x >>= f) := by
  intro g hg
  have hend := hx g hg
  rcases hxg : after x g with ⟨e | a, g₁⟩
  · rw [hxg] at hend
    rw [after_bind_error hxg]
    exact hend.error
  · rw [hxg] at hend
    rw [after_bind_ok hxg]
    cases hend with
    | ok hg₁ => exact hf a g₁ hg₁

/-- A warning is no question, and an error of the resolver is not tolerated. -/
theorem tolerate {x : Compiling α} (code : String) (hx : Asks s x) :
    Asks s (Compiling.tolerate s code x) := by
  intro g hg
  have hend := hx g hg
  rcases hxg : after x g with ⟨e | a, g₁⟩
  · rw [hxg] at hend
    by_cases hs : s.options.strict = true
    · rw [tolerate_strict hs, after_map_error hxg]
      exact hend.error
    rw [Bool.not_eq_true] at hs
    cases e with
    | unsupported c loc =>
      rw [after_tolerate_unsupported hs hxg]
      cases hend with
      | failed _ hg₁ => exact .ok ⟨hg₁.names, hg₁.askable, hg₁.answered⟩
    | _ =>
      rw [after_tolerate_error rfl hxg]
      exact hend.error
  · rw [hxg] at hend
    rw [after_tolerate_ok hxg]
    cases hend with
    | ok hg₁ => exact .ok hg₁

theorem record {name : String} (hc : Callable s.options name) (hcond : isConditional name = false) :
    Asks s (Compiling.record s name) := by
  intro g hg
  rcases g.helpers.record_cases name s.resolve with
    ⟨-, h⟩ | ⟨hn, cause, hcause, h⟩ | ⟨hn, source, hsource, h⟩
  · have hsame : g.recorded name s.resolve = g := by simp [Gathered.recorded, h]
    rw [after_record_ok (by rw [h]), hsame]
    exact .ok hg
  -- the table has all that was asked for, so what it has not is a new question
  · have hasked : (g.recorded name s.resolve).asked = g.asked ++ [name] := by
      simp [Gathered.recorded, h]
    rw [hg.names] at hn
    rw [after_record_error (by rw [h])]
    refine .refused hasked ?_ hg.answered hcause
    rw [hasked]
    exact hg.askable.append hn hc hcond
  · have hasked : (g.recorded name s.resolve).asked = g.asked ++ [name] := by
      simp [Gathered.recorded, h]
    have hnames : (g.recorded name s.resolve).helpers.names = g.helpers.names ++ [name] := by
      simp [Gathered.recorded, h, HelperTable.names]
    rw [hg.names] at hn hnames
    rw [after_record_ok (by rw [h])]
    refine .ok ⟨hnames.trans hasked.symm, ?_, ?_⟩
    · rw [hasked]
      exact hg.askable.append hn hc hcond
    · rw [hasked]
      exact List.forall_mem_append.mpr
        ⟨hg.answered, List.forall_mem_singleton.mpr ⟨source, hsource⟩⟩

theorem stepwise : Stepwise s s fun _ x _ => Asks s x where
  escapeFn := rfl
  stringifyFn := rfl
  renderName := rfl
  pure := pure
  throw := throw
  bind := bind
  tolerate := tolerate
  record := record

end Asks

end Compiling

/-- What is right about the questions that a compilation asked its resolver. -/
structure AsksOnce (o : Options) (resolve : Resolver) (r : Compiled) : Prop where
  askable : Askable o r.asked
  names : ∀ c, r.result = .ok c → r.asked = c.helpers.names
  /-- A compilation ends with the first question that has no answer. -/
  refused : ∀ helper cause, r.result = .error (.helperResolution helper cause) →
    ∃ earlier, r.asked = earlier ++ [helper] ∧ resolve.AnswersAll earlier ∧
      resolve helper = .error cause
  answered : (∀ helper cause, r.result ≠ .error (.helperResolution helper cause)) →
    resolve.AnswersAll r.asked

/-- Whether it succeeds or fails, a compilation asks its resolver for helpers only, and for each of
them once. -/
theorem compile_asksOnce (t : Node) (o : Options) (resolve : Resolver) :
    AsksOnce o resolve (compile t o resolve) := by
  have hend := Compiling.Asks.stepwise.root t .none (Compiling.consistent_none ⟨o, resolve⟩)
  rcases h : Compiling.after (Compiling.root ⟨o, resolve⟩ t) .none with ⟨e | f, g⟩
  · rw [h] at hend
    rw [compile_of_error h]
    cases hend with
    | failed he hg =>
      refine ⟨hg.askable, ?_, ?_, fun _ => hg.answered⟩
      · intro c hc
        cases hc
      · intro helper cause heq
        cases heq
        cases he
    | refused hasked haskable hearlier hcause =>
      refine ⟨haskable, ?_, ?_, fun hne => absurd rfl (hne _ _)⟩
      · intro c hc
        cases hc
      · intro helper cause heq
        cases heq
        exact ⟨_, hasked, hearlier, hcause⟩
  · rw [h] at hend
    rw [compile_of_ok h]
    cases hend with
    | ok hg =>
      refine ⟨hg.askable, ?_, ?_, fun _ => hg.answered⟩
      · intro c hc
        cases hc
        exact hg.names.symm
      · intro helper cause heq
        cases heq

end Stencil
