import Stencil.Proofs.Compile.Translation
import Stencil.Proofs.Evaluator.Outcome

/-!
# Variables and the stack of contexts

The functions of a script see the contexts around them as variables `data1`, `data2`, and so on,
the outermost first; an interpretation has them on a stack, the innermost first. `Frame` says that
some variables are such a stack, and that they hide no global name. A function is entered with one
more of both (`Frame.push`).
-/

namespace Stencil

set_option autoImplicit false

open Compiling (contextName isContextName)
open Eval (Yields yields_pure yields_fail)

namespace Compiling

theorem toList_contextName (scope : Nat) :
    (contextName scope).toList = 'd' :: 'a' :: 't' :: 'a' :: Nat.toDigits 10 scope := by
  have h : (toString scope).toList = Nat.toDigits 10 scope := Nat.toList_repr
  rw [contextName, String.toList_append, h]
  rfl

theorem isContextName_contextName (scope : Nat) : isContextName (contextName scope) = true := by
  have hdigit : (Nat.toDigits 10 scope).all Char.isDigit = true :=
    List.all_eq_true.mpr fun _ hc => Nat.isDigit_of_mem_toDigits (by omega) (by omega) hc
  have hne : (Nat.toDigits 10 scope).isEmpty = false :=
    List.isEmpty_eq_false_iff.mpr Nat.toDigits_ne_nil
  unfold isContextName
  rw [toList_contextName]
  simp [hdigit, hne]

theorem contextName_injective {i j : Nat} (h : contextName i = contextName j) : i = j := by
  have hdigits : Nat.toDigits 10 i = Nat.toDigits 10 j := by
    have hl := congrArg String.toList h
    simpa only [toList_contextName, List.cons.injEq, true_and] using hl
  rw [← Nat.ofDigitChars_ten_toDigits (n := i), hdigits, Nat.ofDigitChars_ten_toDigits]

end Compiling

variable {η : Type}

/-- Variables that hold a stack of contexts. -/
structure Frame (ev : Evaluator η) (vars : Variables η) (stack : List (Value η)) : Prop where
  context : ∀ i v, stack[i]? = some v → vars.lookup (contextName (stack.length - i)) = some v
  global : ∀ name v, isContextName name = false → vars.lookup name = some v →
    ev.globals.lookup name = some v

namespace Frame

variable {ev : Evaluator η} {vars : Variables η} {stack : List (Value η)}

theorem nil (ev : Evaluator η) : Frame ev [] [] where
  context _ _ h := by cases h
  global _ _ _ h := by cases h

/-- A global name may be bound to what it stands for. -/
theorem bind (h : Frame ev vars []) {name : String} {v : Value η}
    (hv : ev.globals.lookup name = some v) : Frame ev ((name, v) :: vars) [] where
  context _ _ hi := by cases hi
  global n w hn hw := by
    rw [List.lookup_cons] at hw
    split at hw
    · rename_i heq
      cases hw
      rw [beq_iff_eq.mp heq, hv]
    · exact h.global n w hn hw

/-- A function is entered with its context on top of the stack. -/
theorem push (h : Frame ev vars stack) (v : Value η) :
    Frame ev ((contextName (stack.length + 1), v) :: vars) (v :: stack) where
  context i w hi := by
    cases i with
    | zero =>
      cases hi
      simp
    | succ i =>
      have hi' : stack[i]? = some w := by simpa using hi
      obtain ⟨hlt, -⟩ := List.getElem?_eq_some_iff.mp hi'
      -- the new variable is that of a deeper scope
      have hne : contextName (stack.length - i) ≠ contextName (stack.length + 1) := by
        intro heq
        have := Compiling.contextName_injective heq
        omega
      have hlen : (v :: stack).length - (i + 1) = stack.length - i := by simp
      rw [hlen, List.lookup_cons, beq_eq_false_iff_ne.mpr hne]
      exact h.context i w hi'
  global name w hname hw := by
    have hne : name ≠ contextName (stack.length + 1) := by
      rintro rfl
      rw [Compiling.isContextName_contextName] at hname
      cases hname
    rw [List.lookup_cons, beq_eq_false_iff_ne.mpr hne] at hw
    exact h.global name w hname hw

/-- A name that no context has stands for what it stands for globally, and for itself if it is
`undefined`. -/
theorem lookup_eq (h : Frame ev vars stack) {name : String} (hname : isContextName name = false) :
    ev.lookup vars name =
      match ev.globals.lookup name with
      | some v => pure v
      | none => if name = "undefined" then pure .undefined else Eval.fail (.reference name) := by
  unfold Evaluator.lookup
  cases hvar : vars.lookup name with
  | some w => rw [h.global name w hname hvar]
  | none => rfl

/-- A global name that is not hidden is found. -/
theorem lookup_global (h : Frame ev vars stack) {name : String} {v : Value η}
    (hname : isContextName name = false) (hv : ev.globals.lookup name = some v) :
    ev.lookup vars name = pure v := by
  rw [h.lookup_eq hname, hv]

theorem lookup_undefined (h : Frame ev vars stack) (hnone : ev.globals.lookup "undefined" = none) :
    ev.lookup vars "undefined" = pure .undefined := by
  rw [h.lookup_eq (by decide), hnone]
  rfl

theorem lookup_context (h : Frame ev vars stack) {i : Nat} (hi : i < stack.length) :
    ev.lookup vars (contextName (stack.length - i)) = pure (stack[i]?.getD .undefined) := by
  have hv := h.context i stack[i] (List.getElem?_eq_getElem hi)
  simp [Evaluator.lookup, hv, List.getElem?_eq_getElem hi]

end Frame

namespace Evaluator

theorem bindImports_importing (ev : Evaluator η) (name source : String)
    (rest : List Script.Statement) (vars : Variables η) :
    ev.bindImports (.importing name source :: rest) vars =
      ev.imported name source >>= fun v => ev.bindImports rest ((name, v) :: vars) := by
  simp [Script.Statement.importing, Script.Literal.of, bindImports, bindImport]

end Evaluator

/-- Imports bind names to what they stand for globally, up to one that stands for nothing. -/
theorem Frame.bindImports {ev : Evaluator η} {vars : Variables η} (h : Frame ev vars [])
    (imports : List (String × String)) (rest : List Script.Statement) :
    let statements := imports.map (fun (name, source) => .importing name source) ++ rest
    (∃ vars', Frame ev vars' [] ∧
      ev.bindImports statements vars = ev.bindImports rest vars') ∨
    ∃ name source, (name, source) ∈ imports ∧ ev.globals.lookup name = none ∧
      ev.bindImports statements vars = Eval.fail (.unresolvedImport name source) := by
  induction imports generalizing vars with
  | nil => exact Or.inl ⟨vars, h, rfl⟩
  | cons entry imports ih =>
    obtain ⟨name, source⟩ := entry
    simp only [List.map_cons, List.cons_append, Evaluator.bindImports_importing]
    cases hv : ev.globals.lookup name with
    | none =>
      refine Or.inr ⟨name, source, List.mem_cons_self, hv, ?_⟩
      rw [Evaluator.imported, hv]
      rfl
    | some v =>
      rw [Evaluator.imported, hv, pure_bind]
      rcases ih (h.bind hv) with hok | ⟨n, s, hm, hnone, hfail⟩
      · exact Or.inl hok
      · exact Or.inr ⟨n, s, List.mem_cons_of_mem _ hm, hnone, hfail⟩

end Stencil
