import Stencil.Evaluator.Basic
import Stencil.Script.Build

/-!
# Names written bare and quoted

A script can write the name of a member or of a field bare or as a string. `Expr.get` and `Property.of`
write identifiers bare; `Expr.getBy` and `Property.by` leave the choice open. To an evaluation all
choices are the same (`Evaluator.evaluate_naming`): members of members are read from left to right, up
to the first one that would be read from `undefined` or `null`, and of the fields of one name the last
one counts.
-/

namespace Stencil

set_option autoImplicit false

open Script (Expr Property)

namespace Script

/-- The member of that name, written bare if the choice says so. -/
def Expr.getBy (bare : String → Bool) (target : Expr) (name : String) : Expr :=
  if bare name then .member target (.ident name) false else .member target (text name) true

def Expr.chainBy (bare : String → Bool) (root : String) (parts : List String) : Expr :=
  parts.foldl (getBy bare) (.ident root)

def Property.by (bare : String → Bool) (key : String) (value : Expr) : Property Expr where
  key := if bare key then .ident key else .text key
  value := value
  computed := false
  method := false
  shorthand := false

theorem Property.name?_by (bare : String → Bool) (key : String) (value : Expr) :
    (Property.by bare key value).name? = some key := by
  by_cases h : bare key = true
  · simp [Property.name?, Property.by, h]
  · simp [Property.name?, Property.by, h, Expr.text, Expr.ofScalar, Literal.of]

end Script

variable {η : Type}

namespace Value

/-- Members of members, from left to right. The error names the first part that would be read from
`undefined` or `null`. -/
def follow (v : Value η) (parts : List String) : Except EvalError (Value η) :=
  match (List.range parts.length).find? fun i => ((parts.take i).foldl get v).isNullish with
  | none => .ok (parts.foldl get v)
  | some i => .error (.memberOf ((parts.take i).foldl get v).typeName (parts[i]?.getD ""))

theorem follow_nil (v : Value η) : v.follow [] = .ok v := rfl

theorem follow_cons (v : Value η) (key : String) (parts : List String) :
    v.follow (key :: parts) =
      if v.isNullish then .error (.memberOf v.typeName key) else (v.get key).follow parts := by
  rw [follow, List.length_cons, List.range_succ_eq_map, List.find?_cons]
  cases hv : v.isNullish with
  | true => simp [hv]
  | false =>
    simp only [List.take_zero, List.foldl_nil, hv, List.find?_map, Function.comp_def,
      List.take_succ_cons, List.foldl_cons, Bool.false_eq_true, if_false]
    rw [follow]
    cases (List.range parts.length).find? fun i =>
        ((parts.take i).foldl get (v.get key)).isNullish with
    | none => rfl
    | some i => simp

/-- Sets fields from left to right. -/
def setFields (fields : List (String × Value η)) (named : List (String × Value η)) :
    List (String × Value η) :=
  named.foldl (fun fields p => setField p.1 p.2 fields) fields

/-- Of the fields of one name the last one counts. -/
theorem lookup_setFields (fields named : List (String × Value η)) (key : String) :
    (setFields fields named).lookup key = (named.reverse.lookup key).or (fields.lookup key) := by
  induction named generalizing fields with
  | nil => rfl
  | cons p named ih =>
    obtain ⟨name, v⟩ := p
    have hset := ih (setField name v fields)
    rw [lookup_setField] at hset
    rw [List.reverse_cons, List.lookup_append, List.lookup_cons, List.lookup_nil]
    refine hset.trans ?_
    by_cases h : key = name
    · cases named.reverse.lookup key <;> simp [h]
    · cases named.reverse.lookup key <;> simp [h, beq_eq_false_iff_ne.mpr h]

theorem get_setFields (named : List (String × Value η)) (key : String) :
    (object (setFields [] named)).get key = (named.reverse.lookup key).getD .undefined := by
  simp only [get, lookup_setFields, List.lookup_nil, Option.or_none]

end Value

namespace Evaluator

variable (ev : Evaluator η) (call : Value η → List (Value η) → Eval η (Value η)) (vars : Variables η)
  (bare : String → Bool)

theorem evaluate_getBy (target : Expr) (name : String) :
    evaluate ev call vars (target.getBy bare name) =
      evaluate ev call vars target >>= fun v => member v name := by
  unfold Expr.getBy
  split
  · rw [evaluate]
  · simp [evaluate, Expr.text, Expr.ofScalar, Script.Literal.of, scalar, Value.text]

theorem member_bind_follow (v : Value η) (key : String) (parts : List String) :
    (member v key >>= fun w => Eval.ofOutcome (w.follow parts)) =
      Eval.ofOutcome (v.follow (key :: parts)) := by
  rw [Value.follow_cons, member]
  split
  · rfl
  · rw [pure_bind]

/-- The innermost access is made first, so the induction moves the first part of the path into the
expression. -/
theorem evaluate_foldl_getBy (e : Expr) (parts : List String) :
    evaluate ev call vars (parts.foldl (Expr.getBy bare) e) =
      evaluate ev call vars e >>= fun v => Eval.ofOutcome (v.follow parts) := by
  induction parts generalizing e with
  | nil => simp only [List.foldl_nil, Value.follow_nil, Eval.ofOutcome, bind_pure]
  | cons key parts ih =>
    rw [List.foldl_cons, ih, evaluate_getBy, bind_assoc]
    simp only [member_bind_follow]

theorem evaluate_chainBy (root : String) (parts : List String) :
    evaluate ev call vars (.chainBy bare root parts) = (do
      let v ← ev.lookup vars root
      Eval.ofOutcome (v.follow parts)) := by
  rw [Expr.chainBy, evaluate_foldl_getBy, evaluate]

theorem evaluateFields_by (fields : List (String × Value η)) (key : String) (e : Expr)
    (ps : List (Property Expr)) :
    evaluateFields ev call vars fields (.by bare key e :: ps) = (do
      let v ← evaluate ev call vars e
      evaluateFields ev call vars (Value.setField key v fields) ps) := by
  have h := Property.name?_by bare key e
  unfold Property.by at h ⊢
  rw [evaluateFields, h]

/-- The values of named expressions, from left to right. -/
def evaluateNamed (pairs : List (String × Expr)) : Eval η (List (String × Value η)) :=
  pairs.mapM fun p => do
    let v ← evaluate ev call vars p.2
    return (p.1, v)

theorem evaluateFields_map_by (fields : List (String × Value η)) (pairs : List (String × Expr)) :
    evaluateFields ev call vars fields (pairs.map fun p => .by bare p.1 p.2) = (do
      let named ← evaluateNamed ev call vars pairs
      return Value.setFields fields named) := by
  induction pairs generalizing fields with
  | nil => simp [evaluateFields, evaluateNamed, Value.setFields]
  | cons p pairs ih =>
    rw [List.map_cons, evaluateFields_by, evaluateNamed, List.mapM_cons]
    simp only [ih, evaluateNamed, bind_assoc, pure_bind]
    rfl

theorem evaluate_object_by (pairs : List (String × Expr)) :
    evaluate ev call vars (.object (pairs.map fun p => .by bare p.1 p.2)) = (do
      let named ← evaluateNamed ev call vars pairs
      return .object (Value.setFields [] named)) := by
  rw [evaluate, evaluateFields_map_by, bind_assoc]
  simp only [pure_bind]

/-- What comes of a chain of members and of an object literal. Neither depends on which names are
written bare. -/
theorem evaluate_naming :
    (∀ root parts, evaluate ev call vars (.chain root parts) = (do
      let v ← ev.lookup vars root
      Eval.ofOutcome (v.follow parts))) ∧
    (∀ pairs : List (String × Expr),
      evaluate ev call vars (.object (pairs.map fun p => .of p.1 p.2)) = (do
        let named ← evaluateNamed ev call vars pairs
        return .object (Value.setFields [] named))) ∧
    (∀ (named : List (String × Value η)) key,
      (Value.object (Value.setFields [] named)).get key =
        (named.reverse.lookup key).getD .undefined) ∧
    ∀ bare, (∀ root parts, evaluate ev call vars (.chainBy bare root parts) =
        evaluate ev call vars (.chain root parts)) ∧
      ∀ pairs : List (String × Expr),
        evaluate ev call vars (.object (pairs.map fun p => .by bare p.1 p.2)) =
          evaluate ev call vars (.object (pairs.map fun p => .of p.1 p.2)) := by
  have hchain := evaluate_chainBy ev call vars Script.isIdentifier
  have hobject := evaluate_object_by ev call vars Script.isIdentifier
  refine ⟨hchain, hobject, Value.get_setFields, fun bare => ⟨fun root parts => ?_, fun pairs => ?_⟩⟩
  · exact (evaluate_chainBy ev call vars bare root parts).trans (hchain root parts).symm
  · exact (evaluate_object_by ev call vars bare pairs).trans (hobject pairs).symm

end Evaluator

end Stencil
