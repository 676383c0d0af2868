import Stencil.Json.Number

/-!
# JSON trees

An object keeps its fields in the order of the document, repeated names included: a reader of a
typed record refuses a repeated field that it knows, while a plain value keeps the last one
(`Json.lastWins`).
-/

namespace Stencil

set_option autoImplicit false

inductive Json where
  | null
  | bool (value : Bool)
  | num (value : Number)
  | str (value : String)
  | arr (items : List Json)
  | obj (fields : List (String × Json))

namespace Json

instance : Inhabited Json := ⟨.null⟩

mutual
/-- How many levels a document has: a scalar has one. -/
def depth : Json → Nat
  | .arr items => depthItems items + 1
  | .obj fields => depthFields fields + 1
  | _ => 1
def depthItems : List Json → Nat
  | [] => 0
  | j :: js => max j.depth (depthItems js)
def depthFields : List (String × Json) → Nat
  | [] => 0
  | (_, j) :: fs => max j.depth (depthFields fs)
end

def find? (name : String) : List (String × Json) → Option Json
  | [] => none
  | (k, j) :: fs => if k = name then some j else find? name fs

def hasField (name : String) (fields : List (String × Json)) : Bool :=
  fields.any fun f => f.1 == name

mutual
/-- The document as a plain value: of repeated names in an object only the last stays. -/
def lastWins : Json → Json
  | .arr items => .arr (lastWinsItems items)
  | .obj fields => .obj (lastWinsFields fields)
  | j => j
def lastWinsItems : List Json → List Json
  | [] => []
  | j :: js => j.lastWins :: lastWinsItems js
/-- Drops every field whose name comes again later. -/
def lastWinsFields : List (String × Json) → List (String × Json)
  | [] => []
  | (k, j) :: fs =>
    if hasField k fs then lastWinsFields fs else (k, j.lastWins) :: lastWinsFields fs
end

theorem find?_isSome (name : String) (fields : List (String × Json)) :
    (find? name fields).isSome = hasField name fields := by
  induction fields with
  | nil => rfl
  | cons f fs ih =>
    obtain ⟨k, j⟩ := f
    by_cases h : k = name
    · simp [find?, hasField, h]
    · simpa [find?, hasField, h, beq_eq_false_iff_ne.mpr h] using ih

/-- Dropping repeated fields loses no name. -/
theorem hasField_lastWinsFields (name : String) (fields : List (String × Json)) :
    hasField name (lastWinsFields fields) = hasField name fields := by
  induction fields with
  | nil => rfl
  | cons f fs ih =>
    obtain ⟨k, j⟩ := f
    by_cases hk : hasField k fs = true
    · by_cases h : k = name
      · subst h
        simp only [lastWinsFields, hk, if_true, ih]
        simp [hasField]
      · simp only [lastWinsFields, hk, if_true, ih]
        simp [hasField, h]
    · simp only [lastWinsFields, hk]
      simp only [hasField, List.any_cons] at ih ⊢
      simp [ih]

/-- The field of that name of an object, `null` if there is none or the document is no object. -/
def get (j : Json) (name : String) : Json :=
  match j with
  | .obj fields => (find? name fields).getD .null
  | _ => .null

end Json

end Stencil
