import Stencil.Json.Basic
import Stencil.Script.Basic

/-!
# Values

The values that scripts compute with. A function is a function expression with the variables it
closed over, one of the two built-in functions, or a helper of the host, of which a value holds the
name and whatever the host needs to run it.
-/

namespace Stencil

set_option autoImplicit false

/-- The functions that are always there. -/
inductive Builtin where
  | escape
  | string
deriving Repr, DecidableEq

inductive Value (η : Type) where
  | undefined
  | null
  | bool (value : Bool)
  | number (value : Float)
  | string (value : String)
  | array (items : List (Value η))
  /-- The fields have distinct names; their order means nothing. -/
  | object (fields : List (String × Value η))
  | closure (function : Script.Function Script.Statement) (vars : List (String × Value η))
  | builtin (function : Builtin)
  | host (name : String) (helper : η)

/-- Variables, the innermost first. -/
abbrev Variables (η : Type) := List (String × Value η)

namespace Value

variable {η : Type}

instance : Inhabited (Value η) := ⟨.undefined⟩

def isTruthy : Value η → Bool
  | .undefined => false
  | .null => false
  | .bool b => b
  | .number x => x != 0 && !x.isNaN
  | .string s => !s.isEmpty
  | _ => true

/-- Neither `undefined` nor `null` has members. -/
def isNullish : Value η → Bool
  | .undefined => true
  | .null => true
  | _ => false

def isFunction : Value η → Bool
  | .closure .. => true
  | .builtin _ => true
  | .host .. => true
  | _ => false

def typeName : Value η → String
  | .undefined => "undefined"
  | .null => "null"
  | .bool _ => "boolean"
  | .number _ => "number"
  | .string _ => "string"
  | .array _ => "object"
  | .object _ => "object"
  | _ => "function"

mutual
/-- A document as a value; of repeated names in an object the last one counts. -/
def ofJson : Json → Value η
  | .null => .null
  | .bool b => .bool b
  | .num n => .number n.toFloat
  | .str s => .string s
  | .arr items => .array (ofItems items)
  | .obj fields => .object (ofFields fields)
def ofItems : List Json → List (Value η)
  | [] => []
  | j :: js => ofJson j :: ofItems js
def ofFields : List (String × Json) → List (String × Value η)
  | [] => []
  | (k, j) :: fs => if Json.hasField k fs then ofFields fs else (k, ofJson j) :: ofFields fs
end

/-- Sets a field: in place if there is one of that name, at the end otherwise. -/
def setField (name : String) (v : Value η) : List (String × Value η) → List (String × Value η)
  | [] => [(name, v)]
  | (k, w) :: fs => if k = name then (k, v) :: fs else (k, w) :: setField name v fs

theorem lookup_setField (n name : String) (v : Value η) (fields : List (String × Value η)) :
    (setField name v fields).lookup n = if n = name then some v else fields.lookup n := by
  induction fields with
  | nil =>
    by_cases h : n = name
    · simp [setField, h]
    · simp [setField, h, List.lookup_cons, beq_eq_false_iff_ne.mpr h]
  | cons f fs ih =>
    obtain ⟨k, w⟩ := f
    by_cases hk : k = name
    · by_cases h : n = name
      · simp [setField, hk, h]
      · simp [setField, hk, h, List.lookup_cons, beq_eq_false_iff_ne.mpr h]
    · by_cases h : n = k
      · subst h
        simp [setField, hk]
      · simp [setField, hk, List.lookup_cons, beq_eq_false_iff_ne.mpr h, ih]

end Value

end Stencil
