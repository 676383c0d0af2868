import Stencil.Decimal.Layout
import Stencil.Value.Basic

/-!
# Values as text, and their members
-/

namespace Stencil

set_option autoImplicit false

namespace Value

variable {η : Type}

/-- Numbers in output are positional whatever their size, without a fraction if they are whole, and
zero has no sign. -/
def numberLayout : Decimal.Layout where
  plain _ := true
  pointZero := false
  signedZero := false
  tie := .up
  nan := "NaN"
  infinity := "Infinity"

def numberText (x : Float) : String := numberLayout.text x

mutual
def text : Value η → String
  | .undefined => "undefined"
  | .null => "null"
  | .bool b => if b then "true" else "false"
  | .number x => numberText x
  | .string s => s
  | .array items => ",".intercalate (texts items)
  | .object _ => "[object Object]"
  | .closure .. => "function () \x7b [native code] \x7d"
  | .builtin _ => "function () \x7b [native code] \x7d"
  | .host .. => "function () \x7b [native code] \x7d"
/-- The texts of an array's items; those of `undefined` and `null` are empty. -/
def texts : List (Value η) → List String
  | [] => []
  | v :: vs => (if v.isNullish then "" else v.text) :: texts vs
end

/-- The index that a key spells: decimal digits, a plus in front allowed. -/
def index? (key : String) : Option Nat :=
  let ds := match key.toList with
    | '+' :: ds => ds
    | ds => ds
  if !ds.isEmpty && ds.all Char.isDigit then
    some (ds.foldl (fun n c => n * 10 + (c.toNat - 48)) 0)
  else none

/-- The number of 16-bit units that some characters take. -/
def units : List Char → Nat
  | [] => 0
  | c :: cs => (if c.toNat < 0x10000 then 1 else 2) + units cs

def ofCount (n : Nat) : Float := (UInt64.ofNat n).toFloat

/-- The member of that name, `undefined` if there is none. -/
def get (v : Value η) (key : String) : Value η :=
  match v with
  | .object fields => (fields.lookup key).getD .undefined
  | .array items =>
    if key = "length" then .number (ofCount items.length)
    else ((index? key).bind (items[·]?)).getD .undefined
  | .string s => if key = "length" then .number (ofCount (units s.toList)) else .undefined
  | _ => .undefined

/-- The number that a value other than a text stands for. -/
def toNumber : Value η → Float
  | .null => 0
  | .bool b => if b then 1 else 0
  | .number x => x
  | _ => 0 / 0

def joinsAsText : Value η → Bool
  | .undefined => false
  | .null => false
  | .bool _ => false
  | .number _ => false
  | _ => true

/-- The sum of two values: of their texts if one of them is a text, an array, an object or a
function, of their numbers otherwise. -/
def add (a b : Value η) : Value η :=
  if a.joinsAsText || b.joinsAsText then .string (a.text ++ b.text)
  else .number (a.toNumber + b.toNumber)

end Value

end Stencil
