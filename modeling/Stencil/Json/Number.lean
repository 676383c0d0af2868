/-!
# Numbers of a JSON document

A number is either an integer of the combined signed and unsigned 64-bit range or a finite
binary64 float. The two are kept apart: `1` and `1.0` are different numbers.
-/

namespace Stencil

set_option autoImplicit false

/-- The range of integers: from `-2^63` to `2^64 - 1`. -/
abbrev FitsWord (i : Int) : Prop := -9223372036854775808 ≤ i ∧ i < 18446744073709551616

/-- A JSON number: an integer between `-2^63` and `2^64 - 1`, or a finite float. -/
inductive Number where
  | int (value : Int) (fits : FitsWord value)
  | float (value : Float) (finite : value.isFinite = true)

namespace Number

def ofWord (w : UInt64) : Number :=
  .int w.toNat ⟨by omega, by have := w.toNat_lt; omega⟩

def ofInt? (i : Int) : Option Number :=
  if h : FitsWord i then some (.int i h) else none

def ofFloat? (x : Float) : Option Number :=
  if h : x.isFinite = true then some (.float x h) else none

/-- The machine word that a number stands for: integers from `0` to `2^64 - 1` only. -/
def word? : Number → Option UInt64
  | .int i _ => if 0 ≤ i then some (UInt64.ofNat i.toNat) else none
  | .float _ _ => none

def toFloat : Number → Float
  | .int i _ =>
    if 0 ≤ i then (UInt64.ofNat i.toNat).toFloat else -(UInt64.ofNat (-i).toNat).toFloat
  | .float x _ => x

@[simp] theorem word?_ofWord (w : UInt64) : (ofWord w).word? = some w := by
  simp [ofWord, word?]

end Number

end Stencil
