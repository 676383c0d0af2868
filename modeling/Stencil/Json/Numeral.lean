import Stencil.Json.Fault
import Stencil.Json.Number

/-!
# Numerals

A numeral is an optional minus, digits without a superfluous leading zero, an optional fraction and
an optional exponent. Without fraction and exponent it is an integer as long as it fits; otherwise
its value is computed in binary64: the significant digits that fit a 64-bit word, times or divided
by a power of ten.
-/

namespace Stencil

set_option autoImplicit false

structure Numeral where
  negative : Bool
  whole : List Char
  fraction : Option (List Char)
  /-- The exponent's sign (`true` for minus) and digits. -/
  exponent : Option (Bool × List Char)

namespace Numeral

/-- A numeral that could not be split off; `atEnd` says that the text ended inside it. -/
structure Broken where
  atEnd : Bool

def Broken.fault (b : Broken) : Fault :=
  if b.atEnd then .ended else .malformed

def digit (c : Char) : Nat := c.toNat - 48

def digits1 (cs : List Char) : Except Broken (List Char × List Char) :=
  match cs with
  | [] => .error ⟨true⟩
  | c :: _ => if c.isDigit then .ok (cs.takeWhile Char.isDigit, cs.dropWhile Char.isDigit)
    else .error ⟨false⟩

/-- The digits before the point: a zero stands alone. -/
def scanWhole (cs : List Char) : Except Broken (List Char × List Char) := do
  let (ds, rest) ← digits1 cs
  match ds with
  | '0' :: _ :: _ => .error ⟨false⟩
  | _ => .ok (ds, rest)

def scanFraction : List Char → Except Broken (Option (List Char) × List Char)
  | '.' :: cs => do
    let (ds, rest) ← digits1 cs
    .ok (some ds, rest)
  | cs => .ok (none, cs)

/-- Takes an optional sign; `true` is a minus. -/
def scanSign : List Char → Bool × List Char
  | '+' :: cs => (false, cs)
  | '-' :: cs => (true, cs)
  | cs => (false, cs)

def scanExponent : List Char → Except Broken (Option (Bool × List Char) × List Char)
  | c :: cs =>
    if c = 'e' ∨ c = 'E' then do
      let (minus, cs) := scanSign cs
      let (ds, rest) ← digits1 cs
      .ok (some (minus, ds), rest)
    else .ok (none, c :: cs)
  | [] => .ok (none, [])

def scan (cs : List Char) : Except Broken (Numeral × List Char) := do
  let (negative, cs) := match cs with
    | '-' :: cs => (true, cs)
    | cs => (false, cs)
  let (whole, cs) ← scanWhole cs
  let (fraction, cs) ← scanFraction cs
  let (exponent, cs) ← scanExponent cs
  .ok (⟨negative, whole, fraction, exponent⟩, cs)

def natOf (ds : List Char) : Nat :=
  ds.foldl (fun n c => n * 10 + digit c) 0

/-- The least number that no 64-bit word holds. -/
def wordLimit : Nat := 18446744073709551616

/-- Appends digits to a significand as long as the result fits a 64-bit word: the significand and
the digits left over. -/
def significand : Nat → List Char → Nat × List Char
  | n, [] => (n, [])
  | n, c :: cs => if n * 10 + digit c < wordLimit then significand (n * 10 + digit c) cs else (n, c :: cs)

def power (n : Nat) : Float := Float.ofScientific 1 false n

/-- Divides by `10^308` while the exponent is below `-308` and the value is not zero. -/
def lower : Nat → Float → Int → Float × Int
  | 0, x, e => (x, e)
  | fuel + 1, x, e =>
    if e < -308 ∧ (x == 0) = false then lower fuel (x / power 308) (e + 308) else (x, e)

/-- The float `n * 10^e`, `none` if it is too large. -/
def scale? (n : Nat) (e : Int) : Option Float :=
  let x := (UInt64.ofNat n).toFloat
  let (x, e) := lower ((-e).toNat / 308) x e
  if x == 0 then some x
  else if e < 0 then some (x / power (-e).toNat)
  else if 308 < e then none
  else
    let y := x * power e.toNat
    if y.isFinite then some y else none

/-- The greatest exponent that is computed; a greater one gives zero or no number at all. -/
def exponentLimit : Nat := 2147483647

/-- The magnitude of a numeral with a fraction, an exponent or too many digits. -/
def magnitude? (x : Numeral) : Option Float :=
  let (n, dropped) := significand 0 x.whole
  let (n, used) := match x.fraction with
    | none => (n, 0)
    | some ds =>
      let (n, left) := significand n ds
      (n, ds.length - left.length)
  let e : Int := dropped.length - used
  match x.exponent with
  | none => scale? n e
  | some (minus, ds) =>
    let size := natOf ds
    if exponentLimit < size then (if n = 0 ∨ minus then some 0 else none)
    else scale? n (if minus then e - size else e + size)

def float? (x : Numeral) : Option Number := do
  let y ← x.magnitude?
  Number.ofFloat? (if x.negative then -y else y)

/-- The number of a numeral, `none` if it is out of range. A negative integer below `-2^63`, an
integer above `2^64 - 1` and `-0` are floats. -/
def value? (x : Numeral) : Option Number :=
  match x.fraction, x.exponent with
  | none, none =>
    let n := natOf x.whole
    if x.negative then
      if n = 0 ∨ wordLimit / 2 < n then x.float? else Number.ofInt? (-(n : Int))
    else if n < wordLimit then Number.ofInt? n
    else x.float?
  | _, _ => x.float?

end Numeral

end Stencil
