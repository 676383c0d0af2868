import Stencil.Decimal.Shortest

/-!
# Layout of decimals

Where the point goes, when an exponent is written, and what the special values look like are the
decisions of one output format, collected in a `Layout`.
-/

namespace Stencil

set_option autoImplicit false

namespace Decimal

structure Layout where
  /-- Exponents of the leading digit that are written without an exponent part. -/
  plain : Int → Bool
  /-- A whole number ends in `.0`. -/
  pointZero : Bool
  /-- The sign of a negative zero is written. -/
  signedZero : Bool
  tie : Tie
  nan : String
  infinity : String

def digitsOf (n : Nat) : List Char :=
  Nat.toDigits 10 n

/-- Positional notation of `digits * 10^exp`. -/
def plainText (pointZero : Bool) (d : Scaled) : List Char :=
  let ds := digitsOf d.digits
  if 0 ≤ d.exp then
    ds ++ List.replicate d.exp.toNat '0' ++ (if pointZero then ['.', '0'] else [])
  else
    let places := (-d.exp).toNat
    if places < ds.length then
      ds.take (ds.length - places) ++ '.' :: ds.drop (ds.length - places)
    else
      '0' :: '.' :: (List.replicate (places - ds.length) '0' ++ ds)

/-- Scientific notation: one digit before the point, and a signed exponent. -/
def scientificText (d : Scaled) : List Char :=
  let ds := digitsOf d.digits
  let e := d.exp + (ds.length : Int) - 1
  let mantissa := match ds with
    | [] => []
    | [c] => [c]
    | c :: cs => c :: '.' :: cs
  mantissa ++ 'e' :: (if 0 ≤ e then '+' else '-') :: digitsOf e.natAbs

def Layout.magnitude (l : Layout) (d : Scaled) : List Char :=
  if l.plain (d.exp + ((digitsOf d.digits).length : Int) - 1) then plainText l.pointZero d
  else scientificText d

def Layout.text (l : Layout) (x : Float) : String :=
  if x.isNaN then l.nan
  else
    let negative := x.toBits >>> 63 == 1
    if x.isInf then (if negative then "-" else "") ++ l.infinity
    else
      let s := Span.ofBits (x.toBits &&& 0x7FFFFFFFFFFFFFFF)
      let sign := if negative && (s.mid != 0 || l.signedZero) then ['-'] else []
      String.ofList (sign ++ l.magnitude (s.shortest l.tie))

end Decimal

end Stencil
