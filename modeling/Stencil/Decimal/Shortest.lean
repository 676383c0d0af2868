/-!
# The shortest decimal of a binary float

A finite binary64 value stands for all reals that round to it, an interval around the value.
`Span.shortest` selects the decimal with the fewest digits in the interval and, of those, the one
nearest to the value. It looks at one decimal grid after the other, from one digit on, and at the
two neighbours of the value on each grid: if a point of a grid lies in the interval, one of them
does. All comparisons are between naturals.
-/

namespace Stencil

set_option autoImplicit false

namespace Decimal

/-- A magnitude and the reals that round to it. The value is `mid * 2^exp`, the reals go from
`low * 2^exp` to `high * 2^exp`, and `closed` says whether the two ends belong to them. -/
structure Span where
  low : Nat
  mid : Nat
  high : Nat
  exp : Int
  closed : Bool

/-- The span of a float's magnitude, from its bits without the sign. In units of a quarter of the
gap above the value, the ends lie two units off; below a power of two the gap is half as wide, and
the lower end is one unit off. The ends round to the value if its last bit is zero. -/
def Span.ofBits (bits : UInt64) : Span :=
  let biased := bits.toNat / 4503599627370496
  let fraction := bits.toNat % 4503599627370496
  let m := if biased = 0 then fraction else fraction + 4503599627370496
  let narrow := fraction = 0 ∧ 1 < biased
  { low := if narrow then 4 * m - 1 else 4 * m - 2
    mid := 4 * m
    high := 4 * m + 2
    exp := (max biased 1 : Nat) - 1077
    closed := m % 2 == 0 }

/-- The decimal `digits * 10^exp`. -/
structure Scaled where
  digits : Nat
  exp : Int
deriving Repr, DecidableEq

/-- Where a value goes that lies exactly between two candidates. -/
inductive Tie where
  | toEven
  | up
deriving Repr, DecidableEq

namespace Span

/-- What a unit of the grid `10^e` and a unit of the span weigh, over a common denominator. -/
def weights (s : Span) (e : Int) : Nat × Nat :=
  (Nat.pow 10 e.toNat * Nat.pow 2 (-s.exp).toNat, Nat.pow 2 s.exp.toNat * Nat.pow 10 (-e).toNat)

/-- Whether the decimal `n * 10^e` rounds to the value. -/
def holds (s : Span) (e : Int) (n : Nat) : Bool :=
  let (d, b) := s.weights e
  if s.closed then decide (s.low * b ≤ n * d ∧ n * d ≤ s.high * b)
  else decide (s.low * b < n * d ∧ n * d < s.high * b)

/-- The greatest `n` with `n * 10^e` not above the value. -/
def floor (s : Span) (e : Int) : Nat :=
  let (d, b) := s.weights e
  s.mid * b / d

/-- Whether of `n * 10^e` and `(n + 1) * 10^e` the lower one is to be taken. -/
def prefersLower (s : Span) (tie : Tie) (e : Int) (n : Nat) : Bool :=
  let (d, b) := s.weights e
  let twice := 2 * s.mid * b
  let sum := (2 * n + 1) * d
  decide (twice < sum) || (decide (twice = sum) && tie == .toEven && n % 2 == 0)

/-- The neighbour of the value on the grid `10^e` that rounds to it, the nearer one if both do. -/
def onGrid? (s : Span) (tie : Tie) (e : Int) : Option Scaled :=
  let n := s.floor e
  match s.holds e n, s.holds e (n + 1) with
  | true, true => some ⟨if s.prefersLower tie e n then n else n + 1, e⟩
  | true, false => some ⟨n, e⟩
  | false, true => some ⟨n + 1, e⟩
  | false, false => none

/-- The least `k` from `start` on, within `steps` steps, with the value below `10^k`. -/
def scaleFrom (s : Span) : Nat → Int → Int
  | 0, k => k
  | steps + 1, k => if s.floor k = 0 then k else s.scaleFrom steps (k + 1)

/-- The least `k` with the value below `10^k`, for a value that is not zero. The search starts at an
estimate from the binary logarithm, which is at most five too low and never too high. -/
def scale (s : Span) : Int :=
  s.scaleFrom 8 (((Nat.log2 s.mid : Int) + s.exp) * 301 / 1000 - 2)

def exact (s : Span) : Scaled :=
  if 0 ≤ s.exp then ⟨s.mid * Nat.pow 2 s.exp.toNat, 0⟩ else ⟨s.mid * Nat.pow 5 (-s.exp).toNat, s.exp⟩

end Span

/-- Moves trailing zeros of the digits into the exponent, at most `steps` of them. -/
def Scaled.strip : Nat → Scaled → Scaled
  | 0, d => d
  | steps + 1, d =>
    if d.digits ≠ 0 ∧ d.digits % 10 = 0 then Scaled.strip steps ⟨d.digits / 10, d.exp + 1⟩ else d

/-- The shortest decimal that rounds to the value, among several the nearest, then by `tie`.
Seventeen digits are always enough. -/
def Span.shortest (s : Span) (tie : Tie) : Scaled :=
  if s.mid = 0 then ⟨0, 0⟩
  else
    let k := s.scale
    let found := (List.range 17).findSome? fun (n : Nat) => s.onGrid? tie (k - (n + 1))
    (found.getD s.exact).strip 400

end Decimal

end Stencil
