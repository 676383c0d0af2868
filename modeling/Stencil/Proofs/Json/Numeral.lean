import Mathlib.Data.List.TakeWhile
import Stencil.Json.Writer
import Stencil.Json.Numeral

/-!
# Numerals in a text

A numeral ends where no character that could continue it follows, so what is read of it does not
depend on the text behind it (`Numeral.scan_append`). The numeral that is written for an integer has
this integer as its value (`Number.readsBack_int`); for floats that is a property of the format, which
`Number.ReadsBack` names.
-/

namespace Stencil

set_option autoImplicit false

/-- If two steps give a result, so does the first one. -/
theorem ok_of_bind_eq_ok {ε α β : Type} {x : Except ε α} {f : α → Except ε β} {b : β}
    (h : x >>= f = .ok b) : ∃ a, x = .ok a ∧ f a = .ok b := by
  cases x with
  | error e => cases h
  | ok a => exact ⟨a, rfl, h⟩

namespace Numeral

/-- No character that could continue a numeral comes first. -/
def Ends (cs : List Char) : Prop :=
  ∀ c ∈ cs.head?, c.isDigit = false ∧ c ≠ '.' ∧ c ≠ 'e' ∧ c ≠ 'E'

theorem ends_cons {c : Char} {cs : List Char}
    (h : c.isDigit = false ∧ c ≠ '.' ∧ c ≠ 'e' ∧ c ≠ 'E') : Ends (c :: cs) := by
  intro d hd
  cases hd
  exact h

theorem span_append (cs : List Char) {rest : List Char} (h : Ends rest) :
    (cs ++ rest).takeWhile Char.isDigit = cs.takeWhile Char.isDigit ∧
      (cs ++ rest).dropWhile Char.isDigit = cs.dropWhile Char.isDigit ++ rest := by
  induction cs with
  | nil =>
    cases rest with
    | nil => exact ⟨rfl, rfl⟩
    | cons c rest =>
      have hc := (h c rfl).1
      simp [hc]
  | cons c cs ih =>
    by_cases hc : c.isDigit = true
    · simp [hc, ih.1, ih.2]
    · simp [hc]

theorem digits1_append {cs rest ds left : List Char} (h : Ends rest) (hs : digits1 cs = .ok (ds, left)) :
    digits1 (cs ++ rest) = .ok (ds, left ++ rest) := by
  cases cs with
  | nil => cases hs
  | cons c cs =>
    obtain ⟨htake, hdrop⟩ := span_append (c :: cs) h
    rw [List.cons_append] at htake hdrop
    rw [digits1] at hs
    split at hs
    next hc =>
      cases hs
      rw [List.cons_append, digits1, if_pos hc, htake, hdrop]
    next => cases hs

theorem scanWhole_append {cs rest ds left : List Char} (h : Ends rest)
    (hs : scanWhole cs = .ok (ds, left)) : scanWhole (cs ++ rest) = .ok (ds, left ++ rest) := by
  obtain ⟨⟨ds', left'⟩, hd, hm⟩ := ok_of_bind_eq_ok hs
  rw [scanWhole, digits1_append h hd]
  simp only [bind, Except.bind] at hm ⊢
  split at hm
  · cases hm
  · cases hm
    rfl

theorem scanFraction_append {cs rest left : List Char} {fraction : Option (List Char)} (h : Ends rest)
    (hs : scanFraction cs = .ok (fraction, left)) :
    scanFraction (cs ++ rest) = .ok (fraction, left ++ rest) := by
  unfold scanFraction at hs
  split at hs
  next cs =>
    obtain ⟨⟨ds, left'⟩, hd, hm⟩ := ok_of_bind_eq_ok hs
    cases hm
    rw [List.cons_append, scanFraction, digits1_append h hd]
    rfl
  next hpoint =>
    cases hs
    unfold scanFraction
    split
    next cs' heq =>
      cases cs with
      | nil => exact absurd rfl (h '.' (by rw [← List.nil_append rest, heq, List.head?_cons]; rfl)).2.1
      | cons c cs => exact absurd (congrArg (· :: cs) (List.cons.inj heq).1) (hpoint cs)
    next => rfl

theorem scanSign_append {cs rest : List Char} (hne : cs ≠ []) :
    scanSign (cs ++ rest) = ((scanSign cs).1, (scanSign cs).2 ++ rest) := by
  cases cs with
  | nil => exact absurd rfl hne
  | cons c cs =>
    rw [List.cons_append]
    by_cases hp : c = '+'
    · subst hp
      rfl
    by_cases hm : c = '-'
    · subst hm
      rfl
    simp [scanSign, hp, hm]

theorem scanExponent_append {cs rest left : List Char} {exponent : Option (Bool × List Char)}
    (h : Ends rest) (hs : scanExponent cs = .ok (exponent, left)) :
    scanExponent (cs ++ rest) = .ok (exponent, left ++ rest) := by
  cases cs with
  | nil =>
    cases hs
    cases rest with
    | nil => rfl
    | cons c rest =>
      obtain ⟨-, -, he, hE⟩ := h c rfl
      simp [scanExponent, he, hE]
  | cons c cs =>
    rw [List.cons_append]
    by_cases hc : c = 'e' ∨ c = 'E'
    · rw [scanExponent, if_pos hc] at hs ⊢
      obtain ⟨⟨ds, left'⟩, hd, hm⟩ := ok_of_bind_eq_ok hs
      cases hm
      have hne : cs ≠ [] := by
        rintro rfl
        cases hd
      have happ : digits1 ((scanSign cs).2 ++ rest) = .ok (ds, left ++ rest) := digits1_append h hd
      rw [scanSign_append hne]
      dsimp only
      rw [happ]
      rfl
    · rw [scanExponent, if_neg hc] at hs ⊢
      cases hs
      rfl

/-- The parts of a numeral behind its sign. -/
def scanUnsigned (negative : Bool) (cs : List Char) : Except Broken (Numeral × List Char) := do
  let (whole, cs) ← scanWhole cs
  let (fraction, cs) ← scanFraction cs
  let (exponent, cs) ← scanExponent cs
  .ok (⟨negative, whole, fraction, exponent⟩, cs)

theorem scan_minus (cs : List Char) : scan ('-' :: cs) = scanUnsigned true cs := rfl

theorem scan_of_ne_minus {c : Char} (hc : c ≠ '-') (cs : List Char) :
    scan (c :: cs) = scanUnsigned false (c :: cs) := by
  simp [scan, scanUnsigned, hc]

theorem scanUnsigned_append {negative : Bool} {cs rest left : List Char} {x : Numeral} (h : Ends rest)
    (hs : scanUnsigned negative cs = .ok (x, left)) :
    scanUnsigned negative (cs ++ rest) = .ok (x, left ++ rest) := by
  obtain ⟨⟨whole, cs₁⟩, hwhole, hs⟩ := ok_of_bind_eq_ok hs
  obtain ⟨⟨fraction, cs₂⟩, hfraction, hs⟩ := ok_of_bind_eq_ok hs
  obtain ⟨⟨exponent, cs₃⟩, hexponent, hs⟩ := ok_of_bind_eq_ok hs
  cases hs
  have hf : scanFraction (cs₁ ++ rest) = .ok (fraction, cs₂ ++ rest) := scanFraction_append h hfraction
  have he : scanExponent (cs₂ ++ rest) = .ok (exponent, left ++ rest) := scanExponent_append h hexponent
  simp [scanUnsigned, scanWhole_append h hwhole, hf, he, bind, Except.bind]

/-- A numeral starts with its sign or a digit. -/
theorem head_of_scan {c : Char} {cs : List Char} {r : Numeral × List Char} (h : scan (c :: cs) = .ok r) :
    c = '-' ∨ c.isDigit = true := by
  by_cases hc : c = '-'
  · exact Or.inl hc
  · rw [scan_of_ne_minus hc] at h
    obtain ⟨whole, hwhole, -⟩ := ok_of_bind_eq_ok h
    obtain ⟨ds, hds, -⟩ := ok_of_bind_eq_ok hwhole
    by_cases hdigit : c.isDigit = true
    · exact Or.inr hdigit
    · rw [digits1, if_neg hdigit] at hds
      cases hds

/-- What is read of a numeral does not depend on the text behind it. -/
theorem scan_append {cs rest : List Char} {x : Numeral} (h : Ends rest) (hs : scan cs = .ok (x, [])) :
    scan (cs ++ rest) = .ok (x, rest) := by
  cases cs with
  | nil => cases hs
  | cons c cs =>
    by_cases hc : c = '-'
    · subst hc
      exact scanUnsigned_append h hs
    · rw [scan_of_ne_minus hc] at hs
      rw [List.cons_append, scan_of_ne_minus hc]
      exact scanUnsigned_append h hs

/-- Digits without a superfluous leading zero are a whole numeral. -/
theorem scanUnsigned_digits (negative : Bool) {ds : List Char} (hne : ds ≠ [])
    (hdigit : ∀ c ∈ ds, c.isDigit = true) (hzero : ds.head? = some '0' → ds = ['0']) :
    scanUnsigned negative ds = .ok (⟨negative, ds, none, none⟩, []) := by
  have htake : ds.takeWhile Char.isDigit = ds := List.takeWhile_eq_self_iff.mpr hdigit
  have hdrop : ds.dropWhile Char.isDigit = [] := List.dropWhile_eq_nil_iff.mpr hdigit
  have hdigits : digits1 ds = .ok (ds, []) := by
    cases ds with
    | nil => exact absurd rfl hne
    | cons d ds => rw [digits1, if_pos (hdigit d List.mem_cons_self), htake, hdrop]
  have hwhole : scanWhole ds = .ok (ds, []) := by
    simp only [scanWhole, hdigits, bind, Except.bind]
    split
    next e es =>
      have h := hzero rfl
      cases h
    next => rfl
  simp [scanUnsigned, hwhole, scanFraction, scanExponent, bind, Except.bind]

theorem natOf_digitsOf (n : Nat) : natOf (Decimal.digitsOf n) = n := by
  have h := @Nat.ofDigitChars_toDigits 10 n (by decide) (by decide)
  rw [Nat.ofDigitChars_eq_foldl] at h
  simpa [natOf, digit, Decimal.digitsOf, Nat.mul_comm] using h

theorem digitsOf_leading_zero {n : Nat} (h : (Decimal.digitsOf n).head? = some '0') : n = 0 := by
  induction n using Nat.strongRecOn with
  | _ n ih =>
    by_cases hn : n < 10
    · rw [Decimal.digitsOf, Nat.toDigits_of_lt_base hn] at h
      have hdigit : ∀ d < 10, Nat.digitChar d = '0' → d = 0 := by decide
      exact hdigit n hn (Option.some.inj h)
    · have hle : 10 ≤ n := Nat.le_of_not_lt hn
      rw [Decimal.digitsOf, Nat.toDigits_of_base_le (by decide) hle] at h
      have hhead : (Decimal.digitsOf (n / 10)).head? = some '0' := by
        cases hds : Nat.toDigits 10 (n / 10) with
        | nil => exact absurd hds Nat.toDigits_ne_nil
        | cons d ds =>
          rw [hds] at h
          rwa [Decimal.digitsOf, hds]
      have hq := ih (n / 10) (Nat.div_lt_self (by omega) (by decide)) hhead
      omega

/-- The digits of a natural number are a whole numeral. -/
theorem scanUnsigned_digitsOf (negative : Bool) (n : Nat) :
    scanUnsigned negative (Decimal.digitsOf n) = .ok (⟨negative, Decimal.digitsOf n, none, none⟩, []) := by
  refine scanUnsigned_digits negative Nat.toDigits_ne_nil ?_ ?_
  · intro c hc
    exact Nat.isDigit_of_mem_toDigits (by decide) (by decide) hc
  · intro hzero
    rw [digitsOf_leading_zero hzero]
    rfl

end Numeral

namespace Number

/-- The numeral that is written for a number has this number as its value. -/
def ReadsBack (n : Number) : Prop :=
  ∃ x, Numeral.scan n.text.toList = .ok (x, []) ∧ x.value? = some n

theorem readsBack_int (i : Int) (h : FitsWord i) : (Number.int i h).ReadsBack := by
  have hnat := Numeral.natOf_digitsOf i.natAbs
  by_cases hneg : i < 0
  · refine ⟨⟨true, Decimal.digitsOf i.natAbs, none, none⟩, ?_, ?_⟩
    · simp [text, hneg, Numeral.scan_minus, Numeral.scanUnsigned_digitsOf]
    · have hsize : ¬(i.natAbs = 0 ∨ Numeral.wordLimit / 2 < i.natAbs) := by
        simp only [FitsWord] at h
        simp only [Numeral.wordLimit]
        omega
      have habs : -(i.natAbs : Int) = i := by omega
      unfold Numeral.value?
      dsimp only
      rw [hnat, if_pos rfl, if_neg hsize, habs, ofInt?, dif_pos h]
  · refine ⟨⟨false, Decimal.digitsOf i.natAbs, none, none⟩, ?_, ?_⟩
    · have hscan := Numeral.scanUnsigned_digitsOf false i.natAbs
      cases hds : Decimal.digitsOf i.natAbs with
      | nil => exact absurd hds Nat.toDigits_ne_nil
      | cons d ds =>
        have hd : d.isDigit = true := Nat.isDigit_of_mem_toDigits (by decide) (by decide)
          (show d ∈ Decimal.digitsOf i.natAbs by rw [hds]; exact List.mem_cons_self)
        have hminus : d ≠ '-' := by
          rintro rfl
          cases hd
        rw [hds] at hscan
        simpa [text, hneg, hds, Numeral.scan_of_ne_minus hminus] using hscan
    · have hsize : i.natAbs < Numeral.wordLimit := by
        simp only [FitsWord] at h
        simp only [Numeral.wordLimit]
        omega
      have habs : (i.natAbs : Int) = i := by omega
      unfold Numeral.value?
      dsimp only
      rw [hnat, if_neg Bool.false_ne_true, if_pos hsize, habs, ofInt?, dif_pos h]

theorem readsBack_ofWord (w : UInt64) : (ofWord w).ReadsBack := readsBack_int _ _

end Number

end Stencil
