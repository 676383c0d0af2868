import Stencil.Text.Range

/-!
# Differences of sets of code points

Sets given by ascending ranges are compared by taking one from the other, which goes through the ranges
of both once. A set is part of another one if nothing is left of it, and has nothing in common with it
if all is left; on concrete tables both can be computed.
-/

namespace Stencil.Text

set_option autoImplicit false

/-- The ranges come one behind the other, from `k` on, and none is empty. -/
def ascends (k : Nat) : List (Nat × Nat) → Bool
  | [] => true
  | (lo, hi) :: rs => k ≤ lo && lo ≤ hi && ascends (hi + 1) rs

theorem ascends_cons_iff {k lo hi : Nat} {rs : List (Nat × Nat)} :
    ascends k ((lo, hi) :: rs) = true ↔ k ≤ lo ∧ lo ≤ hi ∧ ascends (hi + 1) rs = true := by
  simp only [ascends, Bool.and_eq_true, decide_eq_true_eq, and_assoc]

theorem ascends_mono {k l : Nat} {rs : List (Nat × Nat)} (hle : k ≤ l) (h : ascends l rs = true) :
    ascends k rs = true := by
  cases rs with
  | nil => rfl
  | cons r rs =>
    rw [ascends_cons_iff] at h ⊢
    exact ⟨Nat.le_trans hle h.1, h.2⟩

theorem inRanges_eq_false_of_lt {k n : Nat} {rs : List (Nat × Nat)} (h : ascends k rs = true)
    (hn : n < k) : inRanges rs n = false := by
  cases rs with
  | nil => rfl
  | cons r rs =>
    obtain ⟨hlo, -⟩ := ascends_cons_iff.mp h
    rw [inRanges, if_pos (by omega)]

theorem inRanges_cons_iff {k lo hi n : Nat} {rs : List (Nat × Nat)}
    (h : ascends k ((lo, hi) :: rs) = true) :
    inRanges ((lo, hi) :: rs) n = true ↔ lo ≤ n ∧ n ≤ hi ∨ inRanges rs n = true := by
  obtain ⟨-, hle, hrs⟩ := ascends_cons_iff.mp h
  rw [inRanges]
  by_cases hlo : n < lo
  · have hrest : inRanges rs n = false := inRanges_eq_false_of_lt hrs (by omega)
    simp only [hlo, if_true, hrest, Bool.false_eq_true, or_false, false_iff]
    omega
  · simp [hlo, Nat.le_of_not_lt hlo]

/-- What the ranges `ts` leave of the numbers from `lo` to `hi`, in front of `rest`. -/
def pieces (hi : Nat) (rest : List (Nat × Nat)) : Nat → List (Nat × Nat) → List (Nat × Nat)
  | lo, [] => (lo, hi) :: rest
  | lo, (a, b) :: ts =>
    if hi < a then (lo, hi) :: rest
    else
      let behind := if hi ≤ b then rest else pieces hi rest (max lo (b + 1)) ts
      if lo < a then (lo, a - 1) :: behind else behind

/-- What the ranges `ts` leave of the ranges `rs`. Those of `ts` that end before a range of `rs` does
are of no use behind it. -/
def minus : List (Nat × Nat) → List (Nat × Nat) → List (Nat × Nat)
  | [], _ => []
  | (lo, hi) :: rs, ts => pieces hi (minus rs (ts.dropWhile fun t => t.2 < hi)) lo ts

theorem ascends_pieces {hi : Nat} {rest : List (Nat × Nat)} (hrest : ascends (hi + 1) rest = true)
    {lo k : Nat} {ts : List (Nat × Nat)} (hlo : lo ≤ hi) (hts : ascends k ts = true) :
    ascends lo (pieces hi rest lo ts) = true := by
  induction ts generalizing lo k with
  | nil => exact ascends_cons_iff.mpr ⟨Nat.le_refl lo, hlo, hrest⟩
  | cons t ts ih =>
    obtain ⟨a, b⟩ := t
    obtain ⟨-, hab, hts⟩ := ascends_cons_iff.mp hts
    rw [pieces]
    split
    · exact ascends_cons_iff.mpr ⟨Nat.le_refl lo, hlo, hrest⟩
    next ha =>
      have hbehind : ascends (max lo a)
          (if hi ≤ b then rest else pieces hi rest (max lo (b + 1)) ts) = true := by
        split
        · exact ascends_mono (by omega) hrest
        · exact ascends_mono (by omega) (ih (by omega) hts)
      dsimp only
      split
      · exact ascends_cons_iff.mpr ⟨Nat.le_refl lo, by omega, ascends_mono (by omega) hbehind⟩
      · exact ascends_mono (by omega) hbehind

theorem inRanges_pieces_iff {hi : Nat} {rest : List (Nat × Nat)}
    (hrest : ascends (hi + 1) rest = true) {lo k n : Nat} {ts : List (Nat × Nat)} (hlo : lo ≤ hi)
    (hts : ascends k ts = true) :
    inRanges (pieces hi rest lo ts) n = true ↔
      lo ≤ n ∧ n ≤ hi ∧ inRanges ts n = false ∨ inRanges rest n = true := by
  induction ts generalizing lo k with
  | nil =>
    have hall : ascends lo ((lo, hi) :: rest) = true := ascends_pieces hrest hlo hts
    rw [pieces, inRanges_cons_iff hall]
    simp [inRanges]
  | cons t ts ih =>
    have hpieces := ascends_pieces hrest hlo hts
    obtain ⟨a, b⟩ := t
    obtain ⟨-, hab, hts'⟩ := ascends_cons_iff.mp hts
    have hbelow : n ≤ b → inRanges ts n = false := fun hn =>
      inRanges_eq_false_of_lt hts' (by omega)
    rw [← Bool.not_eq_true, inRanges_cons_iff hts]
    rw [pieces] at hpieces ⊢
    split at hpieces
    next ha =>
      rw [if_pos ha, inRanges_cons_iff hpieces]
      grind
    next ha =>
      rw [if_neg ha]
      -- the same holds of what is left behind `b`, also if the numbers end before it
      have hbehind : inRanges (if hi ≤ b then rest else pieces hi rest (max lo (b + 1)) ts) n = true ↔
          max lo (b + 1) ≤ n ∧ n ≤ hi ∧ inRanges ts n = false ∨ inRanges rest n = true := by
        split
        · grind
        · exact ih (by omega) hts'
      dsimp only at hpieces ⊢
      split at hpieces
      next hfront =>
        rw [if_pos hfront, inRanges_cons_iff hpieces, hbehind]
        grind
      next hfront =>
        rw [if_neg hfront, hbehind]
        grind

theorem ascends_dropWhile {hi k : Nat} {ts : List (Nat × Nat)} (h : ascends k ts = true) :
    ascends k (ts.dropWhile fun t => t.2 < hi) = true := by
  induction ts generalizing k with
  | nil => rfl
  | cons t ts ih =>
    obtain ⟨hk, hab, hts⟩ := ascends_cons_iff.mp h
    rw [List.dropWhile_cons]
    split
    · exact ih (ascends_mono (by omega) hts)
    · exact h

theorem inRanges_dropWhile {hi k n : Nat} {ts : List (Nat × Nat)} (h : ascends k ts = true)
    (hn : hi < n) : inRanges (ts.dropWhile fun t => t.2 < hi) n = inRanges ts n := by
  induction ts generalizing k with
  | nil => rfl
  | cons t ts ih =>
    obtain ⟨-, hab, hts⟩ := ascends_cons_iff.mp h
    rw [List.dropWhile_cons]
    split
    next hhi =>
      have hbeyond : ¬(t.1 ≤ n ∧ n ≤ t.2) := by
        rw [decide_eq_true_eq] at hhi
        omega
      rw [ih hts, Bool.eq_iff_iff, inRanges_cons_iff h, or_iff_right hbeyond]
    · rfl

theorem ascends_minus {k l : Nat} {rs ts : List (Nat × Nat)} (hr : ascends k rs = true)
    (ht : ascends l ts = true) : ascends k (minus rs ts) = true := by
  induction rs generalizing k ts with
  | nil => rfl
  | cons r rs ih =>
    obtain ⟨hk, hle, hrs⟩ := ascends_cons_iff.mp hr
    exact ascends_mono hk (ascends_pieces (ih hrs (ascends_dropWhile ht)) hle ht)

theorem inRanges_minus {k l : Nat} {rs ts : List (Nat × Nat)} (hr : ascends k rs = true)
    (ht : ascends l ts = true) (n : Nat) :
    inRanges (minus rs ts) n = (inRanges rs n && !inRanges ts n) := by
  rw [Bool.eq_iff_iff, Bool.and_eq_true, Bool.not_eq_true']
  induction rs generalizing k ts with
  | nil => simp [minus, inRanges]
  | cons r rs ih =>
    obtain ⟨lo, hi⟩ := r
    obtain ⟨-, hle, hrs⟩ := ascends_cons_iff.mp hr
    have hleft : ascends l (ts.dropWhile fun t => t.2 < hi) = true := ascends_dropWhile ht
    rw [minus, inRanges_pieces_iff (ascends_minus hrs hleft) hle ht, ih hrs hleft, inRanges_cons_iff hr]
    -- a number of the later ranges lies above `hi`, where nothing that matters has been dropped
    have hsame : inRanges rs n = true →
        inRanges (ts.dropWhile fun t => t.2 < hi) n = inRanges ts n := by
      intro hn
      refine inRanges_dropWhile ht (Nat.lt_of_not_le fun hlow => ?_)
      rw [inRanges_eq_false_of_lt hrs (by omega)] at hn
      cases hn
    grind

/-- A set of code points. -/
structure CodeSet where
  ranges : List (Nat × Nat)
  ascending : ascends 0 ranges = true

namespace CodeSet

def has (s : CodeSet) (c : Char) : Bool := inRanges s.ranges c.toNat

def minus (s t : CodeSet) : CodeSet where
  ranges := Text.minus s.ranges t.ranges
  ascending := ascends_minus s.ascending t.ascending

theorem has_minus (s t : CodeSet) (c : Char) : (s.minus t).has c = (s.has c && !t.has c) :=
  inRanges_minus s.ascending t.ascending c.toNat

def minusAll (s : CodeSet) (ts : List CodeSet) : CodeSet := ts.foldl minus s

theorem has_minusAll (s : CodeSet) (ts : List CodeSet) (c : Char) :
    (s.minusAll ts).has c = (s.has c && !ts.any fun t => t.has c) := by
  induction ts generalizing s with
  | nil => simp [minusAll]
  | cons t ts ih =>
    refine (ih (s.minus t)).trans ?_
    rw [has_minus, List.any_cons, Bool.not_or, Bool.and_assoc]

/-- A set that nothing is left of is covered. -/
theorem any_has_of_minusAll_eq_nil {s : CodeSet} {ts : List CodeSet}
    (h : (s.minusAll ts).ranges = []) {c : Char} (hc : s.has c = true) :
    (ts.any fun t => t.has c) = true := by
  have hnone : (s.minusAll ts).has c = false := by
    rw [has, h]
    rfl
  rw [has_minusAll, hc] at hnone
  simpa using hnone

/-- A set that all is left of is met by none. -/
theorem any_has_eq_false_of_minusAll_eq {s : CodeSet} {ts : List CodeSet}
    (h : (s.minusAll ts).ranges = s.ranges) {c : Char} (hc : s.has c = true) :
    (ts.any fun t => t.has c) = false := by
  have hall : (s.minusAll ts).has c = true := by
    rw [has, h]
    exact hc
  rw [has_minusAll, hc] at hall
  simpa using hall

end CodeSet

end Stencil.Text
