import Mathlib.Data.List.Induction
import Stencil.Proofs.Json.Numeral
import Stencil.Value.Text

/-!
# Keys of arrays

A row of digits is the decimal text of its value behind some zeros (`Numeral.eq_zeros_append_digitsOf`).
So the keys that name an element of an array are the decimal text of its index, the same behind zeros,
and either of these behind a plus (`Value.index?_eq_some_iff`), and there are no others. An index that
is too large for a word lies beyond the end of every array, like any other one that is too large.
-/

namespace Stencil

set_option autoImplicit false

namespace Numeral

theorem natOf_append_digit (ds : List Char) (d : Char) : natOf (ds ++ [d]) = natOf ds * 10 + digit d := by
  rw [natOf, List.foldl_append]
  rfl

theorem natOf_zeros_append (zeros : Nat) (ds : List Char) :
    natOf (List.replicate zeros '0' ++ ds) = natOf ds := by
  induction zeros with
  | zero => rfl
  | succ zeros ih => exact ih

theorem digit_lt_ten {c : Char} (h : c.isDigit = true) : digit c < 10 := by
  have hle : c.toNat ≤ 57 := by
    simp only [Char.isDigit, Bool.and_eq_true, decide_eq_true_eq] at h
    exact UInt32.le_iff_toNat_le.mp h.2
  rw [digit]
  omega

theorem digitsOf_digit {c : Char} (h : c.isDigit = true) : Decimal.digitsOf (digit c) = [c] := by
  have hchar : ∀ d < 10, (Nat.digitChar d).toNat = 48 + d := by decide
  have hge : 48 ≤ c.toNat := by
    simp only [Char.isDigit, Bool.and_eq_true, decide_eq_true_eq] at h
    exact UInt32.le_iff_toNat_le.mp h.1
  rw [Decimal.digitsOf, Nat.toDigits_of_lt_base (digit_lt_ten h)]
  congr 1
  rw [← Char.toNat_inj, hchar _ (digit_lt_ten h), digit]
  omega

/-- The induction takes the digits from the right, as they are written: as long as the value is zero, a
new digit makes one more zero of what is there. -/
theorem eq_zeros_append_digitsOf {ds : List Char} (hne : ds ≠ []) (h : ∀ c ∈ ds, c.isDigit = true) :
    ∃ zeros, ds = List.replicate zeros '0' ++ Decimal.digitsOf (natOf ds) := by
  induction ds using List.reverseRecOn with
  | nil => exact absurd rfl hne
  | append_singleton ds d ih =>
    have hd : d.isDigit = true := h d (List.mem_append_right ds List.mem_cons_self)
    rw [natOf_append_digit]
    by_cases hds : ds = []
    · subst hds
      refine ⟨0, ?_⟩
      rw [natOf, List.foldl_nil, Nat.zero_mul, Nat.zero_add, digitsOf_digit hd]
      rfl
    · obtain ⟨zeros, heq⟩ := ih hds fun c hc => h c (List.mem_append_left [d] hc)
      by_cases hzero : natOf ds = 0
      · refine ⟨zeros + 1, ?_⟩
        rw [hzero] at heq ⊢
        rw [Nat.zero_mul, Nat.zero_add, digitsOf_digit hd, List.replicate_succ', heq]
        rfl
      · refine ⟨zeros, ?_⟩
        have hmore := Nat.toDigits_append_toDigits (b := 10) (by decide) (Nat.pos_of_ne_zero hzero)
          (digit_lt_ten hd)
        rw [Nat.mul_comm, Decimal.digitsOf, ← hmore, ← List.append_assoc, ← Decimal.digitsOf,
          ← Decimal.digitsOf, ← heq, digitsOf_digit hd]

end Numeral

namespace Value

/-- A row of digits for an index, with zeros in front. -/
def indexDigits (zeros i : Nat) : List Char := List.replicate zeros '0' ++ Decimal.digitsOf i

/-- A key for an index. Its decimal text is the one without a plus and without zeros in front. -/
def indexKey (plus : Bool) (zeros i : Nat) : String :=
  String.ofList ((if plus then ['+'] else []) ++ indexDigits zeros i)

theorem isDigit_of_mem_indexDigits {zeros i : Nat} {c : Char} (h : c ∈ indexDigits zeros i) :
    c.isDigit = true := by
  rcases List.mem_append.mp h with h | h
  · rw [List.eq_of_mem_replicate h]
    rfl
  · exact Nat.isDigit_of_mem_toDigits (by decide) (by decide) h

theorem indexDigits_ne_nil (zeros i : Nat) : indexDigits zeros i ≠ [] :=
  List.append_ne_nil_of_right_ne_nil _ Nat.toDigits_ne_nil

theorem natOf_indexDigits (zeros i : Nat) : Numeral.natOf (indexDigits zeros i) = i := by
  rw [indexDigits, Numeral.natOf_zeros_append, Numeral.natOf_digitsOf]

theorem indexKey_decimal (i : Nat) : indexKey false 0 i = toString i := by
  have h : (toString i).toList = Decimal.digitsOf i := Nat.toList_repr
  rw [← String.ofList_toList (s := toString i), h]
  rfl

/-- The index that digits spell. -/
def indexOf? (ds : List Char) : Option Nat :=
  if !ds.isEmpty && ds.all Char.isDigit then some (Numeral.natOf ds) else none

theorem indexOf?_eq_some_iff {ds : List Char} {i : Nat} :
    indexOf? ds = some i ↔ ∃ zeros, ds = indexDigits zeros i := by
  constructor
  · intro h
    rw [indexOf?, Option.ite_none_right_eq_some, Bool.and_eq_true, Bool.not_eq_true',
      List.isEmpty_eq_false_iff, List.all_eq_true] at h
    obtain ⟨⟨hne, hdigit⟩, hi⟩ := h
    cases hi
    exact Numeral.eq_zeros_append_digitsOf hne hdigit
  · rintro ⟨zeros, rfl⟩
    rw [indexOf?, Option.ite_none_right_eq_some, Bool.and_eq_true, Bool.not_eq_true',
      List.isEmpty_eq_false_iff, List.all_eq_true]
    exact ⟨⟨indexDigits_ne_nil zeros i, fun c => isDigit_of_mem_indexDigits⟩,
      congrArg some (natOf_indexDigits zeros i)⟩

theorem index?_plus (ds : List Char) : index? (String.ofList ('+' :: ds)) = indexOf? ds := by
  rw [index?, String.toList_ofList]
  rfl

theorem index?_ofList {ds : List Char} (h : ∀ rest, ds ≠ '+' :: rest) :
    index? (String.ofList ds) = indexOf? ds := by
  rw [index?, String.toList_ofList]
  split
  · exact absurd rfl (h _)
  · rfl

theorem index?_eq_some_iff {key : String} {i : Nat} :
    index? key = some i ↔ ∃ plus zeros, key = indexKey plus zeros i := by
  constructor
  · intro h
    rw [← String.ofList_toList (s := key)] at h ⊢
    by_cases hplus : ∃ rest, key.toList = '+' :: rest
    · obtain ⟨rest, hrest⟩ := hplus
      rw [hrest] at h ⊢
      rw [index?_plus, indexOf?_eq_some_iff] at h
      obtain ⟨zeros, rfl⟩ := h
      exact ⟨true, zeros, rfl⟩
    · rw [index?_ofList fun rest hrest => hplus ⟨rest, hrest⟩, indexOf?_eq_some_iff] at h
      obtain ⟨zeros, hzeros⟩ := h
      exact ⟨false, zeros, congrArg String.ofList hzeros⟩
  · rintro ⟨plus, zeros, rfl⟩
    cases plus with
    | true => exact (index?_plus _).trans (indexOf?_eq_some_iff.mpr ⟨zeros, rfl⟩)
    | false =>
      refine (index?_ofList fun rest hrest => ?_).trans (indexOf?_eq_some_iff.mpr ⟨zeros, rfl⟩)
      have hdigit : '+'.isDigit = true := isDigit_of_mem_indexDigits (hrest ▸ List.mem_cons_self)
      cases hdigit

theorem index?_indexKey (plus : Bool) (zeros i : Nat) : index? (indexKey plus zeros i) = some i :=
  index?_eq_some_iff.mpr ⟨plus, zeros, rfl⟩

theorem ne_indexKey_of_index?_eq_none {key : String} (h : index? key = none) (plus : Bool)
    (zeros i : Nat) : key ≠ indexKey plus zeros i := by
  rintro rfl
  rw [index?_indexKey] at h
  cases h

/-- A key for an index can be taken apart in one way only. -/
theorem indexKey_inj {plus plus' : Bool} {zeros zeros' i i' : Nat}
    (h : indexKey plus zeros i = indexKey plus' zeros' i') : plus = plus' ∧ zeros = zeros' ∧ i = i' := by
  have hi : i = i' := by
    have hsome := index?_indexKey plus zeros i
    rw [h, index?_indexKey] at hsome
    exact (Option.some.inj hsome).symm
  subst hi
  have hplus : ∀ {z z' : Nat}, '+' :: indexDigits z i ≠ indexDigits z' i := by
    intro z z' heq
    have hdigit : '+'.isDigit = true := isDigit_of_mem_indexDigits (heq ▸ List.mem_cons_self)
    cases hdigit
  have hzeros : ∀ {z z' : Nat}, indexDigits z i = indexDigits z' i → z = z' := by
    intro z z' heq
    have hlength := congrArg List.length heq
    simpa [indexDigits] using hlength
  have hlist := String.ofList_injective h
  cases plus with
  | true =>
    cases plus' with
    | true => exact ⟨rfl, hzeros (List.cons.inj hlist).2, rfl⟩
    | false => exact absurd hlist hplus
  | false =>
    cases plus' with
    | true => exact absurd hlist.symm hplus
    | false => exact ⟨rfl, hzeros hlist, rfl⟩

variable {η : Type}

theorem get_array_of_ne {items : List (Value η)} {key : String} (h : key ≠ "length") :
    (array items).get key = ((index? key).bind (items[·]?)).getD .undefined := by
  rw [get, if_neg h]

theorem get_array_indexKey {items : List (Value η)} {i : Nat} (h : i < items.length) (plus : Bool)
    (zeros : Nat) : (array items).get (indexKey plus zeros i) = items[i] := by
  have hne : indexKey plus zeros i ≠ "length" :=
    (ne_indexKey_of_index?_eq_none (by decide) plus zeros i).symm
  rw [get_array_of_ne hne, index?_indexKey, Option.bind_some, List.getElem?_eq_getElem h]
  rfl

/-- The members of an array: its length, each element under all keys for its index, and nothing else.
The keys of an element differ in the plus and in the number of zeros. -/
theorem get_array (items : List (Value η)) :
    (array items).get "length" = .number (ofCount items.length) ∧
    (∀ i (h : i < items.length) plus zeros,
      (array items).get (indexKey plus zeros i) = items[i]) ∧
    (∀ key, key ≠ "length" → (∀ i < items.length, ∀ plus zeros, key ≠ indexKey plus zeros i) →
      (array items).get key = .undefined) ∧
    (∀ i, indexKey false 0 i = toString i) ∧
    ∀ plus zeros i plus' zeros' i', indexKey plus zeros i = indexKey plus' zeros' i' →
      plus = plus' ∧ zeros = zeros' ∧ i = i' := by
  refine ⟨rfl, fun i h => get_array_indexKey h, ?_, indexKey_decimal, fun _ _ _ _ _ _ => indexKey_inj⟩
  intro key hlength hkey
  rw [get_array_of_ne hlength]
  cases hindex : index? key with
  | none => rfl
  | some i =>
    obtain ⟨plus, zeros, rfl⟩ := index?_eq_some_iff.mp hindex
    have hbeyond : items.length ≤ i := Nat.le_of_not_lt fun hi => hkey i hi plus zeros rfl
    rw [Option.bind_some, List.getElem?_eq_none hbeyond]
    rfl

/-- With a plus and a zero the key still names the second element; with a minus it names none. -/
theorem get_array_pair :
    let v : Value Unit := .array [.string "a", .string "b"]
    v.get "+01" = .string "b" ∧ v.get "-0" = .undefined := by
  have hplus : indexKey true 1 1 = "+01" := by decide
  refine ⟨?_, ?_⟩
  · rw [← hplus]
    exact (get_array _).2.1 1 (by decide) true 1
  · exact (get_array _).2.2.1 "-0" (by decide) fun i _ plus zeros =>
      ne_indexKey_of_index?_eq_none (by decide) plus zeros i

/-- Neither `01` nor `+1` is the decimal text of an index, and both name the element that `1` names. -/
theorem get_array_padded :
    let v : Value Unit := .array [.string "a", .string "b"]
    (∀ i : Nat, "01" ≠ toString i ∧ "+1" ≠ toString i) ∧
      v.get "01" = .string "b" ∧ v.get "+1" = .string "b" ∧ v.get "1" = .string "b" := by
  have hzero : indexKey false 1 1 = "01" := by decide
  have hplus : indexKey true 0 1 = "+1" := by decide
  have hplain : indexKey false 0 1 = "1" := by decide
  refine ⟨fun i => ⟨fun h => ?_, fun h => ?_⟩, ?_, ?_, ?_⟩
  · rw [← hzero, ← indexKey_decimal] at h
    exact absurd (indexKey_inj h).2.1 (by decide)
  · rw [← hplus, ← indexKey_decimal] at h
    exact absurd (indexKey_inj h).1 (by decide)
  · rw [← hzero]
    exact get_array_indexKey (by decide) false 1
  · rw [← hplus]
    exact get_array_indexKey (by decide) true 0
  · rw [← hplain]
    exact get_array_indexKey (by decide) false 0

end Value

end Stencil
