import Mathlib.Data.List.Forall2
import Mathlib.Data.List.TakeWhile
import Stencil.CommandLine.Arguments

/-!
# The helpers that arguments declare

The values of `--helper` can be told from an argument list alone, since no option takes a value that
looks like an option. Each of them is split at its first equals sign, and they are kept in order
(`helper_of_ofList`).
-/

namespace Stencil.CommandLine

set_option autoImplicit false

section Splitting

theorem splitAtEquals_append {name : List Char} (h : '=' ∉ name) (value : List Char) :
    splitAtEquals (name ++ '=' :: value) = (name, some value) := by
  have hname : ∀ c ∈ name, (c != '=') = true := by
    intro c hc
    rw [bne_iff_ne]
    rintro rfl
    exact h hc
  rw [splitAtEquals, List.dropWhile_append_of_pos hname, List.takeWhile_append_of_pos hname]
  simp

theorem splitAtEquals_eq_some {cs name value : List Char} (h : splitAtEquals cs = (name, some value)) :
    cs = name ++ '=' :: value ∧ '=' ∉ name := by
  unfold splitAtEquals at h
  split at h
  · cases h
  next c rest hdrop =>
    cases h
    have hc : c = '=' := by
      have hhead := List.head_dropWhile_not (· != '=') (l := cs) (by simp [hdrop])
      simpa [hdrop] using hhead
    subst hc
    refine ⟨?_, ?_⟩
    · rw [← hdrop, List.takeWhile_append_dropWhile]
    · intro hmem
      exact absurd (List.mem_takeWhile_imp hmem) (by decide)

theorem splitAtEquals_eq_none {cs name : List Char} (h : splitAtEquals cs = (name, none)) : name = cs := by
  unfold splitAtEquals at h
  split at h
  · exact (Prod.mk.inj h).1.symm
  · cases h

/-- A value is `name=source`, split at its first equals sign, and neither side is empty. -/
structure Splits (v : String) (pair : String × String) : Prop where
  whole : v = pair.1 ++ "=" ++ pair.2
  first : '=' ∉ pair.1.toList
  name : pair.1 ≠ ""
  source : pair.2 ≠ ""

theorem helperPair?_eq_some_iff {v : String} {pair : String × String} :
    helperPair? v = some pair ↔ Splits v pair := by
  obtain ⟨name, source⟩ := pair
  constructor
  · intro h
    unfold helperPair? at h
    split at h
    next n ns s ss hsplit =>
      cases h
      obtain ⟨hwhole, hfirst⟩ := splitAtEquals_eq_some hsplit
      refine ⟨?_, ?_, ?_, ?_⟩
      · rw [String.ext_iff]
        simpa using hwhole
      · simpa using hfirst
      · simp
      · simp
    next => cases h
  · rintro ⟨hwhole, hfirst, hname, hsource⟩
    have hsplit : splitAtEquals v.toList = (name.toList, some source.toList) := by
      rw [hwhole]
      simpa using splitAtEquals_append hfirst source.toList
    have hn : ∃ n ns, name.toList = n :: ns :=
      List.exists_cons_of_ne_nil (by simpa using hname)
    have hs : ∃ s ss, source.toList = s :: ss :=
      List.exists_cons_of_ne_nil (by simpa using hsource)
    obtain ⟨n, ns, hn⟩ := hn
    obtain ⟨s, ss, hs⟩ := hs
    rw [helperPair?, hsplit, hn, hs]
    simp only [← hn, ← hs, String.ofList_toList]

end Splitting

/-- The value of a helper option that holds it. -/
def heldValue? (v : String) : Option String :=
  match v.toList with
  | '-' :: '-' :: 'h' :: 'e' :: 'l' :: 'p' :: 'e' :: 'r' :: '=' :: cs => some (String.ofList cs)
  | _ => none

/-- The values of `--helper` in an argument list; `next` says that the first argument is one. -/
def helperValues : Bool → List String → List String
  | _, [] => []
  | true, v :: vs => v :: helperValues false vs
  | false, v :: vs =>
    if v = "--" then []
    else if v = "--helper" then helperValues true vs
    else (heldValue? v).toList ++ helperValues false vs

section Setting
variable {a a' : Arguments} {v : String}

theorem helper_of_set? {o : Valued} (ho : o ≠ .helper) (h : a.set? o v = some a') : a'.helper = a.helper := by
  cases o with
  | helper => exact absurd rfl ho
  | _ =>
    simp only [Arguments.set?, Option.bind_eq_bind, Option.bind_eq_some_iff, pure, Option.some.injEq] at h
    grind

theorem helper_of_set?_helper (h : a.set? .helper v = some a') :
    ∃ pair, Splits v pair ∧ a'.helper = a.helper ++ [pair] := by
  obtain ⟨pair, hpair, h⟩ := Option.bind_eq_some_iff.mp h
  cases h
  exact ⟨pair, helperPair?_eq_some_iff.mp hpair, rfl⟩

theorem helper_of_raise? {f : Flag} (h : a.raise? f = some a') : a'.helper = a.helper := by
  cases f with
  | _ =>
    simp only [Arguments.raise?] at h
    split at h
    · cases h
    · cases h
      rfl

theorem helper_of_place? (h : a.place? v = some a') : a'.helper = a.helper := by
  obtain ⟨name, -, h⟩ := Option.bind_eq_some_iff.mp h
  obtain ⟨input, -, h⟩ := Option.bind_eq_some_iff.mp h
  cases h
  rfl

theorem helper_of_positional {vs : List String} (h : positional a vs = .run a') : a'.helper = a.helper := by
  induction vs generalizing a with
  | nil =>
    cases h
    rfl
  | cons v vs ih =>
    rw [positional] at h
    split at h
    next a₁ hplace => rw [ih h, helper_of_place? hplace]
    next => cases h

end Setting

section Taking
variable {a a' : Arguments} {v : String}

/-- What is done with a long option. -/
theorem take_long (a : Arguments) {cs : List Char} (htext : v.toList = '-' :: '-' :: cs) :
    a.take v = match Switch.ofName? (String.ofList (splitAtEquals cs).1), (splitAtEquals cs).2 with
      | some (.valued o), some v => .ofOption (a.set? o (String.ofList v))
      | some (.valued o), none => .needsValue o
      | some (.flag f), none => .ofOption (a.raise? f)
      | some .version, none => .version
      | _, _ => .refused := by
  unfold Arguments.take
  rw [htext]
  rfl

theorem take_of_heldValue? {u : String} (h : heldValue? v = some u) :
    a.take v = .ofOption (a.set? .helper u) := by
  unfold heldValue? at h
  split at h
  next cs htext =>
    cases h
    have hsplit : splitAtEquals ('h' :: 'e' :: 'l' :: 'p' :: 'e' :: 'r' :: '=' :: cs) =
        (['h', 'e', 'l', 'p', 'e', 'r'], some cs) :=
      @splitAtEquals_append ['h', 'e', 'l', 'p', 'e', 'r'] (by decide) cs
    rw [take_long a htext, hsplit]
    rfl
  next => cases h

theorem eq_helper_of_ofName? {name : String} (h : Switch.ofName? name = some (.valued .helper)) :
    name = "helper" := by
  unfold Switch.ofName? at h
  split at h
  all_goals first
    | rfl
    | cases h

/-- The long option of another name. -/
theorem switch_ne_helper {cs : List Char} (htext : v.toList = '-' :: '-' :: cs) (hne : v ≠ "--helper")
    (hheld : heldValue? v = none) :
    Switch.ofName? (String.ofList (splitAtEquals cs).1) ≠ some (.valued .helper) := by
  intro h
  rcases hsplit : splitAtEquals cs with ⟨name, _ | value⟩
  all_goals
    rw [hsplit] at h
    have hname : name = ['h', 'e', 'l', 'p', 'e', 'r'] := by
      simpa [String.ext_iff] using eq_helper_of_ofName? h
  · apply hne
    rw [String.ext_iff, htext, ← splitAtEquals_eq_none hsplit, hname]
    rfl
  · have hcs := (splitAtEquals_eq_some hsplit).1
    simp [heldValue?, htext, hcs, hname] at hheld

/-- An argument was taken that has nothing to do with helpers. -/
def Taken.Spares (a : Arguments) : Taken → Prop
  | .goOn a' => a'.helper = a.helper
  | .needsValue o => o ≠ .helper
  | _ => True

theorem spares_ofOption {x : Option Arguments} (h : ∀ a', x = some a' → a'.helper = a.helper) :
    (Taken.ofOption x).Spares a := by
  cases x with
  | none => trivial
  | some a' => exact h a' rfl

theorem eq_some_of_ofOption {x : Option Arguments} (h : Taken.ofOption x = .goOn a') : x = some a' := by
  cases x with
  | none => cases h
  | some a =>
    cases h
    rfl

theorem spares_take (hne : v ≠ "--helper") (hheld : heldValue? v = none) : (a.take v).Spares a := by
  by_cases hlong : ∃ cs, v.toList = '-' :: '-' :: cs
  · obtain ⟨cs, htext⟩ := hlong
    have hswitch := switch_ne_helper htext hne hheld
    rw [take_long a htext]
    generalize Switch.ofName? (String.ofList (splitAtEquals cs).1) = switch at hswitch
    generalize (splitAtEquals cs).2 = value
    split
    next o u =>
      have ho : o ≠ .helper := fun ho => hswitch (by rw [ho])
      exact spares_ofOption fun _ h => helper_of_set? ho h
    next o => exact fun ho => hswitch (by rw [ho])
    next f => exact spares_ofOption fun _ h => helper_of_raise? h
    next => trivial
    next => trivial
  · unfold Arguments.take
    split
    next cs htext => exact absurd ⟨cs, htext⟩ hlong
    next => trivial
    next => exact Valued.noConfusion
    next => exact spares_ofOption fun _ h => helper_of_set? Valued.noConfusion h
    next => exact spares_ofOption fun _ h => helper_of_set? Valued.noConfusion h
    next => trivial
    next => exact spares_ofOption fun _ h => helper_of_place? h

end Taking

/-- A value that does not look like an option is none. -/
theorem helperValues_of_not_looksLikeOption {v : String} (h : looksLikeOption v = false) (vs : List String) :
    helperValues false (v :: vs) = helperValues false vs := by
  have hend : v ≠ "--" := by
    rintro rfl
    cases h
  have hhelper : v ≠ "--helper" := by
    rintro rfl
    cases h
  have hheld : heldValue? v = none := by
    unfold heldValue?
    split
    next htext =>
      rw [looksLikeOption, htext] at h
      cases h
    next => rfl
  rw [helperValues, if_neg hend, if_neg hhelper, hheld, Option.toList_none, List.nil_append]

section Steps
variable {a a' : Arguments} {v : String} (vs : List String)

/-- The pairs that an argument adds are those of the values that it adds. -/
theorem helper_of_value {o : Valued} (hlooks : looksLikeOption v = false) (hset : a.set? o v = some a') :
    ∃ values added, helperValues (some o == some .helper) (v :: vs) = values ++ helperValues false vs ∧
      a'.helper = a.helper ++ added ∧ List.Forall₂ Splits values added := by
  by_cases ho : o = .helper
  · subst ho
    obtain ⟨pair, hpair, hadd⟩ := helper_of_set?_helper hset
    exact ⟨[v], [pair], rfl, hadd, .cons hpair .nil⟩
  · have hpending : (some o == some Valued.helper) = false := by simpa using ho
    refine ⟨[], [], ?_, ?_, .nil⟩
    · rw [hpending, helperValues_of_not_looksLikeOption hlooks, List.nil_append]
    · rw [helper_of_set? ho hset, List.append_nil]

theorem helper_of_goOn (hend : v ≠ "--") (htake : a.take v = .goOn a') :
    ∃ values added, helperValues false (v :: vs) = values ++ helperValues false vs ∧
      a'.helper = a.helper ++ added ∧ List.Forall₂ Splits values added := by
  have hhelper : v ≠ "--helper" := by
    rintro rfl
    cases htake
  have hvalues : helperValues false (v :: vs) = (heldValue? v).toList ++ helperValues false vs := by
    rw [helperValues, if_neg hend, if_neg hhelper]
  cases hheld : heldValue? v with
  | some u =>
    rw [take_of_heldValue? hheld] at htake
    obtain ⟨pair, hpair, hadd⟩ := helper_of_set?_helper (eq_some_of_ofOption htake)
    rw [hheld] at hvalues
    exact ⟨[u], [pair], hvalues, hadd, .cons hpair .nil⟩
  | none =>
    have hspares : (a.take v).Spares a := spares_take hhelper hheld
    rw [htake] at hspares
    rw [hheld] at hvalues
    exact ⟨[], [], hvalues, by rw [List.append_nil]; exact hspares, .nil⟩

theorem helperValues_of_needsValue {o : Valued} (hend : v ≠ "--") (htake : a.take v = .needsValue o) :
    helperValues false (v :: vs) = helperValues (some o == some .helper) vs := by
  by_cases hhelper : v = "--helper"
  · subst hhelper
    cases htake
    rfl
  · have hheld : heldValue? v = none := by
      cases hheld : heldValue? v with
      | none => rfl
      | some u =>
        rw [take_of_heldValue? hheld] at htake
        cases hset : a.set? .helper u <;> rw [hset] at htake <;> cases htake
    have hspares : (a.take v).Spares a := spares_take hhelper hheld
    rw [htake] at hspares
    have ho : o ≠ .helper := hspares
    have hpending : (some o == some Valued.helper) = false := by simpa using ho
    rw [helperValues, if_neg hend, if_neg hhelper, hheld, hpending, Option.toList_none, List.nil_append]

end Steps

theorem helper_of_takeAll {pending : Option Valued} {a a' : Arguments} {args : List String}
    (h : takeAll pending a args = .run a') :
    ∃ added, a'.helper = a.helper ++ added ∧
      List.Forall₂ Splits (helperValues (pending == some .helper) args) added := by
  induction args generalizing pending a with
  | nil =>
    cases pending with
    | none =>
      cases h
      exact ⟨[], (List.append_nil _).symm, .nil⟩
    | some o => cases h
  | cons v vs ih =>
    -- a step that adds some values to the helpers, and the rest of the arguments
    have hstep : ∀ {a₁ : Arguments} {values : List String} {added : List (String × String)},
        takeAll none a₁ vs = .run a' →
        helperValues (pending == some .helper) (v :: vs) = values ++ helperValues false vs →
        a₁.helper = a.helper ++ added → List.Forall₂ Splits values added →
        ∃ added, a'.helper = a.helper ++ added ∧
          List.Forall₂ Splits (helperValues (pending == some .helper) (v :: vs)) added := by
      intro a₁ values added h hvalues hadd hsplits
      obtain ⟨more, hmore, hrest⟩ := ih h
      refine ⟨added ++ more, ?_, ?_⟩
      · rw [hmore, hadd, List.append_assoc]
      · rw [hvalues]
        exact List.rel_append hsplits hrest
    cases pending with
    | some o =>
      rw [takeAll] at h
      split at h
      · cases h
      next hlooks =>
        split at h
        next a₁ hset =>
          obtain ⟨values, added, hvalues, hadd, hsplits⟩ := helper_of_value vs (by simpa using hlooks) hset
          exact hstep h hvalues hadd hsplits
        next => cases h
    | none =>
      rw [takeAll] at h
      split at h
      next hend =>
        refine ⟨[], ?_, ?_⟩
        · rw [helper_of_positional h, List.append_nil]
        · simp [helperValues, hend]
      next hend =>
        split at h
        next a₁ htake =>
          obtain ⟨values, added, hvalues, hadd, hsplits⟩ := helper_of_goOn vs hend htake
          exact hstep h hvalues hadd hsplits
        next o htake =>
          obtain ⟨added, hadd, hsplits⟩ := ih h
          refine ⟨added, hadd, ?_⟩
          have hvalues := helperValues_of_needsValue vs hend htake
          rw [← hvalues] at hsplits
          exact hsplits
        next => cases h
        next => cases h

/-- The helpers of an accepted argument list are the values of `--helper` in it, each split at its
first equals sign. -/
theorem helper_of_ofList {args : List String} {a : Arguments} (h : Command.ofList args = .run a) :
    List.Forall₂ Splits (helperValues false args) a.helper := by
  obtain ⟨added, hadded, hsplits⟩ := helper_of_takeAll h
  rw [hadded]
  exact hsplits

end Stencil.CommandLine
