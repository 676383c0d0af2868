import Stencil.Value.Escape

/-!
# Escaped texts

Seven characters are written as entities, and every other one as itself (`Html.escapeChar_cases`). What
an escaped text was written for can be read off again from left to right, whatever it consists of: an
`&` in it is always the first character of an entity, so that no piece of the text can be taken for one
(`Value.escaped_lossless`).
-/

namespace Stencil

set_option autoImplicit false

namespace Html

/-- Characters that can open or close a tag or the value of an attribute. -/
def isMark (c : Char) : Bool :=
  c == '<' || c == '>' || c == '"' || c == '\'' || c == '\x60' || c == '='

/-- What is left of a text without all other characters. -/
def marks (s : String) : List Char := s.toList.filter isMark

theorem marks_append (s t : String) : marks (s ++ t) = marks s ++ marks t := by
  simp [marks]

/-- The entities that are written, each with the character that it stands for. -/
def entities : List (List Char × Char) :=
  [(['&', 'a', 'm', 'p', ';'], '&'), (['&', 'l', 't', ';'], '<'), (['&', 'g', 't', ';'], '>'),
    (['&', 'q', 'u', 'o', 't', ';'], '"'), (['&', '#', 'x', '2', '7', ';'], '\''),
    (['&', '#', 'x', '6', '0', ';'], '\x60'), (['&', '#', 'x', '3', 'D', ';'], '=')]

/-- The entity that a text starts with. -/
def entity? (cs : List Char) : Option (List Char × Char) :=
  entities.find? fun e => e.1.isPrefixOf cs

/-- Reads a text from left to right. An entity stands for its character, and what is not part of one
for itself. -/
def decodeChars : List Char → List Char
  | [] => []
  | c :: cs =>
    match entity? (c :: cs) with
    | some (written, d) => d :: decodeChars (cs.drop (written.length - 1))
    | none => c :: decodeChars cs
termination_by cs => cs.length
decreasing_by
  all_goals simp only [List.length_drop, List.length_cons]
  all_goals omega

def decode (s : String) : String := String.ofList (decodeChars s.toList)

theorem escapeChar_cases (c : Char) : (∃ written, (written, c) ∈ entities ∧ escapeChar c = written) ∨
    c ≠ '&' ∧ isMark c = false ∧ escapeChar c = [c] := by
  unfold escapeChar
  split
  case h_8 hamp hlt hgt hquot hapos hback heq =>
    refine Or.inr ⟨hamp, ?_, rfl⟩
    simp_all [isMark]
  all_goals exact Or.inl ⟨_, by simp [entities], rfl⟩

/-- Behind its first character an entity has no `&`, and no character of it is a mark. -/
theorem eq_cons_of_mem_entities {e : List Char × Char} (he : e ∈ entities) :
    ∃ tail, e.1 = '&' :: tail ∧ '&' ∉ tail ∧ e.1.filter isMark = [] := by
  simp only [entities, List.mem_cons, List.not_mem_nil, or_false] at he
  rcases he with rfl | rfl | rfl | rfl | rfl | rfl | rfl <;> exact ⟨_, rfl, by decide, rfl⟩

/-- No entity is the beginning of another one. -/
theorem entity?_append {e : List Char × Char} (he : e ∈ entities) (rest : List Char) :
    entity? (e.1 ++ rest) = some e := by
  simp only [entities, List.mem_cons, List.not_mem_nil, or_false] at he
  rcases he with rfl | rfl | rfl | rfl | rfl | rfl | rfl <;> rfl

theorem entity?_of_ne {c : Char} (hc : c ≠ '&') (cs : List Char) : entity? (c :: cs) = none := by
  rw [entity?, List.find?_eq_none]
  intro e he
  obtain ⟨tail, heq, -⟩ := eq_cons_of_mem_entities he
  simp [heq, hc.symm]

theorem decodeChars_entity {written : List Char} {c : Char} (he : (written, c) ∈ entities)
    (rest : List Char) : decodeChars (written ++ rest) = c :: decodeChars rest := by
  obtain ⟨tail, rfl, -⟩ := eq_cons_of_mem_entities he
  have hentity := entity?_append he rest
  rw [List.cons_append] at hentity ⊢
  rw [decodeChars, hentity]
  simp

theorem decodeChars_escape (cs : List Char) : decodeChars (cs.flatMap escapeChar) = cs := by
  induction cs with
  | nil => rw [List.flatMap_nil, decodeChars]
  | cons c cs ih =>
    rw [List.flatMap_cons]
    rcases escapeChar_cases c with ⟨written, he, hc⟩ | ⟨hamp, -, hc⟩
    · rw [hc, decodeChars_entity he, ih]
    · rw [hc, List.singleton_append, decodeChars, entity?_of_ne hamp, ih]

theorem decode_escape (s : String) : decode (escape s) = s := by
  rw [decode, escape, String.toList_ofList, decodeChars_escape, String.ofList_toList]

theorem marks_escapeChar (c : Char) : (escapeChar c).filter isMark = [] := by
  rcases escapeChar_cases c with ⟨written, he, hc⟩ | ⟨-, hmark, hc⟩
  · obtain ⟨_, -, -, hmarks⟩ := eq_cons_of_mem_entities he
    rw [hc]
    exact hmarks
  · rw [hc, List.filter_cons, hmark, if_neg Bool.false_ne_true, List.filter_nil]

theorem marks_escape (s : String) : marks (escape s) = [] := by
  rw [marks, escape, String.toList_ofList, List.filter_flatMap, List.flatMap_eq_nil_iff]
  exact fun c _ => marks_escapeChar c

theorem marks_escaped {η : Type} (v : Value η) : marks v.escaped = [] := by
  unfold Value.escaped
  split
  · rfl
  · exact marks_escape v.text

/-- Where an `&` stands in an escaped text, an entity starts. -/
theorem entity_of_ampersand {cs before behind : List Char}
    (h : cs.flatMap escapeChar = before ++ '&' :: behind) : ∃ e ∈ entities, e.1 <+: '&' :: behind := by
  induction cs generalizing before with
  | nil => simp at h
  | cons c cs ih =>
    rw [List.flatMap_cons] at h
    rcases escapeChar_cases c with ⟨written, he, hc⟩ | ⟨hamp, -, hc⟩
    · obtain ⟨tail, rfl, hfree, -⟩ := eq_cons_of_mem_entities he
      rw [hc] at h
      cases before with
      | nil => exact ⟨_, he, _, h⟩
      | cons b before =>
        -- the `&` stands behind the entity, since there is no second one in it
        obtain ⟨-, h⟩ := List.cons.inj h
        rcases List.append_eq_append_iff.mp h with ⟨between, -, hrest⟩ | ⟨rest, htail, hrest⟩
        · exact ih hrest
        · cases rest with
          | nil =>
            have hstart : cs.flatMap escapeChar = [] ++ '&' :: behind := hrest.symm
            exact ih hstart
          | cons d rest =>
            obtain ⟨rfl, -⟩ := List.cons.inj hrest
            exact absurd (htail ▸ List.mem_append_right _ List.mem_cons_self) hfree
    · rw [hc, List.singleton_append] at h
      cases before with
      | nil => exact absurd (List.cons.inj h).1 hamp
      | cons b before => exact ih (List.cons.inj h).2

/-- A text is written without marks and can be read off from what is written. -/
structure Represents (written text : String) : Prop where
  noMarks : marks written = []
  ampersands : ∀ before behind, written.toList = before ++ '&' :: behind →
    ∃ e ∈ entities, e.1 <+: '&' :: behind
  decoded : decode written = text

theorem represents_escape (s : String) : Represents (escape s) s where
  noMarks := marks_escape s
  ampersands := by
    intro before behind h
    rw [escape, String.toList_ofList] at h
    exact entity_of_ampersand h
  decoded := decode_escape s

end Html

namespace Value

variable {η : Type}

theorem escaped_of_not_nullish {v : Value η} (h : v.isNullish = false) :
    v.escaped = Html.escape v.text := by
  rw [escaped, h, if_neg Bool.false_ne_true]

theorem escaped_string (s : String) : (string s : Value η).escaped = Html.escape s :=
  escaped_of_not_nullish rfl

/-- Escaping is safe and loses nothing: the escaped text of a value can be read back. So different
strings are escaped differently, and strings can be escaped piece by piece. -/
theorem escaped_lossless :
    (∀ v : Value η, v.isNullish = false → Html.Represents v.escaped v.text) ∧
    (∀ s t : String, (string s : Value η).escaped = (string t : Value η).escaped → s = t) ∧
    ∀ s t : String, (string (s ++ t) : Value η).escaped =
      (string s : Value η).escaped ++ (string t : Value η).escaped := by
  refine ⟨?_, ?_, ?_⟩
  · intro v hv
    rw [escaped_of_not_nullish hv]
    exact Html.represents_escape v.text
  · intro s t h
    rw [escaped_string, escaped_string] at h
    rw [← Html.decode_escape s, h, Html.decode_escape]
  · intro s t
    rw [escaped_string, escaped_string, escaped_string, Html.escape_append]

/-- The text of this list has an entity of its own, which is not taken for an escaped `<`. -/
theorem escaped_lossless_list :
    let v : Value Unit := .array [.string "a<b", .null, .string "&lt;"]
    v.escaped = "a&lt;b,,&amp;lt;" ∧ Html.Represents v.escaped "a<b,,&lt;" :=
  ⟨by decide, escaped_lossless.1 _ rfl⟩

end Value

end Stencil
