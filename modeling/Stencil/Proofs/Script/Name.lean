import Stencil.Proofs.Text.Identifier
import Stencil.Script.Build

/-!
# Names that are written bare

`isIdentifier` asks for letters and numbers where the grammar of scripts asks for characters of
identifiers. Most letters and numbers are such characters. Those that are not are the marks among the
letters where a name starts, and everywhere the letter symbols and the numbers that are neither digits
nor letters; a name that is written bare is one of the grammar unless one of these stands in it
(`isIdentifierName_of_isIdentifier`).
-/

namespace Stencil.Script

set_option autoImplicit false
set_option maxRecDepth 4096

open Text

/-- Whether a name of the grammar can start with this character. -/
def startsName (c : Char) : Bool := c == '$' || c == '_' || idStart.has c

/-- Whether this character can stand inside a name of the grammar. Two of them are not to be seen: they
keep the characters around them apart or join them. -/
def continuesName (c : Char) : Bool :=
  c == '$' || c == '_' || c == '\u200C' || c == '\u200D' || idContinue.any fun s => s.has c

/-- Whether the grammar of scripts has this name (`IdentifierName`). -/
def isIdentifierName (name : String) : Bool :=
  match name.toList with
  | [] => false
  | c :: cs => startsName c && cs.all continuesName

/-- Letters with which no name starts. -/
def isStrayStart (c : Char) : Bool := mark.has c && !otherIdStart.has c || letterSymbol.has c

/-- Letters and numbers that do not stand in a name. -/
def isStrayPart (c : Char) : Bool := letterSymbol.has c || otherNumber.has c && !otherIdContinue.has c

theorem startsName_of_isNameStart {c : Char} (h : isNameStart c = true) :
    startsName c = !isStrayStart c := by
  by_cases hsign : c = '$' ∨ c = '_'
  · rcases hsign with rfl | rfl <;> decide
  · have hne : (c == '$') = false ∧ (c == '_') = false := by
      simpa only [beq_eq_false_iff_ne, not_or] using hsign
    have halpha : Text.isAlphabetic c = true := by simpa [isNameStart, hne] using h
    rw [startsName, hne.1, hne.2, Bool.false_or, Bool.false_or, idStart_has_of_isAlphabetic halpha]
    rfl

theorem continuesName_of_isNamePart {c : Char} (h : isNamePart c = true) :
    continuesName c = !isStrayPart c := by
  by_cases hsign : c = '$' ∨ c = '_' ∨ c = '\u200C' ∨ c = '\u200D'
  · rcases hsign with rfl | rfl | rfl | rfl <;> decide
  · have hne : (c == '$') = false ∧ (c == '_') = false ∧ (c == '\u200C') = false ∧
        (c == '\u200D') = false := by
      simpa only [beq_eq_false_iff_ne, not_or] using hsign
    have hchar : Text.isAlphabetic c = true ∨ Text.isNumeric c = true := by
      simpa [isNamePart, isNameStart, hne] using h
    rw [continuesName, hne.1, hne.2.1, hne.2.2.1, hne.2.2.2, any_idContinue_has hchar]
    rfl

/-- A name that is written bare is one of the grammar if it starts with no stray letter and has no
stray letter or number further on. -/
theorem isIdentifierName_of_isIdentifier {name : String} (h : isIdentifier name = true) :
    (∀ target : Expr, target.get name = .member target (.ident name) false) ∧
    (∀ value, (Property.of name value).key = .ident name) ∧
    (isIdentifierName name = true ↔ (∀ c ∈ name.toList.head?, isStrayStart c = false) ∧
      ∀ c ∈ name.toList.tail, isStrayPart c = false) := by
  refine ⟨fun target => ?_, fun value => ?_, ?_⟩
  · rw [Expr.get, if_pos h]
  · rw [Property.of, if_pos h]
  · unfold isIdentifier at h
    unfold isIdentifierName
    cases hname : name.toList with
    | nil =>
      rw [hname] at h
      cases h
    | cons c cs =>
      rw [hname] at h
      simp only [Bool.and_eq_true, List.all_eq_true] at h ⊢
      obtain ⟨hc, hcs⟩ := h
      have hrest : (∀ d ∈ cs, continuesName d = true) ↔ ∀ d ∈ cs, isStrayPart d = false := by
        refine forall₂_congr fun d hd => ?_
        rw [continuesName_of_isNamePart (hcs d hd), Bool.not_eq_true']
      rw [startsName_of_isNameStart hc, Bool.not_eq_true', hrest]
      simp

/-- The last character of this name is a number that is neither a digit nor a letter, but a stable
one. -/
theorem isIdentifierName_size :
    isIdentifier "größe_፩" = true ∧ isIdentifierName "größe_፩" = true := by
  have hbare : isIdentifier "größe_፩" = true := by decide
  have hhead : "größe_፩".toList.head? = some 'g' := by decide
  have hstart : isStrayStart 'g' = false := by decide
  have hrest : ("größe_፩".toList.tail.all fun c => !isStrayPart c) = true := by decide
  refine ⟨hbare, (isIdentifierName_of_isIdentifier hbare).2.2.mpr ⟨?_, ?_⟩⟩
  · intro c hc
    rw [hhead] at hc
    cases hc
    exact hstart
  · intro c hc
    simpa using List.all_eq_true.mp hrest c hc

/-- A superscript, a letter in a circle and a mark with nothing before it are all written bare, and the
grammar has none of these names. -/
theorem isIdentifier_stray :
    Expr.get (.ident "data1") "x²" = .member (.ident "data1") (.ident "x²") false ∧
    isIdentifier "x²" = true ∧ isIdentifierName "x²" = false ∧
    isIdentifier "ⓐ" = true ∧ isIdentifierName "ⓐ" = false ∧
    isIdentifier "\u0345x" = true ∧ isIdentifierName "\u0345x" = false := by
  have hbare : isIdentifier "x²" = true := by decide
  refine ⟨?_, hbare, ?_⟩
  · rw [Expr.get, if_pos hbare]
  · decide

end Stencil.Script
