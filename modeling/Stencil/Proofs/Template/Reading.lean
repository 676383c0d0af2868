import Stencil.Proofs.Json.Reading
import Stencil.Proofs.Template.Decoding

/-!
# Templates from their text

A text with the tokens of a template's document is read as this template if at most as many arrays and
objects are nested in it as a text may nest, and is malformed otherwise (`Node.ofText_of_scan`).
-/

namespace Stencil.Template.Node

set_option autoImplicit false

open Reader (nestingLimit)

theorem toJson_eq_tagged (n : Node) : n.toJson = .obj (("type", .str n.kind) :: Form.fields n.slots) := by
  rw [← document_form n]
  rfl

theorem fields_name_ne_type (n : Node) : ∀ f ∈ Form.fields n.slots, f.1 ≠ "type" := by
  intro f hf htype
  obtain ⟨s, hs, hname⟩ := (keeps_fields n.slots).name_mem f hf
  exact n.name_ne_type s hs (hname.trans htype)

/-- A template is read back from its tokens unless it is nested too deep. -/
theorem ofText_of_scan {n : Node} {text : String} (h : Token.scan text = n.toJson.tokens) :
    ofText text = if n.toJson.nesting ≤ nestingLimit then .ok n else .error .malformed := by
  have hroot : ofRoot? n.kind (.obj (Form.fields n.slots)) = some n :=
    ofTagged?_reads n _ _ (relaxes_document (.record n.slots)) (Nat.le_succ _)
  have htagged := Reader.tagged_tokens n.kind_mem_kinds n.fields_name_ne_type nestingLimit []
  rw [← toJson_eq_tagged, List.append_nil] at htagged
  rw [ofText, Reader.run, h, Reader.check, htagged]
  split
  · simp [bind, Except.bind, hroot]
  · rfl

end Stencil.Template.Node
