import Stencil.Proofs.Json.Reading
import Stencil.Proofs.Script.Decoding

/-!
# Programs from their text

A text with the tokens of a program's document is read as this program if at most as many arrays and
objects are nested in it as a text may nest, and is malformed otherwise (`Program.ofText_of_scan`).
-/

namespace Stencil.Script

set_option autoImplicit false

open Reader (nestingLimit)

/-- The reader of a program's statements. -/
abbrev Statement.reader : Reader Statement :=
  (Reader.tagged Statement.kinds (nestingLimit - 2)).check fun (kind, body) => Statement.ofRoot? kind body

theorem Statement.reader_tokens (s : Statement) (rest : List Token) :
    Statement.reader (s.toJson.tokens ++ rest) =
      if s.toJson.nesting ≤ nestingLimit - 2 then .ok (s, rest) else .error .malformed := by
  obtain ⟨kind, fields, hjson, hk, hf, hread⟩ := Statement.rereads s
  have hroot : Statement.ofRoot? kind (.obj fields) = some s :=
    hread (Json.obj fields).depth (Nat.le_succ _)
  rw [hjson, node, Statement.reader, Reader.check, Reader.tagged_tokens hk hf]
  split
  · simp [bind, Except.bind, hroot]
  · rfl

namespace Program

/-- The fields of a program's document. -/
def fields (p : Program) : List (String × Json) :=
  [("type", .str "Program"), ("body", .arr (p.body.map Statement.toJson)),
    ("sourceType", .str p.sourceType.name)]

theorem toJson_eq_fields (p : Program) : p.toJson = .obj p.fields := by
  rw [toJson, node, Statement.listToJson_eq_map, fields]

theorem nesting_toJson (p : Program) :
    p.toJson.nesting = Json.nestingOfItems (p.body.map Statement.toJson) + 2 := by
  simp [toJson_eq_fields, fields, Json.nesting, Json.nestingOfFields]

theorem nesting_toJson_le_iff {p : Program} {limit : Nat} :
    p.toJson.nesting ≤ limit + 2 ↔ ∀ s ∈ p.body, s.toJson.nesting ≤ limit := by
  rw [nesting_toJson, Nat.add_le_add_iff_right, Json.nestingOfItems_le_iff, List.forall_mem_map]

/-- What a field of a program adds to what has been read of it. -/
def readStep (p : Program) (d : Draft) (f : String × Json) : Except Fault Draft :=
  if f.1 = "body" then
    if ∀ s ∈ p.body, s.toJson.nesting ≤ nestingLimit - 2 then .ok { d with body := some p.body }
    else .error .malformed
  else .ok { d with sourceType := some p.sourceType }

theorem name_tokens (t : SourceType) (rest : List Token) :
    ((Reader.name SourceType.names).check SourceType.ofName?) ((Json.str t.name).tokens ++ rest) =
      .ok (t, rest) := by
  cases t <;> rfl

theorem field_tokens (p : Program) {f : String × Json} (hf : f ∈ p.fields) (hname : f.1 ≠ "type")
    (d : Draft) (rest : List Token) :
    field d f.1 (f.2.tokens ++ rest) = (readStep p d f).map (·, rest) := by
  simp only [fields, List.mem_cons, List.not_mem_nil, or_false] at hf
  rcases hf with rfl | rfl | rfl
  · exact absurd rfl hname
  · have hbody := Reader.list_tokens Statement.toJson p.body
      (fun s _ rest => Statement.reader_tokens s rest) rest
    simp only [field, readStep, if_true]
    rw [hbody]
    split <;> rfl
  · have hname := name_tokens p.sourceType rest
    simp only [field, readStep]
    rw [hname]
    rfl

/-- The names of the fields that are read; the type is skipped. -/
abbrev names : List String := ["body", "sourceType"]

theorem record_tokens (p : Program) :
    Reader.record names field ⟨none, none⟩ p.toJson.tokens =
      if p.toJson.nesting ≤ nestingLimit then .ok (⟨some p.body, some p.sourceType⟩, [])
      else .error .malformed := by
  have hnesting : p.toJson.nesting ≤ nestingLimit ↔ ∀ s ∈ p.body, s.toJson.nesting ≤ nestingLimit - 2 :=
    nesting_toJson_le_iff
  have hfield : ∀ f ∈ p.fields, f.1 ∈ names → ∀ d rest,
      field d f.1 (f.2.tokens ++ rest) = (readStep p d f).map (·, rest) := by
    intro f hf hname
    refine field_tokens p hf ?_
    rintro htype
    rw [htype] at hname
    exact absurd hname (by decide)
  have hskip : ∀ f ∈ p.fields, f.1 ∉ names → ∀ rest,
      Reader.skip (f.2.tokens ++ rest) = .ok ((), rest) := by
    intro f hf hname rest
    simp only [fields, List.mem_cons, List.not_mem_nil, or_false] at hf
    rcases hf with rfl | rfl | rfl
    · exact Reader.skip_string "Program" rest
    · exact absurd List.mem_cons_self hname
    · exact absurd (List.mem_cons_of_mem _ List.mem_cons_self) hname
  have hrecord := Reader.record_tokens hfield hskip ⟨none, none⟩ []
  rw [List.append_nil, ← toJson_eq_fields] at hrecord
  rw [hrecord]
  simp only [hnesting]
  split
  next hall =>
    have hbody (d : Draft) : readStep p d ("body", .arr (p.body.map Statement.toJson)) =
        .ok { d with body := some p.body } := if_pos hall
    have hsourceType (d : Draft) : readStep p d ("sourceType", .str p.sourceType.name) =
        .ok { d with sourceType := some p.sourceType } := rfl
    simp [fields, Reader.recordStep, hbody, hsourceType, bind, Except.bind, Except.map, pure, Except.pure]
  next hall =>
    have hbody (d : Draft) : readStep p d ("body", .arr (p.body.map Statement.toJson)) =
        .error .malformed := if_neg hall
    simp [fields, Reader.recordStep, hbody, bind, Except.bind, Except.map]

/-- A program is read back from its tokens unless it is nested too deep. -/
theorem ofText_of_scan {p : Program} {text : String} (h : Token.scan text = p.toJson.tokens) :
    ofText text = if p.toJson.nesting ≤ nestingLimit then .ok p else .error .malformed := by
  rw [ofText, Reader.run, h, Reader.check, record_tokens]
  split
  · rfl
  · rfl

end Program

end Stencil.Script
