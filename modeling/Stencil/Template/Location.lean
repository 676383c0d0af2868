import Stencil.Json.Record

/-!
# Places in a template's text
-/

namespace Stencil.Template

set_option autoImplicit false

/-- A line, from one on, and a column, from zero on. -/
structure Position where
  line : UInt64
  column : UInt64
deriving Repr, DecidableEq

/-- The stretch of text that a node was written in. -/
structure Location where
  source : Option String
  start : Position
  finish : Position
deriving Repr, DecidableEq

namespace Location

/-- Where a stretch starts, behind the name of its source. -/
def text (l : Location) : String :=
  let place := toString l.start.line.toNat ++ ":" ++ toString l.start.column.toNat
  match l.source with
  | some s => s ++ ":" ++ place
  | none => place

end Location

def Position.toJson (p : Position) : Json :=
  .obj [("line", .num (.ofWord p.line)), ("column", .num (.ofWord p.column))]

def Position.ofJson? (j : Json) : Option Position := do
  let r ← j.row? ["line", "column"]
  let line ← r.need "line" Json.word?
  let column ← r.need "column" Json.word?
  return ⟨line, column⟩

namespace Location

def toJson (l : Location) : Json :=
  .obj [("source", l.source.elim .null .str), ("start", l.start.toJson), ("end", l.finish.toJson)]

def optToJson (l : Option Location) : Json := l.elim .null toJson

def ofJson? (j : Json) : Option Location := do
  let r ← j.row? ["source", "start", "end"]
  let source ← r.maybe "source" Json.str?
  let start ← r.need "start" Position.ofJson?
  let finish ← r.need "end" Position.ofJson?
  return ⟨source, start, finish⟩

end Location

end Stencil.Template
