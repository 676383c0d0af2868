import Stencil.Json.Record

/-!
# Options of a compilation
-/

namespace Stencil

set_option autoImplicit false

structure Options where
  /-- The function applied to an escaped interpolation. -/
  escapeFn : String := "escape"
  /-- The function applied to a raw interpolation. -/
  stringifyFn : String := "String"
  exported : Bool := false
  renderName : String := "render"
  /-- Whether a construct without a counterpart is an error; otherwise it is dropped with a warning. -/
  strict : Bool := true
deriving Repr, DecidableEq

namespace Options

def names : List String := ["escapeFn", "stringifyFn", "export", "renderName", "strict"]

def toJson (o : Options) : Json :=
  .obj [("escapeFn", .str o.escapeFn), ("stringifyFn", .str o.stringifyFn), ("export", .bool o.exported),
    ("renderName", .str o.renderName), ("strict", .bool o.strict)]

/-- A document as options; what is missing takes its default. -/
def ofJson? (j : Json) : Option Options := do
  let d : Options := {}
  let r ← j.row? names
  let escapeFn ← r.orDefault "escapeFn" Json.str? d.escapeFn
  let stringifyFn ← r.orDefault "stringifyFn" Json.str? d.stringifyFn
  let exported ← r.orDefault "export" Json.bool? d.exported
  let renderName ← r.orDefault "renderName" Json.str? d.renderName
  let strict ← r.orDefault "strict" Json.bool? d.strict
  return ⟨escapeFn, stringifyFn, exported, renderName, strict⟩

def field (o : Options) (name : String) : Reader Options := fun ts =>
  match name with
  | "escapeFn" => (Reader.string ts).map fun (s, ts) => ({ o with escapeFn := s }, ts)
  | "stringifyFn" => (Reader.string ts).map fun (s, ts) => ({ o with stringifyFn := s }, ts)
  | "export" => (Reader.bool ts).map fun (b, ts) => ({ o with exported := b }, ts)
  | "renderName" => (Reader.string ts).map fun (s, ts) => ({ o with renderName := s }, ts)
  | _ => (Reader.bool ts).map fun (b, ts) => ({ o with strict := b }, ts)

def ofText (text : String) : Except Fault Options :=
  Reader.run (Reader.record names field {}) text

end Options

end Stencil
