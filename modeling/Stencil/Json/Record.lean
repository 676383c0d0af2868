import Stencil.Json.Reader

/-!
# Typed records in documents

A record is an object whose fields may come in any order, among fields of other names, or an array
of the fields in declaration order. A variant of a union is a record with a tag: the field `type`
of an object, the first item of an array. A tag inside a document may also be the position of the
variant's name; at the root of a document it is the name.
-/

namespace Stencil

set_option autoImplicit false

namespace Json

def occurrences (name : String) (fields : List (String × Json)) : Nat :=
  fields.countP fun f => f.1 == name

structure Row where
  cells : List (String × Json)
  /-- The record was given as an array. -/
  positional : Bool

/-- A document as a record with the given fields: none of them is repeated, and an array is not
longer than they are. -/
def row? (names : List String) : Json → Option Row
  | .obj fields =>
    if names.all fun n => occurrences n fields ≤ 1 then some ⟨fields, false⟩ else none
  | .arr items => if items.length ≤ names.length then some ⟨names.zip items, true⟩ else none
  | _ => none

def nullable {α : Type} (read : Json → Option α) : Json → Option (Option α)
  | .null => some none
  | j => (read j).map some

def Row.need {α : Type} (r : Row) (name : String) (read : Json → Option α) : Option α :=
  (find? name r.cells).bind read

def Row.orDefault {α : Type} (r : Row) (name : String) (read : Json → Option α) (d : α) : Option α :=
  match find? name r.cells with
  | none => some d
  | some j => read j

/-- A field that may be missing or `null`. -/
def Row.maybe {α : Type} (r : Row) (name : String) (read : Json → Option α) : Option (Option α) :=
  r.orDefault name (nullable read) none

/-- A field that may be `null`, and in an object may be missing. -/
def Row.mayBeNull {α : Type} (r : Row) (name : String) (read : Json → Option α) : Option (Option α) :=
  if r.positional then r.need name (nullable read) else r.maybe name read

def str? : Json → Option String
  | .str s => some s
  | _ => none

def bool? : Json → Option Bool
  | .bool b => some b
  | _ => none

def num? : Json → Option Number
  | .num n => some n
  | _ => none

/-- An integer from `0` to `2^64 - 1`. -/
def word? : Json → Option UInt64
  | .num n => n.word?
  | _ => none

def items? {α : Type} (read : Json → Option α) : List Json → Option (List α)
  | [] => some []
  | j :: js => do
    let a ← read j
    let as ← items? read js
    return a :: as

def list? {α : Type} (read : Json → Option α) : Json → Option (List α)
  | .arr items => items? read items
  | _ => none

/-- Where a document stands: its root is a value of its own, all else is inside of one. -/
inductive Place where
  | root
  | inside
deriving Repr, DecidableEq

def tag? (place : Place) (names : List String) : Json → Option String
  | .str s => if names.contains s then some s else none
  | .num (.int i _) => if place = .inside ∧ 0 ≤ i then names[i.toNat]? else none
  | _ => none

def tagged? (place : Place) (names : List String) : Json → Option (String × Json)
  | .obj fields =>
    match fields.filter fun f => f.1 == "type" with
    | [(_, t)] => (tag? place names t).map (·, .obj (fields.filter fun f => f.1 != "type"))
    | _ => none
  | .arr (t :: items) => (tag? place names t).map (·, .arr items)
  | _ => none

/-- A name out of a list: a string, or an object that maps the name to `null` (inside of a
document also to an empty object). -/
def name? (place : Place) (names : List String) : Json → Option String
  | .str s => if names.contains s then some s else none
  | .obj [(s, .null)] => if names.contains s then some s else none
  | .obj [(s, .obj [])] => if place = .inside ∧ names.contains s then some s else none
  | _ => none

end Json

namespace Reader

def tag (names : List String) : Reader String
  | .str l :: ts => do
    let s ← l.value
    if names.contains s then .ok (s, ts) else .error .mismatch
  | ts => .error (wrongKind ts)

def null : Reader Unit
  | .word (.ok .null) :: ts => .ok ((), ts)
  | ts => .error (wrongKind ts)

/-- A name out of a list: a string, or an object that maps the name to `null`. -/
def name (names : List String) : Reader String
  | .openBrace :: .str l :: ts => do
    let (s, ts) ← tag names (.str l :: ts)
    let ((), ts) ← behindColon null ts
    match ts with
    | .closeBrace :: ts => .ok (s, ts)
    | ts => .error (missing ts)
  | .openBrace :: ts => .error (missing ts)
  | .str l :: ts => tag names (.str l :: ts)
  | ts => .error (missing ts)

/-- The tag of a union's variant and the record behind it. The tag is judged where it stands; the
other fields are read whole, with at most `limit` nested arrays and objects in all. -/
def tagged (names : List String) : Nat → Reader (String × Json)
  | limit + 1, .openBrace :: ts => do
    let ((found, fs), ts) ← fields false (fun (found, fs) field =>
      if field = "type" then
        match found with
        | some _ => .error .mismatch
        | none => .ok fun ts => do
          let (t, ts) ← tag names ts
          .ok ((some t, fs), ts)
      else .ok fun ts => do
        let (j, ts) ← value limit ts
        .ok ((found, (field, j) :: fs), ts)) ((none : Option String), ([] : List (String × Json))) ts
    match found with
    | some t => .ok ((t, .obj fs.reverse), ts)
    | none => .error .mismatch
  | limit + 1, .openBracket :: ts => do
    let ((found, js), ts) ← items (fun (found, js) ts =>
      match found with
      | none => do
        let (t, ts) ← tag names ts
        .ok ((some t, js), ts)
      | some t => do
        let (j, ts) ← value limit ts
        .ok ((some t, j :: js), ts)) ((none : Option String), ([] : List Json)) ts
    match found with
    | some t => .ok ((t, .arr js.reverse), ts)
    | none => .error .mismatch
  | 0, .openBrace :: _ => .error .malformed
  | 0, .openBracket :: _ => .error .malformed
  | _, ts => .error (wrongKind ts)

/-- Checks what a reader has read; what does not fit is a mismatch. -/
def check {α β : Type} (r : Reader α) (f : α → Option β) : Reader β := fun ts => do
  let (a, ts) ← r ts
  match f a with
  | some b => .ok (b, ts)
  | none => .error .mismatch

end Reader

end Stencil
