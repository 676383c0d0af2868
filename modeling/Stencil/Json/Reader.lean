import Stencil.Json.Basic
import Stencil.Json.Token

/-!
# Reading documents from tokens

A `Reader` takes what it needs from the front of the tokens. `value` reads a whole document and
counts its nesting against a limit; `skip` passes over one without looking at values or nesting;
`record` reads the fields of an object, or of an array in declaration order, with a reader that the
field's name selects, so that the first fault in the text is the one reported. A name that does not
fit is a fault where it stands, in front of its colon.
-/

namespace Stencil

set_option autoImplicit false

/-- Reads from the front of the tokens. -/
abbrev Reader (α : Type) := List Token → Except Fault (α × List Token)

namespace Reader

/-- How many arrays and objects may be nested in a text. -/
def nestingLimit : Nat := 127

/-- The fault of meeting a token of another kind where a value of some type has to stand: a token
that is no value is malformed, a broken one has its own fault. -/
def wrongKind : List Token → Fault
  | [] => .ended
  | .str l :: _ => match l.value with
    | .ok _ => .mismatch
    | .error f => f
  | .num l :: _ => match l.value with
    | .ok _ => .mismatch
    | .error f => f
  | .word w :: _ => match w with
    | .ok _ => .mismatch
    | .error f => f
  | .openBracket :: _ | .openBrace :: _ => .mismatch
  | _ => .malformed

def missing : List Token → Fault
  | [] => .ended
  | _ => .malformed

def string : Reader String
  | .str l :: ts => l.value.map (·, ts)
  | ts => .error (wrongKind ts)

def bool : Reader Bool
  | .word (.ok .true) :: ts => .ok (true, ts)
  | .word (.ok .false) :: ts => .ok (false, ts)
  | ts => .error (wrongKind ts)

/-- The name of a field; a lax reader passes over it. -/
def key (lax : Bool) : Reader String
  | .str l :: ts =>
    if lax then
      match l.skipped with
      | none => .ok ("", ts)
      | some f => .error f
    else l.value.map (·, ts)
  | ts => .error (missing ts)

def behindColon {α : Type} (r : Reader α) : Reader α
  | .colon :: ts => r ts
  | ts => .error (missing ts)

/-- A field of an object. Its name selects the reader of its value; a name that does not fit is
reported before the text behind it is looked at. -/
def member {σ : Type} (lax : Bool) (field : σ → String → Except Fault (Reader σ)) (s : σ) : Reader σ :=
  fun ts => do
    let (name, ts) ← key lax ts
    let r ← field s name
    behindColon r ts

/-- The items of an array after the first, each behind a comma, up to the bracket. -/
def moreItems {σ : Type} (item : σ → Reader σ) : Nat → σ → Reader σ
  | 0, _, _ => .error .ended
  | fuel + 1, s, ts =>
    match ts with
    | .closeBracket :: ts => .ok (s, ts)
    | .comma :: .closeBracket :: _ => .error .malformed
    | .comma :: ts => do
      let (s, ts) ← item s ts
      moreItems item fuel s ts
    | ts => .error (missing ts)

/-- The items of an array behind its bracket, folded with `item`. -/
def items {σ : Type} (item : σ → Reader σ) (s : σ) : Reader σ
  | .closeBracket :: ts => .ok (s, ts)
  | [] => .error .ended
  | ts => do
    let (s, rest) ← item s ts
    moreItems item ts.length s rest

def moreFields {σ : Type} (lax : Bool) (field : σ → String → Except Fault (Reader σ)) :
    Nat → σ → Reader σ
  | 0, _, _ => .error .ended
  | fuel + 1, s, ts =>
    match ts with
    | .closeBrace :: ts => .ok (s, ts)
    | .comma :: ts => do
      let (s, ts) ← member lax field s ts
      moreFields lax field fuel s ts
    | ts => .error (missing ts)

def fields {σ : Type} (lax : Bool) (field : σ → String → Except Fault (Reader σ)) (s : σ) : Reader σ
  | .closeBrace :: ts => .ok (s, ts)
  | ts => do
    let (s, rest) ← member lax field s ts
    moreFields lax field ts.length s rest

/-- A document with at most `limit` nested arrays and objects. -/
def value : Nat → Reader Json
  | _, .str l :: ts => l.value.map (.str ·, ts)
  | _, .num l :: ts => l.value.map (.num ·, ts)
  | _, .word w :: ts => w.map fun
    | .null => (.null, ts)
    | .true => (.bool true, ts)
    | .false => (.bool false, ts)
  | limit + 1, .openBracket :: ts => do
    let (js, ts) ← items (fun js ts => do
      let (j, ts) ← value limit ts
      .ok (j :: js, ts)) [] ts
    .ok (.arr js.reverse, ts)
  | limit + 1, .openBrace :: ts => do
    let (fs, ts) ← fields false (fun fs name => .ok fun ts => do
      let (j, ts) ← value limit ts
      .ok ((name, j) :: fs, ts)) [] ts
    .ok (.obj fs.reverse, ts)
  | _, ts => .error (missing ts)

/-- Passes over a document with at most `limit` levels; only its form matters. -/
def skipWithin : Nat → Reader Unit
  | _, .str l :: ts => match l.skipped with
    | none => .ok ((), ts)
    | some f => .error f
  | _, .num l :: ts => match l.skipped with
    | none => .ok ((), ts)
    | some f => .error f
  | _, .word w :: ts => w.map fun _ => ((), ts)
  | limit + 1, .openBracket :: ts => items (fun _ => skipWithin limit) () ts
  | limit + 1, .openBrace :: ts => fields true (fun _ _ => .ok (skipWithin limit)) () ts
  | _, ts => .error (missing ts)

/-- Passes over a document. No text nests deeper than it has tokens. -/
def skip : Reader Unit := fun ts => skipWithin ts.length ts

/-- The positions of a record given as an array, behind its bracket. It may stop early; behind the
last position only the bracket may stand. -/
def positions {σ : Type} (field : σ → String → Reader σ) : Bool → List String → σ → Reader σ
  | _, _, s, .closeBracket :: ts => .ok (s, ts)
  | true, name :: names, s, ts => do
    let (s, ts) ← match ts with
      | [] => .error .ended
      | ts => field s name ts
    positions field false names s ts
  | false, name :: names, s, .comma :: ts => do
    let (s, ts) ← match ts with
      | [] => .error .ended
      | .closeBracket :: _ => .error .malformed
      | ts => field s name ts
    positions field false names s ts
  | _, _, _, ts => .error (missing ts)

/-- A record with the given fields: an object, in which a field of another name is skipped and a
repeated one does not fit, or an array of the fields in order. -/
def record {σ : Type} (names : List String) (field : σ → String → Reader σ) (s : σ) : Reader σ
  | .openBrace :: ts => do
    let ((_, s), ts) ← fields false (fun (seen, s) name =>
      if names.contains name then
        if seen.contains name then .error .mismatch
        else .ok fun ts => do
          let (s, ts) ← field s name ts
          .ok ((name :: seen, s), ts)
      else .ok fun ts => do
        let ((), ts) ← skip ts
        .ok ((seen, s), ts)) (([] : List String), s) ts
    .ok (s, ts)
  | .openBracket :: ts => positions field true names s ts
  | ts => .error (wrongKind ts)

def list {α : Type} (item : Reader α) : Reader (List α)
  | .openBracket :: ts => do
    let (xs, ts) ← items (fun xs ts => do
      let (x, ts) ← item ts
      .ok (x :: xs, ts)) [] ts
    .ok (xs.reverse, ts)
  | ts => .error (wrongKind ts)

/-- Reads a whole text: nothing may follow. -/
def run {α : Type} (r : Reader α) (text : String) : Except Fault α := do
  let (a, ts) ← r (Token.scan text)
  if ts.isEmpty then .ok a else .error .malformed

end Reader

/-- The document of a text, with at most `limit` nested arrays and objects. -/
def Json.ofText (limit : Nat) (text : String) : Except Fault Json :=
  Reader.run (Reader.value limit) text

end Stencil
