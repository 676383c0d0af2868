import Stencil.Json.Fault

/-!
# Quoted strings

Writing escapes the quote, the backslash and the control characters and leaves every other
character as it is. Reading first splits the text into pieces, characters and 16-bit units given by
`\u` escapes, up to the closing quote; the pieces then join to a string if every surrogate unit is
one of a pair. A text that is only skipped need not join.
-/

namespace Stencil

set_option autoImplicit false

namespace Quoted

def hexDigit (n : Nat) : Char :=
  if n < 10 then Char.ofNat (48 + n) else Char.ofNat (87 + n)

def escape (c : Char) : List Char :=
  if c = '"' then ['\\', '"']
  else if c = '\\' then ['\\', '\\']
  else if c = '\x08' then ['\\', 'b']
  else if c = '\t' then ['\\', 't']
  else if c = '\n' then ['\\', 'n']
  else if c = '\x0c' then ['\\', 'f']
  else if c = '\r' then ['\\', 'r']
  else if c.toNat < 32 then ['\\', 'u', '0', '0', hexDigit (c.toNat / 16), hexDigit (c.toNat % 16)]
  else [c]

def quote (cs : List Char) : List Char :=
  '"' :: (cs.flatMap escape ++ ['"'])

/-- What an escape without `u` stands for. -/
def shortEscape? : Char → Option Char
  | '"' => some '"'
  | '\\' => some '\\'
  | '/' => some '/'
  | 'b' => some '\x08'
  | 'f' => some '\x0c'
  | 'n' => some '\n'
  | 'r' => some '\r'
  | 't' => some '\t'
  | _ => none

def hexValue? (c : Char) : Option Nat :=
  if '0' ≤ c ∧ c ≤ '9' then some (c.toNat - 48)
  else if 'a' ≤ c ∧ c ≤ 'f' then some (c.toNat - 87)
  else if 'A' ≤ c ∧ c ≤ 'F' then some (c.toNat - 55)
  else none

def unit? (a b c d : Char) : Option Nat := do
  let a ← hexValue? a
  let b ← hexValue? b
  let c ← hexValue? c
  let d ← hexValue? d
  return ((a * 16 + b) * 16 + c) * 16 + d

/-- A piece of a quoted string: a character, or the unit of a `\u` escape. -/
inductive Piece where
  | char (c : Char)
  | unit (n : Nat)

/-- The pieces up to the closing quote, why there is none, and the rest of the text. -/
structure Scan where
  pieces : List Piece
  broken : Option Fault
  rest : List Char

def Scan.cons (p : Piece) (s : Scan) : Scan :=
  { s with pieces := p :: s.pieces }

def Scan.stop (f : Fault) : Scan := ⟨[], some f, []⟩

/-- The number of bytes that some characters take. -/
def byteSize : List Char → Nat
  | [] => 0
  | c :: cs => c.utf8Size + byteSize cs

/-- Why the text after `\u` is no unit: it has fewer than four bytes, or other characters. -/
def badUnit (cs : List Char) : Fault :=
  if byteSize cs < 4 then .ended else .malformed

/-- Splits the text after an opening quote. -/
def scan : List Char → Scan
  | [] => .stop .ended
  | '"' :: cs => ⟨[], none, cs⟩
  | ['\\'] => .stop .ended
  | '\\' :: 'u' :: a :: b :: c :: d :: cs =>
    match unit? a b c d with
    | some n => (scan cs).cons (.unit n)
    | none => .stop .malformed
  | '\\' :: 'u' :: cs => .stop (badUnit cs)
  | '\\' :: e :: cs =>
    match shortEscape? e with
    | some c => (scan cs).cons (.char c)
    | none => .stop .malformed
  | c :: cs => if c.toNat < 32 then .stop .malformed else (scan cs).cons (.char c)

/-- A unit that opens a surrogate pair. -/
def isLead (n : Nat) : Bool := 0xD800 ≤ n && n < 0xDC00

/-- A unit that closes a surrogate pair. -/
def isTrail (n : Nat) : Bool := 0xDC00 ≤ n && n < 0xE000

def pairChar (lead trail : Nat) : Char :=
  Char.ofNat ((lead - 0xD800) * 1024 + (trail - 0xDC00) + 0x10000)

/-- Joins the pieces before `broken`; a surrogate that is not one of a pair is malformed. -/
def join (broken : Option Fault) : List Piece → Except Fault (List Char)
  | [] => match broken with
    | none => .ok []
    | some f => .error f
  | .char c :: ps => (join broken ps).map (c :: ·)
  | .unit n :: ps =>
    if isTrail n then .error .malformed
    else if isLead n then
      match ps with
      | .unit m :: qs =>
        if isTrail m then (join broken qs).map (pairChar n m :: ·) else .error .malformed
      | .char _ :: _ => .error .malformed
      | [] => .error (broken.getD .malformed)
    else (join broken ps).map (Char.ofNat n :: ·)

end Quoted

end Stencil
