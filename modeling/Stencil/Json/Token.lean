import Stencil.Json.Quoted
import Stencil.Json.Numeral

/-!
# Tokens of a JSON text

A text is split into tokens once; the grammar of documents works on tokens only. A token that is
broken keeps its kind, so that a reader which wanted another kind reports that instead, and ends
the list, since nothing can follow it. Strings and numbers carry two verdicts: a strict one for a
reader that needs their value, and a lax one for a reader that skips them.
-/

namespace Stencil

set_option autoImplicit false

/-- A string or number token: its value, or why it has none, and why it cannot even be skipped. -/
structure Lexeme (α : Type) where
  value : Except Fault α
  skipped : Option Fault

inductive Constant where
  | null
  | true
  | false
deriving Repr, DecidableEq

inductive Token where
  | openBracket
  | closeBracket
  | openBrace
  | closeBrace
  | comma
  | colon
  | str (text : Lexeme String)
  | num (value : Lexeme Number)
  | word (value : Except Fault Constant)
  /-- A character that starts no token. -/
  | stray

namespace Token

def isBlank (c : Char) : Bool :=
  c == ' ' || c == '\n' || c == '\t' || c == '\r'

/-- Whether nothing can follow a token, since its text is broken. -/
def isLast : Token → Bool
  | .str l => l.skipped.isSome
  | .num l => l.skipped.isSome
  | .word (.error _) => true
  | .stray => true
  | _ => false

def ofQuoted (cs : List Char) : Token × List Char :=
  let s := Quoted.scan cs
  (.str ⟨(Quoted.join s.broken s.pieces).map String.ofList, s.broken⟩, s.rest)

def ofNumeral (cs : List Char) : Token × List Char :=
  match Numeral.scan cs with
  | .error b => (.num ⟨.error b.fault, some .malformed⟩, [])
  | .ok (x, rest) =>
    match x.value? with
    | some n => (.num ⟨.ok n, none⟩, rest)
    | none => (.num ⟨.error .malformed, none⟩, rest)

def afterLetters : List Char → List Char → Except Fault (List Char)
  | [], cs => .ok cs
  | _ :: _, [] => .error .ended
  | l :: ls, c :: cs => if l = c then afterLetters ls cs else .error .malformed

/-- A constant whose first letter has been seen. -/
def ofWord (value : Constant) (letters : List Char) (cs : List Char) : Token × List Char :=
  match afterLetters letters cs with
  | .ok rest => (.word (.ok value), rest)
  | .error f => (.word (.error f), [])

def next (c : Char) (cs : List Char) : Token × List Char :=
  match c with
  | '[' => (.openBracket, cs)
  | ']' => (.closeBracket, cs)
  | '{' => (.openBrace, cs)
  | '}' => (.closeBrace, cs)
  | ',' => (.comma, cs)
  | ':' => (.colon, cs)
  | '"' => ofQuoted cs
  | 'n' => ofWord .null ['u', 'l', 'l'] cs
  | 't' => ofWord .true ['r', 'u', 'e'] cs
  | 'f' => ofWord .false ['a', 'l', 's', 'e'] cs
  | _ => if c = '-' ∨ c.isDigit then ofNumeral (c :: cs) else (.stray, [])

/-- The tokens of a text, at most `fuel` of them. -/
def scanFor : Nat → List Char → List Token
  | 0, _ => []
  | fuel + 1, cs =>
    match cs.dropWhile isBlank with
    | [] => []
    | c :: cs =>
      let (t, rest) := next c cs
      t :: if t.isLast then [] else scanFor fuel rest

/-- The tokens of a text. Every token takes a character, so the length of the text bounds them. -/
def scan (text : String) : List Token :=
  scanFor text.toList.length text.toList

end Token

end Stencil
