import Stencil.Decimal.Layout
import Stencil.Json.Basic
import Stencil.Json.Quoted

/-!
# Writing documents

Compact text has no blanks; indented text puts every item and field on a line of its own, two
spaces deeper than its container, and leaves empty containers on one line.
-/

namespace Stencil

set_option autoImplicit false

/-- Floats of a document are positional from `1e-5` up to below `1e16`, always with a fraction, and
scientific with a signed exponent elsewhere. -/
def Number.layout : Decimal.Layout where
  plain e := decide (-5 ≤ e ∧ e < 16)
  pointZero := true
  signedZero := true
  tie := .toEven
  nan := "null"
  infinity := "null"

def Number.text : Number → String
  | .int i _ => String.ofList ((if i < 0 then ['-'] else []) ++ Decimal.digitsOf i.natAbs)
  | .float x _ => Number.layout.text x

namespace Json

def quoted (s : String) : List Char := Quoted.quote s.toList

mutual
def compactChars : Json → List Char
  | .null => ['n', 'u', 'l', 'l']
  | .bool true => ['t', 'r', 'u', 'e']
  | .bool false => ['f', 'a', 'l', 's', 'e']
  | .num n => n.text.toList
  | .str s => quoted s
  | .arr items => '[' :: (compactItems items ++ [']'])
  | .obj fields => '{' :: (compactFields fields ++ ['}'])
def compactItems : List Json → List Char
  | [] => []
  | [j] => j.compactChars
  | j :: js => j.compactChars ++ ',' :: compactItems js
def compactFields : List (String × Json) → List Char
  | [] => []
  | [(k, j)] => quoted k ++ ':' :: j.compactChars
  | (k, j) :: fs => quoted k ++ ':' :: (j.compactChars ++ ',' :: compactFields fs)
end

/-- The text of a document without blanks. -/
def compact (j : Json) : String := String.ofList j.compactChars

/-- A line break and the indentation of a level. -/
def newline (level : Nat) : List Char := '\n' :: List.replicate (2 * level) ' '

mutual
def indentedChars (level : Nat) : Json → List Char
  | .arr [] => ['[', ']']
  | .obj [] => ['{', '}']
  | .arr items => '[' :: (indentedItems (level + 1) items ++ newline level ++ [']'])
  | .obj fields => '{' :: (indentedFields (level + 1) fields ++ newline level ++ ['}'])
  | j => j.compactChars
def indentedItems (level : Nat) : List Json → List Char
  | [] => []
  | [j] => newline level ++ j.indentedChars level
  | j :: js => newline level ++ j.indentedChars level ++ ',' :: indentedItems level js
def indentedFields (level : Nat) : List (String × Json) → List Char
  | [] => []
  | [(k, j)] => newline level ++ quoted k ++ ':' :: ' ' :: j.indentedChars level
  | (k, j) :: fs =>
    newline level ++ quoted k ++ ':' :: ' ' :: (j.indentedChars level ++ ',' :: indentedFields level fs)
end

def pretty (j : Json) : String := String.ofList (j.indentedChars 0)

end Json

end Stencil
