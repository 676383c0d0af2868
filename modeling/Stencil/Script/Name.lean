import Stencil.Text.Alphabetic
import Stencil.Text.Numeric

/-!
# Names in scripts
-/

namespace Stencil.Script

set_option autoImplicit false

def isNameStart (c : Char) : Bool :=
  c == '_' || c == '$' || Text.isAlphabetic c

def isNamePart (c : Char) : Bool :=
  isNameStart c || Text.isNumeric c

/-- Whether a name can be written without quotes behind a dot or as an object key. Reserved words
can. -/
def isIdentifier (name : String) : Bool :=
  match name.toList with
  | [] => false
  | c :: cs => isNameStart c && cs.all isNamePart

/-- Words that no variable can be called. -/
def reservedWords : List String :=
  ["break", "case", "catch", "class", "const", "continue", "debugger", "default", "delete",
    "do", "else", "enum", "export", "extends", "false", "finally", "for", "function", "if",
    "import", "in", "instanceof", "new", "null", "return", "super", "switch", "this", "throw",
    "true", "try", "typeof", "var", "void", "while", "with", "yield", "let", "static",
    "implements", "interface", "package", "private", "protected", "public", "await"]

def isReserved (name : String) : Bool := reservedWords.contains name

end Stencil.Script
