import Stencil.Value.Text

/-!
# Escaping for HTML

Seven characters are written as entities, so that the text of a value cannot open a tag, close an
attribute or start an entity of its own.
-/

namespace Stencil

set_option autoImplicit false

def Html.escapeChar (c : Char) : List Char :=
  match c with
  | '&' => ['&', 'a', 'm', 'p', ';']
  | '<' => ['&', 'l', 't', ';']
  | '>' => ['&', 'g', 't', ';']
  | '"' => ['&', 'q', 'u', 'o', 't', ';']
  | '\'' => ['&', '#', 'x', '2', '7', ';']
  | '\x60' => ['&', '#', 'x', '6', '0', ';']
  | '=' => ['&', '#', 'x', '3', 'D', ';']
  | c => [c]

def Html.escape (s : String) : String :=
  String.ofList (s.toList.flatMap escapeChar)

@[simp] theorem Html.escape_append (s t : String) :
    Html.escape (s ++ t) = Html.escape s ++ Html.escape t := by
  simp [Html.escape]

namespace Value

variable {η : Type}

/-- The escaped text of a value; that of `undefined` and `null` is empty. -/
def escaped (v : Value η) : String :=
  if v.isNullish then "" else Html.escape v.text

end Value

end Stencil
