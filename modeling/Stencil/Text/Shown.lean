import Stencil.Text.Hidden

/-!
# Names in messages

A file name in a message stands between double quotes, with double quotes and backslashes escaped
and characters without a shape of their own given by number.
-/

namespace Stencil.Text

set_option autoImplicit false

def shownChar (c : Char) : List Char :=
  match c with
  | '\x00' => ['\\', '0']
  | '\t' => ['\\', 't']
  | '\r' => ['\\', 'r']
  | '\n' => ['\\', 'n']
  | '"' => ['\\', '"']
  | '\\' => ['\\', '\\']
  | c => if isHidden c then ['\\', 'u', '{'] ++ Nat.toDigits 16 c.toNat ++ ['}'] else [c]

def shown (name : String) : String :=
  String.ofList ('"' :: (name.toList.flatMap shownChar ++ ['"']))

end Stencil.Text
