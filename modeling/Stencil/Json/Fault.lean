/-!
# Why a document is refused
-/

namespace Stencil

set_option autoImplicit false

inductive Fault where
  /-- The text ends too early. -/
  | ended
  /-- The text is not JSON, or exceeds a limit of the reader. -/
  | malformed
  /-- The document is JSON of another shape. -/
  | mismatch
deriving Repr, DecidableEq

end Stencil
