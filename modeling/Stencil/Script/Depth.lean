import Stencil.Script.Basic

/-!
# How deep functions are nested
-/

namespace Stencil.Script

set_option autoImplicit false

mutual
def Statement.functionDepth : Statement → Nat
  | .function ⟨_, _, body, _, _⟩ => Statement.functionDepths body + 1
  | .ret none => 0
  | .ret (some e) => e.functionDepth
  | .importNamed .. => 0
  | .exportNamed declaration _ _ => declaration.functionDepth
def Statement.functionDepths : List Statement → Nat
  | [] => 0
  | s :: ss => max s.functionDepth (Statement.functionDepths ss)
def Expr.functionDepth : Expr → Nat
  | .ident _ => 0
  | .lit _ => 0
  | .plus left right => max left.functionDepth right.functionDepth
  | .call callee arguments => max callee.functionDepth (Expr.functionDepths arguments)
  | .member target property _ => max target.functionDepth property.functionDepth
  | .cond test consequent alternate =>
    max test.functionDepth (max consequent.functionDepth alternate.functionDepth)
  | .object properties => Expr.propertiesDepth properties
  | .func ⟨_, _, body, _, _⟩ => Statement.functionDepths body + 1
def Expr.functionDepths : List Expr → Nat
  | [] => 0
  | e :: es => max e.functionDepth (Expr.functionDepths es)
def Expr.propertiesDepth : List (Property Expr) → Nat
  | [] => 0
  | ⟨key, value, _, _, _⟩ :: ps =>
    max (max key.functionDepth value.functionDepth) (Expr.propertiesDepth ps)
end

def Program.functionDepth (p : Program) : Nat := Statement.functionDepths p.body

end Stencil.Script
