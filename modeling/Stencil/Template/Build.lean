import Stencil.Template.Basic

/-!
# Building template trees

Nodes without locations, as a program would write them down.
-/

namespace Stencil.Template

set_option autoImplicit false

/-- The path `depth` steps up with the given parts, written with `../` and dots. -/
def Path.new (depth : UInt64) (parts : List String) : Path where
  data := false
  depth := depth
  parts := parts
  written := String.join (List.replicate depth.toNat "../") ++ ".".intercalate parts
  loc := none

def Call.new (path : Path) : Call := ⟨.path path, [], none⟩

def Hash.new (pairs : List (String × Expr)) : Hash Expr :=
  ⟨pairs.map fun (k, e) => ⟨k, e, none⟩, none⟩

def Program.new {ν : Type} (body : List ν) : Program ν := ⟨body, [], none⟩

namespace Node

def text (s : String) : Node := .content s s none

def remark (s : String) : Node := .comment s none

def root (body : List Node) : Node := .program (Program.new body)

end Node

end Stencil.Template
