import Stencil.Compile.Pass

/-!
# Statements and the statements in them

What the pass asks of a call: whether its path is nothing but a name, which named arguments it
has, which helper it calls. Only blocks hold statements that the pass looks into, so induction
over statements has one case with hypotheses.
-/

namespace Stencil.Template

set_option autoImplicit false

/-- The name that an expression consists of, if it is nothing but a name. -/
def Expr.plainName? : Expr → Option String
  | .path ⟨false, 0, [name], _, _⟩ => some name
  | _ => none

/-- The named arguments of a call. -/
def Call.named (c : Call) : List (HashPair Expr) := (c.hash.map (·.pairs)).getD []

/-- The helper that a call names, if it is not built in. -/
def Call.helper? (c : Call) : Option String :=
  c.path.plainName?.filter fun name => !Compiling.isConditional name

theorem Call.helper?_of_plainName {c : Call} {name : String} (h : c.path.plainName? = some name)
    (hc : Compiling.isConditional name = false) : c.helper? = some name := by
  simp [Call.helper?, h, hc]

theorem Call.helper?_of_conditional {c : Call} {name : String} (h : c.path.plainName? = some name)
    (hc : Compiling.isConditional name = true) : c.helper? = none := by
  simp [Call.helper?, h, hc]

namespace Node

/-- Whether scripts have no counterpart of this kind of statement. -/
def isForeign : Node → Bool
  | .content .. => false
  | .comment .. => false
  | .mustache _ => false
  | .block _ => false
  | _ => true

mutual
/-- The helpers that a statement calls, in the order in which they are met: that of a block comes
before those of its bodies. -/
def called : Node → List String
  | .mustache m => if m.call.named.isEmpty then [] else m.call.helper?.toList
  | .block ⟨call, main, inverse, _⟩ => call.helper?.toList ++ (calledIn main ++ calledIn inverse)
  | _ => []
/-- The helpers that some statements call. -/
def calledBy : List Node → List String
  | [] => []
  | n :: ns => n.called ++ calledBy ns
/-- The helpers that the statements of a body call. -/
def calledIn : Option (Program Node) → List String
  | none => []
  | some ⟨ns, _, _⟩ => calledBy ns
end

theorem forall_calledIn {P : String → Prop} {call : Call} {main inverse : Option (Program Node)}
    {loc : Option Location} (h : ∀ name ∈ (block ⟨call, main, inverse, loc⟩).called, P name) :
    (∀ name ∈ calledIn main, P name) ∧ ∀ name ∈ calledIn inverse, P name := by
  rw [called] at h
  constructor
  · exact fun name hn => h name (List.mem_append_right _ (List.mem_append_left _ hn))
  · exact fun name hn => h name (List.mem_append_right _ (List.mem_append_right _ hn))

theorem mem_calledBy {ns : List Node} {n : Node} {name : String} (hn : n ∈ ns)
    (h : name ∈ n.called) : name ∈ calledBy ns := by
  induction ns with
  | nil => cases hn
  | cons m ns ih =>
    rcases List.mem_cons.mp hn with rfl | hn
    · exact List.mem_append_left _ h
    · exact List.mem_append_right _ (ih hn)

theorem mem_calledIn {b : Option (Program Node)} {p : Program Node} {n : Node} {name : String}
    (hp : p ∈ b) (hn : n ∈ p.body) (h : name ∈ n.called) : name ∈ calledIn b := by
  obtain rfl := Option.mem_def.mp hp
  exact mem_calledBy hn h

theorem sizeOf_lt_of_mem_body {body : Option (Program Node)} {p : Program Node} {n : Node}
    (hp : p ∈ body) (hn : n ∈ p.body) : sizeOf n < sizeOf body := by
  obtain rfl := Option.mem_def.mp hp
  have hlt := List.sizeOf_lt_of_mem hn
  obtain ⟨ns, names, loc⟩ := p
  simp only [Option.some.sizeOf_spec, Program.mk.sizeOf_spec] at hlt ⊢
  omega

/-- Induction over statements: a block has the hypothesis for the statements of both its bodies. -/
@[elab_as_elim]
theorem bodyInduction {P : Node → Prop}
    (content : ∀ text written loc, P (.content text written loc))
    (comment : ∀ text loc, P (.comment text loc))
    (mustache : ∀ m, P (.mustache m))
    (block : ∀ call main inverse loc, (∀ p ∈ main, ∀ n ∈ p.body, P n) →
      (∀ p ∈ inverse, ∀ n ∈ p.body, P n) → P (.block ⟨call, main, inverse, loc⟩))
    (foreign : ∀ n, n.isForeign = true → P n) (n : Node) : P n := by
  have go : ∀ k, ∀ m : Node, sizeOf m < k → P m := by
    intro k
    induction k with
    | zero => exact fun m hm => absurd hm (Nat.not_lt_zero _)
    | succ k ih =>
      intro m hm
      cases m with
      | content text written loc => exact content text written loc
      | comment text loc => exact comment text loc
      | mustache m => exact mustache m
      | block b =>
        obtain ⟨call, main, inverse, loc⟩ := b
        simp only [Node.block.sizeOf_spec, Block.mk.sizeOf_spec] at hm
        apply block
        · intro p hp n hn
          have hlt := sizeOf_lt_of_mem_body hp hn
          exact ih n (by omega)
        · intro p hp n hn
          have hlt := sizeOf_lt_of_mem_body hp hn
          exact ih n (by omega)
      | program p => exact foreign _ rfl
      | partialCall c l => exact foreign _ rfl
      | partialBlock c p l => exact foreign _ rfl
      | decorator m => exact foreign _ rfl
      | decoratorBlock b => exact foreign _ rfl
  exact go (sizeOf n + 1) n (Nat.lt_succ_self _)

end Node

end Stencil.Template
