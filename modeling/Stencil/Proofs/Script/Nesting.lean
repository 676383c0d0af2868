import Stencil.Proofs.Json.Reading
import Stencil.Proofs.Script.Decoding
import Stencil.Script.Build

/-!
# How deep the documents of generated scripts are nested
-/

namespace Stencil.Script

set_option autoImplicit false

theorem nesting_node (type : String) (fields : List (String × Json)) :
    (node type fields).nesting = Json.nestingOfFields fields + 1 := by
  simp [node, Json.nesting, Json.nestingOfFields]

theorem Expr.one_le_nesting (e : Expr) : 1 ≤ e.toJson.nesting := by
  obtain ⟨kind, fields, hjson, -⟩ := e.rereads
  rw [hjson, nesting_node]
  omega

@[simp] theorem nesting_nameToJson (name : String) : (nameToJson name).nesting = 1 := by
  simp [nameToJson, nesting_node, Json.nestingOfFields, Json.nesting]

@[simp] theorem Expr.nesting_ident (name : String) : (Expr.ident name).toJson.nesting = 1 := by
  simp [Expr.toJson]

@[simp] theorem Scalar.nesting_toJson (v : Scalar) : v.toJson.nesting = 0 := by
  cases v <;> simp [Scalar.toJson, Json.nesting]

@[simp] theorem Expr.nesting_ofScalar (v : Scalar) : (Expr.ofScalar v).toJson.nesting = 1 := by
  simp [Expr.ofScalar, Literal.of, Expr.toJson, Literal.toJson, nesting_node, Json.nestingOfFields,
    Json.nesting]

@[simp] theorem Expr.nesting_text (s : String) : (Expr.text s).toJson.nesting = 1 :=
  Expr.nesting_ofScalar (.str s)

@[simp] theorem Expr.nesting_plus (l r : Expr) :
    (Expr.plus l r).toJson.nesting = max l.toJson.nesting r.toJson.nesting + 1 := by
  simp [Expr.toJson, nesting_node, Json.nestingOfFields, Json.nesting]

@[simp] theorem Expr.nesting_cond (t a b : Expr) : (Expr.cond t a b).toJson.nesting =
    max t.toJson.nesting (max a.toJson.nesting b.toJson.nesting) + 1 := by
  simp [Expr.toJson, nesting_node, Json.nestingOfFields]

theorem Expr.nesting_get (e : Expr) (name : String) : (e.get name).toJson.nesting = e.toJson.nesting + 1 := by
  have he := e.one_le_nesting
  unfold Expr.get
  split <;> simp [Expr.toJson, nesting_node, Json.nestingOfFields, Json.nesting, he]

theorem Expr.nesting_chain (root : String) (parts : List String) :
    (Expr.chain root parts).toJson.nesting = parts.length + 1 := by
  have hfold : ∀ e : Expr, (parts.foldl Expr.get e).toJson.nesting = e.toJson.nesting + parts.length := by
    induction parts with
    | nil => exact fun _ => rfl
    | cons part parts ih =>
      intro e
      rw [List.foldl_cons, ih, Expr.nesting_get, List.length_cons]
      omega
  rw [Expr.chain, hfold, Expr.nesting_ident]
  omega

theorem Expr.nesting_callNamed (name : String) (es : List Expr) :
    (Expr.callNamed name es).toJson.nesting = Json.nestingOfItems (Expr.listToJson es) + 2 := by
  simp [Expr.callNamed, Expr.toJson, nesting_node, Json.nestingOfFields, Json.nesting]

theorem Expr.nesting_object (ps : List (Property Expr)) :
    (Expr.object ps).toJson.nesting = Json.nestingOfItems (Expr.propertiesToJson ps) + 2 := by
  simp [Expr.toJson, nesting_node, Json.nestingOfFields, Json.nesting]

@[simp] theorem Expr.nestingOfItems_properties_nil :
    Json.nestingOfItems (Expr.propertiesToJson []) = 0 := by
  simp [Expr.propertiesToJson, Json.nestingOfItems]

@[simp] theorem Expr.nestingOfItems_properties_cons (key : String) (e : Expr) (ps : List (Property Expr)) :
    Json.nestingOfItems (Expr.propertiesToJson (.of key e :: ps)) =
      max (e.toJson.nesting + 1) (Json.nestingOfItems (Expr.propertiesToJson ps)) := by
  have he := e.one_le_nesting
  have hkey : (if isIdentifier key then Expr.ident key else .text key).toJson.nesting = 1 := by
    split <;> simp
  simp only [Property.of, Expr.propertiesToJson, Json.nestingOfItems, nesting_node, Json.nestingOfFields,
    Json.nesting, hkey]
  omega

theorem Expr.nestingOfItems_properties_append (ps qs : List (Property Expr)) :
    Json.nestingOfItems (Expr.propertiesToJson (ps ++ qs)) =
      max (Json.nestingOfItems (Expr.propertiesToJson ps)) (Json.nestingOfItems (Expr.propertiesToJson qs)) := by
  induction ps with
  | nil => simp
  | cons p ps ih =>
    obtain ⟨key, value, computed, method, shorthand⟩ := p
    rw [List.cons_append, Expr.propertiesToJson, Expr.propertiesToJson, Json.nestingOfItems,
      Json.nestingOfItems, ih, Nat.max_assoc]

/-- A function with one statement, with or without a name. -/
theorem nestingOfFields_returning (id : Option String) (param : String) (e : Expr) :
    Json.nestingOfFields (functionFields id [param] (Statement.listToJson [.ret (some e)]) false false) =
      e.toJson.nesting + 3 := by
  have he := e.one_le_nesting
  have hid : (id.elim .null nameToJson).nesting ≤ 1 := by
    cases id <;> simp [Json.nesting]
  simp only [functionFields, Statement.listToJson, Statement.toJson, nesting_node, Json.nestingOfFields,
    Json.nesting, Json.nestingOfItems, List.map_cons, List.map_nil, nesting_nameToJson]
  omega

theorem Expr.nesting_func (id : Option String) (param : String) (e : Expr) :
    (Expr.func (.returning id param e)).toJson.nesting = e.toJson.nesting + 4 := by
  simp only [Function.returning, Expr.toJson, nesting_node, nestingOfFields_returning]

theorem Statement.nesting_function (id : Option String) (param : String) (e : Expr) :
    (Statement.function (.returning id param e)).toJson.nesting = e.toJson.nesting + 4 := by
  simp only [Function.returning, Statement.toJson, nesting_node, nestingOfFields_returning]

theorem Statement.nesting_exported (s : Statement) :
    (Statement.exported s).toJson.nesting = max s.toJson.nesting 1 + 1 := by
  simp [Statement.exported, Statement.toJson, nesting_node, Json.nestingOfFields, Json.nestingOfItems,
    Json.nesting]

theorem Statement.nesting_importing (name source : String) :
    (Statement.importing name source).toJson.nesting = 4 := by
  simp [Statement.importing, Statement.toJson, ImportSpecifier.toJson, Literal.of, Literal.toJson,
    Scalar.toJson, nesting_node, Json.nestingOfFields, Json.nestingOfItems, Json.nesting]

end Stencil.Script
