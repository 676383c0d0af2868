import Stencil.Proofs.Json.Relaxed
import Stencil.Script.Decode
import Stencil.Script.Encode

/-!
# Scripts from their documents

Every program is read back from its document, whatever its statements and expressions are, so that
different programs have different documents (`decode_encode`).

What is behind the tag of a node is read with a budget of levels; `Rereads` says that any budget that
is not less than the depth of the node's fields is enough.
-/

namespace Stencil.Script

set_option autoImplicit false

/-- A document is a tagged node, and what is behind its tag is read as `a`. -/
def Rereads {α : Type} (kinds : List String) (ofTagged : Nat → String → Json → Option α) (j : Json)
    (a : α) : Prop :=
  ∃ kind fields, j = node kind fields ∧ kind ∈ kinds ∧ (∀ f ∈ fields, f.1 ≠ "type") ∧
    ∀ budget, Json.depthFields fields ≤ budget → ofTagged budget kind (.obj fields) = some a

theorem tagged?_node {kind : String} {fields : List (String × Json)} {kinds : List String}
    (place : Json.Place) (hk : kind ∈ kinds) (hf : ∀ f ∈ fields, f.1 ≠ "type") :
    (node kind fields).tagged? place kinds = some (kind, .obj fields) := by
  have htag : fields.filter (fun f => f.1 == "type") = [] := by
    rw [List.filter_eq_nil_iff]
    intro f hm
    simpa using hf f hm
  have hrest : fields.filter (fun f => f.1 != "type") = fields := by
    rw [List.filter_eq_self]
    intro f hm
    simpa using hf f hm
  simp [node, Json.tagged?, htag, hrest, Json.tag?, hk]

theorem depthFields_lt_depth_node (kind : String) (fields : List (String × Json)) :
    Json.depthFields fields < (node kind fields).depth := by
  rw [node, Json.depth, Json.depthFields]
  have hle := Nat.le_max_right (Json.str kind).depth (Json.depthFields fields)
  omega

theorem Rereads.ne_null {α : Type} {kinds : List String} {ofTagged : Nat → String → Json → Option α}
    {j : Json} {a : α} (h : Rereads kinds ofTagged j a) : j ≠ .null := by
  obtain ⟨kind, fields, rfl, -⟩ := h
  intro heq
  cases heq

/-- What the readers inside of a document read. -/
abbrev Statement.behindTag (budget : Nat) : String → Json → Option Statement :=
  Statement.ofTagged? (Statement.within budget) (Expr.within budget)

/-- What the readers inside of a document read. -/
abbrev Expr.behindTag (budget : Nat) : String → Json → Option Expr :=
  Expr.ofTagged? (Statement.within budget) (Expr.within budget)

theorem Rereads.statement {j : Json} {s : Statement} {budget : Nat}
    (h : Rereads Statement.kinds Statement.behindTag j s) (hd : j.depth ≤ budget) :
    Statement.within budget j = some s := by
  obtain ⟨kind, fields, rfl, hk, hf, hread⟩ := h
  have hlt := depthFields_lt_depth_node kind fields
  cases budget with
  | zero => omega
  | succ budget => simp [Statement.within, tagged?_node .inside hk hf, hread budget (by omega)]

theorem Rereads.expr {j : Json} {e : Expr} {budget : Nat}
    (h : Rereads Expr.kinds Expr.behindTag j e) (hd : j.depth ≤ budget) :
    Expr.within budget j = some e := by
  obtain ⟨kind, fields, rfl, hk, hf, hread⟩ := h
  have hlt := depthFields_lt_depth_node kind fields
  cases budget with
  | zero => omega
  | succ budget => simp [Expr.within, tagged?_node .inside hk hf, hread budget (by omega)]

@[simp] theorem nameOfJson?_nameToJson (name : String) : nameOfJson? (nameToJson name) = some name := by
  simp [nameOfJson?, nameToJson, node, Json.row?, Json.occurrences, Json.Row.need, Json.find?, Json.str?]

@[simp] theorem Scalar.ofJson?_toJson (v : Scalar) : Scalar.ofJson? v.toJson = some v := by
  cases v <;> rfl

/-- The fields of a literal. One without a written form has no `raw`. -/
def Literal.fields (l : Literal) : List (String × Json) :=
  ("value", l.value.toJson) :: l.raw.toList.map fun r => ("raw", .str r)

@[simp] theorem Literal.ofJson?_fields (l : Literal) : Literal.ofJson? (.obj l.fields) = some l := by
  obtain ⟨value, raw⟩ := l
  cases raw <;> simp [Literal.ofJson?, Literal.fields, Json.row?, Json.occurrences, Json.Row.need,
    Json.Row.maybe, Json.Row.orDefault, Json.nullable, Json.find?, Json.str?]

@[simp] theorem Literal.ofJson?_toJson (l : Literal) : Literal.ofJson? l.toJson = some l := by
  obtain ⟨value, raw⟩ := l
  cases raw <;> simp [Literal.ofJson?, Literal.toJson, node, Json.row?, Json.occurrences, Json.Row.need,
    Json.Row.maybe, Json.Row.orDefault, Json.nullable, Json.find?, Json.str?]

@[simp] theorem only?_str (name : String) : only? name (.str name) = some () := by
  simp [only?, Json.name?]

@[simp] theorem ImportSpecifier.ofJson?_toJson (s : ImportSpecifier) :
    ImportSpecifier.ofJson? s.toJson = some s := by
  simp [ImportSpecifier.ofJson?, ImportSpecifier.toJson, node, Json.row?, Json.occurrences, Json.Row.need,
    Json.find?]

@[simp] theorem ExportSpecifier.ofJson?_toJson (s : ExportSpecifier) :
    ExportSpecifier.ofJson? s.toJson = some s := by
  simp [ExportSpecifier.ofJson?, ExportSpecifier.toJson, node, Json.row?, Json.occurrences, Json.Row.need,
    Json.find?]

theorem nullable_elim {α : Type} {read : Json → Option α} {write : α → Json} (a : Option α)
    (hread : ∀ a, read (write a) = some a) (hnull : ∀ a, write a ≠ .null) :
    Json.nullable read (a.elim .null write) = some a := by
  cases a with
  | none => rfl
  | some a => rw [Option.elim_some, Json.nullable_of_ne_null (hnull a), hread a, Option.map_some]

/-- A function is read if its statements are. -/
theorem Function.ofJson?_functionFields (f : Function Statement) {statement : Json → Option Statement}
    {body : List Json} (hbody : Json.items? statement body = some f.body) :
    Function.ofJson? statement (.obj (functionFields f.id f.params body f.generator f.isAsync)) = some f := by
  have hid : Json.nullable nameOfJson? (f.id.elim .null nameToJson) = some f.id :=
    nullable_elim f.id nameOfJson?_nameToJson (by simp [nameToJson, node])
  have hparams : Json.items? nameOfJson? (f.params.map nameToJson) = some f.params := by
    have h := Json.items?_map (fun name (_ : name ∈ f.params) => nameOfJson?_nameToJson name)
    rwa [List.map_id'] at h
  simp [Function.ofJson?, functionFields, blockOfJson?, node, Json.row?, Json.occurrences, Json.Row.need,
    Json.Row.mayBeNull, Json.Row.maybe, Json.Row.orDefault, Json.find?, Json.list?, Json.bool?, hid, hparams,
    hbody]

theorem depth_le_of_function {id : Option String} {params : List String} {body : List Json}
    {generator isAsync : Bool} {budget : Nat}
    (h : Json.depthFields (functionFields id params body generator isAsync) ≤ budget) :
    Json.depthItems body ≤ budget := by
  simp only [functionFields, node, Json.depthFields, Json.depth, Nat.max_le] at h
  omega

mutual
theorem Statement.rereads : (s : Statement) → Rereads Statement.kinds Statement.behindTag s.toJson s
  | .function ⟨id, params, body, generator, isAsync⟩ => by
    refine ⟨"FunctionDeclaration", functionFields id params (Statement.listToJson body) generator isAsync,
      by rw [Statement.toJson], by decide, by simp [functionFields], ?_⟩
    intro budget hd
    have hbody := Statement.items?_within body (depth_le_of_function hd)
    have hf := Function.ofJson?_functionFields ⟨id, params, body, generator, isAsync⟩ hbody
    simp [Statement.ofTagged?.eq_def, hf]
  | .ret none => by
    refine ⟨"ReturnStatement", [("argument", .null)], by rw [Statement.toJson], by decide, by simp, ?_⟩
    intro budget _
    simp [Statement.ofTagged?.eq_def, Json.row?, Json.occurrences, Json.Row.mayBeNull, Json.Row.maybe,
      Json.Row.orDefault, Json.find?, Json.nullable]
  | .ret (some e) => by
    refine ⟨"ReturnStatement", [("argument", e.toJson)], by rw [Statement.toJson], by decide, by simp, ?_⟩
    intro budget hd
    simp only [Json.depthFields, Nat.max_le] at hd
    have he := (Expr.rereads e).expr hd.1
    have hnull : Json.nullable (Expr.within budget) e.toJson = some (some e) := by
      rw [Json.nullable_of_ne_null (Expr.rereads e).ne_null, he, Option.map_some]
    simp [Statement.ofTagged?.eq_def, Json.row?, Json.occurrences, Json.Row.mayBeNull, Json.Row.maybe,
      Json.Row.orDefault, Json.find?, hnull]
  | .importNamed specifiers source => by
    refine ⟨"ImportDeclaration", [("specifiers", .arr (specifiers.map ImportSpecifier.toJson)),
      ("source", source.toJson)], by rw [Statement.toJson], by decide, by simp, ?_⟩
    intro budget _
    have hs : Json.items? ImportSpecifier.ofJson? (specifiers.map ImportSpecifier.toJson) =
        some specifiers := by
      have h := Json.items?_map (fun s (_ : s ∈ specifiers) => ImportSpecifier.ofJson?_toJson s)
      rwa [List.map_id'] at h
    simp [Statement.ofTagged?.eq_def, Json.row?, Json.occurrences, Json.Row.need, Json.find?, Json.list?, hs]
  | .exportNamed declaration specifiers source => by
    refine ⟨"ExportNamedDeclaration", [("declaration", declaration.toJson),
      ("specifiers", .arr (specifiers.map ExportSpecifier.toJson)), ("source", source.elim .null Literal.toJson)],
      by rw [Statement.toJson], by decide, by simp, ?_⟩
    intro budget hd
    simp only [Json.depthFields, Nat.max_le] at hd
    have hdecl := (Statement.rereads declaration).statement hd.1
    have hs : Json.items? ExportSpecifier.ofJson? (specifiers.map ExportSpecifier.toJson) =
        some specifiers := by
      have h := Json.items?_map (fun s (_ : s ∈ specifiers) => ExportSpecifier.ofJson?_toJson s)
      rwa [List.map_id'] at h
    have hsource : Json.nullable Literal.ofJson? (source.elim .null Literal.toJson) = some source :=
      nullable_elim source Literal.ofJson?_toJson (by simp [Literal.toJson, node])
    simp [Statement.ofTagged?.eq_def, Json.row?, Json.occurrences, Json.Row.need, Json.Row.mayBeNull,
      Json.Row.maybe, Json.Row.orDefault, Json.find?, Json.list?, hdecl, hs, hsource]
theorem Statement.items?_within : (ss : List Statement) → {budget : Nat} →
    Json.depthItems (Statement.listToJson ss) ≤ budget →
    Json.items? (Statement.within budget) (Statement.listToJson ss) = some ss
  | [], _, _ => rfl
  | s :: ss, budget, hd => by
    rw [Statement.listToJson, Json.depthItems, Nat.max_le] at hd
    have hs := (Statement.rereads s).statement hd.1
    have hss := Statement.items?_within ss hd.2
    simp [Statement.listToJson, Json.items?, hs, hss]
theorem Expr.rereads : (e : Expr) → Rereads Expr.kinds Expr.behindTag e.toJson e
  | .ident name => by
    refine ⟨"Identifier", [("name", .str name)], rfl, by decide, by simp, ?_⟩
    intro budget _
    simp [Expr.ofTagged?.eq_def, nameOfJson?, Json.row?, Json.occurrences, Json.Row.need, Json.find?, Json.str?]
  | .lit l => by
    refine ⟨"Literal", l.fields, rfl, by decide, by simp [Literal.fields], ?_⟩
    intro budget _
    simp [Expr.ofTagged?.eq_def]
  | .plus left right => by
    refine ⟨"BinaryExpression", [("operator", .str "+"), ("left", left.toJson), ("right", right.toJson)],
      by rw [Expr.toJson], by decide, by simp, ?_⟩
    intro budget hd
    simp only [Json.depthFields, Nat.max_le] at hd
    have hl := (Expr.rereads left).expr hd.2.1
    have hr := (Expr.rereads right).expr hd.2.2.1
    simp [Expr.ofTagged?.eq_def, Json.row?, Json.occurrences, Json.Row.need, Json.find?, hl, hr]
  | .call callee arguments => by
    refine ⟨"CallExpression", [("callee", callee.toJson), ("arguments", .arr (Expr.listToJson arguments))],
      by rw [Expr.toJson], by decide, by simp, ?_⟩
    intro budget hd
    simp only [Json.depthFields, Json.depth, Nat.max_le] at hd
    have hc := (Expr.rereads callee).expr hd.1
    have ha := Expr.items?_within arguments (Nat.le_of_succ_le hd.2.1)
    simp [Expr.ofTagged?.eq_def, Json.row?, Json.occurrences, Json.Row.need, Json.find?, Json.list?, hc, ha]
  | .member target property computed => by
    refine ⟨"MemberExpression", [("object", target.toJson), ("property", property.toJson),
      ("computed", .bool computed)], by rw [Expr.toJson], by decide, by simp, ?_⟩
    intro budget hd
    simp only [Json.depthFields, Nat.max_le] at hd
    have ht := (Expr.rereads target).expr hd.1
    have hp := (Expr.rereads property).expr hd.2.1
    simp [Expr.ofTagged?.eq_def, Json.row?, Json.occurrences, Json.Row.need, Json.find?, Json.bool?, ht, hp]
  | .cond test consequent alternate => by
    refine ⟨"ConditionalExpression", [("test", test.toJson), ("consequent", consequent.toJson),
      ("alternate", alternate.toJson)], by rw [Expr.toJson], by decide, by simp, ?_⟩
    intro budget hd
    simp only [Json.depthFields, Nat.max_le] at hd
    have ht := (Expr.rereads test).expr hd.1
    have hc := (Expr.rereads consequent).expr hd.2.1
    have ha := (Expr.rereads alternate).expr hd.2.2.1
    simp [Expr.ofTagged?.eq_def, Json.row?, Json.occurrences, Json.Row.need, Json.find?, ht, hc, ha]
  | .object properties => by
    refine ⟨"ObjectExpression", [("properties", .arr (Expr.propertiesToJson properties))],
      by rw [Expr.toJson], by decide, by simp, ?_⟩
    intro budget hd
    simp only [Json.depthFields, Json.depth, Nat.max_le] at hd
    have hp := Expr.items?_properties properties (Nat.le_of_succ_le hd.1)
    simp [Expr.ofTagged?.eq_def, Json.row?, Json.occurrences, Json.Row.need, Json.find?, Json.list?, hp]
  | .func ⟨id, params, body, generator, isAsync⟩ => by
    refine ⟨"FunctionExpression", functionFields id params (Statement.listToJson body) generator isAsync,
      by rw [Expr.toJson], by decide, by simp [functionFields], ?_⟩
    intro budget hd
    have hbody := Statement.items?_within body (depth_le_of_function hd)
    have hf := Function.ofJson?_functionFields ⟨id, params, body, generator, isAsync⟩ hbody
    simp [Expr.ofTagged?.eq_def, hf]
theorem Expr.items?_within : (es : List Expr) → {budget : Nat} →
    Json.depthItems (Expr.listToJson es) ≤ budget →
    Json.items? (Expr.within budget) (Expr.listToJson es) = some es
  | [], _, _ => rfl
  | e :: es, budget, hd => by
    rw [Expr.listToJson, Json.depthItems, Nat.max_le] at hd
    have he := (Expr.rereads e).expr hd.1
    have hes := Expr.items?_within es hd.2
    simp [Expr.listToJson, Json.items?, he, hes]
theorem Expr.items?_properties : (ps : List (Property Expr)) → {budget : Nat} →
    Json.depthItems (Expr.propertiesToJson ps) ≤ budget →
    Json.items? (Property.ofJson? (Expr.within budget)) (Expr.propertiesToJson ps) = some ps
  | [], _, _ => rfl
  | ⟨key, value, computed, method, shorthand⟩ :: ps, budget, hd => by
    rw [Expr.propertiesToJson, Json.depthItems, Nat.max_le] at hd
    simp only [node, Json.depthFields, Json.depth] at hd
    have hk : Expr.within budget key.toJson = some key := (Expr.rereads key).expr (by omega)
    have hv : Expr.within budget value.toJson = some value := (Expr.rereads value).expr (by omega)
    have hps := Expr.items?_properties ps hd.2
    simp [Expr.propertiesToJson, Json.items?, Property.ofJson?, node, Json.row?, Json.occurrences,
      Json.Row.need, Json.find?, Json.bool?, hk, hv, hps]
end

/-- A statement of a program is read back. -/
theorem Statement.ofJson?_toJson (s : Statement) : Statement.ofJson? s.toJson = some s := by
  obtain ⟨kind, fields, hjson, hk, hf, hread⟩ := Statement.rereads s
  have hbody := hread (Json.obj fields).depth (Nat.le_succ _)
  simp [Statement.ofJson?, hjson, tagged?_node .root hk hf, Statement.ofRoot?, hbody]

theorem Statement.listToJson_eq_map (ss : List Statement) :
    Statement.listToJson ss = ss.map Statement.toJson := by
  induction ss with
  | nil => rfl
  | cons s ss ih => rw [Statement.listToJson, ih, List.map_cons]

theorem SourceType.ofName?_name (t : SourceType) :
    (Json.name? .root SourceType.names (.str t.name)).bind SourceType.ofName? = some t := by
  cases t <;> decide

/-- Every program is read back from its document, so no two programs have the same. -/
theorem decode_encode :
    (∀ p : Program, Program.ofJson? p.toJson = some p) ∧ Function.Injective Program.toJson := by
  have hread : ∀ p : Program, Program.ofJson? p.toJson = some p := by
    intro p
    have hbody : Json.items? Statement.ofJson? (Statement.listToJson p.body) = some p.body := by
      rw [Statement.listToJson_eq_map]
      have h := Json.items?_map (fun s (_ : s ∈ p.body) => Statement.ofJson?_toJson s)
      rwa [List.map_id'] at h
    simp [Program.ofJson?, Program.toJson, node, Json.row?, Json.occurrences, Json.Row.need, Json.find?,
      Json.list?, hbody, SourceType.ofName?_name]
  refine ⟨hread, ?_⟩
  intro p q heq
  have hp := hread p
  rw [heq, hread q] at hp
  exact (Option.some.inj hp).symm

end Stencil.Script
