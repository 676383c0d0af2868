import Stencil.Proofs.Json.Relaxed
import Stencil.Template.Decode
import Stencil.Template.Encode

/-!
# Template trees from loosely written documents

A template tree is read back from its document, and from every document that differs from it in the
order of fields, in fields that are not known, and in fields that hold their default and are left out.
`Node.form` says of every field whether it holds its default; without that it is the document that
`Node.toJson` writes.
-/

namespace Stencil.Template

set_option autoImplicit false

/-- A field that has to be written. -/
def needed (name : String) (form : Form) : Slot Form := ⟨name, .needed, form⟩

/-- A field that may be left out if it holds its default. -/
def spare (name : String) (isDefault : Bool) (form : Form) : Slot Form :=
  ⟨name, .spareIf isDefault, form⟩

/-- The form of a position. -/
def Position.form (p : Position) : Form := .record
  [needed "line" (.fixed (.num (.ofWord p.line))), needed "column" (.fixed (.num (.ofWord p.column)))]

/-- The form of a location. -/
def Location.form (l : Location) : Form := .record
  [spare "source" l.source.isNone (.fixed (l.source.elim .null .str)), needed "start" l.start.form,
    needed "end" l.finish.form]

/-- The field that says where a node was written. -/
def Location.slot (l : Option Location) : Slot Form :=
  spare "loc" l.isNone (l.elim (.fixed .null) Location.form)

/-- The fields of a path. -/
def Path.slots (p : Path) : List (Slot Form) :=
  [spare "data" (p.data == false) (.fixed (.bool p.data)),
    spare "depth" (p.depth == 0) (.fixed (.num (.ofWord p.depth))),
    spare "parts" p.parts.isEmpty (.fixed (.arr (p.parts.map .str))),
    spare "original" (p.written == "") (.fixed (.str p.written)), Location.slot p.loc]

namespace Expr

mutual
/-- The fields of an expression behind its tag. -/
def slots : Expr → List (Slot Form)
  | .path p => p.slots
  | .sub callee params hash loc =>
    [needed "path" (.tagged callee.kind callee.slots), spare "params" params.isEmpty (.list (forms params)),
      spare "hash" hash.isNone (hashForm hash), Location.slot loc]
  | .str s loc => [needed "value" (.fixed (.str s)), Location.slot loc]
  | .num n loc => [needed "value" (.fixed (.num n)), Location.slot loc]
  | .bool b loc => [needed "value" (.fixed (.bool b)), Location.slot loc]
  | .undefined loc => [Location.slot loc]
  | .null loc => [Location.slot loc]
/-- The forms of some expressions. -/
def forms : List Expr → List Form
  | [] => []
  | e :: es => .tagged e.kind e.slots :: forms es
/-- The form of named arguments. -/
def hashForm : Option (Hash Expr) → Form
  | none => .fixed .null
  | some ⟨pairs, loc⟩ => .record [spare "pairs" pairs.isEmpty (.list (pairForms pairs)), Location.slot loc]
/-- The forms of some named arguments. -/
def pairForms : List (HashPair Expr) → List Form
  | [] => []
  | ⟨key, value, loc⟩ :: ps =>
    .record [needed "key" (.fixed (.str key)), needed "value" (.tagged value.kind value.slots),
      Location.slot loc] :: pairForms ps
end

/-- The form of an expression. -/
def form (e : Expr) : Form := .tagged e.kind e.slots

end Expr

/-- The fields of a call, whose path stands under the given name. -/
def Call.slots (name : String) (c : Call) : List (Slot Form) :=
  [needed name c.path.form, spare "params" c.params.isEmpty (.list (Expr.forms c.params)),
    spare "hash" c.hash.isNone (Expr.hashForm c.hash)]

/-- The fields of a mustache. -/
def Mustache.slots (m : Mustache) : List (Slot Form) :=
  m.call.slots "path" ++ [spare "escaped" m.escaped (.fixed (.bool m.escaped)), Location.slot m.loc]

namespace Node

/-- The fields of a sequence. That it has no names may be written as `null`. -/
def programSlots (body : List Form) (names : List String) (loc : Option Location) : List (Slot Form) :=
  [spare "body" body.isEmpty (.list body),
    ⟨"blockParams", if names.isEmpty then .spareOrNull else .needed, .fixed (.arr (names.map .str))⟩,
    Location.slot loc]

mutual
/-- The fields of a statement behind its tag. -/
def slots : Node → List (Slot Form)
  | .program ⟨body, names, loc⟩ => programSlots (forms body) names loc
  | .content value written loc =>
    [needed "value" (.fixed (.str value)), spare "original" (written == "") (.fixed (.str written)),
      Location.slot loc]
  | .comment value loc => [spare "value" (value == "") (.fixed (.str value)), Location.slot loc]
  | .mustache m => m.slots
  | .block ⟨call, main, inverse, loc⟩ => call.slots "path" ++
    [spare "program" main.isNone (bodyForm main), spare "inverse" inverse.isNone (bodyForm inverse),
      Location.slot loc]
  | .partialCall call loc => call.slots "name" ++ [Location.slot loc]
  | .partialBlock call main loc => call.slots "name" ++
    [spare "program" main.isNone (bodyForm main), Location.slot loc]
  | .decorator m => m.slots
  | .decoratorBlock ⟨call, main, inverse, loc⟩ => call.slots "path" ++
    [spare "program" main.isNone (bodyForm main), spare "inverse" inverse.isNone (bodyForm inverse),
      Location.slot loc]
/-- The forms of some statements. -/
def forms : List Node → List Form
  | [] => []
  | n :: ns => .tagged n.kind n.slots :: forms ns
/-- The form of a body. -/
def bodyForm : Option (Program Node) → Form
  | none => .fixed .null
  | some ⟨body, names, loc⟩ => .record (programSlots (forms body) names loc)
end

/-- The form of a statement: its document with what may be left out of it. -/
def form (n : Node) : Form := .tagged n.kind n.slots

end Node

/-! ### Forms are the documents that are written -/

@[simp] theorem document_location (l : Option Location) :
    (l.elim (.fixed .null) Location.form).document = Location.optToJson l := by
  cases l with
  | none => rfl
  | some l => rfl

namespace Expr

mutual
theorem document_slots : (e : Expr) → (Form.tagged e.kind e.slots).document = e.toJson
  | .path p => by
    simp [Form.tagged, Form.document, Form.fields, slots, Path.slots, spare, Location.slot, kind, toJson]
  | .sub callee params hash loc => by
    simp [Form.tagged, slots, needed, spare, Location.slot, kind, toJson, Form.document, Form.fields,
      document_forms params, document_hashForm hash, ← document_slots callee]
  | .str s loc => by
    simp [Form.tagged, Form.document, Form.fields, slots, needed, spare, Location.slot, kind, toJson]
  | .num n loc => by
    simp [Form.tagged, Form.document, Form.fields, slots, needed, spare, Location.slot, kind, toJson]
  | .bool b loc => by
    simp [Form.tagged, Form.document, Form.fields, slots, needed, spare, Location.slot, kind, toJson]
  | .undefined loc => by
    simp [Form.tagged, Form.document, Form.fields, slots, spare, Location.slot, kind, toJson]
  | .null loc => by
    simp [Form.tagged, Form.document, Form.fields, slots, spare, Location.slot, kind, toJson]
theorem document_forms : (es : List Expr) → Form.documents (forms es) = listToJson es
  | [] => rfl
  | e :: es => by rw [forms, Form.documents, document_slots e, document_forms es, listToJson]
theorem document_hashForm : (hash : Option (Hash Expr)) → (hashForm hash).document = hashToJson hash
  | none => rfl
  | some ⟨pairs, loc⟩ => by
    simp [hashForm, Form.document, Form.fields, spare, Location.slot, hashToJson, document_pairForms pairs]
theorem document_pairForms : (ps : List (HashPair Expr)) → Form.documents (pairForms ps) = pairsToJson ps
  | [] => rfl
  | ⟨key, value, loc⟩ :: ps => by
    rw [pairForms, Form.documents, pairsToJson, document_pairForms ps, ← document_slots value]
    simp [Form.document, Form.fields, needed, spare, Location.slot]
end

end Expr

theorem fields_call (name : String) (c : Call) : Form.fields (c.slots name) = c.fields name := by
  simp [Call.slots, Call.fields, Form.fields, Form.document, needed, spare, Expr.form,
    Expr.document_slots, Expr.document_forms, Expr.document_hashForm]

theorem fields_mustache (m : Mustache) : Form.fields m.slots = m.fields := by
  rw [Mustache.slots, Form.fields_append, fields_call, Mustache.fields]
  simp [Form.fields, Form.document, spare, Location.slot]

namespace Node

mutual
theorem document_slots : (n : Node) → (Form.tagged n.kind n.slots).document = n.toJson
  | .program ⟨body, names, loc⟩ => by
    simp [Form.tagged, Form.document, Form.fields, slots, programSlots, spare, Location.slot, kind,
      toJson, programFields, document_forms body]
  | .content value written loc => by
    simp [Form.tagged, Form.document, Form.fields, slots, needed, spare, Location.slot, kind, toJson]
  | .comment value loc => by
    simp [Form.tagged, Form.document, Form.fields, slots, spare, Location.slot, kind, toJson]
  | .mustache m => by
    rw [Form.tagged, Form.document, Form.fields, slots, fields_mustache, toJson, kind, Form.document]
  | .block ⟨call, main, inverse, loc⟩ => by
    simp [Form.tagged, Form.document, Form.fields, Form.fields_append, slots, fields_call, spare, Location.slot, kind,
      toJson, document_bodyForm main, document_bodyForm inverse]
  | .partialCall call loc => by
    simp [Form.tagged, Form.document, Form.fields, Form.fields_append, slots, fields_call, spare, Location.slot, kind,
      toJson]
  | .partialBlock call main loc => by
    simp [Form.tagged, Form.document, Form.fields, Form.fields_append, slots, fields_call, spare, Location.slot, kind,
      toJson, document_bodyForm main]
  | .decorator m => by
    rw [Form.tagged, Form.document, Form.fields, slots, fields_mustache, toJson, kind, Form.document]
  | .decoratorBlock ⟨call, main, inverse, loc⟩ => by
    simp [Form.tagged, Form.document, Form.fields, Form.fields_append, slots, fields_call, spare, Location.slot, kind,
      toJson, document_bodyForm main, document_bodyForm inverse]
theorem document_forms : (ns : List Node) → Form.documents (forms ns) = listToJson ns
  | [] => rfl
  | n :: ns => by rw [forms, Form.documents, document_slots n, document_forms ns, listToJson]
theorem document_bodyForm : (body : Option (Program Node)) → (bodyForm body).document = optToJson body
  | none => rfl
  | some ⟨body, names, loc⟩ => by
    simp [bodyForm, Form.document, Form.fields, programSlots, spare, Location.slot, optToJson, programFields,
      document_forms body]
end

theorem document_form (n : Node) : n.form.document = n.toJson := document_slots n

end Node

/-! ### Reading -/

theorem Position.reads (p : Position) (limit : Nat) : Reads limit Position.ofJson? p.form p := by
  intro j hj hd
  obtain ⟨cells, hrow, hs⟩ := hj.opened ["line", "column"] rfl (by decide) (Nat.le_succ_of_le hd)
  simp only [List.forall_mem_cons] at hs
  obtain ⟨hline, hcolumn, -⟩ := hs
  have h1 : Json.Row.need ⟨cells, false⟩ "line" Json.word? = some p.line :=
    hline.need (reads_fixed (Number.word?_ofWord _))
  have h2 : Json.Row.need ⟨cells, false⟩ "column" Json.word? = some p.column :=
    hcolumn.need (reads_fixed (Number.word?_ofWord _))
  simp [Position.ofJson?, hrow, h1, h2]

theorem not_relaxes_record_null (slots : List (Slot Form)) : ¬Relaxes (.record slots) .null := by
  intro h
  cases h

theorem Location.reads (l : Location) (limit : Nat) : Reads limit Location.ofJson? l.form l := by
  intro j hj hd
  obtain ⟨cells, hrow, hs⟩ := hj.opened ["source", "start", "end"] rfl (by decide) (Nat.le_succ_of_le hd)
  simp only [List.forall_mem_cons] at hs
  obtain ⟨hsource, hstart, hend, -⟩ := hs
  have h1 : Json.Row.maybe ⟨cells, false⟩ "source" Json.str? = some l.source := by
    apply hsource.maybe
    · apply reads_fixed
      cases l.source <;> rfl
    · exact Option.isNone_iff_eq_none.mp
  have h2 : Json.Row.need ⟨cells, false⟩ "start" Position.ofJson? = some l.start :=
    hstart.need (Position.reads l.start limit)
  have h3 : Json.Row.need ⟨cells, false⟩ "end" Position.ofJson? = some l.finish :=
    hend.need (Position.reads l.finish limit)
  simp [Location.ofJson?, hrow, h1, h2, h3]

/-- Every record ends with its location. -/
theorem Location.maybe_loc {l : Option Location} {limit : Nat} {cells : List (String × Json)}
    {positional : Bool} (h : Stands limit cells (Location.slot l)) :
    Json.Row.maybe ⟨cells, positional⟩ "loc" Location.ofJson? = some l := by
  apply Stands.maybe h
  · cases l with
    | none => exact reads_none
    | some l => exact reads_some (l.reads limit) (not_relaxes_record_null _)
  · exact Option.isNone_iff_eq_none.mp

theorem list?_map_str (ss : List String) : Json.list? Json.str? (.arr (ss.map .str)) = some ss := by
  rw [Json.list?]
  induction ss with
  | nil => rfl
  | cons s ss ih => simp [Json.items?, Json.str?, ih]

theorem Path.reads (p : Path) (limit : Nat) : Reads limit Path.ofJson? (.record p.slots) p := by
  intro j hj hd
  obtain ⟨cells, hrow, hs⟩ := hj.opened ["data", "depth", "parts", "original", "loc"] rfl (by decide)
    (Nat.le_succ_of_le hd)
  simp only [Path.slots, List.forall_mem_cons] at hs
  obtain ⟨hdata, hdepth, hparts, hwritten, hloc, -⟩ := hs
  have h1 : Json.Row.orDefault ⟨cells, false⟩ "data" Json.bool? false = some p.data :=
    hdata.orDefault (reads_fixed rfl) beq_iff_eq.mp
  have h2 : Json.Row.orDefault ⟨cells, false⟩ "depth" Json.word? 0 = some p.depth :=
    hdepth.orDefault (reads_fixed (Number.word?_ofWord _)) beq_iff_eq.mp
  have h3 : Json.Row.orDefault ⟨cells, false⟩ "parts" (Json.list? Json.str?) [] = some p.parts :=
    hparts.orDefault (reads_fixed (list?_map_str _)) List.isEmpty_iff.mp
  have h4 : Json.Row.orDefault ⟨cells, false⟩ "original" Json.str? "" = some p.written :=
    hwritten.orDefault (reads_fixed rfl) beq_iff_eq.mp
  simp [Path.ofJson?, hrow, h1, h2, h3, h4, Location.maybe_loc hloc]

/-- A call is read from the record that it is part of. -/
theorem Call.ofRow?_of_stands {c : Call} {name : String} {limit : Nat} {cells : List (String × Json)}
    {positional : Bool} {expr : Json → Option Expr} (hs : ∀ s ∈ c.slots name, Stands limit cells s)
    (hpath : Reads limit expr c.path.form c.path)
    (hparams : List.Forall₂ (Reads limit expr) (Expr.forms c.params) c.params)
    (hhash : Reads limit (Json.nullable (Hash.ofJson? expr)) (Expr.hashForm c.hash) c.hash) :
    Call.ofRow? expr name ⟨cells, positional⟩ = some c := by
  simp only [Call.slots, List.forall_mem_cons] at hs
  obtain ⟨h1, h2, h3, -⟩ := hs
  have hp : Json.Row.need ⟨cells, positional⟩ name expr = some c.path := h1.need hpath
  have hps : Json.Row.orDefault ⟨cells, positional⟩ "params" (Json.list? expr) [] = some c.params :=
    h2.orDefault (reads_list hparams) List.isEmpty_iff.mp
  have hh : Json.Row.maybe ⟨cells, positional⟩ "hash" (Hash.ofJson? expr) = some c.hash :=
    h3.maybe hhash Option.isNone_iff_eq_none.mp
  simp [Call.ofRow?, hp, hps, hh]

namespace Expr

theorem name_ne_type (e : Expr) : ∀ s ∈ e.slots, s.name ≠ "type" := by
  cases e <;> simp [slots, Path.slots, needed, spare, Location.slot]

theorem kind_mem_kinds (e : Expr) : e.kind ∈ kinds := by
  cases e <;> simp [kind, kinds]

theorem literal?_reads {α : Type} {read : Json → Option α} {make : α → Option Location → Expr} {j : Json}
    {a : α} {loc : Option Location} (h : read j = some a) (limit : Nat) :
    Reads limit (literal? read make) (.record [needed "value" (.fixed j), Location.slot loc]) (make a loc) := by
  intro i hi hd
  obtain ⟨cells, hrow, hs⟩ := hi.opened ["value", "loc"] rfl (by decide) (Nat.le_succ_of_le hd)
  simp only [List.forall_mem_cons] at hs
  obtain ⟨hvalue, hloc, -⟩ := hs
  have h1 : Json.Row.need ⟨cells, false⟩ "value" read = some a := hvalue.need (reads_fixed h)
  simp [literal?, hrow, h1, Location.maybe_loc hloc]

theorem bare?_reads {make : Option Location → Expr} {loc : Option Location} (limit : Nat) :
    Reads limit (bare? make) (.record [Location.slot loc]) (make loc) := by
  intro i hi hd
  obtain ⟨cells, hrow, hs⟩ := hi.opened ["loc"] rfl (by decide) (Nat.le_succ_of_le hd)
  simp only [List.forall_mem_cons] at hs
  simp [bare?, hrow, Location.maybe_loc hs.1]

/-- An expression is read inside of a document if what is behind its tag is. -/
theorem within_reads_of {e : Expr} {limit : Nat}
    (h : ∀ limit, Reads (limit + 1) (ofTagged? (within limit) e.kind) (.record e.slots) e) :
    Reads limit (within limit) e.form e := by
  intro j hj hd
  obtain ⟨body, htag, hbody, hle⟩ := hj.untagged e.name_ne_type .inside e.kind_mem_kinds
  cases limit with
  | zero => cases j <;> simp [Json.depth] at hd
  | succ limit =>
    have hread := h limit body hbody (Nat.le_trans hle hd)
    simp [within, htag, hread]

mutual
theorem ofTagged?_reads : (e : Expr) → (limit : Nat) →
    Reads (limit + 1) (ofTagged? (within limit) e.kind) (.record e.slots) e
  | .path p, limit => by
    intro j hj hd
    have hp := p.reads _ j hj hd
    simp [kind, ofTagged?.eq_def, hp]
  | .sub callee params hash loc, limit => by
    intro j hj hd
    obtain ⟨cells, hrow, hs⟩ := hj.opened ["path", "params", "hash", "loc"] rfl (by decide) hd
    simp only [slots, List.forall_mem_cons] at hs
    obtain ⟨hpath, hparams, hhash, hloc, -⟩ := hs
    have hcall : Call.ofRow? (within limit) "path" ⟨cells, false⟩ = some ⟨callee, params, hash⟩ := by
      apply Call.ofRow?_of_stands
      · simp only [Call.slots, List.forall_mem_cons]
        exact ⟨hpath, hparams, hhash, List.forall_mem_nil _⟩
      · exact within_reads_of (ofTagged?_reads callee)
      · exact within_readsAll params limit
      · exact reads_hash hash limit
    simp [kind, ofTagged?.eq_def, hrow, hcall, Location.maybe_loc hloc]
  | .str s loc, limit => by
    have hread : Json.str? (.str s) = some s := rfl
    exact literal?_reads hread _
  | .num n loc, limit => by
    have hread : Json.num? (.num n) = some n := rfl
    exact literal?_reads hread _
  | .bool b loc, limit => by
    have hread : Json.bool? (.bool b) = some b := rfl
    exact literal?_reads hread _
  | .undefined loc, limit => bare?_reads _
  | .null loc, limit => bare?_reads _
theorem within_readsAll : (es : List Expr) → (limit : Nat) →
    List.Forall₂ (Reads limit (within limit)) (forms es) es
  | [], _ => .nil
  | e :: es, limit => .cons (within_reads_of (ofTagged?_reads e)) (within_readsAll es limit)
theorem reads_hash : (hash : Option (Hash Expr)) → (limit : Nat) →
    Reads limit (Json.nullable (Hash.ofJson? (within limit))) (hashForm hash) hash
  | none, _ => reads_none
  | some ⟨pairs, loc⟩, limit => by
    refine reads_some ?_ (not_relaxes_record_null _)
    intro j hj hd
    obtain ⟨cells, hrow, hs⟩ := hj.opened ["pairs", "loc"] rfl (by decide) (Nat.le_succ_of_le hd)
    simp only [List.forall_mem_cons] at hs
    obtain ⟨hpairs, hloc, -⟩ := hs
    have h1 : Json.Row.orDefault ⟨cells, false⟩ "pairs" (Json.list? (Hash.ofJson?.pair (within limit))) [] =
        some pairs :=
      hpairs.orDefault (reads_list (reads_pairs pairs limit)) List.isEmpty_iff.mp
    simp [Hash.ofJson?, hrow, h1, Location.maybe_loc hloc]
theorem reads_pairs : (ps : List (HashPair Expr)) → (limit : Nat) →
    List.Forall₂ (Reads limit (Hash.ofJson?.pair (within limit))) (pairForms ps) ps
  | [], _ => .nil
  | ⟨key, value, loc⟩ :: ps, limit => by
    refine .cons ?_ (reads_pairs ps limit)
    intro j hj hd
    obtain ⟨cells, hrow, hs⟩ := hj.opened ["key", "value", "loc"] rfl (by decide) (Nat.le_succ_of_le hd)
    simp only [List.forall_mem_cons] at hs
    obtain ⟨hkey, hvalue, hloc, -⟩ := hs
    have h1 : Json.Row.need ⟨cells, false⟩ "key" Json.str? = some key := hkey.need (reads_fixed rfl)
    have h2 : Json.Row.need ⟨cells, false⟩ "value" (within limit) = some value :=
      hvalue.need (within_reads_of (ofTagged?_reads value))
    simp [Hash.ofJson?.pair, hrow, h1, h2, Location.maybe_loc hloc]
end

theorem within_reads (e : Expr) (limit : Nat) : Reads limit (within limit) e.form e :=
  within_reads_of (ofTagged?_reads e)

end Expr

theorem Call.ofRow?_within {c : Call} {name : String} {limit : Nat} {cells : List (String × Json)}
    {positional : Bool} (hs : ∀ s ∈ c.slots name, Stands limit cells s) :
    Call.ofRow? (Expr.within limit) name ⟨cells, positional⟩ = some c :=
  Call.ofRow?_of_stands hs (c.path.within_reads limit) (Expr.within_readsAll c.params limit)
    (Expr.reads_hash c.hash limit)

theorem Mustache.reads (m : Mustache) (limit : Nat) :
    Reads (limit + 1) (Mustache.ofJson? (Expr.within limit)) (.record m.slots) m := by
  intro j hj hd
  obtain ⟨cells, hrow, hs⟩ := hj.opened ["path", "params", "hash", "escaped", "loc"] rfl (by decide) hd
  rw [Mustache.slots, List.forall_mem_append] at hs
  obtain ⟨hcall, hs⟩ := hs
  simp only [List.forall_mem_cons] at hs
  obtain ⟨hescaped, hloc, -⟩ := hs
  have h1 : Json.Row.orDefault ⟨cells, false⟩ "escaped" Json.bool? true = some m.escaped :=
    hescaped.orDefault (reads_fixed rfl) id
  simp [Mustache.ofJson?, hrow, Call.ofRow?_within hcall, h1, Location.maybe_loc hloc]

/-- A sequence is read if its statements are; that it has no names may be said in three ways. -/
theorem Program.reads (p : Program Node) {node : Json → Option Node} {limit : Nat} {forms : List Form}
    (h : List.Forall₂ (Reads limit node) forms p.body) :
    Reads (limit + 1) (Program.ofJson? node) (.record (Node.programSlots forms p.blockParams p.loc)) p := by
  intro j hj hd
  obtain ⟨cells, hrow, hs⟩ := hj.opened ["body", "blockParams", "loc"] rfl (by decide) hd
  simp only [Node.programSlots, List.forall_mem_cons] at hs
  obtain ⟨hbody, hnames, hloc, -⟩ := hs
  have h1 : Json.Row.orDefault ⟨cells, false⟩ "body" (Json.list? node) [] = some p.body := by
    apply hbody.orDefault (reads_list h)
    intro hempty
    rw [List.isEmpty_iff.mp hempty, List.forall₂_nil_left_iff] at h
    exact h
  have h2 : ∃ names, Json.Row.maybe ⟨cells, false⟩ "blockParams" (Json.list? Json.str?) = some names ∧
      names.getD [] = p.blockParams := by
    have hdefault : ∀ b, (if p.blockParams.isEmpty then Presence.spareOrNull else .needed) = b →
        b ≠ .needed → p.blockParams = [] := by
      intro b hb hne
      split at hb
      · exact List.isEmpty_iff.mp ‹_›
      · exact absurd hb.symm hne
    generalize hp : (if p.blockParams.isEmpty then Presence.spareOrNull else .needed) = presence at hnames
    cases hnames with
    | written hf hr _ =>
      cases hr
      refine ⟨some p.blockParams, ?_, rfl⟩
      rw [Json.Row.maybe, Json.Row.orDefault, hf]
      simp [Json.nullable, list?_map_str]
    | missing hne hf =>
      refine ⟨none, ?_, (hdefault _ hp hne).symm⟩
      rw [Json.Row.maybe, Json.Row.orDefault, hf]
    | null hf =>
      refine ⟨none, ?_, (hdefault _ hp (by decide)).symm⟩
      rw [Json.Row.maybe, Json.Row.orDefault, hf]
      rfl
  obtain ⟨names, h2, hget⟩ := h2
  simp [Program.ofJson?, hrow, h1, h2, hget, Location.maybe_loc hloc]

namespace Node

theorem name_ne_type (n : Node) : ∀ s ∈ n.slots, s.name ≠ "type" := by
  cases n <;> simp [slots, programSlots, Mustache.slots, Call.slots, needed, spare, Location.slot]

theorem kind_mem_kinds (n : Node) : n.kind ∈ kinds := by
  cases n <;> simp [kind, kinds]

theorem within_reads_of {n : Node} {limit : Nat}
    (h : ∀ limit, Reads (limit + 1) (ofTagged? (within limit) (Expr.within limit) n.kind)
      (.record n.slots) n) : Reads limit (within limit) n.form n := by
  intro j hj hd
  obtain ⟨body, htag, hbody, hle⟩ := hj.untagged n.name_ne_type .inside n.kind_mem_kinds
  cases limit with
  | zero => cases j <;> simp [Json.depth] at hd
  | succ limit =>
    have hread := h limit body hbody (Nat.le_trans hle hd)
    simp [within, htag, hread]

/-- A block is read if its bodies are, under the names of both kinds of blocks. -/
theorem block_reads (b : Block Node) {limit : Nat}
    (hmain : Reads limit (Json.nullable (Program.ofJson? (within limit))) (bodyForm b.program) b.program)
    (hinverse : Reads limit (Json.nullable (Program.ofJson? (within limit))) (bodyForm b.inverse)
      b.inverse) :
    Reads (limit + 1) (Block.ofJson? (within limit) (Expr.within limit))
      (.record (b.call.slots "path" ++ [spare "program" b.program.isNone (bodyForm b.program),
        spare "inverse" b.inverse.isNone (bodyForm b.inverse), Location.slot b.loc])) b := by
  intro j hj hd
  obtain ⟨cells, hrow, hs⟩ :=
    hj.opened ["path", "params", "hash", "program", "inverse", "loc"] rfl (by decide) hd
  rw [List.forall_mem_append] at hs
  obtain ⟨hcall, hs⟩ := hs
  simp only [List.forall_mem_cons] at hs
  obtain ⟨h1, h2, hloc, -⟩ := hs
  have hp : Json.Row.maybe ⟨cells, false⟩ "program" (Program.ofJson? (within limit)) = some b.program :=
    h1.maybe hmain Option.isNone_iff_eq_none.mp
  have hi : Json.Row.maybe ⟨cells, false⟩ "inverse" (Program.ofJson? (within limit)) = some b.inverse :=
    h2.maybe hinverse Option.isNone_iff_eq_none.mp
  simp [Block.ofJson?, hrow, Call.ofRow?_within hcall, hp, hi, Location.maybe_loc hloc]

mutual
theorem ofTagged?_reads : (n : Node) → (limit : Nat) →
    Reads (limit + 1) (ofTagged? (within limit) (Expr.within limit) n.kind) (.record n.slots) n
  | .program ⟨body, names, loc⟩, limit => by
    intro j hj hd
    have hp := Program.reads ⟨body, names, loc⟩ (within_readsAll body limit) j hj hd
    simp [kind, ofTagged?.eq_def, hp]
  | .content value written loc, limit => by
    intro j hj hd
    obtain ⟨cells, hrow, hs⟩ := hj.opened ["value", "original", "loc"] rfl (by decide) hd
    simp only [slots, List.forall_mem_cons] at hs
    obtain ⟨hvalue, hwritten, hloc, -⟩ := hs
    have h1 : Json.Row.need ⟨cells, false⟩ "value" Json.str? = some value := hvalue.need (reads_fixed rfl)
    have h2 : Json.Row.orDefault ⟨cells, false⟩ "original" Json.str? "" = some written :=
      hwritten.orDefault (reads_fixed rfl) beq_iff_eq.mp
    simp [kind, ofTagged?.eq_def, hrow, h1, h2, Location.maybe_loc hloc]
  | .comment value loc, limit => by
    intro j hj hd
    obtain ⟨cells, hrow, hs⟩ := hj.opened ["value", "loc"] rfl (by decide) hd
    simp only [slots, List.forall_mem_cons] at hs
    obtain ⟨hvalue, hloc, -⟩ := hs
    have h1 : Json.Row.orDefault ⟨cells, false⟩ "value" Json.str? "" = some value :=
      hvalue.orDefault (reads_fixed rfl) beq_iff_eq.mp
    simp [kind, ofTagged?.eq_def, hrow, h1, Location.maybe_loc hloc]
  | .mustache m, limit => by
    intro j hj hd
    have hm := m.reads limit j hj hd
    simp [kind, ofTagged?.eq_def, hm]
  | .block ⟨call, main, inverse, loc⟩, limit => by
    intro j hj hd
    have hb := block_reads ⟨call, main, inverse, loc⟩ (reads_body main limit) (reads_body inverse limit) j hj hd
    simp [kind, ofTagged?.eq_def, hb]
  | .partialCall call loc, limit => by
    intro j hj hd
    obtain ⟨cells, hrow, hs⟩ := hj.opened ["name", "params", "hash", "loc"] rfl (by decide) hd
    rw [slots, List.forall_mem_append] at hs
    obtain ⟨hcall, hs⟩ := hs
    simp only [List.forall_mem_cons] at hs
    simp [kind, ofTagged?.eq_def, hrow, Call.ofRow?_within hcall, Location.maybe_loc hs.1]
  | .partialBlock call main loc, limit => by
    intro j hj hd
    obtain ⟨cells, hrow, hs⟩ := hj.opened ["name", "params", "hash", "program", "loc"] rfl (by decide) hd
    rw [slots, List.forall_mem_append] at hs
    obtain ⟨hcall, hs⟩ := hs
    simp only [List.forall_mem_cons] at hs
    obtain ⟨hmain, hloc, -⟩ := hs
    have hp : Json.Row.maybe ⟨cells, false⟩ "program" (Program.ofJson? (within limit)) = some main :=
      hmain.maybe (reads_body main limit) Option.isNone_iff_eq_none.mp
    simp [kind, ofTagged?.eq_def, hrow, Call.ofRow?_within hcall, hp, Location.maybe_loc hloc]
  | .decorator m, limit => by
    intro j hj hd
    have hm := m.reads limit j hj hd
    simp [kind, ofTagged?.eq_def, hm]
  | .decoratorBlock ⟨call, main, inverse, loc⟩, limit => by
    intro j hj hd
    have hb := block_reads ⟨call, main, inverse, loc⟩ (reads_body main limit) (reads_body inverse limit) j hj hd
    simp [kind, ofTagged?.eq_def, hb]
theorem within_readsAll : (ns : List Node) → (limit : Nat) →
    List.Forall₂ (Reads limit (within limit)) (forms ns) ns
  | [], _ => .nil
  | n :: ns, limit => .cons (within_reads_of (ofTagged?_reads n)) (within_readsAll ns limit)
theorem reads_body : (body : Option (Program Node)) → (limit : Nat) →
    Reads limit (Json.nullable (Program.ofJson? (within limit))) (bodyForm body) body
  | none, _ => reads_none
  | some ⟨body, names, loc⟩, limit => by
    refine reads_some ?_ (not_relaxes_record_null _)
    intro j hj hd
    exact Program.reads ⟨body, names, loc⟩ (within_readsAll body limit) j hj (Nat.le_succ_of_le hd)
end

/-- A statement is read from every document that stands for it, and from its own in particular. -/
theorem read_relaxed (n : Node) :
    (∀ j, Relaxes n.form j → ofJson? j = some n) ∧ n.form.document = n.toJson ∧
      ofJson? n.toJson = some n := by
  have hread : ∀ j, Relaxes n.form j → ofJson? j = some n := by
    intro j hj
    obtain ⟨body, htag, hbody, -⟩ := hj.untagged n.name_ne_type .root n.kind_mem_kinds
    have hn := ofTagged?_reads n body.depth body hbody (Nat.le_succ _)
    simp [ofJson?, htag, ofRoot?, hn]
  refine ⟨hread, document_form n, ?_⟩
  rw [← document_form n]
  exact hread _ (relaxes_document n.form)

end Node

namespace Loose

/-- The block `list` with the named argument `of=1` and an empty body. -/
def block : Node :=
  .block ⟨⟨.path ⟨false, 0, ["list"], "list", none⟩, [],
    some ⟨[⟨"of", .num (.ofWord 1) none, none⟩], none⟩⟩, some ⟨[], [], none⟩, none, none⟩

/-- The path of the block, without the fields that hold their default. -/
def path : Json := .obj
  [("original", .str "list"), ("parts", .arr [.str "list"]), ("type", .str "PathExpression")]

/-- The value of the argument, with a field that is not known. -/
def value : Json := .obj
  [("original", .num (.ofWord 1)), ("value", .num (.ofWord 1)), ("type", .str "NumberLiteral")]

/-- The named argument, with a tag. -/
def pair : Json := .obj [("type", .str "HashPair"), ("value", value), ("key", .str "of")]

/-- The named arguments, with a tag. -/
def hash : Json := .obj [("type", .str "Hash"), ("pairs", .arr [pair])]

/-- The body, with a tag and with `null` for its names. -/
def program : Json := .obj [("type", .str "Program"), ("blockParams", .null)]

/-- The block as a parser writes it, with all fields in another order. -/
def document : Json := .obj
  [("strip", .obj [("open", .bool false)]), ("program", program), ("hash", hash), ("path", path),
    ("type", .str "BlockStatement")]

theorem relaxes_path : Relaxes (Expr.path ⟨false, 0, ["list"], "list", none⟩).form path :=
  .record (.keep .fixed (.leave (by decide) (.leave (by decide) (.keep .fixed (.keep .fixed
    (.leave (by decide) .nil)))))) (List.forall_mem_nil _) (List.reverse_perm [_, _, _])

theorem relaxes_value : Relaxes (Expr.num (.ofWord 1) none).form value := by
  refine .record (.keep .fixed (.keep .fixed (.leave (by decide) .nil))) ?_ (List.reverse_perm [_, _, _])
  simp [Expr.slots, needed, spare, Location.slot]

theorem relaxes_hash : Relaxes (Expr.hashForm (some ⟨[⟨"of", .num (.ofWord 1) none, none⟩], none⟩)) hash := by
  refine .record (.keep (.list (.cons (.record (.keep .fixed (.keep relaxes_value
    (.leave (by decide) .nil))) ?_ (List.reverse_perm [_, _, _])) .nil)) (.leave (by decide) .nil)) ?_
    (List.reverse_perm [_, _])
  · simp [needed, spare, Location.slot]
  · simp [spare, Location.slot]

theorem relaxes_program : Relaxes (Node.bodyForm (some ⟨[], [], none⟩)) program := by
  refine .record (.leave (by decide) (.null (.leave (by decide) .nil))) ?_ (List.reverse_perm [_, _])
  simp [Node.forms, Node.programSlots, spare, Location.slot]

theorem relaxes_block : Relaxes block.form document := by
  refine .record (.keep .fixed (.keep relaxes_path (.leave (by decide) (.keep relaxes_hash
    (.keep relaxes_program (.leave (by decide) (.leave (by decide) .nil))))))) ?_
    (List.reverse_perm [_, _, _, _, _])
  simp [block, Node.slots, Call.slots, needed, spare, Location.slot]

end Loose

theorem read_loosely : Relaxes Loose.block.form Loose.document ∧
    Node.ofJson? Loose.document = some Loose.block :=
  ⟨Loose.relaxes_block, (Node.read_relaxed Loose.block).1 _ Loose.relaxes_block⟩

end Stencil.Template
