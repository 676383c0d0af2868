import Mathlib.Data.List.Forall2
import Stencil.Json.Record

/-!
# Documents that are written loosely

A `Form` is a document that knows which fields of its records hold their default. As a document
(`Form.document`) it has all its fields, in order. `Relaxes` says which documents stand for it as
well: fields come in another order, among fields that the record does not know, and some of those
that hold their default are left out.

`Reads` says that a reader takes every such document for the same value. Records are opened once, by
`Relaxes.opened`; what a reader does with a field follows from how the field stands there.
-/

namespace Stencil

set_option autoImplicit false

/-- Whether a field of a record has to be written. -/
inductive Presence where
  | needed
  /-- The field holds its default and may be left out. -/
  | spare
  /-- The field holds its default and may be left out, or be `null`. -/
  | spareOrNull
deriving DecidableEq

/-- A field that holds its default may be left out. -/
def Presence.spareIf (isDefault : Bool) : Presence := if isDefault then .spare else .needed

/-- A field of a record. -/
structure Slot (φ : Type) where
  name : String
  presence : Presence
  form : φ

/-- A document with what may be left out of it. -/
inductive Form where
  | fixed (j : Json)
  | list (items : List Form)
  | record (slots : List (Slot Form))

namespace Form

mutual
/-- The document with all its fields. -/
def document : Form → Json
  | .fixed j => j
  | .list forms => .arr (documents forms)
  | .record slots => .obj (fields slots)
/-- The documents of some forms. -/
def documents : List Form → List Json
  | [] => []
  | form :: forms => form.document :: documents forms
/-- All fields of a record. -/
def fields : List (Slot Form) → List (String × Json)
  | [] => []
  | ⟨name, _, form⟩ :: slots => (name, form.document) :: fields slots
end

theorem fields_append (slots slots' : List (Slot Form)) :
    fields (slots ++ slots') = fields slots ++ fields slots' := by
  induction slots with
  | nil => rfl
  | cons s slots ih => rw [List.cons_append, fields, fields, ih, List.cons_append]

/-- The record of a union's variant. -/
def tagged (kind : String) (slots : List (Slot Form)) : Form :=
  .record (⟨"type", .needed, .fixed (.str kind)⟩ :: slots)

end Form

mutual
/-- The documents that stand for a form. -/
inductive Relaxes : Form → Json → Prop
  | fixed {j : Json} : Relaxes (.fixed j) j
  | list {forms : List Form} {items : List Json} : RelaxesAll forms items →
      Relaxes (.list forms) (.arr items)
  | record {slots : List (Slot Form)} {kept added fields : List (String × Json)} :
      Keeps slots kept → (∀ f ∈ added, ∀ s ∈ slots, f.1 ≠ s.name) → fields.Perm (kept ++ added) →
      Relaxes (.record slots) (.obj fields)
/-- Documents that stand for some forms, one for each. -/
inductive RelaxesAll : List Form → List Json → Prop
  | nil : RelaxesAll [] []
  | cons {form : Form} {forms : List Form} {j : Json} {items : List Json} : Relaxes form j →
      RelaxesAll forms items → RelaxesAll (form :: forms) (j :: items)
/-- What is kept of a record's fields. -/
inductive Keeps : List (Slot Form) → List (String × Json) → Prop
  | nil : Keeps [] []
  | keep {name : String} {presence : Presence} {form : Form} {j : Json} {slots : List (Slot Form)}
      {kept : List (String × Json)} : Relaxes form j → Keeps slots kept →
      Keeps (⟨name, presence, form⟩ :: slots) ((name, j) :: kept)
  | leave {name : String} {presence : Presence} {form : Form} {slots : List (Slot Form)}
      {kept : List (String × Json)} : presence ≠ .needed → Keeps slots kept →
      Keeps (⟨name, presence, form⟩ :: slots) kept
  | null {name : String} {form : Form} {slots : List (Slot Form)} {kept : List (String × Json)} :
      Keeps slots kept → Keeps (⟨name, .spareOrNull, form⟩ :: slots) ((name, .null) :: kept)
end

mutual
/-- A form stands for itself. -/
theorem relaxes_document : (form : Form) → Relaxes form form.document
  | .fixed _ => .fixed
  | .list forms => .list (relaxesAll_documents forms)
  | .record slots => by
    refine .record (keeps_fields slots) (List.forall_mem_nil _) ?_
    rw [List.append_nil]
theorem relaxesAll_documents : (forms : List Form) → RelaxesAll forms (Form.documents forms)
  | [] => .nil
  | form :: forms => .cons (relaxes_document form) (relaxesAll_documents forms)
theorem keeps_fields : (slots : List (Slot Form)) → Keeps slots (Form.fields slots)
  | [] => .nil
  | ⟨_, _, form⟩ :: slots => .keep (relaxes_document form) (keeps_fields slots)
end

namespace Json

theorem depth_le_of_mem_items {items : List Json} {j : Json} (h : j ∈ items) :
    j.depth ≤ depthItems items := by
  induction items with
  | nil => cases h
  | cons i items ih =>
    rw [depthItems]
    rcases List.mem_cons.mp h with rfl | h
    · exact Nat.le_max_left _ _
    · exact Nat.le_trans (ih h) (Nat.le_max_right _ _)

theorem depth_le_of_mem_fields {fields : List (String × Json)} {name : String} {j : Json}
    (h : (name, j) ∈ fields) : j.depth ≤ depthFields fields := by
  induction fields with
  | nil => cases h
  | cons f fields ih =>
    rw [depthFields]
    rcases List.mem_cons.mp h with rfl | h
    · exact Nat.le_max_left _ _
    · exact Nat.le_trans (ih h) (Nat.le_max_right _ _)

theorem depthFields_le_iff {fields : List (String × Json)} {limit : Nat} :
    depthFields fields ≤ limit ↔ ∀ f ∈ fields, f.2.depth ≤ limit := by
  induction fields with
  | nil => simp [depthFields]
  | cons f fields ih =>
    rw [depthFields, Nat.max_le, ih, List.forall_mem_cons]

theorem find?_eq_none {name : String} {fields : List (String × Json)}
    (h : ∀ f ∈ fields, f.1 ≠ name) : find? name fields = none := by
  induction fields with
  | nil => rfl
  | cons f fields ih =>
    obtain ⟨hf, hfs⟩ := List.forall_mem_cons.mp h
    rw [find?, if_neg hf, ih hfs]

/-- A field that stands once is the first of its name. -/
theorem find?_of_mem {name : String} {j : Json} {fields : List (String × Json)}
    (ho : occurrences name fields ≤ 1) (h : (name, j) ∈ fields) : find? name fields = some j := by
  induction fields with
  | nil => cases h
  | cons f fields ih =>
    obtain ⟨k, i⟩ := f
    rw [occurrences, List.countP_cons] at ho
    by_cases hk : k = name
    · subst hk
      rw [if_pos (beq_self_eq_true k)] at ho
      have hnone : List.countP (fun f => f.1 == k) fields = 0 := by omega
      rcases List.mem_cons.mp h with heq | hm
      · cases heq
        rw [find?, if_pos rfl]
      · exact absurd (beq_self_eq_true k) (List.countP_eq_zero.mp hnone _ hm)
    · rw [find?, if_neg hk]
      apply ih
      · exact Nat.le_trans (Nat.le_add_right _ _) ho
      · rcases List.mem_cons.mp h with heq | hm
        · cases heq
          exact absurd rfl hk
        · exact hm

theorem nullable_of_ne_null {α : Type} {read : Json → Option α} {j : Json} (hj : j ≠ .null) :
    nullable read j = (read j).map some := by
  cases j with
  | null => exact absurd rfl hj
  | _ => rfl

theorem items?_map {α β : Type} {read : Json → Option β} {f : α → Json} {g : α → β} {as : List α}
    (h : ∀ a ∈ as, read (f a) = some (g a)) : items? read (as.map f) = some (as.map g) := by
  induction as with
  | nil => rfl
  | cons a as ih =>
    obtain ⟨ha, has⟩ := List.forall_mem_cons.mp h
    simp [items?, ha, ih has]

end Json

/-- How a field stands among the cells of a record, with a value of at most `limit` levels. -/
inductive Stands (limit : Nat) (cells : List (String × Json)) : Slot Form → Prop
  | written {name : String} {presence : Presence} {form : Form} {j : Json} :
      Json.find? name cells = some j → Relaxes form j → j.depth ≤ limit →
      Stands limit cells ⟨name, presence, form⟩
  | missing {name : String} {presence : Presence} {form : Form} : presence ≠ .needed →
      Json.find? name cells = none → Stands limit cells ⟨name, presence, form⟩
  | null {name : String} {form : Form} : Json.find? name cells = some .null →
      Stands limit cells ⟨name, .spareOrNull, form⟩

theorem Keeps.name_mem {slots : List (Slot Form)} {kept : List (String × Json)} (h : Keeps slots kept) :
    ∀ f ∈ kept, ∃ s ∈ slots, s.name = f.1 := by
  induction slots generalizing kept with
  | nil =>
    cases h
    exact List.forall_mem_nil _
  | cons s slots ih =>
    have hlater : ∀ {kept : List (String × Json)}, Keeps slots kept →
        ∀ f ∈ kept, ∃ s' ∈ s :: slots, s'.name = f.1 := by
      intro kept hk f hf
      obtain ⟨s', hs', hn⟩ := ih hk f hf
      exact ⟨s', List.mem_cons_of_mem _ hs', hn⟩
    cases h with
    | keep _ hk => exact List.forall_mem_cons.mpr ⟨⟨_, List.mem_cons_self, rfl⟩, hlater hk⟩
    | leave _ hk => exact hlater hk
    | null hk => exact List.forall_mem_cons.mpr ⟨⟨_, List.mem_cons_self, rfl⟩, hlater hk⟩

theorem Keeps.occurrences_le {slots : List (Slot Form)} {kept : List (String × Json)}
    (h : Keeps slots kept) (hn : (slots.map (·.name)).Nodup) (name : String) :
    Json.occurrences name kept ≤ 1 := by
  induction slots generalizing kept with
  | nil =>
    cases h
    exact Nat.zero_le _
  | cons s slots ih =>
    rw [List.map_cons, List.nodup_cons] at hn
    -- the name of the first slot is that of no other, so none of the later fields has it
    have hfirst : ∀ {kept : List (String × Json)} {j : Json}, Keeps slots kept →
        Json.occurrences name ((s.name, j) :: kept) ≤ 1 := by
      intro kept j hk
      have hle := ih hk hn.2
      rw [Json.occurrences, List.countP_cons]
      by_cases hs : s.name = name
      · have hzero : List.countP (fun f : String × Json => f.1 == name) kept = 0 := by
          rw [List.countP_eq_zero]
          intro f hf hfn
          obtain ⟨s', hs', hsn⟩ := hk.name_mem f hf
          apply hn.1
          rw [hs, ← beq_iff_eq.mp hfn, ← hsn]
          exact List.mem_map_of_mem hs'
        rw [hzero]
        split <;> omega
      · rw [if_neg (by simpa using hs)]
        exact hle
    cases h with
    | keep _ hk => exact hfirst hk
    | leave _ hk => exact ih hk hn.2
    | null hk => exact hfirst hk

/-- A field of a record is kept, or left out because it holds its default. -/
theorem Keeps.field {slots : List (Slot Form)} {kept : List (String × Json)} (h : Keeps slots kept)
    (hn : (slots.map (·.name)).Nodup) {s : Slot Form} (hs : s ∈ slots) :
    (∃ j, (s.name, j) ∈ kept ∧ (Relaxes s.form j ∨ s.presence = .spareOrNull ∧ j = .null)) ∨
      s.presence ≠ .needed ∧ ∀ f ∈ kept, f.1 ≠ s.name := by
  induction slots generalizing kept with
  | nil => cases hs
  | cons t slots ih =>
    rw [List.map_cons, List.nodup_cons] at hn
    rcases List.mem_cons.mp hs with rfl | hmem
    · cases h with
      | keep hr _ => exact .inl ⟨_, List.mem_cons_self, .inl hr⟩
      | leave hp hk =>
        refine .inr ⟨hp, ?_⟩
        intro f hf heq
        obtain ⟨s', hs', hsn⟩ := hk.name_mem f hf
        apply hn.1
        rw [← heq, ← hsn]
        exact List.mem_map_of_mem hs'
      | null _ => exact .inl ⟨_, List.mem_cons_self, .inr ⟨rfl, rfl⟩⟩
    · have hne : t.name ≠ s.name := by
        intro heq
        apply hn.1
        rw [heq]
        exact List.mem_map_of_mem hmem
      have hlater : ∀ {kept : List (String × Json)} {i : Json}, Keeps slots kept →
          (∃ j, (s.name, j) ∈ (t.name, i) :: kept ∧
            (Relaxes s.form j ∨ s.presence = .spareOrNull ∧ j = .null)) ∨
          s.presence ≠ .needed ∧ ∀ f ∈ (t.name, i) :: kept, f.1 ≠ s.name := by
        intro kept i hk
        rcases ih hk hn.2 hmem with ⟨j, hm, hj⟩ | ⟨hp, hf⟩
        · exact .inl ⟨j, List.mem_cons_of_mem _ hm, hj⟩
        · exact .inr ⟨hp, List.forall_mem_cons.mpr ⟨hne, hf⟩⟩
      cases h with
      | keep _ hk => exact hlater hk
      | leave _ hk => exact ih hk hn.2 hmem
      | null hk => exact hlater hk

/-- A relaxed record can be opened: none of its fields is repeated, and each stands as its slot says. -/
theorem Relaxes.opened {slots : List (Slot Form)} {j : Json} {limit : Nat}
    (h : Relaxes (.record slots) j) (names : List String) (hnames : slots.map (·.name) = names)
    (hn : names.Nodup) (hd : j.depth ≤ limit + 1) :
    ∃ cells, j.row? names = some ⟨cells, false⟩ ∧ ∀ s ∈ slots, Stands limit cells s := by
  subst hnames
  cases h with
  | @record _ kept added fields hk hadded hp =>
    have hnone : ∀ s ∈ slots, Json.occurrences s.name added = 0 := by
      intro s hs
      rw [Json.occurrences, List.countP_eq_zero]
      intro f hf hfn
      exact hadded f hf s hs (beq_iff_eq.mp hfn)
    have honce : ∀ s ∈ slots, Json.occurrences s.name fields ≤ 1 := by
      intro s hs
      have hkept := hk.occurrences_le hn s.name
      have hzero := hnone s hs
      rw [Json.occurrences] at hkept hzero ⊢
      rw [hp.countP_eq, List.countP_append]
      omega
    refine ⟨fields, ?_, ?_⟩
    · rw [Json.row?, if_pos]
      rw [List.all_eq_true]
      intro name hname
      obtain ⟨s, hs, rfl⟩ := List.mem_map.mp hname
      exact decide_eq_true (honce s hs)
    · intro s hs
      rw [Json.depth] at hd
      rcases hk.field hn hs with ⟨i, hm, hi⟩ | ⟨hpres, hf⟩
      · have hmem : (s.name, i) ∈ fields := hp.mem_iff.mpr (List.mem_append_left _ hm)
        have hfind := Json.find?_of_mem (honce s hs) hmem
        obtain ⟨name, presence, form⟩ := s
        rcases hi with hr | ⟨rfl, rfl⟩
        · have hle := Json.depth_le_of_mem_fields hmem
          exact .written hfind hr (by omega)
        · exact .null hfind
      · refine .missing hpres (Json.find?_eq_none ?_)
        intro f hfm
        rcases List.mem_append.mp (hp.mem_iff.mp hfm) with hfm | hfm
        · exact hf f hfm
        · exact hadded f hfm s hs

/-- The tag of a relaxed variant is found wherever it stands, and what is behind it is relaxed too. -/
theorem Relaxes.untagged {kind : String} {slots : List (Slot Form)} {j : Json}
    (h : Relaxes (.tagged kind slots) j) (hn : ∀ s ∈ slots, s.name ≠ "type") (place : Json.Place)
    {kinds : List String} (hk : kind ∈ kinds) :
    ∃ body, j.tagged? place kinds = some (kind, body) ∧ Relaxes (.record slots) body ∧
      body.depth ≤ j.depth := by
  cases h with
  | @record _ kept added fields hkeeps hadded hp =>
    cases hkeeps with
    | leave hne _ => exact absurd rfl hne
    | keep hr hkeeps =>
      rename_i kept
      cases hr
      have hkept : ∀ f ∈ kept ++ added, f.1 ≠ "type" := by
        intro f hf
        rcases List.mem_append.mp hf with hf | hf
        · obtain ⟨s, hs, hsn⟩ := hkeeps.name_mem f hf
          rw [← hsn]
          exact hn s hs
        · exact hadded f hf _ List.mem_cons_self
      have htag : fields.filter (fun f => f.1 == "type") = [("type", .str kind)] := by
        have hperm := hp.filter (fun f => f.1 == "type")
        have hrest : (kept ++ added).filter (fun f => f.1 == "type") = [] := by
          rw [List.filter_eq_nil_iff]
          intro f hf
          simpa using hkept f hf
        rw [List.cons_append, List.filter_cons_of_pos (by rfl), hrest] at hperm
        exact List.perm_singleton.mp hperm
      have hbody : (fields.filter fun f => f.1 != "type").Perm (kept ++ added) := by
        have hperm := hp.filter (fun f => f.1 != "type")
        have hrest : (kept ++ added).filter (fun f => f.1 != "type") = kept ++ added := by
          rw [List.filter_eq_self]
          intro f hf
          simpa using hkept f hf
        rw [List.cons_append, List.filter_cons_of_neg (by simp), hrest] at hperm
        exact hperm
      refine ⟨.obj (fields.filter fun f => f.1 != "type"), ?_, ?_, ?_⟩
      · simp only [Json.tagged?, htag, Json.tag?, List.contains_iff_mem, hk, if_true, Option.map_some]
      · refine .record hkeeps ?_ hbody
        intro f hf s hs
        exact hadded f hf s (List.mem_cons_of_mem _ hs)
      · rw [Json.depth, Json.depth, Nat.add_le_add_iff_right, Json.depthFields_le_iff]
        intro f hf
        exact Json.depth_le_of_mem_fields ((List.mem_filter.mp hf).1)

/-- A reader takes every document of at most `limit` levels that stands for a form for this value. -/
def Reads {α : Type} (limit : Nat) (read : Json → Option α) (form : Form) (a : α) : Prop :=
  ∀ j, Relaxes form j → j.depth ≤ limit → read j = some a

section Reads

variable {α : Type} {limit : Nat} {read : Json → Option α} {a : α}

theorem reads_fixed {j : Json} (h : read j = some a) : Reads limit read (.fixed j) a := by
  intro i hi _
  cases hi
  exact h

theorem reads_list {forms : List Form} {as : List α} (h : List.Forall₂ (Reads limit read) forms as) :
    Reads limit (Json.list? read) (.list forms) as := by
  intro j hj hd
  cases hj with
  | @list _ items hall =>
    rw [Json.depth] at hd
    rw [Json.list?]
    have hitems : ∀ i ∈ items, i.depth ≤ limit := by
      intro i hi
      have hle := Json.depth_le_of_mem_items hi
      omega
    clear hd
    induction h generalizing items with
    | nil =>
      cases hall
      rfl
    | cons hfirst _ ih =>
      cases hall with
      | cons hi hall =>
        obtain ⟨hl, hls⟩ := List.forall_mem_cons.mp hitems
        simp [Json.items?, hfirst _ hi hl, ih hall hls]

/-- A field of which `null` is a value. -/
theorem reads_some {form : Form} (h : Reads limit read form a) (hnull : ¬Relaxes form .null) :
    Reads limit (Json.nullable read) form (some a) := by
  intro j hj hd
  have hne : j ≠ .null := by
    intro heq
    exact hnull (heq ▸ hj)
  rw [Json.nullable_of_ne_null hne, h j hj hd, Option.map_some]

theorem reads_none : Reads limit (Json.nullable read) (.fixed .null) none :=
  reads_fixed rfl

end Reads

namespace Stands

variable {α : Type} {limit : Nat} {cells : List (String × Json)} {positional : Bool} {name : String}
  {presence : Presence} {form : Form} {read : Json → Option α} {a : α}

theorem need (h : Stands limit cells ⟨name, .needed, form⟩) (hr : Reads limit read form a) :
    Json.Row.need ⟨cells, positional⟩ name read = some a := by
  cases h with
  | written hf hj hd =>
    rw [Json.Row.need, hf, Option.bind_some]
    exact hr _ hj hd
  | missing hp _ => exact absurd rfl hp

theorem orDefault {isDefault : Bool} {d : α}
    (h : Stands limit cells ⟨name, .spareIf isDefault, form⟩) (hr : Reads limit read form a)
    (hd : isDefault = true → a = d) : Json.Row.orDefault ⟨cells, positional⟩ name read d = some a := by
  generalize hp : Presence.spareIf isDefault = presence at h
  cases h with
  | written hf hj hle =>
    rw [Json.Row.orDefault, hf]
    exact hr _ hj hle
  | missing hne hf =>
    rw [Json.Row.orDefault, hf]
    cases isDefault with
    | true => rw [hd rfl]
    | false => exact absurd hp.symm hne
  | null hf => cases isDefault <;> cases hp

theorem maybe {isDefault : Bool} {a : Option α} (h : Stands limit cells ⟨name, .spareIf isDefault, form⟩)
    (hr : Reads limit (Json.nullable read) form a) (hd : isDefault = true → a = none) :
    Json.Row.maybe ⟨cells, positional⟩ name read = some a :=
  h.orDefault hr hd

end Stands

end Stencil
