import Mathlib.Data.List.Nodup
import Stencil.Proofs.Json.Relaxed

/-!
# Plain values of documents

A document may repeat a name in an object; a plain value has each name once, with what the document
says last, and in no particular order. `Merges j v` says that `v` is `j` as a plain value. A reader
of records refuses a repeated field that it knows and ignores the others, so what it takes from a
document it takes from its plain value (`Follows`).
-/

namespace Stencil.Json

set_option autoImplicit false

/-- The last field of that name. -/
def last? (name : String) : List (String × Json) → Option Json
  | [] => none
  | (k, j) :: fs => (last? name fs).or (if k = name then some j else none)

/-- A document and its plain value: in every object each name stands once, with the plain value of
its last field. -/
inductive Merges : Json → Json → Prop
  | null : Merges .null .null
  | bool (b : Bool) : Merges (.bool b) (.bool b)
  | num (n : Number) : Merges (.num n) (.num n)
  | str (s : String) : Merges (.str s) (.str s)
  | arr {items values : List Json} : List.Forall₂ Merges items values →
      Merges (.arr items) (.arr values)
  | obj {fields values : List (String × Json)} : (values.map Prod.fst).Nodup →
      (∀ name, hasField name values = hasField name fields) →
      (∀ name j v, last? name fields = some j → find? name values = some v → Merges j v) →
      Merges (.obj fields) (.obj values)

section Fields
variable {name : String} {fields : List (String × Json)}

theorem last?_isSome (name : String) (fields : List (String × Json)) :
    (last? name fields).isSome = hasField name fields := by
  induction fields with
  | nil => rfl
  | cons f fs ih =>
    obtain ⟨k, j⟩ := f
    have hcons : hasField name ((k, j) :: fs) = (k == name || hasField name fs) := rfl
    rw [last?, Option.isSome_or, ih, hcons, Bool.or_comm]
    by_cases h : k = name <;> simp [h]

theorem last?_eq_none (h : occurrences name fields = 0) : last? name fields = none := by
  have hnone : hasField name fields = false := by
    rw [hasField, List.any_eq_false]
    exact List.countP_eq_zero.mp h
  rw [← last?_isSome, Option.isSome_eq_false_iff] at hnone
  exact Option.isNone_iff_eq_none.mp hnone

/-- Of a name that is not repeated the first field is the last. -/
theorem find?_eq_last? (h : occurrences name fields ≤ 1) : find? name fields = last? name fields := by
  induction fields with
  | nil => rfl
  | cons f fs ih =>
    obtain ⟨k, j⟩ := f
    rw [occurrences, List.countP_cons] at h
    by_cases hk : k = name
    · subst hk
      rw [if_pos (beq_self_eq_true k)] at h
      have hnone : occurrences k fs = 0 := Nat.le_zero.mp (Nat.le_of_succ_le_succ h)
      rw [find?, last?, if_pos rfl, if_pos rfl, last?_eq_none hnone, Option.none_or]
    · rw [find?, last?, if_neg hk, if_neg hk, Option.or_none]
      exact ih (Nat.le_trans (Nat.le_add_right _ _) h)

theorem occurrences_le_one (h : (fields.map Prod.fst).Nodup) (name : String) :
    occurrences name fields ≤ 1 := by
  have hcount := List.nodup_iff_count_le_one.mp h name
  rwa [List.count, List.countP_map] at hcount

theorem mem_of_find? {j : Json} (h : find? name fields = some j) : (name, j) ∈ fields := by
  induction fields with
  | nil => cases h
  | cons f fs ih =>
    obtain ⟨k, i⟩ := f
    rw [find?] at h
    split at h
    · rename_i hk
      cases h
      exact hk ▸ List.mem_cons_self
    · exact List.mem_cons_of_mem _ (ih h)

theorem find?_filter_ne {other : String} (h : name ≠ other) :
    find? name (fields.filter fun f => f.1 != other) = find? name fields := by
  induction fields with
  | nil => rfl
  | cons f fs ih =>
    obtain ⟨k, j⟩ := f
    by_cases hk : k = other
    · subst hk
      simpa [find?, h.symm] using ih
    · simp [find?, hk, ih]

theorem last?_filter_ne {other : String} (h : name ≠ other) :
    last? name (fields.filter fun f => f.1 != other) = last? name fields := by
  induction fields with
  | nil => rfl
  | cons f fs ih =>
    obtain ⟨k, j⟩ := f
    by_cases hk : k = other
    · subst hk
      simpa [last?, h.symm] using ih
    · simp [last?, hk, ih]

theorem hasField_filter_self (other : String) (fields : List (String × Json)) :
    hasField other (fields.filter fun f => f.1 != other) = false := by
  simp [hasField]

end Fields

namespace Merges

section Object
variable {fields values : List (String × Json)}

/-- The field of a name that is not repeated stays. -/
theorem cell (h : Merges (.obj fields) (.obj values)) {name : String}
    (ho : occurrences name fields ≤ 1) : Option.Rel Merges (find? name fields) (find? name values) := by
  cases h with
  | obj hnodup hnames hcells =>
    have hname := hnames name
    rw [← find?_isSome, ← last?_isSome] at hname
    rw [find?_eq_last? ho]
    cases hl : last? name fields with
    | none =>
      rw [hl, Option.isSome_none, Option.isSome_eq_false_iff, Option.isNone_iff_eq_none] at hname
      rw [hname]
      exact .none
    | some j =>
      rw [hl] at hname
      obtain ⟨v, hv⟩ := Option.isSome_iff_exists.mp hname
      rw [hv]
      exact .some (hcells name j v hl hv)

theorem filter_eq_singleton (h : Merges (.obj fields) (.obj values)) {name : String} {v : Json}
    (hv : find? name values = some v) : values.filter (fun f => f.1 == name) = [(name, v)] := by
  cases h with
  | obj hnodup =>
    have hmem : (name, v) ∈ values.filter fun f => f.1 == name :=
      List.mem_filter.mpr ⟨mem_of_find? hv, beq_self_eq_true name⟩
    have hlen : (values.filter fun f => f.1 == name).length ≤ 1 := by
      rw [← List.countP_eq_length_filter]
      exact occurrences_le_one hnodup name
    have hone := Nat.le_antisymm hlen (List.length_pos_of_mem hmem)
    obtain ⟨f, hf⟩ := List.length_eq_one_iff.mp hone
    rw [hf, List.mem_singleton] at hmem
    rw [hf, hmem]

/-- What remains without the fields of one name. -/
theorem without (h : Merges (.obj fields) (.obj values)) (other : String) :
    Merges (.obj (fields.filter fun f => f.1 != other))
      (.obj (values.filter fun f => f.1 != other)) := by
  cases h with
  | obj hnodup hnames hcells =>
    constructor
    · exact hnodup.sublist (List.filter_sublist.map _)
    · intro name
      by_cases hne : name = other
      · rw [hne, hasField_filter_self, hasField_filter_self]
      · rw [← find?_isSome, find?_filter_ne hne, ← last?_isSome, last?_filter_ne hne, find?_isSome,
          last?_isSome, hnames]
    · intro name j v hl hf
      by_cases hne : name = other
      · subst hne
        have hnone := hasField_filter_self name values
        rw [← find?_isSome, hf] at hnone
        cases hnone
      · rw [last?_filter_ne hne] at hl
        rw [find?_filter_ne hne] at hf
        exact hcells name j v hl hf

end Object

theorem ne_null {j v : Json} (h : Merges j v) (hj : j ≠ .null) : v ≠ .null := by
  rintro rfl
  cases h
  exact hj rfl

end Merges

theorem depth_pos (v : Json) : 0 < v.depth := by
  cases v <;> simp [depth]

theorem nodup_lastWinsFields (fields : List (String × Json)) :
    ((lastWinsFields fields).map Prod.fst).Nodup := by
  induction fields with
  | nil => exact List.nodup_nil
  | cons f fs ih =>
    obtain ⟨k, j⟩ := f
    rw [lastWinsFields]
    split
    · exact ih
    · rename_i hk
      rw [List.map_cons, List.nodup_cons]
      refine ⟨fun hm => hk ?_, ih⟩
      obtain ⟨f, hf, hfk⟩ := List.mem_map.mp hm
      rw [← hasField_lastWinsFields]
      exact List.any_eq_true.mpr ⟨f, hf, beq_iff_eq.mpr hfk⟩

theorem find?_lastWinsFields (name : String) (fields : List (String × Json)) :
    find? name (lastWinsFields fields) = (last? name fields).map lastWins := by
  induction fields with
  | nil => rfl
  | cons f fs ih =>
    obtain ⟨k, j⟩ := f
    have hsome := last?_isSome name fs
    rw [lastWinsFields, last?]
    by_cases hk : k = name
    · subst hk
      cases hl : last? k fs with
      | none =>
        rw [hl] at hsome
        rw [if_neg (by simp [← hsome]), find?, if_pos rfl, if_pos rfl]
        rfl
      | some i =>
        rw [hl, Option.isSome_some] at hsome
        rw [hl] at ih
        rw [if_pos hsome.symm, ih, Option.some_or]
    · rw [if_neg hk, Option.or_none]
      split
      · exact ih
      · rw [find?, if_neg hk, ih]

/-- The fields of these names stay when a document is merged, none of them deeper than `limit`. Of
another name the first field may well be dropped. -/
def Row.Merged (names : List String) (limit : Nat) (r r' : Row) : Prop :=
  ∀ name ∈ names, Option.Rel (fun j v => Merges j v ∧ v.depth ≤ limit) (find? name r.cells)
    (find? name r'.cells)

theorem find?_zip_rel {limit : Nat} {items values : List Json} (h : List.Forall₂ Merges items values)
    (hd : depthItems values ≤ limit) (name : String) (names : List String) :
    Option.Rel (fun j v => Merges j v ∧ v.depth ≤ limit) (find? name (names.zip items))
      (find? name (names.zip values)) := by
  induction h generalizing names with
  | nil =>
    rw [List.zip_nil_right, find?]
    exact .none
  | cons hm _ ih =>
    rw [depthItems, Nat.max_le] at hd
    cases names with
    | nil => exact .none
    | cons n names =>
      rw [List.zip_cons_cons, List.zip_cons_cons, find?, find?]
      split
      · exact .some ⟨hm, hd.1⟩
      · exact ih hd.2 names

theorem Merges.row {names : List String} {limit : Nat} {j v : Json} {r : Row} (h : Merges j v)
    (hd : v.depth ≤ limit + 1) (hr : j.row? names = some r) :
    ∃ r', v.row? names = some r' ∧ r.Merged names limit r' := by
  cases h with
  | @arr items values hitems =>
    rw [depth] at hd
    rw [row?] at hr ⊢
    rw [hitems.length_eq] at hr
    split at hr
    · rename_i hlen
      cases hr
      rw [if_pos hlen]
      exact ⟨_, rfl, fun name _ => find?_zip_rel hitems (Nat.le_of_succ_le_succ hd) name names⟩
    · cases hr
  | @obj fields values hnodup hnames hcells =>
    rw [depth] at hd
    rw [row?] at hr ⊢
    split at hr
    · rename_i hone
      cases hr
      rw [if_pos (by simp [occurrences_le_one hnodup])]
      refine ⟨_, rfl, fun name hn => ?_⟩
      have ho : occurrences name fields ≤ 1 := of_decide_eq_true (List.all_eq_true.mp hone name hn)
      have hcell := (Merges.obj hnodup hnames hcells).cell ho
      change Option.Rel _ (find? name fields) (find? name values)
      generalize find? name fields = cell, hv : find? name values = cell' at hcell ⊢
      cases hcell with
      | none => exact .none
      | some hm =>
        have hle := depth_le_of_mem_fields (mem_of_find? hv)
        exact .some ⟨hm, by omega⟩
    · cases hr
  | _ => cases hr

section Kept
variable {α β : Type}

/-- A result that the second of two readings has as well. -/
def Kept (x y : Option α) : Prop := ∀ a, x = some a → y = some a

theorem Kept.refl (x : Option α) : Kept x x := fun _ h => h

theorem Kept.none (y : Option α) : Kept none y := fun _ h => by cases h

theorem Kept.bind {x y : Option α} {f g : α → Option β} (h : Kept x y) (hf : ∀ a, Kept (f a) (g a)) :
    Kept (x >>= f) (y >>= g) := by
  intro b hb
  obtain ⟨a, ha, hb⟩ := Option.bind_eq_some_iff.mp hb
  exact Option.bind_eq_some_iff.mpr ⟨a, h a ha, hf a b hb⟩

theorem Kept.map {x y : Option α} (h : Kept x y) (f : α → β) : Kept (x.map f) (y.map f) := by
  rw [Option.map_eq_bind, Option.map_eq_bind]
  exact h.bind fun a => .refl _

/-- What the first reader takes from a document, the second takes from its plain value, if this has
at most `limit` levels. -/
def Follows (limit : Nat) (read read' : Json → Option α) : Prop :=
  ∀ j v, Merges j v → v.depth ≤ limit → Kept (read j) (read' v)

variable {limit : Nat} {read read' : Json → Option α}

theorem Follows.mono (h : Follows (limit + 1) read read') : Follows limit read read' :=
  fun j v hm hd => h j v hm (Nat.le_succ_of_le hd)

theorem Follows.map (h : Follows limit read read') (f : α → β) :
    Follows limit (fun j => (read j).map f) (fun v => (read' v).map f) :=
  fun j v hm hd => (h j v hm hd).map f

/-- A reader that takes nothing but one scalar. -/
theorem Follows.scalar {read : Json → Option α} (harr : ∀ items, read (.arr items) = none)
    (hobj : ∀ fields, read (.obj fields) = none) : Follows limit read read := by
  intro j v hm _
  cases hm with
  | arr =>
    rw [harr]
    exact .none _
  | obj =>
    rw [hobj]
    exact .none _
  | _ => exact .refl _

theorem follows_str? : Follows limit str? str? := .scalar (fun _ => rfl) fun _ => rfl
theorem follows_bool? : Follows limit bool? bool? := .scalar (fun _ => rfl) fun _ => rfl
theorem follows_num? : Follows limit num? num? := .scalar (fun _ => rfl) fun _ => rfl
theorem follows_word? : Follows limit word? word? := .scalar (fun _ => rfl) fun _ => rfl

theorem Follows.nullable (h : Follows limit read read') :
    Follows limit (nullable read) (nullable read') := by
  intro j v hm hd
  by_cases hj : j = .null
  · subst hj
    cases hm
    exact .refl _
  · rw [nullable_of_ne_null hj, nullable_of_ne_null (hm.ne_null hj)]
    exact (h j v hm hd).map some

theorem kept_items? (h : Follows limit read read') {items values : List Json}
    (hm : List.Forall₂ Merges items values) (hd : depthItems values ≤ limit) :
    Kept (items? read items) (items? read' values) := by
  induction hm with
  | nil => exact .refl _
  | cons hj _ ih =>
    rw [depthItems, Nat.max_le] at hd
    rw [items?, items?]
    exact (h _ _ hj hd.1).bind fun a => (ih hd.2).bind fun as => .refl _

theorem Follows.list? (h : Follows limit read read') : Follows limit (list? read) (list? read') := by
  intro j v hm hd
  cases hm with
  | arr hitems =>
    rw [depth] at hd
    exact kept_items? h hitems (Nat.le_of_succ_le hd)
  | _ => exact .none _

/-- A record and its plain value have the same cells, one level less deep. -/
theorem Follows.record {names : List String} {f f' : Row → Option α}
    (h : ∀ r r', r.Merged names limit r' → Kept (f r) (f' r')) :
    Follows (limit + 1) (fun j => j.row? names >>= f) (fun v => v.row? names >>= f') := by
  intro j v hm hd a ha
  obtain ⟨r, hr, ha⟩ := Option.bind_eq_some_iff.mp ha
  obtain ⟨r', hr', hmerged⟩ := hm.row hd hr
  exact Option.bind_eq_some_iff.mpr ⟨r', hr', h r r' hmerged a ha⟩

namespace Row.Merged

variable {names : List String} {r r' : Row} {name : String}

theorem need (h : r.Merged names limit r') (hn : name ∈ names) (hr : Follows limit read read') :
    Kept (r.need name read) (r'.need name read') := by
  have hcell := h name hn
  unfold Row.need
  generalize find? name r.cells = cell, find? name r'.cells = cell' at hcell ⊢
  cases hcell with
  | none => exact .refl _
  | some hm => exact hr _ _ hm.1 hm.2

theorem orDefault (h : r.Merged names limit r') (hn : name ∈ names) (hr : Follows limit read read')
    (d : α) : Kept (r.orDefault name read d) (r'.orDefault name read' d) := by
  have hcell := h name hn
  unfold Row.orDefault
  generalize find? name r.cells = cell, find? name r'.cells = cell' at hcell ⊢
  cases hcell with
  | none => exact .refl _
  | some hm => exact hr _ _ hm.1 hm.2

theorem maybe (h : r.Merged names limit r') (hn : name ∈ names) (hr : Follows limit read read') :
    Kept (r.maybe name read) (r'.maybe name read') :=
  h.orDefault hn hr.nullable none

end Row.Merged

end Kept

section Tagged
variable {place : Place} {names : List String} {kind : String}

theorem follows_tag? {limit : Nat} : Follows limit (tag? place names) (tag? place names) :=
  .scalar (fun _ => rfl) fun _ => rfl

theorem depth_filter_le (p : String × Json → Bool) (fields : List (String × Json)) :
    (Json.obj (fields.filter p)).depth ≤ (Json.obj fields).depth := by
  rw [depth, depth]
  refine Nat.succ_le_succ (depthFields_le_iff.mpr fun f hf => ?_)
  exact depth_le_of_mem_fields (List.mem_filter.mp hf).1

/-- The tag of an object is the only field of its name, in the document and in its plain value. -/
theorem Merges.tagged_obj {fields values : List (String × Json)} {body : Json}
    (h : Merges (.obj fields) (.obj values))
    (ht : (Json.obj fields).tagged? place names = some (kind, body)) :
    ∃ body', (Json.obj values).tagged? place names = some (kind, body') ∧ Merges body body' ∧
      body'.depth ≤ (Json.obj values).depth := by
  rw [tagged?] at ht
  split at ht
  · rename_i k t hfilter
    obtain ⟨tag, htag, hpair⟩ := Option.map_eq_some_iff.mp ht
    cases hpair
    have hone : occurrences "type" fields = 1 := by
      rw [occurrences, List.countP_eq_length_filter, hfilter, List.length_singleton]
    have hmem := List.mem_filter.mp (hfilter ▸ List.mem_singleton_self (k, t))
    have hk : k = "type" := beq_iff_eq.mp hmem.2
    have hcell := h.cell (Nat.le_of_eq hone)
    rw [find?_of_mem (Nat.le_of_eq hone) (hk ▸ hmem.1)] at hcell
    generalize hv : find? "type" values = cell at hcell
    cases hcell with
    | some hm =>
      have htag' := follows_tag? _ _ hm (Nat.le_refl _) _ htag
      rw [tagged?, h.filter_eq_singleton hv]
      exact ⟨_, congrArg (Option.map _) htag', h.without "type", depth_filter_le _ values⟩
  · cases ht

/-- The variant of a union, and the plain value of the record behind its tag. -/
theorem Merges.tagged {j v body : Json} (h : Merges j v)
    (ht : j.tagged? place names = some (kind, body)) :
    ∃ body', v.tagged? place names = some (kind, body') ∧ Merges body body' ∧
      body'.depth ≤ v.depth := by
  cases h with
  | obj hnodup hnames hcells => exact (Merges.obj hnodup hnames hcells).tagged_obj ht
  | arr hitems =>
    cases hitems with
    | nil => cases ht
    | cons hm hrest =>
      rw [tagged?] at ht
      obtain ⟨tag, htag, hpair⟩ := Option.map_eq_some_iff.mp ht
      cases hpair
      have htag' := follows_tag? _ _ hm (Nat.le_refl _) _ htag
      rw [tagged?]
      refine ⟨_, congrArg (Option.map _) htag', .arr hrest, ?_⟩
      rw [depth, depth, depthItems]
      exact Nat.succ_le_succ (Nat.le_max_right _ _)
  | _ => cases ht

theorem Follows.tagged {α : Type} {limit : Nat} {f f' : String → Json → Option α}
    (h : ∀ kind, Follows limit (f kind) (f' kind)) :
    Follows limit (fun j => j.tagged? place names >>= fun (kind, body) => f kind body)
      (fun v => v.tagged? place names >>= fun (kind, body) => f' kind body) := by
  intro j v hm hd a ha
  obtain ⟨⟨kind, body⟩, ht, ha⟩ := Option.bind_eq_some_iff.mp ha
  obtain ⟨body', ht', hbody, hle⟩ := hm.tagged ht
  refine Option.bind_eq_some_iff.mpr ⟨(kind, body'), ht', ?_⟩
  exact h kind body body' hbody (Nat.le_trans hle hd) a ha

end Tagged

mutual
/-- Keeping the last field of every name gives a plain value. -/
theorem merges_lastWins : (j : Json) → Merges j j.lastWins
  | .null => .null
  | .bool b => .bool b
  | .num n => .num n
  | .str s => .str s
  | .arr items => .arr (merges_lastWinsItems items)
  | .obj fields => by
    refine .obj (nodup_lastWinsFields fields) (fun name => hasField_lastWinsFields name fields) ?_
    intro name j v hl hf
    rw [find?_lastWinsFields, hl] at hf
    cases hf
    exact merges_last fields name j hl
theorem merges_lastWinsItems : (items : List Json) → List.Forall₂ Merges items (lastWinsItems items)
  | [] => .nil
  | j :: js => .cons (merges_lastWins j) (merges_lastWinsItems js)
theorem merges_last : (fields : List (String × Json)) → (name : String) → (j : Json) →
    last? name fields = some j → Merges j j.lastWins
  | [], _, _, h => by cases h
  | (k, i) :: fs, name, j, h => by
    rw [last?] at h
    rcases Option.or_eq_some_iff.mp h with h | ⟨-, h⟩
    · exact merges_last fs name j h
    · split at h
      · cases h
        exact merges_lastWins i
      · cases h
end

end Stencil.Json
