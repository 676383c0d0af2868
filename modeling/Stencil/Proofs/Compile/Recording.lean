import Stencil.Proofs.Compile.Translation

/-!
# Recording helpers

Recording a helper does one of three things, and `HelperTable.record_cases` names them. From it
follows when a run of recordings succeeds, and what the table holds then.
-/

namespace Stencil

set_option autoImplicit false

/-- A known helper stays as it is, a new one is added with the answer of the resolver, and one that
the resolver fails on is not added. -/
theorem HelperTable.record_cases (t : HelperTable) (name : String) (resolve : Resolver) :
    (name ∈ t.names ∧ t.record name resolve = ⟨.ok (t.source? name), t, []⟩) ∨
    (name ∉ t.names ∧ ∃ cause, resolve name = .error cause ∧
      t.record name resolve = ⟨.error cause, t, [name]⟩) ∨
    (name ∉ t.names ∧ ∃ source, resolve name = .ok source ∧ t.record name resolve =
      ⟨.ok (nonEmpty source), ⟨t.entries ++ [(name, nonEmpty source)]⟩, [name]⟩) := by
  by_cases h : t.contains name = true
  · exact Or.inl ⟨(t.contains_iff name).mp h, t.record_of_contains name resolve h⟩
  · have hn : name ∉ t.names := fun hm => h ((t.contains_iff name).mpr hm)
    rw [Bool.not_eq_true] at h
    cases hr : resolve name with
    | error cause => exact Or.inr (Or.inl ⟨hn, cause, rfl, by simp [record, h, hr]⟩)
    | ok source => exact Or.inr (Or.inr ⟨hn, source, rfl, by simp [record, h, hr]⟩)

theorem HelperTable.mem_imports_iff (t : HelperTable) (name source : String) :
    (name, source) ∈ t.imports ↔ (name, some source) ∈ t.entries := by
  rw [HelperTable.imports, List.mem_filterMap]
  constructor
  · rintro ⟨⟨n, answer⟩, he, heq⟩
    obtain ⟨s, rfl, hpair⟩ := Option.map_eq_some_iff.mp heq
    cases hpair
    exact he
  · intro he
    exact ⟨_, he, rfl⟩

theorem HelperTable.mem_names_of_mem_imports {t : HelperTable} {name source : String}
    (h : (name, source) ∈ t.imports) : name ∈ t.names :=
  List.mem_map.mpr ⟨_, (t.mem_imports_iff name source).mp h, rfl⟩

theorem HelperTable.nodup_record {t : HelperTable} (h : t.names.Nodup) (name : String)
    (resolve : Resolver) : (t.record name resolve).table.names.Nodup := by
  rcases t.record_cases name resolve with ⟨_, hr⟩ | ⟨_, cause, _, hr⟩ | ⟨hn, source, _, hr⟩
  · rw [hr]
    exact h
  · rw [hr]
    exact h
  · have hnames : (t.record name resolve).table.names = t.names ++ [name] := by
      simp [hr, names]
    rw [hnames, List.nodup_append]
    refine ⟨h, List.nodup_cons.mpr ⟨List.not_mem_nil, List.nodup_nil⟩, ?_⟩
    intro n hm n' hm' heq
    rw [heq, List.mem_singleton.mp hm'] at hm
    exact hn hm

/-- A new name comes first, and behind it those that are neither known nor this one. -/
theorem eraseDups_filter_new {known : List String} {name : String} (h : name ∉ known)
    (names : List String) : ((name :: names).filter fun n => decide (n ∉ known)).eraseDups =
      name :: (names.filter fun n => decide (n ∉ known ++ [name])).eraseDups := by
  have hfilter : (names.filter fun n => decide (n ∉ known ++ [name])) =
      (names.filter fun n => decide (n ∉ known)).filter fun n => !n == name := by
    rw [List.filter_filter]
    congr 1
    funext n
    by_cases hn : n = name <;> simp [hn]
  rw [hfilter]
  simp [h, List.eraseDups_cons]

namespace Compiling

variable {α : Type} {s : Settings}

/-- A helper that is known already or that the resolver answers for. -/
def Recordable (s : Settings) (g : Gathered) (name : String) : Prop :=
  name ∈ g.helpers.names ∨ ∃ source, s.resolve name = .ok source

theorem after_record_of_recordable {name : String} {g : Gathered} (hr : Recordable s g name) :
    after (record s name) g = (.ok (), g.recorded name s.resolve) := by
  rcases g.helpers.record_cases name s.resolve with ⟨_, h⟩ | ⟨hn, cause, he, _⟩ | ⟨_, source, _, h⟩
  · exact after_record_ok (by rw [h])
  · rcases hr with hm | ⟨source, hok⟩
    · exact absurd hm hn
    · rw [he] at hok
      cases hok
  · exact after_record_ok (by rw [h])

theorem recordable_of_after_record {name : String} {g g' : Gathered}
    (hok : after (record s name) g = (.ok (), g')) : Recordable s g name := by
  rcases g.helpers.record_cases name s.resolve with ⟨hn, _⟩ | ⟨_, cause, _, h⟩ | ⟨_, source, hr, _⟩
  · exact Or.inl hn
  · rw [after_record_error (by rw [h])] at hok
    cases hok
  · exact Or.inr ⟨source, hr⟩

theorem mem_names_recorded {name : String} {g : Gathered} (hr : Recordable s g name) (n : String) :
    n ∈ (g.recorded name s.resolve).helpers.names ↔ n ∈ g.helpers.names ∨ n = name := by
  unfold Gathered.recorded
  rcases g.helpers.record_cases name s.resolve with ⟨hn, h⟩ | ⟨hn, cause, he, _⟩ | ⟨_, source, _, h⟩
  · rw [h]
    refine ⟨Or.inl, ?_⟩
    rintro (hm | rfl)
    · exact hm
    · exact hn
  · rcases hr with hm | ⟨source, hok⟩
    · exact absurd hm hn
    · rw [he] at hok
      cases hok
  · rw [h]
    simp [HelperTable.names]

/-- More helpers are recordable after one was recorded, and no other ones. -/
theorem recordable_recorded {name n : String} {g : Gathered} (hr : Recordable s g name) :
    Recordable s (g.recorded name s.resolve) n ↔ Recordable s g n := by
  unfold Recordable
  rw [mem_names_recorded hr]
  constructor
  · rintro ((hm | rfl) | hok)
    · exact Or.inl hm
    · exact hr
    · exact Or.inr hok
  · rintro (hm | hok)
    · exact Or.inl (Or.inl hm)
    · exact Or.inr hok

theorem after_recording_cons {name : String} {names : List String} {a : α} {g : Gathered}
    (hr : Recordable s g name) : after (recording s (name :: names) a) g =
      after (recording s names a) (g.recorded name s.resolve) := by
  rw [← record_bind_recording, after_bind_ok (after_record_of_recordable hr)]

/-- A run of recordings succeeds if all its helpers are recordable. Then the table has their names
besides, and nothing was reported. -/
theorem after_recording_of_recordable {names : List String} {g : Gathered} (a : α)
    (h : ∀ name ∈ names, Recordable s g name) :
    ∃ g', after (recording s names a) g = (.ok a, g') ∧ g'.report = g.report ∧
      ∀ n, n ∈ g'.helpers.names ↔ n ∈ g.helpers.names ∨ n ∈ names := by
  induction names generalizing g with
  | nil => exact ⟨g, by simp, rfl, by simp⟩
  | cons name names ih =>
    have hr := h name List.mem_cons_self
    obtain ⟨g', hafter, hreport, hnames⟩ := ih (g := g.recorded name s.resolve) fun n hn =>
      (recordable_recorded hr).mpr (h n (List.mem_cons_of_mem _ hn))
    refine ⟨g', by rw [after_recording_cons hr, hafter], hreport, fun n => ?_⟩
    rw [hnames, mem_names_recorded hr, List.mem_cons, or_assoc]

theorem recordable_of_after_recording {names : List String} {a b : α} {g g' : Gathered}
    (h : after (recording s names a) g = (.ok b, g')) : ∀ name ∈ names, Recordable s g name := by
  induction names generalizing g with
  | nil => exact fun _ hn => absurd hn List.not_mem_nil
  | cons name names ih =>
    have hr : Recordable s g name := by
      rw [← record_bind_recording] at h
      rcases hx : after (record s name) g with ⟨e | u, g₁⟩
      · rw [after_bind_error hx] at h
        cases h
      · exact recordable_of_after_record hx
    rw [after_recording_cons hr] at h
    intro n hn
    rcases List.mem_cons.mp hn with rfl | hn
    · exact hr
    · exact (recordable_recorded hr).mp (ih h n hn)

end Compiling

end Stencil
