import Stencil.Proofs.Compile.Recording
import Stencil.Template.Build

/-!
# What strict options accept

A step passes if it can succeed at all. With strict options a step of the pass that passes saw a
supported statement, whatever was gathered before. Together with the translation of supported
statements this makes acceptance a grammar, up to failures of the resolver
(`compile_strict_accepts_iff`).
-/

namespace Stencil

set_option autoImplicit false

open Template (Node Path Call Mustache HashPair Location)

namespace Compiling

variable {α β : Type}

/-- From something gathered, the step succeeds. -/
def Passes (x : Compiling α) : Prop := ∃ g a g', after x g = (.ok a, g')

theorem not_passes_throw (e : CompileError) : ¬ Passes (throw e : Compiling α) := by
  rintro ⟨g, a, g', h⟩
  cases h

theorem not_passes_unsupported (c : Construct) (loc : Option Location) :
    ¬ Passes (unsupported c loc : Compiling α) := not_passes_throw _

theorem Passes.of_bind {x : Compiling α} {f : α → Compiling β} (h : Passes (x >>= f)) :
    Passes x ∧ ∃ a, Passes (f a) := by
  obtain ⟨g, b, g', h⟩ := h
  rcases hx : after x g with ⟨e | a, g₁⟩
  · rw [after_bind_error hx] at h
    cases h
  · rw [after_bind_ok hx] at h
    exact ⟨⟨g, a, g₁, hx⟩, a, g₁, b, g', h⟩

theorem Passes.of_map {x : Compiling α} {f : α → β} (h : Passes (f <$> x)) : Passes x := by
  rw [map_eq_pure_bind] at h
  exact h.of_bind.1

theorem reached_of_passes {scope : Nat} {p : Path} (h : Passes (path scope p)) :
    Reached scope p := by
  unfold path at h
  split at h
  · exact absurd h (not_passes_unsupported _ _)
  · rename_i hdata
    split at h
    · rename_i hlt
      exact ⟨by simpa using hdata, hlt⟩
    · exact absurd h (not_passes_throw _)

theorem supportedValue_of_passes {scope : Nat} {e : Template.Expr} (h : Passes (value scope e)) :
    SupportedValue scope e := by
  cases e with
  | path p => exact reached_of_passes h
  | sub => exact absurd h (not_passes_unsupported _ _)
  | _ => trivial

theorem plainName?_of_passes {e : Template.Expr} {loc : Option Location}
    (h : Passes (helperName e loc)) : ∃ name, e.plainName? = some name := by
  unfold helperName at h
  split at h
  · exact ⟨_, rfl⟩
  · exact absurd h (not_passes_unsupported _ _)
  · exact absurd h (not_passes_unsupported _ _)

section Strict
variable {s : Settings} (hs : s.options.strict = true)
include hs

theorem not_passes_ignore (c : Construct) (loc : Option Location) : ¬ Passes (ignore s c loc) := by
  rw [ignore_strict hs]
  exact not_passes_unsupported c loc

theorem params_eq_nil_of_passes {callee : String} {params : List Template.Expr}
    {loc : Option Location} (h : Passes (checkParams s callee params loc)) : params = [] := by
  cases params with
  | nil => rfl
  | cons p ps => exact absurd h (not_passes_ignore hs _ _)

theorem named_eq_nil_of_passes {callee : String} {call : Call}
    (h : Passes (checkHash s callee call.hash)) : call.named = [] := by
  unfold Call.named
  cases hh : call.hash with
  | none => rfl
  | some hash =>
    rw [hh] at h
    simp only [checkHash] at h
    split at h
    · rename_i hempty
      exact List.isEmpty_iff.mp hempty
    · exact absurd h (not_passes_ignore hs _ _)

theorem blockParams_eq_nil_of_passes {names : List String} {loc : Option Location}
    (h : Passes (checkBlockParams s names loc)) : names = [] := by
  unfold checkBlockParams at h
  split at h
  · rename_i hempty
    exact List.isEmpty_iff.mp hempty
  · exact absurd h (not_passes_ignore hs _ _)

theorem supportedValues_of_passes {scope : Nat} {pairs : List (HashPair Template.Expr)}
    (h : Passes (properties s scope pairs)) : ∀ pair ∈ pairs, SupportedValue scope pair.value := by
  induction pairs with
  | nil => exact fun _ hp => absurd hp List.not_mem_nil
  | cons q pairs ih =>
    rw [properties, tolerate_strict hs] at h
    obtain ⟨hq, _, h⟩ := h.of_bind
    intro pair hp
    rcases List.mem_cons.mp hp with rfl | hp
    · exact supportedValue_of_passes hq.of_map
    · exact ih h.of_bind.1 pair hp

theorem callable_of_passes {scope : Nat} {name : String} {call : Call} {loc : Option Location}
    (h : Passes (arguments s scope name call loc)) :
    Callable s.options name ∧ call.params = [] ∧
      ∀ pair ∈ call.named, SupportedValue scope pair.value := by
  by_cases hc : Callable s.options name
  · rw [arguments_of_callable hc] at h
    obtain ⟨_, _, h⟩ := h.of_bind
    obtain ⟨hparams, _, h⟩ := h.of_bind
    exact ⟨hc, params_eq_nil_of_passes hs hparams, supportedValues_of_passes hs h⟩
  · rw [arguments_of_not_callable hc] at h
    exact absurd h (not_passes_unsupported _ _)

theorem supported_mustache_of_passes {scope : Nat} {m : Mustache}
    (h : Passes (mustache s scope m)) : Supported s.options scope (.mustache m) := by
  by_cases hnamed : m.call.named = []
  · rw [mustache_of_named_eq_nil hnamed] at h
    unfold interpolation at h
    split at h
    · rename_i p hpath
      obtain ⟨hparams, _, h⟩ := h.of_bind
      exact .interpolation hnamed hpath (reached_of_passes h.of_bind.1)
        (params_eq_nil_of_passes hs hparams)
    · exact absurd h (not_passes_unsupported _ _)
  · rw [mustache_of_named_ne_nil hnamed] at h
    unfold mustacheCall at h
    obtain ⟨name, hname⟩ := plainName?_of_passes h.of_bind.1
    rw [helperName_of_plainName? hname, pure_bind] at h
    split at h
    · exact absurd h.of_bind.1 (not_passes_throw _)
    rename_i hcond
    obtain ⟨hc, hparams, hv⟩ := callable_of_passes hs h.of_bind.1
    exact .call hnamed hname (by simpa using hcond) hc hparams hv

theorem test_of_passes {scope : Nat} {name : String} {call : Call} {loc : Option Location}
    (h : Passes (Compiling.test s scope name call loc)) :
    ∃ t, call.params = [t] ∧ SupportedValue scope t ∧ call.named = [] := by
  unfold Compiling.test at h
  split at h
  · exact absurd h (not_passes_throw _)
  rename_i condition extra hparams
  obtain ⟨hextra, _, h⟩ := h.of_bind
  obtain ⟨hhash, _, h⟩ := h.of_bind
  rw [tolerate_strict hs] at h
  have hnil := params_eq_nil_of_passes hs hextra
  exact ⟨condition, by rw [hparams, hnil], supportedValue_of_passes h.of_map,
    named_eq_nil_of_passes hs hhash⟩

theorem supported_nodes_of_passes {scope : Nat} {ns : List Node}
    (ih : ∀ n ∈ ns, Passes (node s scope n) → Supported s.options scope n)
    (h : Passes (nodes s scope ns)) : ∀ n ∈ ns, Supported s.options scope n := by
  induction ns with
  | nil => exact fun _ hn => absurd hn List.not_mem_nil
  | cons n ns ihl =>
    rw [nodes, tolerate_strict hs] at h
    obtain ⟨hn, _, h⟩ := h.of_bind
    intro m hm
    rcases List.mem_cons.mp hm with rfl | hm
    · exact ih m List.mem_cons_self hn.of_map
    · exact ihl (fun k hk => ih k (List.mem_cons_of_mem _ hk)) h.of_bind.1 m hm

theorem supported_branch_of_passes {scope : Nat} {b : Option (Template.Program Node)}
    (ih : ∀ p ∈ b, ∀ n ∈ p.body, Passes (node s scope n) → Supported s.options scope n)
    (h : Passes (branch s scope b)) :
    (∀ p ∈ b, p.blockParams = []) ∧ ∀ p ∈ b, ∀ n ∈ p.body, Supported s.options scope n := by
  cases b with
  | none => exact ⟨fun _ hp => (by cases hp), fun _ hp => (by cases hp)⟩
  | some p =>
    obtain ⟨ns, names, loc⟩ := p
    rw [branch] at h
    obtain ⟨hnames, _, h⟩ := h.of_bind
    have hns := supported_nodes_of_passes hs (ih _ rfl) h.of_bind.1
    constructor
    · rintro _ ⟨⟩
      exact blockParams_eq_nil_of_passes hs hnames
    · rintro _ ⟨⟩
      exact hns

theorem supported_body_of_passes {scope : Nat} {key : String} {b : Option (Template.Program Node)}
    (ih : ∀ p ∈ b, ∀ n ∈ p.body, Passes (node s (scope + 1) n) → Supported s.options (scope + 1) n)
    (h : Passes (body s scope key b)) :
    (∀ p ∈ b, p.body ≠ [] → p.blockParams = []) ∧
      ∀ p ∈ b, ∀ n ∈ p.body, Supported s.options (scope + 1) n := by
  cases b with
  | none => exact ⟨fun _ hp => (by cases hp), fun _ hp => (by cases hp)⟩
  | some p =>
    obtain ⟨ns, names, loc⟩ := p
    cases ns with
    | nil =>
      constructor
      · rintro _ ⟨⟩ hne
        exact absurd rfl hne
      · rintro _ ⟨⟩ n hn
        cases hn
    | cons n ns =>
      rw [body] at h
      obtain ⟨hnames, _, h⟩ := h.of_bind
      have hns := supported_nodes_of_passes hs (ih _ rfl) h.of_bind.1
      constructor
      · rintro _ ⟨⟩ _
        exact blockParams_eq_nil_of_passes hs hnames
      · rintro _ ⟨⟩
        exact hns

/-- With strict options a statement that is not supported fails, whatever was gathered before. -/
theorem supported_of_passes {n : Node} {scope : Nat} (h : Passes (node s scope n)) :
    Supported s.options scope n := by
  induction n using Node.bodyInduction generalizing scope with
  | content => exact .content
  | comment => exact .comment
  | mustache m =>
    rw [node] at h
    exact supported_mustache_of_passes hs h.of_map
  | block call main inverse loc ihm ihi =>
    rw [node] at h
    obtain ⟨name, hname⟩ := plainName?_of_passes h.of_bind.1
    rw [helperName_of_plainName? hname, pure_bind] at h
    by_cases hcond : isConditional name = true
    · rw [if_pos hcond] at h
      obtain ⟨t, hparams, htest, hnamed⟩ := test_of_passes hs h.of_bind.1
      rw [test_of_supported hs hparams htest hnamed, pure_bind] at h
      obtain ⟨hm, _, h⟩ := h.of_bind
      obtain ⟨hmp, hm⟩ := supported_branch_of_passes hs (fun p hp n hn => ihm p hp n hn) hm
      obtain ⟨hip, hi⟩ := supported_branch_of_passes hs (fun p hp n hn => ihi p hp n hn) h.of_bind.1
      exact .conditional hname hcond hparams htest hnamed hmp hm hip hi
    · rw [if_neg hcond] at h
      obtain ⟨ha, _, h⟩ := h.of_bind
      obtain ⟨hc, hparams, hv⟩ := callable_of_passes hs ha
      obtain ⟨hm, _, h⟩ := h.of_bind
      obtain ⟨hmp, hm⟩ := supported_body_of_passes hs (fun p hp n hn => ihm p hp n hn) hm
      obtain ⟨hip, hi⟩ := supported_body_of_passes hs (fun p hp n hn => ihi p hp n hn) h.of_bind.1
      exact .block hname (by simpa using hcond) hc hparams hv hmp hm hip hi
  | foreign n hn =>
    cases n with
    | content | comment | mustache | block => cases hn
    | _ =>
      rw [node] at h
      exact absurd h (not_passes_unsupported _ _)

/-- With strict options a root that passes is a supported template. -/
theorem supported_root_of_passes {t : Node} (h : Passes (root s t)) :
    ∃ p, t = .program p ∧ p.blockParams = [] ∧ ∀ n ∈ p.body, Supported s.options 1 n := by
  cases t with
  | program p =>
    obtain ⟨ns, names, loc⟩ := p
    rw [root] at h
    obtain ⟨hnames, _, h⟩ := h.of_bind
    exact ⟨_, rfl, blockParams_eq_nil_of_passes hs hnames,
      supported_nodes_of_passes hs (fun _ _ hn => supported_of_passes hs hn) h.of_bind.1⟩
  | _ => exact absurd h (not_passes_throw _)

/-- With strict options the pass over a supported template records its helpers in order, and gives
the translation of its body. -/
theorem root_eq_recording {p : Template.Program Node} (hnames : p.blockParams = [])
    (hbody : ∀ n ∈ p.body, Supported s.options 1 n) :
    root s (.program p) = recording s (Node.calledBy p.body)
      (.returning (some s.options.renderName) (contextName 1)
        (join (Translation.nodes s.options 1 p.body))) := by
  obtain ⟨ns, names, loc⟩ := p
  have hempty : names = [] := hnames
  have hns := nodes_eq_recording hs fun n hn => node_eq_recording hs (hbody n hn)
  simp [root, checkBlockParams, hempty, hns, map_recording]

end Strict

end Compiling

/-- With strict options exactly the supported templates compile, if the resolver answers for every
helper that they call. -/
theorem compile_strict_accepts_iff (t : Node) (o : Options) (resolve : Resolver)
    (hs : o.strict = true) :
    (∃ c, (compile t o resolve).result = .ok c) ↔
      ∃ p, t = .program p ∧ p.blockParams = [] ∧ (∀ n ∈ p.body, Supported o 1 n) ∧
        ∀ name ∈ Node.calledBy p.body, ∃ source, resolve name = .ok source := by
  let s : Settings := ⟨o, resolve⟩
  -- nothing is known at the start, so a helper is recordable only through the resolver
  have hnew : ∀ name, Compiling.Recordable s .none name ↔ ∃ source, resolve name = .ok source := by
    intro name
    exact ⟨fun h => h.resolve_left List.not_mem_nil, Or.inr⟩
  constructor
  · rintro ⟨c, hc⟩
    rcases h : Compiling.after (Compiling.root s t) .none with ⟨e | f, g⟩
    · rw [compile_of_error h] at hc
      cases hc
    · obtain ⟨p, rfl, hnames, hbody⟩ :=
        Compiling.supported_root_of_passes (s := s) hs ⟨_, f, g, h⟩
      rw [Compiling.root_eq_recording (s := s) hs hnames hbody] at h
      exact ⟨p, rfl, hnames, hbody, fun name hn =>
        (hnew name).mp (Compiling.recordable_of_after_recording h name hn)⟩
  · rintro ⟨p, rfl, hnames, hbody, hresolve⟩
    obtain ⟨g, h, _⟩ := Compiling.after_recording_of_recordable _ fun name hn =>
      (hnew name).mpr (hresolve name hn)
    rw [← Compiling.root_eq_recording (s := s) hs hnames hbody] at h
    rw [compile_of_ok h]
    exact ⟨_, rfl⟩

/-- `{{#list rows=items}}{{#if ../title}}{{name}}{{/if}}{{/list}}` -/
def titledList : Template.Program Node :=
  .new [.block ⟨⟨.path (.new 0 ["list"]), [], some (.new [("rows", .path (.new 0 ["items"]))])⟩,
    some (.new [.block ⟨⟨.path (.new 0 ["if"]), [.path (.new 1 ["title"])], none⟩,
      some (.new [.mustache ⟨.new (.new 0 ["name"]), true, none⟩]), none, none⟩]), none, none⟩]

/-- A conditional opens no scope: the title is one step up from it. -/
theorem compile_titledList : ({} : Options).strict = true ∧
    ∃ c, (compile (.program titledList) {} Resolver.none).result = .ok c := by
  refine ⟨rfl, (compile_strict_accepts_iff _ {} Resolver.none rfl).mpr ⟨titledList, rfl, rfl, ?_, ?_⟩⟩
  · intro n hn
    obtain rfl := List.mem_singleton.mp hn
    refine .block rfl (by decide) (by decide) rfl ?_ (by rintro _ ⟨⟩ _; rfl) ?_ (by rintro _ ⟨⟩)
      (by rintro _ ⟨⟩)
    · intro pair hp
      obtain rfl := List.mem_singleton.mp hp
      exact ⟨rfl, by decide⟩
    · rintro _ ⟨⟩ n hn
      obtain rfl := List.mem_singleton.mp hn
      refine .conditional rfl (by decide) rfl ⟨rfl, by decide⟩ rfl (by rintro _ ⟨⟩; rfl) ?_
        (by rintro _ ⟨⟩) (by rintro _ ⟨⟩)
      rintro _ ⟨⟩ n hn
      obtain rfl := List.mem_singleton.mp hn
      exact .interpolation rfl rfl ⟨rfl, by decide⟩ rfl
  · exact fun name _ => ⟨none, rfl⟩

end Stencil
