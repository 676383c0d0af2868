import Stencil.Json.Record
import Stencil.Proofs.Json.Numeral

/-!
# Reading a tagged record through a whole document

The reader of a tagged record judges the tag where it stands and keeps the other fields as documents.
A reader of whole documents takes the same tokens, and the tag can be taken from the document later
(`Reader.value_of_tagged`).
-/

namespace Stencil.Reader

set_option autoImplicit false

section Simulation
variable {σ τ : Type}

/-- Where the first reader succeeds the second takes the same tokens, with a related result. -/
def Simulates (R : σ → τ → Prop) (x : Reader σ) (y : Reader τ) : Prop :=
  ∀ ts s rest, x ts = .ok (s, rest) → ∃ t, y ts = .ok (t, rest) ∧ R s t

variable {R : σ → τ → Prop}

/-- One reader after the other. -/
theorem Simulates.bind {x : Reader σ} {y : Reader τ} {f : σ → Reader σ} {g : τ → Reader τ}
    (h : Simulates R x y) (hf : ∀ s t, R s t → Simulates R (f s) (g t)) :
    Simulates R (fun ts => do let (s, ts) ← x ts; f s ts) (fun ts => do let (t, ts) ← y ts; g t ts) := by
  intro ts s₁ rest hs
  obtain ⟨⟨s, ts₁⟩, hx, hs⟩ := ok_of_bind_eq_ok hs
  obtain ⟨t, hy, hst⟩ := h ts s ts₁ hx
  dsimp only
  rw [hy]
  exact hf s t hst ts₁ s₁ rest hs

theorem Simulates.behindColon {x : Reader σ} {y : Reader τ} (h : Simulates R x y) :
    Simulates R (behindColon x) (behindColon y) := by
  intro ts s rest hs
  unfold Reader.behindColon at hs ⊢
  split at hs
  · exact h _ s rest hs
  · cases hs

section Items
variable {item : σ → Reader σ} {item' : τ → Reader τ}
  (hitem : ∀ s t, R s t → Simulates R (item s) (item' t))
include hitem

theorem simulates_moreItems (fuel : Nat) :
    ∀ s t, R s t → Simulates R (moreItems item fuel s) (moreItems item' fuel t) := by
  induction fuel with
  | zero =>
    intro s t _ ts s₁ rest hs
    cases hs
  | succ fuel ih =>
    intro s t hst ts s₁ rest
    unfold moreItems
    split
    · intro hs
      cases hs
      exact ⟨t, rfl, hst⟩
    · intro hs
      cases hs
    · exact (hitem s t hst).bind ih _ s₁ rest
    · intro hs
      cases hs

theorem simulates_items {s : σ} {t : τ} (hst : R s t) :
    Simulates R (items item s) (items item' t) := by
  intro ts s₁ rest
  unfold items
  split
  · intro hs
    cases hs
    exact ⟨t, rfl, hst⟩
  · intro hs
    cases hs
  · exact (hitem s t hst).bind (simulates_moreItems hitem _) _ s₁ rest

end Items

section Fields
variable {lax : Bool} {field : σ → String → Except Fault (Reader σ)}
  {field' : τ → String → Except Fault (Reader τ)}
  (hfield : ∀ s t, R s t → ∀ name r, field s name = .ok r →
    ∃ r', field' t name = .ok r' ∧ Simulates R r r')
include hfield

theorem simulates_member {s : σ} {t : τ} (hst : R s t) :
    Simulates R (member lax field s) (member lax field' t) := by
  intro ts s₁ rest hs
  unfold member at hs ⊢
  obtain ⟨⟨name, ts₁⟩, hkey, hs⟩ := ok_of_bind_eq_ok hs
  obtain ⟨r, hr, hs⟩ := ok_of_bind_eq_ok hs
  obtain ⟨r', hr', hsim⟩ := hfield s t hst name r hr
  obtain ⟨t₁, ht₁, hst₁⟩ := hsim.behindColon ts₁ s₁ rest hs
  rw [hkey]
  refine ⟨t₁, ?_, hst₁⟩
  change (field' t name >>= fun r => behindColon r ts₁) = _
  rw [hr']
  exact ht₁

theorem simulates_moreFields (fuel : Nat) :
    ∀ s t, R s t → Simulates R (moreFields lax field fuel s) (moreFields lax field' fuel t) := by
  induction fuel with
  | zero =>
    intro s t _ ts s₁ rest hs
    cases hs
  | succ fuel ih =>
    intro s t hst ts s₁ rest
    unfold moreFields
    split
    · intro hs
      cases hs
      exact ⟨t, rfl, hst⟩
    · exact (simulates_member hfield hst).bind ih _ s₁ rest
    · intro hs
      cases hs

theorem simulates_fields {s : σ} {t : τ} (hst : R s t) :
    Simulates R (fields lax field s) (fields lax field' t) := by
  intro ts s₁ rest
  unfold fields
  split
  · intro hs
    cases hs
    exact ⟨t, rfl, hst⟩
  · exact (simulates_member hfield hst).bind (simulates_moreFields hfield _) _ s₁ rest

end Fields

end Simulation

section Tagged
variable {names : List String} {limit : Nat}

/-- What is read as a tag is a string. -/
theorem value_of_tag {kind : String} {ts rest : List Token} (h : tag names ts = .ok (kind, rest))
    (limit : Nat) : kind ∈ names ∧ value limit ts = .ok (.str kind, rest) := by
  unfold tag at h
  split at h
  · obtain ⟨s, hs, h⟩ := ok_of_bind_eq_ok h
    split at h
    · rename_i hmem
      cases h
      refine ⟨List.contains_iff_mem.mp hmem, ?_⟩
      rw [value, hs]
      rfl
    · cases h
  · cases h

/-- The fields met so far, with the tag among them and without. -/
structure TagAmong (names : List String) (s : Option String × List (String × Json))
    (fs : List (String × Json)) : Prop where
  others : s.2 = fs.filter fun f => f.1 != "type"
  tag : fs.filter (fun f => f.1 == "type") = s.1.toList.map fun kind => ("type", .str kind)
  known : ∀ kind ∈ s.1, kind ∈ names

/-- The items met so far, with the tag in front of them and without. -/
inductive TagBefore (names : List String) : Option String × List Json → List Json → Prop
  | start : TagBefore names (none, []) []
  | tagged {kind : String} {js : List Json} : kind ∈ names →
      TagBefore names (some kind, js) (js ++ [.str kind])

theorem TagAmong.field {found : Option String} {fs gs : List (String × Json)}
    (h : TagAmong names (found, fs) gs) {name : String} (hname : name ≠ "type") (j : Json) :
    TagAmong names (found, (name, j) :: fs) ((name, j) :: gs) := by
  constructor
  · have hothers := h.others
    dsimp only at hothers ⊢
    rw [hothers, List.filter_cons_of_pos (by simpa using hname)]
  · rw [List.filter_cons_of_neg (by simpa using hname)]
    exact h.tag
  · exact h.known

theorem TagAmong.found {fs gs : List (String × Json)} (h : TagAmong names (none, fs) gs)
    {kind : String} (hkind : kind ∈ names) :
    TagAmong names (some kind, fs) (("type", .str kind) :: gs) := by
  constructor
  · rw [List.filter_cons_of_neg (by simp)]
    exact h.others
  · rw [List.filter_cons_of_pos (by simp), h.tag]
    rfl
  · rintro _ ⟨⟩
    exact hkind

theorem TagAmong.tagged? {kind : String} {fs gs : List (String × Json)}
    (h : TagAmong names (some kind, fs) gs) :
    (Json.obj gs.reverse).tagged? .root names = some (kind, .obj fs.reverse) := by
  have hothers : fs = gs.filter fun f => f.1 != "type" := h.others
  have htag : gs.filter (fun f => f.1 == "type") = [("type", .str kind)] := h.tag
  rw [Json.tagged?, List.filter_reverse, htag, List.filter_reverse, ← hothers]
  simp [Json.tag?, h.known kind rfl]

theorem TagBefore.tagged? {kind : String} {js is : List Json}
    (h : TagBefore names (some kind, js) is) :
    (Json.arr is.reverse).tagged? .root names = some (kind, .arr js.reverse) := by
  cases h with
  | tagged hkind =>
    rw [List.reverse_append]
    simp [Json.tagged?, Json.tag?, hkind]

/-- How a document's fields are read. -/
def valueField (limit : Nat) (fs : List (String × Json)) (name : String) :
    Except Fault (Reader (List (String × Json))) :=
  .ok fun ts => do
    let (j, ts) ← value limit ts
    .ok ((name, j) :: fs, ts)

/-- How the fields of a tagged record are read. -/
def taggedField (names : List String) (limit : Nat) (s : Option String × List (String × Json))
    (name : String) : Except Fault (Reader (Option String × List (String × Json))) :=
  if name = "type" then
    match s.1 with
    | some _ => .error .mismatch
    | none => .ok fun ts => do
      let (t, ts) ← tag names ts
      .ok ((some t, s.2), ts)
  else .ok fun ts => do
    let (j, ts) ← value limit ts
    .ok ((s.1, (name, j) :: s.2), ts)

theorem value_openBrace (ts : List Token) : value (limit + 1) (.openBrace :: ts) = (do
    let (fs, ts) ← fields false (valueField limit) [] ts
    .ok (.obj fs.reverse, ts)) := rfl

theorem tagged_openBrace (ts : List Token) : tagged names (limit + 1) (.openBrace :: ts) = (do
    let ((found, fs), ts) ← fields false (taggedField names limit) (none, []) ts
    match found with
    | some t => .ok ((t, .obj fs.reverse), ts)
    | none => .error .mismatch) := rfl

/-- How the items of an array are read. -/
def valueItem (limit : Nat) (js : List Json) : Reader (List Json) := fun ts => do
  let (j, ts) ← value limit ts
  .ok (j :: js, ts)

/-- How the items of a tagged record are read. -/
def taggedItem (names : List String) (limit : Nat) (s : Option String × List Json) :
    Reader (Option String × List Json) := fun ts =>
  match s.1 with
  | none => do
    let (t, ts) ← tag names ts
    .ok ((some t, s.2), ts)
  | some t => do
    let (j, ts) ← value limit ts
    .ok ((some t, j :: s.2), ts)

theorem value_openBracket (ts : List Token) : value (limit + 1) (.openBracket :: ts) = (do
    let (js, ts) ← items (valueItem limit) [] ts
    .ok (.arr js.reverse, ts)) := rfl

theorem tagged_openBracket (ts : List Token) : tagged names (limit + 1) (.openBracket :: ts) = (do
    let ((found, js), ts) ← items (taggedItem names limit) (none, []) ts
    match found with
    | some t => .ok ((t, .arr js.reverse), ts)
    | none => .error .mismatch) := rfl

theorem simulates_field (s : Option String × List (String × Json)) (gs : List (String × Json))
    (h : TagAmong names s gs) (name : String) (r : Reader (Option String × List (String × Json)))
    (hr : taggedField names limit s name = .ok r) :
    ∃ r', valueField limit gs name = .ok r' ∧ Simulates (TagAmong names) r r' := by
  obtain ⟨found, fs⟩ := s
  refine ⟨_, rfl, ?_⟩
  unfold taggedField at hr
  split at hr
  · rename_i hname
    subst hname
    cases found with
    | some t => cases hr
    | none =>
      cases hr
      intro ts s rest hs
      obtain ⟨⟨t, ts₁⟩, ht, hs⟩ := ok_of_bind_eq_ok hs
      cases hs
      obtain ⟨hmem, hvalue⟩ := value_of_tag ht limit
      refine ⟨("type", .str t) :: gs, ?_, h.found hmem⟩
      dsimp only
      rw [hvalue]
      rfl
  · rename_i hname
    cases hr
    intro ts s rest hs
    obtain ⟨⟨j, ts₁⟩, hj, hs⟩ := ok_of_bind_eq_ok hs
    cases hs
    refine ⟨(name, j) :: gs, ?_, h.field hname j⟩
    dsimp only
    rw [hj]
    rfl

theorem simulates_item (s : Option String × List Json) (is : List Json) (h : TagBefore names s is) :
    Simulates (TagBefore names) (taggedItem names limit s) (valueItem limit is) := by
  intro ts s' rest hs
  unfold taggedItem at hs
  unfold valueItem
  cases h with
  | start =>
    obtain ⟨⟨t, ts₁⟩, ht, hs⟩ := ok_of_bind_eq_ok hs
    cases hs
    obtain ⟨hmem, hvalue⟩ := value_of_tag ht limit
    rw [hvalue]
    exact ⟨_, rfl, .tagged hmem⟩
  | tagged hmem =>
    obtain ⟨⟨j, ts₁⟩, hj, hs⟩ := ok_of_bind_eq_ok hs
    cases hs
    rw [hj]
    exact ⟨_, rfl, .tagged hmem⟩

/-- Where a tagged record can be read a document can be read, with that tag and that record. -/
theorem value_of_tagged {kind : String} {body : Json} {ts rest : List Token}
    (h : tagged names limit ts = .ok ((kind, body), rest)) :
    ∃ j, value limit ts = .ok (j, rest) ∧ j.tagged? .root names = some (kind, body) := by
  cases ts with
  | nil => cases limit <;> cases h
  | cons t ts =>
    cases limit with
    | zero => cases t <;> cases h
    | succ limit =>
      cases t with
      | openBrace =>
        rw [tagged_openBrace] at h
        obtain ⟨⟨⟨found, fs⟩, rest'⟩, hfields, h⟩ := ok_of_bind_eq_ok h
        have hstart : TagAmong names (none, []) [] := ⟨rfl, rfl, fun _ hk => by cases hk⟩
        obtain ⟨gs, hgs, hamong⟩ := simulates_fields simulates_field hstart ts _ rest' hfields
        cases found with
        | none => cases h
        | some t =>
          cases h
          refine ⟨.obj gs.reverse, ?_, hamong.tagged?⟩
          rw [value_openBrace, hgs]
          rfl
      | openBracket =>
        rw [tagged_openBracket] at h
        obtain ⟨⟨⟨found, js⟩, rest'⟩, hitems, h⟩ := ok_of_bind_eq_ok h
        obtain ⟨is, his, hbefore⟩ := simulates_items simulates_item .start ts _ rest' hitems
        cases found with
        | none => cases h
        | some t =>
          cases h
          refine ⟨.arr is.reverse, ?_, hbefore.tagged?⟩
          rw [value_openBracket, his]
          rfl
      | _ => cases h

end Tagged

end Stencil.Reader
