import Stencil.Json.Record
import Stencil.Proofs.Json.Scanning

/-!
# Reading the tokens of a document

A reader of documents gives the document back from its tokens if at most as many arrays and objects
are nested in it as the limit says, and otherwise finds the text malformed (`Reader.value_tokens`).
The same holds of a reader of tagged records (`Reader.tagged_tokens`).

Arrays and objects are folds: if a reader takes one step on the tokens of each item, what it makes of
all of them is the fold of these steps (`Reader.items_tokens`, `Reader.fields_tokens`).
-/

namespace Stencil

set_option autoImplicit false

namespace Json

mutual
/-- How many arrays and objects are nested in a document. -/
def nesting : Json → Nat
  | .arr items => nestingOfItems items + 1
  | .obj fields => nestingOfFields fields + 1
  | _ => 0
/-- How many arrays and objects are nested in some documents at most. -/
def nestingOfItems : List Json → Nat
  | [] => 0
  | j :: js => max j.nesting (nestingOfItems js)
/-- How many arrays and objects are nested in some fields at most. -/
def nestingOfFields : List (String × Json) → Nat
  | [] => 0
  | (_, j) :: fs => max j.nesting (nestingOfFields fs)
end

theorem nestingOfItems_le_iff {items : List Json} {limit : Nat} :
    nestingOfItems items ≤ limit ↔ ∀ j ∈ items, j.nesting ≤ limit := by
  induction items with
  | nil => simp [nestingOfItems]
  | cons j js ih => rw [nestingOfItems, Nat.max_le, ih, List.forall_mem_cons]

theorem nestingOfItems_append (js js' : List Json) :
    nestingOfItems (js ++ js') = max (nestingOfItems js) (nestingOfItems js') := by
  induction js with
  | nil => simp [nestingOfItems]
  | cons j js ih => rw [List.cons_append, nestingOfItems, nestingOfItems, ih, Nat.max_assoc]

theorem nestingOfFields_le_iff {fields : List (String × Json)} {limit : Nat} :
    nestingOfFields fields ≤ limit ↔ ∀ f ∈ fields, f.2.nesting ≤ limit := by
  induction fields with
  | nil => simp [nestingOfFields]
  | cons f fs ih =>
    obtain ⟨k, j⟩ := f
    simp only [nestingOfFields, Nat.max_le, ih, List.forall_mem_cons]

/-- No document starts with a closing bracket. -/
theorem tokens_eq_cons (j : Json) : ∃ t ts, j.tokens = t :: ts ∧ t ≠ .closeBracket := by
  cases j with
  | bool b => cases b <;> exact ⟨_, _, rfl, Token.noConfusion⟩
  | _ => exact ⟨_, _, rfl, Token.noConfusion⟩

theorem length_lt_moreItemTokens (js : List Json) : js.length < (moreItemTokens js).length := by
  induction js with
  | nil => decide
  | cons j js ih =>
    simp only [moreItemTokens, List.length_cons, List.length_append]
    omega

theorem length_lt_moreFieldTokens (fs : List (String × Json)) : fs.length < (moreFieldTokens fs).length := by
  induction fs with
  | nil => decide
  | cons f fs ih =>
    obtain ⟨k, j⟩ := f
    simp only [moreFieldTokens, List.length_cons, List.length_append]
    omega

end Json

namespace Reader

open Token (ofString)

section Folds
variable {α σ : Type}

/-- A fold whose steps are refused or go on: it goes on if none is refused. -/
theorem foldlM_guarded {step : σ → α → Except Fault σ} {p : α → Prop} [DecidablePred p]
    {go : σ → α → σ} {fault : Fault} {xs : List α}
    (h : ∀ x ∈ xs, ∀ s, step s x = if p x then .ok (go s x) else .error fault) (s : σ) :
    xs.foldlM step s = if ∀ x ∈ xs, p x then .ok (xs.foldl go s) else .error fault := by
  induction xs generalizing s with
  | nil => simp [pure, Except.pure]
  | cons x xs ih =>
    obtain ⟨hx, hxs⟩ := List.forall_mem_cons.mp h
    rw [List.foldlM_cons, hx s]
    by_cases hp : p x
    · simp [hp, bind, Except.bind, ih hxs]
    · simp [hp, bind, Except.bind]

theorem moreItems_comma (item : σ → Reader σ) {t : Token} (ht : t ≠ .closeBracket) (fuel : Nat) (s : σ)
    (ts : List Token) : moreItems item (fuel + 1) s (.comma :: t :: ts) =
      item s (t :: ts) >>= fun (s, ts) => moreItems item fuel s ts := by
  cases t with
  | closeBracket => exact absurd rfl ht
  | _ => rfl

theorem items_cons (item : σ → Reader σ) {t : Token} (ht : t ≠ .closeBracket) (s : σ) (ts : List Token) :
    items item s (t :: ts) =
      item s (t :: ts) >>= fun (s, rest) => moreItems item (t :: ts).length s rest := by
  cases t with
  | closeBracket => exact absurd rfl ht
  | _ => rfl

theorem moreItems_tokens {item : σ → Reader σ} {write : α → Json} {step : σ → α → Except Fault σ}
    {xs : List α}
    (h : ∀ x ∈ xs, ∀ s rest, item s ((write x).tokens ++ rest) = (step s x).map (·, rest))
    {fuel : Nat} (hfuel : xs.length < fuel) (s : σ) (rest : List Token) :
    moreItems item fuel s (Json.moreItemTokens (xs.map write) ++ rest) =
      (xs.foldlM step s).map (·, rest) := by
  induction xs generalizing fuel s with
  | nil =>
    cases fuel with
    | zero => cases hfuel
    | succ fuel => rfl
  | cons x xs ih =>
    obtain ⟨hx, hxs⟩ := List.forall_mem_cons.mp h
    cases fuel with
    | zero => cases hfuel
    | succ fuel =>
      obtain ⟨t, ts, htokens, hclose⟩ := (write x).tokens_eq_cons
      have hitem := hx s (Json.moreItemTokens (xs.map write) ++ rest)
      rw [List.map_cons, Json.moreItemTokens, List.cons_append, List.append_assoc, List.foldlM_cons]
      rw [htokens, List.cons_append] at hitem ⊢
      rw [moreItems_comma item hclose, hitem]
      cases step s x with
      | error f => rfl
      | ok s => exact ih hxs (Nat.lt_of_succ_lt_succ hfuel) s

/-- What a reader of items makes of the tokens of an array. -/
theorem items_tokens {item : σ → Reader σ} {write : α → Json} {step : σ → α → Except Fault σ}
    {xs : List α}
    (h : ∀ x ∈ xs, ∀ s rest, item s ((write x).tokens ++ rest) = (step s x).map (·, rest))
    (s : σ) (rest : List Token) :
    items item s (Json.itemTokens (xs.map write) ++ rest) = (xs.foldlM step s).map (·, rest) := by
  cases xs with
  | nil => rfl
  | cons x xs =>
    obtain ⟨hx, hxs⟩ := List.forall_mem_cons.mp h
    obtain ⟨t, ts, htokens, hclose⟩ := (write x).tokens_eq_cons
    have hitem := hx s (Json.moreItemTokens (xs.map write) ++ rest)
    have hlength := Json.length_lt_moreItemTokens (xs.map write)
    rw [List.length_map] at hlength
    rw [List.map_cons, Json.itemTokens, List.append_assoc, List.foldlM_cons]
    rw [htokens, List.cons_append] at hitem ⊢
    rw [items_cons item hclose, hitem]
    cases step s x with
    | error f => rfl
    | ok s =>
      refine moreItems_tokens hxs ?_ s rest
      simp only [List.length_cons, List.length_append]
      omega

variable {field : σ → String → Except Fault (Reader σ)} {step : σ → String × Json → Except Fault σ}
  {fs : List (String × Json)}

theorem member_tokens {f : String × Json} {s : σ} {rest : List Token}
    (h : (field s f.1 >>= fun r => r (f.2.tokens ++ rest)) = (step s f).map (·, rest)) :
    member false field s (ofString f.1 :: .colon :: (f.2.tokens ++ rest)) = (step s f).map (·, rest) := by
  rw [← h]
  rfl

theorem moreFields_tokens
    (h : ∀ f ∈ fs, ∀ s rest,
      (field s f.1 >>= fun r => r (f.2.tokens ++ rest)) = (step s f).map (·, rest))
    {fuel : Nat} (hfuel : fs.length < fuel) (s : σ) (rest : List Token) :
    moreFields false field fuel s (Json.moreFieldTokens fs ++ rest) = (fs.foldlM step s).map (·, rest) := by
  induction fs generalizing fuel s with
  | nil =>
    cases fuel with
    | zero => cases hfuel
    | succ fuel => rfl
  | cons f fs ih =>
    obtain ⟨hf, hfs⟩ := List.forall_mem_cons.mp h
    obtain ⟨k, j⟩ := f
    cases fuel with
    | zero => cases hfuel
    | succ fuel =>
      have hmember := member_tokens (hf s (Json.moreFieldTokens fs ++ rest))
      rw [Json.moreFieldTokens, List.foldlM_cons]
      simp only [List.cons_append, List.append_assoc, moreFields]
      rw [hmember]
      cases step s (k, j) with
      | error fault => rfl
      | ok s => exact ih hfs (Nat.lt_of_succ_lt_succ hfuel) s

/-- What a reader of fields makes of the tokens of an object. -/
theorem fields_tokens
    (h : ∀ f ∈ fs, ∀ s rest,
      (field s f.1 >>= fun r => r (f.2.tokens ++ rest)) = (step s f).map (·, rest))
    (s : σ) (rest : List Token) :
    fields false field s (Json.fieldTokens fs ++ rest) = (fs.foldlM step s).map (·, rest) := by
  cases fs with
  | nil => rfl
  | cons f fs =>
    obtain ⟨hf, hfs⟩ := List.forall_mem_cons.mp h
    obtain ⟨k, j⟩ := f
    have hmember := member_tokens (hf s (Json.moreFieldTokens fs ++ rest))
    have hlength := Json.length_lt_moreFieldTokens fs
    rw [Json.fieldTokens, List.foldlM_cons]
    simp only [List.cons_append, List.append_assoc, fields]
    rw [hmember]
    cases step s (k, j) with
    | error fault => rfl
    | ok s =>
      refine moreFields_tokens hfs ?_ s rest
      simp only [List.length_cons, List.length_append]
      omega

end Folds

section Collecting
variable {α : Type} {item : Reader α} {p : α → Prop} [DecidablePred p] {fault : Fault}

/-- Items that are refused or read, one after the other. -/
theorem items_collected (write : α → Json) (xs : List α)
    (h : ∀ x ∈ xs, ∀ rest,
      item ((write x).tokens ++ rest) = if p x then .ok (x, rest) else .error fault)
    (rest : List Token) :
    items (fun ys ts => do
        let (x, ts) ← item ts
        .ok (x :: ys, ts)) [] (Json.itemTokens (xs.map write) ++ rest) =
      if ∀ x ∈ xs, p x then .ok (xs.reverse, rest) else .error fault := by
  have hstep : ∀ x ∈ xs, ∀ (ys : List α) rest, (do
      let (x, ts) ← item ((write x).tokens ++ rest)
      .ok (x :: ys, ts)) = (if p x then .ok (x :: ys) else .error fault : Except Fault (List α)).map
        (·, rest) := by
    intro x hx ys rest
    rw [h x hx rest]
    split <;> rfl
  rw [items_tokens hstep, foldlM_guarded (fun _ _ _ => rfl), List.foldl_flip_cons_eq_append']
  split
  · simp [Except.map]
  · rfl

/-- An array is refused if one of its items is. -/
theorem list_tokens (write : α → Json) (xs : List α)
    (h : ∀ x ∈ xs, ∀ rest,
      item ((write x).tokens ++ rest) = if p x then .ok (x, rest) else .error fault)
    (rest : List Token) :
    list item ((Json.arr (xs.map write)).tokens ++ rest) =
      if ∀ x ∈ xs, p x then .ok (xs, rest) else .error fault := by
  rw [Json.tokens, List.cons_append, list, items_collected write xs h rest]
  split
  · simp [bind, Except.bind]
  · rfl

end Collecting

/-- Fields whose values are refused or read, one after the other. -/
theorem fields_collected {item : Reader Json} {limit : Nat} (fs : List (String × Json))
    (h : ∀ f ∈ fs, ∀ rest,
      item (f.2.tokens ++ rest) = if f.2.nesting ≤ limit then .ok (f.2, rest) else .error .malformed)
    (rest : List Token) :
    fields false (fun fs name => .ok fun ts => do
        let (j, ts) ← item ts
        .ok ((name, j) :: fs, ts)) [] (Json.fieldTokens fs ++ rest) =
      if Json.nestingOfFields fs ≤ limit then .ok (fs.reverse, rest) else .error .malformed := by
  have hstep : ∀ f ∈ fs, ∀ (gs : List (String × Json)) rest, (do
      let (j, ts) ← item (f.2.tokens ++ rest)
      .ok ((f.1, j) :: gs, ts)) =
        (if f.2.nesting ≤ limit then .ok (f :: gs) else .error .malformed :
          Except Fault (List (String × Json))).map (·, rest) := by
    intro f hf gs rest
    rw [h f hf rest]
    split <;> rfl
  rw [fields_tokens hstep, foldlM_guarded (fun _ _ _ => rfl), List.foldl_flip_cons_eq_append']
  simp only [Json.nestingOfFields_le_iff]
  split
  · simp [Except.map]
  · rfl

/-- A document is read back unless it is nested too deep. -/
theorem value_tokens (limit : Nat) (j : Json) (rest : List Token) :
    value limit (j.tokens ++ rest) = if j.nesting ≤ limit then .ok (j, rest) else .error .malformed := by
  induction limit generalizing j rest with
  | zero =>
    cases j with
    | bool b => cases b <;> simp [Json.tokens, value, Json.nesting, Except.map]
    | arr items => simp [Json.tokens, value, missing, Json.nesting]
    | obj fields => simp [Json.tokens, value, missing, Json.nesting]
    | _ => simp [Json.tokens, value, Json.nesting, Except.map]
  | succ limit ih =>
    cases j with
    | bool b => cases b <;> simp [Json.tokens, value, Json.nesting, Except.map]
    | arr items =>
      have hitems := items_collected id items (fun j _ rest => ih j rest) rest
      rw [List.map_id] at hitems
      rw [Json.tokens, List.cons_append, value, hitems, Json.nesting]
      simp only [Nat.add_le_add_iff_right, Json.nestingOfItems_le_iff]
      split
      · simp [bind, Except.bind]
      · rfl
    | obj fields =>
      have hfields := fields_collected fields (fun f _ rest => ih f.2 rest) rest
      rw [Json.tokens, List.cons_append, value, hfields, Json.nesting]
      simp only [Nat.add_le_add_iff_right]
      split
      · simp [bind, Except.bind]
      · rfl
    | _ => simp [Json.tokens, value, Json.nesting, Except.map]

theorem foldl_behind {α β : Type} (b : β) (xs ys : List α) :
    xs.foldl (fun (s : β × List α) x => (s.1, x :: s.2)) (b, ys) = (b, xs.reverse ++ ys) := by
  induction xs generalizing ys with
  | nil => rfl
  | cons x xs ih => simp [ih]

/-- What one field of a record whose tag is `kind` adds to what has been read of it. -/
def taggedStep (kind : String) (limit : Nat) (s : Option String × List (String × Json))
    (f : String × Json) : Except Fault (Option String × List (String × Json)) :=
  if f.1 = "type" then
    match s.1 with
    | some _ => .error .mismatch
    | none => .ok (some kind, s.2)
  else if f.2.nesting ≤ limit then .ok (s.1, f :: s.2) else .error .malformed

section Tagged
variable {names : List String} {kind : String} {fs : List (String × Json)}

/-- The tag comes first, and no other field has its name. -/
theorem foldlM_taggedStep (hfs : ∀ f ∈ fs, f.1 ≠ "type") (limit : Nat) :
    (("type", .str kind) :: fs).foldlM (taggedStep kind limit) (none, []) =
      if Json.nestingOfFields fs ≤ limit then .ok (some kind, fs.reverse) else .error .malformed := by
  have hrest : ∀ f ∈ fs, ∀ s, taggedStep kind limit s f =
      if f.2.nesting ≤ limit then .ok (s.1, f :: s.2) else .error .malformed := by
    intro f hf s
    rw [taggedStep, if_neg (hfs f hf)]
  have hguarded := foldlM_guarded hrest (some kind, [])
  rw [foldl_behind, List.append_nil] at hguarded
  simp only [Json.nestingOfFields_le_iff]
  rw [List.foldlM_cons, ← hguarded]
  rfl

/-- A tagged record is read back unless it is nested too deep. -/
theorem tagged_tokens (hk : kind ∈ names) (hfs : ∀ f ∈ fs, f.1 ≠ "type") (limit : Nat)
    (rest : List Token) :
    tagged names limit ((Json.obj (("type", .str kind) :: fs)).tokens ++ rest) =
      if (Json.obj (("type", .str kind) :: fs)).nesting ≤ limit then .ok ((kind, .obj fs), rest)
      else .error .malformed := by
  cases limit with
  | zero => simp [Json.tokens, tagged, Json.nesting]
  | succ limit =>
    have hnesting : (Json.obj (("type", .str kind) :: fs)).nesting = Json.nestingOfFields fs + 1 := by
      simp [Json.nesting, Json.nestingOfFields]
    rw [Json.tokens, List.cons_append, tagged, fields_tokens, foldlM_taggedStep hfs limit, hnesting]
    · simp only [Nat.add_le_add_iff_right]
      split
      · simp [bind, Except.bind, Except.map]
      · rfl
    · intro f hf s rest
      obtain ⟨found, gs⟩ := s
      rcases List.mem_cons.mp hf with rfl | hf
      · cases found with
        | some t => rfl
        | none => simp [taggedStep, Json.tokens, tag, hk, bind, Except.bind, Except.map]
      · have hvalue := value_tokens limit f.2 rest
        rw [taggedStep, if_neg (hfs f hf)]
        simp only [hfs f hf, if_false, bind, Except.bind, hvalue]
        by_cases hlimit : f.2.nesting ≤ limit
        · simp only [if_pos hlimit, Except.map]
        · simp only [if_neg hlimit, Except.map]

end Tagged

section Record
variable {σ : Type}

theorem skip_string (s : String) (rest : List Token) : skip ((Json.str s).tokens ++ rest) = .ok ((), rest) :=
  rfl

/-- What one field of a record adds to the names seen so far and to what has been read. -/
def recordStep (names : List String) (step : σ → String × Json → Except Fault σ) (s : List String × σ)
    (f : String × Json) : Except Fault (List String × σ) :=
  if names.contains f.1 then
    if s.1.contains f.1 then .error .mismatch else (step s.2 f).map (f.1 :: s.1, ·)
  else .ok s

/-- What a reader of records makes of the tokens of an object. -/
theorem record_tokens {names : List String} {field : σ → String → Reader σ}
    {step : σ → String × Json → Except Fault σ} {fs : List (String × Json)}
    (hfield : ∀ f ∈ fs, f.1 ∈ names → ∀ s rest,
      field s f.1 (f.2.tokens ++ rest) = (step s f).map (·, rest))
    (hskip : ∀ f ∈ fs, f.1 ∉ names → ∀ rest, skip (f.2.tokens ++ rest) = .ok ((), rest))
    (s : σ) (rest : List Token) :
    record names field s ((Json.obj fs).tokens ++ rest) =
      (fs.foldlM (recordStep names step) ([], s)).map fun r => (r.2, rest) := by
  rw [Json.tokens, List.cons_append, record, fields_tokens]
  · cases fs.foldlM (recordStep names step) ([], s) <;> rfl
  · intro f hf r rest
    obtain ⟨seen, s⟩ := r
    unfold recordStep
    by_cases hname : f.1 ∈ names
    · by_cases hseen : f.1 ∈ seen
      · simp [hname, hseen, bind, Except.bind, Except.map]
      · have hread := hfield f hf hname s rest
        simp only [List.contains_iff_mem.mpr hname, hseen, List.contains_eq_mem, decide_false, if_true,
          Bool.false_eq_true, if_false, bind, Except.bind, hread]
        cases step s f <;> rfl
    · simp [hname, hskip f hf hname rest, bind, Except.bind, Except.map]

end Record

end Reader

/-- A document is read back from its compact text unless it is nested too deep. -/
theorem Json.ofText_compact {j : Json} (hn : Json.NumbersReadBack j.numbers) (limit : Nat) :
    Json.ofText limit j.compact = if j.nesting ≤ limit then .ok j else .error .malformed := by
  have hends : Numeral.Ends [] := fun _ hc => by cases hc
  have hscans := Json.scans_compactChars j hn hends
  rw [List.append_nil] at hscans
  have hvalue := Reader.value_tokens limit j []
  rw [List.append_nil] at hvalue
  rw [Json.ofText, Reader.run, Json.compact, hscans.whole, hvalue]
  split
  · rfl
  · rfl

end Stencil
