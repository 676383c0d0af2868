import Stencil.Json.Reader

/-!
# Helpers and where they come from

A resolver decides for a helper's name whether it is imported, and from where. A table keeps the
answers of one compilation in the order of first use, and asks once for each name.
-/

namespace Stencil

set_option autoImplicit false

/-- The import source of a helper, or nothing if it needs no import; or a failure with its text. -/
abbrev Resolver := String → Except String (Option String)

namespace Resolver

def none : Resolver := fun _ => .ok Option.none

def ofFunction (f : String → Option String) : Resolver := fun name => .ok (f name)

end Resolver

/-- Import sources by helper name, each name once. -/
structure HelperMap where
  entries : List (String × String)
deriving Repr, DecidableEq

namespace HelperMap

def empty : HelperMap := ⟨[]⟩

/-- Replaces the first entry of that name, or adds one at the end. -/
def put (name source : String) : List (String × String) → List (String × String)
  | [] => [(name, source)]
  | (n, s) :: es => if n = name then (n, source) :: es else (n, s) :: put name source es

def insert (m : HelperMap) (name source : String) : HelperMap := ⟨put name source m.entries⟩

def get? (m : HelperMap) (name : String) : Option String := m.entries.lookup name

theorem lookup_put (n name source : String) (es : List (String × String)) :
    (put name source es).lookup n = if n = name then some source else es.lookup n := by
  induction es with
  | nil =>
    by_cases h : n = name
    · simp [put, h]
    · simp [put, h, List.lookup_cons, beq_eq_false_iff_ne.mpr h]
  | cons e es ih =>
    obtain ⟨k, s⟩ := e
    by_cases hk : k = name
    · by_cases h : n = name
      · simp [put, hk, h]
      · simp [put, hk, h, List.lookup_cons, beq_eq_false_iff_ne.mpr h]
    · by_cases h : n = k
      · subst h
        simp [put, hk]
      · simp [put, hk, List.lookup_cons, beq_eq_false_iff_ne.mpr h, ih]

/-- What was set last is found, and nothing else changes. -/
@[simp] theorem get?_insert (m : HelperMap) (n name source : String) :
    (m.insert name source).get? n = if n = name then some source else m.get? n :=
  lookup_put n name source m.entries

def size (m : HelperMap) : Nat := m.entries.length

/-- A map with the given sources; of a repeated name the last one counts. -/
def ofList (es : List (String × String)) : HelperMap :=
  es.foldl (fun m e => m.insert e.1 e.2) empty

def resolver (m : HelperMap) : Resolver := .ofFunction m.get?

/-- A text as a map: an object of strings. -/
def ofText (text : String) : Except Fault HelperMap :=
  Reader.run (fun
    | .openBrace :: ts => Reader.fields false (fun m name => .ok fun ts => do
        let (source, ts) ← Reader.string ts
        .ok (m.insert name source, ts)) empty ts
    | ts => .error (Reader.wrongKind ts)) text

end HelperMap

/-- The helpers that a compilation has met, with their import sources, in the order of first use. -/
structure HelperTable where
  entries : List (String × Option String)
deriving Repr, DecidableEq

structure Recorded where
  answer : Except String (Option String)
  table : HelperTable
  /-- The names that the resolver was asked for. -/
  asked : List String

namespace HelperTable

def empty : HelperTable := ⟨[]⟩

def contains (t : HelperTable) (name : String) : Bool := t.entries.any fun e => e.1 == name

/-- The import source of a helper that has been recorded and has one. -/
def source? (t : HelperTable) (name : String) : Option String :=
  (t.entries.lookup name).bind id

/-- An empty source is none. -/
def nonEmpty (source : Option String) : Option String := source.filter fun s => !s.isEmpty

/-- Records a helper. A name that is not in the table is asked for; a failure leaves no trace. -/
def record (t : HelperTable) (name : String) (resolve : Resolver) : Recorded :=
  if t.contains name then ⟨.ok (t.source? name), t, []⟩
  else match resolve name with
    | .error e => ⟨.error e, t, [name]⟩
    | .ok s => ⟨.ok (nonEmpty s), ⟨t.entries ++ [(name, nonEmpty s)]⟩, [name]⟩

def imports (t : HelperTable) : List (String × String) :=
  t.entries.filterMap fun e => e.2.map (e.1, ·)

def names (t : HelperTable) : List String := t.entries.map (·.1)

theorem contains_iff (t : HelperTable) (name : String) : t.contains name = true ↔ name ∈ t.names := by
  simp [contains, names]

/-- A recorded helper is not asked for again, and its entry stays. -/
theorem record_of_contains (t : HelperTable) (name : String) (resolve : Resolver)
    (h : t.contains name = true) : t.record name resolve = ⟨.ok (t.source? name), t, []⟩ := by
  simp [record, h]

end HelperTable

end Stencil
