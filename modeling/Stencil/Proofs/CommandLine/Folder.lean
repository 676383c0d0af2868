import Stencil.CommandLine.Folder
import Stencil.Proofs.CommandLine.Run

/-!
# A run changes at most one file of its folder

In a folder nothing stops a write once a file is open. A run that fails therefore leaves the folder as
it was (`runIn_of_failed`), and every other run changes at most the file of its output
(`lookup_runIn_of_ne`), which holds the text of the program then (`lookup_runIn_output`).
-/

namespace Stencil.CommandLine

set_option autoImplicit false

theorem textOf_bytes (text : String) : textOf (bytes text) = text := by
  have hbytes : (⟨(bytes text).toArray⟩ : ByteArray) = text.toByteArray := by
    rw [bytes, Array.toArray_toList]
    rfl
  rw [textOf, hbytes, String.fromUTF8?, dif_pos text.isValidUTF8]
  rfl

/-- Only the file of the output is written. -/
theorem AllOrNothing.output_of_written {a : Arguments} {w : Surroundings} {o : Outcome}
    (h : AllOrNothing a w o) {name : String} {bs : Bytes} (hwritten : o.written = some (name, bs)) :
    a.output = some name := by
  by_cases hc : ∃ t file c, Loads a w t file ∧ (compiled a t file).result = .ok c
  · obtain ⟨t, file, c, hloads, hc⟩ := hc
    by_cases hwrites : Writes a w (document a c.program)
    · rw [h.delivered t file c hloads hc hwrites] at hwritten
      obtain ⟨name', hname, heq⟩ := Option.map_eq_some_iff.mp hwritten
      rw [hname, (Prod.mk.inj heq).1]
    · have htorn := h.torn t file c hloads hc hwrites
      cases hout : a.output with
      | none =>
        rw [(htorn.stdout hout).1] at hwritten
        cases hwritten
      | some name' =>
        obtain ⟨-, hclosed, hopen⟩ := htorn.file name' hout
        cases hcreate : w.create name' with
        | error cause =>
          rw [hclosed cause hcreate] at hwritten
          cases hwritten
        | ok sink =>
          rw [hopen sink hcreate] at hwritten
          cases hwritten
          rfl
  · rw [(h.untouched hc).2] at hwritten
    cases hwritten

/-- Where a file that can be opened takes everything, a failure writes nothing. -/
theorem AllOrNothing.written_of_failed {a : Arguments} {w : Surroundings} {o : Outcome}
    (h : AllOrNothing a w o) (hcreate : ∀ name sink, w.create name = .ok sink → sink = .boundless)
    (hexit : o.exit ≠ 0) : o.written = none := by
  by_cases hc : ∃ t file c, Loads a w t file ∧ (compiled a t file).result = .ok c
  · obtain ⟨t, file, c, hloads, hc⟩ := hc
    have hwrites : ¬Writes a w (document a c.program) := by
      intro hwrites
      rw [h.delivered t file c hloads hc hwrites] at hexit
      exact hexit rfl
    have htorn := h.torn t file c hloads hc hwrites
    unfold Writes at hwrites
    cases hout : a.output with
    | none => exact (htorn.stdout hout).1
    | some name =>
      rw [hout] at hwrites
      obtain ⟨-, hclosed, -⟩ := htorn.file name hout
      cases hopen : w.create name with
      | error cause => exact hclosed cause hopen
      | ok sink => exact absurd ⟨sink, hopen, by rw [hcreate name sink hopen]; rfl⟩ hwrites
  · exact (h.untouched hc).2

section Folders
variable {args : List String} {stdin : String} {f : Folder}

theorem lookup_filter_ne {files : List (List String × String)} {path path' : List String} (h : path' ≠ path) :
    (files.filter fun file => file.1 != path).lookup path' = files.lookup path' := by
  induction files with
  | nil => rfl
  | cons file files ih =>
    obtain ⟨p, text⟩ := file
    by_cases hp : p = path
    · subst hp
      simp [List.lookup_cons, beq_eq_false_iff_ne.mpr h, ih]
    · by_cases hp' : path' = p
      · simp [hp, hp']
      · simp [hp, List.lookup_cons, beq_eq_false_iff_ne.mpr hp', ih]

/-- What was written stands where its name led, and all else where it was. -/
theorem Folder.lookup_put {name : String} {path : List String} (h : f.locate? name = some path)
    (text : String) (path' : List String) :
    (f.put name text).files.lookup path' = if path' = path then some text else f.files.lookup path' := by
  by_cases hpath : path' = path
  · simp [Folder.put, h, hpath]
  · simp [Folder.put, h, hpath, List.lookup_cons, beq_eq_false_iff_ne.mpr hpath, lookup_filter_ne hpath]

theorem run_folder {name : String} {bs : Bytes}
    (hwritten : (run args (f.surroundings stdin)).written = some (name, bs)) :
    ∃ a, Command.ofList args = .run a ∧ a.output = some name := by
  unfold run at hwritten
  split at hwritten
  · cases hwritten
  · cases hwritten
  next a ha => exact ⟨a, ha, (allOrNothing_runWith a _).output_of_written hwritten⟩

/-- A run that fails leaves the folder as it was. -/
theorem runIn_of_failed (hexit : (runIn args stdin f).1.exit ≠ 0) : (runIn args stdin f).2 = f := by
  have hwritten : (run args (f.surroundings stdin)).written = none := by
    change (run args (f.surroundings stdin)).exit ≠ 0 at hexit
    unfold run at hexit ⊢
    split
    · rfl
    · rfl
    next a ha =>
      rw [ha] at hexit
      refine (allOrNothing_runWith a _).written_of_failed (fun name sink hcreate => ?_) hexit
      change (f.refusal name).elim (Except.ok Sink.boundless) Except.error = .ok sink at hcreate
      cases hrefusal : f.refusal name with
      | none =>
        rw [hrefusal] at hcreate
        exact (Except.ok.inj hcreate).symm
      | some cause =>
        rw [hrefusal] at hcreate
        cases hcreate
  simp [runIn, hwritten]

/-- A run changes no file but that of its output. -/
theorem lookup_runIn_of_ne {path : List String} (hpath : ∀ a name, Command.ofList args = .run a →
    a.output = some name → f.locate? name ≠ some path) :
    (runIn args stdin f).2.files.lookup path = f.files.lookup path := by
  cases hwritten : (run args (f.surroundings stdin)).written with
  | none => simp [runIn, hwritten]
  | some held =>
    obtain ⟨name, bs⟩ := held
    obtain ⟨a, ha, hout⟩ := run_folder hwritten
    have hne := hpath a name ha hout
    simp only [runIn, hwritten, Option.elim_some]
    cases hlocate : f.locate? name with
    | none => simp [Folder.put, hlocate]
    | some path' =>
      rw [Folder.lookup_put hlocate, if_neg]
      rintro rfl
      exact hne hlocate

/-- A run whose template compiles leaves the text of the program where its output leads. -/
theorem lookup_runIn_output {a : Arguments} (ha : Command.ofList args = .run a) {t : Template.Node}
    {file : HelperMap} {c : Compilation} (hloads : Loads a (f.surroundings stdin) t file)
    (hc : (compiled a t file).result = .ok c) {name : String} (hout : a.output = some name)
    {path : List String} (hlocate : f.locate? name = some path) (hfile : f.isFolder path = false) :
    (runIn args stdin f).1.exit = 0 ∧ (runIn args stdin f).2.files.lookup path =
      some ((if a.pretty then c.program.toJson.pretty else c.program.toJson.compact) ++ "\n") := by
  have hrefusal : f.refusal name = none := by simp [Folder.refusal, hlocate, hfile]
  have hcreate : (f.surroundings stdin).create name = .ok .boundless := by
    simp [Folder.surroundings, hrefusal]
  have hwrites : Writes a (f.surroundings stdin) (document a c.program) := by
    unfold Writes
    rw [hout]
    exact ⟨_, hcreate, rfl⟩
  have hrun : run args (f.surroundings stdin) = runWith a (f.surroundings stdin) := by rw [run, ha]
  have hdelivered := (allOrNothing_runWith a (f.surroundings stdin)).delivered t file c hloads hc hwrites
  simp only [runIn, hrun, hdelivered, hout, Option.map_some, Option.elim_some]
  refine ⟨trivial, ?_⟩
  rw [Folder.lookup_put hlocate, if_pos rfl]
  exact congrArg some (textOf_bytes _)

end Folders

end Stencil.CommandLine
