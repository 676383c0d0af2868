import Mathlib.Data.List.TakeDrop
import Stencil.CommandLine.Run
import Stencil.Proofs.CommandLine.Arguments
import Stencil.Proofs.Compile.Warnings
import Stencil.Proofs.Template.Reading
import Stencil.Template.Build

/-!
# All or nothing

A run compiles the template that it reads, with the options of its flags and the sources that its
arguments and its file of sources declare. If nothing goes wrong on the way, the text of the program
goes to one place, and nothing to any other. A run that fails before it writes leaves nothing behind
but its report; one whose write fails leaves the beginning of the text that was taken until then
(`run_allOrNothing`). Standard error shows the log's lines for the warnings, then the report.
-/

namespace Stencil.CommandLine

set_option autoImplicit false

/-- The last of some pairs with that name decides on the source of a helper, then the file. -/
def declared (pairs : List (String × String)) (file : HelperMap) : Resolver := fun name =>
  .ok ((pairs.reverse.lookup name).or (file.get? name))

/-- A text that a run takes for its template: that of the named file, or else of standard input. -/
def Provides (a : Arguments) (w : Surroundings) (text : String) : Prop :=
  (if a.input.getD "-" = "-" then w.stdin else w.read (a.input.getD "-")) = .ok text

/-- The file of sources of a run: an empty one if none is named. -/
def Supplies (a : Arguments) (w : Surroundings) (file : HelperMap) : Prop :=
  match a.helpers with
  | none => file = .empty
  | some name => ∃ text, w.read name = .ok text ∧ HelperMap.ofText text = .ok file

/-- The template and the file of sources that a run can read. -/
structure Loads (a : Arguments) (w : Surroundings) (t : Template.Node) (file : HelperMap) : Prop where
  template : ∃ text, Provides a w text ∧ Template.Node.ofText text = .ok t
  sources : Supplies a w file

/-- The options that the flags ask for. -/
def flagged (a : Arguments) : Options where
  escapeFn := a.escapeFn.getD "escape"
  stringifyFn := a.stringifyFn.getD "String"
  exported := a.exported
  renderName := a.renderName.getD "render"
  strict := !a.legacy

/-- What a run of these arguments compiles, once it has loaded a template and a file of sources. -/
def compiled (a : Arguments) (t : Template.Node) (file : HelperMap) : Compiled :=
  compile t (flagged a) (declared a.helper file)

/-- A program on a line of its own, or on several ones if it is to be pretty. -/
def document (a : Arguments) (p : Script.Program) : Bytes :=
  ((if a.pretty then p.toJson.pretty else p.toJson.compact) ++ "\n").toUTF8.data.toList

/-- Some bytes can be written: the named file can be opened and takes them all, or else standard output
does. -/
def Writes (a : Arguments) (w : Surroundings) (bs : Bytes) : Prop :=
  match a.output with
  | none => w.stdout.taken bs = bs
  | some name => ∃ sink, w.create name = .ok sink ∧ sink.taken bs = bs

/-- Diagnostics as they are reported: a line for each of them, or a line for all if there are any. -/
def lines (a : Arguments) (ds : List Diagnostic) : String :=
  if a.diagnostics then
    match ds with
    | [] => ""
    | ds => (Json.arr (ds.map Diagnostic.toJson)).compact ++ "\n"
  else String.join (ds.map fun d => d.text ++ "\n")

/-- What is left of some bytes that cannot all be written: those that were taken before the write failed. -/
structure Torn (a : Arguments) (w : Surroundings) (bs : Bytes) (o : Outcome) : Prop where
  /-- A file that cannot be opened stays as it was. -/
  file : ∀ name, a.output = some name → o.stdout = [] ∧
    (∀ cause, w.create name = .error cause → o.written = none) ∧
    ∀ sink, w.create name = .ok sink → o.written = some (name, sink.taken bs)
  stdout : a.output = none → o.written = none ∧ o.stdout = w.stdout.taken bs ∧
    ∃ rest, rest ≠ [] ∧ bs = o.stdout ++ rest

/-- What a run with these arguments leaves behind. -/
structure AllOrNothing (a : Arguments) (w : Surroundings) (o : Outcome) : Prop where
  delivered : ∀ t file c, Loads a w t file → (compiled a t file).result = .ok c →
    Writes a w (document a c.program) → o =
      { exit := 0
        stdout := if a.output = none then document a c.program else []
        written := a.output.map (·, document a c.program)
        stderr := String.join (c.diagnostics.mapIdx w.log) ++ lines a c.diagnostics }
  failed : (¬∃ t file c, Loads a w t file ∧ (compiled a t file).result = .ok c ∧
    Writes a w (document a c.program)) → o.exit ≠ 0
  untouched : (¬∃ t file c, Loads a w t file ∧ (compiled a t file).result = .ok c) →
    o.stdout = [] ∧ o.written = none
  torn : ∀ t file c, Loads a w t file → (compiled a t file).result = .ok c →
    ¬Writes a w (document a c.program) → Torn a w (document a c.program) o
  diagnosed : ∀ t file e, Loads a w t file → (compiled a t file).result = .error e →
    o.stderr = String.join ((compiled a t file).warned.mapIdx w.log) ++ lines a [.ofError e] ∧
      (a.legacy = false → (compiled a t file).warned = [])

namespace Sink

variable {s : Sink} {bs : Bytes}

theorem refusal?_eq_none_iff : s.refusal? bs = none ↔ s.taken bs = bs := by
  cases s with
  | boundless => simp [refusal?, taken]
  | bounded room cause =>
    rw [taken, List.take_eq_self_iff, refusal?]
    split <;> simp_all

theorem exists_refusal (h : s.taken bs ≠ bs) : ∃ cause, s.refusal? bs = some cause :=
  Option.ne_none_iff_exists'.mp (mt refusal?_eq_none_iff.mp h)

/-- A sink takes bytes from the first one on. -/
theorem exists_rest (h : s.taken bs ≠ bs) : ∃ rest, rest ≠ [] ∧ bs = s.taken bs ++ rest := by
  cases s with
  | boundless => exact absurd rfl h
  | bounded room cause =>
    refine ⟨bs.drop room, ?_, (List.take_append_drop room bs).symm⟩
    intro hrest
    rw [taken, List.take_of_length_le (List.drop_eq_nil_iff.mp hrest)] at h
    exact h rfl

end Sink

namespace Torn

variable {a : Arguments} {w : Surroundings} {bs : Bytes} {o : Outcome} {name : String}

theorem of_stdout (hout : a.output = none) (h : w.stdout.taken bs ≠ bs) (hwritten : o.written = none)
    (hstdout : o.stdout = w.stdout.taken bs) : Torn a w bs o where
  file := by simp [hout]
  stdout _ := ⟨hwritten, hstdout, hstdout ▸ Sink.exists_rest h⟩

theorem of_closed {cause : String} (hout : a.output = some name) (hcreate : w.create name = .error cause)
    (hstdout : o.stdout = []) (hwritten : o.written = none) : Torn a w bs o where
  file := by simp [hout, hcreate, hstdout, hwritten]
  stdout := by simp [hout]

theorem of_open {sink : Sink} (hout : a.output = some name) (hcreate : w.create name = .ok sink)
    (hstdout : o.stdout = []) (hwritten : o.written = some (name, sink.taken bs)) : Torn a w bs o where
  file := by simp [hout, hcreate, hstdout, hwritten]
  stdout := by simp [hout]

end Torn

section Loading
variable {a : Arguments} {w : Surroundings}

theorem get?_foldl_insert (pairs : List (String × String)) (m : HelperMap) (name : String) :
    (pairs.foldl (fun m e => m.insert e.1 e.2) m).get? name = (pairs.reverse.lookup name).or (m.get? name) := by
  induction pairs generalizing m with
  | nil => rfl
  | cons p pairs ih =>
    obtain ⟨n, s⟩ := p
    rw [List.foldl_cons, ih, HelperMap.get?_insert, List.reverse_cons, List.lookup_append, Option.or_assoc]
    congr 1
    by_cases h : name = n
    · simp [h]
    · simp [h, List.lookup_cons, beq_eq_false_iff_ne.mpr h]

theorem resolver_foldl_insert (pairs : List (String × String)) (file : HelperMap) :
    (pairs.foldl (fun m e => m.insert e.1 e.2) file).resolver = declared pairs file := by
  funext name
  rw [HelperMap.resolver, Resolver.ofFunction, get?_foldl_insert, declared]

theorem mapError_eq_ok_iff {ε ε' α : Type} {f : ε → ε'} {x : Except ε α} {v : α} :
    x.mapError f = .ok v ↔ x = .ok v := by
  cases x <;> simp [Except.mapError]

theorem input_eq_ok_iff {text : String} : input a w = .ok text ↔ Provides a w text := by
  unfold input Provides
  cases a.input with
  | none => exact mapError_eq_ok_iff
  | some name =>
    by_cases hname : name = "-"
    · subst hname
      exact mapError_eq_ok_iff
    · simp [hname, mapError_eq_ok_iff]

theorem sourcesOf_eq_ok_iff {name : String} {file : HelperMap} :
    sourcesOf w name = .ok file ↔ ∃ text, w.read name = .ok text ∧ HelperMap.ofText text = .ok file := by
  unfold sourcesOf
  cases w.read name with
  | error cause => simp
  | ok text => simp [mapError_eq_ok_iff]

/-- Adds the sources of some pairs to those of a file. -/
abbrev adding (pairs : List (String × String)) (file : HelperMap) : HelperMap :=
  pairs.foldl (fun m e => m.insert e.1 e.2) file

theorem sources_eq_ok_iff {m : HelperMap} :
    sources a w = .ok m ↔ ∃ file, Supplies a w file ∧ m = adding a.helper file := by
  unfold sources Supplies
  cases a.helpers with
  | none => simp [bind, Except.bind, pure, Except.pure, eq_comm]
  | some name =>
    simp only [← sourcesOf_eq_ok_iff]
    cases sourcesOf w name <;> simp [bind, Except.bind, pure, Except.pure, eq_comm]

theorem load_eq_ok_iff {t : Template.Node} {m : HelperMap} :
    load a w = .ok (t, m) ↔ ∃ file, Loads a w t file ∧ m = adding a.helper file := by
  constructor
  · intro h
    obtain ⟨text, hinput, h⟩ := ok_of_bind_eq_ok h
    obtain ⟨t', ht, h⟩ := ok_of_bind_eq_ok h
    obtain ⟨m', hsources, h⟩ := ok_of_bind_eq_ok h
    cases h
    obtain ⟨file, hfile, hm⟩ := sources_eq_ok_iff.mp hsources
    exact ⟨file, ⟨⟨text, input_eq_ok_iff.mp hinput, mapError_eq_ok_iff.mp ht⟩, hfile⟩, hm⟩
  · rintro ⟨file, ⟨⟨text, hinput, ht⟩, hfile⟩, rfl⟩
    have hsources := sources_eq_ok_iff.mpr ⟨file, hfile, rfl⟩
    simp [load, input_eq_ok_iff.mpr hinput, mapError_eq_ok_iff.mpr ht, hsources, bind, Except.bind, pure,
      Except.pure]

end Loading

section Running
variable {a : Arguments} {w : Surroundings} {t : Template.Node} {file : HelperMap} {c : Compilation}

theorem reported_eq_lines (ds : List Diagnostic) : reported a.diagnostics ds = lines a ds := by
  unfold reported lines
  cases ds with
  | nil => cases a.diagnostics <;> rfl
  | cons d ds => rfl

theorem runWith_of_not_loads (h : ¬∃ t file, Loads a w t file) :
    ∃ report, runWith a w = { exit := 1, stderr := report } := by
  cases hload : load a w with
  | error report => exact ⟨report, by rw [runWith, hload]⟩
  | ok r =>
    obtain ⟨t, m⟩ := r
    obtain ⟨file, hloads, -⟩ := load_eq_ok_iff.mp hload
    exact absurd ⟨t, file, hloads⟩ h

theorem compile_adding : compile t a.options (adding a.helper file).resolver = compiled a t file := by
  rw [adding, resolver_foldl_insert]
  rfl

theorem runWith_of_error (h : Loads a w t file) {e : CompileError}
    (he : (compiled a t file).result = .error e) : runWith a w =
      { exit := 1
        stderr := String.join ((compiled a t file).warned.mapIdx w.log) ++ lines a [.ofError e] } := by
  have hload := load_eq_ok_iff.mpr ⟨file, h, rfl⟩
  simp only [runWith, hload, compile_adding, he, reported_eq_lines, Surroundings.logged]

theorem runWith_of_ok (h : Loads a w t file) (hc : (compiled a t file).result = .ok c) : runWith a w =
    deliver a w (String.join (c.diagnostics.mapIdx w.log) ++ lines a c.diagnostics) c.program := by
  have hload := load_eq_ok_iff.mpr ⟨file, h, rfl⟩
  have hwarned : (compiled a t file).warned = c.diagnostics := compile_warned_of_ok hc
  simp only [runWith, hload, compile_adding, hc, hwarned, reported_eq_lines, Surroundings.logged]

section Delivery
variable {reports : String} {p : Script.Program}

theorem deliver_of_writes (h : Writes a w (document a p)) : deliver a w reports p =
    { exit := 0, stdout := if a.output = none then document a p else [],
      written := a.output.map (·, document a p), stderr := reports } := by
  have htext : bytes (output a p) = document a p := rfl
  unfold deliver
  unfold Writes at h
  cases hout : a.output with
  | none =>
    rw [hout] at h
    simp [htext, h, Sink.refusal?_eq_none_iff.mpr h, ended]
  | some name =>
    rw [hout] at h
    obtain ⟨sink, hcreate, htaken⟩ := h
    simp [hcreate, htext, htaken, Sink.refusal?_eq_none_iff.mpr htaken, ended]

theorem torn_deliver (h : ¬Writes a w (document a p)) :
    (deliver a w reports p).exit ≠ 0 ∧ Torn a w (document a p) (deliver a w reports p) := by
  have hexit : (1 : UInt32) ≠ 0 := by decide
  have htext : bytes (output a p) = document a p := rfl
  unfold Writes at h
  cases hout : a.output with
  | none =>
    rw [hout] at h
    obtain ⟨cause, hcause⟩ := Sink.exists_refusal h
    have hdeliver : deliver a w reports p =
        { ended a reports (some cause) with stdout := w.stdout.taken (document a p) } := by
      simp only [deliver, hout, htext, hcause]
    rw [hdeliver]
    exact ⟨hexit, .of_stdout hout h rfl rfl⟩
  | some name =>
    rw [hout] at h
    cases hcreate : w.create name with
    | error cause =>
      have hdeliver : deliver a w reports p = ended a reports (some cause) := by
        simp only [deliver, hout, hcreate]
      rw [hdeliver]
      exact ⟨hexit, .of_closed hout hcreate rfl rfl⟩
    | ok sink =>
      have htaken : sink.taken (document a p) ≠ document a p := fun htaken => h ⟨sink, hcreate, htaken⟩
      obtain ⟨cause, hcause⟩ := Sink.exists_refusal htaken
      have hdeliver : deliver a w reports p = { ended a reports (some cause) with
          written := some (name, sink.taken (document a p)) } := by
        simp only [deliver, hout, hcreate, htext, hcause]
      rw [hdeliver]
      exact ⟨hexit, .of_open hout hcreate rfl rfl⟩

end Delivery

theorem torn_runWith (h : Loads a w t file) (hc : (compiled a t file).result = .ok c)
    (hwrites : ¬Writes a w (document a c.program)) :
    (runWith a w).exit ≠ 0 ∧ Torn a w (document a c.program) (runWith a w) := by
  rw [runWith_of_ok h hc]
  exact torn_deliver hwrites

/-- What comes of a run with accepted arguments, in whatever surroundings. -/
theorem allOrNothing_runWith (a : Arguments) (w : Surroundings) : AllOrNothing a w (runWith a w) where
  delivered := by
    intro t file c hloads hc hwrites
    rw [runWith_of_ok hloads hc, deliver_of_writes hwrites]
  failed := by
    intro hnot
    have hexit : (1 : UInt32) ≠ 0 := by decide
    by_cases hloads : ∃ t file, Loads a w t file
    · obtain ⟨t, file, hloads⟩ := hloads
      cases hc : (compiled a t file).result with
      | error e =>
        rw [runWith_of_error hloads hc]
        exact hexit
      | ok c => exact (torn_runWith hloads hc fun hwrites => hnot ⟨t, file, c, hloads, hc, hwrites⟩).1
    · obtain ⟨report, hreport⟩ := runWith_of_not_loads hloads
      rw [hreport]
      exact hexit
  untouched := by
    intro hnot
    by_cases hloads : ∃ t file, Loads a w t file
    · obtain ⟨t, file, hloads⟩ := hloads
      cases hc : (compiled a t file).result with
      | error e =>
        rw [runWith_of_error hloads hc]
        exact ⟨rfl, rfl⟩
      | ok c => exact absurd ⟨t, file, c, hloads, hc⟩ hnot
    · obtain ⟨report, hreport⟩ := runWith_of_not_loads hloads
      rw [hreport]
      exact ⟨rfl, rfl⟩
  torn := fun _ _ _ hloads hc hwrites => (torn_runWith hloads hc hwrites).2
  diagnosed := by
    intro t file e hloads he
    rw [runWith_of_error hloads he]
    refine ⟨rfl, fun hlegacy => compile_warned_of_strict ?_ t _⟩
    simp [flagged, hlegacy]

end Running

/-- What a run of the command line gives. Arguments that ask for the version get nothing else. -/
theorem run_allOrNothing (args : List String) (w : Surroundings) :
    (Command.ofList args = .version →
      run args w = { exit := 0, stdout := w.stdout.taken "hbs-estree 0.1.0\n".toUTF8.data.toList }) ∧
    ∀ a, Command.ofList args = .run a →
      List.Forall₂ Splits (helperValues false args) a.helper ∧ AllOrNothing a w (run args w) := by
  refine ⟨fun hversion => ?_, fun a ha => ⟨helper_of_ofList ha, ?_⟩⟩
  · rw [run, hversion]
    rfl
  · rw [run, ha]
    exact allOrNothing_runWith a w

namespace Sample

/-- The statement `{{> header}}`, which is dropped if options are lenient. -/
def header : Template.Node := .partialCall (.new (.new 0 ["header"])) none

/-- The template `{{> header}}{{link to=1}}`. -/
def template : Template.Node := .root [header, .mustache ⟨⟨.path (.new 0 ["link"]), [],
  some (.new [("to", .num (.ofWord 1) none)])⟩, true, none⟩]

/-- The template `{{> header}}{{../x}}`, which has no scope above it. -/
def outside : Template.Node := .root [header, .mustache ⟨.new (.new 1 ["x"]), true, none⟩]

def surroundings : Surroundings where
  stdin := .error "closed"
  read name := if name = "page" then .ok (template.toJson.compact ++ "\n")
    else if name = "outside" then .ok (outside.toJson.compact ++ "\n")
    else if name = "sources" then .ok "\x7b\"link\":\"./file.js\"\x7d" else .error "No such file"
  stdout := .boundless
  create _ := .ok .boundless
  log _ d := " WARN " ++ d.message ++ "\n"
  explain _ _ := "expected value"
  usage _ := "error: unexpected argument\n"

/-- What is said of the header, on a line of the log and on a line of the report. -/
def warning : String := "dropped unsupported construct: partial (PartialStatement)\n"

theorem ofText_of_numbers {t : Template.Node} (ws : List UInt64)
    (hnumbers : t.toJson.numbers = ws.map Number.ofWord) (hnesting : t.toJson.nesting ≤ Reader.nestingLimit) :
    Template.Node.ofText (t.toJson.compact ++ "\n") = .ok t := by
  have hback : Json.NumbersReadBack t.toJson.numbers := by
    rw [hnumbers]
    exact List.forall_mem_map.mpr fun w _ => Number.readsBack_ofWord w
  rw [Template.Node.ofText_of_scan (Json.scan_compact hback), if_pos hnesting]

theorem ofText_template : Template.Node.ofText (template.toJson.compact ++ "\n") = .ok template :=
  ofText_of_numbers [0, 0, 1] rfl (by decide +kernel)

theorem ofText_outside : Template.Node.ofText (outside.toJson.compact ++ "\n") = .ok outside :=
  ofText_of_numbers [0, 1] rfl (by decide +kernel)

/-- A helper that is declared twice by the arguments and once by the file. -/
def args : List String :=
  ["--helper", "link=./old.js", "page", "--helpers", "sources", "--legacy", "-oscript", "--helper=link=./a=b.js"]

def arguments : Arguments :=
  { input := some "page", output := some "script", helpers := some "sources", legacy := true,
    helper := [("link", "./old.js"), ("link", "./a=b.js")] }

theorem ofText_sources : HelperMap.ofText "\x7b\"link\":\"./file.js\"\x7d" = .ok ⟨[("link", "./file.js")]⟩ := by
  rfl

theorem loads : Loads arguments surroundings template ⟨[("link", "./file.js")]⟩ where
  template := ⟨_, rfl, ofText_template⟩
  sources := ⟨_, rfl, ofText_sources⟩

theorem command : Command.ofList args = .run arguments := by decide +kernel

theorem compiles : ∃ c, (compiled arguments template ⟨[("link", "./file.js")]⟩).result = .ok c ∧
    c.program.imports = [("link", "./a=b.js")] ∧
    String.join (c.diagnostics.mapIdx surroundings.log) = " WARN " ++ warning ∧
    lines arguments c.diagnostics = "warning[H-1-1]: " ++ warning := ⟨_, rfl, rfl, rfl, rfl⟩

end Sample

theorem run_sample : Command.ofList Sample.args = .run Sample.arguments ∧
    helperValues false Sample.args = ["link=./old.js", "link=./a=b.js"] ∧
    ∃ c : Compilation, c.program.imports = [("link", "./a=b.js")] ∧ run Sample.args Sample.surroundings =
      { exit := 0, written := some ("script", document Sample.arguments c.program),
        stderr := " WARN " ++ Sample.warning ++ ("warning[H-1-1]: " ++ Sample.warning) } := by
  obtain ⟨c, hc, himports, hlog, hlines⟩ := Sample.compiles
  have hall := ((run_allOrNothing Sample.args Sample.surroundings).2 _ Sample.command).2
  have hrun := hall.delivered _ _ c Sample.loads hc ⟨_, rfl, rfl⟩
  rw [hlog, hlines] at hrun
  exact ⟨Sample.command, by decide +kernel, c, himports, hrun⟩

namespace Sample

/-- The arguments `page --legacy`. -/
def page : Arguments := { input := some "page", legacy := true }

/-- Surroundings whose standard output breaks after the first byte. -/
def broken : Surroundings := { surroundings with stdout := .bounded 1 "Broken pipe" }

theorem page_compiles : ∃ c, (compiled page template .empty).result = .ok c ∧
    (document page c.program).take 1 = [123] ∧ document page c.program ≠ [123] := by
  have hrun : ((compiled page template .empty).result.toOption.map fun c =>
      ((document page c.program).take 1, decide (document page c.program = [123]))) = some ([123], false) := by
    decide +kernel
  obtain ⟨c, hc, htake⟩ := Option.map_eq_some_iff.mp hrun
  obtain ⟨htake, hne⟩ := Prod.mk.inj htake
  refine ⟨c, ?_, htake, of_decide_eq_false hne⟩
  revert hc
  cases (compiled page template .empty).result <;> simp [Except.toOption]

theorem outside_fails : ∃ e,
    (compiled { page with input := some "outside" } outside .empty).result = .error e ∧
    lines page [.ofError e] = "error[H-2-1]: Path '../x' reaches 1 scope(s) up from nesting depth 1\n" ∧
    String.join ((compiled { page with input := some "outside" } outside .empty).warned.mapIdx
      surroundings.log) = " WARN " ++ warning := ⟨_, rfl, rfl, rfl⟩

end Sample

/-- With the version asked for, a template that compiles is not written, although it could be. An output
that breaks off leaves a byte of it on standard output. And a run that fails says more on standard error
than that, if it has warned before. -/
theorem run_sample_exceptions :
    (∃ c, Loads { Sample.page with output := some "script" } Sample.surroundings Sample.template .empty ∧
      (compiled { Sample.page with output := some "script" } Sample.template .empty).result = .ok c ∧
      Writes { Sample.page with output := some "script" } Sample.surroundings (document Sample.page c.program) ∧
      run ["page", "--legacy", "-oscript", "--version"] Sample.surroundings =
        { exit := 0, stdout := "hbs-estree 0.1.0\n".toUTF8.data.toList }) ∧
    ((run ["page", "--legacy"] Sample.broken).exit ≠ 0 ∧
      (run ["page", "--legacy"] Sample.broken).stdout = [123]) ∧
    ∃ e, (compiled { Sample.page with input := some "outside" } Sample.outside .empty).result = .error e ∧
      (run ["outside", "--legacy"] Sample.surroundings).stderr =
        " WARN " ++ Sample.warning ++ lines Sample.page [.ofError e] ∧
      (run ["outside", "--legacy"] Sample.surroundings).stderr ≠ lines Sample.page [.ofError e] := by
  obtain ⟨c, hc, htake, hne⟩ := Sample.page_compiles
  obtain ⟨e, he, hlines, hlog⟩ := Sample.outside_fails
  have hsource : Provides Sample.page Sample.surroundings (Sample.template.toJson.compact ++ "\n") := rfl
  have hversion : Command.ofList ["page", "--legacy", "-oscript", "--version"] = .version := by decide +kernel
  have hpage : Command.ofList ["page", "--legacy"] = .run Sample.page := by decide +kernel
  have houtside : Command.ofList ["outside", "--legacy"] = .run { Sample.page with input := some "outside" } := by
    decide +kernel
  refine ⟨⟨c, ⟨⟨_, hsource, Sample.ofText_template⟩, rfl⟩, hc, ⟨_, rfl, rfl⟩, ?_⟩, ?_, e, he, ?_⟩
  · rw [run, hversion]
    rfl
  · have hloads : Loads Sample.page Sample.broken Sample.template .empty :=
      ⟨⟨_, hsource, Sample.ofText_template⟩, rfl⟩
    have hwrites : ¬Writes Sample.page Sample.broken (document Sample.page c.program) :=
      fun hwrites => hne (hwrites.symm.trans htake)
    obtain ⟨hexit, htorn⟩ := torn_runWith hloads hc hwrites
    rw [run, hpage]
    exact ⟨hexit, (htorn.stdout rfl).2.1.trans htake⟩
  · have hloads : Loads { Sample.page with input := some "outside" } Sample.surroundings Sample.outside .empty :=
      ⟨⟨_, rfl, Sample.ofText_outside⟩, rfl⟩
    have hrun : (run ["outside", "--legacy"] Sample.surroundings).stderr =
        " WARN " ++ Sample.warning ++ lines Sample.page [.ofError e] := by
      rw [run, houtside, ← hlog]
      exact congrArg Outcome.stderr (runWith_of_error hloads he)
    refine ⟨hrun, ?_⟩
    rw [hrun, hlines]
    decide +kernel

end Stencil.CommandLine
