import Stencil.CommandLine.Arguments
import Stencil.Compile.Pass
import Stencil.Script.Encode
import Stencil.Template.Decode
import Stencil.Text.Shown

/-!
# What the command line does

A run reads the template, then the file of import sources, compiles, reports and writes, in that
order; the first failure ends it. While it compiles, every warning goes to the log, which shares
standard error with the reports. The run itself is a function of what the files and streams around it
hold and take.
-/

namespace Stencil.CommandLine

set_option autoImplicit false

abbrev Bytes := List UInt8

def bytes (text : String) : Bytes := text.toUTF8.data.toList

inductive Sink where
  | boundless
  /-- It takes so many bytes; the write that goes on fails for that cause. -/
  | bounded (room : Nat) (cause : String)
deriving Repr, DecidableEq

namespace Sink

def taken : Sink → Bytes → Bytes
  | .boundless, bs => bs
  | .bounded room _, bs => bs.take room

/-- Why some bytes cannot all be written, if so. -/
def refusal? : Sink → Bytes → Option String
  | .boundless, _ => none
  | .bounded room cause, bs => if bs.length ≤ room then none else some cause

end Sink

/-- The files and streams around a run, and what is said there in words that are not the run's own.
Standard error takes everything. What the log may have beside warnings is left out: its filter drops it
unless it is asked for. -/
structure Surroundings where
  /-- The text on standard input, or why it cannot be read. -/
  stdin : Except String String
  read : String → Except String String
  stdout : Sink
  /-- The file of a name, emptied for writing, or why it cannot be opened. -/
  create : String → Except String Sink
  /-- The lines that the log has for the warning of that number: none if its filter drops them. -/
  log : Nat → Diagnostic → String
  /-- How the reader of documents words its refusal of a text. -/
  explain : String → Fault → String
  /-- What is said of arguments that do not fit. -/
  usage : List String → String

def Surroundings.logged (w : Surroundings) (ds : List Diagnostic) : String :=
  String.join (ds.mapIdx w.log)

structure Outcome where
  exit : UInt32
  stdout : Bytes := []
  stderr : String := ""
  /-- The file that was opened for writing, and what it holds since. -/
  written : Option (String × Bytes) := none
deriving Repr, DecidableEq

def versionText : String := "hbs-estree 0.1.0\n"

/-- A cause, its further lines behind a margin. -/
def indented (margin cause : String) : String :=
  String.ofList (cause.toList.flatMap fun c => if c = '\n' then '\n' :: margin.toList else [c])

/-- Causes from the nearest to the first; several ones are numbered. -/
def because : List String → String
  | [] => ""
  | [cause] => "\n\nCaused by:\n    " ++ indented "    " cause
  | causes => "\n\nCaused by:" ++
    String.join (causes.mapIdx fun i cause => "\n    " ++ toString i ++ ": " ++ indented "       " cause)

def failure (what : String) (causes : List String) : String := "Error: " ++ what ++ because causes ++ "\n"

/-- Diagnostics as lines, or as a document in one line; nothing for none. -/
def reported (asJson : Bool) (ds : List Diagnostic) : String :=
  if ds.isEmpty then ""
  else if asJson then (Json.arr (ds.map Diagnostic.toJson)).compact ++ "\n"
  else String.join (ds.map fun d => d.text ++ "\n")

/-- The causes of a refusal of a text: the error that wraps the reader's words, and these words. -/
def refused (w : Surroundings) (text : String) (f : Fault) : List String :=
  ["Invalid template AST: " ++ w.explain text f, w.explain text f]

def input (a : Arguments) (w : Surroundings) : Except String String :=
  match a.input with
  | none | some "-" => w.stdin.mapError fun cause => failure "Failed to read stdin" [cause]
  | some name =>
    (w.read name).mapError fun cause => failure ("Failed to read file: " ++ Text.shown name) [cause]

def sourcesOf (w : Surroundings) (name : String) : Except String HelperMap :=
  let failed := failure ("Failed to load helpers from " ++ Text.shown name)
  match w.read name with
  | .error cause => .error (failed [(CompileError.unreadable cause).message, cause])
  | .ok text => (HelperMap.ofText text).mapError fun f => failed (refused w text f)

/-- The import sources: those of the file, then those of the arguments. -/
def sources (a : Arguments) (w : Surroundings) : Except String HelperMap := do
  let base ← match a.helpers with
    | none => .ok HelperMap.empty
    | some name => sourcesOf w name
  return a.helper.foldl (fun m e => m.insert e.1 e.2) base

def load (a : Arguments) (w : Surroundings) : Except String (Template.Node × HelperMap) := do
  let text ← input a w
  let t ← (Template.Node.ofText text).mapError fun f =>
    failure "Failed to parse template AST" (refused w text f)
  let m ← sources a w
  return (t, m)

def output (a : Arguments) (p : Script.Program) : String :=
  (if a.pretty then p.toJson.pretty else p.toJson.compact) ++ "\n"

/-- That a file, or standard output for no name, was not written. -/
def unwritten : Option String → String
  | none => "Failed to write to stdout"
  | some name => "Failed to write output: " ++ Text.shown name

/-- The end of a run that has reported something and then written, or was refused that. -/
def ended (a : Arguments) (reports : String) : Option String → Outcome
  | none => { exit := 0, stderr := reports }
  | some cause => { exit := 1, stderr := reports ++ failure (unwritten a.output) [cause] }

def deliver (a : Arguments) (w : Surroundings) (reports : String) (p : Script.Program) : Outcome :=
  let text := bytes (output a p)
  match a.output with
  | none => { ended a reports (w.stdout.refusal? text) with stdout := w.stdout.taken text }
  | some name =>
    match w.create name with
    | .error cause => ended a reports (some cause)
    | .ok sink => { ended a reports (sink.refusal? text) with written := some (name, sink.taken text) }

def runWith (a : Arguments) (w : Surroundings) : Outcome :=
  match load a w with
  | .error report => { exit := 1, stderr := report }
  | .ok (t, m) =>
    let compiled := compile t a.options m.resolver
    let log := w.logged compiled.warned
    match compiled.result with
    | .error e => { exit := 1, stderr := log ++ reported a.diagnostics [.ofError e] }
    | .ok c => deliver a w (log ++ reported a.diagnostics c.diagnostics) c.program

/-- A run of the command line. Arguments that do not fit give the exit code two. -/
def run (args : List String) (w : Surroundings) : Outcome :=
  match Command.ofList args with
  | .refused => { exit := 2, stderr := w.usage args }
  | .version => { exit := 0, stdout := w.stdout.taken (bytes versionText) }
  | .run a => runWith a w

end Stencil.CommandLine
