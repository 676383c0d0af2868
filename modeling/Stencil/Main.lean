import Stencil.CommandLine.Run

/-!
# The command line program
-/

namespace Stencil

set_option autoImplicit false

namespace CommandLine

partial def readAll (stream : IO.FS.Stream) (seen : String) : IO String := do
  let line ← stream.getLine
  if line.isEmpty then return seen else readAll stream (seen ++ line)

def reading (x : IO String) : IO (Except String String) := do
  try
    return .ok (← x)
  catch e => return .error (toString e)

def filesOf (a : Arguments) : IO (List (String × Except String String)) :=
  (a.input.toList ++ a.helpers.toList).mapM fun (name : String) => do
    return (name, ← reading (IO.FS.readFile name))

def quiet : Surroundings where
  stdin := .ok ""
  read _ := .ok ""
  stdout := .boundless
  create _ := .ok .boundless
  log _ d := d.text ++ "\n"
  explain _ f := match f with
    | .ended => "unexpected end of the text"
    | .malformed => "malformed text"
    | .mismatch => "unexpected document"
  usage _ := "error: the arguments do not fit\n"

/-- What surrounds a run, as far as it can be known before anything is written. -/
def surroundings (a : Arguments) : IO Surroundings := do
  let files ← filesOf a
  let stdin ← if a.input.getD "-" = "-" then reading (readAll (← IO.getStdin) "") else pure (.ok "")
  return { quiet with stdin := stdin, read := fun name => (files.lookup name).getD (.ok "") }

/-- Writes what an outcome has to write; why that failed, if it did. -/
def write? (o : Outcome) : IO (Option String) := do
  try
    match o.written with
    | none => (← IO.getStdout).write ⟨o.stdout.toArray⟩
    | some (name, bs) => IO.FS.writeBinFile name ⟨bs.toArray⟩
    return none
  catch e => return some (toString e)

/-- Surroundings in which nothing can be written. -/
def Surroundings.full (w : Surroundings) (cause : String) : Surroundings :=
  { w with stdout := .bounded 0 cause, create := fun _ => .error cause }

end CommandLine

end Stencil

open Stencil.CommandLine in
def main (args : List String) : IO UInt32 := do
  let w ← match Command.ofList args with
    | .run a => surroundings a
    | _ => pure quiet
  let outcome := run args w
  let outcome ← match ← write? outcome with
    | none => pure outcome
    | some cause => pure (run args (w.full cause))
  IO.eprint outcome.stderr
  return outcome.exit
