import Stencil.CommandLine.Run

/-!
# Runs in a folder

A folder of texts in memory, and runs of the command line in it. A file name is a sequence of steps
divided by `/`. An empty step and `.` stay, `..` goes up, and each step starts from a folder that
exists: `a/` and `a/.` name the folder `a` and never a file. A name that leads out of the folder, or
that is too long, leads nowhere.
-/

namespace Stencil.CommandLine

set_option autoImplicit false

/-- Texts by the steps that lead to them. -/
structure Folder where
  files : List (List String × String)
deriving Repr, DecidableEq

namespace Folder

/-- The longest step of a name, in bytes. -/
def stepLimit : Nat := 255

/-- The longest name, in bytes. -/
def nameLimit : Nat := 4095

def pieces : List Char → List (List Char)
  | [] => [[]]
  | c :: cs =>
    if c = '/' then [] :: pieces cs
    else match pieces cs with
      | [] => [[c]]
      | p :: ps => (c :: p) :: ps

def steps (name : String) : List String := (pieces name.toList).map String.ofList

/-- Whether a step stays where it is. -/
def stays (step : String) : Bool := step.isEmpty || step == "."

/-- A folder with the given files; of two files of one name the first counts. -/
def ofList (files : List (String × String)) : Folder :=
  ⟨files.map fun (name, text) => ((steps name).filter fun s => !stays s, text)⟩

/-- Whether a path is the folder itself or one on the way to a file. -/
def isFolder (f : Folder) (path : List String) : Bool :=
  path.isEmpty || f.files.any fun file => path != file.1 && path.isPrefixOf file.1

def walk (f : Folder) : List String → List String → Option (List String)
  | here, [] => some here
  | here, step :: rest =>
    if !f.isFolder here then none
    else if stays step then walk f here rest
    else if step = ".." then
      if here.isEmpty then none else walk f here.dropLast rest
    else if step.utf8ByteSize ≤ stepLimit then walk f (here ++ [step]) rest
    else none

/-- Where a name leads; one that starts with a slash leads out of the folder. -/
def locate? (f : Folder) (name : String) : Option (List String) :=
  if nameLimit < name.utf8ByteSize then none
  else match steps name with
    | "" :: _ :: _ => none
    | ss => f.walk [] ss

def get? (f : Folder) (name : String) : Option String := (f.locate? name).bind fun path => f.files.lookup path

def refusal (f : Folder) (name : String) : Option String :=
  match f.locate? name with
  | none => some "No such file or directory"
  | some path => if f.isFolder path then some "Is a directory" else none

/-- Writes a file, where its name leads somewhere. -/
def put (f : Folder) (name text : String) : Folder :=
  match f.locate? name with
  | none => f
  | some path => ⟨(path, text) :: f.files.filter fun file => file.1 != path⟩

/-- What a run meets in a folder: its files, and streams that take everything. Nothing is logged. -/
def surroundings (f : Folder) (stdin : String) : Surroundings where
  stdin := .ok stdin
  read name := (f.get? name).elim (.error "No such file or directory") .ok
  stdout := .boundless
  create name := (f.refusal name).elim (.ok .boundless) .error
  log _ _ := ""
  explain _ _ := ""
  usage _ := ""

end Folder

def textOf (bs : Bytes) : String := (String.fromUTF8? ⟨bs.toArray⟩).getD ""

structure Shown where
  exit : UInt32
  stdout : String
  stderr : String
deriving Repr, DecidableEq

/-- A run in a folder, and the folder that it leaves. -/
def runIn (args : List String) (stdin : String) (f : Folder) : Shown × Folder :=
  let outcome := run args (f.surroundings stdin)
  (⟨outcome.exit, textOf outcome.stdout, outcome.stderr⟩,
    outcome.written.elim f fun (name, bs) => f.put name (textOf bs))

end Stencil.CommandLine
