import Stencil.Compile.Error

/-!
# Diagnostics

What a compilation reports: warnings for what it dropped, and an error when it failed. A `Report`
collects diagnostics in the order in which they come.
-/

namespace Stencil

set_option autoImplicit false

open Template (Location)

inductive Severity where
  | error
  | warning
deriving Repr, DecidableEq

namespace Severity

def name : Severity → String
  | .error => "Error"
  | .warning => "Warning"

def label : Severity → String
  | .error => "error"
  | .warning => "warning"

def ofName? : String → Option Severity
  | "Error" => some .error
  | "Warning" => some .warning
  | _ => none

end Severity

structure Diagnostic where
  severity : Severity
  code : String
  message : String
  loc : Option Location
deriving Repr, DecidableEq

namespace Diagnostic

def unsupportedConstruct : String := "H-1-1"
def ignoredParams : String := "H-1-2"
def droppedHashPair : String := "H-1-3"
def invalidTemplate : String := "H-2-1"
def resolverFailed : String := "H-3-1"
def invalidInput : String := "H-4-1"

def codeOf : CompileError → String
  | .unsupported .. => unsupportedConstruct
  | .notAProgram _ | .scopeOutOfRange .. | .invalidHelperCall .. => invalidTemplate
  | .helperResolution .. => resolverFailed
  | .unreadable _ => invalidInput

def locOf : CompileError → Option Location
  | .unsupported _ loc => loc
  | .scopeOutOfRange _ _ _ loc => loc
  | .invalidHelperCall _ _ loc => loc
  | _ => none

def ofError (e : CompileError) : Diagnostic := ⟨.error, codeOf e, e.message, locOf e⟩

def text (d : Diagnostic) : String :=
  d.severity.label ++ "[" ++ d.code ++ "]: " ++ d.message ++
    match d.loc with
    | some l => " (" ++ l.text ++ ")"
    | none => ""

/-- A diagnostic as a document; a location is written only if there is one. -/
def toJson (d : Diagnostic) : Json :=
  .obj ([("kind", .str d.severity.name), ("code", .str d.code), ("message", .str d.message)] ++
    d.loc.toList.map fun l => ("location", l.toJson))

def ofJson? (j : Json) : Option Diagnostic := do
  let r ← j.row? ["kind", "code", "message", "location"]
  let severity ← r.need "kind" fun j => (j.name? .root ["Error", "Warning"]).bind Severity.ofName?
  let code ← r.need "code" Json.str?
  let message ← r.need "message" Json.str?
  let loc ← r.mayBeNull "location" Location.ofJson?
  return ⟨severity, code, message, loc⟩

end Diagnostic

structure Report where
  entries : List Diagnostic
deriving Repr, DecidableEq

namespace Report

def empty : Report := ⟨[]⟩

def add (r : Report) (d : Diagnostic) : Report := ⟨r.entries ++ [d]⟩

def warn (r : Report) (code message : String) (loc : Option Location) : Report :=
  r.add ⟨.warning, code, message, loc⟩

def hasErrors (r : Report) : Bool := r.entries.any fun d => d.severity == .error

@[simp] theorem entries_add (r : Report) (d : Diagnostic) : (r.add d).entries = r.entries ++ [d] := rfl

end Report

end Stencil
