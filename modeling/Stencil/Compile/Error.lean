import Stencil.Template.Location

/-!
# Compile errors

An error names its cause; the wording of a cause is in one place.
-/

namespace Stencil

set_option autoImplicit false

open Template (Location)

/-- A construct that scripts have no counterpart of. -/
inductive Construct where
  | dataVariable (path : String)
  | partialTemplate (kind : String)
  | decorator (kind : String)
  | nestedProgram
  | mustacheOf (kind : String)
  | reservedHelper (name : String)
  | clashingHelper (name : String)
  | subExpression
  | positionalParams (count : Nat) (callee : String)
  | hashArguments (keys : List String) (callee : String)
  | blockParams (names : List String)
  | callThroughPath (path : String)
  | helperNamedBy (kind : String)
  | described (text : String)
deriving Repr, DecidableEq

def Construct.text : Construct → String
  | .dataVariable path => "data variable `" ++ path ++ "`"
  | .partialTemplate kind => "partial (" ++ kind ++ ")"
  | .decorator kind => "decorator (" ++ kind ++ ")"
  | .nestedProgram => "nested Program node"
  | .mustacheOf kind => kind ++ " in mustache position"
  | .reservedHelper name => "helper `" ++ name ++ "` (reserved word in JavaScript)"
  | .clashingHelper name => "helper `" ++ name ++ "` (clashes with a generated binding)"
  | .subExpression => "sub-expression"
  | .positionalParams count callee =>
    toString count ++ " positional parameter(s) to `" ++ callee ++ "`"
  | .hashArguments keys callee =>
    "hash argument(s) " ++ ", ".intercalate keys ++ " to `" ++ callee ++ "`"
  | .blockParams names => "block parameters `as |" ++ " ".intercalate names ++ "|`"
  | .callThroughPath path => "helper call through path `" ++ path ++ "`"
  | .helperNamedBy kind => kind ++ " as helper name"
  | .described text => text

inductive Misuse where
  | notABlock
  | oneParameter
  | described (text : String)
deriving Repr, DecidableEq

def Misuse.text : Misuse → String
  | .notABlock => "must be used as a block (`\x7b\x7b#if\x7d\x7d...\x7b\x7b/if\x7d\x7d`)"
  | .oneParameter => "expects exactly one parameter"
  | .described text => text

inductive CompileError where
  | notAProgram (found : String)
  | scopeOutOfRange (path : String) (depth current : Nat) (loc : Option Location)
  | invalidHelperCall (helper : String) (misuse : Misuse) (loc : Option Location)
  | unsupported (construct : Construct) (loc : Option Location)
  | helperResolution (helper cause : String)
  | unreadable (cause : String)
deriving Repr, DecidableEq

namespace CompileError

/-- Where, if that is known. -/
def place (loc : Option Location) : String :=
  match loc with
  | some l => " at " ++ l.text
  | none => ""

def message : CompileError → String
  | .notAProgram found => "Expected a Program node at the root, found " ++ found
  | .scopeOutOfRange path depth current loc =>
    "Path '" ++ path ++ "' reaches " ++ toString depth ++ " scope(s) up from nesting depth "
      ++ toString current ++ place loc
  | .invalidHelperCall helper misuse loc =>
    "Invalid call to '" ++ helper ++ "': " ++ misuse.text ++ place loc
  | .unsupported construct loc => "Unsupported construct: " ++ construct.text ++ place loc
  | .helperResolution helper cause => "Helper resolver failed for '" ++ helper ++ "': " ++ cause
  | .unreadable cause => "I/O error: " ++ cause

end CompileError

end Stencil
