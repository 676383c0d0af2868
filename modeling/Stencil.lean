import Stencil.CommandLine.Arguments
import Stencil.CommandLine.Folder
import Stencil.CommandLine.Run
import Stencil.Compile.Diagnostic
import Stencil.Compile.Error
import Stencil.Compile.HelperTable
import Stencil.Compile.Options
import Stencil.Compile.Pass
import Stencil.Decimal.Layout
import Stencil.Decimal.Shortest
import Stencil.Evaluator.Basic
import Stencil.Evaluator.Error
import Stencil.Evaluator.Routine
import Stencil.Json.Basic
import Stencil.Json.Fault
import Stencil.Json.Number
import Stencil.Json.Numeral
import Stencil.Json.Quoted
import Stencil.Json.Reader
import Stencil.Json.Record
import Stencil.Json.Token
import Stencil.Json.Writer
import Stencil.Main
import Stencil.Proofs.CommandLine.Arguments
import Stencil.Proofs.CommandLine.Folder
import Stencil.Proofs.CommandLine.Run
import Stencil.Proofs.Compile.Acceptance
import Stencil.Proofs.Compile.Asking
import Stencil.Proofs.Compile.BlockParams
import Stencil.Proofs.Compile.Capture
import Stencil.Proofs.Compile.Comments
import Stencil.Proofs.Compile.Correctness
import Stencil.Proofs.Compile.Duality
import Stencil.Proofs.Compile.Emitting
import Stencil.Proofs.Compile.Frame
import Stencil.Proofs.Compile.Generated
import Stencil.Proofs.Compile.Grammar
import Stencil.Proofs.Compile.HelperCall
import Stencil.Proofs.Compile.Imports
import Stencil.Proofs.Compile.Literals
import Stencil.Proofs.Compile.Lockstep
import Stencil.Proofs.Compile.Markup
import Stencil.Proofs.Compile.Mentions
import Stencil.Proofs.Compile.Prune
import Stencil.Proofs.Compile.Recording
import Stencil.Proofs.Compile.Remembering
import Stencil.Proofs.Compile.Rendering
import Stencil.Proofs.Compile.Runnable
import Stencil.Proofs.Compile.Safety
import Stencil.Proofs.Compile.Scoping
import Stencil.Proofs.Compile.Sources
import Stencil.Proofs.Compile.Step
import Stencil.Proofs.Compile.Stepwise
import Stencil.Proofs.Compile.Translation
import Stencil.Proofs.Compile.Warnings
import Stencil.Proofs.Evaluator.Fuel
import Stencil.Proofs.Evaluator.Naming
import Stencil.Proofs.Evaluator.Outcome
import Stencil.Proofs.Evaluator.Settling
import Stencil.Proofs.Json.Buffering
import Stencil.Proofs.Json.Merging
import Stencil.Proofs.Json.Numeral
import Stencil.Proofs.Json.Reading
import Stencil.Proofs.Json.Relaxed
import Stencil.Proofs.Json.Scanning
import Stencil.Proofs.Script.Decoding
import Stencil.Proofs.Script.Depth
import Stencil.Proofs.Script.Literals
import Stencil.Proofs.Script.Name
import Stencil.Proofs.Script.Nesting
import Stencil.Proofs.Script.Reading
import Stencil.Proofs.Script.Site
import Stencil.Proofs.Template.Decoding
import Stencil.Proofs.Template.Interpretation
import Stencil.Proofs.Template.Merging
import Stencil.Proofs.Template.Reading
import Stencil.Proofs.Template.Statement
import Stencil.Proofs.Text.CodeSet
import Stencil.Proofs.Text.Identifier
import Stencil.Proofs.Value.Html
import Stencil.Proofs.Value.Index
import Stencil.Script.Basic
import Stencil.Script.Build
import Stencil.Script.Decode
import Stencil.Script.Depth
import Stencil.Script.Encode
import Stencil.Script.Name
import Stencil.Template.Basic
import Stencil.Template.Build
import Stencil.Template.Decode
import Stencil.Template.Encode
import Stencil.Template.Location
import Stencil.Text.Alphabetic
import Stencil.Text.Hidden
import Stencil.Text.Numeric
import Stencil.Text.Range
import Stencil.Text.Shown
import Stencil.Value.Basic
import Stencil.Value.Escape
import Stencil.Value.Text
