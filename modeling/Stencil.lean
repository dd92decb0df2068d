import Stencil.CommandLine.Command
import Stencil.CommandLine.Dispatch
import Stencil.CommandLine.Grammar
import Stencil.CommandLine.Program
import Stencil.Condition
import Stencil.Config.File
import Stencil.Directive.Copy
import Stencil.Directive.Execute
import Stencil.Directive.Perform
import Stencil.Directive.Run
import Stencil.Directive.Spec
import Stencil.Fault
import Stencil.Files.Path
import Stencil.Files.Tree
import Stencil.Git
import Stencil.Inflection
import Stencil.Json.Print
import Stencil.Json.Read
import Stencil.Main
import Stencil.Message
import Stencil.Number.Double
import Stencil.Number.Literal
import Stencil.Number.Remainder
import Stencil.Number.Shortest
import Stencil.Project
import Stencil.Prompt.OptionList
import Stencil.Prompt.Pipeline
import Stencil.Prompt.Question
import Stencil.Prompt.Spec
import Stencil.Prompt.Truth
import Stencil.Proofs.CommandLine.Abandoned
import Stencil.Proofs.CommandLine.Defaults
import Stencil.Proofs.CommandLine.Faults
import Stencil.Proofs.Condition.Grammar
import Stencil.Proofs.Condition.Logic
import Stencil.Proofs.Config.RoundTrip
import Stencil.Proofs.Directive.Adopt
import Stencil.Proofs.Directive.Faults
import Stencil.Proofs.Directive.Grammar
import Stencil.Proofs.Directive.Untouched
import Stencil.Proofs.Directive.Withheld
import Stencil.Proofs.Files.After
import Stencil.Proofs.Files.Alike
import Stencil.Proofs.Files.Ancestors
import Stencil.Proofs.Files.Apart
import Stencil.Proofs.Files.Below
import Stencil.Proofs.Files.Dirs
import Stencil.Proofs.Files.Inside
import Stencil.Proofs.Files.Loss
import Stencil.Proofs.Files.Remove
import Stencil.Proofs.Files.Spare
import Stencil.Proofs.Files.Tree
import Stencil.Proofs.Files.Write
import Stencil.Proofs.Inflection.Casing
import Stencil.Proofs.Inflection.Repeated
import Stencil.Proofs.Inflection.RoundTrip
import Stencil.Proofs.Inflection.Rules
import Stencil.Proofs.Json.RoundTrip
import Stencil.Proofs.Json.Tokens
import Stencil.Proofs.Project.Global
import Stencil.Proofs.Project.Published
import Stencil.Proofs.Project.Replaced
import Stencil.Proofs.Project.Saved
import Stencil.Proofs.Prompt.Collect
import Stencil.Proofs.Prompt.Fill
import Stencil.Proofs.Prompt.Grammar
import Stencil.Proofs.Prompt.Heard
import Stencil.Proofs.Prompt.OptionList
import Stencil.Proofs.Prompt.Read
import Stencil.Proofs.Prompt.Tracks
import Stencil.Proofs.Prompt.Unasked
import Stencil.Proofs.Prompt.Validated
import Stencil.Proofs.Render.Binary
import Stencil.Proofs.Render.Blind
import Stencil.Proofs.Render.Failure
import Stencil.Proofs.Render.Segmentation
import Stencil.Proofs.Render.Substitution
import Stencil.Proofs.Scaffold.Again
import Stencil.Proofs.Scaffold.Calls
import Stencil.Proofs.Scaffold.Complete
import Stencil.Proofs.Scaffold.Inside
import Stencil.Proofs.Scaffold.Overwrite
import Stencil.Proofs.Scaffold.Places
import Stencil.Proofs.Scaffold.Redo
import Stencil.Proofs.Scaffold.Stopped
import Stencil.Proofs.Scaffold.Trace
import Stencil.Proofs.Scaffold.Walk
import Stencil.Proofs.Script.Data
import Stencil.Proofs.Script.Spared
import Stencil.Proofs.Script.Variables
import Stencil.Proofs.Session.Files
import Stencil.Proofs.Session.Open
import Stencil.Proofs.Session.Sample
import Stencil.Proofs.Session.Scope
import Stencil.Proofs.Sorted
import Stencil.Proofs.Step
import Stencil.Proofs.Store.Entries
import Stencil.Proofs.Store.Lens
import Stencil.Proofs.Store.Maps
import Stencil.Proofs.Store.Merged
import Stencil.Proofs.Store.Replaced
import Stencil.Proofs.Store.Taken
import Stencil.Proofs.Template.Agreed
import Stencil.Proofs.Template.Authored
import Stencil.Proofs.Template.Checked
import Stencil.Proofs.Template.Clone
import Stencil.Proofs.Template.Deferred
import Stencil.Proofs.Template.Dialogue
import Stencil.Proofs.Template.Find
import Stencil.Proofs.Template.Force
import Stencil.Proofs.Template.Installed
import Stencil.Proofs.Template.Listed
import Stencil.Proofs.Template.Make
import Stencil.Proofs.Template.Namespace
import Stencil.Proofs.Template.Questions
import Stencil.Proofs.Template.Register
import Stencil.Proofs.Template.Rejected
import Stencil.Proofs.Template.Removed
import Stencil.Proofs.Text.Bytes
import Stencil.Proofs.Text.Mark
import Stencil.Proofs.Text.Pattern
import Stencil.Proofs.Text.Pieces
import Stencil.Proofs.Transform.Chain
import Stencil.Proofs.Unicode.Ascii
import Stencil.Proofs.Value
import Stencil.Proofs.Words.Boundary
import Stencil.Proofs.Words.NormalForm
import Stencil.Render.Basic
import Stencil.Render.Content
import Stencil.Render.Segment
import Stencil.Scaffold
import Stencil.Script.Datum
import Stencil.Script.Env
import Stencil.Script.Function
import Stencil.Script.Operation
import Stencil.Script.Place
import Stencil.Script.Program
import Stencil.Script.Pure
import Stencil.Script.Reader
import Stencil.Script.Run
import Stencil.Script.Scope
import Stencil.Script.Simplify
import Stencil.Script.Token
import Stencil.Session.Basic
import Stencil.Session.Guard
import Stencil.Settings
import Stencil.Shell.Arithmetic
import Stencil.Shell.Command
import Stencil.Shell.Expand
import Stencil.Shell.Format
import Stencil.Shell.Run
import Stencil.Shell.State
import Stencil.Shell.Test
import Stencil.Shell.Token
import Stencil.Shell.Wild
import Stencil.Shell.Words
import Stencil.Step
import Stencil.Store
import Stencil.Template.Authoring
import Stencil.Template.Config
import Stencil.Template.Find
import Stencil.Template.Load
import Stencil.Template.Make
import Stencil.Template.Reference
import Stencil.Template.Repository
import Stencil.Text
import Stencil.Text.Glob
import Stencil.Text.Lossy
import Stencil.Text.Pattern
import Stencil.Transform
import Stencil.Unicode.Blank
import Stencil.Unicode.Case
import Stencil.Unicode.Letter
import Stencil.Unicode.Printable
import Stencil.Unicode.Span
import Stencil.Value
import Stencil.Words
import Stencil.World
