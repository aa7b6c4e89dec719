import ApiAdmission.Json.Reader
import ApiAdmission.Number.Reader
import ApiAdmission.Number.Shortest
import ApiAdmission.Text.Lines
import ApiAdmission.Text.Quoted
import ApiAdmission.Text.Word
import ApiAdmission.Tree.Literal
import ApiAdmission.Yaml.Cursor
import ApiAdmission.Yaml.Token
import ApiAdmission.Yaml.Token.Scalar
import ApiAdmission.World.Utf8
import ApiAdmission.Yaml.Token.Property
import ApiAdmission.Yaml.Token.Scanner
import ApiAdmission.Yaml.Scalar
import ApiAdmission.Yaml.Node
import ApiAdmission.Yaml.Value
import ApiAdmission.Breakdown
import ApiAdmission.Document.Encoding
import ApiAdmission.Document.Parse
import ApiAdmission.Reference.Scan
import ApiAdmission.Tree.Pointer
import ApiAdmission.Diagnostic.Basic
import ApiAdmission.Document.Classify
import ApiAdmission.Paths.Basic
import ApiAdmission.Paths.Check
import ApiAdmission.Level
import ApiAdmission.Report.Basic
import ApiAdmission.Report.Counters
import ApiAdmission.Report.Sentence
import ApiAdmission.Resolver.Basic
import ApiAdmission.Diagnostic.Rule
import ApiAdmission.Validation.Family
import ApiAdmission.Validation.Text
import ApiAdmission.World.FileSystem
import ApiAdmission.World.RealPath
import ApiAdmission.Url.Basic
import ApiAdmission.Url.Join
import ApiAdmission.Reference.Load
import ApiAdmission.Reference.Location
import ApiAdmission.Reference.Resolution
import ApiAdmission.Reference.Surroundings
import ApiAdmission.World.Change
import ApiAdmission.Pattern.Basic
import ApiAdmission.Pattern.Reader
import ApiAdmission.Schema.Kind
import ApiAdmission.Schema.Violation
import ApiAdmission.Schema.Assertion
import ApiAdmission.Schema.Reference
import ApiAdmission.Schema.Validate
import ApiAdmission.Schema.Describe
import ApiAdmission.Standard.FourthDraft
import ApiAdmission.Standard.Swagger2
import ApiAdmission.Standard.OpenApi30
import ApiAdmission.Standard.OpenApi31
import ApiAdmission.Definition.Finding
import ApiAdmission.Definition.Place
import ApiAdmission.Definition.Structure
import ApiAdmission.Resolver.Standard
import ApiAdmission.Ignore.Glob
import ApiAdmission.Ignore.Pattern
import ApiAdmission.Source.Basic
import ApiAdmission.Source.Walk
import ApiAdmission.Batch.Basic
import ApiAdmission.Number.Setting
import ApiAdmission.Record.Complaint
import ApiAdmission.Record.Field
import ApiAdmission.Report.Record
import ApiAdmission.Settings.Basic
import ApiAdmission.Settings.Directory
import ApiAdmission.Settings.Layer
import ApiAdmission.Cache.Basic
import ApiAdmission.Cache.Load
import ApiAdmission.Cache.Loader
import ApiAdmission.Console.Table
import ApiAdmission.Json.Writer
import ApiAdmission.Markup.Basic
import ApiAdmission.Markup.Colour
import ApiAdmission.Markup.Render
import ApiAdmission.Console.Basic
import ApiAdmission.Cache.Directory
import ApiAdmission.CommandLine.Arguments
import ApiAdmission.CommandLine.Run
import ApiAdmission.CommandLine.Demand
import ApiAdmission.Main
import ApiAdmission.Proofs.Consultation
import ApiAdmission.Proofs.Diagnostic.Findings
import ApiAdmission.Proofs.Diagnostic.Wording
import ApiAdmission.Proofs.Paths.Checks
import ApiAdmission.Proofs.Paths.Conflicts
import ApiAdmission.Proofs.Validation.Reports
import ApiAdmission.Proofs.Validation.Acceptance
import ApiAdmission.Proofs.Validation.Levels
import ApiAdmission.Proofs.Validation.Calls
import ApiAdmission.Proofs.World.TextFile
import ApiAdmission.Proofs.World.RealPath
import ApiAdmission.Proofs.World.Outline
import ApiAdmission.Proofs.Batch.Completion
import ApiAdmission.Proofs.Batch.Counting
import ApiAdmission.Proofs.Reference.Loading
import ApiAdmission.Proofs.Reference.Expansion
import ApiAdmission.Proofs.Reference.PlainExpansion
import ApiAdmission.Proofs.Reference.Nesting
import ApiAdmission.Proofs.Reference.Termination
import ApiAdmission.Proofs.Reference.Strictness
import ApiAdmission.Proofs.Reference.LeftReferences
import ApiAdmission.Proofs.Text.Search
import ApiAdmission.Proofs.Reference.Messages
import ApiAdmission.Proofs.Reference.Outcomes
import ApiAdmission.Proofs.Validation.Signals
import ApiAdmission.Proofs.Reference.Worlds
import ApiAdmission.Proofs.Reference.Collecting
import ApiAdmission.Proofs.Reference.Scanning
import ApiAdmission.Proofs.Cache.Loader
import ApiAdmission.Proofs.Reference.Isolation
import ApiAdmission.Proofs.Schema.Unexpected
import ApiAdmission.Proofs.Settings.Resolution
import ApiAdmission.Proofs.Settings.Faults
import ApiAdmission.Proofs.CommandLine.Layouts
import ApiAdmission.Proofs.Reference.Fetched
import ApiAdmission.Proofs.Source.Walks
import ApiAdmission.Proofs.Tree.Pointers
import ApiAdmission.Proofs.Reference.ArrayIndexes
import ApiAdmission.Proofs.Reference.Remembering
import ApiAdmission.Proofs.Source.FirstNames
import ApiAdmission.Proofs.Cache.Transparency
import ApiAdmission.Proofs.Reference.CycleKeys
import ApiAdmission.Proofs.Schema.Described
import ApiAdmission.Proofs.Schema.Raised
import ApiAdmission.Proofs.Definition.Noted
import ApiAdmission.Proofs.Definition.Told
import ApiAdmission.Proofs.Settings.MergedPlaces
import ApiAdmission.Proofs.Markup.Shown
import ApiAdmission.Proofs.Markup.Escaped
import ApiAdmission.Proofs.Console.Styles
import ApiAdmission.Proofs.Console.Reports
import ApiAdmission.Proofs.CommandLine.Errors
