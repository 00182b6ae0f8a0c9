import RouteAtlas.Calendar
import RouteAtlas.CommandLine.Arguments
import RouteAtlas.CommandLine.Commands
import RouteAtlas.CommandLine.Program
import RouteAtlas.Completion.Failure
import RouteAtlas.Completion.Fence
import RouteAtlas.Completion.Prompt
import RouteAtlas.Completion.Request
import RouteAtlas.Completion.Session
import RouteAtlas.Console
import RouteAtlas.Decimal.Reading
import RouteAtlas.Decimal.Shortest
import RouteAtlas.Document.Builder
import RouteAtlas.Document.Components
import RouteAtlas.Document.Fragment
import RouteAtlas.Document.Loading
import RouteAtlas.Document.Operation
import RouteAtlas.Files.Glob
import RouteAtlas.Files.Path
import RouteAtlas.Files.Scan
import RouteAtlas.Files.Tree
import RouteAtlas.Generation.Assisted
import RouteAtlas.Generation.Quick
import RouteAtlas.Json.Reader
import RouteAtlas.Json.Writer
import RouteAtlas.Main
import RouteAtlas.Markdown
import RouteAtlas.Proofs.Draft
import RouteAtlas.Proofs.Fallback
import RouteAtlas.Proofs.Lifting
import RouteAtlas.Proofs.PathParameters
import RouteAtlas.Proofs.Retry
import RouteAtlas.Proofs.Synthesis
import RouteAtlas.Proofs.Table
import RouteAtlas.Proofs.Template
import RouteAtlas.Route.Basic
import RouteAtlas.Route.Decoding
import RouteAtlas.Route.Extract
import RouteAtlas.Route.Marker
import RouteAtlas.Route.Middleware
import RouteAtlas.Route.Sighting
import RouteAtlas.Route.Template
import RouteAtlas.Schema.Basic
import RouteAtlas.Schema.Dialect
import RouteAtlas.Schema.Evaluation
import RouteAtlas.Schema.Findings
import RouteAtlas.Schema.OpenApi30
import RouteAtlas.Schema.OpenApi31
import RouteAtlas.Script.Cursor
import RouteAtlas.Script.Expressions
import RouteAtlas.Script.Functions
import RouteAtlas.Script.Goal
import RouteAtlas.Script.Lexical
import RouteAtlas.Script.Markup
import RouteAtlas.Script.Parsing
import RouteAtlas.Script.Statements
import RouteAtlas.Script.Tree
import RouteAtlas.Script.Types
import RouteAtlas.Text.Basic
import RouteAtlas.Text.Casing
import RouteAtlas.Text.Printable
import RouteAtlas.Text.Quoted
import RouteAtlas.Text.Regex
import RouteAtlas.Text.Utf8
import RouteAtlas.Text.Word
import RouteAtlas.Validation.Checks
import RouteAtlas.Validation.Document
import RouteAtlas.Validation.Meaning
import RouteAtlas.Validation.Report
import RouteAtlas.Validation.Result
import RouteAtlas.Validation.Structure
import RouteAtlas.Validation.Template
import RouteAtlas.Value.Access
import RouteAtlas.Value.Basic
import RouteAtlas.Value.Decoding
import RouteAtlas.Value.Display
import RouteAtlas.Yaml.Lexer
import RouteAtlas.Yaml.Node
import RouteAtlas.Yaml.Reading
import RouteAtlas.Yaml.Scalar
import RouteAtlas.Yaml.Tag
import RouteAtlas.Yaml.Token
import RouteAtlas.Yaml.Writer
import RouteAtlas.Proofs.NormalPath
import RouteAtlas.Proofs.View
import RouteAtlas.Proofs.Steps
import RouteAtlas.Proofs.Shape
import RouteAtlas.Proofs.TagList
import RouteAtlas.Proofs.Coverage
import RouteAtlas.Proofs.JsonForm
import RouteAtlas.Proofs.FileWriting
import RouteAtlas.Proofs.Artifacts
import RouteAtlas.Proofs.Schedule
import RouteAtlas.Proofs.GoodPractice
import RouteAtlas.Proofs.RouteRecords
import RouteAtlas.Proofs.MarkdownForm
import RouteAtlas.Proofs.JsonReading
import RouteAtlas.Proofs.Utf8
import RouteAtlas.Proofs.RoundTrip
import RouteAtlas.Proofs.Traversal
import RouteAtlas.Proofs.Loading
import RouteAtlas.Proofs.Yaml.Spots
import RouteAtlas.Proofs.Yaml.Quoted
import RouteAtlas.Proofs.Yaml.Plain
import RouteAtlas.Proofs.Yaml.Layout
import RouteAtlas.Proofs.Yaml.Lexing
import RouteAtlas.Proofs.Yaml.Tokens
import RouteAtlas.Proofs.Yaml.Nodes
import RouteAtlas.Proofs.Yaml.Rereading
import RouteAtlas.Proofs.Yaml.RoundTrip
import RouteAtlas.Proofs.Script.Expressions
import RouteAtlas.Proofs.Script.Spelling
import RouteAtlas.Proofs.Script.Tracing
import RouteAtlas.Proofs.Script.Names
import RouteAtlas.Proofs.Script.Productions
import RouteAtlas.Proofs.Marking
import RouteAtlas.Proofs.Fences
import RouteAtlas.Proofs.FirstSightings
import RouteAtlas.Proofs.Merging
import RouteAtlas.Proofs.Adding
import RouteAtlas.Proofs.Components
import RouteAtlas.Proofs.Finishing
import RouteAtlas.Proofs.Sequences
import RouteAtlas.Proofs.Requirements
import RouteAtlas.Proofs.Reports
import RouteAtlas.Proofs.Verdict
import RouteAtlas.Proofs.Scanning
import RouteAtlas.Proofs.Globbing
import RouteAtlas.Proofs.Discovery
import RouteAtlas.Proofs.RecordDecoding
import RouteAtlas.Proofs.OperationForm
import RouteAtlas.Proofs.MarkdownTables
import RouteAtlas.Proofs.Literals
import RouteAtlas.Proofs.Patterns
import RouteAtlas.Proofs.Spellings
