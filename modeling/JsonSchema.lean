import JsonSchema.Address.V4
import JsonSchema.Address.V6
import JsonSchema.Check
import JsonSchema.CommandLine.Arguments
import JsonSchema.CommandLine.Report
import JsonSchema.Digest.Sha256
import JsonSchema.ErrorSet
import JsonSchema.Fault
import JsonSchema.Format
import JsonSchema.Format.Calendar
import JsonSchema.Format.HostName
import JsonSchema.Format.Phone
import JsonSchema.Format.Standard
import JsonSchema.Format.Style
import JsonSchema.Instance
import JsonSchema.Json.Basic
import JsonSchema.Json.Numeral
import JsonSchema.Json.Pointer
import JsonSchema.Json.Reader
import JsonSchema.Json.Text
import JsonSchema.Keyword.Additional
import JsonSchema.Keyword.Combinators
import JsonSchema.Keyword.Conditions
import JsonSchema.Keyword.Elements
import JsonSchema.Keyword.Properties
import JsonSchema.Keyword.Scalar
import JsonSchema.Keyword.Subschema
import JsonSchema.Keyword.TypeRule
import JsonSchema.Keywords
import JsonSchema.Location
import JsonSchema.Main
import JsonSchema.Number.Binary64
import JsonSchema.Number.Decimal
import JsonSchema.Number.Layout
import JsonSchema.Number.Shortest
import JsonSchema.Options
import JsonSchema.Plan.Basic
import JsonSchema.Plan.Cache
import JsonSchema.Plan.Compile
import JsonSchema.Plan.Key
import JsonSchema.Plan.Registry
import JsonSchema.Proofs.Absence
import JsonSchema.Proofs.Coercion
import JsonSchema.Proofs.Depth
import JsonSchema.Proofs.EntryOrder
import JsonSchema.Proofs.ErrorSet
import JsonSchema.Proofs.Evaluator
import JsonSchema.Proofs.Format.HostName
import JsonSchema.Proofs.Json.Contains
import JsonSchema.Proofs.Json.Equality
import JsonSchema.Proofs.Json.Pointer
import JsonSchema.Proofs.Json.Reordered
import JsonSchema.Proofs.Json.Text
import JsonSchema.Proofs.Judgement
import JsonSchema.Proofs.Keyword.Bounds
import JsonSchema.Proofs.Keyword.Coverage
import JsonSchema.Proofs.Keyword.Frame
import JsonSchema.Proofs.Keyword.Gap
import JsonSchema.Proofs.Keyword.Hands
import JsonSchema.Proofs.Keyword.Order
import JsonSchema.Proofs.Keyword.Parts
import JsonSchema.Proofs.Keyword.Places
import JsonSchema.Proofs.Keyword.Precision
import JsonSchema.Proofs.Keyword.Reading
import JsonSchema.Proofs.Keyword.Rearranged
import JsonSchema.Proofs.Keyword.Related
import JsonSchema.Proofs.Keyword.Remit
import JsonSchema.Proofs.Keyword.Reordered
import JsonSchema.Proofs.Keyword.Retention
import JsonSchema.Proofs.Keyword.Scale
import JsonSchema.Proofs.Keyword.SideBySide
import JsonSchema.Proofs.Keyword.Traversal
import JsonSchema.Proofs.Keyword.Verdict
import JsonSchema.Proofs.Ledger.Basic
import JsonSchema.Proofs.Ledger.Evaluation
import JsonSchema.Proofs.Ledger.History
import JsonSchema.Proofs.Ledger.Keywords
import JsonSchema.Proofs.Location
import JsonSchema.Proofs.MemberOrder
import JsonSchema.Proofs.Number.Extent
import JsonSchema.Proofs.Number.Grammar
import JsonSchema.Proofs.Number.Layout
import JsonSchema.Proofs.Number.Whole
import JsonSchema.Proofs.Path
import JsonSchema.Proofs.Plan.Adequacy
import JsonSchema.Proofs.Plan.Arrivals
import JsonSchema.Proofs.Plan.Cache
import JsonSchema.Proofs.Plan.Compile
import JsonSchema.Proofs.Plan.Content
import JsonSchema.Proofs.Plan.Failure
import JsonSchema.Proofs.Plan.Graph
import JsonSchema.Proofs.Plan.Kept
import JsonSchema.Proofs.Plan.Key
import JsonSchema.Proofs.Plan.Lifetime
import JsonSchema.Proofs.Plan.Recursion
import JsonSchema.Proofs.Plan.Retrieval
import JsonSchema.Proofs.Plan.Steps
import JsonSchema.Proofs.Plan.Stored
import JsonSchema.Proofs.Plan.Unique
import JsonSchema.Proofs.Reference.Base
import JsonSchema.Proofs.Reference.Inlining
import JsonSchema.Proofs.Reference.Place
import JsonSchema.Proofs.Reference.Remote
import JsonSchema.Proofs.Regex.Occurrence
import JsonSchema.Proofs.Requests
import JsonSchema.Proofs.Retention
import JsonSchema.Proofs.Retrieval
import JsonSchema.Proofs.Text
import JsonSchema.Proofs.Unicode.Folding
import JsonSchema.Proofs.Url.Fragment
import JsonSchema.Proofs.Url.Normal
import JsonSchema.Proofs.Url.Reading
import JsonSchema.Proofs.Url.Visible
import JsonSchema.Proofs.Validator
import JsonSchema.Proofs.Verdict
import JsonSchema.Regex.Basic
import JsonSchema.Regex.Brackets
import JsonSchema.Regex.CharSet
import JsonSchema.Regex.Error
import JsonSchema.Regex.Escape
import JsonSchema.Regex.Flags
import JsonSchema.Regex.Pattern
import JsonSchema.Regex.PropertyName
import JsonSchema.Regex.Reader
import JsonSchema.Regex.Size
import JsonSchema.Retrieval.Basic
import JsonSchema.Retrieval.Files
import JsonSchema.Retrieval.Memory
import JsonSchema.Run
import JsonSchema.Scope
import JsonSchema.Text.Blank
import JsonSchema.Text.Split
import JsonSchema.Text.Utf8
import JsonSchema.Unicode.Category
import JsonSchema.Unicode.Composition
import JsonSchema.Unicode.Folding
import JsonSchema.Unicode.Property
import JsonSchema.Unicode.Runs
import JsonSchema.Unicode.Script
import JsonSchema.Unicode.Shift
import JsonSchema.Url.Basic
import JsonSchema.Url.Domain
import JsonSchema.Url.Domain.Direction
import JsonSchema.Url.Domain.Joining
import JsonSchema.Url.Domain.Mapping
import JsonSchema.Url.FilePath
import JsonSchema.Url.Host
import JsonSchema.Url.Parser
import JsonSchema.Url.Percent
import JsonSchema.Url.Punycode
