import Guardrail.Cycle.Basic
import Guardrail.Cycle.Evaluation
import Guardrail.Cycle.Run
import Guardrail.Cycle.Stream
import Guardrail.Defaults
import Guardrail.Dict
import Guardrail.Error
import Guardrail.Extraction
import Guardrail.Guard.Basic
import Guardrail.Guard.Invoke
import Guardrail.Guard.Plan
import Guardrail.Guard.Route
import Guardrail.Guard.Session
import Guardrail.Json.Basic
import Guardrail.Json.Numeral
import Guardrail.Json.Reader
import Guardrail.Json.Record
import Guardrail.Json.Writer
import Guardrail.Message
import Guardrail.Number.Binary64
import Guardrail.Number.Shortest
import Guardrail.Outcome
import Guardrail.Pass
import Guardrail.Path.Basic
import Guardrail.Path.Text
import Guardrail.Policy
import Guardrail.Proofs.Cycle.Carried
import Guardrail.Proofs.Cycle.Failure
import Guardrail.Proofs.Cycle.FieldReask
import Guardrail.Proofs.Cycle.History
import Guardrail.Proofs.Cycle.Recorded
import Guardrail.Proofs.Cycle.Rounds
import Guardrail.Proofs.Cycle.Run
import Guardrail.Proofs.Cycle.Verdict
import Guardrail.Proofs.Dict.Insert
import Guardrail.Proofs.Dict.Lookup
import Guardrail.Proofs.Dict.Update
import Guardrail.Proofs.Extraction.Search
import Guardrail.Proofs.Extraction.Serialized
import Guardrail.Proofs.Guard.Agreement
import Guardrail.Proofs.Guard.Described
import Guardrail.Proofs.Guard.EntryPoint
import Guardrail.Proofs.Guard.Failure
import Guardrail.Proofs.Guard.Metadata
import Guardrail.Proofs.Guard.Planned
import Guardrail.Proofs.Json.Balanced
import Guardrail.Proofs.Json.Consumed
import Guardrail.Proofs.Json.Equality
import Guardrail.Proofs.Json.Fields
import Guardrail.Proofs.Json.Ordered
import Guardrail.Proofs.Json.Parsed
import Guardrail.Proofs.Json.RoundTrip
import Guardrail.Proofs.Number.Nearest
import Guardrail.Proofs.Pass.Annotated
import Guardrail.Proofs.Pass.Audit
import Guardrail.Proofs.Pass.Lenient
import Guardrail.Proofs.Pass.Metadata
import Guardrail.Proofs.Pass.Origin
import Guardrail.Proofs.Pass.Raised
import Guardrail.Proofs.Pass.Structural
import Guardrail.Proofs.Pass.Unit
import Guardrail.Proofs.Pass.Untouched
import Guardrail.Proofs.Pass.Visit
import Guardrail.Proofs.Pass.Visits
import Guardrail.Proofs.Path.Access
import Guardrail.Proofs.Path.Child
import Guardrail.Proofs.Path.Frame
import Guardrail.Proofs.Path.Ordered
import Guardrail.Proofs.Path.Origin
import Guardrail.Proofs.Path.Overwrite
import Guardrail.Proofs.Path.Restore
import Guardrail.Proofs.Path.Restricted
import Guardrail.Proofs.Path.Rewrite
import Guardrail.Proofs.Path.Text
import Guardrail.Proofs.Path.Units
import Guardrail.Proofs.Reask.Branches
import Guardrail.Proofs.Reask.Described
import Guardrail.Proofs.Reask.Narrowed
import Guardrail.Proofs.Reask.Rendered
import Guardrail.Proofs.Record.Growth
import Guardrail.Proofs.Record.Reread
import Guardrail.Proofs.Record.Retention
import Guardrail.Proofs.Regex.Bracketed
import Guardrail.Proofs.Regex.Construct
import Guardrail.Proofs.Regex.Place
import Guardrail.Proofs.Regex.Search
import Guardrail.Proofs.Regex.Tail
import Guardrail.Proofs.Regex.Wrapped
import Guardrail.Proofs.Remote.LastSession
import Guardrail.Proofs.Remote.Shown
import Guardrail.Proofs.Stream.Ending
import Guardrail.Proofs.Stream.Handle
import Guardrail.Proofs.Stream.OneShot
import Guardrail.Proofs.Stream.Polls
import Guardrail.Proofs.Template.Literal
import Guardrail.Proofs.Template.Split
import Guardrail.Proofs.Validator.Inserted
import Guardrail.Proofs.Validator.IntegerRange
import Guardrail.Proofs.Validator.Order
import Guardrail.Proofs.Validator.Remade
import Guardrail.Proofs.Validator.Repaired
import Guardrail.Proofs.Validator.Required
import Guardrail.Proofs.Validator.WholeMatch
import Guardrail.Reask.Inputs
import Guardrail.Reask.Prune
import Guardrail.Record.Archived
import Guardrail.Record.Call
import Guardrail.Record.History
import Guardrail.Record.Inputs
import Guardrail.Record.Outputs
import Guardrail.Record.Timestamp
import Guardrail.Reference
import Guardrail.Regex.Basic
import Guardrail.Regex.Blueprint
import Guardrail.Regex.Bracket
import Guardrail.Regex.CharClass
import Guardrail.Regex.Escape
import Guardrail.Regex.Footprint
import Guardrail.Regex.Limit
import Guardrail.Regex.Parser
import Guardrail.Regex.Property
import Guardrail.Regex.SlotCache
import Guardrail.Regex.Steps
import Guardrail.Regex.Syntax
import Guardrail.Registry
import Guardrail.Remote.Answer
import Guardrail.Remote.Connection
import Guardrail.Remote.Delegation
import Guardrail.Remote.Descriptor
import Guardrail.Remote.Http
import Guardrail.Remote.Payload
import Guardrail.Remote.Service
import Guardrail.Report
import Guardrail.Schema
import Guardrail.Target.Basic
import Guardrail.Target.Request
import Guardrail.Target.Script
import Guardrail.Template
import Guardrail.Text.Alphanumeric
import Guardrail.Text.Blank
import Guardrail.Text.CharSet
import Guardrail.Text.Lowercase
import Guardrail.Text.Natural
import Guardrail.Text.Property.Age
import Guardrail.Text.Property.Alphabetic
import Guardrail.Text.Property.Assigned
import Guardrail.Text.Property.Case
import Guardrail.Text.Property.CaseChange
import Guardrail.Text.Property.ClusterBreak
import Guardrail.Text.Property.Emoji
import Guardrail.Text.Property.Format
import Guardrail.Text.Property.Graphic
import Guardrail.Text.Property.Identifier
import Guardrail.Text.Property.Ideograph
import Guardrail.Text.Property.Layout
import Guardrail.Text.Property.Letter
import Guardrail.Text.Property.Mark
import Guardrail.Text.Property.Math
import Guardrail.Text.Property.Modifier
import Guardrail.Text.Property.Numeric
import Guardrail.Text.Property.Prose
import Guardrail.Text.Property.Punctuation
import Guardrail.Text.Property.Script
import Guardrail.Text.Property.ScriptExtension
import Guardrail.Text.Property.SentenceBreak
import Guardrail.Text.Property.Symbol
import Guardrail.Text.Property.WordBreak
import Guardrail.Text.Quoted
import Guardrail.Text.Utf8
import Guardrail.Validator.Arguments
import Guardrail.Validator.Basic
import Guardrail.Validator.Choices
import Guardrail.Validator.Length
import Guardrail.Validator.Line
import Guardrail.Validator.Pattern
import Guardrail.Validator.Range
import Guardrail.ValidatorMap
import Guardrail.Verdict
