import Workflow.Condition.Evaluate
import Workflow.Condition.Expression
import Workflow.Condition.Fault
import Workflow.Condition.Remainder
import Workflow.Condition.Token
import Workflow.Configuration
import Workflow.Decimal.Read
import Workflow.Decimal.Shortest
import Workflow.Decimal.Text
import Workflow.Decode.Basic
import Workflow.Decode.Fault
import Workflow.Definition.Basic
import Workflow.Definition.Read
import Workflow.Definition.Step
import Workflow.Definition.ValueType
import Workflow.Definition.Write
import Workflow.Engine
import Workflow.Entries
import Workflow.Folder
import Workflow.Graph.Basic
import Workflow.Graph.Plan
import Workflow.Graph.Reach
import Workflow.Graph.Search
import Workflow.Inputs
import Workflow.Json.Basic
import Workflow.Json.Read
import Workflow.Json.Size
import Workflow.Json.Text
import Workflow.Pattern.Automaton.CharStates
import Workflow.Pattern.Automaton.Draft
import Workflow.Pattern.Automaton.Trie
import Workflow.Pattern.Basic
import Workflow.Pattern.ByteSequence
import Workflow.Pattern.Class
import Workflow.Pattern.Cursor
import Workflow.Pattern.Fold
import Workflow.Pattern.Form
import Workflow.Pattern.Meaning
import Workflow.Pattern.Property.Age
import Workflow.Pattern.Property.Basic
import Workflow.Pattern.Property.Break
import Workflow.Pattern.Property.Category
import Workflow.Pattern.Property.Flag
import Workflow.Pattern.Property.Name
import Workflow.Pattern.Property.Script
import Workflow.Pattern.Property.ScriptExtension
import Workflow.Pattern.Read
import Workflow.Pattern.Size
import Workflow.Pattern.Syntax
import Workflow.Refusal
import Workflow.Registry
import Workflow.Run.Attempt
import Workflow.Run.Clock
import Workflow.Run.Context
import Workflow.Run.Execution
import Workflow.Run.Outputs
import Workflow.Run.Progress
import Workflow.Run.Request
import Workflow.Run.Result
import Workflow.Run.Session
import Workflow.Step.Fault
import Workflow.Step.Handler
import Workflow.Step.Policy
import Workflow.Step.Projection
import Workflow.Template.Mask
import Workflow.Template.Path
import Workflow.Template.Piece
import Workflow.Template.Resolve
import Workflow.Unicode.Blank
import Workflow.Unicode.Case
import Workflow.Unicode.CharSet
import Workflow.Unicode.Class
import Workflow.Unicode.Decomposition
import Workflow.Unicode.Direction
import Workflow.Unicode.Joining
import Workflow.Unicode.ShiftRun
import Workflow.Url.Basic
import Workflow.Url.Domain
import Workflow.Url.Domain.Fate
import Workflow.Url.Domain.Label
import Workflow.Url.Fault
import Workflow.Url.Host
import Workflow.Url.Punycode
import Workflow.Validation.Pipeline
import Workflow.Validation.Report
import Workflow.Validation.Schema
import Workflow.Validation.Semantics
import Workflow.Version
import Workflow.Yaml.Cursor
import Workflow.Yaml.Document
import Workflow.Yaml.Event
import Workflow.Yaml.Problem
import Workflow.Yaml.Scalar
import Workflow.Yaml.Token
import Workflow.Yaml.TokenStream
import Workflow.Proofs.Graph.Plan
import Workflow.Proofs.Run.Settlement
import Workflow.Proofs.Run.Visibility
import Workflow.Proofs.Decode.Definition
import Workflow.Proofs.Document.Form
import Workflow.Proofs.Document.Views
import Workflow.Proofs.Document.Acceptance
import Workflow.Proofs.Run.Fallback
import Workflow.Proofs.Pattern.Digit
import Workflow.Proofs.Document.Diagnosis
import Workflow.Proofs.Run.Conclusion
import Workflow.Proofs.Run.Routing
import Workflow.Proofs.Run.Exclusion
import Workflow.Proofs.Run.Involvement
import Workflow.Proofs.Document.Retry
import Workflow.Proofs.Run.Finality
import Workflow.Proofs.Run.Repetition
import Workflow.Proofs.Run.Untaken
import Workflow.Proofs.Run.Selection
import Workflow.Proofs.Run.Capacity
import Workflow.Proofs.Run.Diagnostics
import Workflow.Proofs.Run.Sharing
import Workflow.Proofs.Run.Cancellation
import Workflow.Proofs.Template.Splice
import Workflow.Proofs.Template.Value
import Workflow.Proofs.Template.Resolve
import Workflow.Proofs.Document.References
import Workflow.Proofs.Run.References
import Workflow.Proofs.Document.Agreement
import Workflow.Proofs.Decimal.Whole
import Workflow.Proofs.Json.Proper
import Workflow.Proofs.Decode.Writing
import Workflow.Proofs.Document.RoundTrip
import Workflow.Proofs.Decode.Accepting
import Workflow.Proofs.Document.Conversion
import Workflow.Proofs.Decimal.Digits
import Workflow.Proofs.Condition.Scan
import Workflow.Proofs.Condition.Access
import Workflow.Proofs.Condition.Reference
import Workflow.Proofs.Run.Conditions
import Workflow.Proofs.Graph.Cycles
import Workflow.Proofs.Graph.Fault
import Workflow.Proofs.Version
import Workflow.Proofs.Document.Grammar
import Workflow.Proofs.Engine.Refinement
import Workflow.Proofs.Graph.Reach
import Workflow.Proofs.Graph.Repeats
import Workflow.Proofs.Document.Flow
import Workflow.Proofs.Run.Branches
import Workflow.Proofs.Document.Alarms
import Workflow.Proofs.Run.Names
import Workflow.Proofs.Inputs
import Workflow.Proofs.Run.Storage
import Workflow.Proofs.Run.Attempts
import Workflow.Proofs.Run.Retries
import Workflow.Proofs.Run.Overflow
import Workflow.Proofs.Step.Projection
import Workflow.Proofs.Step.Requests
import Workflow.Proofs.Url.Host
import Workflow.Proofs.Url.Layout
import Workflow.Proofs.Template.Signs
import Workflow.Proofs.Document.Addresses
import Workflow.Proofs.Run.Outputs
import Workflow.Proofs.Run.Budget
import Workflow.Proofs.Document.Inventory
