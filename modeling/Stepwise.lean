import Stepwise.Condition
import Stepwise.Definition.Basic
import Stepwise.Definition.Document
import Stepwise.Definition.Reading
import Stepwise.Definition.Validation
import Stepwise.Disk.Files
import Stepwise.Disk.Path
import Stepwise.Effect
import Stepwise.Engine.Basic
import Stepwise.Engine.Completion
import Stepwise.Engine.Limit
import Stepwise.Engine.Ownership
import Stepwise.Engine.Run
import Stepwise.Execution.Basic
import Stepwise.Execution.Document
import Stepwise.Fault.Basic
import Stepwise.Fault.Named
import Stepwise.Fault.Place
import Stepwise.Fault.Text
import Stepwise.Json.Reader
import Stepwise.Json.Writer
import Stepwise.Main
import Stepwise.Mark
import Stepwise.Number.Binary64
import Stepwise.Number.Decimal
import Stepwise.Number.Numeral
import Stepwise.Proofs.Condition.Grammar
import Stepwise.Proofs.Condition.Reference
import Stepwise.Proofs.Definition.Accepted
import Stepwise.Proofs.Definition.Numbering
import Stepwise.Proofs.Definition.RoundTrip
import Stepwise.Proofs.Definition.Sound
import Stepwise.Proofs.Definition.Violations
import Stepwise.Proofs.Disk.Detour
import Stepwise.Proofs.Disk.Directory
import Stepwise.Proofs.Disk.Files
import Stepwise.Proofs.Disk.Path
import Stepwise.Proofs.Effect
import Stepwise.Proofs.Engine.Abort
import Stepwise.Proofs.Engine.Anonymous
import Stepwise.Proofs.Engine.Attempt
import Stepwise.Proofs.Engine.Beginning
import Stepwise.Proofs.Engine.Blame
import Stepwise.Proofs.Engine.Cancellation
import Stepwise.Proofs.Engine.Carrying
import Stepwise.Proofs.Engine.Chronicle
import Stepwise.Proofs.Engine.Claims
import Stepwise.Proofs.Engine.Classification
import Stepwise.Proofs.Engine.Clean
import Stepwise.Proofs.Engine.Cleanup
import Stepwise.Proofs.Engine.Concert
import Stepwise.Proofs.Engine.Constancy
import Stepwise.Proofs.Engine.Counting
import Stepwise.Proofs.Engine.Definition
import Stepwise.Proofs.Engine.Escape
import Stepwise.Proofs.Engine.Exposure
import Stepwise.Proofs.Engine.Follow
import Stepwise.Proofs.Engine.Halting
import Stepwise.Proofs.Engine.History
import Stepwise.Proofs.Engine.Interruption
import Stepwise.Proofs.Engine.Kept
import Stepwise.Proofs.Engine.Ledger
import Stepwise.Proofs.Engine.Matching
import Stepwise.Proofs.Engine.Outset
import Stepwise.Proofs.Engine.Ownership
import Stepwise.Proofs.Engine.Quiet
import Stepwise.Proofs.Engine.Reason
import Stepwise.Proofs.Engine.Recovery
import Stepwise.Proofs.Engine.Rehearsal
import Stepwise.Proofs.Engine.Rejection
import Stepwise.Proofs.Engine.Replay
import Stepwise.Proofs.Engine.Request
import Stepwise.Proofs.Engine.Resumed
import Stepwise.Proofs.Engine.Return
import Stepwise.Proofs.Engine.Saving
import Stepwise.Proofs.Engine.Snapshot
import Stepwise.Proofs.Engine.Solitary
import Stepwise.Proofs.Engine.Start
import Stepwise.Proofs.Engine.Stopping
import Stepwise.Proofs.Engine.System
import Stepwise.Proofs.Engine.TakingUp
import Stepwise.Proofs.Engine.Tale
import Stepwise.Proofs.Engine.Timeline
import Stepwise.Proofs.Engine.Turn
import Stepwise.Proofs.Engine.Verdict
import Stepwise.Proofs.Engine.WriteAhead
import Stepwise.Proofs.Execution.Bindings
import Stepwise.Proofs.Execution.Copy
import Stepwise.Proofs.Execution.Document
import Stepwise.Proofs.Execution.Lifecycle
import Stepwise.Proofs.Execution.Recall
import Stepwise.Proofs.Execution.Reread
import Stepwise.Proofs.Execution.RoundTrip
import Stepwise.Proofs.Execution.Times
import Stepwise.Proofs.Execution.Writable
import Stepwise.Proofs.Fault.Text
import Stepwise.Proofs.Json.Bare
import Stepwise.Proofs.Json.Forms
import Stepwise.Proofs.Json.Numeral
import Stepwise.Proofs.Json.Quotation
import Stepwise.Proofs.Json.Reading
import Stepwise.Proofs.Json.Rereading
import Stepwise.Proofs.Json.Spoken
import Stepwise.Proofs.Json.Writing
import Stepwise.Proofs.Number.Digits
import Stepwise.Proofs.Number.Rounding
import Stepwise.Proofs.Number.Shortest
import Stepwise.Proofs.Number.Spelling
import Stepwise.Proofs.Registry.Capabilities
import Stepwise.Proofs.Registry.Directory
import Stepwise.Proofs.Registry.Loading
import Stepwise.Proofs.Registry.Refusal
import Stepwise.Proofs.Registry.Roster
import Stepwise.Proofs.Registry.Workflows
import Stepwise.Proofs.Settings.Precedence
import Stepwise.Proofs.Settings.Quoting
import Stepwise.Proofs.Settings.Reloading
import Stepwise.Proofs.Settings.Variables
import Stepwise.Proofs.Store.Agreement
import Stepwise.Proofs.Store.Answers
import Stepwise.Proofs.Store.Atomic
import Stepwise.Proofs.Store.Cleanup
import Stepwise.Proofs.Store.Contents
import Stepwise.Proofs.Store.Folder
import Stepwise.Proofs.Store.Holding
import Stepwise.Proofs.Store.Keeping
import Stepwise.Proofs.Store.Keys
import Stepwise.Proofs.Store.Listing
import Stepwise.Proofs.Store.Loss
import Stepwise.Proofs.Store.Newest
import Stepwise.Proofs.Store.Order
import Stepwise.Proofs.Store.Reaching
import Stepwise.Proofs.Store.Reading
import Stepwise.Proofs.Store.Selection
import Stepwise.Proofs.Store.Stock
import Stepwise.Proofs.Template.Cutting
import Stepwise.Proofs.Template.Expansion
import Stepwise.Proofs.Template.Fault
import Stepwise.Proofs.Template.Identity
import Stepwise.Proofs.Template.Shape
import Stepwise.Proofs.Template.Substitution
import Stepwise.Proofs.Text.Blank
import Stepwise.Proofs.Text.Plain
import Stepwise.Proofs.Text.Utf8
import Stepwise.Proofs.Time.Calendar
import Stepwise.Proofs.Time.Iso
import Stepwise.Proofs.Value.Copy
import Stepwise.Proofs.Value.Key
import Stepwise.Proofs.Value.Obstacle
import Stepwise.Proofs.Value.Table
import Stepwise.Proofs.Value.Text
import Stepwise.Registry.Capabilities
import Stepwise.Registry.Loading
import Stepwise.Registry.Workflows
import Stepwise.Service
import Stepwise.Settings.Basic
import Stepwise.Settings.Environment
import Stepwise.Settings.Logging
import Stepwise.Settings.Reading
import Stepwise.Settings.Validation
import Stepwise.Shipped.Definitions
import Stepwise.Shipped.Demonstration
import Stepwise.Store.Basic
import Stepwise.Store.Folder
import Stepwise.Store.Order
import Stepwise.Template.Reference
import Stepwise.Template.Resolve
import Stepwise.Template.Token
import Stepwise.Text.Blank
import Stepwise.Text.Digit
import Stepwise.Text.Lowercase
import Stepwise.Text.Printable
import Stepwise.Text.Quoted
import Stepwise.Text.Utf8
import Stepwise.Time.Date
import Stepwise.Time.Iso
import Stepwise.Time.Moment
import Stepwise.Time.Span
import Stepwise.Value.Access
import Stepwise.Value.Basic
import Stepwise.Value.Copy
import Stepwise.Value.Equality
import Stepwise.Value.Text
import Stepwise.Yaml.Content
import Stepwise.Yaml.Cursor
import Stepwise.Yaml.Document
import Stepwise.Yaml.Graph
import Stepwise.Yaml.Lexer
import Stepwise.Yaml.Marking
import Stepwise.Yaml.Merge
import Stepwise.Yaml.Node
import Stepwise.Yaml.Part
import Stepwise.Yaml.PlainTag
import Stepwise.Yaml.Scalar
import Stepwise.Yaml.Token
