import SchemaStore.Backend.Script
import SchemaStore.Database.Host
import SchemaStore.Dsl.SchemaFile
import SchemaStore.Error.Record
import SchemaStore.Json.Parser
import SchemaStore.Json.Printer
import SchemaStore.Live.Reflection
import SchemaStore.Proofs.Backend.Attempts
import SchemaStore.Proofs.Backend.Ending
import SchemaStore.Proofs.Backend.Program
import SchemaStore.Proofs.Backend.Retry
import SchemaStore.Proofs.Clause.Bound
import SchemaStore.Proofs.Clause.Decision
import SchemaStore.Proofs.Clause.Evaluation
import SchemaStore.Proofs.Clause.Grouping
import SchemaStore.Proofs.Clause.Placeholder
import SchemaStore.Proofs.Clause.Precedence
import SchemaStore.Proofs.Clause.Reader
import SchemaStore.Proofs.Clause.Scanner
import SchemaStore.Proofs.Clause.Written
import SchemaStore.Proofs.Database.Change
import SchemaStore.Proofs.Database.Direction
import SchemaStore.Proofs.Database.Failure
import SchemaStore.Proofs.Database.Joining
import SchemaStore.Proofs.Database.Order
import SchemaStore.Proofs.Database.Reading
import SchemaStore.Proofs.Database.Service
import SchemaStore.Proofs.Database.Sharing
import SchemaStore.Proofs.Database.Writing
import SchemaStore.Proofs.Ddl.Addition
import SchemaStore.Proofs.Ddl.Arrangement
import SchemaStore.Proofs.Ddl.Comparison
import SchemaStore.Proofs.Ddl.Creation
import SchemaStore.Proofs.Ddl.Declared
import SchemaStore.Proofs.Ddl.Distinct
import SchemaStore.Proofs.Ddl.Effect
import SchemaStore.Proofs.Ddl.Enforcement
import SchemaStore.Proofs.Ddl.Findings
import SchemaStore.Proofs.Ddl.Naming
import SchemaStore.Proofs.Ddl.Planned
import SchemaStore.Proofs.Ddl.Prerequisite
import SchemaStore.Proofs.Ddl.Rendering
import SchemaStore.Proofs.Ddl.Restatement
import SchemaStore.Proofs.Ddl.Resumption
import SchemaStore.Proofs.Dsl.Blame
import SchemaStore.Proofs.Dsl.Body
import SchemaStore.Proofs.Dsl.Declaration
import SchemaStore.Proofs.Dsl.Division
import SchemaStore.Proofs.Dsl.Edit
import SchemaStore.Proofs.Dsl.Field
import SchemaStore.Proofs.Dsl.Form
import SchemaStore.Proofs.Dsl.Line
import SchemaStore.Proofs.Dsl.Numbering
import SchemaStore.Proofs.Dsl.Printer
import SchemaStore.Proofs.Dsl.Quotation
import SchemaStore.Proofs.Dsl.Reading
import SchemaStore.Proofs.Dsl.RoundTrip
import SchemaStore.Proofs.Dsl.Step
import SchemaStore.Proofs.Dsl.Token
import SchemaStore.Proofs.Dsl.Tokenization
import SchemaStore.Proofs.Dsl.Valid
import SchemaStore.Proofs.Filter.Grammar
import SchemaStore.Proofs.Filter.Meaning
import SchemaStore.Proofs.Filter.Membership
import SchemaStore.Proofs.Filter.Offence
import SchemaStore.Proofs.Filter.Operands
import SchemaStore.Proofs.Filter.Parts
import SchemaStore.Proofs.Filter.Shape
import SchemaStore.Proofs.Filter.Template
import SchemaStore.Proofs.Filter.Verdict
import SchemaStore.Proofs.Live.Literal
import SchemaStore.Proofs.Live.Reported
import SchemaStore.Proofs.Live.Wrapped
import SchemaStore.Proofs.Outcome
import SchemaStore.Proofs.Query.Assignment
import SchemaStore.Proofs.Query.Chaining
import SchemaStore.Proofs.Query.Counting
import SchemaStore.Proofs.Query.Criteria
import SchemaStore.Proofs.Query.Deletion
import SchemaStore.Proofs.Query.Exclusion
import SchemaStore.Proofs.Query.Extension
import SchemaStore.Proofs.Query.Fetching
import SchemaStore.Proofs.Query.Guard
import SchemaStore.Proofs.Query.Holding
import SchemaStore.Proofs.Query.Identity
import SchemaStore.Proofs.Query.Inclusion
import SchemaStore.Proofs.Query.Issue
import SchemaStore.Proofs.Query.Lookahead
import SchemaStore.Proofs.Query.Lookup
import SchemaStore.Proofs.Query.Nesting
import SchemaStore.Proofs.Query.Operation
import SchemaStore.Proofs.Query.Pages
import SchemaStore.Proofs.Query.Placeholder
import SchemaStore.Proofs.Query.Reference
import SchemaStore.Proofs.Query.Refusal
import SchemaStore.Proofs.Query.Removal
import SchemaStore.Proofs.Query.Served
import SchemaStore.Proofs.Query.Shared
import SchemaStore.Proofs.Query.Steps
import SchemaStore.Proofs.Query.Update
import SchemaStore.Proofs.Query.Upsert
import SchemaStore.Proofs.Query.Windows
import SchemaStore.Proofs.Reconciliation.Attempt
import SchemaStore.Proofs.Reconciliation.Completion
import SchemaStore.Proofs.Reconciliation.Constraint
import SchemaStore.Proofs.Reconciliation.Ending
import SchemaStore.Proofs.Reconciliation.KnownCode
import SchemaStore.Proofs.Reconciliation.Locking
import SchemaStore.Proofs.Reconciliation.Order
import SchemaStore.Proofs.Reconciliation.Reporting
import SchemaStore.Proofs.Reconciliation.Schedule
import SchemaStore.Proofs.Reconciliation.Sequence
import SchemaStore.Proofs.Reconciliation.Stage
import SchemaStore.Proofs.Schema.Input
import SchemaStore.Proofs.Schema.Order
import SchemaStore.Proofs.Schema.Spelling
import SchemaStore.Proofs.Schema.Valid
import SchemaStore.Proofs.Store.Lifecycle
import SchemaStore.Proofs.Text.Blank
import SchemaStore.Proofs.Text.Case
import SchemaStore.Proofs.Text.Numeral
import SchemaStore.Proofs.Text.Occurrence
import SchemaStore.Proofs.Text.Percent
import SchemaStore.Schema.Output
import SchemaStore.Store
