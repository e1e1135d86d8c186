import ModelStore.Association
import ModelStore.Criteria
import ModelStore.Datastore
import ModelStore.Fault
import ModelStore.Moment
import ModelStore.Number.Binary64
import ModelStore.Number.Decimal
import ModelStore.Number.Shortest
import ModelStore.Pool.Adapter
import ModelStore.Pool.Address
import ModelStore.Pool.Host
import ModelStore.Pool.Registry
import ModelStore.Pool.Round
import ModelStore.Pool.RowCount
import ModelStore.Pool.Scheme
import ModelStore.Pool.Trial
import ModelStore.Query
import ModelStore.Query.Change
import ModelStore.Query.Operation
import ModelStore.Query.Order
import ModelStore.Query.Running
import ModelStore.Query.Stage
import ModelStore.Query.Statement
import ModelStore.Record.Cast
import ModelStore.Record.Population
import ModelStore.Schema.Attribute
import ModelStore.Schema.Model
import ModelStore.Sorting
import ModelStore.Sorting.Merge
import ModelStore.Sorting.Pile
import ModelStore.Sorting.Search
import ModelStore.Sql
import ModelStore.Sql.Arguments
import ModelStore.Sql.Identifier
import ModelStore.Storage.Dialogue
import ModelStore.Storage.Handler
import ModelStore.Storage.Lease
import ModelStore.Storage.Rows
import ModelStore.Storage.Script
import ModelStore.Storage.Violation
import ModelStore.Text.Blank
import ModelStore.Text.CharRange
import ModelStore.Text.Digit
import ModelStore.Text.Lowercase
import ModelStore.Text.Printable
import ModelStore.Text.Quoted
import ModelStore.Transaction
import ModelStore.Value
import ModelStore.Value.Access
import ModelStore.Value.Equality
import ModelStore.Value.Json
import ModelStore.Value.Literal
import ModelStore.Value.Order
import ModelStore.Value.Sameness
import ModelStore.Write.Binding
import ModelStore.Write.Defaults
import ModelStore.Write.Insert
import ModelStore.Write.Timestamps
import ModelStore.Write.Update
import ModelStore.Proofs.Criteria.Decoding
import ModelStore.Proofs.Moment.Milliseconds
import ModelStore.Proofs.Number.Numeral
import ModelStore.Proofs.Number.Rounding
import ModelStore.Proofs.Number.Whole
import ModelStore.Proofs.Pool.Acts
import ModelStore.Proofs.Pool.Cancellation
import ModelStore.Proofs.Pool.Course
import ModelStore.Proofs.Pool.Driver
import ModelStore.Proofs.Pool.Holding
import ModelStore.Proofs.Pool.Prospect
import ModelStore.Proofs.Pool.Reconnection
import ModelStore.Proofs.Pool.SingleFlight
import ModelStore.Proofs.Query.Alike
import ModelStore.Proofs.Query.Binding
import ModelStore.Proofs.Query.Calls
import ModelStore.Proofs.Query.Clauses
import ModelStore.Proofs.Query.Dispatch
import ModelStore.Proofs.Query.EmptyUpdate
import ModelStore.Proofs.Query.Execution
import ModelStore.Proofs.Query.Grammatical
import ModelStore.Proofs.Query.Insertion
import ModelStore.Proofs.Query.Joining
import ModelStore.Proofs.Query.Lifecycle
import ModelStore.Proofs.Query.Modifying
import ModelStore.Proofs.Query.Reading
import ModelStore.Proofs.Query.Translation
import ModelStore.Proofs.Record.Castable
import ModelStore.Proofs.Record.Casting
import ModelStore.Proofs.Record.Columns
import ModelStore.Proofs.Record.Join
import ModelStore.Proofs.Schema.Naming
import ModelStore.Proofs.Sorting.Totality
import ModelStore.Proofs.Sql.Grammar
import ModelStore.Proofs.Sql.Lexer
import ModelStore.Proofs.Sql.Outline
import ModelStore.Proofs.Sql.Quoting
import ModelStore.Proofs.Sql.Tuples
import ModelStore.Proofs.Storage.Transcript
import ModelStore.Proofs.Storage.Turns
import ModelStore.Proofs.Transaction.Fate
import ModelStore.Proofs.Transaction.Interleaving
import ModelStore.Proofs.Transaction.Leases
import ModelStore.Proofs.Value.Keys
import ModelStore.Proofs.Write.Columns
import ModelStore.Proofs.Write.Compiling
import ModelStore.Proofs.Write.Counting
import ModelStore.Proofs.Write.Filling
import ModelStore.Proofs.Write.Forms
import ModelStore.Proofs.Write.Markers
import ModelStore.Proofs.Write.Placement
import ModelStore.Proofs.Write.Settling
