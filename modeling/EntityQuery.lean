import EntityQuery.Calendar.Date
import EntityQuery.Calendar.Timestamp
import EntityQuery.Config
import EntityQuery.Data.Keyed
import EntityQuery.Data.Uuid
import EntityQuery.Entity
import EntityQuery.Error
import EntityQuery.Json.Basic
import EntityQuery.Json.Number
import EntityQuery.Json.Printer
import EntityQuery.Json.Reader
import EntityQuery.Model.Class
import EntityQuery.Model.Loader
import EntityQuery.Model.Naming
import EntityQuery.Model.Registry
import EntityQuery.Model.RelationDef
import EntityQuery.Model.Resolver
import EntityQuery.Number.Binary
import EntityQuery.Number.Double
import EntityQuery.Number.Shortest
import EntityQuery.Page
import EntityQuery.Postgres.Cell
import EntityQuery.Postgres.ColumnType
import EntityQuery.Postgres.Parameter
import EntityQuery.Postgres.Server
import EntityQuery.Postgres.Word
import EntityQuery.Relation.Eager
import EntityQuery.Relation.Lazy
import EntityQuery.Relation.Link
import EntityQuery.Row
import EntityQuery.Session.Basic
import EntityQuery.Session.Connection
import EntityQuery.Settings
import EntityQuery.Sql.Bindings
import EntityQuery.Sql.Condition
import EntityQuery.Sql.Identifier
import EntityQuery.Sql.JsonPath
import EntityQuery.Sql.Kind
import EntityQuery.Sql.Operator
import EntityQuery.Sql.Placeholder
import EntityQuery.Sql.Window
import EntityQuery.Statement.Apply
import EntityQuery.Statement.Basic
import EntityQuery.Statement.Build
import EntityQuery.Statement.Call
import EntityQuery.Statement.Compile
import EntityQuery.Statement.Execute
import EntityQuery.Text.Alphanumeric
import EntityQuery.Text.Blank
import EntityQuery.Text.Camel
import EntityQuery.Text.CaseMapping
import EntityQuery.Text.Cased
import EntityQuery.Text.Hex
import EntityQuery.Text.Lists
import EntityQuery.Text.Numeral
import EntityQuery.Text.Runs
import EntityQuery.Text.Utf8
import EntityQuery.Toml.Basic
import EntityQuery.Toml.Quoted
import EntityQuery.Toml.Reader
import EntityQuery.Toml.Scalar
import EntityQuery.Value.Basic
import EntityQuery.Value.Decode
import EntityQuery.Proofs.Quiet.Identifier
import EntityQuery.Proofs.Bound.Condition
import EntityQuery.Proofs.Bound.Clauses
import EntityQuery.Proofs.Built.Accepted
import EntityQuery.Proofs.Bound.Agreement
import EntityQuery.Proofs.Bound.Sound
import EntityQuery.Proofs.Bound.Compile
import EntityQuery.Proofs.Built.Conditions
import EntityQuery.Proofs.Where.OnlyMarked
import EntityQuery.Proofs.Built.Refused
import EntityQuery.Proofs.Run.Action
import EntityQuery.Proofs.Run.Refused
import EntityQuery.Proofs.Related.Loading
import EntityQuery.Proofs.Related.Batch
import EntityQuery.Proofs.Where.Meaning
import EntityQuery.Proofs.Order.AnyOrder
import EntityQuery.Proofs.Bound.Numbered
import EntityQuery.Proofs.Run.Requests
import EntityQuery.Proofs.Run.Pages
import EntityQuery.Proofs.Related.Requested
import EntityQuery.Proofs.Related.Bounded
import EntityQuery.Proofs.Registered.History
import EntityQuery.Proofs.Bound.ListValue
import EntityQuery.Proofs.Configured.QuoteCharacter
import EntityQuery.Proofs.Resolved.Chain
import EntityQuery.Proofs.Where.Alternatives
import EntityQuery.Proofs.Where.Search
import EntityQuery.Proofs.Where.Redundant
import EntityQuery.Proofs.Built.Marks
import EntityQuery.Proofs.Where.LastMode
import EntityQuery.Proofs.Built.Rejected
import EntityQuery.Proofs.Run.Counted
import EntityQuery.Proofs.Related.Matching
import EntityQuery.Proofs.Related.Independent
import EntityQuery.Proofs.Paged.Partition
import EntityQuery.Proofs.Ranked.Literal
import EntityQuery.Proofs.Registered.Memo
import EntityQuery.Proofs.Registered.Nesting
import EntityQuery.Proofs.Encoded.RoundTrip
import EntityQuery.Proofs.Built.Embedded
import EntityQuery.Proofs.Built.Upsert
import EntityQuery.Proofs.Serialized.Members
import EntityQuery.Proofs.Built.NullTests
import EntityQuery.Proofs.Quoted.Stable
import EntityQuery.Proofs.Ordered.History
import EntityQuery.Proofs.Logged.Unaffected
