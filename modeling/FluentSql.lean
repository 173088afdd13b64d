import FluentSql.Builder.Fluent
import FluentSql.Builder.Heading
import FluentSql.Calendar.Reader
import FluentSql.Connection.Script
import FluentSql.Proofs.Connective
import FluentSql.Session.Action
import FluentSql.Settings
import FluentSql.Proofs.Alignment.Marked
import FluentSql.Proofs.Alignment.Query
import FluentSql.Proofs.Operator
import FluentSql.Proofs.Alignment.Edit
import FluentSql.Proofs.Alignment.Balanced
import FluentSql.Proofs.Alignment.Call
import FluentSql.Proofs.Alignment.Trace
import FluentSql.Proofs.Alignment.Select
import FluentSql.Proofs.Alignment.Statement
import FluentSql.Proofs.Mask
import FluentSql.Proofs.Noninterference
import FluentSql.Proofs.Condition.Tree
import FluentSql.Proofs.Frame
import FluentSql.Proofs.Condition.Call
import FluentSql.Proofs.Session.Program
import FluentSql.Proofs.Transaction.Closing
import FluentSql.Proofs.Transaction.Nesting
import FluentSql.Proofs.Transaction.Depth
import FluentSql.Proofs.Transaction.Snapshot
import FluentSql.Proofs.Failure.Call
import FluentSql.Proofs.Failure.Terminal
import FluentSql.Proofs.Reordering
import FluentSql.Proofs.Session.History
import FluentSql.Proofs.Lexicon
import FluentSql.Proofs.Twin.Statement
import FluentSql.Proofs.Keyword.Select
import FluentSql.Proofs.Identifier.Path
import FluentSql.Proofs.Splice.Call
import FluentSql.Proofs.Condition.Find
import FluentSql.Proofs.Page.Share
import FluentSql.Proofs.Page.Count
import FluentSql.Proofs.Condition.Null
import FluentSql.Proofs.Sources
import FluentSql.Proofs.Fetch
import FluentSql.Proofs.Failure.Once
import FluentSql.Proofs.Insert
import FluentSql.Proofs.Literal
import FluentSql.Proofs.Fetch.Held
import FluentSql.Proofs.Value.Literal
import FluentSql.Proofs.Substitution
import FluentSql.Proofs.Identifier.Parts
import FluentSql.Proofs.Identifier.Settled
import FluentSql.Proofs.InsertId
import FluentSql.Proofs.Condition.Batch
import FluentSql.Proofs.Record.Assembly
