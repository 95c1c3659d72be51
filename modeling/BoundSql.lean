import BoundSql.Main
import BoundSql.Proofs.Placeholder.Cut
import BoundSql.Proofs.Outcome
import BoundSql.Proofs.Placeholder.Drivers
import BoundSql.Proofs.Builder.Independence
import BoundSql.Proofs.Sql.Rendering
import BoundSql.Proofs.Predicate.Tree
import BoundSql.Proofs.Predicate.Composition
import BoundSql.Proofs.Placeholder.Assembly
import BoundSql.Proofs.Definition.Binding
import BoundSql.Proofs.Builder.Growth
import BoundSql.Proofs.Definition.Application
import BoundSql.Proofs.Sql.Faults
import BoundSql.Proofs.Builder.History
import BoundSql.Proofs.Definition.Reference
import BoundSql.Proofs.Definition.Reading
import BoundSql.Proofs.Definition.Acceptance
import BoundSql.Proofs.Session.Action
import BoundSql.Proofs.Session.Traffic
import BoundSql.Proofs.Session.Opening
import BoundSql.Proofs.Session.Statement
import BoundSql.Proofs.Session.Use
import BoundSql.Proofs.Session.LifeCycle
import BoundSql.Proofs.Session.Lending
import BoundSql.Proofs.Session.Alike
import BoundSql.Proofs.Session.Shown
import BoundSql.Proofs.Session.Secrecy
import BoundSql.Proofs.CommandLine.AllOrNothing
import BoundSql.Proofs.Session.Delivery
import BoundSql.Proofs.Session.Answer
import BoundSql.Proofs.Session.Failure
import BoundSql.Proofs.Result.Rows
import BoundSql.Proofs.CommandLine.WholeResult
import BoundSql.Proofs.Log.Opening
import BoundSql.Proofs.Log.Setting
import BoundSql.Proofs.Log.Reconfiguration
import BoundSql.Proofs.CommandLine.Loading
import BoundSql.Proofs.CommandLine.ErrorStream
import BoundSql.Proofs.CommandLine.Uncaught
import BoundSql.Proofs.Sql.References
import BoundSql.Proofs.Placeholder.Rewriting
import BoundSql.Proofs.Quotation
import BoundSql.Proofs.Definition.Grammar
import BoundSql.Proofs.Definition.Refusal
import BoundSql.Proofs.Config.Reading
import BoundSql.Proofs.Config.WellFormed
import BoundSql.Proofs.Result.Faults
import BoundSql.Proofs.Session.Transaction
import BoundSql.Proofs.Result.Columns
import BoundSql.Proofs.Session.Shapes
import BoundSql.Proofs.Builder.Atomicity
import BoundSql.Proofs.Sql.Occurrences
import BoundSql.Proofs.Grid.Table
import BoundSql.Proofs.Grid.Alignment
import BoundSql.Proofs.Log.Json.Reader
import BoundSql.Proofs.Log.Json.RoundTrip
import BoundSql.Proofs.Log.StructuredLine
