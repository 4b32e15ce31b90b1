import RelationSql.Command.Grammar
import RelationSql.Command.Help
import RelationSql.Command.Matching
import RelationSql.Command.Run
import RelationSql.Cursor
import RelationSql.Dialect.Basic
import RelationSql.Dialect.Builtin
import RelationSql.Error
import RelationSql.Execution
import RelationSql.FileTree
import RelationSql.Hook
import RelationSql.Json.Basic
import RelationSql.Json.Excerpt
import RelationSql.Json.Printer
import RelationSql.Json.Reader
import RelationSql.Json.Real
import RelationSql.KeyScope
import RelationSql.Main
import RelationSql.Order
import RelationSql.Page
import RelationSql.Paging.Args
import RelationSql.Paging.Interpretation
import RelationSql.Paging.Limit
import RelationSql.Paging.Seek
import RelationSql.Plan.Basic
import RelationSql.Plan.Deferral
import RelationSql.Plan.Lookup
import RelationSql.Plan.Reader
import RelationSql.Plan.Validation
import RelationSql.Planner.Basic
import RelationSql.Planner.Build
import RelationSql.Planner.Pages
import RelationSql.Proofs.Cursor.Codec
import RelationSql.Proofs.Cursor.Kinds
import RelationSql.Proofs.Cursor.ReadBack
import RelationSql.Proofs.Cursor.SortValues
import RelationSql.Proofs.Execution.Bounds
import RelationSql.Proofs.Execution.Coverage
import RelationSql.Proofs.Execution.Rounds
import RelationSql.Proofs.Execution.Visits
import RelationSql.Proofs.Json.ReadBack
import RelationSql.Proofs.Keyset.Collation
import RelationSql.Proofs.Keyset.ColumnOrders
import RelationSql.Proofs.Keyset.Issued
import RelationSql.Proofs.Keyset.Pages
import RelationSql.Proofs.Keyset.Request
import RelationSql.Proofs.Keyset.SaneRequests
import RelationSql.Proofs.Keyset.SeekExpression
import RelationSql.Proofs.Keyset.Table
import RelationSql.Proofs.Keyset.Traversal
import RelationSql.Proofs.Keyset.Walk
import RelationSql.Proofs.Offset.Totals
import RelationSql.Proofs.Offset.Traversal
import RelationSql.Proofs.Paging.Caps
import RelationSql.Proofs.Plan.Nodes
import RelationSql.Proofs.Plan.Places
import RelationSql.Proofs.Plan.Proper
import RelationSql.Proofs.Plan.Rules
import RelationSql.Proofs.Plan.Statements
import RelationSql.Proofs.Plan.Validity
import RelationSql.Proofs.Planner.Asking
import RelationSql.Proofs.Planner.Backends
import RelationSql.Proofs.Planner.BatchMembers
import RelationSql.Proofs.Planner.Builds
import RelationSql.Proofs.Planner.Composition
import RelationSql.Proofs.Planner.Discipline
import RelationSql.Proofs.Planner.EarlyRefusals
import RelationSql.Proofs.Planner.Entries
import RelationSql.Proofs.Planner.Faults
import RelationSql.Proofs.Planner.Inquiries
import RelationSql.Proofs.Planner.KeyColumns
import RelationSql.Proofs.Planner.KeyLists
import RelationSql.Proofs.Planner.Likeness
import RelationSql.Proofs.Planner.Literals
import RelationSql.Proofs.Planner.Locality
import RelationSql.Proofs.Planner.NodeColumns
import RelationSql.Proofs.Planner.OrderClauses
import RelationSql.Proofs.Planner.PageReads
import RelationSql.Proofs.Planner.References
import RelationSql.Proofs.Planner.Renaming
import RelationSql.Proofs.Planner.ResultNames
import RelationSql.Proofs.Planner.RootReferences
import RelationSql.Proofs.Planner.Sources
import RelationSql.Proofs.Planner.Stations
import RelationSql.Proofs.Planner.Support
import RelationSql.Proofs.Planner.Suspension
import RelationSql.Proofs.Planner.TableAliases
import RelationSql.Proofs.Planner.Unpaginated
import RelationSql.Proofs.SortSpec.Grammar
import RelationSql.Proofs.Sql.Conjunction
import RelationSql.Proofs.Sql.Parts
import RelationSql.Proofs.Sql.Reading
import RelationSql.Proofs.Sql.TextLiteral
import RelationSql.Proofs.Sql.Tokens
import RelationSql.Proofs.Sql.ValueTokens
import RelationSql.Proofs.Text.Base64
import RelationSql.Proofs.Timestamp.ReadBack
import RelationSql.Row
import RelationSql.Scalar
import RelationSql.Settings.Basic
import RelationSql.Settings.Document
import RelationSql.SortSpec
import RelationSql.Sql.Condition
import RelationSql.Sql.Fragment
import RelationSql.Sql.PagedSelect
import RelationSql.Sql.Statement
import RelationSql.Technique
import RelationSql.Text.Alphanumeric
import RelationSql.Text.Base64
import RelationSql.Text.Blank
import RelationSql.Text.Controls
import RelationSql.Text.Doubled
import RelationSql.Text.Numeral
import RelationSql.Text.Printable
import RelationSql.Text.Quoted
import RelationSql.Text.Ranges
import RelationSql.Text.Replace
import RelationSql.Timestamp.Basic
import RelationSql.Timestamp.Text
import RelationSql.Trace
