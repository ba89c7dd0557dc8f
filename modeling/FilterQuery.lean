import FilterQuery.Decimal.Layout
import FilterQuery.Decimal.Reading
import FilterQuery.Filter.Compile
import FilterQuery.Filter.Literal
import FilterQuery.Filter.Node
import FilterQuery.Filter.Scan
import FilterQuery.Filter.Source
import FilterQuery.Json.Decode
import FilterQuery.Json.Reader
import FilterQuery.Main
import FilterQuery.Shell.Arguments
import FilterQuery.Shell.Program
import FilterQuery.Sql.Call
import FilterQuery.Sql.Condition
import FilterQuery.Sql.Definition
import FilterQuery.Sql.Evaluate
import FilterQuery.Sql.Form
import FilterQuery.Sql.Keyword
import FilterQuery.Sql.Lexer
import FilterQuery.Sql.Like
import FilterQuery.Sql.Parser
import FilterQuery.Sql.Predicate
import FilterQuery.Sql.Query
import FilterQuery.Sql.Syntax
import FilterQuery.Sql.TypeName
import FilterQuery.Store.Memory
import FilterQuery.Store.Request
import FilterQuery.Table.Basic
import FilterQuery.Table.Order
import FilterQuery.Table.ResultSet
import FilterQuery.Table.Schema
import FilterQuery.Text.Basic
import FilterQuery.Text.Letter
import FilterQuery.Text.LowerCase
import FilterQuery.Text.Printable
import FilterQuery.Text.Quoting
import FilterQuery.Value.Basic
import FilterQuery.Value.Bindings
import FilterQuery.Proofs.Acceptance
import FilterQuery.Proofs.Alignment
import FilterQuery.Proofs.Assignments
import FilterQuery.Proofs.Capture
import FilterQuery.Proofs.Comparisons
import FilterQuery.Proofs.Composition
import FilterQuery.Proofs.Dialects
import FilterQuery.Proofs.Effects
import FilterQuery.Proofs.Faults
import FilterQuery.Proofs.Fidelity
import FilterQuery.Proofs.Fractions
import FilterQuery.Proofs.Isolation
import FilterQuery.Proofs.Items
import FilterQuery.Proofs.Keys
import FilterQuery.Proofs.Kinds
import FilterQuery.Proofs.Marks
import FilterQuery.Proofs.Membership
import FilterQuery.Proofs.Merging
import FilterQuery.Proofs.Offsets
import FilterQuery.Proofs.Parentheses
import FilterQuery.Proofs.Patterns
import FilterQuery.Proofs.Positions
import FilterQuery.Proofs.Pushes
import FilterQuery.Proofs.Rows
import FilterQuery.Proofs.SortKeys
import FilterQuery.Proofs.Sorting
import FilterQuery.Proofs.Spaces
import FilterQuery.Proofs.Truth
