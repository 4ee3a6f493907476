import FilterSql.Decimal.Shortest
import FilterSql.Decimal.FloatText
import FilterSql.Json.Basic
import FilterSql.Json.Printer
import FilterSql.Json.Numeral
import FilterSql.Json.Reader
import FilterSql.Value.Basic
import FilterSql.Value.Document
import FilterSql.Uuid
import FilterSql.Operator
import FilterSql.Param
import FilterSql.Sql.Condition
import FilterSql.Sql.Text
import FilterSql.Field.Name
import FilterSql.Field.Columns
import FilterSql.Field.Target
import FilterSql.Error
import FilterSql.Config
import FilterSql.Filter.Basic
import FilterSql.Filter.Spec
import FilterSql.Filter.Builder
import FilterSql.Compile.Operand
import FilterSql.Compile.Column
import FilterSql.Compile.Collection
import FilterSql.Compile.Parent
import FilterSql.Compile.Metadata
import FilterSql.Compile.Filter
import FilterSql.Compile.Statement
import FilterSql.Decimal.Whole
import FilterSql.Settings.Basic
import FilterSql.Settings.Reading
import FilterSql.Settings.Variables
import FilterSql.Settings.Layers
import FilterSql.CommandLine.Arguments
import FilterSql.CommandLine.Run
import FilterSql.Main
import FilterSql.Proofs.Result
import FilterSql.Proofs.Filter.Spec
import FilterSql.Proofs.Grammar
import FilterSql.Proofs.Sql.Formula
import FilterSql.Proofs.Sql.Lexeme
import FilterSql.Proofs.Sql.Token
import FilterSql.Proofs.Sql.Reading
import FilterSql.Proofs.Field.Name
import FilterSql.Proofs.Field.Target
import FilterSql.Proofs.Sql.ReadBack
import FilterSql.Proofs.Compile.Leaf
import FilterSql.Proofs.Compile.Induction
import FilterSql.Proofs.Compile.Form
import FilterSql.Proofs.Compile.Operand
import FilterSql.Proofs.Compile.Text
import FilterSql.Proofs.Placeholders
import FilterSql.Proofs.Quoting
import FilterSql.Proofs.Meaning
import FilterSql.Proofs.Acceptance
import FilterSql.Proofs.Agreement
import FilterSql.Proofs.Renumbering
import FilterSql.Proofs.Compile.Refusal
import FilterSql.Proofs.Nesting
import FilterSql.Proofs.Sql.Likeness
import FilterSql.Proofs.Simulation
import FilterSql.Proofs.Independence
import FilterSql.Proofs.Sql.Site
import FilterSql.Proofs.Sql.Fit
import FilterSql.Proofs.Contexts
import FilterSql.Proofs.Limit
import FilterSql.Proofs.Composition
import FilterSql.Proofs.Continuation
import FilterSql.Proofs.Field.Addressing
import FilterSql.Proofs.Spelling
import FilterSql.Proofs.Sql.Values
import FilterSql.Proofs.Json.Members
import FilterSql.Proofs.Json.RoundTrip
import FilterSql.Proofs.Value.Document
import FilterSql.Proofs.Parameters
import FilterSql.Proofs.Documents
import FilterSql.Proofs.Uuid
import FilterSql.Proofs.SingleField
import FilterSql.Proofs.Collections
import FilterSql.Proofs.Sql.Opposite
import FilterSql.Proofs.Negation
import FilterSql.Proofs.ParentLists
import FilterSql.Proofs.Value.RoundTrip
import FilterSql.Proofs.Json.Text
import FilterSql.Proofs.Value.Place
import FilterSql.Proofs.Reconfiguration
import FilterSql.Proofs.Wildcards
import FilterSql.Proofs.Membership
import FilterSql.Proofs.Building
import FilterSql.Proofs.WholeNumbers
import FilterSql.Proofs.ColumnSets
import FilterSql.Proofs.Accessors
import FilterSql.Proofs.InPlace.Accumulator
import FilterSql.Proofs.InPlace.Writing
import FilterSql.Proofs.InPlace.Builders
import FilterSql.Proofs.InPlace.Settling
import FilterSql.Proofs.Allocation
import FilterSql.Proofs.OnePass
