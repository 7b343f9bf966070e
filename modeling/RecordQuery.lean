import RecordQuery.Arrange
import RecordQuery.Binary64.Arithmetic
import RecordQuery.Binary64.Basic
import RecordQuery.Binary64.Decimal
import RecordQuery.Binary64.Layout
import RecordQuery.Binary64.Rounding
import RecordQuery.Builder
import RecordQuery.Error
import RecordQuery.Fields
import RecordQuery.Index.Basic
import RecordQuery.Index.Narrow
import RecordQuery.Json.Basic
import RecordQuery.Json.Printer
import RecordQuery.Json.Reader
import RecordQuery.Kind
import RecordQuery.Number
import RecordQuery.Operator
import RecordQuery.Path
import RecordQuery.Pattern.Bracket
import RecordQuery.Pattern.CharClass
import RecordQuery.Pattern.Escape
import RecordQuery.Pattern.Expr
import RecordQuery.Pattern.Flags
import RecordQuery.Pattern.Property
import RecordQuery.Pattern.Property.Binary
import RecordQuery.Pattern.Property.Break
import RecordQuery.Pattern.Property.Category
import RecordQuery.Pattern.Reader
import RecordQuery.Pattern.Tables.Age
import RecordQuery.Pattern.Tables.Binary
import RecordQuery.Pattern.Tables.Category
import RecordQuery.Pattern.Tables.Class
import RecordQuery.Pattern.Tables.Script
import RecordQuery.Proofs.Binary64.Integers
import RecordQuery.Proofs.Binary64.Monotone
import RecordQuery.Proofs.Binary64.Remainder
import RecordQuery.Proofs.Binary64.Sum
import RecordQuery.Proofs.Builder
import RecordQuery.Proofs.Compile.Attribute
import RecordQuery.Proofs.Compile.Clauses
import RecordQuery.Proofs.Compile.Conjunction
import RecordQuery.Proofs.Compile.DirectReading
import RecordQuery.Proofs.Compile.Grammar
import RecordQuery.Proofs.Compile.Invariant
import RecordQuery.Proofs.Compile.Meaning
import RecordQuery.Proofs.Compile.Members
import RecordQuery.Proofs.Compile.Order
import RecordQuery.Proofs.Compile.Reading
import RecordQuery.Proofs.Compile.Renaming
import RecordQuery.Proofs.Compile.WellFormed
import RecordQuery.Proofs.Index.Keys
import RecordQuery.Proofs.Index.Lookup
import RecordQuery.Proofs.Index.Narrowing
import RecordQuery.Proofs.Index.Positions
import RecordQuery.Proofs.Index.Transparency
import RecordQuery.Proofs.Path
import RecordQuery.Proofs.Query.Agreement
import RecordQuery.Proofs.Query.Bounds
import RecordQuery.Proofs.Query.Elements
import RecordQuery.Proofs.Query.Equivalence
import RecordQuery.Proofs.Query.Failure
import RecordQuery.Proofs.Query.Leaves
import RecordQuery.Proofs.Query.Lists
import RecordQuery.Proofs.Query.Literal
import RecordQuery.Proofs.Query.Modulo
import RecordQuery.Proofs.Query.Reordering
import RecordQuery.Proofs.Query.Scorable
import RecordQuery.Proofs.Query.Score
import RecordQuery.Proofs.Query.Texts
import RecordQuery.Proofs.Query.Verdict
import RecordQuery.Proofs.Query.Visibility
import RecordQuery.Proofs.Run
import RecordQuery.Proofs.Selection
import RecordQuery.Proofs.Text.Lowercase
import RecordQuery.Proofs.Traversal
import RecordQuery.Proofs.Value.Equality
import RecordQuery.Proofs.Value.Integers
import RecordQuery.Proofs.Value.Numbers
import RecordQuery.Query.Basic
import RecordQuery.Query.Clause
import RecordQuery.Query.Compile
import RecordQuery.Query.Condition
import RecordQuery.Query.Evaluate
import RecordQuery.Query.Score
import RecordQuery.Query.Tester
import RecordQuery.Record
import RecordQuery.Run
import RecordQuery.Summary
import RecordQuery.Text.Lowercase
import RecordQuery.Text.Quoted
import RecordQuery.Text.RangeTable
import RecordQuery.Text.Tables.Case
import RecordQuery.Text.Tables.Print
import RecordQuery.Timestamp.Basic
import RecordQuery.Timestamp.Rfc3339
import RecordQuery.Value.Basic
import RecordQuery.Value.Comparison
