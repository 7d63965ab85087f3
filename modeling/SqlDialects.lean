import SqlDialects.BulkLoad
import SqlDialects.Calendar.Date
import SqlDialects.Calendar.Pattern
import SqlDialects.ColumnMapping
import SqlDialects.ColumnRequest
import SqlDialects.Config.Basic
import SqlDialects.Config.Reading
import SqlDialects.CreateTable.Adjustment
import SqlDialects.CreateTable.Batch
import SqlDialects.CreateTable.Plan
import SqlDialects.CreateTable.Report
import SqlDialects.CreateTable.Run
import SqlDialects.Culture
import SqlDialects.DataSet
import SqlDialects.DateCoercion
import SqlDialects.DateReader
import SqlDialects.Decimal.Binary64
import SqlDialects.Decimal.Fixed
import SqlDialects.Decimal.Shortest
import SqlDialects.DecimalSize
import SqlDialects.Dialect.Alias
import SqlDialects.Dialect.Basic
import SqlDialects.Dialect.Parameter
import SqlDialects.Dialect.Quotes
import SqlDialects.Dialect.Statement
import SqlDialects.Dialect.Style
import SqlDialects.Directory
import SqlDialects.Document.Account
import SqlDialects.Document.Basic
import SqlDialects.Document.Data
import SqlDialects.Document.Field
import SqlDialects.Document.Form
import SqlDialects.Document.Json
import SqlDialects.Document.Scenario
import SqlDialects.Document.Value
import SqlDialects.Document.Yaml
import SqlDialects.Document.Yaml.Cursor
import SqlDialects.Document.Yaml.Event
import SqlDialects.Document.Yaml.Scalar
import SqlDialects.Document.Yaml.Tag
import SqlDialects.Document.Yaml.Token
import SqlDialects.Engine.Command
import SqlDialects.Engine.Program
import SqlDialects.Engine.Script
import SqlDialects.Engine.Sqlite
import SqlDialects.Error
import SqlDialects.Guess
import SqlDialects.Identifier
import SqlDialects.Keyword
import SqlDialects.Proofs.BulkLoad.Carrying
import SqlDialects.Proofs.BulkLoad.Cause
import SqlDialects.Proofs.BulkLoad.CoercedColumns
import SqlDialects.Proofs.BulkLoad.Coercion
import SqlDialects.Proofs.BulkLoad.GuessedDates
import SqlDialects.Proofs.BulkLoad.OwnTransaction
import SqlDialects.Proofs.BulkLoad.RowOrder
import SqlDialects.Proofs.BulkLoad.SingleDate
import SqlDialects.Proofs.BulkLoad.SingleRow
import SqlDialects.Proofs.BulkLoad.Upload
import SqlDialects.Proofs.Calendar.IsoNotation
import SqlDialects.Proofs.Calendar.OrderVote
import SqlDialects.Proofs.Calendar.Pattern
import SqlDialects.Proofs.Calendar.Written
import SqlDialects.Proofs.ColumnMapping
import SqlDialects.Proofs.ColumnMapping.PlainNames
import SqlDialects.Proofs.ColumnMapping.Rule
import SqlDialects.Proofs.CreateTable.Batch
import SqlDialects.Proofs.CreateTable.Breaks
import SqlDialects.Proofs.CreateTable.Counting
import SqlDialects.Proofs.CreateTable.Execution
import SqlDialects.Proofs.CreateTable.LineGroups
import SqlDialects.Proofs.CreateTable.Loading
import SqlDialects.Proofs.CreateTable.PrimaryKey
import SqlDialects.Proofs.CreateTable.Reporting
import SqlDialects.Proofs.CreateTable.Resolution
import SqlDialects.Proofs.CreateTable.Statement
import SqlDialects.Proofs.CreateTable.TypedIntegers
import SqlDialects.Proofs.DataSet
import SqlDialects.Proofs.DataSet.Edit
import SqlDialects.Proofs.DecimalSize
import SqlDialects.Proofs.DecimalSize.Exactness
import SqlDialects.Proofs.DecimalSize.Join
import SqlDialects.Proofs.DecimalSize.Widening
import SqlDialects.Proofs.Dialect.Parameter
import SqlDialects.Proofs.Dialect.ParameterSearch
import SqlDialects.Proofs.Dialect.QualifiedName
import SqlDialects.Proofs.Dialect.QuotedName
import SqlDialects.Proofs.Dialect.RuntimeName
import SqlDialects.Proofs.Dialect.Scanning
import SqlDialects.Proofs.Dialect.Unquoting
import SqlDialects.Proofs.Engine.Conduct
import SqlDialects.Proofs.Engine.Ensures
import SqlDialects.Proofs.Engine.ForeignKeys
import SqlDialects.Proofs.Except
import SqlDialects.Proofs.Guess.Admission
import SqlDialects.Proofs.Guess.Column
import SqlDialects.Proofs.Guess.Counting
import SqlDialects.Proofs.Guess.Digits
import SqlDialects.Proofs.Guess.ExactDecimal
import SqlDialects.Proofs.Guess.LongNumeral
import SqlDialects.Proofs.Guess.MixedColumn
import SqlDialects.Proofs.Guess.Order
import SqlDialects.Proofs.Guess.PlainNumeral
import SqlDialects.Proofs.Guess.Step
import SqlDialects.Proofs.Guess.Unicode
import SqlDialects.Proofs.Guess.Width
import SqlDialects.Proofs.Identifier
import SqlDialects.Proofs.Identifier.SensibleName
import SqlDialects.Proofs.Keyword
import SqlDialects.Proofs.List
import SqlDialects.Proofs.Schema.Alteration
import SqlDialects.Proofs.Schema.OptionalTransaction
import SqlDialects.Proofs.Schema.Renaming
import SqlDialects.Proofs.Schema.Resizing
import SqlDialects.Proofs.Schema.RowInsertion
import SqlDialects.Proofs.Schema.TableIdentity
import SqlDialects.Proofs.SortedPairs
import SqlDialects.Proofs.Sql.TableElement
import SqlDialects.Proofs.Sql.Token
import SqlDialects.Proofs.Text.Trim
import SqlDialects.Proofs.TypeName.Reading
import SqlDialects.Proofs.TypeName.Respelling
import SqlDialects.Proofs.TypeName.RoundTrip
import SqlDialects.Proofs.TypeName.SpelledAlike
import SqlDialects.Proofs.TypeName.Spelling
import SqlDialects.Proofs.TypeName.Strictness
import SqlDialects.Proofs.TypeName.TightReading
import SqlDialects.Relationship
import SqlDialects.Schema.Column
import SqlDialects.Schema.Server
import SqlDialects.Schema.Table
import SqlDialects.Schema.Transaction
import SqlDialects.SortedPairs
import SqlDialects.Text.Ascii
import SqlDialects.Text.Blank
import SqlDialects.Text.Case
import SqlDialects.Text.CaseTable
import SqlDialects.Text.Integer
import SqlDialects.Text.InvisibleTable
import SqlDialects.Text.Line
import SqlDialects.Text.Quoted
import SqlDialects.Text.Word
import SqlDialects.Text.WordTable
import SqlDialects.TypeName.Canonical
import SqlDialects.TypeName.Declare
import SqlDialects.TypeName.Family
import SqlDialects.TypeName.Read
import SqlDialects.TypeRequest
import SqlDialects.Value
