import Snowbridge.Batch.Command
import Snowbridge.Batch.Coordinator
import Snowbridge.Batch.Error
import Snowbridge.Batch.Outcome
import Snowbridge.Batch.Policy
import Snowbridge.Batch.Request
import Snowbridge.Catalog.ColumnType
import Snowbridge.Catalog.Constraint
import Snowbridge.Catalog.Default
import Snowbridge.Catalog.Error
import Snowbridge.Catalog.Reader
import Snowbridge.Catalog.Routine
import Snowbridge.Catalog.Signature
import Snowbridge.Catalog.Table
import Snowbridge.CommandLine.Invocation
import Snowbridge.CommandLine.Reader
import Snowbridge.CommandLine.Report
import Snowbridge.CommandLine.Usage
import Snowbridge.Connection.Basic
import Snowbridge.Connection.Document
import Snowbridge.Connection.Dsn
import Snowbridge.Connection.Error
import Snowbridge.Connection.Override
import Snowbridge.Decimal.Binary
import Snowbridge.Decimal.Integer
import Snowbridge.Decimal.Layout
import Snowbridge.Decimal.Shortest
import Snowbridge.Embedded.Calendar
import Snowbridge.Embedded.Cell
import Snowbridge.Embedded.Engine
import Snowbridge.FileTree
import Snowbridge.Filter.Error
import Snowbridge.Filter.Literal
import Snowbridge.Filter.Operator
import Snowbridge.Filter.Predicate
import Snowbridge.Filter.Tree
import Snowbridge.Json.Basic
import Snowbridge.Json.Number
import Snowbridge.Json.Printer
import Snowbridge.Json.Reader
import Snowbridge.Main
import Snowbridge.Notice
import Snowbridge.Proofs.Batch.Assigned
import Snowbridge.Proofs.Batch.Binding
import Snowbridge.Proofs.Batch.Command
import Snowbridge.Proofs.Batch.Deletion
import Snowbridge.Proofs.Batch.DeletionPromise
import Snowbridge.Proofs.Batch.Identifier
import Snowbridge.Proofs.Batch.Issue
import Snowbridge.Proofs.Batch.Outcome
import Snowbridge.Proofs.Batch.Phase
import Snowbridge.Proofs.Batch.Placeholder
import Snowbridge.Proofs.Batch.Reconcile
import Snowbridge.Proofs.Batch.Record
import Snowbridge.Proofs.Batch.Refusal
import Snowbridge.Proofs.Batch.Transaction
import Snowbridge.Proofs.Batch.Update
import Snowbridge.Proofs.Batch.Work
import Snowbridge.Proofs.Catalog.Assembly
import Snowbridge.Proofs.Catalog.Call
import Snowbridge.Proofs.Catalog.Constraint
import Snowbridge.Proofs.Catalog.Default
import Snowbridge.Proofs.Catalog.Described
import Snowbridge.Proofs.Catalog.Filling
import Snowbridge.Proofs.Catalog.Signature
import Snowbridge.Proofs.Catalog.Table
import Snowbridge.Proofs.Catalog.TypeSize
import Snowbridge.Proofs.Chain
import Snowbridge.Proofs.Connection.Fields
import Snowbridge.Proofs.Connection.Grammar
import Snowbridge.Proofs.Connection.Lookup
import Snowbridge.Proofs.Connection.Override
import Snowbridge.Proofs.Connection.Secret
import Snowbridge.Proofs.Embedded.Calendar
import Snowbridge.Proofs.Embedded.DateText
import Snowbridge.Proofs.Embedded.Integer
import Snowbridge.Proofs.Embedded.Moment
import Snowbridge.Proofs.Filter.Alike
import Snowbridge.Proofs.Filter.Atom
import Snowbridge.Proofs.Filter.Binding
import Snowbridge.Proofs.Filter.Bracket
import Snowbridge.Proofs.Filter.Chunk
import Snowbridge.Proofs.Filter.Comparison
import Snowbridge.Proofs.Filter.Condition
import Snowbridge.Proofs.Filter.Formula
import Snowbridge.Proofs.Filter.Leaf
import Snowbridge.Proofs.Filter.Meaning
import Snowbridge.Proofs.Filter.Operator
import Snowbridge.Proofs.Filter.Parenthesis
import Snowbridge.Proofs.Filter.Phrase
import Snowbridge.Proofs.Filter.Placeholder
import Snowbridge.Proofs.Filter.Precedence
import Snowbridge.Proofs.Filter.Render
import Snowbridge.Proofs.Filter.Scan
import Snowbridge.Proofs.Filter.Sentence
import Snowbridge.Proofs.Filter.Spelling
import Snowbridge.Proofs.Filter.Split
import Snowbridge.Proofs.Filter.Strip
import Snowbridge.Proofs.Filter.Test
import Snowbridge.Proofs.Filter.Tree
import Snowbridge.Proofs.Filter.Typing
import Snowbridge.Proofs.Results
import Snowbridge.Proofs.Session.Opening
import Snowbridge.Proofs.Session.Reply
import Snowbridge.Proofs.Session.Script
import Snowbridge.Proofs.Sql.Lossless
import Snowbridge.Proofs.Sql.Name
import Snowbridge.Proofs.Sql.Offset
import Snowbridge.Proofs.Sql.Parenthesis
import Snowbridge.Proofs.Sql.Pieces
import Snowbridge.Proofs.Sql.Placeholder
import Snowbridge.Proofs.Sql.Quoted
import Snowbridge.Proofs.Sql.Search
import Snowbridge.Proofs.Sql.Token
import Snowbridge.Proofs.Text.Name
import Snowbridge.Proofs.Text.Parts
import Snowbridge.Session.Attribute
import Snowbridge.Session.Basic
import Snowbridge.Session.Error
import Snowbridge.Session.Opening
import Snowbridge.Session.RowSet
import Snowbridge.Session.Script
import Snowbridge.Session.Scripted
import Snowbridge.Session.Statement
import Snowbridge.Sql.Dialect
import Snowbridge.Sql.Expression
import Snowbridge.Sql.Parser
import Snowbridge.Sql.Quoted
import Snowbridge.Sql.Token
import Snowbridge.Text.Blank
import Snowbridge.Text.Case
import Snowbridge.Text.CaseData
import Snowbridge.Text.Shown
import Snowbridge.Text.UnprintableData
import Snowbridge.Value
import Snowbridge.Yaml.Data
import Snowbridge.Yaml.Directive
import Snowbridge.Yaml.Document
import Snowbridge.Yaml.Lexer
import Snowbridge.Yaml.Node
import Snowbridge.Yaml.Scalar
import Snowbridge.Yaml.Tag
import Snowbridge.Yaml.Token
