import DataAccess.Assoc
import DataAccess.Text.Blank
import DataAccess.Text.LowerCase
import DataAccess.Text.Quoted
import DataAccess.Decimal.Layout
import DataAccess.Scalar
import DataAccess.Json.Basic
import DataAccess.Json.Printer
import DataAccess.Json.Reader
import DataAccess.Query.Validation
import DataAccess.Query.Decode
import DataAccess.Sql.Statement
import DataAccess.Document.Printer
import DataAccess.Document.Find
import DataAccess.Persistence.Stores
import DataAccess.Sample.Documents
import DataAccess.Sample.Rows
import DataAccess.Sample.Values
import DataAccess.CommandLine
import DataAccess.Relational.Read
import DataAccess.Relational.Session
import DataAccess.Document.Store
import DataAccess.Main
import DataAccess.Proofs.Relational.Contents
import DataAccess.Proofs.Relational.Run
import DataAccess.Proofs.Relational.CommitOrder
import DataAccess.Proofs.Persistence.AllOrNothing
import DataAccess.Proofs.Sql.Numbering
import DataAccess.Proofs.Sql.Words
import DataAccess.Proofs.Sql.ReadBack
import DataAccess.Proofs.Sql.Splicing
import DataAccess.Proofs.Pattern.Matches
import DataAccess.Proofs.Document.Filter
import DataAccess.Proofs.Sql.LikePattern
import DataAccess.Proofs.Relational.Select
import DataAccess.Proofs.Relational.SameAnswers
import DataAccess.Proofs.Relational.Commuting
import DataAccess.Proofs.Relational.Conflict
import DataAccess.Proofs.Relational.Ordering
import DataAccess.Proofs.Persistence.RecordMap
import DataAccess.Proofs.Relational.LifeCycle
import DataAccess.Proofs.Persistence.LogDiscipline
import DataAccess.Proofs.Json.WellFormed
import DataAccess.Proofs.Query.Grammar
import DataAccess.Proofs.Query.Decoding
import DataAccess.Proofs.Query.FirstFault
import DataAccess.Proofs.Document.Request
import DataAccess.Proofs.Cache.Expiry
import DataAccess.Proofs.Text.BytesAndWords
import DataAccess.Proofs.SearchIndex.Hits
import DataAccess.Proofs.Persistence.RecordList
import DataAccess.Proofs.Document.Comparator
import DataAccess.Proofs.Document.Pages
import DataAccess.Proofs.Document.Projection
import DataAccess.Proofs.Query.Building
import DataAccess.Proofs.Relational.OwnKey
import DataAccess.Proofs.Persistence.Refusal
import DataAccess.Proofs.Cache.ClockEnd
import DataAccess.Proofs.SearchIndex.Clauses
import DataAccess.Proofs.Relational.Statements
import DataAccess.Proofs.Decimal.Rounding
import DataAccess.Proofs.Json.Literal
import DataAccess.Proofs.Query.Integers
import DataAccess.Proofs.Text.LowerCase
import DataAccess.Proofs.SearchIndex.Verbatim
import DataAccess.Proofs.Settings.Loading
import DataAccess.Proofs.Persistence.DistinctColumns
