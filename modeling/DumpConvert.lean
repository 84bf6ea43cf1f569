import DumpConvert.Text.Basic
import DumpConvert.Text.CharClass
import DumpConvert.Text.Blank
import DumpConvert.Text.LetterCase
import DumpConvert.Sql.Quoting
import DumpConvert.Sql.Identifier
import DumpConvert.Sql.ValueList
import DumpConvert.Sql.Literal
import DumpConvert.Statement
import DumpConvert.Insert
import DumpConvert.Dictionary
import DumpConvert.Schema.Column
import DumpConvert.Schema.Table
import DumpConvert.Calendar
import DumpConvert.Json.Token
import DumpConvert.Json.Reader
import DumpConvert.Profile.Basic
import DumpConvert.Profile.File
import DumpConvert.Value
import DumpConvert.Summary
import DumpConvert.Script.Row
import DumpConvert.Script.Block
import DumpConvert.Script.Conversion
import DumpConvert.Command.Arguments
import DumpConvert.Command.Report
import DumpConvert.Command.Run
import DumpConvert.Command.Disk
import DumpConvert.Command.Session
import DumpConvert.Main
import DumpConvert.Proofs.Text.Trimming
import DumpConvert.Proofs.Text.Lines
import DumpConvert.Proofs.Statement.Step
import DumpConvert.Proofs.Statement.Partition
import DumpConvert.Proofs.Statement.Containment
import DumpConvert.Proofs.Sql.Quoting
import DumpConvert.Proofs.Value.Forms
import DumpConvert.Proofs.Value.Preservation
import DumpConvert.Proofs.Sql.Nesting
import DumpConvert.Proofs.Sql.ValueToken
import DumpConvert.Proofs.Sql.Rejoining
import DumpConvert.Proofs.Sql.ValueGroup
import DumpConvert.Proofs.Sql.Identifier
import DumpConvert.Proofs.Value.Token
import DumpConvert.Proofs.Text.Numeral
import DumpConvert.Proofs.Text.Replacing
import DumpConvert.Proofs.Sql.ReplaceCall
import DumpConvert.Proofs.Value.Column
import DumpConvert.Proofs.Value.Confinement
import DumpConvert.Proofs.Value.Decoding
import DumpConvert.Proofs.Insert.RoundTrip
import DumpConvert.Proofs.Script.Block
import DumpConvert.Proofs.Script.Independence
import DumpConvert.Proofs.Schema.Registry
import DumpConvert.Proofs.Script.Conservation
import DumpConvert.Proofs.Script.SchemaFallback
import DumpConvert.Proofs.Statement.Kind
import DumpConvert.Proofs.Script.Closing
import DumpConvert.Proofs.Insert.Columns
import DumpConvert.Proofs.Sql.Comment
import DumpConvert.Proofs.Schema.Column
import DumpConvert.Proofs.Schema.Definition
import DumpConvert.Proofs.Schema.RoundTrip
import DumpConvert.Proofs.Schema.QuotedColumn
import DumpConvert.Proofs.Schema.QuotedNames
import DumpConvert.Proofs.Sql.Keyword
import DumpConvert.Proofs.Sql.GroupSequence
import DumpConvert.Proofs.Insert.Grammar
import DumpConvert.Proofs.Sql.WholeComment
import DumpConvert.Proofs.Sql.SparedGroups
import DumpConvert.Proofs.Insert.Comments
import DumpConvert.Proofs.Schema.Body
import DumpConvert.Proofs.Sql.Segments
import DumpConvert.Proofs.Schema.NamedColumn
import DumpConvert.Proofs.Calendar.Civil
import DumpConvert.Proofs.Calendar.Timestamp
import DumpConvert.Proofs.Statement.LineScan
import DumpConvert.Proofs.Statement.Completion
import DumpConvert.Proofs.Schema.Lookup
import DumpConvert.Proofs.Value.Precedence
import DumpConvert.Proofs.Sql.Escaping
import DumpConvert.Proofs.Schema.QuotedTableName
import DumpConvert.Proofs.Schema.TypeExchange
import DumpConvert.Proofs.Json.Grammar
import DumpConvert.Proofs.Json.Quoted
import DumpConvert.Proofs.Json.Number
import DumpConvert.Proofs.Json.Skipping
import DumpConvert.Proofs.Json.Reading
import DumpConvert.Proofs.Json.Record
import DumpConvert.Proofs.Profile.File
import DumpConvert.Proofs.Sql.GroupLayout
import DumpConvert.Proofs.Text.Bytes
import DumpConvert.Proofs.Text.Slicing
import DumpConvert.Proofs.Schema.Offsets
import DumpConvert.Proofs.Profile.Normalized
import DumpConvert.Proofs.Command.Outcome
