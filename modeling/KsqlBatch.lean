import KsqlBatch.Batch.Input
import KsqlBatch.Batch.Report
import KsqlBatch.Batch.Runner
import KsqlBatch.CommandLine.Arguments
import KsqlBatch.CommandLine.Program
import KsqlBatch.Decimal.Binary64
import KsqlBatch.Decimal.Shortest
import KsqlBatch.Engine.Client
import KsqlBatch.Engine.Executor
import KsqlBatch.Engine.Message
import KsqlBatch.Engine.Preview
import KsqlBatch.Engine.Reply
import KsqlBatch.Engine.Result
import KsqlBatch.Engine.Scripted
import KsqlBatch.Engine.Server
import KsqlBatch.Engine.Session
import KsqlBatch.Engine.Stream
import KsqlBatch.Engine.Url
import KsqlBatch.Files.FileFault
import KsqlBatch.Files.FileSystem
import KsqlBatch.Files.FileTree
import KsqlBatch.Files.Path
import KsqlBatch.Json.Fault
import KsqlBatch.Json.Reader
import KsqlBatch.Json.Value
import KsqlBatch.Json.Writer
import KsqlBatch.Keyed
import KsqlBatch.Log
import KsqlBatch.Main
import KsqlBatch.Proofs.Batch.Buffers
import KsqlBatch.Proofs.Batch.Diagnostics
import KsqlBatch.Proofs.Batch.Directory
import KsqlBatch.Proofs.Batch.FirstFailure
import KsqlBatch.Proofs.Batch.Preview
import KsqlBatch.Proofs.Batch.Printing
import KsqlBatch.Proofs.Batch.Secrecy
import KsqlBatch.Proofs.Batch.Trace
import KsqlBatch.Proofs.CommandLine.Acceptance
import KsqlBatch.Proofs.CommandLine.Configuration
import KsqlBatch.Proofs.CommandLine.Projection
import KsqlBatch.Proofs.Engine.Authorization
import KsqlBatch.Proofs.Engine.BaseUrl
import KsqlBatch.Proofs.Engine.PropertyForms
import KsqlBatch.Proofs.Engine.Responses
import KsqlBatch.Proofs.Engine.Streams
import KsqlBatch.Proofs.Json.Members
import KsqlBatch.Proofs.Script.Canonical
import KsqlBatch.Proofs.Script.Composition
import KsqlBatch.Proofs.Script.Cursor
import KsqlBatch.Proofs.Script.Directives
import KsqlBatch.Proofs.Script.Driving
import KsqlBatch.Proofs.Script.Emitted
import KsqlBatch.Proofs.Script.Insertion
import KsqlBatch.Proofs.Script.Occurrences
import KsqlBatch.Proofs.Script.Padding
import KsqlBatch.Proofs.Script.RoundTrip
import KsqlBatch.Proofs.Script.Snapshots
import KsqlBatch.Proofs.Settings.Acceptance
import KsqlBatch.Proofs.Settings.Endpoint
import KsqlBatch.Proofs.Settings.Port
import KsqlBatch.Proofs.Settings.Precedence
import KsqlBatch.Proofs.Settings.Records
import KsqlBatch.Proofs.Settings.Verbatim
import KsqlBatch.Proofs.Text.Blank
import KsqlBatch.Proofs.Text.ByteOrder
import KsqlBatch.Proofs.Text.Digits
import KsqlBatch.RunError
import KsqlBatch.Script.Directive
import KsqlBatch.Script.Line
import KsqlBatch.Script.LineCursor
import KsqlBatch.Script.Parser
import KsqlBatch.Script.PropertyMap
import KsqlBatch.Script.Reading
import KsqlBatch.Script.Statement
import KsqlBatch.Script.Termination
import KsqlBatch.Settings.ConfigFault
import KsqlBatch.Settings.Connection
import KsqlBatch.Settings.Conversion
import KsqlBatch.Settings.Ini
import KsqlBatch.Settings.KeyPath
import KsqlBatch.Settings.Loader
import KsqlBatch.Settings.Record
import KsqlBatch.Settings.Setting
import KsqlBatch.Text.Base64
import KsqlBatch.Text.Blank
import KsqlBatch.Text.Case
import KsqlBatch.Text.Digits
import KsqlBatch.Text.GraphemeExtend
import KsqlBatch.Text.Lines
import KsqlBatch.Text.Lowercase
import KsqlBatch.Text.Quoted
import KsqlBatch.Text.Ranges
import KsqlBatch.Text.Unprintable
import KsqlBatch.Text.Utf8
