import Testbed.AppEnv
import Testbed.Command
import Testbed.Command.Stage
import Testbed.CommandLine
import Testbed.CommandLine.Given
import Testbed.CommandLine.Help
import Testbed.CommandLine.Kind
import Testbed.CommandLine.OptionName
import Testbed.CommandLine.Reading
import Testbed.CommandLine.Scope
import Testbed.CommandLine.Usage
import Testbed.CommandLine.Verb
import Testbed.Config
import Testbed.Config.Decode
import Testbed.Config.File
import Testbed.Connection
import Testbed.Dictionary
import Testbed.Document
import Testbed.Dotenv
import Testbed.Failure
import Testbed.Fixture
import Testbed.Fixture.Backend
import Testbed.Job.Output
import Testbed.Job.Status
import Testbed.Json.Document
import Testbed.Json.Text
import Testbed.Json.Token
import Testbed.Live.Server
import Testbed.Live.Stage
import Testbed.Live.System
import Testbed.Log.Level
import Testbed.Log.Record
import Testbed.Log.Redaction
import Testbed.Log.Timestamp
import Testbed.Main
import Testbed.Path
import Testbed.Program
import Testbed.Proofs.AbsolutePath
import Testbed.Proofs.ApiDatabase
import Testbed.Proofs.Atomicity
import Testbed.Proofs.Bystanders
import Testbed.Proofs.Chronicle
import Testbed.Proofs.ConnectionString
import Testbed.Proofs.Course
import Testbed.Proofs.CoverageFile
import Testbed.Proofs.DotenvFile
import Testbed.Proofs.Dsn
import Testbed.Proofs.Endurance
import Testbed.Proofs.Entries
import Testbed.Proofs.Frame
import Testbed.Proofs.FreshDatabase
import Testbed.Proofs.Home
import Testbed.Proofs.Inheritance
import Testbed.Proofs.JsonConfig
import Testbed.Proofs.JsonLexeme
import Testbed.Proofs.JsonReading
import Testbed.Proofs.JsonRecord
import Testbed.Proofs.JsonValue
import Testbed.Proofs.Ledger
import Testbed.Proofs.Line
import Testbed.Proofs.LogLines
import Testbed.Proofs.Masking
import Testbed.Proofs.Mention
import Testbed.Proofs.Numerals
import Testbed.Proofs.Once
import Testbed.Proofs.Operation
import Testbed.Proofs.OutputLines
import Testbed.Proofs.Overriding
import Testbed.Proofs.Parts
import Testbed.Proofs.Passing
import Testbed.Proofs.Pieces
import Testbed.Proofs.PlainWorld
import Testbed.Proofs.Port
import Testbed.Proofs.Precedence
import Testbed.Proofs.Presence
import Testbed.Proofs.Reach
import Testbed.Proofs.Readiness
import Testbed.Proofs.Rehearsal
import Testbed.Proofs.Resolution
import Testbed.Proofs.Result
import Testbed.Proofs.Scenario
import Testbed.Proofs.ScriptPath
import Testbed.Proofs.ScriptTokens
import Testbed.Proofs.Secrecy
import Testbed.Proofs.Simulation
import Testbed.Proofs.Splitting
import Testbed.Proofs.StatementText
import Testbed.Proofs.TableServer
import Testbed.Proofs.Target
import Testbed.Proofs.Template
import Testbed.Proofs.Temporary
import Testbed.Proofs.Traffic
import Testbed.Proofs.Transaction
import Testbed.Proofs.Transcript
import Testbed.Proofs.Truncation
import Testbed.Proofs.Utf8
import Testbed.Proofs.Website
import Testbed.Proofs.Work
import Testbed.Rehearsal.Disk
import Testbed.Rehearsal.FileTree
import Testbed.Rehearsal.Machine
import Testbed.Rehearsal.Recorder
import Testbed.Rehearsal.Rule
import Testbed.Rehearsal.Server
import Testbed.Rehearsal.Shell.Command
import Testbed.Rehearsal.Shell.Condition
import Testbed.Rehearsal.Shell.Eval
import Testbed.Rehearsal.Shell.Expansion
import Testbed.Rehearsal.Shell.Octets
import Testbed.Rehearsal.Shell.PathPattern
import Testbed.Rehearsal.Shell.Pattern
import Testbed.Rehearsal.Shell.Print
import Testbed.Rehearsal.Shell.Start
import Testbed.Rehearsal.Shell.State
import Testbed.Rehearsal.Shell.Sum
import Testbed.Rehearsal.Shell.Token
import Testbed.Rehearsal.Shell.Utility
import Testbed.Rehearsal.Shell.Word
import Testbed.Script.Arguments
import Testbed.Script.Launcher
import Testbed.ServerFault
import Testbed.Sql
import Testbed.SystemFault
import Testbed.Text.Blank
import Testbed.Text.LowerCase
import Testbed.Text.Numeral
import Testbed.Text.Quoted
import Testbed.Text.Split
import Testbed.Text.Unprintable
import Testbed.Text.Utf8
import Testbed.Yaml.Cursor
import Testbed.Yaml.Document
import Testbed.Yaml.Event
import Testbed.Yaml.Resolve
import Testbed.Yaml.Token
import Testbed.Yaml.Token.Label
import Testbed.Yaml.Token.Scalar
import Testbed.Yaml.Token.Stream
import Testbed.Proofs.ScriptPath
import Testbed.Proofs.Transcript
import Testbed.Proofs.Truncation
import Testbed.Proofs.Redaction
