import AnswerGateway.Cache.Engine
import AnswerGateway.Cache.Record
import AnswerGateway.Cache.Remote
import AnswerGateway.Cache.Session
import AnswerGateway.Cache.Settings
import AnswerGateway.Channel
import AnswerGateway.Chat.Event
import AnswerGateway.Chat.Message
import AnswerGateway.Chat.Request
import AnswerGateway.Completion.Chunk
import AnswerGateway.Completion.Provider
import AnswerGateway.Completion.Pump
import AnswerGateway.Completion.Reading
import AnswerGateway.Completion.Request
import AnswerGateway.Completion.Sse
import AnswerGateway.Completion.Stream
import AnswerGateway.Config.Basic
import AnswerGateway.Config.Conversion
import AnswerGateway.Config.Document
import AnswerGateway.Config.Load
import AnswerGateway.Config.Setting
import AnswerGateway.Decimal.Binary
import AnswerGateway.Decimal.Layout
import AnswerGateway.Decimal.Nearest
import AnswerGateway.Decimal.Parse
import AnswerGateway.Decimal.Shortest
import AnswerGateway.Embedding.Provider
import AnswerGateway.Embedding.Similarity
import AnswerGateway.Fault
import AnswerGateway.Http.Client
import AnswerGateway.Http.Exchange
import AnswerGateway.Http.Extract
import AnswerGateway.Http.Gateway
import AnswerGateway.Http.MediaType
import AnswerGateway.Http.Message
import AnswerGateway.Http.Post
import AnswerGateway.Http.Refusal
import AnswerGateway.Http.Route
import AnswerGateway.Http.Service
import AnswerGateway.Http.Status
import AnswerGateway.Json.Basic
import AnswerGateway.Json.Cause
import AnswerGateway.Json.Cursor
import AnswerGateway.Json.Format
import AnswerGateway.Json.FromJson
import AnswerGateway.Json.Numeral
import AnswerGateway.Json.Printer
import AnswerGateway.Json.Quoted
import AnswerGateway.Json.Reader
import AnswerGateway.Json.TextFormat
import AnswerGateway.Json.Written
import AnswerGateway.Main
import AnswerGateway.Metrics.Basic
import AnswerGateway.Metrics.PathLabel
import AnswerGateway.Net.Host
import AnswerGateway.Net.Ip
import AnswerGateway.Net.Punycode
import AnswerGateway.Net.Uri
import AnswerGateway.Net.Url
import AnswerGateway.Program.Command
import AnswerGateway.Program.Log
import AnswerGateway.Program.Parts
import AnswerGateway.Program.Run
import AnswerGateway.Program.Variables
import AnswerGateway.Relay.Frame
import AnswerGateway.Relay.Outcome
import AnswerGateway.Relay.Path
import AnswerGateway.Relay.Prepare
import AnswerGateway.Relay.Request
import AnswerGateway.Relay.Run
import AnswerGateway.Store.Ensure
import AnswerGateway.Store.Memory
import AnswerGateway.Store.Point
import AnswerGateway.Store.Remote
import AnswerGateway.Store.Tree
import AnswerGateway.Text.Base64
import AnswerGateway.Text.Blank
import AnswerGateway.Text.Digit
import AnswerGateway.Text.Hex
import AnswerGateway.Text.Hidden
import AnswerGateway.Text.Percent
import AnswerGateway.Text.Shown
import AnswerGateway.Text.Small
import AnswerGateway.Text.Utf8
import AnswerGateway.Proofs.Cache.Advance
import AnswerGateway.Proofs.Cache.Site
import AnswerGateway.Proofs.Cache.Ledger
import AnswerGateway.Proofs.Cache.Start
import AnswerGateway.Proofs.Cache.Deposits
import AnswerGateway.Proofs.Cache.Accounting
import AnswerGateway.Proofs.Cache.Effort
import AnswerGateway.Proofs.Cache.Shutdown
import AnswerGateway.Proofs.Completion.Chunks
import AnswerGateway.Proofs.Relay.Passage
import AnswerGateway.Proofs.Relay.Step
import AnswerGateway.Proofs.Relay.Frames
import AnswerGateway.Proofs.Relay.Delivery
import AnswerGateway.Proofs.Relay.Progress
import AnswerGateway.Proofs.Relay.Answer
import AnswerGateway.Proofs.Cache.Filled
import AnswerGateway.Proofs.Relay.Asking
import AnswerGateway.Proofs.Gateway.Traffic
import AnswerGateway.Proofs.Gateway.Provenance
import AnswerGateway.Proofs.Cache.Schedule
import AnswerGateway.Proofs.Relay.Schedule
import AnswerGateway.Proofs.Completion.Answer
import AnswerGateway.Proofs.Completion.Event
import AnswerGateway.Proofs.Completion.Intake
import AnswerGateway.Proofs.Completion.Remainder
import AnswerGateway.Proofs.Relay.Account
import AnswerGateway.Proofs.Relay.Report
import AnswerGateway.Proofs.Relay.Submission
import AnswerGateway.Proofs.Json.Quoted
import AnswerGateway.Proofs.Json.Numeral
import AnswerGateway.Proofs.Json.Value
import AnswerGateway.Proofs.Chat.Event
import AnswerGateway.Proofs.Http.Stream
import AnswerGateway.Proofs.Cache.Lasting
import AnswerGateway.Proofs.Relay.Attempt
import AnswerGateway.Proofs.Json.Document
import AnswerGateway.Proofs.Json.Whole
import AnswerGateway.Proofs.Cache.Network
import AnswerGateway.Proofs.Store.Calls
import AnswerGateway.Proofs.Store.Fits
import AnswerGateway.Proofs.Store.Race
import AnswerGateway.Proofs.Store.Ranking
import AnswerGateway.Proofs.Store.Shared
import AnswerGateway.Proofs.Cache.Dimensions
import AnswerGateway.Proofs.Program.Listening
import AnswerGateway.Proofs.Http.Deeds
import AnswerGateway.Proofs.Http.Visit
import AnswerGateway.Proofs.Decimal.Shortest
import AnswerGateway.Proofs.Json.Range
import AnswerGateway.Proofs.Json.Fractional
import AnswerGateway.Proofs.Json.Single
import AnswerGateway.Proofs.Chat.Message
import AnswerGateway.Proofs.Chat.Wire
import AnswerGateway.Proofs.Cache.Wire
import AnswerGateway.Proofs.Gateway.Wire
import AnswerGateway.Proofs.Store.Tree
import AnswerGateway.Proofs.Relay.Replay
import AnswerGateway.Proofs.Cache.Fitting
import AnswerGateway.Proofs.Completion.Leaving
import AnswerGateway.Proofs.Metrics.PathLabel
import AnswerGateway.Proofs.Decimal.Parse
import AnswerGateway.Proofs.Config.Variable
