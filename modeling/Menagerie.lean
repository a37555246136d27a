import Menagerie.Address
import Menagerie.Bson.Decimal128
import Menagerie.Bson.ExtendedJson
import Menagerie.Bson.Value
import Menagerie.Client.CallError
import Menagerie.Client.Calls
import Menagerie.CommandLine.EnvironmentFile
import Menagerie.CommandLine.Parser
import Menagerie.CommandLine.Program
import Menagerie.Config.Client
import Menagerie.Config.Server
import Menagerie.Decimal
import Menagerie.Document
import Menagerie.Failure
import Menagerie.Json.Reader
import Menagerie.Json.Value
import Menagerie.Launch.Programs
import Menagerie.Main
import Menagerie.Metadata
import Menagerie.Rpc.Directory
import Menagerie.Rpc.Host
import Menagerie.Runs
import Menagerie.Service.Basic
import Menagerie.Service.Call
import Menagerie.Service.Step
import Menagerie.Service.Scene
import Menagerie.Service.Scheduler
import Menagerie.Service.Session
import Menagerie.Store.Backend
import Menagerie.Store.Deployment
import Menagerie.Store.Scene
import Menagerie.StoreUri
import Menagerie.Stream.Channel
import Menagerie.Stream.Cursor
import Menagerie.Stream.Feeder
import Menagerie.Stream.Scene
import Menagerie.Stream.Solo
import Menagerie.Telemetry
import Menagerie.Text.DateTime
import Menagerie.Text.Digits
import Menagerie.Text.Parts
import Menagerie.Text.Quoted
import Menagerie.Timeout
import Menagerie.Trace.Context
import Menagerie.Trace.Propagation
import Menagerie.Wire.Descriptor
import Menagerie.Wire.Field
import Menagerie.Wire.Schema
import Menagerie.Wire.Shape
import Menagerie.Proofs.Stream.Delivery
import Menagerie.Proofs.Stream.Shape
import Menagerie.Proofs.Stream.Completeness
import Menagerie.Proofs.Service.Drain
import Menagerie.Proofs.Service.Admission
import Menagerie.Proofs.Service.Projection
import Menagerie.Proofs.Service.Ledger
import Menagerie.Proofs.Service.Search
import Menagerie.Proofs.Stream.Deadline
import Menagerie.Proofs.Service.Deadline
import Menagerie.Proofs.Service.Grace
import Menagerie.Proofs.Client.Run
import Menagerie.Proofs.StoreUri
import Menagerie.Proofs.Config.Server
import Menagerie.Proofs.Config.Credentials
import Menagerie.Proofs.Service.Capacity
import Menagerie.Proofs.Client.Budget
import Menagerie.Proofs.Service.Strand
import Menagerie.Proofs.Service.Following
import Menagerie.Proofs.Service.Isolation
import Menagerie.Proofs.Stream.Priority
import Menagerie.Proofs.Stream.Departure
import Menagerie.Proofs.Service.Departure
import Menagerie.Proofs.Store.Log
import Menagerie.Proofs.Stream.Documents
import Menagerie.Proofs.Service.Request
import Menagerie.Proofs.Service.Inquiry
import Menagerie.Proofs.Service.Pursuit
import Menagerie.Proofs.Service.Scheduler
import Menagerie.Proofs.Rpc.Host
import Menagerie.Proofs.Service.Answer
import Menagerie.Proofs.Client.Agreement
import Menagerie.Proofs.Client.Listing
import Menagerie.Proofs.Timeout.Spelling
import Menagerie.Proofs.Stream.Pace
import Menagerie.Proofs.Client.Failures
import Menagerie.Proofs.Document
import Menagerie.Proofs.Bson.Document
import Menagerie.Proofs.StoreUri.Bytes
import Menagerie.Proofs.StoreUri.Display
import Menagerie.Proofs.Wire.Grammar
import Menagerie.Proofs.Wire.Message
import Menagerie.Proofs.Text
import Menagerie.Proofs.Metadata
import Menagerie.Proofs.Trace.Propagation
import Menagerie.Proofs.Config.Validity
