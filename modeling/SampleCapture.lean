import SampleCapture.Intake.Setup
import SampleCapture.Main
import SampleCapture.LogFilter
import SampleCapture.Output.Script
import SampleCapture.Packet
import SampleCapture.Progress.Json
import SampleCapture.Queue.Exchange
import SampleCapture.Session.Json
import SampleCapture.Session.Report
import SampleCapture.Session.Schedule
import SampleCapture.Proofs.Queue.Run
import SampleCapture.Proofs.Queue.Order
import SampleCapture.Proofs.Output.Stream
import SampleCapture.Proofs.Recorder.Steps
import SampleCapture.Proofs.Session.Steps
import SampleCapture.Proofs.Session.Wiring
import SampleCapture.Proofs.Session.Books
import SampleCapture.Proofs.Session.Flow
import SampleCapture.Proofs.Output.Manners
import SampleCapture.Proofs.Session.Endings
import SampleCapture.Proofs.Session.Runs
import SampleCapture.Proofs.Session.File
import SampleCapture.Proofs.Session.TransferError
import SampleCapture.Proofs.Queue.Wakeups
import SampleCapture.Proofs.Session.Effort
import SampleCapture.Proofs.Session.Progress
import SampleCapture.Proofs.Intake.Stream
import SampleCapture.Proofs.Session.Requests
import SampleCapture.Proofs.Session.Verdict
import SampleCapture.Proofs.Session.Disk
import SampleCapture.Proofs.Session.Balance
import SampleCapture.Proofs.Intake.Overflow
import SampleCapture.Proofs.Session.Overflow
import SampleCapture.Proofs.Reader
import SampleCapture.Proofs.Session.Answers
import SampleCapture.Proofs.Session.Replay
import SampleCapture.Proofs.Intake.CallerRun
import SampleCapture.Proofs.Intake.Answers
import SampleCapture.Proofs.Intake.Stock
import SampleCapture.Proofs.Intake.Signals
import SampleCapture.Proofs.Intake.Throughput
import SampleCapture.Proofs.Intake.WarmUp
import SampleCapture.Proofs.Reader.Delivery
import SampleCapture.Proofs.Recorder.Recording
import SampleCapture.Proofs.Queue.Loading
import SampleCapture.Proofs.Recorder.Run
import SampleCapture.Proofs.Recorder.Reference
import SampleCapture.Proofs.Packet
import SampleCapture.Proofs.Session.Lines
import SampleCapture.Proofs.FirstReason
import SampleCapture.Proofs.Intake.Journal
import SampleCapture.Proofs.Intake.Ledger
import SampleCapture.Proofs.Intake.Accounts
import SampleCapture.Proofs.Intake.Logbook
import SampleCapture.Proofs.Json.Grammar
import SampleCapture.Proofs.Json.Passing
import SampleCapture.Proofs.Json.Reading
import SampleCapture.Proofs.Json.Objects
import SampleCapture.Proofs.Options.Slots
import SampleCapture.Proofs.Json.Printing
import SampleCapture.Proofs.Options.Partial
import SampleCapture.Proofs.Options.Legal
import SampleCapture.Proofs.LogFilter
import SampleCapture.Proofs.Stop.RoundTrip
import SampleCapture.Proofs.Progress.Line
