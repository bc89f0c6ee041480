import LiveCheck.Attribution
import LiveCheck.CommandLine.Arguments
import LiveCheck.CommandLine.Run
import LiveCheck.Decimal.Reading
import LiveCheck.Decimal.Shortest
import LiveCheck.Diagnostic.Basic
import LiveCheck.Diagnostic.Column
import LiveCheck.Diagnostic.Line
import LiveCheck.Discovery
import LiveCheck.Disk.Basic
import LiveCheck.Disk.SystemError
import LiveCheck.Documents
import LiveCheck.Encoding.Builtin
import LiveCheck.Encoding.Codec
import LiveCheck.Encoding.Mistake
import LiveCheck.Encoding.Utf16
import LiveCheck.Encoding.Utf8
import LiveCheck.Fault
import LiveCheck.Handle
import LiveCheck.Lock
import LiveCheck.Main
import LiveCheck.Notification
import LiveCheck.Path
import LiveCheck.Program
import LiveCheck.Project
import LiveCheck.Report
import LiveCheck.Scan
import LiveCheck.Service
import LiveCheck.Session.Moving
import LiveCheck.Session.Run
import LiveCheck.Session.State
import LiveCheck.Session.Step
import LiveCheck.Session.Surroundings
import LiveCheck.Settings.Basic
import LiveCheck.Settings.Reading
import LiveCheck.Settings.Value
import LiveCheck.Shell.Run
import LiveCheck.Shell.Script
import LiveCheck.Snapshot
import LiveCheck.Submission
import LiveCheck.Table
import LiveCheck.Text.Blank
import LiveCheck.Text.Digit
import LiveCheck.Text.Lines
import LiveCheck.Text.Lowercase
import LiveCheck.Text.Numeral
import LiveCheck.Text.Quoted
import LiveCheck.Text.Ranges
import LiveCheck.Text.ShellWords
import LiveCheck.Text.Word
import LiveCheck.Tool
import LiveCheck.Workspace
import LiveCheck.Proofs.Requests
import LiveCheck.Proofs.Scan.Course
import LiveCheck.Proofs.Observed
import LiveCheck.Proofs.Scan.Telling
import LiveCheck.Proofs.Attribution
import LiveCheck.Proofs.Discovery
import LiveCheck.Proofs.Disk
import LiveCheck.Proofs.Scan.Calls
import LiveCheck.Proofs.Scan.Copies
import LiveCheck.Proofs.Scan.Lines
import LiveCheck.Proofs.Scan.LostErrors
import LiveCheck.Proofs.Scan.Cancellation
import LiveCheck.Proofs.Scan.Keys
import LiveCheck.Proofs.Scan.Custody
import LiveCheck.Proofs.Scratch
import LiveCheck.Proofs.Scan.Frame
import LiveCheck.Proofs.Scan.Overlapping
import LiveCheck.Proofs.Scan.Heeding
import LiveCheck.Proofs.Lock
import LiveCheck.Proofs.Service.Operation
import LiveCheck.Proofs.Service.Newest
import LiveCheck.Proofs.Service.InFlight
import LiveCheck.Proofs.Lock.Wakeups
import LiveCheck.Proofs.Lock.Threads
import LiveCheck.Proofs.Disk.Elsewhere
import LiveCheck.Proofs.Reading
import LiveCheck.Proofs.Scan.OneState
import LiveCheck.Proofs.Scan.Locking
import LiveCheck.Proofs.Path.Containment
import LiveCheck.Proofs.Scan.Firing
import LiveCheck.Proofs.Scan.Scope
import LiveCheck.Proofs.ReportLine.Grammar
import LiveCheck.Proofs.Encoding
import LiveCheck.Proofs.Numeral
import LiveCheck.Proofs.Diagnostic
import LiveCheck.Proofs.Saving
import LiveCheck.Proofs.Discarding
import LiveCheck.Proofs.Attribution.Returning
import LiveCheck.Proofs.Scan.Showing
import LiveCheck.Proofs.Scan.Refusals
import LiveCheck.Proofs.Disk.Listing
import LiveCheck.Proofs.Overlay
import LiveCheck.Proofs.Path.Parent
import LiveCheck.Proofs.Discovery.Terrain
import LiveCheck.Proofs.Discovery.Way
import LiveCheck.Proofs.Discovery.Walk
import LiveCheck.Proofs.Discovery.Loop
import LiveCheck.Proofs.Discovery.Union
import LiveCheck.Proofs.Discovery.Order
import LiveCheck.Proofs.Diagnostic.Column
import LiveCheck.Proofs.Diagnostic.Offset
import LiveCheck.Proofs.Disk.Unlinked
import LiveCheck.Proofs.Discovery.Unsaved
import LiveCheck.Proofs.Attribution.Projection
import LiveCheck.Proofs.Path.Beneath
import LiveCheck.Proofs.Tool
import LiveCheck.Proofs.Tool.Output
import LiveCheck.Proofs.Tool.Protocol
import LiveCheck.Proofs.Tool.Failing
import LiveCheck.Proofs.Diagnostic.Listing
import LiveCheck.Proofs.Scan.Untold
import LiveCheck.Proofs.Scan.Reported
import LiveCheck.Proofs.CommandLine.Recording
import LiveCheck.Proofs.CommandLine.Alone
import LiveCheck.Proofs.CommandLine.Verdict
import LiveCheck.Proofs.Settings
import LiveCheck.Proofs.Path.Canonical
import LiveCheck.Proofs.Scan.Cleanup
import LiveCheck.Proofs.Scan.Isolation
