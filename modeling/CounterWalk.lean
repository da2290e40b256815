import CounterWalk.Action
import CounterWalk.CommandLine.Basic
import CounterWalk.CommandLine.Message
import CounterWalk.CommandLine.Options
import CounterWalk.CommandLine.Run
import CounterWalk.Counter.Basic
import CounterWalk.Counter.Operations
import CounterWalk.Counter.Start
import CounterWalk.Decimal.Real
import CounterWalk.Decimal.Shortest
import CounterWalk.Fault.Flag
import CounterWalk.Json.Basic
import CounterWalk.Json.Error
import CounterWalk.Json.Escape
import CounterWalk.Json.Numeral
import CounterWalk.Json.Printer
import CounterWalk.Json.Reader
import CounterWalk.Json.StringReader
import CounterWalk.Log.Basic
import CounterWalk.Log.Directive
import CounterWalk.Log.Encode
import CounterWalk.Log.Filter
import CounterWalk.Log.Threshold
import CounterWalk.Log.View
import CounterWalk.Main
import CounterWalk.Model.Basic
import CounterWalk.Model.Error
import CounterWalk.Model.Supply
import CounterWalk.Pattern.Basic
import CounterWalk.Pattern.Class
import CounterWalk.Pattern.Escape
import CounterWalk.Pattern.Matching
import CounterWalk.Pattern.Reader
import CounterWalk.Program
import CounterWalk.Proofs.CommandLine.Assignment
import CounterWalk.Proofs.CommandLine.Reading
import CounterWalk.Proofs.CommandLine.Spelling
import CounterWalk.Proofs.Json.Literal
import CounterWalk.Proofs.Json.LiteralSoundness
import CounterWalk.Proofs.Json.Printing
import CounterWalk.Proofs.Json.Reading
import CounterWalk.Proofs.Json.Soundness
import CounterWalk.Proofs.Json.Spelling
import CounterWalk.Proofs.Log.Lines
import CounterWalk.Proofs.Model.Execution
import CounterWalk.Proofs.Model.History
import CounterWalk.Proofs.Model.Likeness
import CounterWalk.Proofs.Model.Notes
import CounterWalk.Proofs.Model.Script
import CounterWalk.Proofs.Model.Supply
import CounterWalk.Proofs.Report.Acceptance
import CounterWalk.Proofs.Report.Decoding
import CounterWalk.Proofs.Report.Description
import CounterWalk.Proofs.Report.RoundTrip
import CounterWalk.Proofs.Session.Attribution
import CounterWalk.Proofs.Session.Moments
import CounterWalk.Proofs.Session.Run
import CounterWalk.Proofs.Text.Digits
import CounterWalk.Proofs.Text.Numeral
import CounterWalk.Proofs.Walk.Detection
import CounterWalk.Proofs.Walk.Extension
import CounterWalk.Proofs.Walk.Itinerary
import CounterWalk.Proofs.Walk.Legality
import CounterWalk.Proofs.Walk.Notes
import CounterWalk.Proofs.Walk.Replay
import CounterWalk.Random.ChaCha
import CounterWalk.Random.Choice
import CounterWalk.Random.Entropy
import CounterWalk.Random.Keystream
import CounterWalk.Report.Basic
import CounterWalk.Report.Decode
import CounterWalk.Report.Encode
import CounterWalk.Session.Basic
import CounterWalk.Session.Command
import CounterWalk.Session.Slots
import CounterWalk.Text.Alphanumeric
import CounterWalk.Text.Blank
import CounterWalk.Text.Digits
import CounterWalk.Text.Literal
import CounterWalk.Text.Plain
import CounterWalk.Text.Quoted
import CounterWalk.Text.Record
import CounterWalk.Text.Redact
import CounterWalk.Text.Slice
import CounterWalk.Text.Unseen
import CounterWalk.Text.Utf8
import CounterWalk.Walk.Basic
import CounterWalk.Walk.Plan
import CounterWalk.Proofs.Json.Grammar
import CounterWalk.Proofs.Report.Soundness
import CounterWalk.Proofs.Report.Embedding
import CounterWalk.Proofs.Model.Atomicity
import CounterWalk.Proofs.Model.Staleness
import CounterWalk.Proofs.Session.Biography
import CounterWalk.Proofs.Model.Observation
import CounterWalk.Proofs.Log.Changes
import CounterWalk.Proofs.Report.Summary
import CounterWalk.Proofs.Fault.Settings
import CounterWalk.Proofs.Session.Flag
import CounterWalk.Proofs.Session.Guards
import CounterWalk.Proofs.CommandLine.Numbers
import CounterWalk.Proofs.Random.Choice
import CounterWalk.Proofs.Walk.Choices
import CounterWalk.Proofs.Report.Faults
