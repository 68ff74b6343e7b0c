import TopicHealth.Aggregator
import TopicHealth.Binary
import TopicHealth.Bus.Basic
import TopicHealth.Bus.Call
import TopicHealth.Bus.Gate
import TopicHealth.Bus.Poller
import TopicHealth.Bus.Receive
import TopicHealth.Bus.Run
import TopicHealth.Bus.Signal
import TopicHealth.Bus.Wakeup
import TopicHealth.CommandLine
import TopicHealth.Document
import TopicHealth.Duration
import TopicHealth.Duration.Display
import TopicHealth.Duration.Human
import TopicHealth.Event
import TopicHealth.IpAddress
import TopicHealth.Main
import TopicHealth.Node.Basic
import TopicHealth.Node.Config
import TopicHealth.Node.Emitter
import TopicHealth.Node.Feed
import TopicHealth.Node.Monitor
import TopicHealth.Node.Work
import TopicHealth.Notice
import TopicHealth.Notice.Directive
import TopicHealth.Notice.Filter
import TopicHealth.Notice.Pattern
import TopicHealth.Payload
import TopicHealth.Payload.Same
import TopicHealth.PublisherSet
import TopicHealth.Report
import TopicHealth.Ring
import TopicHealth.Service
import TopicHealth.Service.Rate
import TopicHealth.Text.Alphabet
import TopicHealth.Text.Blank
import TopicHealth.Text.Decimal
import TopicHealth.Text.Hexadecimal
import TopicHealth.Text.Integer
import TopicHealth.Text.Quoted
import TopicHealth.Text.Slice
import TopicHealth.Tracker.Basic
import TopicHealth.Tracker.Config
import TopicHealth.Tracker.Status
import TopicHealth.Utf8
import TopicHealth.Wire.Codec
import TopicHealth.Wire.Event
import TopicHealth.Yaml.Cursor
import TopicHealth.Yaml.Scalar
import TopicHealth.Yaml.Token
import TopicHealth.Yaml.Tree
import TopicHealth.Proofs.Utf8
import TopicHealth.Proofs.Wire.Decoder
import TopicHealth.Proofs.Wire.Varint
import TopicHealth.Proofs.Wire.Part
import TopicHealth.Proofs.Wire.Codec
import TopicHealth.Proofs.Wire.Schema
import TopicHealth.Proofs.Wire.Event
import TopicHealth.Proofs.Bus.Action
import TopicHealth.Proofs.Bus.Receive
import TopicHealth.Proofs.Bus.Gate
import TopicHealth.Proofs.Wire.RoundTrip
import TopicHealth.Proofs.Aggregator.Open
import TopicHealth.Proofs.Aggregator.Update
import TopicHealth.Proofs.Duration
import TopicHealth.Proofs.Ring
import TopicHealth.Proofs.Tracker.Run
import TopicHealth.Proofs.Tracker.Receipt
import TopicHealth.Proofs.Tracker.Rate
import TopicHealth.Proofs.Bus.Yield
import TopicHealth.Proofs.Tracker.Verdict
import TopicHealth.Proofs.Tracker.Independence
import TopicHealth.Proofs.Tracker.Exemption
import TopicHealth.Proofs.Aggregator.Gate
import TopicHealth.Proofs.Aggregator.Turn
import TopicHealth.Proofs.Aggregator.Exemption
import TopicHealth.Proofs.Aggregator.Isolation
import TopicHealth.Proofs.Aggregator.Holders
import TopicHealth.Proofs.Bus.Traffic
import TopicHealth.Proofs.PublisherSet.Open
import TopicHealth.Proofs.Node.Open
import TopicHealth.Proofs.Session.Basic
import TopicHealth.Proofs.Bus.Keep
import TopicHealth.Proofs.Session.Holders
import TopicHealth.Proofs.Session.History
import TopicHealth.Proofs.Session.Publishing
import TopicHealth.Proofs.Session.Delivery
import TopicHealth.Proofs.Bus.Renumber
import TopicHealth.Proofs.Node.Renumber
import TopicHealth.Proofs.Session.Renumber
import TopicHealth.Proofs.Session.Refusal
import TopicHealth.Proofs.Aggregator.Clock
import TopicHealth.Proofs.Binary
import TopicHealth.Proofs.Node.Config
import TopicHealth.Proofs.Node.Feed
import TopicHealth.Proofs.Report
import TopicHealth.Proofs.Ring.Moves
import TopicHealth.Proofs.Bus.Terms
import TopicHealth.Proofs.Node.Monitor
import TopicHealth.Proofs.Node.Work
import TopicHealth.Proofs.Node.Return
import TopicHealth.Proofs.Tracker.Silence
import TopicHealth.Proofs.Bus.Drain
import TopicHealth.Proofs.Bus.Turns
import TopicHealth.Proofs.Bus.Newest
import TopicHealth.Proofs.Bus.Retrieval
import TopicHealth.Proofs.Bus.Blocking
import TopicHealth.Proofs.Bus.Reporting
import TopicHealth.Proofs.Tracker.Log
import TopicHealth.Proofs.Aggregator.Log
import TopicHealth.Proofs.Bus.Gating
import TopicHealth.Proofs.Bus.Binding
import TopicHealth.Proofs.Bus.Harness
import TopicHealth.Proofs.PublisherSet.Wait
import TopicHealth.Proofs.Ring.Mean
import TopicHealth.Proofs.Node.Acceptance
import TopicHealth.Proofs.Report.Reading
import TopicHealth.Proofs.Report.Stretch
import TopicHealth.Proofs.Node.Log
import TopicHealth.Proofs.Bus.Wakeup
import TopicHealth.Proofs.Bus.Polling
import TopicHealth.Proofs.Bus.Interleaving
