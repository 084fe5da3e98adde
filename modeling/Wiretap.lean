import Wiretap.Address.Ip
import Wiretap.Address.Reader
import Wiretap.Bytes
import Wiretap.Capture.Archive
import Wiretap.Capture.Format
import Wiretap.CommandLine
import Wiretap.Config.Basic
import Wiretap.Config.Load
import Wiretap.Config.Reader
import Wiretap.Counter.Basic
import Wiretap.Counter.Collector
import Wiretap.Counter.Registry
import Wiretap.Counter.Tenths
import Wiretap.Envelope.Basic
import Wiretap.Envelope.Codec
import Wiretap.Flow.Record
import Wiretap.Flow.Table
import Wiretap.Logging
import Wiretap.Mac
import Wiretap.Main
import Wiretap.Metadata.Line
import Wiretap.Metadata.Log
import Wiretap.Netflow.Datagram
import Wiretap.Netflow.Exporter
import Wiretap.Netflow.Sender
import Wiretap.Packet.Basic
import Wiretap.Packet.Decode
import Wiretap.Packet.EtherType
import Wiretap.Packet.IpProtocol
import Wiretap.Packet.Network
import Wiretap.Packet.TcpFlags
import Wiretap.Packet.Transport
import Wiretap.Program
import Wiretap.Receiver.Notice
import Wiretap.Receiver.Pipeline
import Wiretap.Receiver.Server
import Wiretap.Receiver.Tally
import Wiretap.Storage.Disk
import Wiretap.Storage.Fault
import Wiretap.Storage.Path
import Wiretap.Text.Numeral
import Wiretap.Text.Quoted
import Wiretap.Text.Unprintable
import Wiretap.Time.Calendar
import Wiretap.Time.Duration
import Wiretap.Yaml.Lexer
import Wiretap.Yaml.Node
import Wiretap.Yaml.Property
import Wiretap.Yaml.Reader
import Wiretap.Yaml.Scalar
import Wiretap.Yaml.Spot
import Wiretap.Yaml.Token
import Wiretap.Proofs.Flow.Cell
import Wiretap.Proofs.Flow.Summary
import Wiretap.Proofs.Netflow.ReadBack
import Wiretap.Proofs.Netflow.Layout
import Wiretap.Proofs.Flow.Counts
import Wiretap.Proofs.Netflow.Delivery
import Wiretap.Proofs.Receiver.Conservation
import Wiretap.Proofs.Access.Basic
import Wiretap.Proofs.Access.Envelope
import Wiretap.Proofs.Access.Frame
import Wiretap.Proofs.Access.Pipeline
import Wiretap.Proofs.Envelope.Grammar
import Wiretap.Proofs.Envelope.RoundTrip
import Wiretap.Proofs.Envelope.Normal
import Wiretap.Proofs.Envelope.Cut
import Wiretap.Proofs.Receiver.Sinks
import Wiretap.Proofs.Storage.Folder
import Wiretap.Proofs.Capture.ReadBack
import Wiretap.Proofs.Capture.Backups
import Wiretap.Proofs.Capture.Rotation
import Wiretap.Proofs.Capture.LostBackup
import Wiretap.Proofs.Counter.Shown
import Wiretap.Proofs.Receiver.Counts
import Wiretap.Proofs.Receiver.LifeCycle
import Wiretap.Proofs.Storage.Edits
import Wiretap.Proofs.Storage.Beside
import Wiretap.Proofs.Capture.Opening
import Wiretap.Proofs.Capture.Renewal
import Wiretap.Proofs.Receiver.FailedStart
import Wiretap.Proofs.Text.Numeral
import Wiretap.Proofs.Address.Text
import Wiretap.Proofs.Packet.Names
import Wiretap.Proofs.Time.Stamp
import Wiretap.Proofs.Metadata.Line
import Wiretap.Proofs.Metadata.Log
import Wiretap.Proofs.Packet.Layers
import Wiretap.Proofs.Packet.Cut
import Wiretap.Proofs.Packet.Carrier
import Wiretap.Proofs.Counter.Standing
import Wiretap.Proofs.Counter.Readings
import Wiretap.Proofs.Packet.Header
import Wiretap.Proofs.Packet.Tags
import Wiretap.Proofs.Packet.Padding
import Wiretap.Proofs.Packet.Fragment
import Wiretap.Proofs.Flow.Separation
import Wiretap.Proofs.Flow.Timeouts
import Wiretap.Proofs.Flow.Intervals
import Wiretap.Proofs.Counter.Flows
import Wiretap.Proofs.Capture.Bounds
import Wiretap.Proofs.Packet.Walk
import Wiretap.Proofs.Config.Nothing
import Wiretap.Proofs.Capture.Shift
import Wiretap.Proofs.Config.Sections
import Wiretap.Proofs.Config.Spelling
import Wiretap.Proofs.Address.Spelling
