import Wiretap.Envelope.Codec
import Wiretap.Netflow.Exporter
import Wiretap.Packet.Basic
import Wiretap.Storage.Path

/-!
# Notices

What a receiver says in its own log while it works.

## Main definitions

* `Notice` - the things that are said.
* `Notice.level`, `Notice.text` - how important a notice is, and its wording.
-/

namespace Wiretap

/-- How important a notice is. -/
inductive NoticeLevel where
  | debug
  | info
  | warn
  | error
deriving DecidableEq, Repr

/-- A thing that a receiver says. -/
inductive Notice where
  /-- The program has read its settings. -/
  | starting (program : String) (configFile : String)
  | startFailed (reason : String)
  /-- The program is asked to end. -/
  | terminating
  /-- The first datagram of all. -/
  | firstDatagram (source : SocketAddr) (size : Nat)
  /-- A datagram without an envelope. -/
  | rejected (source : SocketAddr) (error : EnvelopeError)
  /-- An envelope without a frame. -/
  | noFrame (source : SocketAddr) (purpose : Purpose)
  /-- An envelope with a frame. -/
  | envelope (source : SocketAddr) (size : Nat) (encapsulation : Encapsulation) (time : Duration)
      (rssi : Option Int) (sensor : Option Mac)
  /-- A frame with a malformed layer. -/
  | malformedLayer (source : SocketAddr) (error : LayerError)
  | packet (source : SocketAddr) (packet : Packet)
  | captureFailed (fault : Fault)
  | metadataFailed (fault : Fault)
  /-- A flow record on its way to the collector. -/
  | exported (collector : SocketAddr) (handover : Netflow.Handover)
  | fileDisabled
  | fileOpened (path : Path) (format : LineFormat)
  | captureDisabled
  | captureOpened (path : Path)
  | netflowDisabled
  | netflowConnected (collector : SocketAddr)
  | netflowOpened (collector : SocketAddr) (settings : NetflowSettings)
  | sweeperStarted
  | listening (address : SocketAddr) (bufferSize : Nat)
  | alreadyStarted
  | alreadyStopped
  | stopping
  | netflowStopped (flows : Nat)
  | stopped
  /-- A source of counters that takes over the name of another one. -/
  | duplicateSource (warning : String)
  /-- A line of counters. -/
  | counters (line : String)
deriving Repr

namespace Notice

/-- How important a notice is. -/
def level : Notice → NoticeLevel
  | rejected .. | noFrame .. | envelope .. | malformedLayer .. | packet .. => .debug
  | exported _ handover => if handover.fault.isNone then .debug else .warn
  | captureFailed _ | metadataFailed _ | alreadyStarted | alreadyStopped | duplicateSource _ =>
    .warn
  | startFailed _ => .error
  | _ => .info

/-- A value that may be missing. -/
def orNone (value : Option String) : String :=
  match value with
  | some v => s!"Some({v})"
  | none => "None"

/-- The wording of a notice. -/
def text : Notice → String
  | starting program configFile => s!"{program} starting with config {configFile}"
  | startFailed reason => s!"failed to start tzsp server: {reason}"
  | terminating => "received termination signal"
  | firstDatagram source size => s!"first TZSP packet received from {source} size {size}"
  | rejected source error => s!"drop TZSP packet from {source}: {error.message}"
  | noFrame source purpose =>
    s!"drop TZSP packet from {source} without encapsulated frame, type {purpose.name}"
  | envelope source size encapsulation time rssi sensor =>
    s!"TZSP packet from {source} size {size} protocol {encapsulation.name} timestamp {time}" ++
      " rssi " ++ orNone (rssi.map toString) ++ " sensor " ++ orNone (sensor.map toString)
  | malformedLayer source error => s!"partially decoded packet from {source}: {error.message}"
  | packet source p => s!"packet from {source}: {p.text}"
  | captureFailed fault => s!"write pcap failed: {fault.message}"
  | metadataFailed fault => s!"write packet metadata failed: {fault.message}"
  | exported collector handover =>
    match handover.fault with
    | none => s!"exported flow {handover.record} sequence {handover.sequence}"
    | some fault =>
      s!"send netflow record to {collector} failed: {fault.message}, " ++
        s!"flow {handover.record.key} dropped"
  | fileDisabled => "file output for packet metadata disabled"
  | fileOpened path format => s!"metadata writer opened {path} in {format.name} format"
  | captureDisabled => "pcap output disabled"
  | captureOpened path => s!"pcap writer opened {path}"
  | netflowDisabled => "netflow export disabled"
  | netflowConnected collector => s!"netflow sender connected to collector {collector}"
  | netflowOpened collector settings =>
    s!"netflow v{settings.version} exporter to {collector} with " ++
      s!"flow-timeout {settings.idle} active-timeout {settings.active}"
  | sweeperStarted => "netflow sweeper started"
  | listening address bufferSize =>
    s!"tzsp server listening on {address} with buffer size {bufferSize}"
  | alreadyStarted => "tzsp server already started, do nothing."
  | alreadyStopped => "tzsp server already stopped, do nothing."
  | stopping => "stopping tzsp server"
  | netflowStopped flows => s!"netflow exporter stopped, flushed {flows} flows"
  | stopped => "stopped tzsp server"
  | duplicateSource warning => warning
  | counters line => line

end Notice

end Wiretap
