import Std.Async.DNS
import Std.Async.Select
import Std.Async.Signal
import Std.Async.Timer
import Std.Async.UDP
import Std.Time.DateTime.Timestamp
import Wiretap.Program

/-!
# Running the program

Files, sockets, signals and the clock of a real host, joined to the program.

## Main definitions

* `Terminal.visit`, `Terminal.commit` - bring files to a `Disk` and back.
* `Terminal.Links` - the open sockets, and the signals that end the program.
* `Terminal.watch` - handles datagrams until the program is asked to end.

## Design notes

Nothing is decided here.  Every step is a step of `Server`, taken on a disk that holds the files
named in the settings; what has changed on it goes to the host about once a second and at the end.
-/

open Std.Async

namespace Wiretap.Terminal

/-! ### Files -/

/-- The name that the host has for a place. -/
def nameOf (place : Place) : String := "/" ++ "/".intercalate place

/-- What the host has at a place. -/
def look (place : Place) : IO (Option FileNode) := do
  try
    let content ← IO.FS.readBinFile (nameOf place)
    return some (.file content.toList)
  catch
    | .noFileOrDirectory .. => return none
    | _ => return some .directory

/-- Brings one more name on the way of a path to the disk. -/
def visitName : Disk × Place → String → IO (Disk × Place)
  | (d, place), ".." => return (d, place.dropLast)
  | (d, place), name => do
    let place := place ++ [name]
    if (d.node? place).isSome then return (d, place)
    match ← look place with
    | some node => return (d.put place node, place)
    | none => return (d, place)

/-- Brings what lies on the way of a path to the disk. -/
def visit (d : Disk) (p : Path) : IO Disk := do
  let names := p.names.filter fun n => n ≠ "" ∧ n ≠ "."
  let (d, _) ← names.foldlM visitName (d, d.origin p.names)
  return d

/-- Brings all files to the disk that settings name. -/
def visitAll (d : Disk) (c : Config) : IO Disk := do
  let capture := Path.ofString c.output.capture.path
  let backups := (List.range c.output.capture.maxBackups).map fun n => capture.numbered (n + 1)
  let log := (logPath? d c.logging.file).toList ++ [Path.ofString c.logging.file]
  (Path.ofString c.output.file.path :: capture :: backups ++ log).foldlM visit d

/-- Brings a disk that has changed back to the host. -/
def commit (before after : Disk) : IO Unit := do
  for (place, node) in after.listing do
    if before.node? place ≠ some node then
      match node with
      | .directory => IO.FS.createDir (nameOf place)
      | .file content => IO.FS.writeBinFile (nameOf place) (ByteArray.mk content.toArray)
  for (place, _) in before.listing do
    if (after.node? place).isNone then IO.FS.removeFile (nameOf place)

/-! ### Addresses -/

/-- An address for the sockets of the host. -/
def toNet (a : SocketAddr) : Std.Net.SocketAddress :=
  match a.ip with
  | .v4 x => .v4 { addr := ⟨#v[x.a, x.b, x.c, x.d]⟩, port := a.port }
  | .v6 x => .v6 { addr := ⟨#v[x.a, x.b, x.c, x.d, x.e, x.f, x.g, x.h]⟩, port := a.port }

/-- The address of a host without a port. -/
def ofNetIp : Std.Net.IPAddr → IpAddr
  | .v4 ⟨x⟩ => .v4 ⟨x[0], x[1], x[2], x[3]⟩
  | .v6 ⟨x⟩ => .v6 ⟨x[0], x[1], x[2], x[3], x[4], x[5], x[6], x[7]⟩

/-- An address of a socket of the host. -/
def ofNet : Std.Net.SocketAddress → SocketAddr
  | .v4 a => { ip := ofNetIp (.v4 a.addr), port := a.port }
  | .v6 a => { ip := ofNetIp (.v6 a.addr), port := a.port }

/-! ### Sockets -/

/-- The open sockets, and the signals that end the program. -/
structure Links where
  /-- Where datagrams arrive. -/
  inlet : UDP.Socket
  /-- Where flow records leave, connected to the collector. -/
  outlet : UDP.Socket
  signals : Array Signal.Waiter

/-- Sockets that are not bound yet. -/
def Links.create : IO Links := do
  let signals ← #[Signal.sigterm, .sigint, .sigquit].mapM fun s => Signal.Waiter.mk s false
  return { inlet := ← UDP.Socket.mk, outlet := ← UDP.Socket.mk, signals }

/-- What the host answers when the sockets are bound and connected as settings ask for it. -/
def Links.connect (l : Links) (c : Config) : IO Host := do
  let bound ← match SocketAddr.parse? c.server.listenAddr with
    | some address =>
      l.inlet.bind (toNet address)
      pure (ofNet (← l.inlet.getSockName))
    | none => pure { ip := .v4 ⟨0, 0, 0, 0⟩, port := 0 }
  let text := c.output.netflow.collector
  let found ← match Netflow.splitAtLastColon? text.toList with
    | some (name, _) =>
      try
        (DNS.getAddrInfo (String.ofList name) "").block
      catch _ => pure #[]
    | none => pure #[]
  let resolve : String → Option IpAddr := fun _ => found[0]?.map ofNetIp
  let refusal ← match Netflow.readCollector resolve text with
    | .ok collector =>
      try
        l.outlet.connect (toNet collector)
        pure none
      catch _ => pure (some Fault.networkUnreachable)
    | .error _ => pure none
  return {
    routing := { resolve, refuses := fun _ => refusal }
    bind := fun _ => .ok bound
    uplink := fun _ => { clock := fun _ => .zero } }

/-- What wakes the program up. -/
inductive Wake where
  | datagram (data : ByteArray) (source : Option Std.Net.SocketAddress)
  | pause
  | signal

/-- Waits until there is something to do, a second at most. -/
def Links.wait (l : Links) (bufferSize : Nat) : Async Wake := do
  let pause ← Selector.sleep 1000
  Selectable.one (#[
    .case (l.inlet.recvSelector bufferSize.toUInt64) fun (data, source) =>
      return .datagram data source,
    .case pause fun _ => return .pause] ++
    l.signals.map fun w => .case w.selector fun _ => return .signal)

/-! ### Sessions -/

/-- The time of day. -/
def clock : IO Duration := do
  return ⟨(← Std.Time.Timestamp.now).toNanosecondsSinceUnixEpoch.val.toNat⟩

/-- The time since some moment in the past. -/
def stopwatch : IO Duration := return ⟨← IO.monoNanosNow⟩

/-- Brings the effects of a step to console and network, and gives the disk with the new lines of
the log. -/
def settle (l : Links) (target : LogTarget) (e : Effects) : IO Disk := do
  let lines := target.lines e.notices
  if target.console then lines.forM IO.println
  for handover in e.exported do
    try
      (l.outlet.send (ByteArray.mk handover.datagram.toArray)).block
    catch _ => pure ()
  return target.append e.disk lines

/-- A session that is going on. -/
structure Watch where
  links : Links
  host : Host
  target : LogTarget
  started : Duration
  /-- The time after the start up to which everything is done that was due. -/
  done : Duration := .zero
  server : Server
  disk : Disk
  /-- What the host has of the disk. -/
  saved : Disk

/-- Takes a step of the server. -/
def Watch.step (w : Watch) (event : Server.Event) : IO Watch := do
  let now ← clock
  let host := { w.host with uplink := fun _ => { clock := fun _ => now } }
  let effects := Server.step host w.disk w.server event
  return { w with server := effects.server, disk := ← settle w.links w.target effects }

/-- Does what is due and brings the disk to the host. -/
def Watch.tick (w : Watch) : IO Watch := do
  let done := (← stopwatch).since w.started
  let w ← (Program.due w.done done (← clock)).foldlM Watch.step w
  let (disk, server) := w.server.flush w.disk
  commit w.saved disk
  return { w with done, server, disk, saved := disk }

/-- Handles datagrams until the program is asked to end. -/
partial def watch (w : Watch) : IO Unit := do
  match ← (w.links.wait w.server.config.server.bufferSize).block with
  | .datagram data source =>
    let now ← clock
    let source := (source.map ofNet).getD { ip := .v4 ⟨0, 0, 0, 0⟩, port := 0 }
    watch (← w.step (.datagram { data := data.toList, source, time := now, now }))
  | .pause => watch (← w.tick)
  | .signal =>
    let now ← clock
    let host := { w.host with uplink := fun _ => { clock := fun _ => now } }
    let disk ← settle w.links w.target (Program.close host w.disk w.server)
    commit w.saved disk

/-- What the program does with its arguments, on this host, and its exit code. -/
def run (args : List String) : IO Nat := do
  let here := (Path.ofString (toString (← IO.currentDir))).names.filter (· ≠ "")
  let mut disk := ({ home := here } : Disk).withFolders (here ++ [""])
  let links ← Links.create
  let mut host : Host := { uplink := fun _ => { clock := fun _ => .zero } }
  if let some (.serve file) := CommandLine.read? args then
    disk ← visit disk (.ofString file)
    if let .ok config := Config.loadFile disk (.ofString file) then
      disk ← visitAll disk config
      host ← links.connect config
  let launch := Program.launch host disk args
  match launch with
  | .printed lines => lines.forM IO.println
  | .misuse => CommandLine.helpLines.forM IO.eprintln
  | .failed _ => pure ()
  | .opened session =>
    let after ← settle links session.target session.effects
    commit disk after
    if launch.reason?.isNone then
      watch {
        links, host, target := session.target, started := ← stopwatch
        server := session.effects.server, disk := after, saved := after }
  if let some reason := launch.reason? then IO.eprintln ("Error: " ++ reason)
  return launch.exitCode

end Wiretap.Terminal

/-- The program. -/
def main (args : List String) : IO UInt32 := do
  return (← Wiretap.Terminal.run args).toUInt32
