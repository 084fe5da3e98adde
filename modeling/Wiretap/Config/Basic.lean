import Wiretap.Address.Reader
import Wiretap.Metadata.Line
import Wiretap.Storage.Fault
import Wiretap.Text.Quoted

/-!
# Settings

What a receiver can be told before it starts, the values that hold where it is told nothing, and
the conditions that settings meet before they are used.

## Main definitions

* `Config` - the settings of a receiver, in sections.
* `Config.settle` - settings with the default where a zero asks for it, if they can be used.
* `ConfigError` - why there are no settings, with the wording in `ConfigError.message`.

## Design notes

Every section has all its defaults in its type, so `{}` is the section that nobody wrote.  A zero
for the buffer size or for a timeout of a flow means that the default is wanted.
-/

namespace Wiretap

/-- Where datagrams are received. -/
structure ServerSettings where
  listenAddr : String := "0.0.0.0:37008"
  /-- The bytes of a datagram that are looked at. -/
  bufferSize : Nat := 65536
deriving DecidableEq, Repr, Inhabited

/-- The log of metadata lines. -/
structure FileSettings where
  enabled : Bool := false
  path : String := "packets.log"
  format : LineFormat := .json
deriving DecidableEq, Repr, Inhabited

/-- The archive of captured frames. -/
structure CaptureSettings where
  enabled : Bool := false
  path : String := "capture.pcap"
  /-- The size in mebibytes after which a file is full, zero for no limit. -/
  maxSize : Nat := 100
  maxBackups : Nat := 5
deriving DecidableEq, Repr, Inhabited

/-- The export of flows. -/
structure NetflowSettings where
  enabled : Bool := false
  collector : String := "127.0.0.1:2055"
  version : Nat := 5
  /-- Seconds without packets after which a flow ends. -/
  flowTimeout : Nat := 60
  /-- Seconds after which a flow is exported in any case. -/
  activeTimeout : Nat := 120
deriving DecidableEq, Repr, Inhabited

/-- What is done with the frames received. -/
structure OutputSettings where
  file : FileSettings := {}
  capture : CaptureSettings := {}
  netflow : NetflowSettings := {}
deriving DecidableEq, Repr, Inhabited

/-- The log of the receiver itself. -/
structure LoggingSettings where
  level : String := "info"
  console : Bool := true
  /-- The path of the log file, empty for none. -/
  file : String := ""
deriving DecidableEq, Repr, Inhabited

/-- The settings of a receiver. -/
structure Config where
  server : ServerSettings := {}
  output : OutputSettings := {}
  logging : LoggingSettings := {}
deriving DecidableEq, Repr, Inhabited

/-- Why there are no settings. -/
inductive ConfigError where
  /-- Their file cannot be read. -/
  | unreadable (fault : Fault)
  /-- Their text is no configuration. -/
  | malformed
  /-- The listen address is no address with a port. -/
  | listenAddr (text : String)
  /-- No datagram fills the buffer. -/
  | bufferSize (size : Nat)
deriving DecidableEq, Repr

/-- The wording of an error. -/
def ConfigError.message : ConfigError → String
  | unreadable fault => "failed to read config file: " ++ fault.message
  | malformed => "yaml config invalid"
  | listenAddr text =>
    s!"runtime config invalid: listen-addr {Text.quoted text} is not an ip:port pair"
  | bufferSize size =>
    s!"runtime config invalid: buffer-size {size} exceeds the largest udp datagram"

namespace NetflowSettings

/-- How long a flow may be without packets. -/
def idle (s : NetflowSettings) : Duration := .ofSecs s.flowTimeout

/-- How long a flow may be open. -/
def active (s : NetflowSettings) : Duration := .ofSecs s.activeTimeout

end NetflowSettings

namespace Config

/-- The largest buffer that a datagram may need. -/
def largestBuffer : Nat := 65536

/-- A number, or its default where it is zero. -/
def orDefault (n default : Nat) : Nat := if n = 0 then default else n

/-- The settings with the default wherever a zero asks for it. -/
def withDefaults (c : Config) : Config :=
  let server : ServerSettings := {}
  let netflow : NetflowSettings := {}
  { c with
    server := { c.server with bufferSize := orDefault c.server.bufferSize server.bufferSize }
    output := { c.output with
      netflow := { c.output.netflow with
        flowTimeout := orDefault c.output.netflow.flowTimeout netflow.flowTimeout
        activeTimeout := orDefault c.output.netflow.activeTimeout netflow.activeTimeout } } }

/-- The settings themselves, if they can be used. -/
def validate (c : Config) : Except ConfigError Config :=
  if (SocketAddr.parse? c.server.listenAddr).isNone then .error (.listenAddr c.server.listenAddr)
  else if largestBuffer < c.server.bufferSize then .error (.bufferSize c.server.bufferSize)
  else .ok c

/-- The settings with the defaults that zeros ask for, if they can be used. -/
def settle (c : Config) : Except ConfigError Config := c.withDefaults.validate

@[simp] theorem orDefault_zero (default : Nat) : orDefault 0 default = default := rfl

theorem orDefault_pos {n default : Nat} (h : 0 < default) : 0 < orDefault n default := by
  unfold orDefault
  split <;> omega

/-- Valid settings have a listen address and a buffer that is not too large. -/
theorem validate_eq_ok {c d : Config} (h : c.validate = .ok d) :
    d = c ∧ (SocketAddr.parse? d.server.listenAddr).isSome ∧
      d.server.bufferSize ≤ largestBuffer := by
  unfold validate at h
  split at h
  · cases h
  · split at h
    · cases h
    · next hAddr hSize =>
      cases h
      refine ⟨rfl, ?_, Nat.not_lt.mp hSize⟩
      simpa [Option.isSome_iff_ne_none] using hAddr

end Config

end Wiretap
