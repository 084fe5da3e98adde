import Wiretap.Address.Reader
import Wiretap.Counter.Basic
import Wiretap.Netflow.Datagram
import Wiretap.Storage.Fault

/-!
# Sending flow records to a collector

A sender gives every flow record a sequence number and hands its datagram to the network, once.

## Main definitions

* `CollectorError`, `readCollector` - the address that a text names, or why it names none.
* `Uplink` - what the host does with datagrams, and its clock.
* `Sender` - a sender that is connected to its collector.
* `Sender.send`, `Sender.sendAll` - hand over one record, or several in order.

## Design notes

The network and the clock are functions of the number of datagrams handed over before.  A sequence
number is spent whether or not the network takes the datagram, so a collector can tell how many
records it has missed.
-/

namespace Wiretap.Netflow

/-! ### Collectors -/

/-- Why a text names no collector. -/
inductive CollectorError where
  /-- There is no colon before a port. -/
  | noPort
  | badPort
  /-- The host does not know the name before the port. -/
  | unknownHost
deriving DecidableEq, Repr

/-- The wording of an error. -/
def CollectorError.message : CollectorError → String
  | noPort => "invalid socket address"
  | badPort => "invalid port value"
  | unknownHost => "failed to lookup address information: Name or service not known"

/-- What comes before and after the last colon of a text. -/
def splitAtLastColon? (cs : List Char) : Option (List Char × List Char) :=
  match (Text.splitAt ':' cs).reverse with
  | last :: before :: more => some (Text.joinWith ':' (before :: more).reverse, last)
  | _ => none

/-- The address that a text names.  Where it is no address with a port, what follows the last
colon is the port, perhaps with a plus sign, and `resolve` is asked for what comes before it. -/
def readCollector (resolve : String → Option IpAddr) (text : String) :
    Except CollectorError SocketAddr :=
  match SocketAddr.parse? text with
  | some a => .ok a
  | none =>
    match splitAtLastColon? text.toList with
    | none => .error .noPort
    | some (name, port) =>
      match (Text.signedNumeral? 10 port).filter (· < 65536) with
      | none => .error .badPort
      | some port =>
        match resolve (String.ofList name) with
        | some ip => .ok { ip, port := UInt16.ofNat port }
        | none => .error .unknownHost

/-! ### Senders -/

/-- What a sender has counted since the last reading. -/
structure SenderCounts where
  /-- Datagrams that the network took. -/
  sent : Nat := 0
  /-- Their bytes. -/
  sentBytes : Nat := 0
  /-- Datagrams that it did not take. -/
  dropped : Nat := 0
deriving DecidableEq, Repr, Inhabited

/-- The counts as counters. -/
def SenderCounts.counters (c : SenderCounts) : List Counter :=
  [.count "tx" c.sent, .count "tx-bytes" c.sentBytes, .count "dropped" c.dropped]

/-- What the host does with the datagrams handed to it, which are numbered from zero. -/
structure Uplink where
  /-- When a datagram is handed over. -/
  clock : Nat → Duration
  /-- What the host answers if it does not take a datagram. -/
  refuses : Nat → Option Fault := fun _ => none

/-- A datagram that was handed to the network. -/
structure Handover where
  record : FlowRecord
  sequence : UInt32
  datagram : Bytes
  /-- What the host answered if it did not take the datagram. -/
  fault : Option Fault
deriving DecidableEq, Repr

/-- A sender that is connected to its collector. -/
structure Sender where
  collector : SocketAddr
  /-- The number of datagrams handed over. -/
  handed : Nat := 0
  counts : SenderCounts := {}
deriving Repr

namespace Sender

/-- The counts after a datagram of a number of bytes was handed over. -/
def counted (c : SenderCounts) (size : Nat) : Option Fault → SenderCounts
  | none => { c with sent := c.sent + 1, sentBytes := c.sentBytes + size }
  | some _ => { c with dropped := c.dropped + 1 }

/-- Hands a record to the network. -/
def send (up : Uplink) (s : Sender) (r : FlowRecord) : Sender × Handover :=
  let sequence := UInt32.ofNat s.handed
  let datagram := encodeRecord r sequence (up.clock s.handed)
  let fault := up.refuses s.handed
  ({ s with handed := s.handed + 1, counts := counted s.counts datagram.length fault },
    { record := r, sequence, datagram, fault })

/-- Hands records to the network, one after the other. -/
def sendAll (up : Uplink) (s : Sender) : List FlowRecord → Sender × List Handover
  | [] => (s, [])
  | r :: rs =>
    let (s, first) := s.send up r
    let (s, later) := s.sendAll up rs
    (s, first :: later)

/-- Reads the counts. -/
def readCounts (s : Sender) : Sender × SenderCounts := ({ s with counts := {} }, s.counts)

@[simp] theorem collector_send (up : Uplink) (s : Sender) (r : FlowRecord) :
    (s.send up r).1.collector = s.collector := rfl

@[simp] theorem handed_send (up : Uplink) (s : Sender) (r : FlowRecord) :
    (s.send up r).1.handed = s.handed + 1 := rfl

/-- Every record spends one sequence number. -/
theorem handed_sendAll (up : Uplink) (s : Sender) (rs : List FlowRecord) :
    (s.sendAll up rs).1.handed = s.handed + rs.length := by
  induction rs generalizing s with
  | nil => rfl
  | cons r rs ih => simp [sendAll, ih]; omega

end Sender

end Wiretap.Netflow
