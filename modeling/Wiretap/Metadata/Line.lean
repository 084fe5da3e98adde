import Wiretap.Packet.Basic
import Wiretap.Time.Calendar

/-!
# Metadata lines

The fields of a packet in one line, as a JSON object or as pairs of a name and a value.

## Main definitions

* `LineFormat` - the two formats.
* `Metadata.Field`, `Metadata.fields` - the fields of a packet that a line shows, in order.
* `Metadata.line?` - the line of a packet, without its line break.

## Design notes

Both formats show the same fields in the same order and leave out those that the packet does not
have.  No value holds a character that needs an escape: values are numbers, addresses, names of
protocols, letters of flags and the time.  A packet whose time lies beyond the calendar has no
line.
-/

namespace Wiretap

/-- The format of a metadata line. -/
inductive LineFormat where
  | json
  | text
deriving DecidableEq, Repr, Inhabited

/-- The name of a format. -/
def LineFormat.name : LineFormat → String
  | json => "json"
  | text => "text"

namespace Metadata

/-- The value of a field. -/
inductive Value where
  | number (n : Nat)
  /-- A word, which only JSON puts in quotes. -/
  | word (w : String)
  /-- A time, which both formats put in quotes. -/
  | stamp (s : String)
deriving DecidableEq, Repr

/-- A name and a value. -/
structure Field where
  name : String
  value : Value
deriving DecidableEq, Repr

/-- A text in quotes. -/
def quoted (s : String) : String := "\"" ++ s ++ "\""

namespace Field

/-- A field in a JSON object. -/
def json (f : Field) : String :=
  quoted f.name ++ ":" ++
    match f.value with
    | .number n => toString n
    | .word w => quoted w
    | .stamp s => quoted s

/-- A field as a pair of name and value. -/
def pair (f : Field) : String :=
  f.name ++ "=" ++
    match f.value with
    | .number n => toString n
    | .word w => w
    | .stamp s => quoted s

end Field

/-- A field that a packet may have. -/
def optional (name : String) {α : Type} (value : α → Value) (x : Option α) : List Field :=
  (x.map fun a => ⟨name, value a⟩).toList

/-- The fields of a packet whose time has the given text. -/
def fields (stamp : String) (p : Packet) : List Field :=
  [⟨"time", .stamp stamp⟩, ⟨"protocol", .word p.protocolName⟩] ++
  optional "src_ip" (fun x => .word x.text) p.srcIp ++
  optional "dst_ip" (fun x => .word x.text) p.dstIp ++
  [⟨"src_port", .number p.srcPort.toNat⟩, ⟨"dst_port", .number p.dstPort.toNat⟩] ++
  optional "src_mac" (fun x => .word x.text) p.srcMac ++
  optional "dst_mac" (fun x => .word x.text) p.dstMac ++
  optional "vlan" (fun x => .number x.toNat) p.vlan ++
  [⟨"length", .number p.length⟩, ⟨"payload_len", .number p.payloadLength⟩] ++
  optional "tcp_flags" (fun x => .word x.text) p.tcpFlags

/-- The line with the given fields. -/
def render (format : LineFormat) (fs : List Field) : String :=
  match format with
  | .json => "\x7b" ++ ",".intercalate (fs.map Field.json) ++ "\x7d"
  | .text => " ".intercalate (fs.map Field.pair)

/-- The line of a packet, unless its time lies beyond the calendar. -/
def line? (format : LineFormat) (p : Packet) : Option String :=
  (Calendar.stamp? p.time).map fun stamp => render format (fields stamp p)

end Metadata

end Wiretap
