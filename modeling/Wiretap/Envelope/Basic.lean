import Wiretap.Mac
import Wiretap.Time.Duration

/-!
# Envelopes of sniffed frames

A wireless or wired sniffer sends every frame that it sees in a datagram of its own: a header of
four bytes, a list of tags with what the sniffer knows about the frame, and the frame itself.
This module holds the parts of such an envelope and the questions asked of one.

## Main definitions

* `Purpose`, `Encapsulation`, `TagKind` - the numbers of the header and of the tags.
* `Tag` - a kind and its data.
* `Envelope` - purpose, encapsulation, tags and payload.
* `Envelope.tag?` - the first tag of a kind.
* `Envelope.timestamp?`, `Envelope.rssi?`, `Envelope.sensor?` - what well-known tags say.

## Design notes

Every number has a constructor of its own if this library knows it, and `unknown` keeps all
others.  `ofNumber` never builds `unknown` of a known number, but an envelope made by hand may
hold one; such a tag is written like any other and is not found by its well-known kind.
-/

namespace Wiretap

/-- What a datagram of a sniffer is for. -/
inductive Purpose where
  | receivedTagged
  | forTransmit
  | reserved
  | configuration
  | keepalive
  | portOpener
  | unknown (number : UInt8)
deriving DecidableEq, Repr

namespace Purpose

/-- The purpose that a number stands for. -/
def ofNumber (n : UInt8) : Purpose :=
  if n = 0 then receivedTagged
  else if n = 1 then forTransmit
  else if n = 2 then reserved
  else if n = 3 then configuration
  else if n = 4 then keepalive
  else if n = 5 then portOpener
  else unknown n

/-- The number of a purpose on the wire. -/
def number : Purpose → UInt8
  | receivedTagged => 0
  | forTransmit => 1
  | reserved => 2
  | configuration => 3
  | keepalive => 4
  | portOpener => 5
  | unknown n => n

/-- The name of a purpose. -/
def name : Purpose → String
  | receivedTagged => "ReceivedTagged"
  | forTransmit => "ForTransmit"
  | reserved => "Reserved"
  | configuration => "Configuration"
  | keepalive => "Keepalive"
  | portOpener => "PortOpener"
  | unknown n => s!"Unknown({n})"

@[simp] theorem number_ofNumber (n : UInt8) : (ofNumber n).number = n := by
  unfold ofNumber
  (repeat' split) <;> simp_all [number]

end Purpose

/-- The link layer that the payload of an envelope belongs to. -/
inductive Encapsulation where
  | ethernet
  | wireless
  | prism
  | radioTap
  | unknown (number : UInt16)
deriving DecidableEq, Repr

namespace Encapsulation

/-- The link layer that a number stands for. -/
def ofNumber (n : UInt16) : Encapsulation :=
  if n = 1 then ethernet
  else if n = 2 then wireless
  else if n = 3 then prism
  else if n = 18 then radioTap
  else unknown n

/-- The number of a link layer on the wire. -/
def number : Encapsulation → UInt16
  | ethernet => 1
  | wireless => 2
  | prism => 3
  | radioTap => 18
  | unknown n => n

/-- The name of a link layer. -/
def name : Encapsulation → String
  | ethernet => "Ethernet"
  | wireless => "802.11"
  | prism => "Prism"
  | radioTap => "IEEE 802.11 + RadioTap"
  | unknown n => s!"Unknown({n})"

@[simp] theorem number_ofNumber (n : UInt16) : (ofNumber n).number = n := by
  unfold ofNumber
  (repeat' split) <;> simp_all [number]

end Encapsulation

/-- What the data of a tag means. -/
inductive TagKind where
  /-- A byte that means nothing. -/
  | pad
  /-- The end of the tags. -/
  | last
  | rawRssi
  | snr
  | dataRate
  | timestamp
  | packetLength
  | sensor
  | unknown (number : UInt8)
deriving DecidableEq, Repr

namespace TagKind

/-- The kind that a number stands for. -/
def ofNumber (n : UInt8) : TagKind :=
  if n = 0 then pad
  else if n = 1 then last
  else if n = 10 then rawRssi
  else if n = 11 then snr
  else if n = 12 then dataRate
  else if n = 13 then timestamp
  else if n = 40 then packetLength
  else if n = 60 then sensor
  else unknown n

/-- The number of a kind on the wire. -/
def number : TagKind → UInt8
  | pad => 0
  | last => 1
  | rawRssi => 10
  | snr => 11
  | dataRate => 12
  | timestamp => 13
  | packetLength => 40
  | sensor => 60
  | unknown n => n

/-- The name of a kind. -/
def name : TagKind → String
  | pad => "Pad"
  | last => "End"
  | rawRssi => "RawRssi"
  | snr => "Snr"
  | dataRate => "DataRate"
  | timestamp => "Timestamp"
  | packetLength => "PacketLength"
  | sensor => "Sensor"
  | unknown n => s!"Unknown({n})"

/-- Whether a tag of this kind is a single byte without length and data. -/
def isBare : TagKind → Bool
  | pad | last => true
  | _ => false

@[simp] theorem number_ofNumber (n : UInt8) : (ofNumber n).number = n := by
  unfold ofNumber
  (repeat' split) <;> simp_all [number]

end TagKind

/-- A kind and its data. -/
structure Tag where
  kind : TagKind
  data : Bytes
deriving DecidableEq, Repr

namespace Tag

/-- The part of the data that fits behind a length of one byte. -/
def carried (t : Tag) : Bytes := t.data.take 255

/-- The length byte of a tag. -/
def size (t : Tag) : UInt8 := UInt8.ofNat t.carried.length

end Tag

/-- A frame with what its sniffer says about it. -/
structure Envelope where
  version : UInt8
  purpose : Purpose
  encapsulation : Encapsulation
  tags : List Tag
  payload : Bytes
deriving DecidableEq, Repr

namespace Envelope

/-- The first tag of a kind. -/
def tag? (e : Envelope) (kind : TagKind) : Option Tag := e.tags.find? fun t => t.kind = kind

/-- The time at which the sniffer saw the frame: the first four bytes of the first timestamp tag,
in seconds. -/
def timestamp? (e : Envelope) : Option Duration :=
  (e.tag? .timestamp).bind fun t => (Bytes.be32? t.data).map fun secs => Duration.ofSecs secs.toNat

/-- The signal strength: the first byte of the first such tag, with a sign. -/
def rssi? (e : Envelope) : Option Int :=
  (e.tag? .rawRssi).bind fun t => t.data.head?.map fun b =>
    if b < 128 then (b.toNat : Int) else (b.toNat : Int) - 256

/-- The address of the sniffer: the first such tag, if it holds exactly six bytes. -/
def sensor? (e : Envelope) : Option Mac := (e.tag? .sensor).bind fun t => Mac.ofBytes? t.data

end Envelope

end Wiretap
