import Wiretap.Flow.Record

/-!
# Exported flow records

A flow record travels to its collector in a datagram of its own: a header of 24 bytes and one
record of 48 bytes, in the fifth version of the format.

```text
header  version 2, count 2, uptime 4, seconds 4, nanoseconds 4, sequence 4, engine and sampling 4
record  source 4, destination 4, next hop and interfaces 8, packets 4, octets 4, first 4, last 4,
        source port 2, destination port 2, pad 1, flags 1, protocol 1, service and routing 9
```

## Main definitions

* `Netflow.Datagram` - the values that a datagram carries.
* `Netflow.Datagram.encode`, `Netflow.Datagram.read?` - to and from its bytes.
* `Netflow.Datagram.ofRecord` - the datagram of a flow record.
* `Netflow.encodeRecord` - the bytes of the datagram of a flow record.

## Design notes

All times are taken modulo 2^32.  The field for the time since the exporter started holds the
time since the epoch in milliseconds.  Everything that a sniffed flow has no value for is zero.
-/

namespace Wiretap.Netflow

/-- The version of the format. -/
def version : UInt16 := 5

/-- The number of bytes of a header. -/
def headerSize : Nat := 24

/-- The number of bytes of a datagram. -/
def datagramSize : Nat := 72

/-- The values that a datagram carries. -/
structure Datagram where
  /-- Milliseconds. -/
  uptime : UInt32
  secs : UInt32
  nanos : UInt32
  sequence : UInt32
  src : Ipv4Addr
  dst : Ipv4Addr
  packets : UInt32
  octets : UInt32
  /-- The seconds of the first packet. -/
  first : UInt32
  /-- The seconds of the last packet. -/
  last : UInt32
  srcPort : UInt16
  dstPort : UInt16
  flags : UInt8
  protocol : UInt8
deriving DecidableEq, Repr

namespace Datagram

/-- The bytes of the header, which announces one record. -/
def header (d : Datagram) : Bytes :=
  Bytes.be16 version ++ Bytes.be16 1 ++ Bytes.be32 d.uptime ++ Bytes.be32 d.secs ++
    Bytes.be32 d.nanos ++ Bytes.be32 d.sequence ++ List.replicate 4 0

/-- The bytes of the record. -/
def body (d : Datagram) : Bytes :=
  d.src.octets ++ d.dst.octets ++ List.replicate 8 0 ++ Bytes.be32 d.packets ++
    Bytes.be32 d.octets ++ Bytes.be32 d.first ++ Bytes.be32 d.last ++ Bytes.be16 d.srcPort ++
    Bytes.be16 d.dstPort ++ [0, d.flags, d.protocol] ++ List.replicate 9 0

/-- The bytes of a datagram. -/
def encode (d : Datagram) : Bytes := d.header ++ d.body

@[simp] theorem length_header (d : Datagram) : d.header.length = headerSize := by
  simp [header, Bytes.be16, Bytes.be32, headerSize]

@[simp] theorem length_encode (d : Datagram) : d.encode.length = datagramSize := by
  simp [encode, header, body, Bytes.be16, Bytes.be32, Ipv4Addr.octets, datagramSize]

/-- The values at the places of a datagram where they are written, if the bytes have the length,
version and count of one. -/
def read? (b : Bytes) : Option Datagram := do
  if b.length ≠ datagramSize ∨ Bytes.be16At? b 0 ≠ some version ∨ Bytes.be16At? b 2 ≠ some 1 then
    none
  else
    return {
      uptime := ← Bytes.be32At? b 4
      secs := ← Bytes.be32At? b 8
      nanos := ← Bytes.be32At? b 12
      sequence := ← Bytes.be32At? b 16
      src := ← Bytes.sliceAt? b 24 4 >>= Ipv4Addr.ofBytes?
      dst := ← Bytes.sliceAt? b 28 4 >>= Ipv4Addr.ofBytes?
      packets := ← Bytes.be32At? b 40
      octets := ← Bytes.be32At? b 44
      first := ← Bytes.be32At? b 48
      last := ← Bytes.be32At? b 52
      srcPort := ← Bytes.be16At? b 56
      dstPort := ← Bytes.be16At? b 58
      flags := ← b[61]?
      protocol := ← b[62]? }

/-- The datagram of a flow record that is sent at a given time with a given sequence number. -/
def ofRecord (r : FlowRecord) (sequence : UInt32) (now : Duration) : Datagram where
  uptime := UInt32.ofNat (now.secs * 1000)
  secs := UInt32.ofNat now.secs
  nanos := UInt32.ofNat now.subNanos
  sequence := sequence
  src := r.key.src
  dst := r.key.dst
  packets := r.packets
  octets := r.bytes
  first := UInt32.ofNat r.first.secs
  last := UInt32.ofNat r.last.secs
  srcPort := r.key.srcPort
  dstPort := r.key.dstPort
  flags := r.flags
  protocol := r.key.protocol

end Datagram

/-- The bytes of the datagram of a flow record. -/
def encodeRecord (r : FlowRecord) (sequence : UInt32) (now : Duration) : Bytes :=
  (Datagram.ofRecord r sequence now).encode

end Wiretap.Netflow
