import Wiretap.Counter.Basic

/-!
# What a receiver counts

The counts of a receiver since they were read last.  Every datagram is counted as received and as
exactly one of rejected, empty and decoded.

## Main definitions

* `Tally` - the counts, and whether a datagram has ever been received.
* `Tally.plus` - the counts of two stretches of time together.
* `Tally.read` - reads the counts, which start again from zero.
* `Tally.counters` - the counts as counters, with the share of decoded datagrams.

## Design notes

That a datagram has been received is not a count, and reading does not forget it.
-/

namespace Wiretap

/-- The counts of a receiver since they were read last. -/
structure Tally where
  /-- Datagrams. -/
  received : Nat := 0
  /-- Their bytes. -/
  receivedBytes : Nat := 0
  /-- Datagrams that held a frame. -/
  decoded : Nat := 0
  /-- Datagrams that held no envelope. -/
  envelopeErrors : Nat := 0
  /-- Envelopes without a frame. -/
  emptyPayload : Nat := 0
  /-- Frames with a malformed layer. -/
  layerErrors : Nat := 0
  /-- Frames written to the capture. -/
  captured : Nat := 0
  /-- Frames or lines that could not be written. -/
  outputErrors : Nat := 0
  /-- Whether a datagram has ever been received. -/
  greeted : Bool := false
deriving DecidableEq, Repr, Inhabited

namespace Tally

/-- The counts of two stretches of time together. -/
def plus (a b : Tally) : Tally where
  received := a.received + b.received
  receivedBytes := a.receivedBytes + b.receivedBytes
  decoded := a.decoded + b.decoded
  envelopeErrors := a.envelopeErrors + b.envelopeErrors
  emptyPayload := a.emptyPayload + b.emptyPayload
  layerErrors := a.layerErrors + b.layerErrors
  captured := a.captured + b.captured
  outputErrors := a.outputErrors + b.outputErrors
  greeted := a.greeted || b.greeted

/-- Reads the counts, which start again from zero. -/
def read (t : Tally) : Tally × Tally := ({ greeted := t.greeted }, t)

/-- The part of the received datagrams that was decoded, in percent. -/
def decodeRate (t : Tally) : Float :=
  let received := UInt64.ofNat t.received
  let decoded := UInt64.ofNat t.decoded
  if received = 0 then 0 else decoded.toFloat / received.toFloat * 100

/-- The counts as counters. -/
def counters (t : Tally) : List Counter :=
  [.count "received" t.received,
   .count "received-bytes" t.receivedBytes,
   .count "decoded" t.decoded,
   ⟨"decode-rate", .gauged, .float t.decodeRate⟩,
   .count "envelope-errors" t.envelopeErrors,
   .count "empty-payload" t.emptyPayload,
   .count "layer-errors" t.layerErrors,
   .count "pcap-written" t.captured,
   .count "output-errors" t.outputErrors]

/-- What was read and what is left are together what was counted. -/
theorem plus_read (t : Tally) : t.read.2.plus t.read.1 = t := by
  cases t
  simp [plus, read]

end Tally

end Wiretap
