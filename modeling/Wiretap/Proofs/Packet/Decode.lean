import Wiretap.Packet.Decode

/-!
# What a frame says by itself

Of the fields of a packet only its time comes from elsewhere than the frame.  The frame itself, its
length and the number of its VLAN stand beside what is read of the bytes that the frame carries.

## Main statements

* `Packet.addCarried_relabel` - what a frame carries is read alike whatever is known of the frame.
* `Packet.decode_time` - no field but the time depends on when a frame was seen.
* `Packet.length_decode` - the length of a packet is the length of its frame.
-/

namespace Wiretap.Packet

/-- The internet layer and what is above read nothing of what is known of the frame itself. -/
theorem addNetwork_relabel (p : Packet) (n : Except LayerError Network) (time : Duration)
    (vlan : Option UInt16) (length : Nat) (raw : Bytes) :
    { p with time, vlan, length, raw }.addNetwork n =
      ({ (p.addNetwork n).1 with time, vlan, length, raw }, (p.addNetwork n).2) := by
  unfold addNetwork
  split
  · rfl
  · split <;> rfl

/-- What a frame carries is read alike whatever is known of the frame itself. -/
theorem addCarried_relabel (p : Packet) (type : EtherType) (rest : Bytes) (time : Duration)
    (vlan : Option UInt16) (length : Nat) (raw : Bytes) :
    { p with time, vlan, length, raw }.addCarried type rest =
      ({ (p.addCarried type rest).1 with time, vlan, length, raw },
        (p.addCarried type rest).2) := by
  unfold addCarried
  split
  · exact addNetwork_relabel { p with etherType := some .ipv4 } _ time vlan length raw
  · exact addNetwork_relabel { p with etherType := some .ipv6 } _ time vlan length raw
  · rfl

/-- No field but the time depends on when a frame was seen. -/
theorem decode_time (frame : Bytes) (time : Duration) :
    (decode frame time).1 = { (decode frame .zero).1 with time } := by
  unfold decode
  simp only
  split
  · rfl
  · next dst src outer header =>
    split
    · rfl
    · next type rest carried =>
      have read (time : Duration) :=
        addCarried_relabel { dstMac := some dst, srcMac := some src } type rest time
          (Vlan.walk Vlan.limit outer ethernetHeaderSize (frame.drop ethernetHeaderSize)).id
          frame.length frame
      rw [read time, read .zero]

theorem length_addNetwork (p : Packet) (n : Except LayerError Network) :
    (p.addNetwork n).1.length = p.length := by
  unfold addNetwork
  split
  · rfl
  · split <;> rfl

/-- The length of a packet is the length of its frame. -/
@[simp] theorem length_decode (frame : Bytes) (time : Duration) :
    (decode frame time).1.length = frame.length := by
  unfold decode
  simp only
  split
  · rfl
  · split
    · rfl
    · unfold addCarried
      simp only
      split
      · exact length_addNetwork _ _
      · exact length_addNetwork _ _
      · rfl

end Wiretap.Packet
