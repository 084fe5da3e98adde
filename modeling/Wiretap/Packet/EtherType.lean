/-!
# The payload type of an Ethernet frame

The 16-bit number behind the two addresses of a frame says what the frame carries.

## Main definitions

* `EtherType` - the types this library knows, and a constructor for every other number.
* `EtherType.ofNumber`, `EtherType.number` - from and to the number on the wire.
* `EtherType.isVlan` - whether a VLAN tag follows.
-/

namespace Wiretap

/-- What an Ethernet frame carries. -/
inductive EtherType where
  | ipv4
  | arp
  | ipv6
  /-- A customer VLAN tag. -/
  | vlanTag
  /-- A service VLAN tag, the outer one of two. -/
  | serviceTag
  | unknown (number : UInt16)
deriving DecidableEq, Repr

namespace EtherType

/-- The type that a number stands for. -/
def ofNumber (n : UInt16) : EtherType :=
  if n = 0x0800 then ipv4
  else if n = 0x0806 then arp
  else if n = 0x86dd then ipv6
  else if n = 0x8100 then vlanTag
  else if n = 0x88a8 then serviceTag
  else unknown n

/-- The number of a type on the wire. -/
def number : EtherType → UInt16
  | ipv4 => 0x0800
  | arp => 0x0806
  | ipv6 => 0x86dd
  | vlanTag => 0x8100
  | serviceTag => 0x88a8
  | unknown n => n

instance : Inhabited EtherType := ⟨unknown 0⟩

/-- Whether a frame of this type goes on with a VLAN tag. -/
def isVlan : EtherType → Bool
  | vlanTag | serviceTag => true
  | _ => false

/-- The name of a type. -/
def name : EtherType → String
  | ipv4 => "Ipv4"
  | arp => "Arp"
  | ipv6 => "Ipv6"
  | vlanTag => "Dot1Q"
  | serviceTag => "QinQ"
  | unknown n => s!"Unknown({n})"

@[simp] theorem number_ofNumber (n : UInt16) : (ofNumber n).number = n := by
  unfold ofNumber
  split <;> (try split <;> (try split <;> (try split <;> (try split)))) <;> simp_all [number]

end EtherType

end Wiretap
