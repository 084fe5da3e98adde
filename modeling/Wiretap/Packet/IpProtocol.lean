/-!
# The protocol carried by an internet packet

The 8-bit number by which an internet header names what follows it: a transport protocol, or
for version 6 also an extension header.

## Main definitions

* `IpProtocol` - the protocols this library names, and a constructor for every other number.
* `IpProtocol.ofNumber`, `IpProtocol.number` - from and to the number on the wire.
* `IpProtocol.name` - the name as it is written to logs and files.
* `IpProtocol.label` - the name of the constructor, as diagnostics show it.
-/

namespace Wiretap

/-- What an internet header says follows it. -/
inductive IpProtocol where
  | hopByHop
  | icmp
  | ipv4
  | tcp
  | udp
  | ipv6
  | routing
  | fragment
  | gre
  | esp
  | ah
  | icmpv6
  | noNext
  | destination
  | ipip
  | sctp
  | unknown (number : UInt8)
deriving DecidableEq, Repr

namespace IpProtocol

/-- The named protocols with their numbers. -/
def table : List (IpProtocol × UInt8) :=
  [(hopByHop, 0), (icmp, 1), (ipv4, 4), (tcp, 6), (udp, 17), (ipv6, 41), (routing, 43),
   (fragment, 44), (gre, 47), (esp, 50), (ah, 51), (icmpv6, 58), (noNext, 59),
   (destination, 60), (ipip, 94), (sctp, 132)]

/-- The protocol that a number stands for. -/
def ofNumber (n : UInt8) : IpProtocol :=
  match table.find? (fun entry => entry.2 == n) with
  | some entry => entry.1
  | none => unknown n

/-- The number of a protocol on the wire. -/
def number : IpProtocol → UInt8
  | hopByHop => 0
  | icmp => 1
  | ipv4 => 4
  | tcp => 6
  | udp => 17
  | ipv6 => 41
  | routing => 43
  | fragment => 44
  | gre => 47
  | esp => 50
  | ah => 51
  | icmpv6 => 58
  | noNext => 59
  | destination => 60
  | ipip => 94
  | sctp => 132
  | unknown n => n

instance : Inhabited IpProtocol := ⟨unknown 0⟩

/-- The name of a protocol in logs and files. -/
def name : IpProtocol → String
  | hopByHop => "IPv6HopByHop"
  | icmp => "ICMPv4"
  | ipv4 => "IPv4"
  | tcp => "TCP"
  | udp => "UDP"
  | ipv6 => "IPv6"
  | routing => "IPv6Routing"
  | fragment => "IPv6Fragment"
  | gre => "GRE"
  | esp => "ESP"
  | ah => "AH"
  | icmpv6 => "ICMPv6"
  | noNext => "NoNextHeader"
  | destination => "IPv6Destination"
  | ipip => "IPIP"
  | sctp => "SCTP"
  | unknown n => s!"Unknown({n})"

/-- The name of a protocol in diagnostics. -/
def label : IpProtocol → String
  | hopByHop => "Ipv6HopByHop"
  | icmp => "Icmpv4"
  | ipv4 => "Ipv4"
  | tcp => "Tcp"
  | udp => "Udp"
  | ipv6 => "Ipv6"
  | routing => "Ipv6Routing"
  | fragment => "Ipv6Fragment"
  | gre => "Gre"
  | esp => "Esp"
  | ah => "Ah"
  | icmpv6 => "Icmpv6"
  | noNext => "NoNextHeader"
  | destination => "Ipv6Destination"
  | ipip => "Ipip"
  | sctp => "Sctp"
  | unknown n => s!"Unknown({n})"

instance : ToString IpProtocol := ⟨name⟩

/-- A number is kept by reading it as a protocol. -/
@[simp] theorem number_ofNumber (n : UInt8) : (ofNumber n).number = n := by
  unfold ofNumber
  split
  · next entry h =>
    have member := List.mem_of_find?_eq_some h
    have same := List.find?_some h
    have pinned : ∀ e ∈ table, e.1.number = e.2 := by decide
    rw [pinned entry member]
    simpa using same
  · rfl

end IpProtocol

end Wiretap
