import Wiretap.Packet.Decode
import Wiretap.Proofs.Access.Basic

/-!
# The fields of a packet and its layers

The fields of a frame are read layer by layer, and reading stops at the first layer that is
malformed.  So the fields that are known and the error tell of one stack of layers.

## Main definitions

* `Packet.IsStack` - which fields of a packet are known, for which error and with which values.
* `Transport.Fits`, `Network.Fits`, `Packet.FitsCarried` - the part of it that one layer and those
  above it answer for.

## Main statements

* `Transport.fits_decode`, `Network.fits_decode4`, `Network.fits_decode6`,
  `Vlan.walk_cases` - each layer keeps its part.
* `Packet.decode_isStack` - the packet of every frame tells of one stack of layers.

## Design notes

Each layer is told by what it needs from below, which is the length of its bytes, and by what it
says above: a segment is shorter than its packet by a header, a packet shorter than its frame by
another.  The smallest headers are those of version 4 and of UDP, so a payload leaves 42 bytes of
its frame.
-/

namespace Wiretap

/-- The type of the frames that carry the packets between addresses of this version. -/
def IpAddr.etherType : IpAddr → EtherType
  | v4 _ => .ipv4
  | v6 _ => .ipv6

/-! ## Transport headers -/

namespace Transport

/-- What is read of a segment fits its protocol, its length and the error. -/
structure Fits (protocol : IpProtocol) (segment : Bytes) (t : Transport)
    (error : Option LayerError) : Prop where
  ports : t.srcPort ≠ 0 ∨ t.dstPort ≠ 0 → protocol = .tcp ∨ protocol = .udp
  flags : t.flags.isSome → protocol = .tcp
  payload : 0 < t.payloadLength → error = none ∧ (protocol = .tcp ∨ protocol = .udp) ∧
    t.payloadLength + udpHeaderSize ≤ segment.length
  layer : ∀ e ∈ error, e.layer = .tcp ∧ protocol = .tcp ∨ e.layer = .udp ∧ protocol = .udp

/-- A TCP header by itself says nothing of a payload. -/
theorem payloadLength_of_tcpHeader? {segment : Bytes} {header : Transport} {declared : Nat}
    (read : tcpHeader? segment = some (header, declared)) : header.payloadLength = 0 := by
  simp only [tcpHeader?, Option.bind_eq_bind, Option.bind_eq_some_iff, Option.pure_def,
    Option.some.injEq, Prod.mk.injEq] at read
  obtain ⟨-, -, -, -, -, -, -, -, -, -, rfl, -⟩ := read
  rfl

/-- A UDP header has no flags. -/
theorem flags_of_udpHeader? {segment : Bytes} {header : Transport}
    (read : udpHeader? segment = some header) : header.flags = none := by
  simp only [udpHeader?, Option.bind_eq_bind, Option.bind_eq_some_iff, Option.pure_def,
    Option.some.injEq] at read
  obtain ⟨-, -, -, -, -, -, rfl⟩ := read
  rfl

theorem fits_decodeTcp (segment : Bytes) :
    Fits .tcp segment (decodeTcp segment).1 (decodeTcp segment).2 := by
  unfold decodeTcp
  split
  · exact ⟨fun _ => .inl rfl, fun _ => rfl, nofun, by rintro _ ⟨⟩; exact .inl ⟨rfl, rfl⟩⟩
  · next header declared read =>
    split
    · exact ⟨fun _ => .inl rfl, fun _ => rfl,
        fun more => absurd (payloadLength_of_tcpHeader? read) (Nat.ne_of_gt more),
        by rintro _ ⟨⟩; exact .inl ⟨rfl, rfl⟩⟩
    · next inside =>
      refine ⟨fun _ => .inl rfl, fun _ => rfl, fun more => ⟨rfl, .inl rfl, ?_⟩, nofun⟩
      have sizes : tcpHeaderSize = 20 ∧ udpHeaderSize = 8 := ⟨rfl, rfl⟩
      simp only at more ⊢
      omega

theorem fits_decodeUdp (segment : Bytes) :
    Fits .udp segment (decodeUdp segment).1 (decodeUdp segment).2 := by
  unfold decodeUdp
  split
  · exact ⟨fun _ => .inr rfl, nofun, nofun, by rintro _ ⟨⟩; exact .inr ⟨rfl, rfl⟩⟩
  · next header read =>
    refine ⟨fun _ => .inr rfl, ?_, fun more => ⟨rfl, .inr rfl, ?_⟩, nofun⟩
    · simp [flags_of_udpHeader? read]
    · simp only at more ⊢
      omega

/-- What is read of a segment fits its protocol, its length and the error. -/
theorem fits_decode (protocol : IpProtocol) (segment : Bytes) :
    Fits protocol segment (decode protocol segment).1 (decode protocol segment).2 := by
  unfold decode
  split
  · exact fits_decodeTcp segment
  · exact fits_decodeUdp segment
  · exact ⟨by simp, by simp, by simp, by simp⟩

end Transport

/-! ## Internet headers -/

namespace Network

/-- The protocols that announce an extension header. -/
def extensionProtocols : List IpProtocol := [.hopByHop, .routing, .fragment, .ah, .destination]

theorem mem_extensionProtocols {protocol : IpProtocol} {extension : Extension}
    (kind : Extension.of? protocol = some extension) : protocol ∈ extensionProtocols := by
  cases protocol <;> simp_all [Extension.of?, extensionProtocols]

/-- What is read of a packet behind a type fits the type, the length and what is wrong. -/
structure Fits (type : EtherType) (packet : Bytes) (n : Network) : Prop where
  source : n.source.etherType = type
  destination : n.destination.etherType = type
  segment : ∀ s, n.segment = .ok (some s) → s.length + ipv4HeaderSize ≤ packet.length
  layer : ∀ e, n.segment = .error e → e.layer = .ipv4 ∧ type = .ipv4 ∨
    e.layer = .ipv6 ∧ type = .ipv6 ∧ n.protocol ∈ extensionProtocols

/-! ### Version 4 -/

/-- Four bytes are an address of version 4. -/
theorem etherType_of_sliceAt?_four {header : Bytes} {offset : Nat} {x : IpAddr}
    (read : (Bytes.sliceAt? header offset 4).bind IpAddr.ofBytes? = some x) :
    x.etherType = .ipv4 := by
  obtain ⟨octets, part, address⟩ := Option.bind_eq_some_iff.mp read
  obtain ⟨y, -, isV4⟩ := Checked.ipv4_of_length (Bytes.length_of_first? part)
  cases address.symm.trans isV4
  rfl

/-- The front of a packet of version 4 holds addresses of that version. -/
theorem etherType_ipv4Header? {packet : Bytes} {h : Ipv4Header}
    (read : ipv4Header? packet = some h) :
    h.source.etherType = .ipv4 ∧ h.destination.etherType = .ipv4 := by
  simp only [ipv4Header?, Option.bind_eq_bind, Option.bind_eq_some_iff, Option.pure_def,
    Option.some.injEq] at read
  obtain ⟨header, -, first, -, total, -, fragment, -, protocol, -,
    source, ⟨_, sourcePart, sourceIs⟩,
    destination, ⟨_, destinationPart, destinationIs⟩, rfl⟩ := read
  exact ⟨etherType_of_sliceAt?_four (Option.bind_eq_some_iff.mpr ⟨_, sourcePart, sourceIs⟩),
    etherType_of_sliceAt?_four (Option.bind_eq_some_iff.mpr ⟨_, destinationPart, destinationIs⟩)⟩

/-- A packet that has no header of version 4 is malformed there. -/
theorem layer_decode4 {packet : Bytes} {e : LayerError} (failed : decode4 packet = .error e) :
    e.layer = .ipv4 := by
  unfold decode4 at failed
  split at failed
  · cases failed
    rfl
  · split at failed
    · cases failed
      rfl
    · cases failed

/-- What is read of a packet of version 4 fits its type, its length and what is wrong. -/
theorem fits_decode4 {packet : Bytes} {n : Network} (read : decode4 packet = .ok n) :
    Fits .ipv4 packet n := by
  unfold decode4 at read
  split at read
  · cases read
  · next h header =>
    obtain ⟨source, destination⟩ := etherType_ipv4Header? header
    split at read
    · cases read
    · next inside =>
      cases read
      refine ⟨source, destination, fun s held => ?_, fun e wrong => .inl ⟨?_, rfl⟩⟩
      · simp only [Ipv4Header.segment] at held
        split at held
        · cases held
        · split at held
          · cases held
          · cases held
            simp only [List.length_drop, List.length_take]
            omega
      · simp only [Ipv4Header.segment] at wrong
        split at wrong
        · cases wrong
          rfl
        · split at wrong <;> cases wrong

/-! ### Version 6 -/

/-- What the walk along extension headers ends with fits its length and what is wrong. -/
theorem fits_walk (protocol : IpProtocol) (offset : Nat) (rest : Bytes) :
    (∀ s, (walk protocol offset rest).segment = .ok (some s) → s.length ≤ rest.length) ∧
      ∀ e, (walk protocol offset rest).segment = .error e →
        e.layer = .ipv6 ∧ (walk protocol offset rest).protocol ∈ extensionProtocols := by
  fun_induction walk protocol offset rest with
  | case1 protocol offset rest kind =>
    refine ⟨?_, nofun⟩
    rintro _ ⟨⟩
    exact le_rfl
  | case2 => exact ⟨nofun, nofun⟩
  | case3 protocol offset rest extension kind =>
    refine ⟨nofun, ?_⟩
    rintro _ ⟨⟩
    exact ⟨rfl, mem_extensionProtocols kind⟩
  | case4 protocol offset rest extension kind next size hi lo more front first inside ih =>
    refine ⟨fun s held => Nat.le_trans (ih.1 s held) ?_, ih.2⟩
    rw [List.length_drop]
    exact Nat.sub_le _ _
  | case5 protocol offset rest extension kind =>
    refine ⟨nofun, ?_⟩
    rintro _ ⟨⟩
    exact ⟨rfl, mem_extensionProtocols kind⟩

/-- Sixteen bytes are an address of version 6. -/
theorem etherType_of_sliceAt?_sixteen {header : Bytes} {offset : Nat} {x : IpAddr}
    (read : (Bytes.sliceAt? header offset 16).bind IpAddr.ofBytes? = some x) :
    x.etherType = .ipv6 := by
  obtain ⟨octets, part, address⟩ := Option.bind_eq_some_iff.mp read
  obtain ⟨y, -, isV6⟩ := Checked.ipv6_of_length (Bytes.length_of_first? part)
  cases address.symm.trans isV6
  rfl

/-- The front of a packet of version 6 holds addresses of that version. -/
theorem etherType_ipv6Header? {packet : Bytes} {h : Ipv6Header}
    (read : ipv6Header? packet = some h) :
    h.source.etherType = .ipv6 ∧ h.destination.etherType = .ipv6 := by
  simp only [ipv6Header?, Option.bind_eq_bind, Option.bind_eq_some_iff, Option.pure_def,
    Option.some.injEq] at read
  obtain ⟨header, -, payload, -, next, -, source, ⟨_, sourcePart, sourceIs⟩,
    destination, ⟨_, destinationPart, destinationIs⟩, rfl⟩ := read
  exact ⟨etherType_of_sliceAt?_sixteen (Option.bind_eq_some_iff.mpr ⟨_, sourcePart, sourceIs⟩),
    etherType_of_sliceAt?_sixteen
      (Option.bind_eq_some_iff.mpr ⟨_, destinationPart, destinationIs⟩)⟩

/-- The front of a packet of version 6 is forty bytes. -/
theorem le_of_ipv6Header? {packet : Bytes} {h : Ipv6Header} (read : ipv6Header? packet = some h) :
    ipv6HeaderSize ≤ packet.length := by
  by_contra short
  have absent : ipv6Header? packet = none := Bytes.first?_bind_of_lt (Nat.not_le.mp short) _
  cases absent.symm.trans read

/-- A packet that has no header of version 6 is malformed there. -/
theorem layer_decode6 {packet : Bytes} {e : LayerError} (failed : decode6 packet = .error e) :
    e.layer = .ipv6 := by
  unfold decode6 at failed
  split at failed
  · cases failed
    rfl
  · cases failed

/-- What is read of a packet of version 6 fits its type, its length and what is wrong. -/
theorem fits_decode6 {packet : Bytes} {n : Network} (read : decode6 packet = .ok n) :
    Fits .ipv6 packet n := by
  unfold decode6 at read
  split at read
  · cases read
  · next h header =>
    obtain ⟨source, destination⟩ := etherType_ipv6Header? header
    have long := le_of_ipv6Header? header
    have sizes : ipv4HeaderSize = 20 ∧ ipv6HeaderSize = 40 := ⟨rfl, rfl⟩
    obtain ⟨room, wrong⟩ :=
      fits_walk h.next ipv6HeaderSize ((packet.drop ipv6HeaderSize).take h.payloadLength)
    cases read
    refine ⟨source, destination, fun s held => ?_, fun e failed => .inr ?_⟩
    · have within := room s held
      simp only [List.length_take, List.length_drop] at within
      omega
    · obtain ⟨layer, extension⟩ := wrong e failed
      exact ⟨layer, rfl, extension⟩

end Network

/-! ## VLAN tags -/

/-- Passing tags ends with an error of their layer, or with bytes of the frame. -/
theorem Vlan.walk_cases (more : Nat) (type : EtherType) (offset : Nat) (rest : Bytes) :
    (∃ place, (walk more type offset rest).carried = .error (.tagTruncated place)) ∨
      ∃ inner left, (walk more type offset rest).carried = .ok (inner, left) ∧
        left.length ≤ rest.length := by
  induction more generalizing type offset rest with
  | zero => exact .inr ⟨type, rest, rfl, le_rfl⟩
  | succ more ih =>
    unfold walk
    split
    · split
      · next tagHi tagLo typeHi typeLo left =>
        obtain ⟨place, failed⟩ | ⟨inner, behind, carried, shorter⟩ :=
          ih (.ofNumber (UInt16.ofNat (256 * typeHi.toNat + typeLo.toNat))) (offset + 4) left
        · exact .inl ⟨place, failed⟩
        · refine .inr ⟨inner, behind, carried, Nat.le_trans shorter ?_⟩
          simp only [List.length_cons]
          omega
      · exact .inl ⟨offset, rfl⟩
    · exact .inr ⟨type, rest, rfl, le_rfl⟩

/-! ## Whole frames -/

namespace Packet

/-- Nothing is known of the internet layer and what is above. -/
structure IsBare (p : Packet) : Prop where
  srcIp : p.srcIp = none
  dstIp : p.dstIp = none
  protocol : p.protocol = none
  srcPort : p.srcPort = 0
  dstPort : p.dstPort = 0
  tcpFlags : p.tcpFlags = none
  payloadLength : p.payloadLength = 0

/-- What is known of the internet layer and what is above fits the type that announced it, the
length of the frame and the error. -/
structure FitsCarried (p : Packet) (error : Option LayerError) : Prop where
  addresses : p.srcIp = none ∧ p.dstIp = none ∧ p.protocol = none ∨
    ∃ src dst, p.srcIp = some src ∧ p.dstIp = some dst ∧ p.protocol.isSome ∧
      p.etherType = some src.etherType ∧ p.etherType = some dst.etherType
  flags : p.tcpFlags.isSome → p.protocol = some .tcp
  ports : p.srcPort ≠ 0 ∨ p.dstPort ≠ 0 → p.protocol = some .tcp ∨ p.protocol = some .udp
  payload : 0 < p.payloadLength → error = none ∧
    (p.protocol = some .tcp ∨ p.protocol = some .udp) ∧ p.payloadLength + 42 ≤ p.length
  network : ∀ e ∈ error, e.layer = .ipv4 ∨ e.layer = .ipv6 →
    p.srcPort = 0 ∧ p.dstPort = 0 ∧ p.tcpFlags = none ∧ p.payloadLength = 0
  ipv4 : ∀ e ∈ error, e.layer = .ipv4 → p.etherType = some .ipv4
  ipv6 : ∀ e ∈ error, e.layer = .ipv6 → p.etherType = some .ipv6 ∧
    ∀ protocol ∈ p.protocol, protocol ∈ Network.extensionProtocols
  tcp : ∀ e ∈ error, e.layer = .tcp → p.protocol = some .tcp ∧ p.srcIp.isSome ∧ p.dstIp.isSome
  udp : ∀ e ∈ error, e.layer = .udp → p.protocol = some .udp ∧ p.srcIp.isSome ∧ p.dstIp.isSome

/-- Which fields of the packet of a frame are known, for which error and with which values. -/
structure IsStack (frame : Bytes) (time : Duration) (p : Packet) (error : Option LayerError) : Prop
    extends FitsCarried p error where
  macs : p.srcMac.isSome ∧ p.dstMac.isSome ↔ ethernetHeaderSize ≤ frame.length
  short : frame.length < ethernetHeaderSize → error = some (.frameTooShort frame.length) ∧
    p = { time, length := frame.length, raw := frame }
  etherType : p.etherType.isSome ↔ ∀ e ∈ error, e.layer ≠ .ethernet ∧ e.layer ≠ .vlan

/-- The type that the frame announces leaves all else alone. -/
theorem IsBare.typed {p : Packet} (bare : p.IsBare) (type : EtherType) :
    IsBare { p with etherType := some type } :=
  ⟨bare.1, bare.2, bare.3, bare.4, bare.5, bare.6, bare.7⟩

/-- Where nothing is known above the tags, no error blames a transport header. -/
theorem IsBare.fitsCarried {p : Packet} (bare : p.IsBare) {error : Option LayerError}
    (layer : ∀ e ∈ error, e.layer = .ethernet ∨ e.layer = .vlan ∨
      e.layer = .ipv4 ∧ p.etherType = some .ipv4 ∨ e.layer = .ipv6 ∧ p.etherType = some .ipv6) :
    p.FitsCarried error where
  addresses := .inl ⟨bare.srcIp, bare.dstIp, bare.protocol⟩
  flags known := by simp [bare.tcpFlags] at known
  ports known := by simp [bare.srcPort, bare.dstPort] at known
  payload more := by simp [bare.payloadLength] at more
  network _ _ _ := ⟨bare.srcPort, bare.dstPort, bare.tcpFlags, bare.payloadLength⟩
  ipv4 e failed isIpv4 := by simpa [isIpv4] using layer e failed
  ipv6 e failed isIpv6 := ⟨by simpa [isIpv6] using layer e failed, by simp [bare.protocol]⟩
  tcp e failed isTcp := by simpa [isTcp] using layer e failed
  udp e failed isUdp := by simpa [isUdp] using layer e failed

/-- The addresses of a packet are of the version that its type announced. -/
theorem addresses_of_fits {p : Packet} {type : EtherType} (announced : p.etherType = some type)
    {packet : Bytes} {n : Network} (fits : n.Fits type packet) :
    ∃ src dst, some n.source = some src ∧ some n.destination = some dst ∧
      (some n.protocol).isSome ∧ p.etherType = some src.etherType ∧
      p.etherType = some dst.etherType :=
  ⟨n.source, n.destination, rfl, rfl, rfl, by rw [announced, fits.source],
    by rw [announced, fits.destination]⟩

/-- Where only the internet layer has been read, no error blames a transport header. -/
theorem IsBare.fitsCarried_withNetwork {p : Packet} (bare : p.IsBare) {type : EtherType}
    (announced : p.etherType = some type) {packet : Bytes} {n : Network} (fits : n.Fits type packet)
    {error : Option LayerError} (layer : ∀ e ∈ error, e.layer = .ipv4 ∧ type = .ipv4 ∨
      e.layer = .ipv6 ∧ type = .ipv6 ∧ n.protocol ∈ Network.extensionProtocols) :
    (p.withNetwork n).FitsCarried error where
  addresses := .inr (addresses_of_fits announced fits)
  flags known := by simp [withNetwork, bare.tcpFlags] at known
  ports known := by simp [withNetwork, bare.srcPort, bare.dstPort] at known
  payload more := by simp [withNetwork, bare.payloadLength] at more
  network _ _ _ := ⟨bare.srcPort, bare.dstPort, bare.tcpFlags, bare.payloadLength⟩
  ipv4 e failed isIpv4 := by simpa [withNetwork, announced, isIpv4] using layer e failed
  ipv6 e failed isIpv6 := by simpa [withNetwork, announced, isIpv6] using layer e failed
  tcp e failed isTcp := by simpa [isTcp] using layer e failed
  udp e failed isUdp := by simpa [isUdp] using layer e failed

/-- The internet layer that a packet gets, and all above it, fits what announced it. -/
theorem fitsCarried_addNetwork {p : Packet} (bare : p.IsBare) {type : EtherType} {packet : Bytes}
    (announced : p.etherType = some type) (room : packet.length + ethernetHeaderSize ≤ p.length)
    {n : Except LayerError Network}
    (failed : ∀ e, n = .error e →
      e.layer = .ipv4 ∧ type = .ipv4 ∨ e.layer = .ipv6 ∧ type = .ipv6)
    (fits : ∀ network, n = .ok network → network.Fits type packet) :
    (p.addNetwork n).1.FitsCarried (p.addNetwork n).2 ∧
      ∀ e ∈ (p.addNetwork n).2, e.layer ≠ .ethernet ∧ e.layer ≠ .vlan := by
  cases n with
  | error e =>
    refine ⟨bare.fitsCarried ?_, ?_⟩ <;> rintro _ ⟨⟩
    · rw [announced]
      obtain ⟨layer, rfl⟩ | ⟨layer, rfl⟩ := failed e rfl
      · exact .inr (.inr (.inl ⟨layer, rfl⟩))
      · exact .inr (.inr (.inr ⟨layer, rfl⟩))
    · obtain ⟨layer, -⟩ | ⟨layer, -⟩ := failed e rfl <;> simp [layer]
  | ok n =>
    have fits := fits n rfl
    unfold addNetwork
    simp only
    split
    · next e wrong =>
      refine ⟨bare.fitsCarried_withNetwork announced fits ?_, ?_⟩ <;> rintro _ ⟨⟩
      · exact fits.layer e wrong
      · obtain ⟨layer, -⟩ | ⟨layer, -⟩ := fits.layer e wrong <;> simp [layer]
    · exact ⟨bare.fitsCarried_withNetwork announced fits nofun, nofun⟩
    · next segment held =>
      have inside := fits.segment segment held
      have sizes : Network.ipv4HeaderSize = 20 ∧ Transport.udpHeaderSize = 8 ∧
          ethernetHeaderSize = 14 := ⟨rfl, rfl, rfl⟩
      obtain ⟨ports, flags, payload, layer⟩ := Transport.fits_decode n.protocol segment
      refine ⟨⟨.inr (addresses_of_fits announced fits), ?_, ?_, ?_, ?_, ?_, ?_, ?_, ?_⟩, ?_⟩
      · intro known
        exact congrArg some (flags known)
      · intro known
        exact (ports known).imp (congrArg some) (congrArg some)
      · intro more
        obtain ⟨fine, protocol, shorter⟩ := payload more
        refine ⟨fine, protocol.imp (congrArg some) (congrArg some), ?_⟩
        simp only [withTransport, withNetwork]
        omega
      -- An error from here is one of the transport layer, whose protocol is that of the packet.
      all_goals
        intro e wrong
        obtain ⟨isLayer, protocol⟩ | ⟨isLayer, protocol⟩ := layer e wrong
      all_goals simp [isLayer, protocol, withTransport, withNetwork]

/-- What a frame carries behind its tags fits what announced it. -/
theorem fitsCarried_addCarried {p : Packet} (bare : p.IsBare) (type : EtherType) {packet : Bytes}
    (room : packet.length + ethernetHeaderSize ≤ p.length) :
    (p.addCarried type packet).1.FitsCarried (p.addCarried type packet).2 ∧
      ∀ e ∈ (p.addCarried type packet).2, e.layer ≠ .ethernet ∧ e.layer ≠ .vlan := by
  have typed := bare.typed type
  unfold addCarried
  simp only
  split
  · exact fitsCarried_addNetwork typed rfl room
      (fun e failed => .inl ⟨Network.layer_decode4 failed, rfl⟩)
      fun n read => Network.fits_decode4 read
  · exact fitsCarried_addNetwork typed rfl room
      (fun e failed => .inr ⟨Network.layer_decode6 failed, rfl⟩)
      fun n read => Network.fits_decode6 read
  · exact ⟨typed.fitsCarried nofun, nofun⟩

/-- The fields of the link layer are left alone by the internet layer and what is above. -/
theorem link_addNetwork (p : Packet) (n : Except LayerError Network) :
    (p.addNetwork n).1.srcMac = p.srcMac ∧ (p.addNetwork n).1.dstMac = p.dstMac ∧
      (p.addNetwork n).1.vlan = p.vlan ∧ (p.addNetwork n).1.etherType = p.etherType := by
  unfold addNetwork
  split
  · exact ⟨rfl, rfl, rfl, rfl⟩
  · split <;> exact ⟨rfl, rfl, rfl, rfl⟩

/-- The fields of the link layer are left alone by what the frame carries. -/
theorem link_addCarried (p : Packet) (type : EtherType) (packet : Bytes) :
    (p.addCarried type packet).1.srcMac = p.srcMac ∧
      (p.addCarried type packet).1.dstMac = p.dstMac ∧
      (p.addCarried type packet).1.vlan = p.vlan ∧
      (p.addCarried type packet).1.etherType = some type := by
  unfold addCarried
  simp only
  split
  · exact link_addNetwork _ _
  · exact link_addNetwork _ _
  · exact ⟨rfl, rfl, rfl, rfl⟩

/-- With what its frame carries, a packet tells of one stack of layers. -/
theorem isStack_addCarried {frame : Bytes} {p : Packet} (long : ethernetHeaderSize ≤ frame.length)
    (bare : p.IsBare) (src : p.srcMac.isSome) (dst : p.dstMac.isSome)
    (length : p.length = frame.length) (time : Duration) (type : EtherType) {packet : Bytes}
    (room : packet.length + ethernetHeaderSize ≤ frame.length) :
    (p.addCarried type packet).1.IsStack frame time (p.addCarried type packet).2 := by
  obtain ⟨fits, above⟩ := fitsCarried_addCarried bare type (length ▸ room)
  obtain ⟨srcMac, dstMac, -, etherType⟩ := link_addCarried p type packet
  refine ⟨fits, ?_, fun short => absurd long (Nat.not_le.mpr short), ?_⟩
  · rw [srcMac, dstMac]
    exact ⟨fun _ => long, fun _ => ⟨src, dst⟩⟩
  · rw [etherType]
    exact ⟨fun _ => above, fun _ => rfl⟩

/-- A frame has a front of addresses and a type exactly if it is long enough. -/
theorem ethernetHeader?_cases (frame : Bytes) :
    frame.length < ethernetHeaderSize ∧ ethernetHeader? frame = none ∨
      ethernetHeaderSize ≤ frame.length ∧ ∃ header, ethernetHeader? frame = some header := by
  by_cases short : frame.length < ethernetHeaderSize
  · exact .inl ⟨short, Bytes.first?_bind_of_lt short _⟩
  · have long : ethernetHeaderSize ≤ frame.length := Nat.not_lt.mp short
    obtain ⟨dstBytes, dstRead, -, dstSize⟩ :=
      Checked.slice_header long (show 0 + 6 = 6 from rfl) (by decide)
    obtain ⟨srcBytes, srcRead, -, srcSize⟩ :=
      Checked.slice_header long (show 6 + 6 = 12 from rfl) (by decide)
    obtain ⟨type, typeRead, -⟩ := Checked.wordAt_header long (show 12 + 2 ≤ _ by decide)
    obtain ⟨dst, dstIs⟩ := Checked.mac_of_length dstSize
    obtain ⟨src, srcIs⟩ := Checked.mac_of_length srcSize
    refine .inr ⟨long, (dst, src, .ofNumber type), ?_⟩
    simp [ethernetHeader?, Bytes.first?_of_le long, dstRead, srcRead, typeRead, dstIs, srcIs]

/-- **The packet of a frame and its error tell of one stack of layers.**  A field is known only
where its layer was read, its value fits the layer below, and the error names the first layer that
is malformed. -/
theorem decode_isStack (frame : Bytes) (time : Duration) :
    (decode frame time).1.IsStack frame time (decode frame time).2 := by
  unfold decode
  simp only
  obtain ⟨short, absent⟩ | ⟨long, ⟨dst, src, type⟩, header⟩ := ethernetHeader?_cases frame
  · rw [absent]
    refine ⟨IsBare.fitsCarried ⟨rfl, rfl, rfl, rfl, rfl, rfl, rfl⟩ ?_, ?_,
      fun _ => ⟨rfl, rfl⟩, ?_⟩
    · rintro _ ⟨⟩
      exact .inl rfl
    · simpa using short
    · simp [LayerError.layer]
  · rw [header]
    obtain ⟨place, truncated⟩ | ⟨inner, packet, carried, room⟩ :=
      Vlan.walk_cases Vlan.limit type ethernetHeaderSize (frame.drop ethernetHeaderSize)
    · simp only [truncated]
      refine ⟨IsBare.fitsCarried ⟨rfl, rfl, rfl, rfl, rfl, rfl, rfl⟩ ?_, ?_,
        fun short => absurd long (Nat.not_le.mpr short), ?_⟩
      · rintro _ ⟨⟩
        exact .inr (.inl rfl)
      · simpa using long
      · simp [LayerError.layer]
    · simp only [carried]
      rw [List.length_drop] at room
      exact isStack_addCarried long ⟨rfl, rfl, rfl, rfl, rfl, rfl, rfl⟩ rfl rfl rfl time inner
        (by omega)

end Packet

end Wiretap
