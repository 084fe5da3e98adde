import Mathlib.Data.List.Infix
import Wiretap.Proofs.Access.Frame
import Wiretap.Proofs.Packet.Layers

/-!
# Frames cut short

A sniffer may cut a frame anywhere.  What is read of the part that is left is true of the whole
frame: a field is absent or has its value, and nothing is made up.

## Main definitions

* `Transport.IsPartOf`, `Network.Walk.IsPartOf`, `Network.IsPartOf`, `Packet.IsPartOf` - what is
  read of a part, beside what is read of the whole, at each layer.

## Main statements

* `Transport.decode_isPartOf`, `Network.walk_isPartOf`, `Network.decode4_isPartOf`,
  `Network.decode6_isPartOf`, `Vlan.walk_isPartOf` - each layer keeps it.
* `Packet.decode_mono` - what is read of a part of a frame is a part of what is read of the frame.

## Design notes

A layer hands bytes to the next one, and those of the part are the front of those of the whole; the
lengths that headers declare cut both at the same place.  The one field that a part may have
differently is the protocol: a walk along extension headers that runs out of bytes stops at an
extension, where the walk along the whole packet goes on.  Its error tells so.
-/

namespace Wiretap

/-! ## Transport headers -/

namespace Transport

/-- What is read of a part of a segment is true of the whole segment. -/
structure IsPartOf (part whole : Transport × Option LayerError) : Prop where
  ports : part.1.srcPort = 0 ∧ part.1.dstPort = 0 ∨
    part.1.srcPort = whole.1.srcPort ∧ part.1.dstPort = whole.1.dstPort
  flags : part.1.flags = none ∨ part.1.flags = whole.1.flags
  payload : part.1.payloadLength ≤ whole.1.payloadLength
  complete : part.2 = none → whole.2 = none ∧
    whole.1 = { part.1 with payloadLength := whole.1.payloadLength }

/-- Where nothing is read of the part, nothing has to be true of the whole. -/
theorem IsPartOf.of_unread (e : LayerError) (whole : Transport × Option LayerError) :
    IsPartOf ({}, some e) whole :=
  ⟨.inl ⟨rfl, rfl⟩, .inl rfl, Nat.zero_le _, nofun⟩

variable {part whole : Bytes}

theorem decodeTcp_isPartOf (cut : part <+: whole) :
    IsPartOf (decodeTcp part) (decodeTcp whole) := by
  have shorter := cut.length_le
  cases read : tcpHeader? part with
  | none =>
    rw [show decodeTcp part = ({}, some (.tcpTruncated part.length)) by rw [decodeTcp, read]]
    exact .of_unread _ _
  | some header =>
    obtain ⟨header, declared⟩ := header
    have readWhole : tcpHeader? whole = some (header, declared) :=
      Bytes.first?_bind_of_prefix cut read
    rw [decodeTcp, decodeTcp, read, readWhole]
    simp only
    by_cases undeclared : declared < tcpHeaderSize ∨ part.length < declared
    · have unread : header.payloadLength = 0 := payloadLength_of_tcpHeader? read
      rw [if_pos undeclared]
      split
      · exact ⟨.inr ⟨rfl, rfl⟩, .inr rfl, le_rfl, by simp⟩
      · exact ⟨.inr ⟨rfl, rfl⟩, .inr rfl, unread ▸ Nat.zero_le _, by simp⟩
    · rw [if_neg undeclared, if_neg (by omega)]
      exact ⟨.inr ⟨rfl, rfl⟩, .inr rfl, Nat.sub_le_sub_right shorter _, fun _ => ⟨rfl, rfl⟩⟩

theorem decodeUdp_isPartOf (cut : part <+: whole) :
    IsPartOf (decodeUdp part) (decodeUdp whole) := by
  cases read : udpHeader? part with
  | none =>
    rw [show decodeUdp part = ({}, some (.udpTruncated part.length)) by rw [decodeUdp, read]]
    exact .of_unread _ _
  | some header =>
    have readWhole : udpHeader? whole = some header := Bytes.first?_bind_of_prefix cut read
    rw [decodeUdp, decodeUdp, read, readWhole]
    exact ⟨.inr ⟨rfl, rfl⟩, .inr rfl, Nat.sub_le_sub_right cut.length_le _, fun _ => ⟨rfl, rfl⟩⟩

/-- What is read of a part of a segment is true of the whole segment. -/
theorem decode_isPartOf (protocol : IpProtocol) (cut : part <+: whole) :
    IsPartOf (decode protocol part) (decode protocol whole) := by
  unfold decode
  split
  · exact decodeTcp_isPartOf cut
  · exact decodeUdp_isPartOf cut
  · exact ⟨.inl ⟨rfl, rfl⟩, .inl rfl, le_rfl, fun _ => ⟨rfl, rfl⟩⟩

end Transport

/-! ## Internet headers -/

namespace Network

/-- Where a walk along a part of a packet ends, beside the end of the walk along the whole. -/
inductive Walk.IsPartOf : Walk → Walk → Prop
  /-- The part has run out of bytes at an extension header. -/
  | ended (protocol : IpProtocol) {e : LayerError} (layer : e.layer = .ipv6) (whole : Walk) :
    IsPartOf ⟨protocol, .error e⟩ whole
  /-- The header that both have is malformed. -/
  | failed (protocol : IpProtocol) (e : LayerError) :
    IsPartOf ⟨protocol, .error e⟩ ⟨protocol, .error e⟩
  /-- Both are a fragment other than the first. -/
  | fragment (protocol : IpProtocol) : IsPartOf ⟨protocol, .ok none⟩ ⟨protocol, .ok none⟩
  /-- Both have a segment. -/
  | segment (protocol : IpProtocol) {part whole : Bytes} (cut : part <+: whole) :
    IsPartOf ⟨protocol, .ok (some part)⟩ ⟨protocol, .ok (some whole)⟩

/-- What is read of a part of a packet is true of the whole packet. -/
structure IsPartOf (part whole : Network) : Prop where
  source : part.source = whole.source
  destination : part.destination = whole.destination
  walk : Walk.IsPartOf ⟨part.protocol, part.segment⟩ ⟨whole.protocol, whole.segment⟩

variable {part whole : Bytes}

/-- The header of a part of a packet is the header of the packet. -/
theorem decode4_isPartOf (cut : part <+: whole) {n : Network} (read : decode4 part = .ok n) :
    ∃ m, decode4 whole = .ok m ∧ n.IsPartOf m := by
  have shorter := cut.length_le
  unfold decode4 at read
  split at read
  · cases read
  · next h header =>
    have headerWhole : ipv4Header? whole = some h := Bytes.first?_bind_of_prefix cut header
    split at read
    · cases read
    · next inside =>
      cases read
      refine ⟨⟨h.source, h.destination, h.protocol, h.segment whole⟩, ?_, rfl, rfl, ?_⟩
      · rw [decode4, headerWhole]
        simp only
        rw [if_neg (by omega)]
      · simp only [Ipv4Header.segment]
        split
        · exact .failed _ _
        · split
          · exact .fragment _
          · exact .segment _ ((cut.take _).drop _)

/-- A walk along a part of a packet ends as the walk along the packet does, or for want of bytes. -/
theorem walk_isPartOf (cut : part <+: whole) (protocol : IpProtocol) (offset : Nat) :
    Walk.IsPartOf (walk protocol offset part) (walk protocol offset whole) := by
  fun_induction walk protocol offset part generalizing whole with
  | case1 protocol offset rest kind =>
    rw [walk, kind]
    exact .segment protocol cut
  | case2 protocol offset rest extension kind next size hi lo more front later =>
    rw [walk, kind]
    simp only [Bytes.first?_of_prefix cut front]
    rw [if_pos later]
    exact .fragment _
  | case3 protocol offset rest extension kind => exact .ended _ rfl _
  | case4 protocol offset rest extension kind next size hi lo more front first inside ih =>
    have shorter := cut.length_le
    rw [walk.eq_def protocol offset whole, kind]
    simp only [Bytes.first?_of_prefix cut front]
    rw [if_neg first, if_neg (by omega)]
    exact ih (cut.drop _)
  | case5 protocol offset rest extension kind => exact .ended _ rfl _

/-- The headers of a part of a packet are those of the packet, as far as they go. -/
theorem decode6_isPartOf (cut : part <+: whole) {n : Network} (read : decode6 part = .ok n) :
    ∃ m, decode6 whole = .ok m ∧ n.IsPartOf m := by
  unfold decode6 at read
  split at read
  · cases read
  · next h header =>
    have headerWhole : ipv6Header? whole = some h := Bytes.first?_bind_of_prefix cut header
    have walks :=
      walk_isPartOf ((cut.drop ipv6HeaderSize).take h.payloadLength) h.next ipv6HeaderSize
    cases read
    rw [decode6, headerWhole]
    exact ⟨_, rfl, rfl, rfl, walks⟩

end Network

/-! ## VLAN tags -/

/-- Passing a tag that is there. -/
theorem Vlan.walk_of_tag {type : EtherType} (tagged : type.isVlan = true) (more offset : Nat)
    (tagHi tagLo typeHi typeLo : UInt8) (rest : Bytes) :
    walk (more + 1) type offset (tagHi :: tagLo :: typeHi :: typeLo :: rest) =
      ⟨some (UInt16.ofNat ((256 * tagHi.toNat + tagLo.toNat) % 4096)),
        (walk more (.ofNumber (UInt16.ofNat (256 * typeHi.toNat + typeLo.toNat))) (offset + 4)
          rest).carried⟩ := by
  rw [walk, if_pos tagged]

/-- The tags of a part of a frame are those of the frame, as far as they go. -/
theorem Vlan.walk_isPartOf {part whole : Bytes} (cut : part <+: whole) (more : Nat)
    (type : EtherType) (offset : Nat) :
    (∃ place, (walk more type offset part).carried = .error (.tagTruncated place) ∧
        ((walk more type offset part).id = none ∨
          (walk more type offset part).id = (walk more type offset whole).id)) ∨
      ∃ inner left leftWhole, left <+: leftWhole ∧
        (walk more type offset part).carried = .ok (inner, left) ∧
        (walk more type offset whole).carried = .ok (inner, leftWhole) ∧
        (walk more type offset part).id = (walk more type offset whole).id := by
  induction more generalizing type offset part whole with
  | zero => exact .inr ⟨type, part, whole, cut, rfl, rfl, rfl⟩
  | succ more ih =>
    by_cases tagged : type.isVlan = true
    · by_cases short : part.length < 4
      · rw [Checked.walk_of_short tagged short]
        exact .inl ⟨offset, rfl, .inl rfl⟩
      · obtain ⟨tagHi, tagLo, typeHi, typeLo, left, rfl⟩ :=
          Checked.exists_four (Nat.not_lt.mp short)
        obtain ⟨rest, rfl⟩ := cut
        simp only [List.cons_append]
        rw [walk_of_tag tagged, walk_of_tag tagged]
        obtain ⟨place, failed, -⟩ |
            ⟨inner, behind, behindWhole, further, carried, carriedWhole, -⟩ :=
          ih (left.prefix_append rest)
            (.ofNumber (UInt16.ofNat (256 * typeHi.toNat + typeLo.toNat))) (offset + 4)
        · exact .inl ⟨place, failed, .inr rfl⟩
        · exact .inr ⟨inner, behind, behindWhole, further, carried, carriedWhole, rfl⟩
    · rw [Checked.walk_of_untagged tagged, Checked.walk_of_untagged tagged]
      exact .inr ⟨type, part, whole, cut, rfl, rfl, rfl⟩

/-! ## Whole frames -/

namespace Packet

/-- What is read of a part of a frame, with its error, is true of the whole frame. -/
structure IsPartOf (part whole : Packet × Option LayerError) : Prop where
  srcMac : part.1.srcMac = none ∨ part.1.srcMac = whole.1.srcMac
  dstMac : part.1.dstMac = none ∨ part.1.dstMac = whole.1.dstMac
  vlan : part.1.vlan = none ∨ part.1.vlan = whole.1.vlan
  etherType : part.1.etherType = none ∨ part.1.etherType = whole.1.etherType
  srcIp : part.1.srcIp = none ∨ part.1.srcIp = whole.1.srcIp
  dstIp : part.1.dstIp = none ∨ part.1.dstIp = whole.1.dstIp
  tcpFlags : part.1.tcpFlags = none ∨ part.1.tcpFlags = whole.1.tcpFlags
  ports : part.1.srcPort = 0 ∧ part.1.dstPort = 0 ∨
    part.1.srcPort = whole.1.srcPort ∧ part.1.dstPort = whole.1.dstPort
  payload : part.1.payloadLength ≤ whole.1.payloadLength
  protocol : (∀ e ∈ part.2, e.layer ≠ .ipv6) →
    part.1.protocol = none ∨ part.1.protocol = whole.1.protocol
  complete : part.2 = none → whole.2 = none ∧
    whole.1 = { part.1 with
      length := whole.1.length, payloadLength := whole.1.payloadLength, raw := whole.1.raw }

/-- Where nothing is known above the link layer, only the link layer has to be true of the whole. -/
theorem IsBare.isPartOf {p : Packet} (bare : p.IsBare) (e : LayerError)
    {whole : Packet × Option LayerError} (srcMac : p.srcMac = none ∨ p.srcMac = whole.1.srcMac)
    (dstMac : p.dstMac = none ∨ p.dstMac = whole.1.dstMac)
    (vlan : p.vlan = none ∨ p.vlan = whole.1.vlan)
    (etherType : p.etherType = none ∨ p.etherType = whole.1.etherType) :
    IsPartOf (p, some e) whole where
  srcMac := srcMac
  dstMac := dstMac
  vlan := vlan
  etherType := etherType
  srcIp := .inl bare.srcIp
  dstIp := .inl bare.dstIp
  tcpFlags := .inl bare.tcpFlags
  ports := .inl ⟨bare.srcPort, bare.dstPort⟩
  payload := bare.payloadLength ▸ Nat.zero_le _
  protocol _ := .inl bare.protocol
  complete := nofun

/-- Where only the frames differ, all that is read is true of both. -/
theorem IsPartOf.of_eq {part whole : Packet} (length : Nat) (raw : Bytes)
    (same : whole = { part with length, raw }) (error : Option LayerError) :
    IsPartOf (part, error) (whole, error) := by
  subst same
  exact ⟨.inr rfl, .inr rfl, .inr rfl, .inr rfl, .inr rfl, .inr rfl, .inr rfl, .inr ⟨rfl, rfl⟩,
    le_rfl, fun _ => .inr rfl, fun fine => ⟨fine, rfl⟩⟩

/-- The addresses of a packet are those of its internet header. -/
theorem ips_addNetwork (p : Packet) (n : Network) :
    (p.addNetwork (.ok n)).1.srcIp = some n.source ∧
      (p.addNetwork (.ok n)).1.dstIp = some n.destination := by
  unfold addNetwork
  simp only
  split <;> exact ⟨rfl, rfl⟩

/-- What the internet layer adds to a part is true of the whole. -/
theorem addNetwork_isPartOf {p : Packet} (bare : p.IsBare) (length : Nat) (raw : Bytes)
    {part whole : Except LayerError Network}
    (kept : ∀ n, part = .ok n → ∃ m, whole = .ok m ∧ n.IsPartOf m) :
    IsPartOf (p.addNetwork part) ({ p with length, raw }.addNetwork whole) := by
  obtain ⟨srcMac, dstMac, vlan, etherType⟩ := link_addNetwork { p with length, raw } whole
  cases part with
  | error e =>
    exact bare.isPartOf e (.inr srcMac.symm) (.inr dstMac.symm) (.inr vlan.symm)
      (.inr etherType.symm)
  | ok n =>
    obtain ⟨m, rfl, source, destination, walk⟩ := kept n rfl
    obtain ⟨srcIp, dstIp⟩ := ips_addNetwork { p with length, raw } m
    obtain ⟨nSource, nDestination, nProtocol, nSegment⟩ := n
    obtain ⟨mSource, mDestination, mProtocol, mSegment⟩ := m
    obtain rfl : nSource = mSource := source
    obtain rfl : nDestination = mDestination := destination
    cases walk with
    | ended protocol layer whole =>
      exact {
        srcMac := .inr srcMac.symm
        dstMac := .inr dstMac.symm
        vlan := .inr vlan.symm
        etherType := .inr etherType.symm
        srcIp := .inr srcIp.symm
        dstIp := .inr dstIp.symm
        tcpFlags := .inl bare.tcpFlags
        ports := .inl ⟨bare.srcPort, bare.dstPort⟩
        payload := bare.payloadLength.symm ▸ Nat.zero_le _
        protocol := fun others => absurd layer (others _ rfl)
        complete := nofun }
    | failed protocol e => exact .of_eq length raw rfl _
    | fragment protocol => exact .of_eq length raw rfl _
    | segment _ cut =>
      obtain ⟨ports, flags, payload, complete⟩ := Transport.decode_isPartOf nProtocol cut
      refine ⟨.inr rfl, .inr rfl, .inr rfl, .inr rfl, .inr rfl, .inr rfl, flags, ports, payload,
        fun _ => .inr rfl, fun fine => ?_⟩
      obtain ⟨fineWhole, read⟩ := complete fine
      refine ⟨fineWhole, ?_⟩
      simp only [addNetwork, withTransport, withNetwork]
      rw [read]

/-- What a frame carries behind its tags is true of the whole frame. -/
theorem addCarried_isPartOf {p : Packet} (bare : p.IsBare) (length : Nat) (raw : Bytes)
    (type : EtherType) {part whole : Bytes} (cut : part <+: whole) :
    IsPartOf (p.addCarried type part) ({ p with length, raw }.addCarried type whole) := by
  have typed := bare.typed type
  unfold addCarried
  simp only
  split
  · exact addNetwork_isPartOf typed length raw fun n read => Network.decode4_isPartOf cut read
  · exact addNetwork_isPartOf typed length raw fun n read => Network.decode6_isPartOf cut read
  · exact .of_eq length raw rfl none

/-- The fields of the link layer stand in front of the frame. -/
theorem link_decode {frame : Bytes} {dst src : Mac} {type : EtherType}
    (read : ethernetHeader? frame = some (dst, src, type)) (time : Duration) :
    (decode frame time).1.srcMac = some src ∧ (decode frame time).1.dstMac = some dst ∧
      (decode frame time).1.vlan =
        (Vlan.walk Vlan.limit type ethernetHeaderSize (frame.drop ethernetHeaderSize)).id := by
  unfold decode
  rw [read]
  simp only
  split
  · exact ⟨rfl, rfl, rfl⟩
  · next inner packet carried =>
    obtain ⟨srcMac, dstMac, vlan, -⟩ := link_addCarried _ inner packet
    exact ⟨srcMac, dstMac, vlan⟩

/-- **Cutting a frame short never invents metadata.**  A field of the part is absent or that of the
whole frame, and a part that is read to the end tells all but the lengths. -/
theorem decode_mono {part whole : Bytes} (cut : part <+: whole) (time : Duration) :
    IsPartOf (decode part time) (decode whole time) := by
  cases read : ethernetHeader? part with
  | none =>
    rw [show decode part time = ({ time, length := part.length, raw := part },
      some (.frameTooShort part.length)) by rw [decode, read]]
    exact IsBare.isPartOf ⟨rfl, rfl, rfl, rfl, rfl, rfl, rfl⟩ _ (.inl rfl) (.inl rfl) (.inl rfl)
      (.inl rfl)
  | some header =>
    obtain ⟨dst, src, type⟩ := header
    have readWhole : ethernetHeader? whole = some (dst, src, type) :=
      Bytes.first?_bind_of_prefix cut read
    obtain ⟨place, truncated, id⟩ |
        ⟨inner, left, leftWhole, further, carried, carriedWhole, id⟩ :=
      Vlan.walk_isPartOf (cut.drop ethernetHeaderSize) Vlan.limit type ethernetHeaderSize
    · obtain ⟨srcMac, dstMac, vlan⟩ := link_decode readWhole time
      rw [decode, read]
      simp only [truncated]
      refine IsBare.isPartOf ⟨rfl, rfl, rfl, rfl, rfl, rfl, rfl⟩ _ (.inr srcMac.symm)
        (.inr dstMac.symm) ?_ (.inl rfl)
      rw [vlan]
      exact id
    · unfold decode
      rw [read, readWhole]
      simp only [carried, carriedWhole, id]
      exact addCarried_isPartOf ⟨rfl, rfl, rfl, rfl, rfl, rfl, rfl⟩ whole.length whole inner further

/-- A tagged frame that is cut within its UDP header: the addresses are those of the whole frame,
and the ports are not known. -/
theorem decode_mono_cut_udp :
    let whole : Bytes := [2, 0, 0, 0, 0, 1, 2, 0, 0, 0, 0, 2, 0x81, 0, 0, 7, 8, 0,
      0x45, 0, 0, 30, 0, 0, 0, 0, 64, 17, 0, 0, 10, 0, 0, 1, 10, 0, 0, 2,
      0x14, 0xe9, 0, 53, 0, 10, 0, 0, 0xca, 0xfe]
    whole.take 42 <+: whole ∧ IsPartOf (decode (whole.take 42) .zero) (decode whole .zero) ∧
      (decode (whole.take 42) .zero).2 = some (.udpTruncated 4) ∧
      (decode whole .zero).1.srcPort = 5353 ∧ (decode whole .zero).1.payloadLength = 2 := by
  intro whole
  have cut : whole.take 42 <+: whole := whole.take_prefix 42
  exact ⟨cut, decode_mono cut .zero, by decide, by decide, by decide⟩

end Packet

end Wiretap
