import Wiretap.Packet.Decode
import Wiretap.Proofs.Access.Basic

/-!
# Frames are read within their bounds

A frame is taken apart layer by layer, along lengths that its headers name.  Each of them is
compared with what is left of the frame before it is used.

## Main definitions

* `Checked.vlanTags`, `Checked.ipv4`, `Checked.ipv6`, `Checked.extensions`, `Checked.tcp`,
  `Checked.udp` - the layers of a frame, read at places of the frame.
* `Checked.frame` - the fields of a frame.

## Main statements

* `Checked.vlanTags_eq`, `Checked.ipv4_eq`, `Checked.extensions_eq`, `Checked.ipv6_eq`,
  `Checked.tcp_eq`, `Checked.udp_eq` - each layer is read as the library reads it, and nothing out
  of range.
* `Checked.frame_eq` - the same for whole frames.

## Design notes

The walk along extension headers works on the whole packet and a place where it stops, which two
lengths bound: the packet's own and the one that its header names.  `extensions_eq` wants the place
of the walk before the stop and the stop within the packet; each step keeps that.
-/

namespace Wiretap.Checked

open Network (Extension)

/-! ## The layers of a frame -/

/-- The number of the first VLAN, which is the one of the tag at a place if there was none. -/
def vlanId (frame : Bytes) (offset : Nat) : Option UInt16 → Checked (Option UInt16)
  | some id => return some id
  | none => do
    let tag ← wordAt frame offset
    return some (UInt16.ofNat (tag.toNat % 4096))

/-- Passes at most so many VLAN tags.  The number of the first one is kept. -/
def vlanTags (frame : Bytes) : Nat → EtherType → Nat → Option UInt16 →
    Checked (Option UInt16 × Except LayerError (EtherType × Nat))
  | 0, type, offset, id => return (id, .ok (type, offset))
  | more + 1, type, offset, id =>
    if type.isVlan then
      if frame.length < offset + 4 then return (id, .error (.tagTruncated offset))
      else do
        let id ← vlanId frame offset id
        let inner ← wordAt frame (offset + 2)
        vlanTags frame more (.ofNumber inner) (offset + 4) id
    else return (id, .ok (type, offset))

/-- The segment of a packet of version 4, whose header declares both lengths. -/
def ipv4Segment (packet : Bytes) (headerLength totalLength : Nat) :
    Checked (Except LayerError (Option Bytes)) :=
  if totalLength < headerLength then return .error (.ipv4TotalLength totalLength)
  else do
    let fragment ← wordAt packet 6
    if fragment.toNat % 8192 ≠ 0 then return .ok none
    else
      let segment ← slice packet headerLength (min totalLength packet.length)
      return .ok (some segment)

/-- The header of a packet of version 4. -/
def ipv4 (packet : Bytes) : Checked (Except LayerError Network) :=
  if packet.length < Network.ipv4HeaderSize then return .error (.ipv4Truncated packet.length)
  else do
    let first ← byteAt packet 0
    let headerLength := first.toNat % 16 * 4
    if headerLength < Network.ipv4HeaderSize ∨ packet.length < headerLength then
      return .error (.ipv4HeaderLength headerLength)
    else
      let source ← slice packet 12 16
      let destination ← slice packet 16 20
      let protocol ← byteAt packet 9
      let totalLength ← wordAt packet 2
      let segment ← ipv4Segment packet headerLength totalLength.toNat
      return .ok {
        source := .v4 ((Ipv4Addr.ofBytes? source).getD default)
        destination := .v4 ((Ipv4Addr.ofBytes? destination).getD default)
        protocol := .ofNumber protocol
        segment }

/-- The length of the extension header at a place, none in a fragment other than the first. -/
def extensionLength (packet : Bytes) (offset : Nat) : Extension → Checked (Option Nat)
  | .options => do
    let size ← byteAt packet (offset + 1)
    return some ((size.toNat + 1) * 8)
  | .authentication => do
    let size ← byteAt packet (offset + 1)
    return some ((size.toNat + 2) * 4)
  | .fragment => do
    let fragment ← wordAt packet (offset + 2)
    if fragment.toNat / 8 ≠ 0 then return none
    else return some 8

/-- An extension header has a length. -/
theorem extensionLength_pos {packet : Bytes} {offset length : Nat} {extension : Extension}
    (found : extensionLength packet offset extension = .ok (some length)) : 0 < length := by
  cases extension with
  | options =>
    cases read : byteAt packet (offset + 1) with
    | error e => simp [extensionLength, read, bind, Except.bind] at found
    | ok size =>
      simp only [extensionLength, read, ok_bind, pure_eq_ok, Except.ok.injEq,
        Option.some.injEq] at found
      omega
  | authentication =>
    cases read : byteAt packet (offset + 1) with
    | error e => simp [extensionLength, read, bind, Except.bind] at found
    | ok size =>
      simp only [extensionLength, read, ok_bind, pure_eq_ok, Except.ok.injEq,
        Option.some.injEq] at found
      omega
  | fragment =>
    cases read : wordAt packet (offset + 2) with
    | error e => simp [extensionLength, read, bind, Except.bind] at found
    | ok fragment =>
      rw [extensionLength, read, ok_bind] at found
      split at found
      · cases found
      · cases found
        omega

/-- The walk along the extension headers of a packet that ends at `stop`. -/
def extensions (packet : Bytes) (stop : Nat) (protocol : IpProtocol) (offset : Nat) :
    Checked Network.Walk :=
  match Extension.of? protocol with
  | none => do
    let segment ← slice packet offset stop
    return ⟨protocol, .ok (some segment)⟩
  | some extension =>
    if stop < offset + 8 then return ⟨protocol, .error (.extensionTruncated protocol offset)⟩
    else
      match _ : extensionLength packet offset extension with
      | .error e => .error e
      | .ok none => do
        let next ← byteAt packet offset
        return ⟨.ofNumber next, .ok none⟩
      | .ok (some length) =>
        if stop < offset + length then
          return ⟨protocol, .error (.extensionTruncated protocol offset)⟩
        else do
          let next ← byteAt packet offset
          extensions packet stop (.ofNumber next) (offset + length)
termination_by stop - offset
decreasing_by
  have positive := extensionLength_pos (by assumption)
  omega

/-- The headers of a packet of version 6. -/
def ipv6 (packet : Bytes) : Checked (Except LayerError Network) :=
  if packet.length < Network.ipv6HeaderSize then return .error (.ipv6Truncated packet.length)
  else do
    let source ← slice packet 8 24
    let destination ← slice packet 24 40
    let payloadLength ← wordAt packet 4
    let next ← byteAt packet 6
    let stop := min (Network.ipv6HeaderSize + payloadLength.toNat) packet.length
    let walk ← extensions packet stop (.ofNumber next) Network.ipv6HeaderSize
    return .ok {
      source := .v6 ((Ipv6Addr.ofBytes? source).getD default)
      destination := .v6 ((Ipv6Addr.ofBytes? destination).getD default)
      protocol := walk.protocol
      segment := walk.segment }

/-- The TCP header at the front of a segment. -/
def tcp (segment : Bytes) : Checked (Transport × Option LayerError) :=
  if segment.length < Transport.tcpHeaderSize then
    return ({}, some (.tcpTruncated segment.length))
  else do
    let srcPort ← wordAt segment 0
    let dstPort ← wordAt segment 2
    let offset ← byteAt segment 12
    let flags ← byteAt segment 13
    let header : Transport := { srcPort, dstPort, flags := some (.ofHeader offset flags) }
    let declared := offset.toNat / 16 * 4
    if declared < Transport.tcpHeaderSize ∨ segment.length < declared then
      return (header, some (.tcpDataOffset declared))
    else
      let payloadLength ← difference segment.length declared
      return ({ header with payloadLength }, none)

/-- The UDP header at the front of a segment. -/
def udp (segment : Bytes) : Checked (Transport × Option LayerError) :=
  if segment.length < Transport.udpHeaderSize then
    return ({}, some (.udpTruncated segment.length))
  else do
    let srcPort ← wordAt segment 0
    let dstPort ← wordAt segment 2
    let payloadLength ← difference segment.length Transport.udpHeaderSize
    return ({ srcPort, dstPort, payloadLength }, none)

/-- The transport header of a segment of the given protocol. -/
def transport (protocol : IpProtocol) (segment : Bytes) : Checked (Transport × Option LayerError) :=
  match protocol with
  | .tcp => tcp segment
  | .udp => udp segment
  | _ => return ({}, none)

/-- The packet with the fields of its internet layer and all above it. -/
def addNetwork (p : Packet) : Except LayerError Network → Checked (Packet × Option LayerError)
  | .error e => return (p, some e)
  | .ok n =>
    match n.segment with
    | .error e => return (p.withNetwork n, some e)
    | .ok none => return (p.withNetwork n, none)
    | .ok (some segment) => do
      let (transport, error) ← transport n.protocol segment
      return ((p.withNetwork n).withTransport transport, error)

/-- The packet with what its frame carries from a place on. -/
def addCarried (p : Packet) (frame : Bytes) (type : EtherType) (offset : Nat) :
    Checked (Packet × Option LayerError) :=
  let p := { p with etherType := some type }
  match type with
  | .ipv4 => do
    let packet ← tail frame offset
    let network ← ipv4 packet
    addNetwork p network
  | .ipv6 => do
    let packet ← tail frame offset
    let network ← ipv6 packet
    addNetwork p network
  | _ => return (p, none)

/-- The fields of a frame and the error of the layer where reading it stopped. -/
def frame (frame : Bytes) (time : Duration) : Checked (Packet × Option LayerError) :=
  let start : Packet := { time, length := frame.length, raw := frame }
  if frame.length < ethernetHeaderSize then return (start, some (.frameTooShort frame.length))
  else do
    let dst ← slice frame 0 6
    let src ← slice frame 6 12
    let type ← wordAt frame 12
    let (vlan, carried) ← vlanTags frame Vlan.limit (.ofNumber type) ethernetHeaderSize none
    let p := { start with dstMac := Mac.ofBytes? dst, srcMac := Mac.ofBytes? src, vlan }
    match carried with
    | .error e => return (p, some e)
    | .ok (type, offset) => addCarried p frame type offset

/-! ## VLAN tags -/

/-- The number that is kept is the one of the first tag. -/
theorem vlanId_eq {frame : Bytes} {offset : Nat} {tag : UInt16}
    (read : wordAt frame offset = .ok tag) (id : Option UInt16) :
    vlanId frame offset id = .ok (id <|> some (UInt16.ofNat (tag.toNat % 4096))) := by
  cases id with
  | none => rw [vlanId, read, ok_bind]; rfl
  | some id => rfl

/-- Where less than a tag is left, the walk along the tags ends with an error. -/
theorem walk_of_short {type : EtherType} (tagged : type.isVlan = true) {rest : Bytes}
    (short : rest.length < 4) (more offset : Nat) :
    Vlan.walk (more + 1) type offset rest = ⟨none, .error (.tagTruncated offset)⟩ := by
  unfold Vlan.walk
  rw [if_pos tagged]
  split
  · simp only [List.length_cons] at short
    omega
  · rfl

/-- Where no tag is announced, the walk along the tags ends. -/
theorem walk_of_untagged {type : EtherType} (untagged : ¬ type.isVlan = true) (more offset : Nat)
    (rest : Bytes) : Vlan.walk more type offset rest = ⟨none, .ok (type, rest)⟩ := by
  unfold Vlan.walk
  split
  · rfl
  · rw [if_neg untagged]

/-- Passing tags ends at a place within the frame. -/
theorem vlanTags_eq {frame : Bytes} {offset : Nat} (inside : offset ≤ frame.length) (more : Nat)
    (type : EtherType) (id : Option UInt16) :
    ∃ carried : Except LayerError (EtherType × Nat),
      vlanTags frame more type offset id =
        .ok (id <|> (Vlan.walk more type offset (frame.drop offset)).id, carried) ∧
      (Vlan.walk more type offset (frame.drop offset)).carried =
        carried.map (fun read => (read.1, frame.drop read.2)) ∧
      ∀ read, carried = .ok read → read.2 ≤ frame.length := by
  induction more generalizing offset type id with
  | zero =>
    refine ⟨.ok (type, offset), ?_, rfl, ?_⟩
    · simp [vlanTags, Vlan.walk]
    · rintro _ ⟨⟩
      exact inside
  | succ more ih =>
    have left : (frame.drop offset).length = frame.length - offset := List.length_drop
    rw [vlanTags]
    by_cases tagged : type.isVlan = true
    · by_cases short : frame.length < offset + 4
      · rw [if_pos tagged, if_pos short, walk_of_short tagged (by omega)]
        exact ⟨.error (.tagTruncated offset), by simp, rfl, by simp⟩
      · obtain ⟨tagHi, tagLo, typeHi, typeLo, rest, here⟩ :=
          exists_four (show 4 ≤ (frame.drop offset).length by omega)
        -- Both words of the tag are among the four bytes that are left at least.
        have innerHere : frame.drop (offset + 2) = typeHi :: typeLo :: rest := by
          rw [← List.drop_drop, here]
          rfl
        have restHere : frame.drop (offset + 4) = rest := by
          rw [← List.drop_drop, here]
          rfl
        obtain ⟨carried, walked, carriedEq, within⟩ :=
          ih (show offset + 4 ≤ frame.length by omega)
            (.ofNumber (UInt16.ofNat (256 * typeHi.toNat + typeLo.toNat)))
            (id <|> some (UInt16.ofNat ((256 * tagHi.toNat + tagLo.toNat) % 4096)))
        rw [restHere] at walked carriedEq
        refine ⟨carried, ?_, ?_, within⟩
        · rw [if_pos tagged, if_neg short, vlanId_eq (wordAt_of_drop here), ok_bind,
            wordAt_of_drop innerHere, ok_bind, toNat_word, walked, here, Vlan.walk, if_pos tagged]
          cases id <;> rfl
        · rw [here, Vlan.walk, if_pos tagged]
          exact carriedEq
    · rw [if_neg tagged, walk_of_untagged tagged]
      refine ⟨.ok (type, offset), ?_, rfl, ?_⟩
      · simp
      · rintro _ ⟨⟩
        exact inside

/-! ## Internet headers -/

/-- Reading the segment of a packet stays within the packet. -/
theorem ipv4Segment_eq {packet : Bytes} {h : Network.Ipv4Header} {fragment : UInt16}
    (declared : h.headerLength ≤ packet.length) (checked : wordAt packet 6 = .ok fragment)
    (offset : h.fragmentOffset = fragment.toNat % 8192) :
    ipv4Segment packet h.headerLength h.totalLength = .ok (h.segment packet) := by
  rw [ipv4Segment, Network.Ipv4Header.segment]
  by_cases short : h.totalLength < h.headerLength
  · rw [if_pos short, if_pos short]
    rfl
  · rw [if_neg short, if_neg short, checked, ok_bind, ← offset]
    by_cases later : h.fragmentOffset ≠ 0
    · rw [if_pos later, if_pos later]
      rfl
    -- Padding behind the declared length is cut off, and a declared length beyond the packet
    -- changes nothing.
    · have part : (packet.take (min h.totalLength packet.length)).drop h.headerLength =
          (packet.take h.totalLength).drop h.headerLength := by
        rw [← List.take_take, List.take_length]
      rw [if_neg later, if_neg later, slice_of_le (by omega) (by omega), ← List.drop_take, part]
      rfl

/-- Reading the header of a packet of version 4 stays within the packet. -/
theorem ipv4_eq (packet : Bytes) : ipv4 packet = .ok (Network.decode4 packet) := by
  rw [ipv4, Network.decode4]
  by_cases short : packet.length < Network.ipv4HeaderSize
  · have absent : Network.ipv4Header? packet = none := Bytes.first?_bind_of_lt short _
    rw [if_pos short, absent]
    rfl
  · have long : Network.ipv4HeaderSize ≤ packet.length := Nat.not_lt.mp short
    obtain ⟨first, firstRead, firstChecked⟩ := byteAt_header long (show 0 < _ by decide)
    obtain ⟨protocol, protocolRead, protocolChecked⟩ := byteAt_header long (show 9 < _ by decide)
    obtain ⟨total, totalRead, totalChecked⟩ := wordAt_header long (show 2 + 2 ≤ _ by decide)
    obtain ⟨fragment, fragmentRead, fragmentChecked⟩ :=
      wordAt_header long (show 6 + 2 ≤ _ by decide)
    obtain ⟨sourceBytes, sourceRead, sourceChecked, sourceSize⟩ :=
      slice_header long (show 12 + 4 = 16 from rfl) (by decide)
    obtain ⟨destinationBytes, destinationRead, destinationChecked, destinationSize⟩ :=
      slice_header long (show 16 + 4 = 20 from rfl) (by decide)
    obtain ⟨source, sourceIs, sourceIp⟩ := ipv4_of_length sourceSize
    obtain ⟨destination, destinationIs, destinationIp⟩ := ipv4_of_length destinationSize
    let h : Network.Ipv4Header :=
      { headerLength := first.toNat % 16 * 4
        totalLength := total.toNat
        fragmentOffset := fragment.toNat % 8192
        protocol := .ofNumber protocol
        source := .v4 source
        destination := .v4 destination }
    have header : Network.ipv4Header? packet = some h := by
      simp [Network.ipv4Header?, Bytes.first?_of_le long, firstRead, protocolRead, totalRead,
        fragmentRead, sourceRead, destinationRead, sourceIp, destinationIp, h]
    rw [if_neg short, header, firstChecked, ok_bind]
    simp only
    by_cases undeclared : h.headerLength < Network.ipv4HeaderSize ∨ packet.length < h.headerLength
    · rw [if_pos undeclared, if_pos undeclared]
      rfl
    · have segment := ipv4Segment_eq (h := h) (by omega) fragmentChecked rfl
      rw [if_neg undeclared, if_neg undeclared, sourceChecked, ok_bind, destinationChecked,
        ok_bind, protocolChecked, ok_bind, totalChecked, ok_bind]
      rw [show ipv4Segment packet (first.toNat % 16 * 4) total.toNat = _ from segment]
      simp [sourceIs, destinationIs, h]

/-- Reading the length of an extension header takes its first four bytes. -/
theorem extensionLength_eq {packet : Bytes} {offset : Nat} {next size hi lo : UInt8} {rest : Bytes}
    (here : packet.drop offset = next :: size :: hi :: lo :: rest) (extension : Extension) :
    extensionLength packet offset extension =
      .ok (if extension = .fragment ∧ (256 * hi.toNat + lo.toNat) / 8 ≠ 0 then none
        else some (extension.length size)) := by
  have sizeHere : packet.drop (offset + 1) = size :: hi :: lo :: rest := by
    rw [← List.drop_drop, here]
    rfl
  have fragmentHere : packet.drop (offset + 2) = hi :: lo :: rest := by
    rw [← List.drop_drop, here]
    rfl
  cases extension with
  | options =>
    rw [extensionLength, byteAt_of_drop sizeHere, ok_bind, if_neg (by simp)]
    rfl
  | authentication =>
    rw [extensionLength, byteAt_of_drop sizeHere, ok_bind, if_neg (by simp)]
    rfl
  | fragment =>
    rw [extensionLength, wordAt_of_drop fragmentHere, ok_bind, toNat_word]
    by_cases later : (256 * hi.toNat + lo.toNat) / 8 ≠ 0
    · rw [if_pos later, if_pos ⟨rfl, later⟩]
      rfl
    · rw [if_neg later, if_neg fun both => later both.2]
      rfl

/-- At a header of a later fragment the walk ends. -/
theorem extensions_of_later {packet : Bytes} {stop offset : Nat} {protocol : IpProtocol}
    {extension : Extension} (kind : Extension.of? protocol = some extension)
    (room : offset + 8 ≤ stop) (found : extensionLength packet offset extension = .ok none) :
    extensions packet stop protocol offset =
      (byteAt packet offset).map fun next => ⟨.ofNumber next, .ok none⟩ := by
  rw [extensions, kind]
  simp only
  rw [if_neg (by omega)]
  split
  · next failed => cases found.symm.trans failed
  · rfl
  · next other => cases found.symm.trans other

/-- A header that has a length is passed, if it ends before the stop. -/
theorem extensions_of_length {packet : Bytes} {stop offset length : Nat} {protocol : IpProtocol}
    {extension : Extension} (kind : Extension.of? protocol = some extension)
    (room : offset + 8 ≤ stop)
    (found : extensionLength packet offset extension = .ok (some length)) :
    extensions packet stop protocol offset =
      if stop < offset + length then
        .ok ⟨protocol, .error (.extensionTruncated protocol offset)⟩
      else
        byteAt packet offset >>= fun next =>
          extensions packet stop (.ofNumber next) (offset + length) := by
  rw [extensions, kind]
  simp only
  rw [if_neg (by omega)]
  split
  · next failed => cases found.symm.trans failed
  · next other => cases found.symm.trans other
  · next passed =>
    cases found.symm.trans passed
    rfl

/-- The walk at a header that is there. -/
theorem walk_of_header {protocol : IpProtocol} {extension : Extension}
    (kind : Extension.of? protocol = some extension) (offset : Nat) {rest more : Bytes}
    {next size hi lo : UInt8} (here : rest = next :: size :: hi :: lo :: more)
    (room : 8 ≤ rest.length) :
    Network.walk protocol offset rest =
      if extension = .fragment ∧ (256 * hi.toNat + lo.toNat) / 8 ≠ 0 then
        ⟨.ofNumber next, .ok none⟩
      else if rest.length < extension.length size then
        ⟨protocol, .error (.extensionTruncated protocol offset)⟩
      else
        Network.walk (.ofNumber next) (offset + extension.length size)
          (rest.drop (extension.length size)) := by
  have front : Bytes.first? 8 rest = some (next :: size :: hi :: lo :: more.take 4) := by
    rw [Bytes.first?_of_le room, here]
    rfl
  rw [Network.walk, kind]
  simp only [front]

/-- The walk along extension headers stays between its place and its stop. -/
theorem extensions_eq {packet : Bytes} {stop : Nat} (fits : stop ≤ packet.length)
    (protocol : IpProtocol) {offset : Nat} (inside : offset ≤ stop) :
    extensions packet stop protocol offset =
      .ok (Network.walk protocol offset ((packet.take stop).drop offset)) := by
  -- Every step passes a header, so what is left before the stop gets less.
  induction left : stop - offset using Nat.strong_induction_on generalizing protocol offset with
  | _ left ih =>
    have size : ((packet.take stop).drop offset).length = stop - offset := by
      rw [List.length_drop, List.length_take, Nat.min_eq_left fits]
    cases kind : Extension.of? protocol with
    | none =>
      rw [extensions, Network.walk, kind]
      simp only
      rw [slice_of_le inside fits, ← List.drop_take]
      rfl
    | some extension =>
      by_cases short : stop < offset + 8
      · have absent : Bytes.first? 8 ((packet.take stop).drop offset) = none :=
          Bytes.first?_eq_none_iff.mpr (by omega)
        rw [extensions, Network.walk, kind]
        simp only
        rw [if_pos short, absent]
        rfl
      · obtain ⟨next, sizeByte, hi, lo, more, here⟩ :=
          exists_four (show 4 ≤ ((packet.take stop).drop offset).length by omega)
        -- The header is read in the whole packet, where the walk sees what is before the stop.
        have whole : packet.drop offset = next :: sizeByte :: hi :: lo ::
            (more ++ (packet.drop offset).drop (stop - offset)) := by
          have parts := List.take_append_drop (stop - offset) (packet.drop offset)
          rw [← List.drop_take, here] at parts
          exact parts.symm
        have lengthRead := extensionLength_eq whole extension
        rw [walk_of_header kind offset here (by omega)]
        by_cases later : extension = .fragment ∧ (256 * hi.toNat + lo.toNat) / 8 ≠ 0
        · rw [if_pos later] at lengthRead
          rw [if_pos later, extensions_of_later kind (by omega) lengthRead, byteAt_of_drop whole]
          rfl
        · rw [if_neg later] at lengthRead
          rw [if_neg later, extensions_of_length kind (by omega) lengthRead]
          by_cases ends : stop < offset + extension.length sizeByte
          · rw [if_pos ends, if_pos (by omega)]
          · have positive := Extension.length_pos sizeByte extension
            rw [if_neg ends, if_neg (by omega), byteAt_of_drop whole, ok_bind, List.drop_drop]
            exact ih _ (by omega) (.ofNumber next) (by omega) rfl

/-- Reading the headers of a packet of version 6 stays within the packet. -/
theorem ipv6_eq (packet : Bytes) : ipv6 packet = .ok (Network.decode6 packet) := by
  rw [ipv6, Network.decode6]
  by_cases short : packet.length < Network.ipv6HeaderSize
  · have absent : Network.ipv6Header? packet = none := Bytes.first?_bind_of_lt short _
    rw [if_pos short, absent]
    rfl
  · have long : Network.ipv6HeaderSize ≤ packet.length := Nat.not_lt.mp short
    obtain ⟨next, nextRead, nextChecked⟩ := byteAt_header long (show 6 < _ by decide)
    obtain ⟨payload, payloadRead, payloadChecked⟩ :=
      wordAt_header long (show 4 + 2 ≤ _ by decide)
    obtain ⟨sourceBytes, sourceRead, sourceChecked, sourceSize⟩ :=
      slice_header long (show 8 + 16 = 24 from rfl) (by decide)
    obtain ⟨destinationBytes, destinationRead, destinationChecked, destinationSize⟩ :=
      slice_header long (show 24 + 16 = 40 from rfl) (by decide)
    obtain ⟨source, sourceIs, sourceIp⟩ := ipv6_of_length sourceSize
    obtain ⟨destination, destinationIs, destinationIp⟩ := ipv6_of_length destinationSize
    have header : Network.ipv6Header? packet = some
        { payloadLength := payload.toNat
          next := .ofNumber next
          source := .v6 source
          destination := .v6 destination } := by
      simp [Network.ipv6Header?, Bytes.first?_of_le long, nextRead, payloadRead, sourceRead,
        destinationRead, sourceIp, destinationIp]
    -- The walk sees what lies before the end that the header declares, if that lies in the packet.
    have rest : (packet.take (min (Network.ipv6HeaderSize + payload.toNat) packet.length)).drop
          Network.ipv6HeaderSize =
        (packet.drop Network.ipv6HeaderSize).take payload.toNat := by
      rw [← List.take_take, List.take_length, List.drop_take, Nat.add_sub_cancel_left]
    rw [if_neg short, header, sourceChecked, ok_bind, destinationChecked, ok_bind, payloadChecked,
      ok_bind, nextChecked, ok_bind]
    simp only
    rw [extensions_eq (by omega) _ (by omega), ok_bind, rest]
    simp [sourceIs, destinationIs]

/-! ## Transport headers -/

/-- Reading a TCP header stays within the segment. -/
theorem tcp_eq (segment : Bytes) : tcp segment = .ok (Transport.decodeTcp segment) := by
  rw [tcp, Transport.decodeTcp]
  by_cases short : segment.length < Transport.tcpHeaderSize
  · have absent : Transport.tcpHeader? segment = none := Bytes.first?_bind_of_lt short _
    rw [if_pos short, absent]
    rfl
  · have long : Transport.tcpHeaderSize ≤ segment.length := Nat.not_lt.mp short
    obtain ⟨srcPort, srcRead, srcChecked⟩ := wordAt_header long (show 0 + 2 ≤ _ by decide)
    obtain ⟨dstPort, dstRead, dstChecked⟩ := wordAt_header long (show 2 + 2 ≤ _ by decide)
    obtain ⟨offset, offsetRead, offsetChecked⟩ := byteAt_header long (show 12 < _ by decide)
    obtain ⟨flags, flagsRead, flagsChecked⟩ := byteAt_header long (show 13 < _ by decide)
    have header : Transport.tcpHeader? segment = some
        ({ srcPort, dstPort, flags := some (.ofHeader offset flags) },
          offset.toNat / 16 * 4) := by
      simp [Transport.tcpHeader?, Bytes.first?_of_le long, srcRead, dstRead, offsetRead, flagsRead]
    rw [if_neg short, header, srcChecked, ok_bind, dstChecked, ok_bind, offsetChecked, ok_bind,
      flagsChecked, ok_bind]
    simp only
    by_cases undeclared : offset.toNat / 16 * 4 < Transport.tcpHeaderSize ∨
        segment.length < offset.toNat / 16 * 4
    · rw [if_pos undeclared, if_pos undeclared]
      rfl
    · rw [if_neg undeclared, if_neg undeclared, difference_of_le (by omega)]
      rfl

/-- Reading a UDP header stays within the segment. -/
theorem udp_eq (segment : Bytes) : udp segment = .ok (Transport.decodeUdp segment) := by
  rw [udp, Transport.decodeUdp]
  by_cases short : segment.length < Transport.udpHeaderSize
  · have absent : Transport.udpHeader? segment = none := Bytes.first?_bind_of_lt short _
    rw [if_pos short, absent]
    rfl
  · have long : Transport.udpHeaderSize ≤ segment.length := Nat.not_lt.mp short
    obtain ⟨srcPort, srcRead, srcChecked⟩ := wordAt_header long (show 0 + 2 ≤ _ by decide)
    obtain ⟨dstPort, dstRead, dstChecked⟩ := wordAt_header long (show 2 + 2 ≤ _ by decide)
    have header : Transport.udpHeader? segment = some { srcPort, dstPort } := by
      simp [Transport.udpHeader?, Bytes.first?_of_le long, srcRead, dstRead]
    rw [if_neg short, header, srcChecked, ok_bind, dstChecked, ok_bind, difference_of_le long]
    rfl

theorem transport_eq (protocol : IpProtocol) (segment : Bytes) :
    transport protocol segment = .ok (Transport.decode protocol segment) := by
  unfold transport
  split
  · exact tcp_eq segment
  · exact udp_eq segment
  · next notTcp notUdp => rw [Transport.decode_of_ne notTcp notUdp]; rfl

/-! ## Whole frames -/

theorem addNetwork_eq (p : Packet) (n : Except LayerError Network) :
    addNetwork p n = .ok (p.addNetwork n) := by
  match n with
  | .error e => rfl
  | .ok ⟨_, _, _, .error e⟩ => rfl
  | .ok ⟨_, _, _, .ok none⟩ => rfl
  | .ok ⟨_, _, protocol, .ok (some segment)⟩ =>
    simp only [addNetwork, transport_eq, ok_bind]
    rfl

theorem addCarried_eq (p : Packet) {frame : Bytes} (type : EtherType) {offset : Nat}
    (inside : offset ≤ frame.length) :
    addCarried p frame type offset = .ok (p.addCarried type (frame.drop offset)) := by
  cases type with
  | ipv4 => rw [addCarried, tail_of_le inside, ok_bind, ipv4_eq, ok_bind, addNetwork_eq]; rfl
  | ipv6 => rw [addCarried, tail_of_le inside, ok_bind, ipv6_eq, ok_bind, addNetwork_eq]; rfl
  | _ => rfl

/-- **Reading a frame stays within the frame**, whatever it says about its lengths. -/
theorem frame_eq (bytes : Bytes) (time : Duration) :
    frame bytes time = .ok (Packet.decode bytes time) := by
  unfold frame Packet.decode
  by_cases short : bytes.length < ethernetHeaderSize
  · have absent : Packet.ethernetHeader? bytes = none := Bytes.first?_bind_of_lt short _
    simp only
    rw [if_pos short, absent]
    rfl
  · have long : ethernetHeaderSize ≤ bytes.length := Nat.not_lt.mp short
    obtain ⟨dstBytes, dstRead, dstChecked, dstSize⟩ :=
      slice_header long (show 0 + 6 = 6 from rfl) (by decide)
    obtain ⟨srcBytes, srcRead, srcChecked, srcSize⟩ :=
      slice_header long (show 6 + 6 = 12 from rfl) (by decide)
    obtain ⟨type, typeRead, typeChecked⟩ := wordAt_header long (show 12 + 2 ≤ _ by decide)
    obtain ⟨dst, dstIs⟩ := mac_of_length dstSize
    obtain ⟨src, srcIs⟩ := mac_of_length srcSize
    have header : Packet.ethernetHeader? bytes = some (dst, src, .ofNumber type) := by
      simp [Packet.ethernetHeader?, Bytes.first?_of_le long, dstRead, srcRead, typeRead, dstIs,
        srcIs]
    -- The tags end at a place within the frame, where what they carry begins.
    obtain ⟨carried, walked, carriedEq, within⟩ :=
      vlanTags_eq long Vlan.limit (.ofNumber type) none
    simp only
    rw [if_neg short, header, dstChecked, ok_bind, srcChecked, ok_bind, typeChecked, ok_bind,
      walked, ok_bind]
    simp only [carriedEq, dstIs, srcIs]
    cases carried with
    | error e => rfl
    | ok read => exact addCarried_eq _ read.1 (within read rfl)

end Wiretap.Checked
