import Mathlib.Data.List.Chain
import Wiretap.Proofs.Access.Frame
import Wiretap.Proofs.Packet.Carrier
import Wiretap.Proofs.Packet.Header

/-!
# The walk along extension headers

Where the walk along the extension headers of a packet of version 6 stands, how often, and why it
ends.

## Main definitions

* `Network.Station` - a header at which a walk stands: its type and its place.
* `Network.Station.Overruns` - an extension header that does not fit into its packet.
* `Network.Station.Passes` - a complete extension header and what stands behind it.
* `Network.Run` - the stations of a walk and what it ends with.
* `Network.Surveyed` - what the stations tell about the end of a walk.

## Main statements

* `Network.exists_run` - every walk is such a run.
* `Network.Run.survey` - every such run is surveyed.
* `Network.decode6_surveyed` - so what is read of a packet is told by the stations of its walk.

## Design notes

A run is told in places of the whole packet, with the place `stop` where the packet ends: its own
end, or the one that its first header declares.  The walk itself works on the bytes that are left.

A step has three lengths to choose from, and all of them are eight bytes at least.  That is the one
fact about lengths from which all bounds follow.
-/

namespace Wiretap.Network

variable {packet : Bytes} {stop : Nat}

/-! ## Stations -/

/-- A header at which a walk stands. -/
structure Station where
  protocol : IpProtocol
  offset : Nat
deriving DecidableEq, Repr

namespace Station

/-- An extension header that does not fit before the end of its packet: there is no room for the
smallest one, or none for as many bytes as it declares. -/
def Overruns (packet : Bytes) (stop : Nat) (v : Station) : Prop :=
  ∃ extension, Extension.of? v.protocol = some extension ∧
    (stop < v.offset + 8 ∨
      ∃ size, packet[v.offset + 1]? = some size ∧ stop < v.offset + extension.length size)

/-- A fragment header with a place that is not the beginning of the fragmented packet. -/
structure IsLater (packet : Bytes) (stop : Nat) (v : Station) (next : UInt8) : Prop where
  fragment : v.protocol = .fragment
  room : v.offset + 8 ≤ stop
  place : ∃ place, Bytes.be16At? packet (v.offset + 2) = some place ∧ place.toNat / 8 ≠ 0
  nextAt : packet[v.offset]? = some next

/-- A complete extension header leads to what its first byte names, right behind it. -/
inductive Passes (packet : Bytes) (stop : Nat) : Station → Station → Prop
  | intro {v : Station} {extension : Extension} {next size : UInt8}
    (kind : Extension.of? v.protocol = some extension)
    (first : extension = .fragment →
      ∃ place, Bytes.be16At? packet (v.offset + 2) = some place ∧ place.toNat / 8 = 0)
    (nextAt : packet[v.offset]? = some next) (sizeAt : packet[v.offset + 1]? = some size)
    (room : v.offset + extension.length size ≤ stop) :
    Passes packet stop v ⟨.ofNumber next, v.offset + extension.length size⟩

variable {v w : Station} {next : UInt8}

/-- Every step passes eight bytes at least and stays within the packet. -/
theorem Passes.advances (h : Passes packet stop v w) :
    v.offset + 8 ≤ w.offset ∧ w.offset ≤ stop := by
  obtain ⟨-, -, -, -, room⟩ := h
  exact ⟨Nat.add_le_add_left (ExtensionHeader.eight_le_length _ _) _, room⟩

theorem Passes.isExtension (h : Passes packet stop v w) : (Extension.of? v.protocol).isSome := by
  obtain ⟨kind, -⟩ := h
  rw [kind]
  rfl

/-- A header that is passed fits. -/
theorem Passes.not_overruns (h : Passes packet stop v w) : ¬ v.Overruns packet stop := by
  rintro ⟨other, isKind, short⟩
  have step := h.advances
  obtain ⟨kind, -, -, sizeAt, room⟩ := h
  cases kind.symm.trans isKind
  rcases short with short | ⟨size, sizeIs, short⟩
  · omega
  · cases sizeAt.symm.trans sizeIs
    omega

/-- A header of a later fragment fits. -/
theorem IsLater.not_overruns (h : IsLater packet stop v next) : ¬ v.Overruns packet stop := by
  rintro ⟨extension, kind, short⟩
  have room := h.room
  rw [h.fragment] at kind
  cases kind
  rcases short with short | ⟨size, -, short⟩
  · omega
  · simp only [Extension.length] at short
    omega

end Station

/-! ## Runs -/

/-- The stations of a walk along the extension headers of a packet that ends at `stop`, and what the
walk ends with. -/
inductive Run (packet : Bytes) (stop : Nat) : Station → List Station → Walk → Prop
  /-- What is no extension header begins the segment. -/
  | segment {v : Station} (plain : Extension.of? v.protocol = none) :
    Run packet stop v [v] ⟨v.protocol, .ok (some ((packet.take stop).drop v.offset))⟩
  /-- A later fragment has no segment to read. -/
  | later {v : Station} {next : UInt8} (later : v.IsLater packet stop next) :
    Run packet stop v [v] ⟨.ofNumber next, .ok none⟩
  /-- An extension header that does not fit is an error. -/
  | broken {v : Station} (overruns : v.Overruns packet stop) :
    Run packet stop v [v] ⟨v.protocol, .error (.extensionTruncated v.protocol v.offset)⟩
  /-- A complete extension header is passed. -/
  | passed {v w : Station} {stations : List Station} {result : Walk}
    (passes : v.Passes packet stop w) (rest : Run packet stop w stations result) :
    Run packet stop v (v :: stations) result

/-- The first bytes of a header before the stop stand at the same places of the whole packet. -/
theorem exists_header {offset : Nat} (fits : stop ≤ packet.length) (room : offset + 4 ≤ stop) :
    ∃ next size hi lo more,
      (packet.take stop).drop offset = next :: size :: hi :: lo :: more ∧
        packet[offset]? = some next ∧ packet[offset + 1]? = some size ∧
        Bytes.be16At? packet (offset + 2) = some (UInt16.ofNat (256 * hi.toNat + lo.toNat)) := by
  have length : ((packet.take stop).drop offset).length = stop - offset := by
    rw [List.length_drop, List.length_take, Nat.min_eq_left fits]
  obtain ⟨next, size, hi, lo, more, here⟩ :=
    Checked.exists_four (show 4 ≤ ((packet.take stop).drop offset).length by omega)
  have byteAt (i : Nat) (near : i < 4) (byte : UInt8)
      (seen : (next :: size :: hi :: lo :: more)[i]? = some byte) :
      packet[offset + i]? = some byte := by
    rw [← here, List.getElem?_drop, List.getElem?_take_of_lt (by omega)] at seen
    exact seen
  refine ⟨next, size, hi, lo, more, here, byteAt 0 (by decide) next rfl,
    byteAt 1 (by decide) size rfl, ?_⟩
  rw [← Bytes.be16At?_take (show offset + 2 + 2 ≤ stop by omega), Bytes.be16At?, ← List.drop_drop,
    here]
  simp [Bytes.be16?, Bytes.first?, Bytes.ofBigEndian]

/-- **A walk is a run**, wherever in its packet it begins. -/
theorem exists_run (fits : stop ≤ packet.length) (protocol : IpProtocol) {offset : Nat}
    (inside : offset ≤ stop) :
    ∃ stations, Run packet stop ⟨protocol, offset⟩ stations
      (walk protocol offset ((packet.take stop).drop offset)) := by
  -- Every step passes a header, so what is left before the stop gets less.
  induction left : stop - offset using Nat.strong_induction_on generalizing protocol offset with
  | _ left ih =>
    have length : ((packet.take stop).drop offset).length = stop - offset := by
      rw [List.length_drop, List.length_take, Nat.min_eq_left fits]
    cases kind : Extension.of? protocol with
    | none =>
      rw [walk, kind]
      exact ⟨_, .segment (v := ⟨protocol, offset⟩) kind⟩
    | some extension =>
      by_cases short : stop < offset + 8
      · have absent : Bytes.first? 8 ((packet.take stop).drop offset) = none :=
          Bytes.first?_eq_none_iff.mpr (by omega)
        rw [walk, kind]
        simp only [absent]
        exact ⟨_, .broken (v := ⟨protocol, offset⟩) ⟨extension, kind, .inl short⟩⟩
      · obtain ⟨next, size, hi, lo, more, here, nextAt, sizeAt, placeAt⟩ :=
          exists_header fits (show offset + 4 ≤ stop by omega)
        rw [Checked.walk_of_header kind offset here (by omega)]
        by_cases later : extension = .fragment ∧ (256 * hi.toNat + lo.toNat) / 8 ≠ 0
        · rw [if_pos later]
          have isFragment : protocol = .fragment := by
            rw [later.1] at kind
            cases protocol <;> simp_all [Extension.of?]
          exact ⟨_, .later (v := ⟨protocol, offset⟩)
            ⟨isFragment, Nat.not_lt.mp short,
              ⟨_, placeAt, by rw [Checked.toNat_word]; exact later.2⟩, nextAt⟩⟩
        · rw [if_neg later]
          by_cases ends : stop < offset + extension.length size
          · rw [if_pos (by omega)]
            exact ⟨_, .broken (v := ⟨protocol, offset⟩)
              ⟨extension, kind, .inr ⟨size, sizeAt, ends⟩⟩⟩
          · rw [if_neg (by omega), List.drop_drop]
            have passes : Station.Passes packet stop ⟨protocol, offset⟩
                ⟨.ofNumber next, offset + extension.length size⟩ :=
              .intro kind (fun isFragment => ⟨_, placeAt, by
                rw [Checked.toNat_word]
                by_contra notFirst
                exact later ⟨isFragment, notFirst⟩⟩) nextAt sizeAt (by simp only; omega)
            have positive := Extension.length_pos size extension
            obtain ⟨stations, rest⟩ := ih _ (by omega) (.ofNumber next)
              (show offset + extension.length size ≤ stop by omega) rfl
            exact ⟨_, .passed passes rest⟩

/-! ## What the stations tell -/

/-- What the stations of a walk tell about it. -/
structure Surveyed (packet : Bytes) (stop : Nat) (start : Station) (stations : List Station)
    (result : Walk) : Prop where
  head : stations.head? = some start
  /-- Each station follows from the one before it. -/
  chain : stations.IsChain (Station.Passes packet stop)
  /-- The walk goes forward, by eight bytes at least. -/
  forward : stations.Pairwise fun v w => v.offset + 8 ≤ w.offset
  within : ∀ v ∈ stations, start.offset ≤ v.offset ∧ v.offset ≤ stop
  passed : stations.length - 1 ≤ (stop - start.offset) / 8
  /-- A segment begins at the first station that is no extension header. -/
  segment : ∀ bytes, result.segment = .ok (some bytes) →
    ∃ extensions offset, stations = extensions ++ [⟨result.protocol, offset⟩] ∧
      (∀ v ∈ extensions, (Extension.of? v.protocol).isSome) ∧
      Extension.of? result.protocol = none ∧ bytes = (packet.take stop).drop offset
  /-- Without a segment the last station is the header of a later fragment. -/
  later : result.segment = .ok none →
    ∃ extensions v next, stations = extensions ++ [v] ∧ v.IsLater packet stop next ∧
      result.protocol = .ofNumber next
  /-- The walk fails exactly where it stands at a header that does not fit. -/
  fails : (∃ e, result.segment = .error e) ↔ ∃ v ∈ stations, v.Overruns packet stop
  /-- What is wrong names that header and its place. -/
  blames : ∀ v ∈ stations, v.Overruns packet stop → result.protocol = v.protocol ∧
    ∃ e, result.segment = .error e ∧ e.layer = .ipv6 ∧
      e.reason = s!"extension header {v.protocol} truncated at offset {v.offset}"

namespace Surveyed

variable {v w : Station} {stations : List Station} {result : Walk}

/-- One step more in front of a walk. -/
theorem cons (passes : v.Passes packet stop w) (h : Surveyed packet stop w stations result) :
    Surveyed packet stop v (v :: stations) result := by
  have step := passes.advances
  obtain ⟨others, rfl⟩ := List.head?_eq_some_iff.mp h.head
  have ahead (u : Station) (member : u ∈ w :: others) : v.offset + 8 ≤ u.offset :=
    step.1.trans (h.within u member).1
  refine ⟨rfl, List.isChain_cons_cons.mpr ⟨passes, h.chain⟩,
    List.pairwise_cons.mpr ⟨ahead, h.forward⟩, ?_, ?_, fun bytes there => ?_, fun none_ => ?_,
    ?_, ?_⟩
  · intro u member
    rcases List.mem_cons.mp member with rfl | member
    · exact ⟨le_rfl, by omega⟩
    · exact ⟨by have := ahead u member; omega, (h.within u member).2⟩
  · have := h.passed
    simp only [List.length_cons] at this ⊢
    omega
  · obtain ⟨extensions, offset, split, all, plain, is⟩ := h.segment bytes there
    refine ⟨v :: extensions, offset, by rw [split, List.cons_append], ?_, plain, is⟩
    exact List.forall_mem_cons.mpr ⟨passes.isExtension, all⟩
  · obtain ⟨extensions, last, next, split, later, is⟩ := h.later none_
    exact ⟨v :: extensions, last, next, by rw [split, List.cons_append], later, is⟩
  · rw [h.fails]
    constructor
    · rintro ⟨u, member, overruns⟩
      exact ⟨u, List.mem_cons_of_mem _ member, overruns⟩
    · rintro ⟨u, member, overruns⟩
      rcases List.mem_cons.mp member with rfl | member
      · exact absurd overruns passes.not_overruns
      · exact ⟨u, member, overruns⟩
  · intro u member overruns
    rcases List.mem_cons.mp member with rfl | member
    · exact absurd overruns passes.not_overruns
    · exact h.blames u member overruns

/-- A walk that ends where it begins. -/
theorem singleton (inside : v.offset ≤ stop)
    (segment : ∀ bytes, result.segment = .ok (some bytes) → result.protocol = v.protocol ∧
      Extension.of? v.protocol = none ∧ bytes = (packet.take stop).drop v.offset)
    (later : result.segment = .ok none →
      ∃ next, v.IsLater packet stop next ∧ result.protocol = .ofNumber next)
    (fails : (∃ e, result.segment = .error e) ↔ v.Overruns packet stop)
    (blames : v.Overruns packet stop → result.protocol = v.protocol ∧
      ∃ e, result.segment = .error e ∧ e.layer = .ipv6 ∧
        e.reason = s!"extension header {v.protocol} truncated at offset {v.offset}") :
    Surveyed packet stop v [v] result where
  head := rfl
  chain := .singleton v
  forward := List.pairwise_singleton _ v
  within := by simpa using inside
  passed := Nat.zero_le _
  segment bytes there := by
    obtain ⟨protocol, plain, is⟩ := segment bytes there
    exact ⟨[], v.offset, by rw [protocol]; rfl, by simp, protocol ▸ plain, is⟩
  later none_ := by
    obtain ⟨next, isLater, is⟩ := later none_
    exact ⟨[], v, next, rfl, isLater, is⟩
  fails := by simpa using fails
  blames := by simpa using blames

end Surveyed

/-- **The stations of a run tell how it ends.** -/
theorem Run.survey {start : Station} {stations : List Station} {result : Walk}
    (run : Run packet stop start stations result) (inside : start.offset ≤ stop) :
    Surveyed packet stop start stations result := by
  induction run with
  | @segment v plain =>
    have fits : ¬ v.Overruns packet stop := by
      rintro ⟨extension, kind, -⟩
      cases plain.symm.trans kind
    refine .singleton inside ?_ nofun ⟨nofun, (absurd · fits)⟩ (absurd · fits)
    rintro _ ⟨⟩
    exact ⟨rfl, plain, rfl⟩
  | later later =>
    have fits := later.not_overruns
    exact .singleton inside nofun (fun _ => ⟨_, later, rfl⟩) ⟨nofun, (absurd · fits)⟩
      (absurd · fits)
  | broken overruns =>
    exact .singleton inside nofun nofun ⟨fun _ => overruns, fun _ => ⟨_, rfl⟩⟩
      fun _ => ⟨rfl, _, rfl, rfl, rfl⟩
  | passed passes _ ih => exact (ih passes.advances.2).cons passes

/-- **The walk along extension headers is bounded and tells where the chain breaks.**  Take a packet
of version 6 that is long enough for its first header, and let it end where this header declares or
where its bytes do, whichever is first.  The walk stands first behind the header, at the type that
the header names.  Its stations go forward by eight bytes at least and stay within the packet, so it
passes no more headers than there are eights of bytes.  It ends with the segment from the first
station on that is no extension header, or without one at a complete header of a later fragment, or
with an error, and then exactly at a station where an extension header does not fit. -/
theorem decode6_surveyed (long : ipv6HeaderSize ≤ packet.length) :
    ∃ payload first n stations, Bytes.be16At? packet 4 = some payload ∧
      packet[6]? = some first ∧ decode6 packet = .ok n ∧
      let stop := min (ipv6HeaderSize + payload.toNat) packet.length
      let start : Station := ⟨.ofNumber first, ipv6HeaderSize⟩
      Run packet stop start stations ⟨n.protocol, n.segment⟩ ∧
        Surveyed packet stop start stations ⟨n.protocol, n.segment⟩ := by
  have size : ipv6HeaderSize = 40 := rfl
  obtain ⟨payload, payloadAt, -⟩ := Checked.wordAt_of_le (show 4 + 2 ≤ packet.length by omega)
  obtain ⟨first, firstAt, -⟩ := Checked.byteAt_of_lt (show 6 < packet.length by omega)
  obtain ⟨source, destination, header⟩ := ipv6Header?_of_places long payloadAt firstAt
  let stop := min (ipv6HeaderSize + payload.toNat) packet.length
  have inside : ipv6HeaderSize ≤ stop := Nat.le_min.mpr ⟨Nat.le_add_right _ _, long⟩
  have part : (packet.drop ipv6HeaderSize).take payload.toNat =
      (packet.take stop).drop ipv6HeaderSize := by
    have length : stop - ipv6HeaderSize =
        min payload.toNat (packet.drop ipv6HeaderSize).length := by
      rw [List.length_drop]
      omega
    rw [List.drop_take, length, ← List.take_eq_take_min]
  obtain ⟨stations, run⟩ := exists_run (Nat.min_le_right _ _) (.ofNumber first) inside
  refine ⟨payload, first, _, stations, payloadAt, firstAt, by rw [decode6, header], ?_⟩
  simp only [part]
  exact ⟨run, run.survey inside⟩

/-- A chain that breaks at its second header, of which four bytes are left. -/
theorem decode6_surveyed_broken_chain :
    let packet : Bytes := [0x60, 0, 0, 0, 0, 12, 0, 64] ++ List.replicate 32 0xfe ++
      ([51, 0, 0, 0, 0, 0, 0, 0] ++ [6, 0, 0, 0])
    ipv6HeaderSize ≤ packet.length ∧ ∃ n e, decode6 packet = .ok n ∧ n.protocol = .ah ∧
      n.segment = .error e ∧ e.reason = "extension header AH truncated at offset 48" := by
  intro packet
  have long : ipv6HeaderSize ≤ packet.length := by decide
  obtain ⟨payload, first, n, stations, payloadAt, firstAt, read, run, survey⟩ :=
    decode6_surveyed long
  cases (show Bytes.be16At? packet 4 = some 12 by decide).symm.trans payloadAt
  cases (show packet[6]? = some 0 by decide).symm.trans firstAt
  have kindFirst : Extension.of? (.ofNumber 0) = some .options := rfl
  have sizeFirst : packet[40 + 1]? = some 0 := by decide
  have broken : (Station.mk .ah 48).Overruns packet 52 := ⟨_, rfl, .inl (by decide)⟩
  have reached : ⟨.ah, 48⟩ ∈ stations := by
    generalize (⟨n.protocol, n.segment⟩ : Walk) = result at run
    cases run with
    | segment plain => cases kindFirst.symm.trans plain
    | later later => exact absurd later.fragment (by decide)
    | broken overruns =>
      obtain ⟨extension, kind, short | ⟨size, sizeAt, short⟩⟩ := overruns
      · exact absurd short (by decide)
      · cases kindFirst.symm.trans kind
        cases sizeFirst.symm.trans sizeAt
        exact absurd short (by decide)
    | passed passes rest =>
      have inside := passes.advances.2
      obtain ⟨kind, -, nextAt, sizeAt, -⟩ := passes
      cases kindFirst.symm.trans kind
      cases sizeFirst.symm.trans sizeAt
      cases (show packet[40]? = some 51 by decide).symm.trans nextAt
      exact List.mem_cons_of_mem _ (List.mem_of_mem_head? (rest.survey inside).head)
  obtain ⟨protocol, e, failed, -, reason⟩ := survey.blames _ reached broken
  exact ⟨long, n, e, read, protocol, failed, reason⟩

end Wiretap.Network
