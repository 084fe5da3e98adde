import Wiretap.Proofs.Packet.Carrier
import Wiretap.Proofs.Packet.Cut
import Wiretap.Proofs.Packet.Decode

/-!
# Frames with VLAN tags

A VLAN tag is put into a frame behind its two addresses.  Of the tags of a frame two are passed, and
nothing is seen of them but the number of the outer one.

## Main definitions

* `VlanTag`, `VlanTag.bytes` - a tag, and how it is written.
* `VlanTag.insertAll` - a frame with tags put into it.
* `VlanTag.announced`, `VlanTag.chain` - what stands in the place of the type of the frame then, and
  what follows there.

## Main statements

* `Vlan.walk_chain` - the walk along tags ends behind them.
* `Packet.decode_insertAll` - a frame with at most two tags is read as what it carries behind them.
* `Packet.decode_tags` - one or two tags show in nothing but the number of the outer one, and of
  three or more the third is the type of the frame.

## Design notes

A tag is written as a type and a control word, and stands before the type of what it tags.  The walk
has read a type already when it comes to a tag, and so meets control words each of which is followed
by the next type.  `chain` is the same bytes cut in that way, and `flatMap_bytes_append` says so.
-/

namespace Wiretap

/-! ## Tags and their bytes -/

/-- A VLAN tag. -/
structure VlanTag where
  /-- Whether it is marked as a service tag. -/
  isService : Bool
  /-- Priority and number of the VLAN. -/
  control : UInt16
deriving DecidableEq, Repr

/-- The bytes of two bytes' word are the two bytes. -/
theorem Bytes.be16_word (hi lo : UInt8) :
    Bytes.be16 (UInt16.ofNat (256 * hi.toNat + lo.toNat)) = [hi, lo] := by
  have word : ofBigEndian [hi, lo] = 256 * hi.toNat + lo.toNat := by simp [ofBigEndian]
  rw [← word, be16_ofBigEndian]

namespace VlanTag

/-- The type that announces a tag. -/
def type (t : VlanTag) : EtherType := if t.isService then .serviceTag else .vlanTag

/-- The number of the VLAN, which is in the lowest twelve bits of the control word. -/
def id (t : VlanTag) : UInt16 := t.control &&& 0xfff

/-- A tag as it is written. -/
def bytes (t : VlanTag) : Bytes := Bytes.be16 t.type.number ++ Bytes.be16 t.control

/-- The number of bytes of the two addresses of a frame. -/
def addressesSize : Nat := 12

/-- A frame with tags put behind its addresses, the outermost one first. -/
def insertAll (tags : List VlanTag) (frame : Bytes) : Bytes :=
  frame.take addressesSize ++ tags.flatMap bytes ++ frame.drop addressesSize

/-- The type number in front of tags that stand before the given type number. -/
def announced : List VlanTag → UInt16 → UInt16
  | [], last => last
  | tag :: _, _ => tag.type.number

/-- What follows that number, up to the type behind the tags. -/
def chain : List VlanTag → UInt16 → Bytes
  | [], _ => []
  | tag :: tags, last =>
    Bytes.be16 tag.control ++ Bytes.be16 (announced tags last) ++ chain tags last

@[simp] theorem isVlan_type (t : VlanTag) : t.type.isVlan = true := by
  unfold type
  split <;> rfl

@[simp] theorem ofNumber_number_type (t : VlanTag) : EtherType.ofNumber t.type.number = t.type := by
  unfold type
  split <;> rfl

@[simp] theorem length_bytes (t : VlanTag) : t.bytes.length = 4 := rfl

/-- The number of a tag is what the walk reads of its control word. -/
theorem id_eq (t : VlanTag) : t.id = UInt16.ofNat (t.control.toNat % 4096) := by
  have bound := t.control.toNat_lt
  apply UInt16.toNat_inj.mp
  have low : t.control.toNat &&& 4095 = t.control.toNat % 4096 :=
    Nat.and_two_pow_sub_one_eq_mod t.control.toNat 12
  rw [id, UInt16.toNat_and, UInt16.toNat_ofNat']
  exact low.trans (by omega)

/-- Tags before a type are a type before control words and types. -/
theorem flatMap_bytes_append (tags : List VlanTag) (last : UInt16) :
    tags.flatMap bytes ++ Bytes.be16 last =
      Bytes.be16 (announced tags last) ++ chain tags last := by
  induction tags with
  | nil => rw [List.flatMap_nil, announced, chain, List.nil_append, List.append_nil]
  | cons tag tags ih =>
    rw [List.flatMap_cons, List.append_assoc, ih, announced, chain, bytes]
    simp only [List.append_assoc]

/-- Putting no tag into a frame changes nothing. -/
@[simp] theorem insertAll_nil (frame : Bytes) : insertAll [] frame = frame := by
  rw [insertAll, List.flatMap_nil, List.append_nil, List.take_append_drop]

/-- Every tag adds four bytes. -/
theorem length_insertAll (tags : List VlanTag) (frame : Bytes) :
    (insertAll tags frame).length = frame.length + 4 * tags.length := by
  have tagged : (tags.flatMap bytes).length = 4 * tags.length := by
    induction tags with
    | nil => rfl
    | cons tag tags ih =>
      rw [List.flatMap_cons, List.length_append, ih, length_bytes, List.length_cons]
      omega
  rw [insertAll, List.length_append, List.length_append, tagged, List.length_take, List.length_drop]
  omega

/-- Tags are put between the addresses of a frame and the rest of it. -/
theorem insertAll_addresses (tags : List VlanTag) (dst src : Mac) (rest : Bytes) :
    insertAll tags (dst.octets ++ src.octets ++ rest) =
      dst.octets ++ src.octets ++ tags.flatMap bytes ++ rest := by
  have size : (dst.octets ++ src.octets).length = addressesSize := rfl
  rw [insertAll, List.take_left' size, List.drop_left' size]

/-- With tags, a frame announces the first of them and goes on with the others. -/
theorem insertAll_untagged (tags : List VlanTag) (dst src : Mac) (last : UInt16) (carried : Bytes) :
    insertAll tags (untagged dst src (.ofNumber last) carried) =
      untagged dst src (.ofNumber (announced tags last)) (chain tags last ++ carried) := by
  rw [untagged, untagged, EtherType.number_ofNumber, EtherType.number_ofNumber,
    List.append_assoc _ _ carried, insertAll_addresses, List.append_assoc,
    ← List.append_assoc _ _ carried, flatMap_bytes_append]
  simp only [List.append_assoc]

/-- Tags leave what follows a frame behind it. -/
theorem insertAll_untagged_append (tags : List VlanTag) (dst src : Mac) (type : EtherType)
    (carried rest : Bytes) :
    insertAll tags (untagged dst src type carried) ++ rest =
      insertAll tags (untagged dst src type (carried ++ rest)) := by
  rw [untagged, untagged, List.append_assoc _ _ carried, List.append_assoc _ _ (carried ++ rest),
    insertAll_addresses, insertAll_addresses]
  simp only [List.append_assoc]

end VlanTag

/-! ## The walk along tags -/

open VlanTag (insertAll announced chain)

/-- **The walk along tags ends behind them**, if there are at most as many as it passes and no more
of them follow. -/
theorem Vlan.walk_chain (tags : List VlanTag) {more : Nat} (few : tags.length ≤ more)
    {last : UInt16} (ends : (EtherType.ofNumber last).isVlan = true → tags.length = more)
    (offset : Nat) (rest : Bytes) :
    walk more (.ofNumber (announced tags last)) offset (chain tags last ++ rest) =
      ⟨tags.head?.map VlanTag.id, .ok (.ofNumber last, rest)⟩ := by
  induction tags generalizing more offset with
  | nil =>
    rw [announced, chain, List.nil_append]
    by_cases tagged : (EtherType.ofNumber last).isVlan = true
    · obtain rfl : 0 = more := ends tagged
      rfl
    · exact Checked.walk_of_untagged tagged more offset rest
  | cons tag tags ih =>
    obtain ⟨more, rfl⟩ : ∃ fewer, more = fewer + 1 :=
      Nat.exists_eq_succ_of_ne_zero (Nat.ne_of_gt (Nat.lt_of_lt_of_le (Nat.succ_pos _) few))
    have digits (word : UInt16) :
        Bytes.be16 word = [UInt8.ofNat (word.toNat / 256), UInt8.ofNat word.toNat] := rfl
    have later := ih (Nat.le_of_succ_le_succ few)
      (fun tagged => Nat.succ.inj (ends tagged)) (offset + 4)
    have first : (EtherType.ofNumber (announced (tag :: tags) last)).isVlan = true := by
      rw [announced, VlanTag.ofNumber_number_type, VlanTag.isVlan_type]
    rw [chain, digits, digits]
    simp only [List.cons_append, List.nil_append]
    rw [walk_of_tag first, Bytes.toNat_be16, Bytes.word_be16, later, ← VlanTag.id_eq]
    rfl

/-! ## Frames -/

namespace Packet

/-- A frame that is long enough begins with two addresses. -/
theorem exists_addresses {frame : Bytes} (long : VlanTag.addressesSize ≤ frame.length) :
    ∃ (dst src : Mac) (rest : Bytes), frame = dst.octets ++ src.octets ++ rest := by
  match frame, long with
  | a :: b :: c :: d :: e :: f :: g :: h :: i :: j :: k :: l :: rest, _ =>
    exact ⟨⟨a, b, c, d, e, f⟩, ⟨g, h, i, j, k, l⟩, rest, rfl⟩

/-- A frame that has a type has two addresses before it and carries what is behind it. -/
theorem exists_untagged {frame : Bytes} {type : UInt16}
    (typed : Bytes.be16At? frame VlanTag.addressesSize = some type) :
    ∃ dst src carried, frame = untagged dst src (.ofNumber type) carried := by
  have there : 2 ≤ (frame.drop VlanTag.addressesSize).length := by
    by_contra short
    have absent : Bytes.be16At? frame VlanTag.addressesSize = none := by
      rw [Bytes.be16At?, Bytes.be16?, Bytes.first?_eq_none_iff.mpr (Nat.not_le.mp short),
        Option.map_none]
    cases absent.symm.trans typed
  rw [List.length_drop] at there
  obtain ⟨dst, src, rest, rfl⟩ :=
    exists_addresses (show VlanTag.addressesSize ≤ frame.length by omega)
  have addresses : (dst.octets ++ src.octets).length = VlanTag.addressesSize := rfl
  rw [List.length_append, addresses, Nat.add_sub_cancel_left] at there
  obtain ⟨hi, lo, carried, rfl⟩ := ExtensionHeader.exists_cons_cons there
  have word : Bytes.be16 type = [hi, lo] := by
    rw [← Bytes.be16_word]
    congr 1
    refine Option.some.inj (typed.symm.trans ?_)
    exact Bytes.be16At?_of_drop (by rw [Bytes.be16_word]; rfl)
  refine ⟨dst, src, carried, ?_⟩
  rw [untagged, EtherType.number_ofNumber, word, List.append_assoc _ _ carried]
  rfl

/-- What is read of a frame between its two addresses and its end, but for its tags. -/
def readCarried (dst src : Mac) (type : EtherType) (carried : Bytes) :
    Packet × Option LayerError :=
  { srcMac := some src, dstMac := some dst : Packet }.addCarried type carried

/-- **A frame with at most two tags is read as what it carries behind them**, and the number of its
VLAN is that of the outer one. -/
theorem decode_insertAll {tags : List VlanTag} (few : tags.length ≤ Vlan.limit) {last : UInt16}
    (ends : (EtherType.ofNumber last).isVlan = true → tags.length = Vlan.limit) (dst src : Mac)
    (carried : Bytes) (time : Duration) {frame : Bytes}
    (tagged : frame = insertAll tags (untagged dst src (.ofNumber last) carried)) :
    decode frame time =
      ({ (readCarried dst src (.ofNumber last) carried).1 with
          time
          vlan := tags.head?.map VlanTag.id
          length := frame.length
          raw := frame }, (readCarried dst src (.ofNumber last) carried).2) := by
  rw [VlanTag.insertAll_untagged] at tagged
  have front : ethernetHeader? frame =
      some (dst, src, .ofNumber (VlanTag.announced tags last)) := by
    rw [tagged]
    exact ethernetHeader?_untagged dst src (by rw [EtherType.number_ofNumber]) _
  have behind : frame.drop ethernetHeaderSize = VlanTag.chain tags last ++ carried := by
    rw [tagged]
    rfl
  have walked := Vlan.walk_chain tags few ends ethernetHeaderSize carried
  rw [decode, front]
  simp only [behind, walked]
  exact addCarried_relabel { srcMac := some src, dstMac := some dst } (.ofNumber last) carried time
    (tags.head?.map VlanTag.id) frame.length frame

/-- A frame that carries another tag is not read any further. -/
theorem readCarried_type (dst src : Mac) (tag : VlanTag) (carried : Bytes) :
    readCarried dst src tag.type carried =
      ({ srcMac := some src, dstMac := some dst, etherType := some tag.type }, none) := by
  unfold VlanTag.type
  split <;> rfl

/-- A type that announces no tag is neither of the two numbers of tags. -/
theorem not_isVlan_of_ne {type : UInt16} (plain : type ≠ 0x8100) (plainService : type ≠ 0x88a8) :
    ¬ (EtherType.ofNumber type).isVlan = true := by
  intro tagged
  have number := EtherType.number_ofNumber type
  cases named : EtherType.ofNumber type with
  | vlanTag => exact plain (by rw [← number, named]; rfl)
  | serviceTag => exact plainService (by rw [← number, named]; rfl)
  | _ =>
    rw [named] at tagged
    cases tagged

/-- **Tags show in nothing but the number of the outer one.**  A frame without tags is read alike,
with the same error, when one or two tags are put into it, whatever is wrong with it.  Of three tags
or more, the third is what the frame is read to carry, and nothing is read above it. -/
theorem decode_tags (time : Duration) :
    (∀ frame : Bytes, ethernetHeaderSize ≤ frame.length →
      Bytes.be16At? frame 12 ≠ some 0x8100 → Bytes.be16At? frame 12 ≠ some 0x88a8 →
      ∀ (outer : VlanTag) (inner : List VlanTag), inner.length ≤ 1 →
        decode (insertAll (outer :: inner) frame) time =
          ({ (decode frame time).1 with
              vlan := some (outer.control &&& 0xfff)
              length := (decode frame time).1.length + 4 * (outer :: inner).length
              raw := insertAll (outer :: inner) frame }, (decode frame time).2)) ∧
    ∀ (dst src : Mac) (outer middle third : VlanTag) (rest : Bytes),
      let frame := dst.octets ++ src.octets ++ outer.bytes ++ middle.bytes ++ third.bytes ++ rest
      decode frame time =
        ({ time
           srcMac := some src
           dstMac := some dst
           vlan := some (outer.control &&& 0xfff)
           etherType := some third.type
           length := frame.length
           raw := frame }, none) := by
  constructor
  · intro frame long plain plainService outer inner few
    obtain ⟨type, typed, -⟩ := Checked.wordAt_of_le (b := frame) (show 12 + 2 ≤ _ from long)
    rw [typed] at plain plainService
    have notVlan := not_isVlan_of_ne (fun is => plain (congrArg some is))
      (fun is => plainService (congrArg some is))
    obtain ⟨dst, src, carried, untagged⟩ := exists_untagged typed
    have ends (tags : List VlanTag) (isVlan : (EtherType.ofNumber type).isVlan = true) :
        tags.length = Vlan.limit := absurd isVlan notVlan
    have noTag : ([] : List VlanTag).length ≤ Vlan.limit := Nat.zero_le _
    have atMostTwo : (outer :: inner).length ≤ Vlan.limit := Nat.succ_le_succ few
    have bare := decode_insertAll noTag (ends []) dst src carried time
      (untagged.trans (VlanTag.insertAll_nil _).symm)
    have tagged := decode_insertAll atMostTwo (ends _) dst src carried time
      (congrArg (insertAll (outer :: inner)) untagged)
    rw [tagged, bare, VlanTag.length_insertAll]
    rfl
  · intro dst src outer middle third rest frame
    have tagged : frame = insertAll [outer, middle]
        (untagged dst src (.ofNumber third.type.number) (Bytes.be16 third.control ++ rest)) := by
      rw [untagged, EtherType.number_ofNumber,
        List.append_assoc _ _ (Bytes.be16 third.control ++ _), VlanTag.insertAll_addresses]
      simp only [frame, VlanTag.bytes, List.flatMap_cons, List.flatMap_nil, List.append_nil,
        List.append_assoc]
    rw [decode_insertAll le_rfl (fun _ => rfl) dst src _ time tagged, VlanTag.ofNumber_number_type,
      readCarried_type]
    rfl

/-- A packet that ends within its UDP header, behind a service tag and a tag. -/
theorem decode_tags_cut_udp :
    let frame : Bytes := [2, 0, 0, 0, 0, 1, 2, 0, 0, 0, 0, 2, 8, 0,
      0x45, 0, 0, 24, 0, 0, 0, 0, 64, 17, 0, 0, 10, 0, 0, 1, 10, 0, 0, 2, 0x14, 0xe9, 0, 53]
    let outer : VlanTag := { isService := true, control := 0x2064 }
    let inner : List VlanTag := [{ isService := false, control := 7 }]
    ethernetHeaderSize ≤ frame.length ∧ Bytes.be16At? frame 12 ≠ some 0x8100 ∧
      Bytes.be16At? frame 12 ≠ some 0x88a8 ∧ inner.length ≤ 1 ∧
      (decode (insertAll (outer :: inner) frame) .zero).2 = some (.udpTruncated 4) ∧
      (decode (insertAll (outer :: inner) frame) .zero).1.vlan = some 100 ∧
      (decode (insertAll (outer :: inner) frame) .zero).1.length = 46 := by
  intro frame outer inner
  have long : ethernetHeaderSize ≤ frame.length := by decide
  have plain : Bytes.be16At? frame 12 ≠ some 0x8100 := by decide
  have plainService : Bytes.be16At? frame 12 ≠ some 0x88a8 := by decide
  have few : inner.length ≤ 1 := by decide
  have transparent := (decode_tags .zero).1 frame long plain plainService outer inner few
  have error : (decode frame .zero).2 = some (.udpTruncated 4) := by decide
  refine ⟨long, plain, plainService, few, ?_, ?_, ?_⟩ <;> rw [transparent]
  · exact error
  · decide
  · rw [length_decode]
    rfl

end Packet

end Wiretap
