import Wiretap.Proofs.Bytes
import Wiretap.Proofs.Envelope.Grammar

/-!
# Envelopes that were written are read back

Decoding a datagram gives back the envelope that it was made from, as far as a datagram can say it:
kinds are read back from their numbers, and the data of a tag ends after 255 bytes.  Where a number
already has the kind that is read back from it, every question that can be asked of an envelope has
the answer that it had.

## Main definitions

* `Envelope.readBack` - an envelope as far as a datagram can say it.
* `Envelope.IsCanonical` - all kinds are those that are read back from their numbers.

## Main statements

* `Envelope.decodeTags_encode` - written tags are read back, whatever their data and the payload.
* `Envelope.timestamp?_readBack`, `Envelope.rssi?_readBack`, `Envelope.sensor?_readBack` - the
  questions look at no more of a tag than was written.
* `Envelope.decode_encode` - a written envelope is read back.

## Design notes

Written tags are complete elements, so `decodeTags_bytes_append` leads the reader from the first of
them to the end of the tags, and no byte of their data is ever taken for the beginning of a tag.
-/

namespace Wiretap

/-! ### What is read back -/

/-- A tag as far as a datagram can say it. -/
def Tag.readBack (t : Tag) : Tag where
  kind := .ofNumber t.kind.number
  data := t.data.take 255

namespace Envelope

/-- An envelope as far as a datagram can say it. -/
def readBack (e : Envelope) : Envelope where
  version := e.version
  purpose := .ofNumber e.purpose.number
  encapsulation := .ofNumber e.encapsulation.number
  tags := e.tags.map Tag.readBack
  payload := e.payload

/-- All kinds of an envelope are those that are read back from their numbers. -/
structure IsCanonical (e : Envelope) : Prop where
  purpose : Purpose.ofNumber e.purpose.number = e.purpose
  encapsulation : Encapsulation.ofNumber e.encapsulation.number = e.encapsulation
  tags : ∀ t ∈ e.tags, TagKind.ofNumber t.kind.number = t.kind

end Envelope

/-! ### Written tags are elements -/

theorem Tag.length_carried (t : Tag) : t.carried.length < 256 := by
  rw [carried, List.length_take]
  omega

/-- A tag that is neither a pad nor the end is written as its number, its length and its data. -/
theorem Tag.encode_of_ordinary {t : Tag} (ordinary : t.kind.number ≠ 0 ∧ t.kind.number ≠ 1) :
    t.encode = t.kind.number :: t.size :: t.carried := by
  have notBare : t.kind.isBare = false := by
    cases kind : t.kind with
    | pad => exact absurd (kind ▸ rfl) ordinary.1
    | last => exact absurd (kind ▸ rfl) ordinary.2
    | _ => rfl
  rw [encode, notBare]
  rfl

/-- Tags that are neither pads nor the end are written as complete elements, which are the tags that
are read back. -/
theorem Element.exists_of_tags {tags : List Tag}
    (ordinary : ∀ t ∈ tags, t.kind.number ≠ 0 ∧ t.kind.number ≠ 1) :
    ∃ es, bytes es = tags.flatMap Tag.encode ∧ Element.tags es = tags.map Tag.readBack := by
  induction tags with
  | nil => exact ⟨[], rfl, rfl⟩
  | cons t tags ih =>
    obtain ⟨es, written, read⟩ := ih fun t member => ordinary t (List.mem_cons_of_mem _ member)
    have own := ordinary t List.mem_cons_self
    refine ⟨.tag t.kind.number t.carried own t.length_carried :: es, ?_, ?_⟩
    · rw [bytes_cons, written, List.flatMap_cons, Tag.encode_of_ordinary own]
      rfl
    · rw [tags_cons, read]
      rfl

namespace Envelope

/-- Written tags are read back up to their end, whatever their data and the payload. -/
theorem decodeTags_encode (offset : Nat) {tags : List Tag}
    (ordinary : ∀ t ∈ tags, t.kind.number ≠ 0 ∧ t.kind.number ≠ 1) (payload : Bytes) :
    decodeTags offset (tags.flatMap Tag.encode ++ TagKind.last.number :: payload) =
      .ok (tags.map Tag.readBack, payload) := by
  obtain ⟨es, written, read⟩ := Element.exists_of_tags ordinary
  rw [← written, decodeTags_bytes_append, show TagKind.last.number = 1 from rfl, decodeTags_ended,
    read]
  simp [Except.map]

/-- The number of a link layer is read back. -/
theorem ofBigEndian_be16 (word : UInt16) :
    UInt16.ofNat (Bytes.ofBigEndian (Bytes.be16 word)) = word := by
  have small : word.toNat % 256 ^ 2 = word.toNat := Nat.mod_eq_of_lt word.toNat_lt
  rw [Bytes.be16, Bytes.ofBigEndian_bigEndian, small, UInt16.ofNat_toNat]

/-- Decoding gives what can be read back. -/
theorem decode_encode_of_ordinary {e : Envelope} (version : e.version = supportedVersion)
    (ordinary : ∀ t ∈ e.tags, t.kind.number ≠ 0 ∧ t.kind.number ≠ 1) :
    decode e.encode = .ok e.readBack := by
  obtain ⟨hi, lo, word⟩ : ∃ hi lo, Bytes.be16 e.encapsulation.number = [hi, lo] :=
    ⟨_, _, rfl⟩
  have number := ofBigEndian_be16 e.encapsulation.number
  rw [word] at number
  have datagram : e.encode = supportedVersion :: e.purpose.number :: hi :: lo ::
      (e.tags.flatMap Tag.encode ++ TagKind.last.number :: e.payload) := by
    rw [encode, word, version]
    simp
  rw [datagram, decode_of_supported, decodeTags_encode headerSize ordinary, number]
  simp [Except.map, readBack, version]

/-! ### Questions -/

/-- The first tag of a kind is read back as the first tag of that kind. -/
theorem tag?_readBack {e : Envelope} (canonical : e.IsCanonical) (kind : TagKind) :
    e.readBack.tag? kind = (e.tag? kind).map Tag.readBack := by
  have own := canonical.tags
  rw [tag?, tag?, readBack]
  simp only
  generalize e.tags = tags at own
  induction tags with
  | nil => rfl
  | cons t tags ih =>
    have same : t.readBack.kind = t.kind := own t List.mem_cons_self
    rw [List.map_cons, List.find?_cons, List.find?_cons, same]
    split
    · rfl
    · exact ih fun t member => own t (List.mem_cons_of_mem _ member)

/-- A word lies in what was written of a tag. -/
theorem be32?_take (data : Bytes) : Bytes.be32? (data.take 255) = Bytes.be32? data := by
  have front : Bytes.first? 4 ((data.take 255).drop 0) = Bytes.first? 4 (data.drop 0) :=
    Bytes.first?_drop_take (by decide) data
  rw [List.drop_zero, List.drop_zero] at front
  rw [Bytes.be32?, Bytes.be32?, front]

/-- What was written of a tag has six bytes only if the tag has. -/
theorem ofBytes?_take (data : Bytes) : Mac.ofBytes? (data.take 255) = Mac.ofBytes? data := by
  apply Option.ext
  intro mac
  rw [Mac.ofBytes?_eq_some_iff, Mac.ofBytes?_eq_some_iff]
  constructor
  · intro six
    have length := congrArg List.length six
    have count : mac.octets.length = 6 := rfl
    rw [List.length_take, count] at length
    rw [← six, List.take_of_length_le (by omega)]
  · rintro rfl
    rfl

theorem timestamp?_readBack {e : Envelope} (canonical : e.IsCanonical) :
    e.readBack.timestamp? = e.timestamp? := by
  rw [timestamp?, timestamp?, tag?_readBack canonical]
  cases e.tag? .timestamp with
  | none => rfl
  | some t => exact congrArg (Option.map _) (be32?_take t.data)

theorem rssi?_readBack {e : Envelope} (canonical : e.IsCanonical) :
    e.readBack.rssi? = e.rssi? := by
  rw [rssi?, rssi?, tag?_readBack canonical]
  cases e.tag? .rawRssi with
  | none => rfl
  | some t =>
    have first : t.readBack.data.head? = t.data.head? := by
      rw [Tag.readBack, List.head?_take, if_neg (by decide)]
    exact congrArg (Option.map _) first

theorem sensor?_readBack {e : Envelope} (canonical : e.IsCanonical) :
    e.readBack.sensor? = e.sensor? := by
  rw [sensor?, sensor?, tag?_readBack canonical]
  cases e.tag? .sensor with
  | none => rfl
  | some t => exact ofBytes?_take t.data

/-- **A written envelope is read back.**  Whatever the tags of an envelope hold and whatever its
payload is, if no tag has the number of a pad or of the end, its datagram is decoded to an envelope
with the same version and payload, with the kinds that its numbers stand for, and with the same tags
up to their first 255 bytes.  If those kinds are the ones it had, the answers to all questions are
the ones it gave, whatever was cut off and whichever tags occur twice. -/
theorem decode_encode {e : Envelope} (version : e.version = 1)
    (ordinary : ∀ t ∈ e.tags, t.kind.number ≠ 0 ∧ t.kind.number ≠ 1) :
    ∃ read, decode e.encode = .ok read ∧
      read.version = e.version ∧
      read.purpose = .ofNumber e.purpose.number ∧
      read.encapsulation = .ofNumber e.encapsulation.number ∧
      read.tags = e.tags.map (fun t => ⟨.ofNumber t.kind.number, t.data.take 255⟩) ∧
      read.payload = e.payload ∧
      (e.IsCanonical → read.timestamp? = e.timestamp? ∧ read.rssi? = e.rssi? ∧
        read.sensor? = e.sensor?) := by
  refine ⟨e.readBack, decode_encode_of_ordinary version ordinary, rfl, rfl, rfl, rfl, rfl, ?_⟩
  intro canonical
  exact ⟨timestamp?_readBack canonical, rssi?_readBack canonical, sensor?_readBack canonical⟩

/-- Two tags of one kind, the first one longer than a length byte can say. -/
theorem decode_encode_long_tag :
    let long : Bytes := 0 :: 0 :: 0 :: 9 :: List.replicate 300 1
    let e : Envelope := {
      version := 1
      purpose := .receivedTagged
      encapsulation := .ethernet
      tags := [⟨.timestamp, long⟩, ⟨.timestamp, [0, 0, 0, 0]⟩]
      payload := [1, 0, 13] }
    ∃ read, decode e.encode = .ok read ∧ read.payload = [1, 0, 13] ∧
      read.tags = [⟨.timestamp, long.take 255⟩, ⟨.timestamp, [0, 0, 0, 0]⟩] ∧
      read.timestamp? = some (.ofSecs 9) := by
  intro long e
  have kinds : ∀ t ∈ e.tags, t.kind = .timestamp :=
    List.forall_mem_cons.mpr ⟨rfl, List.forall_mem_singleton.mpr rfl⟩
  have canonical : e.IsCanonical := ⟨rfl, rfl, fun t member => by rw [kinds t member]; rfl⟩
  have stamp : e.timestamp? = some (.ofSecs 9) := by
    have found : e.tag? .timestamp = some ⟨.timestamp, long⟩ := List.find?_cons_of_pos rfl
    have room : 4 ≤ long.length := Nat.le_add_left 4 (List.replicate 300 (1 : UInt8)).length
    rw [timestamp?, found, Option.bind_some, Bytes.be32?, Bytes.first?_of_le room]
    rfl
  obtain ⟨read, decoded, -, -, -, tags, payload, answers⟩ :=
    decode_encode (e := e) rfl fun t member => by rw [kinds t member]; decide
  refine ⟨read, decoded, payload, ?_, (answers canonical).1.trans stamp⟩
  rw [tags]
  rfl

end Envelope

end Wiretap
