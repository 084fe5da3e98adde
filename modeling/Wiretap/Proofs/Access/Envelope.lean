import Wiretap.Envelope.Codec
import Wiretap.Proofs.Access.Basic

/-!
# Envelopes are read within their bounds

A datagram is taken apart along lengths that it names itself.  None of them leads outside of it.

## Main definitions

* `Checked.tags`, `Checked.envelope` - the tags and the envelope of a datagram.
* `Checked.timestamp` - the time that an envelope names.

## Main statements

* `Checked.tags_eq`, `Checked.envelope_eq`, `Checked.timestamp_eq` - they read what the library reads
  and nothing out of range.

## Design notes

The strength of the signal and the address of the sniffer are the first byte of a tag, if it has
one, and the bytes of a tag, if they are exactly six.  No access that these take can fail, so
`Envelope.rssi?` and `Envelope.sensor?` need no counterpart here.
-/

namespace Wiretap.Checked

/-- The tags and the payload of a datagram from `offset` on, behind the tags read before. -/
def tags (data : Bytes) (offset : Nat) (before : List Tag) :
    Checked (Except EnvelopeError (List Tag × Bytes)) :=
  if offset < data.length then do
    let number ← byteAt data offset
    match TagKind.ofNumber number with
    | .last =>
      let payload ← tail data (offset + 1)
      return .ok (before, payload)
    | .pad => tags data (offset + 1) before
    | kind =>
      if data.length ≤ offset + 1 then
        let start ← difference (offset + 1) 1
        return .error (.truncatedTag start)
      else
        let size ← byteAt data (offset + 1)
        if data.length < offset + 2 + size.toNat then
          let start ← difference (offset + 2) 2
          let remaining ← difference data.length (offset + 2)
          return .error (.tagOverflow start kind.number size remaining)
        else
          let content ← slice data (offset + 2) (offset + 2 + size.toNat)
          tags data (offset + 2 + size.toNat) (before ++ [⟨kind, content⟩])
  else return .ok (before, [])
termination_by data.length - offset

/-- The envelope that a datagram holds. -/
def envelope (data : Bytes) : Checked (Except EnvelopeError Envelope) := do
  if data.length < Envelope.headerSize then return .error (.tooShort data.length)
  else
    let version ← byteAt data 0
    if version ≠ Envelope.supportedVersion then return .error (.unsupportedVersion version)
    else
      let purpose ← byteAt data 1
      let encapsulation ← wordAt data 2
      match ← tags data Envelope.headerSize [] with
      | .error e => return .error e
      | .ok (tags, payload) =>
        return .ok {
          version
          purpose := .ofNumber purpose
          encapsulation := .ofNumber encapsulation
          tags
          payload }

/-- The time at which the sniffer saw the frame. -/
def timestamp (e : Envelope) : Checked (Option Duration) :=
  match e.tag? .timestamp with
  | none => return none
  | some t =>
    if t.data.length < 4 then return none
    else do
      let secs ← longWord t.data
      return some (.ofSecs secs.toNat)

/-- From any place on, the tags are those that are read from the bytes behind the place. -/
theorem tags_eq (data : Bytes) (offset : Nat) (before : List Tag) :
    tags data offset before =
      .ok ((Envelope.decodeTags offset (data.drop offset)).map fun read =>
        (before ++ read.1, read.2)) := by
  -- The place moves on by as many bytes as the library's reader drops.
  induction offset, before using tags.induct data with
  | case2 offset before outside =>
    rw [tags, if_neg outside, List.drop_eq_nil_of_le (by omega), Envelope.decodeTags]
    simp [Except.map]
  | case1 offset before inside afterPad afterTag =>
    obtain ⟨number, place, checked⟩ := byteAt_of_lt inside
    rw [tags, if_pos inside, checked, ok_bind, drop_of_getElem? place, Envelope.decodeTags]
    cases kind : TagKind.ofNumber number with
    | last =>
      simp only [tail_of_le (show offset + 1 ≤ data.length by omega), ok_bind, pure_eq_ok]
      simp [Except.map]
    | pad => exact afterPad
    | _ =>
      simp only
      by_cases ends : data.length ≤ offset + 1
      · rw [if_pos ends, difference_of_le (by omega), List.drop_eq_nil_of_le ends]
        simp [Except.map]
      · obtain ⟨size, sizePlace, sizeChecked⟩ :=
          byteAt_of_lt (show offset + 1 < data.length by omega)
        have left : (data.drop (offset + 2)).length = data.length - (offset + 2) :=
          List.length_drop
        rw [if_neg ends, sizeChecked, ok_bind, drop_of_getElem? sizePlace,
          show offset + 1 + 1 = offset + 2 from rfl]
        simp only
        by_cases overflow : data.length < offset + 2 + size.toNat
        · have own := TagKind.number_ofNumber number
          rw [kind] at own
          rw [if_pos overflow, if_pos (by omega), difference_of_le (by omega),
            difference_of_le (by omega), left, own]
          simp [Except.map]
        · have content : offset + 2 + size.toNat - (offset + 2) = size.toNat := by omega
          rw [if_neg overflow, if_neg (by omega), slice_of_le (by omega) (by omega), ok_bind,
            afterTag _ ends size overflow, content, List.drop_drop]
          cases Envelope.decodeTags (offset + 2 + size.toNat)
            (data.drop (offset + 2 + size.toNat)) with
          | ok read => simp [Except.map]
          | error e => rfl

/-- Reading the envelope of a datagram stays within the datagram. -/
theorem envelope_eq (data : Bytes) : envelope data = .ok (Envelope.decode data) := by
  match data with
  | [] => rfl
  | [_] => rfl
  | [_, _] => rfl
  | [_, _, _] => rfl
  | version :: purpose :: hi :: lo :: rest =>
    rw [envelope, Envelope.decode, if_neg (by simp [Envelope.headerSize]),
      show byteAt (version :: purpose :: hi :: lo :: rest) 0 = .ok version from rfl, ok_bind]
    by_cases unsupported : version ≠ Envelope.supportedVersion
    · rw [if_pos unsupported, if_pos unsupported]
      rfl
    · have encapsulation : wordAt (version :: purpose :: hi :: lo :: rest) 2 =
          .ok (UInt16.ofNat (256 * hi.toNat + lo.toNat)) := wordAt_of_drop rfl
      rw [if_neg unsupported, if_neg unsupported,
        show byteAt (version :: purpose :: hi :: lo :: rest) 1 = .ok purpose from rfl, ok_bind,
        encapsulation, ok_bind, tags_eq, ok_bind,
        show (version :: purpose :: hi :: lo :: rest).drop Envelope.headerSize = rest from rfl]
      cases Envelope.decodeTags Envelope.headerSize rest with
      | ok read => rfl
      | error e => rfl

/-- Reading the time that an envelope names stays within the tag that names it. -/
theorem timestamp_eq (e : Envelope) : timestamp e = .ok e.timestamp? := by
  unfold timestamp Envelope.timestamp?
  cases e.tag? .timestamp with
  | none => rfl
  | some t =>
    by_cases short : t.data.length < 4
    · have absent : Bytes.first? 4 t.data = none := Bytes.first?_eq_none_iff.mpr short
      simp [short, Bytes.be32?, absent]
    · obtain ⟨secs, read, checked⟩ := longWord_of_le (show 4 ≤ t.data.length by omega)
      simp [short, checked, read]

end Wiretap.Checked
