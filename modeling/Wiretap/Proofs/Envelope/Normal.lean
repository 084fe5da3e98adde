import Wiretap.Proofs.Envelope.RoundTrip

/-!
# Envelopes that were read are written anew

An envelope that was decoded from a datagram is encoded to the same datagram, but for two things
that a decoded envelope does not tell: its pads are gone, and its tags are ended.

## Main definitions

* `Element.isPad` - the elements that leave no trace.

## Main statements

* `Element.flatMap_encode_tags` - the tags among elements are written as the elements without pads.
* `Envelope.encode_ofElements` - the datagram of an envelope that is told by its elements.
* `Envelope.encode_of_decode` - what encoding changes of a datagram that was decoded.

## Design notes

An element that is a tag is written as it stood there, because its data are as long as its length
byte says.  So everything else in a datagram is kept byte for byte: a zero within the data of a tag
or in the payload is no pad.
-/

namespace Wiretap

namespace Element

/-! ### Elements written anew -/

/-- Whether an element is a pad. -/
def isPad : Element → Bool
  | pad => true
  | tag .. => false

/-- Elements without pads. -/
def withoutPads (es : List Element) : List Element := es.filter fun x => !x.isPad

/-- Pads are no tags. -/
theorem tags_withoutPads (es : List Element) : tags (withoutPads es) = tags es := by
  induction es with
  | nil => rfl
  | cons x es ih =>
    cases x with
    | pad =>
      rw [withoutPads, List.filter_cons_of_neg (by simp [isPad]), ← withoutPads, ih, tags_cons]
      rfl
    | tag number data ordinary fits =>
      rw [withoutPads, List.filter_cons_of_pos (by simp [isPad]), ← withoutPads, tags_cons,
        tags_cons, ih]

/-- A tag that was read is written as it stood there. -/
theorem encode_tag {number : UInt8} {data : Bytes} (ordinary : number ≠ 0 ∧ number ≠ 1)
    (fits : data.length < 256) :
    Tag.encode ⟨.ofNumber number, data⟩ = encode (.tag number data ordinary fits) := by
  have own : (TagKind.ofNumber number).number = number := TagKind.number_ofNumber number
  have whole : data.take 255 = data := List.take_of_length_le (by omega)
  rw [Tag.encode_of_ordinary (by simpa only [own] using ordinary)]
  simp only [Tag.size, Tag.carried, own, whole, encode]

/-- The tags among elements are written as the elements without pads. -/
theorem flatMap_encode_tags (es : List Element) :
    (tags es).flatMap Tag.encode = bytes (withoutPads es) := by
  induction es with
  | nil => rfl
  | cons x es ih =>
    rw [tags_cons, List.flatMap_append, ih]
    cases x with
    | pad =>
      rw [withoutPads, withoutPads, List.filter_cons_of_neg (by simp [isPad])]
      rfl
    | tag number data ordinary fits =>
      rw [withoutPads, withoutPads, List.filter_cons_of_pos (by simp [isPad]), bytes_cons]
      simp only [tag?, Option.toList_some, List.flatMap_singleton]
      rw [encode_tag ordinary fits]

end Element

namespace Envelope

/-! ### Envelopes written anew -/

/-- The datagram of an envelope that is told by its elements has no pads, and its tags are ended. -/
theorem encode_ofElements (purpose hi lo : UInt8) (es : List Element) (payload : Bytes) :
    (ofElements purpose hi lo es payload).encode =
      datagram purpose hi lo (Element.withoutPads es) (1 :: payload) := by
  rw [encode, ofElements]
  simp only [Purpose.number_ofNumber, Encapsulation.number_ofNumber, Bytes.be16_ofBigEndian,
    Element.flatMap_encode_tags]
  simp [datagram, TagKind.number]

/-- An envelope that was decoded is decoded from its own datagram. -/
theorem decode_encode_ofElements (purpose hi lo : UInt8) (es : List Element) (payload : Bytes) :
    decode (ofElements purpose hi lo es payload).encode =
      .ok (ofElements purpose hi lo es payload) := by
  rw [encode_ofElements, decode_datagram_of_carries (.inr rfl), ofElements,
    Element.tags_withoutPads, ofElements]

/-- The elements and the tail of a datagram are those of its longest split. -/
theorem eq_of_isLongestSplit {purpose hi lo : UInt8} {es fs : List Element} {tail rest : Bytes}
    (isTail : IsTail tail)
    (split : IsLongestSplit ((datagram purpose hi lo es tail).drop headerSize) fs rest) :
    fs = es ∧ rest = tail := by
  have own : IsLongestSplit ((datagram purpose hi lo es tail).drop headerSize) es tail :=
    isLongestSplit_iff.mpr ⟨rfl, isTail⟩
  have same : ((fs, rest) : List Element × Bytes) = (es, tail) :=
    (existsUnique_isLongestSplit _).unique split own
  exact ⟨congrArg Prod.fst same, congrArg Prod.snd same⟩

/-- **Encoding what was decoded changes pads and the end of the tags only.**  A datagram that is
decoded is its header, its elements and a tail, in one way.  The datagram of the envelope has the
same header and the elements without the pads.  If the tags were ended, the same tail follows;
if they were not, there was no tail, and the end of the tags is added.  That datagram is decoded to
the same envelope, so encoding this once more changes nothing. -/
theorem encode_of_decode {b : Bytes} {e : Envelope} (decoded : decode b = .ok e) :
    (∃! split : List Element × Bytes, IsLongestSplit (b.drop 4) split.1 split.2) ∧
      (∀ es tail, IsLongestSplit (b.drop 4) es tail →
        b = b.take 4 ++ Element.bytes es ++ tail ∧
          (tail = [] ∧ e.payload = [] ∧
              e.encode = b.take 4 ++ Element.bytes (Element.withoutPads es) ++ [1] ∨
            tail = 1 :: e.payload ∧
              e.encode = b.take 4 ++ Element.bytes (Element.withoutPads es) ++ tail)) ∧
      decode e.encode = .ok e ∧ (decode e.encode).map encode = .ok e.encode := by
  obtain ⟨purpose, hi, lo, es, tail, rfl, carries, same⟩ := decode_eq_ok_iff.mp decoded
  have again : decode e.encode = .ok e := by
    rw [same]
    exact decode_encode_ofElements ..
  refine ⟨existsUnique_isLongestSplit _, fun fs rest split => ?_, again, ?_⟩
  · obtain ⟨rfl, rfl⟩ := eq_of_isLongestSplit carries.isTail split
    have written : e.encode = datagram purpose hi lo (Element.withoutPads fs) (1 :: e.payload) := by
      rw [← encode_ofElements, ← same]
    refine ⟨rfl, ?_⟩
    rcases carries with ⟨rfl, nothing⟩ | rfl
    · exact .inl ⟨rfl, nothing, by rw [written, nothing]; rfl⟩
    · exact .inr ⟨rfl, written⟩
  · rw [again]
    rfl

/-- The pads before and behind a tag go, but no zero within its data or in the payload.  Where the
tags were not ended, they are. -/
theorem encode_of_decode_padded :
    let e : Envelope := ⟨1, .receivedTagged, .ethernet, [⟨.unknown 99, [0, 1]⟩], [0, 1]⟩
    let open_ : Envelope := { e with payload := [] }
    decode [1, 0, 0, 1, 0, 99, 2, 0, 1, 0, 1, 0, 1] = .ok e ∧
      e.encode = [1, 0, 0, 1, 99, 2, 0, 1, 1, 0, 1] ∧ decode e.encode = .ok e ∧
      decode [1, 0, 0, 1, 0, 99, 2, 0, 1, 0] = .ok open_ ∧
      open_.encode = [1, 0, 0, 1, 99, 2, 0, 1, 1] := by
  intro e open_
  let es : List Element := [.pad, .tag 99 [0, 1] (by decide) (by decide), .pad]
  have ended : decode [1, 0, 0, 1, 0, 99, 2, 0, 1, 0, 1, 0, 1] = .ok e :=
    decode_datagram_of_carries (.inr rfl) 0 0 1 es
  have notEnded : decode [1, 0, 0, 1, 0, 99, 2, 0, 1, 0] = .ok open_ :=
    decode_datagram_of_carries (.inl ⟨rfl, rfl⟩) 0 0 1 es
  obtain ⟨-, written, again, -⟩ := encode_of_decode ended
  obtain ⟨-, ⟨none_, -⟩ | ⟨-, same⟩⟩ := written es _ (isLongestSplit_iff.mpr ⟨rfl, .ended [0, 1]⟩)
  · cases none_
  obtain ⟨-, written, -⟩ := encode_of_decode notEnded
  obtain ⟨-, ⟨-, -, added⟩ | ⟨some_, -⟩⟩ := written es [] (isLongestSplit_iff.mpr ⟨rfl, .nothing⟩)
  · exact ⟨ended, same, again, notEnded, added⟩
  · cases some_

end Envelope

end Wiretap
