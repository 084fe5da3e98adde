import Wiretap.Proofs.Envelope.Normal

/-!
# Datagrams that were cut

A receiver with a small buffer gets the front of a datagram.  Of a frame it never sees anything but
the front, and it sees nothing of one whose envelope was cut within its tags.

## Main definitions

* `Envelope.EndsAt` - the offset at which the tags of a datagram end.

## Main statements

* `Envelope.exists_cut` - the elements of a front are the first of those of the datagram.
* `Envelope.take_datagram` - a front that reaches beyond the end of the tags.
* `Envelope.decode_prefix` - what is decoded of the front of a datagram.

## Design notes

A front may end within an element, and what is left of that could be taken for something else.  But
complete elements can be cut off in one way only, so the elements of a front are elements of the
whole, and if its tags are ended, they are ended where those of the whole are.
-/

namespace Wiretap

namespace Envelope

variable {purpose hi lo : UInt8} {es : List Element} {b p tail payload : Bytes} {k n : Nat}

/-- The tags of a datagram end at an offset: complete elements lead from the header to it, and there
stands the end of the tags. -/
def EndsAt (b : Bytes) (k : Nat) : Prop :=
  ∃ es payload, IsLongestSplit (b.drop 4) es (1 :: payload) ∧ k = 4 + (Element.bytes es).length

/-! ### Fronts of datagrams -/

/-- What begins with a header, if it is no shorter, has the same header. -/
theorem exists_rest (cut : p <+: datagram purpose hi lo es tail) (long : headerSize ≤ p.length) :
    ∃ rest, p = supportedVersion :: purpose :: hi :: lo :: rest ∧
      rest <+: Element.bytes es ++ tail := by
  match p with
  | [] | [_] | [_, _] | [_, _, _] => simp [headerSize] at long
  | _ :: _ :: _ :: _ :: rest =>
    simp only [datagram, List.cons_prefix_cons] at cut
    obtain ⟨rfl, rfl, rfl, rfl, cut⟩ := cut
    exact ⟨rest, rfl, cut⟩

/-- **The elements of a front are the first of those of the datagram.**  If the tags of the front
are ended, they are all of them, and what is left is a front of what is left there. -/
theorem exists_cut (cut : p <+: datagram purpose hi lo es tail) (isTail : IsTail tail)
    (long : headerSize ≤ p.length) :
    ∃ fs rest, p = datagram purpose hi lo fs rest ∧ IsTail rest ∧ fs <+: es ∧
      ∀ part, rest = 1 :: part → fs = es ∧ rest <+: tail := by
  obtain ⟨q, rfl, more, whole⟩ := exists_rest cut long
  obtain ⟨fs, rest, split, isRest⟩ := Element.exists_split q
  rw [← split, List.append_assoc] at whole
  have first : fs <+: es := Element.isPrefix_of_bytes_append whole isTail
  refine ⟨fs, rest, by rw [datagram, split], isRest, first, ?_⟩
  rintro part rfl
  -- The end of the tags stays the end of the tags, whatever follows it.
  have all : es <+: fs := Element.isPrefix_of_bytes_append whole.symm (.ended (part ++ more))
  have same : fs = es := first.eq_of_length_le all.length_le
  subst same
  exact ⟨rfl, more, List.append_cancel_left whole⟩

theorem length_datagram : (datagram purpose hi lo es tail).length =
    4 + (Element.bytes es).length + tail.length := by
  simp only [datagram, List.length_cons, List.length_append]
  omega

/-- A front that reaches beyond the end of the tags is the datagram with a front of the payload. -/
theorem take_datagram (beyond : 4 + (Element.bytes es).length < n) :
    (datagram purpose hi lo es (1 :: payload)).take n =
      datagram purpose hi lo es (1 :: payload.take (n - (4 + (Element.bytes es).length + 1))) := by
  have split (payload : Bytes) : datagram purpose hi lo es (1 :: payload) =
      datagram purpose hi lo es [1] ++ payload := by simp [datagram]
  have front : (datagram purpose hi lo es [1]).length = 4 + (Element.bytes es).length + 1 :=
    length_datagram
  rw [split, List.take_append, front, List.take_of_length_le (by omega), ← split]

/-! ### What is decoded of them -/

/-- A datagram whose tags end at an offset is decoded by the elements before it. -/
theorem exists_of_endsAt {whole : Envelope} (decoded : decode b = .ok whole) (ends : EndsAt b k) :
    ∃ purpose hi lo es, b = datagram purpose hi lo es (1 :: whole.payload) ∧
      whole = ofElements purpose hi lo es whole.payload ∧ k = 4 + (Element.bytes es).length := by
  obtain ⟨purpose, hi, lo, es, tail, rfl, carries, same⟩ := decode_eq_ok_iff.mp decoded
  obtain ⟨fs, part, split, rfl⟩ := ends
  obtain ⟨rfl, here⟩ := eq_of_isLongestSplit carries.isTail split
  rcases carries with ⟨rfl, -⟩ | rfl
  · cases here
  · exact ⟨purpose, hi, lo, fs, rfl, same, rfl⟩

/-- A front of a datagram that has a payload has it in front of that of the datagram. -/
theorem decode_of_payload {e : Envelope} (cut : p <+: b) (decoded : decode p = .ok e)
    (some_ : e.payload ≠ []) :
    ∃ whole, decode b = .ok whole ∧ whole = { e with payload := whole.payload } ∧
      e.payload <+: whole.payload := by
  obtain ⟨purpose, hi, lo, es, tail, rfl, carries, same⟩ := decode_eq_ok_iff.mp decoded
  obtain ⟨more, rfl⟩ := cut
  rcases carries with ⟨-, nothing⟩ | rfl
  · exact absurd nothing some_
  · have longer : datagram purpose hi lo es (1 :: e.payload) ++ more =
        datagram purpose hi lo es (1 :: (e.payload ++ more)) := by simp [datagram]
    refine ⟨ofElements purpose hi lo es (e.payload ++ more), ?_, ?_, List.prefix_append ..⟩
    · rw [longer, decode_datagram_of_carries (.inr rfl)]
    · rw [same]
      rfl

/-- A front that does not reach beyond the end of the tags has no payload, and no other tags. -/
theorem decode_of_le (cut : p <+: datagram purpose hi lo es (1 :: payload))
    (within : p.length ≤ 4 + (Element.bytes es).length) :
    (∃ fault, decode p = .error fault) ∨
      ∃ e, decode p = .ok e ∧ e.payload = [] ∧ e.tags <+: Element.tags es := by
  by_cases long : headerSize ≤ p.length
  · obtain ⟨fs, rest, rfl, isRest, first, ended⟩ := exists_cut cut (.ended payload) long
    rcases carries_or_error isRest purpose hi lo fs with ⟨part, carries⟩ | refused
    · refine .inr ⟨_, decode_datagram_of_carries carries purpose hi lo fs, ?_, first.filterMap _⟩
      rcases carries with ⟨-, nothing⟩ | rfl
      · exact nothing
      · -- All elements and the end of the tags are more than there is.
        obtain ⟨rfl, -⟩ := ended part rfl
        rw [length_datagram, List.length_cons] at within
        omega
    · exact .inl refused
  · exact .inl (exists_error fun good => long good.1)

/-- A front that reaches beyond the end of the tags has a front of the payload. -/
theorem decode_of_lt (cut : p <+: datagram purpose hi lo es (1 :: payload))
    (beyond : 4 + (Element.bytes es).length < p.length) :
    decode p = .ok (ofElements purpose hi lo es
      (payload.take (p.length - (4 + (Element.bytes es).length + 1)))) := by
  have front : p = datagram purpose hi lo es
      (1 :: payload.take (p.length - (4 + (Element.bytes es).length + 1))) := by
    rw [← take_datagram beyond]
    exact List.prefix_iff_eq_take.mp cut
  exact (congrArg decode front).trans (decode_datagram_of_carries (.inr rfl) ..)

/-- **What is decoded of the front of a datagram.**  If there is a payload, the whole datagram has
the same header and the same tags, and its payload begins with this one.  If the tags of the whole
datagram end at some offset, a front up to there is refused or has no payload and the first of the
tags, and a longer front is decoded to the envelope with a front of its payload. -/
theorem decode_prefix {b p : Bytes} (cut : p <+: b) :
    (∀ e, decode p = .ok e → e.payload ≠ [] →
        ∃ whole, decode b = .ok whole ∧ whole.version = e.version ∧ whole.purpose = e.purpose ∧
          whole.encapsulation = e.encapsulation ∧ whole.tags = e.tags ∧
          e.payload <+: whole.payload) ∧
      ∀ whole k, decode b = .ok whole → EndsAt b k →
        b.drop k = 1 :: whole.payload ∧
          (p.length ≤ k → (∃ fault, decode p = .error fault) ∨
            ∃ e, decode p = .ok e ∧ e.payload = [] ∧ e.tags <+: whole.tags) ∧
          (k < p.length → decode p =
            .ok { whole with payload := whole.payload.take (p.length - (k + 1)) }) := by
  constructor
  · intro e decoded some_
    obtain ⟨whole, read, same, longer⟩ := decode_of_payload cut decoded some_
    refine ⟨whole, read, ?_, ?_, ?_, ?_, longer⟩ <;> rw [same]
  · intro whole k decoded ends
    obtain ⟨purpose, hi, lo, es, rfl, same, rfl⟩ := exists_of_endsAt decoded ends
    refine ⟨?_, fun within => ?_, fun beyond => ?_⟩
    · have front : (supportedVersion :: purpose :: hi :: lo :: Element.bytes es).length =
          4 + (Element.bytes es).length := by
        simp only [List.length_cons]
        omega
      rw [← front]
      exact List.drop_left
    · rw [same]
      exact decode_of_le cut within
    · rw [decode_of_lt cut beyond, same]
      rfl

/-- A tag whose data look like the end of the tags: the front ends within it, or in the payload. -/
theorem decode_prefix_within_tag :
    let b : Bytes := [1, 0, 0, 1, 0, 11, 2, 1, 1, 1, 7, 8, 9]
    let whole : Envelope := ⟨1, .receivedTagged, .ethernet, [⟨.snr, [1, 1]⟩], [7, 8, 9]⟩
    decode b = .ok whole ∧ EndsAt b 9 ∧ b.take 8 <+: b ∧ b.take 11 <+: b ∧
      ((∃ fault, decode (b.take 8) = .error fault) ∨
        ∃ e, decode (b.take 8) = .ok e ∧ e.payload = [] ∧ e.tags <+: whole.tags) ∧
      decode (b.take 11) = .ok { whole with payload := [7] } := by
  intro b whole
  let es : List Element := [.pad, .tag 11 [1, 1] (by decide) (by decide)]
  have decoded : decode b = .ok whole := decode_datagram_of_carries (.inr rfl) 0 0 1 es
  have ends : EndsAt b 9 := ⟨es, [7, 8, 9], isLongestSplit_iff.mpr ⟨rfl, .ended _⟩, rfl⟩
  obtain ⟨-, short⟩ := decode_prefix (List.take_prefix 8 b)
  obtain ⟨-, long⟩ := decode_prefix (List.take_prefix 11 b)
  exact ⟨decoded, ends, List.take_prefix 8 b, List.take_prefix 11 b,
    (short whole 9 decoded ends).2.1 (by decide), (long whole 9 decoded ends).2.2 (by decide)⟩

end Envelope

end Wiretap
