import Mathlib.Logic.ExistsUnique
import Wiretap.Envelope.Codec

/-!
# The grammar of envelopes

Behind its header a datagram is a sequence of complete elements and a tail that begins with none.
The elements are the tags, and the tail says whether there is a payload or what is wrong.

## Main definitions

* `Element` - a pad, or a tag with as many bytes of data as its length says.
* `Element.bytes`, `Element.tags` - what elements are on the wire, and the tags among them.
* `IsTail` - the bytes that begin with no complete element.
* `IsLongestSplit` - bytes cut into complete elements, as many as there are, and a tail.

## Main statements

* `Element.isPrefix_of_bytes_append` - complete elements can be cut off in one way only.
* `existsUnique_isLongestSplit` - all bytes have exactly one longest split.
* `Envelope.decodeTags_bytes_append` - reading goes through complete elements up to the tail.
* `Envelope.decode_classifies` - what a datagram is decoded to, by its header and its tail.

## Design notes

No element begins with another one, since its first two bytes tell how long it is.  That one fact
gives both the uniqueness of a split and that a split whose tail begins with no element is longest.
-/

namespace Wiretap

/-- A complete element of the tags of a datagram. -/
inductive Element where
  /-- A byte that means nothing. -/
  | pad
  /-- A number that is neither that of a pad nor that of the end, a length and as many bytes. -/
  | tag (number : UInt8) (data : Bytes) (ordinary : number ≠ 0 ∧ number ≠ 1)
      (fits : data.length < 256)

/-- The bytes that begin with no complete element. -/
inductive IsTail : Bytes → Prop where
  | nothing : IsTail []
  /-- The end of the tags and the payload. -/
  | ended (payload : Bytes) : IsTail (1 :: payload)
  /-- A tag that ends behind its number. -/
  | truncated (number : UInt8) (ordinary : number ≠ 0 ∧ number ≠ 1) : IsTail [number]
  /-- A tag that ends within its data. -/
  | overflow (number size : UInt8) (data : Bytes) (ordinary : number ≠ 0 ∧ number ≠ 1)
      (short : data.length < size.toNat) : IsTail (number :: size :: data)

namespace Element

/-! ### Elements on the wire -/

/-- The bytes of an element. -/
def encode : Element → Bytes
  | pad => [0]
  | tag number data _ _ => number :: UInt8.ofNat data.length :: data

/-- The tag that an element is, if it is one. -/
def tag? : Element → Option Tag
  | pad => none
  | tag number data _ _ => some ⟨.ofNumber number, data⟩

/-- The bytes of elements. -/
def bytes (es : List Element) : Bytes := es.flatMap encode

/-- The tags among elements. -/
def tags (es : List Element) : List Tag := es.filterMap tag?

@[simp] theorem bytes_nil : bytes [] = [] := rfl

@[simp] theorem bytes_cons (e : Element) (es : List Element) :
    bytes (e :: es) = e.encode ++ bytes es := rfl

@[simp] theorem bytes_append (es fs : List Element) : bytes (es ++ fs) = bytes es ++ bytes fs :=
  List.flatMap_append

@[simp] theorem tags_nil : tags [] = [] := rfl

@[simp] theorem tags_cons (e : Element) (es : List Element) :
    tags (e :: es) = e.tag?.toList ++ tags es := by
  rw [tags, List.filterMap_cons]
  cases e <;> rfl

/-- The length byte of a tag says its length. -/
theorem toNat_size {data : Bytes} (fits : data.length < 256) :
    (UInt8.ofNat data.length).toNat = data.length :=
  UInt8.toNat_ofNat_of_lt' fits

/-- No element begins with another one. -/
theorem encode_append_inj {e f : Element} {rest more : Bytes}
    (same : e.encode ++ rest = f.encode ++ more) : e = f ∧ rest = more := by
  cases e with
  | pad =>
    cases f with
    | pad => exact ⟨rfl, (List.cons.inj same).2⟩
    | tag number data ordinary fits => exact absurd (List.cons.inj same).1.symm ordinary.1
  | tag number data ordinary fits =>
    cases f with
    | pad => exact absurd (List.cons.inj same).1 ordinary.1
    | tag number' data' ordinary' fits' =>
      obtain ⟨numbers, behind⟩ := List.cons.inj same
      obtain ⟨sizes, behind⟩ := List.cons.inj behind
      -- Equal length bytes are equal lengths, so the data end at the same place.
      have lengths : data.length = data'.length := by
        rw [← toNat_size fits, ← toNat_size fits', sizes]
      obtain ⟨datas, rests⟩ := List.append_inj behind lengths
      subst numbers datas
      exact ⟨rfl, rests⟩

/-- Where an element begins there is no tail. -/
theorem not_isTail_encode_append (e : Element) (rest : Bytes) : ¬ IsTail (e.encode ++ rest) := by
  intro tail
  generalize whole : e.encode ++ rest = b at tail
  cases e with
  | pad =>
    cases tail with
    | nothing => cases whole
    | ended payload => exact absurd (List.cons.inj whole).1 (by decide)
    | truncated number ordinary => exact ordinary.1 (List.cons.inj whole).1.symm
    | overflow number size data ordinary short => exact ordinary.1 (List.cons.inj whole).1.symm
  | tag number data ordinary fits =>
    cases tail with
    | nothing => cases whole
    | ended payload => exact ordinary.2 (List.cons.inj whole).1
    | truncated number' ordinary' => cases (List.cons.inj whole).2
    | overflow number' size data' ordinary' short =>
      obtain ⟨sizes, behind⟩ := List.cons.inj (List.cons.inj whole).2
      have enough : data.length ≤ data'.length := by
        rw [← behind]
        exact List.length_append ▸ Nat.le_add_right _ _
      have size_eq : size.toNat = data.length := by rw [← sizes, toNat_size fits]
      omega

/-- Bytes that are no tail begin with an element. -/
theorem exists_encode_append {b : Bytes} (noTail : ¬ IsTail b) :
    ∃ (e : Element) (rest : Bytes), e.encode ++ rest = b := by
  match b with
  | [] => exact absurd .nothing noTail
  | number :: rest =>
    by_cases isPad : number = 0
    · exact ⟨.pad, rest, by rw [isPad]; rfl⟩
    · by_cases isEnd : number = 1
      · rw [isEnd] at noTail
        exact absurd (.ended rest) noTail
      · match rest with
        | [] => exact absurd (.truncated number ⟨isPad, isEnd⟩) noTail
        | size :: rest =>
          by_cases short : rest.length < size.toNat
          · exact absurd (.overflow number size rest ⟨isPad, isEnd⟩ short) noTail
          · have length : (rest.take size.toNat).length = size.toNat := by
              rw [List.length_take, Nat.min_eq_left (by omega)]
            have fits : (rest.take size.toNat).length < 256 := by
              rw [length]
              exact size.toNat_lt
            refine ⟨.tag number (rest.take size.toNat) ⟨isPad, isEnd⟩ fits,
              rest.drop size.toNat, ?_⟩
            rw [encode, length, UInt8.ofNat_toNat, List.cons_append, List.cons_append,
              List.take_append_drop]

theorem length_encode_pos (e : Element) : 0 < e.encode.length := by
  cases e <;> exact Nat.succ_pos _

/-! ### Splits -/

/-- All bytes are complete elements and a tail. -/
theorem exists_split (b : Bytes) : ∃ es tail, bytes es ++ tail = b ∧ IsTail tail := by
  by_cases tail : IsTail b
  · exact ⟨[], b, rfl, tail⟩
  · obtain ⟨e, rest, whole⟩ := exists_encode_append tail
    have shorter : rest.length < b.length := by
      have positive := length_encode_pos e
      rw [← whole, List.length_append]
      omega
    obtain ⟨es, end', split, isTail⟩ := exists_split rest
    refine ⟨e :: es, end', ?_, isTail⟩
    rw [bytes_cons, List.append_assoc, split, whole]
termination_by b.length

/-- **Complete elements can be cut off in one way only**: any that are cut off are the first of
those in front of a tail. -/
theorem isPrefix_of_bytes_append {es fs : List Element} {rest tail : Bytes}
    (same : bytes es ++ rest = bytes fs ++ tail) (isTail : IsTail tail) : es <+: fs := by
  induction es generalizing fs with
  | nil => exact List.nil_prefix
  | cons e es ih =>
    rw [bytes_cons, List.append_assoc] at same
    cases fs with
    | nil =>
      rw [bytes_nil, List.nil_append] at same
      rw [← same] at isTail
      exact absurd isTail (not_isTail_encode_append e _)
    | cons f fs =>
      rw [bytes_cons, List.append_assoc] at same
      obtain ⟨rfl, behind⟩ := encode_append_inj same
      exact List.cons_prefix_cons.mpr ⟨rfl, ih behind⟩

end Element

/-- Elements and a tail that a byte string is cut into, where no cut gives more elements. -/
structure IsLongestSplit (b : Bytes) (es : List Element) (tail : Bytes) : Prop where
  join : Element.bytes es ++ tail = b
  longest : ∀ fs rest, Element.bytes fs ++ rest = b → fs.length ≤ es.length

/-- A split is longest if and only if no element is left at its end. -/
theorem isLongestSplit_iff {b : Bytes} {es : List Element} {tail : Bytes} :
    IsLongestSplit b es tail ↔ Element.bytes es ++ tail = b ∧ IsTail tail := by
  constructor
  · rintro ⟨join, longest⟩
    refine ⟨join, Classical.byContradiction fun noTail => ?_⟩
    obtain ⟨e, rest, whole⟩ := Element.exists_encode_append noTail
    have more := longest (es ++ [e]) rest (by
      rw [← join, ← whole, Element.bytes_append, Element.bytes_cons, Element.bytes_nil,
        List.append_nil, List.append_assoc])
    rw [List.length_append, List.length_singleton] at more
    omega
  · rintro ⟨join, isTail⟩
    refine ⟨join, fun fs rest other => ?_⟩
    exact (Element.isPrefix_of_bytes_append (other.trans join.symm) isTail).length_le

/-- All bytes have exactly one longest split. -/
theorem existsUnique_isLongestSplit (b : Bytes) :
    ∃! split : List Element × Bytes, IsLongestSplit b split.1 split.2 := by
  obtain ⟨es, tail, join, isTail⟩ := Element.exists_split b
  refine ⟨(es, tail), isLongestSplit_iff.mpr ⟨join, isTail⟩, ?_⟩
  rintro ⟨fs, rest⟩ longest
  obtain ⟨other, otherTail⟩ := isLongestSplit_iff.mp longest
  have elements : fs = es :=
    (Element.isPrefix_of_bytes_append (other.trans join.symm) isTail).eq_of_length_le
      (Element.isPrefix_of_bytes_append (join.trans other.symm) otherTail).length_le
  subst elements
  exact Prod.ext rfl (List.append_cancel_left (other.trans join.symm))

namespace Envelope

/-! ### Reading elements and tails -/

/-- Reading begins behind the number of a tag. -/
theorem decodeTags_ordinary (offset : Nat) {number : UInt8}
    (ordinary : number ≠ 0 ∧ number ≠ 1) (rest : Bytes) :
    decodeTags offset (number :: rest) =
      match rest with
      | [] => .error (.truncatedTag offset)
      | size :: rest =>
        if rest.length < size.toNat then .error (.tagOverflow offset number size rest.length)
        else (decodeTags (offset + 2 + size.toNat) (rest.drop size.toNat)).map fun read =>
          (⟨.ofNumber number, rest.take size.toNat⟩ :: read.1, read.2) := by
  rw [decodeTags]
  have number_eq := TagKind.number_ofNumber number
  cases kind : TagKind.ofNumber number with
  | pad =>
    rw [kind] at number_eq
    exact absurd number_eq.symm ordinary.1
  | last =>
    rw [kind] at number_eq
    exact absurd number_eq.symm ordinary.2
  | _ =>
    cases rest with
    | nil => rfl
    | cons size rest =>
      simp only
      split
      · rfl
      · cases decodeTags (offset + 2 + size.toNat) (rest.drop size.toNat) <;> rfl

/-- Nothing is left of the tags behind their end. -/
theorem decodeTags_ended (offset : Nat) (payload : Bytes) :
    decodeTags offset (1 :: payload) = .ok ([], payload) := by
  rw [decodeTags]
  rfl

/-- A complete element is read as the tag that it is, and reading goes on behind it. -/
theorem decodeTags_encode_append (offset : Nat) (e : Element) (rest : Bytes) :
    decodeTags offset (e.encode ++ rest) =
      (decodeTags (offset + e.encode.length) rest).map fun read =>
        (e.tag?.toList ++ read.1, read.2) := by
  cases e with
  | pad =>
    rw [show Element.pad.encode ++ rest = 0 :: rest from rfl, decodeTags]
    change decodeTags (offset + 1) rest = (decodeTags (offset + 1) rest).map _
    cases decodeTags (offset + 1) rest <;> rfl
  | tag number data ordinary fits =>
    have size := Element.toNat_size fits
    have whole : (data ++ rest).length = data.length + rest.length := List.length_append
    have moved : offset + (Element.tag number data ordinary fits).encode.length =
        offset + 2 + data.length := by
      rw [Element.encode, List.length_cons, List.length_cons]
      omega
    rw [moved, Element.encode, List.cons_append, List.cons_append,
      decodeTags_ordinary offset ordinary]
    simp only
    rw [size, if_neg (by omega), List.drop_left, List.take_left]
    rfl

/-- **Reading goes through complete elements up to the tail.** -/
theorem decodeTags_bytes_append (offset : Nat) (es : List Element) (rest : Bytes) :
    decodeTags offset (Element.bytes es ++ rest) =
      (decodeTags (offset + (Element.bytes es).length) rest).map fun read =>
        (Element.tags es ++ read.1, read.2) := by
  induction es generalizing offset with
  | nil =>
    change decodeTags offset rest = (decodeTags offset rest).map _
    cases decodeTags offset rest <;> rfl
  | cons e es ih =>
    have moved : offset + (Element.bytes (e :: es)).length =
        offset + e.encode.length + (Element.bytes es).length := by
      rw [Element.bytes_cons, List.length_append, Nat.add_assoc]
    rw [moved, Element.bytes_cons, List.append_assoc, decodeTags_encode_append, ih]
    cases decodeTags (offset + e.encode.length + (Element.bytes es).length) rest with
    | error e => rfl
    | ok read => simp [Except.map]

/-- The envelope of a datagram of the supported version is what its tags and its payload make it. -/
theorem decode_of_supported (purpose hi lo : UInt8) (rest : Bytes) :
    decode (supportedVersion :: purpose :: hi :: lo :: rest) =
      (decodeTags headerSize rest).map fun read => {
        version := supportedVersion
        purpose := .ofNumber purpose
        encapsulation := .ofNumber (UInt16.ofNat (Bytes.ofBigEndian [hi, lo]))
        tags := read.1
        payload := read.2 } := by
  have word : Bytes.ofBigEndian [hi, lo] = 256 * hi.toNat + lo.toNat := by
    simp [Bytes.ofBigEndian]
  rw [decode, if_neg (not_not_intro rfl), word]
  cases decodeTags headerSize rest <;> rfl

/-! ### Accepted datagrams -/

/-- The datagram of a header, elements and a tail. -/
def datagram (purpose hi lo : UInt8) (es : List Element) (tail : Bytes) : Bytes :=
  supportedVersion :: purpose :: hi :: lo :: (Element.bytes es ++ tail)

/-- The envelope of a header, elements and a payload. -/
def ofElements (purpose hi lo : UInt8) (es : List Element) (payload : Bytes) : Envelope where
  version := supportedVersion
  purpose := .ofNumber purpose
  encapsulation := .ofNumber (UInt16.ofNat (Bytes.ofBigEndian [hi, lo]))
  tags := Element.tags es
  payload := payload

/-- A tail that nothing is wrong with, and the payload in it: nothing at all, or the end of the tags
and what follows. -/
def Carries (tail payload : Bytes) : Prop := tail = [] ∧ payload = [] ∨ tail = 1 :: payload

theorem Carries.isTail {tail payload : Bytes} (carries : Carries tail payload) : IsTail tail := by
  rcases carries with ⟨rfl, -⟩ | rfl
  · exact .nothing
  · exact .ended payload

/-- Reading a datagram goes through its elements to its tail. -/
theorem decode_datagram (purpose hi lo : UInt8) (es : List Element) (tail : Bytes) :
    decode (datagram purpose hi lo es tail) =
      (decodeTags (headerSize + (Element.bytes es).length) tail).map fun read =>
        { ofElements purpose hi lo es read.2 with tags := Element.tags es ++ read.1 } := by
  rw [datagram, decode_of_supported, decodeTags_bytes_append]
  cases decodeTags (headerSize + (Element.bytes es).length) tail <;> rfl

theorem decode_datagram_of_carries {tail payload : Bytes} (carries : Carries tail payload)
    (purpose hi lo : UInt8) (es : List Element) :
    decode (datagram purpose hi lo es tail) = .ok (ofElements purpose hi lo es payload) := by
  rw [decode_datagram]
  rcases carries with ⟨rfl, rfl⟩ | rfl
  · rw [decodeTags]
    simp [Except.map, ofElements]
  · rw [decodeTags_ended]
    simp [Except.map, ofElements]

/-- A tail carries a payload, or the datagram is refused. -/
theorem carries_or_error {tail : Bytes} (isTail : IsTail tail) (purpose hi lo : UInt8)
    (es : List Element) : (∃ payload, Carries tail payload) ∨
      ∃ fault, decode (datagram purpose hi lo es tail) = .error fault := by
  rw [decode_datagram]
  cases isTail with
  | nothing => exact .inl ⟨[], .inl ⟨rfl, rfl⟩⟩
  | ended payload => exact .inl ⟨payload, .inr rfl⟩
  | truncated number ordinary =>
    rw [decodeTags_ordinary _ ordinary]
    exact .inr ⟨_, rfl⟩
  | overflow number size data ordinary short =>
    rw [decodeTags_ordinary _ ordinary]
    simp only
    rw [if_pos short]
    exact .inr ⟨_, rfl⟩

/-- A datagram that is long enough and of the supported version has a header, elements and a
tail. -/
theorem exists_datagram {b : Bytes} (long : headerSize ≤ b.length)
    (version : b.head? = some supportedVersion) :
    ∃ purpose hi lo es tail, b = datagram purpose hi lo es tail ∧ IsTail tail := by
  match b with
  | version' :: purpose :: hi :: lo :: rest =>
    obtain rfl := Option.some.inj version
    obtain ⟨es, tail, whole, isTail⟩ := Element.exists_split rest
    exact ⟨purpose, hi, lo, es, tail, by rw [datagram, whole], isTail⟩
  | [] | [_] | [_, _] | [_, _, _] => simp [headerSize] at long

/-- A datagram is refused if it is too short or of another version. -/
theorem exists_error {b : Bytes}
    (bad : ¬ (headerSize ≤ b.length ∧ b.head? = some supportedVersion)) :
    ∃ fault, decode b = .error fault := by
  match b with
  | version :: purpose :: hi :: lo :: rest =>
    have other : version ≠ supportedVersion := by
      rintro rfl
      exact bad ⟨by simp [headerSize], rfl⟩
    exact ⟨_, by rw [decode, if_pos other]⟩
  | [] | [_] | [_, _] | [_, _, _] => exact ⟨_, rfl⟩

/-- **What is accepted** is a header and elements with a tail that carries the payload. -/
theorem decode_eq_ok_iff {b : Bytes} {e : Envelope} :
    decode b = .ok e ↔ ∃ purpose hi lo es tail, b = datagram purpose hi lo es tail ∧
      Carries tail e.payload ∧ e = ofElements purpose hi lo es e.payload := by
  constructor
  · intro decoded
    by_cases good : headerSize ≤ b.length ∧ b.head? = some supportedVersion
    · obtain ⟨purpose, hi, lo, es, tail, rfl, isTail⟩ := exists_datagram good.1 good.2
      rcases carries_or_error isTail purpose hi lo es with ⟨payload, carries⟩ | ⟨fault, refused⟩
      · rw [decode_datagram_of_carries carries] at decoded
        cases decoded
        exact ⟨purpose, hi, lo, es, tail, rfl, carries, rfl⟩
      · rw [refused] at decoded
        cases decoded
    · obtain ⟨fault, refused⟩ := exists_error good
      rw [refused] at decoded
      cases decoded
  · rintro ⟨purpose, hi, lo, es, tail, rfl, carries, same⟩
    rw [decode_datagram_of_carries carries, ← same]

/-- **A datagram is decoded by its header and its tail.**  One that ends within the header is too
short, and one of another version is not supported.  What is behind the header has exactly one
longest split into complete elements and a tail.  Without a tail there is no payload, behind the end
of the tags the payload is all that follows; the tags are those among the elements.  Any other tail
is a tag that ends behind its number or within its data, which the error names by its offset. -/
theorem decode_classifies (b : Bytes) :
    (b.length < 4 → decode b = .error (.tooShort b.length)) ∧
      ∀ version purpose hi lo rest, b = version :: purpose :: hi :: lo :: rest →
        (version ≠ 1 → decode b = .error (.unsupportedVersion version)) ∧
        (version = 1 →
          (∃! split : List Element × Bytes, IsLongestSplit rest split.1 split.2) ∧
          ∀ es tail, IsLongestSplit rest es tail →
            let offset := 4 + (Element.bytes es).length
            let envelope (payload : Bytes) : Envelope := {
              version
              purpose := .ofNumber purpose
              encapsulation := .ofNumber (UInt16.ofNat (Bytes.ofBigEndian [hi, lo]))
              tags := Element.tags es
              payload }
            (tail = [] → decode b = .ok (envelope [])) ∧
              (∀ payload, tail = 1 :: payload → decode b = .ok (envelope payload)) ∧
              (∀ number, number ≠ 1 → tail = [number] →
                decode b = .error (.truncatedTag offset)) ∧
              ∀ number size data, number ≠ 1 → tail = number :: size :: data →
                data.length < size.toNat ∧
                  decode b = .error (.tagOverflow offset number size data.length)) := by
  constructor
  · intro short
    match b with
    | [] => rfl
    | [_] => rfl
    | [_, _] => rfl
    | [_, _, _] => rfl
    | _ :: _ :: _ :: _ :: rest =>
      simp only [List.length_cons] at short
      omega
  rintro version purpose hi lo rest rfl
  constructor
  · intro unsupported
    rw [decode]
    exact if_pos unsupported
  rintro rfl
  refine ⟨existsUnique_isLongestSplit rest, ?_⟩
  rintro es tail split offset envelope
  obtain ⟨join, isTail⟩ := isLongestSplit_iff.mp split
  -- What is left to read is the tail, from its offset on.
  have read : decode (1 :: purpose :: hi :: lo :: rest) =
      (decodeTags offset tail).map fun read => { envelope read.2 with
        tags := Element.tags es ++ read.1 } := by
    rw [show (1 : UInt8) = supportedVersion from rfl, decode_of_supported, ← join,
      decodeTags_bytes_append]
    change _ = (decodeTags (headerSize + (Element.bytes es).length) tail).map _
    cases decodeTags (headerSize + (Element.bytes es).length) tail <;> rfl
  refine ⟨?_, ?_, ?_, ?_⟩
  · rintro rfl
    rw [read, decodeTags]
    simp [Except.map, envelope]
  · rintro payload rfl
    rw [read, decodeTags_ended]
    simp [Except.map, envelope]
  · rintro number notEnd rfl
    cases isTail with
    | ended payload => exact absurd rfl notEnd
    | truncated _ ordinary =>
      rw [read, decodeTags_ordinary offset ordinary]
      rfl
  · rintro number size data notEnd rfl
    cases isTail with
    | ended payload => exact absurd rfl notEnd
    | overflow _ _ _ ordinary short =>
      refine ⟨short, ?_⟩
      rw [read, decodeTags_ordinary offset ordinary]
      simp only
      rw [if_pos short]
      rfl

/-- A pad, a tag and the end of the tags with bytes behind it that could be tags, and a datagram
that ends within the data of its second tag. -/
theorem decode_classifies_payload_and_overflow :
    decode [1, 0, 0, 1, 0, 11, 2, 1, 0, 1, 13, 4, 0] =
        .ok ⟨1, .receivedTagged, .ethernet, [⟨.snr, [1, 0]⟩], [13, 4, 0]⟩ ∧
      decode [1, 0, 0, 1, 11, 1, 7, 13, 4, 0, 0] = .error (.tagOverflow 7 13 4 2) := by
  constructor
  · have split : IsLongestSplit [0, 11, 2, 1, 0, 1, 13, 4, 0]
        [.pad, .tag 11 [1, 0] (by decide) (by decide)] [1, 13, 4, 0] :=
      isLongestSplit_iff.mpr ⟨rfl, .ended _⟩
    obtain ⟨-, supported⟩ :=
      (decode_classifies [1, 0, 0, 1, 0, 11, 2, 1, 0, 1, 13, 4, 0]).2 1 0 0 1 _ rfl
    obtain ⟨-, ended, -⟩ := (supported rfl).2 _ _ split
    exact ended _ rfl
  · have split : IsLongestSplit [11, 1, 7, 13, 4, 0, 0]
        [.tag 11 [7] (by decide) (by decide)] [13, 4, 0, 0] :=
      isLongestSplit_iff.mpr ⟨rfl, .overflow 13 4 _ (by decide) (by decide)⟩
    obtain ⟨-, supported⟩ :=
      (decode_classifies [1, 0, 0, 1, 11, 1, 7, 13, 4, 0, 0]).2 1 0 0 1 _ rfl
    obtain ⟨-, -, -, overflow⟩ := (supported rfl).2 _ _ split
    exact (overflow 13 4 _ (by decide) rfl).2

end Envelope

end Wiretap
