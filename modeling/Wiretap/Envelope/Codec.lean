import Wiretap.Envelope.Basic

/-!
# Envelopes on the wire

```text
 0       1       2               4
+-------+-------+---------------+--------------------------+---------+
|version|purpose| encapsulation | tags ... end of the tags | payload |
+-------+-------+---------------+--------------------------+---------+
```

A tag is its kind, the length of its data and the data; a pad and the end of the tags are single
bytes.

## Main definitions

* `Envelope.decode` - the envelope that a datagram holds, or why it holds none.
* `Envelope.encode` - the datagram of an envelope.
* `EnvelopeError` - the reasons, with their wording in `EnvelopeError.message`.

## Design notes

A datagram whose tags are never ended has no payload: nothing in it is known to be a frame.
Pads leave no trace in the decoded envelope.  Every error names the offset at which the tag in
question begins.
-/

namespace Wiretap

/-- Why a datagram holds no envelope. -/
inductive EnvelopeError where
  /-- It ends within the header. -/
  | tooShort (length : Nat)
  /-- Its version is not the one this library reads. -/
  | unsupportedVersion (version : UInt8)
  /-- It ends after the kind of a tag. -/
  | truncatedTag (offset : Nat)
  /-- It ends within the data of a tag. -/
  | tagOverflow (offset : Nat) (kind : UInt8) (length : UInt8) (remaining : Nat)
deriving DecidableEq, Repr

/-- The wording of an error. -/
def EnvelopeError.message : EnvelopeError → String
  | .tooShort length => s!"packet too short: {length} bytes"
  | .unsupportedVersion version => s!"unsupported TZSP version: {version}"
  | .truncatedTag offset => s!"incomplete tag at offset {offset}"
  | .tagOverflow offset kind length remaining =>
    s!"tag data exceeds packet length: tag {kind} at offset {offset} " ++
      s!"declares {length} bytes, {remaining} left"

/-- The bytes of a tag.  Data that does not fit behind a length of one byte is cut. -/
def Tag.encode (t : Tag) : Bytes :=
  if t.kind.isBare then [t.kind.number] else t.kind.number :: t.size :: t.carried

namespace Envelope

/-- The version of the envelopes that this library reads. -/
def supportedVersion : UInt8 := 1

/-- The number of bytes before the tags. -/
def headerSize : Nat := 4

/-- The tags and the payload of a datagram from `offset` on, where `rest` are its bytes from
there. -/
def decodeTags (offset : Nat) (rest : Bytes) : Except EnvelopeError (List Tag × Bytes) :=
  match rest with
  | [] => .ok ([], [])
  | number :: rest =>
    match TagKind.ofNumber number with
    | .last => .ok ([], rest)
    | .pad => decodeTags (offset + 1) rest
    | kind =>
      match rest with
      | [] => .error (.truncatedTag offset)
      | size :: rest =>
        if rest.length < size.toNat then
          .error (.tagOverflow offset number size rest.length)
        else
          match decodeTags (offset + 2 + size.toNat) (rest.drop size.toNat) with
          | .ok (tags, payload) => .ok (⟨kind, rest.take size.toNat⟩ :: tags, payload)
          | .error e => .error e
termination_by rest.length
decreasing_by
  all_goals simp only [List.length_cons, List.length_drop]
  all_goals omega

/-- The envelope that a datagram holds. -/
def decode (datagram : Bytes) : Except EnvelopeError Envelope :=
  match datagram with
  | version :: purpose :: hi :: lo :: rest =>
    if version ≠ supportedVersion then .error (.unsupportedVersion version)
    else
      match decodeTags headerSize rest with
      | .ok (tags, payload) =>
        .ok {
          version
          purpose := .ofNumber purpose
          encapsulation := .ofNumber (UInt16.ofNat (256 * hi.toNat + lo.toNat))
          tags
          payload }
      | .error e => .error e
  | _ => .error (.tooShort datagram.length)

/-- The datagram of an envelope, whose tags are always ended. -/
def encode (e : Envelope) : Bytes :=
  [e.version, e.purpose.number] ++ Bytes.be16 e.encapsulation.number ++
    e.tags.flatMap Tag.encode ++ TagKind.last.number :: e.payload

end Envelope

end Wiretap
