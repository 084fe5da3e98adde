import Wiretap.Bytes
import Wiretap.Text.Numeral

/-!
# Hardware addresses

The six-byte address of an Ethernet station, its text `00:0c:29:0a:0b:0c` and the reader of
that text.

## Main definitions

* `Mac` - an address.
* `Mac.ofBytes?` - the address that exactly six bytes stand for.
* `Mac.text` - the canonical text: six groups of two lower-case digits.
* `Mac.parse` - the reader, which takes more than the canonical text.

## Design notes

The reader splits at every colon and needs six parts.  A part is an optional plus sign and at
least one hexadecimal digit of either case; leading zeros may be any number, and the value has
to fit in a byte.
-/

namespace Wiretap

/-- A hardware address. -/
structure Mac where
  a : UInt8
  b : UInt8
  c : UInt8
  d : UInt8
  e : UInt8
  f : UInt8
deriving DecidableEq, Repr, Inhabited

/-- Why a text is no hardware address. -/
inductive MacError where
  /-- The text does not follow the grammar. -/
  | malformed (text : String)
deriving DecidableEq, Repr

/-- The wording of an error. -/
def MacError.message : MacError → String
  | .malformed text => "parse mac address failed: " ++ text

namespace Mac

/-- The address whose bytes are all zero. -/
def zero : Mac := ⟨0, 0, 0, 0, 0, 0⟩

/-- The bytes of an address, in the order in which they travel. -/
def octets (m : Mac) : Bytes := [m.a, m.b, m.c, m.d, m.e, m.f]

/-- The address that exactly six bytes stand for. -/
def ofBytes? : Bytes → Option Mac
  | [a, b, c, d, e, f] => some ⟨a, b, c, d, e, f⟩
  | _ => none

@[simp] theorem ofBytes?_octets (m : Mac) : ofBytes? m.octets = some m := rfl

theorem ofBytes?_eq_some_iff {b : Bytes} {m : Mac} : ofBytes? b = some m ↔ b = m.octets := by
  constructor
  · intro h
    unfold ofBytes? at h
    split at h
    · cases h; rfl
    · cases h
  · rintro rfl; rfl

/-- The characters of the canonical text. -/
def chars (m : Mac) : List Char := Text.joinWith ':' (m.octets.map Text.hexByte)

/-- The canonical text, six groups of two lower-case digits. -/
def text (m : Mac) : String := String.ofList m.chars

instance : ToString Mac := ⟨text⟩

/-- The byte that one part between colons stands for. -/
def octet? (part : List Char) : Option UInt8 :=
  ((Text.signedNumeral? 16 part).filter (· < 256)).map UInt8.ofNat

/-- The address that a text stands for. -/
def parse? (s : String) : Option Mac :=
  ((Text.splitAt ':' s.toList).mapM octet?).bind ofBytes?

/-- The address that a text stands for, or the text itself as the reason why there is none. -/
def parse (s : String) : Except MacError Mac :=
  match parse? s with
  | some m => .ok m
  | none => .error (.malformed s)

end Mac

end Wiretap
