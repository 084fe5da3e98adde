import Wiretap.Bytes
import Wiretap.Text.Numeral

/-!
# Internet addresses

Addresses of both internet protocols and their texts.

## Main definitions

* `Ipv4Addr`, `Ipv6Addr`, `IpAddr` - the addresses.
* `Ipv4Addr.text` - four decimal numbers between dots.
* `Ipv6Addr.text` - the recommended text form: lower case, no leading zeros, and `::` for the
  first of the longest runs of two or more zero groups.
* `IpAddr.ofBytes?` - the address that four or sixteen bytes stand for.

## Design notes

An address of the newer protocol is kept as eight 16-bit groups, because its text is a text of
groups.  Only the form that maps an older address (`::ffff:1.2.3.4`) ends in dotted numbers.
-/

namespace Wiretap

/-- An address of internet protocol version 4. -/
structure Ipv4Addr where
  a : UInt8
  b : UInt8
  c : UInt8
  d : UInt8
deriving DecidableEq, Repr, Inhabited

/-- An address of internet protocol version 6, as eight 16-bit groups. -/
structure Ipv6Addr where
  a : UInt16
  b : UInt16
  c : UInt16
  d : UInt16
  e : UInt16
  f : UInt16
  g : UInt16
  h : UInt16
deriving DecidableEq, Repr, Inhabited

/-- An address of either protocol. -/
inductive IpAddr where
  | v4 (address : Ipv4Addr)
  | v6 (address : Ipv6Addr)
deriving DecidableEq, Repr

namespace Ipv4Addr

/-- The bytes of an address, in the order in which they travel. -/
def octets (x : Ipv4Addr) : Bytes := [x.a, x.b, x.c, x.d]

/-- The address that exactly four bytes stand for. -/
def ofBytes? : Bytes → Option Ipv4Addr
  | [a, b, c, d] => some ⟨a, b, c, d⟩
  | _ => none

@[simp] theorem ofBytes?_octets (x : Ipv4Addr) : ofBytes? x.octets = some x := rfl

/-- The address as one number, which orders addresses. -/
def number (x : Ipv4Addr) : Nat := Bytes.ofBigEndian x.octets

/-- The characters of the text, four decimal numbers between dots. -/
def chars (x : Ipv4Addr) : List Char :=
  Text.joinWith '.' (x.octets.map fun octet => Text.decimal octet.toNat)

/-- The text of an address. -/
def text (x : Ipv4Addr) : String := String.ofList x.chars

instance : ToString Ipv4Addr := ⟨text⟩

end Ipv4Addr

namespace Ipv6Addr

/-- The eight groups of an address. -/
def groups (x : Ipv6Addr) : List UInt16 := [x.a, x.b, x.c, x.d, x.e, x.f, x.g, x.h]

/-- The address of exactly eight groups. -/
def ofGroups? : List UInt16 → Option Ipv6Addr
  | [a, b, c, d, e, f, g, h] => some ⟨a, b, c, d, e, f, g, h⟩
  | _ => none

@[simp] theorem ofGroups?_groups (x : Ipv6Addr) : ofGroups? x.groups = some x := rfl

/-- The 16-bit words of a byte string of even length. -/
def wordsOf : Bytes → List UInt16
  | hi :: lo :: rest => UInt16.ofNat (256 * hi.toNat + lo.toNat) :: wordsOf rest
  | _ => []

/-- The address that exactly sixteen bytes stand for. -/
def ofBytes? (b : Bytes) : Option Ipv6Addr :=
  if b.length = 16 then ofGroups? (wordsOf b) else none

/-- The address as one number, which orders addresses. -/
def number (x : Ipv6Addr) : Nat := x.groups.foldl (fun n group => 65536 * n + group.toNat) 0

/-- The older address that this one maps, if its text ends in dotted numbers. -/
def mapped? (x : Ipv6Addr) : Option Ipv4Addr :=
  match x.groups with
  | [0, 0, 0, 0, 0, 0xffff, hi, lo] =>
    Ipv4Addr.ofBytes? (Bytes.be16 hi ++ Bytes.be16 lo)
  | _ => none

/-- The number of zero groups at the front. -/
def leadingZeros (groups : List UInt16) : Nat := (groups.takeWhile (· == 0)).length

/-- Where the first of the longest runs of zero groups begins, and how long it is. -/
def longestZeros : Nat → List UInt16 → Nat × Nat
  | _, [] => (0, 0)
  | start, group :: rest =>
    let here := leadingZeros (group :: rest)
    let later := longestZeros (start + 1) rest
    if later.2 > here then later else (start, here)

/-- Groups as hexadecimal numbers between colons. -/
def joined (groups : List UInt16) : List Char :=
  Text.joinWith ':' (groups.map fun group => Text.hexadecimal group.toNat)

/-- The characters of the text. -/
def chars (x : Ipv6Addr) : List Char :=
  match x.mapped? with
  | some inner => "::ffff:".toList ++ inner.chars
  | none =>
    let run := longestZeros 0 x.groups
    if run.2 > 1 then
      joined (x.groups.take run.1) ++ "::".toList ++ joined (x.groups.drop (run.1 + run.2))
    else
      joined x.groups

/-- The text of an address. -/
def text (x : Ipv6Addr) : String := String.ofList x.chars

instance : ToString Ipv6Addr := ⟨text⟩

end Ipv6Addr

namespace IpAddr

/-- The characters of the text. -/
def chars : IpAddr → List Char
  | v4 x => x.chars
  | v6 x => x.chars

/-- The text of an address. -/
def text (x : IpAddr) : String := String.ofList x.chars

instance : ToString IpAddr := ⟨text⟩

/-- The address that four or sixteen bytes stand for. -/
def ofBytes? (b : Bytes) : Option IpAddr :=
  match Ipv4Addr.ofBytes? b with
  | some x => some (v4 x)
  | none => (Ipv6Addr.ofBytes? b).map v6

end IpAddr

end Wiretap
