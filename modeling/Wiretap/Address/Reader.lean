import Wiretap.Address.Ip

/-!
# Reading addresses from text

Readers of internet addresses and of socket addresses, an internet address with a port.

## Main definitions

* `AddressReader.ipv4?`, `AddressReader.ipv6?` - an address at the front of a text and what
  follows it.
* `IpAddr.parse?` - a text that is one address and nothing else.
* `SocketAddr`, `SocketAddr.parse?`, `SocketAddr.text` - an address with a port.

## Design notes

The parts of a dotted address have no leading zeros and at most three digits; a group of the
newer protocol has at most four digits, and leading zeros count among them; ports and scope
numbers may have any number of leading zeros.  No part takes a sign.  A run `::` stands for at
least one zero group and occurs at most once; the last two groups may be written as a dotted
address.
-/

namespace Wiretap

namespace AddressReader

/-- One given character. -/
def char? (c : Char) : List Char → Option (List Char)
  | d :: rest => if d = c then some rest else none
  | [] => none

/-- The digits at the front of a text and the rest. -/
def digits (radix : Nat) (cs : List Char) : List Char × List Char :=
  cs.span fun c => (Text.digit? radix c).isSome

/-- A number below `limit`, of any number of digits. -/
def number? (radix limit : Nat) (cs : List Char) : Option (Nat × List Char) :=
  let (found, rest) := digits radix cs
  ((Text.numeral? radix found).filter (· < limit)).map fun n => (n, rest)

/-- One part of a dotted address: at most three digits, and no zero before another digit. -/
def part? (cs : List Char) : Option (UInt8 × List Char) :=
  let (found, rest) := digits 10 cs
  if found.length > 3 ∨ (found.head? = some '0' ∧ found.length > 1) then none
  else ((Text.numeral? 10 found).filter (· < 256)).map fun n => (UInt8.ofNat n, rest)

/-- A dotted address. -/
def ipv4? (cs : List Char) : Option (Ipv4Addr × List Char) := do
  let (a, cs) ← part? cs
  let (b, cs) ← char? '.' cs >>= part?
  let (c, cs) ← char? '.' cs >>= part?
  let (d, cs) ← char? '.' cs >>= part?
  return (⟨a, b, c, d⟩, cs)

/-- One group of the newer protocol: at most four digits. -/
def group? (cs : List Char) : Option (UInt16 × List Char) :=
  let (found, rest) := digits 16 cs
  if found.length > 4 then none
  else (Text.numeral? 16 found).map fun n => (UInt16.ofNat n, rest)

/-- The groups at the front of a text. -/
structure Groups where
  /-- The groups read. -/
  found : List UInt16
  /-- Whether the last two of them were written as a dotted address. -/
  dotted : Bool
  /-- What follows them. -/
  rest : List Char

/-- Up to `limit` groups between colons.  Where two are left to read, a dotted address may stand
for both and ends the groups.  `following` says that a colon has to come before the next group. -/
def groups : (limit : Nat) → (following : Bool) → List Char → Groups
  | 0, _, cs => ⟨[], false, cs⟩
  | limit + 1, following, cs =>
    let start := if following then char? ':' cs else some cs
    match if limit > 0 then start.bind ipv4? else none with
    | some (x, rest) =>
      ⟨[UInt16.ofNat (256 * x.a.toNat + x.b.toNat), UInt16.ofNat (256 * x.c.toNat + x.d.toNat)],
        true, rest⟩
    | none =>
      match start.bind group? with
      | some (group, rest) =>
        let more := groups limit true rest
        { more with found := group :: more.found }
      | none => ⟨[], false, cs⟩

/-- An address of the newer protocol. -/
def ipv6? (cs : List Char) : Option (Ipv6Addr × List Char) :=
  let head := groups 8 false cs
  if head.found.length = 8 then (Ipv6Addr.ofGroups? head.found).map fun x => (x, head.rest)
  else if head.dotted then none
  else do
    let rest ← char? ':' head.rest >>= char? ':'
    let tail := groups (7 - head.found.length) false rest
    let zeros := List.replicate (8 - head.found.length - tail.found.length) 0
    let x ← Ipv6Addr.ofGroups? (head.found ++ zeros ++ tail.found)
    return (x, tail.rest)

/-- What a reader finds if it uses the whole text. -/
def whole? {α : Type} (read : List Char → Option (α × List Char)) (s : String) : Option α :=
  match read s.toList with
  | some (x, []) => some x
  | _ => none

/-- A colon and a port. -/
def port? (cs : List Char) : Option (UInt16 × List Char) := do
  let (n, rest) ← char? ':' cs >>= number? 10 65536
  return (UInt16.ofNat n, rest)

end AddressReader

/-- The address that a text stands for. -/
def IpAddr.parse? (s : String) : Option IpAddr :=
  match AddressReader.whole? AddressReader.ipv4? s with
  | some x => some (.v4 x)
  | none => (AddressReader.whole? AddressReader.ipv6? s).map .v6

/-- An internet address with a port, and for the newer protocol the number of a scope. -/
structure SocketAddr where
  ip : IpAddr
  port : UInt16
  scope : UInt32 := 0
deriving DecidableEq, Repr

namespace SocketAddr

/-- A socket address of the older protocol at the front of a text. -/
def read4? (cs : List Char) : Option (SocketAddr × List Char) := do
  let (x, rest) ← AddressReader.ipv4? cs
  let (port, rest) ← AddressReader.port? rest
  return (⟨.v4 x, port, 0⟩, rest)

/-- The scope number behind a percent sign, zero where there is none. -/
def readScope (cs : List Char) : UInt32 × List Char :=
  match AddressReader.char? '%' cs >>= AddressReader.number? 10 UInt32.size with
  | some (n, rest) => (UInt32.ofNat n, rest)
  | none => (0, cs)

/-- A socket address of the newer protocol, in brackets, at the front of a text. -/
def read6? (cs : List Char) : Option (SocketAddr × List Char) := do
  let (x, rest) ← AddressReader.char? '[' cs >>= AddressReader.ipv6?
  let (scope, rest) := readScope rest
  let (port, rest) ← AddressReader.char? ']' rest >>= AddressReader.port?
  return (⟨.v6 x, port, scope⟩, rest)

/-- The socket address that a text stands for. -/
def parse? (s : String) : Option SocketAddr :=
  match AddressReader.whole? read4? s with
  | some x => some x
  | none => AddressReader.whole? read6? s

/-- The text of a socket address. -/
def text (x : SocketAddr) : String :=
  match x.ip with
  | .v4 ip => s!"{ip}:{x.port}"
  | .v6 ip =>
    if x.scope = 0 then s!"[{ip}]:{x.port}" else s!"[{ip}%{x.scope}]:{x.port}"

instance : ToString SocketAddr := ⟨text⟩

end SocketAddr

end Wiretap
