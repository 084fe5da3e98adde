/-!
# The flags of a TCP segment

The nine flag bits of a TCP header.  The lowest eight fill the flags byte, the ninth is the
lowest bit of the byte before it.

## Main definitions

* `TcpFlags` - nine bits.
* `TcpFlags.ofHeader` - the flags from the two header bytes that hold them.
* `TcpFlags.text` - one letter for each flag that is set, `-` for none.
* `TcpFlags.low` - the six flags that an exported flow record has room for.
-/

namespace Wiretap

/-- The flags of a segment; bit 0 ends a connection, bit 8 is the nonce sum. -/
structure TcpFlags where
  bits : BitVec 9
deriving DecidableEq, Repr, Inhabited

namespace TcpFlags

/-- The flags in the lowest nine bits of a number; higher bits are no flags. -/
def ofNumber (n : Nat) : TcpFlags := ⟨BitVec.ofNat 9 n⟩

/-- The flags from the data offset byte and the flags byte of a header. -/
def ofHeader (offset flags : UInt8) : TcpFlags :=
  ⟨BitVec.ofNat 1 offset.toNat ++ BitVec.ofNat 8 flags.toNat⟩

/-- The flags as a number. -/
def number (f : TcpFlags) : Nat := f.bits.toNat

/-- The letter of each flag in the order in which they are written. -/
def letters : List (Nat × Char) :=
  [(1, 'S'), (4, 'A'), (0, 'F'), (2, 'R'), (3, 'P'), (5, 'U'), (6, 'E'), (7, 'C'), (8, 'N')]

/-- The letters of the flags that are set. -/
def chars (f : TcpFlags) : List Char :=
  letters.filterMap fun entry => if f.bits.getLsbD entry.1 then some entry.2 else none

/-- The letters of the flags that are set, or a dash. -/
def text (f : TcpFlags) : String :=
  if f.bits = 0 then "-" else String.ofList f.chars

instance : ToString TcpFlags := ⟨text⟩

/-- The lowest six flags, which exclude congestion signals and the nonce sum. -/
def low (f : TcpFlags) : UInt8 := UInt8.ofNat (f.bits.toNat % 64)

end TcpFlags

end Wiretap
