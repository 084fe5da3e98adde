import Wiretap.Text.Numeral
import Wiretap.Yaml.Spot
import Wiretap.Yaml.Token

/-!
# Anchors, tags and directives

The small texts beside the nodes of a YAML text: names of anchors, tags, and the directives in
front of a document.

## Main definitions

* `anchorName?` - the name of an anchor or alias.
* `tag?` - a tag.
* `directive?` - a directive, from the character behind its percent sign on.

## Design notes

Tags are strings of bytes, since a byte may be written as a percent sign with two digits.  Such
bytes must come in groups of the lengths that UTF-8 gives to characters.
-/

namespace Wiretap.Yaml

/-- Whether a character may stand in names: a letter, a digit, a hyphen or an underscore. -/
def isWordChar (c : Char) : Bool :=
  c.isAlphanum || c = '-' || c = '_'

/-- The characters of a name at the front of a text, and what follows. -/
def word (spots : List Spot) : List Char × List Spot :=
  let found := spots.takeWhile fun s => isWordChar s.char
  (Spot.chars found, spots.drop found.length)

/-! ### Anchors -/

/-- Whether a name may end before a text. -/
def endsName (spots : List Spot) : Bool :=
  endsWord spots || startsWith (fun c => "?:,]\x7d%@\x60".toList.contains c) spots

/-- The name of an anchor or alias. -/
def anchorName? (spots : List Spot) : Option (String × List Spot) :=
  let (name, rest) := word spots
  if name.isEmpty || !endsName rest then none else some (String.ofList name, rest)

/-! ### Tags -/

/-- Whether a character may stand in a tag as it is. -/
def isTagChar (c : Char) : Bool := isWordChar c || ";/?:@&=+$.!~*'()".toList.contains c

/-- Whether a character may stand in a tag between angle brackets only. -/
def isBracketedTagChar (c : Char) : Bool := c = ',' || c = '[' || c = ']'

/-- How many bytes follow the first byte of a character. -/
def followers? (b : UInt8) : Option Nat :=
  if b < 0x80 then some 0
  else if b < 0xc0 then none
  else if b < 0xe0 then some 1
  else if b < 0xf0 then some 2
  else if b < 0xf8 then some 3
  else none

/-- How many bytes of a character are left after one that is written with a percent sign, where
`pending` were left before it. -/
def pendingAfter? (pending : Nat) (b : UInt8) : Option Nat :=
  match pending with
  | 0 => followers? b
  | more + 1 => if 0x80 ≤ b && b < 0xc0 then some more else none

/-- The byte that two hexadecimal digits stand for. -/
def hexPair? (a b : Char) : Option UInt8 := (Text.numeral? 16 [a, b]).map UInt8.ofNat

/-- The bytes of a tag, after which `pending` bytes of a character are still to come. -/
def tagBytesFrom? (bracketed : Bool) (pending : Nat) : List Spot → Option (Bytes × List Spot)
  | s :: a :: b :: rest =>
    if s.char = '%' then do
      let byte ← hexPair? a.char b.char
      let pending ← pendingAfter? pending byte
      let (bytes, rest) ← tagBytesFrom? bracketed pending rest
      return (byte :: bytes, rest)
    else if pending > 0 then none
    else if isTagChar s.char || (bracketed && isBracketedTagChar s.char) then do
      let (bytes, rest) ← tagBytesFrom? bracketed 0 (a :: b :: rest)
      return (s.char.toUInt8 :: bytes, rest)
    else some ([], s :: a :: b :: rest)
  | s :: rest =>
    if s.char = '%' || pending > 0 then none
    else if isTagChar s.char || (bracketed && isBracketedTagChar s.char) then do
      let (bytes, rest) ← tagBytesFrom? bracketed 0 rest
      return (s.char.toUInt8 :: bytes, rest)
    else some ([], s :: rest)
  | [] => if pending > 0 then none else some ([], [])

/-- The bytes of a tag at the front of a text. -/
def tagBytes? (bracketed : Bool) (spots : List Spot) : Option (Bytes × List Spot) :=
  tagBytesFrom? bracketed 0 spots

/-- The bytes of a tag at the front of a text, at least one. -/
def someTagBytes? (bracketed : Bool) (spots : List Spot) : Option (Bytes × List Spot) :=
  (tagBytes? bracketed spots).filter fun (bytes, _) => !bytes.isEmpty

/-- An exclamation mark, a name, and perhaps another exclamation mark. -/
def handle? : List Spot → Option (List Char × List Spot)
  | s :: rest =>
    if s.char ≠ '!' then none
    else
      let (name, rest) := word rest
      match rest with
      | e :: later => if e.char = '!' then some ('!' :: name ++ ['!'], later)
        else some ('!' :: name, rest)
      | [] => some ('!' :: name, [])
  | [] => none

/-- Whether an exclamation mark ends a handle that has begun with another one. -/
def isClosedHandle (handle : List Char) : Bool := handle.length > 1 && handle.getLast? = some '!'

/-- A tag between angle brackets, from behind the first of them on. -/
def bracketedTag? (spots : List Spot) : Option (TagText × List Spot) := do
  let (bytes, rest) ← someTagBytes? true spots
  match rest with
  | s :: rest => if s.char = '>' then some (⟨"", bytes⟩, rest) else none
  | [] => none

/-- A tag that begins with a handle.  What is no handle belongs to the tag itself. -/
def shortTag? (spots : List Spot) : Option (TagText × List Spot) := do
  let (handle, rest) ← handle? spots
  if isClosedHandle handle then
    let (suffix, rest) ← someTagBytes? false rest
    return (⟨String.ofList handle, suffix⟩, rest)
  else
    let (more, rest) ← tagBytes? false rest
    let suffix := handle.tail.map Char.toUInt8 ++ more
    if suffix.isEmpty then return (⟨"", [0x21]⟩, rest) else return (⟨"!", suffix⟩, rest)

/-- A tag, after which a word has to end; in a flow collection a comma may follow too. -/
def tag? (flow : Bool) (spots : List Spot) : Option (TagText × List Spot) := do
  let (t, rest) ←
    match spots with
    | _ :: s :: rest => if s.char = '<' then bracketedTag? rest else shortTag? spots
    | _ => shortTag? spots
  if endsWord rest || (flow && startsWith (· = ',') rest) then some (t, rest) else none

/-! ### Directives -/

/-- A number of at most nine digits. -/
def versionNumber? (spots : List Spot) : Option (Nat × List Spot) :=
  let digits := spots.takeWhile fun s => Text.isDigit s.char
  if digits.length > 9 then none
  else (Text.numeral? 10 (Spot.chars digits)).map fun n => (n, spots.drop digits.length)

/-- The version that a directive names. -/
def versionDirective? (spots : List Spot) : Option (Token × List Spot) := do
  let (major, rest) ← versionNumber? (skipBlanks spots)
  match rest with
  | s :: rest =>
    if s.char ≠ '.' then none
    else
      let (minor, rest) ← versionNumber? rest
      return (.versionDirective major minor, rest)
  | [] => none

/-- The handle that a directive gives a meaning to. -/
def tagDirective? (spots : List Spot) : Option (Token × List Spot) := do
  let (handle, rest) ← handle? (skipBlanks spots)
  if handle ≠ ['!'] && !isClosedHandle handle then none
  else if !startsWith isBlank rest then none
  else
    let (meaning, rest) ← someTagBytes? true (skipBlanks rest)
    if endsWord rest then return (.tagDirective (String.ofList handle) meaning, rest) else none

/-- A directive up to the end of its line, from the character behind its percent sign on. -/
def directive? (spots : List Spot) : Option (Token × List Spot) := do
  let (name, rest) := word spots
  if !endsWord rest then none
  else
    let (token, rest) ←
      if name = "YAML".toList then versionDirective? rest
      else if name = "TAG".toList then tagDirective? rest
      else none
    let rest ← endOfLine? rest
    return (token, rest)

end Wiretap.Yaml
