/-!
# Texts with places

The characters of a YAML text, each with its place: how many characters come before it, and its
line and column.  The meaning of YAML depends on columns, so the places are worked out once,
before anything is read.

## Main definitions

* `Spot` - a character with its place.
* `Spot.ofText?` - the spots of a text, if all its characters are allowed.
* `isBreak`, `isBlank`, `endsWord` - the classes of characters that separate others.

## Design notes

The ways to end a line (line feed, carriage return, both, next line) all become a line feed.  The
line and paragraph separators end a line too but stay as they are.  A carriage return with its
line feed counts as two characters before whatever follows.
-/

namespace Wiretap.Yaml

/-- A character with its place. -/
structure Spot where
  char : Char
  /-- The number of characters before it. -/
  index : Nat
  line : Nat
  column : Nat
deriving DecidableEq, Repr

/-- The end of a line. -/
def isBreak (c : Char) : Bool := c = '\n' || c = '\u2028' || c = '\u2029'

/-- A space or a tab. -/
def isBlank (c : Char) : Bool := c = ' ' || c = '\t'

/-- Whether a character may occur in a text. -/
def isAllowed (c : Char) : Bool :=
  let n := c.toNat
  n = 0x9 || n = 0xa || n = 0xd || (0x20 ≤ n && n ≤ 0x7e) || n = 0x85 ||
    (0xa0 ≤ n && n ≤ 0xd7ff) || (0xe000 ≤ n && n ≤ 0xfffd) || 0x10000 ≤ n

namespace Spot

/-- The spots of characters that begin at a given place. -/
def place (index line column : Nat) : List Char → List Spot
  | '\r' :: '\n' :: cs => ⟨'\n', index, line, column⟩ :: place (index + 2) (line + 1) 0 cs
  | c :: cs =>
    let shown := if c = '\r' || c = '\u0085' then '\n' else c
    if isBreak shown then ⟨shown, index, line, column⟩ :: place (index + 1) (line + 1) 0 cs
    else ⟨c, index, line, column⟩ :: place (index + 1) line (column + 1) cs
  | [] => []

/-- The spots of a text, if all its characters are allowed. -/
def ofText? (text : String) : Option (List Spot) :=
  if text.toList.all isAllowed then some (place 0 0 0 text.toList) else none

/-- The characters of spots. -/
def chars (spots : List Spot) : List Char := spots.map (·.char)

end Spot

/-- Whether a text begins with a character of a class. -/
def startsWith (p : Char → Bool) : List Spot → Bool
  | s :: _ => p s.char
  | [] => false

/-- Whether a word ends before a text: it is at its end, or a blank or line break follows. -/
def endsWord : List Spot → Bool
  | s :: _ => isBlank s.char || isBreak s.char
  | [] => true

/-- Whether a text begins with three equal characters that stand alone at the start of a line. -/
def isMarker (c : Char) : List Spot → Bool
  | a :: b :: d :: rest =>
    a.column = 0 && a.char = c && b.char = c && d.char = c && endsWord rest
  | _ => false

/-- Whether a text begins with the mark of the start or the end of a document. -/
def isDocumentMark (spots : List Spot) : Bool := isMarker '-' spots || isMarker '.' spots

/-- A text without the blanks at its front. -/
def skipBlanks (spots : List Spot) : List Spot := spots.dropWhile fun s => isBlank s.char

/-- A text from the next line break on. -/
def skipLine (spots : List Spot) : List Spot := spots.dropWhile fun s => !isBreak s.char

/-- What follows blanks and a comment at the end of a line, which must end there. -/
def endOfLine? (spots : List Spot) : Option (List Spot) :=
  let rest := skipBlanks spots
  let rest := if startsWith (· = '#') rest then skipLine rest else rest
  match rest with
  | [] => some []
  | s :: rest => if isBreak s.char then some rest else none

@[simp] theorem place_nil (index line column : Nat) : Spot.place index line column [] = [] := by
  simp [Spot.place]

end Wiretap.Yaml
