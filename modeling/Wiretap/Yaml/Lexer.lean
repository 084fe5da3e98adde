import Wiretap.Yaml.Property
import Wiretap.Yaml.Scalar
import Wiretap.Yaml.Token

/-!
# From a text to its tokens

The tokens of a YAML text.  Columns decide where block collections begin and end, so a lexer keeps
the columns of those that are open; and a mapping begins before its first key, which is known to
be a key only when the colon behind it is found, so a lexer remembers where a key may have begun.

## Main definitions

* `Lexer` - what is left of a text, the tokens found, and what is open.
* `Lexer.next?` - finds the next token.
* `tokens?` - the tokens of a text.

## Design notes

A key lies on one line and has at most 1024 characters.  What begins at the column of the
innermost block collection must be a key (`required`), so that not finding its colon is an error;
what begins elsewhere need not be one.

A lexer knows nothing about the order in which tokens may follow each other.
-/

namespace Wiretap.Yaml

/-- A place at which a key may have begun. -/
structure PendingKey where
  /-- The number of tokens before it. -/
  token : Nat
  start : Spot
  /-- Whether there must be a key. -/
  required : Bool
deriving Repr

/-- What is left of a text, the tokens found, and what is open. -/
structure Lexer where
  rest : List Spot
  tokens : Array Token := #[]
  /-- The columns of the open block collections, the innermost first. -/
  columns : List Nat := []
  /-- Whether a key may begin here. -/
  keyAllowed : Bool := true
  /-- The key that may have begun. -/
  key : Option PendingKey := none
  /-- The keys that may have begun outside the open flow collections, the innermost first. -/
  outer : List (Option PendingKey) := []
deriving Repr

namespace Lexer

/-- Whether a flow collection is open. -/
def inFlow (l : Lexer) : Bool := !l.outer.isEmpty

/-- The first column within the innermost block collection. -/
def indent (l : Lexer) : Nat :=
  match l.columns with
  | c :: _ => c + 1
  | [] => 0

/-- The lexer with a token more. -/
def emit (l : Lexer) (t : Token) : Lexer := { l with tokens := l.tokens.push t }

/-- The lexer with a token more at an earlier place. -/
def insert (l : Lexer) (index : Nat) (t : Token) : Lexer :=
  { l with tokens := l.tokens.insertIdxIfInBounds index t }

/-- The lexer with another text left. -/
def goOn (l : Lexer) (rest : List Spot) : Lexer := { l with rest }

/-- The lexer where a key may begin or not. -/
def allowKey (l : Lexer) (allowed : Bool) : Lexer := { l with keyAllowed := allowed }

/-! ### Keys -/

/-- Whether a key that began at `key` would be too long where it ends before `s`. -/
def PendingKey.isStale (k : PendingKey) (s : Spot) : Bool :=
  k.start.line < s.line || k.start.index + 1024 < s.index

/-- Forgets a key that has become too long. -/
def expireKey? (s : Spot) : Option PendingKey → Option (Option PendingKey)
  | some k =>
    if !PendingKey.isStale k s then some (some k) else if k.required then none else some none
  | none => some none

/-- Forgets all keys that have become too long. -/
def expireKeys? (l : Lexer) (s : Spot) : Option Lexer := do
  let key ← expireKey? s l.key
  let outer ← l.outer.mapM (expireKey? s)
  return { l with key, outer }

/-- Forgets the key that may have begun. -/
def dropKey? (l : Lexer) : Option Lexer :=
  if l.key.any (·.required) then none else some { l with key := none }

/-- Remembers that a key may begin at a spot. -/
def saveKey? (l : Lexer) (s : Spot) : Option Lexer :=
  if l.keyAllowed then do
    let l ← l.dropKey?
    let required := !l.inFlow && l.columns.head? = some s.column
    return { l with key := some ⟨l.tokens.size, s, required⟩ }
  else some l

/-! ### Block collections -/

/-- Begins a block collection at a column, if that lies within all that are open, with its token
at a place among the tokens. -/
def beginBlock (l : Lexer) (column index : Nat) (t : Token) : Lexer :=
  if !l.inFlow && l.indent ≤ column then
    { l.insert index t with columns := column :: l.columns }
  else l

/-- The lexer after the ends of so many block collections. -/
def emitEnds (l : Lexer) (n : Nat) : Lexer :=
  { l with tokens := l.tokens ++ Array.replicate n .blockEnd, columns := l.columns.drop n }

/-- Ends the block collections that begin to the right of a column. -/
def endBlocks (l : Lexer) (column : Nat) : Lexer :=
  if l.inFlow then l else l.emitEnds (l.columns.takeWhile (column < ·)).length

/-- Ends all block collections. -/
def endAllBlocks (l : Lexer) : Lexer :=
  if l.inFlow then l else l.emitEnds l.columns.length

/-! ### Between tokens -/

/-- What follows blanks, line breaks and comments, and whether a key may begin there. -/
def passGap (flow : Bool) (keyAllowed inComment : Bool) : List Spot → Bool × List Spot
  | [] => (keyAllowed, [])
  | s :: rest =>
    if isBreak s.char then passGap flow (keyAllowed || !flow) false rest
    else if inComment || s.char = ' ' || (s.char = '\t' && (flow || !keyAllowed)) ||
        (s.char = '\ufeff' && s.column = 0) then
      passGap flow keyAllowed inComment rest
    else if s.char = '#' then passGap flow keyAllowed true rest
    else (keyAllowed, s :: rest)

/-- The lexer before its next token. -/
def skipGap (l : Lexer) : Lexer :=
  let gap := passGap l.inFlow l.keyAllowed false l.rest
  { l with keyAllowed := gap.1, rest := gap.2 }

/-! ### Tokens -/

/-- A directive, or a mark of the start or end of a document: all block collections end before
it. -/
def outermost? (l : Lexer) (t : Token) (rest : List Spot) : Option Lexer := do
  let l ← l.endAllBlocks.dropKey?
  return ((l.allowKey false).emit t).goOn rest

/-- The start of a flow collection. -/
def openFlow? (l : Lexer) (t : Token) (s : Spot) (rest : List Spot) : Option Lexer := do
  let l ← l.saveKey? s
  return ({ l.emit t with outer := l.key :: l.outer, key := none }.allowKey true).goOn rest

/-- The end of a flow collection. -/
def closeFlow? (l : Lexer) (t : Token) (rest : List Spot) : Option Lexer := do
  let l ← l.dropKey?
  let l := match l.outer with
    | key :: outer => { l with key, outer }
    | [] => l
  return ((l.allowKey false).emit t).goOn rest

/-- A comma in a flow collection. -/
def flowEntry? (l : Lexer) (rest : List Spot) : Option Lexer := do
  let l ← l.dropKey?
  return ((l.allowKey true).emit .flowEntry).goOn rest

/-- The mark of an entry in a block collection, which may begin the collection. -/
def blockMark? (l : Lexer) (collection : Token) (s : Spot) : Option Lexer :=
  if l.inFlow then some l
  else if l.keyAllowed then some (l.beginBlock s.column l.tokens.size collection)
  else none

/-- A hyphen before an item. -/
def blockEntry? (l : Lexer) (s : Spot) (rest : List Spot) : Option Lexer := do
  let l ← l.blockMark? .blockSequence s
  let l ← l.dropKey?
  return ((l.allowKey true).emit .blockEntry).goOn rest

/-- A question mark before a key. -/
def keyMark? (l : Lexer) (s : Spot) (rest : List Spot) : Option Lexer := do
  let l ← l.blockMark? .blockMapping s
  let l ← l.dropKey?
  return ((l.allowKey !l.inFlow).emit .key).goOn rest

/-- A colon before a value, behind the key that may have begun if there is one. -/
def valueMark? (l : Lexer) (s : Spot) (rest : List Spot) : Option Lexer :=
  match l.key with
  | some k =>
    let l := (l.insert k.token .key).beginBlock k.start.column k.token .blockMapping
    some ((({ l with key := none }.allowKey false).emit .value).goOn rest)
  | none => do
    let l ← l.blockMark? .blockMapping s
    return ((l.allowKey !l.inFlow).emit .value).goOn rest

/-- An anchor, an alias or a tag. -/
def property? (l : Lexer) (s : Spot) (found : Option (Token × List Spot)) : Option Lexer := do
  let l ← l.saveKey? s
  let (t, rest) ← found
  return ((l.allowKey false).emit t).goOn rest

/-- A scalar that may be a key. -/
def scalar? (l : Lexer) (s : Spot) (style : Style) (found : Option Reading) : Option Lexer := do
  let l ← l.saveKey? s
  let r ← found
  return ((l.allowKey r.brokenOff).emit (.scalar r.text style)).goOn r.rest

/-- A block of lines. -/
def blockScalar? (l : Lexer) (folded : Bool) (rest : List Spot) : Option Lexer := do
  let l ← l.dropKey?
  let r ← block? folded l.indent (!l.columns.isEmpty) rest
  return ((l.allowKey true).emit
    (.scalar r.text (if folded then .folded else .literal))).goOn r.rest

/-- Whether a plain scalar may begin with a character. -/
def beginsPlain (flow : Bool) (c : Char) (rest : List Spot) : Bool :=
  if c = '-' then !startsWith isBlank rest
  else if c = '?' || c = ':' then !flow && !endsWord rest
  else !(isBlank c || isBreak c || isFlowMark c || "#&*!|>'\"%@\x60".toList.contains c)

/-- A token that begins with a given character. -/
def lexeme? (l : Lexer) (s : Spot) (rest : List Spot) : Option Lexer :=
  let mark := l.inFlow || endsWord rest
  if s.char = '%' && s.column = 0 then do
    let (t, rest) ← directive? rest
    l.outermost? t rest
  else if isMarker '-' (s :: rest) then l.outermost? .documentStart (rest.drop 2)
  else if isMarker '.' (s :: rest) then l.outermost? .documentEnd (rest.drop 2)
  else
    match s.char with
    | '[' => l.openFlow? .flowSequence s rest
    | '\x7b' => l.openFlow? .flowMapping s rest
    | ']' => l.closeFlow? .flowSequenceEnd rest
    | '\x7d' => l.closeFlow? .flowMappingEnd rest
    | ',' => l.flowEntry? rest
    | '*' => l.property? s ((anchorName? rest).map fun (name, rest) => (.alias name, rest))
    | '&' => l.property? s ((anchorName? rest).map fun (name, rest) => (.anchor name, rest))
    | '!' => l.property? s ((tag? l.inFlow (s :: rest)).map fun (t, rest) => (.tag t, rest))
    | '\'' => l.scalar? s .quoted (quoted? false rest)
    | '"' => l.scalar? s .quoted (quoted? true rest)
    | c =>
      if c = '-' && endsWord rest then l.blockEntry? s rest
      else if c = '?' && mark then l.keyMark? s rest
      else if c = ':' && mark then l.valueMark? s rest
      else if c = '|' && !l.inFlow then l.blockScalar? false rest
      else if c = '>' && !l.inFlow then l.blockScalar? true rest
      else if beginsPlain l.inFlow c rest then
        l.scalar? s .plain (plain? l.inFlow l.indent (s :: rest))
      else none

/-- The lexer after the next token, or at the end of the text. -/
def next? (l : Lexer) : Option Lexer :=
  let l := l.skipGap
  match l.rest with
  | [] => l.endAllBlocks.dropKey?
  | s :: rest => do
    let l ← l.expireKeys? s
    (l.endBlocks s.column).lexeme? s rest

/-- The lexer at the end of its text. -/
def run? (l : Lexer) : Option Lexer :=
  match l.next? with
  | none => none
  | some after =>
    if after.rest.isEmpty then after.next?
    else if after.rest.length < l.rest.length then run? after
    else none
termination_by l.rest.length

end Lexer

/-- The tokens of a text. -/
def tokens? (text : String) : Option (List Token) := do
  let spots ← Spot.ofText? text
  let l ← Lexer.run? { rest := spots }
  return l.tokens.toList

end Wiretap.Yaml
