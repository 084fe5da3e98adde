import Wiretap.Text.Numeral
import Wiretap.Yaml.Spot

/-!
# Scalars

The three ways in which a YAML text writes a value that is no collection: plain, between quotes,
and as a block of lines.

## Main definitions

* `Gap` - the blanks and line breaks between two words of a scalar, and what they stand for.
* `plain?` - a plain scalar.
* `quoted?` - a scalar between quotes, from the character behind the first quote on.
* `block?` - a block of lines, from the character behind its mark on.

## Design notes

Plain and quoted scalars are read in one pass.  The characters read so far are kept in reverse
order, and the gap since the last word is kept beside them until it is known whether another word
follows.
-/

namespace Wiretap.Yaml

/-! ### Gaps -/

/-- The blanks and line breaks between two words. -/
inductive Gap where
  | none
  /-- Blanks within a line, the last one first. -/
  | blanks (last : List Char)
  /-- Line breaks: the first one, absent where it was escaped, and the others, the last one
  first. -/
  | breaks (first : Option Char) (last : List Char)
deriving DecidableEq, Repr

namespace Gap

/-- Whether a line has ended. -/
def hasBreak : Gap → Bool
  | breaks _ _ => true
  | _ => false

/-- Whether there is any gap. -/
def isGap : Gap → Bool
  | none => false
  | _ => true

/-- The gap with one blank more.  Blanks at the front of a line stand for nothing. -/
def addBlank (c : Char) : Gap → Gap
  | none => blanks [c]
  | blanks last => blanks (c :: last)
  | breaks first last => breaks first last

/-- The gap with one line break more. -/
def addBreak (c : Char) : Gap → Gap
  | none | blanks _ => breaks (some c) []
  | breaks first last => breaks first (c :: last)

/-- Puts what a gap stands for in front of reversed characters.  A single line feed stands for a
space; before other line breaks it stands for nothing. -/
def join (word : List Char) : Gap → List Char
  | none => word
  | blanks last => last ++ word
  | breaks (some '\n') [] => ' ' :: word
  | breaks (some '\n') last => last ++ word
  | breaks first last => last ++ (first.toList ++ word)

@[simp] theorem join_none (word : List Char) : none.join word = word := rfl

end Gap

/-- A scalar that was read. -/
structure Reading where
  text : String
  /-- Whether it ended behind a line break. -/
  brokenOff : Bool := false
  rest : List Spot

/-! ### Plain scalars -/

/-- The characters that separate the parts of a flow collection. -/
def isFlowMark (c : Char) : Bool := c = ',' || c = '[' || c = ']' || c = '\x7b' || c = '\x7d'

/-- Whether a colon may not stand before a text in a flow collection. -/
def forbidsColon (rest : List Spot) : Bool := startsWith (fun c => c = '?' || isFlowMark c) rest

/-- Whether a plain scalar ends before a word, where its lines have to be indented by `indent`
columns in a block. -/
def endsPlain (flow : Bool) (indent : Nat) (s : Spot) (rest : List Spot) : Bool :=
  (!flow && s.column < indent) || isDocumentMark (s :: rest) || s.char = '#'

/-- Whether a plain scalar ends within a word. -/
def endsWithin (flow : Bool) (s : Spot) (rest : List Spot) : Bool :=
  (s.char = ':' && endsWord rest) || (flow && isFlowMark s.char)

/-- The rest of a plain scalar of which `word` was read, in reverse order. -/
def plainFrom? (flow : Bool) (indent : Nat) (word : List Char) (gap : Gap) :
    List Spot → Option Reading
  | [] => some { text := String.ofList word.reverse, brokenOff := gap.hasBreak, rest := [] }
  | s :: rest =>
    let stop : Reading :=
      { text := String.ofList word.reverse, brokenOff := gap.hasBreak, rest := s :: rest }
    if isBlank s.char then
      if gap.hasBreak && s.column < indent && s.char = '\t' then none
      else plainFrom? flow indent word (gap.addBlank s.char) rest
    else if isBreak s.char then plainFrom? flow indent word (gap.addBreak s.char) rest
    else if gap.isGap && endsPlain flow indent s rest then some stop
    else if flow && s.char = ':' && forbidsColon rest then none
    else if endsWithin flow s rest then some stop
    else plainFrom? flow indent (s.char :: gap.join word) .none rest

/-- A plain scalar at the front of a text. -/
def plain? (flow : Bool) (indent : Nat) (spots : List Spot) : Option Reading :=
  plainFrom? flow indent [] .none spots

/-! ### Quoted scalars -/

/-- The characters that a letter behind a backslash stands for. -/
def shortEscape? : Char → Option Char
  | '0' => some '\x00'
  | 'a' => some '\x07'
  | 'b' => some '\x08'
  | 't' | '\t' => some '\t'
  | 'n' => some '\n'
  | 'v' => some '\x0b'
  | 'f' => some '\x0c'
  | 'r' => some '\r'
  | 'e' => some '\x1b'
  | ' ' => some ' '
  | '"' => some '"'
  | '/' => some '/'
  | '\\' => some '\\'
  | 'N' => some '\u0085'
  | '_' => some '\u00a0'
  | 'L' => some '\u2028'
  | 'P' => some '\u2029'
  | _ => none

/-- How many digits of a code point follow a letter behind a backslash. -/
def escapeWidth? : Char → Option Nat
  | 'x' => some 2
  | 'u' => some 4
  | 'U' => some 8
  | _ => none

/-- The character with a code point, if it has one. -/
def charOf? (n : Nat) : Option Char :=
  if h : n.isValidChar then some (Char.ofNatAux n h) else none

/-- The character that a code point of so many hexadecimal digits at the front of a text stands
for. -/
def codePoint? (width : Nat) (spots : List Spot) : Option Char :=
  let digits := Spot.chars (spots.take width)
  if digits.length = width then Text.numeral? 16 digits >>= charOf? else none

/-- The rest of a scalar between quotes, of which `word` was read, in reverse order.  `skipped`
spots were read ahead. -/
def quotedFrom? (double : Bool) (word : List Char) (gap : Gap) (skipped : Nat) :
    List Spot → Option Reading
  | [] => none
  | s :: rest =>
    match skipped with
    | more + 1 => quotedFrom? double word gap more rest
    | 0 =>
      if isBlank s.char then quotedFrom? double word (gap.addBlank s.char) 0 rest
      else if isBreak s.char then quotedFrom? double word (gap.addBreak s.char) 0 rest
      else if isDocumentMark (s :: rest) then none
      else
        let word := gap.join word
        if !double && s.char = '\'' then
          if startsWith (· = '\'') rest then quotedFrom? double ('\'' :: word) .none 1 rest
          else some { text := String.ofList word.reverse, rest }
        else if double && s.char = '"' then some { text := String.ofList word.reverse, rest }
        else if double && s.char = '\\' then
          match rest with
          | [] => none
          | e :: later =>
            if isBreak e.char then quotedFrom? double word (.breaks none []) 1 rest
            else
              match shortEscape? e.char, escapeWidth? e.char with
              | some c, _ => quotedFrom? double (c :: word) .none 1 rest
              | none, some width =>
                match codePoint? width later with
                | some c => quotedFrom? double (c :: word) .none (1 + width) rest
                | none => none
              | none, none => none
        else quotedFrom? double (s.char :: word) .none 0 rest

/-- A scalar between quotes, from the character behind the first quote on. -/
def quoted? (double : Bool) (spots : List Spot) : Option Reading :=
  quotedFrom? double [] .none 0 spots

/-! ### Blocks of lines -/

/-- What becomes of the line breaks at the end of a block. -/
inductive Chomping where
  /-- They are left out. -/
  | strip
  /-- The first one stays. -/
  | clip
  /-- They all stay. -/
  | keep
deriving DecidableEq, Repr

/-- What stands behind the mark of a block. -/
structure BlockHeader where
  chomping : Chomping := .clip
  /-- By how many columns the lines are indented, absent where they tell themselves. -/
  indentation : Option Nat := none
deriving DecidableEq, Repr

/-- The sign that tells what becomes of the line breaks at the end. -/
def chompingOf? : Char → Option Chomping
  | '+' => some .keep
  | '-' => some .strip
  | _ => none

/-- A digit from one to nine, if there is a digit. -/
def indentation? : List Spot → Option (Option Nat × List Spot)
  | s :: rest =>
    match Text.digit? 10 s.char with
    | some 0 => none
    | some n => some (some n, rest)
    | none => some (none, s :: rest)
  | [] => some (none, [])

/-- A sign, if there is one. -/
def chomping? : List Spot → Option Chomping × List Spot
  | s :: rest =>
    match chompingOf? s.char with
    | some c => (some c, rest)
    | none => (none, s :: rest)
  | [] => (none, [])

/-- A sign and a digit, in any order. -/
def blockHeader? (spots : List Spot) : Option (BlockHeader × List Spot) :=
  match chomping? spots with
  | (some c, rest) => do
    let (n, rest) ← indentation? rest
    return (⟨c, n⟩, rest)
  | (none, rest) => do
    let (n, rest) ← indentation? rest
    match n with
    | none => return ({}, rest)
    | some n =>
      let (c, rest) := chomping? rest
      return (⟨c.getD .clip, some n⟩, rest)

/-- What comes before the next line of a block that is not empty. -/
structure Margin where
  /-- The largest column at which one of the empty lines ended or the line begins. -/
  deepest : Nat
  /-- The line breaks, the last one first. -/
  breaks : List Char
  rest : List Spot

/-- Passes empty lines and the indentation of the next line.  Lines are indented by `indent`
columns, or by any number of them where it is absent; a tab is no indentation. -/
def margin? (indent : Option Nat) (deepest : Nat) (breaks : List Char) :
    List Spot → Option Margin
  | [] => some ⟨deepest, breaks, []⟩
  | s :: rest =>
    let indenting := indent.all (s.column < ·)
    if indenting && s.char = ' ' then margin? indent deepest breaks rest
    else if indenting && s.char = '\t' then none
    else
      let deepest := max deepest s.column
      if isBreak s.char then margin? indent deepest (s.char :: breaks) rest
      else some ⟨deepest, breaks, s :: rest⟩

/-- A block of which some lines were read. -/
structure BlockSoFar where
  /-- The characters read, the last one first. -/
  text : List Char := []
  /-- The line break behind the last line. -/
  first : Option Char := none
  /-- The breaks of the empty lines behind it, the last one first. -/
  more : List Char := []
  /-- Whether the last line began with a blank. -/
  indented : Bool := false

namespace BlockSoFar

/-- The characters before the next line, which begins with a blank or not.  In a folded block a
line break between two lines that do not begin with a blank stands for a space, or for nothing
where empty lines follow it. -/
def beforeLine (b : BlockSoFar) (folded indented : Bool) : List Char :=
  let folds := folded && b.first = some '\n' && !b.indented && !indented
  let text :=
    if !folds then b.first.toList ++ b.text
    else if b.more.isEmpty then ' ' :: b.text
    else b.text
  b.more ++ text

/-- The text of a block that has ended. -/
def finish (b : BlockSoFar) : Chomping → String
  | .strip => String.ofList b.text.reverse
  | .clip => String.ofList (b.first.toList ++ b.text).reverse
  | .keep => String.ofList (b.more ++ (b.first.toList ++ b.text)).reverse

end BlockSoFar

/-- The remaining lines of a block, which are indented by `indent` columns. -/
def blockLines? (folded : Bool) (indent : Nat) (b : BlockSoFar) (spots : List Spot) :
    Option (BlockSoFar × List Spot) :=
  match spots with
  | [] => some (b, [])
  | s :: rest =>
    if s.column ≠ indent then some (b, s :: rest)
    else
      let indented := isBlank s.char
      let line := (s :: rest).takeWhile fun s => !isBreak s.char
      let text := (Spot.chars line).reverse ++ b.beforeLine folded indented
      match (s :: rest).drop line.length with
      | [] => some ({ text, indented }, [])
      | lineEnd :: later =>
        match margin? (some indent) 0 [] later with
        | none => none
        | some m =>
          if m.rest.length ≤ rest.length then
            blockLines? folded indent
              { text, first := some lineEnd.char, more := m.breaks, indented } m.rest
          else none
termination_by spots.length
decreasing_by
  simp only [List.length_cons]
  omega

/-- A block of lines, from the character behind its mark on.  `base` is the first column within
the collection that the block belongs to, or zero. -/
def block? (folded : Bool) (base : Nat) (inCollection : Bool) (spots : List Spot) :
    Option Reading := do
  let (header, rest) ← blockHeader? spots
  let rest ← endOfLine? rest
  let given := header.indentation.map fun n => if inCollection then base - 1 + n else n
  let m ← margin? given 0 [] rest
  let indent := given.getD (max (max m.deepest base) 1)
  let (b, rest) ← blockLines? folded indent { more := m.breaks } m.rest
  return { text := b.finish header.chomping, rest }

end Wiretap.Yaml
