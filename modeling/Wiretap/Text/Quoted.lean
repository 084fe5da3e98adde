import Wiretap.Text.Numeral
import Wiretap.Text.Unprintable

/-!
# Quoted texts

A text between quotes, as messages show one that was refused: what would end the quotes or cannot
be seen is written with a backslash.

## Main definitions

* `Text.escaped` - a character between quotes.
* `Text.quoted` - a text in quotes.
-/

namespace Wiretap.Text

/-- A character by the number of its code point. -/
def numbered (c : Char) : List Char :=
  ['\\', 'u', '\x7b'] ++ hexadecimal c.toNat ++ ['\x7d']

/-- A character between quotes. -/
def escaped (c : Char) : List Char :=
  match c with
  | '\x00' => ['\\', '0']
  | '\t' => ['\\', 't']
  | '\n' => ['\\', 'n']
  | '\r' => ['\\', 'r']
  | '\\' => ['\\', '\\']
  | '"' => ['\\', '"']
  | c => if Unprintable.contains c then numbered c else [c]

/-- A text in quotes. -/
def quoted (s : String) : String := String.ofList ('"' :: (s.toList.flatMap escaped ++ ['"']))

example : quoted "a\tb" = "\"a\\tb\"" := by decide +kernel

end Wiretap.Text
