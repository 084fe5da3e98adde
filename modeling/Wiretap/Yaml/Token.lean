import Wiretap.Bytes

/-!
# Tokens

What a YAML text is made of, once indentation has been turned into the beginnings and ends of
collections.
-/

namespace Wiretap.Yaml

/-- How a scalar is written. -/
inductive Style where
  /-- Without any mark. -/
  | plain
  /-- Between single or double quotes. -/
  | quoted
  /-- Behind a bar, line by line. -/
  | literal
  /-- Behind a greater-than sign, its lines joined. -/
  | folded
deriving DecidableEq, Repr

/-- A tag as it is written: a handle that stands for the beginning of a tag, and what follows. -/
structure TagText where
  handle : String
  suffix : Bytes
deriving DecidableEq, Repr

/-- A token of a text. -/
inductive Token where
  | versionDirective (major minor : Nat)
  /-- A handle and the beginning of a tag that it stands for. -/
  | tagDirective (handle : String) (meaning : Bytes)
  | documentStart
  | documentEnd
  | blockSequence
  | blockMapping
  | blockEnd
  | blockEntry
  | flowSequence
  | flowSequenceEnd
  | flowMapping
  | flowMappingEnd
  | flowEntry
  | key
  | value
  | alias (name : String)
  | anchor (name : String)
  | tag (text : TagText)
  | scalar (text : String) (style : Style)
deriving DecidableEq, Repr

end Wiretap.Yaml
