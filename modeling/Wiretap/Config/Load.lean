import Wiretap.Config.Reader
import Wiretap.Storage.Disk

/-!
# Loading settings

The settings that a text or a file holds.

## Main definitions

* `Config.load` - the settings of a text.
* `Config.loadFile` - the settings of a file; a file that is not there holds the defaults.

## Design notes

Which document a text holds is for a reader of texts to say.  A text of nothing but whitespace never
comes before it, and one in which it finds no root is malformed.
-/

namespace Wiretap

/-- A character without a mark of its own between words and lines. -/
def isWhitespace (c : Char) : Bool :=
  let n := c.toNat
  (0x9 ≤ n && n ≤ 0xd) || n = 0x20 || n = 0x85 || n = 0xa0 || n = 0x1680 ||
    (0x2000 ≤ n && n ≤ 0x200a) || n = 0x2028 || n = 0x2029 || n = 0x202f || n = 0x205f ||
    n = 0x3000

/-- Every character that core calls whitespace is one. -/
theorem isWhitespace_of_isWhitespace {c : Char} (h : c.isWhitespace) : isWhitespace c := by
  simp only [Char.isWhitespace, Bool.or_eq_true, decide_eq_true_eq] at h
  rcases h with ((h | h) | h) | h <;> subst h <;> rfl

namespace Config

/-- The settings that a text holds, before anything is said about them. -/
def read (reader : Yaml.TextReader) (text : String) : Except ConfigError Config :=
  if text.toList.all isWhitespace then .ok {}
  else
    match reader text >>= ofDocument? with
    | some c => .ok c
    | none => .error .malformed

/-- The settings that a text holds. -/
def load (text : String) (reader : Yaml.TextReader := Yaml.Document.inText?) :
    Except ConfigError Config :=
  read reader text >>= settle

/-- The settings of a file, of which the host says what it holds. -/
def loadContent (reader : Yaml.TextReader) : Except Fault Bytes → Except ConfigError Config
  | .error .notFound => .ok {}
  | .error fault => .error (.unreadable fault)
  | .ok content =>
    match String.fromUTF8? (ByteArray.mk content.toArray) with
    | some text => load text reader
    | none => .error (.unreadable .notText)

/-- The settings of a file. -/
def loadFile (d : Disk) (path : Path) (reader : Yaml.TextReader := Yaml.Document.inText?) :
    Except ConfigError Config :=
  loadContent reader (d.read path)

variable {reader : Yaml.TextReader}

@[simp] theorem loadContent_notFound : loadContent reader (.error .notFound) = .ok {} := rfl

end Config

end Wiretap
