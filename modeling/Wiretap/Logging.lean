import Wiretap.Config.Load
import Wiretap.Receiver.Notice

/-!
# The log of the program

Which notices are written, and where to.

## Main definitions

* `LogRule`, `LogRule.parse?` - the levels that a text sets, for everything or for a part.
* `LogTarget`, `LogTarget.open?` - the console and the file of a log.
* `LogTarget.lines`, `LogTarget.append` - the lines that notices make, and the file they go to.

## Design notes

The text of a level is a list of rules between commas: a level for everything, a name for
everything under that name, or a name and a level.  What follows a slash selects notices by their
text and is not looked at here.
-/

namespace Wiretap

/-- How much is written. -/
inductive LogLevel where
  | off
  | error
  | warn
  | info
  | debug
  | trace
deriving DecidableEq, Repr

namespace LogLevel

/-- The number of levels that are written. -/
def rank : LogLevel → Nat
  | off => 0
  | error => 1
  | warn => 2
  | info => 3
  | debug => 4
  | trace => 5

/-- The level that a word stands for, in letters of either case. -/
def parse? (word : List Char) : Option LogLevel :=
  match String.ofList (word.map Char.toLower) with
  | "off" => some off
  | "error" => some error
  | "warn" => some warn
  | "info" => some info
  | "debug" => some debug
  | "trace" => some trace
  | _ => none

/-- The level of a notice. -/
def ofNotice : NoticeLevel → LogLevel
  | .error => error
  | .warn => warn
  | .info => info
  | .debug => debug

end LogLevel

/-- A level for everything under a name, or for everything. -/
structure LogRule where
  name : Option String
  level : LogLevel
deriving DecidableEq, Repr

namespace LogRule

/-- Characters without whitespace around them. -/
def trim (cs : List Char) : List Char :=
  ((cs.dropWhile isWhitespace).reverse.dropWhile isWhitespace).reverse

/-- The rule that a part of the text is, if it is one. -/
def ofPart? (part : List Char) : Option LogRule :=
  match (Text.splitAt '=' part).map trim with
  | [name] =>
    if name.any isWhitespace then none
    else
      match LogLevel.parse? name with
      | some level => some ⟨none, level⟩
      | none => some ⟨some (String.ofList name), .trace⟩
  | [name, level] =>
    if name.any isWhitespace then none
    else if level.isEmpty then some ⟨some (String.ofList name), .trace⟩
    else (LogLevel.parse? level).map fun level => ⟨some (String.ofList name), level⟩
  | _ => none

/-- The rules of a text. -/
def parse? (text : String) : Option (List LogRule) :=
  match Text.splitAt '/' text.toList with
  | [rules] | [rules, _] =>
    (((Text.splitAt ',' rules).map trim).filter (!·.isEmpty)).mapM ofPart?
  | _ => none

/-- The level for everything that rules set, nothing where no rule does. -/
def overall (rules : List LogRule) : LogLevel :=
  ((rules.find? (·.name.isNone)).map (·.level)).getD .off

end LogRule

/-! ### Files -/

/-- The name of a file that is being written, with a mark before its extension. -/
def currentName (name : List Char) : List Char :=
  let mark := "_rCURRENT".toList
  let extension := (name.reverse.takeWhile (· ≠ '.')).reverse
  let stem := name.dropLast.take (name.length - extension.length - 1)
  if stem.isEmpty then name ++ mark else stem ++ mark ++ '.' :: extension

/-- The path of the file behind a path in the settings, if that may name a file. -/
def logPath? (d : Disk) (text : String) : Option Path :=
  let path := Path.ofString text
  let isFolder := (d.locate path).toOption.any (d.node? · = some .directory)
  if ["", ".", ".."].contains path.leaf || isFolder then none
  else some { path with leaf := String.ofList (currentName path.leaf.toList) }

/-- Opens a log file; its folder is made if it is missing. -/
def openLogFile? (d : Disk) (text : String) : Option (Disk × Path) := do
  let path ← logPath? d text
  match d.makeFolders (Disk.folderOf path).reverse with
  | (_, .error _) => none
  | (d, .ok ()) =>
    let (d, _) ← (d.openFile path .extend).toOption
    return (d, path)

/-- Where notices are written, and which. -/
structure LogTarget where
  rules : List LogRule
  console : Bool
  file : Option Path
deriving Repr

namespace LogTarget

/-- Opens a log. -/
def open? (d : Disk) (settings : LoggingSettings) : Option (Disk × LogTarget) := do
  let rules ← LogRule.parse? settings.level
  if settings.file = "" then return (d, { rules, console := settings.console, file := none })
  else
    let (d, path) ← openLogFile? d settings.file
    return (d, { rules, console := settings.console, file := some path })

/-- Whether a notice is written. -/
def shows (t : LogTarget) (n : Notice) : Bool :=
  (LogLevel.ofNotice n.level).rank ≤ (LogRule.overall t.rules).rank

/-- The lines that are written for notices. -/
def lines (t : LogTarget) (notices : List Notice) : List String :=
  (notices.filter t.shows).map Notice.text

/-- Appends lines to the file of a log, if it has one. -/
def append (t : LogTarget) (d : Disk) (lines : List String) : Disk :=
  match t.file.bind fun path => (d.locate path).toOption with
  | some place => d.append place ((lines.map fun line => (line ++ "\n").toUTF8.toList).flatten)
  | none => d

theorem append_of_file_eq_none {t : LogTarget} (h : t.file = none) (d : Disk)
    (lines : List String) : t.append d lines = d := by
  simp [append, h]

end LogTarget

end Wiretap
