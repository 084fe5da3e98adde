import Wiretap.Config.Basic
import Wiretap.Yaml.Reader

/-!
# Reading settings from a document

A configuration is a YAML document whose mappings are the sections of the settings.

## Main definitions

* `Section` - the keys of a mapping with their values.
* `Section.field?` - the setting under one of several spellings of a key, or its default.
* `ScalarReader` - readers of texts, truth values, numbers and formats.
* `Config.ofDocument?` - the settings that a document holds.

## Design notes

A key that no setting has is passed over with its value.  A setting that is given twice is an
error, whichever spellings are used, and so is a section that is anything but a mapping or nothing
at all.

What a scalar may stand for depends on the setting.  A text is any scalar; a truth value or a
number is written without quotes.  A block of lines counts as one only if its tag says so.
-/

namespace Wiretap

open Yaml

/-! ### Scalars -/

namespace ScalarReader

/-- The tags of the core types begin with this. -/
def coreTag (name : String) : Bytes := ("tag:yaml.org,2002:" ++ name).toUTF8.toList

/-- The text of a scalar that may stand for a value of a core type. -/
def coreText? (type : String) : Node → Option String
  | .scalar p text style =>
    if style = .plain || (style = .literal && p.tag = some (coreTag type)) then some text
    else none
  | _ => none

/-- The text of a scalar. -/
def text? : Node → Option String
  | .scalar _ text _ => some text
  | _ => none

/-- The truth value that a text stands for. -/
def flagOfText? (text : String) : Option Bool :=
  if ["true", "True", "TRUE"].contains text then some true
  else if ["false", "False", "FALSE"].contains text then some false
  else none

/-- The truth value of a scalar. -/
def flag? (n : Node) : Option Bool := coreText? "bool" n >>= flagOfText?

/-- The number that characters stand for: decimal without zeros in front, or with a letter for its
radix behind a zero. -/
def unsigned? : List Char → Option Nat
  | '0' :: 'x' :: digits => Text.numeral? 16 digits
  | '0' :: 'o' :: digits => Text.numeral? 8 digits
  | '0' :: 'b' :: digits => Text.numeral? 2 digits
  | '0' :: _ :: _ => none
  | digits => Text.numeral? 10 digits

/-- The number below a limit that characters stand for, perhaps behind a plus sign. -/
def numberOfChars? (limit : Nat) (cs : List Char) : Option Nat :=
  let digits := match cs with
    | '+' :: rest => rest
    | cs => cs
  (unsigned? digits).filter (· < limit)

/-- The number of a scalar, below a limit. -/
def number? (limit : Nat) (n : Node) : Option Nat :=
  (coreText? "int" n).bind fun text => numberOfChars? limit text.toList

/-- The format that a name stands for. -/
def formatOfName? (name : String) : Option LineFormat :=
  if name = "json" then some .json else if name = "text" then some .text else none

/-- Whether a scalar is written like no value. -/
def isNothing (text : String) (style : Style) : Bool :=
  style = .plain && ["", "null", "Null", "NULL", "~"].contains text

/-- The name that a tag of its own gives to a value, if it is one. -/
def ownTag? (p : Properties) : Option String :=
  match p.tag with
  | some (mark :: name) =>
    if mark = 0x21 then String.fromUTF8? (ByteArray.mk name.toArray) else none
  | _ => none

/-- The format of a scalar: its text, or its tag if it has nothing else. -/
def format? : Node → Option LineFormat
  | .scalar p text style =>
    match ownTag? p with
    | some name => if isNothing text style then formatOfName? name else none
    | none => formatOfName? text
  | _ => none

end ScalarReader

/-! ### Sections -/

/-- The keys of a mapping with their values. -/
abbrev Section := List (String × Node)

namespace Section

/-- The section that a node is: a mapping from scalars, or nothing. -/
def ofNode? (d : Document) (n : Node) : Option Section :=
  match d.resolve n with
  | .mapping _ entries =>
    entries.mapM fun (key, value) =>
      (ScalarReader.text? (d.resolve key)).map fun name => (name, d.resolve value)
  | .scalar _ "" .plain => some []
  | _ => none

/-- The section that a document is; without a root it is none. -/
def ofDocument? (d : Document) : Option Section := d.root >>= ofNode? d

/-- The setting under one of several spellings of a key. -/
def field? {α : Type} (s : Section) (spellings : List String) (default : α)
    (read : Node → Option α) : Option α :=
  match s.filter fun entry => spellings.contains entry.1 with
  | [] => some default
  | [(_, value)] => read value
  | _ => none

/-- A key that is not there has its default. -/
theorem field?_of_forall_not_mem {α : Type} {s : Section} {spellings : List String} (default : α)
    (read : Node → Option α) (h : ∀ entry ∈ s, entry.1 ∉ spellings) :
    s.field? spellings default read = some default := by
  have none : (s.filter fun entry => spellings.contains entry.1) = [] := by
    simpa [List.filter_eq_nil_iff] using h
  simp only [field?, none]

end Section

/-! ### Settings -/

namespace Config

open ScalarReader

/-- Numbers have 64 bits. -/
def numberLimit : Nat := UInt64.size

/-- The settings of the server. -/
def server? (s : Section) : Option ServerSettings := do
  let d : ServerSettings := {}
  return {
    listenAddr := ← s.field? ["listen-addr", "listen_addr"] d.listenAddr text?
    bufferSize := ← s.field? ["buffer-size", "buffer_size"] d.bufferSize (number? numberLimit) }

/-- The settings of the metadata log. -/
def file? (s : Section) : Option FileSettings := do
  let d : FileSettings := {}
  return {
    enabled := ← s.field? ["enabled"] d.enabled flag?
    path := ← s.field? ["output-file", "output_file"] d.path text?
    format := ← s.field? ["format"] d.format format? }

/-- The settings of the capture archive. -/
def capture? (s : Section) : Option CaptureSettings := do
  let d : CaptureSettings := {}
  return {
    enabled := ← s.field? ["enabled"] d.enabled flag?
    path := ← s.field? ["output-file", "output_file"] d.path text?
    maxSize := ← s.field? ["max-size-mb", "max_size_mb"] d.maxSize (number? numberLimit)
    maxBackups := ← s.field? ["max-backups", "max_backups"] d.maxBackups (number? numberLimit) }

/-- The settings of the flow export. -/
def netflow? (s : Section) : Option NetflowSettings := do
  let d : NetflowSettings := {}
  let seconds := number? numberLimit
  return {
    enabled := ← s.field? ["enabled"] d.enabled flag?
    collector := ← s.field? ["collector-addr", "collector_addr"] d.collector text?
    version := ← s.field? ["version"] d.version (number? UInt16.size)
    flowTimeout := ← s.field? ["flow-timeout", "flow_timeout"] d.flowTimeout seconds
    activeTimeout := ← s.field? ["active-timeout", "active_timeout"] d.activeTimeout seconds }

/-- A section within a section. -/
def within? {α : Type} (d : Document) (read : Section → Option α) (n : Node) : Option α :=
  Section.ofNode? d n >>= read

/-- The settings of the outputs. -/
def output? (d : Document) (s : Section) : Option OutputSettings := do
  return {
    file := ← s.field? ["file"] {} (within? d file?)
    capture := ← s.field? ["pcap"] {} (within? d capture?)
    netflow := ← s.field? ["netflow"] {} (within? d netflow?) }

/-- The settings of the log. -/
def logging? (s : Section) : Option LoggingSettings := do
  let d : LoggingSettings := {}
  return {
    level := ← s.field? ["level"] d.level text?
    console := ← s.field? ["console", "console_output"] d.console flag?
    file := ← s.field? ["file"] d.file text? }

/-- The settings that a document holds. -/
def ofDocument? (d : Document) : Option Config := do
  let s ← Section.ofDocument? d
  return {
    server := ← s.field? ["server"] {} (within? d server?)
    output := ← s.field? ["output"] {} (within? d (output? d))
    logging := ← s.field? ["logging"] {} (within? d logging?) }

end Config

end Wiretap
