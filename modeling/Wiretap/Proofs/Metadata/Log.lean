import Wiretap.Metadata.Log
import Wiretap.Proofs.Access.Pipeline
import Wiretap.Proofs.Metadata.Line
import Wiretap.Proofs.Storage.Edits

/-!
# Logs that keep every line

What a metadata log has written is in its file once it is flushed, behind what the file held before.

## Main definitions

* `MetadataLog.Step`, `MetadataLog.run` - what is done with the file of a log, step by step.
* `MetadataLog.packets` - the packets that are written, each with the format of its line.
* `MetadataLog.Holds` - what the file of a log and what it holds back are together.

## Main statements

* `MetadataLog.holds_of_open'` - a log begins with what its file held.
* `MetadataLog.Holds.packet`, `MetadataLog.Holds.flush`, `MetadataLog.Holds.reopen` - what a step
  adds to this.
* `MetadataLog.Holds.run` - a history adds one line for each packet.
* `MetadataLog.lines_are_lossless` - the lines are complete, and they tell the packets.

## Design notes

A log is closed by opening another one on the same file.  Closing flushes it, so no line is lost
between two logs, and the file is found again at its place as no step moves a directory.
-/

namespace Wiretap

namespace MetadataLog

variable {d d' : Disk} {path : Path} {format : LineFormat} {log : MetadataLog} {place : Place}
  {written : Bytes}

/-- What is done with the file of a log. -/
inductive Step where
  | packet (p : Packet)
  | flush
  /-- The log is closed, which flushes it, and opened again. -/
  | reopen (format : LineFormat)

/-- Disk and log after a step, unless the calendar or the host refuses it. -/
def step (path : Path) (s : Disk × MetadataLog) : Step → Option (Disk × MetadataLog)
  | .packet p => (s.2.write p).toOption.map fun log => (s.1, log)
  | .flush => some (s.2.flush s.1)
  | .reopen format => (MetadataLog.open' (s.2.flush s.1).1 path format).toOption

/-- Disk and log after all steps, unless one of them is refused. -/
def run (path : Path) (s : Disk × MetadataLog) (steps : List Step) :
    Option (Disk × MetadataLog) :=
  steps.foldlM (step path) s

/-- The packets that are written, each with the format of its line. -/
def packets : LineFormat → List Step → List (LineFormat × Packet)
  | _, [] => []
  | format, .packet p :: steps => (format, p) :: packets format steps
  | format, .flush :: steps => packets format steps
  | _, .reopen format :: steps => packets format steps

/-- One line for each packet, in order. -/
def AreLines (ws : List (LineFormat × Packet)) (lines : List String) : Prop :=
  List.Forall₂ (fun w line => Metadata.line? w.1 w.2 = some line) ws lines

/-- The bytes of lines, each with its line break. -/
def bytesOf (lines : List String) : Bytes :=
  lines.flatMap fun line => line.toUTF8.toList ++ [10]

/-- A log is open at its place, and its file and what it holds back are what was written. -/
structure Holds (d : Disk) (path : Path) (log : MetadataLog) (place : Place) (written : Bytes) :
    Prop where
  noSlash : path.endsWithSlash = false
  leads : d.locate path = .ok place
  place_eq : log.place = place
  found : ∃ content, d.node? place = some (.file content) ∧ content ++ log.heldBack = written

theorem open'_of_openFile (opened : d.openFile path .extend = .ok (d', place))
    (format : LineFormat) : MetadataLog.open' d path format = .ok (d', { format, place }) := by
  rw [MetadataLog.open', opened]

/-- A log that was opened holds what its file held, and no other file has changed. -/
theorem holds_of_open' (opened : MetadataLog.open' d path format = .ok (d', log)) :
    Holds d' path log log.place ((d.read path).toOption.getD []) ∧ log.format = format := by
  unfold MetadataLog.open' at opened
  split at opened
  · cases opened
  · next d₁ place file =>
    cases opened
    obtain ⟨leads, noSlash, noFolder, home, found, others⟩ := Disk.of_openFile_extend file
    have stay (other : Place) (isFolder : d.node? other = some .directory) :
        d'.node? other = some .directory := by
      rw [others other fun same => noFolder (same ▸ isFolder), isFolder]
    refine ⟨⟨noSlash, Disk.locate_of_directories home stay leads, rfl, _, found, ?_⟩, rfl⟩
    rw [Disk.toOption_read leads noSlash]
    exact List.append_nil _

theorem Holds.packet (h : Holds d path log place written) {p : Packet} {line : String}
    (shown : Metadata.line? log.format p = some line) :
    ∃ log', step path (d, log) (.packet p) = some (d, log') ∧ log'.format = log.format ∧
      Holds d path log' place (written ++ bytesOf [line]) := by
  obtain ⟨content, found, whole⟩ := h.found
  have written_ := Checked.write_of_line shown none
  refine ⟨{ log with pending := (line ++ "\n") :: log.pending }, ?_, rfl, h.noSlash, h.leads,
    h.place_eq, content, found, ?_⟩
  · rw [step, written_]
    rfl
  · have newline : "\n".toUTF8.toList = [10] := by
      rw [Text.toList_toUTF8]
      rfl
    have more : heldBack { log with pending := (line ++ "\n") :: log.pending } =
        log.heldBack ++ bytesOf [line] := by
      simp only [heldBack, bytesOf, List.reverse_cons, List.map_append, List.map_cons,
        List.map_nil, List.flatten_append, List.flatten_cons, List.flatten_nil, List.append_nil,
        List.flatMap_cons, List.flatMap_nil, Text.toList_toUTF8_append, newline]
    rw [more, ← List.append_assoc, whole]

theorem Holds.flush (h : Holds d path log place written) :
    Holds (log.flush d).1 path (log.flush d).2 place written ∧
      (log.flush d).1.content? place = some written := by
  obtain ⟨content, found, whole⟩ := h.found
  have here : (log.flush d).1.node? place = some (.file written) := by
    rw [MetadataLog.flush, h.place_eq, Disk.node?_append_self found, whole]
  have home : (log.flush d).1.home = d.home := by
    unfold MetadataLog.flush Disk.append
    split <;> rfl
  have stay (other : Place) (isFolder : d.node? other = some .directory) :
      (log.flush d).1.node? other = some .directory := by
    have elsewhere : other ≠ place := by
      rintro rfl
      rw [found] at isFolder
      cases isFolder
    rw [MetadataLog.flush, h.place_eq, Disk.node?_append_of_ne d elsewhere, isFolder]
  refine ⟨⟨h.noSlash, Disk.locate_of_directories home stay h.leads, h.place_eq, written, here, ?_⟩,
    ?_⟩
  · exact List.append_nil _
  · rw [Disk.content?, here]

theorem Holds.reopen (h : Holds d path log place written) (format : LineFormat) :
    ∃ d' log', step path (d, log) (.reopen format) = some (d', log') ∧ log'.format = format ∧
      Holds d' path log' place written := by
  obtain ⟨flushed, -⟩ := h.flush
  obtain ⟨content, found, whole⟩ := flushed.found
  have opened := Disk.openFile_extend_of_file flushed.leads flushed.noSlash found
  refine ⟨(log.flush d).1, { format, place }, ?_, rfl, flushed.noSlash, flushed.leads, rfl,
    content, found, whole⟩
  rw [step, open'_of_openFile opened]
  rfl

/-- **A history of a log appends one line for each packet**, and the log stays open. -/
theorem Holds.run (h : Holds d path log place written) {steps : List Step}
    (within : ∀ w ∈ packets log.format steps, Calendar.Reaches w.2.time) :
    ∃ d' log' lines, run path (d, log) steps = some (d', log') ∧
      AreLines (packets log.format steps) lines ∧
      Holds d' path log' place (written ++ bytesOf lines) := by
  -- Each packet adds its line to what is written, whatever that was, so this stays general.
  induction steps generalizing d log written with
  | nil => exact ⟨d, log, [], rfl, .nil, by rwa [bytesOf, List.flatMap_nil, List.append_nil]⟩
  | cons s steps ih =>
    simp only [MetadataLog.run, List.foldlM_cons]
    cases s with
    | packet p =>
      obtain ⟨line, shown⟩ := Metadata.exists_line? log.format
        (within (log.format, p) List.mem_cons_self)
      obtain ⟨next, stepped, format, holds⟩ := h.packet shown
      obtain ⟨d', log', lines, ran, areLines, last⟩ := ih holds fun w inside =>
        within w (List.mem_cons_of_mem _ (format ▸ inside))
      refine ⟨d', log', line :: lines, ?_, ?_, ?_⟩
      · rw [stepped]
        exact ran
      · rw [format] at areLines
        exact .cons shown areLines
      · rwa [List.append_assoc, bytesOf, bytesOf, ← List.flatMap_append] at last
    | flush =>
      obtain ⟨d', log', lines, ran, areLines, last⟩ := ih h.flush.1 within
      exact ⟨d', log', lines, ran, areLines, last⟩
    | reopen format =>
      obtain ⟨d₁, next, stepped, rfl, holds⟩ := h.reopen format
      obtain ⟨d', log', lines, ran, areLines, last⟩ := ih holds within
      refine ⟨d', log', lines, ?_, areLines, last⟩
      rw [stepped]
      exact ran

/-- No line holds a line break. -/
theorem newline_notMem_of_areLines {ws : List (LineFormat × Packet)} {lines : List String}
    (within : ∀ w ∈ ws, Calendar.Reaches w.2.time) (areLines : AreLines ws lines) :
    ∀ line ∈ lines, 10 ∉ line.toUTF8.toList := by
  induction areLines with
  | nil => exact fun _ never => by cases never
  | @cons w line ws lines shown _ ih =>
    have first : 10 ∉ line.toUTF8.toList := fun newline => by
      have printable (c : Char) (isChar : c ∈ line.toList) :=
        Metadata.mem_line? (within w List.mem_cons_self) shown isChar
      obtain ⟨c, isChar, same⟩ :=
        Text.exists_char_of_byte (fun c isChar => (printable c isChar).2) newline
      have above : 31 < (10 : UInt8).toNat := same ▸ (printable c isChar).1
      exact absurd above (by decide)
    have rest := ih fun w inside => within w (List.mem_cons_of_mem _ inside)
    exact List.forall_mem_cons.mpr ⟨first, rest⟩

/-- **Metadata lines are complete and lossless, and nothing is taken from the file.**

Whatever a file held, however packets of times that the calendar reaches are written to it, flushed
and the log opened again in either format: no step is refused, and once the log is flushed the file
is what it held before and behind it one line for each packet, in order, each with one line break at
its end.

And the lines of two such packets are the same, in either format, if and only if the packets agree
in the millisecond and in all other fields that a line shows. -/
theorem lines_are_lossless :
    (∀ (d d₁ : Disk) (path : Path) (format : LineFormat) (log : MetadataLog) (steps : List Step),
      MetadataLog.open' d path format = .ok (d₁, log) →
      (∀ w ∈ packets format steps, Calendar.Reaches w.2.time) →
      ∃ d₂ log₂ lines, run path (d₁, log) steps = some (d₂, log₂) ∧
        AreLines (packets format steps) lines ∧
        (log₂.flush d₂).1.read path = .ok ((d.read path).toOption.getD [] ++ bytesOf lines) ∧
        ∀ line ∈ lines, 10 ∉ line.toUTF8.toList) ∧
    ∀ p q : Packet, Calendar.Reaches p.time → Calendar.Reaches q.time →
      (∀ format, Metadata.line? format p = Metadata.line? format q ↔ p.ShownAlike q) ∧
      (Metadata.line? .json p = Metadata.line? .json q ↔
        Metadata.line? .text p = Metadata.line? .text q) := by
  constructor
  · intro d d₁ path format log steps opened within
    obtain ⟨holds, rfl⟩ := holds_of_open' opened
    obtain ⟨d₂, log₂, lines, ran, areLines, last⟩ := holds.run within
    obtain ⟨flushed, content⟩ := last.flush
    refine ⟨d₂, log₂, lines, ran, areLines, ?_, newline_notMem_of_areLines within areLines⟩
    exact Disk.read_of_content? flushed.leads flushed.noSlash content
  · intro p q reaches reaches'
    have each := fun format => Metadata.line?_eq_iff format reaches reaches'
    exact ⟨each, (each .json).trans (each .text).symm⟩

/-- A file of two bytes gets a line of each format behind them, and a VLAN of number zero is told
from none. -/
theorem lines_are_lossless_reopened :
    let path : Path := ⟨[], "packets.log"⟩
    let d : Disk := ({} : Disk).put ["packets.log"] (.file [104, 105])
    let tagged : Packet := { vlan := some 0 }
    (∃ log d₂ log₂ lines, MetadataLog.open' d path .json = .ok (d, log) ∧
      run path (d, log) [.packet {}, .reopen .text, .packet tagged] = some (d₂, log₂) ∧
      lines.length = 2 ∧ (log₂.flush d₂).1.read path = .ok ([104, 105] ++ bytesOf lines)) ∧
    ¬ Metadata.line? .json {} = Metadata.line? .json tagged := by
  intro path d tagged
  have named : path.IsNamed := ⟨by decide, by decide, by decide⟩
  have admits : Disk.Admits path.leaf := Disk.admits_iff.mpr (by decide)
  have leads : d.locate path = .ok ["packets.log"] :=
    (Disk.locate_of_walk named rfl).trans (Disk.child_of_admits admits [])
  have noSlash : path.endsWithSlash = false := named.endsWithSlash
  have found : d.node? ["packets.log"] = some (.file [104, 105]) := by decide
  have opened := open'_of_openFile (Disk.openFile_extend_of_file leads noSlash found) .json
  have held : (d.read path).toOption.getD [] = [104, 105] := by
    rw [Disk.toOption_read leads noSlash, Disk.content?, found]
    rfl
  obtain ⟨appends, tells⟩ := lines_are_lossless
  obtain ⟨d₂, log₂, lines, ran, areLines, content, -⟩ :=
    appends d d path .json _ [.packet {}, .reopen .text, .packet tagged] opened (by decide)
  rw [held] at content
  refine ⟨⟨_, d₂, log₂, lines, opened, ran, areLines.length_eq.symm, content⟩, fun same => ?_⟩
  have alike := ((tells {} tagged (by decide) (by decide)).1 .json).mp same
  exact absurd alike.vlan (by decide)

end MetadataLog

end Wiretap
