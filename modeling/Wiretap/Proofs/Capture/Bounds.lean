import Mathlib.Algebra.BigOperators.Group.List.Basic
import Wiretap.Proofs.Capture.Renewal
import Wiretap.Proofs.Capture.Rotation
import Wiretap.Proofs.Counter.Shown

/-!
# Archives within bounds

The bytes that an archive accounts for are those of its file, so that no file grows beyond the limit
by more than a record, and whatever is counted is told by the readings of the counters.

## Main definitions

* `Archive.Use`, `Archive.uses` - what is done with an open archive, and where that leads to.
* `Archive.Outcome`, `Archive.outcomes` - what the writes of a history came to.
* `Archive.readings` - the counts that were read in a history.
* `Archive.Accounts` - what is accounted and counted after some writes and readings.
* `Archive.Stands` - an archive whose file holds what is accounted.
* `Archive.IsClear` - an archive with no directory in the place of a file.
* `Archive.CountsUses`, `Archive.StaysWithin` - what is known of a history, and of its file.

## Main statements

* `Archive.outcome_write`, `Archive.accounts_uses` - one write, and what a history accounts for.
* `Archive.Stands.rotate` - a file that is full is followed by a new one, or still stands.
* `Archive.Stands.write`, `Archive.Stands.uses` - one write to a file, and a history.
* `Archive.IsClear.uses` - nothing gets in the way of a new file later on.
* `Archive.Accounts.countsUses`, `Archive.Stands.staysWithin` - what this is for a new archive.
* `Archive.uses_within_bounds` - sizes of files, changes of the file and counts along a history.

## Design notes

Nothing is asked of the disk that the archive was opened on but that it is sound, so a new file need
not be made: the path of the archive may lead through a directory that is in the place of one of its
backups.  A write that needs a new file fails then, and the old one still stands.

The host may refuse any write, at the record, of which some bytes may then be in the file, or before
it, at what was held back or at the new file.  Counts are right whatever it refuses.  An archive
that has got no new file from the host goes on with one that has moved up, which is no longer where
the archive was opened, so what is said of the file along a history leaves such histories out.

The outcome of a write says whether the file was to be changed and what it held, as the disk has it.
The bytes of a file and all counts are defined by outcomes alone, and are compared with what the
archive accounts for and with what is found on the disk.
-/

namespace Wiretap

namespace ArchiveCounts

/-- The counts under the names of their counters. -/
def amounts : List (String × (ArchiveCounts → Nat)) :=
  [("written-count", (·.frames)), ("written-bytes", (·.bytes)), ("rotations", (·.rotations))]

/-- Every count is shown under its name. -/
theorem shown_counters {name : String} {amount : ArchiveCounts → Nat}
    (named : (name, amount) ∈ amounts) (c : ArchiveCounts) :
    Counter.shown name c.counters = Counter.wrapped (amount c) := by
  simp only [amounts, List.mem_cons, Prod.mk.injEq, List.not_mem_nil, or_false] at named
  rcases named with ⟨rfl, rfl⟩ | ⟨rfl, rfl⟩ | ⟨rfl, rfl⟩ <;> rfl

/-- Two counts together. -/
def plus (c e : ArchiveCounts) : ArchiveCounts where
  frames := c.frames + e.frames
  bytes := c.bytes + e.bytes
  rotations := c.rotations + e.rotations

theorem amount_plus {c : String × (ArchiveCounts → Nat)} (named : c ∈ amounts)
    (x y : ArchiveCounts) : c.2 (x.plus y) = c.2 x + c.2 y := by
  simp only [amounts, List.mem_cons, List.not_mem_nil, or_false] at named
  rcases named with rfl | rfl | rfl <;> rfl

theorem amount_zero {c : String × (ArchiveCounts → Nat)} (named : c ∈ amounts) : c.2 {} = 0 := by
  simp only [amounts, List.mem_cons, List.not_mem_nil, or_false] at named
  rcases named with rfl | rfl | rfl <;> rfl

end ArchiveCounts

namespace Archive

open Disk

variable {d d' d₀ : Disk} {a a₀ : Archive} {path : Path} {backups limit : Nat} {content : Bytes}

/-! ## Histories -/

/-- What is done with an open archive. -/
inductive Use where
  /-- A frame is written.  The last value is what the host answers if it does not take the
  write. -/
  | write (frame : Bytes) (time : Duration) (refused : Option Refusal)
  | flush
  | readCounts

/-- The host makes the new file that a write may ask for. -/
def MakesFile (refused : Option Refusal) : Prop := ∀ fault, refused ≠ some (.file fault)

/-- The host takes all that a write does before the record. -/
def TakesChange : Option Refusal → Prop
  | none => True
  | some (.record _ _) => True
  | _ => False

theorem takesChange_cases (refused : Option Refusal) :
    TakesChange refused ∨ (∃ fault kept, refused = some (.flush fault kept)) ∨
      ∃ fault, refused = some (.file fault) := by
  match refused with
  | none => exact Or.inl trivial
  | some (.record fault kept) => exact Or.inl trivial
  | some (.flush fault kept) => exact Or.inr (Or.inl ⟨fault, kept, rfl⟩)
  | some (.file fault) => exact Or.inr (Or.inr ⟨fault, rfl⟩)

/-- The host makes the new file that a use may ask for. -/
def Use.IsServed : Use → Prop
  | .write _ _ refused => MakesFile refused
  | _ => True

/-- What a write came to. -/
structure Outcome where
  /-- The length of the frame. -/
  length : Nat
  /-- What the file held that was given up for a new one, or why none was made, if the file was to
  be changed before. -/
  change : Option (Except Fault Bytes)
  /-- Why the frame was not written, if it was not. -/
  fault : Option Fault
  /-- The number of bytes that a record which was not written leaves in the file. -/
  stray : Nat := 0

namespace Outcome

/-- What the file held that was given up for a new one, if one was made. -/
def closed (o : Outcome) : Option Bytes := o.change.bind Except.toOption

/-- The bytes of the record that was written. -/
def size (o : Outcome) : Nat := if o.fault.isNone then 16 + min o.length 65536 else 0

/-- What there is of something in the file, if there was so much before and the write adds to it. -/
def after (amount : Outcome → Nat) (before : Nat) (o : Outcome) : Nat :=
  (if o.closed.isSome then 0 else before) + amount o

/-- The part of the bytes of its record that is in the file. -/
def part (record : Bytes) (o : Outcome) : Bytes :=
  if o.fault.isNone then record else record.take o.stray

/-- What a write adds to the counts. -/
def counts (o : Outcome) : ArchiveCounts where
  frames := if o.fault.isNone then 1 else 0
  bytes := o.size
  rotations := if o.closed.isSome then 1 else 0

end Outcome

theorem Outcome.closed_eq_some {o : Outcome} :
    o.closed = some content ↔ o.change = some (.ok content) := by
  rw [closed, Option.bind_eq_some_iff]
  constructor
  · rintro ⟨_ | _, here, same⟩
    · cases same
    · cases same
      exact here
  · exact fun here => ⟨_, here, rfl⟩

/-- The bytes of the records that were written since the last change of the file. -/
def present (os : List Outcome) : Nat := os.foldl (Outcome.after Outcome.size) 0

/-- The bytes that refused records have left since the last change of the file. -/
def strays (os : List Outcome) : Nat := os.foldl (Outcome.after Outcome.stray) 0

/-- No more is in the file than was added at any time. -/
theorem foldl_after_le (amount : Outcome → Nat) (before : Nat) (os : List Outcome) :
    os.foldl (Outcome.after amount) before ≤ before + (os.map amount).sum := by
  induction os generalizing before with
  | nil => exact Nat.le_refl _
  | cons o os ih =>
    have first : o.after amount before ≤ before + amount o :=
      Nat.add_le_add_right (by split <;> omega) _
    have rest := ih (o.after amount before)
    rw [List.foldl_cons, List.map_cons, List.sum_cons]
    omega

theorem sum_stray_eq_zero {os : List Outcome} (taken : ∀ o ∈ os, o.stray = 0) :
    (os.map Outcome.stray).sum = 0 := by
  rw [List.map_congr_left taken, List.map_const', List.sum_replicate_nat, Nat.mul_zero]

/-- Where no record was refused none has left anything. -/
theorem strays_eq_zero {os : List Outcome} (taken : ∀ o ∈ os, o.stray = 0) : strays os = 0 := by
  have most := foldl_after_le Outcome.stray 0 os
  rw [sum_stray_eq_zero taken] at most
  exact Nat.le_zero.mp most

/-- What the file holds when everything that was written has reached the disk. -/
def flushed (d : Disk) (a : Archive) : Option Bytes := (a.flush d).1.content? a.place

/-- Why the host does not take a record, if it does not. -/
def recordFault? : Option Refusal → Option Fault
  | some (.record fault _) => some fault
  | _ => none

/-- The bytes of the record of a frame that come to be in the file, if there is one to take them. -/
def taken (frame : Bytes) (time : Duration) : Option Refusal → Bytes
  | some (.record _ kept) => (Capture.Record.ofFrame frame time).encode.take kept
  | _ => (Capture.Record.ofFrame frame time).encode

/-- How many bytes a refused record leaves. -/
def leftOf (frame : Bytes) (time : Duration) (refused : Option Refusal) : Nat :=
  if (recordFault? refused).isNone then 0 else (taken frame time refused).length

/-- What becomes of the file before a write. -/
def changeOf (d : Disk) (a : Archive) (refused : Option Refusal) : Option (Except Fault Bytes) :=
  if a.isFull then
    some <| match (a.rotate d refused).2.2 with
      | none => .ok ((a.flushed d).getD [])
      | some e => .error e
  else none

/-- What a write comes to. -/
def outcome (d : Disk) (a : Archive) (frame : Bytes) (time : Duration)
    (refused : Option Refusal) : Outcome where
  length := frame.length
  change := a.changeOf d refused
  fault := (a.write d frame time refused).2.2
  -- A write without a file fails whatever the host answers to the record.
  stray :=
    match a.changeOf d refused with
    | some (.error _) => 0
    | _ => leftOf frame time refused

/-- The disk and the archive after a use. -/
def use (d : Disk) (a : Archive) : Use → Disk × Archive
  | .write frame time refused =>
    let (d, a, _) := a.write d frame time refused
    (d, a)
  | .flush => a.flush d
  | .readCounts => (d, a.readCounts.1)

/-- What a use comes to, if it is a write. -/
def comesTo (d : Disk) (a : Archive) : Use → List Outcome
  | .write frame time refused => [a.outcome d frame time refused]
  | _ => []

/-- What a use reads of the counts. -/
def reading (a : Archive) : Use → List ArchiveCounts
  | .readCounts => [a.readCounts.2]
  | _ => []

/-- The disk and the archive after a history. -/
def uses (d : Disk) (a : Archive) : List Use → Disk × Archive
  | [] => (d, a)
  | u :: us => uses (a.use d u).1 (a.use d u).2 us

/-- What the writes of a history come to. -/
def outcomes (d : Disk) (a : Archive) : List Use → List Outcome
  | [] => []
  | u :: us => a.comesTo d u ++ outcomes (a.use d u).1 (a.use d u).2 us

/-- The counts that are read in a history. -/
def readings (d : Disk) (a : Archive) : List Use → List ArchiveCounts
  | [] => []
  | u :: us => a.reading u ++ readings (a.use d u).1 (a.use d u).2 us

/-- A reading at the end of a history gives the counts that are left. -/
theorem readings_concat (d : Disk) (a : Archive) (us : List Use) :
    readings d a (us ++ [.readCounts]) = readings d a us ++ [(uses d a us).2.counts] := by
  induction us generalizing d a with
  | nil => rfl
  | cons u us ih => rw [List.cons_append, readings, ih, readings, uses, List.append_assoc]

/-! ## What a write comes to -/

theorem length_data_ofFrame (frame : Bytes) (time : Duration) :
    (Capture.Record.ofFrame frame time).data.length = min frame.length 65536 := by
  rw [Capture.Record.ofFrame, List.length_take, Capture.snapLength, Nat.min_comm]

section Offer

variable (a : Archive) (frame : Bytes) (time : Duration) (refused : Option Refusal)

/-- What a write comes to where there is a file to take the record. -/
def offered (change : Option (Except Fault Bytes)) : Outcome :=
  ⟨frame.length, change, recordFault? refused, leftOf frame time refused⟩

/-- The host refuses the record, or all of it is taken. -/
theorem offer_cases :
    (∃ fault kept, refused = some (.record fault kept)) ∨
      a.offer frame time refused = (a.add frame time, none) ∧ recordFault? refused = none ∧
        taken frame time refused = (Capture.Record.ofFrame frame time).encode := by
  match refused with
  | some (.record fault kept) => exact Or.inl ⟨fault, kept, rfl⟩
  | none => exact Or.inr ⟨rfl, rfl, rfl⟩
  | some (.flush fault kept) => exact Or.inr ⟨rfl, rfl, rfl⟩
  | some (.file fault) => exact Or.inr ⟨rfl, rfl, rfl⟩

theorem part_offered (change : Option (Except Fault Bytes)) :
    (offered frame time refused change).part (Capture.Record.ofFrame frame time).encode =
      taken frame time refused := by
  match refused with
  | none => rfl
  | some (.record fault kept) =>
    change List.take (List.take kept _).length _ = List.take kept _
    rw [List.length_take, ← List.take_eq_take_min]
  | some (.flush fault kept) => rfl
  | some (.file fault) => rfl

theorem fault_offer : (a.offer frame time refused).2 = recordFault? refused := by
  rcases a.offer_cases frame time refused with ⟨fault, kept, rfl⟩ | ⟨adds, takes, -⟩
  · rfl
  · rw [adds, takes]

theorem accounted_offer : (a.offer frame time refused).1.accounted =
    a.accounted + (offered frame time refused none).size := by
  rcases a.offer_cases frame time refused with ⟨fault, kept, rfl⟩ | ⟨adds, takes, -⟩
  · rfl
  · rw [adds, offered, takes]
    exact congrArg (fun n => a.accounted + (16 + n)) (length_data_ofFrame frame time)

theorem counts_offer : (a.offer frame time refused).1.counts =
    a.counts.plus (offered frame time refused none).counts := by
  rcases a.offer_cases frame time refused with ⟨fault, kept, rfl⟩ | ⟨adds, takes, -⟩
  · rfl
  · rw [adds, offered, takes]
    exact congrArg (fun n => a.counts.plus ⟨1, 16 + n, 0⟩) (length_data_ofFrame frame time)

theorem limit_offer : (a.offer frame time refused).1.limit = a.limit := by
  rcases a.offer_cases frame time refused with ⟨fault, kept, rfl⟩ | ⟨adds, -, -⟩
  · rfl
  · rw [adds]
    rfl

end Offer

/-- A write to a file that is not full. -/
theorem write_within (room : a.isFull = false) (d : Disk) (frame : Bytes) (time : Duration)
    (refused : Option Refusal) :
    a.use d (.write frame time refused) = (d, (a.offer frame time refused).1) ∧
      a.outcome d frame time refused = offered frame time refused none := by
  simp [use, outcome, changeOf, Archive.write, room, offered, fault_offer]

/-- A write after a change of the file. -/
theorem write_restarted {b : Archive} {refused : Option Refusal} (full : a.isFull = true)
    (rotated : a.rotate d refused = (d', b, none)) (frame : Bytes) (time : Duration) :
    a.use d (.write frame time refused) = (d', (b.offer frame time refused).1) ∧
      a.outcome d frame time refused =
        offered frame time refused (some (.ok ((a.flushed d).getD []))) := by
  simp [use, outcome, changeOf, Archive.write, full, rotated, offered, fault_offer]

/-- A write that finds the file full and gets no new one. -/
theorem write_blocked {b : Archive} {e : Fault} {refused : Option Refusal} (full : a.isFull = true)
    (rotated : a.rotate d refused = (d', b, some e)) (frame : Bytes) (time : Duration) :
    a.use d (.write frame time refused) = (d', b) ∧
      a.outcome d frame time refused = ⟨frame.length, some (.error e), some e, 0⟩ := by
  simp [use, outcome, changeOf, Archive.write, full, rotated]

/-- A host that takes the change of the file is not asked about anything else there. -/
theorem rotate_of_takesChange {refused : Option Refusal} (takes : TakesChange refused) :
    a.rotate d refused = a.rotate d := by
  match refused with
  | none | some (.record fault kept) => rfl
  | some (.flush fault kept) | some (.file fault) => exact takes.elim

/-- There is a new file, or nothing that is accounted or counted has changed. -/
theorem rotate_cases (d : Disk) (a : Archive) (refused : Option Refusal) :
    (∃ d' place, a.rotate d refused = (d', a.restart place, none)) ∨
      ∃ d' b e, a.rotate d refused = (d', b, some e) ∧ b.limit = a.limit ∧
        b.accounted = a.accounted ∧ b.counts = a.counts := by
  rcases takesChange_cases refused with takes | ⟨fault, kept, rfl⟩ | ⟨fault, rfl⟩
  · rw [rotate_of_takesChange takes]
    cases opened : (shift (a.flush d).1 a.path a.backups).openFile a.path .truncate with
    | ok made => exact Or.inl ⟨made.1, made.2, rotate_of_openFile opened⟩
    | error e => exact Or.inr ⟨_, _, e, rotate_of_error opened, rfl, rfl, rfl⟩
  · exact Or.inr ⟨_, _, fault, rotate_flush .., rfl, rfl, rfl⟩
  · exact Or.inr ⟨_, _, fault, rotate_file .., rfl, rfl, rfl⟩

theorem isFull_iff : a.isFull = true ↔ 0 < a.limit ∧ a.limit < a.accounted := by
  rw [isFull, Bool.and_eq_true, decide_eq_true_iff, decide_eq_true_iff]

/-- No record is longer than its header and the bytes that it has room for. -/
theorem Outcome.size_le (o : Outcome) : o.size ≤ 65552 := by
  unfold size
  split <;> omega

/-! ## What is accounted and counted -/

/-- What an archive accounts for and counts after some writes and readings.  The bytes of the file
are those of the writes and within the limit, a file was to be changed only if there is a limit, and
what was read and what is left to be read are the counts of the writes. -/
structure Accounts (a : Archive) (os : List Outcome) (rs : List ArchiveCounts) (a' : Archive) :
    Prop where
  limit_eq : a'.limit = a.limit
  accounted : a'.accounted = os.foldl (Outcome.after Outcome.size) a.accounted
  within : (0 < a.limit → a.accounted ≤ a.limit + 65552) →
    0 < a.limit → a'.accounted ≤ a.limit + 65552
  limited : ∀ o ∈ os, o.change.isSome → 0 < a.limit
  counted : ∀ c ∈ ArchiveCounts.amounts,
    (rs.map c.2).sum + c.2 a'.counts = c.2 a.counts + (os.map fun o => c.2 o.counts).sum

namespace Accounts

variable {a' a'' : Archive} {os os' : List Outcome} {rs rs' : List ArchiveCounts}

/-- Nothing was written and nothing was read. -/
theorem of_counts (limit : a'.limit = a.limit) (accounted : a'.accounted = a.accounted)
    (counts : a'.counts = a.counts) : Accounts a [] [] a' where
  limit_eq := limit
  accounted := accounted
  within before limited := accounted ▸ before limited
  limited := nofun
  counted c _ := by rw [counts]; exact Nat.add_comm ..

theorem trans (first : Accounts a os rs a') (rest : Accounts a' os' rs' a'') :
    Accounts a (os ++ os') (rs ++ rs') a'' where
  limit_eq := rest.limit_eq.trans first.limit_eq
  accounted := by rw [List.foldl_append, ← first.accounted, rest.accounted]
  within before limited := by
    have between := first.within before
    have after := rest.within
    rw [first.limit_eq] at after
    exact after between limited
  limited o member :=
    (List.mem_append.mp member).elim (first.limited o) fun here =>
      first.limit_eq ▸ rest.limited o here
  counted c named := by
    have before := first.counted c named
    have after := rest.counted c named
    rw [List.map_append, List.map_append, List.sum_append, List.sum_append]
    omega

end Accounts

/-- **One write**, whatever the host refuses: the outcome tells what is accounted and counted. -/
theorem outcome_write (d : Disk) (a : Archive) (frame : Bytes) (time : Duration)
    (refused : Option Refusal) :
    let o := a.outcome d frame time refused
    let after := (a.use d (.write frame time refused)).2
    after.limit = a.limit ∧ after.accounted = o.after Outcome.size a.accounted ∧
      after.counts = a.counts.plus o.counts ∧
      (o.change.isSome ↔ 0 < a.limit ∧ a.limit < a.accounted) ∧
      (o.change.isSome → o.closed.isSome ∨ o.size = 0) ∧
      ∀ e, o.change = some (.error e) → o.fault = some e := by
  -- A file that is not full goes on.  One that is full is followed by a new one, or by none.
  cases full : a.isFull with
  | false =>
    have notFull : ¬ (0 < a.limit ∧ a.limit < a.accounted) := by simp [← isFull_iff, full]
    obtain ⟨used, came⟩ := write_within full d frame time refused
    rw [used, came]
    exact ⟨limit_offer .., accounted_offer .., counts_offer ..,
      ⟨nofun, fun beyond => absurd beyond notFull⟩, nofun, nofun⟩
  | true =>
    have beyond := isFull_iff.mp full
    rcases rotate_cases d a refused with ⟨d', place, rotated⟩ | ⟨d', b, e, rotated, l, n, c⟩
    · obtain ⟨used, came⟩ := write_restarted full rotated frame time
      rw [used, came]
      exact ⟨limit_offer .., accounted_offer .., counts_offer .., ⟨fun _ => beyond, fun _ => rfl⟩,
        fun _ => Or.inl rfl, nofun⟩
    · obtain ⟨used, came⟩ := write_blocked full rotated frame time
      rw [used, came]
      refine ⟨l, n, c, ⟨fun _ => beyond, fun _ => rfl⟩, fun _ => Or.inr rfl, ?_⟩
      rintro _ ⟨⟩
      rfl

/-- Every use is accounted. -/
theorem accounts_use (d : Disk) (a : Archive) (u : Use) :
    Accounts a (a.comesTo d u) (a.reading u) (a.use d u).2 := by
  cases u with
  | write frame time refused =>
    obtain ⟨limit, accounted, counted, changed, restarts, -⟩ := outcome_write d a frame time refused
    refine ⟨limit, accounted, fun before limited => ?_, fun o member here => ?_, fun c named => ?_⟩
    · rw [accounted, Outcome.after]
      have most := (a.outcome d frame time refused).size_le
      have still := before limited
      by_cases beyond : a.limit < a.accounted
      · rcases restarts (changed.mpr ⟨limited, beyond⟩) with closed | nothing
        · rw [if_pos closed]
          omega
        · rw [nothing]
          split <;> omega
      · split <;> omega
    · rw [List.mem_singleton.mp member] at here
      exact (changed.mp here).1
    · have amount := congrArg c.2 counted
      rw [ArchiveCounts.amount_plus named] at amount
      simpa [comesTo, reading] using amount
  | flush => exact .of_counts rfl rfl rfl
  | readCounts =>
    refine ⟨rfl, rfl, id, nofun, fun c named => ?_⟩
    have nothing : c.2 (a.use d .readCounts).2.counts = 0 := ArchiveCounts.amount_zero named
    simp [nothing, comesTo, reading, Archive.readCounts]

/-- A history is accounted. -/
theorem accounts_uses (d : Disk) (a : Archive) (us : List Use) :
    Accounts a (a.outcomes d us) (a.readings d us) (a.uses d us).2 := by
  induction us generalizing d a with
  | nil => exact .of_counts rfl rfl rfl
  | cons u us ih => exact (accounts_use d a u).trans (ih _ _)

/-! ## A file that stands -/

/-- An archive whose file holds what is accounted and what refused records left. -/
structure Stands (d : Disk) (a : Archive) (path : Path) (backups stray : Nat) (content : Bytes) :
    Prop where
  path_eq : a.path = path
  backups_eq : a.backups = backups
  named : path.IsNamed
  place_eq : a.place = spot d.home path
  isFile : (a.flush d).1.IsFile a.place content
  length_eq : content.length = 24 + a.accounted + stray

/-- What was closed held more than the limit, by no more than a record and what refused records
left. -/
def ClosesWithin (limit stray : Nat) (os : List Outcome) : Prop :=
  ∀ c ∈ os.filterMap (·.closed), 24 + limit < c.length ∧
    c.length ≤ 24 + (limit + 65552) + (stray + (os.map Outcome.stray).sum)

theorem ClosesWithin.trans {stray : Nat} {os os' : List Outcome}
    (first : ClosesWithin limit stray os)
    (rest : ClosesWithin limit (os.foldl (Outcome.after Outcome.stray) stray) os') :
    ClosesWithin limit stray (os ++ os') := by
  intro c member
  have left := foldl_after_le Outcome.stray stray os
  rw [List.map_append, List.sum_append]
  rw [List.filterMap_append] at member
  rcases List.mem_append.mp member with here | here
  · obtain ⟨more, most⟩ := first c here
    exact ⟨more, by omega⟩
  · obtain ⟨more, most⟩ := rest c here
    exact ⟨more, by omega⟩

namespace Stands

variable {stray : Nat}

theorem flushed (h : Stands d a path backups stray content) : a.flushed d = some content :=
  h.isFile.content?

/-- The file is at the spot of its path once it is flushed. -/
theorem isFile_spot (h : Stands d a path backups stray content) :
    (a.flush d).1.IsFile (spot (a.flush d).1.home path) content := by
  have home : (a.flush d).1.home = d.home := home_append ..
  rw [home, ← h.place_eq]
  exact h.isFile

/-- A record more. -/
theorem add (h : Stands d a path backups stray content) (frame : Bytes) (time : Duration) :
    Stands d (a.add frame time) path backups stray
      (content ++ (Capture.Record.ofFrame frame time).encode) where
  path_eq := h.path_eq
  backups_eq := h.backups_eq
  named := h.named
  place_eq := h.place_eq
  isFile := by
    rw [flush_add]
    exact h.isFile.append _
  length_eq := by
    have size : (a.add frame time).accounted =
        a.accounted + (Capture.Record.ofFrame frame time).encode.length := by
      rw [Capture.Record.length_encode]
      rfl
    rw [List.length_append, h.length_eq, size]
    omega

/-- Some bytes more that are of no record. -/
theorem leave (h : Stands d a path backups stray content) (bytes : Bytes) :
    Stands d (a.leave bytes) path backups (stray + bytes.length) (content ++ bytes) where
  path_eq := h.path_eq
  backups_eq := h.backups_eq
  named := h.named
  place_eq := h.place_eq
  isFile := by
    rw [flush_leave]
    exact h.isFile.append _
  length_eq := by
    rw [List.length_append, h.length_eq, Nat.add_assoc _ stray]
    rfl

/-- A record more, or what is left of it if the host refuses it. -/
theorem offer (h : Stands d a path backups stray content) (frame : Bytes) (time : Duration)
    (refused : Option Refusal) :
    Stands d (a.offer frame time refused).1 path backups (stray + leftOf frame time refused)
      (content ++ taken frame time refused) := by
  rcases a.offer_cases frame time refused with ⟨fault, kept, rfl⟩ | ⟨adds, takes, same⟩
  · exact h.leave _
  · rw [adds, leftOf, takes, same]
    exact h.add frame time

/-- Moving what was written to the disk changes nothing of it. -/
theorem flush (h : Stands d a path backups stray content) :
    Stands (a.flush d).1 (a.flush d).2 path backups stray content where
  path_eq := h.path_eq
  backups_eq := h.backups_eq
  named := h.named
  place_eq := h.place_eq.trans (congrArg (spot · path) (home_append ..).symm)
  isFile := h.isFile.append_nil
  length_eq := h.length_eq

/-- So does moving some of it. -/
theorem flushPart (h : Stands d a path backups stray content) (kept : Nat) :
    Stands (a.flushPart d kept).1 (a.flushPart d kept).2 path backups stray content where
  path_eq := h.path_eq
  backups_eq := h.backups_eq
  named := h.named
  place_eq := h.place_eq.trans (congrArg (spot · path) (home_append ..).symm)
  isFile := by
    have all : ((a.flushPart d kept).2.flush (a.flushPart d kept).1).1 = (a.flush d).1 := by
      simp [Archive.flush, Archive.flushPart, append_append, heldBack]
    rw [all]
    exact h.isFile
  length_eq := h.length_eq

theorem readCounts (h : Stands d a path backups stray content) :
    Stands d a.readCounts.1 path backups stray content :=
  ⟨h.path_eq, h.backups_eq, h.named, h.place_eq, h.isFile, h.length_eq⟩

/-- **A change of the file.**  A new file is made that holds its header only, or none is made and
the old file still stands. -/
theorem rotate (h : Stands d a path backups stray content) {refused : Option Refusal}
    (makes : MakesFile refused) :
    (∃ d', a.rotate d refused = (d', a.restart a.place, none) ∧
        Stands d' (a.restart a.place) path backups 0 Capture.fileHeader) ∨
      ∃ d' b e, a.rotate d refused = (d', b, some e) ∧
        Stands d' b path backups stray content := by
  rcases takesChange_cases refused with takes | ⟨fault, kept, rfl⟩ | ⟨fault, rfl⟩
  · rw [rotate_of_takesChange takes]
    have home : (a.flush d).1.home = d.home := home_append ..
    have here := h.isFile_spot
    obtain ⟨rfl, rfl⟩ := And.intro h.path_eq h.backups_eq
    -- The file moves up as it was flushed, and nothing is held back for it after that.
    rcases renew_isFile h.named here a.backups with
      ⟨d', opened, same, isFile⟩ | ⟨e, blocked, stays, isFile⟩
    · rw [home, ← h.place_eq] at opened isFile
      refine Or.inl ⟨d', rotate_of_openFile opened, rfl, rfl, h.named, ?_, ?_, ?_⟩
      · rw [same, home]
        exact h.place_eq
      · exact isFile.append Capture.fileHeader
      · exact Capture.length_fileHeader
    · rw [home, ← h.place_eq] at isFile stays
      have same : (shift (a.flush d).1 a.path a.backups).home = d.home :=
        (edits_shift rfl).home.trans home
      have unmoved : ((a.flush d).2.moveUp (a.flush d).1).2 = (a.flush d).2 :=
        congrArg (fun place => { (a.flush d).2 with place }) stays
      refine Or.inr ⟨_, _, e, rotate_of_error blocked, ?_⟩
      rw [unmoved]
      refine ⟨rfl, rfl, h.named, ?_, isFile.append_nil, h.length_eq⟩
      exact h.place_eq.trans (congrArg (spot · a.path) same.symm)
  · exact Or.inr ⟨_, _, fault, rotate_flush .., h.flushPart kept⟩
  · exact absurd rfl (makes fault)

/-- **One write.**  The file holds a record more, behind its header only if the file was full and a
new one was made. -/
theorem write (h : Stands d a path backups stray content) (frame : Bytes) (time : Duration)
    {refused : Option Refusal} (makes : MakesFile refused) :
    let o := a.outcome d frame time refused
    let after := a.use d (.write frame time refused)
    Stands after.1 after.2 path backups (o.after Outcome.stray stray)
        ((if o.closed.isSome then Capture.fileHeader else content) ++
          o.part (Capture.Record.ofFrame frame time).encode) ∧
      ∀ c, o.change = some (.ok c) → c = content := by
  cases full : a.isFull with
  | false =>
    obtain ⟨used, came⟩ := write_within full d frame time refused
    rw [used, came]
    dsimp only
    rw [part_offered]
    exact ⟨h.offer frame time refused, nofun⟩
  | true =>
    rcases h.rotate makes with ⟨d', rotated, new⟩ | ⟨d', b, e, rotated, still⟩
    · obtain ⟨used, came⟩ := write_restarted full rotated frame time
      rw [h.flushed, Option.getD_some] at came
      rw [used, came]
      dsimp only
      rw [part_offered]
      refine ⟨new.offer frame time refused, ?_⟩
      rintro _ ⟨⟩
      rfl
    · obtain ⟨used, came⟩ := write_blocked full rotated frame time
      rw [used, came]
      exact ⟨(List.append_nil content).symm ▸ still, nofun⟩

/-- Where the host refuses a new file the archive goes on with the old one, which holds what it
held. -/
theorem flushed_rotate_file (h : Stands d a path backups stray content) (fault : Fault) :
    (a.rotate d (some (.file fault))).2.1.flushed (a.rotate d (some (.file fault))).1 =
      some content := by
  have home : (a.flush d).1.home = d.home := home_append ..
  have here := h.isFile_spot
  obtain ⟨rfl, rfl⟩ := And.intro h.path_eq h.backups_eq
  have followed := content?_placeAfterShift h.named here a.backups
  rw [home, ← h.place_eq] at followed
  let after := placeAfterShift (a.flush d).1 a.path a.backups a.place
  change ((shift (a.flush d).1 a.path a.backups).append after []).content? after = _
  rw [Disk.content?, node?_append_nil]
  exact followed

/-- What the file of an archive holds after a write, whatever the host refuses. -/
theorem flushed_write (h : Stands d a path backups stray content) (frame : Bytes)
    (time : Duration) (refused : Option Refusal) :
    let o := a.outcome d frame time refused
    let after := a.use d (.write frame time refused)
    after.2.flushed after.1 =
        some ((if o.closed.isSome then Capture.fileHeader else content) ++
          o.part (Capture.Record.ofFrame frame time).encode) ∧
      ∀ c, o.change = some (.ok c) → c = content := by
  by_cases makes : MakesFile refused
  · obtain ⟨still, closes⟩ := h.write frame time makes
    exact ⟨still.flushed, closes⟩
  · obtain ⟨fault, isFile⟩ := not_forall.mp makes
    obtain rfl := not_ne_iff.mp isFile
    cases full : a.isFull with
    | false =>
      obtain ⟨used, came⟩ := write_within full d frame time (some (.file fault))
      rw [used, came]
      exact ⟨(h.offer frame time _).flushed, nofun⟩
    | true =>
      obtain ⟨used, came⟩ := write_blocked full (rotate_file d a fault) frame time
      rw [used, came]
      refine ⟨(h.flushed_rotate_file fault).trans ?_, nofun⟩
      exact congrArg some (List.append_nil content).symm

/-- **One use.**  The file stands, and what it closes is within bounds. -/
theorem use (h : Stands d a path backups stray content)
    (within : 0 < a.limit → a.accounted ≤ a.limit + 65552) {u : Use} (served : u.IsServed) :
    (∃ content, Stands (a.use d u).1 (a.use d u).2 path backups
        ((a.comesTo d u).foldl (Outcome.after Outcome.stray) stray) content) ∧
      ClosesWithin a.limit stray (a.comesTo d u) := by
  cases u with
  | write frame time refused =>
    obtain ⟨still, closes⟩ := h.write frame time served
    obtain ⟨-, -, -, changed, -⟩ := outcome_write d a frame time refused
    refine ⟨⟨_, still⟩, fun c member => ?_⟩
    obtain ⟨o, here, gave⟩ := List.mem_filterMap.mp member
    rw [List.mem_singleton.mp here, Outcome.closed_eq_some] at gave
    obtain ⟨limited, beyond⟩ := changed.mp (by rw [gave]; rfl)
    have length := h.length_eq
    have most := within limited
    rw [closes c gave]
    omega
  | flush => exact ⟨⟨_, h.flush⟩, nofun⟩
  | readCounts => exact ⟨⟨_, h.readCounts⟩, nofun⟩

/-- **A history.**  The file stands, and all that is closed is within bounds. -/
theorem uses (h : Stands d a path backups stray content)
    (within : 0 < a.limit → a.accounted ≤ a.limit + 65552) {us : List Use}
    (served : ∀ u ∈ us, u.IsServed) :
    (∃ content, Stands (a.uses d us).1 (a.uses d us).2 path backups
        ((a.outcomes d us).foldl (Outcome.after Outcome.stray) stray) content) ∧
      ClosesWithin a.limit stray (a.outcomes d us) := by
  induction us generalizing d a content stray with
  | nil => exact ⟨⟨content, h⟩, nofun⟩
  | cons u us ih =>
    obtain ⟨⟨_, next⟩, first⟩ := h.use within (served u List.mem_cons_self)
    have accounts := accounts_use d a u
    have later := ih next (accounts.limit_eq ▸ accounts.within within) fun u member =>
      served u (List.mem_cons_of_mem _ member)
    obtain ⟨⟨_, still⟩, rest⟩ := later
    rw [accounts.limit_eq] at rest
    rw [outcomes, List.foldl_append]
    exact ⟨⟨_, still⟩, first.trans rest⟩

end Stands

/-! ## No directory in the way -/

/-- No directory is in the place of a file of the archive, and its path leads to its file. -/
structure IsClear (d : Disk) (a : Archive) (home : Place) (path : Path) (backups : Nat) : Prop where
  path_eq : a.path = path
  backups_eq : a.backups = backups
  home_eq : d.home = home
  noSlash : path.endsWithSlash = false
  tidy : d.IsTidy (IsPlace home path backups)
  leads : d.locate path = .ok a.place

namespace IsClear

variable {home : Place}

/-- Bytes more in the file. -/
theorem append (h : IsClear d a home path backups) (bytes : Bytes) (pending : List Bytes) :
    IsClear (d.append a.place bytes) { a with pending } home path backups := by
  have ours : IsPlace home path backups a.place :=
    isPlace_of_locate (i := 0) h.home_eq (Nat.zero_le _) h.leads
  have edits := edits_append (d := d) bytes (Or.inr ours)
  exact ⟨h.path_eq, h.backups_eq, edits.home.trans h.home_eq, h.noSlash, edits.tidy h.tidy,
    locate_of_directories edits.home (h.tidy.directory edits.toSpares) h.leads⟩

theorem offer (h : IsClear d a home path backups) (frame : Bytes) (time : Duration)
    (refused : Option Refusal) : IsClear d (a.offer frame time refused).1 home path backups := by
  rcases a.offer_cases frame time refused with ⟨fault, kept, rfl⟩ | ⟨adds, -, -⟩
  · exact ⟨h.path_eq, h.backups_eq, h.home_eq, h.noSlash, h.tidy, h.leads⟩
  · rw [adds]
    exact ⟨h.path_eq, h.backups_eq, h.home_eq, h.noSlash, h.tidy, h.leads⟩

/-- The file changes, and nothing gets in the way. -/
theorem rotate (h : IsClear d a home path backups) :
    ∃ d', a.rotate d = (d', a.restart a.place, none) ∧
      IsClear d' (a.restart a.place) home path backups := by
  have flushed := h.append a.heldBack []
  obtain ⟨rfl, rfl⟩ := And.intro h.path_eq h.backups_eq
  obtain ⟨d', opened, home_eq, tidy, leads⟩ :=
    exists_openFile_shift_of_tidy flushed.tidy flushed.home_eq h.noSlash flushed.leads
  exact ⟨d', rotate_of_openFile opened, rfl, rfl, home_eq, h.noSlash, tidy, leads⟩

/-- Nothing gets in the way later on. -/
theorem use (h : IsClear d a home path backups) {u : Use} (served : u.IsServed) :
    IsClear (a.use d u).1 (a.use d u).2 home path backups := by
  cases u with
  | write frame time refused =>
    cases full : a.isFull with
    | false =>
      rw [(write_within full d frame time refused).1]
      exact h.offer frame time refused
    | true =>
      rcases takesChange_cases refused with takes | ⟨fault, kept, rfl⟩ | ⟨fault, rfl⟩
      · obtain ⟨d', rotated, new⟩ := h.rotate
        rw [← rotate_of_takesChange takes] at rotated
        rw [(write_restarted full rotated frame time).1]
        exact new.offer frame time refused
      · rw [(write_blocked full (rotate_flush d a fault kept) frame time).1]
        exact h.append _ _
      · exact absurd rfl (served fault)
  | flush => exact h.append _ _
  | readCounts => exact ⟨h.path_eq, h.backups_eq, h.home_eq, h.noSlash, h.tidy, h.leads⟩

theorem uses (h : IsClear d a home path backups) {us : List Use}
    (served : ∀ u ∈ us, u.IsServed) :
    IsClear (a.uses d us).1 (a.uses d us).2 home path backups := by
  induction us generalizing d a with
  | nil => exact h
  | cons u us ih =>
    exact ih (h.use (served u List.mem_cons_self)) fun u member =>
      served u (List.mem_cons_of_mem _ member)

end IsClear

/-! ## Bounds -/

/-- The file of an archive that was opened on a sound disk holds its header. -/
theorem stands_of_open' {mebibytes : Nat} (sound : d.IsSound)
    (opened : Archive.open' d path mebibytes backups = (d₀, .ok a₀)) :
    Stands d₀ a₀ path backups 0 Capture.fileHeader := by
  obtain ⟨named, place_eq, isFile, -, same⟩ := isFile_of_open' sound opened
  refine ⟨by rw [same], by rw [same], named, place_eq, ?_, ?_⟩
  · have header := isFile.append Capture.fileHeader
    rw [same] at header ⊢
    exact header
  · rw [same]
    exact Capture.length_fileHeader

/-- An archive that was opened accounts for nothing and has counted nothing. -/
theorem fresh_of_open' {mebibytes : Nat} (sound : d.IsSound)
    (opened : Archive.open' d path mebibytes backups = (d₀, .ok a₀)) :
    a₀.accounted = 0 ∧ a₀.counts = {} ∧ a₀.limit = min (mebibytes * 2 ^ 20) (2 ^ 64 - 1) := by
  obtain ⟨-, -, -, -, same⟩ := isFile_of_open' sound opened
  rw [same]
  exact ⟨rfl, rfl, rfl⟩

/-- Nothing is in the way of an archive that was opened where no directory is in the place of a
file. -/
theorem isClear_of_open' {mebibytes : Nat} (sound : d.IsSound)
    (opened : Archive.open' d path mebibytes backups = (d₀, .ok a₀))
    (tidy : d₀.IsTidy (IsPlace d₀.home path backups)) :
    IsClear d₀ a₀ d₀.home path backups := by
  obtain ⟨named, -, -, leads, same⟩ := isFile_of_open' sound opened
  exact ⟨by rw [same], by rw [same], rfl, named.endsWithSlash, tidy, leads⟩

section Totals

variable (os : List Outcome)

theorem length_eq_sum : os.length = (os.map fun _ => 1).sum := by
  rw [List.map_const', List.sum_replicate_nat, Nat.mul_one]

/-- Only some outcomes add to a sum. -/
theorem sum_of_some (p : Outcome → Bool) (amount : Outcome → Nat) :
    (os.map fun o => if p o then amount o else 0).sum = ((os.filter p).map amount).sum := by
  have split := List.sum_map_ite (fun o => p o = true) amount (fun _ => 0) os
  simpa using split

theorem sum_rotations :
    (os.map fun o => o.counts.rotations).sum = (os.filterMap (·.closed)).length := by
  rw [List.length_filterMap_eq_countP, List.countP_eq_length_filter]
  exact (sum_of_some os (·.closed.isSome) fun _ => 1).trans (length_eq_sum _).symm

theorem sum_frames :
    (os.map fun o => o.counts.frames).sum = (os.filter (·.fault.isNone)).length :=
  (sum_of_some os (·.fault.isNone) fun _ => 1).trans (length_eq_sum _).symm

theorem sum_bytes : (os.map fun o => o.counts.bytes).sum =
    ((os.filter (·.fault.isNone)).map fun o => 16 + min o.length 65536).sum :=
  sum_of_some os (·.fault.isNone) fun o => 16 + min o.length 65536

end Totals

/-- An archive after writes of certain outcomes, with all readings of its counts. -/
structure CountsUses (limit : Nat) (os : List Outcome) (all : List ArchiveCounts) (a : Archive) :
    Prop where
  /-- The file is changed before a write just if there is a limit and its records are beyond it. -/
  changes_iff : ∀ d frame time refused,
    (a.outcome d frame time refused).change.isSome ↔ 0 < limit ∧ limit < present os
  /-- Without a new file the write fails. -/
  fails : ∀ d frame time refused e, (a.outcome d frame time refused).change = some (.error e) →
    (a.outcome d frame time refused).fault = some e
  unlimited : limit = 0 → ∀ o ∈ os, o.change = none
  present_le : 0 < limit → present os ≤ limit + 65552
  rotations : (all.map (·.rotations)).sum = (os.filterMap (·.closed)).length
  frames : (all.map (·.frames)).sum = (os.filter (·.fault.isNone)).length
  bytes : (all.map (·.bytes)).sum =
    ((os.filter (·.fault.isNone)).map fun o => 16 + min o.length 65536).sum
  /-- The counters show these sums as far as 64 bits can say it. -/
  shown : ∀ c ∈ ArchiveCounts.amounts,
    Counter.shownAll c.1 (all.map (·.counters)) % 2 ^ 64 = (all.map c.2).sum % 2 ^ 64 ∧
      ((∀ r ∈ all, c.2 r < 2 ^ 64) →
        Counter.shownAll c.1 (all.map (·.counters)) = (all.map c.2).sum)

/-- An archive after writes of certain outcomes, whose file holds `content` once it is flushed. -/
structure StaysWithin (limit : Nat) (path : Path) (os : List Outcome) (d : Disk) (a : Archive)
    (content : Bytes) : Prop where
  holds : a.flushed d = some content
  place_eq : ∀ place, (a.flush d).1.locate path = .ok place → place = a.place
  /-- The file has its header, the records since it was made, and what refused records left. -/
  length_eq : content.length = 24 + present os + strays os
  length_eq_of_taken : (∀ o ∈ os, o.stray = 0) → content.length = 24 + present os
  /-- What the next write closes is all that the file held. -/
  closes : ∀ frame time refused c,
    (a.outcome d frame time refused).change = some (.ok c) → c = content
  /-- Its record stands behind the header of a new file, or behind what was there. -/
  next : ∀ frame time refused,
    (a.use d (.write frame time refused)).2.flushed (a.use d (.write frame time refused)).1 =
      some ((if (a.outcome d frame time refused).closed.isSome then Capture.fileHeader
        else content) ++
          (a.outcome d frame time refused).part (Capture.Record.ofFrame frame time).encode)
  lt_closed : ∀ c ∈ os.filterMap (·.closed), 24 + limit < c.length
  closed_le : (∀ o ∈ os, o.stray = 0) →
    ∀ c ∈ os.filterMap (·.closed), c.length ≤ 24 + (limit + 65552)

/-- A new archive counts the writes of a history, in its readings and what is left to be read. -/
theorem Accounts.countsUses {a' : Archive} {os : List Outcome} {rs : List ArchiveCounts}
    (accounts : Accounts a os rs a') (zero : a.accounted = 0) (uncounted : a.counts = {}) :
    CountsUses a.limit os (rs ++ [a'.counts]) a' := by
  have accounted : a'.accounted = present os := by
    rw [present, ← zero]
    exact accounts.accounted
  have total (c : String × (ArchiveCounts → Nat)) (named : c ∈ ArchiveCounts.amounts) :
      ((rs ++ [a'.counts]).map c.2).sum = (os.map fun o => c.2 o.counts).sum := by
    have counted := accounts.counted c named
    rw [uncounted, ArchiveCounts.amount_zero named, Nat.zero_add] at counted
    rw [← counted, List.map_append, List.sum_append, List.map_singleton, List.sum_singleton]
  exact {
    changes_iff := fun d frame time refused => by
      obtain ⟨-, -, -, changes, -⟩ := outcome_write d a' frame time refused
      rw [changes, accounts.limit_eq, accounted]
    fails := fun d frame time refused => (outcome_write d a' frame time refused).2.2.2.2.2
    unlimited := fun none_ o member => Option.not_isSome_iff_eq_none.mp fun here =>
      absurd (accounts.limited o member here) (by omega)
    present_le := accounted ▸ accounts.within fun _ => zero ▸ Nat.zero_le _
    rotations := (total ("rotations", (·.rotations)) (by simp [ArchiveCounts.amounts])).trans
      (sum_rotations os)
    frames := (total ("written-count", (·.frames)) (by simp [ArchiveCounts.amounts])).trans
      (sum_frames os)
    bytes := (total ("written-bytes", (·.bytes)) (by simp [ArchiveCounts.amounts])).trans
      (sum_bytes os)
    shown := fun c named =>
      have shows := ArchiveCounts.shown_counters named
      ⟨Counter.shownAll_mod shows _, Counter.shownAll_eq_sum_of_lt shows⟩ }

/-- A file that stands is within bounds, if that is so of those before it. -/
theorem Stands.staysWithin {os : List Outcome}
    (h : Stands d a path backups (strays os) content) (accounted : a.accounted = present os)
    (closed : ClosesWithin limit 0 os) : StaysWithin limit path os d a content where
  holds := h.flushed
  place_eq place leads := by
    rw [eq_spot_of_locate leads, h.place_eq]
    exact congrArg (spot · path) (home_append ..)
  length_eq := accounted ▸ h.length_eq
  length_eq_of_taken taken := by
    rw [h.length_eq, accounted, strays_eq_zero taken, Nat.add_zero]
  closes frame time refused := (h.flushed_write frame time refused).2
  next frame time refused := (h.flushed_write frame time refused).1
  lt_closed c member := (closed c member).1
  closed_le taken c member := by
    have most := (closed c member).2
    rwa [sum_stray_eq_zero taken, Nat.add_zero, Nat.add_zero] at most

/-- A file that is needed is there, if nothing is in the way and the host takes the change. -/
theorem IsClear.change_ne_error {home : Place} {refused : Option Refusal}
    (h : IsClear d a home path backups) (takes : TakesChange refused) (frame : Bytes)
    (time : Duration) (e : Fault) :
    (a.outcome d frame time refused).change ≠ some (.error e) := by
  intro failed
  obtain ⟨d', rotated, -⟩ := h.rotate
  change a.changeOf d refused = _ at failed
  rw [changeOf, rotate_of_takesChange takes, rotated] at failed
  split at failed <;> cases failed

/-- **An archive stays within bounds and counts exactly.**  An archive is opened on any sound disk,
and frames are written, its file is flushed and its counts are read in any order, with a last
reading at the end.  Whatever the host refuses, everything that is done is counted.  As long as it
makes the files that it is asked for, the file of the archive is within bounds; and where it takes
what is to be done before the record, a file that is needed is there, unless a directory is in the
place of a file of the archive. -/
theorem uses_within_bounds {mebibytes : Nat} (sound : d.IsSound)
    (opened : Archive.open' d path mebibytes backups = (d₀, .ok a₀)) (us : List Use) :
    let limit := min (mebibytes * 2 ^ 20) (2 ^ 64 - 1)
    let last := a₀.uses d₀ us
    CountsUses limit (a₀.outcomes d₀ us) (a₀.readings d₀ (us ++ [.readCounts])) last.2 ∧
      ((∀ u ∈ us, u.IsServed) →
        (∃ content, StaysWithin limit path (a₀.outcomes d₀ us) last.1 last.2 content) ∧
          (d₀.IsTidy (IsPlace d₀.home path backups) → ∀ frame time refused e,
            TakesChange refused →
              (last.2.outcome last.1 frame time refused).change ≠ some (.error e))) := by
  intro limit last
  obtain ⟨zero, uncounted, limited⟩ := fresh_of_open' sound opened
  have accounts := accounts_uses d₀ a₀ us
  have counts := accounts.countsUses zero uncounted
  rw [limited, ← readings_concat] at counts
  refine ⟨counts, fun served => ⟨?_, fun tidy frame time refused e takes => ?_⟩⟩
  · have accounted : last.2.accounted = present (a₀.outcomes d₀ us) := by
      rw [present, ← zero]
      exact accounts.accounted
    obtain ⟨⟨content, still⟩, closed⟩ :=
      (stands_of_open' sound opened).uses (fun _ => zero ▸ Nat.zero_le _) served
    rw [limited] at closed
    exact ⟨content, still.staysWithin accounted closed⟩
  · have clear := (isClear_of_open' sound opened tidy).uses served
    exact clear.change_ne_error takes frame time e

/-- Nothing is left of a record that the host takes. -/
theorem stray_outcome_none (d : Disk) (a : Archive) (frame : Bytes) (time : Duration) :
    (a.outcome d frame time none).stray = 0 := by
  simp only [outcome]
  split <;> rfl

/-- A history of writes that the host takes is a run, and nothing is left of a refused record. -/
theorem uses_map_write (d : Disk) (a : Archive) (ws : List (Bytes × Duration)) :
    let us := ws.map fun w => Use.write w.1 w.2 none
    a.uses d us = run d a ws ∧ a.readings d us = [] ∧ (∀ u ∈ us, u.IsServed) ∧
      ∀ o ∈ a.outcomes d us, o.stray = 0 := by
  induction ws generalizing d a with
  | nil => exact ⟨rfl, rfl, nofun, nofun⟩
  | cons w ws ih =>
    obtain ⟨ran, unread, served, taken⟩ := ih (a.write d w.1 w.2).1 (a.write d w.1 w.2).2.1
    exact ⟨ran, unread, List.forall_mem_cons.mpr ⟨nofun, served⟩,
      List.forall_mem_cons.mpr ⟨stray_outcome_none .., taken⟩⟩

/-- Seventeen frames, of which sixteen fill the file: it changes once, and what it held is more than
a mebibyte. -/
theorem uses_within_bounds_one_change :
    let d₀ : Disk := ({} : Disk).put ["capture.pcap"] (.file [])
    let a₀ : Archive :=
      { path := ⟨[], "capture.pcap"⟩, limit := limitOf 1, backups := 1, place := ["capture.pcap"]
        pending := [Capture.fileHeader] }
    let us := (List.replicate 16 zeroFrame ++ [zeroFrame]).map fun w => Use.write w.1 w.2 none
    let closed := (a₀.outcomes d₀ us).filterMap (·.closed)
    ({} : Disk).IsSound ∧ Archive.open' {} ⟨[], "capture.pcap"⟩ 1 1 = (d₀, .ok a₀) ∧
      closed.length = 1 ∧
      ∀ c ∈ closed, 24 + 1048576 < c.length ∧ c.length ≤ 24 + (1048576 + 65552) := by
  intro d₀ a₀ us closed
  have named : (Path.mk [] "capture.pcap").IsNamed := ⟨by decide, by decide, by decide⟩
  have admits : Admits "capture.pcap" := admits_iff.mpr ⟨by decide, by decide⟩
  have opened : Archive.open' {} ⟨[], "capture.pcap"⟩ 1 1 = (d₀, .ok a₀) :=
    open'_empty named admits 1 1
  obtain ⟨counts, stays⟩ := uses_within_bounds isSound_empty opened us
  obtain ⟨ran, unread, served, taken⟩ :=
    uses_map_write d₀ a₀ (List.replicate 16 zeroFrame ++ [zeroFrame])
  obtain ⟨⟨content, within⟩, -⟩ := stays served
  have absent (i : Nat) : (({} : Disk).makeFolderOf ⟨[], "capture.pcap"⟩).1.has
      (file ⟨[], "capture.pcap"⟩ i) = false := by
    rw [makeFolderOf_root {} named]
    exact has_empty named i
  obtain ⟨folder, fresh⟩ := keeps_of_open' isSound_empty absent opened
  have changed := fresh.rotations_run zeroFrame rfl (limited_one rfl) (room_zeroFrames rfl rfl)
    (beyond_zeroFrames rfl rfl)
  have rotations := counts.rotations
  rw [readings_concat, unread, ran, List.nil_append, List.map_singleton, List.sum_singleton,
    changed] at rotations
  exact ⟨isSound_empty, opened, rotations.symm, fun c member =>
    ⟨within.lt_closed c member, within.closed_le taken c member⟩⟩

end Archive

end Wiretap
