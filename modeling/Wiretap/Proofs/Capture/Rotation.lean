import Wiretap.Proofs.Capture.Backups
import Wiretap.Proofs.Capture.ReadBack

/-!
# What an archive keeps

An archive reads back as the latest part of what was written to it: its file and its backups hold
the last stretches of frames between changes of the file, every frame once and in order.

## Main definitions

* `Disk.records?` - the records read from a file.
* `Archive.run` - a run of writes.
* `Archive.writtenSince` - the frames written after so many changes of the file.
* `Archive.Keeps` - the files of an archive hold the latest of the given stretches of frames.

## Main statements

* `Archive.Keeps.add`, `Archive.Keeps.restart` - one frame more, and one file more.
* `Archive.Keeps.run` - what a run of writes adds to the stretches.
* `Archive.run_reads_back` - the records of all files of an archive, from the last backup to the
  file, are those of the latest frames.

## Design notes

The stretches are listed from the latest one on, as the files are, and all of them are kept in the
invariant: those that no file holds any more show how many changes there were.  What was written and
has not reached the disk belongs to the file, so the invariant is about the disk after a flush.

The host takes every record.  A backup whose name it does not take is lost at once, so only names up
to the last backup that is needed have to fit.
-/

namespace Wiretap

/-- The records read from a file. -/
def Disk.records? (d : Disk) (p : Path) : Option (List Capture.Record) :=
  (d.read p).toOption.bind Capture.read?

namespace Archive

open Disk

variable {d d' : Disk} {a : Archive} {path : Path} {folder place : Place} {backups : Nat}
  {current : List (Bytes × Duration)} {older stretches : List (List (Bytes × Duration))}

/-! ### Runs -/

/-- The archive after a run of writes. -/
def run (d : Disk) (a : Archive) : List (Bytes × Duration) → Disk × Archive
  | [] => (d, a)
  | w :: ws =>
    let (d, a, _) := a.write d w.1 w.2
    run d a ws

/-- The frames that were written after so many changes of the file. -/
def writtenSince (changes : Nat) (d : Disk) (a : Archive) :
    List (Bytes × Duration) → List (Bytes × Duration)
  | [] => []
  | w :: ws =>
    let (d, a, fault) := a.write d w.1 w.2
    let rest := writtenSince changes d a ws
    if fault = none ∧ changes ≤ a.counts.rotations then w :: rest else rest

/-- The records of frames. -/
def records (ws : List (Bytes × Duration)) : List Capture.Record :=
  ws.map fun w => .ofFrame w.1 w.2

theorem isFramed_records (ws : List (Bytes × Duration)) : ∀ r ∈ records ws, r.IsFramed := by
  intro r member
  obtain ⟨w, -, rfl⟩ := List.mem_map.mp member
  exact Capture.Record.isFramed_ofFrame w.1 w.2

/-- The archive with a new file. -/
def restart (a : Archive) (place : Place) : Archive :=
  { a with
    place
    pending := [Capture.fileHeader]
    accounted := 0
    counts := { a.counts with rotations := a.counts.rotations + 1 } }

/-- A frame goes to the present file where that is not full. -/
theorem write_of_not_isFull (notFull : a.isFull = false) (frame : Bytes) (time : Duration) :
    a.write d frame time = (d, a.add frame time, none) := by
  simp [write, notFull]

/-- The file changes where a new one is made. -/
theorem rotate_of_openFile
    (opened : (shift (a.flush d).1 a.path a.backups).openFile a.path .truncate = .ok (d', place)) :
    a.rotate d = (d', a.restart place, none) := by
  simp only [flush] at opened
  simp only [rotate, flush, opened]
  rfl

/-- The archive stays with its file where none is made. -/
theorem rotate_of_error {e : Fault}
    (refused : (shift (a.flush d).1 a.path a.backups).openFile a.path .truncate = .error e) :
    a.rotate d =
      (((a.flush d).2.moveUp (a.flush d).1).1, ((a.flush d).2.moveUp (a.flush d).1).2, some e) := by
  simp only [flush] at refused
  simp only [rotate, flush, refused]

/-- A frame goes to a new file where the present one is full. -/
theorem write_of_isFull (full : a.isFull = true)
    (opened : (shift (a.flush d).1 a.path a.backups).openFile a.path .truncate = .ok (d', place))
    (frame : Bytes) (time : Duration) :
    a.write d frame time = (d', (a.restart place).add frame time, none) := by
  simp [write, full, rotate_of_openFile opened]

/-- No write takes back a change of the file. -/
theorem rotations_le_write (d : Disk) (a : Archive) (frame : Bytes) (time : Duration) :
    a.counts.rotations ≤ (a.write d frame time).2.1.counts.rotations := by
  cases full : a.isFull with
  | false =>
    rw [write_of_not_isFull full]
    exact Nat.le_refl _
  | true =>
    cases opened : (shift (a.flush d).1 a.path a.backups).openFile a.path .truncate with
    | error e =>
      have written : (a.write d frame time).2 =
          (((a.flush d).2.moveUp (a.flush d).1).2, some e) := by
        simp [write, full, rotate_of_error opened]
      rw [written]
      exact Nat.le_refl _
    | ok made =>
      rw [write_of_isFull full opened]
      exact Nat.le_succ _

theorem rotations_le_run (d : Disk) (a : Archive) (ws : List (Bytes × Duration)) :
    a.counts.rotations ≤ (run d a ws).2.counts.rotations := by
  induction ws generalizing d a with
  | nil => exact Nat.le_refl _
  | cons w ws ih => exact Nat.le_trans (rotations_le_write d a w.1 w.2) (ih _ _)

/-- A record more is held back behind what is. -/
theorem flush_add (d : Disk) (a : Archive) (frame : Bytes) (time : Duration) :
    ((a.add frame time).flush d).1 =
      (a.flush d).1.append a.place (Capture.Record.ofFrame frame time).encode := by
  simp only [flush, append_append]
  simp [Archive.add, Archive.append, heldBack]

/-- So are bytes of no record. -/
theorem flush_leave (d : Disk) (a : Archive) (bytes : Bytes) :
    ((a.leave bytes).flush d).1 = (a.flush d).1.append a.place bytes := by
  simp only [flush, append_append]
  simp [Archive.leave, heldBack]

/-- The bytes of the records of frames. -/
def recordBytes (ws : List (Bytes × Duration)) : Nat :=
  ((records ws).map fun r => Capture.Record.headerSize + r.data.length).sum

/-- The archive with some frames more in the present file. -/
def addAll (a : Archive) (ws : List (Bytes × Duration)) : Archive :=
  ws.foldl (fun a w => a.add w.1 w.2) a

theorem recordBytes_cons (w : Bytes × Duration) (ws : List (Bytes × Duration)) :
    recordBytes (w :: ws) = recordBytes [w] + recordBytes ws := by
  simp [recordBytes, records]

theorem accounted_addAll (a : Archive) (ws : List (Bytes × Duration)) :
    (a.addAll ws).accounted = a.accounted + recordBytes ws := by
  induction ws generalizing a with
  | nil => rfl
  | cons w ws ih =>
    have first : (a.add w.1 w.2).accounted = a.accounted + recordBytes [w] := rfl
    rw [addAll, List.foldl_cons, ← addAll, ih, first, recordBytes_cons w ws, Nat.add_assoc]

/-- More frames change neither the file nor the counted changes. -/
theorem addAll_frame (a : Archive) (ws : List (Bytes × Duration)) :
    (a.addAll ws).path = a.path ∧ (a.addAll ws).limit = a.limit ∧
      (a.addAll ws).backups = a.backups ∧ (a.addAll ws).place = a.place ∧
      (a.addAll ws).counts.rotations = a.counts.rotations := by
  induction ws generalizing a with
  | nil => exact ⟨rfl, rfl, rfl, rfl, rfl⟩
  | cons w ws ih => exact ih (a.add w.1 w.2)

/-- The file stays the same as long as no write finds more than the limit. -/
theorem run_within {ws : List (Bytes × Duration)} (rest : List (Bytes × Duration))
    (room : ∀ n < ws.length, a.accounted + recordBytes (ws.take n) ≤ a.limit) :
    run d a (ws ++ rest) = run d (a.addAll ws) rest := by
  induction ws generalizing a with
  | nil => rfl
  | cons w ws ih =>
    have notFull : a.isFull = false := by
      have now : a.accounted + 0 ≤ a.limit := room 0 (by simp)
      rw [isFull, Bool.and_eq_false_iff, decide_eq_false_iff_not, decide_eq_false_iff_not]
      omega
    rw [List.cons_append, run, write_of_not_isFull notFull]
    refine ih fun n below => ?_
    have next := room (n + 1) (by simpa using below)
    have first : (a.add w.1 w.2).accounted = a.accounted + recordBytes [w] := rfl
    rw [List.take_succ_cons, recordBytes_cons] at next
    rw [first, Nat.add_assoc]
    exact next

/-- The first write that finds more than the limit goes to a new file. -/
theorem run_beyond {ws : List (Bytes × Duration)} (w : Bytes × Duration) (limited : 0 < a.limit)
    (room : ∀ n < ws.length, a.accounted + recordBytes (ws.take n) ≤ a.limit)
    (beyond : a.limit < a.accounted + recordBytes ws)
    (opened : (shift ((a.addAll ws).flush d).1 a.path a.backups).openFile a.path .truncate =
      .ok (d', place)) :
    run d a (ws ++ [w]) = (d', ((a.addAll ws).restart place).add w.1 w.2) := by
  obtain ⟨path, limit, backups, -⟩ := addAll_frame a ws
  have full : (a.addAll ws).isFull = true := by
    rw [isFull, limit, accounted_addAll, decide_eq_true limited, decide_eq_true beyond]
    rfl
  rw [← path, ← backups] at opened
  rw [run_within [w] room, run, write_of_isFull full opened]
  rfl

/-! ### The invariant -/

/-- The contents of the files that hold the latest of the given stretches. -/
def contents (backups : Nat) (stretches : List (List (Bytes × Duration))) (i : Nat) :
    Option Bytes :=
  (stretches.take (backups + 1))[i]?.map fun ws => Capture.encode (records ws)

/-- The files of an archive hold the latest of the given stretches of frames, of which the last was
written since the last change of the file. -/
structure Keeps (d : Disk) (a : Archive) (path : Path) (folder : Place) (backups : Nat)
    (stretches : List (List (Bytes × Duration))) : Prop where
  path_eq : a.path = path
  backups_eq : a.backups = backups
  place_eq : a.place = slot path folder 0
  rotations : a.counts.rotations + 1 = stretches.length
  holds : Holds (a.flush d).1 path folder (contents backups stretches)

theorem contents_zero (backups : Nat) (current : List (Bytes × Duration))
    (older : List (List (Bytes × Duration))) :
    contents backups (current :: older) 0 = some (Capture.encode (records current)) := rfl

/-- One frame more. -/
theorem contents_concat (backups : Nat) (current : List (Bytes × Duration))
    (older : List (List (Bytes × Duration))) (w : Bytes × Duration) :
    contents backups ((current ++ [w]) :: older) =
      Function.update (contents backups (current :: older)) 0
        (some (Capture.encode (records current) ++ (Capture.Record.ofFrame w.1 w.2).encode)) := by
  funext i
  cases i with
  | zero =>
    rw [contents_zero, Function.update_self, records, List.map_append, ← Capture.encode_concat]
    rfl
  | succ i => simp [contents]

/-- One file more. -/
theorem contents_restart (backups : Nat) (stretches : List (List (Bytes × Duration))) :
    contents backups ([] :: stretches) =
      Function.update (renewed backups (contents backups stretches)) 0
        (some ([] ++ Capture.fileHeader)) := by
  funext i
  cases i with
  | zero =>
    rw [contents_zero, Function.update_self, List.nil_append]
    exact congrArg some Capture.encode_nil
  | succ i =>
    rw [Function.update_of_ne (by omega)]
    simp only [contents, renewed, List.take_succ_cons, List.getElem?_cons_succ,
      List.getElem?_take]
    grind

namespace Keeps

variable {w : Bytes × Duration} {ws : List (Bytes × Duration)}

theorem exists_cons (h : Keeps d a path folder backups stretches) :
    ∃ current older, stretches = current :: older :=
  List.exists_cons_of_length_pos (by have := h.rotations; omega)

/-- The file has a name that the host takes. -/
theorem own (h : Keeps d a path folder backups stretches) : Admits path.leaf := by
  obtain ⟨current, older, rfl⟩ := h.exists_cons
  exact h.holds.admits 0 (by simp [contents_zero])

/-- One frame more in the present file. -/
theorem add (h : Keeps d a path folder backups (current :: older)) (w : Bytes × Duration) :
    Keeps d (a.add w.1 w.2) path folder backups ((current ++ [w]) :: older) where
  path_eq := h.path_eq
  backups_eq := h.backups_eq
  place_eq := h.place_eq
  rotations := h.rotations
  holds := by
    rw [flush_add, contents_concat, h.place_eq]
    exact h.holds.append (contents_zero ..) _

/-- One file more, and what was in it before moves to the backups. -/
theorem restart (h : Keeps d a path folder backups stretches)
    (admits : ∀ i < backups, i < stretches.length → Admits (file path (i + 1)).leaf)
    (opened : (shift (a.flush d).1 path backups).openFile path .truncate = .ok (d', place)) :
    Keeps d' (a.restart place) path folder backups ([] :: stretches) := by
  have needed (i : Nat) (kept : i < backups) (some_ : contents backups stretches i ≠ none) :
      Admits (file path (i + 1)).leaf := by
    refine admits i kept (Nat.lt_of_not_le fun beyond => some_ ?_)
    rw [contents, Option.map_eq_none_iff, List.getElem?_eq_none_iff, List.length_take]
    omega
  obtain ⟨_, renewed, holds⟩ := h.holds.renew h.own backups needed
  cases renewed.symm.trans opened
  refine ⟨h.path_eq, h.backups_eq, rfl, by simp [Archive.restart, h.rotations], ?_⟩
  rw [contents_restart]
  exact holds.append rfl Capture.fileHeader

end Keeps

/-! ### What a run adds -/

/-- The frames of all stretches but the first ones. -/
def since (changes : Nat) (stretches : List (List (Bytes × Duration))) :
    List (Bytes × Duration) :=
  (stretches.reverse.drop changes).flatten

theorem since_cons (changes : Nat) (ws : List (Bytes × Duration))
    (older : List (List (Bytes × Duration))) :
    since changes (ws :: older) =
      since changes older ++ if changes ≤ older.length then ws else [] := by
  rw [since, since, List.reverse_cons, List.drop_append, List.flatten_append,
    List.length_reverse]
  split
  · next le => simp [Nat.sub_eq_zero_of_le le]
  · next lt =>
    have beyond : changes - older.length = (changes - older.length - 1) + 1 := by omega
    rw [beyond]
    simp

namespace Keeps

variable {w : Bytes × Duration} {ws : List (Bytes × Duration)}

/-- **One write.**  Its frame becomes the last one of the last stretch, or the first one of a new
stretch if the file has changed. -/
theorem write (h : Keeps d a path folder backups stretches) (w : Bytes × Duration) :
    ∃ d' a', a.write d w.1 w.2 = (d', a', none) ∧
      ((∀ i < backups, i < a'.counts.rotations → Admits (file path (i + 1)).leaf) →
        ∃ after, Keeps d' a' path folder backups after ∧
          ∀ changes, since changes after =
            since changes stretches ++ if changes ≤ a'.counts.rotations then [w] else []) := by
  obtain ⟨current, older, rfl⟩ := h.exists_cons
  have length := h.rotations
  rw [List.length_cons] at length
  cases full : a.isFull with
  | false =>
    refine ⟨d, a.add w.1 w.2, write_of_not_isFull full .., fun _ => ⟨_, h.add w, fun changes => ?_⟩⟩
    have same : (a.add w.1 w.2).counts.rotations = older.length := Nat.succ.inj length
    rw [since_cons, since_cons, same, List.append_assoc]
    split <;> simp
  | true =>
    obtain rfl := h.path_eq
    obtain rfl := h.backups_eq
    -- The new file is made whatever the names are; only what the backups hold depends on them.
    obtain ⟨d', opened⟩ := h.holds.exists_openFile_shift h.own a.backups
    refine ⟨d', _, write_of_isFull full opened .., fun admits => ?_⟩
    have more : ((a.restart (slot a.path folder 0)).add w.1 w.2).counts.rotations =
        (current :: older).length := congrArg (· + 1) (Nat.succ.inj length)
    rw [more] at admits ⊢
    have restarted := h.restart admits opened
    exact ⟨_, restarted.add w, fun changes => since_cons ..⟩

/-- **A run of writes.**  Every write succeeds, and its frames are added to the stretches. -/
theorem run (h : Keeps d a path folder backups stretches) (ws : List (Bytes × Duration))
    (admits : ∀ i < backups, i < (Archive.run d a ws).2.counts.rotations →
      Admits (file path (i + 1)).leaf) :
    writtenSince 0 d a ws = ws ∧
      ∃ after, Keeps (Archive.run d a ws).1 (Archive.run d a ws).2 path folder backups after ∧
        ∀ changes,
          since changes after = since changes stretches ++ writtenSince changes d a ws := by
  induction ws generalizing d a stretches with
  | nil => exact ⟨rfl, stretches, h, fun changes => (List.append_nil _).symm⟩
  | cons w ws ih =>
    obtain ⟨d', a', written, step⟩ := h.write w
    have ran : Archive.run d a (w :: ws) = Archive.run d' a' ws := by
      rw [Archive.run, written]
    have told (changes : Nat) : writtenSince changes d a (w :: ws) =
        (if changes ≤ a'.counts.rotations then [w] else []) ++ writtenSince changes d' a' ws := by
      rw [writtenSince, written]
      by_cases late : changes ≤ a'.counts.rotations <;> simp [late]
    rw [ran] at admits ⊢
    -- The names fit up to the last change of the run, so up to the changes so far.
    obtain ⟨middle, kept, added⟩ := step fun i below changed =>
      admits i below (Nat.lt_of_lt_of_le changed (rotations_le_run d' a' ws))
    obtain ⟨all, after, keeps, more⟩ := ih kept admits
    refine ⟨by rw [told, all]; rfl, after, keeps, fun changes => ?_⟩
    rw [more, added, told, List.append_assoc]

end Keeps

/-! ### What is read -/

/-- The files hold the records of the stretches that are kept, from the file to the last backup. -/
theorem Keeps.exists_files (h : Keeps d a path folder backups stretches) :
    ∃ files : List (List Capture.Record), files.length = min a.counts.rotations backups + 1 ∧
      (∀ i, (a.flush d).1.records? (file path i) = files[i]?) ∧
      files.reverse.flatten =
        records (since (a.counts.rotations - min a.counts.rotations backups) stretches) := by
  have length := h.rotations
  refine ⟨(stretches.take (backups + 1)).map records, ?_, fun i => ?_, ?_⟩
  · rw [List.length_map, List.length_take]
    omega
  · rw [Disk.records?, h.holds.read, contents, List.getElem?_map]
    cases (stretches.take (backups + 1))[i]? with
    | none => rfl
    | some ws => exact Capture.read?_encode (isFramed_records ws)
  · have beyond : stretches.length - (backups + 1) =
        a.counts.rotations - min a.counts.rotations backups := by omega
    rw [← List.map_reverse, List.reverse_take, beyond, since, records, List.map_flatten]
    rfl

/-- An archive that was opened where none of its files were holds no frame. -/
theorem keeps_of_open' {mebibytes : Nat} (sound : d.IsSound)
    (absent : ∀ i, (d.makeFolderOf path).1.has (file path i) = false)
    (opened : Archive.open' d path mebibytes backups = (d', .ok a)) :
    ∃ folder, Keeps d' a path folder backups [[]] := by
  obtain ⟨folder, holds, rfl⟩ := holds_of_open' sound absent opened
  refine ⟨folder, rfl, rfl, rfl, rfl, ?_⟩
  let empty : Nat → Option Bytes := Function.update (fun _ => none) 0 (some [])
  have header : contents backups [[]] =
      Function.update empty 0 (some ([] ++ Capture.fileHeader)) := by
    funext i
    cases i with
    | zero => exact congrArg some Capture.encode_nil
    | succ i => simp [contents, empty]
  rw [header]
  exact holds.append (Function.update_self ..) Capture.fileHeader

theorem since_nothing (changes : Nat) : since changes [[]] = [] := by
  cases changes <;> simp [since]

/-! ### A full file -/

theorem recordBytes_replicate (n : Nat) (w : Bytes × Duration) :
    recordBytes (List.replicate n w) =
      n * (Capture.Record.headerSize + min Capture.snapLength w.1.length) := by
  simp [recordBytes, records, Capture.Record.ofFrame]

/-- A frame of which a record holds all, and no longer one would do. -/
def zeroFrame : Bytes × Duration := (List.replicate 65536 0, .zero)

theorem length_zeroFrame : zeroFrame.1.length = 65536 := List.length_replicate

theorem recordBytes_zeroFrames (n : Nat) :
    recordBytes (List.replicate n zeroFrame) = n * 65552 := by
  rw [recordBytes_replicate, length_zeroFrame, Capture.snapLength, Nat.min_self,
    Capture.Record.headerSize]

theorem limitOf_one : limitOf 1 = 1048576 := Nat.min_eq_left (by decide)

/-- Fifteen such frames are less than a mebibyte. -/
theorem room_zeroFrames (limit : a.limit = limitOf 1) (fresh : a.accounted = 0) :
    ∀ n < (List.replicate 16 zeroFrame).length,
      a.accounted + recordBytes ((List.replicate 16 zeroFrame).take n) ≤ a.limit := by
  intro n below
  rw [List.length_replicate] at below
  rw [limit, fresh, List.take_replicate, recordBytes_zeroFrames, limitOf_one]
  omega

/-- Sixteen such frames are more than a mebibyte. -/
theorem beyond_zeroFrames (limit : a.limit = limitOf 1) (fresh : a.accounted = 0) :
    a.limit < a.accounted + recordBytes (List.replicate 16 zeroFrame) := by
  rw [limit, fresh, recordBytes_zeroFrames, limitOf_one]
  decide

theorem limited_one (limit : a.limit = limitOf 1) : 0 < a.limit := by
  rw [limit, limitOf_one]
  decide

/-- The file changes for the first time with the first write that finds more than the limit. -/
theorem Keeps.rotations_run {ws : List (Bytes × Duration)} (w : Bytes × Duration)
    (h : Keeps d a path folder backups stretches) (fresh : a.counts.rotations = 0)
    (limited : 0 < a.limit)
    (room : ∀ n < ws.length, a.accounted + recordBytes (ws.take n) ≤ a.limit)
    (beyond : a.limit < a.accounted + recordBytes ws) :
    (Archive.run d a (ws ++ [w])).2.counts.rotations = 1 := by
  obtain ⟨path_eq, -, backups_eq, -, rotations⟩ := addAll_frame a ws
  have same : Archive.run d a ws = (d, a.addAll ws) := by
    have ran := run_within [] room (d := d)
    rwa [List.append_nil] at ran
  obtain ⟨-, stretches, keeps, -⟩ := h.run ws fun i _ changed => by
    rw [same, rotations, fresh] at changed
    exact absurd changed (Nat.not_lt_zero i)
  rw [same] at keeps
  obtain ⟨d', opened⟩ := keeps.holds.exists_openFile_shift keeps.own backups
  rw [← h.path_eq, ← h.backups_eq] at opened
  rw [run_beyond w limited room beyond opened]
  exact congrArg (· + 1) (rotations.trans fresh)

/-! ### Reading back -/

/-- **An archive reads back as the latest part of what was written.**  After a run of writes to an
archive that was opened where none of its files were, and a flush, its files are those up to the
last backup that is kept, each of them reads as a capture file, and the records from the last backup
to the file are those of the frames written since the change that made the last backup the present
file. -/
theorem run_reads_back {d d₀ d₁ : Disk} {a₀ a₁ : Archive} {path : Path} {mebibytes backups : Nat}
    {ws : List (Bytes × Duration)} (sound : d.IsSound)
    (absent : ∀ i, (d.makeFolderOf path).1.has (file path i) = false)
    (opened : Archive.open' d path mebibytes backups = (d₀, .ok a₀))
    (ran : run d₀ a₀ ws = (d₁, a₁))
    (fits : ∀ i, 1 ≤ i → i ≤ min a₁.counts.rotations backups →
      (file path i).leaf.utf8ByteSize ≤ longestName)
    (short : ∀ w ∈ ws, w.1.length < 2 ^ 32) :
    let disk := (a₁.flush d₁).1
    let kept := min a₁.counts.rotations backups
    let latest := writtenSince (a₁.counts.rotations - kept) d₀ a₀ ws
    writtenSince 0 d₀ a₀ ws = ws ∧ latest <:+ ws ∧
      (a₁.counts.rotations ≤ backups → latest = ws) ∧
      (∀ i, disk.has (file path i) = true ↔ i ≤ kept) ∧
      (∃ files : List (List Capture.Record), files.length = kept + 1 ∧
        (∀ i, disk.records? (file path i) = files[i]?) ∧
        files.reverse.flatten = records latest) ∧
      ∀ w ∈ ws, (Capture.Record.ofFrame w.1 w.2).secs.toNat = w.2.secs % 2 ^ 32 ∧
        (Capture.Record.ofFrame w.1 w.2).micros.toNat = w.2.subMicros ∧
        (Capture.Record.ofFrame w.1 w.2).included.toNat = min w.1.length 65536 ∧
        (Capture.Record.ofFrame w.1 w.2).frameLength.toNat = w.1.length ∧
        (Capture.Record.ofFrame w.1 w.2).data = w.1.take 65536 := by
  intro disk kept latest
  obtain ⟨folder, fresh⟩ := keeps_of_open' sound absent opened
  have admits (i : Nat) (below : i < backups) (changed : i < (run d₀ a₀ ws).2.counts.rotations) :
      Admits (file path (i + 1)).leaf := by
    simp only [ran] at changed
    exact admits_numbered fresh.own (fits (i + 1) (by omega) (by omega))
  obtain ⟨all, stretches, keeps, added⟩ := fresh.run ws admits
  simp only [ran] at keeps
  have told (changes : Nat) : since changes stretches = writtenSince changes d₀ a₀ ws := by
    rw [added, since_nothing, List.nil_append]
  have whole : stretches.reverse.flatten = ws := by rw [← all, ← told, since, List.drop_zero]
  refine ⟨all, ?_, fun enough => ?_, fun i => ?_, ?_, fun w member => ?_⟩
  · obtain ⟨before, split⟩ := List.drop_suffix (a₁.counts.rotations - kept) stretches.reverse
    refine ⟨before.flatten, ?_⟩
    rw [show latest = since _ stretches from (told _).symm, since, ← List.flatten_append, split,
      whole]
  · have none_ : a₁.counts.rotations - kept = 0 := by omega
    rw [show latest = writtenSince 0 d₀ a₀ ws from congrArg (writtenSince · d₀ a₀ ws) none_, all]
  · have length := keeps.rotations
    rw [keeps.holds.has, contents, Option.isSome_map, isSome_getElem?, List.length_take]
    omega
  · obtain ⟨files, length, read, joined⟩ := keeps.exists_files
    exact ⟨files, length, read, by rw [joined, told]⟩
  · exact Capture.Record.fields_ofFrame (short w member) w.2

/-- Sixteen frames fill a file, and with the next one it becomes the backup. -/
theorem run_reads_back_one_backup :
    ∃ d₀ a₀ d₁ a₁, Archive.open' {} ⟨[], "capture.pcap"⟩ 1 1 = (d₀, .ok a₀) ∧
      run d₀ a₀ (List.replicate 16 zeroFrame ++ [zeroFrame]) = (d₁, a₁) ∧
      a₁.counts.rotations = 1 ∧
      ∃ files : List (List Capture.Record), files.length = 2 ∧
        (∀ i, (a₁.flush d₁).1.records? (file ⟨[], "capture.pcap"⟩ i) = files[i]?) ∧
        files.reverse.flatten = records (List.replicate 16 zeroFrame ++ [zeroFrame]) := by
  have named : (Path.mk [] "capture.pcap").IsNamed := ⟨by decide, by decide, by decide⟩
  have admits : Admits "capture.pcap" := admits_iff.mpr ⟨by decide, by decide⟩
  have made : ({} : Disk).makeFolderOf ⟨[], "capture.pcap"⟩ = ({}, .ok ()) :=
    makeFolderOf_root {} named
  have absent (i : Nat) : (({} : Disk).makeFolderOf ⟨[], "capture.pcap"⟩).1.has
      (file ⟨[], "capture.pcap"⟩ i) = false := by
    rw [made]
    exact has_empty named i
  have opened := open'_empty named admits 1 1
  have fits (i : Nat) (first : 1 ≤ i) (last : i ≤ 1) :
      (file ⟨[], "capture.pcap"⟩ i).leaf.utf8ByteSize ≤ longestName := by
    obtain rfl : i = 1 := by omega
    decide
  have short (w : Bytes × Duration) (member : w ∈ List.replicate 16 zeroFrame ++ [zeroFrame]) :
      w.1.length < 2 ^ 32 := by
    have same : w = zeroFrame := by simpa using member
    rw [same, length_zeroFrame]
    decide
  obtain ⟨folder, fresh⟩ := keeps_of_open' isSound_empty absent opened
  have changed := fresh.rotations_run zeroFrame rfl (limited_one rfl) (room_zeroFrames rfl rfl)
    (beyond_zeroFrames rfl rfl)
  generalize ran : run _ _ (List.replicate 16 zeroFrame ++ [zeroFrame]) = after at changed
  obtain ⟨d₁, a₁⟩ := after
  have changed : a₁.counts.rotations = 1 := changed
  have result := run_reads_back isSound_empty absent opened ran
    (fun i first last => fits i first (by omega)) short
  rw [changed] at result
  obtain ⟨-, -, all, -, ⟨files, length, read, joined⟩, -⟩ := result
  rw [all (by decide)] at joined
  exact ⟨_, _, d₁, a₁, opened, ran, changed, files, length, read, joined⟩

end Archive

end Wiretap
