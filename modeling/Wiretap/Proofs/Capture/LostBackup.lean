import Wiretap.Proofs.Capture.Rotation

/-!
# Backups that cannot be made

A file that cannot be moved is written anew all the same, so what it held is lost at the next change
of the file, however many backups are wanted.

## Main definitions

* `Archive.LosesBackup` - an archive with one backup loses that with the first change of its file.

## Main statements

* `Archive.run_stuck` - a file that nothing moves holds one frame after its first change.
* `Archive.losesBackup_of_not_admits` - a name with which that of the backup is too long.
* `Archive.losesBackup_longName_and_crossedPath` - a name of 254 bytes, and a path whose own folder
  is in the place of the backup.

## Design notes

Nothing of the archive is there when it is opened in both cases.  They are the reason why
`Archive.run_reads_back` asks for names that fit, and for free places after the folder was made.
-/

namespace Wiretap

namespace Archive

open Disk

variable {d : Disk} {a : Archive} {path : Path} {place : Place}

/-- What was written before a change of the file is lost if the file cannot be moved. -/
theorem run_stuck {ws : List (Bytes × Duration)} (w : Bytes × Duration) (notRoot : a.place ≠ [])
    (limited : 0 < a.limit)
    (room : ∀ n < ws.length, a.accounted + recordBytes (ws.take n) ≤ a.limit)
    (beyond : a.limit < a.accounted + recordBytes ws) (noSlash : a.path.endsWithSlash = false)
    (leads : ∀ content, (d.put a.place (.file content)).locate a.path = .ok a.place)
    (stuck : ∀ content, shift (d.put a.place (.file content)) a.path a.backups =
      d.put a.place (.file content)) :
    ∃ d₁ a₁, run (d.put a.place (.file [])) a (ws ++ [w]) = (d₁, a₁) ∧
      a₁.counts.rotations = a.counts.rotations + 1 ∧
      (a₁.flush d₁).1 = d.put a.place (.file (Capture.encode (records [w]))) := by
  have isFile (content : Bytes) :
      (d.put a.place (.file content)).node? a.place = some (.file content) :=
    node?_put_self d notRoot _
  have appended (content more : Bytes) :
      (d.put a.place (.file content)).append a.place more =
        d.put a.place (.file (content ++ more)) := by
    rw [Disk.append, content?, isFile]
    exact put_put ..
  have reopened (content : Bytes) :
      (d.put a.place (.file content)).openFile a.path .truncate =
        .ok (d.put a.place (.file []), a.place) := by
    rw [openFile_of_locate (leads content) noSlash (by simp [isFile]), put_put]
  obtain ⟨-, -, -, place_eq, rotations⟩ := addAll_frame a ws
  have opened : (shift ((a.addAll ws).flush (d.put a.place (.file []))).1 a.path
      a.backups).openFile a.path .truncate = .ok (d.put a.place (.file []), a.place) := by
    rw [flush, place_eq, appended, stuck, reopened]
  have held : (((a.addAll ws).restart a.place).add w.1 w.2).heldBack =
      Capture.encode (records [w]) := by
    simp [heldBack, Archive.add, Archive.append, restart, Capture.encode, records]
  refine ⟨_, _, run_beyond w limited room beyond opened, congrArg (· + 1) rotations, ?_⟩
  rw [flush, held]
  exact (appended [] _).trans (by rw [List.nil_append])

/-! ### One backup -/

/-- An archive with one backup, opened on a disk without files, loses that backup with the first
change of its file. -/
def LosesBackup (path : Path) : Prop :=
  (∀ i, ({} : Disk).has (file path i) = false) ∧
    ∃ d₀ a₀ d₁ a₁, Archive.open' {} path 1 1 = (d₀, .ok a₀) ∧
      run d₀ a₀ (List.replicate 16 zeroFrame ++ [zeroFrame]) = (d₁, a₁) ∧ a₁.counts.rotations = 1 ∧
      (a₁.flush d₁).1.records? (path.numbered 1) = none ∧
      (a₁.flush d₁).1.records? path = some (records [zeroFrame])

/-- An archive loses its backup if nothing ever moves its file. -/
theorem losesBackup_of_stuck (absent : ∀ i, ({} : Disk).has (file path i) = false)
    (opened : Archive.open' {} path 1 1 = (d.put place (.file []),
      .ok { path, limit := limitOf 1, backups := 1, place, pending := [Capture.fileHeader] }))
    (notRoot : place ≠ []) (noSlash : path.endsWithSlash = false)
    (leads : ∀ content, (d.put place (.file content)).locate path = .ok place)
    (stuck : ∀ content, shift (d.put place (.file content)) path 1 = d.put place (.file content))
    (gone : ∀ content, ((d.put place (.file content)).read (path.numbered 1)).toOption = none) :
    LosesBackup path := by
  obtain ⟨d₁, a₁, ran, rotated, flushed⟩ := run_stuck
    (a := { path, limit := limitOf 1, backups := 1, place, pending := [Capture.fileHeader] })
    zeroFrame notRoot (limited_one rfl) (room_zeroFrames rfl rfl) (beyond_zeroFrames rfl rfl)
    noSlash leads stuck
  refine ⟨absent, _, _, d₁, a₁, opened, ran, rotated, ?_, ?_⟩
  · rw [flushed, records?, gone]
    rfl
  · have there (content : Bytes) :
        ((d.put place (.file content)).read path).toOption = some content := by
      rw [Disk.read, leads]
      simp [node?_put_self d notRoot, noSlash, Except.toOption]
    rw [flushed, records?, there, Option.bind_some]
    exact Capture.read?_encode (isFramed_records _)

/-! ### A name that is too long -/

/-- A name of so many bytes. -/
def nameOf (size : Nat) : String := String.ofList (List.replicate size 'a')

theorem utf8ByteSize_nameOf (size : Nat) : (nameOf size).utf8ByteSize = size := by
  induction size with
  | zero => rfl
  | succ size ih =>
    rw [nameOf, List.replicate_succ, String.ofList_cons, String.utf8ByteSize_append, ← nameOf, ih,
      String.utf8ByteSize_singleton, Nat.add_comm]
    rfl

theorem admits_nameOf {size : Nat} (fits : size ≤ longestName) : Admits (nameOf size) := by
  refine admits_iff.mpr ⟨?_, by rwa [utf8ByteSize_nameOf]⟩
  rw [nameOf, String.toList_ofList]
  intro member
  have same := List.eq_of_mem_replicate member
  revert same
  decide

theorem isNamed_nameOf {size : Nat} (long : 2 < size) : (Path.mk [] (nameOf size)).IsNamed := by
  have other {name : String} (short : name.utf8ByteSize ≤ 2) : nameOf size ≠ name := by
    rintro rfl
    rw [utf8ByteSize_nameOf] at short
    omega
  exact ⟨other (by decide), other (by decide), other (by decide)⟩

/-- A dot and a digit more are too much for the host. -/
theorem not_admits_file_one {name : String} (long : longestName < name.utf8ByteSize + 2) :
    ¬ Admits (file ⟨[], name⟩ 1).leaf := by
  intro admits
  have size : (file ⟨[], name⟩ 1).leaf.utf8ByteSize = name.utf8ByteSize + 1 + 1 := by
    rw [file, leaf_numbered, String.utf8ByteSize_append, String.utf8ByteSize_append]
    rfl
  have fits := admits.fits
  omega

/-- The host does not take the name of the backup. -/
theorem losesBackup_of_not_admits {name : String} (named : (Path.mk [] name).IsNamed)
    (admits : Admits name) (long : ¬ Admits (file ⟨[], name⟩ 1).leaf) :
    LosesBackup ⟨[], name⟩ := by
  have holds (content : Bytes) : Holds (({} : Disk).put [name] (.file content)) ⟨[], name⟩ []
      (Function.update (fun _ => none) 0 (some content)) :=
    (holds_of_absent isSound_empty named rfl (has_empty named)).put (i := 0) admits content
  have stuck (content : Bytes) : shift (({} : Disk).put [name] (.file content)) ⟨[], name⟩ 1 =
      ({} : Disk).put [name] (.file content) := by
    have absent : (({} : Disk).put [name] (.file content)).has (Path.numbered ⟨[], name⟩ 1) =
        false := (holds content).has 1
    simp only [shift, removeIfPresent, absent, Bool.false_eq_true, if_false, shiftBackups]
    exact (holds content).renameIfPresent_of_not_admits (i := 0) (j := 1) long
  exact losesBackup_of_stuck (has_empty named) (open'_empty named admits 1 1) (by simp)
    named.endsWithSlash (fun content => (holds content).locate_of_admits (i := 0) admits) stuck
    fun content => ((holds content).read 1).trans rfl

/-! ### A folder in the way -/

/-- Nothing moves if a folder has the name of the only backup. -/
theorem shift_of_directory {target : Place} (own : d.locate path = .ok place)
    (noFolder : d.node? place ≠ some .directory)
    (backup : d.locate (path.numbered 1) = .ok target)
    (isFolder : d.node? target = some .directory) : shift d path 1 = d := by
  have removed : removeIfPresent d (path.numbered 1) = d := by
    simp [removeIfPresent, Disk.remove, backup, isFolder, attempt, Except.toOption]
  have renamed : renameIfPresent d path (path.numbered 1) = d := by
    rw [renameIfPresent]
    cases here : d.node? place with
    | none => simp [Disk.has, own, here]
    | some node =>
      cases node with
      | directory => exact absurd here noFolder
      | file content =>
        simp [Disk.rename, own, backup, here, isFolder, bind, Except.bind, attempt,
          Except.toOption]
  rw [shift, removed]
  exact renamed

/-- A path through a folder that has the name of the first backup. -/
def crossedPath : Path := ⟨["x.1", ".."], "x"⟩

theorem child_folder : child [] "x.1" = .ok ["x.1"] :=
  child_of_admits (admits_iff.mpr ⟨by decide, by decide⟩) []

/-- Where the path leads once its folder is there. -/
theorem locate_crossedPath {d : Disk} (atRoot : d.home = [])
    (isFolder : d.node? ["x.1"] = some .directory) :
    d.locate crossedPath = .ok ["x"] ∧ d.locate (crossedPath.numbered 1) = .ok ["x.1"] := by
  have child_file : child [] "x" = .ok ["x"] :=
    child_of_admits (admits_iff.mpr ⟨by decide, by decide⟩) []
  have named : crossedPath.IsNamed := ⟨by decide, by decide, by decide⟩
  have leads : d.walk crossedPath.folders = .ok [] := by
    simp [crossedPath, walk, enter, origin, child_folder, atRoot, isFolder, bind, Except.bind,
      pure, Except.pure]
  exact ⟨(locate_of_walk named leads).trans child_file,
    (locate_of_walk (isNamed_file named 1) leads).trans child_folder⟩

/-- A folder is where the backup should be.  It was made for the path itself. -/
theorem losesBackup_crossedPath : LosesBackup crossedPath := by
  have named : crossedPath.IsNamed := ⟨by decide, by decide, by decide⟩
  have absent (i : Nat) : ({} : Disk).has (file crossedPath i) = false := by
    have leads : ({} : Disk).walk crossedPath.folders = .error .notFound := by
      simp [crossedPath, walk, enter, origin, child_folder, node?, bind, Except.bind]
    exact has_file_of_walk named.ne_empty named.endsWithSlash leads i
  let d : Disk := ({} : Disk).put ["x.1"] .directory
  have isFolder : d.node? ["x.1"] = some .directory := node?_put_self _ (by simp) _
  have kept (content : Bytes) :
      (d.put ["x"] (.file content)).node? ["x.1"] = some .directory := by
    rw [node?_put_of_ne d (by decide), isFolder]
  have isFile (content : Bytes) :
      (d.put ["x"] (.file content)).node? ["x"] = some (.file content) :=
    node?_put_self d (by simp) _
  have noFile : d.node? ["x"] = none := by
    rw [node?_put_of_ne _ (by decide)]
    rfl
  have made : ({} : Disk).makeFolderOf crossedPath = (d, .ok ()) := by
    simp [crossedPath, d, makeFolderOf, folderOf, Path.trimmed, Path.endsWithSlash, Disk.has,
      locate, walk, enter, child_folder, node?, makeFolders, makeFolder, origin, Disk.isFolder,
      Path.names, put, erase, bind, Except.bind, Except.toOption, pure, Except.pure]
  have opened : Archive.open' {} crossedPath 1 1 = (d.put ["x"] (.file []),
      .ok { path := crossedPath, limit := limitOf 1, backups := 1, place := ["x"],
            pending := [Capture.fileHeader] }) := by
    obtain ⟨own, backup⟩ := locate_crossedPath (d := d) rfl isFolder
    have still := shift_of_directory own (by simp [noFile]) backup isFolder
    have opens := openFile_of_locate own named.endsWithSlash (by simp [noFile])
    simp only [Archive.open', made, still, opens]
  have leads (content : Bytes) := locate_crossedPath (d := d.put ["x"] (.file content)) rfl
    (kept content)
  refine losesBackup_of_stuck absent opened (by simp) named.endsWithSlash
    (fun content => (leads content).1) (fun content => ?_) fun content => ?_
  · exact shift_of_directory (leads content).1 (by simp [isFile]) (leads content).2 (kept content)
  · rw [Disk.read, (leads content).2]
    simp [kept, Except.toOption]

/-- The archive loses its backup at a name of 254 bytes, with which that of the backup has 256, and
at a path through a folder that is in the place of the backup. -/
theorem losesBackup_longName_and_crossedPath :
    LosesBackup ⟨[], nameOf 254⟩ ∧ LosesBackup crossedPath := by
  have long : longestName < (nameOf 254).utf8ByteSize + 2 := by
    rw [utf8ByteSize_nameOf]
    decide
  exact ⟨losesBackup_of_not_admits (isNamed_nameOf (by decide)) (admits_nameOf (by decide))
    (not_admits_file_one long), losesBackup_crossedPath⟩

end Archive

end Wiretap
