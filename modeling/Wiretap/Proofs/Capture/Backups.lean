import Mathlib.Logic.Function.Basic
import Wiretap.Capture.Archive
import Wiretap.Proofs.Storage.Folder

/-!
# The files of an archive

Which contents the file of an archive and its backups have after they moved up by one and a new file
was made.

## Main definitions

* `Archive.file` - the path of the file and, behind it, of the backups.
* `Archive.Holds` - the contents of the files of an archive.

## Main statements

* `Archive.shift_induction` - what every single step keeps is kept when the files move up.
* `Archive.Holds.shiftBackups` - the backups after they moved up, by induction on their number.
* `Archive.Holds.renew` - the files after the archive has got a new one.
* `Archive.Holds.exists_openFile_shift` - the new file is made, whatever becomes of the backups.

## Design notes

A backup moves to the number behind it, the last one first, so what it moves to is free already.
This is the condition of the induction.  A name that the host does not take leads nowhere, so
nothing is asked of the disk there, but a content needs a name.
-/

namespace Wiretap

/-- Numbers that are written alike are the same. -/
theorem Path.numbered_inj {p : Path} {i j : Nat} : p.numbered i = p.numbered j ↔ i = j := by
  constructor
  · intro same
    have leaf : p.leaf ++ "." ++ Nat.repr i = p.leaf ++ "." ++ Nat.repr j :=
      congrArg Path.leaf same
    rw [String.append_right_inj, Nat.repr_eq_ofList_toDigits, Nat.repr_eq_ofList_toDigits,
      String.ofList_inj] at leaf
    simpa using congrArg (Nat.ofDigitChars 10 · 0) leaf
  · rintro rfl
    rfl

namespace Archive

open Disk

variable {d d' : Disk} {path : Path} {folder : Place} {held : Nat → Option Bytes} {i j count : Nat}
  {content : Bytes}

/-! ### Paths -/

/-- The path of the file and, behind it, of the backups. -/
def file (path : Path) : Nat → Path
  | 0 => path
  | i + 1 => path.numbered (i + 1)

@[simp] theorem folders_file (path : Path) (i : Nat) : (file path i).folders = path.folders := by
  cases i <;> rfl

theorem leaf_numbered (path : Path) (i : Nat) :
    (path.numbered i).leaf = path.leaf ++ "." ++ Nat.repr i := rfl

/-- No two files of an archive have the same name. -/
theorem leaf_file_inj : (file path i).leaf = (file path j).leaf ↔ i = j := by
  have longer (i : Nat) : path.leaf ≠ (path.numbered i).leaf := by
    intro same
    have length := congrArg String.length same
    have dot : ".".length = 1 := rfl
    rw [leaf_numbered, String.length_append, String.length_append] at length
    omega
  have numbered {i j : Nat} : (path.numbered i).leaf = (path.numbered j).leaf ↔ i = j := by
    rw [← Path.numbered_inj (p := path)]
    exact ⟨fun same => congrArg (Path.mk path.folders) same, congrArg Path.leaf⟩
  cases i with
  | zero =>
    cases j with
    | zero => simp
    | succ j => simpa [file] using longer (j + 1)
  | succ i =>
    cases j with
    | zero => simpa [file] using (longer (i + 1)).symm
    | succ j => simpa [file] using numbered (i := i + 1) (j := j + 1)

/-- The host takes the name of a backup unless it is too long. -/
theorem admits_numbered (own : Admits path.leaf)
    (fits : (path.numbered i).leaf.utf8ByteSize ≤ longestName) :
    Admits (path.numbered i).leaf := by
  have noNul := own.noNul
  have digits : '\x00' ∉ Nat.toDigits 10 i := by
    intro member
    have digit := Nat.isDigit_of_mem_toDigits (by decide) (by decide) member
    revert digit
    decide
  refine ⟨?_, fits⟩
  rw [String.contains_char_eq] at noNul ⊢
  rw [leaf_numbered, Nat.repr_eq_ofList_toDigits, String.toList_append, String.toList_append]
  simpa [digits] using noNul

/-- The backups have names unless the name of the file is empty. -/
theorem isNamed_numbered (some_ : path.leaf ≠ "") (i : Nat) : (path.numbered i).IsNamed := by
  have length : 2 < (path.numbered i).leaf.length := by
    have own : path.leaf.length ≠ 0 := fun h => some_ (String.length_eq_zero_iff.mp h)
    have digits : (Nat.repr i).length ≠ 0 := by simp
    have dot : ".".length = 1 := rfl
    simp only [leaf_numbered, String.length_append]
    omega
  constructor <;> intro same <;> rw [same] at length <;> revert length <;> decide

/-- The backups have names where the file has one. -/
theorem isNamed_file (named : path.IsNamed) (i : Nat) : (file path i).IsNamed := by
  cases i with
  | zero => exact named
  | succ i => exact isNamed_numbered named.ne_empty (i + 1)

/-- The place of a file of an archive. -/
def slot (path : Path) (folder : Place) (i : Nat) : Place := folder ++ [(file path i).leaf]

theorem slot_ne_nil (path : Path) (folder : Place) (i : Nat) : slot path folder i ≠ [] := by
  simp [slot]

theorem slot_inj : slot path folder i = slot path folder j ↔ i = j := by
  rw [slot, slot, List.append_cancel_left_eq, List.cons.injEq, leaf_file_inj]
  exact and_iff_left rfl

theorem slot_apart (below : slot path folder i <+: slot path folder j) :
    slot path folder j = slot path folder i := by
  rw [slot, slot, prefix_child] at below
  rw [slot, slot, below]

/-! ### Step by step -/

/-- A file goes, or the disk stays as it is. -/
theorem removeIfPresent_cases (d : Disk) (path : Path) :
    removeIfPresent d path = d ∨ d.remove path = .ok (removeIfPresent d path) := by
  unfold removeIfPresent
  split
  · cases d.remove path with
    | error e => exact Or.inl rfl
    | ok d' => exact Or.inr rfl
  · exact Or.inl rfl

/-- A file gets another path, or the disk stays as it is. -/
theorem renameIfPresent_cases (d : Disk) (source target : Path) :
    renameIfPresent d source target = d ∨
      d.rename source target = .ok (renameIfPresent d source target) := by
  unfold renameIfPresent
  split
  · cases d.rename source target with
    | error e => exact Or.inl rfl
    | ok d' => exact Or.inr rfl
  · exact Or.inl rfl

section Steps

variable {P : Disk → Prop} {backups : Nat}

/-- What the move of a backup keeps is kept when the backups move up by one. -/
theorem shiftBackups_induction (start : P d)
    (renames : ∀ d i, i < count → P d →
      P (renameIfPresent d (file path (i + 1)) (file path (i + 2)))) :
    P (shiftBackups d path count) := by
  induction count generalizing d with
  | zero => exact start
  | succ count ih =>
    exact ih (renames d count (Nat.lt_succ_self count) start) fun d i below =>
      renames d i (Nat.lt_succ_of_lt below)

/-- The file itself moves last, after the last backup went and the others have moved up. -/
theorem exists_shift_succ (start : P d)
    (removes : ∀ d, P d → P (removeIfPresent d (file path (backups + 1))))
    (renames : ∀ d i, i < backups → P d →
      P (renameIfPresent d (file path (i + 1)) (file path (i + 2)))) :
    ∃ d', P d' ∧ shift d path (backups + 1) = renameIfPresent d' (file path 0) (file path 1) :=
  ⟨_, shiftBackups_induction (removes d start) renames, rfl⟩

/-- What every single step keeps is kept when the file and its backups move up by one. -/
theorem shift_induction (start : P d)
    (removes : ∀ d, P d → P (removeIfPresent d (file path backups)))
    (renames : ∀ d i, i < backups → P d →
      P (renameIfPresent d (file path i) (file path (i + 1)))) :
    P (shift d path backups) := by
  cases backups with
  | zero => exact start
  | succ backups =>
    obtain ⟨d', above, shifted⟩ := exists_shift_succ start removes fun d i below =>
      renames d (i + 1) (Nat.succ_lt_succ below)
    rw [shifted]
    exact renames d' 0 (Nat.succ_pos backups) above

end Steps

/-! ### Contents -/

/-- The contents of the files of an archive. -/
structure Holds (d : Disk) (path : Path) (folder : Place) (held : Nat → Option Bytes) : Prop where
  named : path.IsNamed
  leads : d.walk path.folders = .ok folder
  found : ∀ i, Admits (file path i).leaf →
    d.node? (slot path folder i) = (held i).map .file
  alone : ∀ i, Admits (file path i).leaf → d.IsLeaf (slot path folder i)
  admits : ∀ i, held i ≠ none → Admits (file path i).leaf

/-- A content that changes keeps the names within what the host takes. -/
theorem admits_update (all : ∀ k, held k ≠ none → Admits (file path k).leaf)
    (new : Option Bytes) (own : new ≠ none → Admits (file path i).leaf) :
    ∀ k, Function.update held i new k ≠ none → Admits (file path k).leaf := by
  intro k some_
  rw [Function.update_apply] at some_
  split at some_
  · next same => exact same ▸ own some_
  · exact all k some_

namespace Holds

theorem locate (h : Holds d path folder held) (i : Nat) :
    d.locate (file path i) = child folder (file path i).leaf :=
  locate_of_walk (isNamed_file h.named i) (by rw [folders_file, h.leads])

theorem locate_of_admits (h : Holds d path folder held) (admits : Admits (file path i).leaf) :
    d.locate (file path i) = .ok (slot path folder i) := by
  rw [h.locate, child_of_admits admits, slot]

/-- A name that the host does not take leads nowhere. -/
theorem locate_of_not_admits (h : Holds d path folder held)
    (long : ¬ Admits (file path i).leaf) : ∃ e, d.locate (file path i) = .error e := by
  rw [h.locate]
  cases leads : child folder (file path i).leaf with
  | error e => exact ⟨e, rfl⟩
  | ok place => exact absurd (admits_of_child leads) long

theorem none_of_not_admits (h : Holds d path folder held)
    (long : ¬ Admits (file path i).leaf) : held i = none :=
  Classical.byContradiction fun some_ => long (h.admits i some_)

/-- Where no content is, nothing is found. -/
theorem has (h : Holds d path folder held) (i : Nat) :
    d.has (file path i) = (held i).isSome := by
  by_cases admits : Admits (file path i).leaf
  · rw [Disk.has, h.locate_of_admits admits]
    simp only
    rw [h.found i admits]
    cases held i with
    | none => rfl
    | some content => simp [(isNamed_file h.named i).endsWithSlash]
  · obtain ⟨e, nowhere⟩ := h.locate_of_not_admits admits
    rw [h.none_of_not_admits admits, Disk.has, nowhere]
    rfl

/-- The contents are what is read. -/
theorem read (h : Holds d path folder held) (i : Nat) :
    (d.read (file path i)).toOption = held i := by
  by_cases admits : Admits (file path i).leaf
  · rw [Disk.read, h.locate_of_admits admits]
    simp only
    rw [h.found i admits]
    cases held i with
    | none => rfl
    | some content =>
      simp only [Option.map_some, (isNamed_file h.named i).endsWithSlash]
      rfl
  · obtain ⟨e, nowhere⟩ := h.locate_of_not_admits admits
    rw [h.none_of_not_admits admits, Disk.read, nowhere]
    rfl

/-- No file of an archive is a directory. -/
theorem no_directory (h : Holds d path folder held) (admits : Admits (file path i).leaf) :
    d.node? (slot path folder i) ≠ some .directory := by
  rw [h.found i admits]
  cases held i <;> simp

/-- The folder stays where it is as long as only files of the archive change. -/
theorem leads_of_frame (h : Holds d path folder held) (home : d'.home = d.home)
    (frame : ∀ place, (∀ i, Admits (file path i).leaf → place ≠ slot path folder i) →
      d'.node? place = d.node? place) : d'.walk path.folders = .ok folder := by
  refine walk_of_directories home (fun place here => ?_) h.leads
  rw [frame place, here]
  rintro i admits rfl
  exact h.no_directory admits here

/-- One of the files gets another content. -/
theorem put (h : Holds d path folder held) (admits : Admits (file path i).leaf)
    (content : Bytes) :
    Holds (d.put (slot path folder i) (.file content)) path folder
      (Function.update held i (some content)) where
  named := h.named
  leads := h.leads_of_frame rfl fun place other => by
    rw [node?_put d (slot_ne_nil _ _ _), if_neg (other i admits)]
  found j fits := by
    simp only [node?_put d (slot_ne_nil _ _ _), slot_inj, Function.update_apply, h.found j fits]
    split <;> rfl
  alone j fits := (h.alone j fits).put slot_apart _
  admits := admits_update h.admits _ fun _ => admits

/-- One of the files goes. -/
theorem erase (h : Holds d path folder held) (admits : Admits (file path i).leaf) :
    Holds (d.erase (slot path folder i)) path folder (Function.update held i none) where
  named := h.named
  leads := h.leads_of_frame rfl fun place other => by
    rw [node?_erase d (slot_ne_nil _ _ _), if_neg (other i admits)]
  found j fits := by
    simp only [node?_erase d (slot_ne_nil _ _ _), slot_inj, Function.update_apply,
      h.found j fits]
    split <;> rfl
  alone j fits := (h.alone j fits).erase _
  admits := admits_update h.admits none (absurd rfl)

/-- One of the files gets the number of another one. -/
theorem move (h : Holds d path folder held) (some_ : held i ≠ none)
    (admits : Admits (file path j).leaf) (apart : i ≠ j) :
    Holds (d.move (slot path folder i) (slot path folder j)) path folder
      (Function.update (Function.update held j (held i)) i none) := by
  have own := h.admits i some_
  have node?_after (other : Place) := node?_move (h.alone i own) (slot_ne_nil _ _ _)
    (slot_ne_nil path folder j) (fun same => apart (slot_inj.mp same)) other
  refine ⟨h.named, ?_, fun k fits => ?_, fun k fits => ?_, ?_⟩
  · refine h.leads_of_frame rfl fun place other => ?_
    rw [node?_after, if_neg (other j admits), if_neg (other i own)]
  · simp only [node?_after, slot_inj, Function.update_apply, h.found i own, h.found k fits]
    by_cases target : k = j
    · rw [if_pos target, if_neg (target.trans_ne apart.symm), if_pos target]
    · rw [if_neg target, if_neg target]
      split <;> rfl
  · exact (h.alone k fits).move (h.alone i own) slot_apart
  · exact admits_update (admits_update h.admits _ fun _ => admits) none (absurd rfl)

/-- One of the files gets longer. -/
theorem append (h : Holds d path folder held) (some_ : held i = some content) (more : Bytes) :
    Holds (d.append (slot path folder i) more) path folder
      (Function.update held i (some (content ++ more))) := by
  have admits := h.admits i (by simp [some_])
  have found : d.content? (slot path folder i) = some content := by
    rw [content?, h.found i admits, some_]
    rfl
  rw [Disk.append, found]
  exact h.put admits _

/-! ### Moving up -/

theorem removeIfPresent (h : Holds d path folder held) (i : Nat) :
    Holds (removeIfPresent d (file path i)) path folder (Function.update held i none) := by
  rw [Archive.removeIfPresent, h.has]
  cases here : held i with
  | none =>
    have kept : Function.update held i none = held := by rw [← here, Function.update_eq_self]
    rw [kept]
    exact h
  | some content =>
    have admits := h.admits i (by simp [here])
    have removed : d.remove (file path i) = .ok (d.erase (slot path folder i)) := by
      rw [Disk.remove, h.locate_of_admits admits]
      simp only
      rw [h.found i admits, here]
      simp [(isNamed_file h.named i).endsWithSlash]
    rw [removed]
    exact h.erase admits

/-- A file that is there gets another number, also if that is taken. -/
theorem rename (h : Holds d path folder held) (some_ : held i ≠ none)
    (admits : Admits (file path j).leaf) (apart : i ≠ j) :
    d.rename (file path i) (file path j) =
      .ok (d.move (slot path folder i) (slot path folder j)) := by
  have own := h.admits i some_
  obtain ⟨content, here⟩ := Option.ne_none_iff_exists'.mp some_
  rw [Disk.rename, h.locate_of_admits own, h.locate_of_admits admits]
  simp only [bind, Except.bind]
  rw [h.found i own, h.found j admits, here]
  cases held j <;> simp [(isNamed_file h.named _).endsWithSlash, slot_inj, apart]

theorem renameIfPresent (h : Holds d path folder held) (apart : i ≠ j) (free : held j = none)
    (admits : held i ≠ none → Admits (file path j).leaf) :
    Holds (renameIfPresent d (file path i) (file path j)) path folder
      (Function.update (Function.update held j (held i)) i none) := by
  rw [Archive.renameIfPresent, h.has]
  by_cases here : held i = none
  · have target : Function.update held j none = held := by rw [← free, Function.update_eq_self]
    have source : Function.update held i none = held := by rw [← here, Function.update_eq_self]
    rw [here, target, source]
    exact h
  · rw [if_pos (Option.isSome_iff_ne_none.mpr here), h.rename here (admits here) apart]
    exact h.move here (admits here) apart

end Holds

/-- What the files hold after the backups 1 to `count` have moved up by one. -/
def raised (count : Nat) (held : Nat → Option Bytes) : Nat → Option Bytes
  | 0 => held 0
  | 1 => none
  | i + 2 => if i < count then held (i + 1) else held (i + 2)

/-- What the files hold after a new one was made, with so many backups kept. -/
def renewed (backups : Nat) (held : Nat → Option Bytes) : Nat → Option Bytes
  | 0 => some []
  | i + 1 => if i < backups then held i else held (i + 1)

theorem raised_zero (free : held 1 = none) : raised 0 held = held := by
  funext i
  match i with
  | 0 => rfl
  | 1 => exact free.symm
  | i + 2 => simp [raised]

/-- The last backup moves first, then those before it. -/
theorem raised_succ (free : held (count + 2) = none) :
    raised count
        (Function.update (Function.update held (count + 2) (held (count + 1))) (count + 1) none) =
      raised (count + 1) held := by
  funext i
  match i with
  | 0 => simp [raised]
  | 1 => rfl
  | i + 2 =>
    simp only [raised, Function.update_apply]
    by_cases last : i = count
    · subst last
      simp
    · grind

/-- The last backup goes, the others move up, and the file becomes the first of them. -/
theorem renewed_succ (backups : Nat) (held : Nat → Option Bytes) :
    Function.update
        (Function.update
          (Function.update (raised backups (Function.update held (backups + 1) none)) 1 (held 0))
          0 none)
        0 (some []) =
      renewed (backups + 1) held := by
  funext i
  match i with
  | 0 => simp [renewed]
  | 1 => simp [renewed]
  | i + 2 =>
    simp only [raised, renewed, Function.update_apply]
    grind

namespace Holds

/-- The backups after they moved up by one. -/
theorem shiftBackups (h : Holds d path folder held) (free : held (count + 1) = none)
    (admits : ∀ i < count, held (i + 1) ≠ none → Admits (file path (i + 2)).leaf) :
    Holds (shiftBackups d path count) path folder (raised count held) := by
  induction count generalizing d held with
  | zero =>
    rw [raised_zero free]
    exact h
  | succ count ih =>
    have last := h.renameIfPresent (i := count + 1) (j := count + 2) (by omega) free
      (admits count (by omega))
    -- The number that the last backup has left is free for the one before it.
    rw [← raised_succ free]
    refine ih last (Function.update_self ..) fun i below some_ => admits i (by omega) ?_
    rwa [Function.update_of_ne (by omega), Function.update_of_ne (by omega)] at some_

/-- The file after it was opened to be written anew. -/
theorem openFile (h : Holds d path folder held) (own : Admits path.leaf) :
    ∃ d', d.openFile path .truncate = .ok (d', slot path folder 0) ∧
      Holds d' path folder (Function.update held 0 (some [])) := by
  have own : Admits (file path 0).leaf := own
  have leads : d.locate path = .ok (slot path folder 0) := h.locate_of_admits own
  have noFolder := h.no_directory own
  exact ⟨_, openFile_of_locate leads h.named.endsWithSlash noFolder, h.put own []⟩

/-- The files after a new one was made and the others have moved up by one. -/
theorem renew (h : Holds d path folder held) (own : Admits path.leaf) (backups : Nat)
    (admits : ∀ i < backups, held i ≠ none → Admits (file path (i + 1)).leaf) :
    ∃ d', (shift d path backups).openFile path .truncate = .ok (d', slot path folder 0) ∧
      Holds d' path folder (renewed backups held) := by
  cases backups with
  | zero =>
    have same : renewed 0 held = Function.update held 0 (some []) := by
      funext i
      cases i <;> simp [renewed]
    rw [same]
    exact h.openFile own
  | succ backups =>
    have removed := h.removeIfPresent (backups + 1)
    have free : Function.update held (backups + 1) none (backups + 1) = none :=
      Function.update_self ..
    have other (i : Nat) (below : i < backups) :
        Function.update held (backups + 1) none (i + 1) = held (i + 1) :=
      Function.update_of_ne (by omega) ..
    have above := removed.shiftBackups free fun i below some_ =>
      admits (i + 1) (by omega) (other i below ▸ some_)
    have first : raised backups (Function.update held (backups + 1) none) 0 = held 0 := by
      simp [raised]
    have shifted := above.renameIfPresent (i := 0) (j := 1) (by decide) rfl
      fun some_ => admits 0 (by omega) (first ▸ some_)
    rw [← renewed_succ, ← first]
    exact shifted.openFile own

end Holds

/-! ### The new file -/

namespace Holds

/-- A file stays where it is if the host does not take its new name. -/
theorem renameIfPresent_of_not_admits (h : Holds d path folder held)
    (long : ¬ Admits (file path j).leaf) :
    Archive.renameIfPresent d (file path i) (file path j) = d := by
  rw [Archive.renameIfPresent, h.has]
  by_cases here : held i = none
  · rw [here]
    rfl
  · obtain ⟨e, nowhere⟩ := h.locate_of_not_admits long
    have refused : d.rename (file path i) (file path j) = .error e := by
      rw [Disk.rename, h.locate_of_admits (h.admits i here), nowhere]
      rfl
    rw [refused]
    exact ite_self d

/-- A backup that gets no other number costs no more than a backup. -/
theorem exists_renameIfPresent (h : Holds d path folder held) (apart : i ≠ j) :
    ∃ held', Holds (Archive.renameIfPresent d (file path i) (file path j)) path folder held' := by
  by_cases admits : Admits (file path j).leaf
  · by_cases here : held i = none
    · rw [Archive.renameIfPresent, h.has, here]
      exact ⟨held, h⟩
    · rw [Archive.renameIfPresent, h.has, if_pos (Option.isSome_iff_ne_none.mpr here),
        h.rename here admits apart]
      exact ⟨_, h.move here admits apart⟩
  · rw [h.renameIfPresent_of_not_admits admits]
    exact ⟨held, h⟩

/-- The new file is made, whatever becomes of the backups. -/
theorem exists_openFile_shift (h : Holds d path folder held) (own : Admits path.leaf)
    (backups : Nat) :
    ∃ d', (shift d path backups).openFile path .truncate = .ok (d', slot path folder 0) := by
  have shifted : ∃ held', Holds (shift d path backups) path folder held' :=
    shift_induction (P := fun d => ∃ held', Holds d path folder held') ⟨held, h⟩
      (fun _ ⟨_, h⟩ => ⟨_, h.removeIfPresent backups⟩)
      (fun _ i _ ⟨_, h⟩ => h.exists_renameIfPresent (Nat.succ_ne_self i).symm)
  obtain ⟨_, shifted⟩ := shifted
  obtain ⟨d', opened, -⟩ := shifted.openFile own
  exact ⟨d', opened⟩

end Holds

/-! ### Before the first file -/

/-- No file of an archive is found where the folder of its path is not. -/
theorem has_file_of_walk (some_ : path.leaf ≠ "") (noSlash : path.endsWithSlash = false)
    {e : Fault} (nowhere : d.walk path.folders = .error e) (i : Nat) :
    d.has (file path i) = false := by
  have plain : (file path i).leaf ≠ "" ∧ (file path i).endsWithSlash = false := by
    cases i with
    | zero => exact ⟨some_, noSlash⟩
    | succ i =>
      have named := isNamed_numbered some_ (i + 1)
      exact ⟨named.ne_empty, named.endsWithSlash⟩
  rw [Disk.has, Disk.locate, if_neg fun h => plain.1 h.2, Path.trimmed_of_endsWithSlash plain.2]
  simp only [folders_file, nowhere]

/-- Nothing moves where nothing is. -/
theorem shift_of_absent (absent : ∀ i, d.has (file path i) = false) (backups : Nat) :
    shift d path backups = d := by
  refine shift_induction (P := (· = d)) rfl ?_ ?_
  · rintro _ rfl
    rw [removeIfPresent, absent]
    rfl
  · rintro _ i - rfl
    rw [renameIfPresent, absent]
    rfl

theorem holds_of_absent (sound : d.IsSound) (named : path.IsNamed)
    (leads : d.walk path.folders = .ok folder) (absent : ∀ i, d.has (file path i) = false) :
    Holds d path folder fun _ => none := by
  have empty (i : Nat) (admits : Admits (file path i).leaf) :
      d.node? (slot path folder i) = none := by
    have place : d.locate (file path i) = .ok (slot path folder i) := by
      rw [locate_of_walk (isNamed_file named i) (by rw [folders_file, leads]),
        child_of_admits admits, slot]
    have nothing := absent i
    rw [Disk.has, place] at nothing
    simp only at nothing
    split at nothing
    · cases nothing
    · simp [(isNamed_file named i).endsWithSlash] at nothing
    · next none_ => exact none_
  exact ⟨named, leads, empty, fun i admits => sound.isLeaf (by simp [empty i admits]),
    fun i some_ => absurd rfl some_⟩

/-- The file of an archive that was opened where none of its files were. -/
theorem holds_of_open' {a : Archive} {mebibytes backups : Nat} (sound : d.IsSound)
    (absent : ∀ i, (d.makeFolderOf path).1.has (file path i) = false)
    (opened : Archive.open' d path mebibytes backups = (d', .ok a)) :
    ∃ folder, Holds d' path folder (Function.update (fun _ => none) 0 (some [])) ∧
      a = { path, limit := limitOf mebibytes, backups, place := slot path folder 0,
            pending := [Capture.fileHeader] } := by
  have sound₁ := sound.makeFolderOf path
  rw [Archive.open'] at opened
  generalize d.makeFolderOf path = made at opened absent sound₁
  obtain ⟨d₁, _ | _⟩ := made
  · cases opened
  · simp only [shift_of_absent absent] at opened
    split at opened
    · cases opened
    · next d₂ place isOpen =>
      cases opened
      obtain ⟨folder, leads, named, isChild, rfl⟩ := sound₁.of_openFile isOpen
      have empty := holds_of_absent sound₁ named leads absent
      have own : Admits (file path 0).leaf := admits_of_child isChild
      rw [eq_of_child isChild]
      exact ⟨folder, empty.put own [], rfl⟩

theorem has_empty {name : String} (named : (Path.mk [] name).IsNamed) (i : Nat) :
    ({} : Disk).has (file ⟨[], name⟩ i) = false := by
  have leads : ({} : Disk).locate (file ⟨[], name⟩ i) = child [] (file ⟨[], name⟩ i).leaf :=
    locate_of_walk (isNamed_file named i) (by rw [folders_file]; rfl)
  rw [Disk.has, leads]
  split
  · rfl
  · next isChild =>
    rw [eq_of_child isChild]
    rfl

/-- A name at the root needs no folder. -/
theorem makeFolderOf_root {name : String} (d : Disk) (named : (Path.mk [] name).IsNamed) :
    d.makeFolderOf ⟨[], name⟩ = (d, .ok ()) := by
  rw [makeFolderOf, folderOf, Path.trimmed_of_endsWithSlash named.endsWithSlash]
  rfl

/-- An archive that was opened at a name of a disk without files. -/
theorem open'_empty {name : String} (named : (Path.mk [] name).IsNamed) (admits : Admits name)
    (mebibytes backups : Nat) :
    Archive.open' {} ⟨[], name⟩ mebibytes backups =
      (({} : Disk).put [name] (.file []),
        .ok { path := ⟨[], name⟩, limit := limitOf mebibytes, backups, place := [name],
              pending := [Capture.fileHeader] }) := by
  have leads : ({} : Disk).locate ⟨[], name⟩ = .ok [name] := by
    rw [locate_of_walk named rfl, child_of_admits admits]
    rfl
  have opened := openFile_of_locate leads named.endsWithSlash (by simp [node?])
  simp only [Archive.open', makeFolderOf_root _ named, shift_of_absent (has_empty named), opened]

end Archive

end Wiretap
