import Mathlib.Logic.Function.Iterate
import Mathlib.Data.Nat.Basic
import Wiretap.Proofs.Capture.Backups
import Wiretap.Proofs.Storage.Edits

/-!
# Opening an archive

What else is on the disk while an archive is opened, and what its files hold when an archive is
opened and given up, any number of times.

## Main definitions

* `Archive.IsPlace` - the places of a file and its backups.
* `Archive.rotated` - what the files hold after an archive was opened and given up.

## Main statements

* `Archive.edits_shift` - moving up touches the places of the files.
* `Archive.spares_open'` - so does opening, whether or not it succeeds.
* `Archive.Holds.open'` - what the files hold once the archive is open.

## Design notes

A path leads to a place, or nowhere, and which of these may change as directories appear.  So the
places of the files are those to which their paths lead on any disk.
-/

namespace Wiretap

open Disk (Spares Edits IsTidy Admits)

namespace Archive

variable {d d' : Disk} {touched : Place → Prop} {home place folder : Place} {path : Path}
  {backups i : Nat} {held : Nat → Option Bytes}

/-! ## What the files of an archive touch -/

/-- The places of a file and its backups, for a program that runs at `home`. -/
def IsPlace (home : Place) (path : Path) (backups : Nat) (place : Place) : Prop :=
  ∃ i ≤ backups, ∃ d : Disk, d.home = home ∧ d.locate (file path i) = .ok place

theorem isPlace_of_locate (same : d.home = home) (below : i ≤ backups)
    (leads : d.locate (file path i) = .ok place) : IsPlace home path backups place :=
  ⟨i, below, d, same, leads⟩

theorem IsPlace.eq_spot (here : IsPlace home path backups place) :
    ∃ i ≤ backups, place = Disk.spot home (file path i) := by
  obtain ⟨i, below, d, rfl, leads⟩ := here
  exact ⟨i, below, Disk.eq_spot_of_locate leads⟩

theorem edits_removeIfPresent (ours : ∀ place, d.locate path = .ok place → touched place) :
    Edits touched d (removeIfPresent d path) := by
  rcases removeIfPresent_cases d path with same | removed
  · rw [same]
    exact .refl touched d
  · exact Disk.edits_remove ours removed

theorem edits_renameIfPresent {source target : Path}
    (fromHere : ∀ place, d.locate source = .ok place → touched place)
    (toHere : ∀ place, d.locate target = .ok place → touched place) :
    Edits touched d (renameIfPresent d source target) := by
  rcases renameIfPresent_cases d source target with same | renamed
  · rw [same]
    exact .refl touched d
  · exact Disk.edits_rename fromHere toHere renamed

/-- Moving up touches the places of the file and its backups. -/
theorem edits_shift (same : d.home = home) :
    Edits (IsPlace home path backups) d (shift d path backups) := by
  refine shift_induction (P := Edits (IsPlace home path backups) d) (.refl _ d) ?_ ?_
  · intro d' edits
    have atHome := edits.home.trans same
    exact edits.trans (edits_removeIfPresent fun place leads =>
      isPlace_of_locate atHome le_rfl leads)
  · intro d' i below edits
    have atHome := edits.home.trans same
    exact edits.trans (edits_renameIfPresent
      (fun place leads => isPlace_of_locate atHome (Nat.le_of_lt below) leads)
      fun place leads => isPlace_of_locate atHome below leads)

/-- Opening an archive touches the places of its files. -/
theorem spares_open' (d : Disk) (path : Path) (mebibytes backups : Nat) :
    Spares (IsPlace d.home path backups) d (Archive.open' d path mebibytes backups).1 ∧
      ∀ a, (Archive.open' d path mebibytes backups).2 = .ok a →
        IsPlace d.home path backups a.place := by
  have made : Spares (IsPlace d.home path backups) d (d.makeFolderOf path).1 :=
    Disk.spares_makeFolderOf path
  unfold Archive.open'
  generalize d.makeFolderOf path = result at made ⊢
  obtain ⟨d₁, _ | _⟩ := result
  · exact ⟨made, fun a failed => by cases failed⟩
  · have moved : Edits (IsPlace d.home path backups) d₁ (shift d₁ path backups) :=
      edits_shift made.home
    have atHome := moved.home.trans made.home
    have ours (place : Place) (leads : (shift d₁ path backups).locate path = .ok place) :
        IsPlace d.home path backups place :=
      isPlace_of_locate (i := 0) atHome (Nat.zero_le _) leads
    simp only
    cases opened : (shift d₁ path backups).openFile path .truncate with
    | error e => exact ⟨made.trans moved.toSpares, fun a failed => by cases failed⟩
    | ok result =>
      obtain ⟨d₂, place⟩ := result
      obtain ⟨edits, leads⟩ := Disk.edits_openFile (fun place leads _ _ => ours place leads) opened
      refine ⟨(made.trans moved.toSpares).trans edits.toSpares, ?_⟩
      rintro a ⟨⟩
      exact ours place leads

/-! ## What they hold -/

/-- What is found settles what the files of an archive hold. -/
theorem Holds.of_found (sound : d.IsSound) (named : path.IsNamed)
    (leads : d.walk path.folders = .ok folder)
    (found : ∀ i, Admits (file path i).leaf → d.node? (slot path folder i) = (held i).map .file)
    (admits : ∀ i, held i ≠ none → Admits (file path i).leaf) : Holds d path folder held where
  named := named
  leads := leads
  found := found
  alone i fits := sound.isLeaf (by rw [found i fits]; cases held i <;> simp)
  admits := admits

/-- The files hold the same as long as no directory goes and nothing changes in their places. -/
theorem Holds.of_slots (h : Holds d path folder held) (sound : d'.IsSound)
    (home : d'.home = d.home)
    (stay : ∀ place, d.node? place = some .directory → d'.node? place = some .directory)
    (same : ∀ i, d'.node? (slot path folder i) = d.node? (slot path folder i)) :
    Holds d' path folder held :=
  .of_found sound h.named (Disk.walk_of_directories home stay h.leads)
    (fun i fits => (same i).trans (h.found i fits)) h.admits

/-- An append of nothing leaves the files as they are. -/
theorem Holds.append_nil (h : Holds d path folder held) (sound : d.IsSound) (place : Place) :
    Holds (d.append place []) path folder held := by
  have same := Disk.node?_append_nil d place
  have edits : Edits (fun _ => False) d (d.append place []) := Disk.edits_append [] (Or.inl rfl)
  exact h.of_slots (edits.isSound sound) edits.home (fun place here => by rw [same, here])
    fun i => same _

theorem Holds.content? (h : Holds d path folder held) (fits : Admits (file path i).leaf) :
    d.content? (slot path folder i) = held i := by
  rw [Disk.content?, h.found i fits]
  cases held i <;> rfl

/-- The place of a file of an archive is where its path leads. -/
theorem Holds.eq_slot (h : Holds d path folder held)
    (names : ∀ i ≤ backups, Admits (file path i).leaf)
    (here : IsPlace d.home path backups place) : ∃ i ≤ backups, place = slot path folder i := by
  obtain ⟨i, below, rfl⟩ := here.eq_spot
  exact ⟨i, below, (Disk.eq_spot_of_locate (h.locate_of_admits (names i below))).symm⟩

/-- No file of an archive is a directory on a disk that holds its files. -/
theorem Holds.isTidy (h : Holds d path folder held) (sound : d.IsSound)
    (names : ∀ i ≤ backups, Admits (file path i).leaf) :
    d.IsTidy (IsPlace d.home path backups) := by
  refine ⟨sound, fun place here => ?_⟩
  obtain ⟨i, below, rfl⟩ := h.eq_slot names here
  exact h.no_directory (names i below)

/-- What the files of an archive hold after it was opened anew, with so many backups kept. -/
def rotated (backups : Nat) (held : Nat → Option Bytes) : Nat → Option Bytes
  | 0 => some Capture.fileHeader
  | i + 1 => if i < backups then held i else held (i + 1)

/-- A file that has not moved beyond the last backup is still there. -/
theorem iterate_rotated {m : Nat} (within : i + m ≤ backups) :
    (rotated backups)^[m] held (i + m) = held i := by
  induction m with
  | zero => rfl
  | succ m ih =>
    rw [Function.iterate_succ_apply', ← Nat.add_assoc, rotated, if_pos (by omega)]
    exact ih (by omega)

/-- An archive that is opened on a sound disk moves its files up, and its new file has a header once
it is flushed. -/
theorem Holds.open' (h : Holds d path folder held) (sound : d.IsSound)
    (names : ∀ i ≤ backups, Admits (file path i).leaf) (mebibytes : Nat) :
    ∃ d' a, Archive.open' d path mebibytes backups = (d', .ok a) ∧ d'.home = d.home ∧
      d'.IsSound ∧ Holds d' path folder (renewed backups held) ∧
      a.place = slot path folder 0 ∧ a.heldBack = Capture.fileHeader := by
  have trimmed : path.trimmed = path := Path.trimmed_of_endsWithSlash h.named.endsWithSlash
  have noFolder := Disk.makeFolderOf_of_walk sound trimmed h.leads
  have own : Admits path.leaf := names 0 (Nat.zero_le _)
  obtain ⟨d', opened, holds⟩ := h.renew own backups fun i below _ => names (i + 1) (by omega)
  have moved : Edits (IsPlace d.home path backups) d (shift d path backups) := edits_shift rfl
  have ours (place : Place) (leads : (shift d path backups).locate path = .ok place) :
      IsPlace d.home path backups place :=
    isPlace_of_locate (i := 0) moved.home (Nat.zero_le _) leads
  obtain ⟨edits, -⟩ := Disk.edits_openFile (fun place leads _ _ => ours place leads) opened
  have all := moved.trans edits
  let a : Archive :=
    { path, limit := limitOf mebibytes, backups, place := slot path folder 0
      pending := [Capture.fileHeader] }
  refine ⟨d', a, ?_, all.home, (all.tidy (h.isTidy sound names)).sound, holds, rfl,
    List.append_nil _⟩
  simp only [Archive.open', noFolder, opened, a]

end Archive

end Wiretap
