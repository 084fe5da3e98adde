import Wiretap.Proofs.Capture.Opening
import Wiretap.Proofs.Capture.Rotation

/-!
# Moving up at once

The file of an archive and its backups move up one after the other, and what comes out is what one
renaming of all of them at the same time would leave, whatever numbers are missing among them.

## Main definitions

* `Disk.MakesWay` - nothing changes but for new directories on the way that some names lead.
* `Archive.MovesUp` - an archive with a new file, above which its files have moved up.

## Main statements

* `Archive.Holds.node?_shift` - moving up leaves alone everything but the files that it moves.
* `Archive.files_move_up_at_once` - what is on the disk after an archive was opened or has changed
  its file.

## Design notes

What the files hold afterwards is told by `rotated` for all of them together: the order of the
renamings is not in it.  The header of a new file is held back like all that is written, so the
files are told once as they are then and once as they are when the archive is flushed.

A folder that is missing is made before anything moves.  The files are therefore those on the disk
with that folder, which is the disk from before where the folder was there.
-/

namespace Wiretap

namespace Disk

variable {d d' d'' : Disk} {name : String} {names above : List String}

/-! ## New folders -/

/-- A place to which the first of some names lead. -/
def IsOnWay (home : Place) (names : List String) (place : Place) : Prop :=
  ∃ above name, above ++ [name] <+: names ∧ place = spot home ⟨above, name⟩

/-- Nothing changes but for new directories on the way that some names lead. -/
structure MakesWay (names : List String) (d d' : Disk) : Prop where
  home : d'.home = d.home
  node? : ∀ place, d'.node? place = d.node? place ∨
    (d.node? place = none ∧ d'.node? place = some .directory ∧ IsOnWay d.home names place)

namespace MakesWay

theorem refl (names : List String) (d : Disk) : MakesWay names d d :=
  ⟨rfl, fun _ => Or.inl rfl⟩

theorem trans (first : MakesWay names d d') (second : MakesWay names d' d'') :
    MakesWay names d d'' := by
  refine ⟨second.home.trans first.home, fun place => ?_⟩
  rcases second.node? place with same | ⟨free, made, onWay⟩
  · rw [same]
    exact first.node? place
  · rcases first.node? place with same | ⟨-, made', -⟩
    · exact Or.inr ⟨same ▸ free, made, first.home ▸ onWay⟩
    · rw [made'] at free
      cases free

theorem mono (made : MakesWay above d d') (fewer : above <+: names) : MakesWay names d d' := by
  refine ⟨made.home, fun place => (made.node? place).imp_right ?_⟩
  rintro ⟨free, new, names', name, within, here⟩
  exact ⟨free, new, names', name, within.trans fewer, here⟩

end MakesWay

theorem makesWay_makeFolder (made : d.makeFolder ⟨above, name⟩ = .ok d') :
    MakesWay (above ++ [name]) d d' := by
  unfold Disk.makeFolder at made
  split at made
  · cases made
  · next here leads =>
    split at made
    · cases made
    · next free =>
      cases made
      refine ⟨rfl, fun place => ?_⟩
      have noFolder : d.node? here ≠ some .directory := by simp [free]
      rw [node?_put d (ne_nil_of_node? noFolder)]
      split
      · next same =>
        exact Or.inr ⟨same ▸ free, rfl, above, name, List.prefix_rfl,
          same.trans (eq_spot_of_locate leads)⟩
      · exact Or.inl rfl

theorem makesWay_makeFolders (d : Disk) (names : List String) :
    MakesWay names.reverse d (d.makeFolders names).1 := by
  induction names generalizing d with
  | nil => exact .refl _ d
  | cons name above ih =>
    rw [List.reverse_cons]
    -- What is made above this folder lies on the way to it.
    have first : MakesWay (above.reverse ++ [name]) d (d.makeFolders above).1 :=
      (ih d).mono (List.prefix_append _ _)
    simp only [Disk.makeFolders]
    split
    · split
      · next d₁ made =>
        rw [made] at first
        split
        · next made₁ => exact first.trans (makesWay_makeFolder made₁)
        · split <;> exact first
      · next d₁ e made =>
        rw [made] at first
        exact first
    · split
      · next made => exact makesWay_makeFolder made
      · split <;> exact .refl _ d

/-- All that is made for a path are directories on the way to its folder. -/
theorem makesWay_makeFolderOf (d : Disk) (p : Path) :
    MakesWay (folderOf p) d (d.makeFolderOf p).1 := by
  unfold Disk.makeFolderOf
  split
  · exact .refl _ d
  · next name above parts =>
    split
    · exact .refl _ d
    · rw [← List.reverse_reverse (folderOf p), parts]
      exact makesWay_makeFolders d _

end Disk

namespace Archive

open Disk

variable {d : Disk} {place folder : Place} {path : Path} {held : Nat → Option Bytes}
  {backups i j : Nat}

/-! ## What does not move -/

namespace Holds

theorem node?_removeIfPresent (h : Holds d path folder held)
    (elsewhere : place ≠ slot path folder i) :
    (Archive.removeIfPresent d (file path i)).node? place = d.node? place := by
  rcases removeIfPresent_cases d (file path i) with same | removed
  · rw [same]
  · obtain ⟨here, content, leads, found, gone⟩ := exists_of_remove removed
    have own : here = slot path folder i := by
      rw [h.locate] at leads
      exact eq_of_child leads
    rw [gone, own, node?_erase d (slot_ne_nil _ _ _), if_neg elsewhere]

theorem node?_renameIfPresent (h : Holds d path folder held)
    (fromHere : place ≠ slot path folder i) (toHere : place ≠ slot path folder j) :
    (Archive.renameIfPresent d (file path i) (file path j)).node? place = d.node? place := by
  rcases renameIfPresent_cases d (file path i) (file path j) with same | renamed
  · rw [same]
  · obtain ⟨source, target, leads, leads', ⟨-, same⟩ | ⟨apart, moved, -⟩⟩ := rename_cases renamed
    · rw [same]
    · rw [h.locate] at leads leads'
      have own := admits_of_child leads
      obtain rfl : source = slot path folder i := eq_of_child leads
      obtain rfl : target = slot path folder j := eq_of_child leads'
      rw [moved, node?_move (h.alone i own) (slot_ne_nil _ _ _) (slot_ne_nil _ _ _) apart,
        if_neg toHere, if_neg fromHere]

/-- Moving up leaves alone everything but the files that it moves. -/
theorem node?_shift (h : Holds d path folder held)
    (elsewhere : ∀ i ≤ backups, place ≠ slot path folder i) :
    (shift d path backups).node? place = d.node? place := by
  -- That the files are files is part of the invariant: a directory would take along what is in it.
  have kept : (∃ held', Holds (shift d path backups) path folder held') ∧
      (shift d path backups).node? place = d.node? place := by
    refine shift_induction (P := fun d' => (∃ held', Holds d' path folder held') ∧
      d'.node? place = d.node? place) ⟨⟨held, h⟩, rfl⟩ ?_ ?_
    · rintro d' ⟨⟨held', h'⟩, same⟩
      exact ⟨⟨_, h'.removeIfPresent backups⟩,
        (h'.node?_removeIfPresent (elsewhere backups le_rfl)).trans same⟩
    · rintro d' i below ⟨⟨held', h'⟩, same⟩
      have kept := h'.node?_renameIfPresent (elsewhere i (Nat.le_of_lt below))
        (elsewhere (i + 1) below)
      exact ⟨h'.exists_renameIfPresent (Nat.succ_ne_self i).symm, kept.trans same⟩
  exact kept.2

end Holds

/-! ## A new file -/

/-- The host takes every name that a file moves to. -/
structure FindsNames (path : Path) (backups : Nat) (held : Nat → Option Bytes) : Prop where
  own : Admits path.leaf
  next : ∀ i < backups, held i ≠ none → Admits (file path (i + 1)).leaf

/-- What the files hold after more was written to the first of them. -/
def written (held : Nat → Option Bytes) (more : Bytes) : Nat → Option Bytes :=
  Function.update held 0 ((held 0).map (· ++ more))

theorem Holds.flush {a : Archive} (h : Holds d path folder held) (own : Admits path.leaf)
    (place : a.place = slot path folder 0) :
    Holds (a.flush d).1 path folder (written held a.heldBack) := by
  rw [Archive.flush, place, written]
  cases here : held 0 with
  | none =>
    have nothing : d.content? (slot path folder 0) = none := (h.content? (i := 0) own).trans here
    have kept : Function.update held 0 none = held := by rw [← here, Function.update_eq_self]
    rw [Disk.append, nothing, Option.map_none, kept]
    exact h
  | some content => exact h.append here a.heldBack

/-- A disk stays sound with a file more. -/
theorem Holds.isSound_put (h : Holds d path folder held) (sound : d.IsSound)
    (admits : Admits (file path i).leaf) (free : held i = none) (content : Bytes) :
    (d.put (slot path folder i) (.file content)).IsSound := by
  have nothing : d.node? (slot path folder i) = none := by
    rw [h.found i admits, free]
    rfl
  have edits : Edits (fun _ => False) d (d.put (slot path folder i) (.file content)) :=
    edits_put (h.locate_of_admits admits) (h.no_directory admits) (Or.inl nothing) content
  exact edits.isSound sound

theorem FindsNames.written (finds : FindsNames path backups held) (more : Bytes) :
    FindsNames path backups (written held more) := by
  refine ⟨finds.own, fun i below some_ => finds.next i below ?_⟩
  intro none_
  rw [Archive.written, Function.update_apply] at some_
  split at some_
  · next first => simp [← first, none_] at some_
  · exact some_ none_

/-- An archive with a new file, on a disk where its files have moved up by one and so many backups
are kept, and nothing else has changed. -/
structure MovesUp (path : Path) (folder : Place) (backups : Nat) (held : Nat → Option Bytes)
    (d d' : Disk) (a : Archive) : Prop where
  belongs : a.path = path ∧ a.backups = backups ∧ a.place = slot path folder 0
  /-- Nothing but the header was written to the new file, which is empty as long as that is held
  back. -/
  header : a.heldBack = Capture.fileHeader
  files : Holds d' path folder (renewed backups held)
  /-- The files when the archive is flushed. -/
  flushed : Holds (a.flush d').1 path folder (rotated backups held)
  rest : ∀ place, (∀ i ≤ backups, place ≠ slot path folder i) →
    d'.node? place = d.node? place ∧ (a.flush d').1.node? place = d.node? place

/-- The files move up and a new one is made. -/
theorem Holds.movesUp (h : Holds d path folder held) (finds : FindsNames path backups held) :
    ∃ d', (shift d path backups).openFile path .truncate = .ok (d', slot path folder 0) ∧
      ∀ a : Archive, a.path = path ∧ a.backups = backups ∧ a.place = slot path folder 0 →
        a.heldBack = Capture.fileHeader → MovesUp path folder backups held d d' a := by
  obtain ⟨d', opened, renewed_⟩ := h.renew finds.own backups finds.next
  obtain ⟨-, -, -, new⟩ := of_openFile_truncate opened
  refine ⟨d', opened, fun a belongs header =>
    ⟨belongs, header, renewed_, ?_, fun place elsewhere => ?_⟩⟩
  · have filled : written (renewed backups held) a.heldBack = rotated backups held := by
      funext i
      cases i <;> simp [written, renewed, rotated, header]
    rw [← filled]
    exact renewed_.flush finds.own belongs.2.2
  · have first := elsewhere 0 (Nat.zero_le _)
    have made : d'.node? place = d.node? place := by
      rw [new, node?_put_of_ne _ first, h.node?_shift elsewhere]
    refine ⟨made, ?_⟩
    rw [Archive.flush, node?_append_of_ne d' (belongs.2.2 ▸ first), made]

/-- **The files of an archive move up at once.**  Whichever of them are there, after an archive was
opened or has changed its file every one of them is found under the next number, as far as backups
are kept, and the file is new.  Nothing else changes but for the directories that lead to the folder
of the archive, which are made where that folder is missing. -/
theorem files_move_up_at_once (path : Path) (folder : Place) (backups : Nat) :
    (∀ (d d₁ : Disk) (held : Nat → Option Bytes) (mebibytes : Nat), d.IsSound →
      d.makeFolderOf path = (d₁, .ok ()) → Holds d₁ path folder held →
      FindsNames path backups held →
      MakesWay (folderOf path) d d₁ ∧ (∀ there, d.walk path.folders = .ok there → d₁ = d) ∧
        ∃ d₂ a, Archive.open' d path mebibytes backups = (d₂, .ok a) ∧
          MovesUp path folder backups held d₁ d₂ a) ∧
    (∀ (d : Disk) (held : Nat → Option Bytes) (a : Archive), a.path = path → a.backups = backups →
      a.place = slot path folder 0 → Holds d path folder held → FindsNames path backups held →
      ∃ d' a', a.rotate d = (d', a', none) ∧
        MovesUp path folder backups (written held a.heldBack) d d' a') := by
  refine ⟨fun d d₁ held mebibytes sound made h finds => ⟨?_, fun there leads => ?_, ?_⟩, ?_⟩
  · have way := makesWay_makeFolderOf d path
    rwa [made] at way
  · have trimmed : path.trimmed = path := Path.trimmed_of_endsWithSlash h.named.endsWithSlash
    rw [makeFolderOf_of_walk sound trimmed leads] at made
    exact (congrArg Prod.fst made).symm
  · obtain ⟨d₂, opened, movesUp⟩ := h.movesUp finds
    refine ⟨d₂, { path, limit := limitOf mebibytes, backups, place := slot path folder 0
                  pending := [Capture.fileHeader] }, ?_, movesUp _ ⟨rfl, rfl, rfl⟩ ?_⟩
    · simp only [Archive.open', made, opened]
    · exact List.append_nil _
  · rintro d held a rfl rfl place h finds
    have flushed := h.flush finds.own place
    obtain ⟨d', opened, movesUp⟩ := flushed.movesUp (finds.written a.heldBack)
    have up := movesUp (a.restart (slot a.path folder 0)) ⟨rfl, rfl, rfl⟩ (List.append_nil _)
    refine ⟨d', _, rotate_of_openFile opened, { up with rest := fun other elsewhere => ?_ }⟩
    have same : (a.flush d).1.node? other = d.node? other := by
      rw [Archive.flush, node?_append_of_ne d (place ▸ elsewhere 0 (Nat.zero_le _))]
    rw [← same]
    exact up.rest other elsewhere

/-- A capture with its second and fourth backup. -/
def gappedDisk : Disk :=
  ((({} : Disk).put ["c"] (.file [1])).put ["c.2"] (.file [2])).put ["c.4"] (.file [4])

/-- What the capture and its backups hold. -/
def gappedHeld : Nat → Option Bytes :=
  Function.update (Function.update (Function.update (fun _ => none) 0 (some [1])) 2 (some [2])) 4
    (some [4])

theorem admits_gapped {i : Nat} (below : i ≤ 4) : Admits (file ⟨[], "c"⟩ i).leaf := by
  rw [Disk.admits_iff]
  match i, below with
  | 0, _ | 1, _ | 2, _ | 3, _ | 4, _ => decide

theorem holds_gappedDisk : Holds gappedDisk ⟨[], "c"⟩ [] gappedHeld ∧ gappedDisk.IsSound := by
  have named : (Path.mk [] "c").IsNamed := ⟨by decide, by decide, by decide⟩
  have none_ := holds_of_absent isSound_empty named rfl (has_empty named)
  have fits {i : Nat} (below : i ≤ 4) := admits_gapped below
  have one := none_.put (fits (i := 0) (by decide)) [1]
  have two := one.put (fits (i := 2) (by decide)) [2]
  have soundOne := none_.isSound_put isSound_empty (fits (i := 0) (by decide)) rfl [1]
  have soundTwo := one.isSound_put soundOne (fits (i := 2) (by decide)) rfl [2]
  exact ⟨two.put (fits (i := 4) le_rfl) [4], two.isSound_put soundTwo (fits le_rfl) rfl [4]⟩

/-- The gaps move up as well, when the archive is opened and when its file changes. -/
theorem files_move_up_at_once_gapped :
    ∃ d₁ a₁ d₂ a₂, Archive.open' gappedDisk ⟨[], "c"⟩ 1 3 = (d₁, .ok a₁) ∧
      a₁.rotate d₁ = (d₂, a₂, none) ∧
      [0, 1, 2, 3, 4].map (fun i => ((a₁.flush d₁).1.read (file ⟨[], "c"⟩ i)).toOption) =
        [some Capture.fileHeader, some [1], none, some [2], some [4]] ∧
      [0, 1, 2, 3, 4].map (fun i => ((a₂.flush d₂).1.read (file ⟨[], "c"⟩ i)).toOption) =
        [some Capture.fileHeader, some Capture.fileHeader, some [1], none, some [4]] := by
  obtain ⟨opens, rotates⟩ := files_move_up_at_once ⟨[], "c"⟩ [] 3
  have named : (Path.mk [] "c").IsNamed := ⟨by decide, by decide, by decide⟩
  have fits (held : Nat → Option Bytes) : FindsNames ⟨[], "c"⟩ 3 held :=
    ⟨admits_gapped (i := 0) (by decide), fun i below _ => admits_gapped (by omega)⟩
  obtain ⟨-, -, d₁, a₁, opened, up₁⟩ := opens gappedDisk gappedDisk gappedHeld 1
    holds_gappedDisk.2 (makeFolderOf_root _ named) holds_gappedDisk.1 (fits _)
  obtain ⟨path, backups, place⟩ := up₁.belongs
  obtain ⟨d₂, a₂, rotated_, up₂⟩ := rotates d₁ _ a₁ path backups place up₁.files (fits _)
  refine ⟨d₁, a₁, d₂, a₂, opened, rotated_, ?_, ?_⟩
  · simp only [up₁.flushed.read]
    decide
  · simp only [up₂.flushed.read, up₁.header]
    decide

/-- A folder that is missing is made, and is none of the files that move. -/
theorem opening_makes_folder :
    (∀ i, ({} : Disk).has (file ⟨["x"], "c"⟩ i) = false) ∧
      (∀ i, ["x"] ≠ slot ⟨["x"], "c"⟩ ["x"] i) ∧ ({} : Disk).node? ["x"] = none ∧
      ∃ d a, Archive.open' {} ⟨["x"], "c"⟩ 100 5 = (d, .ok a) ∧
        d.node? ["x"] = some .directory := by
  have child_ : child [] "x" = .ok ["x"] :=
    child_of_admits (admits_iff.mpr ⟨by decide, by decide⟩) []
  have absent : ({} : Disk).walk ["x"] = .error .notFound := by
    simp [walk, enter, origin, child_, node?, bind, Except.bind]
  have never : ∀ i, ({} : Disk).has (file ⟨["x"], "c"⟩ i) = false :=
    has_file_of_walk (by decide) rfl absent
  have apart (i : Nat) : ["x"] ≠ slot ⟨["x"], "c"⟩ ["x"] i := by simp [slot]
  let d : Disk := ({} : Disk).put ["x"] .directory
  have isFolder : d.node? ["x"] = some .directory := node?_put_self _ (by simp) _
  have made : ({} : Disk).makeFolderOf ⟨["x"], "c"⟩ = (d, .ok ()) := by
    simp [d, makeFolderOf, folderOf, Path.trimmed, Path.endsWithSlash, Disk.has, locate, walk,
      origin, child_, node?, makeFolders, makeFolder, put, erase, pure, Except.pure]
  have own : Admits "c" := admits_iff.mpr ⟨by decide, by decide⟩
  have leads : d.walk ["x"] = .ok ["x"] := by
    have atRoot : d.home = [] := rfl
    simp [walk, enter, origin, atRoot, child_, isFolder, bind, Except.bind, pure, Except.pure]
  have root : ({} : Disk).node? [] = some .directory := rfl
  have sound : d.IsSound := isSound_empty.putFolder root
  have nothing (i : Nat) : d.node? (slot ⟨["x"], "c"⟩ ["x"] i) = none := by
    rw [node?_put_of_ne _ (apart i).symm]
    rfl
  have holds : Holds d ⟨["x"], "c"⟩ ["x"] fun _ => none :=
    .of_found sound ⟨by decide, by decide, by decide⟩ leads (fun i _ => nothing i)
      fun i some_ => absurd rfl some_
  have finds : FindsNames ⟨["x"], "c"⟩ 5 fun _ => none :=
    ⟨own, fun i _ some_ => absurd rfl some_⟩
  obtain ⟨d', opened, up⟩ := holds.movesUp finds
  let a : Archive :=
    { path := ⟨["x"], "c"⟩, limit := limitOf 100, backups := 5
      place := slot ⟨["x"], "c"⟩ ["x"] 0, pending := [Capture.fileHeader] }
  refine ⟨never, apart, rfl, d', a, ?_, ?_⟩
  · simp only [Archive.open', made, opened, a]
  · have kept := (up a ⟨rfl, rfl, rfl⟩ (List.append_nil _)).rest ["x"] fun i _ => apart i
    exact kept.1.trans isFolder

end Archive

end Wiretap
