import Wiretap.Proofs.Capture.Opening
import Wiretap.Proofs.Storage.Beside

/-!
# A new file

What becomes of the file of an archive when it moves up and a new one is made, whatever else is in
its folder.

## Main statements

* `Archive.placeAfterShift_cases` - an open file that has moved up has left its place to a new one.
* `Archive.renew_isFile` - a new file is made, or the old one is where it was.
* `Archive.isNamed_of_openFile_shift` - a path at which a new file is made ends with a name.
* `Archive.exists_openFile_shift_of_tidy` - a new file is made as long as no directory is in the
  way.

## Design notes

A directory in the place of a backup moves up like a file, with all that lies below it.  The path of
the archive may lead through it, and leads nowhere then, so that no new file is made.  The file is
still there in this case: it is the last one to move, and would not have been found either.
-/

namespace Wiretap.Archive

open Disk

variable {d d' : Disk} {home place : Place} {path : Path} {backups i : Nat} {content : Bytes}

/-! ## Where the files are -/

/-- The folder of the files of an archive, if it is there, for a program that runs at `home`. -/
def trunk (home : Place) (path : Path) : Place :=
  path.folders.foldl follow (if path.folders.head? = some "" then [] else home)

theorem spot_of_isNamed (named : path.IsNamed) (home : Place) :
    spot home path = trunk home path ++ [path.leaf] := by
  rw [spot, Path.trimmed_of_endsWithSlash named.endsWithSlash, Path.names, List.foldl_append,
    ← trunk, List.foldl_cons, List.foldl_nil, follow,
    if_neg (not_or.mpr ⟨named.ne_empty, named.ne_dot⟩), if_neg named.ne_dots]

theorem trunk_file (home : Place) (path : Path) (i : Nat) :
    trunk home (file path i) = trunk home path := by
  rw [trunk, trunk, folders_file]

theorem spot_file (named : path.IsNamed) (home : Place) (i : Nat) :
    spot home (file path i) = slot path (trunk home path) i := by
  rw [spot_of_isNamed (isNamed_file named i), trunk_file, slot]

/-- The backups are in the folder of the file, also where the path of the file is only dots. -/
theorem exists_name_of_locate (some_ : path.leaf ≠ "") (same : d.home = home)
    (leads : d.locate (file path (i + 1)) = .ok place) :
    ∃ name, place = trunk home path ++ [name] := by
  have named : (file path (i + 1)).IsNamed := isNamed_numbered some_ (i + 1)
  exact ⟨_, by rw [eq_spot_of_locate leads, same, spot_of_isNamed named, trunk_file]⟩

/-- The backups are beside the file. -/
theorem beside_of_locate (named : path.IsNamed) (same : d.home = home)
    (leads : d.locate (file path (i + 1)) = .ok place) : Beside (spot home path) place := by
  have here : place = slot path (trunk home path) (i + 1) := by
    rw [eq_spot_of_locate leads, same, spot_file named]
  have own : spot home path = slot path (trunk home path) 0 := spot_file named home 0
  rw [here, own]
  exact ⟨by simp [slot], fun same => absurd (slot_inj.mp same) (Nat.succ_ne_zero i)⟩

/-! ## What stays in its place -/

theorem bypasses_removeIfPresent (aside : ∀ other, d.locate path = .ok other → Beside place other) :
    Bypasses place d (removeIfPresent d path) := by
  rcases removeIfPresent_cases d path with same | removed
  · rw [same]
    exact .refl place d
  · exact bypasses_remove aside removed

theorem bypasses_renameIfPresent {source target : Path}
    (fromAside : ∀ other, d.locate source = .ok other → Beside place other)
    (toAside : ∀ other, d.locate target = .ok other → Beside place other) :
    Bypasses place d (renameIfPresent d source target) := by
  rcases renameIfPresent_cases d source target with same | renamed
  · rw [same]
    exact .refl place d
  · exact bypasses_rename fromAside toAside renamed

/-- Nothing happens to the file before it moves itself. -/
theorem exists_bypasses_shift (named : path.IsNamed) (d : Disk) (backups : Nat) :
    ∃ d', Bypasses (spot d.home path) d d' ∧
      shift d path (backups + 1) = renameIfPresent d' (file path 0) (file path 1) := by
  refine exists_shift_succ (P := Bypasses (spot d.home path) d) (.refl _ d) ?_ ?_
  · intro d' above
    exact above.trans (bypasses_removeIfPresent fun other leads =>
      beside_of_locate named above.home leads)
  · intro d' i _ above
    exact above.trans (bypasses_renameIfPresent
      (fun other leads => beside_of_locate named above.home leads)
      fun other leads => beside_of_locate named above.home leads)

/-- Nothing gets below the place of the file. -/
theorem ends_shift (named : path.IsNamed) (ends : d.Ends (spot d.home path)) :
    (shift d path backups).Ends (spot d.home path) := by
  cases backups with
  | zero => exact ends
  | succ backups =>
    obtain ⟨d', above, shifted⟩ := exists_bypasses_shift named d backups
    have still := above.ends ends
    rw [shifted]
    rcases renameIfPresent_cases d' (file path 0) (file path 1) with same | renamed
    · rwa [same]
    · obtain ⟨source, target, fromHere, toHere, ⟨-, same⟩ | ⟨-, same, -⟩⟩ := rename_cases renamed
      · rwa [same]
      · have own : source = spot d.home path := above.home ▸ eq_spot_of_locate fromHere
        rw [same]
        exact fun _ => isLeaf_move (beside_of_locate named above.home toHere) (absurd own)

/-- The open file stays where it is while its backups move up. -/
theorem placeAfterShiftBackups_eq (named : path.IsNamed) (same : d.home = home) (count : Nat) :
    placeAfterShiftBackups d path count (spot home path) = spot home path := by
  induction count generalizing d with
  | zero => rfl
  | succ count ih =>
    have aside (i : Nat) (other : Place) (leads : d.locate (path.numbered (i + 1)) = .ok other) :
        Beside (spot home path) other := beside_of_locate (i := i) named same leads
    have home_eq := (bypasses_renameIfPresent (aside count) (aside (count + 1))).home.trans same
    rw [placeAfterShiftBackups, placeAfterRename_of_beside (aside count) (aside (count + 1))]
    exact ih home_eq

/-- An open file that gets another path keeps its content, and leaves its place to a new one if it
has moved. -/
theorem placeAfterRename_cases {source target : Path} (noSlash : source.endsWithSlash = false)
    (here : d.IsFile place content)
    (own : ∀ other, d.locate source = .ok other → other = place) :
    let renamed := renameIfPresent d source target
    let after := d.placeAfterRename source target place
    (after = place ∧ renamed.IsFile place content) ∨
      renamed.content? after = some content ∧
        ∃ d', renamed.openFile source .truncate = .ok (d', place) := by
  intro renamed after
  cases result : d.rename source target with
  | error e =>
    have same : renamed = d := by
      change (if d.has source then d.attempt (d.rename source target) else d) = d
      rw [result]
      exact ite_self d
    rw [same]
    exact Or.inl ⟨placeAfterRename_of_error result, here⟩
  | ok d' =>
    obtain ⟨src, dst, fromHere, toHere, either⟩ := rename_cases result
    obtain rfl : src = place := own src fromHere
    have has : d.has source = true := by
      simp [Disk.has, fromHere, here.found, noSlash]
    have moves : renamed = d' := by
      change (if d.has source then d.attempt (d.rename source target) else d) = d'
      rw [if_pos has, result]
      rfl
    rw [moves]
    rcases either with ⟨same, rfl⟩ | ⟨apart, rfl, free, -⟩
    · refine Or.inl ⟨?_, here⟩
      simp only [after, placeAfterRename, result, fromHere, toHere, if_pos same]
    · have noFolder := free here.noFolder
      have there : after = dst := by
        simp only [after, placeAfterRename, result, fromHere, toHere, if_neg apart]
        rw [moved_of_isLeaf (fun _ => rfl), if_pos rfl]
      refine Or.inr ⟨?_, here.openFile_move fromHere noSlash apart noFolder⟩
      rw [there, Disk.content?, node?_move here.alone (ne_nil_of_node? here.noFolder)
        (ne_nil_of_node? noFolder) apart, if_pos rfl, here.found]

/-- **The open file after the files have moved up.**  It is where it was, or it has moved and has
left its place to a new one. -/
theorem placeAfterShift_cases (named : path.IsNamed)
    (here : d.IsFile (spot d.home path) content) (backups : Nat) :
    let shifted := shift d path backups
    let after := placeAfterShift d path backups (spot d.home path)
    (after = spot d.home path ∧ shifted.IsFile (spot d.home path) content) ∨
      shifted.content? after = some content ∧
        ∃ d', shifted.openFile path .truncate = .ok (d', spot d.home path) := by
  cases backups with
  | zero => exact Or.inl ⟨rfl, here⟩
  | succ backups =>
    intro shifted after
    let rest := shiftBackups (removeIfPresent d (path.numbered (backups + 1))) path backups
    have aside (i : Nat) (other : Place) (leads : d.locate (path.numbered (i + 1)) = .ok other) :
        Beside (spot d.home path) other := beside_of_locate (i := i) named rfl leads
    have removed : Bypasses (spot d.home path) d
        (removeIfPresent d (path.numbered (backups + 1))) :=
      bypasses_removeIfPresent (aside backups)
    have above : Bypasses (spot d.home path) d rest :=
      shiftBackups_induction removed fun d' i _ above =>
        above.trans (bypasses_renameIfPresent
          (fun other leads => beside_of_locate named above.home leads)
          fun other leads => beside_of_locate named above.home leads)
    have followed : after = rest.placeAfterRename path (path.numbered 1) (spot d.home path) := by
      change placeAfterShift d path (backups + 1) (spot d.home path) = _
      rw [placeAfterShift, placeAfterRemove_of_beside (aside backups),
        placeAfterShiftBackups_eq named removed.home]
    rw [followed]
    -- The file itself is the last to move.
    exact placeAfterRename_cases named.endsWithSlash (above.isFile here) fun other leads =>
      above.home ▸ eq_spot_of_locate leads

/-- **A new file, or the old one.**  Where the file of an archive has moved up, an empty one takes
its place, or no file is made and it is still there. -/
theorem renew_isFile (named : path.IsNamed) (here : d.IsFile (spot d.home path) content)
    (backups : Nat) :
    (∃ d', (shift d path backups).openFile path .truncate = .ok (d', spot d.home path) ∧
        d'.home = d.home ∧ d'.IsFile (spot d.home path) []) ∨
      ∃ e, (shift d path backups).openFile path .truncate = .error e ∧
        placeAfterShift d path backups (spot d.home path) = spot d.home path ∧
        (shift d path backups).IsFile (spot d.home path) content := by
  have home : (shift d path backups).home = d.home := (edits_shift rfl).home
  cases opened : (shift d path backups).openFile path .truncate with
  | ok made =>
    obtain ⟨d', place⟩ := made
    obtain ⟨leads, -, -, same⟩ := of_openFile_truncate opened
    obtain rfl : place = spot d.home path := home ▸ eq_spot_of_locate leads
    have ends : (shift d path backups).Ends (spot d.home path) :=
      ends_shift named fun _ => here.alone
    exact Or.inl ⟨d', rfl, by rw [same]; exact home, ends.isFile_openFile opened⟩
  | error e =>
    refine Or.inr ⟨e, rfl, ?_⟩
    rcases placeAfterShift_cases named here backups with still | ⟨-, d', new⟩
    · exact still
    · rw [opened] at new
      cases new

/-- An open file is followed to where it goes. -/
theorem content?_placeAfterShift (named : path.IsNamed)
    (here : d.IsFile (spot d.home path) content) (backups : Nat) :
    (shift d path backups).content? (placeAfterShift d path backups (spot d.home path)) =
      some content := by
  rcases placeAfterShift_cases named here backups with ⟨same, still⟩ | ⟨found, -⟩
  · rw [same]
    exact still.content?
  · exact found

/-! ## The first file -/

/-- A path that leads to a directory above its backups still does after they have moved up, since no
directory goes below itself. -/
theorem node?_shift_of_above (some_ : path.leaf ≠ "")
    (above : spot d.home path <+: trunk d.home path)
    (isFolder : d.node? (spot d.home path) = some .directory) :
    (shift d path backups).node? (spot d.home path) = some .directory := by
  let touched (t : Place) : Prop := ¬ t <+: spot d.home path
  have kept {d' : Disk} (spares : Spares touched d d') :
      d'.node? (spot d.home path) = some .directory :=
    spares.node? _ _ (fun _ => id) isFolder
  have ours {d' : Disk} {place : Place} {i : Nat} (home : d'.home = d.home)
      (leads : d'.locate (file path (i + 1)) = .ok place) : touched place := by
    obtain ⟨name, rfl⟩ := exists_name_of_locate some_ home leads
    intro below
    have length := (below.trans above).length_le
    rw [List.length_append, List.length_singleton] at length
    omega
  cases backups with
  | zero => exact isFolder
  | succ backups =>
    obtain ⟨d', spares, shifted⟩ : ∃ d', Spares touched d d' ∧
        shift d path (backups + 1) = renameIfPresent d' (file path 0) (file path 1) := by
      refine exists_shift_succ (.refl _ d) (fun d' spares => ?_) fun d' i _ spares => ?_
      · exact spares.trans
          (edits_removeIfPresent fun place leads => ours spares.home leads).toSpares
      · exact spares.trans
          (edits_renameIfPresent (fun place leads => ours spares.home leads)
            fun place leads => ours spares.home leads).toSpares
    rw [shifted]
    rcases renameIfPresent_cases d' (file path 0) (file path 1) with same | renamed
    · rw [same]
      exact kept spares
    · obtain ⟨source, target, fromHere, toHere, ⟨-, same⟩ | ⟨-, -, -, within⟩⟩ :=
        rename_cases renamed
      · rw [same]
        exact kept spares
      · obtain rfl : source = spot d.home path := spares.home ▸ eq_spot_of_locate fromHere
        obtain ⟨name, rfl⟩ := exists_name_of_locate some_ spares.home toHere
        exact absurd (above.trans (List.prefix_append _ _)) (within (kept spares))

/-- A path at which a new file is made ends with a name. -/
theorem isNamed_of_openFile_shift (sound : d.IsSound)
    (opened : (shift d path backups).openFile path .truncate = .ok (d', place)) :
    path.IsNamed := by
  obtain ⟨leads, noSlash, noFolder, -⟩ := of_openFile_truncate opened
  have some_ : path.leaf ≠ "" := by
    intro none_
    rw [Path.endsWithSlash, none_] at noSlash
    rw [locate, if_pos ⟨by simpa using noSlash, none_⟩] at leads
    cases leads
  cases walked : d.walk path.folders with
  | error e =>
    rw [shift_of_absent (has_file_of_walk some_ noSlash walked)] at opened
    obtain ⟨-, -, named, -⟩ := sound.of_openFile opened
    exact named
  | ok folder =>
    have folders : folder = trunk d.home path := eq_of_walk walked
    have home : (shift d path backups).home = d.home := (edits_shift rfl).home
    -- A path that ends with a dot leads to its folder or the one above.
    have notAbove : ¬ spot d.home path <+: trunk d.home path := by
      intro above
      have isFolder : d.node? (spot d.home path) = some .directory := by
        by_cases same : spot d.home path = folder
        · rw [same, sound.node?_walk walked]
        · exact sound.node?_of_prefix (sound.node?_walk walked) (folders ▸ above) same
      rw [eq_spot_of_locate leads, home] at noFolder
      exact noFolder (node?_shift_of_above some_ above isFolder)
    have spot_eq : spot d.home path = follow (trunk d.home path) path.leaf := by
      rw [spot, Path.trimmed_of_endsWithSlash noSlash, Path.names, List.foldl_append, ← trunk,
        List.foldl_cons, List.foldl_nil]
    refine ⟨some_, fun dot => notAbove ?_, fun dots => notAbove ?_⟩
    · rw [spot_eq, dot]
      exact List.prefix_rfl
    · rw [spot_eq, dots]
      exact List.dropLast_prefix _

/-- The file of an archive that was opened on a sound disk. -/
theorem isFile_of_open' {a : Archive} {mebibytes : Nat} (sound : d.IsSound)
    (opened : Archive.open' d path mebibytes backups = (d', .ok a)) :
    path.IsNamed ∧ a.place = spot d'.home path ∧ d'.IsFile a.place [] ∧
      d'.locate path = .ok a.place ∧
      a = { path, limit := limitOf mebibytes, backups, place := a.place
            pending := [Capture.fileHeader] } := by
  have sound₁ := sound.makeFolderOf path
  rw [Archive.open'] at opened
  generalize d.makeFolderOf path = made at opened sound₁
  obtain ⟨d₁, _ | _⟩ := made
  · cases opened
  · simp only at opened
    split at opened
    · cases opened
    · next d₂ place isOpen =>
      cases opened
      have named := isNamed_of_openFile_shift sound₁ isOpen
      obtain ⟨leads, -, noFolder, rfl⟩ := of_openFile_truncate isOpen
      have home : (shift d₁ path backups).home = d₁.home := (edits_shift rfl).home
      have own := eq_spot_of_locate leads
      have ends : (shift d₁ path backups).Ends place := by
        rw [own, home]
        exact ends_shift named fun noFolder => sound₁.isLeaf noFolder
      have after := node?_put (shift d₁ path backups) (ne_nil_of_node? noFolder) (.file [])
      have stay (other : Place) (found : (shift d₁ path backups).node? other = some .directory) :
          ((shift d₁ path backups).put place (.file [])).node? other = some .directory := by
        rw [after, if_neg fun same : other = place => noFolder (same ▸ found), found]
      exact ⟨named, own, ends.isFile_openFile isOpen,
        locate_of_directories (d := shift d₁ path backups) rfl stay leads, rfl⟩

/-! ## No directory in the way -/

/-- A new file is made as long as no directory is in the place of a file. -/
theorem exists_openFile_shift_of_tidy (tidy : d.IsTidy (IsPlace home path backups))
    (same : d.home = home) (noSlash : path.endsWithSlash = false)
    (leads : d.locate path = .ok place) :
    ∃ d', (shift d path backups).openFile path .truncate = .ok (d', place) ∧ d'.home = home ∧
      d'.IsTidy (IsPlace home path backups) ∧ d'.locate path = .ok place := by
  have moved : Edits (IsPlace home path backups) d (shift d path backups) := edits_shift same
  have leads₁ := locate_of_directories moved.home (tidy.directory moved.toSpares) leads
  have ours (other : Place) (leads : (shift d path backups).locate path = .ok other) :
      IsPlace home path backups other :=
    isPlace_of_locate (i := 0) (moved.home.trans same) (Nat.zero_le _) leads
  have tidy₁ := moved.tidy tidy
  have opened := openFile_of_locate leads₁ noSlash (tidy₁.noFolder place (ours place leads₁))
  obtain ⟨edits, -⟩ := Disk.edits_openFile (fun other leads _ _ => ours other leads) opened
  exact ⟨_, opened, (edits.home.trans moved.home).trans same, edits.tidy tidy₁,
    locate_of_directories edits.home (tidy₁.directory edits.toSpares) leads₁⟩

end Wiretap.Archive
