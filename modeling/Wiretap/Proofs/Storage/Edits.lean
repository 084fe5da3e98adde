import Wiretap.Proofs.Storage.Folder

/-!
# What operations leave alone

Every operation of a disk touches the places that its paths lead to, and nothing else that is there
changes.

## Main definitions

* `Disk.spot` - the place that a path leads to, if it leads anywhere.
* `Disk.Spares` - everything is spared that does not lie at or below a touched place.
* `Disk.Edits` - this, and a sound disk stays sound as long as no touched place is a directory.

## Main statements

* `Disk.eq_spot_of_locate` - where a path leads does not depend on the files.
* `Disk.edits_openFile`, `Disk.edits_append`, `Disk.edits_remove`, `Disk.edits_rename` - operations
  on files.
* `Disk.spares_makeFolderOf` - making folders spares what is there.
* `Disk.makeFolderOf_of_walk` - nothing is made where the folder of a path is there.
* `Disk.of_openFile_extend` - a file that is opened to be continued keeps what it held.

## Design notes

A directory that is moved takes along what lies below it.  So what is kept is told of places that
have no touched place above them, which needs nothing of the disk.  That a disk stays sound is told
only while files are moved.
-/

namespace Wiretap.Disk

variable {d d' d'' : Disk} {touched : Place → Prop} {place other source target folder : Place}
  {p q : Path} {name : String} {node : FileNode} {content : Bytes}

/-! ## Where a path leads -/

/-- Where a name leads from a folder, if it leads anywhere. -/
def follow (folder : Place) (name : String) : Place :=
  if name = "" ∨ name = "." then folder
  else if name = ".." then folder.dropLast
  else folder ++ [name]

/-- The place that a path leads to, if it leads anywhere, for a program that runs at `home`. -/
def spot (home : Place) (p : Path) : Place :=
  p.trimmed.names.foldl follow (if p.trimmed.folders.head? = some "" then [] else home)

theorem eq_follow_of_enter (leads : d.enter folder name = .ok place) :
    place = follow folder name := by
  unfold enter at leads
  unfold follow
  split at leads
  · next here =>
    rw [if_pos here]
    cases leads
    rfl
  · next named =>
    rw [if_neg named]
    split at leads
    · next up =>
      rw [if_pos up]
      cases leads
      rfl
    · next down =>
      rw [if_neg down]
      split at leads
      · cases leads
      · next isChild =>
        split at leads
        · cases leads
          exact eq_of_child isChild
        · cases leads
        · cases leads

theorem eq_of_walk {names : List String} (leads : d.walk names = .ok place) :
    place = names.foldl follow (d.origin names) := by
  rw [walk] at leads
  generalize d.origin names = start at leads ⊢
  induction names generalizing start with
  | nil =>
    cases leads
    rfl
  | cons name names ih =>
    rw [List.foldlM_cons] at leads
    cases first : d.enter start name with
    | error e =>
      rw [first] at leads
      cases leads
    | ok next =>
      rw [first] at leads
      rw [List.foldl_cons, ← eq_follow_of_enter first]
      exact ih next leads

/-- Where a path leads does not depend on the files. -/
theorem eq_spot_of_locate (leads : d.locate p = .ok place) : place = spot d.home p := by
  unfold locate at leads
  split at leads
  · cases leads
  · simp only at leads
    split at leads
    · cases leads
    · next folder walked =>
      have folders : folder = p.trimmed.folders.foldl follow
          (if p.trimmed.folders.head? = some "" then [] else d.home) := eq_of_walk walked
      rw [spot, Path.names, List.foldl_append, ← folders, List.foldl_cons, List.foldl_nil, follow]
      split at leads
      · next here =>
        rw [if_pos here]
        cases leads
        rfl
      · next named =>
        rw [if_neg named]
        split at leads
        · next up =>
          rw [if_pos up]
          cases leads
          rfl
        · next down =>
          rw [if_neg down]
          exact eq_of_child leads

/-! ## What is spared -/

/-- Everything is spared that does not lie at or below a touched place. -/
structure Spares (touched : Place → Prop) (d d' : Disk) : Prop where
  home : d'.home = d.home
  node? : ∀ place node, (∀ t, touched t → ¬ t <+: place) → d.node? place = some node →
    d'.node? place = some node

/-- A disk is sound and no touched place is a directory. -/
structure IsTidy (touched : Place → Prop) (d : Disk) : Prop where
  sound : d.IsSound
  noFolder : ∀ place, touched place → d.node? place ≠ some .directory

/-- Touched places get other files, and directories are left alone if no touched place is one. -/
structure Edits (touched : Place → Prop) (d d' : Disk) : Prop extends Spares touched d d' where
  tidy : d.IsTidy touched → d'.IsTidy touched

theorem Spares.refl (touched : Place → Prop) (d : Disk) : Spares touched d d :=
  ⟨rfl, fun _ _ _ found => found⟩

theorem Spares.trans (first : Spares touched d d') (second : Spares touched d' d'') :
    Spares touched d d'' :=
  ⟨second.home.trans first.home, fun place node apart found =>
    second.node? place node apart (first.node? place node apart found)⟩

theorem Edits.refl (touched : Place → Prop) (d : Disk) : Edits touched d d :=
  ⟨.refl touched d, id⟩

theorem Edits.trans (first : Edits touched d d') (second : Edits touched d' d'') :
    Edits touched d d'' :=
  ⟨first.toSpares.trans second.toSpares, second.tidy ∘ first.tidy⟩

/-- A disk of which nothing is touched stays sound. -/
theorem Edits.isSound (edits : Edits (fun _ => False) d d') (sound : d.IsSound) : d'.IsSound :=
  (edits.tidy ⟨sound, fun _ never => never.elim⟩).sound

theorem Spares.mono {more : Place → Prop} (spares : Spares touched d d')
    (fewer : ∀ place, touched place → more place) : Spares more d d' :=
  ⟨spares.home, fun place node apart =>
    spares.node? place node fun t here => apart t (fewer t here)⟩

theorem node?_of_content? (found : d.content? place = some content) :
    d.node? place = some (.file content) := by
  rw [Disk.content?] at found
  split at found
  · next here =>
    cases found
    exact here
  · cases found

/-- A file that does not lie at or below a touched place keeps its content. -/
theorem Spares.content? (spares : Spares touched d d') (apart : ∀ t, touched t → ¬ t <+: place)
    (found : d.content? place = some content) : d'.content? place = some content := by
  rw [Disk.content?, spares.node? place _ apart (node?_of_content? found)]

/-- A disk stays sound if its directories stay and what is new lies in one of them. -/
theorem IsSound.of_places (sound : d.IsSound) (home : d'.home = d.home)
    (stay : ∀ place, d.node? place = some .directory → d'.node? place = some .directory)
    (inside : ∀ e ∈ d'.entries, (∃ old ∈ d.entries, old.1 = e.1) ∨
      ∃ folder name, d.node? folder = some .directory ∧ e.1 = folder ++ [name]) : d'.IsSound := by
  refine ⟨?_, home ▸ stay _ sound.home⟩
  intro e member place above apart
  rcases inside e member with ⟨old, was, same⟩ | ⟨folder, name, found, same⟩
  · exact stay place (sound.above old was place (same ▸ above) (same ▸ apart))
  · rw [same] at above apart
    rcases List.prefix_concat_iff.mp above with here | within
    · exact absurd here apart
    · by_cases here : place = folder
      · exact stay place (here ▸ found)
      · exact stay place (sound.node?_of_prefix found within here)

/-- No directory goes where none is touched. -/
theorem IsTidy.directory (tidy : d.IsTidy touched) (spares : Spares touched d d') (place : Place)
    (found : d.node? place = some .directory) : d'.node? place = some .directory := by
  refine spares.node? place _ (fun t here above => ?_) found
  by_cases same : t = place
  · exact tidy.noFolder t here (same ▸ found)
  · exact tidy.noFolder t here (tidy.sound.node?_of_prefix found above same)

theorem ne_nil_of_node? (noFolder : d.node? place ≠ some .directory) : place ≠ [] := by
  rintro rfl
  exact noFolder rfl

/-! ## Single changes -/

/-- A new file, or another one at a touched place. -/
theorem edits_put (leads : d.locate p = .ok place) (noFolder : d.node? place ≠ some .directory)
    (ours : d.node? place = none ∨ touched place) (content : Bytes) :
    Edits touched d (d.put place (.file content)) := by
  have notRoot := ne_nil_of_node? noFolder
  have after (other : Place) := node?_put d notRoot (.file content) other
  have stay (other : Place) (found : d.node? other = some .directory) :
      (d.put place (.file content)).node? other = some .directory := by
    rw [after, if_neg fun same : other = place => noFolder (same ▸ found), found]
  refine ⟨⟨rfl, fun other node apart found => ?_⟩, fun tidy => ⟨?_, fun t here => ?_⟩⟩
  · have elsewhere : other ≠ place := by
      rintro rfl
      rcases ours with free | here
      · rw [free] at found
        cases found
      · exact apart other here List.prefix_rfl
    rw [after, if_neg elsewhere, found]
  · obtain ⟨folder, walked, -, isChild⟩ := tidy.sound.isNamed_of_locate leads noFolder
    refine tidy.sound.of_places rfl stay fun e member => ?_
    rcases List.mem_append.mp member with kept | new
    · exact Or.inl ⟨e, (List.mem_filter.mp kept).1, rfl⟩
    · rw [List.mem_singleton.mp new]
      exact Or.inr ⟨folder, _, tidy.sound.node?_walk walked, eq_of_child isChild⟩
  · rw [after]
    split
    · simp
    · exact tidy.noFolder t here

/-- A new directory. -/
theorem spares_putFolder (free : d.node? place = none) :
    Spares touched d (d.put place .directory) := by
  have noFolder : d.node? place ≠ some .directory := by simp [free]
  have notRoot := ne_nil_of_node? noFolder
  refine ⟨rfl, fun other node _ found => ?_⟩
  have elsewhere : other ≠ place := by
    rintro rfl
    rw [free] at found
    cases found
  rw [node?_put d notRoot, if_neg elsewhere, found]

/-- A file fewer at a touched place. -/
theorem edits_erase (found : d.node? place = some (.file content)) (ours : touched place) :
    Edits touched d (d.erase place) := by
  have noFolder : d.node? place ≠ some .directory := by simp [found]
  have after (other : Place) := node?_erase d (ne_nil_of_node? noFolder) other
  refine ⟨⟨rfl, fun other node apart found => ?_⟩, fun tidy => ⟨?_, fun t here => ?_⟩⟩
  · have elsewhere : other ≠ place := by
      rintro rfl
      exact apart other ours List.prefix_rfl
    rw [after, if_neg elsewhere, found]
  · refine tidy.sound.of_places rfl (fun other found => ?_) fun e member =>
      Or.inl ⟨e, (List.mem_filter.mp member).1, rfl⟩
    rw [after, if_neg fun same : other = place => noFolder (same ▸ found), found]
  · rw [after]
    split
    · simp
    · exact tidy.noFolder t here

/-- What lies neither at nor below the two places stays where it is. -/
theorem node?_move_of_apart (d : Disk) (fromHere : ¬ source <+: other)
    (toHere : ¬ target <+: other) :
    (d.move source target).node? other = d.node? other := by
  have notRoot : other ≠ [] → ((d.erase target).entries.map fun e =>
      (moved source target e.1, e.2)).find? (fun e => e.1 = other) =
        d.entries.find? fun e => e.1 = other := by
    intro _
    rw [erase]
    induction d.entries with
    | nil => rfl
    | cons e entries ih =>
      by_cases gone : e.1 = target
      · have elsewhere : e.1 ≠ other := by
          rintro rfl
          exact toHere (gone ▸ List.prefix_rfl)
        rw [List.filter_cons_of_neg (by simpa using gone), ih,
          List.find?_cons_of_neg (by simpa using elsewhere)]
      · rw [List.filter_cons_of_pos (by simpa using gone), List.map_cons, moved]
        by_cases below : source.isPrefixOf e.1
        · have elsewhere : e.1 ≠ other := by
            rintro rfl
            exact fromHere (List.isPrefixOf_iff_prefix.mp below)
          have away : target ++ e.1.drop source.length ≠ other := by
            rintro rfl
            exact toHere (List.prefix_append ..)
          rw [if_pos below, List.find?_cons_of_neg (by simpa using away), ih,
            List.find?_cons_of_neg (by simpa using elsewhere)]
        · rw [if_neg below, List.find?_cons, List.find?_cons, ih]
  by_cases root : other = []
  · rw [root]
    rfl
  · rw [Disk.node?, Disk.node?, if_neg root, if_neg root, move, notRoot root]

/-- More in a file at a touched place, or nothing more in any file. -/
theorem edits_append (more : Bytes) (ours : more = [] ∨ touched place) :
    Edits touched d (d.append place more) := by
  unfold Disk.append
  cases found : d.content? place with
  | none => exact .refl touched d
  | some content =>
    have file := node?_of_content? found
    have noFolder : d.node? place ≠ some .directory := by simp [file]
    have notRoot := ne_nil_of_node? noFolder
    have after (other : Place) := node?_put d notRoot (.file (content ++ more)) other
    refine ⟨⟨rfl, fun other node apart here => ?_⟩, fun tidy => ⟨?_, fun t here => ?_⟩⟩
    · rw [after]
      split
      · next same =>
        subst same
        rcases ours with rfl | ours
        · rw [List.append_nil, ← file, here]
        · exact absurd List.prefix_rfl (apart other ours)
      · exact here
    · refine tidy.sound.of_places rfl (fun other here => ?_) fun e member => ?_
      · rw [after, if_neg fun same : other = place => noFolder (same ▸ here), here]
      · rcases List.mem_append.mp member with kept | new
        · exact Or.inl ⟨e, (List.mem_filter.mp kept).1, rfl⟩
        · rw [List.mem_singleton.mp new]
          exact Or.inl ⟨_, mem_of_node? notRoot file, rfl⟩
    · rw [after]
      split
      · simp
      · exact tidy.noFolder t here

/-- A file with another name, where both places are touched. -/
theorem edits_move (leads : d.locate q = .ok target) (apart : source ≠ target)
    (fromHere : touched source) (toHere : touched target) :
    Edits touched d (d.move source target) := by
  refine ⟨⟨rfl, fun other node apart found => ?_⟩, fun tidy => ?_⟩
  · rw [node?_move_of_apart d (apart source fromHere) (apart target toHere), found]
  · have noFolder := tidy.noFolder source fromHere
    have free := tidy.noFolder target toHere
    have leaf := tidy.sound.isLeaf noFolder
    have after (other : Place) := node?_move leaf (ne_nil_of_node? noFolder)
      (ne_nil_of_node? free) apart other
    obtain ⟨folder, walked, -, isChild⟩ := tidy.sound.isNamed_of_locate leads free
    refine ⟨tidy.sound.of_places rfl (fun other here => ?_) fun e member => ?_, fun t here => ?_⟩
    · rw [after, if_neg fun same : other = target => free (same ▸ here),
        if_neg fun same : other = source => noFolder (same ▸ here), here]
    · obtain ⟨old, kept, rfl⟩ := List.mem_map.mp member
      have was := (List.mem_filter.mp kept).1
      simp only [moved_of_isLeaf (leaf old was)]
      split
      · exact Or.inr ⟨folder, _, tidy.sound.node?_walk walked, eq_of_child isChild⟩
      · exact Or.inl ⟨old, was, rfl⟩
    · rw [after]
      split
      · exact noFolder
      · split
        · simp
        · exact tidy.noFolder t here

/-! ## Operations -/

/-- What is removed is a file. -/
theorem exists_of_remove (removed : d.remove p = .ok d') :
    ∃ place content, d.locate p = .ok place ∧ d.node? place = some (.file content) ∧
      d' = d.erase place := by
  unfold Disk.remove at removed
  split at removed
  · cases removed
  · next place leads =>
    split at removed
    · cases removed
    · next content found =>
      split at removed
      · cases removed
      · cases removed
        exact ⟨place, content, leads, found, rfl⟩
    · cases removed

theorem edits_remove (ours : ∀ place, d.locate p = .ok place → touched place)
    (removed : d.remove p = .ok d') : Edits touched d d' := by
  obtain ⟨place, content, leads, found, rfl⟩ := exists_of_remove removed
  exact edits_erase found (ours place leads)

/-- What is found at the two places decides whether the host refuses, does nothing, or moves.  A
file does not take the place of a directory, and a directory does not go below itself. -/
theorem rename_cases (renamed : d.rename p q = .ok d') :
    ∃ source target, d.locate p = .ok source ∧ d.locate q = .ok target ∧
      ((source = target ∧ d' = d) ∨ (source ≠ target ∧ d' = d.move source target ∧
        (d.node? source ≠ some .directory → d.node? target ≠ some .directory) ∧
        (d.node? source = some .directory → ¬ source <+: target))) := by
  unfold Disk.rename at renamed
  cases leads : d.locate p with
  | error e =>
    rw [leads] at renamed
    cases renamed
  | ok source =>
    cases leads' : d.locate q with
    | error e =>
      rw [leads, leads'] at renamed
      cases renamed
    | ok target =>
      simp only [leads, leads', bind, Except.bind] at renamed
      refine ⟨source, target, rfl, rfl, ?_⟩
      split at renamed
      · cases renamed
      · cases renamed
      · next isFile noFolder =>
        split at renamed
        · cases renamed
        · split at renamed
          · next same =>
            cases renamed
            exact Or.inl ⟨same, rfl⟩
          · next apart =>
            cases renamed
            exact Or.inr ⟨apart, rfl, fun _ => noFolder,
              fun isFolder => by simp [isFile] at isFolder⟩
      · cases renamed
      · next isFolder _ =>
        split at renamed
        · next same =>
          cases renamed
          exact Or.inl ⟨same, rfl⟩
        · next apart =>
          split at renamed
          · cases renamed
          · next notBelow =>
            split at renamed
            · cases renamed
            · cases renamed
              exact Or.inr ⟨apart, rfl, fun noFolder => absurd isFolder noFolder,
                fun _ below => notBelow (List.isPrefixOf_iff_prefix.mpr below)⟩

theorem edits_rename (fromHere : ∀ place, d.locate p = .ok place → touched place)
    (toHere : ∀ place, d.locate q = .ok place → touched place)
    (renamed : d.rename p q = .ok d') : Edits touched d d' := by
  obtain ⟨source, target, leads, leads', ⟨-, rfl⟩ | ⟨apart, rfl, -⟩⟩ := rename_cases renamed
  · exact .refl touched _
  · exact edits_move leads' apart (fromHere source leads) (toHere target leads')

theorem edits_openFile {mode : Mode}
    (ours : ∀ place, d.locate p = .ok place → d.node? place ≠ none → mode = .truncate →
      touched place)
    (opened : d.openFile p mode = .ok (d', place)) :
    Edits touched d d' ∧ d.locate p = .ok place := by
  unfold openFile at opened
  split at opened
  · cases opened
  · next here leads =>
    split at opened
    · cases opened
    · split at opened
      · cases opened
      · cases opened
        exact ⟨.refl touched d, leads⟩
      · next noFolder noExtend =>
        cases opened
        refine ⟨edits_put leads noFolder ?_ [], leads⟩
        cases found : d.node? place with
        | none => exact Or.inl rfl
        | some node =>
          have either (mode : Mode) (noExtend : mode ≠ .extend) : mode = .truncate := by
            cases mode with
            | truncate => rfl
            | extend => exact absurd rfl noExtend
          cases node with
          | directory => exact absurd found noFolder
          | file content =>
            exact Or.inr (ours place leads (by simp [found]) (either _ (noExtend content found)))

theorem spares_makeFolder (made : d.makeFolder p = .ok d') : Spares touched d d' := by
  unfold Disk.makeFolder at made
  split at made
  · cases made
  · split at made
    · cases made
    · next free =>
      cases made
      exact spares_putFolder free

theorem spares_makeFolders (names : List String) : Spares touched d (d.makeFolders names).1 := by
  induction names generalizing d with
  | nil => exact .refl touched d
  | cons name above ih =>
    simp only [Disk.makeFolders]
    split
    · split
      · next d₁ made =>
        have first : Spares touched d d₁ := by simpa only [made] using ih (d := d)
        split
        · next made₁ => exact first.trans (spares_makeFolder made₁)
        · split <;> exact first
      · next d₁ e made => simpa only [made] using ih (d := d)
    · split
      · next made => exact spares_makeFolder made
      · split <;> exact .refl touched d

theorem spares_makeFolderOf (p : Path) : Spares touched d (d.makeFolderOf p).1 := by
  unfold Disk.makeFolderOf
  split
  · exact .refl touched d
  · split
    · exact .refl touched d
    · exact spares_makeFolders _

/-! ## Folders that are there -/

/-- Names that lead nowhere may be left out. -/
theorem walk_filter (d : Disk) (names : List String) (start : Place) :
    (names.filter fun n => n ≠ "" ∧ n ≠ ".").foldlM d.enter start = names.foldlM d.enter start := by
  induction names generalizing start with
  | nil => rfl
  | cons name names ih =>
    by_cases named : name ≠ "" ∧ name ≠ "."
    · rw [List.filter_cons_of_pos (by simpa using named), List.foldlM_cons, List.foldlM_cons]
      congr 1
      funext next
      exact ih next
    · have stays : d.enter start name = .ok start := by
          rw [enter, if_pos (Decidable.or_iff_not_not_and_not.mpr named)]
      rw [List.filter_cons_of_neg (by simpa using named), ih, List.foldlM_cons, stays]
      rfl

/-- The folder of a path is where its folders lead. -/
theorem walk_folderOf (d : Disk) (trimmed : p.trimmed = p) :
    d.walk (folderOf p) = d.walk p.folders := by
  rw [folderOf, trimmed]
  simp only
  split
  · next rest folders =>
    have first : d.enter [] "" = .ok [] := rfl
    simp only [walk, folders, origin, List.head?_cons, if_pos, List.foldlM_cons, first]
    exact walk_filter d rest []
  · next noRoot =>
    have start : d.origin (p.folders.filter fun n => n ≠ "" ∧ n ≠ ".") = d.origin p.folders := by
      rw [origin, origin, if_neg, if_neg]
      · intro first
        obtain ⟨rest, folders⟩ := List.head?_eq_some_iff.mp first
        exact noRoot rest folders
      · intro first
        have member := List.mem_of_mem_head? first
        simp at member
    rw [walk, walk, start]
    exact walk_filter d p.folders _

/-- The last name of the folder of a path leads to another place, unless the folder is the root. -/
theorem last_folderOf {above : List String} (trimmed : p.trimmed = p)
    (last : folderOf p = above ++ [name]) :
    (name ≠ "" ∧ name ≠ ".") ∨ (above = [] ∧ name = "") := by
  have named {names above : List String}
      (last : (names.filter fun n => n ≠ "" ∧ n ≠ ".") = above ++ [name]) :
      name ≠ "" ∧ name ≠ "." := by
    have member : name ∈ names.filter fun n => n ≠ "" ∧ n ≠ "." := last ▸ by simp
    simpa using (List.mem_filter.mp member).2
  rw [folderOf, trimmed] at last
  simp only at last
  split at last
  · cases above with
    | nil =>
      simp only [List.nil_append, List.cons.injEq] at last
      exact Or.inr ⟨rfl, last.1.symm⟩
    | cons first above =>
      simp only [List.cons_append, List.cons.injEq] at last
      exact Or.inl (named last.2)
  · exact Or.inl (named last)

/-- A path leads where its names lead, one after the other. -/
theorem locate_of_walk_concat {names : List String} (notEmpty : name ≠ "") (notDot : name ≠ ".")
    (leads : d.walk (names ++ [name]) = .ok place) : d.locate ⟨names, name⟩ = .ok place := by
  have whole : Path.trimmed ⟨names, name⟩ = ⟨names, name⟩ :=
    Path.trimmed_of_endsWithSlash (by simp [Path.endsWithSlash, notEmpty])
  have named : ¬(name = "" ∨ name = ".") := not_or.mpr ⟨notEmpty, notDot⟩
  have same : d.origin (names ++ [name]) = d.origin names := by
    cases names with
    | nil => simp [origin, notEmpty]
    | cons first rest => rfl
  rw [walk, same, List.foldlM_append] at leads
  cases walked : names.foldlM d.enter (d.origin names) with
  | error e =>
    rw [walked] at leads
    cases leads
  | ok folder =>
    rw [walked] at leads
    have entered : d.enter folder name = .ok place := by
      cases entered : d.enter folder name with
      | error e => simp [entered, bind, Except.bind] at leads
      | ok next => simpa [entered, bind, Except.bind, pure, Except.pure] using leads
    rw [locate, if_neg fun h => notEmpty h.2, whole]
    simp only [walk, walked]
    rw [if_neg named]
    rw [enter, if_neg named] at entered
    split at entered
    · next up => rw [if_pos up, entered]
    · next down =>
      rw [if_neg down]
      split at entered
      · cases entered
      · next isChild =>
        rw [isChild]
        split at entered <;> cases entered
        rfl

/-- Nothing is made where the folder of a path is there. -/
theorem makeFolderOf_of_walk (sound : d.IsSound) (trimmed : p.trimmed = p)
    (leads : d.walk p.folders = .ok folder) : d.makeFolderOf p = (d, .ok ()) := by
  rw [← walk_folderOf d trimmed] at leads
  unfold Disk.makeFolderOf
  split
  · rfl
  · next name above parts =>
    have names : folderOf p = above.reverse ++ [name] := by
      rw [← List.reverse_reverse (folderOf p), parts, List.reverse_cons]
    rcases last_folderOf trimmed names with ⟨notEmpty, notDot⟩ | ⟨root, rfl⟩
    · have there : d.has ⟨above.reverse, name⟩ = true := by
        rw [Disk.has, locate_of_walk_concat notEmpty notDot (names ▸ leads)]
        simp only [sound.node?_walk leads]
      rw [there]
      rfl
    · have none_ : above = [] := List.reverse_eq_nil_iff.mp root
      subst none_
      rfl

/-! ## Files that are continued -/

/-- A path leads to the same place as long as no directory goes. -/
theorem locate_of_directories (home : d'.home = d.home)
    (stay : ∀ place, d.node? place = some .directory → d'.node? place = some .directory)
    (leads : d.locate p = .ok place) : d'.locate p = .ok place := by
  unfold locate at leads ⊢
  split at leads
  · cases leads
  · next some_ =>
    rw [if_neg some_]
    simp only at leads ⊢
    cases walked : d.walk p.trimmed.folders with
    | error e =>
      rw [walked] at leads
      cases leads
    | ok folder =>
      rw [walk_of_directories home stay walked]
      rw [walked] at leads
      exact leads

theorem home_append (d : Disk) (place : Place) (more : Bytes) :
    (d.append place more).home = d.home := by
  unfold append
  split <;> rfl

theorem node?_append_self (found : d.node? place = some (.file content)) (more : Bytes) :
    (d.append place more).node? place = some (.file (content ++ more)) := by
  have here : d.content? place = some content := by rw [content?, found]
  have noFolder : d.node? place ≠ some .directory := by simp [found]
  rw [append, here]
  exact node?_put_self d (ne_nil_of_node? noFolder) _

theorem node?_append_of_ne (d : Disk) (elsewhere : other ≠ place) (more : Bytes) :
    (d.append place more).node? other = d.node? other := by
  unfold append
  split
  · exact node?_put_of_ne d elsewhere _
  · rfl

/-- Nothing more changes nothing. -/
theorem node?_append_nil (d : Disk) (place other : Place) :
    (d.append place []).node? other = d.node? other := by
  unfold Disk.append
  cases here : d.content? place with
  | none => rfl
  | some content =>
    have file := node?_of_content? here
    have noFolder : d.node? place ≠ some .directory := by simp [file]
    rw [node?_put d (ne_nil_of_node? noFolder), List.append_nil]
    split
    · next same => rw [same, file]
    · rfl

/-- What is known of a file that was opened to be continued. -/
theorem of_openFile_extend (opened : d.openFile p .extend = .ok (d', place)) :
    d.locate p = .ok place ∧ p.endsWithSlash = false ∧ d.node? place ≠ some .directory ∧
      d'.home = d.home ∧ d'.node? place = some (.file ((d.content? place).getD [])) ∧
      ∀ other, other ≠ place → d'.node? other = d.node? other := by
  unfold openFile at opened
  split at opened
  · cases opened
  · next leads =>
    split at opened
    · cases opened
    · next noSlash =>
      have noSlash : p.endsWithSlash = false := by simpa using noSlash
      split at opened
      · cases opened
      · next content found _ =>
        cases opened
        refine ⟨leads, noSlash, by simp [found], rfl, ?_, fun _ _ => rfl⟩
        rw [content?, found]
        rfl
      · next noFolder noFile =>
        cases opened
        have nothing : d.content? place = none := by
          rw [content?]
          split
          · next content found => exact absurd rfl (noFile content found)
          · rfl
        refine ⟨leads, noSlash, noFolder, rfl, ?_, fun other elsewhere => ?_⟩
        · rw [nothing]
          exact node?_put_self d (ne_nil_of_node? noFolder) _
        · exact node?_put_of_ne d elsewhere _

/-- A file that is there can be opened to be continued. -/
theorem openFile_extend_of_file (leads : d.locate p = .ok place)
    (noSlash : p.endsWithSlash = false) (found : d.node? place = some (.file content)) :
    d.openFile p .extend = .ok (d, place) := by
  rw [openFile, leads]
  simp only [noSlash, Bool.false_eq_true, if_false, found]

/-- What is read where a path leads is the content found there. -/
theorem toOption_read (leads : d.locate p = .ok place) (noSlash : p.endsWithSlash = false) :
    (d.read p).toOption = d.content? place := by
  rw [read, leads, content?]
  simp only [noSlash, Bool.false_eq_true, if_false]
  split <;> simp_all [Except.toOption]

theorem read_of_content? (leads : d.locate p = .ok place) (noSlash : p.endsWithSlash = false)
    (found : d.content? place = some content) : d.read p = .ok content := by
  have same := toOption_read leads noSlash
  rw [found] at same
  cases answer : d.read p with
  | error fault =>
    rw [answer] at same
    cases same
  | ok content =>
    rw [answer] at same
    exact congrArg Except.ok (Option.some.inj same)

end Wiretap.Disk
