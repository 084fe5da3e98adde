import Wiretap.Storage.Disk

/-!
# Files in one folder

What the operations of a disk do to the places of one folder, and that none of them makes a path
lead elsewhere.

## Main definitions

* `Disk.IsLeaf` - nothing lies below a place.
* `Disk.IsSound` - what lies above a place is a directory, and the program runs in one.
* `Path.IsNamed` - the last name of a path is a name in its folder.

## Main statements

* `Disk.node?_put`, `Disk.node?_erase`, `Disk.node?_move` - what is found at each place afterwards.
* `Disk.walk_of_directories` - a path leads to the same folder as long as no directory goes.
* `Disk.IsSound.node?_walk` - on a sound disk a path leads to a directory.
* `Disk.IsSound.makeFolderOf` - making folders keeps a disk sound.

## Design notes

Moving something takes along what lies below it.  A file has nothing below it, and `IsLeaf` says
this of the places alone, so that what is moved is one entry of the disk.
-/

namespace Wiretap

/-- The last name of a path is a name in its folder. -/
structure Path.IsNamed (p : Path) : Prop where
  ne_empty : p.leaf ≠ ""
  ne_dot : p.leaf ≠ "."
  ne_dots : p.leaf ≠ ".."

theorem Path.IsNamed.endsWithSlash {p : Path} (named : p.IsNamed) : p.endsWithSlash = false := by
  simp [Path.endsWithSlash, named.ne_empty]

theorem Path.trimmed_of_endsWithSlash {p : Path} (noSlash : p.endsWithSlash = false) :
    p.trimmed = p := by
  rw [Path.trimmed, noSlash]
  rfl

namespace Disk

variable {d d' : Disk} {place other source target folder : Place} {p : Path} {name : String}
  {node : FileNode}

/-! ### What is found where -/

theorem node?_put (d : Disk) (h : place ≠ []) (node : FileNode) (other : Place) :
    (d.put place node).node? other = if other = place then some node else d.node? other := by
  split
  · next same => rw [same, node?_put_self d h]
  · next different => exact node?_put_of_ne d different node

theorem node?_erase (d : Disk) (h : place ≠ []) (other : Place) :
    (d.erase place).node? other = if other = place then none else d.node? other := by
  simp only [node?, erase]
  by_cases root : other = []
  · rw [if_pos root, if_pos root, if_neg fun same => h (same.symm.trans root)]
  · rw [if_neg root, if_neg root, List.find?_filter]
    split
    · next same => simp [same]
    · next different =>
      congr 2
      funext e
      by_cases here : e.1 = other <;> simp [here, different]

/-- What is found at a place is among the entries. -/
theorem mem_of_node? (h : place ≠ []) (found : d.node? place = some node) :
    (place, node) ∈ d.entries := by
  rw [node?, if_neg h, Option.map_eq_some_iff] at found
  obtain ⟨e, member, rfl⟩ := found
  have here : e.1 = place := by simpa using List.find?_some member
  exact here ▸ List.mem_of_find?_eq_some member

/-- Nothing lies below a place. -/
def IsLeaf (d : Disk) (place : Place) : Prop := ∀ e ∈ d.entries, place <+: e.1 → e.1 = place

/-- Where something goes that is moved, if nothing lies below what is moved. -/
theorem moved_of_isLeaf (leaf : place <+: other → other = place) (target : Place) :
    moved place target other = if other = place then target else other := by
  rw [moved]
  by_cases below : place.isPrefixOf other
  · have here := leaf (List.isPrefixOf_iff_prefix.mp below)
    rw [if_pos below, if_pos here, here, List.drop_length, List.append_nil]
  · have elsewhere : other ≠ place := by
      rintro rfl
      exact below (List.isPrefixOf_iff_prefix.mpr List.prefix_rfl)
    rw [if_neg below, if_neg elsewhere]

/-- The entries after one of them has got another place. -/
theorem find?_moved (entries : List (Place × FileNode))
    (leaf : ∀ e ∈ entries, source <+: e.1 → e.1 = source) (apart : source ≠ target)
    (other : Place) :
    (((entries.filter fun e => e.1 ≠ target).map fun e => (moved source target e.1, e.2)).find?
        fun e => e.1 = other).map (·.2) =
      if other = target then (entries.find? fun e => e.1 = source).map (·.2)
      else if other = source then none
      else (entries.find? fun e => e.1 = other).map (·.2) := by
  induction entries with
  | nil => simp
  | cons e entries ih =>
    have own := moved_of_isLeaf (leaf e List.mem_cons_self) target
    have rest := ih fun e member => leaf e (List.mem_cons_of_mem _ member)
    by_cases here : e.1 = source
    · have kept : e.1 ≠ target := here ▸ apart
      rw [List.filter_cons_of_pos (by simpa using kept), List.map_cons, own, if_pos here]
      by_cases isTarget : other = target
      · simp [here, isTarget]
      · rw [List.find?_cons_of_neg (by simpa using Ne.symm isTarget), rest, if_neg isTarget,
          if_neg isTarget]
        by_cases isSource : other = source
        · rw [if_pos isSource, if_pos isSource]
        · rw [if_neg isSource, if_neg isSource,
            List.find?_cons_of_neg (by simpa [here] using Ne.symm isSource)]
    · by_cases gone : e.1 = target
      · rw [List.filter_cons_of_neg (by simpa using gone), rest]
        by_cases isTarget : other = target
        · simp [here, isTarget]
        · simp [gone, isTarget, Ne.symm isTarget]
      · rw [List.filter_cons_of_pos (by simpa using gone), List.map_cons, own, if_neg here,
          List.find?_cons]
        by_cases there : e.1 = other
        · simp [← there, here, gone]
        · simp only [there, decide_false]
          rw [rest]
          simp [here, there]

/-- What has nothing below it is moved alone. -/
theorem node?_move (leaf : d.IsLeaf source) (hs : source ≠ []) (ht : target ≠ [])
    (apart : source ≠ target) (other : Place) :
    (d.move source target).node? other =
      if other = target then d.node? source else if other = source then none
      else d.node? other := by
  simp only [node?, move, erase]
  by_cases root : other = []
  · subst root
    rw [if_pos rfl, if_pos rfl, if_neg (Ne.symm ht), if_neg (Ne.symm hs)]
  · rw [if_neg root, if_neg root, if_neg hs]
    exact find?_moved d.entries leaf apart other

theorem put_put (d : Disk) (place : Place) (old node : FileNode) :
    (d.put place old).put place node = d.put place node := by
  simp [put, erase, List.filter_append, List.filter_filter]

/-- What was appended piece by piece was appended at once. -/
theorem append_append (d : Disk) (place : Place) (a b : Bytes) :
    (d.append place a).append place b = d.append place (a ++ b) := by
  cases here : d.content? place with
  | none => simp [append, here]
  | some content =>
    have notRoot : place ≠ [] := by
      rintro rfl
      simp [content?, node?] at here
    have longer : (d.put place (.file (content ++ a))).content? place = some (content ++ a) := by
      rw [content?, node?_put_self d notRoot]
    simp only [append, here, longer, put_put, List.append_assoc]

/-! ### Nothing below -/

/-- Two names of one folder are at one place only if they are the same. -/
theorem prefix_child {a b : String} : folder ++ [a] <+: folder ++ [b] ↔ a = b := by
  constructor
  · intro below
    have same := below.eq_of_length (by simp)
    simpa using same
  · rintro rfl
    exact List.prefix_rfl

theorem IsLeaf.put (leaf : d.IsLeaf place) (apart : place <+: other → other = place)
    (node : FileNode) : (d.put other node).IsLeaf place := by
  intro e member below
  rcases List.mem_append.mp member with kept | new
  · exact leaf e (List.mem_filter.mp kept).1 below
  · rw [List.mem_singleton.mp new] at below ⊢
    exact apart below

theorem IsLeaf.erase (leaf : d.IsLeaf place) (other : Place) : (d.erase other).IsLeaf place :=
  fun e member below => leaf e (List.mem_filter.mp member).1 below

theorem IsLeaf.move (leaf : d.IsLeaf place) (alone : d.IsLeaf source)
    (apart : place <+: target → target = place) : (d.move source target).IsLeaf place := by
  intro e member below
  obtain ⟨old, kept, rfl⟩ := List.mem_map.mp member
  have own := moved_of_isLeaf (alone old (List.mem_filter.mp kept).1) target
  simp only at below ⊢
  rw [own] at below ⊢
  split
  · next here =>
    rw [if_pos here] at below
    exact apart below
  · next elsewhere =>
    rw [if_neg elsewhere] at below
    exact leaf old (List.mem_filter.mp kept).1 below

/-! ### Where paths lead -/

theorem enter_of_directories
    (stay : ∀ place, d.node? place = some .directory → d'.node? place = some .directory)
    (leads : d.enter folder name = .ok place) : d'.enter folder name = .ok place := by
  unfold enter at leads ⊢
  split at leads
  · next here => rw [if_pos here, leads]
  · next named =>
    rw [if_neg named]
    split at leads
    · next up => rw [if_pos up, leads]
    · next down =>
      rw [if_neg down]
      split at leads
      · cases leads
      · split at leads
        · next found =>
          cases leads
          rw [stay place found]
        · cases leads
        · cases leads

/-- A path leads to the same folder as long as no directory goes. -/
theorem walk_of_directories (home : d'.home = d.home)
    (stay : ∀ place, d.node? place = some .directory → d'.node? place = some .directory)
    {names : List String} (leads : d.walk names = .ok folder) : d'.walk names = .ok folder := by
  have from_ : d'.origin names = d.origin names := by rw [origin, origin, home]
  rw [walk, from_]
  rw [walk] at leads
  generalize d.origin names = start at leads ⊢
  induction names generalizing start with
  | nil => exact leads
  | cons name names ih =>
    rw [List.foldlM_cons] at leads ⊢
    cases first : d.enter start name with
    | error e =>
      rw [first] at leads
      cases leads
    | ok next =>
      rw [first] at leads
      rw [enter_of_directories stay first]
      exact ih (by rw [origin, origin, home]) next leads

/-- A path leads to a name in its folder. -/
theorem locate_of_walk (named : p.IsNamed) (leads : d.walk p.folders = .ok folder) :
    d.locate p = child folder p.leaf := by
  rw [locate, if_neg fun h => named.ne_empty h.2,
    Path.trimmed_of_endsWithSlash named.endsWithSlash]
  simp only [leads]
  rw [if_neg fun h => h.elim named.ne_empty named.ne_dot, if_neg named.ne_dots]

/-- A file is opened to be written anew where no directory is. -/
theorem openFile_of_locate (leads : d.locate p = .ok place) (noSlash : p.endsWithSlash = false)
    (noFolder : d.node? place ≠ some .directory) :
    d.openFile p .truncate = .ok (d.put place (.file []), place) := by
  rw [openFile, leads]
  simp only [noSlash, Bool.false_eq_true, if_false]
  split
  · next here => exact absurd here noFolder
  · next extends_ => cases extends_
  · rfl

/-- What is known of a file that was opened to be written anew. -/
theorem of_openFile_truncate (opened : d.openFile p .truncate = .ok (d', place)) :
    d.locate p = .ok place ∧ p.endsWithSlash = false ∧ d.node? place ≠ some .directory ∧
      d' = d.put place (.file []) := by
  unfold openFile at opened
  split at opened
  · cases opened
  · next leads =>
    split at opened
    · cases opened
    · next plain =>
      split at opened
      · cases opened
      · next extends_ => cases extends_
      · next noFolder _ =>
        cases opened
        exact ⟨leads, Bool.eq_false_iff.mpr plain, noFolder, rfl⟩

/-- The place of a name in a folder. -/
theorem eq_of_child (isChild : child folder name = .ok place) : place = folder ++ [name] := by
  unfold child at isChild
  split at isChild
  · cases isChild
  · split at isChild
    · cases isChild
    · cases isChild
      rfl

/-- A name that the host takes. -/
structure Admits (name : String) : Prop where
  noNul : name.contains '\x00' = false
  fits : name.utf8ByteSize ≤ longestName

theorem child_of_admits (admits : Admits name) (folder : Place) :
    child folder name = .ok (folder ++ [name]) := by
  rw [child, admits.noNul, if_neg Bool.false_ne_true, if_neg (Nat.not_lt.mpr admits.fits)]

theorem admits_iff :
    Admits name ↔ '\x00' ∉ name.toList ∧ name.utf8ByteSize ≤ longestName := by
  have plain : name.contains '\x00' = false ↔ '\x00' ∉ name.toList := by
    rw [String.contains_char_eq, decide_eq_false_iff_not]
  exact ⟨fun h => ⟨plain.mp h.noNul, h.fits⟩, fun h => ⟨plain.mpr h.1, h.2⟩⟩

theorem admits_of_child (isChild : child folder name = .ok place) : Admits name := by
  unfold child at isChild
  split at isChild
  · cases isChild
  · next noNul =>
    split at isChild
    · cases isChild
    · next fits => exact ⟨Bool.eq_false_iff.mpr noNul, Nat.not_lt.mp fits⟩

/-! ### Sound disks -/

/-- What lies above a place is a directory, and the program runs in one. -/
structure IsSound (d : Disk) : Prop where
  above : ∀ e ∈ d.entries, ∀ place, place <+: e.1 → place ≠ e.1 →
    d.node? place = some .directory
  home : d.node? d.home = some .directory

/-- A disk without files is sound. -/
theorem isSound_empty : ({} : Disk).IsSound where
  above _ member := nomatch member
  home := rfl

namespace IsSound

/-- All places above a place where something is are directories. -/
theorem node?_of_prefix (sound : d.IsSound) (found : d.node? other = some node)
    (above : place <+: other) (apart : place ≠ other) : d.node? place = some .directory := by
  have notRoot : other ≠ [] := by
    rintro rfl
    exact apart (List.prefix_nil.mp above)
  exact sound.above _ (mem_of_node? notRoot found) place above apart

/-- Nothing lies below a place where no directory is. -/
theorem isLeaf (sound : d.IsSound) (noFolder : d.node? place ≠ some .directory) :
    d.IsLeaf place := by
  intro e member below
  by_cases here : e.1 = place
  · exact here
  · exact absurd (sound.above e member place below (Ne.symm here)) noFolder

theorem node?_dropLast (sound : d.IsSound) (found : d.node? place = some .directory) :
    d.node? place.dropLast = some .directory := by
  by_cases root : place.dropLast = place
  · rw [root, found]
  · exact sound.node?_of_prefix found (List.dropLast_prefix place) root

theorem node?_enter (sound : d.IsSound) (found : d.node? folder = some .directory)
    (leads : d.enter folder name = .ok place) : d.node? place = some .directory := by
  unfold enter at leads
  split at leads
  · cases leads
    exact found
  · split at leads
    · cases leads
      exact sound.node?_dropLast found
    · split at leads
      · cases leads
      · split at leads
        · next here =>
          cases leads
          exact here
        · cases leads
        · cases leads

/-- A path leads to a directory. -/
theorem node?_walk (sound : d.IsSound) {names : List String} (leads : d.walk names = .ok folder) :
    d.node? folder = some .directory := by
  have begins : d.node? (d.origin names) = some .directory := by
    rw [origin]
    split
    · rfl
    · exact sound.home
  rw [walk] at leads
  generalize d.origin names = start at leads begins
  induction names generalizing start with
  | nil =>
    cases leads
    exact begins
  | cons name names ih =>
    rw [List.foldlM_cons] at leads
    cases first : d.enter start name with
    | error e =>
      rw [first] at leads
      cases leads
    | ok next =>
      rw [first] at leads
      exact ih next leads (sound.node?_enter begins first)

/-- Where there is no directory, a path leads by a name. -/
theorem isNamed_of_locate (sound : d.IsSound) (leads : d.locate p = .ok place)
    (noFolder : d.node? place ≠ some .directory) :
    ∃ folder, d.walk p.trimmed.folders = .ok folder ∧ p.trimmed.IsNamed ∧
      child folder p.trimmed.leaf = .ok place := by
  unfold locate at leads
  split at leads
  · cases leads
  · simp only at leads
    split at leads
    · cases leads
    · next folder walked =>
      have found := sound.node?_walk walked
      split at leads
      · cases leads
        exact absurd found noFolder
      · next named =>
        split at leads
        · cases leads
          exact absurd (sound.node?_dropLast found) noFolder
        · next notUp =>
          rw [not_or] at named
          exact ⟨folder, walked, ⟨named.1, named.2, notUp⟩, leads⟩

/-- A file that is opened to be written anew is in a folder and is empty then. -/
theorem of_openFile (sound : d.IsSound) (opened : d.openFile p .truncate = .ok (d', place)) :
    ∃ folder, d.walk p.folders = .ok folder ∧ p.IsNamed ∧ child folder p.leaf = .ok place ∧
      d' = d.put place (.file []) := by
  obtain ⟨leads, noSlash, noFolder, rfl⟩ := of_openFile_truncate opened
  obtain ⟨folder, walked, named, isChild⟩ := sound.isNamed_of_locate leads noFolder
  rw [Path.trimmed_of_endsWithSlash noSlash] at walked named isChild
  exact ⟨folder, walked, named, isChild, rfl⟩

/-- A disk stays sound with one more directory in a directory. -/
theorem putFolder (sound : d.IsSound) (found : d.node? folder = some .directory) :
    (d.put (folder ++ [name]) .directory).IsSound := by
  have stay : ∀ other, d.node? other = some .directory →
      (d.put (folder ++ [name]) .directory).node? other = some .directory := by
    intro other here
    rw [node?_put d (by simp), here, ite_self]
  refine ⟨?_, stay _ sound.home⟩
  intro e member place above apart
  rcases List.mem_append.mp member with kept | new
  · exact stay place (sound.above e (List.mem_filter.mp kept).1 place above apart)
  · rw [List.mem_singleton.mp new] at above apart
    rcases List.prefix_concat_iff.mp above with same | inside
    · exact absurd same apart
    · by_cases here : place = folder
      · exact stay place (here ▸ found)
      · exact stay place (sound.node?_of_prefix found inside here)

theorem makeFolder (sound : d.IsSound) (made : d.makeFolder p = .ok d') : d'.IsSound := by
  unfold Disk.makeFolder at made
  split at made
  · cases made
  · next place leads =>
    split at made
    · cases made
    · next free =>
      cases made
      obtain ⟨folder, walked, -, isChild⟩ := sound.isNamed_of_locate leads (by simp [free])
      rw [eq_of_child isChild]
      exact sound.putFolder (sound.node?_walk walked)

theorem makeFolders (sound : d.IsSound) (names : List String) :
    (d.makeFolders names).1.IsSound := by
  induction names generalizing d with
  | nil => exact sound
  | cons name above ih =>
    simp only [Disk.makeFolders]
    split
    · split
      · next d₁ made =>
        have sound₁ : d₁.IsSound := by simpa only [made] using ih sound
        split
        · next made₁ => exact sound₁.makeFolder made₁
        · split <;> exact sound₁
      · next d₁ e made => simpa only [made] using ih sound
    · split
      · next made => exact sound.makeFolder made
      · split <;> exact sound

/-- Making the folder of a path keeps a disk sound. -/
theorem makeFolderOf (sound : d.IsSound) (p : Path) : (d.makeFolderOf p).1.IsSound := by
  unfold Disk.makeFolderOf
  split
  · exact sound
  · split
    · exact sound
    · exact sound.makeFolders _

end IsSound

end Disk

end Wiretap
