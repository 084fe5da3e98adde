import Wiretap.Proofs.Storage.Edits

/-!
# Beside a file

A file that nothing lies below keeps its content whatever becomes of the other places at its depth,
also where directories are moved.

## Main definitions

* `Disk.IsFile` - a file with nothing below its place.
* `Disk.Beside` - the other places at the depth of a place.
* `Disk.Bypasses` - everything is spared that does not lie at or below one of these.

## Main statements

* `Disk.bypasses_remove`, `Disk.bypasses_rename` - operations that lead beside a place bypass it.
* `Disk.placeAfterRemove_of_beside`, `Disk.placeAfterRename_of_beside` - an open file there stays.
* `Disk.IsFile.openFile_move` - a file that was moved makes room for a new one.

## Design notes

A disk on which directories were moved need not be sound any more, as the program may run in one of
them.  What is kept here is therefore about one place, and does not follow from a sound disk.
-/

namespace Wiretap.Disk

variable {d d' d'' : Disk} {place other source target : Place} {p q : Path} {content : Bytes}

/-! ## A file with nothing below it -/

/-- A file with nothing below its place. -/
structure IsFile (d : Disk) (place : Place) (content : Bytes) : Prop where
  found : d.node? place = some (.file content)
  alone : d.IsLeaf place

namespace IsFile

theorem noFolder (h : d.IsFile place content) : d.node? place ≠ some .directory := by
  simp [h.found]

theorem content? (h : d.IsFile place content) : d.content? place = some content := by
  rw [Disk.content?, h.found]

/-- More in the file. -/
theorem append (h : d.IsFile place content) (more : Bytes) :
    (d.append place more).IsFile place (content ++ more) := by
  refine ⟨node?_append_self h.found more, ?_⟩
  rw [Disk.append, h.content?]
  exact h.alone.put (fun _ => rfl) _

/-- Nothing more in the file. -/
theorem append_nil (h : d.IsFile place content) : (d.append place []).IsFile place content := by
  have same := h.append []
  rwa [List.append_nil] at same

end IsFile

/-- A place where nothing lies below, unless it is a directory. -/
def Ends (d : Disk) (place : Place) : Prop := d.node? place ≠ some .directory → d.IsLeaf place

/-- A file that is opened to be written anew has nothing below it. -/
theorem Ends.isFile_openFile (ends : d.Ends place)
    (opened : d.openFile p .truncate = .ok (d', place)) : d'.IsFile place [] := by
  obtain ⟨-, -, noFolder, rfl⟩ := of_openFile_truncate opened
  exact ⟨node?_put_self d (ne_nil_of_node? noFolder) _, (ends noFolder).put (fun _ => rfl) _⟩

/-! ## Other places at the same depth -/

/-- Another place at the same depth. -/
def Beside (place other : Place) : Prop := other.length = place.length ∧ other ≠ place

theorem Beside.not_prefix (h : Beside place other) : ¬ other <+: place :=
  fun above => h.2 (above.eq_of_length h.1)

theorem Beside.not_prefix_append (h : Beside place other) (rest : Place) :
    ¬ place <+: other ++ rest := by
  intro above
  have both := List.prefix_of_prefix_length_le above (List.prefix_append other rest)
    (Nat.le_of_eq h.1.symm)
  exact h.2 (both.eq_of_length h.1.symm).symm

/-- What is moved beside a place leaves nothing below it, if nothing was there that stays. -/
theorem isLeaf_move (aside : Beside place target) (leaf : source ≠ place → d.IsLeaf place) :
    (d.move source target).IsLeaf place := by
  intro e member below
  obtain ⟨old, kept, rfl⟩ := List.mem_map.mp member
  simp only [moved] at below ⊢
  split at below
  · exact absurd below (aside.not_prefix_append _)
  · next notMoved =>
    rw [if_neg notMoved]
    refine leaf ?_ old (List.mem_filter.mp kept).1 below
    rintro rfl
    exact notMoved (List.isPrefixOf_iff_prefix.mpr below)

/-- Everything is spared that does not lie at or below another place at the depth of this one, and
nothing goes below this one. -/
structure Bypasses (place : Place) (d d' : Disk) : Prop extends Spares (Beside place) d d' where
  leaf : d.IsLeaf place → d'.IsLeaf place

namespace Bypasses

theorem refl (place : Place) (d : Disk) : Bypasses place d d := ⟨.refl _ d, id⟩

theorem trans (first : Bypasses place d d') (second : Bypasses place d' d'') :
    Bypasses place d d'' :=
  ⟨first.toSpares.trans second.toSpares, second.leaf ∘ first.leaf⟩

theorem isFile (bypasses : Bypasses place d d') (h : d.IsFile place content) :
    d'.IsFile place content :=
  ⟨bypasses.node? place _ (fun _ aside => aside.not_prefix) h.found, bypasses.leaf h.alone⟩

theorem ends (bypasses : Bypasses place d d') (ends : d.Ends place) : d'.Ends place := by
  refine fun noFolder => bypasses.leaf (ends fun isFolder => noFolder ?_)
  exact bypasses.node? place _ (fun _ aside => aside.not_prefix) isFolder

end Bypasses

theorem bypasses_remove (aside : ∀ other, d.locate p = .ok other → Beside place other)
    (removed : d.remove p = .ok d') : Bypasses place d d' := by
  refine ⟨(edits_remove aside removed).toSpares, fun leaf => ?_⟩
  obtain ⟨other, content, -, -, rfl⟩ := exists_of_remove removed
  exact leaf.erase other

theorem bypasses_rename (fromAside : ∀ other, d.locate p = .ok other → Beside place other)
    (toAside : ∀ other, d.locate q = .ok other → Beside place other)
    (renamed : d.rename p q = .ok d') : Bypasses place d d' := by
  refine ⟨(edits_rename fromAside toAside renamed).toSpares, fun leaf => ?_⟩
  obtain ⟨source, target, -, leads, ⟨-, rfl⟩ | ⟨-, rfl, -⟩⟩ := rename_cases renamed
  · exact leaf
  · exact isLeaf_move (toAside target leads) fun _ => leaf

/-- An open file stays where it is if a path beside it is removed. -/
theorem placeAfterRemove_of_beside (aside : ∀ other, d.locate p = .ok other → Beside place other) :
    d.placeAfterRemove p place = place := by
  unfold placeAfterRemove
  split
  · next leads => exact if_neg (aside _ leads).2.symm
  · rfl

/-- So it does if something beside it gets another path beside it. -/
theorem placeAfterRename_of_beside
    (fromAside : ∀ other, d.locate p = .ok other → Beside place other)
    (toAside : ∀ other, d.locate q = .ok other → Beside place other) :
    d.placeAfterRename p q place = place := by
  unfold placeAfterRename
  split
  · next source target _ fromHere toHere =>
    have aside := fromAside source fromHere
    have stays : moved source target place = place := if_neg fun above =>
      aside.not_prefix (List.isPrefixOf_iff_prefix.mp above)
    rw [if_neg (toAside target toHere).2.symm, stays]
    exact ite_self place
  · rfl

/-- And if nothing gets another path. -/
theorem placeAfterRename_of_error {e : Fault} (refused : d.rename p q = .error e) :
    d.placeAfterRename p q place = place := by
  simp only [placeAfterRename, refused]

/-! ## A new file -/

/-- A file that was moved to where no directory is makes room for a new one. -/
theorem IsFile.openFile_move (h : d.IsFile source content) (leads : d.locate p = .ok source)
    (noSlash : p.endsWithSlash = false) (apart : source ≠ target)
    (free : d.node? target ≠ some .directory) :
    ∃ d', (d.move source target).openFile p .truncate = .ok (d', source) := by
  have after := node?_move h.alone (ne_nil_of_node? h.noFolder) (ne_nil_of_node? free) apart
  have stay (other : Place) (found : d.node? other = some .directory) :
      (d.move source target).node? other = some .directory := by
    rw [after, if_neg fun same : other = target => free (same ▸ found),
      if_neg fun same : other = source => h.noFolder (same ▸ found), found]
  have gone : (d.move source target).node? source ≠ some .directory := by
    rw [after, if_neg apart, if_pos rfl]
    simp
  have home : (d.move source target).home = d.home := rfl
  have still := locate_of_directories home stay leads
  exact ⟨_, openFile_of_locate still noSlash gone⟩

end Wiretap.Disk
