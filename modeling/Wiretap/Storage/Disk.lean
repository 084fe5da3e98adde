import Wiretap.Bytes
import Wiretap.Storage.Fault
import Wiretap.Storage.Path

/-!
# The files of a host

Directories and files under one root, and the operations on them that a receiver needs, each with
the fault that the host answers where it refuses.

## Main definitions

* `Disk` - a list of places with the directory or file found there.
* `Disk.locate` - the place that a path leads to.
* `Disk.read`, `Disk.openFile`, `Disk.append` - contents of files.
* `Disk.remove`, `Disk.rename`, `Disk.makeFolders` - names of files.
* `Disk.placeAfterRemove`, `Disk.placeAfterRename` - where an open file is then.
* `Disk.listing` - everything below the root, a directory before its content.

## Design notes

A place is the list of names from the root, without `.` and `..`; every place occurs at most once,
and what lies above a place is a directory.  The root itself is in no list.  A path is followed
name by name: what is not there, or is a file where a directory is needed, stops it.  It begins at
the root if its text begins with a slash, and where the program runs if it does not.

A file that was opened is known by its place.  When it gets another path, or loses its own, that is
another place, and who holds it open has to follow.
-/

namespace Wiretap

/-- The names from the root to a directory or file. -/
abbrev Place := List String

/-- What is found at a place. -/
inductive FileNode where
  | directory
  | file (content : Bytes)
deriving DecidableEq, Repr

/-- The directories and files of a host. -/
structure Disk where
  entries : List (Place × FileNode) := []
  /-- Where the program runs. -/
  home : Place := []
deriving Repr, Inhabited

namespace Disk

/-! ### Places -/

/-- What is found at a place. -/
def node? (d : Disk) (place : Place) : Option FileNode :=
  if place = [] then some .directory
  else (d.entries.find? fun e => e.1 = place).map (·.2)

/-- The content of the file at a place. -/
def content? (d : Disk) (place : Place) : Option Bytes :=
  match d.node? place with
  | some (.file content) => some content
  | _ => none

/-- The disk without what is found at a place. -/
def erase (d : Disk) (place : Place) : Disk :=
  { d with entries := d.entries.filter fun e => e.1 ≠ place }

/-- The disk with something else at a place. -/
def put (d : Disk) (place : Place) (node : FileNode) : Disk :=
  { d with entries := (d.erase place).entries ++ [(place, node)] }

/-- Appends to the file at a place, if there is one. -/
def append (d : Disk) (place : Place) (more : Bytes) : Disk :=
  match d.content? place with
  | some content => d.put place (.file (content ++ more))
  | none => d

theorem find?_erase_self (entries : List (Place × FileNode)) (place : Place) :
    (entries.filter fun e => e.1 ≠ place).find? (fun e => e.1 = place) = none := by
  simp

/-- What was put at a place is found there. -/
theorem node?_put_self (d : Disk) {place : Place} (h : place ≠ []) (node : FileNode) :
    (d.put place node).node? place = some node := by
  simp only [node?, put, erase, if_neg h, List.find?_append, find?_erase_self]
  simp

/-- Putting something at a place changes no other place. -/
theorem node?_put_of_ne (d : Disk) {place other : Place} (h : other ≠ place) (node : FileNode) :
    (d.put place node).node? other = d.node? other := by
  have hne : ¬ place = other := fun e => h e.symm
  have keeps : (d.entries.filter fun e => e.1 ≠ place).find? (fun e => e.1 = other) =
      d.entries.find? fun e => e.1 = other := by
    rw [List.find?_filter]
    congr 1
    funext e
    by_cases he : e.1 = other <;> simp [he, h]
  simp only [node?, put, erase, List.find?_append, keeps]
  split
  · rfl
  · simp [hne]

/-! ### Following paths -/

/-- The longest name, in bytes. -/
def longestName : Nat := 255

/-- The place of a name in a directory. -/
def child (folder : Place) (name : String) : Except Fault Place :=
  if name.contains '\x00' then .error .nulInName
  else if name.utf8ByteSize > longestName then .error .nameTooLong
  else .ok (folder ++ [name])

/-- One step from a directory to the directory that a name leads to. -/
def enter (d : Disk) (folder : Place) (name : String) : Except Fault Place :=
  if name = "" ∨ name = "." then .ok folder
  else if name = ".." then .ok folder.dropLast
  else
    match child folder name with
    | .error e => .error e
    | .ok place =>
      match d.node? place with
      | some .directory => .ok place
      | some (.file _) => .error .notADirectory
      | none => .error .notFound

/-- Where a list of names begins. -/
def origin (d : Disk) (names : List String) : Place := if names.head? = some "" then [] else d.home

/-- The directory that a list of names leads to. -/
def walk (d : Disk) (names : List String) : Except Fault Place :=
  names.foldlM d.enter (d.origin names)

/-- The place that a path leads to; its directory exists, the place itself may be empty. -/
def locate (d : Disk) (p : Path) : Except Fault Place :=
  if p.folders = [] ∧ p.leaf = "" then .error .notFound
  else
    let p := p.trimmed
    match d.walk p.folders with
    | .error e => .error e
    | .ok folder =>
      if p.leaf = "" ∨ p.leaf = "." then .ok folder
      else if p.leaf = ".." then .ok folder.dropLast
      else child folder p.leaf

/-- Whether something is found where a path leads. -/
def has (d : Disk) (p : Path) : Bool :=
  match d.locate p with
  | .error _ => false
  | .ok place =>
    match d.node? place with
    | some .directory => true
    | some (.file _) => !p.endsWithSlash
    | none => false

/-! ### Contents -/

/-- The content of a file. -/
def read (d : Disk) (p : Path) : Except Fault Bytes :=
  match d.locate p with
  | .error e => .error e
  | .ok place =>
    match d.node? place with
    | some .directory => .error .isADirectory
    | some (.file content) => if p.endsWithSlash then .error .notADirectory else .ok content
    | none => .error .notFound

/-- How a file is opened for writing. -/
inductive Mode where
  /-- What it held is gone. -/
  | truncate
  /-- What it held stays in front. -/
  | extend
deriving DecidableEq, Repr

/-- Opens a file for writing, an empty one if there is none, and gives its place. -/
def openFile (d : Disk) (p : Path) (mode : Mode) : Except Fault (Disk × Place) :=
  match d.locate p with
  | .error e => .error e
  | .ok place =>
    if p.endsWithSlash then .error .isADirectory
    else
      match d.node? place, mode with
      | some .directory, _ => .error .isADirectory
      | some (.file _), .extend => .ok (d, place)
      | _, _ => .ok (d.put place (.file []), place)

/-! ### Names -/

/-- Removes a file. -/
def remove (d : Disk) (p : Path) : Except Fault Disk :=
  match d.locate p with
  | .error e => .error e
  | .ok place =>
    match d.node? place with
    | some .directory => .error .isADirectory
    | some (.file _) => if p.endsWithSlash then .error .notADirectory else .ok (d.erase place)
    | none => .error .notFound

/-- Whether a directory holds nothing. -/
def isEmptyFolder (d : Disk) (place : Place) : Bool :=
  d.entries.all fun e => !(place.isPrefixOf e.1 && e.1 ≠ place)

/-- The place of what lay at or below `source` when that is moved to `target`. -/
def moved (source target place : Place) : Place :=
  if source.isPrefixOf place then target ++ place.drop source.length else place

/-- The disk after what lies at and below `source` was moved to `target`, where nothing is left
of what was there. -/
def move (d : Disk) (source target : Place) : Disk :=
  { d with entries := (d.erase target).entries.map fun e => (moved source target e.1, e.2) }

/-- Gives a file or directory another path.  A file at that path is replaced by a file, an empty
directory by a directory. -/
def rename (d : Disk) (source target : Path) : Except Fault Disk := do
  let src ← d.locate source
  let dst ← d.locate target
  match d.node? src, d.node? dst with
  | none, _ => .error .notFound
  | some (.file _), some .directory => .error .isADirectory
  | some (.file _), _ =>
    if source.endsWithSlash ∨ target.endsWithSlash then .error .notADirectory
    else if src = dst then .ok d
    else .ok (d.move src dst)
  | some .directory, some (.file _) => .error .notADirectory
  | some .directory, other =>
    if src = dst then .ok d
    else if src.isPrefixOf dst then .error .invalidArgument
    else if other = some .directory ∧ !d.isEmptyFolder dst then .error .directoryNotEmpty
    else .ok (d.move src dst)

/-- A place that no path leads to. -/
def nowhere : Place := [""]

/-- Where the file at a place is after a path was removed. -/
def placeAfterRemove (d : Disk) (p : Path) (place : Place) : Place :=
  match d.remove p, d.locate p with
  | .ok _, .ok gone => if place = gone then nowhere else place
  | _, _ => place

/-- Where the file at a place is after a file or directory got another path.  A file that is
replaced has no path any more. -/
def placeAfterRename (d : Disk) (source target : Path) (place : Place) : Place :=
  match d.rename source target, d.locate source, d.locate target with
  | .ok _, .ok src, .ok dst =>
    if src = dst then place else if place = dst then nowhere else moved src dst place
  | _, _, _ => place

/-- The disk after an operation that may be refused, as it was if it is refused. -/
def attempt (d : Disk) (result : Except Fault Disk) : Disk := result.toOption.getD d

/-! ### Folders -/

/-- Makes one directory. -/
def makeFolder (d : Disk) (p : Path) : Except Fault Disk :=
  match d.locate p with
  | .error e => .error e
  | .ok place =>
    match d.node? place with
    | some _ => .error .alreadyExists
    | none => .ok (d.put place .directory)

/-- Whether a list of names leads to a directory. -/
def isFolder (d : Disk) (names : List String) : Bool := (d.walk names).toOption.isSome

/-- Makes the directory that a reversed list of names leads to, and the directories above it as
far as they are missing.  The disk keeps those that were made before a refusal. -/
def makeFolders (d : Disk) : List String → Disk × Except Fault Unit
  | [] => (d, .ok ())
  | name :: above =>
    let path : Path := ⟨above.reverse, name⟩
    let settle (d : Disk) (result : Except Fault Disk) : Disk × Except Fault Unit :=
      match result with
      | .ok d => (d, .ok ())
      | .error e => if d.isFolder path.names then (d, .ok ()) else (d, .error e)
    match d.makeFolder path with
    | .error .notFound =>
      match d.makeFolders above with
      | (d, .ok ()) => settle d (d.makeFolder path)
      | (d, .error e) => (d, .error e)
    | result => settle d result

/-- The names of the folder that a path leads through, without those that lead nowhere. -/
def folderOf (p : Path) : List String :=
  let named (names : List String) := names.filter fun n => n ≠ "" ∧ n ≠ "."
  match p.trimmed.folders with
  | "" :: rest => "" :: named rest
  | names => named names

/-- Makes the folder of a path if nothing is found there. -/
def makeFolderOf (d : Disk) (p : Path) : Disk × Except Fault Unit :=
  match (folderOf p).reverse with
  | [] => (d, .ok ())
  | name :: above =>
    if d.has ⟨above.reverse, name⟩ then (d, .ok ()) else d.makeFolders (name :: above)

/-! ### Overviews -/

/-- Whether a place comes before another one: a directory before its content, neighbours by
name. -/
def comesBefore : Place → Place → Bool
  | [], _ => true
  | _ :: _, [] => false
  | a :: as, b :: bs => if a = b then comesBefore as bs else decide (a < b)

/-- Everything below the root, a directory before its content and neighbours by name. -/
def listing (d : Disk) : List (Place × FileNode) :=
  d.entries.mergeSort fun a b => comesBefore a.1 b.1

/-- The disk with the directories above a place. -/
def withFolders (d : Disk) (place : Place) : Disk :=
  (List.range place.length).foldl (fun d n =>
    let above := place.take n
    if (d.node? above).isSome then d else d.put above .directory) d

/-- The disk with something at a place and the directories above it. -/
def install (d : Disk) (place : Place) (node : FileNode) : Disk :=
  (d.withFolders place).put place node

end Disk

end Wiretap
