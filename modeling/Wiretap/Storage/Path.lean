import Wiretap.Text.Numeral

/-!
# Paths

The way from a directory to a file: the names of folders and a last name, between slashes.

## Main definitions

* `Path` - folders and a last name.
* `Path.ofString`, `Path.text` - from and to the text with slashes.
* `Path.numbered` - the path with a dot and a number behind the last name.

## Design notes

Nothing is normalised.  Empty names, `.` and `..` are kept as they are written and get their
meaning when a path is followed, so the text of a path is what it was made from.
-/

namespace Wiretap

/-- Folders and a last name. -/
structure Path where
  folders : List String
  leaf : String
deriving DecidableEq, Repr, Inhabited

namespace Path

/-- The path that a text stands for. -/
def ofString (s : String) : Path :=
  let names := (Text.splitAt '/' s.toList).map String.ofList
  ⟨names.dropLast, names.getLast?.getD ""⟩

/-- All names of a path. -/
def names (p : Path) : List String := p.folders ++ [p.leaf]

/-- The text of a path. -/
def text (p : Path) : String := "/".intercalate p.names

instance : ToString Path := ⟨text⟩

/-- The path with a dot and a number behind the last name. -/
def numbered (p : Path) (index : Nat) : Path := { p with leaf := s!"{p.leaf}.{index}" }

@[simp] theorem folders_numbered (p : Path) (index : Nat) :
    (p.numbered index).folders = p.folders := rfl

/-- Whether the text of a path ends with a slash, which asks for a directory. -/
def endsWithSlash (p : Path) : Bool := p.leaf == "" && p.folders ≠ []

/-- The path without the slashes at its end, of which only the root keeps one. -/
def trimmed (p : Path) : Path :=
  if p.endsWithSlash then
    match p.folders.reverse.dropWhile (· == "") with
    | [] => ⟨[""], ""⟩
    | leaf :: folders => ⟨folders.reverse, leaf⟩
  else p

end Path

end Wiretap
