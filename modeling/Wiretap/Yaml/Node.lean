import Wiretap.Yaml.Token

/-!
# Documents

What a YAML text says: a tree of scalars, sequences and mappings, in which an alias stands for
another node of the tree.

## Main definitions

* `Node` - a node of a document.
* `Document` - the root, if there is one.
* `Document.target?` - the node that an alias stands for.
* `Document.resolve` - a node, or what it stands for if it is an alias.

## Design notes

A node is anchored by a number rather than by its name: the number of different names that were
in use before it.  A name that is used again gets a new number, which a node anchored later by a
new name may share; an alias of that number then stands for the later one.

An alias may stand for a collection that it is part of, so a document is not expanded.
-/

namespace Wiretap.Yaml

/-- What stands beside a node. -/
structure Properties where
  tag : Option Bytes := none
  anchor : Option Nat := none
deriving DecidableEq, Repr, Inhabited

/-- A node of a document. -/
inductive Node where
  | scalar (properties : Properties) (text : String) (style : Style)
  | sequence (properties : Properties) (items : List Node)
  | mapping (properties : Properties) (entries : List (Node × Node))
  | alias (anchor : Nat)
deriving Repr, Inhabited

namespace Node

/-- The node that stands where nothing is written. -/
def empty : Node := .scalar {} "" .plain

mutual

/-- The anchored nodes of a tree, in the order in which they begin. -/
def anchored : Node → List (Nat × Node)
  | .scalar p text style => (p.anchor.map fun n => (n, Node.scalar p text style)).toList
  | .sequence p items =>
    (p.anchor.map fun n => (n, Node.sequence p items)).toList ++ anchoredItems items
  | .mapping p entries =>
    (p.anchor.map fun n => (n, Node.mapping p entries)).toList ++ anchoredEntries entries
  | .alias _ => []

/-- The anchored nodes among items. -/
def anchoredItems : List Node → List (Nat × Node)
  | [] => []
  | item :: rest => anchored item ++ anchoredItems rest

/-- The anchored nodes among entries. -/
def anchoredEntries : List (Node × Node) → List (Nat × Node)
  | [] => []
  | (key, value) :: rest => anchored key ++ anchored value ++ anchoredEntries rest

end

end Node

/-- What a text says. -/
structure Document where
  /-- The root, absent where the text says nothing at all. -/
  root : Option Node
deriving Repr, Inhabited

namespace Document

/-- The node that an alias stands for. -/
def target? (d : Document) (anchor : Nat) : Option Node :=
  let found := d.root.toList.flatMap Node.anchored
  (found.reverse.find? fun entry => entry.1 = anchor).map (·.2)

/-- A node, or what it stands for if it is an alias. -/
def resolve (d : Document) : Node → Node
  | .alias anchor => (d.target? anchor).getD (.alias anchor)
  | node => node

end Document

end Wiretap.Yaml
