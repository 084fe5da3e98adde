import Wiretap.Yaml.Lexer
import Wiretap.Yaml.Node

/-!
# From tokens to a document

A YAML text holds one document: directives, perhaps, and a root node.

## Main definitions

* `TokenReader` - a reader of a list of tokens that may fail.
* `node?` - a node.
* `Document.ofTokens?` - the document of tokens.
* `TextReader`, `Document.ofText?`, `Document.inText?` - readers of texts.
* `TextReader` - a reader of texts, and `Document.inText?`, the one that a program runs with.

## Design notes

The functions for nodes call each other along the nesting of the document, so they are given a
budget that grows with the number of tokens and is never used up.

A text of comments alone has no document.  Some readers report that as an error, and some take it
for a document that is empty, as `Document.inText?` does.

In a flow sequence a question mark may begin an entry that is a mapping with one key.  If the key
is left out, the token behind the question mark is passed over whatever it is.
-/

namespace Wiretap.Yaml

/-- What is left of the tokens, and what has been said so far. -/
structure TokenState where
  tokens : List Token
  /-- The meanings of handles; the first entry of a handle counts. -/
  handles : List (String × Bytes) := []
  /-- The names of anchors with the numbers of the nodes they stand for. -/
  names : List (String × Nat) := []
deriving Repr

/-- A reader of a list of tokens that may fail. -/
abbrev TokenReader := StateT TokenState Option

namespace TokenReader

/-- The next token. -/
def peek : TokenReader (Option Token) := do return (← get).tokens.head?

/-- Passes the next token. -/
def advance : TokenReader Unit := modify fun s => { s with tokens := s.tokens.tail }

/-- Passes the next token if it is the given one. -/
def pass (t : Token) : TokenReader Bool := do
  if (← peek) = some t then
    advance
    return true
  else return false

/-- Whether the next token is one of those given. -/
def isNext (ts : List Token) : TokenReader Bool := do
  return (← peek).any (ts.contains ·)

/-- Nothing, if one of the given tokens is next, and otherwise what `read` finds. -/
def unlessNext (ts : List Token) (read : TokenReader Node) : TokenReader Node := do
  if ← isNext ts then return .empty else read

end TokenReader

open TokenReader

/-! ### Properties of nodes -/

/-- The number of the node that a name stands for. -/
def aliased (name : String) : TokenReader Nat := do
  match (← get).names.find? fun entry => entry.1 = name with
  | some (_, number) => return number
  | none => failure

/-- Gives a name to the node that begins here. -/
def bindName (name : String) : TokenReader Nat := do
  let s ← get
  let number := s.names.length
  set { s with names := (name, number) :: s.names.filter fun entry => entry.1 ≠ name }
  return number

/-- The tag that a text stands for, up to its first zero byte. -/
def expandTag (t : TagText) : TokenReader Bytes := do
  let upToZero (b : Bytes) : Bytes := b.takeWhile (· ≠ 0)
  if t.handle = "" then return upToZero t.suffix
  else
    match (← get).handles.find? fun entry => entry.1 = t.handle with
    | some (_, meaning) => return upToZero meaning ++ upToZero t.suffix
    | none => failure

/-- The name of an anchor, if one is next. -/
def anchorProperty : TokenReader (Option String) := do
  match ← peek with
  | some (.anchor name) =>
    advance
    return some name
  | _ => return none

/-- A tag, if one is next. -/
def tagProperty : TokenReader (Option TagText) := do
  match ← peek with
  | some (.tag t) =>
    advance
    return some t
  | _ => return none

/-- An anchor and a tag, in any order. -/
def properties : TokenReader Properties := do
  let before ← anchorProperty
  let tag ← tagProperty
  let name ← if before.isNone && tag.isSome then anchorProperty else pure before
  let tag ← tag.mapM expandTag
  let anchor ← name.mapM bindName
  return { tag, anchor }

/-- The properties of a scalar, for which a lone exclamation mark is no tag. -/
def Properties.ofScalar (p : Properties) : Properties :=
  if p.tag = some [0x21] then { p with tag := none } else p

/-! ### Nodes -/

/-- Where a node stands. -/
inductive Position where
  /-- In a flow collection. -/
  | flow
  /-- In a block. -/
  | block
  /-- In a block mapping, where the items of a sequence need not be indented. -/
  | entry
deriving DecidableEq, Repr

mutual

/-- A node. -/
def node? (budget : Nat) (position : Position) : TokenReader Node :=
  match budget with
  | 0 => failure
  | budget + 1 => do
    match ← peek with
    | some (.alias name) =>
      advance
      return .alias (← aliased name)
    | _ =>
      let p ← properties
      match ← peek, position with
      | some .blockEntry, .entry => return .sequence p (← looseItems? budget)
      | some (.scalar text style), _ =>
        advance
        return .scalar p.ofScalar text style
      | some .flowSequence, _ =>
        advance
        return .sequence p (← flowItems? budget true)
      | some .flowMapping, _ =>
        advance
        return .mapping p (← flowEntries? budget true)
      | some .blockSequence, .block | some .blockSequence, .entry =>
        advance
        return .sequence p (← blockItems? budget)
      | some .blockMapping, .block | some .blockMapping, .entry =>
        advance
        return .mapping p (← blockEntries? budget)
      | _, _ => if p = {} then failure else return .scalar p "" .plain

/-- The items of a block sequence up to its end. -/
def blockItems? (budget : Nat) : TokenReader (List Node) :=
  match budget with
  | 0 => failure
  | budget + 1 => do
    if ← pass .blockEntry then
      let item ← unlessNext [.blockEntry, .blockEnd] (node? budget .block)
      return item :: (← blockItems? budget)
    else if ← pass .blockEnd then return []
    else failure

/-- The items of a sequence that is not indented. -/
def looseItems? (budget : Nat) : TokenReader (List Node) :=
  match budget with
  | 0 => failure
  | budget + 1 => do
    if ← pass .blockEntry then
      let item ← unlessNext [.blockEntry, .key, .value, .blockEnd] (node? budget .block)
      return item :: (← looseItems? budget)
    else return []

/-- The entries of a block mapping up to its end. -/
def blockEntries? (budget : Nat) : TokenReader (List (Node × Node)) :=
  match budget with
  | 0 => failure
  | budget + 1 => do
    let ends := [.key, .value, .blockEnd]
    if ← pass .key then
      let key ← unlessNext ends (node? budget .entry)
      let value ←
        if ← pass .value then unlessNext ends (node? budget .entry) else pure .empty
      return (key, value) :: (← blockEntries? budget)
    else if ← pass .blockEnd then return []
    else failure

/-- The items of a flow sequence up to its end. -/
def flowItems? (budget : Nat) (first : Bool) : TokenReader (List Node) :=
  match budget with
  | 0 => failure
  | budget + 1 => do
    if ← pass .flowSequenceEnd then return []
    else if first || (← pass .flowEntry) then
      if ← pass .key then
        let item ← flowPair? budget
        return item :: (← flowItems? budget false)
      else if ← pass .flowSequenceEnd then return []
      else
        let item ← node? budget .flow
        return item :: (← flowItems? budget false)
    else failure

/-- A mapping with one key as an item of a flow sequence. -/
def flowPair? (budget : Nat) : TokenReader Node :=
  match budget with
  | 0 => failure
  | budget + 1 => do
    let key ←
      if ← isNext [.value, .flowEntry, .flowSequenceEnd] then
        advance
        pure .empty
      else node? budget .flow
    let value ←
      if ← pass .value then
        unlessNext [.flowEntry, .flowSequenceEnd] (node? budget .flow)
      else pure .empty
    return .mapping {} [(key, value)]

/-- The entries of a flow mapping up to its end. -/
def flowEntries? (budget : Nat) (first : Bool) : TokenReader (List (Node × Node)) :=
  match budget with
  | 0 => failure
  | budget + 1 => do
    if ← pass .flowMappingEnd then return []
    else if first || (← pass .flowEntry) then
      if ← pass .key then
        let ends := [.flowEntry, .flowMappingEnd]
        let key ← unlessNext (.value :: ends) (node? budget .flow)
        let value ← if ← pass .value then unlessNext ends (node? budget .flow) else pure .empty
        return (key, value) :: (← flowEntries? budget false)
      else if ← pass .flowMappingEnd then return []
      else
        let key ← node? budget .flow
        return (key, .empty) :: (← flowEntries? budget false)
    else failure

end

/-! ### Documents -/

/-- The meanings that handles have without a directive. -/
def defaultHandles : List (String × Bytes) :=
  [("!", [0x21]), ("!!", "tag:yaml.org,2002:".toUTF8.toList)]

/-- The directives in front of a document: at most one version, which is 1.1 or 1.2, and at most
one meaning of each handle. -/
def directives? (versioned : Bool) (handles : List (String × Bytes)) :
    List Token → Option (List (String × Bytes) × List Token)
  | .versionDirective major minor :: rest =>
    if versioned || major ≠ 1 || (minor ≠ 1 && minor ≠ 2) then none
    else directives? true handles rest
  | .tagDirective handle meaning :: rest =>
    if handles.any (·.1 = handle) then none
    else directives? versioned (handles ++ [(handle, meaning)]) rest
  | rest => some (handles, rest)

namespace Document

/-- The root of a document and the tokens behind it. -/
def root? (handles : List (String × Bytes)) (tokens : List Token) : Option (Node × List Token) :=
  let state : TokenState := { tokens, handles := handles ++ defaultHandles }
  ((node? (2 * tokens.length + 2) .block).run state).map fun (root, s) => (root, s.tokens)

/-- The root of a document that begins with a mark, behind which it may be left out. -/
def markedRoot? (handles : List (String × Bytes)) (tokens : List Token) :
    Option (Node × List Token) :=
  match tokens with
  | [] => some (.empty, [])
  | .versionDirective _ _ :: _ | .tagDirective _ _ :: _ | .documentStart :: _ |
    .documentEnd :: _ => some (.empty, tokens)
  | _ => root? handles tokens

/-- The document that the given tokens are. -/
def ofTokens? (tokens : List Token) : Option Document :=
  if tokens.isEmpty then some ⟨none⟩
  else do
    let (handles, rest) ← directives? false [] tokens
    let (root, rest) ←
      match rest with
      | .documentStart :: rest => markedRoot? handles rest
      | _ => if rest.length = tokens.length then root? handles rest else none
    if rest.all (· = .documentEnd) then return ⟨some root⟩ else none

@[simp] theorem ofTokens?_nil : ofTokens? [] = some ⟨none⟩ := rfl

end Document

/-! ### Texts -/

/-- A reader of texts: the document that a text holds, unless it cannot be read. -/
abbrev TextReader := String → Option Document

namespace Document

/-- The document that a text holds. -/
def ofText? : TextReader := fun text => tokens? text >>= ofTokens?

/-- The same with an empty root where a text says nothing at all. -/
def inText? : TextReader := fun text => (ofText? text).map fun d => ⟨some (d.root.getD .empty)⟩

end Document

end Wiretap.Yaml
