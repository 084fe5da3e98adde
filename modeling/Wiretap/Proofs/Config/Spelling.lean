import Mathlib.Data.List.Pairwise
import Wiretap.Proofs.Config.Sections

/-!
# Spellings of settings

Settings may be written in many ways that mean the same: in any order, by any of the names of a
field, with fields that nobody knows, and with or without what is the default anyway.

## Main definitions

* `Config.Field.IsKey` - a key that is a name of a field.
* `Config.Respelled` - two ways to write the same section.
* `Config.GivenTwice` - a field of a section, or of one within it, has two values.

## Main statements

* `Config.Respelled.node?_eq` - a section means the same in every way to write it.
* `Config.GivenTwice.node?_eq_none` - a field that is given twice is an error.
* `Config.load_of_respelled` - what all this means for the settings of texts.

## Design notes

All single steps but those of order are about the first entry of a section, and the order lets any
entry be the first.  A step within a section is a step of the section that it is in, so the
induction is on the steps, and needs the fields of a section to have no name in common.

A key may be left out if its value is the default and nothing else is written for its field.  Two
values for a field are an error in any case, so nothing is lost by that.
-/

namespace Wiretap.Config

open Yaml ScalarReader
open Section (ofEntries? ofEntries?_cons_of_name ofEntries?_perm)

variable {k : Kind} {f g : Field} {s : Section} {e : Node × Node} {value n n' : Node}
  {entries entries' : List (Node × Node)} {name : String}

/-! ## Names of fields -/

/-- A key that is a name of a field. -/
def Field.IsKey (f : Field) (key : Node) : Prop := ∃ name ∈ f.names, text? key = some name

/-- The fields of a section have no name in common. -/
theorem Kind.names_disjoint (k : Kind) :
    k.fields.Pairwise fun f g => ∀ name ∈ f.names, name ∉ g.names := by
  cases k <;> decide

/-- A name of a field is a name of no other one. -/
theorem Kind.eq_or_not_mem (own : f ∈ k.fields) (isName : name ∈ f.names) (other : g ∈ k.fields) :
    g = f ∨ name ∉ g.names := by
  by_cases apart : f = g
  · exact Or.inl apart.symm
  · have : Std.Symm fun f g : Field => ∀ name ∈ f.names, name ∉ g.names :=
      ⟨fun f g apart name isOther isName => apart name isName isOther⟩
    exact Or.inr (k.names_disjoint.forall own other apart name isName)

namespace Field

/-- A field has its default where nothing is given under its names. -/
theorem value?_of_given_eq_nil (f : Field) (nothing : s.given f.names = []) :
    f.value? s = some f.default := by
  rw [value?, Section.field?_eq, nothing]

/-- A field does not see what is given under other names. -/
theorem value?_cons_of_not_mem (other : name ∉ f.names) (value : Node) (s : Section) :
    f.value? ((name, value) :: s) = f.value? s := by
  refine Section.field?_of_perm ?_ _ _
  rw [Section.given, Section.given, List.filter_cons_of_neg (by simpa using other)]

/-- A field has the value given under one of its names, unless there is another one. -/
theorem value?_cons_of_mem (isName : name ∈ f.names) (value : Node) (s : Section) :
    f.value? ((name, value) :: s) = if s.given f.names = [] then f.read value else none := by
  have first : Section.given ((name, value) :: s) f.names = value :: s.given f.names := by
    rw [Section.given, Section.given, List.filter_cons_of_pos (by simpa using isName)]
    rfl
  rw [value?, Section.field?_eq, first]
  cases s.given f.names <;> rfl

end Field

namespace Kind

/-! ## The first entry of a section -/

theorem node?_mapping (k : Kind) (p : Properties) (entries : List (Node × Node)) :
    k.node? (.mapping p entries) = (ofEntries? entries).bind k.section? := by
  rw [node?, Section.ofNode?_mapping]
  rfl

theorem node?_cons (named : text? e.1 = some name) (p : Properties) (entries : List (Node × Node)) :
    k.node? (.mapping p (e :: entries)) =
      (ofEntries? entries).bind fun s => k.section? ((name, e.2) :: s) := by
  rw [node?_mapping, ofEntries?_cons_of_name named]
  cases ofEntries? entries <;> rfl

/-- A section means the same in any order. -/
theorem node?_perm (perm : entries.Perm entries') (p p' : Properties) :
    k.node? (.mapping p entries) = k.node? (.mapping p' entries') := by
  rw [node?_mapping, node?_mapping]
  rcases ofEntries?_perm perm with ⟨one, other⟩ | ⟨s, s', one, other, same⟩
  · rw [one, other]
  · rw [one, other]
    refine k.dependsOn.congr s s' fun f _ => Section.field?_of_perm ?_ _ _
    exact (same.filter _).map _

end Kind

/-! ## Ways to write a section -/

/-- Two ways to write the same section. -/
inductive Respelled : Kind → Node → Node → Prop
  | refl (k : Kind) (n : Node) : Respelled k n n
  | symm {k : Kind} {n n' : Node} (h : Respelled k n n') : Respelled k n' n
  | trans {k : Kind} {n n' n'' : Node} (first : Respelled k n n') (second : Respelled k n' n'') :
    Respelled k n n''
  /-- A section without entries may be left empty. -/
  | empty (k : Kind) (p : Properties) : Respelled k (.mapping p []) .empty
  /-- The entries may be in any order. -/
  | permuted (k : Kind) (p p' : Properties) {entries entries' : List (Node × Node)}
    (perm : entries.Perm entries') : Respelled k (.mapping p entries) (.mapping p' entries')
  /-- A field may be called by any of its names. -/
  | renamed {k : Kind} {f : Field} (own : f ∈ k.fields) {key key' : Node} (was : f.IsKey key)
    (now : f.IsKey key') (p : Properties) (value : Node) (entries : List (Node × Node)) :
    Respelled k (.mapping p ((key, value) :: entries)) (.mapping p ((key', value) :: entries))
  /-- A name of no field may stand beside those of the fields. -/
  | unknown {k : Kind} {key : Node} {name : String} (named : text? key = some name)
    (strange : ∀ f ∈ k.fields, ¬ f.IsKey key) (p : Properties) (value : Node)
    (entries : List (Node × Node)) :
    Respelled k (.mapping p ((key, value) :: entries)) (.mapping p entries)
  /-- A field may be left out if it has its default, or a zero that asks for it. -/
  | omitted {k : Kind} {f : Field} (own : f ∈ k.fields) {key value : Node} (is : f.IsKey key)
    (same : f.read value = some f.default) (p : Properties) {entries : List (Node × Node)}
    (once : ∀ e ∈ entries, ¬ f.IsKey e.1) :
    Respelled k (.mapping p ((key, value) :: entries)) (.mapping p entries)
  /-- A section within a section may be written in any other way. -/
  | inside {k k' : Kind} {names : List String} (own : .inner names k' ∈ k.fields) {key : Node}
    (is : (Field.inner names k').IsKey key) {value value' : Node} (h : Respelled k' value value')
    (p : Properties) (entries : List (Node × Node)) :
    Respelled k (.mapping p ((key, value) :: entries)) (.mapping p ((key, value') :: entries))

/-- A field of a section, or of one within it, has two values. -/
inductive GivenTwice : Kind → Node → Prop
  | here {k : Kind} {f : Field} (own : f ∈ k.fields) {e e' : Node × Node} (one : f.IsKey e.1)
    (other : f.IsKey e'.1) (p : Properties) {entries : List (Node × Node)}
    (both : [e, e'].Sublist entries) : GivenTwice k (.mapping p entries)
  | inside {k k' : Kind} {names : List String} (own : .inner names k' ∈ k.fields) {e : Node × Node}
    (is : (Field.inner names k').IsKey e.1) (p : Properties) {entries : List (Node × Node)}
    (member : e ∈ entries) (h : GivenTwice k' e.2) : GivenTwice k (.mapping p entries)

/-- Nothing is given for a field where no key is a name of it. -/
theorem given_eq_nil (isSection : ofEntries? entries = some s)
    (never : ∀ e ∈ entries, ¬ f.IsKey e.1) : s.given f.names = [] := by
  rw [Section.given, List.map_eq_nil_iff, List.filter_eq_nil_iff]
  intro field member isName
  obtain ⟨e, inside, isField⟩ := Section.named?_of_mem isSection member
  obtain ⟨name, named, rfl⟩ := Option.map_eq_some_iff.mp isField
  exact never e inside ⟨name, by simpa using isName, named⟩

/-- What is given under a name of one field is seen by that field alone. -/
theorem Kind.section?_cons_congr {s s' : Section} (own : f ∈ k.fields) (isName : name ∈ f.names)
    (here : f.value? ((name, value) :: s) = f.value? s')
    (elsewhere : ∀ g ∈ k.fields, name ∉ g.names → g.value? s = g.value? s') :
    k.section? ((name, value) :: s) = k.section? s' := by
  refine k.dependsOn.congr _ _ fun g other => ?_
  rcases Kind.eq_or_not_mem own isName other with rfl | apart
  · exact here
  · rw [g.value?_cons_of_not_mem apart]
    exact elsewhere g other apart

/-- **A section means the same in every way to write it.** -/
theorem Respelled.node?_eq (h : Respelled k n n') : k.node? n = k.node? n' := by
  induction h with
  | refl => rfl
  | symm _ ih => exact ih.symm
  | trans _ _ first second => exact first.trans second
  | empty k p => rfl
  | permuted k p p' perm => exact Kind.node?_perm perm p p'
  | @renamed k f own key key' was now p value entries =>
    obtain ⟨name, isName, named⟩ := was
    obtain ⟨name', isName', named'⟩ := now
    rw [Kind.node?_cons named, Kind.node?_cons named']
    congr 1
    funext s
    -- Both names are of the same field, so no other field gains or loses a value.
    refine Kind.section?_cons_congr own isName ?_ fun g other apart => ?_
    · rw [f.value?_cons_of_mem isName, f.value?_cons_of_mem isName']
    · rcases Kind.eq_or_not_mem own isName' other with rfl | apart'
      · exact absurd isName apart
      · rw [g.value?_cons_of_not_mem apart']
  | @unknown k key name named strange p value entries =>
    rw [Kind.node?_cons named, Kind.node?_mapping]
    congr 1
    funext s
    exact k.dependsOn.congr _ _ fun g other =>
      g.value?_cons_of_not_mem (fun isName => strange g other ⟨name, isName, named⟩) value s
  | @omitted k f own key value is same p entries once =>
    obtain ⟨name, isName, named⟩ := is
    rw [Kind.node?_cons named, Kind.node?_mapping]
    cases isSection : ofEntries? entries with
    | none => rfl
    | some s =>
      have nothing : s.given f.names = [] := given_eq_nil isSection once
      refine Kind.section?_cons_congr own isName ?_ fun _ _ _ => rfl
      rw [f.value?_cons_of_mem isName, if_pos nothing, same, f.value?_of_given_eq_nil nothing]
  | @inside k k' names own key is value value' _ p entries ih =>
    obtain ⟨name, isName, named⟩ := is
    rw [Kind.node?_cons named, Kind.node?_cons named]
    congr 1
    funext s
    refine Kind.section?_cons_congr own isName ?_ fun g _ apart =>
      (g.value?_cons_of_not_mem apart value' s).symm
    have same : (Field.inner names k').read value = (Field.inner names k').read value' := ih
    rw [Field.value?_cons_of_mem isName, Field.value?_cons_of_mem isName, same]

/-- **A field that is given twice is an error.** -/
theorem GivenTwice.node?_eq_none (h : GivenTwice k n) : k.node? n = none := by
  induction h with
  | @here k f own e e' one other p entries both =>
    obtain ⟨name, isName, named⟩ := one
    obtain ⟨name', isName', named'⟩ := other
    -- Wherever the two entries are, the section means the same with both of them in front.
    obtain ⟨rest, perm⟩ := both.exists_perm_append
    rw [Kind.node?_perm perm p p, List.cons_append, Kind.node?_cons named, List.cons_append,
      ofEntries?_cons_of_name named']
    cases ofEntries? ([] ++ rest) with
    | none => rfl
    | some s =>
      refine k.dependsOn.eq_none _ f own ?_
      rw [f.value?_cons_of_mem isName, if_neg]
      simp [Section.given, isName']
  | @inside k k' names own e is p entries member _ ih =>
    obtain ⟨name, isName, named⟩ := is
    obtain ⟨before, behind, rfl⟩ := List.append_of_mem member
    rw [Kind.node?_perm List.perm_middle p p, Kind.node?_cons named]
    cases ofEntries? (before ++ behind) with
    | none => rfl
    | some s =>
      have nothing : (Field.inner names k').read e.2 = none := ih
      refine k.dependsOn.eq_none _ _ own ?_
      rw [Field.value?_cons_of_mem isName, nothing, ite_self]

/-! ## Settings of texts -/

/-- Settings that can be used have a listen address and no zero where a default is meant. -/
theorem bounds_of_settle {c d : Config} (settled : settle c = .ok d) :
    (1 ≤ d.server.bufferSize ∧ d.server.bufferSize ≤ 65536) ∧
      1 ≤ d.output.netflow.flowTimeout ∧ 1 ≤ d.output.netflow.activeTimeout ∧
      (SocketAddr.parse? d.server.listenAddr).isSome := by
  obtain ⟨rfl, address, small⟩ := validate_eq_ok settled
  exact ⟨⟨orDefault_pos (by decide), small⟩, orDefault_pos (by decide), orDefault_pos (by decide),
    address⟩

/-- **Settings mean the same however they are spelled**, whatever reader finds their trees.  Texts
whose trees are two ways to write the same section have the same settings, or the same error; a text
with a field that is given twice is malformed; and whatever settings a text has can be used. -/
theorem load_of_respelled {reader : TextReader} :
    (∀ {text text' : String} {n n' : Node}, treeOf? reader text = some n →
      treeOf? reader text' = some n' → n.IsTree → n'.IsTree → Respelled .root n n' →
      load text reader = load text' reader) ∧
    (∀ {text : String} {n : Node}, treeOf? reader text = some n → n.IsTree → GivenTwice .root n →
      load text reader = .error .malformed) ∧
    ∀ {text : String} {c : Config}, load text reader = .ok c →
      (1 ≤ c.server.bufferSize ∧ c.server.bufferSize ≤ 65536) ∧
        1 ≤ c.output.netflow.flowTimeout ∧ 1 ≤ c.output.netflow.activeTimeout ∧
        (SocketAddr.parse? c.server.listenAddr).isSome := by
  refine ⟨fun stands stands' tree tree' same => ?_, fun stands tree twice => ?_, fun loaded => ?_⟩
  · rw [load_eq stands tree, load_eq stands' tree', ofTree, ofTree, same.node?_eq]
  · rw [load_eq stands tree, ofTree, twice.node?_eq_none]
  · rw [load] at loaded
    cases isRead : read reader _ with
    | error e =>
      rw [isRead] at loaded
      cases loaded
    | ok c =>
      rw [isRead] at loaded
      exact bounds_of_settle loaded

/-- A word that is written as it is. -/
def word (text : String) : Node := .scalar {} text .plain

theorem isTree_word (text : String) : (word text).IsTree := .scalar {} text .plain

theorem isKey_word : f.IsKey (word name) ↔ name ∈ f.names := by
  constructor
  · rintro ⟨_, isName, ⟨⟩⟩
    exact isName
  · exact fun isName => ⟨name, isName, rfl⟩

/-- The server section of a text that says little. -/
def plainServer : Node := .mapping {} [(word "listen-addr", word "1.2.3.4:5")]

/-- The same section with another name and a zero. -/
def wordyServer : Node :=
  .mapping {} [(word "buffer_size", word "0"), (word "listen_addr", word "1.2.3.4:5")]

theorem bufferSize_mem_fields :
    .setting ["buffer-size", "buffer_size"] 65536 (numberOr? 65536) ∈ Kind.server.fields :=
  .tail _ (.head _)

/-- A zero asks for the default. -/
theorem numberOr?_zero : numberOr? 65536 (word "0") = some 65536 := by decide

theorem respelled_server : Respelled .server wordyServer plainServer := by
  have address : .setting ["listen-addr", "listen_addr"] "0.0.0.0:37008" text? ∈
      Kind.server.fields := .head _
  refine .trans (.omitted bufferSize_mem_fields (isKey_word.mpr (by decide)) numberOr?_zero {} ?_)
    ?_
  · intro e member
    rw [List.mem_singleton.mp member, isKey_word]
    decide
  · exact .renamed address (isKey_word.mpr (by decide)) (isKey_word.mpr (by decide)) {} _ []

/-- The tokens of an entry of words. -/
def entryTokens (name text : String) : List Token :=
  [.key, .scalar name .plain, .value, .scalar text .plain]

/-- The tokens of a text with a server section behind other entries. -/
def serverTokens (before entries : List Token) : List Token :=
  .blockMapping :: before ++ [.key, .scalar "server" .plain, .value, .blockMapping] ++ entries ++
    [.blockEnd, .blockEnd]

theorem treeOf?_of_tokens {text : String} (tokens : List Token)
    (words : text.toList.all isWhitespace = false) (isTokens : tokens? text = some tokens)
    (isDocument : Document.ofTokens? tokens = some ⟨some n⟩) :
    treeOf? Document.inText? text = some n := by
  refine treeOf?_of_document words ?_
  rw [Document.inText?, Document.ofText?, isTokens]
  simp only [bind, Option.bind, isDocument]
  rfl

/-- An unknown key, a zero and another name in a text, and a field under both its names. -/
theorem load_of_respelled_server :
    load "x: y\nserver:\n  buffer_size: 0\n  listen_addr: 1.2.3.4:5\n" =
        load "server:\n  listen-addr: 1.2.3.4:5\n" ∧
      load "server:\n  buffer-size: 1\n  buffer_size: 2\n" = .error .malformed := by
  obtain ⟨alike, malformed, -⟩ := @load_of_respelled Document.inText?
  have wordy : treeOf? Document.inText?
      "x: y\nserver:\n  buffer_size: 0\n  listen_addr: 1.2.3.4:5\n" =
      some (.mapping {} [(word "x", word "y"), (word "server", wordyServer)]) :=
    treeOf?_of_tokens (serverTokens (entryTokens "x" "y")
      (entryTokens "buffer_size" "0" ++ entryTokens "listen_addr" "1.2.3.4:5"))
      (by decide) (by decide +kernel) rfl
  have plain : treeOf? Document.inText? "server:\n  listen-addr: 1.2.3.4:5\n" =
      some (.mapping {} [(word "server", plainServer)]) :=
    treeOf?_of_tokens (serverTokens [] (entryTokens "listen-addr" "1.2.3.4:5"))
      (by decide) (by decide +kernel) rfl
  have twice : treeOf? Document.inText? "server:\n  buffer-size: 1\n  buffer_size: 2\n" =
      some (.mapping {} [(word "server", .mapping {}
        [(word "buffer-size", word "1"), (word "buffer_size", word "2")])]) :=
    treeOf?_of_tokens
      (serverTokens [] (entryTokens "buffer-size" "1" ++ entryTokens "buffer_size" "2"))
      (by decide) (by decide +kernel) rfl
  have tree (name text : String) {entries : List (Node × Node)}
      (rest : (Node.mapping {} entries).IsTree) :
      (Node.mapping {} ((word name, word text) :: entries)).IsTree :=
    .cons (isTree_word name) (isTree_word text) rest
  have atServer : .inner ["server"] .server ∈ Kind.root.fields := .head _
  have isServer : (Field.inner ["server"] .server).IsKey (word "server") :=
    isKey_word.mpr (by decide)
  constructor
  · refine alike wordy plain ?_ ?_ (.trans (.unknown rfl ?_ {} _ _) ?_)
    · exact tree _ _ (.cons (isTree_word _) (tree _ _ (tree _ _ (.nil {}))) (.nil {}))
    · exact .cons (isTree_word _) (tree _ _ (.nil {})) (.nil {})
    · intro f member
      rw [isKey_word]
      exact (show ∀ f ∈ Kind.root.fields, "x" ∉ f.names by decide) f member
    · exact .inside atServer isServer respelled_server {} []
  · refine malformed twice ?_ (.inside atServer isServer {} (.head _) ?_)
    · exact .cons (isTree_word _) (tree _ _ (tree _ _ (.nil {}))) (.nil {})
    · exact .here bufferSize_mem_fields (isKey_word.mpr (by decide)) (isKey_word.mpr (by decide))
        {} (.refl _)

end Wiretap.Config
