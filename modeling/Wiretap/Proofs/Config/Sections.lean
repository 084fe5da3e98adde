import Wiretap.Config.Load

/-!
# The fields of sections

What the settings of a section are, told by what is given under the names of each of its fields.

## Main definitions

* `Yaml.Node.IsTree` - a node without aliases.
* `Section.given` - the values given under some names.
* `Config.Kind`, `Config.Kind.fields` - the kinds of sections, and the fields of each with their
  names, defaults and readers.
* `Config.Kind.node?` - the settings of a section, with the default wherever a zero asks for it.

## Main statements

* `Section.field?_of_perm` - what is read under some names does not depend on any order.
* `Config.Kind.section?_congr` - sections that agree in every field have the same settings.
* `Config.Kind.section?_eq_none` - a section has no settings if one of its fields has no value.
* `Config.load_eq` - the settings of a text are those of its tree.

## Design notes

A zero that asks for a default is settled where it is read, so that a field is all that has to be
known of it.  Sections are fields as well, read by the kind that they are.

Nothing of a tree stands for anything else, so its settings do not depend on the document that it
belongs to, and are read here as if they belonged to none.
-/

namespace Wiretap

open Yaml

/-! ## Trees -/

namespace Yaml

/-- A node without aliases. -/
inductive Node.IsTree : Node → Prop
  | scalar (p : Properties) (text : String) (style : Style) : IsTree (.scalar p text style)
  | sequence {p : Properties} {items : List Node} (all : ∀ n ∈ items, IsTree n) :
    IsTree (.sequence p items)
  | mapping {p : Properties} {entries : List (Node × Node)} (keys : ∀ e ∈ entries, IsTree e.1)
    (values : ∀ e ∈ entries, IsTree e.2) : IsTree (.mapping p entries)

/-- A tree stands for itself. -/
theorem Node.IsTree.resolve {n : Node} (tree : n.IsTree) (d : Document) : d.resolve n = n := by
  cases tree <;> rfl

theorem Node.IsTree.nil (p : Properties) : IsTree (.mapping p []) :=
  .mapping (fun _ member => by cases member) fun _ member => by cases member

theorem Node.IsTree.cons {p : Properties} {key value : Node} {entries : List (Node × Node)}
    (ofKey : key.IsTree) (ofValue : value.IsTree) (rest : IsTree (.mapping p entries)) :
    IsTree (.mapping p ((key, value) :: entries)) := by
  cases rest with
  | mapping keys values =>
    exact .mapping (List.forall_mem_cons.mpr ⟨ofKey, keys⟩)
      (List.forall_mem_cons.mpr ⟨ofValue, values⟩)

/-- A node that belongs to no document stands for itself. -/
@[simp] theorem Document.resolve_none (n : Node) : (Document.mk none).resolve n = n := by
  cases n <;> rfl

end Yaml

/-! ## What is given under a name -/

namespace Section

variable {α β : Type} {s s' : Section} {names : List String} {default : α}
  {read read' : Node → Option α} {n : Node}

/-- The values given under some names. -/
def given (s : Section) (names : List String) : List Node :=
  (s.filter fun e => names.contains e.1).map (·.2)

theorem field?_eq (s : Section) (names : List String) (default : α) (read : Node → Option α) :
    s.field? names default read =
      match s.given names with
      | [] => some default
      | [value] => read value
      | _ => none := by
  rw [field?, given]
  cases s.filter fun e => names.contains e.1 with
  | nil => rfl
  | cons e rest => cases rest <;> rfl

/-- What is read under some names does not depend on any order. -/
theorem field?_of_perm (same : (s.given names).Perm (s'.given names)) (default : α)
    (read : Node → Option α) : s.field? names default read = s'.field? names default read := by
  rw [field?_eq, field?_eq]
  match one : s.given names, other : s'.given names with
  | [], given => rw [one, other] at same; rw [List.nil_perm.mp same]
  | [value], given => rw [one, other] at same; rw [List.singleton_perm.mp same]
  | _ :: _ :: _, [] => rw [one, other] at same; exact absurd same.length_eq (by simp)
  | _ :: _ :: _, [_] => rw [one, other] at same; exact absurd same.length_eq (by simp)
  | _ :: _ :: _, _ :: _ :: _ => rfl

/-- What is done to a value may be done where it is read. -/
theorem field?_map {read : Node → Option α} {read' : Node → Option β} {f : α → β} {default' : β}
    (settled : ∀ n, read' n = (read n).map f) (same : default' = f default) :
    s.field? names default' read' = (s.field? names default read).map f := by
  rw [field?_eq, field?_eq, same]
  match s.given names with
  | [] => rfl
  | [value] => exact settled value
  | _ :: _ :: _ => rfl

theorem field?_congr (same : ∀ e ∈ s, read e.2 = read' e.2) (names : List String) (default : α) :
    s.field? names default read = s.field? names default read' := by
  rw [field?_eq, field?_eq]
  match given : s.given names with
  | [] => rfl
  | [value] =>
    have member : value ∈ s.given names := given ▸ List.mem_singleton_self value
    obtain ⟨e, inside, rfl⟩ := List.mem_map.mp member
    exact same e (List.mem_filter.mp inside).1
  | _ :: _ :: _ => rfl

/-! ## From nodes to sections -/

/-- The name and the value of an entry, if its key is a name. -/
def named? (e : Node × Node) : Option (String × Node) :=
  (ScalarReader.text? e.1).map fun name => (name, e.2)

/-- The section with the given entries. -/
def ofEntries? (entries : List (Node × Node)) : Option Section := entries.mapM named?

variable {e : Node × Node} {entries entries' : List (Node × Node)} {name : String}

theorem ofEntries?_cons (e : Node × Node) (entries : List (Node × Node)) :
    ofEntries? (e :: entries) =
      (named? e).bind fun field => (ofEntries? entries).map (field :: ·) := by
  rw [ofEntries?, List.mapM_cons]
  cases named? e <;> cases h : entries.mapM named? <;> simp [ofEntries?, h]

/-- A key that is a name puts its value in front of the section. -/
theorem ofEntries?_cons_of_name (named : ScalarReader.text? e.1 = some name)
    (entries : List (Node × Node)) :
    ofEntries? (e :: entries) = (ofEntries? entries).map ((name, e.2) :: ·) := by
  rw [ofEntries?_cons, named?, named]
  rfl

theorem named?_of_mem (isSection : ofEntries? entries = some s) {field : String × Node}
    (member : field ∈ s) : ∃ e ∈ entries, named? e = some field := by
  induction entries generalizing s with
  | nil =>
    cases isSection
    cases member
  | cons e entries ih =>
    rw [ofEntries?_cons, Option.bind_eq_some_iff] at isSection
    obtain ⟨first, own, isSection⟩ := isSection
    obtain ⟨rest, isRest, rfl⟩ := Option.map_eq_some_iff.mp isSection
    rcases List.mem_cons.mp member with rfl | later
    · exact ⟨e, List.mem_cons_self, own⟩
    · obtain ⟨e', inside, isField⟩ := ih isRest later
      exact ⟨e', List.mem_cons_of_mem _ inside, isField⟩

/-- Entries in another order are a section in another order, or none either way. -/
theorem ofEntries?_perm (perm : entries.Perm entries') :
    (ofEntries? entries = none ∧ ofEntries? entries' = none) ∨
      ∃ s s', ofEntries? entries = some s ∧ ofEntries? entries' = some s' ∧ s.Perm s' := by
  induction perm with
  | nil => exact Or.inr ⟨[], [], rfl, rfl, .nil⟩
  | cons e _ ih =>
    rw [ofEntries?_cons, ofEntries?_cons]
    cases named? e with
    | none => exact Or.inl ⟨rfl, rfl⟩
    | some field =>
      rcases ih with ⟨one, other⟩ | ⟨s, s', one, other, same⟩
      · exact Or.inl ⟨by rw [one]; rfl, by rw [other]; rfl⟩
      · exact Or.inr ⟨_, _, by rw [one]; rfl, by rw [other]; rfl, same.cons field⟩
  | swap e e' entries =>
    simp only [ofEntries?_cons]
    cases named? e <;> cases named? e' <;> cases ofEntries? entries
    case some.some.some field field' s =>
      exact Or.inr ⟨_, _, rfl, rfl, .swap field field' s⟩
    all_goals exact Or.inl ⟨rfl, rfl⟩
  | trans _ _ first second =>
    -- The entries between the two orders are a section in both steps or in none.
    rcases first with ⟨one, other⟩ | ⟨s, s', one, other, same⟩
    · rcases second with ⟨-, last⟩ | ⟨_, _, other', -, -⟩
      · exact Or.inl ⟨one, last⟩
      · rw [other] at other'
        cases other'
    · rcases second with ⟨other', -⟩ | ⟨_, s'', other', last, same'⟩
      · rw [other] at other'
        cases other'
      · rw [other] at other'
        cases other'
        exact Or.inr ⟨s, s'', one, last, same.trans same'⟩

theorem ofNode?_mapping (p : Properties) (entries : List (Node × Node)) :
    ofNode? ⟨none⟩ (.mapping p entries) = ofEntries? entries := by
  simp only [ofNode?, Document.resolve_none]
  rfl

/-- The section of a tree does not depend on the document. -/
theorem ofNode?_of_isTree (tree : n.IsTree) (d : Document) : ofNode? d n = ofNode? ⟨none⟩ n := by
  rw [ofNode?, tree.resolve, ofNode?, Document.resolve_none]
  cases tree with
  | scalar p text style => split <;> simp_all
  | sequence => rfl
  | @mapping p entries keys values =>
    simp only [Document.resolve_none]
    induction entries with
    | nil => rfl
    | cons e entries ih =>
      have rest := ih (fun e member => keys e (List.mem_cons_of_mem _ member))
        fun e member => values e (List.mem_cons_of_mem _ member)
      rw [List.mapM_cons, List.mapM_cons, rest, (keys e List.mem_cons_self).resolve,
        (values e List.mem_cons_self).resolve]

/-- The values of a tree are trees. -/
theorem isTree_of_ofNode? (tree : n.IsTree) (isSection : ofNode? ⟨none⟩ n = some s) :
    ∀ field ∈ s, field.2.IsTree := by
  cases tree with
  | scalar p text style =>
    simp only [ofNode?, Document.resolve_none] at isSection
    split at isSection
    · next same => cases same
    · cases isSection
      simp
    · cases isSection
  | sequence => cases isSection
  | mapping keys values =>
    intro field member
    rw [ofNode?_mapping] at isSection
    obtain ⟨e, inside, isField⟩ := named?_of_mem isSection member
    obtain ⟨name, -, rfl⟩ := Option.map_eq_some_iff.mp isField
    exact values e inside

end Section

/-! ## Kinds of sections -/

namespace ServerSettings

/-- The settings with the default where a zero asks for it. -/
def withDefaults (s : ServerSettings) : ServerSettings :=
  { s with bufferSize := Config.orDefault s.bufferSize 65536 }

end ServerSettings

namespace NetflowSettings

/-- The settings with the defaults wherever a zero asks for one. -/
def withDefaults (s : NetflowSettings) : NetflowSettings :=
  { s with
    flowTimeout := Config.orDefault s.flowTimeout 60
    activeTimeout := Config.orDefault s.activeTimeout 120 }

end NetflowSettings

namespace OutputSettings

/-- The settings with the defaults wherever a zero asks for one. -/
def withDefaults (s : OutputSettings) : OutputSettings :=
  { s with netflow := s.netflow.withDefaults }

end OutputSettings

namespace Config

open ScalarReader

variable {s : Section} {n : Node}

/-- The kinds of sections. -/
inductive Kind where
  | root
  | server
  | output
  | file
  | capture
  | netflow
  | logging
deriving DecidableEq, Repr

/-- The settings of a document from its section. -/
def ofSection? (d : Document) (s : Section) : Option Config := do
  return {
    server := ← s.field? ["server"] {} (within? d server?)
    output := ← s.field? ["output"] {} (within? d (output? d))
    logging := ← s.field? ["logging"] {} (within? d logging?) }

theorem ofDocument?_eq (d : Document) : ofDocument? d = Section.ofDocument? d >>= ofSection? d :=
  rfl

namespace Kind

/-- The settings that a section of a kind holds. -/
def Value : Kind → Type
  | root => Config
  | server => ServerSettings
  | output => OutputSettings
  | file => FileSettings
  | capture => CaptureSettings
  | netflow => NetflowSettings
  | logging => LoggingSettings

/-- The settings that nobody wrote. -/
def default : (k : Kind) → k.Value
  | root => ({} : Config)
  | server => ({} : ServerSettings)
  | output => ({} : OutputSettings)
  | file => ({} : FileSettings)
  | capture => ({} : CaptureSettings)
  | netflow => ({} : NetflowSettings)
  | logging => ({} : LoggingSettings)

/-- The settings of a section, with the default wherever a zero asks for it. -/
def section? : (k : Kind) → Section → Option k.Value
  | root => fun s => (ofSection? ⟨none⟩ s).map Config.withDefaults
  | server => fun s => (Config.server? s).map ServerSettings.withDefaults
  | output => fun s => (Config.output? ⟨none⟩ s).map OutputSettings.withDefaults
  | file => Config.file?
  | capture => Config.capture?
  | netflow => fun s => (Config.netflow? s).map NetflowSettings.withDefaults
  | logging => Config.logging?

/-- The settings of a node that is a section of a kind. -/
def node? (k : Kind) (n : Node) : Option k.Value := Section.ofNode? ⟨none⟩ n >>= k.section?

end Kind

/-- A field of a section. -/
inductive Field where
  /-- A single setting. -/
  | setting {α : Type} (names : List String) (default : α) (read : Node → Option α)
  /-- A section. -/
  | inner (names : List String) (kind : Kind)

namespace Field

/-- The spellings of the name of a field. -/
def names : Field → List String
  | setting names _ _ => names
  | inner names _ => names

/-- What a field holds. -/
def Value : Field → Type
  | @setting α _ _ _ => α
  | inner _ kind => kind.Value

/-- What a field holds that nobody wrote. -/
def default : (f : Field) → f.Value
  | setting _ default _ => default
  | inner _ kind => kind.default

/-- What a field holds if this is written. -/
def read : (f : Field) → Node → Option f.Value
  | setting _ _ read => read
  | inner _ kind => kind.node?

/-- What a field holds in a section. -/
def value? (f : Field) (s : Section) : Option f.Value := s.field? f.names f.default f.read

end Field

/-- The number of a scalar, or a default where it is zero. -/
def numberOr? (default : Nat) (n : Node) : Option Nat :=
  (number? numberLimit n).map (orDefault · default)

/-- The fields of each kind of section. -/
def Kind.fields : Kind → List Field
  | root => [.inner ["server"] server, .inner ["output"] output, .inner ["logging"] logging]
  | server => [
      .setting ["listen-addr", "listen_addr"] "0.0.0.0:37008" text?,
      .setting ["buffer-size", "buffer_size"] 65536 (numberOr? 65536)]
  | output => [.inner ["file"] file, .inner ["pcap"] capture, .inner ["netflow"] netflow]
  | file => [
      .setting ["enabled"] false flag?,
      .setting ["output-file", "output_file"] "packets.log" text?,
      .setting ["format"] .json format?]
  | capture => [
      .setting ["enabled"] false flag?,
      .setting ["output-file", "output_file"] "capture.pcap" text?,
      .setting ["max-size-mb", "max_size_mb"] 100 (number? numberLimit),
      .setting ["max-backups", "max_backups"] 5 (number? numberLimit)]
  | netflow => [
      .setting ["enabled"] false flag?,
      .setting ["collector-addr", "collector_addr"] "127.0.0.1:2055" text?,
      .setting ["version"] 5 (number? UInt16.size),
      .setting ["flow-timeout", "flow_timeout"] 60 (numberOr? 60),
      .setting ["active-timeout", "active_timeout"] 120 (numberOr? 120)]
  | logging => [
      .setting ["level"] "info" text?,
      .setting ["console", "console_output"] true flag?,
      .setting ["file"] "" text?]

namespace Kind

/-- What is done to the settings of a section may be done where the section is read. -/
theorem node?_map {α : Type} {k : Kind} {read : Section → Option α} {f : α → k.Value}
    (settled : ∀ s, k.section? s = (read s).map f) (n : Node) :
    k.node? n = (within? ⟨none⟩ read n).map f := by
  rw [node?, within?]
  cases Section.ofNode? ⟨none⟩ n with
  | none => rfl
  | some s => exact settled s

/-! The settings of each kind of section are put together from its fields. -/

theorem section?_server (s : Section) :
    server.section? s = (do
      let listenAddr ← s.field? ["listen-addr", "listen_addr"] "0.0.0.0:37008" text?
      let bufferSize ← s.field? ["buffer-size", "buffer_size"] 65536 (numberOr? 65536)
      return { listenAddr, bufferSize : ServerSettings }) := by
  have size : s.field? ["buffer-size", "buffer_size"] 65536 (numberOr? 65536) =
      (s.field? ["buffer-size", "buffer_size"] 65536 (number? numberLimit)).map
        (orDefault · 65536) := Section.field?_map (fun _ => rfl) rfl
  rw [size]
  simp only [section?, Config.server?]
  cases s.field? ["listen-addr", "listen_addr"] _ text? with
  | none => rfl
  | some => cases s.field? ["buffer-size", "buffer_size"] _ (number? numberLimit) <;> rfl

theorem section?_netflow (s : Section) :
    netflow.section? s = (do
      let enabled ← s.field? ["enabled"] false flag?
      let collector ← s.field? ["collector-addr", "collector_addr"] "127.0.0.1:2055" text?
      let version ← s.field? ["version"] 5 (number? UInt16.size)
      let flowTimeout ← s.field? ["flow-timeout", "flow_timeout"] 60 (numberOr? 60)
      let activeTimeout ← s.field? ["active-timeout", "active_timeout"] 120 (numberOr? 120)
      return { enabled, collector, version, flowTimeout, activeTimeout : NetflowSettings }) := by
  have idle : s.field? ["flow-timeout", "flow_timeout"] 60 (numberOr? 60) =
      (s.field? ["flow-timeout", "flow_timeout"] 60 (number? numberLimit)).map
        (orDefault · 60) := Section.field?_map (fun _ => rfl) rfl
  have active : s.field? ["active-timeout", "active_timeout"] 120 (numberOr? 120) =
      (s.field? ["active-timeout", "active_timeout"] 120 (number? numberLimit)).map
        (orDefault · 120) := Section.field?_map (fun _ => rfl) rfl
  rw [idle, active]
  simp only [section?, Config.netflow?]
  cases s.field? ["enabled"] _ flag? with
  | none => rfl
  | some =>
    cases s.field? ["collector-addr", "collector_addr"] _ text? with
    | none => rfl
    | some =>
      cases s.field? ["version"] _ (number? UInt16.size) with
      | none => rfl
      | some =>
        cases s.field? ["flow-timeout", "flow_timeout"] _ (number? numberLimit) with
        | none => rfl
        | some =>
          cases s.field? ["active-timeout", "active_timeout"] _ (number? numberLimit) <;> rfl

theorem section?_output (s : Section) :
    output.section? s = (do
      let file ← s.field? ["file"] {} (within? ⟨none⟩ Config.file?)
      let capture ← s.field? ["pcap"] {} (within? ⟨none⟩ Config.capture?)
      let netflow ← s.field? ["netflow"] ({} : NetflowSettings) netflow.node?
      return { file, capture, netflow : OutputSettings }) := by
  have flows : s.field? ["netflow"] ({} : NetflowSettings) netflow.node? =
      (s.field? ["netflow"] {} (within? ⟨none⟩ Config.netflow?)).map
        NetflowSettings.withDefaults := Section.field?_map (node?_map fun _ => rfl) rfl
  rw [flows]
  simp only [section?, Config.output?]
  cases s.field? ["file"] _ (within? ⟨none⟩ Config.file?) with
  | none => rfl
  | some =>
    cases s.field? ["pcap"] _ (within? ⟨none⟩ Config.capture?) with
    | none => rfl
    | some => cases s.field? ["netflow"] _ (within? ⟨none⟩ Config.netflow?) <;> rfl

theorem section?_root (s : Section) :
    root.section? s = (do
      let server ← s.field? ["server"] ({} : ServerSettings) server.node?
      let output ← s.field? ["output"] ({} : OutputSettings) output.node?
      let logging ← s.field? ["logging"] {} (within? ⟨none⟩ Config.logging?)
      return { server, output, logging : Config }) := by
  have served : s.field? ["server"] ({} : ServerSettings) server.node? =
      (s.field? ["server"] {} (within? ⟨none⟩ Config.server?)).map
        ServerSettings.withDefaults := Section.field?_map (node?_map fun _ => rfl) rfl
  have put : s.field? ["output"] ({} : OutputSettings) output.node? =
      (s.field? ["output"] {} (within? ⟨none⟩ (Config.output? ⟨none⟩))).map
        OutputSettings.withDefaults := Section.field?_map (node?_map fun _ => rfl) rfl
  rw [served, put]
  simp only [section?, ofSection?]
  cases s.field? ["server"] _ (within? ⟨none⟩ Config.server?) with
  | none => rfl
  | some =>
    cases s.field? ["output"] _ (within? ⟨none⟩ (Config.output? ⟨none⟩)) with
    | none => rfl
    | some => cases s.field? ["logging"] _ (within? ⟨none⟩ Config.logging?) <;> rfl

end Kind

/-- What is read from a section is put together from some fields, each of which it needs. -/
structure DependsOn {α : Type} (fields : List Field) (read : Section → Option α) : Prop where
  congr : ∀ s s', (∀ f ∈ fields, f.value? s = f.value? s') → read s = read s'
  eq_none : ∀ s, ∀ f ∈ fields, f.value? s = none → read s = none

namespace DependsOn

variable {α : Type} {fields : List Field} {f : Field}

theorem pure (a : α) : DependsOn [] fun _ => some a :=
  ⟨fun _ _ _ => rfl, fun _ _ member => by cases member⟩

/-- One field more. -/
theorem field {read : f.Value → Section → Option α} (rest : ∀ a, DependsOn fields (read a)) :
    DependsOn (f :: fields) fun s => (f.value? s).bind fun a => read a s := by
  refine ⟨fun s s' same => ?_, fun s g member nothing => ?_⟩
  · obtain ⟨own, others⟩ := List.forall_mem_cons.mp same
    simp only [own]
    cases f.value? s' with
    | none => rfl
    | some a => exact (rest a).congr s s' others
  · rcases List.mem_cons.mp member with rfl | later
    · simp only [nothing, Option.bind_none]
    · cases f.value? s with
      | none => rfl
      | some a => exact (rest a).eq_none s g later nothing

end DependsOn

/-- The settings of a section are put together from its fields. -/
theorem Kind.dependsOn (k : Kind) : DependsOn k.fields k.section? := by
  cases k with
  | root =>
    rw [funext section?_root]
    exact .field fun _ => .field fun _ => .field fun _ => .pure _
  | server =>
    rw [funext section?_server]
    exact .field fun _ => .field fun _ => .pure _
  | output =>
    rw [funext section?_output]
    exact .field fun _ => .field fun _ => .field fun _ => .pure _
  | file => exact .field fun _ => .field fun _ => .field fun _ => .pure _
  | capture => exact .field fun _ => .field fun _ => .field fun _ => .field fun _ => .pure _
  | netflow =>
    rw [funext section?_netflow]
    exact .field fun _ => .field fun _ => .field fun _ => .field fun _ => .field fun _ => .pure _
  | logging => exact .field fun _ => .field fun _ => .field fun _ => .pure _

/-! ## Texts -/

variable {reader : TextReader} {text : String}

/-- The tree that a text stands for, as a reader has it: nothing is written in one of whitespace
alone. -/
def treeOf? (reader : TextReader) (text : String) : Option Node :=
  if text.toList.all isWhitespace then some .empty else reader text >>= Document.root

theorem treeOf?_of_document (words : text.toList.all isWhitespace = false)
    (isDocument : reader text = some ⟨some n⟩) : treeOf? reader text = some n := by
  rw [treeOf?, if_neg (Bool.eq_false_iff.mp words), isDocument]
  rfl

/-- A section of a tree does not depend on the document. -/
theorem within?_of_isTree {α : Type} (tree : n.IsTree) (d : Document)
    {read read' : Section → Option α}
    (same : ∀ s : Section, (∀ e ∈ s, e.2.IsTree) → read s = read' s) :
    within? d read n = within? ⟨none⟩ read' n := by
  rw [within?, within?, Section.ofNode?_of_isTree tree]
  cases isSection : Section.ofNode? ⟨none⟩ n with
  | none => rfl
  | some s => exact same s (Section.isTree_of_ofNode? tree isSection)

theorem output?_of_isTree (trees : ∀ e ∈ s, e.2.IsTree) (d : Document) :
    output? d s = output? ⟨none⟩ s := by
  have inner {α : Type} (read : Section → Option α) (names : List String) (default : α) :
      s.field? names default (within? d read) = s.field? names default (within? ⟨none⟩ read) :=
    Section.field?_congr (fun e member => within?_of_isTree (trees e member) d fun _ _ => rfl) _ _
  rw [output?, output?, inner, inner, inner]

theorem ofSection?_of_isTree (trees : ∀ e ∈ s, e.2.IsTree) (d : Document) :
    ofSection? d s = ofSection? ⟨none⟩ s := by
  have inner {α : Type} {read read' : Section → Option α}
      (same : ∀ s : Section, (∀ e ∈ s, e.2.IsTree) → read s = read' s) (names : List String)
      (default : α) :
      s.field? names default (within? d read) = s.field? names default (within? ⟨none⟩ read') :=
    Section.field?_congr (fun e member => within?_of_isTree (trees e member) d same) _ _
  rw [ofSection?, ofSection?, inner fun _ _ => rfl, inner fun _ trees => output?_of_isTree trees d,
    inner fun _ _ => rfl]

/-- The settings of a document that is a tree. -/
theorem ofDocument?_of_isTree (tree : n.IsTree) :
    (ofDocument? ⟨some n⟩).map withDefaults = Kind.root.node? n := by
  rw [ofDocument?_eq, Kind.node?]
  change Option.map withDefaults (Section.ofNode? ⟨some n⟩ n >>= ofSection? ⟨some n⟩) = _
  rw [Section.ofNode?_of_isTree tree]
  cases isSection : Section.ofNode? ⟨none⟩ n with
  | none => rfl
  | some s =>
    have same := ofSection?_of_isTree (Section.isTree_of_ofNode? tree isSection) ⟨some n⟩
    exact congrArg (Option.map withDefaults) same

/-- The settings that a tree holds, if they can be used. -/
def ofTree (n : Node) : Except ConfigError Config :=
  match Kind.root.node? n with
  | some c => validate c
  | none => .error .malformed

/-- The settings of a text are those of its tree. -/
theorem load_eq (stands : treeOf? reader text = some n) (tree : n.IsTree) :
    load text reader = ofTree n := by
  rw [load, read]
  rw [treeOf?] at stands
  split at stands
  · next blank =>
    cases stands
    rw [if_pos blank]
    rfl
  · next words =>
    obtain ⟨⟨root⟩, isDocument, rfl⟩ := Option.bind_eq_some_iff.mp stands
    rw [if_neg words, isDocument, ofTree, ← ofDocument?_of_isTree tree]
    simp only [bind, Option.bind]
    cases ofDocument? ⟨some n⟩ <;> rfl

end Config

end Wiretap
