import Wiretap.Metadata.Line
import Wiretap.Proofs.Address.Text
import Wiretap.Proofs.Packet.Names
import Wiretap.Proofs.Time.Stamp

/-!
# Metadata lines told apart

A metadata line shows the same of two packets only if they have the same, in either format, and no
character of it needs an escape.

## Main definitions

* `Packet.ShownAlike` - two packets of which a metadata line shows the same.
* `Metadata.piece` - a field as a line shows it: its name, a delimiter and its value.
* `Metadata.shownFields` - what a line shows of each field.
* `Metadata.Field.IsPlain` - a field whose name and value need no escape.

## Main statements

* `Metadata.isPlain_fields` - no field of a packet needs an escape.
* `Metadata.shownFields_of_render` - a line tells what it shows of each field.
* `Metadata.shownAlike_of_shownFields` - this tells what the packets have.
* `Metadata.line?_eq_iff` - both together.
* `Metadata.mem_line?` - no character breaks a line.

## Design notes

No separator of fields occurs in a field and no delimiter in a name, so a line is cut in one way.
Which fields are there is told by their names, each of which is used once.
-/

namespace Wiretap

/-- Two packets of which a metadata line shows the same. -/
structure Packet.ShownAlike (p q : Packet) : Prop where
  millis : p.time.millis = q.time.millis
  protocol : p.protocol = q.protocol
  srcIp : p.srcIp = q.srcIp
  dstIp : p.dstIp = q.dstIp
  srcPort : p.srcPort = q.srcPort
  dstPort : p.dstPort = q.dstPort
  srcMac : p.srcMac = q.srcMac
  dstMac : p.dstMac = q.dstMac
  vlan : p.vlan = q.vlan
  length : p.length = q.length
  payloadLength : p.payloadLength = q.payloadLength
  tcpFlags : p.tcpFlags = q.tcpFlags

/-- The name of a protocol tells it, and whether there is one. -/
theorem Packet.protocol_of_protocolName {p q : Packet} (same : p.protocolName = q.protocolName) :
    p.protocol = q.protocol := by
  unfold protocolName at same
  cases mine : p.protocol with
  | none =>
    cases other : q.protocol with
    | none => rfl
    | some b =>
      rw [mine, other] at same
      exact absurd same.symm b.name_ne_empty
  | some a =>
    cases other : q.protocol with
    | none =>
      rw [mine, other] at same
      exact absurd same a.name_ne_empty
    | some b =>
      rw [mine, other] at same
      exact congrArg some (IpProtocol.name_injective same)

namespace Metadata

variable {format : LineFormat} {f g : Field} {fs gs : List Field} {p q : Packet} {s s' : String}

/-! ## Fields -/

theorem quoted_injective : Function.Injective quoted := by
  intro s s' same
  rwa [quoted, quoted, String.append_left_inj, String.append_right_inj] at same

theorem toList_quoted (s : String) : (quoted s).toList = '"' :: (s.toList ++ ['"']) := by
  simp [quoted]

/-- A value as a line shows it. -/
def Value.shown (format : LineFormat) : Value → String
  | .number n => toString n
  | .word w =>
    match format with
    | .json => quoted w
    | .text => w
  | .stamp s => quoted s

theorem Value.shown_number_injective (format : LineFormat) :
    Function.Injective fun n => Value.shown format (.number n) := by
  intro n m same
  have digits := congrArg String.toList same
  exact (Text.toDigits_inj (by decide) (by decide)).mp
    (Nat.toList_repr.symm.trans (digits.trans Nat.toList_repr))

theorem Value.shown_word_injective (format : LineFormat) :
    Function.Injective fun w => Value.shown format (.word w) := by
  cases format with
  | json => exact quoted_injective
  | text => exact fun _ _ same => same

/-- The characters of a value, without quotes. -/
def Value.chars : Value → List Char
  | .number n => Text.decimal n
  | .word w => w.toList
  | .stamp s => s.toList

/-- A value stands between quotes or by itself. -/
theorem Value.toList_shown (format : LineFormat) (v : Value) :
    (v.shown format).toList = v.chars ∨ (v.shown format).toList = '"' :: (v.chars ++ ['"']) := by
  cases v with
  | number n => exact Or.inl Nat.toList_repr
  | word w =>
    cases format with
    | json => exact Or.inr (toList_quoted w)
    | text => exact Or.inl rfl
  | stamp s => exact Or.inr (toList_quoted s)

/-- The character between a name and its value. -/
def delimiter : LineFormat → Char
  | .json => ':'
  | .text => '='

/-- The character between two fields. -/
def separator : LineFormat → Char
  | .json => ','
  | .text => ' '

/-- A name as a line shows it. -/
def shownName (format : LineFormat) (name : String) : List Char :=
  match format with
  | .json => '"' :: (name.toList ++ ['"'])
  | .text => name.toList

/-- A field as a line shows it. -/
def piece (format : LineFormat) (f : Field) : List Char :=
  shownName format f.name ++ delimiter format :: (f.value.shown format).toList

theorem toList_json (f : Field) : f.json.toList = piece .json f := by
  obtain ⟨name, v⟩ := f
  cases v <;> simp [Field.json, piece, shownName, delimiter, Value.shown, toList_quoted]

theorem toList_pair (f : Field) : f.pair.toList = piece .text f := by
  obtain ⟨name, v⟩ := f
  cases v <;> simp [Field.pair, piece, shownName, delimiter, Value.shown]

/-- Text that stands around all fields. -/
def framed (format : LineFormat) (cs : List Char) : List Char :=
  match format with
  | .json => '\x7b' :: (cs ++ ['\x7d'])
  | .text => cs

theorem toList_render (format : LineFormat) (fs : List Field) :
    (render format fs).toList =
      framed format (Text.joinWith (separator format) (fs.map (piece format))) := by
  rw [Text.joinWith_eq_intercalate]
  cases format with
  | json =>
    have pieces : fs.map (piece .json) = (fs.map Field.json).map String.toList := by
      rw [List.map_map]
      exact List.map_congr_left fun f _ => (toList_json f).symm
    rw [pieces, render]
    simp [framed, separator, String.toList_intercalate]
  | text =>
    have pieces : fs.map (piece .text) = (fs.map Field.pair).map String.toList := by
      rw [List.map_map]
      exact List.map_congr_left fun f _ => (toList_pair f).symm
    rw [pieces, render]
    simp [framed, separator, String.toList_intercalate]

/-! ## Fields without special characters -/

/-- A field whose name and value need no escape. -/
structure Field.IsPlain (f : Field) : Prop where
  name : ∀ c ∈ f.name.toList, Text.IsPlain c ∧ c ≠ ':' ∧ c ≠ '='
  value : ∀ c ∈ f.value.chars, Text.IsPlain c

theorem mem_piece (plain : f.IsPlain) {c : Char} (inside : c ∈ piece format f) :
    Text.IsPlain c ∨ c = '"' := by
  have delimiters : Text.IsPlain (delimiter format) := by cases format <;> decide
  have named {c : Char} (inside : c ∈ shownName format f.name) : Text.IsPlain c ∨ c = '"' := by
    cases format with
    | json =>
      rcases List.mem_cons.mp inside with rfl | later
      · exact Or.inr rfl
      · exact (List.mem_append.mp later).imp (fun there => (plain.name _ there).1)
          List.mem_singleton.mp
    | text => exact Or.inl (plain.name _ inside).1
  rcases List.mem_append.mp inside with front | back
  · exact named front
  · rcases List.mem_cons.mp back with rfl | back
    · exact Or.inl delimiters
    · rcases f.value.toList_shown format with bare | inQuotes
      · rw [bare] at back
        exact Or.inl (plain.value _ back)
      · rw [inQuotes] at back
        rcases List.mem_cons.mp back with rfl | later
        · exact Or.inr rfl
        · exact (List.mem_append.mp later).imp (plain.value _) List.mem_singleton.mp

theorem separator_notMem_piece (plain : f.IsPlain) : separator format ∉ piece format f := by
  intro inside
  rcases mem_piece plain inside with isPlain | quote
  · cases format <;> exact absurd isPlain (by decide)
  · cases format <;> exact absurd quote (by decide)

theorem delimiter_notMem_shownName (plain : f.IsPlain) :
    delimiter format ∉ shownName format f.name := by
  intro inside
  cases format with
  | json =>
    rcases List.mem_cons.mp inside with quote | later
    · exact absurd quote (by decide)
    · rcases List.mem_append.mp later with there | quote
      · exact (plain.name _ there).2.1 rfl
      · exact absurd (List.mem_singleton.mp quote) (by decide)
  | text => exact (plain.name _ inside).2.2 rfl

theorem shownName_injective : Function.Injective (shownName format) := by
  intro a b same
  cases format with
  | json => exact String.toList_inj.mp (List.append_cancel_right (List.tail_eq_of_cons_eq same))
  | text => exact String.toList_inj.mp same

/-- A field tells its name and how its value is shown. -/
theorem piece_inj (plain : f.IsPlain) (plain' : g.IsPlain)
    (same : piece format f = piece format g) :
    f.name = g.name ∧ f.value.shown format = g.value.shown format := by
  obtain ⟨name, value⟩ := (Text.append_cons_inj (delimiter_notMem_shownName plain)
    (delimiter_notMem_shownName plain')).mp same
  exact ⟨shownName_injective name, String.toList_inj.mp value⟩

/-- What a line shows of each field. -/
def shownFields (format : LineFormat) (fs : List Field) : List (String × String) :=
  fs.map fun f => (f.name, f.value.shown format)

theorem shownFields_of_pieces (plain : ∀ f ∈ fs, f.IsPlain) (plain' : ∀ g ∈ gs, g.IsPlain)
    (same : fs.map (piece format) = gs.map (piece format)) :
    shownFields format fs = shownFields format gs := by
  induction fs generalizing gs with
  | nil =>
    cases gs with
    | nil => rfl
    | cons g gs => cases same
  | cons f fs ih =>
    cases gs with
    | nil => cases same
    | cons g gs =>
      obtain ⟨first, rest⟩ := List.cons_eq_cons.mp same
      obtain ⟨name, value⟩ := piece_inj (plain f List.mem_cons_self)
        (plain' g List.mem_cons_self) first
      have others := ih (fun f inside => plain f (List.mem_cons_of_mem _ inside))
        (fun g inside => plain' g (List.mem_cons_of_mem _ inside)) rest
      exact congrArg₂ List.cons (Prod.ext name value) others

/-- **A line tells the shown fields**, if these are plain. -/
theorem shownFields_of_render (plain : ∀ f ∈ fs, f.IsPlain) (plain' : ∀ g ∈ gs, g.IsPlain)
    (some_ : fs ≠ []) (some' : gs ≠ []) (same : render format fs = render format gs) :
    shownFields format fs = shownFields format gs := by
  have without {fs : List Field} (plain : ∀ f ∈ fs, f.IsPlain) :
      ∀ part ∈ fs.map (piece format), separator format ∉ part := by
    intro part isPart
    obtain ⟨f, inside, rfl⟩ := List.mem_map.mp isPart
    exact separator_notMem_piece (plain f inside)
  have texts := congrArg String.toList same
  rw [toList_render, toList_render] at texts
  have joined : Text.joinWith (separator format) (fs.map (piece format)) =
      Text.joinWith (separator format) (gs.map (piece format)) := by
    cases format with
    | json => exact List.append_cancel_right (List.tail_eq_of_cons_eq texts)
    | text => exact texts
  refine shownFields_of_pieces plain plain' ((Text.joinWith_inj ?_ ?_ (without plain)
    (without plain')).mp joined)
  · simpa using some_
  · simpa using some'

/-! ## The fields of a packet -/

theorem lookup_append (fs gs : List Field) (key : String) :
    (shownFields format (fs ++ gs)).lookup key =
      ((shownFields format fs).lookup key).or ((shownFields format gs).lookup key) := by
  rw [shownFields, List.map_append, List.lookup_append]
  rfl

theorem lookup_cons (f : Field) (fs : List Field) (key : String) :
    (shownFields format (f :: fs)).lookup key =
      if key = f.name then some (f.value.shown format)
      else (shownFields format fs).lookup key := by
  rw [shownFields, List.map_cons, List.lookup_cons]
  split <;> simp_all [shownFields]

theorem lookup_optional (name key : String) {α : Type} (value : α → Value) (x : Option α) :
    (shownFields format (optional name value x)).lookup key =
      if key = name then x.map fun a => (value a).shown format else none := by
  cases x with
  | none => simp [optional, shownFields]
  | some a =>
    rw [optional, Option.map_some, Option.toList_some, lookup_cons]
    rfl

theorem lookup_nil (key : String) : (shownFields format []).lookup key = none := rfl

theorem map_shown_word_injective (format : LineFormat) {α : Type} {text : α → String}
    (injective : Function.Injective text) :
    Function.Injective (Option.map fun a => Value.shown format (.word (text a))) :=
  Option.map_injective ((Value.shown_word_injective format).comp injective)

/-- What is shown of packets tells what they have. -/
theorem shownAlike_of_shownFields
    (same : shownFields format (fields s p) = shownFields format (fields s' q))
    (millis : s = s' → p.time.millis = q.time.millis) : p.ShownAlike q := by
  have each (key : String) := congrArg (List.lookup key) same
  -- Each name is used for one field, so looking it up finds that field or nothing.
  simp only [fields, lookup_append, lookup_cons, lookup_optional, lookup_nil] at each
  have number := Value.shown_number_injective format
  have word := Value.shown_word_injective format
  have ip := map_shown_word_injective format IpAddr.text_injective
  have mac := map_shown_word_injective format Mac.text_injective
  have flags := map_shown_word_injective format TcpFlags.text_injective
  have id : Function.Injective
      (Option.map fun x : UInt16 => Value.shown format (.number x.toNat)) :=
    Option.map_injective (number.comp fun _ _ => UInt16.toNat_inj.mp)
  have stamps : Value.shown format (.stamp s) = Value.shown format (.stamp s') := by
    simpa using each "time"
  exact {
    millis := millis (quoted_injective stamps)
    protocol := Packet.protocol_of_protocolName (word (by simpa using each "protocol"))
    srcIp := ip (by simpa using each "src_ip")
    dstIp := ip (by simpa using each "dst_ip")
    srcPort := UInt16.toNat_inj.mp (number (by simpa using each "src_port"))
    dstPort := UInt16.toNat_inj.mp (number (by simpa using each "dst_port"))
    srcMac := mac (by simpa using each "src_mac")
    dstMac := mac (by simpa using each "dst_mac")
    vlan := id (by simpa using each "vlan")
    length := number (by simpa using each "length")
    payloadLength := number (by simpa using each "payload_len")
    tcpFlags := flags (by simpa using each "tcp_flags") }

/-- The names of the fields. -/
def fieldNames : List String :=
  ["time", "protocol", "src_ip", "dst_ip", "src_port", "dst_port", "src_mac", "dst_mac", "vlan",
    "length", "payload_len", "tcp_flags"]

theorem isPlain_of_mem_fieldNames {name : String} (isName : name ∈ fieldNames) :
    ∀ c ∈ name.toList, Text.IsPlain c ∧ c ≠ ':' ∧ c ≠ '=' := by
  have all : ∀ name ∈ fieldNames,
      name.toList.all fun c => Text.IsPlain c ∧ c ≠ ':' ∧ c ≠ '=' := by decide
  exact List.all_iff_forall_prop.mp (all name isName)

theorem isPlain_number {name : String} (isName : name ∈ fieldNames) (n : Nat) :
    Field.IsPlain ⟨name, .number n⟩ :=
  ⟨isPlain_of_mem_fieldNames isName, fun _ inside =>
    Text.isPlain_of_mem_digits (Text.mem_digits_of_decimal inside)⟩

theorem isPlain_optional {name : String} {α : Type} {value : α → Value} {x : Option α}
    (plain : ∀ a, Field.IsPlain ⟨name, value a⟩) {f : Field} (inside : f ∈ optional name value x) :
    f.IsPlain := by
  cases x with
  | none => cases inside
  | some a =>
    rw [List.mem_singleton.mp inside]
    exact plain a

/-- No field of a packet needs an escape. -/
theorem isPlain_fields (reaches : Calendar.Reaches p.time)
    (stamped : Calendar.stamp? p.time = some s) : ∀ f ∈ fields s p, f.IsPlain := by
  have number {name : String} (isName : name ∈ fieldNames) (n : Nat) := isPlain_number isName n
  have word {name : String} (isName : name ∈ fieldNames) {w : String}
      (plain : ∀ c ∈ w.toList, Text.IsPlain c) : Field.IsPlain ⟨name, .word w⟩ :=
    ⟨isPlain_of_mem_fieldNames isName, plain⟩
  have ip {name : String} (isName : name ∈ fieldNames) (x : IpAddr) :
      Field.IsPlain ⟨name, .word x.text⟩ := word isName fun c inside =>
    IpAddr.isPlain_of_mem_chars (String.toList_ofList ▸ inside)
  have mac {name : String} (isName : name ∈ fieldNames) (x : Mac) :
      Field.IsPlain ⟨name, .word x.text⟩ := word isName fun c inside =>
    Mac.isPlain_of_mem_chars (String.toList_ofList ▸ inside)
  have protocol : ∀ c ∈ p.protocolName.toList, Text.IsPlain c := by
    intro c inside
    unfold Packet.protocolName at inside
    cases here : p.protocol with
    | none =>
      rw [here] at inside
      cases inside
    | some a =>
      rw [here] at inside
      exact IpProtocol.isPlain_of_mem_name inside
  have isTime := isPlain_of_mem_fieldNames (show "time" ∈ fieldNames by decide)
  intro f inside
  simp only [fields, List.mem_append, List.mem_cons, List.not_mem_nil, or_false, or_assoc] at inside
  rcases inside with rfl | rfl | inside | inside | rfl | rfl | inside | inside | inside | rfl |
    rfl | inside
  · exact ⟨isTime, fun _ => Calendar.isPlain_of_stamp? reaches stamped⟩
  · exact word (by decide) protocol
  · exact isPlain_optional (ip (by decide)) inside
  · exact isPlain_optional (ip (by decide)) inside
  · exact number (by decide) _
  · exact number (by decide) _
  · exact isPlain_optional (mac (by decide)) inside
  · exact isPlain_optional (mac (by decide)) inside
  · exact isPlain_optional (fun _ => number (by decide) _) inside
  · exact number (by decide) _
  · exact number (by decide) _
  · exact isPlain_optional
      (fun _ => word (by decide) fun _ => TcpFlags.isPlain_of_mem_text) inside

theorem fields_congr (alike : p.ShownAlike q) : fields s p = fields s q := by
  have protocol : p.protocolName = q.protocolName := by
    rw [Packet.protocolName, Packet.protocolName, alike.protocol]
  rw [fields, fields, protocol, alike.srcIp, alike.dstIp, alike.srcPort, alike.dstPort,
    alike.srcMac, alike.dstMac, alike.vlan, alike.length, alike.payloadLength, alike.tcpFlags]

/-! ## Lines -/

theorem exists_stamp? {t : Duration} (reaches : Calendar.Reaches t) :
    ∃ s, Calendar.stamp? t = some s :=
  Option.isSome_iff_exists.mp (Calendar.isSome_stamp? reaches)

theorem line?_of_stamp? (format : LineFormat) (stamped : Calendar.stamp? p.time = some s) :
    line? format p = some (render format (fields s p)) := by
  rw [line?, stamped, Option.map_some]

theorem exists_line? (format : LineFormat) (reaches : Calendar.Reaches p.time) :
    ∃ line, line? format p = some line := by
  obtain ⟨s, stamped⟩ := exists_stamp? reaches
  exact ⟨_, line?_of_stamp? format stamped⟩

/-- **A line tells what it shows of a packet**, in either format. -/
theorem line?_eq_iff (format : LineFormat) (reaches : Calendar.Reaches p.time)
    (reaches' : Calendar.Reaches q.time) :
    line? format p = line? format q ↔ p.ShownAlike q := by
  obtain ⟨s, stamped⟩ := exists_stamp? reaches
  obtain ⟨s', stamped'⟩ := exists_stamp? reaches'
  have some_ (s : String) (p : Packet) : fields s p ≠ [] := by simp [fields]
  have times : s = s' ↔ p.time.millis = q.time.millis := by
    rw [← Calendar.stamp?_eq_iff reaches reaches', stamped, stamped', Option.some_inj]
  rw [line?_of_stamp? format stamped, line?_of_stamp? format stamped', Option.some_inj]
  constructor
  · intro same
    have shown := shownFields_of_render (isPlain_fields reaches stamped)
      (isPlain_fields reaches' stamped') (some_ s p) (some_ s' q) same
    exact shownAlike_of_shownFields shown times.mp
  · intro alike
    rw [times.mpr alike.millis, fields_congr alike]

/-- The characters of a line are ASCII, and none of them breaks it. -/
theorem mem_line? {line : String} (reaches : Calendar.Reaches p.time)
    (written : line? format p = some line) {c : Char} (inside : c ∈ line.toList) :
    31 < c.toNat ∧ c.toNat < 127 := by
  obtain ⟨s, stamped⟩ := exists_stamp? reaches
  have printable {c : Char} (plain : Text.IsPlain c ∨ c = '"') : 31 < c.toNat ∧ c.toNat < 127 := by
    rcases plain with plain | rfl
    · exact ⟨by have := plain.1; omega, plain.2.1⟩
    · decide
  have joined {c : Char} (inside : c ∈ Text.joinWith (separator format)
      ((fields s p).map (piece format))) : 31 < c.toNat ∧ c.toNat < 127 := by
    rcases Text.mem_joinWith inside with rfl | ⟨part, isPart, there⟩
    · cases format <;> decide
    · obtain ⟨f, isField, rfl⟩ := List.mem_map.mp isPart
      exact printable (mem_piece (isPlain_fields reaches stamped f isField) there)
  rw [line?_of_stamp? format stamped, Option.some_inj] at written
  rw [← written, toList_render] at inside
  cases format with
  | json =>
    rcases List.mem_cons.mp inside with rfl | later
    · decide
    · rcases List.mem_append.mp later with there | last
      · exact joined there
      · rw [List.mem_singleton.mp last]
        decide
  | text => exact joined inside

end Metadata

end Wiretap
