import Mathlib.Data.List.Basic
import Mathlib.Data.List.TakeWhile
import Wiretap.Address.Ip
import Wiretap.Mac
import Wiretap.Proofs.Bytes
import Wiretap.Proofs.Text.Numeral

/-!
# Addresses told by their texts

Two addresses with the same text are the same, for hardware addresses and for those of the internet
in both versions.

## Main definitions

* `Ipv6Addr.written` - the groups of an address as they are written.
* `Ipv6Addr.shortParts` - the parts of an address in which zeros are left out.

## Main statements

* `Mac.text_injective`, `IpAddr.text_injective` - the texts tell the addresses.
* `Ipv6Addr.longestZeros_spec` - what is left out is a run of zeros.
* `Ipv6Addr.chars_cases` - an address is written with all its groups, or without such a run.

## Design notes

Where zeros are left out, a part between colons is empty, and no group is written as nothing.  The
parts up to the first empty one and those behind the last one are the groups that were written, and
how many are missing is known.  An address that maps an older one is the only one with dots.
-/

namespace Wiretap

open Text (joinWith splitAt digits IsPlain)

/-! ## Hardware addresses -/

namespace Mac

theorem notMem_hexByte (b : UInt8) : ':' ∉ Text.hexByte b := fun inside => by
  have digit := Text.mem_digits_of_hexByte inside
  exact absurd digit (by decide)

/-- Between the colons of its text are the digits of each byte. -/
theorem splitAt_chars (m : Mac) : splitAt ':' m.chars = m.octets.map Text.hexByte := by
  refine Text.splitAt_joinWith (by simp [octets]) fun part inside => ?_
  obtain ⟨b, -, rfl⟩ := List.mem_map.mp inside
  exact notMem_hexByte b

/-- The text of a hardware address tells it. -/
theorem chars_injective : Function.Injective chars := by
  intro m m' same
  have parts := congrArg (splitAt ':') same
  rw [splitAt_chars, splitAt_chars] at parts
  have octets : m.octets = m'.octets :=
    List.map_injective_iff.mpr (fun _ _ => Text.hexByte_inj) parts
  have read := congrArg ofBytes? octets
  rwa [ofBytes?_octets, ofBytes?_octets, Option.some_inj] at read

theorem text_injective : Function.Injective text := fun _ _ same =>
  chars_injective (String.ofList_inj.mp same)

theorem mem_chars {m : Mac} {c : Char} (inside : c ∈ m.chars) : c = ':' ∨ c ∈ digits := by
  rcases Text.mem_joinWith inside with colon | ⟨part, isPart, there⟩
  · exact Or.inl colon
  · obtain ⟨b, -, rfl⟩ := List.mem_map.mp isPart
    exact Or.inr (Text.mem_digits_of_hexByte there)

theorem isPlain_of_mem_chars {m : Mac} {c : Char} (inside : c ∈ m.chars) : IsPlain c := by
  rcases mem_chars inside with rfl | digit
  · decide
  · exact Text.isPlain_of_mem_digits digit

end Mac

/-! ## Internet addresses, version 4 -/

namespace Ipv4Addr

theorem mem_chars {x : Ipv4Addr} {c : Char} (inside : c ∈ x.chars) : c = '.' ∨ c ∈ digits := by
  rcases Text.mem_joinWith inside with rfl | ⟨part, isPart, there⟩
  · exact Or.inl rfl
  · obtain ⟨b, -, rfl⟩ := List.mem_map.mp isPart
    exact Or.inr (Text.mem_digits_of_decimal there)

theorem chars_injective : Function.Injective chars := by
  intro x y same
  have without (x : Ipv4Addr) :
      ∀ part ∈ x.octets.map fun octet => Text.decimal octet.toNat, '.' ∉ part := by
    rintro part inside dot
    obtain ⟨b, -, rfl⟩ := List.mem_map.mp inside
    exact absurd (Text.mem_digits_of_decimal dot) (by decide)
  have parts := (Text.joinWith_inj (by simp [octets]) (by simp [octets]) (without x)
    (without y)).mp same
  have octets : x.octets = y.octets := by
    refine List.map_injective_iff.mpr (fun b b' alike => ?_) parts
    exact UInt8.toNat_inj.mp ((Text.toDigits_inj (by decide) (by decide)).mp alike)
  have read := congrArg ofBytes? octets
  rwa [ofBytes?_octets, ofBytes?_octets, Option.some_inj] at read

theorem dot_mem_chars (x : Ipv4Addr) : '.' ∈ x.chars := by
  simp [chars, octets, joinWith]

end Ipv4Addr

/-! ## Internet addresses, version 6 -/

namespace Ipv6Addr

variable {x y : Ipv6Addr} {gs gs' : List UInt16}

/-- The groups as they are written. -/
def written (gs : List UInt16) : List (List Char) :=
  gs.map fun group => Text.hexadecimal group.toNat

theorem written_injective : Function.Injective written :=
  List.map_injective_iff.mpr fun _ _ alike =>
    UInt16.toNat_inj.mp ((Text.toDigits_inj (by decide) (by decide)).mp alike)

theorem ne_nil_of_written {part : List Char} (inside : part ∈ written gs) : part ≠ [] := by
  obtain ⟨group, -, rfl⟩ := List.mem_map.mp inside
  exact Nat.toDigits_ne_nil

theorem mem_digits_of_written {part : List Char} (inside : part ∈ written gs) {c : Char}
    (there : c ∈ part) : c ∈ digits := by
  obtain ⟨group, -, rfl⟩ := List.mem_map.mp inside
  exact Text.mem_digits_of_hexadecimal there

theorem colon_notMem_written {part : List Char} (inside : part ∈ written gs) : ':' ∉ part :=
  fun colon => absurd (mem_digits_of_written inside colon) (by decide)

/-- What was found as a run of zeros is one. -/
theorem longestZeros_spec (start : Nat) (gs : List UInt16) :
    ∃ before after, gs = before ++ List.replicate (longestZeros start gs).2 0 ++ after ∧
      ((longestZeros start gs).2 ≠ 0 →
        (longestZeros start gs).1 = start + before.length) := by
  induction gs generalizing start with
  | nil => exact ⟨[], [], rfl, fun never => absurd rfl never⟩
  | cons group rest ih =>
    rw [longestZeros]
    split
    · next longer =>
      obtain ⟨before, after, split_, place⟩ := ih (start + 1)
      refine ⟨group :: before, after, congrArg (group :: ·) split_, fun some_ => ?_⟩
      rw [place some_, List.length_cons]
      omega
    · refine ⟨[], (group :: rest).dropWhile (· == 0), ?_, fun _ => rfl⟩
      have zeros : (group :: rest).takeWhile (· == 0) =
          List.replicate (leadingZeros (group :: rest)) 0 := by
        refine List.eq_replicate_of_mem fun g inside => ?_
        simpa using List.mem_takeWhile_imp inside
      rw [List.nil_append, ← zeros, List.takeWhile_append_dropWhile]

/-- The parts of groups between colons, an empty one where there are no groups. -/
def sideParts (gs : List UInt16) : List (List Char) := if gs = [] then [[]] else written gs

theorem joined_eq (gs : List UInt16) : joined gs = joinWith ':' (sideParts gs) := by
  unfold sideParts
  split
  · next empty => rw [empty]; rfl
  · rfl

theorem sideParts_ne_nil (gs : List UInt16) : sideParts gs ≠ [] := by
  unfold sideParts
  split
  · exact List.cons_ne_nil _ _
  · next some_ => simpa [written] using some_

theorem colon_notMem_sideParts {part : List Char} (inside : part ∈ sideParts gs) : ':' ∉ part := by
  unfold sideParts at inside
  split at inside
  · simp [List.mem_singleton.mp inside]
  · exact colon_notMem_written inside

/-- The groups of a side are its parts up to the first empty one. -/
theorem takeWhile_sideParts (gs : List UInt16) (parts : List (List Char)) :
    (sideParts gs ++ [] :: parts).takeWhile (· ≠ []) = written gs := by
  unfold sideParts
  split
  · next empty => simp [empty, written]
  · rw [List.takeWhile_append_of_pos fun part inside => by simpa using ne_nil_of_written inside]
    simp

theorem takeWhile_reverse_sideParts (gs : List UInt16) (parts : List (List Char)) :
    ((sideParts gs).reverse ++ [] :: parts).takeWhile (· ≠ []) = (written gs).reverse := by
  unfold sideParts
  split
  · next empty => simp [empty, written]
  · rw [List.takeWhile_append_of_pos fun part inside => by
      simpa using ne_nil_of_written (List.mem_reverse.mp inside)]
    simp

/-- The parts of an address in which zeros are left out. -/
def shortParts (before after : List UInt16) : List (List Char) :=
  sideParts before ++ [] :: sideParts after

theorem shortParts_inj {before after before' after' : List UInt16}
    (same : shortParts before after = shortParts before' after') :
    before = before' ∧ after = after' := by
  constructor
  · have front := congrArg (List.takeWhile (· ≠ [])) same
    rw [shortParts, shortParts, takeWhile_sideParts, takeWhile_sideParts] at front
    exact written_injective front
  · have back := congrArg (fun parts => parts.reverse.takeWhile (· ≠ [])) same
    simp only [shortParts, List.reverse_append, List.reverse_cons, List.append_assoc,
      List.singleton_append, takeWhile_reverse_sideParts, List.reverse_inj] at back
    exact written_injective back

theorem splitAt_written (some_ : gs ≠ []) : splitAt ':' (joinWith ':' (written gs)) = written gs :=
  Text.splitAt_joinWith (by simpa [written] using some_) fun _ => colon_notMem_written

theorem splitAt_shortParts (before after : List UInt16) :
    splitAt ':' (joinWith ':' (shortParts before after)) = shortParts before after := by
  refine Text.splitAt_joinWith (List.append_ne_nil_of_left_ne_nil (sideParts_ne_nil _) _)
    fun part inside => ?_
  rcases List.mem_append.mp inside with front | middle
  · exact colon_notMem_sideParts front
  · rcases List.mem_cons.mp middle with rfl | back
    · exact List.not_mem_nil
    · exact colon_notMem_sideParts back

/-- An address that maps no older one is written with all groups, or without a run of zeros. -/
theorem chars_cases (noInner : x.mapped? = none) :
    x.chars = joinWith ':' (written x.groups) ∨ ∃ before after,
      x.groups = before ++ List.replicate (8 - before.length - after.length) 0 ++ after ∧
        x.chars = joinWith ':' (shortParts before after) := by
  obtain ⟨before, after, split_, place⟩ := longestZeros_spec 0 x.groups
  unfold chars
  rw [noInner]
  simp only
  split
  · next long =>
    right
    have length : x.groups.length = 8 := rfl
    have front : (longestZeros 0 x.groups).1 = before.length := by
      rw [place (by omega), Nat.zero_add]
    have run : (longestZeros 0 x.groups).2 = 8 - before.length - after.length := by
      rw [split_] at length
      simp only [List.length_append, List.length_replicate] at length
      omega
    refine ⟨before, after, run ▸ split_, ?_⟩
    have some_ := sideParts_ne_nil after
    generalize (longestZeros 0 x.groups).2 = count at split_ long front run ⊢
    have taken : x.groups.take before.length = before := by
      rw [split_, List.append_assoc, List.take_left]
    have dropped : x.groups.drop (before.length + count) = after := by
      have shown : (before ++ List.replicate count (0 : UInt16)).length =
          before.length + count := by simp
      rw [← shown, split_, List.drop_left]
    rw [front, taken, dropped, joined_eq, joined_eq, shortParts,
      Text.joinWith_append (sideParts_ne_nil before) (List.cons_ne_nil _ _),
      Text.joinWith_cons [] some_, List.append_assoc]
    rfl
  · exact Or.inl rfl

theorem eq_of_groups (same : x.groups = y.groups) : x = y := by
  have read := congrArg ofGroups? same
  rwa [ofGroups?_groups, ofGroups?_groups, Option.some_inj] at read

/-- The text tells an address among those that map no older one. -/
theorem eq_of_chars (noInner : x.mapped? = none) (noInner' : y.mapped? = none)
    (same : x.chars = y.chars) : x = y := by
  have full (x : Ipv6Addr) : x.groups ≠ [] := List.cons_ne_nil _ _
  have parts := congrArg (splitAt ':') same
  -- Zeros that were left out leave an empty part, and no group is written as one.
  have apart (gs before after : List UInt16) : written gs ≠ shortParts before after := by
    intro same
    have empty : [] ∈ written gs := same ▸ List.mem_append_right _ List.mem_cons_self
    exact ne_nil_of_written empty rfl
  rcases chars_cases noInner with long | ⟨before, after, groups, short⟩ <;>
    rcases chars_cases noInner' with long' | ⟨before', after', groups', short'⟩
  · rw [long, long', splitAt_written (full x), splitAt_written (full y)] at parts
    exact eq_of_groups (written_injective parts)
  · rw [long, short', splitAt_written (full x), splitAt_shortParts] at parts
    exact absurd parts (apart _ _ _)
  · rw [short, long', splitAt_written (full y), splitAt_shortParts] at parts
    exact absurd parts.symm (apart _ _ _)
  · rw [short, short', splitAt_shortParts, splitAt_shortParts] at parts
    obtain ⟨rfl, rfl⟩ := shortParts_inj parts
    exact eq_of_groups (groups.trans groups'.symm)

theorem groups_of_mapped? {inner : Ipv4Addr} (maps : x.mapped? = some inner) :
    ∃ hi lo, x.groups = [0, 0, 0, 0, 0, 0xffff, hi, lo] ∧
      inner.octets = Bytes.be16 hi ++ Bytes.be16 lo := by
  unfold mapped? at maps
  split at maps
  · next hi lo groups =>
    refine ⟨hi, lo, groups, ?_⟩
    cases maps
    rfl
  · cases maps

theorem chars_of_mapped? {inner : Ipv4Addr} (maps : x.mapped? = some inner) :
    x.chars = "::ffff:".toList ++ inner.chars := by
  rw [chars, maps]

theorem mem_chars {c : Char} (noInner : x.mapped? = none) (inside : c ∈ x.chars) :
    c = ':' ∨ c ∈ digits := by
  have inSide {gs : List UInt16} {part : List Char} (isPart : part ∈ sideParts gs)
      (there : c ∈ part) : c ∈ digits := by
    unfold sideParts at isPart
    split at isPart
    · rw [List.mem_singleton.mp isPart] at there
      cases there
    · exact mem_digits_of_written isPart there
  rcases chars_cases noInner with long | ⟨before, after, -, short⟩
  · rw [long] at inside
    rcases Text.mem_joinWith inside with colon | ⟨part, isPart, there⟩
    · exact Or.inl colon
    · exact Or.inr (mem_digits_of_written isPart there)
  · rw [short] at inside
    rcases Text.mem_joinWith inside with colon | ⟨part, isPart, there⟩
    · exact Or.inl colon
    · rcases List.mem_append.mp isPart with front | middle
      · exact Or.inr (inSide front there)
      · rcases List.mem_cons.mp middle with rfl | back
        · cases there
        · exact Or.inr (inSide back there)

theorem be16_append_inj {hi lo hi' lo' : UInt16}
    (same : Bytes.be16 hi ++ Bytes.be16 lo = Bytes.be16 hi' ++ Bytes.be16 lo') :
    hi = hi' ∧ lo = lo' := by
  have read (hi lo : UInt16) : Bytes.be16At? (Bytes.be16 hi ++ Bytes.be16 lo) 0 = some hi ∧
      Bytes.be16At? (Bytes.be16 hi ++ Bytes.be16 lo) 2 = some lo :=
    ⟨Bytes.be16At?_of_drop rfl, Bytes.be16At?_of_drop (List.append_nil _).symm⟩
  have front := (read hi lo).1
  have back := (read hi lo).2
  rw [same, (read hi' lo').1, Option.some_inj] at front
  rw [same, (read hi' lo').2, Option.some_inj] at back
  exact ⟨front.symm, back.symm⟩

/-- The text of an address tells it. -/
theorem chars_injective : Function.Injective chars := by
  intro x y same
  have dotted {x y : Ipv6Addr} {inner : Ipv4Addr} (maps : x.mapped? = some inner)
      (noInner : y.mapped? = none) : x.chars ≠ y.chars := by
    intro same
    have dot : '.' ∈ y.chars := by
      rw [← same, chars_of_mapped? maps]
      exact List.mem_append_right _ inner.dot_mem_chars
    rcases mem_chars noInner dot with colon | digit
    · exact absurd colon (by decide)
    · exact absurd digit (by decide)
  -- Only the text of an address that maps an older one has dots.
  cases maps : x.mapped? with
  | none =>
    cases maps' : y.mapped? with
    | none => exact eq_of_chars maps maps' same
    | some inner' => exact absurd same.symm (dotted maps' maps)
  | some inner =>
    cases maps' : y.mapped? with
    | none => exact absurd same (dotted maps maps')
    | some inner' =>
      rw [chars_of_mapped? maps, chars_of_mapped? maps', List.append_cancel_left_eq] at same
      obtain ⟨hi, lo, groups, octets⟩ := groups_of_mapped? maps
      obtain ⟨hi', lo', groups', octets'⟩ := groups_of_mapped? maps'
      rw [Ipv4Addr.chars_injective same, octets'] at octets
      obtain ⟨rfl, rfl⟩ := be16_append_inj octets
      exact eq_of_groups (groups.trans groups'.symm)

theorem colon_mem_chars (x : Ipv6Addr) : ':' ∈ x.chars := by
  cases maps : x.mapped? with
  | none =>
    rcases chars_cases maps with long | ⟨before, after, -, short⟩
    · rw [long, written, groups, List.map_cons, List.map_cons, Text.joinWith_cons _ (by simp)]
      exact List.mem_append_right _ List.mem_cons_self
    · rw [short, shortParts, Text.joinWith_append (sideParts_ne_nil _) (List.cons_ne_nil _ _)]
      exact List.mem_append_right _ List.mem_cons_self
  | some inner =>
    rw [chars_of_mapped? maps]
    exact List.mem_append_left _ (by decide)

end Ipv6Addr

/-! ## Internet addresses -/

namespace IpAddr

/-- The text of an address tells it, and with it its version. -/
theorem text_injective : Function.Injective text := by
  intro x y same
  have chars : x.chars = y.chars := String.ofList_inj.mp same
  have apart (x : Ipv4Addr) (y : Ipv6Addr) : x.chars ≠ y.chars := by
    intro same
    have colon : ':' ∈ x.chars := same ▸ y.colon_mem_chars
    rcases Ipv4Addr.mem_chars colon with dot | digit
    · exact absurd dot (by decide)
    · exact absurd digit (by decide)
  cases x with
  | v4 x =>
    cases y with
    | v4 y => exact congrArg v4 (Ipv4Addr.chars_injective chars)
    | v6 y => exact absurd chars (apart x y)
  | v6 x =>
    cases y with
    | v4 y => exact absurd chars.symm (apart y x)
    | v6 y => exact congrArg v6 (Ipv6Addr.chars_injective chars)

theorem isPlain_of_mem_chars {x : IpAddr} {c : Char} (inside : c ∈ x.chars) : IsPlain c := by
  have four {x : Ipv4Addr} (inside : c ∈ x.chars) : IsPlain c := by
    rcases Ipv4Addr.mem_chars inside with rfl | digit
    · decide
    · exact Text.isPlain_of_mem_digits digit
  cases x with
  | v4 x => exact four inside
  | v6 x =>
    change c ∈ x.chars at inside
    cases maps : x.mapped? with
    | none =>
      rcases Ipv6Addr.mem_chars maps inside with rfl | digit
      · decide
      · exact Text.isPlain_of_mem_digits digit
    | some inner =>
      rw [Ipv6Addr.chars_of_mapped? maps] at inside
      rcases List.mem_append.mp inside with front | back
      · have all : ∀ c ∈ "::ffff:".toList, IsPlain c := List.all_iff_forall_prop.mp (by decide)
        exact all c front
      · exact four back

end IpAddr

end Wiretap
