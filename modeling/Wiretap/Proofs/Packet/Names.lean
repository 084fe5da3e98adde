import Mathlib.Data.List.Nodup
import Wiretap.Packet.IpProtocol
import Wiretap.Packet.TcpFlags
import Wiretap.Proofs.Text.Numeral

/-!
# Names of protocols and flags

The name of a protocol tells it, and so do the letters of the flags of a segment.

## Main definitions

* `IpProtocol.named` - the protocols that have a name of their own.

## Main statements

* `IpProtocol.name_injective`, `IpProtocol.name_ne_empty` - the name of a protocol tells it, and
  that there is one.
* `TcpFlags.mem_text` - a letter is written if its flag is set.
* `TcpFlags.text_injective` - the letters of flags tell them.
-/

namespace Wiretap

open Text (IsPlain)

namespace IpProtocol

/-- The protocols that have a name of their own. -/
def named : List IpProtocol := table.map (·.1)

theorem mem_named_or (p : IpProtocol) : p ∈ named ∨ ∃ n, p = unknown n := by
  cases p with
  | unknown n => exact Or.inr ⟨n, rfl⟩
  | _ => exact Or.inl (by decide)

theorem toList_name_unknown (n : UInt8) :
    (unknown n).name.toList = "Unknown(".toList ++ (Text.decimal n.toNat ++ [')']) := by
  have number : (toString n).toList = Text.decimal n.toNat := Nat.toList_repr
  rw [name, String.toList_append, String.toList_append, number, List.append_assoc]
  rfl

/-- The name of a protocol tells it. -/
theorem name_injective : Function.Injective name := by
  intro p q same
  have apart (p : IpProtocol) (n : UInt8) (isNamed : p ∈ named) : p.name ≠ (unknown n).name := by
    intro same
    have all : ∀ p ∈ named, ¬ "Unknown(".toList <+: p.name.toList := by decide
    exact all p isNamed ⟨_, by rw [same, toList_name_unknown]⟩
  rcases mem_named_or p with isNamed | ⟨n, rfl⟩ <;> rcases mem_named_or q with isNamed' | ⟨m, rfl⟩
  · have all : (named.map name).Nodup := by decide
    exact List.inj_on_of_nodup_map all isNamed isNamed' same
  · exact absurd same (apart p m isNamed)
  · exact absurd same.symm (apart q n isNamed')
  · have texts := congrArg String.toList same
    rw [toList_name_unknown, toList_name_unknown, List.append_cancel_left_eq,
      List.append_cancel_right_eq] at texts
    have number := (Text.toDigits_inj (by decide) (by decide)).mp texts
    rw [UInt8.toNat_inj.mp number]

theorem name_ne_empty (p : IpProtocol) : p.name ≠ "" := by
  rcases mem_named_or p with isNamed | ⟨n, rfl⟩
  · have all : ∀ p ∈ named, p.name ≠ "" := by decide
    exact all p isNamed
  · intro empty
    have texts := congrArg String.toList empty
    rw [toList_name_unknown] at texts
    simp at texts

theorem isPlain_of_mem_name {p : IpProtocol} {c : Char} (inside : c ∈ p.name.toList) :
    IsPlain c := by
  rcases mem_named_or p with isNamed | ⟨n, rfl⟩
  · have all : ∀ p ∈ named, p.name.toList.all fun c => IsPlain c := by decide
    exact List.all_iff_forall_prop.mp (all p isNamed) c inside
  · rw [toList_name_unknown] at inside
    rcases List.mem_append.mp inside with front | middle
    · have all : ∀ c ∈ "Unknown(".toList, IsPlain c := List.all_iff_forall_prop.mp (by decide)
      exact all c front
    · rcases List.mem_append.mp middle with digit | last
      · exact Text.isPlain_of_mem_digits (Text.mem_digits_of_decimal digit)
      · rw [List.mem_singleton.mp last]
        decide

end IpProtocol

namespace TcpFlags

theorem mem_chars {f : TcpFlags} {c : Char} :
    c ∈ f.chars ↔ ∃ i, (i, c) ∈ letters ∧ f.bits.getLsbD i = true := by
  simp only [chars, List.mem_filterMap, Option.ite_none_right_eq_some, Option.some_inj,
    Prod.exists]
  constructor
  · rintro ⟨i, _, isLetter, set, rfl⟩
    exact ⟨i, isLetter, set⟩
  · rintro ⟨i, isLetter, set⟩
    exact ⟨i, c, isLetter, set, rfl⟩

/-- A letter is written if its flag is set. -/
theorem mem_text {f : TcpFlags} {i : Nat} {c : Char} (isLetter : (i, c) ∈ letters) :
    c ∈ f.text.toList ↔ f.bits.getLsbD i = true := by
  -- No letter stands for two flags, and the dash for none.
  have own : ∀ e ∈ letters, ∀ e' ∈ letters, e.2 = e'.2 → e.1 = e'.1 := by decide
  unfold text
  split
  · next none_ =>
    have noDash : ∀ e ∈ letters, e.2 ∉ ['-'] := by decide
    have unset : f.bits.getLsbD i = false := by simp [none_]
    rw [unset]
    exact ⟨fun inside => absurd inside (noDash _ isLetter), fun set => absurd set (by decide)⟩
  · rw [String.toList_ofList, mem_chars]
    constructor
    · rintro ⟨j, isLetter', set⟩
      have same : i = j := own _ isLetter _ isLetter' rfl
      rwa [same]
    · exact fun set => ⟨i, isLetter, set⟩

/-- The letters of flags tell them. -/
theorem text_injective : Function.Injective text := by
  intro f g same
  have bits : f.bits = g.bits := by
    refine BitVec.eq_of_getLsbD_eq fun i below => ?_
    have lettered : ∀ i < 9, ∃ e ∈ letters, e.1 = i := by decide
    obtain ⟨⟨_, c⟩, isLetter, rfl⟩ := lettered i below
    rw [Bool.eq_iff_iff, ← mem_text isLetter, ← mem_text isLetter, same]
  cases f
  exact congrArg mk bits

theorem isPlain_of_mem_text {f : TcpFlags} {c : Char} (inside : c ∈ f.text.toList) :
    IsPlain c := by
  unfold text at inside
  split at inside
  · have all : ∀ c ∈ "-".toList, IsPlain c := List.all_iff_forall_prop.mp (by decide)
    exact all c inside
  · rw [String.toList_ofList, mem_chars] at inside
    obtain ⟨i, isLetter, -⟩ := inside
    have all : ∀ e ∈ letters, IsPlain e.2 := by decide
    exact all _ isLetter

end TcpFlags

end Wiretap
