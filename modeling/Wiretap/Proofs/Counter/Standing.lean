import Mathlib.Algebra.Ring.Nat
import Mathlib.Data.List.Infix
import Wiretap.Counter.Collector

/-!
# The registrations that stand

A collector reports the meters that its modules registered.  A registration stands until another one
takes over its module or its meter is lost, and a report reads the registrations that stand, in
their order.

## Main definitions

* `Collector.after` - the collector after a history, which begins with nothing.
* `Collector.Registration`, `Collector.registrations`, `Collector.standing` - the registrations of a
  history, told by the history alone, and those of them that stand.
* `Collector.RefersBack` - every step names a meter that there is.

## Main statements

* `Collector.nodup_modules_after` - no two sources are registered under one name.
* `Collector.openSources_after` - the open sources of a registry are the registrations that stand.
* `Collector.report_after` - a report reads the registrations that stand.
* `Collector.mem_standing_of_append` - what stands has stood ever since it was registered.

## Design notes

A registry forgets a closed source when it is used next, and not at once, so its sources are not the
registrations that stand: they are, once the closed ones are left out.  That is the invariant which
every step keeps, since a closed source stays closed.  For this no step may name a meter that is
made later.
-/

namespace Wiretap.Collector

/-! ## Histories -/

/-- The collector after a history. -/
def after (es : List Event) : Collector := (({} : Collector).run es).1

/-- The meter that a step is about. -/
def Event.meter? : Event → Option Nat
  | .register _ source => some source.meter
  | .add meter _ _ => some meter
  | .release meter => some meter
  | .create _ _ | .report => none

/-- The meter that a step makes. -/
def Event.created? : Event → Option Meter
  | .create meter _ => some meter
  | _ => none

/-- Every step of a history names a meter that was made before. -/
def RefersBack (es : List Event) : Prop :=
  ∀ n, ∀ inside : n < es.length, ∀ meter ∈ es[n].meter?,
    meter < (after (es.take n)).meters.length

instance : DecidablePred RefersBack := fun es =>
  inferInstanceAs (Decidable (∀ n, ∀ inside : n < es.length, ∀ meter ∈ es[n].meter?,
    meter < (after (es.take n)).meters.length))

theorem run_append (c : Collector) (es fs : List Event) :
    c.run (es ++ fs) = (((c.run es).1.run fs).1, (c.run es).2 ++ ((c.run es).1.run fs).2) := by
  induction es generalizing c with
  | nil => rfl
  | cons e es ih => simp only [List.cons_append, run, ih]

@[simp] theorem length_run (c : Collector) (es : List Event) : (c.run es).2.length = es.length := by
  induction es generalizing c with
  | nil => rfl
  | cons e es ih => simp [run, ih]

theorem after_append_singleton (es : List Event) (e : Event) :
    after (es ++ [e]) = ((after es).step e).1 := by
  rw [after, run_append]
  rfl

/-- A history refers back as long as each of its steps does. -/
theorem refersBack_append_singleton {es : List Event} {e : Event} (back : RefersBack (es ++ [e])) :
    RefersBack es ∧ ∀ meter ∈ e.meter?, meter < (after es).meters.length := by
  constructor
  · intro n inside meter names
    have := back n (by simp; omega) meter (by rwa [List.getElem_append_left inside])
    rwa [List.take_append_of_le_length (Nat.le_of_lt inside)] at this
  · intro meter names
    have := back es.length (by simp) meter (by rwa [List.getElem_concat_length rfl])
    rwa [List.take_left] at this

/-! ## Registrations -/

/-- A registration in a history: the step at which it was made, the module and the source. -/
structure Registration where
  step : Nat
  module : String
  source : MeterSource
deriving DecidableEq, Repr

/-- A registration as it is kept in a registry. -/
def Registration.entry (r : Registration) : String × MeterSource := (r.module, r.source)

/-- The registrations of a history, in their order. -/
def registrations (es : List Event) : List Registration :=
  es.zipIdx.filterMap fun
    | (.register module source, step) => some ⟨step, module, source⟩
    | _ => none

/-- Whether a later registration in a history has taken over the module. -/
def isReplaced (es : List Event) (r : Registration) : Bool :=
  (registrations es).any fun later => decide (r.step < later.step) && later.module == r.module

/-- Whether a registration is the last of its module in a history, and has not lost its meter. -/
def stands (es : List Event) (r : Registration) : Bool :=
  !isReplaced es r && !(after es).isClosed r.source

/-- The registrations of a history that stand. -/
def standing (es : List Event) : List Registration := (registrations es).filter (stands es)

/-- The registration that a step makes, as the step of this number. -/
def made (step : Nat) : Event → List Registration
  | .register module source => [⟨step, module, source⟩]
  | _ => []

theorem registrations_append_singleton (es : List Event) (e : Event) :
    registrations (es ++ [e]) = registrations es ++ made es.length e := by
  rw [registrations, List.zipIdx_append, List.filterMap_append]
  cases e <;> simp [made, registrations]

/-- A registration stays in the history. -/
theorem mem_registrations_append {past : List Event} {r : Registration}
    (registered : r ∈ registrations past) (future : List Event) :
    r ∈ registrations (past ++ future) := by
  rw [registrations, List.zipIdx_append, List.filterMap_append]
  exact List.mem_append_left _ registered

theorem step_lt_of_mem {es : List Event} {r : Registration} (member : r ∈ registrations es) :
    r.step < es.length := by
  induction es using List.reverseRecOn with
  | nil => simp [registrations] at member
  | append_singleton es e ih =>
    rw [List.length_append, List.length_singleton]
    rw [registrations_append_singleton, List.mem_append] at member
    rcases member with old | new
    · exact Nat.lt_succ_of_lt (ih old)
    · cases e <;> simp_all [made]

/-- A registration is replaced by one that was made before, or by a new one of its module. -/
theorem isReplaced_append_singleton {es : List Event} {r : Registration}
    (member : r ∈ registrations es) (e : Event) :
    isReplaced (es ++ [e]) r =
      (isReplaced es r || (made es.length e).any fun new => new.module == r.module) := by
  have earlier := step_lt_of_mem member
  rw [isReplaced, registrations_append_singleton, List.any_append]
  congr 1
  cases e <;> simp [made, earlier]

/-- A registration that has just been made is not replaced. -/
theorem isReplaced_made (es : List Event) (module : String) (source : MeterSource) :
    isReplaced (es ++ [.register module source]) ⟨es.length, module, source⟩ = false := by
  rw [isReplaced, registrations_append_singleton, List.any_append, Bool.or_eq_false_iff,
    List.any_eq_false]
  constructor
  · intro r member
    have earlier := step_lt_of_mem member
    simp only [Bool.and_eq_true, decide_eq_true_eq, not_and]
    omega
  · simp [made]

/-! ## Meters that are held -/

/-- Reading a meter leaves it to those who hold it. -/
theorem held_readMeter (meters : List (Meter × Bool)) (s : MeterSource) :
    (readMeter meters s).1.map (·.2) = meters.map (·.2) := by
  unfold readMeter
  split
  · next m held here =>
    have there : (meters.map (·.2))[s.meter]? = some held := by rw [List.getElem?_map, here]; rfl
    obtain ⟨inside, same⟩ := List.getElem?_eq_some_iff.mp there
    rw [List.map_set, ← same, List.set_getElem_self]
  · rfl

theorem held_readAll (meters : List (Meter × Bool)) (sources : List (String × MeterSource)) :
    (Registry.readAll readMeter meters sources).1.map (·.2) = meters.map (·.2) := by
  induction sources generalizing meters with
  | nil => rfl
  | cons s rest ih =>
    rw [Registry.readAll]
    exact (ih _).trans (held_readMeter meters s.2)

theorem isHeld_eq (c : Collector) (meter : Nat) :
    c.isHeld meter = ((c.meters.map (·.2))[meter]?).getD false := by
  rw [isHeld, List.getElem?_map]

/-- A change of one meter that only drops it makes no meter held. -/
theorem isHeld_of_modify {c : Collector} {meter other : Nat} {change : Meter × Bool → Meter × Bool}
    (drops : ∀ m, (change m).2 = true → m.2 = true)
    (held : isHeld { c with meters := c.meters.modify other change } meter = true) :
    c.isHeld meter = true := by
  rw [isHeld, List.getElem?_modify] at held
  rw [isHeld]
  cases here : c.meters[meter]? with
  | none => simp [here] at held
  | some m =>
    rw [here, Option.map_eq_map, Option.map_some] at held
    by_cases same : other = meter
    · rw [if_pos same] at held
      exact drops m held
    · rw [if_neg same] at held
      exact held

/-- A meter that is held after a step was held before it, if there was one. -/
theorem isHeld_of_step {c : Collector} {meter : Nat} (there : meter < c.meters.length) {e : Event}
    (held : (c.step e).1.isHeld meter = true) : c.isHeld meter = true := by
  cases e with
  | create m h =>
    rw [isHeld] at held ⊢
    rwa [step, create, List.getElem?_append_left there] at held
  | register module source => exact held
  | add other name n =>
    have drops (m : Meter × Bool) (kept : (m.1.add name n, m.2).2 = true) : m.2 = true := kept
    exact isHeld_of_modify drops held
  | release other =>
    have drops (m : Meter × Bool) (kept : (m.1, false).2 = true) : m.2 = true := by cases kept
    exact isHeld_of_modify drops held
  | report =>
    rw [isHeld_eq] at held ⊢
    rwa [step, report, held_readAll] at held

/-- **A closed source stays closed.** -/
theorem isClosed_step {c : Collector} {s : MeterSource} (there : s.meter < c.meters.length)
    (closed : c.isClosed s = true) (e : Event) : (c.step e).1.isClosed s = true := by
  rw [isClosed, Bool.and_eq_true, Bool.not_eq_true', Bool.not_eq_true'] at closed ⊢
  refine ⟨closed.1, ?_⟩
  by_contra held
  exact absurd (isHeld_of_step there (Bool.not_eq_false _ ▸ held)) (by simp [closed.2])

/-- A step makes one meter at most, and takes none away. -/
theorem length_meters_step (c : Collector) (e : Event) :
    (c.step e).1.meters.length = c.meters.length + e.created?.toList.length := by
  cases e with
  | create m h => simp [step, create, Event.created?]
  | register module source => rfl
  | add meter name n => simp [step, add, Event.created?]
  | release meter => simp [step, release, Event.created?]
  | report =>
    have same := congrArg List.length (held_readAll c.meters (c.registry.retain c.isClosed).sources)
    rw [List.length_map, List.length_map] at same
    exact same

/-- The meters of registrations are there. -/
theorem meter_lt_of_mem {es : List Event} (back : RefersBack es) {r : Registration}
    (member : r ∈ registrations es) : r.source.meter < (after es).meters.length := by
  induction es using List.reverseRecOn with
  | nil => simp [registrations] at member
  | append_singleton es e ih =>
    obtain ⟨back, names⟩ := refersBack_append_singleton back
    rw [after_append_singleton]
    rw [length_meters_step]
    refine Nat.lt_add_right _ ?_
    rw [registrations_append_singleton, List.mem_append] at member
    rcases member with old | new
    · exact ih back old
    · cases e <;> simp_all [made, Event.meter?]

/-! ## The registry -/

/-- **No two sources are registered under one name.** -/
theorem nodup_modules_after (es : List Event) : (after es).registry.modules.Nodup := by
  induction es using List.reverseRecOn with
  | nil => exact List.nodup_nil
  | append_singleton es e ih =>
    rw [after_append_singleton]
    cases e with
    | create m h => exact ih
    | register module source => exact Registry.nodup_modules_register ih _ module source
    | add meter name n => exact ih
    | release meter => exact ih
    | report => exact ih.sublist (List.filter_sublist.map _)

/-- What stands after a step that registers nothing has not lost its meter by it. -/
theorem standing_append_of_made {es : List Event} (back : RefersBack es) {e : Event}
    (silent : made es.length e = []) :
    standing (es ++ [e]) =
      (standing es).filter fun r => !((after es).step e).1.isClosed r.source := by
  rw [standing, registrations_append_singleton, silent, List.append_nil, standing,
    List.filter_filter]
  refine List.filter_congr fun r member => ?_
  have there := meter_lt_of_mem back member
  rw [stands, stands, isReplaced_append_singleton member, silent, after_append_singleton]
  cases closed : (after es).isClosed r.source with
  | false => simp [Bool.and_comm]
  | true => simp [isClosed_step there closed e]

/-- What stands after a registration. -/
theorem standing_append_register (es : List Event) (module : String) (source : MeterSource) :
    standing (es ++ [.register module source]) =
      (standing es).filter (fun r => r.module ≠ module) ++
        [⟨es.length, module, source⟩].filter fun r => !(after es).isClosed r.source := by
  have same (s : MeterSource) : (after (es ++ [.register module source])).isClosed s =
      (after es).isClosed s := by
    rw [after_append_singleton]
    rfl
  rw [standing, registrations_append_singleton, made, List.filter_append, standing,
    List.filter_filter]
  congr 1
  · refine List.filter_congr fun r member => ?_
    rw [stands, stands, isReplaced_append_singleton member, same, made]
    by_cases taken : r.module = module
    · simp [taken]
    · have other : (module == r.module) = false := beq_false_of_ne (Ne.symm taken)
      simp [taken, other]
  · refine List.filter_congr fun r member => ?_
    obtain rfl := List.mem_singleton.mp member
    rw [stands, isReplaced_made, same]
    simp

/-- The sources of a registry come from registrations. -/
theorem mem_sources_after {es : List Event} {s : String × MeterSource}
    (member : s ∈ (after es).registry.sources) : ∃ r ∈ registrations es, r.entry = s := by
  induction es using List.reverseRecOn with
  | nil => simp [after, run] at member
  | append_singleton es e ih =>
    rw [after_append_singleton] at member
    rw [registrations_append_singleton]
    have kept (old : s ∈ (after es).registry.sources) :
        ∃ r ∈ registrations es ++ made es.length e, r.entry = s := by
      obtain ⟨r, there, same⟩ := ih old
      exact ⟨r, List.mem_append_left _ there, same⟩
    cases e with
    | create m h => exact kept member
    | register module source =>
      rcases List.mem_append.mp member with old | new
      · exact kept (List.mem_of_mem_filter old)
      · have last : ⟨es.length, module, source⟩ ∈ made es.length (.register module source) :=
          List.mem_singleton_self _
        exact ⟨_, List.mem_append_right _ last, (List.mem_singleton.mp new).symm⟩
    | add meter name n => exact kept member
    | release meter => exact kept member
    | report => exact kept (List.mem_of_mem_filter member)

/-- The sources of a registry that are not closed. -/
def openSources (c : Collector) : List (String × MeterSource) :=
  c.registry.sources.filter fun s => !c.isClosed s.2

/-- A step that registers nothing closes sources, and opens none. -/
theorem openSources_step {c : Collector}
    (there : ∀ s ∈ c.registry.sources, s.2.meter < c.meters.length) {e : Event}
    (silent : ∀ n, made n e = []) :
    (c.step e).1.openSources = c.openSources.filter fun s => !(c.step e).1.isClosed s.2 := by
  have closing : c.registry.sources.filter (fun s => !(c.step e).1.isClosed s.2) =
      c.openSources.filter fun s => !(c.step e).1.isClosed s.2 := by
    rw [openSources, List.filter_filter]
    refine List.filter_congr fun s member => ?_
    cases closed : c.isClosed s.2 with
    | false => simp
    | true => simp [isClosed_step (there s member) closed e]
  cases e with
  | register module source => cases silent 0
  | create m h => exact closing
  | add meter name n => exact closing
  | release meter => exact closing
  | report => rfl

/-- **The open sources of a registry are the registrations that stand.** -/
theorem openSources_after {es : List Event} (back : RefersBack es) :
    (after es).openSources = (standing es).map Registration.entry := by
  induction es using List.reverseRecOn with
  | nil => rfl
  | append_singleton es e ih =>
    obtain ⟨past, -⟩ := refersBack_append_singleton back
    have there : ∀ s ∈ (after es).registry.sources, s.2.meter < (after es).meters.length := by
      intro s member
      obtain ⟨r, registered, rfl⟩ := mem_sources_after member
      exact meter_lt_of_mem past registered
    have other (silent : ∀ n, made n e = []) :
        (after (es ++ [e])).openSources = (standing (es ++ [e])).map Registration.entry := by
      rw [after_append_singleton, openSources_step there silent, ih past,
        standing_append_of_made past (silent _), List.filter_map]
      rfl
    cases e with
    | create m h => exact other fun _ => rfl
    | add meter name n => exact other fun _ => rfl
    | release meter => exact other fun _ => rfl
    | report => exact other fun _ => rfl
    | register module source =>
      have old : ((standing es).filter fun r => r.module ≠ module).map Registration.entry =
          (after es).openSources.filter fun s => s.1 ≠ module := by
        rw [ih past, List.filter_map]
        rfl
      have sources : ((after es).step (.register module source)).1.registry.sources =
          ((after es).registry.sources.filter fun s =>
            !(after es).isClosed s.2 && s.1 ≠ module) ++ [(module, source)] := rfl
      have same :
          ((after es).step (.register module source)).1.isClosed = (after es).isClosed := rfl
      rw [after_append_singleton, standing_append_register, List.map_append, old, openSources,
        sources, same, List.filter_append, openSources, List.filter_filter, List.filter_filter]
      congr 1
      · refine List.filter_congr fun s _ => ?_
        cases (after es).isClosed s.2 <;> simp
      · cases closed : (after es).isClosed source <;> simp [closed, Registration.entry]

/-! ## Reports -/

/-- **A report reads the registrations that stand.** -/
theorem report_after {es : List Event} (back : RefersBack es) :
    (after es).report.2 =
      (Registry.readAll readMeter (after es).meters ((standing es).map Registration.entry)).2 := by
  rw [← openSources_after back]
  rfl

/-- No two registrations that stand are of one module. -/
theorem nodup_modules_standing {es : List Event} (back : RefersBack es) :
    ((standing es).map (·.module)).Nodup := by
  have entries : (standing es).map (·.module) =
      ((standing es).map Registration.entry).map (·.1) := by
    rw [List.map_map]
    rfl
  rw [entries, ← openSources_after back]
  exact (nodup_modules_after es).sublist (List.filter_sublist.map _)

/-- What stands after a step stood before it, unless the step has registered it. -/
theorem mem_standing_of_append_singleton {es : List Event} {e : Event}
    (back : RefersBack (es ++ [e])) {r : Registration} (registered : r ∈ registrations es)
    (stays : r ∈ standing (es ++ [e])) : r ∈ standing es := by
  obtain ⟨past, -⟩ := refersBack_append_singleton back
  have other (silent : made es.length e = []) : r ∈ standing es := by
    rw [standing_append_of_made past silent] at stays
    exact List.mem_of_mem_filter stays
  cases e with
  | create m h => exact other rfl
  | add meter name n => exact other rfl
  | release meter => exact other rfl
  | report => exact other rfl
  | register module source =>
    rw [standing_append_register, List.mem_append] at stays
    rcases stays with old | new
    · exact List.mem_of_mem_filter old
    · obtain rfl := List.mem_singleton.mp (List.mem_of_mem_filter new)
      exact absurd (step_lt_of_mem registered) (Nat.lt_irrefl _)

theorem refersBack_of_append {past future : List Event} (back : RefersBack (past ++ future)) :
    RefersBack past := by
  induction future using List.reverseRecOn with
  | nil => rwa [List.append_nil] at back
  | append_singleton future e ih =>
    rw [← List.append_assoc] at back
    exact ih (refersBack_append_singleton back).1

/-- **What stands has stood ever since it was registered.** -/
theorem mem_standing_of_append {past future : List Event} (back : RefersBack (past ++ future))
    {r : Registration} (registered : r ∈ registrations past)
    (stays : r ∈ standing (past ++ future)) : r ∈ standing past := by
  induction future using List.reverseRecOn with
  | nil => rwa [List.append_nil] at stays
  | append_singleton future e ih =>
    rw [← List.append_assoc] at back stays
    have known := mem_registrations_append registered future
    exact ih (refersBack_append_singleton back).1
      (mem_standing_of_append_singleton back known stays)

end Wiretap.Collector
