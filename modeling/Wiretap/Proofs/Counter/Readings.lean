import Mathlib.Data.List.Range
import Wiretap.Proofs.Counter.Standing
import Wiretap.Proofs.Receiver.Counts

/-!
# What readings tell of a meter

Reading a meter of amounts sets it to zero.  While a meter is registered under the name of one
module only, a report has one line for it at most, and the lines of all reports together tell what
was added to it.

## Main definitions

* `Collector.reported`, `Collector.appearances` - what a step of a history reported, and the steps
  that reported a meter.
* `Collector.readings` - all lines of a meter in the reports of a history.
* `Collector.increments` - what was added to an amount of a meter.
* `Collector.KeepsWithin` - an amount of a meter is never more than 64 bits can say.

## Main statements

* `Collector.amount_step` - what a step tells of an amount, and what it leaves to be read.
* `Collector.amount_after` - what was told and what is left are what was added.
* `Collector.reports_are_complete` - modules are registered once, a report has a line for each
  registration that stands, and readings lose nothing of an amount.
* `Collector.readings_lose_overflow` - an amount that passes 2 ^ 64 between two readings is lost.

## Design notes

The amounts here are natural numbers, which a reading shows modulo 2 ^ 64.  So the sum of what is
shown is right modulo 2 ^ 64, and right altogether as long as no amount overflows.
-/

namespace Wiretap

/-! ## Amounts of a meter -/

namespace Meter

/-- The amount of a name in a meter. -/
def amount? (name : String) : Meter → Option Nat
  | steady _ => none
  | tally amounts => (amounts.find? fun a => a.1 = name).map (·.2)

theorem amount?_add (name other : String) (n : Nat) (m : Meter) :
    (m.add other n).amount? name =
      (m.amount? name).map (· + if other = name then n else 0) := by
  cases m with
  | steady counters => rfl
  | tally amounts =>
    simp only [add, amount?, List.find?_map, Option.map_map, Function.comp_def]
    cases found : amounts.find? fun a => a.1 = name with
    | none => rfl
    | some a =>
      have named : a.1 = name := by simpa using List.find?_some found
      subst named
      by_cases same : a.1 = other
      · simp [same]
      · simp [same, Ne.symm same]

/-- Reading an amount shows it and leaves zero. -/
theorem amount?_read {name : String} {m : Meter} {n : Nat} (here : m.amount? name = some n) :
    Counter.shown name m.read.2 = Counter.wrapped n ∧ m.read.1.amount? name = some 0 := by
  cases m with
  | steady counters => cases here
  | tally amounts =>
    obtain ⟨a, found, rfl⟩ := Option.map_eq_some_iff.mp here
    have named : (amounts.find? fun a => (Counter.count a.1 a.2).name = name) = some a := found
    constructor
    · simp only [read, Counter.shown, List.find?_map, Function.comp_def, named]
      rfl
    · simp only [read, amount?, List.find?_map, Function.comp_def, found]
      rfl

end Meter

namespace Collector

/-- The amount of a name in a meter of a collector. -/
def amount? (c : Collector) (meter : Nat) (name : String) : Option Nat :=
  c.meters[meter]?.bind fun m => m.1.amount? name

/-- What a step adds to an amount of a meter. -/
def Event.increment (meter : Nat) (name : String) : Event → Nat
  | .add other counter n => if other = meter ∧ counter = name then n else 0
  | _ => 0

/-- What a history adds to an amount of a meter. -/
def increments (es : List Event) (meter : Nat) (name : String) : Nat :=
  (es.map (Event.increment meter name)).sum

/-- The meters that a history makes. -/
def created (es : List Event) : List Meter := es.filterMap Event.created?

/-- An amount of a meter is never more than 64 bits can say. -/
def KeepsWithin (es : List Event) (meter : Nat) (name : String) : Prop :=
  ∀ n ≤ es.length, ∀ amount ∈ (after (es.take n)).amount? meter name, amount < 2 ^ 64

instance (es : List Event) (meter : Nat) (name : String) : Decidable (KeepsWithin es meter name) :=
  inferInstanceAs (Decidable (∀ n ≤ es.length,
    ∀ amount ∈ (after (es.take n)).amount? meter name, amount < 2 ^ 64))

/-! ## The lines of a meter -/

/-- What a step of a history reported. -/
def reported (es : List Event) (n : Nat) : List (String × List Counter) :=
  ((({} : Collector).run es).2[n]?).getD []

/-- The lines of a meter, where each of the sources has its line. -/
def linesOf (meter : Nat) (sources : List MeterSource) (lines : List (String × List Counter)) :
    List (List Counter) :=
  (sources.zip lines).filterMap fun (s, line) => if s.meter = meter then some line.2 else none

/-- The lines of a meter in what a step of a history reported. -/
def readingsAt (es : List Event) (meter n : Nat) : List (List Counter) :=
  linesOf meter ((standing (es.take n)).map (·.source)) (reported es n)

/-- All lines of a meter in the reports of a history. -/
def readings (es : List Event) (meter : Nat) : List (List Counter) :=
  (List.range es.length).flatMap (readingsAt es meter)

/-- The steps of a history that reported a meter. -/
def appearances (es : List Event) (meter : Nat) : List Nat :=
  (List.range es.length).filter fun n => !(readingsAt es meter n).isEmpty

theorem linesOf_cons (meter : Nat) (s : MeterSource) (sources : List MeterSource)
    (line : String × List Counter) (lines : List (String × List Counter)) :
    linesOf meter (s :: sources) (line :: lines) =
      (if s.meter = meter then [line.2] else []) ++ linesOf meter sources lines := by
  by_cases same : s.meter = meter <;> simp [linesOf, same]

@[simp] theorem linesOf_nil (meter : Nat) (sources : List MeterSource) :
    linesOf meter sources [] = [] := by
  simp [linesOf]

/-- A meter has no line where no source is of it. -/
theorem linesOf_of_notMem {meter : Nat} {sources : List MeterSource}
    (apart : meter ∉ sources.map (·.meter)) (lines : List (String × List Counter)) :
    linesOf meter sources lines = [] := by
  refine List.filterMap_eq_nil_iff.mpr fun x member => if_neg fun same => apart ?_
  exact List.mem_map.mpr ⟨x.1, (List.of_mem_zip member).1, same⟩

/-- What a step reports is told by what was before it. -/
theorem reported_append_left {es : List Event} {n : Nat} (inside : n < es.length)
    (fs : List Event) : reported (es ++ fs) n = reported es n := by
  rw [reported, run_append, List.getElem?_append_left (by rwa [length_run]), reported]

theorem reported_concat (es : List Event) (e : Event) (fs : List Event) :
    reported (es ++ e :: fs) es.length = ((after es).step e).2 := by
  rw [reported, run_append, List.getElem?_append_right (by rw [length_run]), length_run,
    Nat.sub_self]
  rfl

theorem readingsAt_append_left {es : List Event} {n : Nat} (inside : n < es.length)
    (fs : List Event) (meter : Nat) : readingsAt (es ++ fs) meter n = readingsAt es meter n := by
  rw [readingsAt, reported_append_left inside, List.take_append_of_le_length (Nat.le_of_lt inside),
    readingsAt]

/-- What a step tells of a meter is read off the open sources. -/
theorem readingsAt_concat {es : List Event} (back : RefersBack es) (e : Event) (fs : List Event)
    (meter : Nat) :
    readingsAt (es ++ e :: fs) meter es.length =
      linesOf meter ((after es).openSources.map (·.2)) ((after es).step e).2 := by
  have sources : (standing es).map (·.source) = (after es).openSources.map (·.2) := by
    rw [openSources_after back, List.map_map]
    rfl
  rw [readingsAt, reported_concat, List.take_left, sources]

/-- The lines of a longer history are those before and those of the steps after it. -/
theorem readings_append (es fs : List Event) (meter : Nat) :
    readings (es ++ fs) meter =
      readings es meter ++
        (List.range fs.length).flatMap fun n => readingsAt (es ++ fs) meter (es.length + n) := by
  rw [readings, List.length_append, List.range_add, List.flatMap_append, List.flatMap_map, readings]
  congr 1
  refine List.flatMap_congr fun n member => ?_
  exact readingsAt_append_left (List.mem_range.mp member) fs meter

theorem readings_append_singleton {es : List Event} (back : RefersBack es) (e : Event)
    (meter : Nat) :
    readings (es ++ [e]) meter =
      readings es meter ++
        linesOf meter ((after es).openSources.map (·.2)) ((after es).step e).2 := by
  rw [readings_append, ← readingsAt_concat back e [] meter]
  simp

/-! ## Reading all sources -/

theorem getElem?_readMeter_of_ne {s : MeterSource} {meter : Nat} (apart : s.meter ≠ meter)
    (meters : List (Meter × Bool)) : (readMeter meters s).1[meter]? = meters[meter]? := by
  unfold readMeter
  split
  · exact List.getElem?_set_ne apart
  · rfl

/-- Reading other meters leaves a meter alone. -/
theorem getElem?_readAll_of_notMem {meter : Nat} {sources : List (String × MeterSource)}
    (apart : meter ∉ sources.map (·.2.meter)) (meters : List (Meter × Bool)) :
    (Registry.readAll readMeter meters sources).1[meter]? = meters[meter]? := by
  induction sources generalizing meters with
  | nil => rfl
  | cons s rest ih =>
    rw [List.map_cons, List.mem_cons, not_or] at apart
    rw [Registry.readAll]
    exact (ih apart.2 _).trans (getElem?_readMeter_of_ne (Ne.symm apart.1) meters)

/-- A meter that one of the sources is of is read once, and shows what it has. -/
theorem readAll_of_count_eq_one {meter : Nat} {sources : List (String × MeterSource)}
    (once : (sources.map (·.2.meter)).count meter = 1) {meters : List (Meter × Bool)}
    {m : Meter} {held : Bool} (here : meters[meter]? = some (m, held)) :
    linesOf meter (sources.map (·.2)) (Registry.readAll readMeter meters sources).2 =
        [m.read.2] ∧
      (Registry.readAll readMeter meters sources).1[meter]? = some (m.read.1, held) := by
  induction sources generalizing meters with
  | nil => cases once
  | cons s rest ih =>
    obtain ⟨module, s⟩ := s
    rw [List.map_cons, List.count_cons] at once
    simp only [Registry.readAll, List.map_cons, linesOf_cons]
    by_cases same : s.meter = meter
    · have apart : meter ∉ rest.map (·.2.meter) := by
        rw [← List.count_eq_zero]
        simpa [same] using once
      have sources : meter ∉ (rest.map (·.2)).map (·.meter) := by rwa [List.map_map]
      have inside : meter < meters.length := (List.getElem?_eq_some_iff.mp here).1
      have read : readMeter meters s = (meters.set meter (m.read.1, held), m.read.2) := by
        rw [readMeter, same, here]
      rw [if_pos same, linesOf_of_notMem sources, getElem?_readAll_of_notMem apart, read]
      exact ⟨rfl, List.getElem?_set_self inside⟩
    · rw [if_neg same, List.nil_append]
      refine ih (by simpa [same] using once) ?_
      rw [getElem?_readMeter_of_ne same, here]

/-! ## What a step tells -/

/-- **What a step tells of an amount, and what it leaves to be read.** -/
theorem amount_step {c : Collector} {meter amount : Nat} {name : String}
    (here : c.amount? meter name = some amount)
    (once : (c.openSources.map (·.2.meter)).count meter ≤ 1) (e : Event) :
    let lines := linesOf meter (c.openSources.map (·.2)) (c.step e).2
    (lines = [] ∧ (c.step e).1.amount? meter name = some (amount + e.increment meter name)) ∨
      e = .report ∧ (c.step e).1.amount? meter name = some 0 ∧
        ∃ line, lines = [line] ∧ Counter.shown name line = Counter.wrapped amount := by
  intro lines
  obtain ⟨⟨m, held⟩, found, has⟩ := Option.bind_eq_some_iff.mp here
  have inside : meter < c.meters.length := (List.getElem?_eq_some_iff.mp found).1
  cases e with
  | create m h =>
    refine .inl ⟨linesOf_nil _ _, ?_⟩
    rw [amount?, step, create, List.getElem?_append_left inside]
    exact here
  | register module source => exact .inl ⟨linesOf_nil _ _, here⟩
  | add other counter n =>
    refine .inl ⟨linesOf_nil _ _, ?_⟩
    rw [amount?, step, add, List.getElem?_modify, found, Event.increment]
    by_cases same : other = meter
    · simp [same, Meter.amount?_add, has]
    · simp [same, has]
  | release other =>
    refine .inl ⟨linesOf_nil _ _, ?_⟩
    rw [amount?, step, release, List.getElem?_modify, found]
    by_cases same : other = meter <;> simp [same, has, Event.increment]
  | report =>
    have reads : (c.step .report).1.amount? meter name =
        (Registry.readAll readMeter c.meters c.openSources).1[meter]?.bind
          fun m => m.1.amount? name := rfl
    by_cases apart : meter ∈ c.openSources.map (·.2.meter)
    · have one : (c.openSources.map (·.2.meter)).count meter = 1 :=
        Nat.le_antisymm once (List.count_pos_iff.mpr apart)
      obtain ⟨line, left⟩ := readAll_of_count_eq_one one found
      obtain ⟨shows, zero⟩ := Meter.amount?_read has
      exact .inr ⟨rfl, by rw [reads, left]; exact zero, m.read.2, line, shows⟩
    · refine .inl ⟨linesOf_of_notMem (by rwa [List.map_map]) _, ?_⟩
      rw [reads, getElem?_readAll_of_notMem apart, found]
      exact has

/-! ## What a history tells -/

theorem increments_append_singleton (es : List Event) (e : Event) (meter : Nat) (name : String) :
    increments (es ++ [e]) meter name = increments es meter name + e.increment meter name := by
  simp [increments]

/-- A line more tells an amount more, as far as 64 bits can say it. -/
theorem shownAll_concat {name : String} {line : List Counter} {amount : Nat}
    (shows : Counter.shown name line = Counter.wrapped amount) (past : List (List Counter)) :
    Counter.shownAll name (past ++ [line]) = Counter.shownAll name past + amount % 2 ^ 64 := by
  simp only [Counter.shownAll, List.map_append, List.sum_append, List.map_singleton,
    List.sum_singleton, shows]
  rfl

/-- The meters of a collector are those that its history made. -/
theorem length_created (es : List Event) : (created es).length = (after es).meters.length := by
  induction es using List.reverseRecOn with
  | nil => rfl
  | append_singleton es e ih =>
    rw [after_append_singleton, length_meters_step, ← ih, created, List.filterMap_append,
      List.length_append, filterMap_cons_toList, List.filterMap_nil, List.append_nil]
    rfl

theorem created_append_singleton (es : List Event) (e : Event) :
    created (es ++ [e]) = created es ++ e.created?.toList := by
  rw [created, List.filterMap_append, filterMap_cons_toList, List.filterMap_nil, List.append_nil]
  rfl

/-- A meter has no open source before it is made. -/
theorem notMem_openSources {es : List Event} (back : RefersBack es) {meter : Nat}
    (unmade : (created es).length ≤ meter) :
    meter ∉ ((after es).openSources.map (·.2)).map (·.meter) := by
  rw [openSources_after back, length_created] at *
  intro member
  simp only [List.map_map, List.mem_map, Function.comp_apply] at member
  obtain ⟨r, stays, rfl⟩ := member
  exact absurd (meter_lt_of_mem back (List.mem_of_mem_filter stays)) (Nat.not_lt.mpr unmade)

/-- Nothing is told of a meter, or added to it, before it is made. -/
theorem readings_of_length_le {es : List Event} (back : RefersBack es) {meter : Nat}
    (unmade : (created es).length ≤ meter) (name : String) :
    readings es meter = [] ∧ increments es meter name = 0 := by
  induction es using List.reverseRecOn with
  | nil => exact ⟨rfl, rfl⟩
  | append_singleton es e ih =>
    obtain ⟨past, names⟩ := refersBack_append_singleton back
    have before : (created es).length ≤ meter := by
      rw [created, List.filterMap_append, List.length_append] at unmade
      exact Nat.le_of_add_right_le unmade
    obtain ⟨silent, nothing⟩ := ih past before
    constructor
    · have apart := notMem_openSources past before
      rw [readings_append_singleton past, silent, linesOf_of_notMem apart, List.append_nil]
    · rw [increments_append_singleton, nothing, Nat.zero_add]
      rw [length_created] at before
      cases e with
      | add other counter n =>
        have there : other < (after es).meters.length := names other rfl
        exact if_neg fun same => absurd (same.1 ▸ there) (Nat.not_lt.mpr before)
      | _ => rfl

/-- An amount that is new with a step is the one that the step gave to the meter it made. -/
theorem amount_made {es : List Event} {e : Event} {meter start : Nat} {name : String}
    (unmade : (created es).length ≤ meter)
    (given : (created (es ++ [e]))[meter]?.bind (·.amount? name) = some start) :
    ((after es).step e).1.amount? meter name = some start ∧ ((after es).step e).2 = [] ∧
      e.increment meter name = 0 := by
  rw [created_append_singleton, List.getElem?_append_right unmade] at given
  cases e with
  | create m held =>
    obtain ⟨made, found, has⟩ := Option.bind_eq_some_iff.mp given
    obtain ⟨last, rfl⟩ := List.getElem?_eq_some_iff.mp found
    have first : meter = (created es).length := by
      have : meter - (created es).length < 1 := last
      omega
    refine ⟨?_, rfl, rfl⟩
    subst first
    rw [amount?, step, create, length_created, List.getElem?_concat_length]
    simpa [Event.created?] using has
  | _ => cases given

/-- A meter under the name of one module has one open source at most. -/
theorem count_openSources_le_one {es : List Event} (back : RefersBack es) {meter : Nat}
    {module : String}
    (alone : ∀ r ∈ registrations es, r.source.meter = meter → r.module = module) :
    ((after es).openSources.map (·.2.meter)).count meter ≤ 1 := by
  have names : ∀ s ∈ (after es).openSources, s.2.meter = meter → s.1 = module := by
    rw [openSources_after back]
    intro s member same
    obtain ⟨r, stands, rfl⟩ := List.mem_map.mp member
    exact alone r (List.mem_of_mem_filter stands) same
  have distinct : ((after es).openSources.map (·.1)).Nodup :=
    (nodup_modules_after es).sublist (List.filter_sublist.map _)
  rw [List.count_eq_countP, List.countP_map, List.countP_eq_length_filter]
  set lines := (after es).openSources.filter ((· == meter) ∘ (·.2.meter)) with ofMeter
  have same : ∀ name ∈ lines.map (·.1), name = module := by
    intro name member
    obtain ⟨s, listed, rfl⟩ := List.mem_map.mp member
    obtain ⟨there, is⟩ := List.mem_filter.mp listed
    exact names s there (eq_of_beq is)
  have once : (lines.map (·.1)).Nodup := distinct.sublist (List.filter_sublist.map _)
  rw [List.eq_replicate_of_mem same, List.nodup_replicate, List.length_map] at once
  exact once

theorem keepsWithin_of_append {past future : List Event} {meter : Nat} {name : String}
    (within : KeepsWithin (past ++ future) meter name) : KeepsWithin past meter name := by
  intro n inside amount here
  refine within n (by rw [List.length_append]; omega) amount ?_
  rwa [List.take_append_of_le_length inside]

/-- **What was told and what is left are what was added.** -/
theorem amount_after {es : List Event} (back : RefersBack es) {meter start : Nat}
    {name module : String} (given : (created es)[meter]?.bind (·.amount? name) = some start)
    (alone : ∀ r ∈ registrations es, r.source.meter = meter → r.module = module) :
    ∃ left, (after es).amount? meter name = some left ∧
      (Counter.shownAll name (readings es meter) + left) % 2 ^ 64 =
        (start + increments es meter name) % 2 ^ 64 ∧
      (KeepsWithin es meter name →
        Counter.shownAll name (readings es meter) + left = start + increments es meter name) := by
  induction es using List.reverseRecOn with
  | nil => cases given
  | append_singleton es e ih =>
    obtain ⟨past, -⟩ := refersBack_append_singleton back
    have earlier : ∀ r ∈ registrations es, r.source.meter = meter → r.module = module :=
      fun r member => alone r (mem_registrations_append member [e])
    have once := count_openSources_le_one past earlier
    rw [after_append_singleton, readings_append_singleton past, increments_append_singleton]
    by_cases known : meter < (created es).length
    · rw [created_append_singleton, List.getElem?_append_left known] at given
      obtain ⟨amount, here, total, precise⟩ := ih past given earlier
      -- Either the step adds to what is left, or it is a report, which moves that to what was told.
      rcases amount_step here once e with ⟨silent, left⟩ | ⟨rfl, left, line, told, shows⟩
      · refine ⟨_, left, ?_, fun within => ?_⟩
        · rw [silent, List.append_nil]
          omega
        · have := precise (keepsWithin_of_append within)
          rw [silent, List.append_nil]
          omega
      · have none : Event.increment meter name .report = 0 := rfl
        have adds := shownAll_concat shows (readings es meter)
        refine ⟨0, left, ?_, fun within => ?_⟩
        · rw [told, adds, none]
          omega
        · have fits : amount < 2 ^ 64 :=
            within es.length (by simp) amount (by rwa [List.take_left])
          have := precise (keepsWithin_of_append within)
          rw [told, adds, none, Nat.mod_eq_of_lt fits]
          omega
    · -- The step makes the meter, of which nothing was told before.
      have unmade := Nat.le_of_not_lt known
      obtain ⟨silent, nothing⟩ := readings_of_length_le past unmade name
      obtain ⟨left, reportless, none⟩ := amount_made unmade given
      rw [silent, nothing, none, reportless, linesOf_nil]
      exact ⟨start, left, congrArg (· % 2 ^ 64) (Nat.zero_add start), fun _ => Nat.zero_add start⟩

/-! ## The last report of a meter -/

/-- The last report of a meter has lines of it, and no later step has. -/
theorem readings_of_last {es : List Event} {meter n : Nat}
    (last : (appearances es meter).getLast? = some n) :
    n < es.length ∧ readingsAt es meter n ≠ [] ∧
      readings es meter = readings (es.take n) meter ++ readingsAt es meter n := by
  obtain ⟨before, all⟩ := List.getLast?_eq_some_iff.mp last
  have member : n ∈ appearances es meter := by simp [all]
  obtain ⟨inside, appears⟩ := List.mem_filter.mp member
  have inside : n < es.length := List.mem_range.mp inside
  have sorted : (appearances es meter).Pairwise (· < ·) :=
    List.pairwise_lt_range.sublist List.filter_sublist
  have silent (later : Nat) (after : n < later) (there : later < es.length) :
      readingsAt es meter later = [] := by
    by_contra tells
    have listed : later ∈ appearances es meter :=
      List.mem_filter.mpr ⟨List.mem_range.mpr there, by simpa using tells⟩
    rw [all, List.mem_append, List.mem_singleton] at listed
    rw [all, List.pairwise_append] at sorted
    rcases listed with earlier | rfl
    · exact Nat.lt_asymm after (sorted.2.2 later earlier n (List.mem_singleton_self n))
    · exact Nat.lt_irrefl _ after
  refine ⟨inside, by simpa using appears, ?_⟩
  -- Of the steps from the report on, only the report has lines.
  have rest : es.length - n = (es.length - n - 1) + 1 := by omega
  have split := readings_append (es.take n) (es.drop n) meter
  rw [List.take_append_drop, List.length_drop, List.length_take, Nat.min_eq_left inside.le, rest,
    List.range_succ_eq_map, List.flatMap_cons, List.flatMap_map, Nat.add_zero] at split
  rw [split]
  congr 1
  rw [List.flatMap_eq_nil_iff.mpr, List.append_nil]
  intro i there
  have := List.mem_range.mp there
  exact silent _ (by omega) (by omega)

/-- **Up to its last report, a meter has told what was added to it.** -/
theorem shownAll_readings {es : List Event} (back : RefersBack es) {meter start n : Nat}
    {name module : String} (given : (created es)[meter]?.bind (·.amount? name) = some start)
    (alone : ∀ r ∈ registrations es, r.source.meter = meter → r.module = module)
    (last : (appearances es meter).getLast? = some n) :
    let told := Counter.shownAll name (readings es meter)
    let added := start + increments (es.take n) meter name
    told % 2 ^ 64 = added % 2 ^ 64 ∧ (KeepsWithin (es.take n) meter name → told = added) := by
  intro told added
  obtain ⟨inside, appears, all⟩ := readings_of_last last
  obtain ⟨past, e, future, rfl, rfl⟩ :
      ∃ past e future, es = past ++ e :: future ∧ past.length = n :=
    ⟨es.take n, es[n], es.drop (n + 1), by simp, by simp; omega⟩
  rw [List.take_left] at all
  have before := refersBack_of_append back
  rw [readingsAt_concat before] at appears all
  have earlier : ∀ r ∈ registrations past, r.source.meter = meter → r.module = module :=
    fun r member => alone r (mem_registrations_append member (e :: future))
  have known : meter < (created past).length := by
    by_contra unmade
    exact appears (linesOf_of_notMem (notMem_openSources before (Nat.le_of_not_lt unmade)) _)
  rw [created, List.filterMap_append, ← created, List.getElem?_append_left known] at given
  obtain ⟨left, here, total, precise⟩ := amount_after before given earlier
  have once := count_openSources_le_one before earlier
  rcases amount_step here once e with ⟨silent, -⟩ | ⟨-, -, line, tells, shows⟩
  · exact absurd silent appears
  · have adds : told = Counter.shownAll name (readings past meter) + left % 2 ^ 64 := by
      rw [show told = Counter.shownAll name (readings (past ++ e :: future) meter) from rfl, all,
        tells, shownAll_concat shows]
    have sum : added = start + increments past meter name := by
      rw [show added = start + increments ((past ++ e :: future).take past.length) meter name
        from rfl, List.take_left]
    rw [List.take_left]
    refine ⟨by omega, fun within => ?_⟩
    have fits : left < 2 ^ 64 := within past.length le_rfl left (by rwa [List.take_length])
    have := precise within
    omega

/-- **Reports are complete.**  At every point the modules of a registry are distinct; a report has
one line for each registration that stands, in their order; what has ceased to stand is in no later
report; and a meter of one module has told, up to the last report in which it appears, what was
added to it. -/
theorem reports_are_complete {es : List Event} (back : RefersBack es) :
    (∀ n, (after (es.take n)).registry.modules.Nodup) ∧
      (∀ n, es[n]? = some .report →
        (reported es n).map (·.1) = (standing (es.take n)).map (·.module) ∧
          ((standing (es.take n)).map (·.module)).Nodup ∧
          reported es n = (Registry.readAll readMeter (after (es.take n)).meters
            ((standing (es.take n)).map Registration.entry)).2) ∧
      (∀ past now, past ≤ now → ∀ r ∈ registrations (es.take past),
        r ∉ standing (es.take past) → r ∉ standing (es.take now)) ∧
      ∀ (meter start n : Nat) (name module : String),
        (created es)[meter]?.bind (·.amount? name) = some start →
        (∀ r ∈ registrations es, r.source.meter = meter → r.module = module) →
        (appearances es meter).getLast? = some n →
        let told := Counter.shownAll name (readings es meter)
        let added := start + increments (es.take n) meter name
        told % 2 ^ 64 = added % 2 ^ 64 ∧ (KeepsWithin (es.take n) meter name → told = added) := by
  have part (n : Nat) : RefersBack (es.take n) := by
    rw [← List.take_append_drop n es] at back
    exact refersBack_of_append back
  refine ⟨fun n => nodup_modules_after _, fun n here => ?_, fun past now order r registered => ?_,
    fun meter start n name module given alone last => shownAll_readings back given alone last⟩
  · obtain ⟨inside, is⟩ := List.getElem?_eq_some_iff.mp here
    have split : es = es.take n ++ .report :: es.drop (n + 1) := by
      rw [← is, List.getElem_cons_drop, List.take_append_drop]
    have reads : reported es n = (after (es.take n)).report.2 := by
      have told := reported_concat (es.take n) .report (es.drop (n + 1))
      rwa [← split, List.length_take, Nat.min_eq_left inside.le] at told
    rw [reads, report_after (part n), Registry.modules_readAll, List.map_map]
    exact ⟨rfl, nodup_modules_standing (part n), rfl⟩
  · have split : es.take now = es.take past ++ (es.take now).drop past := by
      have both := List.take_append_drop past (es.take now)
      rw [List.take_take, Nat.min_eq_left order] at both
      exact both.symm
    have whole := part now
    rw [split] at whole ⊢
    exact fun fallen stays => fallen (mem_standing_of_append whole registered stays)

/-- A meter that is registered again, as its owner, after the first report tells seven in two
reports. -/
theorem reports_are_complete_registered_again :
    let es : List Event :=
      [.create (.tally [("hits", 0)]) true, .register "m" ⟨0, false⟩, .add 0 "hits" 3, .report,
        .add 0 "hits" 4, .register "m" ⟨0, true⟩, .release 0, .report, .add 0 "hits" 1]
    RefersBack es ∧ (reported es 7).map (·.1) = ["m"] ∧
      Counter.shownAll "hits" (readings es 0) = 7 := by
  intro es
  have back : RefersBack es := by decide
  obtain ⟨-, lines, -, told⟩ := reports_are_complete back
  have sums := (told 0 0 7 "hits" "m" rfl (by decide) (by decide)).2 (by decide)
  exact ⟨back, (lines 7 rfl).1.trans (by decide), sums⟩

/-- **An amount that passes 2 ^ 64 between two readings is lost.**  Twice 2 ^ 63 is added, and the
report tells zero. -/
theorem readings_lose_overflow :
    let es : List Event :=
      [.create (.tally [("received-bytes", 0)]) true, .register "server" ⟨0, false⟩,
        .add 0 "received-bytes" (2 ^ 63), .add 0 "received-bytes" (2 ^ 63), .report]
    RefersBack es ∧ (created es)[0]?.bind (·.amount? "received-bytes") = some 0 ∧
      (∀ r ∈ registrations es, r.source.meter = 0 → r.module = "server") ∧
      (appearances es 0).getLast? = some 4 ∧
      Counter.shownAll "received-bytes" (readings es 0) = 0 ∧
      0 + increments (es.take 4) 0 "received-bytes" = 2 ^ 64 := by
  decide

end Collector

end Wiretap
