import Wiretap.Proofs.Flow.Cell

/-!
# What a table counts

A flow is counted as closed exactly when its record leaves the table, and a packet is either counted
as skipped or accounted in the record of its flow.

## Main definitions

* `FlowTable.reading`, `FlowTable.readings` - the counts that a step and a history tell.
* `FlowTable.packetsIn`, `FlowTable.packetTotal` - the packets of a history, and the number of
  packets that records tell of.
* `FlowTable.Sound` - what holds of every table that a history leads to.
* `FlowTable.Alike` - tables that differ in their counts only.

## Main statements

* `FlowTable.length_without` - a flow that is open has one record to lose.
* `FlowTable.closed_step`, `FlowTable.closed_run` - a step and a history count as closed the records
  that they return.
* `FlowTable.skipped_run`, `FlowTable.packetTotal_run` - a history counts as skipped the packets
  without a flow, and its records tell of the others.
* `FlowTable.opened_run`, `FlowTable.concurrent_run` - what a history opens is open or returned, and
  the open flows are counted.
* `FlowTable.counts_run_congr` - the counts are determined by what is open and what is returned.
* `FlowTable.run_filter_isReading` - readings make no difference to the records that leave a table.

## Design notes

The count of a closed flow is taken from the lengths of two lists of records, so that it is one
needs the flow to have exactly one record: this is where `Distinct` enters.
-/

namespace Wiretap.FlowTable

/-- A flow that is open has exactly one record. -/
theorem length_without {t : FlowTable} (distinct : t.Distinct) {key : FlowKey} {r : FlowRecord}
    (found : t.find? key = some r) : (without t.records key).length + 1 = t.records.length := by
  have own : (t.records.filter fun r => r.key = key).length = 1 := by
    rw [filter_key_eq_toList distinct key, show t.records.find? _ = _ from found]
    rfl
  have parts := List.length_eq_length_filter_add (l := t.records) fun r => decide (r.key = key)
  have others : (t.records.filter fun r => !decide (r.key = key)) = without t.records key := by
    unfold without
    congr 1
    funext r
    simp
  rw [others, own] at parts
  omega

@[simp] theorem closed_put (t : FlowTable) (key : FlowKey) (s : FlowSample) :
    (t.put key s).1.counts.closed = t.counts.closed := by
  unfold put
  split <;> rfl

/-- Closing a flow that is open counts one flow as closed. -/
theorem closed_close {t : FlowTable} (distinct : t.Distinct) {key : FlowKey} {r : FlowRecord}
    (found : t.find? key = some r) : (t.close key).counts.closed = t.counts.closed + 1 := by
  have lost := length_without distinct found
  simp only [close]
  omega

/-- Accounting a packet counts as closed the flow that it closes. -/
theorem closed_account {t : FlowTable} (distinct : t.Distinct) (p : Packet) (now : Duration) :
    (t.account p now).1.counts.closed = t.counts.closed + (t.account p now).2.toList.length := by
  unfold account
  split
  · rfl
  · next key keyed =>
    simp only
    split
    · rw [closed_close (distinct_put distinct key _) (find?_put_self t key (.ofPacket p)),
        closed_put]
      rfl
    · rw [closed_put]
      rfl

/-- What a reading of the counts tells and forgets. -/
def reading (t : FlowTable) : Event → List FlowCounts
  | .readCounts => [t.readCounts.2]
  | _ => []

/-- **A step counts as closed the records that it returns.**  What it tells, if it is a reading,
makes up for what it forgets. -/
theorem closed_step {t : FlowTable} (distinct : t.Distinct) (e : Event) :
    ((t.reading e).map (·.closed)).sum + (t.step e).1.counts.closed =
      t.counts.closed + (t.step e).2.length := by
  cases e with
  | packet p now =>
    have counted := closed_account distinct p now
    simpa [reading, step] using counted
  | sweep now =>
    simp only [reading, step, sweep, List.map_nil, List.sum_nil]
    split <;> simp
  | drain => simp [reading, step, drain]
  | readCounts => simp [reading, step, readCounts, FlowCounts.afterReading]

/-- What all readings of a history tell. -/
def readings (t : FlowTable) : List Event → List FlowCounts
  | [] => []
  | e :: es => t.reading e ++ (t.step e).1.readings es

theorem readings_append (t : FlowTable) (es later : List Event) :
    t.readings (es ++ later) = t.readings es ++ (t.run es).1.readings later := by
  induction es generalizing t with
  | nil => rfl
  | cons e es ih => rw [List.cons_append, readings, ih, readings, run_cons, List.append_assoc]

/-- **A history counts as closed the records that it returns**, however often the counts are read
on the way. -/
theorem closed_run {t : FlowTable} (distinct : t.Distinct) (es : List Event) :
    ((t.readings es).map (·.closed)).sum + (t.run es).1.counts.closed =
      t.counts.closed + (t.run es).2.flatten.length := by
  induction es generalizing t with
  | nil => exact Nat.add_comm 0 _
  | cons e es ih =>
    have now := closed_step distinct e
    have later := ih (distinct_step distinct e)
    simp only [readings, run_cons, List.map_append, List.sum_append, List.flatten_cons,
      List.length_append]
    omega

/-! ## Packets that are accounted and packets that are not -/

/-- The packets of a history. -/
def packetsIn (es : List Event) : List Packet :=
  es.filterMap fun e => match e with
    | .packet p _ => some p
    | _ => none

theorem packetsIn_cons (e : Event) (es : List Event) :
    packetsIn (e :: es) = packetsIn [e] ++ packetsIn es := by
  cases e <;> rfl

theorem packetsIn_append (es later : List Event) :
    packetsIn (es ++ later) = packetsIn es ++ packetsIn later := List.filterMap_append

@[simp] theorem skipped_put (t : FlowTable) (key : FlowKey) (s : FlowSample) :
    (t.put key s).1.counts.skipped = t.counts.skipped := by
  unfold put
  split <;> rfl

/-- A step counts as skipped the packet that belongs to no flow. -/
theorem skipped_step (t : FlowTable) (e : Event) :
    ((t.reading e).map (·.skipped)).sum + (t.step e).1.counts.skipped =
      t.counts.skipped + ((packetsIn [e]).filter fun p => (FlowKey.ofPacket? p).isNone).length := by
  cases e with
  | packet p now =>
    have counted : (t.account p now).1.counts.skipped =
        t.counts.skipped + if (FlowKey.ofPacket? p).isNone then 1 else 0 := by
      unfold account
      cases keyed : FlowKey.ofPacket? p with
      | none => rfl
      | some key =>
        simp only [Option.isNone_some, Bool.false_eq_true, if_false]
        split <;> simp [close]
    simp only [reading, step, List.map_nil, List.sum_nil, Nat.zero_add, counted, packetsIn,
      List.filterMap_cons, List.filterMap_nil, List.filter_cons, List.filter_nil]
    split <;> rfl
  | sweep now =>
    simp only [reading, step, sweep, List.map_nil, List.sum_nil]
    split <;> simp [packetsIn]
  | drain => simp [reading, step, drain, packetsIn]
  | readCounts => simp [reading, step, readCounts, FlowCounts.afterReading, packetsIn]

/-- A history counts as skipped the packets that belong to no flow. -/
theorem skipped_run (t : FlowTable) (es : List Event) :
    ((t.readings es).map (·.skipped)).sum + (t.run es).1.counts.skipped =
      t.counts.skipped + ((packetsIn es).filter fun p => (FlowKey.ofPacket? p).isNone).length := by
  induction es generalizing t with
  | nil => exact Nat.add_comm 0 _
  | cons e es ih =>
    have now := skipped_step t e
    have later := ih (t.step e).1
    rw [packetsIn_cons e es]
    simp only [readings, run_cons, List.map_append, List.sum_append, List.filter_append,
      List.length_append]
    omega

/-- What records say together of the number of their packets. -/
def packetTotal (records : List FlowRecord) : Nat := (records.map (·.packets.toNat)).sum

theorem packetTotal_append (rs later : List FlowRecord) :
    packetTotal (rs ++ later) = packetTotal rs + packetTotal later := by
  simp [packetTotal]

/-- A record in the place of another one. -/
theorem packetTotal_store (r : FlowRecord) (records : List FlowRecord) :
    packetTotal (store r records) +
        packetTotal (records.find? fun other => other.key = r.key).toList =
      packetTotal records + r.packets.toNat := by
  induction records with
  | nil => simp [store, packetTotal]
  | cons first rest ih =>
    rw [store]
    by_cases same : first.key = r.key
    · simp [same, packetTotal]
      omega
    · rw [if_neg same, List.find?_cons_of_neg (by simpa using same)]
      simp only [packetTotal, List.map_cons, List.sum_cons] at ih ⊢
      omega

theorem packetTotal_filter (keep : FlowRecord → Bool) (records : List FlowRecord) :
    packetTotal (records.filter keep) + packetTotal (records.filter fun r => !keep r) =
      packetTotal records := by
  induction records with
  | nil => rfl
  | cons r rest ih =>
    cases kept : keep r <;> simp [kept, packetTotal] at ih ⊢ <;> omega

/-- Accounting a packet adds one to what the open records say, as far as 32 bits can say it. -/
theorem packetTotal_put (t : FlowTable) (key : FlowKey) (s : FlowSample) :
    packetTotal (t.put key s).1.records % 2 ^ 32 = (packetTotal t.records + 1) % 2 ^ 32 := by
  have stored := packetTotal_store (t.put key s).2 t.records
  rw [← records_put, key_put, show t.records.find? _ = t.find? key from rfl, record_put] at stored
  cases found : t.find? key with
  | none =>
    simp only [found, Option.toList_none, Option.map_none, Option.getD_none, packetTotal,
      List.map_nil, List.sum_nil, FlowRecord.opening, UInt32.toNat_one] at stored ⊢
    omega
  | some r =>
    simp only [found, Option.toList_some, Option.map_some, Option.getD_some, packetTotal,
      List.map_cons, List.map_nil, List.sum_singleton, FlowRecord.add, UInt32.toNat_add,
      UInt32.toNat_one] at stored ⊢
    omega

/-- Closing a flow takes away what its record says. -/
theorem packetTotal_close {t : FlowTable} (distinct : t.Distinct) {key : FlowKey} {r : FlowRecord}
    (found : t.find? key = some r) :
    packetTotal [r] + packetTotal (t.close key).records = packetTotal t.records := by
  have own : (t.records.filter fun r => r.key = key) = [r] := by
    rw [filter_key_eq_toList distinct key, show t.records.find? _ = some r from found]
    rfl
  have parts := packetTotal_filter (fun r => decide (r.key = key)) t.records
  rw [own] at parts
  simpa [close, without] using parts

/-- **A step accounts the packets that belong to a flow.**  What the records that leave and the open
ones say of the number of packets grows by theirs, as far as 32 bits can say it. -/
theorem packetTotal_step {t : FlowTable} (distinct : t.Distinct) (e : Event) :
    (packetTotal (t.step e).2 + packetTotal (t.step e).1.records) % 2 ^ 32 =
      (packetTotal t.records +
        ((packetsIn [e]).filter fun p => (FlowKey.ofPacket? p).isSome).length) % 2 ^ 32 := by
  cases e with
  | packet p now =>
    simp only [step, packetsIn, List.filterMap_cons, List.filterMap_nil]
    unfold account
    cases keyed : FlowKey.ofPacket? p with
    | none => simp [keyed, packetTotal]
    | some key =>
      have more := packetTotal_put t key (.ofPacket p)
      simp only [keyed, Option.isSome_some, List.filter_cons_of_pos, List.filter_nil,
        List.length_singleton]
      split
      · have closed :=
          packetTotal_close (distinct_put distinct key _) (find?_put_self t key (.ofPacket p))
        simp only [Option.toList_some]
        omega
      · simp only [Option.toList_none, packetTotal, List.map_nil, List.sum_nil] at more ⊢
        omega
  | sweep now =>
    have parts := packetTotal_filter (t.isIdle now) t.records
    simp only [step, sweep, packetsIn, List.filterMap_cons, List.filterMap_nil, List.filter_nil,
      List.length_nil, Nat.add_zero]
    rw [parts]
  | drain => simp [step, drain, packetsIn, packetTotal]
  | readCounts => simp [step, readCounts, packetsIn, packetTotal]

/-- **A history accounts the packets that belong to a flow**, each of them in one record. -/
theorem packetTotal_run {t : FlowTable} (distinct : t.Distinct) (es : List Event) :
    (packetTotal (t.run es).2.flatten + packetTotal (t.run es).1.records) % 2 ^ 32 =
      (packetTotal t.records +
        ((packetsIn es).filter fun p => (FlowKey.ofPacket? p).isSome).length) % 2 ^ 32 := by
  induction es generalizing t with
  | nil => simp [run, packetsIn, packetTotal]
  | cons e es ih =>
    have now := packetTotal_step distinct e
    have later := ih (distinct_step distinct e)
    rw [packetsIn_cons e es]
    simp only [run_cons, List.flatten_cons, packetTotal_append, List.filter_append,
      List.length_append]
    omega

/-! ## Flows that are open and flows that were opened -/

/-- Storing a record adds one to the records, unless its flow has a record already. -/
theorem length_store (record : FlowRecord) (records : List FlowRecord) :
    (store record records).length = records.length +
      if (records.find? fun r => r.key = record.key).isSome then 0 else 1 := by
  induction records with
  | nil => rfl
  | cons r rest ih =>
    rw [store]
    by_cases same : r.key = record.key
    · simp [same]
    · rw [if_neg same, List.find?_cons_of_neg (by simpa using same), List.length_cons, ih,
        List.length_cons]
      omega

/-- Accounting a packet adds one to the records, unless its flow is open already. -/
theorem length_records_put (t : FlowTable) (key : FlowKey) (s : FlowSample) :
    (t.put key s).1.records.length = t.records.length + if (t.find? key).isSome then 0 else 1 := by
  rw [records_put, length_store, key_put]
  rfl

/-- Accounting a packet counts as opened the flow that it opens. -/
theorem opened_put (t : FlowTable) (key : FlowKey) (s : FlowSample) :
    (t.put key s).1.counts.opened + t.records.length =
      t.counts.opened + (t.put key s).1.records.length := by
  have opened : (t.put key s).1.counts.opened =
      t.counts.opened + if (t.find? key).isSome then 0 else 1 := by
    unfold put
    cases t.find? key <;> rfl
  rw [opened, length_records_put]
  omega

/-- A flow that is opened is open or is returned. -/
theorem opened_account {t : FlowTable} (distinct : t.Distinct) (p : Packet) (now : Duration) :
    (t.account p now).1.counts.opened + t.records.length =
      t.counts.opened + (t.account p now).1.records.length +
        (t.account p now).2.toList.length := by
  unfold account
  split
  · rfl
  · next key keyed =>
    have opened := opened_put t key (.ofPacket p)
    simp only
    split
    · have lost :=
        length_without (distinct_put distinct key _) (find?_put_self t key (.ofPacket p))
      simp only [close, Option.toList_some, List.length_singleton]
      omega
    · exact opened

/-- **Flows that are opened stay open until they are returned.** -/
theorem opened_step {t : FlowTable} (distinct : t.Distinct) (e : Event) :
    ((t.reading e).map (·.opened)).sum + (t.step e).1.counts.opened + t.records.length =
      t.counts.opened + (t.step e).1.records.length + (t.step e).2.length := by
  cases e with
  | packet p now =>
    have opened := opened_account distinct p now
    simpa [reading, step] using opened
  | sweep now =>
    have parts := List.length_eq_length_filter_add (l := t.records) (t.isIdle now)
    simp only [reading, step, sweep, List.map_nil, List.sum_nil]
    split <;> simp only <;> omega
  | drain => simp [reading, step, drain]
  | readCounts => simp [reading, step, readCounts, FlowCounts.afterReading]

/-- What a history opens stays open until it is returned. -/
theorem opened_run {t : FlowTable} (distinct : t.Distinct) (es : List Event) :
    ((t.readings es).map (·.opened)).sum + (t.run es).1.counts.opened + t.records.length =
      t.counts.opened + (t.run es).1.records.length + (t.run es).2.flatten.length := by
  induction es generalizing t with
  | nil =>
    simp only [readings, run, List.map_nil, List.sum_nil, List.flatten_nil, List.length_nil]
    omega
  | cons e es ih =>
    have now := opened_step distinct e
    have later := ih (distinct_step distinct e)
    simp only [readings, run_cons, List.map_append, List.sum_append, List.flatten_cons,
      List.length_append]
    omega

/-- A step keeps the count of open flows at the number of records. -/
theorem concurrent_step {t : FlowTable} (counted : t.counts.concurrent = t.records.length)
    (e : Event) : (t.step e).1.counts.concurrent = (t.step e).1.records.length := by
  cases e with
  | packet p now =>
    simp only [step, account]
    split
    · exact counted
    · next key keyed =>
      have concurrent : (t.put key (.ofPacket p)).1.counts.concurrent =
          t.counts.concurrent + if (t.find? key).isSome then 0 else 1 := by
        unfold put
        cases t.find? key <;> rfl
      split
      · rfl
      · rw [concurrent, length_records_put, counted]
  | sweep now =>
    simp only [step, sweep]
    split
    · next none =>
      -- Nothing is idle: the count is not written, and nothing is lost.
      have parts := List.length_eq_length_filter_add (l := t.records) (t.isIdle now)
      rw [List.isEmpty_iff.mp none, List.length_nil] at parts
      simp only
      omega
    · rfl
  | drain => rfl
  | readCounts => exact counted

/-- A history keeps the count of open flows at the number of records. -/
theorem concurrent_run {t : FlowTable} (counted : t.counts.concurrent = t.records.length)
    (es : List Event) : (t.run es).1.counts.concurrent = (t.run es).1.records.length := by
  induction es generalizing t with
  | nil => exact counted
  | cons e es ih =>
    rw [run_cons]
    exact ih (concurrent_step counted e)

/-- What holds of every table that a history of a new one leads to: a flow has at most one record,
and the records are counted. -/
structure Sound (t : FlowTable) : Prop where
  distinct : t.Distinct
  counted : t.counts.concurrent = t.records.length

theorem sound_empty (idle active : Duration) : (empty idle active).Sound :=
  ⟨distinct_empty idle active, rfl⟩

theorem sound_step {t : FlowTable} (sound : t.Sound) (e : Event) : (t.step e).1.Sound :=
  ⟨distinct_step sound.distinct e, concurrent_step sound.counted e⟩

theorem sound_run {t : FlowTable} (sound : t.Sound) (es : List Event) : (t.run es).1.Sound :=
  ⟨distinct_run sound.distinct es, concurrent_run sound.counted es⟩

attribute [ext] FlowCounts

/-- **The counts are determined by what the tables hold and return.**  Histories that read alike,
return as many records and leave as many open have the same counts, whatever the order of their
packets. -/
theorem counts_run_congr {t u : FlowTable} (tSound : t.Sound) (uSound : u.Sound)
    (counts : t.counts = u.counts) (es fs : List Event) (told : t.readings es = u.readings fs)
    (packets : (packetsIn es).Perm (packetsIn fs))
    (returned : (t.run es).2.flatten.Perm (u.run fs).2.flatten)
    (records : (t.run es).1.records.Perm (u.run fs).1.records) :
    (t.run es).1.counts = (u.run fs).1.counts := by
  have opened := opened_run tSound.distinct es
  have closed := closed_run tSound.distinct es
  have skipped := skipped_run t es
  have concurrent := (sound_run tSound es).counted
  have before : t.records.length = u.records.length := by
    rw [← tSound.counted, ← uSound.counted, counts]
  rw [told, counts] at opened closed skipped
  rw [before, returned.length_eq, records.length_eq] at opened
  rw [returned.length_eq] at closed
  rw [(packets.filter _).length_eq] at skipped
  rw [records.length_eq] at concurrent
  have opened' := opened_run uSound.distinct fs
  have closed' := closed_run uSound.distinct fs
  have skipped' := skipped_run u fs
  have concurrent' := (sound_run uSound fs).counted
  ext <;> omega

/-! ## Counts decide nothing -/

/-- Tables that differ in their counts only. -/
structure Alike (t u : FlowTable) : Prop where
  records : t.records = u.records
  idleTimeout : t.idleTimeout = u.idleTimeout
  activeTimeout : t.activeTimeout = u.activeTimeout

theorem Alike.put {t u : FlowTable} (alike : t.Alike u) (key : FlowKey) (s : FlowSample) :
    (t.put key s).1.Alike (u.put key s).1 ∧ (t.put key s).2 = (u.put key s).2 := by
  have found : t.find? key = u.find? key := by rw [find?, find?, alike.records]
  unfold FlowTable.put
  rw [found]
  cases u.find? key with
  | none => exact ⟨⟨by simp [alike.records], alike.idleTimeout, alike.activeTimeout⟩, rfl⟩
  | some r => exact ⟨⟨by simp [alike.records], alike.idleTimeout, alike.activeTimeout⟩, rfl⟩

theorem Alike.close {t u : FlowTable} (alike : t.Alike u) (key : FlowKey) :
    (t.close key).Alike (u.close key) :=
  ⟨congrArg (without · key) alike.records, alike.idleTimeout, alike.activeTimeout⟩

/-- Tables that differ in their counts only let the same records go. -/
theorem Alike.step {t u : FlowTable} (alike : t.Alike u) (e : Event) :
    (t.step e).1.Alike (u.step e).1 ∧ (t.step e).2 = (u.step e).2 := by
  cases e with
  | packet p now =>
    simp only [FlowTable.step, account]
    cases FlowKey.ofPacket? p with
    | none => exact ⟨⟨alike.records, alike.idleTimeout, alike.activeTimeout⟩, rfl⟩
    | some key =>
      obtain ⟨tables, records⟩ := alike.put key (.ofPacket p)
      have overdue (r : FlowRecord) : (t.put key (.ofPacket p)).1.isOverdue now r =
          (u.put key (.ofPacket p)).1.isOverdue now r := by
        rw [isOverdue, isOverdue, tables.activeTimeout]
      simp only [overdue, records]
      cases (u.put key (.ofPacket p)).1.isOverdue now (u.put key (.ofPacket p)).2 with
      | true => exact ⟨tables.close key, rfl⟩
      | false => exact ⟨tables, rfl⟩
  | sweep now =>
    have idle : t.isIdle now = u.isIdle now := by
      funext r
      rw [isIdle, isIdle, alike.idleTimeout]
    have kept : t.records.filter (!t.isIdle now ·) = u.records.filter (!u.isIdle now ·) := by
      rw [idle, alike.records]
    exact ⟨⟨kept, alike.idleTimeout, alike.activeTimeout⟩, by
      rw [FlowTable.step, sweep, FlowTable.step, sweep, idle, alike.records]⟩
  | drain => exact ⟨⟨rfl, alike.idleTimeout, alike.activeTimeout⟩, alike.records⟩
  | readCounts => exact ⟨⟨alike.records, alike.idleTimeout, alike.activeTimeout⟩, rfl⟩

/-- Whether a step reads the counts. -/
def Event.isReading : Event → Bool
  | .readCounts => true
  | _ => false

/-- Readings make no difference to the records that leave a table. -/
theorem run_filter_isReading {t u : FlowTable} (alike : t.Alike u) (es : List Event) :
    (t.run es).2.flatten = (u.run (es.filter (!·.isReading))).2.flatten := by
  induction es generalizing t u with
  | nil => rfl
  | cons e es ih =>
    cases reads : e.isReading with
    | true =>
      have kept : (t.step e).1.Alike u := by
        cases e with
        | readCounts => exact ⟨alike.records, alike.idleTimeout, alike.activeTimeout⟩
        | _ => cases reads
      have silent : (t.step e).2 = [] := by
        cases e with
        | readCounts => rfl
        | _ => cases reads
      rw [List.filter_cons_of_neg (by simp [reads]), run_cons, List.flatten_cons, silent, ih kept,
        List.nil_append]
    | false =>
      obtain ⟨kept, same⟩ := alike.step e
      rw [List.filter_cons_of_pos (by simp [reads]), run_cons, run_cons, List.flatten_cons,
        List.flatten_cons, same, ih kept]

end Wiretap.FlowTable
