import Wiretap.Proofs.Flow.Summary
import Wiretap.Proofs.Netflow.Delivery
import Wiretap.Proofs.Packet.Decode
import Wiretap.Receiver.Pipeline

/-!
# Nothing is lost between a datagram and the collector

For every flow, the numbers of packets and bytes that the collector is told add up to the number and
the length of the frames of that flow that arrived, as far as 32 bits can say it.

## Main definitions

* `Envelope.frame?`, `Packet.flowOf?` - the frame in a datagram and the flow of a frame.
* `Pipeline.Event`, `Pipeline.step`, `Pipeline.run`, `Pipeline.close` - a history of a pipeline and
  its end.
* `Netflow.collected` - what a collector reads.

## Main statements

* `Pipeline.exporter_step`, `Pipeline.exporter_run` - what a pipeline does to its exporter.
* `Pipeline.run_conserves` - frames that arrived and packets and bytes that the collector is told.

## Design notes

A history of a pipeline is a history of its exporter in which every frame is one packet, whatever
the other sinks make of the frame.  Of that history `handed_run` says what is handed over and
`run_blocks` which packets it sums up; the last step is a stop, after which no record is open.
-/

namespace Wiretap

/-! ## Frames and their flows -/

/-- The frame that a datagram holds, if it holds an envelope with one. -/
def Envelope.frame? (datagram : Bytes) : Option Bytes :=
  match Envelope.decode datagram with
  | .error _ => none
  | .ok envelope => if envelope.payload = [] then none else some envelope.payload

namespace Packet

/-- The flow of a frame. -/
def flowOf? (frame : Bytes) : Option FlowKey := FlowKey.ofPacket? (decode frame .zero).1

/-- When a frame was seen does not matter for its flow. -/
theorem ofPacket?_decode (frame : Bytes) (time : Duration) :
    FlowKey.ofPacket? (decode frame time).1 = flowOf? frame := by
  rw [decode_time]
  rfl

end Packet

/-- What is seen in a datagram is the frame that it holds. -/
theorem Sighting.frame_ofDatagram (data : Bytes) (arrival : Duration) :
    (Sighting.ofDatagram data arrival).toOption.map (·.frame) = Envelope.frame? data := by
  unfold Sighting.ofDatagram Envelope.frame?
  cases Envelope.decode data with
  | error e => rfl
  | ok envelope => by_cases empty : envelope.payload = [] <;> simp [empty, Except.toOption]

/-! ## What a collector reads -/

namespace Netflow

/-- What a collector reads, if it receives all that is handed over. -/
def collected (handed : List Handover) : List Datagram :=
  handed.filterMap fun h => Datagram.read? h.datagram

theorem collected_cons (up : Uplink) (n : Nat) (r : FlowRecord) (handed : List Handover) :
    collected (Sender.handover up n r :: handed) =
      .ofRecord r (UInt32.ofNat n) (up.clock n) :: collected handed := by
  have read : Datagram.read? (Sender.handover up n r).datagram = some _ :=
    read?_encodeRecord r (UInt32.ofNat n) (up.clock n)
  simp only [collected, List.filterMap_cons, read]

/-- A collector can read everything that a sender hands over. -/
theorem length_collected (up : Uplink) (n : Nat) (rs : List FlowRecord) :
    (collected (Sender.handovers up n rs)).length = (Sender.handovers up n rs).length := by
  induction rs generalizing n with
  | nil => rfl
  | cons r rs ih => rw [Sender.handovers, collected_cons, List.length_cons, ih, List.length_cons]

/-- What a collector reads of a flow is what the records of the flow say. -/
theorem map_collected {α : Type} (key : FlowKey) (told : Datagram → α) (value : FlowRecord → α)
    (agree : ∀ r sequence now, told (.ofRecord r sequence now) = value r) (up : Uplink) (n : Nat)
    (rs : List FlowRecord) :
    ((collected (Sender.handovers up n rs)).filter fun d => d.key = key).map told =
      (rs.filter fun r => r.key = key).map value := by
  induction rs generalizing n with
  | nil => rfl
  | cons r rs ih =>
    rw [Sender.handovers, collected_cons]
    by_cases own : r.key = key <;> simp [own, agree, ih]

end Netflow

/-! ## Histories of a pipeline -/

namespace Pipeline

open Netflow (Uplink Exporter)

/-- A step in the history of a pipeline. -/
inductive Event where
  | datagram (a : Arrival)
  | sweep (now : Duration)

/-- What has changed after one step more. -/
def step (up : Uplink) (h : Handled) : Event → Handled
  | .datagram a =>
    let after := h.pipeline.handle up h.disk h.tally a
    { after with
      notices := h.notices ++ after.notices
      exported := h.exported ++ after.exported
      crashed := h.crashed || after.crashed }
  | .sweep now =>
    match h.pipeline.exporter with
    | none => h
    | some exporter =>
      let after := exporter.sweep up now
      { h with
        pipeline := { h.pipeline with exporter := some after.1 }
        exported := h.exported ++ after.2 }

/-- What has changed after a history. -/
def run (up : Uplink) (h : Handled) (es : List Event) : Handled := es.foldl (step up) h

/-- What has changed after the exporter was stopped. -/
def close (up : Uplink) (h : Handled) : Handled :=
  match h.pipeline.exporter with
  | none => h
  | some exporter =>
    let after := exporter.stop up
    { h with
      pipeline := { h.pipeline with exporter := some after.1 }
      exported := h.exported ++ after.2 }

/-- The frame that arrives with a step. -/
def Event.frame? : Event → Option Bytes
  | .datagram a => Envelope.frame? a.data
  | .sweep _ => none

/-- What a step asks of the exporter. -/
def exporterEvent? : Event → Option Exporter.Event
  | .datagram a =>
    (Sighting.ofDatagram a.data a.time).toOption.map fun s =>
      .packet (Packet.decode s.frame s.time).1 a.now
  | .sweep now => some (.sweep now)

/-! ## The exporter of a pipeline -/

@[simp] theorem exporter_capture (h : Handled) (s : Sighting) (refused : Option Archive.Refusal) :
    (capture h s refused).pipeline.exporter = h.pipeline.exporter ∧
      (capture h s refused).exported = h.exported := by
  unfold capture
  split
  · exact ⟨rfl, rfl⟩
  · next archive _ =>
    obtain ⟨disk, archive, fault⟩ := archive.write h.disk s.frame s.time refused
    cases fault <;> exact ⟨rfl, rfl⟩

@[simp] theorem exporter_inspect (h : Handled) (source : SocketAddr) (p : Packet)
    (error : Option LayerError) :
    (inspect h source p error).pipeline.exporter = h.pipeline.exporter ∧
      (inspect h source p error).exported = h.exported := by
  cases error <;> exact ⟨rfl, rfl⟩

@[simp] theorem exporter_describe (h : Handled) (p : Packet) (refused : Option Fault) :
    (describe h p refused).pipeline.exporter = h.pipeline.exporter ∧
      (describe h p refused).exported = h.exported := by
  unfold describe
  split
  · exact ⟨rfl, rfl⟩
  · next log _ =>
    match log.write p refused with
    | .ok _ => exact ⟨rfl, rfl⟩
    | .error .beyondCalendar => exact ⟨rfl, rfl⟩
    | .error (.refused _) => exact ⟨rfl, rfl⟩

/-- A datagram asks the exporter to process the packet of its frame, if it holds one. -/
theorem exporter_handle (up : Uplink) (disk : Disk) (tally : Tally) {p : Pipeline} {x : Exporter}
    (sink : p.exporter = some x) (a : Arrival) :
    (p.handle up disk tally a).pipeline.exporter =
        some (x.run up (exporterEvent? (.datagram a)).toList).1 ∧
      (p.handle up disk tally a).exported =
        (x.run up (exporterEvent? (.datagram a)).toList).2.flatten := by
  simp only [handle, exporterEvent?]
  cases Sighting.ofDatagram a.data a.time with
  | error reason =>
    cases reason <;> simp [arrived, dropped, sink, Except.toOption, Exporter.run]
  | ok s =>
    simp [arrived, sighted, account, sink, Except.toOption, Exporter.run, Exporter.step]

/-- **A step of a pipeline is a step of its exporter**, or none. -/
theorem exporter_step (up : Uplink) {h : Handled} {x : Exporter}
    (sink : h.pipeline.exporter = some x) (e : Event) :
    (step up h e).pipeline.exporter = some (x.run up (exporterEvent? e).toList).1 ∧
      (step up h e).exported = h.exported ++ (x.run up (exporterEvent? e).toList).2.flatten := by
  cases e with
  | datagram a =>
    obtain ⟨exporter, exported⟩ := exporter_handle up h.disk h.tally sink a
    exact ⟨exporter, congrArg (h.exported ++ ·) exported⟩
  | sweep now => simp [step, sink, exporterEvent?, Exporter.run, Exporter.step]

/-- A history of a pipeline is a history of its exporter. -/
theorem exporter_run (up : Uplink) {h : Handled} {x : Exporter}
    (sink : h.pipeline.exporter = some x) (es : List Event) :
    (run up h es).pipeline.exporter = some (x.run up (es.filterMap exporterEvent?)).1 ∧
      (run up h es).exported =
        h.exported ++ (x.run up (es.filterMap exporterEvent?)).2.flatten := by
  induction es generalizing h x with
  | nil => exact ⟨sink, (List.append_nil _).symm⟩
  | cons e es ih =>
    obtain ⟨sinkNow, exportedNow⟩ := exporter_step up sink e
    obtain ⟨sinkLater, exportedLater⟩ := ih sinkNow
    rw [filterMap_cons_toList, Exporter.run_append]
    refine ⟨sinkLater, ?_⟩
    rw [List.flatten_append, ← List.append_assoc, ← exportedNow]
    exact exportedLater

/-- A pipeline asks its exporter to stop only when it is closed. -/
theorem stop_notMem (es : List Event) : .stop ∉ es.filterMap exporterEvent? := by
  intro member
  obtain ⟨e, _, stops⟩ := List.mem_filterMap.mp member
  cases e with
  | datagram a =>
    rw [exporterEvent?, Option.map_eq_some_iff] at stops
    obtain ⟨s, _, isStop⟩ := stops
    cases isStop
  | sweep now => cases stops

/-- A history of a pipeline with its end is a history of its exporter that a stop ends. -/
theorem exported_close_run (up : Uplink) {h : Handled} {x : Exporter}
    (sink : h.pipeline.exporter = some x) (es : List Event) :
    (close up (run up h es)).exported =
      h.exported ++ (x.run up (es.filterMap exporterEvent? ++ [.stop])).2.flatten := by
  obtain ⟨sinkAtEnd, exported⟩ := exporter_run up sink es
  rw [close, sinkAtEnd, Exporter.run_append, List.flatten_append, ← List.append_assoc, ← exported]
  exact congrArg ((run up h es).exported ++ ·) (List.append_nil _).symm

/-- Only a packet is accounted. -/
theorem packetsOf_tableEvents (x : Exporter) (key : FlowKey) {e : Exporter.Event}
    (noPacket : ∀ p now, e ≠ .packet p now) :
    FlowTable.packetsOf key (x.tableEvents e) = [] := by
  cases e with
  | packet p now => exact absurd rfl (noPacket p now)
  | sweep now =>
    rw [Exporter.tableEvents]
    split <;> rfl
  | stop =>
    rw [Exporter.tableEvents]
    split <;> rfl
  | start => rfl
  | readFlowCounts => rfl
  | readSenderCounts => rfl

/-- After a first stop no flow is open. -/
theorem find?_run_stop (up : Uplink) {x : Exporter} (running : x.stopped = false)
    {es : List Exporter.Event} (noStop : .stop ∉ es) (key : FlowKey) :
    (x.run up (es ++ [.stop])).1.table.find? key = none := by
  have noPacket : ∀ p now, Exporter.Event.packet p now ∉ [] := fun _ _ => List.not_mem_nil
  obtain ⟨spent, _⟩ := Exporter.isSpent_run_stop up running noStop noPacket
  rw [FlowTable.find?, spent.records]
  rfl

/-- A step asks the exporter to account the frame that arrives with it, if one does. -/
theorem lengths_packetsOf_step (up : Uplink) (x : Exporter) (key : FlowKey) (e : Event) :
    (FlowTable.packetsOf key (x.tableHistory up (exporterEvent? e).toList)).map (·.length) =
      (e.frame?.toList.filter fun frame => Packet.flowOf? frame = some key).map List.length := by
  cases e with
  | datagram a =>
    -- A datagram that is dropped has no frame, and the exporter is not asked anything.
    have held := Sighting.frame_ofDatagram a.data a.time
    rw [exporterEvent?, Event.frame?, ← held]
    cases Sighting.ofDatagram a.data a.time with
    | error reason => rfl
    | ok s =>
      simp only [Except.toOption, Option.map_some, Option.toList_some, Exporter.tableHistory,
        Exporter.trace, Exporter.tableEvents, List.append_nil, FlowTable.packetsOf_cons,
        FlowTable.packetOf?, Packet.ofPacket?_decode]
      by_cases own : Packet.flowOf? s.frame = some key <;> simp [own, FlowTable.packetsOf]
  | sweep now =>
    have silent := packetsOf_tableEvents x key (e := .sweep now) (by simp)
    simp [exporterEvent?, Event.frame?, Exporter.tableHistory, Exporter.trace, silent]

/-- The exporter of a pipeline is asked to account the frames that arrive. -/
theorem lengths_packetsOf (up : Uplink) (x : Exporter) (key : FlowKey) (es : List Event) :
    (FlowTable.packetsOf key (x.tableHistory up (es.filterMap exporterEvent?))).map (·.length) =
      ((es.filterMap Event.frame?).filter fun frame =>
        Packet.flowOf? frame = some key).map List.length := by
  induction es generalizing x with
  | nil => rfl
  | cons e es ih =>
    rw [filterMap_cons_toList, filterMap_cons_toList, Exporter.tableHistory_append,
      FlowTable.packetsOf_append, List.map_append, lengths_packetsOf_step, ih, List.filter_append,
      List.map_append]

/-- The records that a pipeline sends of a flow sum up the frames of the flow that arrived. -/
theorem summaries_sent (up : Uplink) (idle active : Duration) (collector : SocketAddr)
    (es : List Event) (key : FlowKey) :
    let x := (Exporter.fresh idle active collector).start
    let history := x.tableHistory up (es.filterMap exporterEvent? ++ [.stop])
    ∃ blocks : List (List Packet),
      blocks.flatten.map (·.length) = ((es.filterMap Event.frame?).filter fun frame =>
        Packet.flowOf? frame = some key).map List.length ∧
      List.Forall₂ (FlowRecord.IsSummary key) blocks
        ((x.table.run history).2.flatten.filter fun r => r.key = key) := by
  intro x history
  -- After the stop no record is open, so that every packet is in one that was sent.
  have noneOpen : (x.table.run history).1.find? key = none := by
    rw [← Exporter.table_run]
    exact find?_run_stop up rfl (stop_notMem es) key
  have fresh : FlowCell.Holds key [] (x.table.find? key) := rfl
  have distinct : x.table.Distinct := FlowTable.distinct_empty idle active
  obtain ⟨blocks, cut, summaries⟩ := FlowTable.run_blocks distinct fresh history
  rw [noneOpen, Option.toList_none, List.append_nil] at summaries
  refine ⟨blocks, ?_, summaries⟩
  have stopped : ∀ y : Exporter, FlowTable.packetsOf key (y.tableHistory up [.stop]) = [] := by
    intro y
    rw [Exporter.tableHistory_cons, FlowTable.packetsOf_append,
      packetsOf_tableEvents y key (by simp)]
    rfl
  rw [cut, List.nil_append, show history = _ from Exporter.tableHistory_append up x _ _,
    FlowTable.packetsOf_append, stopped, List.append_nil]
  exact lengths_packetsOf up x key es

/-- **Nothing is lost between a datagram and the collector.**  Datagrams and sweeps come in any
order, with any times, any timeouts and whatever the network and the other sinks do, and one stop
ends them.  Then the collector can read all that is handed over, and for every flow the packets and
the bytes that it is told add up, modulo 2^32, to the number and the length of the frames of that
flow, where no frame counts for more bytes than 32 bits can say.  It is told of no flow that no
frame had. -/
theorem run_conserves (up : Uplink) (idle active : Duration) (collector : SocketAddr)
    (archive : Option Archive) (log : Option MetadataLog) (disk : Disk) (tally : Tally)
    (es : List Event) (key : FlowKey) :
    let exporter := some (Exporter.fresh idle active collector).start
    let opened : Handled := { disk, tally, pipeline := { archive, log, exporter } }
    let sent := (close up (run up opened es)).exported
    let told := (Netflow.collected sent).filter fun d => d.key = key
    let frames := (es.filterMap Event.frame?).filter fun frame => Packet.flowOf? frame = some key
    (Netflow.collected sent).length = sent.length ∧
      (told.map (·.packets.toNat)).sum % 2 ^ 32 = frames.length % 2 ^ 32 ∧
      (told.map (·.octets.toNat)).sum % 2 ^ 32 =
        (frames.map fun frame => min frame.length (2 ^ 32 - 1)).sum % 2 ^ 32 ∧
      (frames = [] → told = []) := by
  intro exporter opened sent told frames
  let x := (Exporter.fresh idle active collector).start
  let events := es.filterMap exporterEvent? ++ [.stop]
  let records := (x.table.run (x.tableHistory up events)).2.flatten
  have handed : sent = Netflow.Sender.handovers up 0 records := by
    rw [← show _ = Netflow.Sender.handovers up 0 records from Exporter.handed_run up x events]
    exact exported_close_run up (h := opened) rfl es
  obtain ⟨blocks, lengths, summaries⟩ := summaries_sent up idle active collector es key
  have packets : told.map (·.packets.toNat) = _ :=
    handed ▸ Netflow.map_collected key (·.packets.toNat) (·.packets.toNat) (fun _ _ _ => rfl) up 0
      records
  have octets : told.map (·.octets.toNat) = _ :=
    handed ▸ Netflow.map_collected key (·.octets.toNat) (·.bytes.toNat) (fun _ _ _ => rfl) up 0
      records
  refine ⟨?_, ?_, ?_, ?_⟩
  · rw [handed]
    exact Netflow.length_collected up 0 records
  · have total := FlowRecord.IsSummary.sum_packets summaries
    have count := congrArg List.length lengths
    rw [List.length_map, List.length_map] at count
    rw [packets, total, count]
  · have total := FlowRecord.IsSummary.sum_bytes summaries
    -- A record knows packets, of which only the lengths are those of the frames.
    have capped : blocks.flatten.map Packet.exportedLength =
        frames.map fun frame => min frame.length (2 ^ 32 - 1) := by
      have each := congrArg (List.map fun length => min length (2 ^ 32 - 1)) lengths
      rw [List.map_map, List.map_map] at each
      exact each
    rw [octets, total, capped]
  · intro noFrame
    rw [show List.filter _ _ = ([] : List Bytes) from noFrame, List.map_nil,
      List.map_eq_nil_iff] at lengths
    have noRecord := FlowRecord.IsSummary.eq_nil_of_flatten summaries lengths
    rw [noRecord] at packets
    exact List.map_eq_nil_iff.mp packets

/-- One frame of one flow, and nothing of any other. -/
theorem run_conserves_one_frame :
    let frame : Bytes := [2, 0, 0, 0, 0, 2, 2, 0, 0, 0, 0, 1, 8, 0] ++
      [69, 0, 0, 28, 0, 0, 0, 0, 64, 17, 0, 0, 10, 0, 0, 1, 10, 0, 0, 2] ++
      [19, 136, 0, 53, 0, 8, 0, 0]
    let a : Arrival :=
      { data := [1, 0, 0, 1, 1] ++ frame
        source := { ip := .v4 default, port := 37008 }
        time := .zero
        now := .zero }
    let up : Uplink := { clock := fun _ => .zero }
    let exporter :=
      (Exporter.fresh (.ofSecs 15) (.ofSecs 60) { ip := .v4 default, port := 2055 }).start
    let opened : Handled := { disk := {}, tally := {}, pipeline := { exporter } }
    let read := Netflow.collected (close up (run up opened [.datagram a])).exported
    ((read.filter fun d => d.key = ⟨⟨10, 0, 0, 1⟩, ⟨10, 0, 0, 2⟩, 5000, 53, 17⟩).map
        (·.octets.toNat)).sum % 2 ^ 32 = 42 ∧
      read.filter (fun d => d.key = default) = [] := by
  intro frame a up exporter opened read
  have arrived : [Event.datagram a].filterMap Event.frame? = [frame] := by
    simp [Event.frame?, Envelope.frame?, Envelope.decode, Envelope.decodeTags, a, frame,
      TagKind.ofNumber, Envelope.supportedVersion]
  have conserved := run_conserves up (.ofSecs 15) (.ofSecs 60)
    { ip := .v4 default, port := 2055 } none none {} {} [.datagram a]
  constructor
  · obtain ⟨-, -, octets, -⟩ := conserved ⟨⟨10, 0, 0, 1⟩, ⟨10, 0, 0, 2⟩, 5000, 53, 17⟩
    rw [arrived] at octets
    exact octets
  · obtain ⟨-, -, -, untold⟩ := conserved default
    rw [arrived] at untold
    exact untold rfl

end Pipeline

end Wiretap
