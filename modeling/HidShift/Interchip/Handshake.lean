import HidShift.Interchip.DeviceRequests
import HidShift.Interchip.HostCommand

namespace HidShift

open Lib

def SpiCell.HelloOnly (cell : SpiCell) : Prop :=
  ∃ records, cell.CarriesRecords records ∧
    ∀ record ∈ records, record.recordType = recordHello

theorem SpiCell.CarriesRecords.unique {cell : SpiCell}
    (left : cell.CarriesRecords first) (right : cell.CarriesRecords second) :
    first = second := by
  have same := left.1.symm.trans right.1
  exact List.map_injective_iff.mpr (fun _ _ equal => by cases equal; rfl) same

namespace DeviceLink

/-- Cells queued in a part are introductions, unless a compatible host is
known, and it becomes known only by its introduction. -/
structure Part.Gated (part : Part) : Prop where
  cells : ∀ cell ∈ part.newCells,
    part.after.hostCompatible = true ∨ cell.HelloOnly
  introduced : part.before.hostCompatible = false →
    part.after.hostCompatible = true →
      ∃ record, part.record = some record ∧
        isCompatibleHostHello record = true

/-- A request that waits is sent although no compatible host is known. -/
def Leaks (link : DeviceLink) : Call → Prop
  | .nextTransaction _ =>
      link.hostCompatible = false ∧ link.nextCell = none ∧
        (link.controlRequestTx.isSome = true ∨
          link.managementRequestTx.isSome = true) ∧
        link.sender.pendingLen < spiTxWindow
  | _ => False

variable {part : Part}

theorem gated_quiet (cells : part.newCells = [])
    (compatible : part.after.hostCompatible = true → part.before.hostCompatible
      = true) : part.Gated where
  cells := by
    intro cell new
    rw [cells] at new
    cases new
  introduced := by
    intro before after
    rw [compatible after] at before
    cases before

theorem gated_compatible (after : part.after.hostCompatible = true)
    (before : part.before.hostCompatible = true) : part.Gated where
  cells := fun _ _ => .inl after
  introduced := by
    intro unknown
    rw [before] at unknown
    cases unknown

theorem gated_hello {hello : List UInt8}
    (cells : ∀ cell ∈ part.newCells, cell.CarriesRecords [⟨recordHello, 0,
      hello⟩]) (after : part.after.hostCompatible = false) : part.Gated where
  cells := by
    intro cell new
    refine .inr ⟨_, cells cell new, fun record member => ?_⟩
    rw [List.mem_singleton.mp member]
  introduced := by
    intro _ compatible
    rw [after] at compatible
    cases compatible

theorem newCells_of_adds {before : ReliableSender} {records : List Record}
    (adds : before.Adds after records) :
    ∀ cell ∈ before.newCells after, cell.CarriesRecords records := by
  obtain ⟨only, cells, carries⟩ := adds.new
  intro cell new
  rw [cells] at new
  rw [List.mem_singleton.mp new]
  exact carries

theorem Handles.gated {part : Part} (handled : part.record = some record)
    (handles : Handles part.before record part.after) : part.Gated := by
  cases handles with
  | command diagnostics assembler frame =>
      refine gated_quiet ?_ ?_
      · rw [Part.newCells, frame]
        exact ReliableSender.newCells_self _
      · rw [frame]
        exact id
  | incompatible frame =>
      refine gated_quiet ?_ ?_
      · rw [Part.newCells, frame]
        exact ReliableSender.newCells_self _
      · rw [frame]
        exact fun impossible => nomatch impossible
  | compatible sender nextCell usbStateDirty introduced adds frame =>
      exact {
        cells := fun _ _ => .inl (by rw [frame])
        introduced := fun _ _ => ⟨record, handled, introduced⟩ }
  | reset sender nextCell resets adds frame =>
      refine @gated_hello part part.before.deviceHello.encode ?_
        (by rw [frame]; rfl)
      rw [Part.newCells, frame]
      rcases adds with same | adds
      · simp only [same]
        intro cell new
        rw [ReliableSender.newCells_self] at new
        cases new
      · exact newCells_of_adds adds
  | fallback diagnostics sender nextCell usbStateDirty adds frame =>
      rcases adds with same | ⟨compatible, adds⟩
      · refine gated_quiet ?_ ?_
        · rw [Part.newCells, frame]
          simp only [same]
          exact ReliableSender.newCells_self _
        · rw [frame]
          exact id
      · refine gated_compatible ?_ compatible
        rw [frame]
        exact compatible

theorem OpensPart.gated (streams : link.sender.Streams)
    (opens : OpensPart link part) : part.Gated := by
  obtain ⟨released, stream⟩ := streams
  obtain ⟨before, _, cumulativeAck, opened⟩ := opens
  refine gated_quiet ?_ ?_
  · rw [Part.newCells, before, opened.sender]
    exact ReliableSender.newCells_nil
      (ReliableSender.keys_acknowledge stream cumulativeAck)
  · obtain ⟨diagnostics, receiver, frame | frame⟩ := opened
    · rw [frame, before]
      exact id
    · rw [frame]
      exact fun impossible => nomatch impossible

variable {link : DeviceLink}

def single (link : DeviceLink) (after : DeviceLink) : Part :=
  ⟨link, none, after⟩

theorem gated_single :
    (∀ part ∈ [link.single after], part.Gated) ↔
      (link.single after).Gated :=
  List.forall_mem_singleton

section

variable (streams : link.sender.Streams)

include streams

theorem queueOneRecord_gated
    (recordType : UInt8) (data : List UInt8) (nowMs : UInt64) :
    (link.single (link.queueOneRecord recordType data nowMs).2).Gated := by
  rcases queueOneRecord_cases streams recordType data nowMs with
    refused | ⟨cell, sender, ready, queued, adds⟩
  · rw [refused]
    exact gated_quiet (ReliableSender.newCells_self _) id
  · rw [queued]
    exact gated_compatible (nextCell_of_ready ready).1
      (nextCell_of_ready ready).1

theorem updateUsbState_gated (state : UsbState) (nowMs : UInt64) :
    (link.single (link.updateUsbState state nowMs)).Gated := by
  rcases updateUsbState_cases streams state nowMs with
    kept | ⟨cell, sender, compatible, queued, adds⟩
  · rw [kept]
    exact gated_quiet (ReliableSender.newCells_self _) id
  · rw [queued]
    exact gated_compatible compatible compatible

theorem queueControlRequest_gated
    (request : MirrorControlRequest) (nowMs : UInt64) :
    (link.single (link.queueControlRequest request nowMs).2).Gated := by
  rcases queueControlRequest_cases streams request nowMs with
    ⟨refused, _⟩ | ⟨ready, _, ⟨stored, _⟩ |
      ⟨fragment, cell, sender, _, queued, _⟩⟩
  · rw [refused]
    exact gated_quiet (ReliableSender.newCells_self _) id
  · rw [stored]
    exact gated_quiet (ReliableSender.newCells_self _) id
  · rw [queued]
    exact gated_compatible (nextCell_of_ready ready).1
      (nextCell_of_ready ready).1

theorem queueManagementRequest_gated
    (request : ManagementRequest .dual) (nowMs : UInt64) :
    (link.single (link.queueManagementRequest request nowMs).2).Gated := by
  rcases queueManagementRequest_cases streams request nowMs with
    ⟨refused, _⟩ | ⟨ready, _, ⟨stored, _⟩ | ⟨cell, sender, queued, _⟩⟩
  · rw [refused]
    exact gated_quiet (ReliableSender.newCells_self _) id
  · rw [stored]
    exact gated_quiet (ReliableSender.newCells_self _) id
  · rw [queued]
    exact gated_compatible (nextCell_of_ready ready).1
      (nextCell_of_ready ready).1

theorem selectCell_requests (within : SlotWithin link.controlRequestTx)
    (empty : link.nextCell = none)
    (room : link.sender.pendingLen < spiTxWindow)
    (waiting : link.controlRequestTx.isSome = true ∨
      link.managementRequestTx.isSome = true) (nowMs : UInt64) :
    ∃ record, record.recordType ≠ recordHello ∧
      link.sender.Adds (link.selectCell nowMs).2.sender [record] ∧
        (link.selectCell nowMs).2.hostCompatible = link.hostCompatible := by
  rw [selectCell_empty empty]
  rcases controlFragment_cases streams nowMs with none_queued |
    ⟨request, offset, fragment, cell, sender, _, _, queued, adds⟩
  · have unasked : ¬ link.controlRequestTx.isSome = true := fun asked =>
      controlFragment_room streams within asked room nowMs none_queued
    have asked := waiting.resolve_left unasked
    rw [none_queued]
    change ∃ record, record.recordType ≠ recordHello ∧
      link.sender.Adds (orElse (orElse
        (link.queuePendingManagementRequest nowMs) _) _).2.sender [record] ∧
      (orElse (orElse (link.queuePendingManagementRequest nowMs)
        _) _).2.hostCompatible = _
    rcases managementRequest_cases streams nowMs with none_queued |
      ⟨request, cell, sender, _, queued, adds⟩
    · exact absurd none_queued (managementRequest_room streams asked room nowMs)
    · rw [queued]
      exact ⟨⟨recordManagementRequest, 0, request.encode⟩,
        show recordManagementRequest ≠ recordHello by decide, adds, rfl⟩
  · rw [queued]
    exact ⟨⟨recordControlRequest, 0, fragment.encode⟩,
      show recordControlRequest ≠ recordHello by decide, adds, rfl⟩

theorem nextTransaction_gated
    (within : SlotWithin link.controlRequestTx) (nowMs : UInt64) :
    (link.single (link.nextTransaction nowMs).2).Gated ↔
      ¬ link.Leaks (.nextTransaction nowMs) := by
  constructor
  · intro gated leaks
    obtain ⟨unknown, empty, waiting, room⟩ := leaks
    obtain ⟨released, stream⟩ := streams
    have keys := ReliableSender.keys_setCumulativeAck stream
      link.receiver.cumulativeAck
    have acked : link.acknowledgeHost.sender.pendingLen < spiTxWindow := by
      rw [← ReliableSender.length_keys] at room ⊢
      rw [← keys] at room
      exact room
    obtain ⟨record, other, adds, same⟩ := @selectCell_requests
      link.acknowledgeHost ⟨_, (stream.setCumulativeAck _).1⟩ within empty
        acked waiting nowMs
    obtain ⟨cell, cells, carries⟩ := (adds.congr keys.symm rfl).new
    have new : cell ∈ (link.single (link.nextTransaction nowMs).2).newCells := by
      change cell ∈ link.sender.newCells
        (link.acknowledgeHost.selectCell nowMs).2.sender
      rw [cells]
      exact List.mem_singleton_self cell
    rcases gated.cells cell new with compatible | ⟨records, only, hello⟩
    · have impossible := (same.symm.trans compatible).symm.trans unknown
      cases impossible
    · apply other
      apply hello
      rw [← carries.unique only]
      exact List.mem_singleton_self record
  · intro sealed
    have compatible (waiting : link.controlRequestTx.isSome = true ∨
        link.managementRequestTx.isSome = true)
        (empty : link.nextCell = none)
        (room : link.sender.pendingLen < spiTxWindow) :
        link.hostCompatible = true := by
      by_contra unknown
      rw [Bool.not_eq_true] at unknown
      exact sealed ⟨unknown, empty, waiting, room⟩
    cases nextTransaction_drains streams nowMs with
    | quiet sender after session cells frame =>
        refine gated_quiet ?_ ?_
        · rw [frame]
          exact cells
        · rw [frame]
          exact id
    | fragment request offset fragment sender waiting made empty adds frame =>
        have known := compatible (.inl (by rw [waiting]; rfl)) empty adds.room
        refine gated_compatible ?_ known
        rw [frame]
        exact known
    | management request sender waiting empty adds frame =>
        have known := compatible (.inr (by rw [waiting]; rfl)) empty adds.room
        refine gated_compatible ?_ known
        rw [frame]
        exact known
    | usbState sender known adds frame =>
        refine gated_compatible ?_ known
        rw [frame]
        exact known
    | restart sender after session cells frame =>
        refine @gated_hello _ link.deviceHello.encode ?_ ?_
        · rw [frame]
          exact cells
        · rw [frame]
          rfl

end

theorem gated_perform (requesting : Requesting link) (call : Call) :
    (∀ part ∈ (link.perform call).2.parts, part.Gated) ↔
      ¬ link.Leaks call := by
  obtain ⟨streams, within⟩ := requesting
  cases call with
  | updateUsbState state nowMs =>
      exact iff_of_true (gated_single.mpr (updateUsbState_gated streams _ _)) id
  | queueStandardOutput report nowMs =>
      exact iff_of_true
        (gated_single.mpr (queueOneRecord_gated streams _ _ _)) id
  | queueProfileResult result nowMs =>
      exact iff_of_true
        (gated_single.mpr (queueOneRecord_gated streams _ _ _)) id
  | queueRawEndpointOut report nowMs =>
      exact iff_of_true
        (gated_single.mpr (queueOneRecord_gated streams _ _ _)) id
  | queueControlRequest request nowMs =>
      exact iff_of_true
        (gated_single.mpr (queueControlRequest_gated streams _ _)) id
  | queueManagementRequest request nowMs =>
      exact iff_of_true
        (gated_single.mpr (queueManagementRequest_gated streams _ _)) id
  | nextTransaction nowMs =>
      exact gated_single.trans (nextTransaction_gated streams within nowMs)
  | handleTransaction wire nowMs events =>
      refine iff_of_true ?_ id
      intro part member
      rcases transactionParts_cases streams wire nowMs events part member with
        opens | ⟨_, record, handled, handles⟩
      · exact opens.gated streams
      · exact handles.gated handled

/-- In a run of the link every cell queued before a compatible host is known
is an introduction, except where a request that waits is sent. -/
theorem queued_before_hello {sessionId : UInt32} {usbState : UsbState}
    {capabilities activeProfileHash : UInt32}
    {history : List DeviceTransition}
    (run : Run Step (withCapabilities sessionId usbState capabilities
      activeProfileHash) history link) :
    ∀ taken ∈ history, (∀ part ∈ taken.output.parts, part.Gated) ↔
      ¬ taken.before.Leaks taken.event := by
  intro taken member
  obtain ⟨earlier, later, rfl⟩ := List.append_of_mem member
  obtain ⟨first, step, _⟩ := run.split_at
  have requesting := requesting_run first
    (requesting_withCapabilities sessionId usbState capabilities
      activeProfileHash)
  rw [show taken.output = (taken.before.perform taken.event).2 from
    (congrArg Prod.snd step).symm]
  exact gated_perform requesting taken.event

def received (link : DeviceLink) (cell : SpiCell) (nowMs : UInt64) :
    DeviceLink × Effect :=
  let turn : Turn 8 := ⟨link, .empty⟩
  ((turn.handleCell cell nowMs).link, ⟨true, turn.cellParts cell nowMs⟩)

def reception (cell : SpiCell) (nowMs : UInt64) : Call :=
  .handleTransaction (wireCell cell) nowMs
    (.empty : BoundedVec DeviceLinkEvent 8)

theorem perform_reception (valid : cell.Valid) (link : DeviceLink)
    (nowMs : UInt64) :
    link.perform (reception cell nowMs) = link.received cell nowMs := by
  rw [reception, perform, handleTransaction, transactionParts,
    decode_wireCell valid, received]

def hostCell (sequence : UInt16) (records : List Record) : SpiCell :=
  ({ ReliableSender.new 1 with nextSequence := sequence } :
    ReliableSender).queuedCell (records.flatMap Record.encode)
      (UInt8.ofNat records.length)

theorem hostCell_valid {sequence : UInt16} {records : List Record}
    (fits : (records.flatMap Record.encode).length ≤ spiCellPayloadLen)
    (numbered : sequence ≠ 0) : (hostCell sequence records).Valid :=
  ReliableSender.valid_queuedCell fits numbered

def helloRecord (hello : Hello) : Record := ⟨recordHello, 0, hello.encode⟩

def started : DeviceLink := DeviceLink.new 5 ⟨false, false, false, true, 0, 0⟩

def longRequest : MirrorControlRequest :=
  ⟨1, Vector.replicate 8 0, ⟨List.replicate 100 0, by decide⟩⟩

abbrev transition (link : DeviceLink) (call : Call)
    (result : DeviceLink × Effect) : DeviceTransition :=
  ⟨link, call, result.2, result.1⟩

def firstHello : SpiCell := hostCell 1 [helloRecord hostHello]

def otherHello : SpiCell :=
  hostCell 2 [helloRecord { hostHello with protocolVersion := 9 }]

def greeted : DeviceLink × Effect := started.received firstHello 1

def answered : DeviceLink × Effect := greeted.1.perform (.nextTransaction 2)

def requested : DeviceLink × Effect :=
  answered.1.perform (.queueControlRequest longRequest 3)

def refused : DeviceLink × Effect := requested.1.received otherHello 4

def continued : DeviceLink × Effect := refused.1.perform (.nextTransaction 5)

def leaked : DeviceLink × Effect := continued.1.perform (.nextTransaction 6)

theorem firstHello_valid : firstHello.Valid :=
  hostCell_valid (by decide) (by decide)

theorem otherHello_valid : otherHello.Valid :=
  hostCell_valid (by decide) (by decide)

def continuedHistory : List DeviceTransition :=
  [transition started (reception firstHello 1) greeted,
    transition greeted.1 (.nextTransaction 2) answered,
    transition answered.1 (.queueControlRequest longRequest 3) requested,
    transition requested.1 (reception otherHello 4) refused,
    transition refused.1 (.nextTransaction 5) continued]

theorem continued_run : Run Step started continuedHistory continued.1 :=
  .cons (perform_reception firstHello_valid _ _) (.cons rfl (.cons rfl
    (.cons (perform_reception otherHello_valid _ _) (.cons rfl (.nil _)))))

theorem queued_before_hello_continued :
    refused.1.nextCell.isSome = true ∧
      ∀ part ∈ continued.2.parts, part.Gated := by
  have kept : refused.1.nextCell.isSome = true := by decide +kernel
  refine ⟨kept, (queued_before_hello continued_run
    (transition refused.1 (.nextTransaction 5) continued) ?_).mpr ?_⟩
  · simp [continuedHistory]
  · intro leaks
    rw [show refused.1.nextCell = none from leaks.2.1] at kept
    cases kept

/-- The second piece of the request is queued for a host that is no longer
known to be compatible. -/
theorem request_leaks :
    ¬ ∀ history link, Run Step started history link →
      ∀ taken ∈ history, ∀ part ∈ taken.output.parts, part.Gated := by
  intro claimed
  have last : Run Step continued.1
      [transition continued.1 (.nextTransaction 6) leaked] leaked.1 :=
    .cons (perform_step continued.1 (.nextTransaction 6)) (.nil _)
  have gated := claimed _ _ (Run.append_iff.mpr ⟨_, continued_run, last⟩)
    (transition continued.1 (.nextTransaction 6) leaked)
    (List.mem_append_right _ List.mem_cons_self)
  have requesting : Requesting continued.1 :=
    requesting_run continued_run (requesting_withCapabilities ..)
  refine (gated_perform requesting (.nextTransaction 6)).mp gated ?_
  unfold Leaks
  decide +kernel

end DeviceLink

end HidShift
