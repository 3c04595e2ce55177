import HidShift.Interchip.DeviceStream
import HidShift.Interchip.NewCells
import HidShift.Lib.Run

namespace HidShift

open Lib

namespace DeviceLink

/-- A part of a call in which at most one cell is queued, with the record it
handles. -/
structure Part where
  before : DeviceLink
  record : Option Record
  after : DeviceLink

def Part.newCells (part : Part) : List SpiCell :=
  part.before.sender.newCells part.after.sender

namespace Turn

variable {capacity : Nat} (turn : Turn capacity)

/-- The turn after `receive` of the receiver, and whether the cell was
accepted. -/
def admitted (cell : SpiCell) : Turn capacity × Bool :=
  let (disposition, receiver) := turn.link.receiver.receive cell
  let turn := turn.update fun link => { link with receiver }
  match disposition with
  | .accepted _ _ => (turn, true)
  | .duplicate _ =>
      (turn.count fun diagnostics =>
        { diagnostics with
          duplicateCells := saturatingCount diagnostics.duplicateCells },
        false)
  | .gap _ _ =>
      (turn.count fun diagnostics =>
        { diagnostics with
          sequenceGaps := saturatingCount diagnostics.sequenceGaps }, false)
  | .empty | .sessionChanged => (turn, false)

/-- The turn up to the records of a cell, and whether they are handled. -/
def opened (cell : SpiCell) : Turn capacity × Bool :=
  let turn := turn.count fun diagnostics =>
    { diagnostics with validCells := saturatingCount diagnostics.validCells }
  let turn := turn.acknowledged cell.header.cumulativeAck
  if turn.link.receiver.sessionId ≠ some cell.header.sessionId then
    let turn := turn.count fun diagnostics =>
      { diagnostics with
        hostSessionChanges := saturatingCount diagnostics.hostSessionChanges }
    let turn := turn.update dropTransfers
    if ¬ containsCompatibleHostHello cell then
      (turn.update fun link =>
        { link with
          receiver := link.receiver.resetSession cell.header.sessionId },
        false)
    else turn.admitted cell
  else if ¬ turn.link.hostCompatible ∧ ¬ containsCompatibleHostHello cell then
    (turn, false)
  else turn.admitted cell

theorem receive_admitted (cell : SpiCell) (nowMs : UInt64) :
    turn.receive cell nowMs =
      if (turn.admitted cell).2 then
        (turn.admitted cell).1.handleRecords cell nowMs
      else (turn.admitted cell).1 := by
  unfold receive admitted
  simp only
  cases (turn.link.receiver.receive cell).1 <;> rfl

theorem handleCell_opened (cell : SpiCell) (nowMs : UInt64) :
    turn.handleCell cell nowMs =
      if (turn.opened cell).2 then
        (turn.opened cell).1.handleRecords cell nowMs
      else (turn.opened cell).1 := by
  unfold handleCell opened
  simp only
  split
  · split
    · rfl
    · exact receive_admitted _ cell nowMs
  · split
    · rfl
    · exact receive_admitted _ cell nowMs

def itemParts (nowMs : UInt64) :
    List (Except RecordCodecError Record) → Turn capacity → List Part
  | [], _ => []
  | .error _ :: _, _ => []
  | .ok record :: rest, turn =>
      ⟨turn.link, some record, (turn.handleRecord record nowMs).link⟩ ::
        itemParts nowMs rest (turn.handleRecord record nowMs)

def cellParts (cell : SpiCell) (nowMs : UInt64) : List Part :=
  ⟨turn.link, none, (turn.opened cell).1.link⟩ ::
    if (turn.opened cell).2 then
      itemParts nowMs (RecordIter.ofCell cell).items.1 (turn.opened cell).1
    else []

end Turn

inductive Call
  | updateUsbState (state : UsbState) (nowMs : UInt64)
  | queueStandardOutput (report : StandardOutputReport) (nowMs : UInt64)
  | queueProfileResult (result : ProfileResult) (nowMs : UInt64)
  | queueRawEndpointOut (report : RawEndpointReport) (nowMs : UInt64)
  | queueControlRequest (request : MirrorControlRequest) (nowMs : UInt64)
  | queueManagementRequest (request : ManagementRequest .dual) (nowMs : UInt64)
  | nextTransaction (nowMs : UInt64)
  | handleTransaction {capacity : Nat} (wire : Vector UInt8 spiCellLen)
      (nowMs : UInt64) (events : BoundedVec DeviceLinkEvent capacity)

/-- What a `queue_*` call returned, and the parts of a call. -/
structure Effect where
  returned : Bool
  parts : List Part

def whole (link : DeviceLink) (result : Bool × DeviceLink) :
    DeviceLink × Effect :=
  (result.2, ⟨result.1, [⟨link, none, result.2⟩]⟩)

def transactionParts {capacity : Nat} (link : DeviceLink)
    (wire : Vector UInt8 spiCellLen) (nowMs : UInt64)
    (events : BoundedVec DeviceLinkEvent capacity) : List Part :=
  match SpiCell.decode wire with
  | .error _ => []
  | .ok cell => (⟨link, events⟩ : Turn capacity).cellParts cell nowMs

def perform (link : DeviceLink) : Call → DeviceLink × Effect
  | .updateUsbState state nowMs =>
      link.whole (true, link.updateUsbState state nowMs)
  | .queueStandardOutput report nowMs =>
      link.whole (link.queueStandardOutput report nowMs)
  | .queueProfileResult result nowMs =>
      link.whole (link.queueProfileResult result nowMs)
  | .queueRawEndpointOut report nowMs =>
      link.whole (link.queueRawEndpointOut report nowMs)
  | .queueControlRequest request nowMs =>
      link.whole (link.queueControlRequest request nowMs)
  | .queueManagementRequest request nowMs =>
      link.whole (link.queueManagementRequest request nowMs)
  | .nextTransaction nowMs =>
      link.whole (true, (link.nextTransaction nowMs).2)
  | .handleTransaction wire nowMs events =>
      ((link.handleTransaction wire nowMs events).link,
        ⟨true, link.transactionParts wire nowMs events⟩)

def Step (before : DeviceLink) (call : Call) (effect : Effect)
    (after : DeviceLink) : Prop := before.perform call = (after, effect)

theorem perform_step (link : DeviceLink) (call : Call) :
    Step link call (link.perform call).2 (link.perform call).1 := rfl

abbrev DeviceTransition := Transition DeviceLink Call Effect

variable {link : DeviceLink}

section

variable (streams : link.sender.Streams)

include streams

theorem queueRecords_cases (records : List Record) (nowMs : UInt64) :
    link.queueRecords records nowMs = (none, link) ∨
      ∃ cell sender, link.queueRecords records nowMs =
          (some cell, { link with sender }) ∧
        link.sender.Adds sender records := by
  rw [queueRecords]
  split
  · exact .inl rfl
  · rename_i content count encoded
    split
    · exact .inl rfl
    · rename_i cell sender queued
      exact .inr ⟨cell, sender, rfl,
        ReliableSender.adds_queue streams encoded queued⟩

theorem queueRecord_cases
    (recordType : UInt8) (data : List UInt8) (nowMs : UInt64) :
    link.queueRecord recordType data nowMs = (none, link) ∨
      ∃ cell sender, link.queueRecord recordType data nowMs =
          (some cell, { link with sender }) ∧
        link.sender.Adds sender [⟨recordType, 0, data⟩] :=
  queueRecords_cases streams _ nowMs

theorem dirtyUsbState_cases (nowMs : UInt64) :
    link.queueDirtyUsbState nowMs = (none, link) ∨
      ∃ cell sender, link.queueDirtyUsbState nowMs =
          (some cell, { link with sender, usbStateDirty := false }) ∧
        link.hostCompatible = true ∧
        link.sender.Adds sender
          [⟨recordUsbState, 0, link.usbState.encode⟩] := by
  rw [queueDirtyUsbState]
  split
  · exact .inl rfl
  · rename_i reported
    have compatible : link.hostCompatible = true := by
      rw [not_or, Decidable.not_not] at reported
      exact reported.1
    rcases queueRecord_cases streams recordUsbState link.usbState.encode nowMs
      with none_queued | ⟨cell, sender, queued, adds⟩
    · rw [none_queued]
      exact .inl rfl
    · rw [queued]
      exact .inr ⟨cell, sender, rfl, compatible, adds⟩

theorem helloAck_cases (nowMs : UInt64) :
    link.queueHelloAckAndUsbState nowMs = (none, link) ∨
      ∃ cell sender, link.queueHelloAckAndUsbState nowMs =
          (some cell, { link with sender, usbStateDirty := false }) ∧
        link.sender.Adds sender
          [⟨recordHelloAck, 0, link.deviceHello.encode⟩,
            ⟨recordUsbState, 0, link.usbState.encode⟩] := by
  rw [queueHelloAckAndUsbState]
  rcases queueRecords_cases streams _ nowMs with
    none_queued | ⟨cell, sender, queued, adds⟩
  · rw [none_queued]
    exact .inl rfl
  · rw [queued]
    exact .inr ⟨cell, sender, rfl, adds⟩

end

def afterFragment (request : MirrorControlRequest) (offset : UInt16)
    (fragment : ControlRequestFragment) :
    Option (MirrorControlRequest × UInt16) :=
  if isLastFragment fragment.flags then none
  else some (request, UInt16.ofNat (offset.toNat + fragment.data.toList.length))

theorem controlFragment_cases (streams : link.sender.Streams) (nowMs : UInt64) :
    link.queueNextControlRequestFragment nowMs = (none, link) ∨
      ∃ request offset fragment cell sender,
        link.controlRequestTx = some (request, offset) ∧
        ControlRequestFragment.fromRequest request offset.toNat = .ok fragment ∧
        link.queueNextControlRequestFragment nowMs =
          (some cell, { link with
            sender
            controlRequestTx := afterFragment request offset fragment }) ∧
        link.sender.Adds sender
          [⟨recordControlRequest, 0, fragment.encode⟩] := by
  unfold queueNextControlRequestFragment
  split
  · exact .inl rfl
  · rename_i request offset waiting
    split
    · exact .inl rfl
    · rename_i fragment made
      rcases queueRecord_cases streams recordControlRequest fragment.encode
        nowMs with none_queued | ⟨cell, sender, queued, adds⟩
      · rw [none_queued]
        exact .inl rfl
      · rw [queued]
        exact .inr ⟨request, offset, fragment, cell, sender, waiting, made,
          rfl, adds⟩

theorem managementRequest_cases (streams : link.sender.Streams)
    (nowMs : UInt64) :
    link.queuePendingManagementRequest nowMs = (none, link) ∨
      ∃ request cell sender, link.managementRequestTx = some request ∧
        link.queuePendingManagementRequest nowMs =
          (some cell, { link with sender, managementRequestTx := none }) ∧
        link.sender.Adds sender
          [⟨recordManagementRequest, 0, request.encode⟩] := by
  unfold queuePendingManagementRequest
  split
  · exact .inl rfl
  · rename_i request waiting
    rcases queueRecord_cases streams recordManagementRequest request.encode
      nowMs with none_queued | ⟨cell, sender, queued, adds⟩
    · rw [none_queued]
      exact .inl rfl
    · rw [queued]
      exact .inr ⟨request, cell, sender, waiting, rfl, adds⟩

inductive Drains (link after : DeviceLink) : Prop
  | quiet (sender : ReliableSender) (streams : sender.Streams)
      (session : sender.sessionId = link.sender.sessionId)
      (cells : link.sender.newCells sender = [])
      (frame : after = { link with sender, nextCell := none })
  | fragment (request : MirrorControlRequest) (offset : UInt16)
      (fragment : ControlRequestFragment) (sender : ReliableSender)
      (waiting : link.controlRequestTx = some (request, offset))
      (made : ControlRequestFragment.fromRequest request offset.toNat =
        .ok fragment)
      (empty : link.nextCell = none)
      (adds : link.sender.Adds sender
        [⟨recordControlRequest, 0, fragment.encode⟩])
      (frame : after = { link with
        sender
        nextCell := none
        controlRequestTx := afterFragment request offset fragment })
  | management (request : ManagementRequest .dual) (sender : ReliableSender)
      (waiting : link.managementRequestTx = some request)
      (empty : link.nextCell = none)
      (adds : link.sender.Adds sender
        [⟨recordManagementRequest, 0, request.encode⟩])
      (frame : after = { link with
        sender
        nextCell := none
        managementRequestTx := none })
  | usbState (sender : ReliableSender) (compatible : link.hostCompatible = true)
      (adds : link.sender.Adds sender
        [⟨recordUsbState, 0, link.usbState.encode⟩])
      (frame : after = { link with
        sender
        nextCell := none
        usbStateDirty := false })
  | restart (sender : ReliableSender) (streams : sender.Streams)
      (session : sender.sessionId ≠ link.sender.sessionId)
      (cells : ∀ cell ∈ link.sender.newCells sender,
        cell.CarriesRecords [⟨recordHello, 0, link.deviceHello.encode⟩])
      (frame : after = { link with
        sender
        nextCell := none
        hostCompatible := false
        usbStateDirty := true })

theorem restartSession_drains (streams : link.sender.Streams) (nowMs : UInt64) :
    ∃ sender, (link.restartSession nowMs).2 = { link with
        sender
        hostCompatible := false
        usbStateDirty := true } ∧ sender.Streams ∧
      sender.sessionId ≠ link.sender.sessionId ∧
      ∀ cell ∈ link.sender.newCells sender,
        cell.CarriesRecords [⟨recordHello, 0, link.deviceHello.encode⟩] := by
  obtain ⟨released, stream⟩ := streams
  let fresh := link.sender.resetSession
    (nonzeroSession (link.sender.sessionId + 1))
  have reset : fresh.Stream 0 := link.sender.stream_resetSession _
  have changed : fresh.sessionId ≠ link.sender.sessionId :=
    nonzeroSession_succ_ne _
  have unsent : fresh.keys = [] := link.sender.keys_resetSession _
  have restarted := @queueRecord_cases { link with
    sender := fresh, hostCompatible := false, usbStateDirty := true }
    ⟨0, reset⟩ recordHello link.deviceHello.encode nowMs
  change _ = _ ∨ ∃ cell sender, link.restartSession nowMs = _ ∧ _ at restarted
  rcases restarted with none_queued | ⟨cell, sender, queued, adds⟩
  · change link.restartSession nowMs = _ at none_queued
    rw [none_queued]
    refine ⟨fresh, rfl, ⟨0, reset⟩, changed, fun cell new => ?_⟩
    rw [ReliableSender.newCells_restarted stream reset unsent changed,
      ReliableSender.newCells_self] at new
    cases new
  · rw [queued]
    have session : sender.sessionId ≠ link.sender.sessionId := by
      rw [adds.session]
      exact changed
    refine ⟨sender, rfl, adds.streams, session, fun found new => ?_⟩
    obtain ⟨second, afterStream⟩ := adds.streams
    obtain ⟨only, cells, carries⟩ := adds.new
    rw [ReliableSender.newCells_restarted stream afterStream unsent session,
      cells] at new
    rw [List.mem_singleton.mp new]
    exact carries

theorem pollRetransmit_drains (streams : link.sender.Streams) (nowMs : UInt64) :
    (∃ sender, (link.pollRetransmit nowMs).2 = { link with sender } ∧
      sender.Streams ∧ sender.sessionId = link.sender.sessionId ∧
        sender.keys = link.sender.keys) ∨
      link.pollRetransmit nowMs = link.restartSession nowMs := by
  obtain ⟨released, stream⟩ := streams
  have keys := ReliableSender.keys_pollRetransmit stream nowMs
    retransmitTimeoutMs maxRetransmitAttempts
  rcases stream.pollRetransmit nowMs retransmitTimeoutMs
    maxRetransmitAttempts with (idle | reset) | ⟨cell, after, sent,
      afterStream, session, _⟩
  · left
    unfold DeviceLink.pollRetransmit
    rw [idle]
    exact ⟨link.sender, rfl, ⟨released, stream⟩, rfl, rfl⟩
  · right
    unfold DeviceLink.pollRetransmit
    rw [reset]
  · left
    unfold DeviceLink.pollRetransmit
    rw [sent] at keys ⊢
    exact ⟨after, rfl, ⟨released, afterStream⟩, session, keys⟩

theorem selectCell_kept {cell : SpiCell} (kept : link.nextCell = some cell)
    (nowMs : UInt64) :
    link.selectCell nowMs = (some cell, { link with nextCell := none }) := by
  unfold selectCell takeNextCell
  rw [kept]
  rfl

theorem selectCell_empty (empty : link.nextCell = none) (nowMs : UInt64) :
    link.selectCell nowMs =
      orElse (orElse (orElse (link.queueNextControlRequestFragment nowMs)
        (·.queuePendingManagementRequest nowMs))
          (·.queueDirtyUsbState nowMs)) (·.pollRetransmit nowMs) := by
  have forgotten : ({ link with nextCell := none } : DeviceLink) = link := by
    rw [← empty]
  unfold selectCell takeNextCell
  rw [empty, forgotten]
  rfl

theorem selectCell_drains (streams : link.sender.Streams)
    (empty : link.nextCell = none) (nowMs : UInt64) :
    Drains link (link.selectCell nowMs).2 := by
  rw [selectCell_empty empty]
  rcases controlFragment_cases streams nowMs with none_queued |
    ⟨request, offset, fragment, cell, sender, waiting, made, queued, adds⟩
  · rw [none_queued]
    change Drains link (orElse (orElse
      (link.queuePendingManagementRequest nowMs) _) _).2
    rcases managementRequest_cases streams nowMs with none_queued |
      ⟨request, cell, sender, waiting, queued, adds⟩
    · rw [none_queued]
      change Drains link (orElse (link.queueDirtyUsbState nowMs) _).2
      rcases dirtyUsbState_cases streams nowMs with none_queued |
        ⟨cell, sender, queued, compatible, adds⟩
      · rw [none_queued]
        change Drains link (link.pollRetransmit nowMs).2
        rcases pollRetransmit_drains streams nowMs with
          ⟨sender, polled, after, session, keys⟩ | restarts
        · refine .quiet sender after session ?_ ?_
          · exact ReliableSender.newCells_same keys
          · rw [polled, empty]
        · rw [restarts]
          obtain ⟨sender, restarted, after, session, cells⟩ :=
            restartSession_drains streams nowMs
          refine .restart sender after session cells ?_
          rw [restarted, empty]
      · rw [queued]
        refine .usbState sender compatible adds ?_
        rw [← empty]
        rfl
    · rw [queued]
      refine .management request sender waiting empty adds ?_
      rw [← empty]
      rfl
  · rw [queued]
    refine .fragment request offset fragment sender waiting made empty adds ?_
    rw [← empty]
    rfl

theorem nextTransaction_drains (streams : link.sender.Streams)
    (nowMs : UInt64) : Drains link (link.nextTransaction nowMs).2 := by
  obtain ⟨released, stream⟩ := streams
  have acked : link.acknowledgeHost.sender.Stream released :=
    (stream.setCumulativeAck link.receiver.cumulativeAck).1
  have keys : link.sender.keys = link.acknowledgeHost.sender.keys :=
    (ReliableSender.keys_setCumulativeAck stream _).symm
  change Drains link (link.acknowledgeHost.selectCell nowMs).2
  cases kept : link.nextCell with
  | some cell =>
      rw [@selectCell_kept link.acknowledgeHost cell kept]
      refine .quiet link.acknowledgeHost.sender ⟨released, acked⟩ rfl ?_ rfl
      exact ReliableSender.newCells_same keys.symm
  | none =>
      cases selectCell_drains ⟨released, acked⟩ kept nowMs with
      | quiet sender after session cells frame =>
          refine .quiet sender after session ?_ frame
          rw [ReliableSender.newCells_congr keys]
          exact cells
      | fragment request offset fragment sender waiting made empty adds frame =>
          exact .fragment request offset fragment sender waiting made empty
            (adds.congr keys rfl) frame
      | management request sender waiting empty adds frame =>
          exact .management request sender waiting empty (adds.congr keys rfl)
            frame
      | usbState sender compatible adds frame =>
          exact .usbState sender compatible (adds.congr keys rfl) frame
      | restart sender after session cells frame =>
          refine .restart sender after session ?_ frame
          rw [ReliableSender.newCells_congr keys]
          exact cells

theorem withNextCell_none (empty : link.nextCell = none) :
    withNextCell (none, link) = link := by
  unfold withNextCell
  rw [← empty]

theorem nextCell_of_ready (ready : link.ready = true) :
    link.hostCompatible = true ∧ link.nextCell = none := by
  obtain ⟨compatible, empty⟩ := Bool.and_eq_true_iff.mp ready
  exact ⟨compatible, Option.isNone_iff_eq_none.mp empty⟩

theorem busy_iff {α : Type} {slot : Option α} :
    ¬ link.ready = true ∨ slot.isSome = true ↔
      ¬ (link.ready = true ∧ slot = none) := by
  cases slot <;> simp

section

variable (streams : link.sender.Streams)

include streams

theorem queueOneRecord_cases
    (recordType : UInt8) (data : List UInt8) (nowMs : UInt64) :
    link.queueOneRecord recordType data nowMs = (false, link) ∨
      ∃ cell sender, link.ready = true ∧
        link.queueOneRecord recordType data nowMs =
          (true, { link with sender, nextCell := some cell }) ∧
        link.sender.Adds sender [⟨recordType, 0, data⟩] := by
  unfold queueOneRecord
  cases ready : link.ready with
  | false => exact .inl (if_pos Bool.false_ne_true)
  | true =>
      rw [if_neg (fun unready => unready rfl)]
      rcases queueRecord_cases streams recordType data nowMs with
        none_queued | ⟨cell, sender, queued, adds⟩
      · rw [none_queued, withNextCell_none (nextCell_of_ready ready).2]
        left
        simp only [(nextCell_of_ready ready).2]
        rfl
      · rw [queued]
        exact .inr ⟨cell, sender, rfl, rfl, adds⟩

theorem updateUsbState_cases (usbState : UsbState) (nowMs : UInt64) :
    link.updateUsbState usbState nowMs =
        { link with usbState, usbStateDirty := true } ∨
      ∃ cell sender, link.hostCompatible = true ∧
        link.updateUsbState usbState nowMs = { link with
          sender
          usbState
          usbStateDirty := false
          nextCell := some cell } ∧
        link.sender.Adds sender [⟨recordUsbState, 0, usbState.encode⟩] := by
  unfold updateUsbState
  simp only
  split
  · rename_i allowed
    have empty := Option.isNone_iff_eq_none.mp allowed.2
    rcases @dirtyUsbState_cases { link with usbState, usbStateDirty := true }
      streams nowMs with none_queued | ⟨cell, sender, queued, _, adds⟩
    · left
      rw [none_queued]
      simp only [withNextCell, empty]
    · rw [queued]
      exact .inr ⟨cell, sender, allowed.1, rfl, adds⟩
  · exact .inl rfl

theorem queueControlRequest_cases
    (request : MirrorControlRequest) (nowMs : UInt64) :
    (link.queueControlRequest request nowMs = (false, link) ∧
        ¬ (link.ready = true ∧ link.controlRequestTx = none)) ∨
      (link.ready = true ∧ link.controlRequestTx = none ∧
        ((link.queueControlRequest request nowMs =
            (false, { link with controlRequestTx := some (request, 0) }) ∧
          ({ link with controlRequestTx := some (request, 0) } :
            DeviceLink).queueNextControlRequestFragment nowMs =
              (none, { link with controlRequestTx := some (request, 0) })) ∨
          ∃ fragment cell sender,
            ControlRequestFragment.fromRequest request 0 = .ok fragment ∧
            link.queueControlRequest request nowMs =
              (true, { link with
                sender
                nextCell := some cell
                controlRequestTx := afterFragment request 0 fragment }) ∧
            link.sender.Adds sender
              [⟨recordControlRequest, 0, fragment.encode⟩])) := by
  unfold queueControlRequest
  split
  · rename_i busy
    exact .inl ⟨rfl, busy_iff.mp busy⟩
  · rename_i free
    obtain ⟨ready, slot⟩ := Decidable.not_not.mp (mt busy_iff.mpr free)
    have empty := (nextCell_of_ready ready).2
    refine .inr ⟨ready, slot, ?_⟩
    rcases @controlFragment_cases
      { link with controlRequestTx := some (request, 0) } streams nowMs with
      none_queued | ⟨other, offset, fragment, cell, sender, waiting, made,
        queued, adds⟩
    · refine .inl ⟨?_, none_queued⟩
      simp only
      rw [none_queued]
      simp only [withNextCell, empty]
      rfl
    · cases waiting
      simp only
      rw [queued]
      exact .inr ⟨fragment, cell, sender, made, rfl, adds⟩

theorem queueManagementRequest_cases
    (request : ManagementRequest .dual) (nowMs : UInt64) :
    (link.queueManagementRequest request nowMs = (false, link) ∧
        ¬ (link.ready = true ∧ link.managementRequestTx = none)) ∨
      (link.ready = true ∧ link.managementRequestTx = none ∧
        ((link.queueManagementRequest request nowMs =
            (false, { link with managementRequestTx := some request }) ∧
          ({ link with managementRequestTx := some request } :
            DeviceLink).queuePendingManagementRequest nowMs =
              (none, { link with managementRequestTx := some request })) ∨
          ∃ cell sender, link.queueManagementRequest request nowMs =
              (true, { link with sender, nextCell := some cell }) ∧
            link.sender.Adds sender
              [⟨recordManagementRequest, 0, request.encode⟩])) := by
  unfold queueManagementRequest
  split
  · rename_i busy
    exact .inl ⟨rfl, busy_iff.mp busy⟩
  · rename_i free
    obtain ⟨ready, slot⟩ := Decidable.not_not.mp (mt busy_iff.mpr free)
    have empty := (nextCell_of_ready ready).2
    refine .inr ⟨ready, slot, ?_⟩
    rcases @managementRequest_cases
      { link with managementRequestTx := some request } streams nowMs with
      none_queued | ⟨other, cell, sender, waiting, queued, adds⟩
    · refine .inl ⟨?_, none_queued⟩
      simp only
      rw [none_queued]
      simp only [withNextCell, empty]
      rfl
    · cases waiting
      simp only
      rw [queued]
      refine .inr ⟨cell, sender, ?_, adds⟩
      rw [← slot]
      rfl

end

end DeviceLink

end HidShift
