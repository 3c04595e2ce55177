import HidShift.Interchip.DeviceLink
import HidShift.Interchip.SenderStream

namespace HidShift

open Lib

/-- A cell of the present session.  It may have been released since, but not
more than `slack` positions ago. -/
structure ReliableSender.InStream (sender : ReliableSender)
    (released slack : Nat) (cell : SpiCell) : Prop where
  numbered : ∃ position, sender.Numbered position cell ∧
    position < released + sender.pendingLen ∧ released ≤ position + slack

namespace DeviceLink

structure Good (released slack : Nat) (link : DeviceLink) : Prop where
  stream : link.sender.Stream released
  nextCell : ∀ cell, link.nextCell = some cell →
    link.sender.InStream released slack cell

structure Extends (before after : DeviceLink) : Prop where
  session : after.sender.sessionId = before.sender.sessionId
  window : ∀ released, before.sender.Stream released →
    after.sender.Stream released ∧
      ∃ queued, after.sender.pendingCells = before.sender.pendingCells ++ queued

/-- Cells were queued at most, and the cell kept for the next transaction is
an earlier one or one of them. -/
structure Continues (before after : DeviceLink) : Prop extends
    Extends before after where
  nextCell : ∀ cell, after.nextCell = some cell →
    before.nextCell = some cell ∨
      ∀ released, before.sender.Stream released →
        after.sender.InStream released 0 cell

variable {before middle after link : DeviceLink} {released slack : Nat}

theorem Extends.refl (link : DeviceLink) : Extends link link where
  session := rfl
  window := fun _ stream => ⟨stream, [], (List.append_nil _).symm⟩

theorem Extends.trans (first : Extends before middle)
    (second : Extends middle after) : Extends before after where
  session := second.session.trans first.session
  window := by
    intro released stream
    obtain ⟨middleStream, queued, middleCells⟩ := first.window _ stream
    obtain ⟨afterStream, more, afterCells⟩ := second.window _ middleStream
    exact ⟨afterStream, queued ++ more, by
      rw [afterCells, middleCells, List.append_assoc]⟩

theorem Extends.inStream (extended : Extends before after)
    (stream : before.sender.Stream released)
    (inStream : before.sender.InStream released slack cell) :
    after.sender.InStream released slack cell := by
  obtain ⟨position, numbered, bounded, recent⟩ := inStream.numbered
  obtain ⟨_, queued, cells⟩ := extended.window released stream
  refine ⟨position, ⟨numbered.valid,
    numbered.session.trans extended.session.symm, numbered.sequence⟩, ?_,
    recent⟩
  unfold ReliableSender.pendingLen at bounded ⊢
  rw [cells, List.length_append]
  omega

theorem Continues.refl (link : DeviceLink) : Continues link link where
  toExtends := .refl link
  nextCell := fun _ present => .inl present

theorem Continues.trans (first : Continues before middle)
    (second : Continues middle after) : Continues before after where
  toExtends := first.toExtends.trans second.toExtends
  nextCell := by
    intro cell present
    rcases second.nextCell cell present with kept | fresh
    · rcases first.nextCell cell kept with earlier | new
      · exact .inl earlier
      · refine .inr fun released stream => ?_
        exact second.toExtends.inStream (first.window _ stream).1
          (new released stream)
    · exact .inr fun released stream => fresh _ (first.window _ stream).1

theorem Continues.good (continued : Continues before after)
    (good : Good released slack before) : Good released slack after where
  stream := (continued.window _ good.stream).1
  nextCell := by
    intro cell present
    rcases continued.nextCell cell present with kept | fresh
    · exact continued.toExtends.inStream good.stream (good.nextCell cell kept)
    · obtain ⟨position, numbered, bounded, recent⟩ :=
        (fresh released good.stream).numbered
      exact ⟨position, numbered, bounded, by omega⟩

theorem Continues.of_same (sender : after.sender = before.sender)
    (nextCell : after.nextCell = before.nextCell) :
    Continues before after where
  session := by rw [sender]
  window := by
    intro released stream
    rw [sender]
    exact ⟨stream, [], (List.append_nil _).symm⟩
  nextCell := by
    intro cell present
    exact .inl (nextCell ▸ present)

structure Queues (link : DeviceLink)
    (result : Option SpiCell × DeviceLink) : Prop extends
    Extends link result.2 where
  kept : result.2.nextCell = link.nextCell
  fresh : ∀ cell, result.1 = some cell → ∀ released,
    link.sender.Stream released → result.2.sender.InStream released 0 cell

theorem queues_none (link : DeviceLink) : Queues link (none, link) where
  toExtends := .refl link
  kept := rfl
  fresh := by
    intro cell impossible
    cases impossible

theorem Queues.congr (queued : Queues link result) (cell : changed.1 = result.1)
    (sender : changed.2.sender = result.2.sender)
    (nextCell : changed.2.nextCell = result.2.nextCell) :
    Queues link changed where
  session := by rw [sender]; exact queued.session
  window := by
    rw [sender]
    exact queued.window
  kept := nextCell.trans queued.kept
  fresh := by
    rw [cell, sender]
    exact queued.fresh

theorem queues_records (link : DeviceLink) (records : List Record)
    (nowMs : UInt64) : Queues link (link.queueRecords records nowMs) := by
  rw [queueRecords]
  split
  · exact queues_none link
  · rename_i content count encoded
    split
    · exact queues_none link
    · rename_i cell sender queued
      refine ⟨⟨(ReliableSender.queue_session queued), fun released stream => ?_⟩,
        rfl, ?_⟩
      · obtain ⟨afterStream, _, cells, _⟩ := stream.queue queued
        exact ⟨afterStream, _, cells⟩
      · intro given same released stream
        cases same
        obtain ⟨_, _, cells, numbered⟩ := stream.queue queued
        refine ⟨_, numbered, ?_, by omega⟩
        change _ < released + sender.pendingCells.length
        rw [cells, List.length_append, List.length_singleton]
        unfold ReliableSender.pendingLen
        omega

theorem queues_record (link : DeviceLink) (recordType : UInt8)
    (data : List UInt8) (nowMs : UInt64) :
    Queues link (link.queueRecord recordType data nowMs) :=
  queues_records link _ nowMs

theorem Queues.settleUsbState (queued : Queues link result) :
    Queues link (DeviceLink.settleUsbState result) := by
  obtain ⟨selected, after⟩ := result
  cases selected with
  | none => exact queued
  | some cell => exact queued.congr rfl rfl rfl

section

variable (link : DeviceLink) (nowMs : UInt64)

theorem queues_helloAck : Queues link (link.queueHelloAckAndUsbState nowMs) :=
  (queues_records link _ nowMs).settleUsbState

theorem queues_dirtyUsbState : Queues link (link.queueDirtyUsbState nowMs) := by
  rw [queueDirtyUsbState]
  split
  · exact queues_none link
  · exact (queues_record link _ _ nowMs).settleUsbState

theorem queues_controlFragment :
    Queues link (link.queueNextControlRequestFragment nowMs) := by
  unfold queueNextControlRequestFragment
  split
  · exact queues_none link
  · split
    · exact queues_none link
    · rename_i request offset _ fragment _
      have queued := queues_record link recordControlRequest fragment.encode
        nowMs
      split
      · rename_i unqueued
        rw [unqueued] at queued
        exact queued
      · rename_i cell after taken
        rw [taken] at queued
        exact queued.congr rfl rfl rfl

theorem queues_managementRequest :
    Queues link (link.queuePendingManagementRequest nowMs) := by
  unfold queuePendingManagementRequest
  split
  · exact queues_none link
  · rename_i request _
    have queued := queues_record link recordManagementRequest request.encode
      nowMs
    split
    · rename_i unqueued
      rw [unqueued] at queued
      exact queued
    · rename_i cell after taken
      rw [taken] at queued
      exact queued.congr rfl rfl rfl

end

theorem Queues.withNextCell (queued : Queues link result) :
    Continues link (DeviceLink.withNextCell result) where
  toExtends := ⟨queued.session, queued.window⟩
  nextCell := fun cell present =>
    .inr fun released stream => queued.fresh cell present released stream

theorem Queues.withNextCell_of_same (queued : Queues changed result)
    (sender : changed.sender = link.sender) :
    Continues link (DeviceLink.withNextCell result) where
  session := by rw [← sender]; exact queued.session
  window := by
    rw [← sender]
    exact queued.window
  nextCell := by
    intro cell present
    rw [← sender]
    exact .inr fun released stream => queued.fresh cell present released stream

theorem continues_updateUsbState (link : DeviceLink) (state : UsbState)
    (nowMs : UInt64) : Continues link (link.updateUsbState state nowMs) := by
  simp only [updateUsbState]
  split
  · exact (queues_dirtyUsbState _ nowMs).withNextCell_of_same rfl
  · exact .of_same rfl rfl

theorem continues_queueOneRecord (link : DeviceLink) (recordType : UInt8)
    (data : List UInt8) (nowMs : UInt64) :
    Continues link (link.queueOneRecord recordType data nowMs).2 := by
  unfold queueOneRecord
  split
  · exact .refl link
  · exact (queues_record link recordType data nowMs).withNextCell

theorem continues_queueControlRequest (link : DeviceLink)
    (request : MirrorControlRequest) (nowMs : UInt64) :
    Continues link (link.queueControlRequest request nowMs).2 := by
  unfold queueControlRequest
  split
  · exact .refl link
  · exact (queues_controlFragment _ nowMs).withNextCell_of_same rfl

theorem continues_queueManagementRequest (link : DeviceLink)
    (request : ManagementRequest .dual) (nowMs : UInt64) :
    Continues link (link.queueManagementRequest request nowMs).2 := by
  unfold queueManagementRequest
  split
  · exact .refl link
  · exact (queues_managementRequest _ nowMs).withNextCell_of_same rfl

namespace Turn

variable {capacity : Nat} (turn : Turn capacity)

theorem continues_count
    (change : DeviceLinkDiagnostics → DeviceLinkDiagnostics) :
    Continues turn.link (turn.count change).link := .of_same rfl rfl

theorem continues_pushEvent (event : DeviceLinkEvent) :
    Continues turn.link (turn.pushEvent event).link := by
  unfold pushEvent
  split
  · exact .refl turn.link
  · exact turn.continues_count _

theorem continues_pushDecoded {ε : Type} (decoded : Except ε DeviceLinkEvent) :
    Continues turn.link (turn.pushDecoded decoded).link := by
  unfold pushDecoded
  split
  · exact turn.continues_pushEvent _
  · exact turn.continues_count _

theorem continues_handleHello (data : List UInt8) (nowMs : UInt64) :
    Continues turn.link (turn.handleHello data nowMs).link := by
  unfold handleHello
  split
  · exact turn.continues_count _
  · rename_i hello _
    simp only [update]
    split
    · exact (queues_helloAck _ nowMs).withNextCell_of_same rfl
    · exact .of_same rfl rfl

theorem continues_handleLinkReset (nowMs : UInt64) :
    Continues turn.link (turn.handleLinkReset nowMs).link := by
  have queued := queues_record
    { dropTransfers turn.link with usbStateDirty := true } recordHello
    (deviceHello { dropTransfers turn.link with usbStateDirty := true }).encode
    nowMs
  exact queued.withNextCell_of_same rfl

section

variable (data : List UInt8)

theorem continues_handleForceFallback (nowMs : UInt64) :
    Continues turn.link (turn.handleForceFallback data nowMs).link := by
  unfold handleForceFallback
  split
  · exact turn.continues_count _
  · apply (turn.continues_pushEvent (.forceFallback (readU32 data))).trans
    simp only [update]
    split
    · exact (queues_dirtyUsbState _ nowMs).withNextCell_of_same rfl
    · exact .of_same rfl rfl

theorem continues_handleProfileCommit :
    Continues turn.link (turn.handleProfileCommit data).link := by
  unfold handleProfileCommit
  split
  · exact turn.continues_count _
  · exact turn.continues_pushEvent _

theorem continues_handleControlResponse :
    Continues turn.link (turn.handleControlResponse data).link := by
  unfold handleControlResponse
  split
  · exact turn.continues_count _
  · rename_i fragment _
    have pushed : Continues turn.link (turn.update fun link =>
        { link with
          controlResponseAssembler :=
            (turn.link.controlResponseAssembler.push fragment).2 }).link :=
      .of_same rfl rfl
    apply pushed.trans
    simp only
    split
    · exact continues_pushEvent _ _
    · exact .refl _
    · exact continues_count _ _

theorem continues_handleStandardInput :
    Continues turn.link (turn.handleStandardInput data).link := by
  unfold handleStandardInput
  split
  · exact turn.continues_count _
  · exact (turn.continues_count _).trans (continues_pushEvent _ _)

theorem continues_handleReleaseAll :
    Continues turn.link (turn.handleReleaseAll data).link := by
  unfold handleReleaseAll
  split
  · exact turn.continues_count _
  · exact (turn.continues_count _).trans (continues_pushEvent _ _)

end

theorem continues_handleCommand (record : Record) :
    Continues turn.link (turn.handleCommand record).link := by
  unfold handleCommand
  split
  · exact turn.continues_pushDecoded _
  split
  · exact turn.continues_pushDecoded _
  split
  · exact turn.continues_pushDecoded _
  split
  · exact turn.continues_handleProfileCommit _
  split
  · exact turn.continues_pushDecoded _
  split
  · exact turn.continues_handleControlResponse _
  split
  · exact turn.continues_handleStandardInput _
  split
  · exact turn.continues_handleReleaseAll _
  split
  · exact turn.continues_pushDecoded _
  split
  · exact turn.continues_pushDecoded _
  · exact .refl turn.link

theorem continues_handleRecord (record : Record) (nowMs : UInt64) :
    Continues turn.link (turn.handleRecord record nowMs).link := by
  unfold handleRecord
  split
  · exact turn.continues_handleHello _ nowMs
  split
  · exact .refl turn.link
  split
  · exact turn.continues_handleLinkReset nowMs
  split
  · exact turn.continues_handleForceFallback _ nowMs
  split
  · exact turn.continues_handleCommand record
  · exact .refl turn.link

theorem continues_handleItems (nowMs : UInt64)
    (items : List (Except RecordCodecError Record)) :
    Continues turn.link (turn.handleItems nowMs items).2.link := by
  induction items generalizing turn with
  | nil => exact .refl turn.link
  | cons item rest ih =>
      cases item with
      | error error => exact turn.continues_count _
      | ok record =>
          exact (turn.continues_handleRecord record nowMs).trans (ih _)

theorem continues_handleRecords (cell : SpiCell) (nowMs : UInt64) :
    Continues turn.link (turn.handleRecords cell nowMs).link := by
  have handled := turn.continues_handleItems nowMs
    (RecordIter.ofCell cell).items.1
  simp only [handleRecords]
  split
  · rename_i stopped
    rw [stopped] at handled
    exact handled
  · rename_i finished
    rw [finished] at handled
    split
    · exact handled
    · exact handled.trans (continues_count _ _)

theorem continues_receive (cell : SpiCell) (nowMs : UInt64) :
    Continues turn.link (turn.receive cell nowMs).link := by
  have entered : Continues turn.link (turn.update fun link =>
      { link with receiver := (turn.link.receiver.receive cell).2 }).link :=
    .of_same rfl rfl
  apply entered.trans
  simp only [receive]
  split
  · exact continues_handleRecords _ cell nowMs
  · exact continues_count _ _
  · exact continues_count _ _
  · exact .refl _
  · exact .refl _

theorem continues_handleCell (cell : SpiCell) (nowMs : UInt64) :
    Continues (turn.acknowledged cell.header.cumulativeAck).link
      (turn.handleCell cell nowMs).link := by
  have counted : Continues (turn.acknowledged cell.header.cumulativeAck).link
      ((turn.count fun diagnostics =>
        { diagnostics with
          validCells := saturatingCount diagnostics.validCells }).acknowledged
        cell.header.cumulativeAck).link := .of_same rfl rfl
  apply counted.trans
  unfold handleCell
  simp only
  split
  · split
    · exact .of_same rfl rfl
    · have dropped : ∀ turn : Turn capacity, Continues turn.link
          ((turn.count fun diagnostics =>
            { diagnostics with
              hostSessionChanges :=
                saturatingCount diagnostics.hostSessionChanges }).update
            dropTransfers).link := fun _ => .of_same rfl rfl
      exact (dropped _).trans (continues_receive _ cell nowMs)
  · split
    · exact .refl _
    · exact continues_receive _ cell nowMs

end Turn

theorem nonzeroSession_succ_ne (sessionId : UInt32) :
    nonzeroSession (sessionId + 1) ≠ sessionId := by
  unfold nonzeroSession
  split
  · rename_i wrapped
    rintro rfl
    exact absurd wrapped (by decide)
  · intro same
    exact absurd ((UInt32.add_eq_left (a := sessionId)).mp same) (by decide)

structure Selects (link : DeviceLink) (released slack : Nat)
    (result : Option SpiCell × DeviceLink) : Prop where
  session : result.2.sender.sessionId = link.sender.sessionId
  stream : result.2.sender.Stream released
  forgotten : result.2.nextCell = none
  length : link.sender.pendingLen ≤ result.2.sender.pendingLen
  cell : ∀ cell, result.1 = some cell →
    result.2.sender.InStream released slack cell

structure Restarts (link : DeviceLink)
    (result : Option SpiCell × DeviceLink) : Prop where
  session : result.2.sender.sessionId ≠ link.sender.sessionId
  stream : result.2.sender.Stream 0
  forgotten : result.2.nextCell = none
  cell : ∀ cell, result.1 = some cell → result.2.sender.InStream 0 0 cell

theorem good_of_forgotten (stream : link.sender.Stream released)
    (forgotten : link.nextCell = none) : Good released slack link where
  stream := stream
  nextCell := by
    intro cell present
    rw [forgotten] at present
    cases present

theorem selects_takeNextCell (good : Good released slack link) :
    Selects link released slack link.takeNextCell where
  session := rfl
  stream := good.stream
  forgotten := rfl
  length := Nat.le_refl _
  cell := good.nextCell

theorem Selects.orElse (selected : Selects link released slack result)
    (queues : ∀ link, Queues link (source link)) :
    Selects link released slack (DeviceLink.orElse result source) := by
  obtain ⟨cell, after⟩ := result
  cases cell with
  | some cell => exact selected
  | none =>
      have queued := queues after
      obtain ⟨stream, more, cells⟩ := queued.window _ selected.stream
      have longer : after.sender.pendingLen ≤
          (source after).2.sender.pendingLen := by
        unfold ReliableSender.pendingLen
        rw [cells, List.length_append]
        omega
      exact {
        session := queued.session.trans selected.session
        stream := stream
        forgotten := queued.kept.trans selected.forgotten
        length := Nat.le_trans selected.length longer
        cell := by
          intro fresh taken
          obtain ⟨position, numbered, bounded, recent⟩ :=
            (queued.fresh fresh taken _ selected.stream).numbered
          exact ⟨position, numbered, bounded, by omega⟩ }

theorem restarts_restartSession (link : DeviceLink) (nowMs : UInt64)
    (forgotten : link.nextCell = none) :
    Restarts link (link.restartSession nowMs) := by
  have queued := queues_record
    { link with
      sender := link.sender.resetSession
        (nonzeroSession (link.sender.sessionId + 1))
      hostCompatible := false
      usbStateDirty := true } recordHello link.deviceHello.encode nowMs
  have stream := link.sender.stream_resetSession
    (nonzeroSession (link.sender.sessionId + 1))
  exact {
    session := by
      intro same
      exact nonzeroSession_succ_ne _ (queued.session.symm.trans same)
    stream := (queued.window 0 stream).1
    forgotten := queued.kept.trans forgotten
    cell := fun cell taken => queued.fresh cell taken 0 stream }

theorem pollRetransmit_selects (stream : link.sender.Stream released)
    (nowMs : UInt64) (forgotten : link.nextCell = none) :
    Selects link released slack (link.pollRetransmit nowMs) ∨
      Restarts link (link.pollRetransmit nowMs) := by
  rcases stream.pollRetransmit nowMs retransmitTimeoutMs
    maxRetransmitAttempts with (idle | reset) | ⟨cell, after, sent,
      afterStream, session, length, ⟨pending, held, _⟩, numbered⟩
  · have same : link.pollRetransmit nowMs = (none, link) := by
      rw [DeviceLink.pollRetransmit, idle]
    rw [same]
    refine .inl ⟨rfl, stream, forgotten, Nat.le_refl _, fun _ none_sent => ?_⟩
    cases none_sent
  · have restarted : link.pollRetransmit nowMs = link.restartSession nowMs := by
      rw [DeviceLink.pollRetransmit, reset]
    rw [restarted]
    exact .inr (restarts_restartSession link nowMs forgotten)
  · have same : link.pollRetransmit nowMs =
        (some cell, { link with sender := after }) := by
      rw [DeviceLink.pollRetransmit, sent]
    rw [same]
    have occupied : 0 < link.sender.pendingLen := List.length_pos_of_mem held
    refine .inl ⟨session, afterStream, forgotten, Nat.le_of_eq length.symm, ?_⟩
    intro taken equal
    cases equal
    exact ⟨released, numbered, by
      change released < released + after.pendingLen
      omega, by omega⟩

theorem selectCell_selects (good : Good released slack link) (nowMs : UInt64) :
    Selects link released slack (link.selectCell nowMs) ∨
      Restarts link (link.selectCell nowMs) := by
  have selected := (((selects_takeNextCell good).orElse fun link =>
    queues_controlFragment link nowMs).orElse fun link =>
      queues_managementRequest link nowMs).orElse fun link =>
        queues_dirtyUsbState link nowMs
  change Selects link released slack (DeviceLink.orElse _ _) ∨
    Restarts link (DeviceLink.orElse _ _)
  revert selected
  generalize DeviceLink.orElse _ (·.queueDirtyUsbState nowMs) = earlier
  intro selected
  obtain ⟨cell, between⟩ := earlier
  cases cell with
  | some cell => exact .inl selected
  | none =>
      rcases pollRetransmit_selects selected.stream nowMs
        selected.forgotten with polled | restarted
      · exact .inl {
          session := polled.session.trans selected.session
          stream := polled.stream
          forgotten := polled.forgotten
          length := Nat.le_trans selected.length polled.length
          cell := polled.cell }
      · exact .inr {
          session := fun same =>
            restarted.session (same.trans selected.session.symm)
          stream := restarted.stream
          forgotten := restarted.forgotten
          cell := restarted.cell }

def Carries (sender : ReliableSender) (released slack : Nat)
    (cell : SpiCell) : Prop :=
  cell.header.sessionId = sender.sessionId ∧
    (cell.header.txSequence = 0 ∨ sender.InStream released slack cell)

theorem outgoingCell_carries (sent : ∀ cell, selected = some cell →
      link.sender.InStream released slack cell) :
    (link.outgoingCell selected).Valid ∧
      Carries link.sender released slack (link.outgoingCell selected) := by
  cases selected with
  | none =>
      exact ⟨(SpiCell.valid_empty _).withAck _, rfl, .inl rfl⟩
  | some cell =>
      obtain ⟨position, numbered, bounded, recent⟩ := (sent cell rfl).numbered
      exact ⟨numbered.valid.withAck _, numbered.session, .inr
        ⟨position, ⟨numbered.valid.withAck _, numbered.session,
          numbered.sequence⟩, bounded, recent⟩⟩

theorem decode_wireCell (valid : cell.Valid) :
    SpiCell.decode (wireCell cell) = .ok cell := by
  obtain ⟨wire, encoded, decoded⟩ := SpiCell.decode_encode valid
  rw [wireCell, encoded]
  exact decoded

theorem nextTransaction_cases (good : Good released slack link)
    (nowMs : UInt64) :
    ∃ cell, SpiCell.decode (link.nextTransaction nowMs).1 = .ok cell ∧
      (link.nextTransaction nowMs).2.nextCell = none ∧
      (((link.nextTransaction nowMs).2.sender.sessionId =
          link.sender.sessionId ∧
        (link.nextTransaction nowMs).2.sender.Stream released ∧
        link.sender.pendingLen ≤
          (link.nextTransaction nowMs).2.sender.pendingLen ∧
        Carries (link.nextTransaction nowMs).2.sender released slack cell) ∨
      ((link.nextTransaction nowMs).2.sender.sessionId ≠ link.sender.sessionId ∧
        (link.nextTransaction nowMs).2.sender.Stream 0 ∧
        Carries (link.nextTransaction nowMs).2.sender 0 0 cell)) := by
  obtain ⟨acked, cells⟩ :=
    good.stream.setCumulativeAck link.receiver.cumulativeAck
  have length : link.acknowledgeHost.sender.pendingLen =
      link.sender.pendingLen := by
    unfold ReliableSender.pendingLen
    exact (congrArg List.length cells).trans (List.length_map _)
  have ready : Good released slack link.acknowledgeHost := {
    stream := acked
    nextCell := by
      intro kept present
      obtain ⟨position, numbered, bounded, recent⟩ :=
        (good.nextCell kept present).numbered
      refine ⟨position, ⟨numbered.valid, numbered.session,
        numbered.sequence⟩, ?_, recent⟩
      rw [length]
      exact bounded }
  have transaction : link.nextTransaction nowMs =
      (wireCell ((link.acknowledgeHost.selectCell nowMs).2.outgoingCell
        (link.acknowledgeHost.selectCell nowMs).1),
        (link.acknowledgeHost.selectCell nowMs).2) := rfl
  rw [transaction]
  rcases selectCell_selects ready nowMs with selected | restarted
  · obtain ⟨valid, carries⟩ := outgoingCell_carries selected.cell
    refine ⟨_, decode_wireCell valid, selected.forgotten, .inl
      ⟨selected.session, selected.stream, ?_, carries⟩⟩
    rw [← length]
    exact selected.length
  · obtain ⟨valid, carries⟩ := outgoingCell_carries restarted.cell
    exact ⟨_, decode_wireCell valid, restarted.forgotten, .inr
      ⟨restarted.session, restarted.stream, carries⟩⟩

theorem good_withCapabilities (sessionId : UInt32) (usbState : UsbState)
    (capabilities activeProfileHash : UInt32) :
    Good 0 0 (withCapabilities sessionId usbState capabilities
      activeProfileHash) := by
  unfold withCapabilities
  simp only
  refine (queues_record _ _ _ 0).withNextCell.good (good_of_forgotten ?_ rfl)
  exact ReliableSender.stream_new _

theorem handleTransaction_good (good : Good released 0 link)
    (decoded : SpiCell.decode wire = .ok cell) (nowMs : UInt64)
    (events : BoundedVec DeviceLinkEvent capacity) :
    Good (released + link.sender.acknowledgedCount cell.header.cumulativeAck) 4
      (link.handleTransaction wire nowMs events).link ∧
    (link.handleTransaction wire nowMs events).link.sender.sessionId =
      link.sender.sessionId ∧
    ∃ queued,
      (link.handleTransaction wire nowMs events).link.sender.pendingCells =
        link.sender.pendingCells.drop
          (link.sender.acknowledgedCount cell.header.cumulativeAck) ++
            queued := by
  obtain ⟨stream, cells⟩ :=
    good.stream.acknowledge cell.header.cumulativeAck
  have bounded := ReliableSender.acknowledgedCount_le good.stream
    cell.header.cumulativeAck
  have window := good.stream.length_le
  have handled := Turn.continues_handleCell ⟨link, events⟩ cell nowMs
  have same : link.handleTransaction wire nowMs events =
      Turn.handleCell ⟨link, events⟩ cell nowMs := by
    rw [handleTransaction, decoded]
  have released_good : Good (released +
      link.sender.acknowledgedCount cell.header.cumulativeAck) 4
      (Turn.acknowledged ⟨link, events⟩ cell.header.cumulativeAck).link := {
    stream := stream
    nextCell := by
      intro kept present
      obtain ⟨position, numbered, before_end, recent⟩ :=
        (good.nextCell kept present).numbered
      refine ⟨position, ⟨numbered.valid,
        numbered.session.trans (ReliableSender.acknowledge_sessionId _).symm,
          numbered.sequence⟩, ?_, by omega⟩
      change position < _ + (link.sender.acknowledge _).2.pendingCells.length
      rw [cells, List.length_drop]
      unfold ReliableSender.pendingLen at before_end bounded
      omega }
  rw [same]
  refine ⟨handled.good released_good, ?_, ?_⟩
  · exact handled.session.trans (ReliableSender.acknowledge_sessionId _)
  · obtain ⟨_, queued, after⟩ := handled.window _ stream
    refine ⟨queued, ?_⟩
    rw [after]
    exact congrArg (· ++ queued) cells

end DeviceLink

end HidShift
