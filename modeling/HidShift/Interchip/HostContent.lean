import HidShift.Interchip.HostTurn

namespace HidShift

open Lib

abbrev Content := List UInt8 × UInt8

def SpiCell.content (cell : SpiCell) : Content :=
  (cell.payload, cell.header.recordCount)

namespace ReliableSender

variable {sender after : ReliableSender}

def pendingContents (sender : ReliableSender) : List Content :=
  sender.pendingCells.map fun pending => pending.cell.content

def Packed (sender : ReliableSender) : Prop :=
  sender.Holds sender.pendingCells

theorem Holds.packed (window : sender.Holds entries) : sender.Packed := by
  rw [Packed, window.pendingCells]
  exact window

theorem Holds.contents (window : sender.Holds entries) :
    sender.pendingContents =
      entries.map fun pending => pending.cell.content := by
  rw [pendingContents, window.pendingCells]

theorem packed_new (sessionId : UInt32) : (new sessionId).Packed :=
  (holds_new sessionId).packed

theorem packed_resetSession (sender : ReliableSender) (sessionId : UInt32) :
    (sender.resetSession sessionId).Packed ∧
      (sender.resetSession sessionId).pendingContents = [] := by
  have window : (sender.resetSession sessionId).Holds [] :=
    holds_new sessionId
  exact ⟨window.packed, window.contents⟩

section

variable (packed : sender.Packed)

include packed

theorem Packed.setCumulativeAck (cumulativeAck : UInt16) :
    (sender.setCumulativeAck cumulativeAck).Packed ∧
      (sender.setCumulativeAck cumulativeAck).pendingContents =
        sender.pendingContents := by
  have window := setCumulativeAck_holds packed cumulativeAck
  refine ⟨window.packed, ?_⟩
  rw [window.contents, List.map_map]
  rfl

theorem Packed.pollRetransmit (nowMs timeoutMs : UInt64) (maxAttempts : UInt8) :
    (sender.pollRetransmit nowMs timeoutMs maxAttempts).2.Packed ∧
      (sender.pollRetransmit nowMs timeoutMs
        maxAttempts).2.pendingContents = sender.pendingContents := by
  rcases pollRetransmit_cases packed nowMs timeoutMs maxAttempts with
    (idle | reset) | ⟨oldest, rest, attempts, after, entries, sent, window, _⟩
  · rw [idle]
    exact ⟨packed, rfl⟩
  · rw [reset]
    exact ⟨packed, rfl⟩
  · rw [sent]
    refine ⟨window.packed, ?_⟩
    rw [window.contents, pendingContents, entries]
    rfl

theorem Packed.acknowledge (cumulativeAck : UInt16) :
    (sender.acknowledge cumulativeAck).2.Packed ∧
      (sender.acknowledge cumulativeAck).2.pendingContents =
        sender.pendingContents.drop
          (sender.acknowledgedCount cumulativeAck) := by
  have window := acknowledge_holds packed cumulativeAck
  refine ⟨window.packed, ?_⟩
  rw [window.contents, List.map_drop]
  rfl

theorem Packed.queue
    (queued : sender.queue content.1 content.2 nowMs = .ok (cell, after)) :
    after.Packed ∧ cell.content = content ∧
      after.pendingContents = sender.pendingContents ++ [content] := by
  obtain ⟨fits, rfl, window, _⟩ := queue_ok packed queued
  have carried : (sender.queuedCell content.1 content.2).content =
      content := by
    rw [SpiCell.content, payload_queuedCell _ _ fits]
    rfl
  refine ⟨window.packed, carried, ?_⟩
  rw [window.contents, List.map_append, List.map_singleton, carried]
  rfl

theorem queue_of_room (room : sender.pendingLen < spiTxWindow)
    (fits : content.length ≤ spiCellPayloadLen) (nowMs : UInt64) :
    ∃ result, sender.queue content recordCount nowMs = .ok result := by
  unfold queue
  rw [if_neg (Nat.not_lt.mpr fits)]
  split
  · rename_i full
    rw [packed, FrontFilled.first_free room] at full
    cases full
  · exact ⟨_, rfl⟩

end

end ReliableSender

/-- The cell is queued with the same content whatever the sender and the
time, or never. -/
def Queues (queue : ReliableSender → UInt64 →
    Option (SpiCell × ReliableSender)) (content : Option Content) : Prop :=
  ∀ sender nowMs, queue sender nowMs =
    content.bind fun content => queueContent sender content.1 content.2 nowMs

theorem queues_none : Queues (fun _ _ => none) none := fun _ _ => rfl

theorem queues_record (recordType : UInt8) (data : List UInt8) :
    Queues (queueRecord · recordType data ·)
      (encodeRecords [⟨recordType, 0, data⟩]).toOption := by
  intro sender nowMs
  unfold queueRecord
  cases encodeRecords [⟨recordType, 0, data⟩] with
  | error _ => rfl
  | ok content => rfl

theorem queues_command (command : DeviceTaskCommand) :
    ∃ content, Queues (queueCommand · command ·) content := by
  cases command with
  | standardReport _ _ => exact ⟨_, queues_none⟩
  | rawEndpointIn _ => exact ⟨_, queues_none⟩
  | controlResponse _ => exact ⟨_, queues_none⟩
  | releaseAll => exact ⟨_, queues_record recordStandardReleaseAll []⟩
  | activateFallback _ => exact ⟨_, queues_record _ _⟩
  | activateMirror _ => exact ⟨_, queues_record _ _⟩
  | profileBegin _ => exact ⟨_, queues_record _ _⟩
  | profileChunk _ => exact ⟨_, queues_record _ _⟩
  | profileCommit _ => exact ⟨_, queues_record _ _⟩
  | managementResponse _ => exact ⟨_, queues_record _ _⟩
  | managementEvent _ => exact ⟨_, queues_record _ _⟩

def withoutProgress {π : Type} (queued : SpiCell × π × ReliableSender) :
    SpiCell × ReliableSender := (queued.1, queued.2.2)

theorem map_withoutProgress {π : Type} (progress : π)
    (queued : Option (SpiCell × ReliableSender)) :
    (queued.map fun (cell, sender) => (cell, progress, sender)).map
      withoutProgress = queued := by
  cases queued <;> rfl

theorem queues_wireCommand (command : WireCommand) :
    ∃ content, Queues (fun sender nowMs =>
      (queueWireCommand sender command nowMs).map withoutProgress)
        content := by
  cases command with
  | command command =>
      obtain ⟨content, queues⟩ := queues_command command
      refine ⟨content, fun sender nowMs => ?_⟩
      exact (map_withoutProgress none _).trans (queues sender nowMs)
  | inputReportBatch batch =>
      exact ⟨some batch.encoded, fun sender nowMs =>
        map_withoutProgress none _⟩
  | controlResponseFragment response offset =>
      cases made : ControlResponseFragment.fromResponse response offset with
      | error _ =>
          refine ⟨none, fun sender nowMs => ?_⟩
          simp only [queueWireCommand, queueControlResponseFragment, made]
          rfl
      | ok fragment =>
          refine ⟨(encodeRecords
            [⟨recordControlResponse, 0, fragment.encode⟩]).toOption,
            fun sender nowMs => ?_⟩
          rw [← queues_record _ _ sender nowMs]
          simp only [queueWireCommand, queueControlResponseFragment, made]
          cases queueRecord sender recordControlResponse fragment.encode nowMs
            <;> rfl
  | heartbeat =>
      exact ⟨_, fun sender nowMs => (map_withoutProgress none _).trans
        (queues_record recordHeartbeat [] sender nowMs)⟩

section

variable {queue : ReliableSender → UInt64 → Option (SpiCell × ReliableSender)}
  {content : Option Content} {sender after : ReliableSender} {cell : SpiCell}
  {nowMs : UInt64}

theorem Queues.once (queues : Queues queue content) (packed : sender.Packed)
    (queued : queue sender nowMs = some (cell, after)) :
    after.Packed ∧ content = some cell.content ∧
      cell.content.1.length ≤ spiCellPayloadLen ∧
        after.pendingContents = sender.pendingContents ++ [cell.content] := by
  rw [queues sender nowMs] at queued
  obtain ⟨carried, rfl, made⟩ := Option.bind_eq_some_iff.mp queued
  have result : sender.queue carried.1 carried.2 nowMs = .ok (cell, after) := by
    unfold queueContent at made
    cases result : sender.queue carried.1 carried.2 nowMs with
    | error _ =>
        rw [result] at made
        cases made
    | ok _ =>
        rw [result] at made
        cases made
        rfl
  obtain ⟨afterPacked, same, contents⟩ := packed.queue result
  obtain ⟨fits, _⟩ := ReliableSender.queue_ok packed result
  rw [same]
  exact ⟨afterPacked, rfl, fits, contents⟩

theorem Queues.again (queues : Queues queue (some carried))
    (fits : carried.1.length ≤ spiCellPayloadLen) (packed : sender.Packed)
    (room : sender.pendingLen < spiTxWindow) (nowMs : UInt64) :
    ∃ cell after, queue sender nowMs = some (cell, after) ∧
      cell.content = carried := by
  obtain ⟨⟨cell, after⟩, result⟩ :=
    ReliableSender.queue_of_room packed room fits nowMs
  refine ⟨cell, after, ?_, (packed.queue result).2.1⟩
  rw [queues sender nowMs, Option.bind_some, queueContent, result]
  rfl

end

theorem room_new : (ReliableSender.new 0).pendingLen < spiTxWindow := by
  rw [ReliableSender.pendingLen, (ReliableSender.holds_new 0).pendingCells]
  decide

/-- What a sender without cells queues for the command. -/
def WireCommand.content (command : WireCommand) : Option Content :=
  (queueWireCommand (ReliableSender.new 0) command 0).map
    fun queued => queued.1.content

/-- The command behind a cell, or none for an introduction. -/
abbrev Origin := Option WireCommand

def Origin.content : Origin → Option Content
  | none => (queueHello (ReliableSender.new 0) 0).map fun queued =>
      queued.1.content
  | some command => command.content

variable {sender after : ReliableSender} {cell : SpiCell} {nowMs : UInt64}

theorem queueHello_some (packed : sender.Packed)
    (queued : queueHello sender nowMs = some (cell, after)) :
    after.Packed ∧ Origin.content none = some cell.content ∧
      after.pendingContents = sender.pendingContents ++ [cell.content] := by
  have queues := queues_record recordHello hostHello.encode
  obtain ⟨afterPacked, same, fits, contents⟩ := queues.once packed queued
  rw [same] at queues
  obtain ⟨fresh, freshAfter, made, freshContent⟩ := queues.again fits
    (ReliableSender.packed_new 0) room_new 0
  refine ⟨afterPacked, ?_, contents⟩
  rw [Origin.content, ← freshContent]
  exact congrArg (Option.map fun queued => queued.1.content) made

theorem queueWireCommand_some (packed : sender.Packed)
    (queued : queueWireCommand sender command nowMs =
      some (cell, progress, after)) :
    after.Packed ∧ command.content = some cell.content ∧
      after.pendingContents = sender.pendingContents ++ [cell.content] := by
  obtain ⟨content, queues⟩ := queues_wireCommand command
  have plain := congrArg (Option.map withoutProgress) queued
  obtain ⟨afterPacked, rfl, fits, contents⟩ := queues.once packed plain
  obtain ⟨fresh, freshAfter, made, freshContent⟩ := queues.again fits
    (ReliableSender.packed_new 0) room_new 0
  refine ⟨afterPacked, ?_, contents⟩
  obtain ⟨found, present, same⟩ := Option.map_eq_some_iff.mp made
  rw [WireCommand.content, present, Option.map_some, ← freshContent]
  exact congrArg (fun queued => some queued.1.content) same

theorem queueWireCommand_again (encodable : command.content.isSome)
    (packed : sender.Packed) (room : sender.pendingLen < spiTxWindow)
    (nowMs : UInt64) : (queueWireCommand sender command nowMs).isSome := by
  obtain ⟨content, queues⟩ := queues_wireCommand command
  obtain ⟨carried, made⟩ := Option.isSome_iff_exists.mp encodable
  obtain ⟨first, present, _⟩ := Option.map_eq_some_iff.mp made
  have plain := congrArg (Option.map withoutProgress) present
  obtain ⟨_, rfl, fits, _⟩ := queues.once (ReliableSender.packed_new 0) plain
  obtain ⟨cell, after, queued, _⟩ := queues.again fits packed room nowMs
  obtain ⟨found, present, _⟩ := Option.map_eq_some_iff.mp queued
  exact Option.isSome_iff_exists.mpr ⟨found, present⟩

end HidShift
