import HidShift.Interchip.DeviceRecords
import HidShift.Management.RequestRoundTrip

namespace HidShift

open Lib

theorem encodeRecords_one (fits : record.paddedLen ≤ spiCellPayloadLen) :
    encodeRecords [record] = .ok (record.encode, 1) := by
  have enough := align4_ge record.rawLen
  have small : ¬ 65535 < record.data.length := by
    unfold Record.paddedLen Record.rawLen spiCellPayloadLen at *
    omega
  unfold encodeRecords encodeRecordsFrom encodeRecordsFrom
  have few : ¬ 255 < [record].length := by
    rw [List.length_singleton]
    decide
  rw [if_neg few, if_neg small, List.length_nil, Nat.zero_add,
    if_neg (Nat.not_lt.mpr fits)]
  rfl

theorem ReliableSender.queue_room {sender : ReliableSender}
    {content : List UInt8} (streams : sender.Streams)
    (room : sender.pendingLen < spiTxWindow)
    (fits : content.length ≤ spiCellPayloadLen) (count : UInt8)
    (nowMs : UInt64) :
    ∃ cell after, sender.queue content count nowMs = .ok (cell, after) := by
  obtain ⟨released, stream⟩ := streams
  have free : sender.pending.toList.findIdx? Option.isNone =
      some sender.pendingCells.length := by
    rw [show sender.pending.toList = _ from stream.window]
    exact FrontFilled.first_free room
  unfold queue
  rw [if_neg (Nat.not_lt.mpr fits), free]
  exact ⟨_, _, rfl⟩

namespace DeviceLink

variable {link : DeviceLink}

theorem queueRecord_room (streams : link.sender.Streams)
    (fits : Record.paddedLen ⟨recordType, 0, data⟩ ≤ spiCellPayloadLen)
    (room : link.sender.pendingLen < spiTxWindow) (nowMs : UInt64) :
    ∃ cell after, link.queueRecord recordType data nowMs =
      (some cell, after) := by
  obtain ⟨cell, sender, queued⟩ := ReliableSender.queue_room streams room
    (by rw [Record.length_encode]; exact fits) 1 nowMs
  unfold queueRecord queueRecords
  rw [encodeRecords_one fits]
  simp only [queued]
  exact ⟨_, _, rfl⟩

end DeviceLink

theorem ManagementRequest.length_encode (request : ManagementRequest .dual) :
    request.encode.length = managementRequestLen := by
  have short : request.command.encode.2.length ≤ 16 :=
    ManagementRequest.encode_short request.command
  unfold encode
  simp only
  unfold padTo managementRequestLen
  rw [List.length_append, List.length_replicate, List.length_append,
    List.length_cons, List.length_cons, List.length_cons, List.length_cons,
    List.length_nil]
  omega

theorem ControlRequestFragment.length_encode
    (fragment : ControlRequestFragment) :
    fragment.encode.length ≤
      controlRequestFragmentHeaderLen + controlFragmentDataMaxLen := by
  have short := fragment.data.length_le
  unfold encode
  rw [List.length_append, List.length_append, List.length_append,
    List.length_append, List.length_append, length_writeU16, length_writeU16,
    length_writeU32, Vector.length_toList]
  unfold controlRequestFragmentHeaderLen
  simp only [List.length_cons, List.length_nil]
  omega

def MirrorControlRequest.Within (request : MirrorControlRequest)
    (offset : Nat) : Prop :=
  offset < request.data.toList.length ∨
    (offset = 0 ∧ request.data.toList.length = 0)

theorem MirrorControlRequest.within_zero (request : MirrorControlRequest) :
    request.Within 0 := by
  unfold Within
  omega

theorem ControlRequestFragment.fromRequest_within {offset : Nat}
    (within : request.Within offset) :
    ∃ fragment, fromRequest request offset = .ok fragment := by
  have bounded := request.data.length_le
  have inside : fragmentBounds request.data.toList.length offset = .ok () := by
    unfold fragmentBounds MirrorControlRequest.Within at *
    rw [if_neg (by omega), if_neg (by omega)]
  unfold fromRequest
  simp only [inside]
  exact ⟨_, rfl⟩

namespace DeviceLink

def SlotWithin (slot : Option (MirrorControlRequest × UInt16)) : Prop :=
  ∀ request offset, slot = some (request, offset) → request.Within offset.toNat

theorem slotWithin_none : SlotWithin none := by
  intro _ _ impossible
  cases impossible

theorem isLastFragment_fragmentFlags (offset last total : Nat) :
    isLastFragment (fragmentFlags offset last total) =
      decide (last = total) := by
  unfold fragmentFlags
  split
  · split
    · rename_i same
      rw [decide_eq_true same]
      rfl
    · rename_i differs
      rw [decide_eq_false differs]
      rfl
  · split
    · rename_i same
      rw [decide_eq_true same]
      rfl
    · rename_i differs
      rw [decide_eq_false differs]
      rfl

theorem slotWithin_afterFragment
    (made : ControlRequestFragment.fromRequest request offset.toNat =
      .ok fragment) : SlotWithin (afterFragment request offset fragment) := by
  have bounded := request.data.length_le
  unfold ControlRequestFragment.fromRequest at made
  obtain ⟨_, inside, same⟩ := bind_eq_ok.mp made
  cases same
  unfold afterFragment
  rw [isLastFragment_fragmentFlags]
  split
  · exact slotWithin_none
  · rename_i more
    intro found next equal
    cases equal
    rw [decide_eq_true_iff] at more
    unfold controlDataMaxLen controlFragmentDataMaxLen at *
    have length : (fragmentData (request.data.toList.drop
        offset.toNat)).toList.length = 86 := by
      unfold fragmentData controlFragmentDataMaxLen
      rw [List.length_take, List.length_drop]
      omega
    rw [length, UInt16.toNat_ofNat']
    left
    omega

variable {link : DeviceLink}

theorem fragment_fits (fragment : ControlRequestFragment) :
    Record.paddedLen ⟨recordControlRequest, 0, fragment.encode⟩ ≤
      spiCellPayloadLen := by
  have short := fragment.length_encode
  unfold Record.paddedLen Record.rawLen align4 recordHeaderLen
    spiCellPayloadLen controlRequestFragmentHeaderLen
    controlFragmentDataMaxLen at *
  simp only at *
  omega

theorem managementRequest_fits (request : ManagementRequest .dual) :
    Record.paddedLen ⟨recordManagementRequest, 0, request.encode⟩ ≤
      spiCellPayloadLen := by
  unfold Record.paddedLen Record.rawLen
  simp only [request.length_encode]
  decide

theorem controlFragment_room (streams : link.sender.Streams)
    (within : SlotWithin link.controlRequestTx)
    (waiting : link.controlRequestTx.isSome = true)
    (room : link.sender.pendingLen < spiTxWindow) (nowMs : UInt64) :
    link.queueNextControlRequestFragment nowMs ≠ (none, link) := by
  obtain ⟨⟨request, offset⟩, slot⟩ := Option.isSome_iff_exists.mp waiting
  obtain ⟨fragment, made⟩ :=
    ControlRequestFragment.fromRequest_within (within request offset slot)
  obtain ⟨cell, after, queued⟩ :=
    queueRecord_room streams (fragment_fits fragment) room nowMs
  unfold queueNextControlRequestFragment
  rw [slot]
  simp only [made, queued]
  intro impossible
  cases impossible

theorem managementRequest_room (streams : link.sender.Streams)
    (waiting : link.managementRequestTx.isSome = true)
    (room : link.sender.pendingLen < spiTxWindow) (nowMs : UInt64) :
    link.queuePendingManagementRequest nowMs ≠ (none, link) := by
  obtain ⟨request, slot⟩ := Option.isSome_iff_exists.mp waiting
  obtain ⟨cell, after, queued⟩ :=
    queueRecord_room streams (managementRequest_fits request) room nowMs
  unfold queuePendingManagementRequest
  rw [slot]
  simp only [queued]
  intro impossible
  cases impossible

structure Requesting (link : DeviceLink) : Prop where
  streams : link.sender.Streams
  within : SlotWithin link.controlRequestTx

theorem slots_withCapabilities (sessionId : UInt32) (usbState : UsbState)
    (capabilities activeProfileHash : UInt32) :
    (withCapabilities sessionId usbState capabilities
        activeProfileHash).controlRequestTx = none ∧
      (withCapabilities sessionId usbState capabilities
        activeProfileHash).managementRequestTx = none := by
  unfold withCapabilities
  simp only
  obtain ⟨sender, nextCell, frame, _⟩ := @queueHello_frame
    { sender := ReliableSender.new (nonzeroSession sessionId)
      receiver := ReliableReceiver.new
      nextCell := none
      hostCompatible := false
      usbState
      usbStateDirty := true
      diagnostics := ⟨0, 0, 0, 0, 0, 0, 0, 0⟩
      capabilities
      activeProfileHash
      controlRequestTx := none
      controlResponseAssembler := .new
      managementRequestTx := none }
    ⟨0, ReliableSender.stream_new _⟩ 0
  rw [frame]
  exact ⟨rfl, rfl⟩

theorem requesting_withCapabilities (sessionId : UInt32)
    (usbState : UsbState) (capabilities activeProfileHash : UInt32) :
    Requesting (withCapabilities sessionId usbState capabilities
      activeProfileHash) where
  streams := ⟨0, (good_withCapabilities sessionId usbState capabilities
    activeProfileHash).stream⟩
  within := by
    rw [(slots_withCapabilities _ _ _ _).1]
    exact slotWithin_none

variable {link : DeviceLink}

theorem Requesting.handles (requesting : Requesting before)
    (handles : Handles before record after) : Requesting after := by
  refine ⟨handles.streams requesting.streams, ?_⟩
  cases handles with
  | command diagnostics assembler frame =>
      rw [frame]
      exact requesting.within
  | incompatible frame =>
      rw [frame]
      exact requesting.within
  | compatible sender nextCell usbStateDirty introduced adds frame =>
      rw [frame]
      exact requesting.within
  | reset sender nextCell resets adds frame =>
      rw [frame]
      exact slotWithin_none
  | fallback diagnostics sender nextCell usbStateDirty adds frame =>
      rw [frame]
      exact requesting.within

section

variable (requesting : Requesting link)

include requesting

theorem Requesting.opens (cumulativeAck : UInt16)
    (opens : Turn.Opens (Turn.acknowledgedLink link cumulativeAck) after) :
    Requesting after := by
  constructor
  · rw [opens.sender]
    exact Turn.streams_acknowledgedLink requesting.streams cumulativeAck
  · obtain ⟨diagnostics, receiver, rfl | rfl⟩ := opens
    · exact requesting.within
    · exact slotWithin_none

theorem Requesting.drains (drains : Drains link after) : Requesting after := by
  cases drains with
  | quiet sender streams session cells frame =>
      rw [frame]
      exact ⟨streams, requesting.within⟩
  | fragment request offset fragment sender waiting made empty adds frame =>
      rw [frame]
      exact ⟨adds.streams, slotWithin_afterFragment made⟩
  | management request sender waiting empty adds frame =>
      rw [frame]
      exact ⟨adds.streams, requesting.within⟩
  | usbState sender compatible adds frame =>
      rw [frame]
      exact ⟨adds.streams, requesting.within⟩
  | restart sender streams session cells frame =>
      rw [frame]
      exact ⟨streams, requesting.within⟩

theorem Requesting.queueOneRecord
    (recordType : UInt8) (data : List UInt8) (nowMs : UInt64) :
    Requesting (link.queueOneRecord recordType data nowMs).2 := by
  rcases queueOneRecord_cases requesting.streams recordType data nowMs with
    refused | ⟨cell, sender, _, queued, adds⟩
  · rw [refused]
    exact requesting
  · rw [queued]
    exact ⟨adds.streams, requesting.within⟩

theorem Requesting.queueControlRequest
    (request : MirrorControlRequest) (nowMs : UInt64) :
    Requesting (link.queueControlRequest request nowMs).2 := by
  rcases queueControlRequest_cases requesting.streams request nowMs with
    ⟨refused, _⟩ | ⟨_, _, ⟨stored, _⟩ |
      ⟨fragment, cell, sender, made, queued, adds⟩⟩
  · rw [refused]
    exact requesting
  · rw [stored]
    refine ⟨requesting.streams, ?_⟩
    intro found offset equal
    cases equal
    exact request.within_zero
  · rw [queued]
    exact ⟨adds.streams, slotWithin_afterFragment made⟩

theorem requesting_perform (call : Call) :
    Requesting (link.perform call).1 := by
  cases call with
  | updateUsbState state nowMs =>
      change Requesting (link.updateUsbState state nowMs)
      rcases updateUsbState_cases requesting.streams state nowMs with
        kept | ⟨cell, sender, _, queued, adds⟩
      · rw [kept]
        exact ⟨requesting.streams, requesting.within⟩
      · rw [queued]
        exact ⟨adds.streams, requesting.within⟩
  | queueStandardOutput report nowMs =>
      exact requesting.queueOneRecord _ _ nowMs
  | queueProfileResult result nowMs =>
      exact requesting.queueOneRecord _ _ nowMs
  | queueRawEndpointOut report nowMs =>
      exact requesting.queueOneRecord _ _ nowMs
  | queueControlRequest request nowMs =>
      exact requesting.queueControlRequest request nowMs
  | queueManagementRequest request nowMs =>
      change Requesting (link.queueManagementRequest request nowMs).2
      rcases queueManagementRequest_cases requesting.streams request nowMs with
        ⟨refused, _⟩ | ⟨_, _, ⟨stored, _⟩ | ⟨cell, sender, queued, adds⟩⟩
      · rw [refused]
        exact requesting
      · rw [stored]
        exact ⟨requesting.streams, requesting.within⟩
      · rw [queued]
        exact ⟨adds.streams, requesting.within⟩
  | nextTransaction nowMs =>
      exact requesting.drains (nextTransaction_drains requesting.streams nowMs)
  | handleTransaction wire nowMs events =>
      exact handleTransaction_keeps requesting.streams
        (fun cumulativeAck _ holds opens => holds.opens cumulativeAck opens)
        (fun _ _ _ _ holds handles => holds.handles handles) wire nowMs events
        requesting

end

theorem requesting_run (run : Run Step start history finish)
    (requesting : Requesting start) : Requesting finish := by
  refine run.invariant Requesting requesting ?_
  intro taken member step before
  rw [show taken.after = (taken.before.perform taken.event).1 from
    (congrArg Prod.fst step).symm]
  exact requesting_perform before taken.event

end DeviceLink

end HidShift
