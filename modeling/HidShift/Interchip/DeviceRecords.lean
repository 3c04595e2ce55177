import HidShift.Interchip.DeviceRun

namespace HidShift

open Lib

namespace DeviceLink

inductive Handles (before : DeviceLink) (record : Record)
    (after : DeviceLink) : Prop
  | command (diagnostics : DeviceLinkDiagnostics)
      (controlResponseAssembler : ControlResponseAssembler)
      (frame : after =
        { before with diagnostics, controlResponseAssembler })
  | incompatible (frame : after = { before with hostCompatible := false })
  | compatible (sender : ReliableSender) (nextCell : Option SpiCell)
      (usbStateDirty : Bool)
      (introduced : isCompatibleHostHello record = true)
      (adds : sender = before.sender ∨ before.sender.Adds sender
        [⟨recordHelloAck, 0, before.deviceHello.encode⟩,
          ⟨recordUsbState, 0, before.usbState.encode⟩])
      (frame : after = { before with
        sender
        nextCell
        usbStateDirty
        hostCompatible := true })
  | reset (sender : ReliableSender) (nextCell : Option SpiCell)
      (resets : record.recordType = recordLinkReset)
      (adds : sender = before.sender ∨ before.sender.Adds sender
        [⟨recordHello, 0, before.deviceHello.encode⟩])
      (frame : after = { Turn.dropTransfers before with
        sender
        nextCell
        usbStateDirty := true })
  | fallback (diagnostics : DeviceLinkDiagnostics) (sender : ReliableSender)
      (nextCell : Option SpiCell) (usbStateDirty : Bool)
      (adds : sender = before.sender ∨
        (before.hostCompatible = true ∧ before.sender.Adds sender
          [⟨recordUsbState, 0, before.usbState.encode⟩]))
      (frame : after = { before with
        diagnostics
        sender
        nextCell
        usbStateDirty })

theorem queueHello_frame {link : DeviceLink}
    (streams : link.sender.Streams) (nowMs : UInt64) :
    ∃ sender nextCell, withNextCell (link.queueHello nowMs) =
        { link with sender, nextCell } ∧
      (sender = link.sender ∨ link.sender.Adds sender
        [⟨recordHello, 0, link.deviceHello.encode⟩]) := by
  unfold queueHello
  rcases queueRecord_cases streams recordHello link.deviceHello.encode nowMs
    with none_queued | ⟨cell, sender, queued, adds⟩
  · rw [none_queued]
    exact ⟨_, none, rfl, .inl rfl⟩
  · rw [queued]
    exact ⟨sender, some cell, rfl, .inr adds⟩

namespace Turn

variable {capacity : Nat}

def Commands (before after : DeviceLink) : Prop :=
  ∃ diagnostics controlResponseAssembler,
    after = { before with diagnostics, controlResponseAssembler }

theorem Commands.refl (link : DeviceLink) : Commands link link :=
  ⟨_, _, rfl⟩

theorem Commands.trans (first : Commands before middle)
    (second : Commands middle after) : Commands before after := by
  obtain ⟨_, _, rfl⟩ := first
  obtain ⟨_, _, rfl⟩ := second
  exact ⟨_, _, rfl⟩

variable (turn : Turn capacity)

theorem commands_count
    (change : DeviceLinkDiagnostics → DeviceLinkDiagnostics) :
    Commands turn.link (turn.count change).link := ⟨_, _, rfl⟩

theorem pushEvent_diagnostics (event : DeviceLinkEvent) :
    ∃ diagnostics, (turn.pushEvent event).link =
      { turn.link with diagnostics } := by
  unfold pushEvent
  split
  · exact ⟨_, rfl⟩
  · exact ⟨_, rfl⟩

theorem commands_pushEvent (event : DeviceLinkEvent) :
    Commands turn.link (turn.pushEvent event).link := by
  obtain ⟨diagnostics, pushed⟩ := turn.pushEvent_diagnostics event
  exact ⟨diagnostics, _, pushed⟩

theorem commands_pushDecoded {ε : Type} (decoded : Except ε DeviceLinkEvent) :
    Commands turn.link (turn.pushDecoded decoded).link := by
  unfold pushDecoded
  split
  · exact turn.commands_pushEvent _
  · exact turn.commands_count _

theorem commands_handleControlResponse (data : List UInt8) :
    Commands turn.link (turn.handleControlResponse data).link := by
  unfold handleControlResponse
  split
  · exact turn.commands_count _
  · rename_i fragment _
    have pushed : Commands turn.link (turn.update fun link =>
        { link with
          controlResponseAssembler :=
            (turn.link.controlResponseAssembler.push fragment).2 }).link :=
      ⟨_, _, rfl⟩
    apply pushed.trans
    simp only
    split
    · exact commands_pushEvent _ _
    · exact Commands.refl _
    · exact commands_count _ _

theorem commands_handleCommand (record : Record) :
    Commands turn.link (turn.handleCommand record).link := by
  unfold handleCommand
  split
  · exact turn.commands_pushDecoded _
  split
  · exact turn.commands_pushDecoded _
  split
  · exact turn.commands_pushDecoded _
  split
  · unfold handleProfileCommit
    split
    · exact turn.commands_count _
    · exact turn.commands_pushEvent _
  split
  · exact turn.commands_pushDecoded _
  split
  · exact turn.commands_handleControlResponse _
  split
  · unfold handleStandardInput
    split
    · exact turn.commands_count _
    · exact (turn.commands_count _).trans (commands_pushEvent _ _)
  split
  · unfold handleReleaseAll
    split
    · exact turn.commands_count _
    · exact (turn.commands_count _).trans (commands_pushEvent _ _)
  split
  · exact turn.commands_pushDecoded _
  split
  · exact turn.commands_pushDecoded _
  · exact Commands.refl turn.link

theorem Commands.handles (commands : Commands before after) :
    Handles before record after := by
  obtain ⟨diagnostics, assembler, frame⟩ := commands
  exact .command diagnostics assembler frame

theorem isCompatibleHostHello_of_decode (type : record.recordType = recordHello)
    (decoded : Hello.decode record.data = .ok hello)
    (compatible : decide (hello.role = .host ∧
      hello.protocolVersion = spiProtocolVersion) = true) :
    isCompatibleHostHello record = true := by
  obtain ⟨role, version⟩ := of_decide_eq_true compatible
  unfold isCompatibleHostHello
  simp only [type, decoded, role, version, decide_true, Bool.and_self]

section

variable (streams : turn.link.sender.Streams)

include streams

theorem handles_handleHello
    (hello : record.recordType = recordHello) (nowMs : UInt64) :
    Handles turn.link record (turn.handleHello record.data nowMs).link := by
  unfold handleHello
  split
  · exact (turn.commands_count _).handles
  · rename_i decodedHello decoded
    simp only [update]
    split
    · rename_i compatible
      have introduced :=
        isCompatibleHostHello_of_decode hello decoded compatible
      rw [compatible]
      rcases @helloAck_cases { turn.link with hostCompatible := true } streams
        nowMs with none_queued | ⟨cell, sender, queued, adds⟩
      · rw [none_queued]
        exact .compatible _ none _ introduced (.inl rfl) rfl
      · rw [queued]
        exact .compatible sender (some cell) false introduced (.inr adds) rfl
    · rename_i incompatible
      rw [Bool.not_eq_true] at incompatible
      rw [incompatible]
      exact .incompatible rfl

theorem handles_handleLinkReset
    (resets : record.recordType = recordLinkReset) (nowMs : UInt64) :
    Handles turn.link record (turn.handleLinkReset nowMs).link := by
  obtain ⟨sender, nextCell, frame, adds⟩ := @queueHello_frame
    { dropTransfers turn.link with usbStateDirty := true } streams nowMs
  exact .reset sender nextCell resets adds frame

theorem handles_handleForceFallback (record : Record) (nowMs : UInt64) :
    Handles turn.link record
      (turn.handleForceFallback record.data nowMs).link := by
  unfold handleForceFallback
  split
  · exact (turn.commands_count _).handles
  · obtain ⟨diagnostics, pushed⟩ :=
      turn.pushEvent_diagnostics (.forceFallback (readU32 record.data))
    simp only [update]
    rw [pushed]
    split
    · rcases @dirtyUsbState_cases
        { turn.link with diagnostics, usbStateDirty := true } streams nowMs
        with none_queued | ⟨cell, sender, queued, compatible, adds⟩
      · rw [none_queued]
        exact .fallback diagnostics _ none _ (.inl rfl) rfl
      · rw [queued]
        exact .fallback diagnostics sender (some cell) false
          (.inr ⟨compatible, adds⟩) rfl
    · exact .fallback diagnostics _ _ _ (.inl rfl) rfl

theorem handles_handleRecord (record : Record) (nowMs : UInt64) :
    Handles turn.link record (turn.handleRecord record nowMs).link := by
  unfold handleRecord
  split
  · rename_i hello
    exact turn.handles_handleHello streams hello nowMs
  split
  · exact (Commands.refl turn.link).handles
  split
  · rename_i resets
    exact turn.handles_handleLinkReset streams resets nowMs
  split
  · exact turn.handles_handleForceFallback streams record nowMs
  split
  · exact (turn.commands_handleCommand record).handles
  · exact (Commands.refl turn.link).handles

end

def acknowledgedLink (link : DeviceLink) (cumulativeAck : UInt16) :
    DeviceLink :=
  { link with sender := (link.sender.acknowledge cumulativeAck).2 }

/-- Besides counters only the receiver is touched, unless transfers of an
earlier session are given up. -/
def Opens (before after : DeviceLink) : Prop :=
  ∃ diagnostics receiver,
    after = { before with diagnostics, receiver } ∨
      after = { dropTransfers before with diagnostics, receiver }

theorem admitted_frame (cell : SpiCell) :
    ∃ diagnostics receiver, (turn.admitted cell).1.link =
      { turn.link with diagnostics, receiver } := by
  unfold admitted
  simp only
  cases (turn.link.receiver.receive cell).1 <;> exact ⟨_, _, rfl⟩

theorem opens_opened (cell : SpiCell) :
    Opens (acknowledgedLink turn.link cell.header.cumulativeAck)
      (turn.opened cell).1.link := by
  unfold opened
  simp only
  split
  · split
    · exact ⟨_, _, .inr rfl⟩
    · obtain ⟨diagnostics, receiver, frame⟩ := admitted_frame (update (count
        (acknowledged (turn.count fun diagnostics =>
          { diagnostics with
            validCells := saturatingCount diagnostics.validCells })
          cell.header.cumulativeAck) fun diagnostics =>
          { diagnostics with
            hostSessionChanges :=
              saturatingCount diagnostics.hostSessionChanges })
        dropTransfers) cell
      exact ⟨diagnostics, receiver, .inr frame⟩
  · split
    · exact ⟨_, _, .inl rfl⟩
    · obtain ⟨diagnostics, receiver, frame⟩ := admitted_frame (acknowledged
        (turn.count fun diagnostics =>
          { diagnostics with
            validCells := saturatingCount diagnostics.validCells })
        cell.header.cumulativeAck) cell
      exact ⟨diagnostics, receiver, .inl frame⟩

theorem Opens.sender (opens : Opens before after) :
    after.sender = before.sender := by
  obtain ⟨_, _, rfl | rfl⟩ := opens
  · rfl
  · rfl

theorem streams_acknowledgedLink {link : DeviceLink}
    (streams : link.sender.Streams) (cumulativeAck : UInt16) :
    (acknowledgedLink link cumulativeAck).sender.Streams := by
  obtain ⟨released, stream⟩ := streams
  exact ⟨_, (stream.acknowledge cumulativeAck).1⟩

end Turn

theorem Handles.streams (handles : Handles before record after)
    (streams : before.sender.Streams) : after.sender.Streams := by
  cases handles with
  | command diagnostics assembler frame =>
      rw [frame]
      exact streams
  | incompatible frame =>
      rw [frame]
      exact streams
  | compatible sender nextCell usbStateDirty introduced adds frame =>
      rw [frame]
      rcases adds with rfl | adds
      · exact streams
      · exact adds.streams
  | reset sender nextCell resets adds frame =>
      rw [frame]
      rcases adds with rfl | adds
      · exact streams
      · exact adds.streams
  | fallback diagnostics sender nextCell usbStateDirty adds frame =>
      rw [frame]
      rcases adds with rfl | ⟨_, adds⟩
      · exact streams
      · exact adds.streams

def HandlesPart (part : Part) : Prop :=
  part.before.sender.Streams ∧ ∃ record, part.record = some record ∧
    Handles part.before record part.after

theorem itemParts_handles {turn : Turn capacity}
    (streams : turn.link.sender.Streams) :
    ∀ part ∈ turn.itemParts nowMs items, HandlesPart part := by
  induction items generalizing turn with
  | nil =>
      intro part impossible
      cases impossible
  | cons item rest ih =>
      cases item with
      | error _ =>
          intro part impossible
          cases impossible
      | ok record =>
          intro part member
          have handles := turn.handles_handleRecord streams record nowMs
          rcases List.mem_cons.mp member with rfl | later
          · exact ⟨streams, record, rfl, handles⟩
          · exact ih (handles.streams streams) part later

def OpensPart (link : DeviceLink) (part : Part) : Prop :=
  part.before = link ∧ part.record = none ∧ ∃ cumulativeAck,
    Turn.Opens (Turn.acknowledgedLink link cumulativeAck) part.after

theorem opened_streams {capacity : Nat} {turn : Turn capacity}
    (streams : turn.link.sender.Streams) (cell : SpiCell) :
    (turn.opened cell).1.link.sender.Streams := by
  rw [(turn.opens_opened cell).sender]
  exact Turn.streams_acknowledgedLink streams _

theorem transactionParts_cases {link : DeviceLink}
    (streams : link.sender.Streams) (wire : Vector UInt8 spiCellLen)
    (nowMs : UInt64) (events : BoundedVec DeviceLinkEvent capacity) :
    ∀ part ∈ link.transactionParts wire nowMs events,
      OpensPart link part ∨ HandlesPart part := by
  intro part member
  unfold transactionParts at member
  split at member
  · cases member
  · rename_i cell _
    unfold Turn.cellParts at member
    rcases List.mem_cons.mp member with rfl | handled
    · exact .inl ⟨rfl, rfl, _, Turn.opens_opened _ cell⟩
    · split at handled
      · exact .inr (itemParts_handles (opened_streams streams cell) part
          handled)
      · cases handled

theorem handleTransaction_keeps {capacity : Nat} {link : DeviceLink}
    {kept : DeviceLink → Prop} (streams : link.sender.Streams)
    (opens : ∀ cumulativeAck after, kept link →
      Turn.Opens (Turn.acknowledgedLink link cumulativeAck) after → kept after)
    (handles : ∀ before record after, before.sender.Streams → kept before →
      Handles before record after → kept after)
    (wire : Vector UInt8 spiCellLen) (nowMs : UInt64)
    (events : BoundedVec DeviceLinkEvent capacity) (holds : kept link) :
    kept (link.handleTransaction wire nowMs events).link := by
  have counted : ∀ (turn : Turn capacity) (change : DeviceLinkDiagnostics →
      DeviceLinkDiagnostics), turn.link.sender.Streams → kept turn.link →
        kept (turn.count change).link := by
    intro turn change streams holds
    exact handles turn.link ⟨0, 0, []⟩ _ streams holds
      (turn.commands_count change).handles
  have items : ∀ (items : List (Except RecordCodecError Record))
      (turn : Turn capacity), turn.link.sender.Streams → kept turn.link →
        (turn.handleItems nowMs items).2.link.sender.Streams ∧
          kept (turn.handleItems nowMs items).2.link := by
    intro items
    induction items with
    | nil => exact fun turn streams holds => ⟨streams, holds⟩
    | cons item rest ih =>
        intro turn streams holds
        cases item with
        | error _ => exact ⟨streams, counted turn _ streams holds⟩
        | ok record =>
            have handled := turn.handles_handleRecord streams record nowMs
            exact ih _ (handled.streams streams)
              (handles _ _ _ streams holds handled)
  unfold handleTransaction
  simp only
  split
  · exact counted ⟨link, events⟩ _ streams holds
  · rename_i cell _
    rw [Turn.handleCell_opened]
    have opened := opens _ _ holds
      (Turn.opens_opened (⟨link, events⟩ : Turn capacity) cell)
    have openedStreams := @opened_streams capacity ⟨link, events⟩ streams cell
    split
    · obtain ⟨afterStreams, after⟩ := items (RecordIter.ofCell cell).items.1 _
        openedStreams opened
      unfold Turn.handleRecords
      simp only
      split
      · rename_i stopped
        rw [stopped] at after
        exact after
      · rename_i finished
        rw [finished] at after afterStreams
        split
        · exact after
        · exact counted _ _ afterStreams after
    · exact opened

end DeviceLink

end HidShift
