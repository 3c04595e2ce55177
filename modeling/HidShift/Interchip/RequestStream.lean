import HidShift.Interchip.Handshake

namespace HidShift

open Lib

namespace MirrorControlRequest

def pieceCount (request : MirrorControlRequest) : Nat :=
  if request.data.toList.length = 0 then 1
  else (request.data.toList.length + (controlFragmentDataMaxLen - 1)) /
    controlFragmentDataMaxLen

def piece (request : MirrorControlRequest) (index : Nat) : Option Record :=
  (ControlRequestFragment.fromRequest request
    (index * controlFragmentDataMaxLen)).toOption.map fun fragment =>
      ⟨recordControlRequest, 0, fragment.encode⟩

def piecesFrom (request : MirrorControlRequest) (index : Nat) :
    List Record :=
  (List.range' index (request.pieceCount - index)).filterMap request.piece

def pieces (request : MirrorControlRequest) : List Record :=
  request.piecesFrom 0

theorem piecesFrom_end {request : MirrorControlRequest}
    (past : request.pieceCount ≤ index) : request.piecesFrom index = [] := by
  rw [piecesFrom, Nat.sub_eq_zero_of_le past]
  rfl

theorem piecesFrom_cons (inside : index < request.pieceCount)
    (made : ControlRequestFragment.fromRequest request
      (index * controlFragmentDataMaxLen) = .ok fragment) :
    request.piecesFrom index =
      ⟨recordControlRequest, 0, fragment.encode⟩ ::
        request.piecesFrom (index + 1) := by
  have more : request.pieceCount - index =
      request.pieceCount - (index + 1) + 1 := by
    omega
  rw [piecesFrom, more, List.range'_succ, List.filterMap_cons_some]
  · rfl
  · rw [piece, made]
    rfl

end MirrorControlRequest

namespace DeviceLink

def SlotAligned (slot : Option (MirrorControlRequest × UInt16)) : Prop :=
  ∀ request offset, slot = some (request, offset) →
    ∃ index, offset.toNat = index * controlFragmentDataMaxLen ∧
      index < request.pieceCount

def remaining : Option (MirrorControlRequest × UInt16) → List Record
  | none => []
  | some (request, offset) =>
      request.piecesFrom (offset.toNat / controlFragmentDataMaxLen)

theorem slotAligned_none : SlotAligned none := by
  intro _ _ impossible
  cases impossible

theorem slotAligned_start (request : MirrorControlRequest) :
    SlotAligned (some (request, 0)) := by
  intro found offset same
  cases same
  refine ⟨0, rfl, ?_⟩
  unfold MirrorControlRequest.pieceCount controlFragmentDataMaxLen
  split <;> omega

theorem remaining_at
    (place : offset.toNat = index * controlFragmentDataMaxLen) :
    remaining (some (request, offset)) = request.piecesFrom index := by
  rw [remaining, place, Nat.mul_div_cancel _ (by decide)]

theorem remaining_afterFragment {offset : UInt16}
    {fragment : ControlRequestFragment}
    (aligned : SlotAligned (some (request, offset)))
    (made : ControlRequestFragment.fromRequest request offset.toNat =
      .ok fragment) :
    SlotAligned (afterFragment request offset fragment) ∧
      remaining (some (request, offset)) =
        ⟨recordControlRequest, 0, fragment.encode⟩ ::
          remaining (afterFragment request offset fragment) := by
  obtain ⟨index, place, inside⟩ := aligned request offset rfl
  rw [remaining_at place]
  rw [place] at made
  rw [MirrorControlRequest.piecesFrom_cons inside made]
  have bounded := request.data.length_le
  unfold ControlRequestFragment.fromRequest at made
  obtain ⟨_, _, same⟩ := bind_eq_ok.mp made
  cases same
  unfold afterFragment
  rw [isLastFragment_fragmentFlags]
  unfold MirrorControlRequest.pieceCount controlDataMaxLen
    controlFragmentDataMaxLen at *
  split
  · rename_i last
    refine ⟨slotAligned_none, ?_⟩
    rw [decide_eq_true_iff] at last
    rw [MirrorControlRequest.piecesFrom_end]
    · rfl
    · unfold MirrorControlRequest.pieceCount controlFragmentDataMaxLen
      split <;> omega
  · rename_i more
    rw [decide_eq_true_iff] at more
    have length : (fragmentData (request.data.toList.drop
        (index * 86))).toList.length = 86 := by
      unfold fragmentData controlFragmentDataMaxLen
      rw [List.length_take, List.length_drop]
      omega
    have next : (UInt16.ofNat (offset.toNat + (fragmentData
        (request.data.toList.drop (index * 86))).toList.length)).toNat =
          (index + 1) * controlFragmentDataMaxLen := by
      rw [length, UInt16.toNat_ofNat', place]
      unfold controlFragmentDataMaxLen
      omega
    constructor
    · intro found offset same
      cases same
      refine ⟨index + 1, next, ?_⟩
      unfold MirrorControlRequest.pieceCount controlFragmentDataMaxLen
      split <;> omega
    · rw [remaining_at next]

def recordsOf (cell : SpiCell) : List Record :=
  (RecordIter.ofCell cell).items.1.filterMap Except.toOption

theorem recordsOf_carries {records : List Record}
    (carries : cell.CarriesRecords records) : recordsOf cell = records := by
  rw [recordsOf, carries.1, List.filterMap_map]
  exact List.filterMap_some

def Part.queued (part : Part) : List Record :=
  part.newCells.flatMap recordsOf

def Effect.queued (effect : Effect) : List Record :=
  effect.parts.flatMap Part.queued

def queuedOf (recordType : UInt8) (history : List DeviceTransition) :
    List Record :=
  (history.flatMap fun taken => taken.output.queued).filter
    (·.recordType = recordType)

def managementAsked (taken : DeviceTransition) : List Record :=
  match taken.event with
  | .queueManagementRequest request _ =>
      if taken.output.returned then
        [⟨recordManagementRequest, 0, request.encode⟩]
      else []
  | _ => []

def controlAsked (taken : DeviceTransition) : List Record :=
  match taken.event with
  | .queueControlRequest request _ =>
      if taken.output.returned then request.pieces else []
  | _ => []

/-- A full window takes a request only into its slot. -/
def Stores (link : DeviceLink) : Call → Prop
  | .queueControlRequest _ _ =>
      link.ready = true ∧ link.controlRequestTx = none ∧
        link.sender.pendingLen = spiTxWindow
  | .queueManagementRequest _ _ =>
      link.ready = true ∧ link.managementRequestTx = none ∧
        link.sender.pendingLen = spiTxWindow
  | _ => False

/-- The cell is of another host session, or it is handled and has a LINK_RESET
record. -/
def StartsOver (link : DeviceLink) (cell : SpiCell) : Prop :=
  link.receiver.sessionId ≠ some cell.header.sessionId ∨
    (link.hostCompatible = true ∨ containsCompatibleHostHello cell = true) ∧
      (∃ changed sequence,
        (link.receiver.receive cell).1 = .accepted changed sequence) ∧
      ∃ record ∈ recordsOf cell, record.recordType = recordLinkReset

/-- The host starts over while pieces of a request are still to be queued. -/
def Abandons (link : DeviceLink) : Call → Prop
  | .handleTransaction wire _ _ =>
      link.controlRequestTx.isSome = true ∧
        ∃ cell, SpiCell.decode wire = .ok cell ∧ link.StartsOver cell
  | _ => False

def Unchanged (taken : DeviceTransition) : Prop :=
  match taken.event with
  | .queueControlRequest _ _ | .queueManagementRequest _ _ =>
      taken.output.returned = false → taken.after = taken.before
  | _ => True

variable {link : DeviceLink}

theorem Part.queued_quiet {part : Part} (cells : part.newCells = []) :
    part.queued = [] := by
  rw [queued, cells]
  rfl

theorem Part.queued_adds {part : Part} {records : List Record}
    (adds : part.before.sender.Adds part.after.sender records) :
    part.queued = records := by
  obtain ⟨cell, cells, carries⟩ := adds.new
  rw [queued, newCells, cells, List.flatMap_singleton,
    recordsOf_carries carries]

theorem filter_same (recordType : UInt8) (data : List UInt8) :
    [(⟨recordType, 0, data⟩ : Record)].filter (·.recordType = recordType) =
      [⟨recordType, 0, data⟩] := by
  simp

theorem filter_other (differs : recordType ≠ other) (data : List UInt8) :
    [(⟨recordType, 0, data⟩ : Record)].filter (·.recordType = other) = [] := by
  simp [differs]

structure Accounts (link : DeviceLink) (call : Call) (after : DeviceLink)
    (effect : Effect) : Prop where
  aligned : SlotAligned after.controlRequestTx
  control : effect.queued.filter (·.recordType = recordControlRequest) ++
      remaining after.controlRequestTx =
    remaining link.controlRequestTx ++ controlAsked ⟨link, call, effect, after⟩
  management : link.managementRequestTx = none →
    after.managementRequestTx = none ∧
      effect.queued.filter (·.recordType = recordManagementRequest) =
        managementAsked ⟨link, call, effect, after⟩

theorem accounts_other (aligned : SlotAligned link.controlRequestTx)
    (slot : after.controlRequestTx = link.controlRequestTx)
    (management : after.managementRequestTx = link.managementRequestTx)
    (others : ∀ record ∈ effect.queued,
      record.recordType ≠ recordControlRequest ∧
        record.recordType ≠ recordManagementRequest)
    (unasked : controlAsked ⟨link, call, effect, after⟩ = [] ∧
      managementAsked ⟨link, call, effect, after⟩ = []) :
    Accounts link call after effect where
  aligned := by
    rw [slot]
    exact aligned
  control := by
    rw [unasked.1, slot, List.append_nil, List.filter_eq_nil_iff.mpr]
    · rfl
    · intro record member same
      exact (others record member).1 (of_decide_eq_true same)
  management := by
    intro empty
    refine ⟨management.trans empty, ?_⟩
    rw [unasked.2]
    refine List.filter_eq_nil_iff.mpr fun record member same => ?_
    exact (others record member).2 (of_decide_eq_true same)

theorem queued_whole (result : Bool × DeviceLink) :
    (link.whole result).2.queued = (link.single result.2).queued := by
  rw [Effect.queued]
  exact List.flatMap_singleton _ _

theorem queued_single_quiet {after : DeviceLink}
    (cells : link.sender.newCells after.sender = []) :
    (link.single after).queued = [] := Part.queued_quiet cells

theorem queued_single_adds {records : List Record}
    (adds : link.sender.Adds after.sender records) :
    (link.single after).queued = records := Part.queued_adds adds

theorem others_of_single {record : Record}
    (control : record.recordType ≠ recordControlRequest)
    (management : record.recordType ≠ recordManagementRequest) :
    ∀ found ∈ [record], found.recordType ≠ recordControlRequest ∧
      found.recordType ≠ recordManagementRequest := by
  intro found member
  rw [List.mem_singleton.mp member]
  exact ⟨control, management⟩

theorem others_of_nil : ∀ found ∈ ([] : List Record),
    found.recordType ≠ recordControlRequest ∧
      found.recordType ≠ recordManagementRequest := by
  intro _ impossible
  cases impossible

section

variable (streams : link.sender.Streams)

include streams

theorem accounts_queueOneRecord (aligned : SlotAligned link.controlRequestTx)
    (control : recordType ≠ recordControlRequest)
    (management : recordType ≠ recordManagementRequest)
    (unasked : ∀ effect after, controlAsked ⟨link, call, effect, after⟩ = [] ∧
      managementAsked ⟨link, call, effect, after⟩ = []) :
    Accounts link call (link.queueOneRecord recordType data nowMs).2
      (link.whole (link.queueOneRecord recordType data nowMs)).2 := by
  rcases queueOneRecord_cases streams recordType data nowMs with
    refused | ⟨cell, sender, _, queued, adds⟩
  · rw [refused]
    refine accounts_other aligned rfl rfl ?_ (unasked _ _)
    rw [queued_whole, queued_single_quiet (ReliableSender.newCells_self _)]
    exact others_of_nil
  · rw [queued]
    refine accounts_other aligned rfl rfl ?_ (unasked _ _)
    rw [queued_whole, queued_single_adds adds]
    exact others_of_single control management

theorem accounts_updateUsbState
    (aligned : SlotAligned link.controlRequestTx) (state : UsbState)
    (nowMs : UInt64) :
    Accounts link (.updateUsbState state nowMs)
      (link.updateUsbState state nowMs)
      (link.whole (true, link.updateUsbState state nowMs)).2 := by
  rcases updateUsbState_cases streams state nowMs with
    kept | ⟨cell, sender, _, queued, adds⟩
  · rw [kept]
    refine accounts_other aligned rfl rfl ?_ ⟨rfl, rfl⟩
    rw [queued_whole, @queued_single_quiet link { link with
      usbState := state, usbStateDirty := true }
        (ReliableSender.newCells_self _)]
    exact others_of_nil
  · rw [queued]
    refine accounts_other aligned rfl rfl ?_ ⟨rfl, rfl⟩
    rw [queued_whole, queued_single_adds adds]
    exact others_of_single (show recordUsbState ≠ _ by decide)
      (show recordUsbState ≠ _ by decide)

theorem full_of_stored_control
    (unqueued : ({ link with controlRequestTx := some (request, 0) } :
      DeviceLink).queueNextControlRequestFragment nowMs =
        (none, { link with controlRequestTx := some (request, 0) })) :
    link.sender.pendingLen = spiTxWindow := by
  obtain ⟨released, stream⟩ := streams
  refine Nat.le_antisymm stream.length_le (Nat.not_lt.mp fun room => ?_)
  refine @controlFragment_room { link with
    controlRequestTx := some (request, 0) } ⟨released, stream⟩ ?_ rfl room
    nowMs unqueued
  intro found offset same
  cases same
  exact request.within_zero

theorem full_of_stored_management
    (unqueued : ({ link with managementRequestTx := some request } :
      DeviceLink).queuePendingManagementRequest nowMs =
        (none, { link with managementRequestTx := some request })) :
    link.sender.pendingLen = spiTxWindow := by
  obtain ⟨released, stream⟩ := streams
  refine Nat.le_antisymm stream.length_le (Nat.not_lt.mp fun room => ?_)
  exact @managementRequest_room { link with
    managementRequestTx := some request } ⟨released, stream⟩ rfl room nowMs
    unqueued

section

variable (aligned : SlotAligned link.controlRequestTx)

include aligned

theorem accounts_queueControlRequest
    (request : MirrorControlRequest) (nowMs : UInt64)
    (unstored : ¬ link.Stores (.queueControlRequest request nowMs)) :
    Accounts link (.queueControlRequest request nowMs)
      (link.queueControlRequest request nowMs).2
      (link.whole (link.queueControlRequest request nowMs)).2 := by
  rcases queueControlRequest_cases streams request nowMs with
    ⟨refused, _⟩ | ⟨ready, free, ⟨_, unqueued⟩ |
      ⟨fragment, cell, sender, made, queued, adds⟩⟩
  · rw [refused]
    refine accounts_other aligned rfl rfl ?_ ⟨rfl, rfl⟩
    rw [queued_whole, queued_single_quiet (ReliableSender.newCells_self _)]
    exact others_of_nil
  · exact absurd ⟨ready, free, full_of_stored_control streams unqueued⟩
      unstored
  · rw [queued]
    have first := remaining_afterFragment (slotAligned_start request) made
    constructor
    · exact first.1
    · rw [queued_whole, queued_single_adds adds, filter_same, free]
      exact first.2.symm
    · intro empty
      refine ⟨empty, ?_⟩
      rw [queued_whole, queued_single_adds adds]
      exact filter_other (show recordControlRequest ≠ _ by decide) _

theorem accounts_queueManagementRequest
    (request : ManagementRequest .dual) (nowMs : UInt64)
    (unstored : ¬ link.Stores (.queueManagementRequest request nowMs)) :
    Accounts link (.queueManagementRequest request nowMs)
      (link.queueManagementRequest request nowMs).2
      (link.whole (link.queueManagementRequest request nowMs)).2 := by
  rcases queueManagementRequest_cases streams request nowMs with
    ⟨refused, _⟩ | ⟨ready, free, ⟨_, unqueued⟩ | ⟨cell, sender, queued, adds⟩⟩
  · rw [refused]
    refine accounts_other aligned rfl rfl ?_ ⟨rfl, rfl⟩
    rw [queued_whole, queued_single_quiet (ReliableSender.newCells_self _)]
    exact others_of_nil
  · exact absurd ⟨ready, free, full_of_stored_management streams unqueued⟩
      unstored
  · rw [queued]
    constructor
    · exact aligned
    · rw [queued_whole, queued_single_adds adds,
        filter_other (show recordManagementRequest ≠ _ by decide)]
      exact (List.append_nil _).symm
    · intro empty
      refine ⟨empty, ?_⟩
      rw [queued_whole, queued_single_adds adds, filter_same]
      rfl

theorem accounts_nextTransaction (nowMs : UInt64)
    (empty : link.managementRequestTx = none) :
    Accounts link (.nextTransaction nowMs) (link.nextTransaction nowMs).2
      (link.whole (true, (link.nextTransaction nowMs).2)).2 := by
  cases nextTransaction_drains streams nowMs with
  | quiet sender _ _ cells frame =>
      rw [frame]
      refine accounts_other aligned rfl rfl ?_ ⟨rfl, rfl⟩
      rw [queued_whole, queued_single_quiet cells]
      exact others_of_nil
  | fragment request offset fragment sender waiting made _ adds frame =>
      rw [frame]
      rw [waiting] at aligned
      obtain ⟨following, rest⟩ := remaining_afterFragment aligned made
      constructor
      · exact following
      · rw [queued_whole, queued_single_adds adds, filter_same, waiting, rest]
        exact (List.append_nil _).symm
      · intro _
        refine ⟨empty, ?_⟩
        rw [queued_whole, queued_single_adds adds]
        exact filter_other (show recordControlRequest ≠ _ by decide) _
  | management request sender waiting _ adds frame =>
      rw [empty] at waiting
      cases waiting
  | usbState sender _ adds frame =>
      rw [frame]
      refine accounts_other aligned rfl rfl ?_ ⟨rfl, rfl⟩
      rw [queued_whole, queued_single_adds adds]
      exact others_of_single (show recordUsbState ≠ _ by decide)
        (show recordUsbState ≠ _ by decide)
  | restart sender _ _ cells frame =>
      rw [frame]
      refine accounts_other aligned rfl rfl ?_ ⟨rfl, rfl⟩
      intro record member
      rw [queued_whole] at member
      obtain ⟨cell, new, inside⟩ := List.mem_flatMap.mp member
      rw [recordsOf_carries (cells cell new)] at inside
      rw [List.mem_singleton.mp inside]
      exact ⟨show recordHello ≠ _ by decide, show recordHello ≠ _ by decide⟩

end

end

theorem others_of_same {part : Part}
    (same : part.after.sender = part.before.sender) :
    ∀ found ∈ part.queued, found.recordType ≠ recordControlRequest ∧
      found.recordType ≠ recordManagementRequest := by
  rw [Part.queued_quiet]
  · exact others_of_nil
  · rw [Part.newCells, same]
    exact ReliableSender.newCells_self _

theorem Handles.queued_others {part : Part}
    (handles : Handles part.before record part.after) :
    ∀ found ∈ part.queued, found.recordType ≠ recordControlRequest ∧
      found.recordType ≠ recordManagementRequest := by
  cases handles with
  | command diagnostics assembler frame =>
      exact others_of_same (by rw [frame])
  | incompatible frame => exact others_of_same (by rw [frame])
  | compatible sender nextCell usbStateDirty introduced adds frame =>
      rcases adds with same | adds
      · exact others_of_same (by rw [frame]; exact same)
      · rw [Part.queued_adds (by rw [frame]; exact adds)]
        intro found member
        rcases List.mem_cons.mp member with rfl | last
        · exact ⟨show recordHelloAck ≠ _ by decide,
            show recordHelloAck ≠ _ by decide⟩
        · exact others_of_single (show recordUsbState ≠ _ by decide)
            (show recordUsbState ≠ _ by decide) found last
  | reset sender nextCell resets adds frame =>
      rcases adds with same | adds
      · exact others_of_same (by rw [frame]; exact same)
      · rw [Part.queued_adds (by rw [frame]; exact adds)]
        exact others_of_single (show recordHello ≠ _ by decide)
          (show recordHello ≠ _ by decide)
  | fallback diagnostics sender nextCell usbStateDirty adds frame =>
      rcases adds with same | ⟨_, adds⟩
      · exact others_of_same (by rw [frame]; exact same)
      · rw [Part.queued_adds (by rw [frame]; exact adds)]
        exact others_of_single (show recordUsbState ≠ _ by decide)
          (show recordUsbState ≠ _ by decide)

theorem Handles.slots (handles : Handles before record after) :
    (after.controlRequestTx = before.controlRequestTx ∧
        after.managementRequestTx = before.managementRequestTx) ∨
      (record.recordType = recordLinkReset ∧
        after.controlRequestTx = none ∧ after.managementRequestTx = none) := by
  cases handles with
  | command diagnostics assembler frame =>
      rw [frame]
      exact .inl ⟨rfl, rfl⟩
  | incompatible frame =>
      rw [frame]
      exact .inl ⟨rfl, rfl⟩
  | compatible sender nextCell usbStateDirty introduced adds frame =>
      rw [frame]
      exact .inl ⟨rfl, rfl⟩
  | reset sender nextCell resets adds frame =>
      rw [frame]
      exact .inr ⟨resets, rfl, rfl⟩
  | fallback diagnostics sender nextCell usbStateDirty adds frame =>
      rw [frame]
      exact .inl ⟨rfl, rfl⟩

def Drops (before after : DeviceLink) : Prop :=
  (after.controlRequestTx = before.controlRequestTx ∨
      after.controlRequestTx = none) ∧
    (after.managementRequestTx = before.managementRequestTx ∨
      after.managementRequestTx = none)

theorem Drops.trans (first : Drops before middle)
    (second : Drops middle after) : Drops before after := by
  obtain ⟨firstControl, firstManagement⟩ := first
  obtain ⟨secondControl, secondManagement⟩ := second
  constructor
  · rcases secondControl with same | empty
    · rw [same]
      exact firstControl
    · exact .inr empty
  · rcases secondManagement with same | empty
    · rw [same]
      exact firstManagement
    · exact .inr empty

theorem handleTransaction_drops (streams : link.sender.Streams)
    (wire : Vector UInt8 spiCellLen) (nowMs : UInt64)
    (events : BoundedVec DeviceLinkEvent capacity) :
    Drops link (link.handleTransaction wire nowMs events).link := by
  refine @handleTransaction_keeps capacity link (Drops link) streams ?_ ?_
    wire nowMs events ⟨.inl rfl, .inl rfl⟩
  · intro cumulativeAck after _ opens
    obtain ⟨diagnostics, receiver, rfl | rfl⟩ := opens
    · exact ⟨.inl rfl, .inl rfl⟩
    · exact ⟨.inr rfl, .inr rfl⟩
  · intro before record after _ drops handles
    refine drops.trans ?_
    rcases handles.slots with
      ⟨control, management⟩ | ⟨-, control, management⟩
    · exact ⟨.inl control, .inl management⟩
    · exact ⟨.inr control, .inr management⟩

theorem handleItems_slot {turn : Turn capacity}
    (streams : turn.link.sender.Streams)
    (steady : ∀ record, .ok record ∈ items →
      record.recordType ≠ recordLinkReset) :
    (turn.handleItems nowMs items).2.link.controlRequestTx =
      turn.link.controlRequestTx := by
  induction items generalizing turn with
  | nil => rfl
  | cons item rest ih =>
      cases item with
      | error _ => rfl
      | ok record =>
          have handled := turn.handles_handleRecord streams record nowMs
          refine (ih (handled.streams streams) fun later member =>
            steady later (List.mem_cons_of_mem _ member)).trans ?_
          rcases handled.slots with ⟨control, -⟩ | ⟨resets, -⟩
          · exact control
          · exact absurd resets (steady record List.mem_cons_self)

theorem opened_slot {turn : Turn capacity}
    (same : turn.link.receiver.sessionId = some cell.header.sessionId) :
    (turn.opened cell).1.link.controlRequestTx = turn.link.controlRequestTx ∧
      ((turn.opened cell).2 = true →
        (turn.link.hostCompatible = true ∨
          containsCompatibleHostHello cell = true) ∧
        ∃ changed sequence, (turn.link.receiver.receive cell).1 =
          .accepted changed sequence) := by
  unfold Turn.opened
  dsimp only [Turn.count, Turn.acknowledged, Turn.update]
  rw [if_neg (not_not_intro same)]
  split
  · exact ⟨rfl, fun impossible => by cases impossible⟩
  · rename_i known
    rw [not_and_or, not_not, not_not] at known
    unfold Turn.admitted
    dsimp only [Turn.update]
    cases (turn.link.receiver.receive cell).1 with
    | accepted changed sequence =>
        exact ⟨rfl, fun _ => ⟨known, _, _, rfl⟩⟩
    | _ => exact ⟨rfl, fun impossible => by cases impossible⟩

theorem handleTransaction_slot (streams : link.sender.Streams)
    (steady : ∀ cell, SpiCell.decode wire = .ok cell →
      ¬ link.StartsOver cell) (events : BoundedVec DeviceLinkEvent capacity) :
    (link.handleTransaction wire nowMs events).link.controlRequestTx =
      link.controlRequestTx := by
  unfold handleTransaction
  dsimp only
  split
  · rfl
  · rename_i cell decoded
    obtain ⟨same, unreset⟩ := not_or.mp (steady cell decoded)
    obtain ⟨slot, handled⟩ := @opened_slot capacity cell ⟨link, events⟩
      (Decidable.not_not.mp same)
    rw [Turn.handleCell_opened]
    split
    · rename_i accepted
      obtain ⟨known, received⟩ := handled accepted
      have items := @handleItems_slot capacity
        (RecordIter.ofCell cell).items.1 nowMs _
        (@opened_streams capacity ⟨link, events⟩ streams cell)
        fun record member resets => unreset ⟨known, received, record,
          List.mem_filterMap.mpr ⟨_, member, rfl⟩, resets⟩
      unfold Turn.handleRecords
      dsimp only
      split
      · rename_i stopped
        rw [stopped] at items
        exact items.trans slot
      · rename_i finished
        rw [finished] at items
        split <;> exact items.trans slot
    · exact slot

theorem transactionParts_others (streams : link.sender.Streams)
    (wire : Vector UInt8 spiCellLen) (nowMs : UInt64)
    (events : BoundedVec DeviceLinkEvent capacity) :
    ∀ found ∈ (link.perform (.handleTransaction wire nowMs
      events)).2.queued, found.recordType ≠ recordControlRequest ∧
        found.recordType ≠ recordManagementRequest := by
  intro found member
  obtain ⟨part, inside, queued⟩ := List.mem_flatMap.mp member
  rcases transactionParts_cases streams wire nowMs events part inside with
    ⟨before, _, cumulativeAck, opens⟩ | ⟨_, record, _, handles⟩
  · obtain ⟨released, stream⟩ := streams
    have quiet : part.newCells = [] := by
      rw [Part.newCells, before, opens.sender]
      exact ReliableSender.newCells_nil
        (ReliableSender.keys_acknowledge stream cumulativeAck)
    rw [Part.queued_quiet quiet] at queued
    cases queued
  · exact handles.queued_others found queued

/-- Each request that was taken is queued once, piece by piece. -/
structure Once (history : List DeviceTransition) (link : DeviceLink) :
    Prop where
  management : queuedOf recordManagementRequest history =
    history.flatMap managementAsked
  control : queuedOf recordControlRequest history ++
    remaining link.controlRequestTx = history.flatMap controlAsked

structure Ledger (history : List DeviceTransition) (link : DeviceLink) :
    Prop extends Once history link where
  aligned : SlotAligned link.controlRequestTx
  empty : link.managementRequestTx = none

theorem queuedOf_append (recordType : UInt8)
    (history : List DeviceTransition) (taken : DeviceTransition) :
    queuedOf recordType (history ++ [taken]) =
      queuedOf recordType history ++
        taken.output.queued.filter (·.recordType = recordType) := by
  rw [queuedOf, queuedOf, List.flatMap_append, List.filter_append,
    List.flatMap_singleton]

variable {history : List DeviceTransition} {taken : DeviceTransition}

theorem Ledger.accounts (ledger : Ledger history taken.before)
    (accounts : Accounts taken.before taken.event taken.after taken.output) :
    Ledger (history ++ [taken]) taken.after := by
  obtain ⟨empty, management⟩ := accounts.management ledger.empty
  exact {
    management := by
      rw [queuedOf_append, ledger.management, management, List.flatMap_append,
        List.flatMap_singleton]
    control := by
      rw [queuedOf_append, List.append_assoc, accounts.control,
        ← List.append_assoc, ledger.control, List.flatMap_append,
        List.flatMap_singleton]
    aligned := accounts.aligned
    empty := empty }

theorem slots_kept (streams : link.sender.Streams)
    (empty : link.managementRequestTx = none)
    (kept : ¬ link.Abandons (.handleTransaction wire nowMs events)) :
    (link.handleTransaction wire nowMs events).link.controlRequestTx =
        link.controlRequestTx ∧
      (link.handleTransaction wire nowMs events).link.managementRequestTx =
        link.managementRequestTx := by
  obtain ⟨control, management⟩ :=
    handleTransaction_drops streams wire nowMs events
  constructor
  · cases slot : link.controlRequestTx with
    | none =>
        rcases control with same | gone
        · exact same.trans slot
        · exact gone
    | some waiting =>
        rw [← slot]
        apply handleTransaction_slot streams
        intro cell decoded starts
        exact kept ⟨by rw [slot]; rfl, cell, decoded, starts⟩
  · rcases management with same | gone
    · exact same
    · exact gone.trans empty.symm

theorem Ledger.step (ledger : Ledger history taken.before)
    (requesting : Requesting taken.before)
    (step : Step taken.before taken.event taken.output taken.after)
    (unstored : ¬ taken.before.Stores taken.event)
    (kept : ¬ taken.before.Abandons taken.event) :
    Ledger (history ++ [taken]) taken.after := by
  have streams := requesting.streams
  obtain ⟨before, call, effect, after⟩ := taken
  obtain rfl : (before.perform call).1 = after := congrArg Prod.fst step
  obtain rfl : (before.perform call).2 = effect := congrArg Prod.snd step
  cases call with
  | updateUsbState state nowMs =>
      exact ledger.accounts
        (accounts_updateUsbState streams ledger.aligned state nowMs)
  | queueStandardOutput report nowMs =>
      exact ledger.accounts (accounts_queueOneRecord streams ledger.aligned
        (by decide) (by decide) fun _ _ => ⟨rfl, rfl⟩)
  | queueProfileResult result nowMs =>
      exact ledger.accounts (accounts_queueOneRecord streams ledger.aligned
        (by decide) (by decide) fun _ _ => ⟨rfl, rfl⟩)
  | queueRawEndpointOut report nowMs =>
      exact ledger.accounts (accounts_queueOneRecord streams ledger.aligned
        (by decide) (by decide) fun _ _ => ⟨rfl, rfl⟩)
  | queueControlRequest request nowMs =>
      exact ledger.accounts (accounts_queueControlRequest streams
        ledger.aligned request nowMs unstored)
  | queueManagementRequest request nowMs =>
      exact ledger.accounts (accounts_queueManagementRequest streams
        ledger.aligned request nowMs unstored)
  | nextTransaction nowMs =>
      exact ledger.accounts (accounts_nextTransaction streams ledger.aligned
        nowMs ledger.empty)
  | handleTransaction wire nowMs events =>
      obtain ⟨control, management⟩ := slots_kept streams ledger.empty kept
      exact ledger.accounts (accounts_other ledger.aligned control management
        (transactionParts_others streams wire nowMs events) ⟨rfl, rfl⟩)

theorem unchanged_controlRequest (streams : link.sender.Streams)
    (request : MirrorControlRequest) (nowMs : UInt64) :
    ((link.queueControlRequest request nowMs).1 = false →
        (link.queueControlRequest request nowMs).2 = link) ↔
      ¬ link.Stores (.queueControlRequest request nowMs) := by
  rcases queueControlRequest_cases streams request nowMs with
    ⟨refused, busy⟩ | ⟨ready, free, ⟨stored, unqueued⟩ |
      ⟨fragment, cell, sender, _, queued, adds⟩⟩
  · rw [refused]
    exact iff_of_true (fun _ => rfl) fun stores =>
      busy ⟨stores.1, stores.2.1⟩
  · rw [stored]
    refine iff_of_false (fun same => ?_) (fun unstored => unstored ⟨ready,
      free, full_of_stored_control streams unqueued⟩)
    have slot := congrArg controlRequestTx (same rfl)
    rw [free] at slot
    cases slot
  · rw [queued]
    refine iff_of_true (fun impossible => by cases impossible) ?_
    intro stores
    exact Nat.ne_of_lt adds.room stores.2.2

theorem unchanged_managementRequest (streams : link.sender.Streams)
    (request : ManagementRequest .dual) (nowMs : UInt64) :
    ((link.queueManagementRequest request nowMs).1 = false →
        (link.queueManagementRequest request nowMs).2 = link) ↔
      ¬ link.Stores (.queueManagementRequest request nowMs) := by
  rcases queueManagementRequest_cases streams request nowMs with
    ⟨refused, busy⟩ | ⟨ready, free, ⟨stored, unqueued⟩ |
      ⟨cell, sender, queued, adds⟩⟩
  · rw [refused]
    exact iff_of_true (fun _ => rfl) fun stores =>
      busy ⟨stores.1, stores.2.1⟩
  · rw [stored]
    refine iff_of_false (fun same => ?_) (fun unstored => unstored ⟨ready,
      free, full_of_stored_management streams unqueued⟩)
    have slot := congrArg managementRequestTx (same rfl)
    rw [free] at slot
    cases slot
  · rw [queued]
    refine iff_of_true (fun impossible => by cases impossible) ?_
    intro stores
    exact Nat.ne_of_lt adds.room stores.2.2

theorem unchanged_iff (requesting : Requesting taken.before)
    (step : Step taken.before taken.event taken.output taken.after) :
    Unchanged taken ↔ ¬ taken.before.Stores taken.event := by
  have streams := requesting.streams
  obtain ⟨before, call, effect, after⟩ := taken
  obtain rfl : (before.perform call).1 = after := congrArg Prod.fst step
  obtain rfl : (before.perform call).2 = effect := congrArg Prod.snd step
  cases call with
  | queueControlRequest request nowMs =>
      exact unchanged_controlRequest streams request nowMs
  | queueManagementRequest request nowMs =>
      exact unchanged_managementRequest streams request nowMs
  | _ => exact iff_of_true trivial id

theorem ledger_withCapabilities (sessionId : UInt32) (usbState : UsbState)
    (capabilities activeProfileHash : UInt32) :
    Ledger [] (withCapabilities sessionId usbState capabilities
      activeProfileHash) := by
  obtain ⟨control, management⟩ := slots_withCapabilities sessionId usbState
    capabilities activeProfileHash
  constructor
  · constructor
    · rfl
    · rw [control]
      rfl
  · rw [control]
    exact slotAligned_none
  · exact management

/-- A request that is not taken leaves the link unchanged, and then each
request that is taken is queued once, where the host does not start over
within one. -/
theorem requests_queued_once {sessionId : UInt32} {usbState : UsbState}
    {capabilities activeProfileHash : UInt32}
    {history : List DeviceTransition}
    (run : Run Step (withCapabilities sessionId usbState capabilities
      activeProfileHash) history link) :
    (∀ taken ∈ history, Unchanged taken ↔ ¬ taken.before.Stores taken.event) ∧
    ((∀ taken ∈ history, ¬ taken.before.Stores taken.event ∧
      ¬ taken.before.Abandons taken.event) → Once history link) := by
  have requesting : ∀ {earlier reached}, Run Step (withCapabilities sessionId
      usbState capabilities activeProfileHash) earlier reached →
        Requesting reached := fun first =>
    requesting_run first (requesting_withCapabilities ..)
  constructor
  · intro taken member
    obtain ⟨earlier, later, rfl⟩ := List.append_of_mem member
    obtain ⟨first, step, _⟩ := run.split_at
    exact unchanged_iff (requesting first) step
  · intro unspoilt
    refine Ledger.toOnce (run.invariant_history Ledger
      (ledger_withCapabilities ..) ?_)
    intro earlier taken later split step ledger
    subst split
    obtain ⟨unstored, kept⟩ :=
      unspoilt taken (List.mem_append_right _ List.mem_cons_self)
    exact ledger.step (requesting run.split_at.1) step unstored kept

def firstPiece : DeviceLink × Effect :=
  requested.1.perform (.nextTransaction 4)

def secondPiece : DeviceLink × Effect :=
  firstPiece.1.perform (.nextTransaction 5)

def stored : DeviceLink × Effect :=
  secondPiece.1.perform (.queueControlRequest longRequest 6)

def requestedHistory : List DeviceTransition :=
  [transition started (reception firstHello 1) greeted,
    transition greeted.1 (.nextTransaction 2) answered,
    transition answered.1 (.queueControlRequest longRequest 3) requested,
    transition requested.1 (.nextTransaction 4) firstPiece,
    transition firstPiece.1 (.nextTransaction 5) secondPiece]

theorem requested_run : Run Step started requestedHistory secondPiece.1 :=
  .cons (perform_reception firstHello_valid _ _) (.cons (perform_step _ _)
    (.cons (perform_step _ _) (.cons (perform_step _ _)
      (.cons (perform_step _ _) (.nil _)))))

theorem requests_queued_once_requested :
    Once requestedHistory secondPiece.1 := by
  refine (requests_queued_once requested_run).2 ?_
  simp only [requestedHistory, List.forall_mem_cons, List.not_mem_nil,
    false_imp_iff, implies_true, and_true]
  refine ⟨⟨id, ?_⟩, ⟨id, id⟩, ⟨?_, id⟩, ⟨id, id⟩, id, id⟩
  · rintro ⟨waiting, -⟩
    revert waiting
    decide +kernel
  · unfold Stores
    decide +kernel

/-- The request is refused, and still it is in its slot. -/
theorem refused_request_kept :
    ¬ ∀ history link, Run Step started history link →
      ∀ taken ∈ history, Unchanged taken := by
  intro claimed
  have later : Run Step secondPiece.1
      [transition secondPiece.1 (.queueControlRequest longRequest 6) stored]
      stored.1 := .cons (perform_step _ _) (.nil _)
  have unchanged := claimed _ _ (Run.append_iff.mpr ⟨_, requested_run, later⟩)
    (transition secondPiece.1 (.queueControlRequest longRequest 6) stored)
    (by simp)
  have refused : stored.2.returned = false := by decide +kernel
  simp only [Unchanged] at unchanged
  have same : stored.1 = secondPiece.1 := unchanged refused
  have slots := congrArg (fun link => link.controlRequestTx.isSome) same
  revert slots
  decide +kernel

end DeviceLink

end HidShift
