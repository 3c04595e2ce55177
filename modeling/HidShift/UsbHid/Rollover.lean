import HidShift.Input.AggregatorExact
import HidShift.UsbHid.FrameDomains

namespace HidShift

open Lib Lib.Checked

theorem KeyboardFrame.mem_pushKey {frame next : KeyboardFrame}
    (pushed : frame.pushKey key = .ok next) (other : KeyUsage) :
    other ∈ next.keysDown.toList ↔
      other ∈ frame.keysDown.toList ∨ key = other := by
  rw [pushKey] at pushed
  split at pushed
  · split at pushed
    · rename_i keys found
      cases pushed
      rw [BoundedVec.push?_eq_some.mp found, List.mem_append,
        List.mem_singleton, eq_comm]
    · cases pushed
  · rename_i held
    cases pushed
    refine (or_iff_left_of_imp ?_).symm
    intro same
    rw [← same]
    exact not_not.mp held

def HidReportEvent.key? : HidReportEvent → Option KeyUsage
  | .keyboardUsageDown usage =>
      if modifierFromKeyboardUsage usage = none ∧ 4 ≤ usage then some ⟨usage⟩
      else none
  | _ => none

namespace FrameParts

theorem mem_add {parts next : FrameParts} {event : HidReportEvent}
    (added : parts.add event = .ok next) (key : KeyUsage) :
    key ∈ next.keyboard.keysDown.toList ↔
      key ∈ parts.keyboard.keysDown.toList ∨ event.key? = some key := by
  cases event with
  | keyboardUsageDown usage =>
      rw [add, addKey] at added
      rw [HidReportEvent.key?]
      cases modifier : modifierFromKeyboardUsage usage with
      | some modifier =>
          rw [modifier] at added
          cases added
          simp
      | none =>
          rw [modifier] at added
          dsimp only at added
          split at added
          · rename_i large
            obtain ⟨keyboard, pushed, same⟩ := bind_eq_ok.mp added
            cases same
            simp [large, KeyboardFrame.mem_pushKey pushed]
          · rename_i small
            cases added
            simp [small]
  | _ =>
      cases added
      simp [HidReportEvent.key?, move]

theorem mem_addAll {events : List HidReportEvent} {parts next : FrameParts}
    (added : events.foldlM add parts = .ok next) (key : KeyUsage) :
    key ∈ next.keyboard.keysDown.toList ↔
      key ∈ parts.keyboard.keysDown.toList ∨
        ∃ event ∈ events, event.key? = some key := by
  induction events generalizing parts with
  | nil =>
      cases added
      simp
  | cons event rest ih =>
      rw [List.foldlM_cons] at added
      obtain ⟨middle, now, later⟩ := bind_eq_ok.mp added
      rw [ih later, mem_add now]
      simp [or_assoc]

theorem keys_of_absent {events : List HidReportEvent} {parts next : FrameParts}
    (added : events.foldlM add parts = .ok next)
    (start : parts.hasKeyboard = false → parts.keyboard.keysDown.toList = [])
    (absent : next.hasKeyboard = false) :
    next.keyboard.keysDown.toList = [] := by
  induction events generalizing parts with
  | nil =>
      cases added
      exact start absent
  | cons event rest ih =>
      rw [List.foldlM_cons] at added
      obtain ⟨middle, now, later⟩ := bind_eq_ok.mp added
      refine ih later fun stillAbsent => ?_
      have joined := congrArg HidReportDomains.keyboard (domains_add now)
      rw [show middle.domains.keyboard = false from stillAbsent] at joined
      obtain ⟨before, other⟩ := Bool.or_eq_false_iff.mp joined.symm
      refine List.eq_nil_iff_forall_not_mem.mpr fun key => ?_
      rw [mem_add now, start before]
      cases event with
      | keyboardUsageDown usage => cases other
      | _ => simp [HidReportEvent.key?]

end FrameParts

namespace InputAggregator

def keysOf (aggregator : InputAggregator) (interfaceId : InterfaceId) :
    List KeyUsage :=
  match SlotTable.lookup DeviceInputState.interfaceId aggregator.devices
      interfaceId with
  | some entry => entry.keyboard.keys.toList
  | none => []

variable {aggregator next : InputAggregator} {frame : StandardInputFrame}

theorem lookup_target
    (located : aggregator.targetIndex frame = .ok (index, existing))
    (named : entry.interfaceId = frame.interfaceId) :
    SlotTable.lookup DeviceInputState.interfaceId
      (aggregator.devices.set index (some entry)) frame.interfaceId =
        some entry := by
  unfold targetIndex interfaceIndex at located
  rw [← named] at located ⊢
  cases found : SlotTable.slotIndex? DeviceInputState.interfaceId
      aggregator.devices entry.interfaceId with
  | some position =>
      rw [found] at located
      cases located
      rw [SlotTable.lookup_replace found, if_pos rfl]
  | none =>
      rw [found] at located
      cases free : SlotTable.freeIndex? aggregator.devices with
      | none =>
          rw [free] at located
          cases located
      | some position =>
          rw [free] at located
          cases located
          rw [SlotTable.lookup_insert found free, if_pos rfl]

/-- A frame that is applied writes its parts to the entry of its interface,
unless it only moves the pointer. -/
theorem lookup_applyFrame
    (applied : aggregator.applyFrame frame = (next, .ok ())) :
    (frame.keyboard = none ∧ aggregator.buttonsChanged frame = false ∧
        next = aggregator) ∨
      SlotTable.lookup DeviceInputState.interfaceId next.devices
          frame.interfaceId =
        some (aggregator.frameEntry ((SlotTable.lookup
          DeviceInputState.interfaceId aggregator.devices
          frame.interfaceId).getD (.new frame.deviceId frame.interfaceId))
            frame) := by
  rw [applyFrame] at applied
  cases success : aggregator.prepareFrame frame with
  | error error =>
      rw [success] at applied
      cases applied
  | ok prepared =>
      rw [success] at applied
      obtain ⟨rfl, -⟩ := Prod.mk.inj applied
      unfold prepareFrame at success
      split at success
      · rename_i quiet
        cases success
        simp only [Bool.and_eq_true, Bool.not_eq_true', Option.isNone_iff_eq_none]
          at quiet
        exact .inl ⟨quiet.1.1, quiet.2, rfl⟩
      · obtain ⟨⟨index, existing⟩, located, success⟩ := bind_eq_ok.mp success
        obtain ⟨entry, stored, success⟩ := bind_eq_ok.mp success
        obtain ⟨whole, -, success⟩ := bind_eq_ok.mp success
        cases success
        obtain ⟨before, old, after, devices, rfl, -, keyed, held⟩ :=
          split_of_targetIndex located
        have slot : aggregator.devices[before.length]?.join = old := by
          rw [devices]
          simp
        rw [nextEntry_eq, slot] at stored
        rw [held, Except.ok.inj stored]
        refine .inr (lookup_target located ?_)
        rw [← Except.ok.inj stored]
        cases old with
        | none => rfl
        | some entry => exact keyed entry rfl

theorem keysOf_applyFrame (part : frame.keyboard = some keyboard)
    (applied : aggregator.applyFrame frame = (next, .ok ())) :
    next.keysOf frame.interfaceId = keyboard.keysDown.toList := by
  rcases lookup_applyFrame applied with ⟨absent, -⟩ | found
  · rw [part] at absent
    cases absent
  · rw [keysOf, found]
    simp only [frameEntry, part]

end InputAggregator

variable {fieldCapacity capacity : Nat}
  {descriptor : HidReportDescriptor fieldCapacity} {report : List UInt8}
  {deviceId : DeviceId} {interfaceId : InterfaceId}
  {reportId : UInt8} {payload : List UInt8}

/-- Every slot of the key arrays holds `ErrorRollOver`. -/
def HidReportDescriptor.RolledOver (descriptor : HidReportDescriptor
    fieldCapacity) (reportId : UInt8) (payload : List UInt8) : Prop :=
  ∀ field ∈ descriptor.fieldsOf reportId usagePageKeyboard,
    field.isVariable = false → ∀ index < field.count.toNat,
      Yields (field.extractU32 payload index) (.ok (some 1))

def HidReportDescriptor.BitDown (descriptor : HidReportDescriptor
    fieldCapacity) (reportId : UInt8) (payload : List UInt8)
    (key : KeyUsage) : Prop :=
  (modifierFromKeyboardUsage key.val = none ∧ 4 ≤ key.val) ∧
    ∃ field ∈ descriptor.fieldsOf reportId usagePageKeyboard,
      field.isVariable = true ∧ field.bitSize = 1 ∧
      ∃ index < field.count.toNat, ∃ usage : UInt16,
        Yields (field.extractBool payload index) (.ok (some true)) ∧
          field.usageAt index = some usage ∧ usage ≤ 255 ∧
            usage.toUInt8 = key.val

theorem rolledOver_shows {field : ReportField} (array : field.isVariable = false)
    (full : ∀ index < field.count.toNat,
      Yields (field.extractU32 payload index) (.ok (some 1)))
    (event : HidReportEvent) : ¬ field.ShowsKey payload event := by
  unfold ReportField.ShowsKey
  rw [if_neg (by simp [array]), if_pos (by simp [array])]
  intro shown
  obtain ⟨index, inside, value, read, named⟩ := shown
  have same := (full index inside).symm.trans read
  cases same
  cases named

theorem bitField_shows {field : ReportField} (isVariable : field.isVariable = true)
    (usage : UInt8) :
    field.ShowsKey payload (.keyboardUsageDown usage) ↔
      field.bitSize = 1 ∧ ∃ index < field.count.toNat, ∃ found : UInt16,
        Yields (field.extractBool payload index) (.ok (some true)) ∧
          field.usageAt index = some found ∧ found ≤ 255 ∧
            found.toUInt8 = usage := by
  unfold ReportField.ShowsKey
  by_cases bit : field.bitSize = 1
  · rw [if_pos ⟨isVariable, bit⟩]
    constructor
    · intro shown
      obtain ⟨index, inside, down, read, named⟩ := shown
      obtain ⟨rfl, found, stands, small, same⟩ := keyAt_eq_some named
      cases same
      exact ⟨bit, index, inside, found, read, stands, small, rfl⟩
    · intro down
      obtain ⟨-, index, inside, found, read, stands, small, rfl⟩ := down
      refine ⟨index, inside, some true, read, ?_⟩
      rw [keyAt, if_pos rfl, stands, Option.bind_some, if_pos small]
  · rw [if_neg fun both => bit both.2, if_neg (by simp [isVariable])]
    exact iff_of_false not_false fun both => bit both.1

theorem key?_eq_some {event : HidReportEvent} {key : KeyUsage} :
    event.key? = some key ↔
      event = .keyboardUsageDown key.val ∧
        modifierFromKeyboardUsage key.val = none ∧ 4 ≤ key.val := by
  obtain ⟨usage⟩ := key
  cases event with
  | keyboardUsageDown other =>
      simp only [HidReportEvent.key?, Option.ite_none_right_eq_some,
        Option.some.injEq, KeyUsage.mk.injEq,
        HidReportEvent.keyboardUsageDown.injEq]
      constructor
      · intro shown
        obtain ⟨large, rfl⟩ := shown
        exact ⟨rfl, large⟩
      · intro shown
        obtain ⟨rfl, large⟩ := shown
        exact ⟨large, rfl⟩
  | _ => simp [HidReportEvent.key?]

theorem keyboard_mem_decodeReport
    (matched : descriptor.matchingPayload report = .ok (reportId, payload))
    (decoded : Yields (decodeReport descriptor capacity report) (.ok events))
    (usage : UInt8) :
    .keyboardUsageDown usage ∈ events.toList ↔
      descriptor.ShowsKey reportId payload (.keyboardUsageDown usage) := by
  rw [mem_decodeReport descriptor reportId payload matched decoded]
  refine or_iff_left_of_imp fun other => ?_
  exfalso
  rcases other with mouse | consumer
  · rcases mouse with x | y | wheel | pan | button
    · obtain ⟨_, -, -, same⟩ := x
      cases same
    · obtain ⟨_, -, -, same⟩ := y
      cases same
    · obtain ⟨_, -, -, same⟩ := wheel
      cases same
    · obtain ⟨_, -, -, same⟩ := pan
      cases same
    · obtain ⟨_, -, -, same⟩ := button
      cases same
  · obtain ⟨field, member, shows⟩ := consumer
    obtain ⟨-, page⟩ := mem_inputFields_of_fieldsOf _ _ member
    obtain ⟨-, _, same⟩ := shows.flagged page
    cases same

theorem keyEvents_rolledOver
    (matched : descriptor.matchingPayload report = .ok (reportId, payload))
    (decoded : Yields (decodeReport descriptor capacity report) (.ok events))
    (rolledOver : descriptor.RolledOver reportId payload) (key : KeyUsage) :
    (∃ event ∈ events.toList, event.key? = some key) ↔
      descriptor.BitDown reportId payload key := by
  have shown := keyboard_mem_decodeReport matched decoded key.val
  constructor
  · intro down
    obtain ⟨event, member, held⟩ := down
    obtain ⟨rfl, large⟩ := key?_eq_some.mp held
    obtain ⟨field, known, shows⟩ := shown.mp member
    refine ⟨large, field, known, ?_⟩
    cases isVariable : field.isVariable with
    | false =>
        exact absurd shows
          (rolledOver_shows isVariable (rolledOver field known isVariable) _)
    | true => exact ⟨rfl, (bitField_shows isVariable _).mp shows⟩
  · intro down
    obtain ⟨large, field, known, isVariable, bits⟩ := down
    refine ⟨_, shown.mpr ⟨field, known, ?_⟩, key?_eq_some.mpr ⟨rfl, large⟩⟩
    exact (bitField_shows isVariable _).mpr bits

theorem frame_keyboard {frame : StandardInputFrame}
    (matched : descriptor.matchingPayload report = .ok (reportId, payload))
    (decoded : Yields (decodeStandardInputFrame capacity deviceId interfaceId
      descriptor report) (.ok frame))
    (keyboard : ∃ field, field ∈ descriptor.fieldsOf reportId
      usagePageKeyboard) :
    frame.interfaceId = interfaceId ∧ ∃ events part,
      Yields (decodeReport descriptor capacity report) (.ok events) ∧
      frame.keyboard = some part ∧
      ∀ key, key ∈ part.keysDown.toList ↔
        ∃ event ∈ events.toList, event.key? = some key := by
  obtain ⟨foundId, foundPayload, events, parts, found, collected, added,
    rfl⟩ := decodeStandardInputFrame_ok decoded
  rw [matched] at found
  cases found
  refine ⟨rfl, events, ?_⟩
  have flagged : (descriptor.reportDomains reportId).keyboard = true := by
    obtain ⟨field, member⟩ := keyboard
    obtain ⟨active, page⟩ := mem_inputFields_of_fieldsOf _ _ member
    have within := field_within descriptor reportId active
    rw [ReportField.domains_keyboard page] at within
    exact within.1 rfl
  have keys := FrameParts.mem_addAll added
  cases present : parts.hasKeyboard with
  | true =>
      refine ⟨{ parts.keyboard with modifiers := parts.modifiers }, collected,
        ?_, fun key => ?_⟩
      · simp [StandardInputFrame.withDomains, FrameParts.frame, present]
      · rw [keys key]
        simp [FrameParts.new, KeyboardFrame.new, BoundedVec.empty]
  | false =>
      refine ⟨.new 0, collected, ?_, fun key => ?_⟩
      · simp [StandardInputFrame.withDomains, FrameParts.frame, present,
          flagged]
      · have none := FrameParts.keys_of_absent added (fun _ => rfl) present
        rw [none] at keys
        have start := keys key
        simp only [List.not_mem_nil, false_iff, not_or] at start
        exact iff_of_false List.not_mem_nil start.2

/-- A rolled over report leaves the keys held that its bits show, whatever was
held before. -/
theorem keysOf_rolledOver {aggregator next : InputAggregator}
    {frame : StandardInputFrame}
    (matched : descriptor.matchingPayload report = .ok (reportId, payload))
    (array : ∃ field ∈ descriptor.fieldsOf reportId usagePageKeyboard,
      field.isVariable = false)
    (rolledOver : descriptor.RolledOver reportId payload)
    (decoded : Yields (decodeStandardInputFrame capacity deviceId interfaceId
      descriptor report) (.ok frame))
    (applied : aggregator.applyFrame frame = (next, .ok ())) :
    (∀ key, key ∈ next.keysOf interfaceId ↔
        descriptor.BitDown reportId payload key) ∧
      ((∀ key, key ∈ next.keysOf interfaceId ↔
          key ∈ aggregator.keysOf interfaceId) ↔
        ∀ key, key ∈ aggregator.keysOf interfaceId ↔
          descriptor.BitDown reportId payload key) := by
  have after : ∀ key, key ∈ next.keysOf interfaceId ↔
      descriptor.BitDown reportId payload key := by
    intro key
    obtain ⟨field, member, -⟩ := array
    obtain ⟨rfl, events, part, collected, keyboard, keys⟩ :=
      frame_keyboard matched decoded ⟨field, member⟩
    rw [InputAggregator.keysOf_applyFrame keyboard applied, keys,
      keyEvents_rolledOver matched collected rolledOver]
  refine ⟨after, ?_⟩
  simp only [after]
  exact forall_congr' fun key => Iff.comm

def InputAggregator.receive (descriptor : HidReportDescriptor fieldCapacity)
    (capacity : Nat) (aggregator : InputAggregator) (report : List UInt8) :
    InputAggregator :=
  match (decodeStandardInputFrame capacity ⟨1⟩ ⟨1⟩ descriptor report).run with
  | some (.ok frame) => (aggregator.applyFrame frame).1
  | _ => aggregator

def bootKeyboard : HidReportDescriptor 2 :=
  ⟨⟨[⟨0, usagePageKeyboard, 0xe0, 0xe7, 0, 1, 8, fieldFlagVariable, 0, 1⟩,
    ⟨0, usagePageKeyboard, 0, 0xff, 16, 8, 6, 0, 0, 255⟩], Nat.le_refl 2⟩,
    false⟩

theorem bootKeyboard_rolledOver :
    bootKeyboard.RolledOver 0 [0, 0, 1, 1, 1, 1, 1, 1] := by
  unfold HidReportDescriptor.RolledOver Yields
  decide +kernel

/-- Two keys are held, and the rollover report releases both. -/
theorem rollover_releases_keys :
    let held := (InputAggregator.new 1).receive bootKeyboard 16
      [0, 0, 4, 5, 0, 0, 0, 0]
    let after := held.receive bootKeyboard 16 [0, 0, 1, 1, 1, 1, 1, 1]
    bootKeyboard.RolledOver 0 [0, 0, 1, 1, 1, 1, 1, 1] ∧
      held.keysOf ⟨1⟩ = [⟨4⟩, ⟨5⟩] ∧ after.keysOf ⟨1⟩ = [] := by
  refine ⟨bootKeyboard_rolledOver, ?_⟩
  decide +kernel

theorem rollover_after_press :
    let held := (InputAggregator.new 1).receive bootKeyboard 16
      [0, 0, 4, 5, 0, 0, 0, 0]
    let after := (held.applyFrame ⟨⟨1⟩, ⟨1⟩, some (.new 0), none, none⟩).1
    ⟨4⟩ ∈ after.keysOf ⟨1⟩ ↔
      bootKeyboard.BitDown 0 [0, 0, 1, 1, 1, 1, 1, 1] ⟨4⟩ :=
  (@keysOf_rolledOver 2 16 bootKeyboard [0, 0, 1, 1, 1, 1, 1, 1] ⟨1⟩ ⟨1⟩ 0
    [0, 0, 1, 1, 1, 1, 1, 1] _ _ _ rfl (by decide) bootKeyboard_rolledOver
    (by unfold Yields; decide +kernel)
    (Prod.ext rfl (by decide +kernel))).1 ⟨4⟩

end HidShift
