import HidShift.Input.AggregatorRebuild

namespace HidShift

open Lib

namespace InputAggregator

structure Exact (aggregator : InputAggregator) : Prop where
  rebuilt : rebuildAggregate aggregator.devices = .ok aggregator.aggregate
  counted :
    aggregator.activeDevices = aggregator.devices.reduceOption.length
  distinct :
    SlotTable.Distinct DeviceInputState.interfaceId aggregator.devices
  keysNodup : ∀ entry ∈ aggregator.devices.reduceOption,
    entry.keyboard.keys.toList.Nodup

theorem exact_new (devices : Nat) : (new devices).Exact := by
  have empty : (new devices).devices.reduceOption = [] :=
    List.reduceOption_replicate_none
  constructor
  · rw [rebuildAggregate_eq, empty]
    rfl
  · rw [empty]
    rfl
  · rw [SlotTable.Distinct, empty]
    exact List.nodup_nil
  · rw [empty]
    intro entry member
    cases member

theorem split_of_targetIndex {aggregator : InputAggregator}
    {frame : StandardInputFrame}
    (located : aggregator.targetIndex frame = .ok (index, existing)) :
    ∃ before old after,
      aggregator.devices = before ++ old :: after ∧ before.length = index ∧
        existing = old.isSome ∧
          (∀ entry ∈ old, entry.interfaceId = frame.interfaceId) ∧
            SlotTable.lookup DeviceInputState.interfaceId aggregator.devices
              frame.interfaceId = old := by
  unfold targetIndex interfaceIndex at located
  cases found : SlotTable.slotIndex? DeviceInputState.interfaceId
      aggregator.devices frame.interfaceId with
  | some position =>
      simp only [found, Except.ok.injEq, Prod.mk.injEq] at located
      obtain ⟨rfl, rfl⟩ := located
      obtain ⟨before, entry, after, devices, length, keyed, -⟩ :=
        SlotTable.split_of_slotIndex? found
      refine ⟨before, some entry, after, devices, length, rfl, ?_, ?_⟩
      · intro stored member
        cases member
        exact keyed
      · rw [SlotTable.lookup, found, devices, ← length]
        simp
  | none =>
      cases free : SlotTable.freeIndex? aggregator.devices with
      | none => simp [found, free] at located
      | some position =>
          simp only [found, free, Except.ok.injEq, Prod.mk.injEq] at located
          obtain ⟨rfl, rfl⟩ := located
          obtain ⟨before, after, devices, length⟩ :=
            SlotTable.split_of_freeIndex? free
          refine ⟨before, none, after, devices, length, rfl, ?_, ?_⟩
          · intro entry member
            cases member
          · simp [SlotTable.lookup, found]

def frameEntry (aggregator : InputAggregator) (stored : DeviceInputState)
    (frame : StandardInputFrame) : DeviceInputState :=
  { stored with
    keyboard := match frame.keyboard with
      | some keyboard => ⟨keyboard.modifiers, keyboard.keysDown⟩
      | none => stored.keyboard
    mouseButtons := match frame.mouse with
      | some mouse => mouse.buttons
      | none => stored.mouseButtons
    consumer := match frame.consumer with
      | some consumer => ⟨consumer.active⟩
      | none => stored.consumer
    consumerGeneration := match frame.consumer with
      | some _ => aggregator.nextConsumerGeneration
      | none => stored.consumerGeneration }

theorem nextEntry_eq (aggregator : InputAggregator) (index : Nat)
    (frame : StandardInputFrame) :
    aggregator.nextEntry index frame =
      .ok (aggregator.frameEntry ((aggregator.devices[index]?.join).getD
        (.new frame.deviceId frame.interfaceId)) frame) := by
  simp only [nextEntry, frameEntry]
  cases frame.keyboard with
  | none => cases frame.consumer <;> rfl
  | some keyboard =>
      simp only [replaceWithFrame_eq]
      cases frame.consumer <;> rfl

theorem prepareFrame_cases {aggregator : InputAggregator}
    {frame : StandardInputFrame}
    (success : aggregator.prepareFrame frame = .ok prepared) :
    (frame.keyboard = none ∧ frame.consumer = none ∧
        aggregator.buttonsChanged frame = false ∧
        prepared = ⟨none, none, none, aggregator.activeDevices,
          aggregator.nextConsumerGeneration⟩) ∨
      ∃ before old after keyboard, aggregator.devices = before ++ old :: after ∧
        SlotTable.lookup DeviceInputState.interfaceId aggregator.devices
          frame.interfaceId = old ∧
        (∀ entry ∈ old, entry.interfaceId = frame.interfaceId) ∧
        let next := aggregator.frameEntry
          (old.getD (.new frame.deviceId frame.interfaceId)) frame
        let only := aggregator.activeDevices == 0 ||
          (aggregator.activeDevices == 1 && old.isSome)
        aggregator.nextKeyboard frame only before.length next = .ok keyboard ∧
        prepared = {
          index := some before.length
          entry := some next
          aggregate := some ⟨keyboard,
            ⟨aggregator.nextMouseButtons frame only before.length next⟩,
            aggregator.nextConsumer frame only before.length next⟩
          activeDevices :=
            aggregator.activeDevices + if old.isSome then 0 else 1
          nextConsumerGeneration :=
            if frame.consumer.isSome then
              aggregator.nextConsumerGeneration + 1
            else aggregator.nextConsumerGeneration } := by
  unfold prepareFrame at success
  split at success
  · rename_i movementOnly
    left
    simp only [Bool.and_eq_true, Option.isNone_iff_eq_none,
      Bool.not_eq_eq_eq_not, Bool.not_true] at movementOnly
    cases success
    exact ⟨movementOnly.1.1, movementOnly.1.2, movementOnly.2, rfl⟩
  · right
    cases located : aggregator.targetIndex frame with
    | error error => simp [located, bind, Except.bind] at success
    | ok target =>
        obtain ⟨index, existing⟩ := target
        obtain ⟨before, old, after, devices, rfl, rfl, keyed, stored⟩ :=
          split_of_targetIndex located
        have slot : aggregator.devices[before.length]?.join = old := by
          rw [devices]
          simp
        simp only [located, bind, Except.bind, nextEntry_eq, slot] at success
        split at success
        · cases success
        · rename_i keyboard rebuilt
          cases success
          exact ⟨before, old, after, keyboard, devices, stored, keyed,
            rebuilt, rfl⟩

section

variable {aggregator : InputAggregator} (frame : StandardInputFrame)
  {before after : DeviceSlots} {old : Option DeviceInputState}

/-- Before the frame, the slot contributes what `old` or a fresh entry does. -/
private theorem stored_keyboard (keyboard : PhysicalKeyboardState) :
    addKeyboard keyboard (old.getD (.new frame.deviceId frame.interfaceId)) =
      old.toList.foldlM addKeyboard keyboard := by
  cases old with
  | none => exact addKeyboard_new _ _ keyboard
  | some entry =>
      show _ = addKeyboard keyboard entry >>= pure
      rw [bind_pure]
      rfl

private theorem stored_buttons (buttons : MouseButtons) :
    addMouseButtons buttons (old.getD (.new frame.deviceId frame.interfaceId)) =
      old.toList.foldl addMouseButtons buttons := by
  cases old with
  | none => exact addMouseButtons_empty buttons rfl
  | some entry => rfl

private theorem stored_consumer (choice : ConsumerChoice) :
    addConsumer choice (old.getD (.new frame.deviceId frame.interfaceId)) =
      old.toList.foldl addConsumer choice := by
  cases old with
  | none => exact addConsumer_none choice rfl
  | some entry => rfl

variable {frame} (exact : aggregator.Exact)
  (devices : aggregator.devices = before ++ old :: after)

include exact devices

private theorem alone_of_only (only : (aggregator.activeDevices == 0 ||
      (aggregator.activeDevices == 1 && old.isSome)) = true) :
    before.reduceOption = [] ∧ after.reduceOption = [] := by
  have counted := exact.counted
  rw [devices, SlotTable.reduceOption_split, List.length_append,
    List.length_append] at counted
  simp only [Bool.or_eq_true, beq_iff_eq, Bool.and_eq_true] at only
  rw [← List.length_eq_zero_iff, ← List.length_eq_zero_iff]
  rcases only with idle | ⟨single, occupied⟩
  · omega
  · obtain ⟨entry, rfl⟩ := Option.isSome_iff_exists.mp occupied
    simp only [Option.toList_some, List.length_singleton] at counted
    omega

private theorem nextKeyboard_rebuilt (success : aggregator.nextKeyboard frame
      (aggregator.activeDevices == 0 ||
        (aggregator.activeDevices == 1 && old.isSome)) before.length
      (aggregator.frameEntry
        (old.getD (.new frame.deviceId frame.interfaceId)) frame) =
        .ok keyboard) :
    rebuildKeyboard (before.reduceOption ++
      aggregator.frameEntry
        (old.getD (.new frame.deviceId frame.interfaceId)) frame ::
          after.reduceOption) = .ok keyboard := by
  unfold nextKeyboard at success
  cases carried : frame.keyboard with
  | none =>
      simp only [carried, Option.isSome_none, Bool.false_eq_true,
        if_false, Except.ok.injEq] at success
      subst success
      rw [rebuildKeyboard_replace old]
      · rw [← SlotTable.reduceOption_split, ← devices]
        exact (rebuildAggregate_eq_ok.mp exact.rebuilt).1
      · intro current
        rw [← stored_keyboard frame]
        exact addKeyboard_eq (by simp [frameEntry, carried])
  | some keys =>
      simp only [carried, Option.isSome_some, if_true] at success
      split at success
      · rename_i only
        obtain ⟨none_before, none_after⟩ := alone_of_only exact devices only
        cases success
        rw [none_before, none_after, List.nil_append]
        refine rebuildKeyboard_eq_ok.mpr ⟨?_, ?_⟩
        · simp [heldModifiers]
        · rw [heldKeys, List.flatMap_singleton, OrderedUnion.unionInto_of_nodup]
          · rfl
          · simpa [frameEntry, carried] using keys.nodup
      · rw [rebuildKeyboardReplacing, devices, entriesReplacing_split]
          at success
        exact success

private theorem nextMouseButtons_rebuilt
    (stored : SlotTable.lookup DeviceInputState.interfaceId
      aggregator.devices frame.interfaceId = old) :
    aggregator.nextMouseButtons frame
      (aggregator.activeDevices == 0 ||
        (aggregator.activeDevices == 1 && old.isSome)) before.length
      (aggregator.frameEntry
        (old.getD (.new frame.deviceId frame.interfaceId)) frame) =
    rebuildMouseButtons (before.reduceOption ++
      aggregator.frameEntry
        (old.getD (.new frame.deviceId frame.interfaceId)) frame ::
          after.reduceOption) := by
  simp only [nextMouseButtons]
  split
  · split
    · rename_i only
      obtain ⟨none_before, none_after⟩ := alone_of_only exact devices only
      rw [none_before, none_after]
      apply MouseButtons.ext
      show _ = (MouseButtons.fromBitsTruncate _).bits
      rw [MouseButtons.bits_fromBitsTruncate_or]
      exact (BitVec.zero_or).symm
    · rw [rebuildMouseButtonsReplacing, devices, entriesReplacing_split]
      rfl
  · rename_i unchanged
    rw [rebuildMouseButtons_replace old]
    · rw [← SlotTable.reduceOption_split, ← devices]
      exact (rebuildAggregate_eq_ok.mp exact.rebuilt).2.1
    · intro current
      rw [← stored_buttons frame]
      -- The frame repeats the buttons its slot already holds.
      have same : (aggregator.frameEntry (old.getD
          (.new frame.deviceId frame.interfaceId)) frame).mouseButtons =
          (old.getD (.new frame.deviceId frame.interfaceId)).mouseButtons := by
        unfold buttonsChanged existingButtons at unchanged
        rw [stored] at unchanged
        cases carried : frame.mouse with
        | none => simp [frameEntry, carried]
        | some mouse =>
            simp only [carried, Option.any_some, decide_eq_true_eq,
              not_not] at unchanged
            cases old <;> simp [frameEntry, carried, unchanged,
              DeviceInputState.new]
      simp only [addMouseButtons]
      rw [same]

private theorem nextConsumer_rebuilt :
    aggregator.nextConsumer frame
      (aggregator.activeDevices == 0 ||
        (aggregator.activeDevices == 1 && old.isSome)) before.length
      (aggregator.frameEntry
        (old.getD (.new frame.deviceId frame.interfaceId)) frame) =
    rebuildConsumer (before.reduceOption ++
      aggregator.frameEntry
        (old.getD (.new frame.deviceId frame.interfaceId)) frame ::
          after.reduceOption) := by
  simp only [nextConsumer]
  cases carried : frame.consumer with
  | none =>
      simp only [Option.isSome_none, Bool.false_eq_true, if_false]
      rw [rebuildConsumer_replace old]
      · rw [← SlotTable.reduceOption_split, ← devices]
        exact (rebuildAggregate_eq_ok.mp exact.rebuilt).2.2
      · intro choice
        rw [← stored_consumer frame]
        simp [addConsumer, frameEntry, carried]
  | some consumer =>
      simp only [Option.isSome_some, if_true]
      split
      · rename_i only
        obtain ⟨none_before, none_after⟩ := alone_of_only exact devices only
        rw [none_before, none_after]
        simp only [rebuildConsumer, addConsumer, frameEntry, carried,
          List.nil_append, List.foldl_cons, List.foldl_nil, Option.all_none,
          Bool.and_true]
        cases consumer.active <;> rfl
      · rw [rebuildConsumerReplacing, devices, entriesReplacing_split]
        rfl

end

theorem Exact.commitFrame {aggregator : InputAggregator}
    (exact : aggregator.Exact)
    (success : aggregator.prepareFrame frame = .ok prepared) :
    (aggregator.commitFrame prepared).Exact := by
  rcases prepareFrame_cases success with
    ⟨-, -, -, rfl⟩ |
      ⟨before, old, after, keyboard, devices, stored, keyed, rebuilt,
        rfl⟩
  · exact exact
  · have updated : (aggregator.devices.set before.length
        (some (aggregator.frameEntry (old.getD
          (.new frame.deviceId frame.interfaceId)) frame))) =
        before ++ some (aggregator.frameEntry (old.getD
          (.new frame.deviceId frame.interfaceId)) frame) :: after := by
      rw [devices, SlotTable.set_at_split]
    have sameId : (aggregator.frameEntry (old.getD
        (.new frame.deviceId frame.interfaceId)) frame).interfaceId =
          frame.interfaceId := by
      cases old with
      | none => rfl
      | some entry => exact keyed entry rfl
    constructor
    · simp only [InputAggregator.commitFrame, PreparedInputFrame.aggregateOver,
        Option.getD_some]
      rw [updated]
      apply rebuildAggregate_eq_ok.mpr
      rw [SlotTable.reduceOption_split]
      exact ⟨nextKeyboard_rebuilt exact devices rebuilt,
        nextMouseButtons_rebuilt exact devices stored,
        nextConsumer_rebuilt exact devices⟩
    · simp only [InputAggregator.commitFrame]
      rw [updated, SlotTable.reduceOption_split, exact.counted, devices,
        SlotTable.reduceOption_split]
      cases old with
      | none =>
          simp
          omega
      | some entry => simp
    · simp only [InputAggregator.commitFrame]
      have distinct := exact.distinct
      rw [devices] at distinct stored
      rw [updated]
      exact distinct.fill (by rw [sameId]; exact stored)
    · simp only [InputAggregator.commitFrame]
      rw [updated, SlotTable.reduceOption_split]
      have previously := exact.keysNodup
      rw [devices, SlotTable.reduceOption_split] at previously
      intro entry member
      simp only [Option.toList_some, List.singleton_append,
        List.mem_append, List.mem_cons] at member
      rcases member with earlier | rfl | later
      · exact previously entry (List.mem_append_left _ earlier)
      · cases carried : frame.keyboard with
        | some keyboard =>
            simpa [frameEntry, carried] using keyboard.nodup
        | none =>
            cases old with
            | none => simp [frameEntry, carried, DeviceInputState.new,
                PhysicalKeyboardState.new]
            | some entry =>
                simpa [frameEntry, carried] using previously entry (by simp)
      · exact previously entry (List.mem_append_right _
          (List.mem_append_right _ later))

theorem Exact.installDevices {aggregator : InputAggregator}
    {devices : DeviceSlots} (exact : aggregator.Exact)
    (fewer : List.Sublist devices.reduceOption
      aggregator.devices.reduceOption) :
    (aggregator.installDevices devices).1.Exact ∧
      (aggregator.installDevices devices).2 = true := by
  obtain ⟨keyboard, rebuilt⟩ := rebuildKeyboard_of_sublist
    (rebuildAggregate_eq_ok.mp exact.rebuilt).1 fewer
  have aggregate : rebuildAggregate devices = .ok ⟨keyboard,
      ⟨rebuildMouseButtons devices.reduceOption⟩,
      rebuildConsumer devices.reduceOption⟩ :=
    rebuildAggregate_eq_ok.mpr ⟨rebuilt, rfl, rfl⟩
  simp only [InputAggregator.installDevices, aggregate]
  exact ⟨⟨aggregate, rfl, (fewer.map _).nodup exact.distinct,
    fun entry member => exact.keysNodup entry (fewer.subset member)⟩,
    trivial⟩

private theorem sublist_set_none (slots : DeviceSlots) (index : Nat) :
    List.Sublist (slots.set index none).reduceOption slots.reduceOption := by
  induction slots generalizing index with
  | nil => exact List.Sublist.refl _
  | cons head tail ih =>
      cases index with
      | zero =>
          cases head with
          | none => exact List.Sublist.refl _
          | some entry => exact List.sublist_cons_self _ _
      | succ index =>
          cases head with
          | none => exact ih index
          | some entry => exact (ih index).cons_cons entry

private theorem sublist_map_none (slots : DeviceSlots)
    (drop : DeviceInputState → Bool) :
    List.Sublist (slots.map fun entry =>
        if entry.any drop then none else entry).reduceOption
      slots.reduceOption := by
  induction slots with
  | nil => exact List.Sublist.refl _
  | cons head tail ih =>
      cases head with
      | none => exact ih
      | some entry =>
          rw [List.map_cons, Option.any_some]
          cases drop entry with
          | true => exact ih.cons entry
          | false => exact ih.cons_cons entry

theorem Exact.removeInterface {aggregator : InputAggregator}
    (exact : aggregator.Exact) (interfaceId : InterfaceId) :
    (aggregator.removeInterface interfaceId).1.Exact ∧
      ((aggregator.removeInterface interfaceId).2 = true ↔
        ∃ entry ∈ aggregator.devices.reduceOption,
          entry.interfaceId = interfaceId) := by
  simp only [InputAggregator.removeInterface, interfaceIndex]
  cases found : SlotTable.slotIndex? DeviceInputState.interfaceId
      aggregator.devices interfaceId with
  | none =>
      have absent := SlotTable.not_mem_of_slotIndex?_none found
      exact ⟨exact, by simpa using absent⟩
  | some index =>
      obtain ⟨installed, success⟩ :=
        exact.installDevices (sublist_set_none aggregator.devices index)
      obtain ⟨entry, stored⟩ := SlotTable.lookup_isSome_iff.mpr ⟨index, found⟩
      exact ⟨installed, fun _ => ⟨entry, SlotTable.mem_of_lookup stored,
        SlotTable.key_of_lookup stored⟩, fun _ => success⟩

theorem Exact.removeDevice {aggregator : InputAggregator}
    (exact : aggregator.Exact) (deviceId : DeviceId) :
    (aggregator.removeDevice deviceId).1.Exact ∧
      ((aggregator.removeDevice deviceId).2 = true ↔
        ∃ entry ∈ aggregator.devices.reduceOption,
          entry.deviceId = deviceId) := by
  simp only [InputAggregator.removeDevice]
  split
  · rename_i present
    obtain ⟨installed, success⟩ := exact.installDevices
      (sublist_map_none aggregator.devices (·.deviceId = deviceId))
    exact ⟨installed, fun _ => by simpa using present, fun _ => success⟩
  · rename_i absent
    refine ⟨exact, ?_⟩
    simpa using absent

inductive Call
  | applyFrame (frame : StandardInputFrame)
  | removeInterface (interfaceId : InterfaceId)
  | removeDevice (deviceId : DeviceId)

def call (aggregator : InputAggregator) : Call → InputAggregator
  | .applyFrame frame => (aggregator.applyFrame frame).1
  | .removeInterface interfaceId => (aggregator.removeInterface interfaceId).1
  | .removeDevice deviceId => (aggregator.removeDevice deviceId).1

def calls (aggregator : InputAggregator) (sequence : List Call) :
    InputAggregator :=
  sequence.foldl call aggregator

theorem applyFrame_error {aggregator : InputAggregator}
    (failed : (aggregator.applyFrame frame).2 = .error error) :
    (aggregator.applyFrame frame).1 = aggregator := by
  simp only [applyFrame] at failed ⊢
  cases prepared : aggregator.prepareFrame frame with
  | ok preparation => simp [prepared] at failed
  | error error => rfl

theorem Exact.call {aggregator : InputAggregator} (exact : aggregator.Exact)
    (request : Call) : (aggregator.call request).Exact := by
  cases request with
  | applyFrame frame =>
      show (aggregator.applyFrame frame).1.Exact
      simp only [applyFrame]
      cases prepared : aggregator.prepareFrame frame with
      | ok preparation => exact exact.commitFrame prepared
      | error error => exact exact
  | removeInterface interfaceId => exact (exact.removeInterface interfaceId).1
  | removeDevice deviceId => exact (exact.removeDevice deviceId).1

theorem Exact.calls {aggregator : InputAggregator} (exact : aggregator.Exact)
    (sequence : List Call) : (aggregator.calls sequence).Exact := by
  induction sequence generalizing aggregator with
  | nil => exact exact
  | cons head tail ih => exact ih (exact.call head)

/-- After any calls the stored aggregate is the full rebuild, with the newest
active consumer usage; slots are counted and distinct; a failing frame changes
nothing; and a removal fails only for an unknown interface or device. -/
theorem calls_rebuilt (devices : Nat) (sequence : List Call) :
    let aggregator := (new devices).calls sequence
    rebuildAggregate aggregator.devices = .ok aggregator.aggregate ∧
    (∀ entry, NewestConsumer aggregator.devices.reduceOption entry →
      aggregator.aggregate.consumer.active = entry.consumer.active) ∧
    aggregator.activeDevices = aggregator.devices.reduceOption.length ∧
    (aggregator.devices.reduceOption.map (·.interfaceId)).Nodup ∧
    (∀ frame error, (aggregator.applyFrame frame).2 = .error error →
      (aggregator.applyFrame frame).1 = aggregator) ∧
    (∀ interfaceId, (aggregator.removeInterface interfaceId).2 = true ↔
      ∃ entry ∈ aggregator.devices.reduceOption,
        entry.interfaceId = interfaceId) ∧
    (∀ deviceId, (aggregator.removeDevice deviceId).2 = true ↔
      ∃ entry ∈ aggregator.devices.reduceOption,
        entry.deviceId = deviceId) := by
  have exact : ((new devices).calls sequence).Exact :=
    (exact_new devices).calls sequence
  refine ⟨exact.rebuilt, ?_, exact.counted, exact.distinct,
    fun _ _ failed => applyFrame_error failed,
    fun interfaceId => (exact.removeInterface interfaceId).2,
    fun deviceId => (exact.removeDevice deviceId).2⟩
  intro entry newest
  rw [(rebuildAggregate_eq_ok.mp exact.rebuilt).2.2,
    rebuildConsumer_newest newest]

end InputAggregator

end HidShift
