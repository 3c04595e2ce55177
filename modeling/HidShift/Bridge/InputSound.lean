import HidShift.Bridge.Inversion
import HidShift.Input.AggregatorExact

namespace HidShift

open Lib OrderedUnion

/-- A key, a modifier or a mouse button; the last two by their bit. -/
inductive HeldItem
  | key (usage : KeyUsage)
  | modifier (bit : Nat)
  | button (bit : Nat)

namespace HeldItem

def HeldIn (input : PhysicalInputState) : HeldItem → Prop
  | .key usage => usage ∈ input.keyboard.keys
  | .modifier bit => input.keyboard.modifiers.getLsbD bit = true
  | .button bit => input.mouse.buttons.bits.getLsbD bit = true

def HeldBy (entry : DeviceInputState) : HeldItem → Prop
  | .key usage => usage ∈ entry.keyboard.keys
  | .modifier bit => entry.keyboard.modifiers.getLsbD bit = true
  | .button bit => entry.mouseButtons.bits.getLsbD bit = true

instance (input : PhysicalInputState) :
    (item : HeldItem) → Decidable (item.HeldIn input)
  | .key usage => inferInstanceAs (Decidable (usage ∈ input.keyboard.keys))
  | .modifier _ => inferInstanceAs (Decidable (_ = true))
  | .button _ => inferInstanceAs (Decidable (_ = true))

instance (entry : DeviceInputState) :
    (item : HeldItem) → Decidable (item.HeldBy entry)
  | .key usage => inferInstanceAs (Decidable (usage ∈ entry.keyboard.keys))
  | .modifier _ => inferInstanceAs (Decidable (_ = true))
  | .button _ => inferInstanceAs (Decidable (_ = true))

end HeldItem

private theorem heldModifiers_loop (entries : List DeviceInputState)
    (modifiers : ModifierState) (bit : Nat) :
    (entries.foldl (fun modifiers entry =>
        modifiers ||| entry.keyboard.modifiers) modifiers).getLsbD bit = true ↔
      modifiers.getLsbD bit = true ∨ ∃ entry ∈ entries,
        entry.keyboard.modifiers.getLsbD bit = true := by
  induction entries generalizing modifiers with
  | nil => simp
  | cons head tail ih =>
      rw [List.foldl_cons, ih]
      simp [or_assoc]

private theorem heldButtons_loop (entries : List DeviceInputState)
    (buttons : MouseButtons) (bit : Nat) :
    (entries.foldl addMouseButtons buttons).bits.getLsbD bit = true ↔
      buttons.bits.getLsbD bit = true ∨ ∃ entry ∈ entries,
        entry.mouseButtons.bits.getLsbD bit = true := by
  induction entries generalizing buttons with
  | nil => simp
  | cons head tail ih =>
      rw [List.foldl_cons, ih, addMouseButtons,
        MouseButtons.bits_fromBitsTruncate_or]
      simp [or_assoc]

theorem InputAggregator.Exact.heldIn_aggregate {aggregator : InputAggregator}
    (exact : aggregator.Exact) (item : HeldItem) :
    item.HeldIn aggregator.aggregate ↔
      ∃ entry ∈ aggregator.devices.reduceOption, item.HeldBy entry := by
  obtain ⟨keyboard, buttons, -⟩ := rebuildAggregate_eq_ok.mp exact.rebuilt
  obtain ⟨modifiers, keys⟩ := rebuildKeyboard_eq_ok.mp keyboard
  cases item with
  | key usage =>
      show usage ∈ aggregator.aggregate.keyboard.keys.toList ↔ _
      rw [keys, mem_unionInto, heldKeys, List.mem_flatMap]
      simp [HeldItem.HeldBy, BoundedVec.mem_toList]
  | modifier bit =>
      show aggregator.aggregate.keyboard.modifiers.getLsbD bit = true ↔ _
      rw [modifiers, heldModifiers, heldModifiers_loop]
      simp [HeldItem.HeldBy]
  | button bit =>
      show aggregator.aggregate.mouse.buttons.bits.getLsbD bit = true ↔ _
      rw [buttons, rebuildMouseButtons, heldButtons_loop]
      simp [HeldItem.HeldBy, MouseButtons.empty]

theorem InputAggregator.Exact.nodup_keys {aggregator : InputAggregator}
    (exact : aggregator.Exact) :
    aggregator.aggregate.keyboard.keys.toList.Nodup := by
  obtain ⟨keyboard, -, -⟩ := rebuildAggregate_eq_ok.mp exact.rebuilt
  rw [(rebuildKeyboard_eq_ok.mp keyboard).2]
  exact nodup_unionInto List.nodup_nil _

section

variable {aggregator : InputAggregator} {frame : StandardInputFrame}
  {prepared : PreparedInputFrame}
  (success : aggregator.prepareFrame frame = .ok prepared)

include success

theorem prepareFrame_keyboard (uncarried : frame.keyboard = none) :
    (prepared.aggregateOver aggregator).keyboard =
      aggregator.aggregate.keyboard := by
  rcases InputAggregator.prepareFrame_cases success with ⟨-, -, -, rfl⟩ |
    ⟨_, _, _, keyboard, -, -, -, rebuilt, rfl⟩
  · rfl
  · simp only [InputAggregator.nextKeyboard, uncarried, Option.isSome_none,
      Bool.false_eq_true, if_false, Except.ok.injEq] at rebuilt
    exact rebuilt.symm

theorem prepareFrame_mouse (uncarried : frame.mouse = none) :
    (prepared.aggregateOver aggregator).mouse =
      aggregator.aggregate.mouse := by
  rcases InputAggregator.prepareFrame_cases success with ⟨-, -, -, rfl⟩ |
    ⟨_, _, _, keyboard, -, -, -, rebuilt, rfl⟩
  · rfl
  · simp [PreparedInputFrame.aggregateOver, InputAggregator.nextMouseButtons,
      InputAggregator.buttonsChanged, uncarried]

theorem prepareFrame_consumer (uncarried : frame.consumer = none) :
    (prepared.aggregateOver aggregator).consumer =
      aggregator.aggregate.consumer := by
  rcases InputAggregator.prepareFrame_cases success with ⟨-, -, -, rfl⟩ |
    ⟨_, _, _, keyboard, -, -, -, rebuilt, rfl⟩
  · rfl
  · simp [PreparedInputFrame.aggregateOver, InputAggregator.nextConsumer,
      uncarried]

end

structure InputSound (bridge : BridgeState) : Prop where
  exact : bridge.inputDevices.Exact
  keys : ∀ key, key ∈ bridge.input.keyboard.keys ↔
    key ∈ bridge.inputDevices.aggregate.keyboard.keys
  modifiers : bridge.input.keyboard.modifiers =
    bridge.inputDevices.aggregate.keyboard.modifiers
  mouse : bridge.input.mouse = bridge.inputDevices.aggregate.mouse
  consumer : bridge.input.consumer = bridge.inputDevices.aggregate.consumer
  nodup : bridge.input.keyboard.keys.toList.Nodup

theorem inputSound_new (hosts : Nat) : InputSound (.new hosts) where
  exact := InputAggregator.exact_new _
  keys := fun _ => Iff.rfl
  modifiers := rfl
  mouse := rfl
  consumer := rfl
  nodup := List.nodup_nil

theorem InputSound.of_same {bridge next : BridgeState}
    (sound : InputSound bridge) (input : next.input = bridge.input)
    (inputDevices : next.inputDevices = bridge.inputDevices) :
    InputSound next := by
  constructor
  · rw [inputDevices]
    exact sound.exact
  · rw [input, inputDevices]
    exact sound.keys
  · rw [input, inputDevices]
    exact sound.modifiers
  · rw [input, inputDevices]
    exact sound.mouse
  · rw [input, inputDevices]
    exact sound.consumer
  · rw [input]
    exact sound.nodup

section

variable {build : Build} {bridge : BridgeState}
  {aggregate : PhysicalInputState} {out : List BridgeAction}

theorem KeyboardPart.sound
    (part : KeyboardPart build bridge aggregate carried keyboard suppression
      out) (sound : InputSound bridge)
    (uncarried : carried = none → aggregate.keyboard =
      bridge.inputDevices.aggregate.keyboard) :
    (∀ key, key ∈ keyboard.keys ↔ key ∈ aggregate.keyboard.keys) ∧
      keyboard.modifiers = aggregate.keyboard.modifiers ∧
        keyboard.keys.toList.Nodup := by
  cases part with
  | absent =>
      rw [uncarried rfl]
      exact ⟨sound.keys, sound.modifiers, sound.nodup⟩
  | present applied _ =>
      have snapshot := applySnapshot_spec applied
      refine ⟨snapshot.mem_keys, snapshot.nextModifiers, ?_⟩
      rw [snapshot.nextKeys]
      exact nodup_unionInto (sound.nodup.filter _) _

theorem MousePart.sound
    (part : MousePart build bridge aggregate carried mouse suppression out)
    (sound : InputSound bridge)
    (uncarried : carried = none →
      aggregate.mouse = bridge.inputDevices.aggregate.mouse) :
    mouse = aggregate.mouse := by
  cases part with
  | absent => exact sound.mouse.trans (uncarried rfl).symm
  | present => rfl

theorem ConsumerPart.sound
    (part : ConsumerPart build bridge aggregate carried consumer suppression
      out) (sound : InputSound bridge)
    (uncarried : carried = none →
      aggregate.consumer = bridge.inputDevices.aggregate.consumer) :
    consumer = aggregate.consumer := by
  cases part with
  | absent => exact sound.consumer.trans (uncarried rfl).symm
  | present => rfl

end

theorem Removal.exact (removal : Removal aggregator event next)
    (exact : aggregator.Exact) : next.Exact := by
  cases removal with
  | interface interfaceId => exact (exact.removeInterface interfaceId).1
  | device deviceId => exact (exact.removeDevice deviceId).1

theorem BridgeStep.inputSound (step : BridgeStep build bridge event sent next)
    (sound : InputSound bridge) : InputSound next := by
  cases step with
  | quiet same => exact sound.of_same same.input same.inputDevices
  | frame preparation devices applied _ =>
      obtain ⟨keyboard, mouse, consumer⟩ := applied
      obtain ⟨keys, modifiers, nodup⟩ :=
        keyboard.sound sound (prepareFrame_keyboard preparation)
      have buttons := mouse.sound sound (prepareFrame_mouse preparation)
      have usage := consumer.sound sound (prepareFrame_consumer preparation)
      refine ⟨?_, ?_, ?_, ?_, ?_, nodup⟩
      · rw [devices]
        exact sound.exact.commitFrame preparation
      · rw [devices]
        exact keys
      · rw [devices]
        exact modifiers
      · rw [devices]
        exact buttons
      · rw [devices]
        exact usage
  | detach removal input _ _ =>
      have exact := removal.exact sound.exact
      refine ⟨exact, ?_, ?_, ?_, ?_, ?_⟩
      · rw [input]
        exact fun _ => Iff.rfl
      · rw [input]
      · rw [input]
      · rw [input]
      · rw [input]
        exact exact.nodup_keys
  | retargetBle _ captured =>
      exact sound.of_same captured.input captured.inputDevices
  | retargetOutput _ captured =>
      exact sound.of_same captured.input captured.inputDevices
  | clear same => exact sound.of_same same.input same.inputDevices
  | wiredReset _ same => exact sound.of_same same.input same.inputDevices

theorem Performs.inputSound (performed : Performs build bridge call out next)
    (sound : InputSound bridge) : InputSound next := by
  rcases perform_cases performed with ⟨rfl, -⟩ | ⟨_, _, -, step⟩ |
    ⟨-, restarted⟩
  · exact sound
  · exact step.inputSound sound
  · exact sound.of_same restarted.captured.input
      restarted.captured.inputDevices

theorem BridgeRun.inputSound (run : BridgeRun build hosts history finish) :
    InputSound finish :=
  run.invariant InputSound (inputSound_new hosts)
    fun _ _ performed sound => performed.inputSound sound

end HidShift
