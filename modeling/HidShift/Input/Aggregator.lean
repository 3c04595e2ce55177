import HidShift.Lib.SlotTable
import HidShift.Input.State

/-! The union of the inputs of all attached interfaces
(`input/aggregator.rs`). -/

namespace HidShift

open Lib

structure DeviceInputState where
  deviceId : DeviceId
  interfaceId : InterfaceId
  keyboard : PhysicalKeyboardState
  mouseButtons : MouseButtons
  consumer : ConsumerState
  consumerGeneration : UInt64
deriving DecidableEq

def DeviceInputState.new (deviceId : DeviceId) (interfaceId : InterfaceId) :
    DeviceInputState :=
  ⟨deviceId, interfaceId, .new, .empty, .new, 0⟩

abbrev DeviceSlots := List (Option DeviceInputState)

structure InputAggregator where
  devices : DeviceSlots
  aggregate : PhysicalInputState
  activeDevices : Nat
  nextConsumerGeneration : UInt64
deriving DecidableEq

structure PreparedInputFrame where
  index : Option Nat
  entry : Option DeviceInputState
  aggregate : Option PhysicalInputState
  activeDevices : Nat
  nextConsumerGeneration : UInt64

/-- The aggregate after the frame, seen before it is committed. -/
def PreparedInputFrame.aggregateOver (prepared : PreparedInputFrame)
    (current : InputAggregator) : PhysicalInputState :=
  prepared.aggregate.getD current.aggregate

def generationIsNewerOrEqual (left right : UInt64) : Bool :=
  left - right < 0x8000000000000000

def interfaceIndex (devices : DeviceSlots) (interfaceId : InterfaceId) :
    Option Nat :=
  SlotTable.slotIndex? DeviceInputState.interfaceId devices interfaceId

def addKeyboard (keyboard : PhysicalKeyboardState)
    (entry : DeviceInputState) : Except InputError PhysicalKeyboardState :=
  ({ keyboard with
      modifiers := keyboard.modifiers ||| entry.keyboard.modifiers } :
    PhysicalKeyboardState).pressKeys entry.keyboard.keys.toList

def addMouseButtons (buttons : MouseButtons) (entry : DeviceInputState) :
    MouseButtons :=
  .fromBitsTruncate (buttons.bits ||| entry.mouseButtons.bits)

/-- The consumer state chosen so far and the generation it was chosen with. -/
abbrev ConsumerChoice := ConsumerState × Option UInt64

def addConsumer (choice : ConsumerChoice) (entry : DeviceInputState) :
    ConsumerChoice :=
  if entry.consumer.active.isSome &&
      choice.2.all (generationIsNewerOrEqual entry.consumerGeneration) then
    (entry.consumer, some entry.consumerGeneration)
  else
    choice

def rebuildAggregate (devices : DeviceSlots) :
    Except InputError PhysicalInputState := do
  let (aggregate, _) ← devices.reduceOption.foldlM
    (fun (aggregate, newest) entry => do
      let keyboard ← addKeyboard aggregate.keyboard entry
      let buttons := addMouseButtons aggregate.mouse.buttons entry
      let (consumer, newest) := addConsumer (aggregate.consumer, newest) entry
      return (⟨keyboard, ⟨buttons⟩, consumer⟩, newest))
    ((PhysicalInputState.new, none) : PhysicalInputState × Option UInt64)
  return aggregate

/-- The entries the partial rebuilds walk over: `replacement` stands in for
whatever the replaced slot holds. -/
def entriesReplacing (devices : DeviceSlots) (replacementIndex : Nat)
    (replacement : DeviceInputState) : List DeviceInputState :=
  devices.zipIdx.filterMap fun (stored, index) =>
    if index = replacementIndex then some replacement else stored

def rebuildKeyboardReplacing (devices : DeviceSlots) (replacementIndex : Nat)
    (replacement : DeviceInputState) :
    Except InputError PhysicalKeyboardState :=
  (entriesReplacing devices replacementIndex replacement).foldlM addKeyboard
    .new

def rebuildMouseButtonsReplacing (devices : DeviceSlots)
    (replacementIndex : Nat) (replacement : DeviceInputState) : MouseButtons :=
  (entriesReplacing devices replacementIndex replacement).foldl
    addMouseButtons .empty

def rebuildConsumerReplacing (devices : DeviceSlots) (replacementIndex : Nat)
    (replacement : DeviceInputState) : ConsumerState :=
  ((entriesReplacing devices replacementIndex replacement).foldl
    addConsumer (.new, none)).1

namespace InputAggregator

def new (devices : Nat) : InputAggregator :=
  ⟨List.replicate devices none, .new, 0, 1⟩

def existingButtons (aggregator : InputAggregator)
    (interfaceId : InterfaceId) : MouseButtons :=
  match SlotTable.lookup DeviceInputState.interfaceId aggregator.devices
      interfaceId with
  | some entry => entry.mouseButtons
  | none => .empty

def buttonsChanged (aggregator : InputAggregator)
    (frame : StandardInputFrame) : Bool :=
  frame.mouse.any fun mouse =>
    mouse.buttons ≠ aggregator.existingButtons frame.interfaceId

/-- The slot a frame is stored in, and whether it already held the frame's
interface. -/
def targetIndex (aggregator : InputAggregator)
    (frame : StandardInputFrame) : Except InputError (Nat × Bool) :=
  match interfaceIndex aggregator.devices frame.interfaceId with
  | some index => .ok (index, true)
  | none =>
      match SlotTable.freeIndex? aggregator.devices with
      | some index => .ok (index, false)
      | none => .error .deviceCapacity

def nextEntry (aggregator : InputAggregator) (index : Nat)
    (frame : StandardInputFrame) : Except InputError DeviceInputState := do
  let stored := (aggregator.devices[index]?.join).getD
    (.new frame.deviceId frame.interfaceId)
  let keyboard ← match frame.keyboard with
    | some keyboard => PhysicalKeyboardState.replaceWithFrame keyboard
    | none => pure stored.keyboard
  let mouseButtons := match frame.mouse with
    | some mouse => mouse.buttons
    | none => stored.mouseButtons
  let (consumer, generation) := match frame.consumer with
    | some consumer =>
        (ConsumerState.mk consumer.active, aggregator.nextConsumerGeneration)
    | none => (stored.consumer, stored.consumerGeneration)
  return { stored with
    keyboard := keyboard
    mouseButtons := mouseButtons
    consumer := consumer
    consumerGeneration := generation }

/-- The keyboard, mouse and consumer parts of the aggregate after a frame.  A
part the frame does not carry stays, and a lone interface is its own union. -/
def nextKeyboard (aggregator : InputAggregator) (frame : StandardInputFrame)
    (isOnlyActiveInterface : Bool) (index : Nat) (next : DeviceInputState) :
    Except InputError PhysicalKeyboardState :=
  if frame.keyboard.isSome then
    if isOnlyActiveInterface then
      .ok next.keyboard
    else
      rebuildKeyboardReplacing aggregator.devices index next
  else
    .ok aggregator.aggregate.keyboard

def nextMouseButtons (aggregator : InputAggregator)
    (frame : StandardInputFrame) (isOnlyActiveInterface : Bool) (index : Nat)
    (next : DeviceInputState) : MouseButtons :=
  if aggregator.buttonsChanged frame then
    if isOnlyActiveInterface then
      next.mouseButtons
    else
      rebuildMouseButtonsReplacing aggregator.devices index next
  else
    aggregator.aggregate.mouse.buttons

def nextConsumer (aggregator : InputAggregator) (frame : StandardInputFrame)
    (isOnlyActiveInterface : Bool) (index : Nat) (next : DeviceInputState) :
    ConsumerState :=
  if frame.consumer.isSome then
    if isOnlyActiveInterface then
      next.consumer
    else
      rebuildConsumerReplacing aggregator.devices index next
  else
    aggregator.aggregate.consumer

def prepareFrame (aggregator : InputAggregator)
    (frame : StandardInputFrame) : Except InputError PreparedInputFrame := do
  -- A frame that only moves the pointer must not take a device slot.
  if frame.keyboard.isNone && frame.consumer.isNone &&
      !aggregator.buttonsChanged frame then
    return ⟨none, none, none, aggregator.activeDevices,
      aggregator.nextConsumerGeneration⟩
  let (index, existing) ← aggregator.targetIndex frame
  let next ← aggregator.nextEntry index frame
  let only := aggregator.activeDevices == 0 ||
    (aggregator.activeDevices == 1 && existing)
  let keyboard ← aggregator.nextKeyboard frame only index next
  let buttons := aggregator.nextMouseButtons frame only index next
  let consumer := aggregator.nextConsumer frame only index next
  return {
    index := some index
    entry := some next
    aggregate := some ⟨keyboard, ⟨buttons⟩, consumer⟩
    activeDevices := aggregator.activeDevices + if existing then 0 else 1
    nextConsumerGeneration :=
      if frame.consumer.isSome then
        aggregator.nextConsumerGeneration + 1
      else
        aggregator.nextConsumerGeneration }

def commitFrame (aggregator : InputAggregator)
    (prepared : PreparedInputFrame) : InputAggregator where
  devices := match prepared.index with
    | some index => aggregator.devices.set index prepared.entry
    | none => aggregator.devices
  aggregate := prepared.aggregateOver aggregator
  activeDevices := prepared.activeDevices
  nextConsumerGeneration := prepared.nextConsumerGeneration

def applyFrame (aggregator : InputAggregator) (frame : StandardInputFrame) :
    InputAggregator × Except InputError Unit :=
  match aggregator.prepareFrame frame with
  | .ok prepared => (aggregator.commitFrame prepared, .ok ())
  | .error error => (aggregator, .error error)

/-- Installs the remaining devices when their union can be rebuilt. -/
def installDevices (aggregator : InputAggregator) (devices : DeviceSlots) :
    InputAggregator × Bool :=
  match rebuildAggregate devices with
  | .ok aggregate =>
      ({ aggregator with
          devices := devices
          aggregate := aggregate
          activeDevices := devices.reduceOption.length }, true)
  | .error _ => (aggregator, false)

def removeDevice (aggregator : InputAggregator) (deviceId : DeviceId) :
    InputAggregator × Bool :=
  if aggregator.devices.reduceOption.any (·.deviceId = deviceId) then
    aggregator.installDevices (aggregator.devices.map fun entry =>
      if entry.any (·.deviceId = deviceId) then none else entry)
  else
    (aggregator, false)

def removeInterface (aggregator : InputAggregator)
    (interfaceId : InterfaceId) : InputAggregator × Bool :=
  match interfaceIndex aggregator.devices interfaceId with
  | some index =>
      aggregator.installDevices (aggregator.devices.set index none)
  | none => (aggregator, false)

end InputAggregator

end HidShift
