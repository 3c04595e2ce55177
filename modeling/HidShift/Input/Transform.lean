import HidShift.Input.State
import HidShift.SettingsSchema

/-! What an input profile does to the frames of its device, and which profile
a device gets (`domain/input_profile.rs`). -/

namespace HidShift

open Lib

/-- Scales by a percentage and carries the remainder to the next frame.  The
division truncates toward zero. -/
def scaleWithRemainder (value : Int) (percent : UInt16) (remainder : Int32)
    (low high : Int) : Int × Int32 :=
  let scaled := value * percent.toNat + remainder.toInt
  (max low (min high (scaled.tdiv 100)), Int32.ofInt (scaled.tmod 100))

def scaleInt16WithRemainder (value : Int16) (percent : UInt16)
    (remainder : Int32) : Int16 × Int32 :=
  let (output, rest) := scaleWithRemainder value.toInt percent remainder
    (-32768) 32767
  (Int16.ofInt output, rest)

def scaleInt8WithRemainder (value : Int8) (percent : UInt16)
    (remainder : Int32) : Int8 × Int32 :=
  let (output, rest) := scaleWithRemainder value.toInt percent remainder
    (-128) 127
  (Int8.ofInt output, rest)

/-- Keys that do not fit are dropped: `let _ = frame.push_key(key)`. -/
def KeyboardFrame.pushKeys (frame : KeyboardFrame) (keys : List KeyUsage) :
    KeyboardFrame :=
  keys.foldl (fun frame key =>
    match frame.pushKey key with
    | .ok next => next
    | .error _ => frame) frame

namespace InputProfile

def mapKey (settings : InputSettings) (key : KeyUsage) : KeyUsage :=
  let layoutKey : UInt8 :=
    if settings.keyboardLayout = 1 ∧ key.val = 0x89 then 0x35
    else if settings.keyboardLayout = 2 ∧ key.val = 0x35 then 0x89
    else key.val
  if settings.remapFromUsage ≠ 0 ∧ layoutKey = settings.remapFromUsage then
    ⟨settings.remapToUsage⟩
  else
    ⟨layoutKey⟩

def transformKeyboard (settings : InputSettings) (keyboard : KeyboardFrame) :
    KeyboardFrame :=
  (KeyboardFrame.new keyboard.modifiers).pushKeys
    (keyboard.keysDown.toList.map (mapKey settings))

def transformMouse (settings : InputSettings)
    (remainders : MouseScaleRemainders) (mouse : MouseFrame) :
    MouseFrame × MouseScaleRemainders :=
  let (x, restX) := scaleInt16WithRemainder mouse.movement.x
    settings.mouseSensitivityPercent remainders.x
  let (y, restY) := scaleInt16WithRemainder mouse.movement.y
    settings.mouseSensitivityPercent remainders.y
  let (wheel, restWheel) := scaleInt8WithRemainder mouse.movement.wheel
    settings.scrollMultiplierPercent remainders.wheel
  let (pan, restPan) := scaleInt8WithRemainder mouse.movement.pan
    settings.scrollMultiplierPercent remainders.pan
  ({ mouse with movement := ⟨x, y, wheel, pan⟩ },
    ⟨restX, restY, restWheel, restPan⟩)

def transformConsumer (settings : InputSettings) (consumer : ConsumerFrame) :
    ConsumerFrame :=
  match consumer.active with
  | some active =>
      if settings.consumerFromUsage ≠ 0 ∧
          active.val = settings.consumerFromUsage then
        ⟨some ⟨settings.consumerToUsage⟩⟩
      else
        consumer
  | none => consumer

/-- Applies device-owned transforms before input aggregation. -/
def transform (profile : InputProfile) (frame : StandardInputFrame) :
    InputProfile × StandardInputFrame :=
  let moved := frame.mouse.map
    (transformMouse profile.settings profile.mouseRemainders)
  ({ profile with
      mouseRemainders := (moved.map (·.2)).getD profile.mouseRemainders },
    { frame with
      keyboard := frame.keyboard.map (transformKeyboard profile.settings)
      mouse := moved.map (·.1)
      consumer := frame.consumer.map (transformConsumer profile.settings) })

/-- The keyboard without the keys and modifiers of the shortcut. -/
def filterShortcut (shortcut : KeyboardShortcut) (keyboard : KeyboardFrame) :
    KeyboardFrame :=
  (KeyboardFrame.new (keyboard.modifiers &&& ~~~shortcut.modifiers)).pushKeys
    (keyboard.keysDown.toList.filter (· ≠ shortcut.key))

/-- Detects and removes the device-owned target-switch chord before layout
and remap transforms.  True once per complete press and release. -/
def captureTargetSwitchShortcut (profile : InputProfile)
    (frame : StandardInputFrame) : InputProfile × StandardInputFrame × Bool :=
  let shortcut := profile.settings.targetSwitchShortcut
  match frame.keyboard with
  | none => (profile, frame, false)
  | some keyboard =>
      if shortcut.isEnabled then
        let keyDown : Bool := shortcut.key ∈ keyboard.keysDown
        let componentsReleased : Bool :=
          !keyDown && keyboard.modifiers &&& shortcut.modifiers == 0
        let armed := componentsReleased || profile.shortcutArmed
        let triggered := armed && keyDown &&
          keyboard.modifiers == shortcut.modifiers &&
          keyboard.keysDown.toList.length == 1
        let armed := armed && !triggered
        let keyboard := if triggered || !armed then
            filterShortcut shortcut keyboard
          else
            keyboard
        ({ profile with shortcutArmed := armed },
          { frame with keyboard := some keyboard }, triggered)
      else
        ({ profile with shortcutArmed := true }, frame, false)

def targetSwitchShortcutWouldTrigger (profile : InputProfile)
    (frame : StandardInputFrame) : Bool :=
  let shortcut := profile.settings.targetSwitchShortcut
  match frame.keyboard with
  | none => false
  | some keyboard =>
      profile.shortcutArmed && shortcut.isEnabled &&
        keyboard.modifiers == shortcut.modifiers &&
        keyboard.keysDown.toList == [shortcut.key]

def resetTransformState (profile : InputProfile) : InputProfile :=
  { profile with mouseRemainders := .zero, shortcutArmed := true }

end InputProfile

namespace InputProfileRegistry

/-- `get`: the first profile of the id. -/
def get? (registry : InputProfileRegistry) (id : InputProfileId) :
    Option InputProfile :=
  registry.profiles.toList.find? (·.id = id)

def updateFirst (registry : InputProfileRegistry)
    (matched : InputProfile → Bool) (update : InputProfile → InputProfile) :
    InputProfileRegistry :=
  match registry.profiles.toList.findIdx? matched with
  | none => registry
  | some index =>
      { registry with profiles :=
        ⟨registry.profiles.toList.modify index update, by
          rw [List.length_modify]
          exact registry.profiles.length_le⟩ }

/-- A write through `get_mut`. -/
def update (registry : InputProfileRegistry) (id : InputProfileId)
    (change : InputProfile → InputProfile) : InputProfileRegistry :=
  registry.updateFirst (·.id = id) change

def takeSequence (registry : InputProfileRegistry) :
    InputProfileRegistry × UInt64 :=
  ({ registry with nextSequence := registry.nextSequence + 1 },
    registry.nextSequence)

/-- The first disconnected profile among those seen longest ago. -/
def removable (profiles : List InputProfile) : Option InputProfile :=
  let idle := profiles.filter (!·.connected)
  idle.find? fun profile =>
    idle.all fun other => profile.lastSeen ≤ other.lastSeen

def freeId (profiles : List InputProfile) : Option InputProfileId :=
  (List.range' 1 inputProfileCapacity).findSome? fun candidate =>
    (InputProfileId.new (UInt8.ofNat candidate)).filter fun id =>
      profiles.all (·.id ≠ id)

def connectedProfile (id : InputProfileId) (identity : InputIdentity)
    (sequence : UInt64) : InputProfile :=
  { InputProfile.restored id identity sequence .default with
    connected := true }

def observe (registry : InputProfileRegistry) (identity : InputIdentity) :
    InputProfileRegistry × Except InputProfileError InputProfileId :=
  let (registry, sequence) := registry.takeSequence
  match registry.profiles.toList.find? (·.identity = identity) with
  | some known =>
      (registry.updateFirst (·.identity = identity) fun profile =>
        { profile with connected := true, lastSeen := sequence },
        .ok known.id)
  | none =>
      if registry.profiles.toList.length = inputProfileCapacity then
        match removable registry.profiles.toList with
        | none => (registry, .error .registryFullWithConnectedProfiles)
        | some old =>
            (registry.updateFirst (· = old) fun profile =>
              connectedProfile profile.id identity sequence, .ok old.id)
      else
        match freeId registry.profiles.toList with
        | none => (registry, .error .registryFullWithConnectedProfiles)
        | some id =>
            match registry.profiles.push?
                (connectedProfile id identity sequence) with
            | none => (registry, .error .registryFullWithConnectedProfiles)
            | some profiles =>
                ({ registry with profiles := profiles }, .ok id)

/-- The caller ignores an unknown profile; the sequence advances anyway. -/
def disconnect (registry : InputProfileRegistry) (id : InputProfileId) :
    InputProfileRegistry :=
  let (registry, sequence) := registry.takeSequence
  registry.update id fun profile =>
    ({ profile with
      connected := false
      lastSeen := sequence } : InputProfile).resetTransformState

end InputProfileRegistry

end HidShift
