import HidShift.Lib.Bytes
import HidShift.InputProfile

/-! The settings a management client may read and write (`settings.rs`). -/

namespace HidShift

open Lib

def KeyboardShortcut.isEnabled (shortcut : KeyboardShortcut) : Bool :=
  shortcut.key.val != 0

def InputSettings.default : InputSettings where
  keyboardLayout := 0
  remapFromUsage := 0
  remapToUsage := 0
  mouseSensitivityPercent := 100
  scrollMultiplierPercent := 100
  consumerFromUsage := 0
  consumerToUsage := 0
  targetSwitchShortcut := .disabled

inductive SettingValueKind
  | bool
  | integer
  | choice
  | hidUsage
  | keyboardShortcut
deriving DecidableEq

inductive SettingScope
  | global
  | input
deriving DecidableEq, Repr

inductive SettingId
  | bootTarget
  | restoreLastTarget
  | autoReconnect
  | switchReleaseDelayMs
  | buttonShortAction
  | buttonLongAction
  | buttonVeryLongAction
  | keyboardLayout
  | remapFromUsage
  | remapToUsage
  | mouseSensitivityPercent
  | scrollMultiplierPercent
  | consumerFromUsage
  | consumerToUsage
  | logLevel
  | targetSwitchShortcut
deriving DecidableEq, Repr

inductive SettingTarget
  | global
  | input (profileId : InputProfileId)
deriving DecidableEq

def SettingTarget.scope : SettingTarget → SettingScope
  | .global => .global
  | .input _ => .input

/-- Of the choices only the values are kept; the texts are for people. -/
structure SettingDescriptor where
  id : SettingId
  wireId : UInt16
  key : String
  kind : SettingValueKind
  scope : SettingScope
  default : Int32
  min : Int32
  max : Int32
  step : UInt16
  choices : List Int32
  restartRequired : Bool

def targetChoices : List Int32 := [0, 1, 2, 3, 4]

def buttonActionChoices : List Int32 := [0, 1, 2, 3]

def keyboardLayoutChoices : List Int32 := [0, 1, 2]

def logLevelChoices : List Int32 := [0, 1, 2]

def settingDescriptor (id : SettingId) : SettingDescriptor :=
  match id with
  | .bootTarget => ⟨id, 1, "boot_target", .choice, .global, 0, 0, 4, 1,
      targetChoices, false⟩
  | .restoreLastTarget => ⟨id, 2, "restore_last_target", .bool, .global,
      1, 0, 1, 1, [], false⟩
  | .autoReconnect => ⟨id, 3, "auto_reconnect", .bool, .global,
      1, 0, 1, 1, [], true⟩
  | .switchReleaseDelayMs => ⟨id, 4, "switch_release_delay_ms", .integer,
      .global, 20, 0, 1000, 5, [], false⟩
  | .buttonShortAction => ⟨id, 5, "button_short_action", .choice, .global,
      1, 0, 3, 1, buttonActionChoices, false⟩
  | .buttonLongAction => ⟨id, 6, "button_long_action", .choice, .global,
      2, 0, 3, 1, buttonActionChoices, false⟩
  | .buttonVeryLongAction => ⟨id, 7, "button_very_long_action", .choice,
      .global, 3, 0, 3, 1, buttonActionChoices, false⟩
  | .keyboardLayout => ⟨id, 8, "keyboard_layout", .choice, .input,
      0, 0, 2, 1, keyboardLayoutChoices, false⟩
  | .remapFromUsage => ⟨id, 9, "remap_from_usage", .hidUsage, .input,
      0, 0, 255, 1, [], false⟩
  | .remapToUsage => ⟨id, 10, "remap_to_usage", .hidUsage, .input,
      0, 0, 255, 1, [], false⟩
  | .mouseSensitivityPercent => ⟨id, 11, "mouse_sensitivity_percent",
      .integer, .input, 100, 10, 400, 5, [], false⟩
  | .scrollMultiplierPercent => ⟨id, 12, "scroll_multiplier_percent",
      .integer, .input, 100, 10, 400, 5, [], false⟩
  | .consumerFromUsage => ⟨id, 13, "consumer_from_usage", .hidUsage, .input,
      0, 0, 1023, 1, [], false⟩
  | .consumerToUsage => ⟨id, 14, "consumer_to_usage", .hidUsage, .input,
      0, 0, 1023, 1, [], false⟩
  | .logLevel => ⟨id, 15, "log_level", .choice, .global, 2, 0, 2, 1,
      logLevelChoices, false⟩
  | .targetSwitchShortcut => ⟨id, 16, "target_switch_shortcut",
      .keyboardShortcut, .input, 0, 0, 65535, 1, [], false⟩

def settingDescriptors : List SettingDescriptor :=
  [SettingId.bootTarget, .restoreLastTarget, .autoReconnect,
    .switchReleaseDelayMs, .buttonShortAction, .buttonLongAction,
    .buttonVeryLongAction, .keyboardLayout, .remapFromUsage, .remapToUsage,
    .mouseSensitivityPercent, .scrollMultiplierPercent, .consumerFromUsage,
    .consumerToUsage, .logLevel, .targetSwitchShortcut].map settingDescriptor

def settingsSchemaVersion : UInt16 := 1

def settingCount : Nat := settingDescriptors.length

def validateSettingValue (id : SettingId) (value : Int32) : Bool :=
  (settingDescriptor id).min ≤ value && value ≤ (settingDescriptor id).max

def hashByte (hash : UInt32) (byte : UInt8) : UInt32 :=
  (hash ^^^ byte.toUInt32) * 0x01000193

def hashBytes (hash : UInt32) (bytes : List UInt8) : UInt32 :=
  bytes.foldl hashByte hash

def hashUInt16 (hash : UInt32) (value : UInt16) : UInt32 :=
  hashBytes hash (leBytes 2 value.toNat)

def hashInt32 (hash : UInt32) (value : Int32) : UInt32 :=
  hashBytes hash (leBytes 4 value.toUInt32.toNat)

def SettingValueKind.toByte : SettingValueKind → UInt8
  | .bool => 0
  | .integer => 1
  | .choice => 2
  | .hidUsage => 3
  | .keyboardShortcut => 4

def SettingScope.toByte : SettingScope → UInt8
  | .global => 0
  | .input => 1

def hashDescriptor (hash : UInt32) (descriptor : SettingDescriptor) :
    UInt32 :=
  let hash := hashUInt16 hash descriptor.wireId
  let hash := hashBytes hash descriptor.key.toUTF8.data.toList
  let hash := hashByte hash 0
  let hash := hashByte hash descriptor.kind.toByte
  let hash := hashByte hash descriptor.scope.toByte
  let hash := hashInt32 hash descriptor.default
  let hash := hashInt32 hash descriptor.min
  let hash := hashInt32 hash descriptor.max
  let hash := hashUInt16 hash descriptor.step
  let hash := hashByte hash (if descriptor.restartRequired then 1 else 0)
  let hash := hashUInt16 hash (UInt16.ofNat descriptor.choices.length)
  descriptor.choices.foldl hashInt32 hash

def settingsSchemaHash (version : UInt16)
    (descriptors : List SettingDescriptor) : UInt32 :=
  let hash := hashUInt16 0x811c9dc5 version
  let hash := hashUInt16 hash (UInt16.ofNat descriptors.length)
  descriptors.foldl hashDescriptor hash

end HidShift
