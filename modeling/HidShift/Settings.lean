import HidShift.Input.Keyboard

/-! The settings that are kept across reboots (`settings.rs`). -/

namespace HidShift

structure KeyboardShortcut where
  modifiers : ModifierState
  key : KeyUsage
deriving DecidableEq

namespace KeyboardShortcut

def disabled : KeyboardShortcut := ⟨0, ⟨0⟩⟩

def new (modifiers : ModifierState) (key : KeyUsage) :
    Option KeyboardShortcut :=
  if key.val = 0 ∨ (0xe0 ≤ key.val ∧ key.val ≤ 0xe7) then none
  else some ⟨modifiers, key⟩

def fromPacked (value : UInt16) : Option KeyboardShortcut :=
  let key : KeyUsage := ⟨value.toUInt8⟩
  if key.val = 0 then some disabled
  else new (value >>> 8).toUInt8.toBitVec key

def packed (shortcut : KeyboardShortcut) : UInt16 :=
  shortcut.key.val.toUInt16 + 256 * (UInt8.ofBitVec shortcut.modifiers).toUInt16

end KeyboardShortcut

structure GlobalSettings where
  bootTarget : UInt8
  restoreLastTarget : Bool
  autoReconnect : Bool
  switchReleaseDelayMs : UInt16
  buttonShortAction : UInt8
  buttonLongAction : UInt8
  buttonVeryLongAction : UInt8
  logLevel : UInt8
deriving DecidableEq

def GlobalSettings.default : GlobalSettings where
  bootTarget := 0
  restoreLastTarget := true
  autoReconnect := true
  switchReleaseDelayMs := 20
  buttonShortAction := 1
  buttonLongAction := 2
  buttonVeryLongAction := 3
  logLevel := 2

structure InputSettings where
  keyboardLayout : UInt8
  remapFromUsage : UInt8
  remapToUsage : UInt8
  mouseSensitivityPercent : UInt16
  scrollMultiplierPercent : UInt16
  consumerFromUsage : UInt16
  consumerToUsage : UInt16
  targetSwitchShortcut : KeyboardShortcut
deriving DecidableEq

end HidShift
