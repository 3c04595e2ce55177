import HidShift.Runtime.Management
import HidShift.Storage.ImageLayout

namespace HidShift

open Lib

/-- Writing back what is read is accepted and changes nothing. -/
def GlobalSettings.Accepted (settings : GlobalSettings) : Prop :=
  ∀ id value, settings.value? id = some value →
    validateSettingValue id value = true ∧
      settings.set? id value = some settings

def InputSettings.Accepted (settings : InputSettings) : Prop :=
  ∀ id value, settings.value? id = some value →
    validateSettingValue id value = true ∧
      settings.set? id value = some settings

theorem validate_ofNat {id : SettingId} (small : value < 65536)
    (smallLow : low < 65536) (smallHigh : high < 65536)
    (lowest : (settingDescriptor id).min = Int32.ofNat low)
    (highest : (settingDescriptor id).max = Int32.ofNat high) :
    validateSettingValue id (Int32.ofNat value) = true ↔
      low ≤ value ∧ value ≤ high := by
  rw [validateSettingValue, Bool.and_eq_true, decide_eq_true_iff,
    decide_eq_true_iff, lowest, highest,
    Int32.ofNat_le_iff_le (by omega) (by omega),
    Int32.ofNat_le_iff_le (by omega) (by omega)]

section

variable {id : SettingId} {value : Int32}

theorem validate_byte (high : UInt8) (lowest : (settingDescriptor id).min = 0)
    (highest : (settingDescriptor id).max = Int32.ofNat high.toNat) :
    validateSettingValue id (Int32.ofNat byte.toNat) = true ↔
      byte ≤ high := by
  have byteBound := byte.toNat_lt
  have highBound := high.toNat_lt
  rw [validate_ofNat (by omega) (by decide) (by omega) lowest highest,
    UInt8.le_iff_toNat_le]
  exact and_iff_right (Nat.zero_le _)

theorem validate_word (low high : UInt16)
    (lowest : (settingDescriptor id).min = Int32.ofNat low.toNat)
    (highest : (settingDescriptor id).max = Int32.ofNat high.toNat) :
    validateSettingValue id (Int32.ofNat word.toNat) = true ↔
      low ≤ word ∧ word ≤ high := by
  have wordBound := word.toNat_lt
  have lowBound := low.toNat_lt
  have highBound := high.toNat_lt
  rw [validate_ofNat (by omega) (by omega) (by omega) lowest highest,
    UInt16.le_iff_toNat_le, UInt16.le_iff_toNat_le]

end

@[simp] theorem byte_ofNat (byte : UInt8) :
    (Int32.ofNat byte.toNat).toUInt32.toUInt8 = byte := by
  apply UInt8.toNat_inj.mp
  have bound := byte.toNat_lt
  rw [Int32.toUInt32_ofNat', UInt32.toNat_toUInt8, UInt32.toNat_ofNat']
  omega

@[simp] theorem word_ofNat (word : UInt16) :
    (Int32.ofNat word.toNat).toUInt32.toUInt16 = word := by
  apply UInt16.toNat_inj.mp
  have bound := word.toNat_lt
  rw [Int32.toUInt32_ofNat', UInt32.toNat_toUInt16, UInt32.toNat_ofNat']
  omega

@[simp] theorem flag_back (flag : Bool) :
    ((if flag = true then 1 else 0 : Int32) != 0) = flag := by
  cases flag <;> decide

theorem validate_flag {id : SettingId} (flag : Bool)
    (lowest : (settingDescriptor id).min = 0)
    (highest : (settingDescriptor id).max = 1) :
    validateSettingValue id (if flag = true then 1 else 0) = true := by
  rw [validateSettingValue, lowest, highest]
  cases flag <;> decide

namespace GlobalSettings

variable {settings : GlobalSettings}

structure InSchema (settings : GlobalSettings) : Prop where
  bootTarget : settings.bootTarget ≤ 4
  switchReleaseDelayMs : settings.switchReleaseDelayMs ≤ 1000
  buttonShortAction : settings.buttonShortAction ≤ 3
  buttonLongAction : settings.buttonLongAction ≤ 3
  buttonVeryLongAction : settings.buttonVeryLongAction ≤ 3
  logLevel : settings.logLevel ≤ 2

theorem accepted_iff : settings.Accepted ↔ settings.InSchema := by
  constructor
  · intro accepted
    exact {
      bootTarget :=
        (validate_byte 4 rfl rfl).mp (accepted .bootTarget _ rfl).1
      switchReleaseDelayMs := ((validate_word 0 1000 rfl rfl).mp
        (accepted .switchReleaseDelayMs _ rfl).1).2
      buttonShortAction :=
        (validate_byte 3 rfl rfl).mp (accepted .buttonShortAction _ rfl).1
      buttonLongAction :=
        (validate_byte 3 rfl rfl).mp (accepted .buttonLongAction _ rfl).1
      buttonVeryLongAction :=
        (validate_byte 3 rfl rfl).mp (accepted .buttonVeryLongAction _ rfl).1
      logLevel :=
        (validate_byte 2 rfl rfl).mp (accepted .logLevel _ rfl).1 }
  · intro inSchema id value read
    cases id <;> simp only [value?, Option.some.injEq, reduceCtorEq] at read <;>
      subst read
    case bootTarget =>
      refine ⟨(validate_byte 4 rfl rfl).mpr inSchema.bootTarget, ?_⟩
      simp only [set?, byte_ofNat]
    case restoreLastTarget =>
      refine ⟨validate_flag _ rfl rfl, ?_⟩
      simp only [set?, flag_back]
    case autoReconnect =>
      refine ⟨validate_flag _ rfl rfl, ?_⟩
      simp only [set?, flag_back]
    case switchReleaseDelayMs =>
      refine ⟨(validate_word 0 1000 rfl rfl).mpr
        ⟨UInt16.zero_le, inSchema.switchReleaseDelayMs⟩, ?_⟩
      simp only [set?, word_ofNat]
    case buttonShortAction =>
      refine ⟨(validate_byte 3 rfl rfl).mpr inSchema.buttonShortAction, ?_⟩
      simp only [set?, byte_ofNat]
    case buttonLongAction =>
      refine ⟨(validate_byte 3 rfl rfl).mpr inSchema.buttonLongAction, ?_⟩
      simp only [set?, byte_ofNat]
    case buttonVeryLongAction =>
      refine ⟨(validate_byte 3 rfl rfl).mpr inSchema.buttonVeryLongAction, ?_⟩
      simp only [set?, byte_ofNat]
    case logLevel =>
      refine ⟨(validate_byte 2 rfl rfl).mpr inSchema.logLevel, ?_⟩
      simp only [set?, byte_ofNat]

theorem inSchema_default : GlobalSettings.default.InSchema := by
  constructor <;> decide

theorem InSchema.storable (inSchema : settings.InSchema) :
    settings.Storable := by
  rintro (boot | delay | short | long | veryLong | log)
  · exact UInt8.not_le.mpr boot inSchema.bootTarget
  · exact UInt16.not_le.mpr delay inSchema.switchReleaseDelayMs
  · exact UInt8.not_le.mpr short inSchema.buttonShortAction
  · exact UInt8.not_le.mpr long inSchema.buttonLongAction
  · exact UInt8.not_le.mpr veryLong inSchema.buttonVeryLongAction
  · refine UInt8.not_le.mpr log (UInt8.le_trans inSchema.logLevel ?_)
    decide

end GlobalSettings

namespace InputSettings

variable {settings : InputSettings}

structure InSchema (settings : InputSettings) : Prop where
  keyboardLayout : settings.keyboardLayout ≤ 2
  mouseSensitivityPercent : 10 ≤ settings.mouseSensitivityPercent ∧
    settings.mouseSensitivityPercent ≤ 400
  scrollMultiplierPercent : 10 ≤ settings.scrollMultiplierPercent ∧
    settings.scrollMultiplierPercent ≤ 400
  consumerFromUsage : settings.consumerFromUsage ≤ 1023
  consumerToUsage : settings.consumerToUsage ≤ 1023
  targetSwitchShortcut : KeyboardShortcut.fromPacked
    settings.targetSwitchShortcut.packed = some settings.targetSwitchShortcut

theorem accepted_iff : settings.Accepted ↔ settings.InSchema := by
  constructor
  · intro accepted
    exact {
      keyboardLayout :=
        (validate_byte 2 rfl rfl).mp (accepted .keyboardLayout _ rfl).1
      mouseSensitivityPercent := (validate_word 10 400 rfl rfl).mp
        (accepted .mouseSensitivityPercent _ rfl).1
      scrollMultiplierPercent := (validate_word 10 400 rfl rfl).mp
        (accepted .scrollMultiplierPercent _ rfl).1
      consumerFromUsage := ((validate_word 0 1023 rfl rfl).mp
        (accepted .consumerFromUsage _ rfl).1).2
      consumerToUsage := ((validate_word 0 1023 rfl rfl).mp
        (accepted .consumerToUsage _ rfl).1).2
      targetSwitchShortcut := by
        have stored := (accepted .targetSwitchShortcut _ rfl).2
        simp only [set?, word_ofNat] at stored
        obtain ⟨shortcut, unpacked, same⟩ := Option.map_eq_some_iff.mp stored
        rw [unpacked]
        exact congrArg (some ·.targetSwitchShortcut) same }
  · intro inSchema id value read
    cases id <;> simp only [value?, Option.some.injEq, reduceCtorEq] at read <;>
      subst read
    case keyboardLayout =>
      refine ⟨(validate_byte 2 rfl rfl).mpr inSchema.keyboardLayout, ?_⟩
      simp only [set?, byte_ofNat]
    case remapFromUsage =>
      refine ⟨(validate_byte 255 rfl rfl).mpr ?_, ?_⟩
      · exact UInt8.le_iff_toNat_le.mpr
          (Nat.le_of_lt_succ settings.remapFromUsage.toNat_lt)
      · simp only [set?, byte_ofNat]
    case remapToUsage =>
      refine ⟨(validate_byte 255 rfl rfl).mpr ?_, ?_⟩
      · exact UInt8.le_iff_toNat_le.mpr
          (Nat.le_of_lt_succ settings.remapToUsage.toNat_lt)
      · simp only [set?, byte_ofNat]
    case mouseSensitivityPercent =>
      refine ⟨(validate_word 10 400 rfl rfl).mpr
        inSchema.mouseSensitivityPercent, ?_⟩
      simp only [set?, word_ofNat]
    case scrollMultiplierPercent =>
      refine ⟨(validate_word 10 400 rfl rfl).mpr
        inSchema.scrollMultiplierPercent, ?_⟩
      simp only [set?, word_ofNat]
    case consumerFromUsage =>
      refine ⟨(validate_word 0 1023 rfl rfl).mpr
        ⟨UInt16.zero_le, inSchema.consumerFromUsage⟩, ?_⟩
      simp only [set?, word_ofNat]
    case consumerToUsage =>
      refine ⟨(validate_word 0 1023 rfl rfl).mpr
        ⟨UInt16.zero_le, inSchema.consumerToUsage⟩, ?_⟩
      simp only [set?, word_ofNat]
    case targetSwitchShortcut =>
      refine ⟨(validate_word 0 65535 rfl rfl).mpr
        ⟨UInt16.zero_le, UInt16.le_iff_toNat_le.mpr
          (Nat.le_of_lt_succ settings.targetSwitchShortcut.packed.toNat_lt)⟩,
        ?_⟩
      simp only [set?, word_ofNat, inSchema.targetSwitchShortcut,
        Option.map_some]

theorem inSchema_default : InputSettings.default.InSchema := by
  constructor <;> decide

theorem InSchema.storable (inSchema : settings.InSchema) :
    settings.Storable ∧ settings.durable = settings := by
  obtain ⟨storable, durable⟩ :=
    fromPacked_packed.mp inSchema.targetSwitchShortcut
  refine ⟨⟨?_, storable⟩, ?_⟩
  · rintro (layout | mouse | scroll | consumerFrom | consumerTo)
    · exact UInt8.not_le.mpr layout inSchema.keyboardLayout
    · exact mouse inSchema.mouseSensitivityPercent
    · exact scroll inSchema.scrollMultiplierPercent
    · exact UInt16.not_le.mpr consumerFrom inSchema.consumerFromUsage
    · exact UInt16.not_le.mpr consumerTo inSchema.consumerToUsage
  · rw [InputSettings.durable, durable]

end InputSettings

end HidShift
