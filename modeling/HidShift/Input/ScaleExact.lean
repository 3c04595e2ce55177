import HidShift.Input.MovementQueue
import HidShift.Input.Transform
import HidShift.Lib.CheckedWord

namespace HidShift

open Lib Lib.Checked

/-- An `i32`; a value that does not fit stops the program. -/
def word32 (value : Int) : Checked Empty Int :=
  ExceptT.lift
    (if -2147483648 ≤ value ∧ value ≤ 2147483647 then some value else none)

def scaleChecked (value : Int) (percent : UInt16) (remainder : Int32)
    (low high : Int) : Checked Empty (Int × Int32) := do
  let product ← word32 (value * percent.toNat)
  let scaled ← word32 (product + remainder.toInt)
  let output ← word32 (scaled.tdiv 100)
  let rest ← word32 (scaled.tmod 100)
  return (max low (min high output), Int32.ofInt rest)

def scaleInt16Checked (value : Int16) (percent : UInt16)
    (remainder : Int32) : Checked Empty (Int16 × Int32) := do
  let (output, rest) ← scaleChecked value.toInt percent remainder (-32768) 32767
  return (Int16.ofInt output, rest)

def scaleInt8Checked (value : Int8) (percent : UInt16)
    (remainder : Int32) : Checked Empty (Int8 × Int32) := do
  let (output, rest) ← scaleChecked value.toInt percent remainder (-128) 127
  return (Int8.ofInt output, rest)

structure InputSettings.Scales (settings : InputSettings) : Prop where
  mouse : 10 ≤ settings.mouseSensitivityPercent.toNat ∧
    settings.mouseSensitivityPercent.toNat ≤ 400
  scroll : 10 ≤ settings.scrollMultiplierPercent.toNat ∧
    settings.scrollMultiplierPercent.toNat ≤ 400

def InputSettings.percentAlong (settings : InputSettings) :
    MouseAxis → UInt16
  | .x | .y => settings.mouseSensitivityPercent
  | .wheel | .pan => settings.scrollMultiplierPercent

def MouseScaleRemainders.along (remainders : MouseScaleRemainders) :
    MouseAxis → Int
  | .x => remainders.x.toInt
  | .y => remainders.y.toInt
  | .wheel => remainders.wheel.toInt
  | .pan => remainders.pan.toInt

def MouseScaleRemainders.Small (remainders : MouseScaleRemainders) : Prop :=
  ∀ axis, (remainders.along axis).natAbs < 100

theorem tmod_hundred (value : Int) : (value.tmod 100).natAbs < 100 := by
  rw [Int.natAbs_tmod]
  exact Nat.mod_lt _ (by decide)

theorem rest_toInt (value : Int) :
    (Int32.ofInt (value.tmod 100)).toInt = value.tmod 100 := by
  have small := tmod_hundred value
  exact Int32.toInt_ofInt_of_le (by omega) (by omega)

theorem word32_yields {β : Type} {value : Int} {next : Int → Checked Empty β}
    {rest : Except Empty β}
    (fits : -2147483648 ≤ value ∧ value ≤ 2147483647)
    (restYields : Yields (next value) rest) :
    Yields (word32 value >>= next) rest :=
  yields_lift (if_pos fits) restYields

theorem scaleChecked_yields {value : Int} {percent : UInt16}
    {remainder : Int32} (low high : Int) (narrow : value.natAbs ≤ 32768)
    (accepted : percent.toNat ≤ 400) (small : remainder.toInt.natAbs < 100) :
    Yields (scaleChecked value percent remainder low high)
      (.ok (scaleWithRemainder value percent remainder low high)) := by
  have product : (value * percent.toNat).natAbs ≤ 32768 * 400 := by
    rw [Int.natAbs_mul]
    exact Nat.mul_le_mul narrow accepted
  have whole := Int.mul_tdiv_add_tmod
    (value * percent.toNat + remainder.toInt) 100
  have rest := tmod_hundred (value * percent.toNat + remainder.toInt)
  refine word32_yields (by omega) ?_
  refine word32_yields (by omega) ?_
  refine word32_yields (by omega) ?_
  refine word32_yields (by omega) ?_
  exact yields_pure _

namespace InputProfile

def transformMouseChecked (settings : InputSettings)
    (remainders : MouseScaleRemainders) (mouse : MouseFrame) :
    Checked Empty (MouseFrame × MouseScaleRemainders) := do
  let (x, restX) ← scaleInt16Checked mouse.movement.x
    settings.mouseSensitivityPercent remainders.x
  let (y, restY) ← scaleInt16Checked mouse.movement.y
    settings.mouseSensitivityPercent remainders.y
  let (wheel, restWheel) ← scaleInt8Checked mouse.movement.wheel
    settings.scrollMultiplierPercent remainders.wheel
  let (pan, restPan) ← scaleInt8Checked mouse.movement.pan
    settings.scrollMultiplierPercent remainders.pan
  return ({ mouse with movement := ⟨x, y, wheel, pan⟩ },
    ⟨restX, restY, restWheel, restPan⟩)

def transformChecked (profile : InputProfile) (frame : StandardInputFrame) :
    Checked Empty (InputProfile × StandardInputFrame) := do
  let moved ← match frame.mouse with
    | none => pure none
    | some mouse => do
        let moved ← transformMouseChecked profile.settings
          profile.mouseRemainders mouse
        pure (some moved)
  return ({ profile with
      mouseRemainders := (moved.map (·.2)).getD profile.mouseRemainders },
    { frame with
      keyboard := frame.keyboard.map (transformKeyboard profile.settings)
      mouse := moved.map (·.1)
      consumer := frame.consumer.map (transformConsumer profile.settings) })

theorem scaleInt16Checked_yields (accepted : percent.toNat ≤ 400)
    (small : remainder.toInt.natAbs < 100) :
    Yields (scaleInt16Checked value percent remainder)
      (.ok (scaleInt16WithRemainder value percent remainder)) := by
  have low := value.le_toInt
  have high := value.toInt_lt
  exact yields_then (scaleChecked_yields _ _ (by omega) accepted small)
    (yields_pure _)

theorem scaleInt8Checked_yields (accepted : percent.toNat ≤ 400)
    (small : remainder.toInt.natAbs < 100) :
    Yields (scaleInt8Checked value percent remainder)
      (.ok (scaleInt8WithRemainder value percent remainder)) := by
  have low := value.le_toInt
  have high := value.toInt_lt
  exact yields_then (scaleChecked_yields _ _ (by omega) accepted small)
    (yields_pure _)

theorem transformMouseChecked_yields {settings : InputSettings}
    (accepted : settings.Scales) (small : remainders.Small)
    (mouse : MouseFrame) :
    Yields (transformMouseChecked settings remainders mouse)
      (.ok (transformMouse settings remainders mouse)) := by
  have motion := accepted.mouse.2
  have scroll := accepted.scroll.2
  refine yields_then (scaleInt16Checked_yields motion (small .x)) ?_
  refine yields_then (scaleInt16Checked_yields motion (small .y)) ?_
  refine yields_then (scaleInt8Checked_yields scroll (small .wheel)) ?_
  refine yields_then (scaleInt8Checked_yields scroll (small .pan)) ?_
  exact yields_pure _

theorem transformChecked_yields {profile : InputProfile}
    (accepted : profile.settings.Scales) (small : profile.mouseRemainders.Small)
    (frame : StandardInputFrame) :
    Yields (profile.transformChecked frame) (.ok (profile.transform frame)) := by
  unfold transformChecked transform
  cases frame.mouse with
  | none => exact yields_pure _
  | some mouse =>
      exact yields_then (transformMouseChecked_yields accepted small mouse)
        (yields_pure _)

end InputProfile

namespace MouseAxis

def lowest : MouseAxis → Int
  | .x | .y => -32768
  | .wheel | .pan => -128

def highest : MouseAxis → Int
  | .x | .y => 32767
  | .wheel | .pan => 127

end MouseAxis

def StandardInputFrame.movedAlong (frame : StandardInputFrame)
    (axis : MouseAxis) : Int :=
  (frame.mouse.map fun mouse => mouse.movement.along axis).getD 0

namespace InputProfile

/-- Percents of the movement along an axis, with what the last frame left. -/
def scaledAlong (profile : InputProfile) (mouse : MouseFrame)
    (axis : MouseAxis) : Int :=
  mouse.movement.along axis * (profile.settings.percentAlong axis).toNat +
    profile.mouseRemainders.along axis

/-- The output does not fit the report along an axis. -/
def clampsAlong (profile : InputProfile) (frame : StandardInputFrame)
    (axis : MouseAxis) : Bool :=
  frame.mouse.any fun mouse =>
    decide ((profile.scaledAlong mouse axis).tdiv 100 < axis.lowest ∨
      axis.highest < (profile.scaledAlong mouse axis).tdiv 100)

variable {profile : InputProfile} {frame : StandardInputFrame}

theorem transform_rest (moves : frame.mouse = some mouse) (axis : MouseAxis) :
    (profile.transform frame).1.mouseRemainders.along axis =
      (profile.scaledAlong mouse axis).tmod 100 := by
  unfold transform
  rw [moves]
  cases axis <;> exact rest_toInt _

theorem transform_moved (moves : frame.mouse = some mouse) (axis : MouseAxis) :
    (profile.transform frame).2.movedAlong axis =
      max axis.lowest (min axis.highest
        ((profile.scaledAlong mouse axis).tdiv 100)) := by
  unfold transform
  rw [moves]
  cases axis with
  | x => exact Int16.toInt_ofInt_of_le (by omega) (by omega)
  | y => exact Int16.toInt_ofInt_of_le (by omega) (by omega)
  | wheel => exact Int8.toInt_ofInt_of_le (by omega) (by omega)
  | pan => exact Int8.toInt_ofInt_of_le (by omega) (by omega)

theorem transform_unmoved (still : frame.mouse = none) (axis : MouseAxis) :
    (profile.transform frame).1.mouseRemainders = profile.mouseRemainders ∧
      (profile.transform frame).2.movedAlong axis = 0 := by
  unfold transform StandardInputFrame.movedAlong
  rw [still]
  exact ⟨rfl, rfl⟩

theorem transform_small (small : profile.mouseRemainders.Small) :
    (profile.transform frame).1.mouseRemainders.Small := by
  intro axis
  cases moves : frame.mouse with
  | none =>
      rw [(transform_unmoved moves axis).1]
      exact small axis
  | some mouse =>
      rw [transform_rest moves]
      exact tmod_hundred _

theorem transform_balance (free : profile.clampsAlong frame axis = false) :
    100 * (profile.transform frame).2.movedAlong axis +
        (profile.transform frame).1.mouseRemainders.along axis =
      frame.movedAlong axis * (profile.settings.percentAlong axis).toNat +
        profile.mouseRemainders.along axis := by
  cases moves : frame.mouse with
  | none =>
      obtain ⟨same, still⟩ := @transform_unmoved profile frame moves axis
      rw [same, still, StandardInputFrame.movedAlong, moves, Option.map_none,
        Option.getD_none, Int.mul_zero, Int.zero_mul]
  | some mouse =>
      have whole := Int.mul_tdiv_add_tmod (profile.scaledAlong mouse axis) 100
      rw [clampsAlong, moves, Option.any_some, decide_eq_false_iff_not] at free
      rw [transform_rest moves, transform_moved moves,
        StandardInputFrame.movedAlong, moves, Option.map_some,
        Option.getD_some]
      change _ = profile.scaledAlong mouse axis
      omega

def transformAllChecked :
    InputProfile → List (InputSettings × StandardInputFrame) →
      Checked Empty (InputProfile × List StandardInputFrame)
  | profile, [] => return (profile, [])
  | profile, (settings, frame) :: rest => do
      let (profile, output) ←
        ({ profile with settings := settings } :
          InputProfile).transformChecked frame
      let (profile, outputs) ← transformAllChecked profile rest
      return (profile, output :: outputs)

def unclampedAlong (axis : MouseAxis) :
    InputProfile → List (InputSettings × StandardInputFrame) → Bool
  | _, [] => true
  | profile, (settings, frame) :: rest =>
      let profile : InputProfile := { profile with settings := settings }
      !profile.clampsAlong frame axis &&
        unclampedAlong axis (profile.transform frame).1 rest

def totalAlong (axis : MouseAxis) : List StandardInputFrame → Int
  | [] => 0
  | frame :: rest => frame.movedAlong axis + totalAlong axis rest

theorem transformAll_balance (small : profile.mouseRemainders.Small)
    (steps : List (InputSettings × StandardInputFrame))
    (accepted : ∀ step ∈ steps, step.1.Scales) :
    ∃ last outputs,
      Yields (profile.transformAllChecked steps) (.ok (last, outputs)) ∧
        last.mouseRemainders.Small ∧
        ∀ axis percent, (∀ step ∈ steps, step.1.percentAlong axis = percent) →
          unclampedAlong axis profile steps →
          100 * totalAlong axis outputs + last.mouseRemainders.along axis =
            totalAlong axis (steps.map Prod.snd) * percent.toNat +
              profile.mouseRemainders.along axis := by
  induction steps generalizing profile with
  | nil =>
      refine ⟨profile, [], yields_pure _, small, fun axis percent _ _ => ?_⟩
      rw [List.map_nil, totalAlong, Int.mul_zero, Int.zero_mul]
  | cons step rest ih =>
      obtain ⟨settings, frame⟩ := step
      have scales : settings.Scales := accepted _ List.mem_cons_self
      obtain ⟨before, isBefore⟩ : ∃ before : InputProfile,
          before = { profile with settings := settings } := ⟨_, rfl⟩
      have sameSettings : before.settings = settings := by rw [isBefore]
      have sameRemainders : before.mouseRemainders = profile.mouseRemainders := by
        rw [isBefore]
      have first := @transformChecked_yields before
        (by rw [sameSettings]; exact scales)
        (by rw [sameRemainders]; exact small) frame
      have nextSmall := @transform_small before frame
        (by rw [sameRemainders]; exact small)
      obtain ⟨last, outputs, yields, lastSmall, balance⟩ := ih nextSmall
        fun other member => accepted other (List.mem_cons_of_mem _ member)
      refine ⟨last, (before.transform frame).2 :: outputs, ?_, lastSmall, ?_⟩
      · rw [transformAllChecked, ← isBefore]
        exact yields_then first (yields_then yields (yields_pure _))
      · intro axis percent constant unclamped
        rw [unclampedAlong, ← isBefore, Bool.and_eq_true, Bool.not_eq_true']
          at unclamped
        have here := transform_balance unclamped.1
        have later := balance axis percent (fun other member =>
          constant other (List.mem_cons_of_mem _ member)) unclamped.2
        have samePercent : settings.percentAlong axis = percent :=
          constant _ List.mem_cons_self
        rw [sameSettings, samePercent, sameRemainders] at here
        rw [totalAlong, List.map_cons, totalAlong, Int.add_mul, Int.mul_add]
        dsimp only
        omega

end InputProfile

/-- However many frames pass: no sum overflows, less than one unit is left
over, and along an axis with one percentage whose outputs were not clamped the
outputs and what is left over are the percents of the inputs. -/
theorem mouse_scaling_exact (profile : InputProfile)
    (fresh : profile.mouseRemainders = .zero)
    (steps : List (InputSettings × StandardInputFrame))
    (accepted : ∀ step ∈ steps, step.1.Scales) :
    ∃ last outputs,
      Yields (profile.transformAllChecked steps) (.ok (last, outputs)) ∧
      ∀ axis, (last.mouseRemainders.along axis).natAbs < 100 ∧
        ∀ percent, (∀ step ∈ steps, step.1.percentAlong axis = percent) →
          profile.unclampedAlong axis steps →
          100 * InputProfile.totalAlong axis outputs +
              last.mouseRemainders.along axis =
            percent.toNat * InputProfile.totalAlong axis
              (steps.map Prod.snd) := by
  have zero (axis : MouseAxis) : profile.mouseRemainders.along axis = 0 := by
    rw [fresh]
    cases axis <;> rfl
  have small : profile.mouseRemainders.Small := by
    intro axis
    rw [zero axis]
    decide
  obtain ⟨last, outputs, yields, lastSmall, balance⟩ :=
    InputProfile.transformAll_balance small steps accepted
  refine ⟨last, outputs, yields, fun axis => ⟨lastSmall axis, ?_⟩⟩
  intro percent constant unclamped
  rw [balance axis percent constant unclamped, zero axis, Int.add_zero,
    Int.mul_comm]

def oneRight : StandardInputFrame where
  deviceId := ⟨1⟩
  interfaceId := ⟨1⟩
  keyboard := none
  mouse := some ⟨.empty, ⟨1, 0, 0, 0⟩⟩
  consumer := none

def halfSpeed : InputSettings :=
  { InputSettings.default with mouseSensitivityPercent := 50 }

/-- Three units at half speed make one, and 50 percents are left over. -/
theorem three_at_half_speed : ∃ last outputs,
    Yields ((InputProfile.restored ⟨1, by decide⟩ ⟨1, 2, 3⟩ 0
      halfSpeed).transformAllChecked
        (List.replicate 3 (halfSpeed, oneRight))) (.ok (last, outputs)) ∧
      100 * InputProfile.totalAlong .x outputs +
        last.mouseRemainders.along .x = 50 * 3 := by
  obtain ⟨last, outputs, yields, axes⟩ := mouse_scaling_exact
    (InputProfile.restored ⟨1, by decide⟩ ⟨1, 2, 3⟩ 0 halfSpeed) rfl
    (List.replicate 3 (halfSpeed, oneRight)) (by
      intro step member
      rw [List.eq_of_mem_replicate member]
      exact ⟨by decide, by decide⟩)
  refine ⟨last, outputs, yields, (axes .x).2 50 ?_ (by decide)⟩
  intro step member
  rw [List.eq_of_mem_replicate member]
  rfl

end HidShift
