import HidShift.Runtime.Reachable

namespace HidShift

open Lib InPlace

def InputFrame.carries : InputFrame → ReportKind → Bool
  | .standard frame, .keyboard => frame.keyboard.isSome
  | .standard frame, .mouse => frame.mouse.isSome
  | .standard frame, .consumer => frame.consumer.isSome
  | _, _ => false

namespace InputProfile

variable (profile : InputProfile) (frame : StandardInputFrame)

/-- The chord is complete when its key is the only one down: a released chord
does not arm it in the same frame. -/
theorem captureTargetSwitchShortcut_triggered :
    (profile.captureTargetSwitchShortcut frame).2.2 =
      profile.targetSwitchShortcutWouldTrigger frame := by
  unfold captureTargetSwitchShortcut targetSwitchShortcutWouldTrigger
  cases frame.keyboard with
  | none => rfl
  | some keyboard =>
      dsimp only
      split
      · rename_i enabled
        generalize profile.settings.targetSwitchShortcut = shortcut at enabled
        by_cases down : shortcut.key ∈ keyboard.keysDown
        · have alone : (keyboard.keysDown.toList.length == 1) =
              (keyboard.keysDown.toList == [shortcut.key]) := by
            rw [Bool.eq_iff_iff, beq_iff_eq, beq_iff_eq]
            constructor
            · intro one
              obtain ⟨key, keys⟩ := List.length_eq_one_iff.mp one
              have member : shortcut.key ∈ keyboard.keysDown.toList := down
              rw [keys, List.mem_singleton] at member
              rw [keys, member]
            · intro keys
              rw [keys]
              rfl
          rw [alone]
          simp [down, enabled]
        · have missing : (keyboard.keysDown.toList == [shortcut.key]) =
              false := by
            rw [beq_eq_false_iff_ne]
            intro keys
            apply down
            show shortcut.key ∈ keyboard.keysDown.toList
            rw [keys]
            exact List.mem_singleton.mpr rfl
          simp [down, missing]
      · rename_i disabled
        simp [disabled]

theorem captureTargetSwitchShortcut_carries (kind : ReportKind) :
    (InputFrame.standard (profile.captureTargetSwitchShortcut frame).2.1).carries
      kind = (InputFrame.standard frame).carries kind := by
  unfold captureTargetSwitchShortcut
  cases carried : frame.keyboard with
  | none => rfl
  | some keyboard =>
      dsimp only
      split
      · cases kind <;> simp [InputFrame.carries, carried]
      · rfl

theorem transform_carries (kind : ReportKind) :
    (InputFrame.standard (profile.transform frame).2).carries kind =
      (InputFrame.standard frame).carries kind := by
  cases kind <;> simp [InputFrame.carries, transform]

end InputProfile

namespace BridgeRuntime

variable (runtime : BridgeRuntime) (frame : InputFrame)

theorem transformInputFrame_triggered :
    (runtime.transformInputFrame frame).2.2 =
      runtime.inputFrameWouldTriggerShortcut frame := by
  unfold transformInputFrame inputFrameWouldTriggerShortcut
  cases frame with
  | vendor => rfl
  | standard frame =>
      dsimp only
      cases (runtime.inputProfileForDevice frame.deviceId).bind
          runtime.inputProfiles.get? with
      | none => rfl
      | some profile =>
          exact profile.captureTargetSwitchShortcut_triggered frame

theorem transformInputFrame_carries (kind : ReportKind) :
    (runtime.transformInputFrame frame).2.1.carries kind =
      frame.carries kind := by
  unfold transformInputFrame
  cases frame with
  | vendor => rfl
  | standard frame =>
      dsimp only
      cases (runtime.inputProfileForDevice frame.deviceId).bind
          runtime.inputProfiles.get? with
      | none => rfl
      | some profile =>
          exact (InputProfile.transform_carries _ _ kind).trans
            (profile.captureTargetSwitchShortcut_carries frame kind)

end BridgeRuntime

variable {build : Build} {bridge : BridgeState} {actions : Nat}

/-- A frame is reported when the active target takes one of its parts. -/
def BridgeState.Reports (build : Build) (bridge : BridgeState)
    (frame : InputFrame) : Prop :=
  ∃ kind, frame.carries kind = true ∧
    (bridge.readyActiveTarget build kind).isSome = true

theorem PartReport.ne_nil (reported : PartReport build bridge kind carried out) :
    out ≠ [] ↔ carried = true ∧
      (bridge.readyActiveTarget build kind).isSome = true := by
  cases reported with
  | none untaken =>
      refine iff_of_false (fun some => some rfl) ?_
      rintro ⟨carried, ready⟩
      rw [untaken carried] at ready
      cases ready
  | one ready => simp [ready]

theorem FrameApplied.reported
    (applied : FrameApplied build bridge aggregate frame input suppression
      out) :
    out ≠ [] ↔ bridge.Reports build (.standard frame) := by
  obtain ⟨keyboard, mouse, consumer⟩ := applied
  rw [ne_eq, List.append_eq_nil_iff, List.append_eq_nil_iff, not_and_or,
    not_and_or, ← ne_eq, ← ne_eq, ← ne_eq, keyboard.reported.ne_nil,
    mouse.reported.ne_nil, consumer.reported.ne_nil]
  constructor
  · rintro (reported | reported | reported)
    · exact ⟨.keyboard, reported⟩
    · exact ⟨.mouse, reported⟩
    · exact ⟨.consumer, reported⟩
  · rintro ⟨kind, reported⟩
    cases kind with
    | keyboard => exact .inl reported
    | mouse => exact .inr (.inl reported)
    | consumer => exact .inr (.inr reported)
    | keyboardOutput => cases reported.1

theorem handleInputFrame_reported
    (finished : Succeeds (handleInputFrame build frame) before done after) :
    after.bridge.hosts = before.bridge.hosts ∧
      ∃ list, after.out.toList = before.out.toList ++ list ∧
        (list ≠ [] ↔ before.bridge.Reports build frame) := by
  cases frame with
  | vendor =>
      simp only [handleInputFrame, modifyBridge, succeeds_modify] at finished
      subst finished
      refine ⟨rfl, [], (List.append_nil _).symm, ?_⟩
      refine ⟨fun impossible => absurd rfl impossible, ?_⟩
      rintro ⟨kind, impossible, -⟩
      cases kind <;> cases impossible
  | standard frame =>
      simp only [handleInputFrame, handleStandardInputFrame, succeeds_bind,
        succeeds_get, succeeds_lift, succeeds_set] at finished
      obtain ⟨_, _, ⟨rfl, rfl⟩, prepared, _, ⟨preparation, rfl⟩, next, _,
        ⟨framed, rfl⟩, rfl⟩ := finished
      obtain ⟨list, applied, out⟩ := frameInput_spec framed
      exact ⟨rfl, list, out, applied.reported⟩

end HidShift
