import HidShift.Bridge.InputAggregate
import HidShift.Runtime.Reachable

namespace HidShift

theorem inputSound_closed (build : Build) :
    BridgeClosed build True InputSound where
  event actions event _ := keeps_handleEventInPlace build event
  held bridge sound := by
    unfold BridgeState.holdWiredPresentationTransition
    split
    · exact sound.of_same rfl rfl
    · exact sound
  begun bridge next operationId sound begun := by
    unfold BridgeState.beginWiredPresentationTransition at begun
    rw [captureSuppression_eq] at begun
    cases begun
    exact sound.of_same rfl rfl
  linked bridge bleHost sound _ := sound.of_same rfl rfl
  named bridge hostId name hosts changed sound _ := sound.of_same rfl rfl
  restored bridge storage restored sound success := by
    unfold BridgeState.restoreStorageState at success
    cases loaded : bridge.hosts.restore storage with
    | error error => simp only [loaded, reduceCtorEq] at success
    | ok hosts =>
        simp only [loaded] at success
        cases build <;> cases success <;> exact sound.of_same rfl rfl
  partly bridge storage sound := sound.of_same rfl rfl

/-- In every state a runtime reaches, also through calls that fail half way,
an item is held exactly if some interface holds it. -/
theorem runtime_held_iff {build : Build} {runtime : BridgeRuntime}
    (reachable : RuntimeReachable build runtime) :
    InputIsAggregate runtime.bridge ∧
      Lib.SlotTable.Distinct DeviceInputState.interfaceId
        runtime.bridge.inputDevices.devices ∧
      ∀ item : HeldItem, item.HeldIn runtime.bridge.input ↔
        ∃ entry ∈ runtime.bridge.inputDevices.devices.reduceOption,
          item.HeldBy entry := by
  have sound : InputSound runtime.bridge := by
    apply reachable.invariant
    · exact fun hosts _ _ => inputSound_new hosts
    · intro runtime next step
      apply (inputSound_closed build).step _ _ step
      · exact fun bridge hostId sound => sound.of_same rfl rfl
      · intro bridge next sound captured
        rw [captureSuppression_eq] at captured
        cases captured
        exact sound.of_same rfl rfl
  refine ⟨⟨sound.modifiers, sound.keys, congrArg _ sound.mouse,
    congrArg _ sound.consumer⟩, sound.exact.distinct, fun item => ?_⟩
  rw [← sound.exact.heldIn_aggregate]
  cases item with
  | key usage => exact sound.keys usage
  | modifier bit => rw [HeldItem.HeldIn, HeldItem.HeldIn, sound.modifiers]
  | button bit => rw [HeldItem.HeldIn, HeldItem.HeldIn, sound.mouse]

open RuntimeScenario in
theorem runtime_held_iff_keyDown :
    ∃ entry ∈ (final (shortcutSet ++ [.bridgeEvent (.inputFrame
        (keyboardFrame 0 4))])).bridge.inputDevices.devices.reduceOption,
      HeldItem.HeldBy entry (.key ⟨4⟩) :=
  (runtime_held_iff (reachable _)).2.2 _ |>.mp (by decide +kernel)

end HidShift
