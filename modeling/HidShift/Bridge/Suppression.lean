import HidShift.Bridge.Delivery
import HidShift.Bridge.InputSound

namespace HidShift

open Lib

namespace HeldItem

def HiddenBy (suppression : SuppressionState) : HeldItem → Prop
  | .key usage => usage ∈ suppression.keyboard.keys
  | .modifier bit => suppression.keyboard.modifiers.getLsbD bit = true
  | .button bit => suppression.mouseButtons.bits.getLsbD bit = true

def ShownBy : StandardHidReport → HeldItem → Prop
  | .keyboard report, .key usage => report.Carries usage
  | .keyboard report, .modifier bit => report.modifiers.getLsbD bit = true
  | .mouse report, .button bit => report.buttons.getLsbD bit = true
  | _, _ => False

instance (suppression : SuppressionState) :
    (item : HeldItem) → Decidable (item.HiddenBy suppression)
  | .key usage =>
      inferInstanceAs (Decidable (usage ∈ suppression.keyboard.keys))
  | .modifier _ => inferInstanceAs (Decidable (_ = true))
  | .button _ => inferInstanceAs (Decidable (_ = true))

variable {item : HeldItem}

theorem ShownBy.heldIn {report : StandardHidReport}
    (shown : item.ShownBy report) (held : report.HeldIn input) :
    item.HeldIn input := by
  cases report with
  | keyboard report =>
      cases item with
      | key usage => exact held.1 usage shown
      | modifier bit => exact held.2 bit shown
      | button bit => cases shown
  | mouse report =>
      cases item with
      | button bit => exact held bit shown
      | key usage => cases shown
      | modifier bit => cases shown
  | consumer report => cases item <;> cases shown

theorem not_shownBy_neutral {report : StandardHidReport}
    (neutral : report.IsNeutral) : ¬ item.ShownBy report := by
  intro shown
  have held := neutral.heldIn .new
  have impossible := shown.heldIn held
  cases item with
  | key usage => cases impossible
  | modifier bit =>
      simp [HeldIn, PhysicalInputState.new, PhysicalKeyboardState.new]
        at impossible
  | button bit =>
      simp [HeldIn, PhysicalInputState.new, PhysicalMouseState.new,
        MouseButtons.empty] at impossible

end HeldItem

section

variable {build : Build} {bridge : BridgeState}
  {aggregate : PhysicalInputState} {out : List BridgeAction}

/-- What a keyboard frame leaves held and hidden: the aggregate, and what was
hidden of it, plus some keys beyond the six that fit. -/
theorem KeyboardPart.hidden
    (part : KeyboardPart build bridge aggregate carried keyboard suppression
      out) :
    (∀ key ∈ bridge.suppression.keyboard.keys,
        key ∈ keyboard.keys → key ∈ suppression.keys) ∧
      (∀ bit, bridge.suppression.keyboard.modifiers.getLsbD bit = true →
        keyboard.modifiers.getLsbD bit = true →
          suppression.modifiers.getLsbD bit = true) := by
  cases part with
  | absent => exact ⟨fun _ hidden _ => hidden, fun _ hidden _ => hidden⟩
  | present applied window =>
      have snapshot := applySnapshot_spec applied
      obtain ⟨modifiers, grows, -⟩ := suppressVisibleAfter_subset window
      refine ⟨fun key hidden held => ?_, fun bit hidden held => ?_⟩
      · refine grows key ((snapshot.mem_suppressed key).mpr ⟨hidden, ?_⟩)
        exact (snapshot.mem_keys key).mp held
      · rw [modifiers, snapshot.suppressedModifiers, BitVec.getLsbD_and,
          hidden, ← snapshot.nextModifiers, held]
        rfl

theorem MousePart.hidden
    (part : MousePart build bridge aggregate carried mouse suppression out)
    (hidden : bridge.suppression.mouseButtons.bits.getLsbD bit = true)
    (held : mouse.buttons.bits.getLsbD bit = true) :
    suppression.bits.getLsbD bit = true := by
  cases part with
  | absent => exact hidden
  | present =>
      rw [MouseButtons.intersection, BitVec.getLsbD_and, hidden, held]
      rfl

theorem FrameApplied.hidden_not_shown
    (applied : FrameApplied build bridge aggregate frame input suppression
      out) {notification : Notification}
    (member : notification ∈ notifications out) {item : HeldItem}
    (hidden : item.HiddenBy suppression) :
    ¬ item.ShownBy notification.report := by
  obtain ⟨keyboard, mouse, consumer⟩ := applied
  simp only [notifications_append, List.mem_append] at member
  intro shown
  rcases member with fromKeyboard | fromMouse | fromConsumer
  · obtain ⟨-, report⟩ := keyboard.sent fromKeyboard
    rw [report] at shown
    cases item with
    | key usage =>
        obtain ⟨-, visible⟩ :=
          (Keyboard6KroReport.carries_fromPhysicalState _ _ usage).mp shown
        have unhidden := (List.mem_filter.mp (List.mem_of_mem_take visible)).2
        rw [KeyboardSuppression.containsKey_iff.mpr hidden] at unhidden
        cases unhidden
    | modifier bit =>
        simp only [HeldItem.ShownBy, HeldItem.HiddenBy,
          Keyboard6KroReport.modifiers_fromPhysicalState, BitVec.getLsbD_and,
          BitVec.getLsbD_not] at shown hidden
        simp [hidden] at shown
    | button bit => cases shown
  · obtain ⟨-, movement, report⟩ := mouse.sent fromMouse
    rw [report] at shown
    cases item with
    | key usage => cases shown
    | modifier bit => cases shown
    | button bit =>
        simp only [HeldItem.ShownBy, HeldItem.HiddenBy,
          MouseReport.buttons_fromFrame, MouseButtons.without,
          BitVec.getLsbD_and, BitVec.getLsbD_not] at shown hidden
        simp [hidden] at shown
  · obtain ⟨-, report⟩ := consumer.sent fromConsumer
    rw [report] at shown
    cases item <;> cases shown

end

theorem detachReports_hidden {next : BridgeState} {notification : Notification}
    (member : notification ∈ notifications
      (next.detachReports hostId previous reason)) {item : HeldItem}
    (hidden : item.HiddenBy next.suppression) :
    ¬ item.ShownBy notification.report := by
  simp only [BridgeState.detachReports, BridgeState.detachKeyboard,
    BridgeState.detachMouse, BridgeState.detachConsumer,
    notifications_append, List.mem_append] at member
  intro shown
  rcases member with keyboard | mouse | consumer
  · obtain ⟨-, rfl⟩ := mem_notifyIf.mp keyboard
    obtain ⟨modifiers, -, keys⟩ := visibleAgainst_spec next.input.keyboard
      next.suppression.keyboard
    cases item with
    | key usage =>
        obtain ⟨-, visible⟩ :=
          (Keyboard6KroReport.carries_fromVisibleState _ usage).mp shown
        rw [keys] at visible
        have unhidden := (List.mem_filter.mp (List.mem_of_mem_take visible)).2
        rw [KeyboardSuppression.containsKey_iff.mpr hidden] at unhidden
        cases unhidden
    | modifier bit =>
        simp only [HeldItem.ShownBy, HeldItem.HiddenBy,
          Keyboard6KroReport.modifiers_fromVisibleState, modifiers,
          BitVec.getLsbD_and, BitVec.getLsbD_not] at shown hidden
        simp [hidden] at shown
    | button bit => cases shown
  · obtain ⟨-, rfl⟩ := mem_notifyIf.mp mouse
    cases item with
    | key usage => cases shown
    | modifier bit => cases shown
    | button bit =>
        simp only [HeldItem.ShownBy, HeldItem.HiddenBy,
          MouseReport.buttons_fromFrame, MouseButtons.without,
          BitVec.getLsbD_and, BitVec.getLsbD_not] at shown hidden
        simp [hidden] at shown
  · obtain ⟨-, rfl⟩ := mem_notifyIf.mp consumer
    cases item <;> cases shown

theorem Captured.hidden {bridge next : BridgeState}
    (captured : Captured bridge next) {item : HeldItem}
    (held : item.HeldIn bridge.input) : item.HiddenBy next.suppression := by
  simp only [HeldItem.HiddenBy]
  rw [captured.suppression]
  cases item <;> exact held

theorem SuppressionPruned.hidden {bridge next : BridgeState}
    (pruned : SuppressionPruned bridge next) {item : HeldItem}
    (hidden : item.HiddenBy bridge.suppression)
    (held : item.HeldIn next.input) : item.HiddenBy next.suppression := by
  cases item with
  | key usage => exact (pruned.keys usage).mpr ⟨hidden, held⟩
  | modifier bit =>
      simp only [HeldItem.HiddenBy, HeldItem.HeldIn] at hidden held ⊢
      simp [pruned.modifiers, hidden, held]
  | button bit =>
      simp only [HeldItem.HiddenBy, HeldItem.HeldIn] at hidden held ⊢
      simp [pruned.mouseButtons, MouseButtons.intersection, hidden, held]

theorem BridgeStep.hidden {build : Build} {bridge next : BridgeState}
    {event : BridgeEvent build} {sent : List Notification}
    (step : BridgeStep build bridge event sent next) {item : HeldItem}
    (hidden : item.HiddenBy bridge.suppression)
    (held : item.HeldIn next.input) : item.HiddenBy next.suppression := by
  cases step with
  | quiet same => exact same.suppression ▸ hidden
  | frame _ _ applied _ =>
      obtain ⟨keyboard, mouse, -⟩ := applied
      cases item with
      | key usage => exact keyboard.hidden.1 usage hidden held
      | modifier bit => exact keyboard.hidden.2 bit hidden held
      | button bit => exact mouse.hidden hidden held
  | detach _ _ applied _ =>
      cases applied with
      | unseen _ same => exact same ▸ hidden
      | seen _ pruned => exact pruned.hidden hidden held
  | retargetBle _ captured => exact captured.hidden (captured.input ▸ held)
  | retargetOutput _ captured => exact captured.hidden (captured.input ▸ held)
  | clear same => exact same.suppression ▸ hidden
  | wiredReset _ same => exact same.suppression ▸ hidden

theorem BridgeStep.hidden_not_shown {next : BridgeState}
    (step : BridgeStep build bridge event sent next)
    {notification : Notification} (member : notification ∈ sent)
    {item : HeldItem} (hidden : item.HiddenBy next.suppression) :
    ¬ item.ShownBy notification.report := by
  cases step with
  | quiet => cases member
  | frame _ _ applied _ => exact applied.hidden_not_shown member hidden
  | detach _ _ applied _ =>
      cases applied with
      | unseen => cases member
      | seen => exact detachReports_hidden member hidden
  | retargetBle _ _ _ _ _ released =>
      cases released with
      | told => exact HeldItem.not_shownBy_neutral (mem_releaseActive member).2
      | lost => cases member
  | retargetOutput _ _ _ _ neutral _ =>
      exact HeldItem.not_shownBy_neutral (neutral notification member)
  | clear =>
      split at member
      · exact HeldItem.not_shownBy_neutral (mem_releaseReports member).2.1
      · cases member
  | wiredReset =>
      exact HeldItem.not_shownBy_neutral (mem_wiredReset member).2

theorem Performs.hidden {build : Build} {bridge next : BridgeState}
    {call : BridgeCall build} {out : List BridgeAction}
    (performed : Performs build bridge call out next) {item : HeldItem}
    (hidden : item.HiddenBy bridge.suppression)
    (held : item.HeldIn next.input) : item.HiddenBy next.suppression := by
  rcases perform_cases performed with ⟨rfl, -⟩ | ⟨_, _, -, step⟩ |
    ⟨-, restarted⟩
  · exact hidden
  · exact step.hidden hidden held
  · exact restarted.captured.hidden (restarted.captured.input ▸ held)

def TargetChanged (build : Build) (before after : BridgeState) : Prop :=
  match build with
  | .single => ∃ hostId, after.hosts.activeTarget = some hostId ∧
      before.hosts.activeTarget ≠ some hostId
  | .dual => after.outputTarget.selected ≠ before.outputTarget.selected

theorem Performs.captured (performed : Performs build bridge call out next)
    (changed : TargetChanged build bridge next) : Captured bridge next := by
  have unmoved : next.hosts.activeTarget = bridge.hosts.activeTarget →
      next.outputTarget.selected = bridge.outputTarget.selected →
        Captured bridge next := by
    intro activeTarget selected
    cases build with
    | single =>
        obtain ⟨hostId, active, differs⟩ := changed
        exact absurd (activeTarget ▸ active) differs
    | dual => exact absurd selected changed
  rcases perform_cases performed with ⟨rfl, -⟩ | ⟨_, _, -, step⟩ |
    ⟨-, restarted⟩
  · exact unmoved rfl rfl
  · generalize notifications out = sent at step
    cases step with
    | quiet _ activeTarget selected => exact unmoved activeTarget selected
    | frame _ _ _ same =>
        exact unmoved (congrArg _ same.hosts) (congrArg _ same.outputTarget)
    | detach _ _ _ same =>
        exact unmoved (congrArg _ same.hosts) (congrArg _ same.outputTarget)
    | retargetBle _ captured => exact captured
    | retargetOutput _ captured => exact captured
    | clear _ hosts outputTarget =>
        cases build with
        | single =>
            obtain ⟨hostId, active, differs⟩ := changed
            rw [hosts] at active
            rcases BleHostStateMachine.clearHost_activeTarget with kept |
              ⟨cleared, -⟩
            · exact absurd (kept ▸ active) differs
            · rw [cleared] at active
              cases active
        | dual => exact absurd (congrArg _ outputTarget) changed
    | wiredReset _ _ activeTarget selected =>
        exact unmoved activeTarget selected
  · exact restarted.captured

theorem hidden_not_shown_along {build : Build} {start finish : BridgeState}
    {since : List (BridgeTransition build)}
    (run : Run (Performs build) start since finish) {item : HeldItem}
    (hidden : item.HiddenBy start.suppression)
    (held : ∀ taken ∈ since, item.HeldIn taken.before.input)
    {taken : BridgeTransition build} (member : taken ∈ since)
    {notification : Notification}
    (sent : notification ∈ notifications taken.output) :
    ¬ item.ShownBy notification.report := by
  induction run with
  | nil => cases member
  | @cons start next finish call out history performed rest ih =>
      rcases List.mem_cons.mp member with rfl | later
      · obtain ⟨_, _, -, step⟩ := step_of_sent performed sent
        intro shown
        -- What the report shows is held after the call, hence still hidden.
        exact step.hidden_not_shown sent
          (step.hidden hidden (shown.heldIn (step.sent_held sent))) shown
      · have stillHeld : item.HeldIn next.input := by
          cases rest with
          | nil => cases later
          | cons => exact held _ (List.mem_cons_of_mem _ (List.mem_cons_self ..))
        exact ih (performed.hidden hidden stillHeld)
          (fun taken member => held taken (List.mem_cons_of_mem _ member)) later

/-- What was held when the target changed, and in every state since, is in no
report sent since. -/
theorem held_input_not_shown {build : Build} {hosts : Nat}
    {earlier since : List (BridgeTransition build)}
    {change : BridgeTransition build} {finish : BridgeState}
    (run : BridgeRun build hosts (earlier ++ change :: since) finish)
    (changed : TargetChanged build change.before change.after)
    {item : HeldItem} (held : item.HeldIn change.before.input)
    (stays : ∀ taken ∈ since, item.HeldIn taken.before.input)
    {taken : BridgeTransition build} (member : taken ∈ change :: since)
    {target : OutputTarget} {report : StandardHidReport}
    {reason : NotifyReason}
    (emitted : .notify target report reason ∈ taken.output) :
    ¬ item.ShownBy report := by
  obtain ⟨-, performed, rest⟩ := run.split_at
  have hidden := (performed.captured changed).hidden held
  have sent : ⟨target, report, reason⟩ ∈ notifications taken.output :=
    mem_notifications.mpr emitted
  rcases List.mem_cons.mp member with rfl | later
  · obtain ⟨_, _, -, step⟩ := step_of_sent performed sent
    exact step.hidden_not_shown sent hidden
  · exact hidden_not_shown_along rest hidden stays later sent

def Scenario.keyHeld : List (BridgeCall .single) :=
  connect ⟨1⟩ ++ connect ⟨2⟩ ++ [.event 16 (.switchTarget ⟨1⟩), keyDown 1 4]

/-- The input moves to the second host, which then sees another key. -/
theorem held_input_not_shown_keyHeld :
    let change : BridgeTransition .single := Scenario.next
      (Scenario.final Scenario.keyHeld) (.event 16 (.switchTarget ⟨2⟩))
    let press : BridgeTransition .single := Scenario.next change.after
      (Scenario.keyDown 2 5)
    let report := StandardHidReport.keyboard ⟨#v[0, 0, 5, 0, 0, 0, 0, 0]⟩
    HeldItem.HeldIn press.after.input (.key ⟨4⟩) ∧
      .notify (.ble ⟨2⟩) report .input ∈ press.output ∧
        ¬ HeldItem.ShownBy report (.key ⟨4⟩) := by
  intro change press report
  have emitted : .notify (.ble ⟨2⟩) report .input ∈ press.output := by
    decide +kernel
  have changed : TargetChanged .single change.before change.after :=
    ⟨⟨2⟩, by decide +kernel, by decide +kernel⟩
  have run : BridgeRun .single 2
      (Scenario.trace Scenario.keyHeld ++ change :: [press]) press.after :=
    Run.append_iff.mpr ⟨_, Scenario.run _,
      Scenario.run_next _ _ (Scenario.run_next _ _ (.nil _))⟩
  refine ⟨by decide +kernel, emitted,
    held_input_not_shown run changed (by decide +kernel) ?_
      (List.mem_cons_of_mem _ (List.mem_singleton.mpr rfl)) emitted⟩
  intro taken member
  obtain rfl := List.mem_singleton.mp member
  decide +kernel

end HidShift
