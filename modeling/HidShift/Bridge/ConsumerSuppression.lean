import HidShift.Bridge.Suppression

namespace HidShift

open Lib

def HoldsConsumer (bridge : BridgeState) (interfaceId : InterfaceId)
    (usage : ConsumerUsage) : Prop :=
  (SlotTable.lookup DeviceInputState.interfaceId bridge.inputDevices.devices
    interfaceId).bind (·.consumer.active) = some usage

instance (bridge : BridgeState) (interfaceId : InterfaceId)
    (usage : ConsumerUsage) :
    Decidable (HoldsConsumer bridge interfaceId usage) :=
  inferInstanceAs (Decidable (_ = _))

variable {build : Build}

/-- The call is a frame with which an interface starts to hold the usage. -/
def PressesConsumer (taken : BridgeTransition build)
    (interfaceId : InterfaceId) (usage : ConsumerUsage) : Prop :=
  match taken.event with
  | .event _ (.inputFrame (.standard frame)) =>
      frame.interfaceId = interfaceId ∧ frame.consumer = some ⟨some usage⟩ ∧
        ¬ HoldsConsumer taken.before interfaceId usage
  | _ => False

def PressedElsewhere (taken : BridgeTransition build)
    (interfaceId : InterfaceId) (usage : ConsumerUsage) : Prop :=
  ∃ other, other ≠ interfaceId ∧ PressesConsumer taken other usage

/-- What the frame or the removal of a call makes of the interfaces. -/
def InputAggregator.afterCall (aggregator : InputAggregator) :
    BridgeCall build → InputAggregator
  | .event _ (.inputFrame (.standard frame)) => (aggregator.applyFrame frame).1
  | .event _ (.usbDeviceRemoved interfaceId) =>
      (aggregator.removeInterface interfaceId).1
  | .event _ (.resetInputDevice deviceId) =>
      (aggregator.removeDevice deviceId).1
  | _ => aggregator

/-- A usage the interface already holds becomes the newest again, after
another one was, and no other interface presses it. -/
def Uncovers (taken : BridgeTransition build) (interfaceId : InterfaceId)
    (usage : ConsumerUsage) : Prop :=
  HoldsConsumer taken.before interfaceId usage ∧
    taken.before.input.consumer.active ≠ some usage ∧
    (taken.before.inputDevices.afterCall
      taken.event).aggregate.consumer.active = some usage ∧
    ¬ PressedElsewhere taken interfaceId usage

def UsageHidden (bridge : BridgeState) (usage : ConsumerUsage) : Prop :=
  bridge.input.consumer.active = some usage →
    bridge.suppression.consumer.active = some usage

theorem pruneConsumer_hidden (active : consumer.active = some usage)
    (hidden : suppression.active = some usage) :
    (BridgeState.pruneConsumer consumer suppression).active = some usage := by
  simp only [BridgeState.pruneConsumer]
  rw [if_neg (by rw [active, hidden]; exact not_not.mpr rfl)]
  exact hidden

theorem ConsumerPart.hidden
    (part : ConsumerPart build bridge aggregate carried consumer suppression
      out) (active : consumer.active = some usage)
    (hidden : bridge.suppression.consumer.active = some usage) :
    suppression.active = some usage := by
  cases part with
  | absent => exact hidden
  | present => exact pruneConsumer_hidden active hidden

theorem visibleConsumer_hidden
    (hidden : consumer.active = some usage → suppression.active = some usage) :
    ¬ (BridgeState.consumerReport (BridgeState.visibleConsumer consumer
      suppression)).Carries usage := by
  intro carried
  cases visible : BridgeState.visibleConsumer consumer suppression with
  | none =>
      rw [visible] at carried
      exact ConsumerReport.not_carries_release usage carried
  | some shown =>
      rw [visible] at carried
      obtain rfl := ConsumerReport.carries_fromUsage carried
      have active := visibleConsumer_eq_some visible
      rw [BridgeState.visibleConsumer, if_pos (active.trans
        (hidden active).symm)] at visible
      cases visible

theorem not_carries_neutral {report : StandardHidReport}
    (neutral : report.IsNeutral) (same : report = .consumer consumer)
    (usage : ConsumerUsage) : ¬ consumer.Carries usage := by
  subst same
  have released : consumer = .release := neutral
  rw [released]
  exact ConsumerReport.not_carries_release usage

theorem BridgeStep.usageHidden (step : BridgeStep build bridge event sent next)
    (hidden : UsageHidden bridge usage)
    (still : next.input.consumer.active = some usage →
      bridge.input.consumer.active = some usage) :
    UsageHidden next usage ∧ ∀ notification ∈ sent, ∀ report,
      notification.report = .consumer report → ¬ report.Carries usage := by
  cases step with
  | quiet same =>
      refine ⟨?_, by simp⟩
      rw [UsageHidden, same.input, same.suppression]
      exact hidden
  | frame _ _ applied _ =>
      obtain ⟨keyboard, mouse, consumer⟩ := applied
      have next_hidden : UsageHidden next usage := by
        intro active
        exact consumer.hidden active (hidden (still active))
      refine ⟨next_hidden, fun notification member report same => ?_⟩
      simp only [notifications_append, List.mem_append] at member
      rcases member with fromKeyboard | fromMouse | fromConsumer
      · rw [(keyboard.sent fromKeyboard).2] at same
        cases same
      · obtain ⟨-, movement, reported⟩ := mouse.sent fromMouse
        rw [reported] at same
        cases same
      · rw [(consumer.sent fromConsumer).2] at same
        cases same
        exact visibleConsumer_hidden next_hidden
  | detach _ _ applied _ =>
      cases applied with
      | unseen _ same =>
          refine ⟨fun active => ?_, by simp⟩
          rw [same]
          exact hidden (still active)
      | seen _ pruned =>
          refine ⟨fun active => ?_, fun notification member report same => ?_⟩
          · rw [pruned.consumer]
            exact pruneConsumer_hidden active (hidden (still active))
          · simp only [BridgeState.detachReports, BridgeState.detachKeyboard,
              BridgeState.detachMouse, BridgeState.detachConsumer,
              notifications_append, List.mem_append] at member
            rcases member with fromKeyboard | fromMouse | fromConsumer
            · obtain ⟨-, rfl⟩ := mem_notifyIf.mp fromKeyboard
              cases same
            · obtain ⟨-, rfl⟩ := mem_notifyIf.mp fromMouse
              cases same
            · -- The report is sent only when the newest usage changed.
              obtain ⟨changed, rfl⟩ := mem_notifyIf.mp fromConsumer
              cases same
              intro carried
              cases active : next.input.consumer.active with
              | none =>
                  rw [active] at carried
                  exact ConsumerReport.not_carries_release usage carried
              | some shown =>
                  rw [active] at carried
                  obtain rfl := ConsumerReport.carries_fromUsage carried
                  simp [active, still active] at changed
  | retargetBle _ captured _ _ _ released =>
      refine ⟨?_, fun notification member report same => ?_⟩
      · rw [UsageHidden, captured.input, captured.suppression]
        exact id
      · cases released with
        | told =>
            exact not_carries_neutral (mem_releaseActive member).2 same usage
        | lost => cases member
  | retargetOutput _ captured _ _ neutral _ =>
      refine ⟨?_, fun notification member report same => ?_⟩
      · rw [UsageHidden, captured.input, captured.suppression]
        exact id
      · exact not_carries_neutral (neutral notification member) same usage
  | clear same =>
      refine ⟨?_, fun notification member report reported => ?_⟩
      · rw [UsageHidden, same.input, same.suppression]
        exact hidden
      · split at member
        · exact not_carries_neutral (mem_releaseReports member).2.1 reported
            usage
        · cases member
  | wiredReset _ same =>
      refine ⟨?_, fun notification member report reported => ?_⟩
      · rw [UsageHidden, same.input, same.suppression]
        exact hidden
      · exact not_carries_neutral (mem_wiredReset member).2 reported usage

theorem Performs.afterCall (performed : Performs build bridge call out next)
    (changed : next.input.consumer.active ≠ bridge.input.consumer.active) :
    next.inputDevices = bridge.inputDevices.afterCall call := by
  have unmoved : next.input = bridge.input →
      next.inputDevices = bridge.inputDevices.afterCall call :=
    fun same => absurd (by rw [same]) changed
  rcases perform_cases performed with ⟨rfl, -⟩ | ⟨capacity, event, rfl, step⟩ |
    ⟨-, restarted⟩
  · exact absurd rfl changed
  · generalize notifications out = sent at step
    cases step with
    | quiet same => exact unmoved same.input
    | frame preparation devices _ _ =>
        simp only [InputAggregator.afterCall, InputAggregator.applyFrame,
          preparation]
        exact devices
    | detach removal _ _ _ =>
        generalize next.inputDevices = devices at removal
        cases removal <;> rfl
    | retargetBle _ captured => exact unmoved captured.input
    | retargetOutput _ captured => exact unmoved captured.input
    | clear same => exact unmoved same.input
    | wiredReset _ same => exact unmoved same.input
  · exact unmoved restarted.captured.input

theorem Performs.usageHidden
    (performed : Performs build taken.before taken.event taken.output
      taken.after) (sound : InputSound taken.before)
    (hidden : UsageHidden taken.before usage)
    (holds : HoldsConsumer taken.before interfaceId usage)
    (covered : ¬ Uncovers taken interfaceId usage)
    (notPressed : ¬ PressedElsewhere taken interfaceId usage) :
    UsageHidden taken.after usage ∧
      ∀ notification ∈ notifications taken.output, ∀ report,
        notification.report = .consumer report → ¬ report.Carries usage := by
  have still : taken.after.input.consumer.active = some usage →
      taken.before.input.consumer.active = some usage := by
    intro active
    by_contra other
    refine covered ⟨holds, other, ?_, notPressed⟩
    have changed : taken.after.input.consumer.active ≠
        taken.before.input.consumer.active := by
      rw [active]
      exact Ne.symm other
    rw [← performed.afterCall changed, ← (performed.inputSound sound).consumer]
    exact active
  rcases perform_cases performed with ⟨same, silent⟩ | ⟨_, _, -, step⟩ |
    ⟨silent, restarted⟩
  · rw [same, silent]
    exact ⟨hidden, by simp⟩
  · exact step.usageHidden hidden still
  · rw [silent, UsageHidden, restarted.captured.input,
      restarted.captured.suppression]
    exact ⟨id, by simp⟩

/-- Along a run that never uncovers it, a held usage is reported only after
another interface pressed it. -/
theorem usage_not_carried_along
    (run : Run (Performs build) start history finish) (sound : InputSound start)
    (hidden : UsageHidden start usage)
    (holds : ∀ taken ∈ history, HoldsConsumer taken.before interfaceId usage)
    (covered : ∀ taken ∈ history, ¬ Uncovers taken interfaceId usage)
    (member : taken ∈ history)
    (sent : notification ∈ notifications taken.output) {report : ConsumerReport}
    (reported : notification.report =
      .consumer report) (carries : report.Carries usage) :
    ∃ press ∈ history, PressedElsewhere press interfaceId usage := by
  induction run with
  | nil => cases member
  | @cons start next finish call out history performed rest ih =>
      by_cases pressed : PressedElsewhere ⟨start, call, out, next⟩ interfaceId
          usage
      · exact ⟨_, List.mem_cons_self .., pressed⟩
      · have first := List.mem_cons_self (a := (⟨start, call, out, next⟩ :
          BridgeTransition build)) (l := history)
        obtain ⟨nextHidden, silent⟩ := Performs.usageHidden performed sound
          hidden (holds _ first) (covered _ first) pressed
        rcases List.mem_cons.mp member with rfl | later
        · exact absurd carries (silent notification sent report reported)
        · obtain ⟨press, pressMember, found⟩ := ih
            (performed.inputSound sound) nextHidden
            (fun taken member => holds taken (List.mem_cons_of_mem _ member))
            (fun taken member => covered taken (List.mem_cons_of_mem _ member))
            later
          exact ⟨press, List.mem_cons_of_mem _ pressMember, found⟩

/-- The reports of the last call show a usage that one interface has held since
the target changed only if another interface has pressed it since. -/
def ConsumerKept (change last : BridgeTransition build)
    (since : List (BridgeTransition build)) (interfaceId : InterfaceId)
    (usage : ConsumerUsage) : Prop :=
  HoldsConsumer change.before interfaceId usage →
    (∀ taken ∈ since ++ [last], HoldsConsumer taken.before interfaceId usage) →
    ∀ target report reason,
      .notify target (.consumer report) reason ∈ last.output →
        report.Carries usage →
          ∃ press ∈ since ++ [last], PressedElsewhere press interfaceId usage

/-- Held consumer input does not leak as long as no call uncovers it. -/
theorem held_consumer_not_carried {hosts : Nat}
    {earlier since : List (BridgeTransition build)}
    {change last : BridgeTransition build} {finish : BridgeState}
    (run : BridgeRun build hosts (earlier ++ change :: (since ++ [last]))
      finish)
    (changed : TargetChanged build change.before change.after)
    (interfaceId : InterfaceId) (usage : ConsumerUsage)
    (covered : ∀ taken ∈ since ++ [last], ¬ Uncovers taken interfaceId usage) :
    ConsumerKept change last since interfaceId usage := by
  intro _ holds target report reason emitted carries
  obtain ⟨first, performed, rest⟩ := run.split_at
  have captured := performed.captured changed
  have hidden : UsageHidden change.after usage := by
    rw [UsageHidden, captured.input, captured.suppression]
    exact id
  have sent : ⟨target, .consumer report, reason⟩ ∈
      notifications last.output := mem_notifications.mpr emitted
  exact usage_not_carried_along rest
    (performed.inputSound (BridgeRun.inputSound first)) hidden holds covered
    (List.mem_append_right _ (List.mem_singleton.mpr rfl)) sent rfl carries

def Scenario.usageHeld : List (BridgeCall .single) :=
  connect ⟨1⟩ ++ connect ⟨2⟩ ++ [.event 16 (.switchTarget ⟨1⟩),
    consumer 1 (some ⟨0xe9⟩)]

/-- The input moves to the second host, another interface presses and releases
another usage, and the held one comes back. -/
theorem held_consumer_leaks :
    ¬ ∀ (earlier since : List (BridgeTransition .single))
      (change last : BridgeTransition .single) (finish : BridgeState),
        BridgeRun .single 2 (earlier ++ change :: (since ++ [last])) finish →
        TargetChanged .single change.before change.after →
        ∀ interfaceId usage,
          ConsumerKept change last since interfaceId usage := by
  intro always
  let change : BridgeTransition .single := Scenario.next
    (Scenario.final Scenario.usageHeld) (.event 16 (.switchTarget ⟨2⟩))
  let press : BridgeTransition .single := Scenario.next change.after
    (Scenario.consumer 2 (some ⟨0xea⟩))
  let release : BridgeTransition .single := Scenario.next press.after
    (Scenario.consumer 2 none)
  have run : BridgeRun .single 2 (Scenario.trace Scenario.usageHeld ++
      change :: ([press] ++ [release])) release.after :=
    Run.append_iff.mpr ⟨_, Scenario.run _, Scenario.run_next _ _
      (Scenario.run_next _ _ (Scenario.run_next _ _ (.nil _)))⟩
  obtain ⟨taken, member, other, -, pressed⟩ := always _ _ _ _ _ run
    ⟨⟨2⟩, by decide +kernel, by decide +kernel⟩ ⟨1⟩ ⟨0xe9⟩ (by decide +kernel)
    (by decide +kernel) (.ble ⟨2⟩) (.fromUsage ⟨0xe9⟩) .input
    (by decide +kernel) (by decide)
  -- Neither call presses the usage that is reported.
  rcases List.mem_cons.mp member with rfl | later
  · obtain ⟨-, usage, -⟩ := pressed
    cases usage
  · obtain rfl := List.mem_singleton.mp later
    obtain ⟨-, usage, -⟩ := pressed
    cases usage

/-- Without the other interface the held usage stays hidden, also when its own
interface repeats it. -/
theorem held_consumer_not_carried_usageHeld :
    let change : BridgeTransition .single := Scenario.next
      (Scenario.final Scenario.usageHeld) (.event 16 (.switchTarget ⟨2⟩))
    let repeated : BridgeTransition .single := Scenario.next change.after
      (Scenario.consumer 1 (some ⟨0xe9⟩))
    .notify (.ble ⟨2⟩) (.consumer .release) .input ∈ repeated.output ∧
      ConsumerKept change repeated [] ⟨1⟩ ⟨0xe9⟩ := by
  intro change repeated
  have run : BridgeRun .single 2 (Scenario.trace Scenario.usageHeld ++
      change :: ([] ++ [repeated])) repeated.after :=
    Run.append_iff.mpr ⟨_, Scenario.run _,
      Scenario.run_next _ _ (Scenario.run_next _ _ (.nil _))⟩
  refine ⟨by decide +kernel, held_consumer_not_carried run
    ⟨⟨2⟩, by decide +kernel, by decide +kernel⟩ ⟨1⟩ ⟨0xe9⟩ ?_⟩
  have newest : repeated.before.input.consumer.active = some ⟨0xe9⟩ := by
    decide +kernel
  intro taken member uncovers
  obtain rfl := List.mem_singleton.mp member
  exact uncovers.2.1 newest

end HidShift
