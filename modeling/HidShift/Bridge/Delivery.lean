import HidShift.Bridge.Inversion

namespace HidShift

open Lib

def StandardHidReport.HeldIn (input : PhysicalInputState) :
    StandardHidReport → Prop
  | .keyboard report =>
      (∀ key, report.Carries key → key ∈ input.keyboard.keys) ∧
        ∀ bit, report.modifiers.getLsbD bit = true →
          input.keyboard.modifiers.getLsbD bit = true
  | .mouse report => ∀ bit, report.buttons.getLsbD bit = true →
      input.mouse.buttons.bits.getLsbD bit = true
  | .consumer report => ∀ usage, report.Carries usage →
      input.consumer.active = some usage

theorem StandardHidReport.IsNeutral.heldIn {report : StandardHidReport}
    (neutral : report.IsNeutral) (input : PhysicalInputState) :
    report.HeldIn input := by
  cases report with
  | keyboard report =>
      obtain rfl : report = .release := neutral
      refine ⟨fun key carried => ?_, fun bit set => ?_⟩
      · exact absurd carried (Keyboard6KroReport.not_carries_release key)
      · simp at set
  | mouse report =>
      obtain rfl : report = .releaseButtons := neutral
      intro bit set
      simp at set
  | consumer report =>
      obtain rfl : report = .release := neutral
      intro usage carried
      exact absurd carried (ConsumerReport.not_carries_release usage)

def SameKind (previous current : PhysicalInputState) : ReportKind → Prop
  | .keyboard => current.keyboard = previous.keyboard
  | .mouse => current.mouse.buttons = previous.mouse.buttons
  | .consumer => current.consumer.active = previous.consumer.active
  | .keyboardOutput => True

theorem StandardHidReport.HeldIn.of_sameKind {report : StandardHidReport}
    (held : report.HeldIn previous)
    (same : SameKind previous current report.kind) : report.HeldIn current := by
  cases report with
  | keyboard report =>
      have keyboard : current.keyboard = previous.keyboard := same
      rw [HeldIn, keyboard]
      exact held
  | mouse report =>
      have buttons : current.mouse.buttons = previous.mouse.buttons := same
      rw [HeldIn, buttons]
      exact held
  | consumer report =>
      have active : current.consumer.active = previous.consumer.active := same
      rw [HeldIn, active]
      exact held

theorem heldIn_fromPhysicalState (input : PhysicalInputState)
    (suppression : KeyboardSuppression) :
    (StandardHidReport.keyboard (Keyboard6KroReport.fromPhysicalState
      input.keyboard suppression).report).HeldIn input := by
  refine ⟨fun key carried => ?_, fun bit set => ?_⟩
  · obtain ⟨-, shown⟩ :=
      (Keyboard6KroReport.carries_fromPhysicalState _ _ key).mp carried
    exact (List.mem_filter.mp (List.mem_of_mem_take shown)).1
  · rw [Keyboard6KroReport.modifiers_fromPhysicalState,
      BitVec.getLsbD_and, Bool.and_eq_true] at set
    exact set.1

theorem heldIn_fromVisibleState (input : PhysicalInputState)
    (suppression : KeyboardSuppression) :
    (StandardHidReport.keyboard (Keyboard6KroReport.fromVisibleState
      (input.keyboard.visibleAgainst suppression)).report).HeldIn input := by
  obtain ⟨modifiers, -, keys⟩ := visibleAgainst_spec input.keyboard suppression
  refine ⟨fun key carried => ?_, fun bit set => ?_⟩
  · obtain ⟨-, shown⟩ :=
      (Keyboard6KroReport.carries_fromVisibleState _ key).mp carried
    rw [keys] at shown
    exact (List.mem_filter.mp (List.mem_of_mem_take shown)).1
  · rw [Keyboard6KroReport.modifiers_fromVisibleState, modifiers,
      BitVec.getLsbD_and, Bool.and_eq_true] at set
    exact set.1

theorem heldIn_fromFrame (input : PhysicalInputState)
    (suppression : MouseButtons) (movement : MouseMovement) :
    (StandardHidReport.mouse (.fromFrame
      (input.mouse.buttons.without suppression) movement)).HeldIn input := by
  intro bit set
  rw [MouseReport.buttons_fromFrame, MouseButtons.without,
    BitVec.getLsbD_and, Bool.and_eq_true] at set
  exact set.1

theorem heldIn_consumerReport (shown : ∀ usage, visible = some usage →
      input.consumer.active = some usage) :
    (StandardHidReport.consumer
      (BridgeState.consumerReport visible)).HeldIn input := by
  intro usage carried
  cases visible with
  | none => exact absurd carried (ConsumerReport.not_carries_release usage)
  | some active =>
      obtain rfl := ConsumerReport.carries_fromUsage carried
      exact shown _ rfl

section

variable {build : Build} {bridge : BridgeState}
  {aggregate input : PhysicalInputState} {suppression : SuppressionState}
  {frame : StandardInputFrame} {out : List BridgeAction}

variable {notification : Notification}

theorem mem_keyboardReports {keyboard : PhysicalKeyboardState}
    {suppression : KeyboardSuppression}
    (member : notification ∈ notifications (bridge.keyboardReports build
      keyboard suppression)) :
    bridge.readyActiveTarget build .keyboard = some notification.target ∧
      notification.report = .keyboard
        (Keyboard6KroReport.fromPhysicalState keyboard suppression).report := by
  unfold BridgeState.keyboardReports at member
  split at member
  · rename_i target ready
    obtain rfl := List.mem_singleton.mp member
    exact ⟨ready, rfl⟩
  · cases member

theorem mem_mouseReports {mouse : PhysicalMouseState}
    {suppression : MouseButtons} {movement : MouseMovement}
    (member : notification ∈ notifications (bridge.mouseReports build mouse
      suppression movement)) :
    bridge.readyActiveTarget build .mouse = some notification.target ∧
      notification.report = .mouse
        (.fromFrame (mouse.buttons.without suppression) movement) := by
  unfold BridgeState.mouseReports at member
  split at member
  · rename_i target ready
    obtain rfl := List.mem_singleton.mp member
    exact ⟨ready, rfl⟩
  · cases member

theorem mem_consumerReports {consumer suppression : ConsumerState}
    (member : notification ∈ notifications (bridge.consumerReports build
      consumer suppression)) :
    bridge.readyActiveTarget build .consumer = some notification.target ∧
      notification.report = .consumer (BridgeState.consumerReport
        (BridgeState.visibleConsumer consumer suppression)) := by
  unfold BridgeState.consumerReports at member
  split at member
  · rename_i target ready
    obtain rfl := List.mem_singleton.mp member
    exact ⟨ready, rfl⟩
  · cases member

theorem visibleConsumer_eq_some {consumer suppression : ConsumerState}
    {usage : ConsumerUsage}
    (visible : BridgeState.visibleConsumer consumer suppression =
      some usage) : consumer.active = some usage := by
  unfold BridgeState.visibleConsumer at visible
  split at visible
  · cases visible
  · exact visible

theorem KeyboardPart.sent {carried : Option KeyboardFrame}
    {keyboard : PhysicalKeyboardState} {suppression : KeyboardSuppression}
    (part : KeyboardPart build bridge aggregate carried keyboard suppression
      out) {notification : Notification}
    (member : notification ∈ notifications out) :
    bridge.readyActiveTarget build .keyboard = some notification.target ∧
      notification.report = .keyboard
        (Keyboard6KroReport.fromPhysicalState keyboard suppression).report := by
  cases part with
  | absent => cases member
  | present => exact mem_keyboardReports member

theorem MousePart.sent {carried : Option MouseFrame}
    {mouse : PhysicalMouseState} {suppression : MouseButtons}
    (part : MousePart build bridge aggregate carried mouse suppression out)
    {notification : Notification}
    (member : notification ∈ notifications out) :
    bridge.readyActiveTarget build .mouse = some notification.target ∧
      ∃ movement, notification.report = .mouse
        (.fromFrame (mouse.buttons.without suppression) movement) := by
  cases part with
  | absent => cases member
  | present =>
      obtain ⟨ready, report⟩ := mem_mouseReports member
      exact ⟨ready, _, report⟩

theorem ConsumerPart.sent {carried : Option ConsumerFrame}
    {consumer suppression : ConsumerState}
    (part : ConsumerPart build bridge aggregate carried consumer suppression
      out) {notification : Notification}
    (member : notification ∈ notifications out) :
    bridge.readyActiveTarget build .consumer = some notification.target ∧
      notification.report = .consumer (BridgeState.consumerReport
        (BridgeState.visibleConsumer consumer suppression)) := by
  cases part with
  | absent => cases member
  | present => exact mem_consumerReports member

theorem FrameApplied.sent_held
    (applied : FrameApplied build bridge aggregate frame input suppression out)
    (member : notification ∈ notifications out) :
    bridge.readyActiveTarget build notification.report.kind =
        some notification.target ∧
      notification.report.HeldIn input := by
  obtain ⟨keyboard, mouse, consumer⟩ := applied
  simp only [notifications_append, List.mem_append] at member
  rcases member with fromKeyboard | fromMouse | fromConsumer
  · obtain ⟨ready, report⟩ := keyboard.sent fromKeyboard
    rw [report]
    exact ⟨ready, heldIn_fromPhysicalState _ _⟩
  · obtain ⟨ready, movement, report⟩ := mouse.sent fromMouse
    rw [report]
    exact ⟨ready, heldIn_fromFrame _ _ _⟩
  · obtain ⟨ready, report⟩ := consumer.sent fromConsumer
    rw [report]
    exact ⟨ready, heldIn_consumerReport fun usage visible =>
      visibleConsumer_eq_some visible⟩

theorem PartReport.uncarried
    (reported : PartReport build bridge kind carried out)
    (ready : bridge.readyActiveTarget build kind = some target)
    (silent : ∀ notification ∈ notifications out,
      ¬ (notification.target = target ∧ notification.report.kind = kind)) :
    ¬ carried = true := by
  intro present
  cases reported with
  | none untaken => cases ready.symm.trans (untaken present)
  | one taken same =>
      cases ready.symm.trans taken
      exact silent _ (List.mem_singleton.mpr rfl) ⟨rfl, same⟩

theorem KeyboardPart.kept
    (part : KeyboardPart build bridge aggregate carried keyboard masked
      out) (absent : ¬ carried.isSome = true) :
    keyboard = bridge.input.keyboard := by
  cases part with
  | absent => rfl
  | present => exact absurd rfl absent

theorem MousePart.kept
    (part : MousePart build bridge aggregate carried mouse masked out)
    (absent : ¬ carried.isSome = true) : mouse = bridge.input.mouse := by
  cases part with
  | absent => rfl
  | present => exact absurd rfl absent

theorem ConsumerPart.kept
    (part : ConsumerPart build bridge aggregate carried consumer masked
      out) (absent : ¬ carried.isSome = true) :
    consumer = bridge.input.consumer := by
  cases part with
  | absent => rfl
  | present => exact absurd rfl absent

theorem FrameApplied.unreported
    (applied : FrameApplied build bridge aggregate frame input suppression
      out) (ready : bridge.readyActiveTarget build kind = some target)
    (silent : ∀ notification ∈ notifications out,
      ¬ (notification.target = target ∧ notification.report.kind = kind)) :
    SameKind bridge.input input kind := by
  obtain ⟨keyboard, mouse, consumer⟩ := applied
  simp only [notifications_append, List.mem_append] at silent
  cases kind with
  | keyboard =>
      have absent := keyboard.reported.uncarried ready
        fun notification member => silent notification (.inl member)
      exact keyboard.kept absent
  | mouse =>
      have absent := mouse.reported.uncarried ready
        fun notification member => silent notification (.inr (.inl member))
      exact congrArg _ (mouse.kept absent)
  | consumer =>
      have absent := consumer.reported.uncarried ready
        fun notification member => silent notification (.inr (.inr member))
      exact congrArg _ (consumer.kept absent)
  | keyboardOutput => trivial

end

section

variable {bridge next : BridgeState} {hostId : HostId}
  {previous : PhysicalInputState} {reason : NotifyReason}

theorem detachReports_held (member : notification ∈ notifications
      (next.detachReports hostId previous reason)) :
    notification.target = .ble hostId ∧
      next.canSend hostId notification.report.kind = true ∧
        notification.report.HeldIn next.input := by
  simp only [BridgeState.detachReports, BridgeState.detachKeyboard,
    BridgeState.detachMouse, BridgeState.detachConsumer,
    notifications_append, List.mem_append] at member
  rcases member with keyboard | mouse | consumer
  · obtain ⟨changed, rfl⟩ := mem_notifyIf.mp keyboard
    exact ⟨rfl, (Bool.and_eq_true_iff.mp changed).1,
      heldIn_fromVisibleState _ _⟩
  · obtain ⟨changed, rfl⟩ := mem_notifyIf.mp mouse
    exact ⟨rfl, (Bool.and_eq_true_iff.mp changed).1, heldIn_fromFrame _ _ _⟩
  · obtain ⟨changed, rfl⟩ := mem_notifyIf.mp consumer
    exact ⟨rfl, (Bool.and_eq_true_iff.mp changed).1,
      heldIn_consumerReport fun _ => id⟩

theorem detachReports_unreported (ready : next.canSend hostId kind = true)
    (silent : ∀ notification ∈ notifications
      (next.detachReports hostId previous reason),
        ¬ (notification.target = .ble hostId ∧
          notification.report.kind = kind)) :
    SameKind previous next.input kind := by
  simp only [BridgeState.detachReports, BridgeState.detachKeyboard,
    BridgeState.detachMouse, BridgeState.detachConsumer,
    notifications_append, List.mem_append] at silent
  by_contra changed
  cases kind with
  | keyboard =>
      have differs : previous.keyboard ≠ next.input.keyboard :=
        fun same => changed same.symm
      exact silent _ (.inl (mem_notifyIf.mpr ⟨by simp [ready, differs], rfl⟩))
        ⟨rfl, rfl⟩
  | mouse =>
      have differs : previous.mouse.buttons ≠ next.input.mouse.buttons :=
        fun same => changed same.symm
      exact silent _ (.inr (.inl
        (mem_notifyIf.mpr ⟨by simp [ready, differs], rfl⟩))) ⟨rfl, rfl⟩
  | consumer =>
      have differs : previous.consumer.active ≠ next.input.consumer.active :=
        fun same => changed same.symm
      exact silent _ (.inr (.inr
        (mem_notifyIf.mpr ⟨by simp [ready, differs], rfl⟩))) ⟨rfl, rfl⟩
  | keyboardOutput => exact changed trivial

end

theorem BridgeStep.sent_held (step : BridgeStep build bridge event sent next)
    (member : notification ∈ sent) : notification.report.HeldIn next.input := by
  cases step with
  | quiet => cases member
  | frame _ _ applied _ => exact (applied.sent_held member).2
  | detach _ _ applied _ =>
      cases applied with
      | unseen => cases member
      | seen => exact (detachReports_held member).2.2
  | retargetBle _ _ _ _ _ released =>
      cases released with
      | told => exact (mem_releaseActive member).2.heldIn _
      | lost => cases member
  | retargetOutput _ _ _ _ neutral _ =>
      exact (neutral notification member).heldIn _
  | clear =>
      split at member
      · exact (mem_releaseReports member).2.1.heldIn _
      · cases member
  | wiredReset => exact (mem_wiredReset member).2.heldIn _

end HidShift
