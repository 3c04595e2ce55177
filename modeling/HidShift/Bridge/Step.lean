import HidShift.Bridge.Handle
import HidShift.Lib.Run

namespace HidShift

open Lib InPlace

structure Notification where
  target : OutputTarget
  report : StandardHidReport
  reason : NotifyReason

def BridgeAction.notification? : BridgeAction → Option Notification
  | .notify target report reason => some ⟨target, report, reason⟩
  | _ => none

def notifications (list : List BridgeAction) : List Notification :=
  list.filterMap BridgeAction.notification?

@[simp] theorem notifications_nil : notifications [] = [] := rfl

@[simp] theorem notifications_append (first second : List BridgeAction) :
    notifications (first ++ second) =
      notifications first ++ notifications second :=
  List.filterMap_append

theorem mem_notifications :
    notification ∈ notifications list ↔
      .notify notification.target notification.report notification.reason ∈
        list := by
  rw [notifications, List.mem_filterMap]
  constructor
  · rintro ⟨action, member, found⟩
    cases action <;> simp only [BridgeAction.notification?, reduceCtorEq,
      Option.some.injEq] at found
    subst found
    exact member
  · exact fun member => ⟨_, member, rfl⟩

@[simp] theorem notifications_usbKeyboardLeds (bridge : BridgeState)
    (leds : KeyboardLedState) :
    notifications (bridge.usbKeyboardLeds leds) = [] := by
  simp [notifications, BridgeState.usbKeyboardLeds, List.filterMap_eq_nil_iff,
    BridgeAction.notification?]

@[simp] theorem notifications_activeHostLeds (build : Build)
    (bridge : BridgeState) :
    notifications (bridge.activeHostLeds build) = [] := by
  simp only [BridgeState.activeHostLeds]
  split
  · exact notifications_usbKeyboardLeds _ _
  · split
    · rfl
    · exact notifications_usbKeyboardLeds _ _

variable {actions : Nat} {before after : BridgeWork actions}

def BridgeWork.sent (work : BridgeWork actions) : List Notification :=
  notifications work.out.toList

section

@[simp] theorem succeeds_pushAction :
    Succeeds (pushAction action) before result after ↔
      after.bridge = before.bridge ∧
        after.out.toList = before.out.toList ++ [action] := by
  simp only [pushAction, succeeds_bind, succeeds_get]
  rw [← BoundedVec.push?_eq_some]
  cases pushed : before.out.push? action with
  | none => simp [pushed]
  | some out =>
      constructor
      · rintro ⟨_, _, ⟨rfl, rfl⟩, stored⟩
        rw [pushed] at stored
        obtain rfl := succeeds_set.mp stored
        exact ⟨rfl, rfl⟩
      · rintro ⟨sameBridge, sameOut⟩
        refine ⟨_, _, ⟨rfl, rfl⟩, ?_⟩
        rw [pushed]
        apply succeeds_set.mpr
        cases after
        cases sameBridge
        cases sameOut
        rfl

theorem succeeds_pushActions
    (success : Succeeds (pushActions list) before result after) :
    after.bridge = before.bridge ∧
      after.out.toList = before.out.toList ++ list := by
  induction list generalizing before with
  | nil =>
      obtain ⟨-, rfl⟩ := succeeds_pure.mp success
      exact ⟨rfl, (List.append_nil _).symm⟩
  | cons head tail ih =>
      obtain ⟨_, middle, pushed, rest⟩ := succeeds_bind.mp success
      obtain ⟨headBridge, headOut⟩ := succeeds_pushAction.mp pushed
      obtain ⟨tailBridge, tailOut⟩ := ih rest
      refine ⟨tailBridge.trans headBridge, ?_⟩
      rw [tailOut, headOut, List.append_assoc]
      rfl

variable {result : Unit}

theorem sent_pushActions
    (success : Succeeds (pushActions list) before result after) :
    after.bridge = before.bridge ∧
      after.sent = before.sent ++ notifications list := by
  obtain ⟨sameBridge, out⟩ := succeeds_pushActions success
  exact ⟨sameBridge, by rw [BridgeWork.sent, out, notifications_append]; rfl⟩

theorem sent_pushAction (quiet : action.notification? = none)
    (success : Succeeds (pushAction action) before result after) :
    after.bridge = before.bridge ∧ after.sent = before.sent := by
  obtain ⟨sameBridge, out⟩ := succeeds_pushAction.mp success
  refine ⟨sameBridge, ?_⟩
  rw [BridgeWork.sent, out, notifications_append]
  simp [notifications, quiet, BridgeWork.sent]

theorem sent_pushFrom (success : Succeeds (pushFrom emit) before result after) :
    after.bridge = before.bridge ∧
      after.sent = before.sent ++ notifications (emit before.bridge) := by
  simp only [pushFrom, succeeds_bind, succeeds_get] at success
  obtain ⟨_, _, ⟨rfl, rfl⟩, pushed⟩ := success
  exact sent_pushActions pushed

theorem sent_pushStatus (success : Succeeds pushStatus before result after) :
    after.bridge = before.bridge ∧ after.sent = before.sent := by
  obtain ⟨sameBridge, sent⟩ := sent_pushFrom success
  exact ⟨sameBridge, sent.trans (List.append_nil _)⟩

theorem sent_modifyBridge
    (success : Succeeds (modifyBridge update) before result after) :
    after.bridge = update before.bridge ∧ after.sent = before.sent := by
  obtain rfl := succeeds_modify.mp success
  exact ⟨rfl, rfl⟩

theorem sent_when [Decidable condition]
    (quiet : ∀ {result}, Succeeds program before result after → after.bridge =
      before.bridge ∧ after.sent = before.sent)
    (success : Succeeds (InPlace.when condition program) before result after) :
    after.bridge = before.bridge ∧ after.sent = before.sent := by
  rcases succeeds_when.mp success with ⟨-, taken⟩ | ⟨-, rfl⟩
  · exact quiet taken
  · exact ⟨rfl, rfl⟩

theorem sent_updateHosts
    (success : Succeeds (updateHosts operation) before value after) :
    ∃ hosts, operation before.bridge.hosts = .ok (hosts, value) ∧
      after.bridge = { before.bridge with hosts := hosts } ∧
        after.sent = before.sent := by
  simp only [updateHosts, succeeds_bind, succeeds_get, succeeds_lift,
    succeeds_pure] at success
  obtain ⟨_, _, ⟨rfl, rfl⟩, ⟨hosts, _⟩, _, ⟨done, rfl⟩, _, _, modified, rfl,
    rfl⟩ := success
  obtain ⟨bridge, sent⟩ := sent_modifyBridge modified
  exact ⟨hosts, done, bridge, sent⟩

theorem sent_refreshAvailability
    (success : Succeeds (refreshAvailability build) before result after) :
    (∃ availability, after.bridge = { before.bridge with
        outputTarget := match build with
          | .dual => before.bridge.outputTarget.setAvailability availability
          | .single => before.bridge.outputTarget }) ∧
      after.sent = before.sent := by
  cases build with
  | dual =>
      obtain ⟨bridge, sent⟩ := sent_modifyBridge success
      exact ⟨⟨_, bridge⟩, sent⟩
  | single =>
      obtain ⟨-, rfl⟩ := succeeds_pure.mp success
      exact ⟨⟨.unavailable, rfl⟩, rfl⟩

def BridgeState.captured (bridge : BridgeState) : BridgeState :=
  { bridge with suppression :=
    ⟨⟨bridge.input.keyboard.modifiers, bridge.input.keyboard.keys⟩,
      bridge.input.mouse.buttons, bridge.input.consumer⟩ }

@[simp] theorem captureSuppression_eq (bridge : BridgeState) :
    bridge.captureSuppression = .ok bridge.captured := by
  simp only [BridgeState.captureSuppression]
  rw [captureFrom_eq]
  rfl

theorem sent_capture (success : Succeeds capture before result after) :
    after.bridge = before.bridge.captured ∧ after.sent = before.sent := by
  simp only [capture, succeeds_bind, succeeds_get, succeeds_lift,
    captureSuppression_eq, Except.ok.injEq] at success
  obtain ⟨_, _, ⟨rfl, rfl⟩, _, _, ⟨rfl, rfl⟩, modified⟩ := success
  exact sent_modifyBridge modified

end

structure SameInput (bridge next : BridgeState) : Prop where
  input : next.input = bridge.input
  inputDevices : next.inputDevices = bridge.inputDevices
  suppression : next.suppression = bridge.suppression

structure SameTarget (bridge next : BridgeState) : Prop where
  hosts : next.hosts = bridge.hosts
  outputTarget : next.outputTarget = bridge.outputTarget

inductive KeyboardPart (build : Build) (bridge : BridgeState)
    (aggregate : PhysicalInputState) :
    Option KeyboardFrame → PhysicalKeyboardState → KeyboardSuppression →
      List BridgeAction → Prop
  | absent : KeyboardPart build bridge aggregate none bridge.input.keyboard
      bridge.suppression.keyboard []
  | present {frame : KeyboardFrame} {keyboard : PhysicalKeyboardState}
      {pruned suppression : KeyboardSuppression} {total : Nat}
      (applied : bridge.input.keyboard.applyState aggregate.keyboard
        bridge.suppression.keyboard = .ok (keyboard, pruned))
      (window : pruned.suppressVisibleAfter keyboard keyboard6KroKeyCapacity =
        .ok (suppression, total)) :
      KeyboardPart build bridge aggregate (some frame) keyboard suppression
        (bridge.keyboardReports build keyboard suppression)

inductive MousePart (build : Build) (bridge : BridgeState)
    (aggregate : PhysicalInputState) :
    Option MouseFrame → PhysicalMouseState → MouseButtons →
      List BridgeAction → Prop
  | absent : MousePart build bridge aggregate none bridge.input.mouse
      bridge.suppression.mouseButtons []
  | present {frame : MouseFrame} :
      MousePart build bridge aggregate (some frame) aggregate.mouse
        (bridge.suppression.mouseButtons.intersection aggregate.mouse.buttons)
        (bridge.mouseReports build aggregate.mouse
          (bridge.suppression.mouseButtons.intersection
            aggregate.mouse.buttons) frame.movement)

inductive ConsumerPart (build : Build) (bridge : BridgeState)
    (aggregate : PhysicalInputState) :
    Option ConsumerFrame → ConsumerState → ConsumerState →
      List BridgeAction → Prop
  | absent : ConsumerPart build bridge aggregate none bridge.input.consumer
      bridge.suppression.consumer []
  | present {frame : ConsumerFrame} :
      ConsumerPart build bridge aggregate (some frame) aggregate.consumer
        (BridgeState.pruneConsumer aggregate.consumer
          bridge.suppression.consumer)
        (bridge.consumerReports build aggregate.consumer
          (BridgeState.pruneConsumer aggregate.consumer
            bridge.suppression.consumer))

inductive FrameApplied (build : Build) (bridge : BridgeState)
    (aggregate : PhysicalInputState) (frame : StandardInputFrame) :
    PhysicalInputState → SuppressionState → List BridgeAction → Prop
  | intro {input : PhysicalInputState} {suppression : SuppressionState}
      {keyboardOut mouseOut consumerOut : List BridgeAction}
      (keyboard : KeyboardPart build bridge aggregate frame.keyboard
        input.keyboard suppression.keyboard keyboardOut)
      (mouse : MousePart build bridge aggregate frame.mouse
        input.mouse suppression.mouseButtons mouseOut)
      (consumer : ConsumerPart build bridge aggregate frame.consumer
        input.consumer suppression.consumer consumerOut) :
      FrameApplied build bridge aggregate frame input suppression
        (keyboardOut ++ (mouseOut ++ consumerOut))

/-- What one part of a frame is reported as: one report, to the target that
takes its kind. -/
inductive PartReport (build : Build) (bridge : BridgeState)
    (kind : ReportKind) : Bool → List BridgeAction → Prop
  | none {carried : Bool}
      (untaken : carried = true → bridge.readyActiveTarget build kind = none) :
      PartReport build bridge kind carried []
  | one {target : OutputTarget} {report : StandardHidReport}
      {reason : NotifyReason}
      (ready : bridge.readyActiveTarget build kind = some target)
      (same : report.kind = kind) :
      PartReport build bridge kind true [.notify target report reason]

section

variable {build : Build} {bridge : BridgeState}
  {aggregate input : PhysicalInputState} {out : List BridgeAction}

theorem KeyboardPart.reported
    (part : KeyboardPart build bridge aggregate carried keyboard suppression
      out) : PartReport build bridge .keyboard carried.isSome out := by
  cases part with
  | absent => exact .none fun carried => by cases carried
  | present =>
      unfold BridgeState.keyboardReports
      split
      · exact .one ‹_› rfl
      · exact .none fun _ => ‹_›

theorem MousePart.reported
    (part : MousePart build bridge aggregate carried mouse suppression out) :
    PartReport build bridge .mouse carried.isSome out := by
  cases part with
  | absent => exact .none fun carried => by cases carried
  | present =>
      unfold BridgeState.mouseReports
      split
      · exact .one ‹_› rfl
      · exact .none fun _ => ‹_›

theorem ConsumerPart.reported
    (part : ConsumerPart build bridge aggregate carried consumer suppression
      out) : PartReport build bridge .consumer carried.isSome out := by
  cases part with
  | absent => exact .none fun carried => by cases carried
  | present =>
      unfold BridgeState.consumerReports
      split
      · exact .one ‹_› rfl
      · exact .none fun _ => ‹_›

theorem FrameApplied.ofParts
    (applied : FrameApplied build bridge aggregate frame input suppression out)
    {shown : List BridgeAction → Prop}
    (append : ∀ first second, shown first → shown second →
      shown (first ++ second))
    (each : ∀ kind carried part, PartReport build bridge kind carried part →
      shown part) : shown out := by
  obtain ⟨keyboard, mouse, consumer⟩ := applied
  exact append _ _ (each _ _ _ keyboard.reported)
    (append _ _ (each _ _ _ mouse.reported) (each _ _ _ consumer.reported))

end

inductive Removal (aggregator : InputAggregator) {build : Build} :
    BridgeEvent build → InputAggregator → Prop
  | interface (interfaceId : InterfaceId) :
      Removal aggregator (.usbDeviceRemoved interfaceId)
        (aggregator.removeInterface interfaceId).1
  | device (deviceId : DeviceId) :
      Removal aggregator (.resetInputDevice deviceId)
        (aggregator.removeDevice deviceId).1

structure SuppressionPruned (bridge next : BridgeState) : Prop where
  modifiers : next.suppression.keyboard.modifiers =
    bridge.suppression.keyboard.modifiers &&& next.input.keyboard.modifiers
  keys : ∀ key, key ∈ next.suppression.keyboard.keys.toList ↔
    key ∈ bridge.suppression.keyboard.keys.toList ∧
      key ∈ next.input.keyboard.keys.toList
  keptInOrder : next.suppression.keyboard.keys.toList.Sublist
    bridge.suppression.keyboard.keys.toList
  mouseButtons : next.suppression.mouseButtons =
    bridge.suppression.mouseButtons.intersection next.input.mouse.buttons
  consumer : next.suppression.consumer = BridgeState.pruneConsumer
    next.input.consumer bridge.suppression.consumer

def BridgeState.detachReports (next : BridgeState) (hostId : HostId)
    (previousInput : PhysicalInputState) (reason : NotifyReason) :
    List BridgeAction :=
  next.detachKeyboard hostId previousInput reason ++
    (next.detachMouse hostId previousInput reason ++
      next.detachConsumer hostId previousInput reason)

inductive DetachApplied (bridge next : BridgeState) :
    List BridgeAction → Prop
  | unseen (inactive : bridge.hosts.activeTarget = none)
      (suppression : next.suppression = bridge.suppression) :
      DetachApplied bridge next []
  | seen {hostId : HostId} (active : bridge.hosts.activeTarget = some hostId)
      (pruned : SuppressionPruned bridge next) :
      DetachApplied bridge next (next.detachReports hostId bridge.input
        .usbDeviceRemovedRelease)

structure Captured (bridge next : BridgeState) : Prop where
  input : next.input = bridge.input
  inputDevices : next.inputDevices = bridge.inputDevices
  suppression : next.suppression = bridge.captured.suppression

inductive PreviousReleased (bridge next : BridgeState) :
    List BridgeAction → Prop
  | told : PreviousReleased bridge next
      (bridge.releaseActive (bridge.hosts.activeTarget.map .ble)
        (some .targetSwitchRelease))
  | lost {hostId : HostId} (active : bridge.hosts.activeTarget = some hostId)
      (gone : ∀ kind, next.canSend hostId kind = false) :
      PreviousReleased bridge next []

inductive BridgeStep (build : Build) (bridge : BridgeState) :
    BridgeEvent build → List Notification → BridgeState → Prop
  /-- Links, names, LEDs, pairing or availability. -/
  | quiet {event : BridgeEvent build} {next : BridgeState}
      (same : SameInput bridge next)
      (activeTarget : next.hosts.activeTarget = bridge.hosts.activeTarget)
      (selected :
        next.outputTarget.selected = bridge.outputTarget.selected) :
      BridgeStep build bridge event [] next
  | frame {frame : StandardInputFrame} {prepared : PreparedInputFrame}
      {next : BridgeState} {out : List BridgeAction}
      (preparation : bridge.inputDevices.prepareFrame frame = .ok prepared)
      (devices : next.inputDevices = bridge.inputDevices.commitFrame prepared)
      (applied : FrameApplied build bridge
        (prepared.aggregateOver bridge.inputDevices) frame next.input
        next.suppression out)
      (same : SameTarget bridge next) :
      BridgeStep build bridge (.inputFrame (.standard frame))
        (notifications out) next
  | detach {event : BridgeEvent build} {next : BridgeState}
      {out : List BridgeAction}
      (removal : Removal bridge.inputDevices event next.inputDevices)
      (input : next.input = next.inputDevices.aggregate)
      (applied : DetachApplied bridge next out)
      (same : SameTarget bridge next) :
      BridgeStep build bridge event (notifications out) next
  | retargetBle {event : BridgeEvent build} {next : BridgeState}
      {target : HostId} {out : List BridgeAction} (single : build = .single)
      (captured : Captured bridge next)
      (changed : bridge.hosts.activeTarget ≠ some target)
      (activeTarget : next.hosts.activeTarget = some target)
      (selected : next.outputTarget.selected = bridge.outputTarget.selected)
      (released : PreviousReleased bridge next out) :
      BridgeStep build bridge event (notifications out) next
  | retargetOutput {event : BridgeEvent build} {next : BridgeState}
      {target : OutputTarget} {sent : List Notification} (dual : build = .dual)
      (captured : Captured bridge next)
      (changed : bridge.outputTarget.selected ≠ target)
      (selected : next.outputTarget.selected = target)
      (neutral : ∀ notification ∈ sent, notification.report.IsNeutral)
      (addressed : ∀ notification ∈ sent,
        bridge.outputTarget.active = some notification.target ∨
          notification.target = .wired ∧ target = .wired) :
      BridgeStep build bridge event sent next
  | clear {hostId : HostId} {next : BridgeState} (same : SameInput bridge next)
      (hosts : next.hosts = (bridge.hosts.clearHost hostId).1)
      (outputTarget : next.outputTarget = bridge.outputTarget) :
      BridgeStep build bridge (.clearHost hostId)
        (notifications (if bridge.hosts.activeTarget = some hostId then
          bridge.releaseReports hostId .safetyRelease else [])) next
  | wiredReset {event : BridgeEvent build} {next : BridgeState}
      (dual : build = .dual) (same : SameInput bridge next)
      (activeTarget : next.hosts.activeTarget = bridge.hosts.activeTarget)
      (selected : next.outputTarget.selected = bridge.outputTarget.selected)
      (availability : OutputTargetAvailability) :
      BridgeStep build bridge event
        (notifications (next.wiredReset availability)) next

end HidShift
