import HidShift.Bridge.Step

namespace HidShift

open Lib InPlace

variable {actions : Nat} {before after : BridgeWork actions}

theorem NextInput.push_eq_ok {next pushed : NextInput actions}
    {list : List BridgeAction} (success : next.push list = .ok pushed) :
    pushed.input = next.input ∧ pushed.suppression = next.suppression ∧
      pushed.out.toList = next.out.toList ++ list := by
  unfold NextInput.push at success
  cases extended : next.out.extend? list with
  | none => simp [extended] at success
  | some out =>
      simp only [extended, Except.ok.injEq] at success
      subst success
      exact ⟨rfl, rfl, BoundedVec.extend?_eq_some.mp extended⟩

theorem Except.mapInputError_eq_ok {α : Type} {result : Except InputError α}
    {value : α} :
    Except.mapInputError result = .ok value ↔ result = .ok value := by
  cases result <;> simp [Except.mapInputError]

section

variable {build : Build} {bridge : BridgeState}
  {aggregate : PhysicalInputState} {next result : NextInput actions}

theorem withKeyboard_spec (success : next.withPart carried
      (fun _ => bridge.frameKeyboard build aggregate) = .ok result)
    (input : next.input.keyboard = bridge.input.keyboard)
    (suppression : next.suppression.keyboard = bridge.suppression.keyboard) :
    ∃ list, KeyboardPart build bridge aggregate carried
        result.input.keyboard result.suppression.keyboard list ∧
      result.input = { next.input with keyboard := result.input.keyboard } ∧
      result.suppression = { next.suppression with
        keyboard := result.suppression.keyboard } ∧
      result.out.toList = next.out.toList ++ list := by
  cases carried with
  | none =>
      cases success
      refine ⟨[], ?_, rfl, rfl, (List.append_nil _).symm⟩
      rw [input, suppression]
      exact .absent
  | some frame =>
      obtain ⟨⟨keyboard, pruned⟩, applied, rest⟩ := bind_eq_ok.mp success
      obtain ⟨⟨suppression, total⟩, window, rest⟩ := bind_eq_ok.mp rest
      obtain ⟨pushed, pushing, rest⟩ := bind_eq_ok.mp rest
      obtain ⟨sameInput, sameSuppression, out⟩ :=
        NextInput.push_eq_ok pushing
      cases rest
      refine ⟨_, .present (Except.mapInputError_eq_ok.mp applied)
        (Except.mapInputError_eq_ok.mp window), ?_, ?_, out⟩
      · rw [sameInput]
      · rw [sameSuppression]

theorem withMouse_spec (success : next.withPart carried
      (bridge.frameMouse build aggregate) = .ok result)
    (input : next.input.mouse = bridge.input.mouse)
    (suppression : next.suppression.mouseButtons =
      bridge.suppression.mouseButtons) :
    ∃ list, MousePart build bridge aggregate carried
        result.input.mouse result.suppression.mouseButtons list ∧
      result.input = { next.input with mouse := result.input.mouse } ∧
      result.suppression = { next.suppression with
        mouseButtons := result.suppression.mouseButtons } ∧
      result.out.toList = next.out.toList ++ list := by
  cases carried with
  | none =>
      cases success
      refine ⟨[], ?_, rfl, rfl, (List.append_nil _).symm⟩
      rw [input, suppression]
      exact .absent
  | some frame =>
      obtain ⟨pushed, pushing, rest⟩ := bind_eq_ok.mp success
      obtain ⟨sameInput, sameSuppression, out⟩ :=
        NextInput.push_eq_ok pushing
      cases rest
      refine ⟨_, .present, ?_, ?_, out⟩
      · rw [sameInput]
      · rw [sameSuppression]

theorem withConsumer_spec (success : next.withPart carried
      (fun _ => bridge.frameConsumer build aggregate) = .ok result)
    (input : next.input.consumer = bridge.input.consumer)
    (suppression : next.suppression.consumer = bridge.suppression.consumer) :
    ∃ list, ConsumerPart build bridge aggregate carried
        result.input.consumer result.suppression.consumer list ∧
      result.input = { next.input with consumer := result.input.consumer } ∧
      result.suppression = { next.suppression with
        consumer := result.suppression.consumer } ∧
      result.out.toList = next.out.toList ++ list := by
  cases carried with
  | none =>
      cases success
      refine ⟨[], ?_, rfl, rfl, (List.append_nil _).symm⟩
      rw [input, suppression]
      exact .absent
  | some frame =>
      obtain ⟨pushed, pushing, rest⟩ := bind_eq_ok.mp success
      obtain ⟨sameInput, sameSuppression, out⟩ :=
        NextInput.push_eq_ok pushing
      cases rest
      refine ⟨_, .present, ?_, ?_, out⟩
      · rw [sameInput]
      · rw [sameSuppression]

theorem frameInput_spec
    (success : bridge.frameInput build aggregate frame out = .ok result) :
    ∃ list, FrameApplied build bridge aggregate frame result.input
        result.suppression list ∧
      result.out.toList = out.toList ++ list := by
  obtain ⟨afterKeyboard, keyboardDone, rest⟩ := bind_eq_ok.mp success
  obtain ⟨afterMouse, mouseDone, consumerDone⟩ := bind_eq_ok.mp rest
  obtain ⟨keyboardOut, keyboardPart, keyboardInput, keyboardSuppression,
    keyboardList⟩ := withKeyboard_spec keyboardDone rfl rfl
  obtain ⟨mouseOut, mousePart, mouseInput, mouseSuppression, mouseList⟩ :=
    withMouse_spec mouseDone (by rw [keyboardInput])
      (by rw [keyboardSuppression])
  obtain ⟨consumerOut, consumerPart, consumerInput, consumerSuppression,
    consumerList⟩ := withConsumer_spec consumerDone
      (by rw [mouseInput, keyboardInput])
      (by rw [mouseSuppression, keyboardSuppression])
  refine ⟨keyboardOut ++ (mouseOut ++ consumerOut),
    .intro ?_ ?_ consumerPart, ?_⟩
  · rw [consumerInput, consumerSuppression, mouseInput, mouseSuppression]
    exact keyboardPart
  · rw [consumerInput, consumerSuppression]
    exact mousePart
  · rw [consumerList, mouseList, keyboardList, List.append_assoc,
      List.append_assoc]

end

theorem handleStandardInputFrame_step
    (success : Succeeds (handleStandardInputFrame build frame) before result
      after) :
    ∃ sent, BridgeStep build before.bridge (.inputFrame (.standard frame))
        sent after.bridge ∧
      after.sent = before.sent ++ sent := by
  simp only [handleStandardInputFrame, succeeds_bind, succeeds_get,
    succeeds_lift, succeeds_set] at success
  obtain ⟨_, _, ⟨rfl, rfl⟩, prepared, _, ⟨preparation, rfl⟩, next, _,
    ⟨framed, rfl⟩, rfl⟩ := success
  obtain ⟨list, applied, out⟩ := frameInput_spec framed
  refine ⟨notifications list, .frame preparation rfl applied ⟨rfl, rfl⟩, ?_⟩
  rw [BridgeWork.sent, out, notifications_append]
  rfl

theorem mem_notifyIf {report : StandardHidReport} :
    notification ∈ notifications
        (BridgeState.notifyIf condition target report reason) ↔
      condition = true ∧ notification = ⟨target, report, reason⟩ := by
  simp only [BridgeState.notifyIf]
  split
  · rename_i enabled
    exact List.mem_singleton.trans ⟨fun same => ⟨enabled, same⟩, And.right⟩
  · rename_i disabled
    simp [disabled]

theorem mem_releaseReports {bridge : BridgeState} {notification : Notification}
    (member : notification ∈
      notifications (bridge.releaseReports hostId reason)) :
    notification.target = .ble hostId ∧ notification.report.IsNeutral ∧
      bridge.canSend hostId notification.report.kind = true := by
  simp only [BridgeState.releaseReports, notifications_append,
    List.mem_append] at member
  rcases member with keyboard | mouse | consumer
  · obtain ⟨ready, rfl⟩ := mem_notifyIf.mp keyboard
    exact ⟨rfl, rfl, ready⟩
  · obtain ⟨ready, rfl⟩ := mem_notifyIf.mp mouse
    exact ⟨rfl, rfl, ready⟩
  · obtain ⟨ready, rfl⟩ := mem_notifyIf.mp consumer
    exact ⟨rfl, rfl, ready⟩

theorem mem_neutralReports (member : notification ∈
      notifications (BridgeState.neutralReports target reason)) :
    notification.target = target ∧ notification.report.IsNeutral := by
  change notification ∈ [_, _, _] at member
  simp only [List.mem_cons, List.not_mem_nil, or_false] at member
  rcases member with rfl | rfl | rfl <;> exact ⟨rfl, rfl⟩

theorem releaseActive_none (bridge : BridgeState)
    (active : Option OutputTarget) : bridge.releaseActive active none = [] := by
  cases active <;> rfl

theorem mem_releaseActive {bridge : BridgeState} {notification : Notification}
    (member : notification ∈
      notifications (bridge.releaseActive active releasePrevious)) :
    active = some notification.target ∧ notification.report.IsNeutral := by
  unfold BridgeState.releaseActive at member
  split at member
  · rename_i target reason
    cases target with
    | ble hostId =>
        obtain ⟨sameTarget, neutral, -⟩ := mem_releaseReports member
        exact ⟨congrArg some sameTarget.symm, neutral⟩
    | wired =>
        obtain ⟨sameTarget, neutral⟩ := mem_neutralReports member
        exact ⟨congrArg some sameTarget.symm, neutral⟩
  · cases member

theorem mem_wiredReset {bridge : BridgeState} {notification : Notification}
    (member : notification ∈ notifications (bridge.wiredReset availability)) :
    notification.target = .wired ∧ notification.report.IsNeutral := by
  unfold BridgeState.wiredReset at member
  split at member
  · rw [notifications_append, notifications_usbKeyboardLeds,
      List.append_nil] at member
    exact mem_neutralReports member
  · cases member

theorem transitionBleTarget_spec
    (success : Succeeds (transitionBleTarget target releasePrevious) before
      changed after) :
    (before.bridge.hosts.activeTarget = some target ∧ after = before) ∨
      (before.bridge.hosts.activeTarget ≠ some target ∧
        (∃ hosts, before.bridge.hosts.setActiveTarget target = .ok hosts ∧
          after.bridge = { before.bridge.captured with hosts := hosts }) ∧
        after.sent = before.sent ++ notifications
          (before.bridge.releaseActive
            (before.bridge.hosts.activeTarget.map .ble) releasePrevious)) := by
  simp only [transitionBleTarget, succeeds_bind, succeeds_get,
    succeeds_ite, succeeds_pure] at success
  obtain ⟨_, _, ⟨rfl, rfl⟩, ⟨same, -, rfl⟩ | ⟨differs, _, first, released, _,
    second, captured, _, third, stored, _, fourth, activated, _, fifth, leds,
    _, sixth, persisted, -, rfl⟩⟩ := success
  · exact .inl ⟨same, rfl⟩
  · obtain ⟨releasedBridge, releasedSent⟩ := sent_pushActions released
    obtain ⟨capturedBridge, capturedSent⟩ := sent_capture captured
    obtain ⟨hosts, storing, storedBridge, storedSent⟩ :=
      sent_updateHosts stored
    obtain ⟨activatedBridge, activatedSent⟩ := sent_pushAction rfl activated
    obtain ⟨ledsBridge, ledsSent⟩ := sent_pushFrom leds
    obtain ⟨persistedBridge, persistedSent⟩ := sent_pushAction rfl persisted
    obtain ⟨machine, set, same⟩ := map_eq_ok.mp storing
    cases same
    refine .inr ⟨differs, ⟨hosts, ?_, ?_⟩, ?_⟩
    · rw [← set, capturedBridge, releasedBridge]
      rfl
    · rw [persistedBridge, ledsBridge, activatedBridge, storedBridge,
        capturedBridge, releasedBridge]
    · rw [persistedSent, ledsSent, notifications_activeHostLeds,
        List.append_nil, activatedSent, storedSent, capturedSent,
        releasedSent]

theorem OutputTargetState.select_eq_ok {state next : OutputTargetState}
    (success : state.select target = .ok (next, operationId)) :
    next.selected = target := by
  obtain ⟨valid, validated, rest⟩ := bind_eq_ok.mp success
  cases rest
  unfold OutputTarget.validate at validated
  split at validated
  · cases validated
    rfl
  · split at validated
    · cases validated
      rfl
    · cases validated

theorem selectTarget_spec
    (success : Succeeds (selectTarget target) before operationId after) :
    (∃ outputTarget, outputTarget.selected = target ∧ after.bridge =
        { before.bridge with outputTarget := outputTarget }) ∧
      after.sent = before.sent := by
  simp only [selectTarget, succeeds_bind, succeeds_get, succeeds_lift,
    succeeds_pure] at success
  obtain ⟨_, _, ⟨rfl, rfl⟩, ⟨outputTarget, _⟩, _, ⟨selected, rfl⟩, _, _,
    modified, rfl, rfl⟩ := success
  obtain ⟨bridge, sent⟩ := sent_modifyBridge modified
  exact ⟨⟨outputTarget, OutputTargetState.select_eq_ok selected, bridge⟩, sent⟩

theorem activateTarget_spec
    (success : Succeeds (activateTarget operationId target) before result
      after) :
    SameInput before.bridge after.bridge ∧
      after.bridge.outputTarget.selected = before.bridge.outputTarget.selected ∧
      ∃ sent, after.sent = before.sent ++ sent ∧
        ∀ notification ∈ sent, notification.report.IsNeutral ∧
          notification.target = .wired ∧ target = .wired := by
  cases target with
  | wired =>
      simp only [activateTarget, succeeds_bind] at success
      obtain ⟨_, first, cleared, _, second, pushed, _, third, refreshed,
        reset⟩ := success
      obtain ⟨clearedBridge, clearedSent⟩ := sent_modifyBridge cleared
      obtain ⟨pushedBridge, pushedSent⟩ := sent_pushAction rfl pushed
      obtain ⟨refreshedBridge, refreshedSent⟩ := sent_modifyBridge refreshed
      obtain ⟨resetBridge, resetSent⟩ := sent_pushFrom reset
      refine ⟨?_, ?_,
        notifications (third.bridge.wiredReset third.bridge.wiredAvailability),
        ?_, ?_⟩
      · rw [resetBridge, refreshedBridge, pushedBridge, clearedBridge]
        exact ⟨rfl, rfl, rfl⟩
      · rw [resetBridge, refreshedBridge, pushedBridge, clearedBridge]
        rfl
      · rw [resetSent, refreshedSent, pushedSent, clearedSent]
      · intro notification member
        obtain ⟨wired, neutral⟩ := mem_wiredReset member
        exact ⟨neutral, wired, rfl⟩
  | ble hostId =>
      simp only [activateTarget, succeeds_bind] at success
      obtain ⟨_, first, stored, _, second, ensured, _, third, activated, _,
        fourth, leds, refreshed⟩ := success
      obtain ⟨hosts, -, storedBridge, storedSent⟩ := sent_updateHosts stored
      obtain ⟨ensuredBridge, ensuredSent⟩ := sent_pushAction rfl ensured
      obtain ⟨activatedBridge, activatedSent⟩ := sent_pushAction rfl activated
      obtain ⟨ledsBridge, ledsSent⟩ := sent_pushFrom leds
      obtain ⟨⟨availability, refreshedBridge⟩, refreshedSent⟩ :=
        sent_refreshAvailability refreshed
      refine ⟨?_, ?_, [], ?_, ?_⟩
      · rw [refreshedBridge, ledsBridge, activatedBridge, ensuredBridge,
          storedBridge]
        exact ⟨rfl, rfl, rfl⟩
      · rw [refreshedBridge, ledsBridge, activatedBridge, ensuredBridge,
          storedBridge]
        rfl
      · rw [refreshedSent, ledsSent, notifications_activeHostLeds,
          activatedSent, ensuredSent, storedSent]
      · intro notification member
        cases member

theorem transitionOutputTarget_spec
    (success : Succeeds (transitionOutputTarget target releasePrevious) before
      result after) :
    (after.bridge = before.bridge ∧ after.sent = before.sent) ∨
      (before.bridge.outputTarget.selected ≠ target ∧
        Captured before.bridge after.bridge ∧
        after.bridge.outputTarget.selected = target ∧
        ∃ sent, after.sent = before.sent ++ sent ∧
          (∀ notification ∈ sent, notification.report.IsNeutral) ∧
          ∀ notification ∈ sent,
            (releasePrevious.isSome ∧ before.bridge.outputTarget.active =
              some notification.target) ∨
            notification.target = .wired ∧ target = .wired) := by
  simp only [transitionOutputTarget, succeeds_bind, succeeds_get,
    succeeds_lift, succeeds_ite] at success
  obtain ⟨_, _, ⟨-, rfl⟩, _, _, ⟨rfl, rfl⟩, ⟨-, status⟩ | ⟨differs, _, first,
    released, _, second, captured, operationId, third, selection, _, fourth,
    activated, _, fifth, persisted, status⟩⟩ := success
  · exact .inl (sent_pushStatus status)
  · obtain ⟨releasedBridge, releasedSent⟩ := sent_pushActions released
    obtain ⟨capturedBridge, capturedSent⟩ := sent_capture captured
    obtain ⟨⟨outputTarget, selected, selectedBridge⟩, selectedSent⟩ :=
      selectTarget_spec selection
    obtain ⟨same, activatedSelected, sent, activatedSent, reset⟩ :=
      activateTarget_spec activated
    obtain ⟨persistedBridge, persistedSent⟩ := sent_pushAction rfl persisted
    obtain ⟨statusBridge, statusSent⟩ := sent_pushStatus status
    rw [capturedBridge, releasedBridge] at selectedBridge
    have final : after.bridge = fourth.bridge :=
      statusBridge.trans persistedBridge
    refine .inr ⟨differs, ⟨?_, ?_, ?_⟩, ?_,
      notifications (before.bridge.releaseActive
        before.bridge.outputTarget.active releasePrevious) ++ sent, ?_, ?_, ?_⟩
    · rw [final, same.input, selectedBridge]
      rfl
    · rw [final, same.inputDevices, selectedBridge]
      rfl
    · rw [final, same.suppression, selectedBridge]
    · rw [final, activatedSelected, selectedBridge]
      exact selected
    · rw [statusSent, persistedSent, activatedSent, selectedSent,
        capturedSent, releasedSent, List.append_assoc]
    · intro notification member
      rcases List.mem_append.mp member with old | new
      · exact (mem_releaseActive old).2
      · exact (reset notification new).1
    · intro notification member
      rcases List.mem_append.mp member with old | new
      · refine .inl ⟨?_, (mem_releaseActive old).1⟩
        cases releasePrevious with
        | some reason => rfl
        | none =>
            rw [releaseActive_none] at old
            cases old
      · exact .inr (reset notification new).2

def StepTaken (build : Build) (event : BridgeEvent build)
    (before after : BridgeWork actions) : Prop :=
  ∃ sent, BridgeStep build before.bridge event sent after.bridge ∧
    after.sent = before.sent ++ sent

theorem StepTaken.quiet (same : SameInput before.bridge after.bridge)
    (activeTarget : after.bridge.hosts.activeTarget =
      before.bridge.hosts.activeTarget)
    (selected : after.bridge.outputTarget.selected =
      before.bridge.outputTarget.selected) (sent : after.sent = before.sent) :
    StepTaken build event before after :=
  ⟨[], .quiet same activeTarget selected, by rw [sent, List.append_nil]⟩

theorem switchTarget_single_step
    (success : Succeeds (switchTarget .single target) before result after)
    (event : BridgeEvent .single) : StepTaken .single event before after := by
  simp only [switchTarget, succeeds_bind] at success
  obtain ⟨changed, middle, transition, status⟩ := success
  obtain ⟨statusBridge, statusSent⟩ := sent_pushStatus status
  rcases transitionBleTarget_spec transition with ⟨-, rfl⟩ |
    ⟨differs, ⟨hosts, set, bridge⟩, sent⟩
  · refine .quiet ?_ ?_ ?_ statusSent
    · rw [statusBridge]
      exact ⟨rfl, rfl, rfl⟩
    · rw [statusBridge]
    · rw [statusBridge]
  · refine ⟨_, .retargetBle rfl ?_ differs ?_ ?_ .told, statusSent.trans sent⟩
    · rw [statusBridge, bridge]
      exact ⟨rfl, rfl, rfl⟩
    · rw [statusBridge, bridge]
      exact (BleHostStateMachine.setActiveTarget_spec set).1
    · rw [statusBridge, bridge]
      rfl

theorem selectOutputTarget_step
    (success : Succeeds (selectOutputTarget target) before result after)
    (event : BridgeEvent .dual) : StepTaken .dual event before after := by
  rcases transitionOutputTarget_spec success with ⟨bridge, sent⟩ |
    ⟨differs, captured, selected, sent, appended, neutral, addressed⟩
  · refine .quiet ?_ ?_ ?_ sent
    · rw [bridge]
      exact ⟨rfl, rfl, rfl⟩
    · rw [bridge]
    · rw [bridge]
  · refine ⟨sent, .retargetOutput rfl captured differs selected neutral ?_,
      appended⟩
    intro notification member
    exact (addressed notification member).imp And.right id

theorem wiredAvailabilityChanged_step
    (success : Succeeds (wiredAvailabilityChanged availability) before result
      after) (event : BridgeEvent .dual) :
    StepTaken .dual event before after := by
  simp only [wiredAvailabilityChanged, succeeds_bind, succeeds_get,
    succeeds_when] at success
  obtain ⟨_, first, stored, _, _, ⟨rfl, rfl⟩, _, second, settled, status⟩ :=
    success
  obtain ⟨storedBridge, storedSent⟩ := sent_modifyBridge stored
  obtain ⟨statusBridge, statusSent⟩ := sent_pushStatus status
  rcases settled with ⟨-, _, third, refreshed, reset⟩ | ⟨-, rfl⟩
  · obtain ⟨refreshedBridge, refreshedSent⟩ := sent_modifyBridge refreshed
    obtain ⟨resetBridge, resetSent⟩ := sent_pushFrom reset
    have final : after.bridge = third.bridge := statusBridge.trans resetBridge
    refine ⟨_, .wiredReset rfl ?_ ?_ ?_ availability, ?_⟩
    · rw [final, refreshedBridge, storedBridge]
      exact ⟨rfl, rfl, rfl⟩
    · rw [final, refreshedBridge, storedBridge]
    · rw [final, refreshedBridge, storedBridge]
      rfl
    · rw [statusSent, resetSent, refreshedSent, storedSent, final]
  · refine .quiet ?_ ?_ ?_ (statusSent.trans storedSent)
    · rw [statusBridge, storedBridge]
      exact ⟨rfl, rfl, rfl⟩
    · rw [statusBridge, storedBridge]
    · rw [statusBridge, storedBridge]

theorem StepTaken.ofHosts (bridge : SameInput before.bridge stored.bridge ∧
      stored.bridge.hosts = hosts ∧
      stored.bridge.outputTarget = before.bridge.outputTarget)
    (activeTarget : hosts.activeTarget = before.bridge.hosts.activeTarget)
    (sent : stored.sent = before.sent)
    (refreshed : Succeeds (refreshAvailability build) stored result after) :
    StepTaken build event before after := by
  obtain ⟨same, sameHosts, sameTarget⟩ := bridge
  obtain ⟨⟨availability, refreshedBridge⟩, refreshedSent⟩ :=
    sent_refreshAvailability refreshed
  refine .quiet ?_ ?_ ?_ (refreshedSent.trans sent)
  · rw [refreshedBridge]
    exact ⟨same.input, same.inputDevices, same.suppression⟩
  · rw [refreshedBridge]
    exact (congrArg _ sameHosts).trans activeTarget
  · rw [refreshedBridge, ← sameTarget]
    cases build <;> rfl

theorem StepTaken.andStatus (taken : StepTaken build event before middle)
    (status : Succeeds pushStatus middle result after) :
    StepTaken build event before after := by
  obtain ⟨sent, step, appended⟩ := taken
  obtain ⟨statusBridge, statusSent⟩ := sent_pushStatus status
  exact ⟨sent, statusBridge ▸ step, statusSent.trans appended⟩

theorem fallBack_single_step (disconnected : before.bridge =
      { start with hosts := start.hosts.onDisconnected hostId })
    (lost : shouldFallback = true → start.hosts.activeTarget = some hostId)
    (success : Succeeds (fallBack .single shouldFallback hostId) before result
      after) :
    ∃ sent, BridgeStep .single start event sent after.bridge ∧
      after.sent = before.sent ++ sent := by
  have quiet : ∀ {middle : BridgeWork actions} {result : Unit},
      middle = before → Succeeds pushStatus middle result after →
      ∃ sent, BridgeStep .single start event sent after.bridge ∧
        after.sent = before.sent ++ sent := by
    rintro middle result rfl status
    obtain ⟨statusBridge, statusSent⟩ := sent_pushStatus status
    refine ⟨[], ?_, by rw [statusSent, List.append_nil]⟩
    rw [statusBridge, disconnected]
    exact .quiet ⟨rfl, rfl, rfl⟩
      BleHostStateMachine.onDisconnected_activeTarget rfl
  simp only [fallBack, succeeds_bind, succeeds_get] at success
  obtain ⟨_, _, ⟨rfl, rfl⟩, success⟩ := success
  split at success
  · simp only [succeeds_bind] at success
    obtain ⟨changed, middle, transition, status⟩ := success
    rcases transitionBleTarget_spec transition with ⟨-, unchanged⟩ |
      ⟨differs, ⟨hosts, set, bridge⟩, sent⟩
    · exact quiet unchanged status
    · obtain ⟨statusBridge, statusSent⟩ := sent_pushStatus status
      obtain ⟨active, unaffected⟩ :=
        BleHostStateMachine.setActiveTarget_spec set
      have sameActive :
          before.bridge.hosts.activeTarget = start.hosts.activeTarget := by
        rw [disconnected]
        exact BleHostStateMachine.onDisconnected_activeTarget
      refine ⟨_, .retargetBle rfl ?_ (sameActive ▸ differs) ?_ ?_
        (.lost (lost rfl) fun kind => ?_), ?_⟩
      · rw [statusBridge, bridge, disconnected]
        exact ⟨rfl, rfl, rfl⟩
      · rw [statusBridge, bridge]
        exact active
      · rw [statusBridge, bridge, disconnected]
        rfl
      · -- The new target is stored without touching the lost host.
        rw [statusBridge, bridge]
        show hosts.canSend hostId kind = false
        rw [unaffected, disconnected]
        exact BleHostStateMachine.onDisconnected_canSend _ _ _
      · rw [statusSent, sent, releaseActive_none]
  · contradiction
  · exact quiet rfl success

theorem fallBack_dual_step (same : SameInput start before.bridge)
    (activeTarget : before.bridge.hosts.activeTarget = start.hosts.activeTarget)
    (selected : before.bridge.outputTarget.selected =
      start.outputTarget.selected)
    (success : Succeeds (fallBack .dual shouldFallback hostId) before result
      after) :
    ∃ sent, BridgeStep .dual start event sent after.bridge ∧
      after.sent = before.sent ++ sent := by
  have quiet : after.bridge = before.bridge → after.sent = before.sent →
      ∃ sent, BridgeStep .dual start event sent after.bridge ∧
        after.sent = before.sent ++ sent := by
    intro bridge sent
    refine ⟨[], ?_, by rw [sent, List.append_nil]⟩
    rw [bridge]
    exact .quiet same activeTarget selected
  simp only [fallBack, succeeds_bind, succeeds_get] at success
  obtain ⟨_, _, ⟨rfl, rfl⟩, success⟩ := success
  split at success
  · contradiction
  · rcases transitionOutputTarget_spec success with ⟨bridge, sent⟩ |
      ⟨differs, captured, reached, sent, appended, neutral, addressed⟩
    · exact quiet bridge sent
    · refine ⟨sent, .retargetOutput rfl ⟨?_, ?_, ?_⟩ (selected ▸ differs)
        reached neutral ?_, appended⟩
      · rw [captured.input, same.input]
      · rw [captured.inputDevices, same.inputDevices]
      · rw [captured.suppression]
        simp only [BridgeState.captured, same.input]
      · intro notification member
        rcases addressed notification member with ⟨impossible, -⟩ | wired
        · cases impossible
        · exact .inr wired
  · obtain ⟨bridge, sent⟩ := sent_pushStatus success
    exact quiet bridge sent

theorem hostDisconnected_step
    (success : Succeeds (hostDisconnected build hostId) before result after) :
    StepTaken build event before after := by
  simp only [hostDisconnected, succeeds_bind, succeeds_get] at success
  obtain ⟨_, _, ⟨rfl, rfl⟩, _, first, stored, _, second, refreshed, fallen⟩ :=
    success
  obtain ⟨storedBridge, storedSent⟩ := sent_modifyBridge stored
  obtain ⟨⟨availability, refreshedBridge⟩, refreshedSent⟩ :=
    sent_refreshAvailability refreshed
  have startSent : second.sent = before.sent := refreshedSent.trans storedSent
  simp only [StepTaken]
  rw [← startSent]
  cases build with
  | single =>
      refine fallBack_single_step ?_ ?_ fallen
      · rw [refreshedBridge, storedBridge]
      · intro should
        exact (of_decide_eq_true should).1
  | dual =>
      rw [storedBridge] at refreshedBridge
      refine fallBack_dual_step ?_ ?_ ?_ fallen
      · rw [refreshedBridge]
        exact ⟨rfl, rfl, rfl⟩
      · rw [refreshedBridge]
        exact BleHostStateMachine.onDisconnected_activeTarget
      · rw [refreshedBridge]
        rfl

def PairingOnly (before after : BridgeWork actions) : Prop :=
  (∃ pairable, after.bridge =
      { before.bridge with pairableHost := pairable }) ∧
    after.sent = before.sent

theorem PairingOnly.of_quiet (first : PairingOnly before middle)
    (second : after.bridge = middle.bridge ∧ after.sent = middle.sent) :
    PairingOnly before after :=
  ⟨second.1 ▸ first.1, second.2.trans first.2⟩

theorem PairingOnly.step (only : PairingOnly before after) :
    StepTaken build event before after := by
  obtain ⟨⟨pairable, bridge⟩, sent⟩ := only
  refine .quiet ?_ ?_ ?_ sent
  · rw [bridge]
    exact ⟨rfl, rfl, rfl⟩
  · rw [bridge]
  · rw [bridge]

theorem withdrawPairing_spec
    (success : Succeeds (withdrawPairing hostId) before result after) :
    PairingOnly before after := by
  simp only [withdrawPairing, succeeds_bind, succeeds_get, succeeds_when]
    at success
  obtain ⟨_, _, ⟨rfl, rfl⟩, ⟨-, _, first, cleared, pushed⟩ | ⟨-, rfl⟩⟩ :=
    success
  · obtain ⟨clearedBridge, clearedSent⟩ := sent_modifyBridge cleared
    obtain ⟨pushedBridge, pushedSent⟩ := sent_pushAction rfl pushed
    exact ⟨⟨none, pushedBridge.trans clearedBridge⟩,
      pushedSent.trans clearedSent⟩
  · exact ⟨⟨_, rfl⟩, rfl⟩

theorem expirePairingMode_step
    (success : Succeeds (expirePairingMode hostId) before result after) :
    StepTaken build event before after := by
  simp only [expirePairingMode, succeeds_bind, succeeds_get, succeeds_when]
    at success
  obtain ⟨_, _, ⟨rfl, rfl⟩, ⟨-, _, middle, withdrawn, status⟩ | ⟨-, rfl⟩⟩ :=
    success
  · exact ((withdrawPairing_spec withdrawn).of_quiet
      (sent_pushStatus status)).step
  · exact PairingOnly.step ⟨⟨_, rfl⟩, rfl⟩

theorem enterPairingMode_step
    (success : Succeeds (enterPairingMode hostId) before result after) :
    StepTaken build event before after := by
  simp only [enterPairingMode, succeeds_bind, succeeds_get] at success
  obtain ⟨_, _, ⟨rfl, rfl⟩, _, first, stored, _, second, rejected, _, third,
    allowed, status⟩ := success
  obtain ⟨storedBridge, storedSent⟩ := sent_modifyBridge stored
  obtain ⟨rejectedBridge, rejectedSent⟩ := sent_pushActions rejected
  have silent : notifications ((before.bridge.pairableHost.filter
      (· ≠ hostId)).toList.map .rejectPairing) = [] := by
    simp [notifications, List.filterMap_eq_nil_iff, BridgeAction.notification?]
  rw [silent, List.append_nil] at rejectedSent
  have replaced : PairingOnly before second :=
    ⟨⟨_, rejectedBridge.trans storedBridge⟩, rejectedSent.trans storedSent⟩
  exact ((replaced.of_quiet (sent_pushAction rfl allowed)).of_quiet
    (sent_pushStatus status)).step

theorem sent_persist {persist : Bool} {result : Unit}
    (success : Succeeds (InPlace.when persist (pushAction .persistProfiles))
      before result after) :
    after.bridge = before.bridge ∧ after.sent = before.sent :=
  sent_when (fun pushed => sent_pushAction rfl pushed) success

theorem storedHost_step {build : Build} {event : BridgeEvent build}
    {operation : BleHostStateMachine →
      Except HostStateError (BleHostStateMachine × Bool)} {persist : Bool}
    {stored persisted paired : BridgeWork actions}
    {persistResult refreshResult statusResult : Unit}
    {refreshed : BridgeWork actions}
    (storing : Succeeds (updateHosts operation) before persist stored)
    (keeps : ∀ hosts value, operation before.bridge.hosts =
      .ok (hosts, value) →
        hosts.activeTarget = before.bridge.hosts.activeTarget)
    (persisting : Succeeds
      (InPlace.when persist (pushAction .persistProfiles)) stored
      persistResult persisted)
    (pairing : PairingOnly persisted paired)
    (refreshing : Succeeds (refreshAvailability build) paired refreshResult
      refreshed)
    (status : Succeeds pushStatus refreshed statusResult after) :
    StepTaken build event before after := by
  obtain ⟨hosts, done, storedBridge, storedSent⟩ := sent_updateHosts storing
  obtain ⟨persistedBridge, persistedSent⟩ := sent_persist persisting
  obtain ⟨⟨pairable, pairedBridge⟩, pairedSent⟩ := pairing
  refine StepTaken.andStatus (.ofHosts ⟨?_, rfl, ?_⟩ ?_ ?_ refreshing) status
  · rw [pairedBridge, persistedBridge, storedBridge]
    exact ⟨rfl, rfl, rfl⟩
  · rw [pairedBridge, persistedBridge, storedBridge]
  · rw [pairedBridge, persistedBridge, storedBridge]
    exact keeps hosts persist done
  · rw [pairedSent, persistedSent, storedSent]

theorem PairingOnly.refl : PairingOnly before before := ⟨⟨_, rfl⟩, rfl⟩

theorem hostSecurityChanged_step {build : Build} {event : BridgeEvent build}
    {hostId : HostId} {encrypted bonded : Bool} {bond : Option StoredBond}
    {result : Unit}
    (success : Succeeds (hostSecurityChanged build hostId encrypted bonded
      bond) before result after) : StepTaken build event before after := by
  simp only [hostSecurityChanged, succeeds_bind] at success
  obtain ⟨persist, stored, storing, _, persisted, persisting, _, paired,
    pairing, _, refreshed, refreshing, status⟩ := success
  refine storedHost_step storing ?_ persisting ?_ refreshing status
  · intro hosts value
    exact BleHostStateMachine.onSecurityChanged_activeTarget
  · rcases succeeds_when.mp pairing with ⟨-, withdrawn⟩ | ⟨-, rfl⟩
    · exact withdrawPairing_spec withdrawn
    · exact .refl

theorem cccdChanged_step {build : Build} {event : BridgeEvent build}
    {hostId : HostId} {report : ReportKind} {enabled : Bool} {result : Unit}
    (success : Succeeds (cccdChanged build hostId report enabled) before
      result after) : StepTaken build event before after := by
  simp only [cccdChanged, succeeds_bind] at success
  obtain ⟨persist, stored, storing, _, persisted, persisting, _, refreshed,
    refreshing, status⟩ := success
  refine storedHost_step storing ?_ persisting .refl refreshing status
  intro hosts value
  exact BleHostStateMachine.onCccdChanged_activeTarget

theorem setHostName_step
    (success : Succeeds (setHostName hostId name) before result after) :
    StepTaken build event before after := by
  simp only [setHostName, succeeds_bind] at success
  obtain ⟨persist, stored, storing, _, persisted, persisting, status⟩ :=
    success
  obtain ⟨hosts, done, storedBridge, storedSent⟩ := sent_updateHosts storing
  obtain ⟨persistedBridge, persistedSent⟩ := sent_persist persisting
  obtain ⟨statusBridge, statusSent⟩ := sent_pushStatus status
  have final : after.bridge = stored.bridge :=
    statusBridge.trans persistedBridge
  refine .quiet ?_ ?_ ?_ (statusSent.trans (persistedSent.trans storedSent))
  · rw [final, storedBridge]
    exact ⟨rfl, rfl, rfl⟩
  · rw [final, storedBridge]
    exact BleHostStateMachine.setName_activeTarget done
  · rw [final, storedBridge]

theorem clearHost_step
    (success : Succeeds (clearHost build hostId) before result after) :
    StepTaken build (.clearHost hostId) before after := by
  simp only [clearHost, succeeds_bind, succeeds_get] at success
  obtain ⟨_, _, ⟨rfl, rfl⟩, _, first, released, _, second, withdrawn, _,
    third, forgotten, cleared⟩ := success
  have releasedSpec : first.bridge = before.bridge ∧ first.sent =
      before.sent ++ notifications
        (if before.bridge.hosts.activeTarget = some hostId then
          before.bridge.releaseReports hostId .safetyRelease else []) := by
    rcases succeeds_when.mp released with ⟨active, pushed⟩ | ⟨inactive, rfl⟩
    · rw [if_pos (of_decide_eq_true active)]
      exact sent_pushActions pushed
    · rw [if_neg (fun active => inactive (decide_eq_true active))]
      exact ⟨rfl, (List.append_nil _).symm⟩
  obtain ⟨releasedBridge, releasedSent⟩ := releasedSpec
  obtain ⟨⟨pairable, withdrawnBridge⟩, withdrawnSent⟩ :=
    withdrawPairing_spec withdrawn
  obtain ⟨forgottenBridge, forgottenSent⟩ := sent_modifyBridge forgotten
  have clearedSpec : after.bridge = third.bridge ∧
      after.sent = third.sent := by
    refine sent_when ?_ cleared
    intro result pushed
    simp only [succeeds_bind] at pushed
    obtain ⟨_, fourth, told, _, fifth, leds, status⟩ := pushed
    obtain ⟨toldBridge, toldSent⟩ := sent_pushActions told
    have ledsSpec : fifth.bridge = fourth.bridge ∧
        fifth.sent = fourth.sent := by
      refine sent_when ?_ leds
      intro result off
      obtain ⟨offBridge, offSent⟩ := sent_pushFrom off
      rw [notifications_usbKeyboardLeds, List.append_nil] at offSent
      exact ⟨offBridge, offSent⟩
    obtain ⟨statusBridge, statusSent⟩ := sent_pushStatus status
    exact ⟨statusBridge.trans (ledsSpec.1.trans toldBridge),
      statusSent.trans (ledsSpec.2.trans (toldSent.trans (List.append_nil _)))⟩
  have final : after.bridge = ({ before.bridge with
      pairableHost := pairable } : BridgeState).forgetHost build hostId := by
    rw [clearedSpec.1, forgottenBridge, withdrawnBridge, releasedBridge]
  refine ⟨_, .clear ?_ ?_ ?_, ?_⟩
  · rw [final]
    exact ⟨rfl, rfl, rfl⟩
  · rw [final]
    rfl
  · rw [final]
    rfl
  · rw [clearedSpec.2, forgottenSent, withdrawnSent, releasedSent]

theorem pruneKeyboard_spec {bridge : BridgeState}
    (success : bridge.pruneKeyboard = .ok next) :
    ∃ suppression : KeyboardSuppression,
      next = { bridge with
        suppression := { bridge.suppression with keyboard := suppression } } ∧
      suppression.modifiers =
        bridge.suppression.keyboard.modifiers &&&
          bridge.input.keyboard.modifiers ∧
      (∀ key, key ∈ suppression.keys.toList ↔
        key ∈ bridge.suppression.keyboard.keys.toList ∧
          key ∈ bridge.input.keyboard.keys.toList) ∧
      suppression.keys.toList.Sublist
        bridge.suppression.keyboard.keys.toList := by
  obtain ⟨frame, built, rest⟩ := bind_eq_ok.mp success
  obtain ⟨⟨keyboard, suppression⟩, applied, rest⟩ := bind_eq_ok.mp rest
  obtain ⟨same, modifiers, keys⟩ := applyFrame_toFrame built applied
  cases rest
  subst same
  exact ⟨suppression, rfl, modifiers, keys, applySnapshot_sublist applied⟩

theorem emitDetachUpdates_spec
    (success : Succeeds (emitDetachUpdates hostId previousInput reason) before
      result after) :
    SuppressionPruned before.bridge after.bridge ∧
      after.bridge = { before.bridge with
        suppression := after.bridge.suppression } ∧
      after.sent = before.sent ++ notifications
        (after.bridge.detachReports hostId previousInput reason) := by
  simp only [emitDetachUpdates, succeeds_bind, succeeds_get, succeeds_lift]
    at success
  obtain ⟨_, _, ⟨rfl, rfl⟩, pruned, _, ⟨pruning, rfl⟩, _, first, stored, _,
    second, keyboard, _, third, mouse, _, fourth, mouseSent, _, fifth,
    consumer, consumerSent⟩ := success
  obtain ⟨suppression, prunes, modifiers, keys, inOrder⟩ :=
    pruneKeyboard_spec pruning
  obtain ⟨storedBridge, storedSent⟩ := sent_modifyBridge stored
  obtain ⟨keyboardBridge, keyboardSent⟩ := sent_pushFrom keyboard
  obtain ⟨mouseBridge, mouseKept⟩ := sent_modifyBridge mouse
  obtain ⟨mouseSentBridge, mouseSent⟩ := sent_pushFrom mouseSent
  obtain ⟨consumerBridge, consumerKept⟩ := sent_modifyBridge consumer
  obtain ⟨consumerSentBridge, consumerSent⟩ := sent_pushFrom consumerSent
  have final : after.bridge =
      pruned.pruneMouseButtons.pruneConsumerUsage := by
    rw [consumerSentBridge, consumerBridge, mouseSentBridge, mouseBridge,
      keyboardBridge, storedBridge]
  -- Each report reads only the part that was just pruned.
  have reports : after.sent = before.sent ++ notifications
      (pruned.detachKeyboard hostId previousInput reason ++
        (pruned.pruneMouseButtons.detachMouse hostId previousInput reason ++
          after.bridge.detachConsumer hostId previousInput reason)) := by
    rw [consumerSent, ← consumerSentBridge, consumerKept, mouseSent,
      mouseKept, keyboardSent, storedSent, mouseBridge, keyboardBridge,
      storedBridge]
    simp only [notifications_append, List.append_assoc]
  rw [final] at reports ⊢
  subst prunes
  exact ⟨⟨modifiers, keys, inOrder, rfl, rfl⟩, rfl, reports⟩

theorem adoptAggregate_spec
    (success : Succeeds (adoptAggregate previousInput) before result after) :
    ∃ suppression list, after.bridge = { before.bridge with
        input := before.bridge.inputDevices.aggregate
        suppression := suppression } ∧
      after.sent = before.sent ++ notifications list ∧
      ∀ start : BridgeState, start.input = previousInput →
        start.hosts = before.bridge.hosts →
        start.suppression = before.bridge.suppression →
          DetachApplied start after.bridge list := by
  simp only [adoptAggregate, succeeds_bind, succeeds_get] at success
  obtain ⟨_, first, adopted, _, _, ⟨rfl, rfl⟩, emitted⟩ := success
  obtain ⟨adoptedBridge, adoptedSent⟩ := sent_modifyBridge adopted
  cases active : first.bridge.hosts.activeTarget with
  | none =>
      simp only [active, succeeds_pure] at emitted
      obtain ⟨-, rfl⟩ := emitted
      refine ⟨before.bridge.suppression, [], adoptedBridge,
        adoptedSent.trans (List.append_nil _).symm, ?_⟩
      intro start _ hosts suppression
      refine .unseen ?_ ?_
      · rw [hosts, ← active, adoptedBridge]
      · rw [suppression, adoptedBridge]
  | some hostId =>
      simp only [active] at emitted
      obtain ⟨prunes, rest, sent⟩ := emitDetachUpdates_spec emitted
      refine ⟨after.bridge.suppression, after.bridge.detachReports hostId
        previousInput .usbDeviceRemovedRelease, ?_, ?_, ?_⟩
      · rw [rest, adoptedBridge]
      · rw [sent, adoptedSent]
      · intro start input hosts suppression
        rw [← input]
        refine .seen ?_ ⟨?_, ?_, ?_, ?_, ?_⟩
        · rw [hosts, ← active, adoptedBridge]
        · rw [prunes.modifiers, suppression, adoptedBridge]
        · intro key
          rw [prunes.keys, suppression, adoptedBridge]
        · have inOrder := prunes.keptInOrder
          rwa [adoptedBridge, ← suppression] at inOrder
        · rw [prunes.mouseButtons, suppression, adoptedBridge]
        · rw [prunes.consumer, suppression, adoptedBridge]

theorem usbDeviceRemoved_step
    (success : Succeeds (usbDeviceRemoved interfaceId) before result after) :
    StepTaken build (.usbDeviceRemoved interfaceId) before after := by
  simp only [usbDeviceRemoved, succeeds_bind, succeeds_get] at success
  obtain ⟨_, _, ⟨rfl, rfl⟩, _, first, unregistered, _, second, removed, _,
    third, adopted, status⟩ := success
  obtain ⟨unregisteredBridge, unregisteredSent⟩ :=
    sent_modifyBridge unregistered
  obtain ⟨removedBridge, removedSent⟩ := sent_modifyBridge removed
  obtain ⟨suppression, list, adoptedBridge, adoptedSent, detached⟩ :=
    adoptAggregate_spec adopted
  obtain ⟨interfaces, unregistration⟩ : ∃ interfaces,
      before.bridge.removeUsbHidInterface interfaceId =
        { before.bridge with usbHidInterfaces := interfaces } := by
    simp only [BridgeState.removeUsbHidInterface]
    split <;> exact ⟨_, rfl⟩
  rw [unregisteredBridge, unregistration] at removedBridge
  refine StepTaken.andStatus ⟨_, .detach ?_ ?_ (detached _ rfl ?_ ?_)
    ⟨?_, ?_⟩, ?_⟩ status
  · rw [adoptedBridge, removedBridge]
    exact .interface interfaceId
  · rw [adoptedBridge]
  · rw [removedBridge]
  · rw [removedBridge]
  · rw [adoptedBridge, removedBridge]
  · rw [adoptedBridge, removedBridge]
  · rw [adoptedSent, removedSent, unregisteredSent]

theorem removeDevice_false {aggregator : InputAggregator}
    (kept : aggregator.removeDevice deviceId = (next, false)) :
    next = aggregator := by
  unfold InputAggregator.removeDevice InputAggregator.installDevices at kept
  split at kept
  · split at kept
    · cases kept
    · cases kept
      rfl
  · cases kept
    rfl

theorem resetInputDevice_step
    (success : Succeeds (resetInputDevice deviceId) before result after) :
    StepTaken build (.resetInputDevice deviceId) before after := by
  obtain ⟨devices, removed, removal⟩ : ∃ devices removed,
      before.bridge.inputDevices.removeDevice deviceId = (devices, removed) :=
    ⟨_, _, rfl⟩
  simp only [resetInputDevice, succeeds_bind, succeeds_get] at success
  obtain ⟨_, _, ⟨rfl, rfl⟩, _, first, stored, adopted⟩ := success
  obtain ⟨storedBridge, storedSent⟩ := sent_modifyBridge stored
  rw [removal] at storedBridge adopted
  rcases succeeds_when.mp adopted with ⟨taken, adopting⟩ | ⟨kept, rfl⟩
  · obtain ⟨suppression, list, adoptedBridge, adoptedSent, detached⟩ :=
      adoptAggregate_spec adopting
    refine ⟨_, .detach ?_ ?_ (detached _ rfl ?_ ?_) ⟨?_, ?_⟩, ?_⟩
    · rw [adoptedBridge, storedBridge, show devices =
        (before.bridge.inputDevices.removeDevice deviceId).1 by rw [removal]]
      exact .device deviceId
    · rw [adoptedBridge]
    · rw [storedBridge]
    · rw [storedBridge]
    · rw [adoptedBridge, storedBridge]
    · rw [adoptedBridge, storedBridge]
    · rw [adoptedSent, storedSent]
  · have unchanged : devices = before.bridge.inputDevices := by
      refine removeDevice_false (removal.trans ?_)
      exact congrArg (devices, ·) (Bool.eq_false_iff.mpr kept)
    refine .quiet ?_ ?_ ?_ storedSent
    · rw [storedBridge, unchanged]
      exact ⟨rfl, rfl, rfl⟩
    · rw [storedBridge]
    · rw [storedBridge]

theorem handleInputFrame_step
    (success : Succeeds (handleInputFrame build frame) before result after) :
    StepTaken build (.inputFrame frame) before after := by
  cases frame with
  | standard frame => exact handleStandardInputFrame_step success
  | vendor =>
      simp only [handleInputFrame] at success
      obtain ⟨bridge, sent⟩ := sent_modifyBridge success
      refine .quiet ?_ ?_ ?_ sent
      · rw [bridge]
        exact ⟨rfl, rfl, rfl⟩
      · rw [bridge]
      · rw [bridge]

theorem hostConnected_step (success : Succeeds (do
      updateHosts fun hosts => (·, ()) <$> hosts.onConnected hostId
      refreshAvailability build
      pushStatus) before result after) :
    StepTaken build event before after := by
  simp only [succeeds_bind] at success
  obtain ⟨_, first, stored, _, second, refreshed, status⟩ := success
  obtain ⟨hosts, done, storedBridge, storedSent⟩ := sent_updateHosts stored
  obtain ⟨machine, connected, same⟩ := map_eq_ok.mp done
  cases same
  refine StepTaken.andStatus (.ofHosts ⟨?_, rfl, ?_⟩ ?_ storedSent refreshed)
    status
  · rw [storedBridge]
    exact ⟨rfl, rfl, rfl⟩
  · rw [storedBridge]
  · rw [storedBridge]
    exact BleHostStateMachine.onConnected_activeTarget connected

theorem upsertUsbHidInterface_spec {bridge : BridgeState}
    (upserted : bridge.upsertUsbHidInterface registration = .ok next) :
    ∃ interfaces,
      next = { bridge with usbHidInterfaces := interfaces } := by
  unfold BridgeState.upsertUsbHidInterface at upserted
  split at upserted
  · cases upserted
    exact ⟨_, rfl⟩
  · split at upserted
    · cases upserted
      exact ⟨_, rfl⟩
    · cases upserted

theorem usbHidInterfaceConnected_step (success : Succeeds (do
      let bridge ← InPlace.lift id
        ((← get).bridge.upsertUsbHidInterface registration)
      modifyBridge fun _ => bridge
      pushFrom (·.activeHostLeds build)) before result after) :
    StepTaken build event before after := by
  simp only [succeeds_bind, succeeds_get, succeeds_lift] at success
  obtain ⟨_, _, ⟨rfl, rfl⟩, bridge, _, ⟨upserted, rfl⟩, _, first, stored,
    leds⟩ := success
  obtain ⟨storedBridge, storedSent⟩ := sent_modifyBridge stored
  obtain ⟨ledsBridge, ledsSent⟩ := sent_pushFrom leds
  rw [notifications_activeHostLeds, List.append_nil] at ledsSent
  obtain ⟨interfaces, registered⟩ := upsertUsbHidInterface_spec upserted
  have final : after.bridge = bridge := ledsBridge.trans storedBridge
  refine .quiet ?_ ?_ ?_ (ledsSent.trans storedSent)
  · rw [final, registered]
    exact ⟨rfl, rfl, rfl⟩
  · rw [final, registered]
  · rw [final, registered]

theorem sent_leds [Decidable condition]
    (success : Succeeds (InPlace.when condition
      (pushFrom (·.usbKeyboardLeds leds))) before result after) :
    after.bridge = before.bridge ∧ after.sent = before.sent := by
  refine sent_when ?_ success
  intro result pushed
  obtain ⟨bridge, sent⟩ := sent_pushFrom pushed
  rw [notifications_usbKeyboardLeds, List.append_nil] at sent
  exact ⟨bridge, sent⟩

theorem hostKeyboardLedChanged_step (success : Succeeds (do
      updateHosts fun hosts =>
        (·, ()) <$> hosts.onKeyboardLedChanged hostId leds
      InPlace.when ((← get).bridge.hosts.activeTarget = some hostId)
        (pushFrom (·.usbKeyboardLeds leds))) before result after) :
    StepTaken build event before after := by
  simp only [succeeds_bind, succeeds_get] at success
  obtain ⟨_, first, stored, _, _, ⟨rfl, rfl⟩, lit⟩ := success
  obtain ⟨hosts, done, storedBridge, storedSent⟩ := sent_updateHosts stored
  obtain ⟨machine, changed, same⟩ := map_eq_ok.mp done
  cases same
  obtain ⟨litBridge, litSent⟩ := sent_leds lit
  refine .quiet ?_ ?_ ?_ (litSent.trans storedSent)
  · rw [litBridge, storedBridge]
    exact ⟨rfl, rfl, rfl⟩
  · rw [litBridge, storedBridge]
    exact BleHostStateMachine.onKeyboardLedChanged_activeTarget changed
  · rw [litBridge, storedBridge]

theorem wiredKeyboardLedChanged_step (success : Succeeds (do
      modifyBridge fun bridge => { bridge with wiredKeyboardLeds := leds }
      InPlace.when ((← get).bridge.outputTarget.selected = .wired)
        (pushFrom (·.usbKeyboardLeds leds))) before result after) :
    StepTaken .dual event before after := by
  simp only [succeeds_bind, succeeds_get] at success
  obtain ⟨_, first, stored, _, _, ⟨rfl, rfl⟩, lit⟩ := success
  obtain ⟨storedBridge, storedSent⟩ := sent_modifyBridge stored
  obtain ⟨litBridge, litSent⟩ := sent_leds lit
  refine .quiet ?_ ?_ ?_ (litSent.trans storedSent)
  · rw [litBridge, storedBridge]
    exact ⟨rfl, rfl, rfl⟩
  · rw [litBridge, storedBridge]
  · rw [litBridge, storedBridge]

theorem handleEventInPlace_step
    (success : Succeeds (handleEventInPlace build event) before result
      after) : StepTaken build event before after := by
  cases event with
  | inputFrame frame => exact handleInputFrame_step success
  | usbDeviceRemoved interfaceId => exact usbDeviceRemoved_step success
  | resetInputDevice deviceId => exact resetInputDevice_step success
  | usbHidInterfaceConnected interfaceId deviceId keyboardLedSink =>
      exact usbHidInterfaceConnected_step success
  | hostConnected hostId => exact hostConnected_step success
  | hostDisconnected hostId => exact hostDisconnected_step success
  | hostSecurityChanged hostId encrypted bonded bond =>
      exact hostSecurityChanged_step success
  | cccdChanged hostId report enabled => exact cccdChanged_step success
  | hostKeyboardLedChanged hostId leds =>
      exact hostKeyboardLedChanged_step success
  | setHostName hostId name => exact setHostName_step success
  | enterPairingMode hostId => exact enterPairingMode_step success
  | pairingModeExpired hostId => exact expirePairingMode_step success
  | clearHost hostId => exact clearHost_step success
  | switchTarget target =>
      cases build with
      | single => exact switchTarget_single_step success _
      | dual => exact selectOutputTarget_step success _
  | selectOutputTarget target => exact selectOutputTarget_step success _
  | wiredAvailabilityChanged availability =>
      exact wiredAvailabilityChanged_step success _
  | wiredKeyboardLedChanged leds => exact wiredKeyboardLedChanged_step success

theorem handleEvent_step
    (success : handleEvent build actions bridge event = .ok (next, out)) :
    BridgeStep build bridge event (notifications out.toList) next := by
  unfold handleEvent at success
  split at success
  · rename_i result work finished
    cases success
    obtain ⟨sent, step, appended⟩ := handleEventInPlace_step finished
    have silent : (BridgeWork.mk bridge .empty : BridgeWork actions).sent =
        [] := rfl
    rw [silent, List.nil_append] at appended
    rw [← appended] at step
    exact step
  · cases success

/-- A call on the bridge.  The caller of `handle_event` chooses the capacity
of its action vector. -/
inductive BridgeCall : Build → Type
  | event {build : Build} (capacity : Nat) (event : BridgeEvent build) :
      BridgeCall build
  | beginWiredPresentationTransition : BridgeCall .dual

/-- The state after a call and the actions it shows.  A failing call changes
nothing and shows nothing. -/
def BridgeState.perform {build : Build} (bridge : BridgeState) :
    BridgeCall build → BridgeState × List BridgeAction
  | .event capacity event =>
      match handleEvent build capacity bridge event with
      | .ok (next, out) => (next, out.toList)
      | .error _ => (bridge, [])
  | .beginWiredPresentationTransition =>
      match bridge.beginWiredPresentationTransition with
      | .ok (next, _) => (next, [])
      | .error _ => (bridge, [])

abbrev BridgeTransition (build : Build) :=
  Transition BridgeState (BridgeCall build) (List BridgeAction)

def Performs (build : Build) (bridge : BridgeState) (call : BridgeCall build)
    (out : List BridgeAction) (next : BridgeState) : Prop :=
  bridge.perform call = (next, out)

/-- A run of calls from a new bridge with room for `hosts` hosts. -/
abbrev BridgeRun (build : Build) (hosts : Nat) :=
  Run (Performs build) (.new hosts)

structure PresentationRestarted (bridge next : BridgeState) : Prop where
  captured : Captured bridge next
  hosts : next.hosts = bridge.hosts
  selected : next.outputTarget.selected = bridge.outputTarget.selected
  inactive : next.outputTarget.active = none

theorem perform_cases (performed : Performs build bridge call out next) :
    (next = bridge ∧ out = []) ∨
      (∃ capacity event, call = .event capacity event ∧
        BridgeStep build bridge event (notifications out) next) ∨
      (out = [] ∧ PresentationRestarted bridge next) := by
  unfold Performs at performed
  cases call with
  | event capacity event =>
      simp only [BridgeState.perform] at performed
      cases handled : handleEvent build capacity bridge event with
      | error error =>
          simp only [handled, Prod.mk.injEq] at performed
          exact .inl ⟨performed.1.symm, performed.2.symm⟩
      | ok result =>
          simp only [handled, Prod.mk.injEq] at performed
          obtain ⟨rfl, rfl⟩ := performed
          exact .inr (.inl ⟨capacity, event, rfl, handleEvent_step handled⟩)
  | beginWiredPresentationTransition =>
      have begun : bridge.beginWiredPresentationTransition = .ok
          ({ bridge.captured with
            wiredAvailability := .connectedNotReady
            outputTarget := bridge.outputTarget.beginTransition.1 },
            bridge.outputTarget.beginTransition.2) := by
        simp only [BridgeState.beginWiredPresentationTransition]
        rw [captureSuppression_eq]
        rfl
      simp only [BridgeState.perform, begun, Prod.mk.injEq] at performed
      obtain ⟨rfl, rfl⟩ := performed
      exact .inr (.inr ⟨rfl, ⟨rfl, rfl, rfl⟩, rfl, rfl, rfl⟩)

theorem step_of_sent (performed : Performs build bridge call out next)
    (member : notification ∈ notifications out) :
    ∃ capacity event, call = .event capacity event ∧
      BridgeStep build bridge event (notifications out) next := by
  rcases perform_cases performed with ⟨-, rfl⟩ | handled | ⟨rfl, -⟩
  · cases member
  · exact handled
  · cases member

namespace Scenario

def connect {build : Build} (hostId : HostId) : List (BridgeCall build) :=
  [.event 16 (.hostConnected hostId),
    .event 16 (.hostSecurityChanged hostId true false none),
    .event 16 (.cccdChanged hostId .keyboard true),
    .event 16 (.cccdChanged hostId .mouse true),
    .event 16 (.cccdChanged hostId .consumer true)]

def frame {build : Build} (interface : UInt8)
    (keyboard : Option KeyboardFrame) (mouse : Option MouseFrame)
    (consumer : Option ConsumerFrame) : BridgeCall build :=
  .event 16 (.inputFrame
    (.standard ⟨⟨interface⟩, ⟨interface⟩, keyboard, mouse, consumer⟩))

def keyDown {build : Build} (interface key : UInt8) : BridgeCall build :=
  frame interface (some ⟨0, ⟨[⟨key⟩], by
    simp [physicalKeyboardKeyCapacity]⟩, List.nodup_singleton _⟩) none none

def buttons {build : Build} (interface : UInt8) (bits : BitVec 8) :
    BridgeCall build :=
  frame interface none (some ⟨.fromBitsTruncate bits, .neutral⟩) none

def consumer {build : Build} (interface : UInt8)
    (usage : Option ConsumerUsage) : BridgeCall build :=
  frame interface none none (some ⟨usage⟩)

def trace {build : Build} (calls : List (BridgeCall build)) :
    List (BridgeTransition build) :=
  Run.trace BridgeState.perform (.new 2) calls

def final {build : Build} (calls : List (BridgeCall build)) : BridgeState :=
  Run.final BridgeState.perform (.new 2) calls

theorem run (calls : List (BridgeCall build)) :
    BridgeRun build 2 (trace calls) (final calls) :=
  Run.of_trace BridgeState.perform _ calls

def next {build : Build} (bridge : BridgeState) (call : BridgeCall build) :
    BridgeTransition build :=
  ⟨bridge, call, (bridge.perform call).2, (bridge.perform call).1⟩

theorem run_next (bridge : BridgeState) (call : BridgeCall build)
    {finish : BridgeState}
    (rest : Run (Performs build) (next bridge call).after history finish) :
    Run (Performs build) bridge (next bridge call :: history) finish :=
  .cons rfl rest

end Scenario

end HidShift
