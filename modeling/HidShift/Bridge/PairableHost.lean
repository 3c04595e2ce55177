import HidShift.Bridge.NextTarget

namespace HidShift

open Lib InPlace

variable {actions : Nat} {build : Build}

def BridgeEvent.pairableAfter (pairable : Option HostId) :
    BridgeEvent build → Option HostId
  | .enterPairingMode hostId => some hostId
  | .pairingModeExpired hostId | .clearHost hostId
  | .hostSecurityChanged hostId _ true _ =>
      if pairable = some hostId then none else pairable
  | _ => pairable

structure Tells (before now : Option HostId) (list : List BridgeAction) :
    Prop where
  rejected : ∀ hostId, before = some hostId → now ≠ some hostId →
    .rejectPairing hostId ∈ list
  allowed : ∀ hostId, now = some hostId → before ≠ some hostId →
    .allowPairing hostId ∈ list

theorem Tells.same : Tells pairable pairable list :=
  ⟨fun _ was other => absurd was other, fun _ is other => absurd is other⟩

theorem Tells.mono (tells : Tells before now list)
    (listed : ∀ action ∈ list, action ∈ longer) : Tells before now longer :=
  ⟨fun hostId was other => listed _ (tells.rejected hostId was other),
    fun hostId is other => listed _ (tells.allowed hostId is other)⟩

/-- The permission went from one host to another; the statuses reported so far
are the `spoken` ones. -/
structure Paired (spoken : Option HostId → Prop)
    (before now : Option HostId) (work : BridgeWork actions) : Prop where
  pairable : work.bridge.pairableHost = now
  statuses : ∀ status, .statusChanged status ∈ work.out.toList →
    spoken status.pairableHost
  told : Tells before now work.out.toList

def BridgeAction.isStatus : BridgeAction → Bool
  | .statusChanged _ => true
  | _ => false

section

variable {bridge : BridgeState}

def Unspoken (list : List BridgeAction) : Prop :=
  ∀ action ∈ list, action.isStatus = false

theorem Unspoken.append {first second : List BridgeAction}
    (left : Unspoken first) (right : Unspoken second) :
    Unspoken (first ++ second) := by
  intro action member
  rcases List.mem_append.mp member with early | late
  · exact left action early
  · exact right action late

theorem unspoken_nil : Unspoken [] := by
  intro action member
  cases member

variable {reason : NotifyReason} {target : OutputTarget}

theorem unspoken_notify {report : StandardHidReport} :
    Unspoken [.notify target report reason] := by
  intro action member
  cases List.mem_singleton.mp member
  rfl

theorem unspoken_notifyIf {report : StandardHidReport} :
    Unspoken (BridgeState.notifyIf condition target report reason) := by
  unfold BridgeState.notifyIf
  split
  · exact unspoken_notify
  · exact unspoken_nil

theorem unspoken_releaseReports :
    Unspoken (bridge.releaseReports hostId reason) :=
  unspoken_notifyIf.append (unspoken_notifyIf.append unspoken_notifyIf)

theorem unspoken_neutralReports :
    Unspoken (BridgeState.neutralReports target reason) :=
  @Unspoken.append [_] _ unspoken_notify
    (@Unspoken.append [_] _ unspoken_notify unspoken_notify)

theorem unspoken_releaseActive :
    Unspoken (bridge.releaseActive active releasePrevious) := by
  unfold BridgeState.releaseActive
  split
  · rename_i target reason
    cases target with
    | ble hostId => exact unspoken_releaseReports
    | wired => exact unspoken_neutralReports
  · exact unspoken_nil

theorem unspoken_usbKeyboardLeds : Unspoken (bridge.usbKeyboardLeds leds) := by
  intro action member
  obtain ⟨sink, -, rfl⟩ := List.mem_map.mp member
  rfl

theorem unspoken_activeHostLeds : Unspoken (bridge.activeHostLeds build) := by
  unfold BridgeState.activeHostLeds
  split
  · exact unspoken_usbKeyboardLeds
  · split
    · exact unspoken_nil
    · exact unspoken_usbKeyboardLeds

theorem unspoken_wiredReset : Unspoken (bridge.wiredReset availability) := by
  unfold BridgeState.wiredReset
  split
  · exact unspoken_neutralReports.append unspoken_usbKeyboardLeds
  · exact unspoken_nil

theorem FrameApplied.unspoken
    (applied : FrameApplied build bridge aggregate frame input suppression
      out) : Unspoken out := by
  apply applied.ofParts
  · exact fun _ _ => Unspoken.append
  · intro kind carried part reported
    cases reported with
    | none => exact unspoken_nil
    | one => exact unspoken_notify

end

section

variable {spoken : Option HostId → Prop} {before now : Option HostId}
  {α : Type}

abbrev StaysPaired (spoken : Option HostId → Prop)
    (before now : Option HostId) (program : BridgeM actions α) : Prop :=
  Leads (Paired spoken before now) program (Paired spoken before now)

theorem paired_get : StaysPaired spoken before now
    (get : BridgeM actions (BridgeWork actions)) :=
  leads_of_keeps keeps_get

theorem paired_pure (value : α) :
    StaysPaired spoken before now (pure value : BridgeM actions α) :=
  leads_pure fun _ paired => paired

theorem paired_pushActions (unspoken : Unspoken list) :
    StaysPaired spoken before now (@pushActions actions list) := by
  intro start done after paired finished
  obtain ⟨bridge, out⟩ := succeeds_pushActions finished
  refine ⟨bridge ▸ paired.pairable, ?_, ?_⟩
  · intro status member
    rw [out, List.mem_append] at member
    rcases member with old | new
    · exact paired.statuses status old
    · exact absurd (unspoken _ new) Bool.noConfusion
  · rw [out]
    exact paired.told.mono fun action member =>
      List.mem_append_left _ member

theorem paired_pushAction (unspoken : action.isStatus = false) :
    StaysPaired spoken before now (@pushAction actions action) := by
  have single : Unspoken [action] := by
    intro listed member
    cases List.mem_singleton.mp member
    exact unspoken
  intro start done after paired finished
  have pushed : Succeeds (pushActions [action]) start () after :=
    succeeds_bind.mpr ⟨done, after, finished, rfl⟩
  exact paired_pushActions single start () after paired pushed

theorem paired_pushFrom (unspoken : ∀ bridge, Unspoken (emit bridge)) :
    StaysPaired spoken before now (@pushFrom actions emit) :=
  leads_bind paired_get fun work => paired_pushActions (unspoken work.bridge)

theorem paired_pushStatus : StaysPaired (· = now) before now
    (@pushStatus actions) := by
  intro start done after paired finished
  obtain ⟨_, _, reading, pushed⟩ := succeeds_bind.mp finished
  obtain ⟨rfl, rfl⟩ := succeeds_get.mp reading
  obtain ⟨bridge, out⟩ := succeeds_pushActions pushed
  refine ⟨bridge ▸ paired.pairable, ?_, ?_⟩
  · intro status member
    rw [out, List.mem_append] at member
    rcases member with old | new
    · exact paired.statuses status old
    · cases List.mem_singleton.mp new
      exact paired.pairable
  · rw [out]
    exact paired.told.mono fun action member =>
      List.mem_append_left _ member

theorem paired_modify
    (same : ∀ bridge, (update bridge).pairableHost = bridge.pairableHost) :
    StaysPaired spoken before now (@modifyBridge actions update) :=
  leads_modify fun work paired =>
    ⟨(same work.bridge).trans paired.pairable, paired.statuses, paired.told⟩

theorem paired_updateHosts (operation : BleHostStateMachine →
      Except HostStateError (BleHostStateMachine × α)) :
    StaysPaired spoken before now (updateHosts operation : BridgeM actions α) :=
  leads_bind paired_get fun _ => leads_bind (leads_lift _ _) fun _ =>
    leads_bind (paired_modify fun _ => rfl) fun _ => paired_pure _

theorem paired_refresh : StaysPaired spoken before now
    (@refreshAvailability actions build) := by
  cases build with
  | single => exact paired_pure ()
  | dual => exact paired_modify fun _ => rfl

theorem paired_replace {ε : Type} {convert : ε → BridgeError}
    {compute : BridgeWork actions → Except ε BridgeState}
    {second : Unit → BridgeM actions α}
    (same : ∀ work next, compute work = .ok next →
      next.pairableHost = work.bridge.pairableHost)
    (rest : ∀ done, StaysPaired spoken before now (second done)) :
    StaysPaired spoken before now (do
      let work ← get
      let bridge ← InPlace.lift convert (compute work)
      let done ← modifyBridge fun _ => bridge
      second done) := by
  intro start value after paired finished
  simp only [succeeds_bind, succeeds_get, succeeds_lift] at finished
  obtain ⟨_, _, ⟨rfl, rfl⟩, bridge, _, ⟨computed, rfl⟩, done, middle, stored,
    ended⟩ := finished
  obtain rfl := succeeds_modify.mp stored
  refine rest done _ value after ?_ ended
  exact ⟨(same _ _ computed).trans paired.pairable, paired.statuses,
    paired.told⟩

theorem paired_capture : StaysPaired spoken before now (@capture actions) := by
  intro start done after paired finished
  simp only [capture, succeeds_bind, succeeds_get, succeeds_lift,
    captureSuppression_eq, Except.ok.injEq] at finished
  obtain ⟨_, _, ⟨rfl, rfl⟩, _, _, ⟨rfl, rfl⟩, stored⟩ := finished
  obtain rfl := succeeds_modify.mp stored
  exact ⟨paired.pairable, paired.statuses, paired.told⟩

theorem Paired.silent (paired : Paired (fun _ => False) before now work) :
    Paired spoken before now work :=
  ⟨paired.pairable, fun status member =>
    (paired.statuses status member).elim, paired.told⟩

end

section

variable {spoken : Option HostId → Prop} {before now : Option HostId}

theorem paired_handleInputFrame (frame : InputFrame) :
    StaysPaired spoken before now (@handleInputFrame actions build frame) := by
  cases frame with
  | vendor =>
      unfold handleInputFrame
      exact paired_modify fun _ => rfl
  | standard frame =>
      intro work done after paired finished
      simp only [handleInputFrame, handleStandardInputFrame, succeeds_bind,
        succeeds_get, succeeds_lift, succeeds_set] at finished
      obtain ⟨_, _, ⟨rfl, rfl⟩, prepared, _, ⟨preparation, rfl⟩, next, _,
        ⟨framed, rfl⟩, rfl⟩ := finished
      obtain ⟨list, applied, out⟩ := frameInput_spec framed
      refine ⟨paired.pairable, fun status member => ?_, ?_⟩
      · rw [out, List.mem_append] at member
        rcases member with old | new
        · exact paired.statuses status old
        · exact absurd (applied.unspoken _ new) Bool.noConfusion
      · refine paired.told.mono fun action member => ?_
        rw [out]
        exact List.mem_append_left _ member

theorem paired_transitionBleTarget (target : HostId)
    (releasePrevious : Option NotifyReason) :
    StaysPaired spoken before now
      (transitionBleTarget target releasePrevious : BridgeM actions Bool) := by
  refine leads_bind paired_get fun work => leads_ite (paired_pure _) ?_
  refine leads_bind (paired_pushActions unspoken_releaseActive) fun _ =>
    leads_bind paired_capture fun _ => ?_
  refine leads_bind (paired_updateHosts _) fun _ =>
    leads_bind (paired_pushAction rfl) fun _ => ?_
  refine leads_bind (paired_pushFrom fun _ => unspoken_activeHostLeds)
    fun _ => ?_
  exact leads_bind (paired_pushAction rfl) fun _ => paired_pure _

theorem paired_selectTarget (target : OutputTarget) :
    StaysPaired spoken before now
      (selectTarget target : BridgeM actions UInt32) :=
  leads_bind paired_get fun _ => leads_bind (leads_lift _ _) fun _ =>
    leads_bind (paired_modify fun _ => rfl) fun _ => paired_pure _

theorem paired_activateTarget (operationId : UInt32) (target : OutputTarget) :
    StaysPaired spoken before now
      (@activateTarget actions operationId target) := by
  cases target with
  | wired =>
      refine leads_bind (paired_modify fun _ => rfl) fun _ =>
        leads_bind (paired_pushAction rfl) fun _ => ?_
      exact leads_bind (paired_modify fun _ => rfl) fun _ =>
        paired_pushFrom fun _ => unspoken_wiredReset
  | ble hostId =>
      refine leads_bind (paired_updateHosts _) fun _ =>
        leads_bind (paired_pushAction rfl) fun _ => ?_
      refine leads_bind (paired_pushAction rfl) fun _ => leads_bind
        (paired_pushFrom fun _ => unspoken_activeHostLeds) fun _ => ?_
      exact @paired_refresh _ .dual _ _ _

theorem paired_transitionOutputTarget (target : OutputTarget)
    (releasePrevious : Option NotifyReason) :
    StaysPaired (· = now) before now (@transitionOutputTarget actions target
      releasePrevious) := by
  refine leads_bind (leads_lift _ _) fun _ => leads_bind paired_get fun work =>
    leads_ite paired_pushStatus ?_
  refine leads_bind (paired_pushActions unspoken_releaseActive) fun _ =>
    leads_bind paired_capture fun _ => ?_
  refine leads_bind (paired_selectTarget _) fun _ =>
    leads_bind (paired_activateTarget _ _) fun _ => ?_
  exact leads_bind (paired_pushAction rfl) fun _ => paired_pushStatus

theorem paired_switchTarget (target : HostId) :
    StaysPaired (· = now) before now (@switchTarget actions build target) := by
  cases build with
  | dual => exact paired_transitionOutputTarget _ _
  | single =>
      exact leads_bind (paired_transitionBleTarget _ _) fun _ =>
        paired_pushStatus

theorem paired_wiredAvailabilityChanged
    (availability : OutputTargetAvailability) :
    StaysPaired (· = now) before now
      (@wiredAvailabilityChanged actions availability) := by
  refine leads_bind (paired_modify fun _ => rfl) fun _ =>
    leads_bind paired_get fun _ => leads_bind (leads_whenever ?_) fun _ =>
      paired_pushStatus
  exact leads_bind (paired_modify fun _ => rfl) fun _ =>
    paired_pushFrom fun _ => unspoken_wiredReset

theorem paired_fallBack (shouldFallback : Bool) (hostId : HostId) :
    StaysPaired (· = now) before now
      (@fallBack actions build shouldFallback hostId) := by
  refine leads_bind paired_get fun work => ?_
  dsimp only
  split
  · exact leads_bind (paired_transitionBleTarget _ _) fun _ =>
      paired_pushStatus
  · exact paired_transitionOutputTarget _ _
  · exact paired_pushStatus

theorem paired_hostDisconnected (hostId : HostId) :
    StaysPaired (· = now) before now (@hostDisconnected actions build hostId) :=
  leads_bind paired_get fun _ => leads_bind (paired_modify fun _ => rfl)
    fun _ => leads_bind paired_refresh fun _ => paired_fallBack _ _

theorem paired_persist (persist : Bool) :
    StaysPaired spoken before now (InPlace.when (persist = true)
      (pushAction .persistProfiles) : BridgeM actions Unit) :=
  leads_whenever (paired_pushAction rfl)

theorem paired_emitDetachUpdates (hostId : HostId)
    (previousInput : PhysicalInputState) (reason : NotifyReason) :
    StaysPaired spoken before now
      (@emitDetachUpdates actions hostId previousInput
      reason) := by
  apply paired_replace
  · intro work next pruned
    obtain ⟨suppression, rfl, -⟩ := pruneKeyboard_spec pruned
    rfl
  intro _
  refine leads_bind (paired_pushFrom fun _ => unspoken_notifyIf) fun _ =>
    leads_bind (paired_modify fun _ => rfl) fun _ => ?_
  refine leads_bind (paired_pushFrom fun _ => unspoken_notifyIf) fun _ =>
    leads_bind (paired_modify fun _ => rfl) fun _ => ?_
  exact paired_pushFrom fun _ => unspoken_notifyIf

theorem paired_adoptAggregate (previousInput : PhysicalInputState) :
    StaysPaired spoken before now (@adoptAggregate actions previousInput) := by
  refine leads_bind (paired_modify fun _ => rfl) fun _ =>
    leads_bind paired_get fun work => ?_
  cases work.bridge.hosts.activeTarget with
  | some hostId => exact paired_emitDetachUpdates _ _ _
  | none => exact paired_pure ()

theorem paired_usbDeviceRemoved (interfaceId : InterfaceId) :
    StaysPaired (· = now) before now
      (@usbDeviceRemoved actions interfaceId) := by
  refine leads_bind paired_get fun _ => leads_bind (paired_modify ?_)
    fun _ => leads_bind (paired_modify fun _ => rfl) fun _ => ?_
  · intro bridge
    obtain ⟨interfaces, removed⟩ :=
      removeUsbHidInterface_spec bridge interfaceId
    rw [removed]
  · exact leads_bind (paired_adoptAggregate _) fun _ => paired_pushStatus

theorem paired_resetInputDevice (deviceId : DeviceId) :
    StaysPaired spoken before now (@resetInputDevice actions deviceId) :=
  leads_bind paired_get fun _ => leads_bind (paired_modify fun _ => rfl)
    fun _ => leads_whenever (paired_adoptAggregate _)

theorem paired_usbHidInterfaceConnected
    (registration : UsbHidInterfaceRegistration) :
    StaysPaired spoken before now (do
      let bridge ← InPlace.lift id
        ((← get).bridge.upsertUsbHidInterface registration)
      modifyBridge fun _ => bridge
      pushFrom (·.activeHostLeds build) : BridgeM actions Unit) := by
  apply paired_replace
  · intro work next upserted
    obtain ⟨interfaces, rfl⟩ := upsertUsbHidInterface_spec upserted
    rfl
  · exact fun _ => paired_pushFrom fun _ => unspoken_activeHostLeds

end

section

variable {pairable : Option HostId}

section

variable (hostId : HostId)

theorem withdrawPairing_paired :
    Leads (Paired (fun _ => False) pairable pairable)
      (@withdrawPairing actions hostId)
      (Paired (fun _ => False) pairable
        (if pairable = some hostId then none else pairable)) := by
  intro start done after paired finished
  obtain ⟨_, _, reading, withdrawn⟩ := succeeds_bind.mp finished
  obtain ⟨rfl, rfl⟩ := succeeds_get.mp reading
  rw [paired.pairable] at withdrawn
  rcases succeeds_when.mp withdrawn with ⟨held, ran⟩ | ⟨other, rfl⟩
  · rw [if_pos held]
    obtain ⟨_, cleared, clearing, pushed⟩ := succeeds_bind.mp ran
    obtain rfl := succeeds_modify.mp clearing
    obtain ⟨bridge, out⟩ := succeeds_pushAction.mp pushed
    refine ⟨by rw [bridge], ?_, ?_, ?_⟩
    · intro status member
      rw [out, List.mem_append] at member
      rcases member with old | new
      · exact paired.statuses status old
      · cases List.mem_singleton.mp new
    · intro rejected was _
      rw [held] at was
      cases was
      rw [out]
      exact List.mem_append_right _ (List.mem_singleton_self _)
    · intro allowed is _
      cases is
  · rw [if_neg other]
    exact paired

theorem expirePairingMode_paired :
    Leads (Paired (fun _ => False) pairable pairable)
      (@expirePairingMode actions hostId)
      (Paired (· = (if pairable = some hostId then none else pairable))
        pairable (if pairable = some hostId then none else pairable)) := by
  intro start done after paired finished
  obtain ⟨_, _, reading, expired⟩ := succeeds_bind.mp finished
  obtain ⟨rfl, rfl⟩ := succeeds_get.mp reading
  rw [paired.pairable] at expired
  rcases succeeds_when.mp expired with ⟨-, ran⟩ | ⟨other, rfl⟩
  · obtain ⟨_, middle, withdrawing, status⟩ := succeeds_bind.mp ran
    have withdrawn :=
      withdrawPairing_paired hostId start () middle paired withdrawing
    exact paired_pushStatus middle done after withdrawn.silent status
  · rw [if_neg other]
    exact paired.silent

theorem hostSecurityChanged_paired
    (encrypted bonded : Bool) (bond : Option StoredBond) :
    Leads (Paired (fun _ => False) pairable pairable)
      (@hostSecurityChanged actions build hostId encrypted bonded bond)
      (Paired (· = (BridgeEvent.pairableAfter pairable
          (.hostSecurityChanged hostId encrypted bonded bond :
            BridgeEvent build)))
        pairable (BridgeEvent.pairableAfter pairable
          (.hostSecurityChanged hostId encrypted bonded bond :
            BridgeEvent build))) := by
  refine leads_bind (paired_updateHosts _) fun persist =>
    leads_bind (paired_persist persist) fun _ => ?_
  cases bonded with
  | false =>
      refine leads_bind (paired_pure ()) fun _ =>
        leads_bind paired_refresh fun _ => ?_
      exact leads_weaken paired_pushStatus fun _ paired => paired.silent
  | true =>
      refine leads_bind (withdrawPairing_paired hostId) fun _ =>
        leads_bind paired_refresh fun _ => ?_
      exact leads_weaken paired_pushStatus fun _ paired => paired.silent

theorem clearHost_paired :
    Leads (Paired (fun _ => False) pairable pairable)
      (@clearHost actions build hostId)
      (Paired (· = (if pairable = some hostId then none else pairable))
        pairable (if pairable = some hostId then none else pairable)) := by
  refine leads_bind paired_get fun work => leads_bind
    (leads_whenever (paired_pushActions unspoken_releaseReports)) fun _ => ?_
  refine leads_bind (withdrawPairing_paired hostId) fun _ =>
    leads_bind (paired_modify fun _ => rfl) fun _ => ?_
  refine leads_weaken (leads_whenever ?_) fun _ paired => paired.silent
  have told : Unspoken [.clearBond hostId
      ((work.bridge.hosts.host hostId).bind (·.bond)), .persistProfiles] := by
    intro action member
    simp only [List.mem_cons, List.not_mem_nil, or_false] at member
    rcases member with rfl | rfl <;> rfl
  refine leads_bind (paired_pushActions told) fun _ => leads_bind
    (leads_whenever (paired_pushFrom fun _ => unspoken_usbKeyboardLeds))
    fun _ => paired_pushStatus

theorem enterPairingMode_paired :
    Leads (Paired (fun _ => False) pairable pairable)
      (@enterPairingMode actions hostId)
      (Paired (· = some hostId) pairable (some hostId)) := by
  intro start done after paired finished
  simp only [enterPairingMode, succeeds_bind, succeeds_get] at finished
  obtain ⟨_, _, ⟨rfl, rfl⟩, _, first, stored, _, second, rejected, _, third,
    allowed, status⟩ := finished
  obtain rfl := succeeds_modify.mp stored
  obtain ⟨secondBridge, secondOut⟩ := succeeds_pushActions rejected
  obtain ⟨thirdBridge, thirdOut⟩ := succeeds_pushAction.mp allowed
  have changed : Paired (· = some hostId) pairable (some hostId) third := by
    have out : third.out.toList = start.out.toList ++
        ((pairable.filter (· ≠ hostId)).toList.map .rejectPairing ++
          [.allowPairing hostId]) := by
      rw [thirdOut, secondOut, paired.pairable, List.append_assoc]
    refine ⟨by rw [thirdBridge, secondBridge], ?_, ?_, ?_⟩
    · intro status member
      rw [out, List.mem_append] at member
      rcases member with old | new
      · exact (paired.statuses status old).elim
      · simp at new
    · intro previous was other
      rw [out, was]
      apply List.mem_append_right
      apply List.mem_append_left
      have differs : previous ≠ hostId := fun same =>
        other (congrArg some same.symm)
      simp [Option.filter, differs]
    · intro entered is _
      cases is
      rw [out]
      apply List.mem_append_right
      exact List.mem_append_right _ (List.mem_singleton_self _)
  exact paired_pushStatus third done after changed status

end

end

/-- An event that succeeds leaves the permission it should, tells the radio of
the change and reports no other status. -/
theorem handleEventInPlace_paired (event : BridgeEvent build)
    (pairable : Option HostId) :
    Leads (Paired (fun _ => False) pairable pairable)
      (@handleEventInPlace actions build event)
      (Paired (· = event.pairableAfter pairable) pairable
        (event.pairableAfter pairable)) := by
  have quiet : ∀ {program : BridgeM actions Unit},
      StaysPaired (· = pairable) pairable pairable program →
      Leads (Paired (fun _ => False) pairable pairable) program
        (Paired (· = pairable) pairable pairable) := by
    intro program stays
    exact leads_weaken stays fun _ paired => paired.silent
  cases event with
  | inputFrame frame => exact quiet (paired_handleInputFrame frame)
  | usbDeviceRemoved interfaceId =>
      exact quiet (paired_usbDeviceRemoved interfaceId)
  | resetInputDevice deviceId => exact quiet (paired_resetInputDevice deviceId)
  | usbHidInterfaceConnected interfaceId deviceId keyboardLedSink =>
      exact quiet (paired_usbHidInterfaceConnected _)
  | hostConnected hostId =>
      refine quiet (leads_bind (paired_updateHosts _) fun _ => ?_)
      exact leads_bind paired_refresh fun _ => paired_pushStatus
  | hostDisconnected hostId => exact quiet (paired_hostDisconnected hostId)
  | hostSecurityChanged hostId encrypted bonded bond =>
      exact hostSecurityChanged_paired hostId encrypted bonded bond
  | cccdChanged hostId report enabled =>
      refine quiet (leads_bind (paired_updateHosts _) fun persist =>
        leads_bind (paired_persist persist) fun _ => ?_)
      exact leads_bind paired_refresh fun _ => paired_pushStatus
  | hostKeyboardLedChanged hostId leds =>
      refine quiet (leads_bind (paired_updateHosts _) fun _ =>
        leads_bind paired_get fun _ => leads_whenever ?_)
      exact paired_pushFrom fun _ => unspoken_usbKeyboardLeds
  | setHostName hostId name =>
      refine quiet (leads_bind (paired_updateHosts _) fun persist => ?_)
      exact leads_bind (paired_persist persist) fun _ => paired_pushStatus
  | enterPairingMode hostId => exact enterPairingMode_paired hostId
  | pairingModeExpired hostId => exact expirePairingMode_paired hostId
  | clearHost hostId => exact clearHost_paired hostId
  | switchTarget target => exact quiet (paired_switchTarget target)
  | selectOutputTarget target =>
      exact quiet (paired_transitionOutputTarget target _)
  | wiredAvailabilityChanged availability =>
      exact quiet (paired_wiredAvailabilityChanged availability)
  | wiredKeyboardLedChanged leds =>
      refine quiet (leads_bind (paired_modify fun _ => rfl) fun _ =>
        leads_bind paired_get fun _ => leads_whenever ?_)
      exact paired_pushFrom fun _ => unspoken_usbKeyboardLeds

end HidShift
