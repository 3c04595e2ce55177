import HidShift.Bridge.InputAggregate
import HidShift.Bridge.Storage

namespace HidShift

open Lib InPlace

variable {actions : Nat}

def BridgeState.TargetReady (bridge : BridgeState) : OutputTarget → Prop
  | .wired => bridge.wiredAvailability = .ready
  | .ble hostId => bridge.bleTargetReady hostId = true

def HostsAgree (bridge : BridgeState) : Prop :=
  ∀ hostId, bridge.hosts.activeTarget = some hostId ↔
    bridge.outputTarget.selected = .ble hostId

structure TargetsConsistent (bridge : BridgeState) : Prop where
  active : ∀ target, bridge.outputTarget.active = some target →
    target = bridge.outputTarget.selected ∧ bridge.TargetReady target
  hosts : HostsAgree bridge

section

variable {bridge next : BridgeState}

theorem targetReady_congr (canSend : ∀ hostId kind, next.canSend hostId kind =
      bridge.canSend hostId kind)
    (wired : next.wiredAvailability = bridge.wiredAvailability)
    (target : OutputTarget) :
    next.TargetReady target ↔ bridge.TargetReady target := by
  cases target with
  | wired => simp only [BridgeState.TargetReady, wired]
  | ble hostId =>
      simp only [BridgeState.TargetReady, BridgeState.bleTargetReady, canSend]

theorem HostsAgree.of_same (agree : HostsAgree bridge)
    (activeTarget : next.hosts.activeTarget = bridge.hosts.activeTarget)
    (selected : next.outputTarget.selected = bridge.outputTarget.selected) :
    HostsAgree next := by
  intro hostId
  rw [activeTarget, selected]
  exact agree hostId

theorem TargetsConsistent.of_same (agree : TargetsConsistent bridge)
    (canSend : ∀ hostId kind, next.canSend hostId kind =
      bridge.canSend hostId kind)
    (activeTarget : next.hosts.activeTarget = bridge.hosts.activeTarget)
    (outputTarget : next.outputTarget = bridge.outputTarget)
    (wired : next.wiredAvailability = bridge.wiredAvailability) :
    TargetsConsistent next := by
  refine ⟨fun target active => ?_,
    agree.hosts.of_same activeTarget (congrArg _ outputTarget)⟩
  rw [outputTarget] at active ⊢
  obtain ⟨selected, ready⟩ := agree.active target active
  exact ⟨selected, (targetReady_congr canSend wired target).mpr ready⟩

theorem TargetsConsistent.of_untouched (agree : TargetsConsistent bridge)
    (hosts : next.hosts = bridge.hosts)
    (outputTarget : next.outputTarget = bridge.outputTarget)
    (wired : next.wiredAvailability = bridge.wiredAvailability) :
    TargetsConsistent next := by
  refine agree.of_same ?_ (congrArg _ hosts) outputTarget wired
  intro hostId kind
  simp only [BridgeState.canSend, hosts]

theorem TargetsConsistent.of_inactive
    (inactive : bridge.outputTarget.active = none)
    (agree : HostsAgree bridge) : TargetsConsistent bridge := by
  refine ⟨fun target active => ?_, agree⟩
  rw [inactive] at active
  cases active

theorem setAvailability_active {state : OutputTargetState}
    (active : (state.setAvailability availability).active = some target) :
    target = state.selected ∧ availability = .ready := by
  cases availability with
  | ready =>
      cases active
      exact ⟨rfl, rfl⟩
  | connectedNotReady => cases active
  | unavailable => cases active

theorem targetReady_of_availability
    (available : bridge.selectedTargetAvailability = .ready) :
    bridge.TargetReady bridge.outputTarget.selected := by
  unfold BridgeState.selectedTargetAvailability at available
  split at available
  · rename_i selected
    rw [selected]
    exact available
  · rename_i hostId selected
    rw [selected]
    split at available
    · assumption
    · split at available <;> cases available

theorem HostsAgree.refreshed (agree : HostsAgree bridge) :
    TargetsConsistent bridge.refreshSelectedTargetAvailability := by
  refine ⟨fun target active => ?_, agree.of_same rfl rfl⟩
  obtain ⟨rfl, available⟩ := setAvailability_active active
  refine ⟨rfl, ?_⟩
  apply (targetReady_congr _ _ _).mpr (targetReady_of_availability available)
  · exact fun _ _ => rfl
  · rfl

end

section

def OnBridge (condition : BridgeState → Prop) (work : BridgeWork actions) :
    Prop :=
  condition work.bridge

abbrev WorkConsistent : BridgeWork actions → Prop :=
  OnBridge TargetsConsistent

theorem keeps_consistent_modify
    (hosts : ∀ bridge, (update bridge).hosts = bridge.hosts)
    (outputTarget : ∀ bridge,
      (update bridge).outputTarget = bridge.outputTarget)
    (wired : ∀ bridge,
      (update bridge).wiredAvailability = bridge.wiredAvailability) :
    Keeps WorkConsistent (@modifyBridge actions update) := by
  apply keeps_modifyBridge
  intro bridge agree
  exact agree.of_untouched (hosts bridge) (outputTarget bridge) (wired bridge)

theorem leads_modifyBridge
    (reached : ∀ bridge, pre bridge → post (update bridge)) :
    Leads (OnBridge pre) (@modifyBridge actions update) (OnBridge post) :=
  leads_modify fun work holds => reached work.bridge holds

theorem leads_updateHosts {α : Type} {pre post : BridgeState → Prop}
    {operation : BleHostStateMachine →
      Except HostStateError (BleHostStateMachine × α)}
    (reached : ∀ bridge hosts value, pre bridge →
      operation bridge.hosts = .ok (hosts, value) →
        post { bridge with hosts := hosts }) :
    Leads (OnBridge pre) (updateHosts operation : BridgeM actions α)
      (OnBridge post) := by
  intro before value after holds finished
  obtain ⟨hosts, done, bridge, -⟩ := sent_updateHosts finished
  rw [OnBridge, bridge]
  exact reached before.bridge hosts value holds done

theorem leads_refreshAvailability :
    Leads (OnBridge HostsAgree) (@refreshAvailability actions .dual)
      WorkConsistent :=
  leads_modifyBridge fun _ agree => agree.refreshed

theorem leads_storeHost {α : Type}
    {operation : BleHostStateMachine →
      Except HostStateError (BleHostStateMachine × α)}
    (activeTarget : ∀ machine hosts value,
      operation machine = .ok (hosts, value) →
        hosts.activeTarget = machine.activeTarget) :
    Leads WorkConsistent
      (updateHosts operation : BridgeM actions α) (OnBridge HostsAgree) := by
  apply leads_updateHosts
  intro bridge hosts value agree done
  exact agree.hosts.of_same (activeTarget _ _ _ done) rfl

end

section

theorem consistent_capture : Keeps WorkConsistent (@capture actions) := by
  apply keeps_get_bind
  intro work agree
  rw [captureSuppression_eq]
  exact TargetsConsistent.of_untouched agree rfl rfl rfl

theorem consistent_handleInputFrame (build : Build) (frame : InputFrame) :
    Keeps WorkConsistent (@handleInputFrame actions build frame) := by
  cases frame with
  | vendor =>
      unfold handleInputFrame
      exact keeps_consistent_modify (fun _ => rfl) (fun _ => rfl) fun _ => rfl
  | standard frame =>
      intro work agree
      cases finished : (handleInputFrame build (.standard frame)).run work with
      | ok _ after =>
          rw [outcome_of_ok finished]
          change Succeeds (handleStandardInputFrame build frame) _ _ _
            at finished
          simp only [handleStandardInputFrame, succeeds_bind, succeeds_get,
            succeeds_lift, succeeds_set] at finished
          obtain ⟨_, _, ⟨rfl, rfl⟩, prepared, _, ⟨-, rfl⟩, next, _,
            ⟨-, rfl⟩, rfl⟩ := finished
          exact TargetsConsistent.of_untouched agree rfl rfl rfl
      | error error after =>
          rw [outcome_of_error finished, handleInputFrame_error finished]
          exact agree

theorem consistent_withdrawPairing (hostId : HostId) :
    Keeps WorkConsistent (@withdrawPairing actions hostId) := by
  refine keeps_bind keeps_get fun work => keeps_when ?_
  refine keeps_bind (keeps_consistent_modify ?_ ?_ ?_) fun _ =>
    keeps_pushAction _
  · exact fun _ => rfl
  · exact fun _ => rfl
  · exact fun _ => rfl

theorem consistent_enterPairingMode (hostId : HostId) :
    Keeps WorkConsistent (@enterPairingMode actions hostId) := by
  refine keeps_bind keeps_get fun work => ?_
  refine keeps_bind (keeps_consistent_modify (fun _ => rfl) (fun _ => rfl)
    fun _ => rfl) fun _ => keeps_bind (keeps_pushActions _) fun _ => ?_
  exact keeps_bind (keeps_pushAction _) fun _ => keeps_pushStatus

theorem consistent_adoptAggregate (previousInput : PhysicalInputState) :
    Keeps WorkConsistent (@adoptAggregate actions previousInput) := by
  refine keeps_bind (keeps_consistent_modify (fun _ => rfl) (fun _ => rfl)
    fun _ => rfl) fun _ => keeps_bind keeps_get fun work => ?_
  cases work.bridge.hosts.activeTarget with
  | some hostId =>
      exact keeps_emitDetachUpdates (fun _ _ agree =>
        TargetsConsistent.of_untouched agree rfl rfl rfl) _ _ _
  | none => exact keeps_pure ()

theorem removeUsbHidInterface_spec (bridge : BridgeState)
    (interfaceId : InterfaceId) :
    ∃ interfaces, bridge.removeUsbHidInterface interfaceId =
      { bridge with usbHidInterfaces := interfaces } := by
  unfold BridgeState.removeUsbHidInterface
  split
  · exact ⟨_, rfl⟩
  · exact ⟨_, rfl⟩

theorem consistent_usbDeviceRemoved (interfaceId : InterfaceId) :
    Keeps WorkConsistent (@usbDeviceRemoved actions interfaceId) := by
  refine keeps_bind keeps_get fun work => ?_
  refine keeps_bind (keeps_modifyBridge ?_) fun _ => ?_
  · intro bridge agree
    obtain ⟨interfaces, removed⟩ :=
      removeUsbHidInterface_spec bridge interfaceId
    rw [removed]
    exact TargetsConsistent.of_untouched agree rfl rfl rfl
  · refine keeps_bind (keeps_consistent_modify (fun _ => rfl) (fun _ => rfl)
      fun _ => rfl) fun _ => ?_
    exact keeps_bind (consistent_adoptAggregate _) fun _ => keeps_pushStatus

theorem consistent_resetInputDevice (deviceId : DeviceId) :
    Keeps WorkConsistent (@resetInputDevice actions deviceId) := by
  refine keeps_bind keeps_get fun work => ?_
  refine keeps_bind (keeps_consistent_modify (fun _ => rfl) (fun _ => rfl)
    fun _ => rfl) fun _ => ?_
  exact keeps_when (consistent_adoptAggregate _)

theorem consistent_usbHidInterfaceConnected (build : Build)
    (registration : UsbHidInterfaceRegistration) :
    Keeps WorkConsistent (do
      let bridge ← InPlace.lift id
        ((← get).bridge.upsertUsbHidInterface registration)
      modifyBridge fun _ => bridge
      pushFrom (·.activeHostLeds build) : BridgeM actions Unit) := by
  apply keeps_get_bind
  intro work agree
  cases upserted : work.bridge.upsertUsbHidInterface registration with
  | error error => exact agree
  | ok bridge =>
      obtain ⟨interfaces, rfl⟩ := upsertUsbHidInterface_spec upserted
      exact keeps_pushFrom _ _
        (TargetsConsistent.of_untouched agree rfl rfl rfl)

theorem consistent_wiredKeyboardLedChanged (leds : KeyboardLedState) :
    Keeps WorkConsistent (do
      modifyBridge fun bridge => { bridge with wiredKeyboardLeds := leds }
      InPlace.when ((← get).bridge.outputTarget.selected = .wired)
        (pushFrom (·.usbKeyboardLeds leds)) : BridgeM actions Unit) := by
  refine keeps_bind (keeps_consistent_modify (fun _ => rfl) (fun _ => rfl)
    fun _ => rfl) fun _ => ?_
  exact keeps_bind keeps_get fun _ => keeps_when (keeps_pushFrom _)

end

section

theorem consistent_selectTarget (target : OutputTarget) :
    Leads WorkConsistent (selectTarget target : BridgeM actions UInt32)
      (OnBridge fun bridge => bridge.outputTarget.selected = target) := by
  intro before operationId after _ finished
  obtain ⟨⟨outputTarget, selected, bridge⟩, -⟩ := selectTarget_spec finished
  rw [OnBridge, bridge]
  exact selected

def WiredSelected (bridge : BridgeState) : Prop :=
  HostsAgree bridge ∧ bridge.outputTarget.selected = .wired

theorem consistent_activateTarget (operationId : UInt32)
    (target : OutputTarget) :
    Leads (OnBridge fun bridge => bridge.outputTarget.selected = target)
      (@activateTarget actions operationId target)
      WorkConsistent := by
  cases target with
  | wired =>
      have cleared : ∀ bridge : BridgeState,
          bridge.outputTarget.selected = .wired →
            WiredSelected { bridge with
              hosts := bridge.hosts.clearActiveTarget } := by
        intro bridge selected
        refine ⟨fun hostId => ?_, selected⟩
        simp [BleHostStateMachine.clearActiveTarget, selected]
      have refreshed : ∀ bridge : BridgeState,
          WiredSelected bridge → TargetsConsistent { bridge with
            outputTarget := bridge.outputTarget.setAvailability
              bridge.wiredAvailability } := by
        rintro bridge ⟨agree, selected⟩
        have consistent := agree.refreshed
        simp only [BridgeState.refreshSelectedTargetAvailability,
          BridgeState.selectedTargetAvailability, selected] at consistent
        exact consistent
      refine leads_bind (leads_modifyBridge cleared) fun _ => ?_
      refine leads_bind (leads_of_keeps (keeps_pushAction _)) fun _ => ?_
      exact leads_bind (leads_modifyBridge refreshed) fun _ =>
        leads_of_keeps (keeps_pushFrom _)
  | ble hostId =>
      have activated : ∀ (bridge : BridgeState) (hosts : BleHostStateMachine)
          (value : Unit), bridge.outputTarget.selected = .ble hostId →
          (·, ()) <$> bridge.hosts.setActiveTarget hostId = .ok (hosts, value) →
          HostsAgree { bridge with hosts := hosts } := by
        intro bridge hosts value selected done other
        obtain ⟨machine, set, same⟩ := map_eq_ok.mp done
        cases same
        rw [(BleHostStateMachine.setActiveTarget_spec set).1]
        simp only [selected, Option.some.injEq, OutputTarget.ble.injEq]
      refine leads_bind (leads_updateHosts activated) fun _ => ?_
      refine leads_bind (leads_of_keeps (keeps_pushAction _)) fun _ => ?_
      refine leads_bind (leads_of_keeps (keeps_pushAction _)) fun _ => ?_
      exact leads_bind (leads_of_keeps (keeps_pushFrom _)) fun _ =>
        leads_refreshAvailability

theorem consistent_transitionOutputTarget (target : OutputTarget)
    (releasePrevious : Option NotifyReason) :
    Leads WorkConsistent
      (@transitionOutputTarget actions target releasePrevious)
      WorkConsistent := by
  intro before result after agree finished
  simp only [transitionOutputTarget, succeeds_bind, succeeds_get,
    succeeds_lift, succeeds_ite] at finished
  obtain ⟨_, _, ⟨-, rfl⟩, _, _, ⟨rfl, rfl⟩, ⟨-, status⟩ | ⟨-, rest⟩⟩ :=
    finished
  · exact leads_of_keeps keeps_pushStatus _ _ _ agree status
  · obtain ⟨_, first, released, _, second, captured, operationId, third,
      selection, _, fourth, activated, _, fifth, persisted, status⟩ := rest
    have releasedAgree : WorkConsistent first :=
      leads_of_keeps (keeps_pushActions _) _ _ _ agree released
    have capturedAgree : WorkConsistent second :=
      leads_of_keeps consistent_capture _ _ _ releasedAgree captured
    have selected := consistent_selectTarget target _ _ _ capturedAgree
      selection
    have activatedAgree : WorkConsistent fourth :=
      consistent_activateTarget operationId target _ _ _ selected activated
    have persistedAgree : WorkConsistent fifth :=
      leads_of_keeps (keeps_pushAction _) _ _ _ activatedAgree persisted
    exact leads_of_keeps keeps_pushStatus _ _ _ persistedAgree status

theorem consistent_wiredAvailabilityChanged
    (availability : OutputTargetAvailability) :
    Leads WorkConsistent (@wiredAvailabilityChanged actions availability)
      WorkConsistent := by
  intro before result after agree finished
  simp only [wiredAvailabilityChanged, succeeds_bind, succeeds_get,
    succeeds_when] at finished
  obtain ⟨_, first, stored, _, _, ⟨rfl, rfl⟩, _, second, changed, status⟩ :=
    finished
  obtain ⟨storedBridge, -⟩ := sent_modifyBridge stored
  refine leads_of_keeps keeps_pushStatus _ _ _ ?_ status
  rcases changed with ⟨selected, _, third, updated, reset⟩ | ⟨otherwise, rfl⟩
  · refine leads_of_keeps (keeps_pushFrom _) _ _ _ ?_ reset
    obtain ⟨updatedBridge, -⟩ := sent_modifyBridge updated
    have hosts : HostsAgree first.bridge := by
      rw [storedBridge]
      exact agree.hosts
    have refreshed := hosts.refreshed
    have available : first.bridge.selectedTargetAvailability =
        availability := by
      simp only [BridgeState.selectedTargetAvailability, selected]
      rw [storedBridge]
    rw [BridgeState.refreshSelectedTargetAvailability, available,
      ← updatedBridge] at refreshed
    exact refreshed
  · -- A selected host does not depend on the wired computer.
    rw [storedBridge] at otherwise
    show TargetsConsistent first.bridge
    rw [storedBridge]
    refine ⟨fun target active => ?_, agree.hosts⟩
    obtain ⟨selected, ready⟩ := agree.active target active
    refine ⟨selected, ?_⟩
    cases target with
    | wired => exact absurd selected.symm otherwise
    | ble hostId => exact ready

theorem consistent_fallBack (shouldFallback : Bool) (hostId : HostId) :
    Leads WorkConsistent (@fallBack actions .dual shouldFallback hostId)
      WorkConsistent := by
  apply leads_get_bind
  rintro work agree current result after rfl finished
  dsimp only at finished
  split at finished
  · contradiction
  · exact consistent_transitionOutputTarget _ _ _ _ _ agree finished
  · exact leads_of_keeps keeps_pushStatus _ _ _ agree finished

section

variable (hostId : HostId)

theorem consistent_hostDisconnected :
    Leads WorkConsistent (@hostDisconnected actions .dual hostId)
      WorkConsistent := by
  intro before result after agree finished
  simp only [hostDisconnected, succeeds_bind, succeeds_get] at finished
  obtain ⟨_, _, ⟨rfl, rfl⟩, _, first, stored, _, second, refreshed, fallen⟩ :=
    finished
  have hosts : OnBridge HostsAgree first := by
    rw [OnBridge, (sent_modifyBridge stored).1]
    exact agree.hosts.of_same
      BleHostStateMachine.onDisconnected_activeTarget rfl
  exact consistent_fallBack _ _ _ _ _
    (leads_refreshAvailability _ _ _ hosts refreshed) fallen

theorem consistent_hostConnected :
    Leads WorkConsistent (do
      updateHosts fun hosts => (·, ()) <$> hosts.onConnected hostId
      refreshAvailability .dual
      pushStatus : BridgeM actions Unit) WorkConsistent := by
  refine leads_bind (leads_storeHost ?_) fun _ => ?_
  · intro machine hosts value done
    obtain ⟨connected, success, same⟩ := map_eq_ok.mp done
    cases same
    exact BleHostStateMachine.onConnected_activeTarget success
  · exact leads_bind leads_refreshAvailability fun _ =>
      leads_of_keeps keeps_pushStatus

theorem consistent_hostSecurityChanged
    (encrypted bonded : Bool) (bond : Option StoredBond) :
    Leads WorkConsistent
      (@hostSecurityChanged actions .dual hostId encrypted bonded bond)
      WorkConsistent := by
  refine leads_bind (leads_storeHost fun _ _ _ done =>
    BleHostStateMachine.onSecurityChanged_activeTarget done) fun _ => ?_
  refine leads_bind (leads_of_keeps (keeps_when (keeps_pushAction _)))
    fun _ => leads_bind (leads_of_keeps (keeps_when ?_)) fun _ => ?_
  · refine keeps_bind keeps_get fun work => keeps_when ?_
    exact keeps_bind (keeps_modifyBridge fun _ agree =>
      HostsAgree.of_same agree rfl rfl) fun _ => keeps_pushAction _
  · exact leads_bind leads_refreshAvailability fun _ =>
      leads_of_keeps keeps_pushStatus

theorem consistent_cccdChanged (report : ReportKind) (enabled : Bool) :
    Leads WorkConsistent (@cccdChanged actions .dual hostId report enabled)
      WorkConsistent := by
  refine leads_bind (leads_storeHost fun _ _ _ done =>
    BleHostStateMachine.onCccdChanged_activeTarget done) fun _ => ?_
  refine leads_bind (leads_of_keeps (keeps_when (keeps_pushAction _)))
    fun _ => ?_
  exact leads_bind leads_refreshAvailability fun _ =>
    leads_of_keeps keeps_pushStatus

theorem consistent_setHostName (name : FixedName) :
    Leads WorkConsistent (@setHostName actions hostId name)
      WorkConsistent := by
  have named : ∀ (bridge : BridgeState) (hosts : BleHostStateMachine)
      (persist : Bool), TargetsConsistent bridge →
      bridge.hosts.setName hostId name = .ok (hosts, persist) →
        TargetsConsistent { bridge with hosts := hosts } := by
    intro bridge hosts persist agree done
    exact agree.of_same (BleHostStateMachine.setName_canSend done)
      (BleHostStateMachine.setName_activeTarget done) rfl rfl
  refine leads_bind (leads_updateHosts named) fun _ => ?_
  exact leads_bind (leads_of_keeps (keeps_when (keeps_pushAction _)))
    fun _ => leads_of_keeps keeps_pushStatus

theorem consistent_hostKeyboardLedChanged (leds : KeyboardLedState) :
    Leads WorkConsistent (do
      updateHosts fun hosts =>
        (·, ()) <$> hosts.onKeyboardLedChanged hostId leds
      InPlace.when ((← get).bridge.hosts.activeTarget = some hostId)
        (pushFrom (·.usbKeyboardLeds leds)) : BridgeM actions Unit)
      WorkConsistent := by
  have lit : ∀ (bridge : BridgeState) (hosts : BleHostStateMachine)
      (value : Unit), TargetsConsistent bridge →
      (·, ()) <$> bridge.hosts.onKeyboardLedChanged hostId leds =
        .ok (hosts, value) →
      TargetsConsistent { bridge with hosts := hosts } := by
    intro bridge hosts value agree done
    obtain ⟨machine, changed, same⟩ := map_eq_ok.mp done
    cases same
    exact agree.of_same
      (BleHostStateMachine.onKeyboardLedChanged_canSend changed)
      (BleHostStateMachine.onKeyboardLedChanged_activeTarget changed) rfl rfl
  refine leads_bind (leads_updateHosts lit) fun _ => ?_
  exact leads_of_keeps (keeps_bind keeps_get fun _ =>
    keeps_when (keeps_pushFrom _))

end

def SelectedHost (bridge : BridgeState) (hostId : HostId) : Prop :=
  bridge.outputTarget.selected = .ble hostId ∧
    ∃ host, bridge.hosts.host hostId = some host

theorem TargetsConsistent.forgetHost (agree : TargetsConsistent bridge)
    (spared : ¬ SelectedHost bridge hostId) :
    TargetsConsistent (bridge.forgetHost .dual hostId) := by
  cases stored : bridge.hosts.host hostId with
  | none =>
      have same : (bridge.hosts.clearHost hostId).1 = bridge.hosts := by
        rw [BleHostStateMachine.clearHost_of_absent stored]
      exact agree.of_untouched same rfl rfl
  | some host =>
      have unselected : bridge.outputTarget.selected ≠ .ble hostId :=
        fun selected => spared ⟨selected, host, stored⟩
      have activeTarget : (bridge.hosts.clearHost hostId).1.activeTarget =
          bridge.hosts.activeTarget := by
        rcases BleHostStateMachine.clearHost_activeTarget with same |
          ⟨-, active⟩
        · exact same
        · exact absurd ((agree.hosts hostId).mp active) unselected
      refine ⟨fun target active => ?_, agree.hosts.of_same activeTarget rfl⟩
      obtain ⟨selected, ready⟩ := agree.active target active
      refine ⟨selected, ?_⟩
      cases target with
      | wired => exact ready
      | ble other =>
          have differs : other ≠ hostId := by
            rintro rfl
            exact unselected selected.symm
          have canSend : ∀ kind,
              (bridge.forgetHost .dual hostId).canSend other kind =
                bridge.canSend other kind :=
            fun kind => BleHostStateMachine.clearHost_canSend differs kind
          simp only [BridgeState.TargetReady, BridgeState.bleTargetReady]
            at ready ⊢
          rw [canSend, canSend, canSend]
          exact ready

theorem consistent_clearHost (hostId : HostId) :
    Leads (OnBridge fun bridge => TargetsConsistent bridge ∧
        ¬ SelectedHost bridge hostId)
      (@clearHost actions .dual hostId) WorkConsistent := by
  intro before result after start finished
  simp only [clearHost, succeeds_bind, succeeds_get] at finished
  obtain ⟨_, _, ⟨rfl, rfl⟩, _, first, released, _, second, withdrawn, _,
    third, forgotten, reported⟩ := finished
  have releasedBridge : first.bridge = before.bridge := by
    rcases succeeds_when.mp released with ⟨-, pushed⟩ | ⟨-, rfl⟩
    · exact (succeeds_pushActions pushed).1
    · rfl
  obtain ⟨⟨pairable, withdrawnBridge⟩, -⟩ := withdrawPairing_spec withdrawn
  have withdrawnAgree : TargetsConsistent second.bridge := by
    rw [withdrawnBridge, releasedBridge]
    exact start.1.of_untouched rfl rfl rfl
  have spared : ¬ SelectedHost second.bridge hostId := by
    rw [withdrawnBridge, releasedBridge]
    exact start.2
  have forgottenAgree : WorkConsistent third := by
    show TargetsConsistent third.bridge
    rw [(sent_modifyBridge forgotten).1]
    exact withdrawnAgree.forgetHost spared
  refine leads_of_keeps (keeps_when ?_) _ _ _ forgottenAgree reported
  refine keeps_bind (keeps_pushActions _) fun _ => ?_
  exact keeps_bind (keeps_when (keeps_pushFrom _)) fun _ => keeps_pushStatus

end

theorem consistent_handleEventInPlace {before : BridgeWork actions}
    (agree : WorkConsistent before)
    (spared : ∀ hostId, event = .clearHost hostId →
      ¬ SelectedHost before.bridge hostId)
    (success : Succeeds (handleEventInPlace .dual event) before result
      after) : WorkConsistent after := by
  cases event with
  | inputFrame frame =>
      exact leads_of_keeps (consistent_handleInputFrame .dual frame) _ _ _
        agree success
  | usbDeviceRemoved interfaceId =>
      exact leads_of_keeps (consistent_usbDeviceRemoved interfaceId) _ _ _
        agree success
  | resetInputDevice deviceId =>
      exact leads_of_keeps (consistent_resetInputDevice deviceId) _ _ _
        agree success
  | usbHidInterfaceConnected interfaceId deviceId keyboardLedSink =>
      exact leads_of_keeps (consistent_usbHidInterfaceConnected .dual _) _ _ _
        agree success
  | hostConnected hostId =>
      exact consistent_hostConnected hostId _ _ _ agree success
  | hostDisconnected hostId =>
      exact consistent_hostDisconnected hostId _ _ _ agree success
  | hostSecurityChanged hostId encrypted bonded bond =>
      exact consistent_hostSecurityChanged hostId encrypted bonded bond _ _ _
        agree success
  | cccdChanged hostId report enabled =>
      exact consistent_cccdChanged hostId report enabled _ _ _ agree success
  | hostKeyboardLedChanged hostId leds =>
      exact consistent_hostKeyboardLedChanged hostId leds _ _ _ agree success
  | setHostName hostId name =>
      exact consistent_setHostName hostId name _ _ _ agree success
  | enterPairingMode hostId =>
      exact leads_of_keeps (consistent_enterPairingMode hostId) _ _ _ agree
        success
  | pairingModeExpired hostId =>
      have kept : Keeps WorkConsistent (@expirePairingMode actions hostId) := by
        refine keeps_bind keeps_get fun _ => keeps_when ?_
        exact keeps_bind (consistent_withdrawPairing hostId) fun _ =>
          keeps_pushStatus
      exact leads_of_keeps kept _ _ _ agree success
  | clearHost hostId =>
      exact consistent_clearHost hostId _ _ _ ⟨agree, spared hostId rfl⟩
        success
  | switchTarget target =>
      exact consistent_transitionOutputTarget _ _ _ _ _ agree success
  | selectOutputTarget target =>
      exact consistent_transitionOutputTarget _ _ _ _ _ agree success
  | wiredAvailabilityChanged availability =>
      exact consistent_wiredAvailabilityChanged availability _ _ _ agree
        success
  | wiredKeyboardLedChanged leds =>
      exact leads_of_keeps (consistent_wiredKeyboardLedChanged leds) _ _ _
        agree success

def ClearsSelected (bridge : BridgeState) (call : BridgeCall .dual) : Prop :=
  ∃ capacity hostId, call = .event capacity (.clearHost hostId) ∧
    SelectedHost bridge hostId

theorem Performs.targetsConsistent
    (performed : Performs .dual bridge call out next)
    (agree : TargetsConsistent bridge) (spared : ¬ ClearsSelected bridge call) :
    TargetsConsistent next := by
  cases call with
  | event capacity event =>
      unfold Performs at performed
      simp only [BridgeState.perform] at performed
      cases handled : handleEvent .dual capacity bridge event with
      | error error =>
          simp only [handled, Prod.mk.injEq] at performed
          exact performed.1 ▸ agree
      | ok result =>
          simp only [handled, Prod.mk.injEq] at performed
          obtain ⟨rfl, -⟩ := performed
          unfold handleEvent at handled
          split at handled
          · rename_i finished
            cases handled
            have start : WorkConsistent
                (⟨bridge, .empty⟩ : BridgeWork capacity) := agree
            refine consistent_handleEventInPlace start ?_ finished
            rintro hostId rfl selected
            exact spared ⟨capacity, hostId, rfl, selected⟩
          · cases handled
  | beginWiredPresentationTransition =>
      rcases perform_cases performed with ⟨rfl, -⟩ | ⟨_, _, other, -⟩ |
        ⟨-, restarted⟩
      · exact agree
      · cases other
      · refine .of_inactive restarted.inactive (agree.hosts.of_same ?_ ?_)
        · rw [restarted.hosts]
        · exact restarted.selected

/-- A stored host as the output target is the last active host too. -/
def StorageState.TargetAgrees (storage : StorageState) : Prop :=
  ∀ slot, storage.presentation.outputTarget = .ble slot →
    storage.lastActiveHost = some ⟨slot.get⟩

theorem BleHostStateMachine.restore_activeTarget
    {machine next : BleHostStateMachine} {storage : StorageState}
    (restored : machine.restore storage = .ok next) :
    next.activeTarget = storage.lastActiveHost := by
  have kept : ∀ (stored : List StoredHostProfile)
      (start finish : BleHostStateMachine),
      stored.foldlM BleHostStateMachine.restoreHost start = .ok finish →
        finish.activeTarget = start.activeTarget := by
    intro stored
    induction stored with
    | nil =>
        intro start finish done
        cases done
        rfl
    | cons profile rest ih =>
        intro start finish done
        obtain ⟨middle, first, done⟩ := bind_eq_ok.mp done
        obtain ⟨⟨index, host⟩, -, entered⟩ := bind_eq_ok.mp first
        cases entered
        exact ih (start.storeHost index _) finish done
  exact kept _ _ _ restored

inductive Booted : Option StorageState → BridgeState → Prop
  | new (hosts : Nat) : Booted none (.new hosts)
  | restored {bridge start : BridgeState} {storage : StorageState}
      (restored : bridge.restoreStorageState .dual storage = .ok start) :
      Booted (some storage) start

theorem Booted.targetsConsistent (booted : Booted storage start)
    (stored : ∀ state ∈ storage, state.TargetAgrees) :
    TargetsConsistent start := by
  cases booted with
  | new hosts =>
      refine .of_inactive rfl fun hostId => ?_
      simp [BridgeState.new, BleHostStateMachine.new, OutputTargetState.new]
  | restored restored =>
      rename_i bridge storage
      have agrees : storage.TargetAgrees := stored storage rfl
      unfold BridgeState.restoreStorageState at restored
      split at restored
      · cases restored
      · rename_i hosts done
        cases restored
        have active := BleHostStateMachine.restore_activeTarget done
        refine .of_inactive rfl fun hostId => ?_
        by_cases wired : storage.restoredTarget = .wired
        · simp [BridgeState.restoreTarget, wired,
            BleHostStateMachine.clearActiveTarget]
        · simp only [BridgeState.restoreTarget, wired, if_false, active]
          unfold StorageState.restoredTarget at wired ⊢
          split
          · rename_i last
            rw [last]
            simp
          · rename_i target last unstored
            cases targeted : storage.presentation.outputTarget with
            | wired =>
                cases last : storage.lastActiveHost with
                | none => simp [targeted, last,
                    StoredOutputTarget.asOutputTarget] at wired
                | some hostId => exact absurd last (unstored hostId targeted)
            | ble slot =>
                rw [agrees slot targeted]
                simp [StoredOutputTarget.asOutputTarget]

/-- In every state a run reaches, the active target is the selected one and
ready, and the host table agrees with the selection; as long as the stored
target was the last active host and no call clears the selected host. -/
theorem targets_consistent {storage : Option StorageState}
    {start finish : BridgeState} {history : List (BridgeTransition .dual)}
    (booted : Booted storage start)
    (stored : ∀ state ∈ storage, state.TargetAgrees)
    (run : Run (Performs .dual) start history finish)
    (spared : ∀ taken ∈ history, ¬ ClearsSelected taken.before taken.event) :
    (∀ target, finish.outputTarget.active = some target →
        target = finish.outputTarget.selected ∧ finish.TargetReady target) ∧
      ∀ hostId, finish.hosts.activeTarget = some hostId ↔
        finish.outputTarget.selected = .ble hostId := by
  have agree : TargetsConsistent finish := run.invariant TargetsConsistent
    (booted.targetsConsistent stored) fun taken member performed agree =>
      performed.targetsConsistent agree (spared taken member)
  exact ⟨agree.active, agree.hosts⟩

namespace Scenario

def otherCleared : List (BridgeCall .dual) :=
  connect ⟨1⟩ ++ [.event 16 (.selectOutputTarget (.ble ⟨1⟩)),
    .event 16 (.hostConnected ⟨2⟩), .event 16 (.clearHost ⟨2⟩)]

def selectedCleared : List (BridgeCall .dual) :=
  connect ⟨1⟩ ++ [.event 16 (.selectOutputTarget (.ble ⟨1⟩)),
    .event 16 (.clearHost ⟨1⟩)]

end Scenario

theorem targets_consistent_otherCleared :
    let finish : BridgeState := Scenario.final Scenario.otherCleared
    finish.outputTarget.active = some (.ble ⟨1⟩) ∧
      finish.TargetReady (.ble ⟨1⟩) ∧
        finish.hosts.activeTarget = some ⟨1⟩ := by
  intro finish
  have active : finish.outputTarget.active = some (.ble ⟨1⟩) := by
    decide +kernel
  have unselected : ∀ taken ∈ Scenario.trace Scenario.otherCleared,
      taken.before.outputTarget.selected ≠ .ble ⟨2⟩ := by decide +kernel
  have spared : ∀ taken ∈ Scenario.trace Scenario.otherCleared,
      ¬ ClearsSelected taken.before taken.event := by
    rintro taken member ⟨capacity, hostId, cleared, selected, -⟩
    have called := Run.event_mem_of_mem_trace _ member
    simp only [cleared, Scenario.otherCleared, Scenario.connect,
      List.cons_append, List.nil_append, List.mem_cons, List.not_mem_nil,
      BridgeCall.event.injEq, BridgeEvent.clearHost.injEq, reduceCtorEq,
      and_false, or_false, false_or] at called
    obtain ⟨-, rfl⟩ := called
    exact unselected taken member selected
  have run : BridgeRun .dual 2 (Scenario.trace Scenario.otherCleared)
      finish := Scenario.run _
  obtain ⟨ready, hosts⟩ := targets_consistent (.new 2) (by simp) run spared
  obtain ⟨selected, sends⟩ := ready _ active
  exact ⟨active, sends, (hosts ⟨1⟩).mpr selected.symm⟩

/-- Clearing the selected host leaves it selected and active, without an entry
in the table. -/
theorem targets_inconsistent :
    ¬ ∀ (storage : Option StorageState) (start finish : BridgeState)
      (history : List (BridgeTransition .dual)), Booted storage start →
      Run (Performs .dual) start history finish →
        (∀ target, finish.outputTarget.active = some target →
          target = finish.outputTarget.selected ∧
            finish.TargetReady target) ∧
        ∀ hostId, finish.hosts.activeTarget = some hostId ↔
          finish.outputTarget.selected = .ble hostId := by
  intro claimed
  have active : (Scenario.final Scenario.selectedCleared).outputTarget.active =
      some (.ble ⟨1⟩) := by decide +kernel
  have unready : (Scenario.final Scenario.selectedCleared).bleTargetReady
      ⟨1⟩ = false := by decide +kernel
  have run := Scenario.run Scenario.selectedCleared
  generalize Scenario.final Scenario.selectedCleared = finish at *
  obtain ⟨ready, -⟩ := claimed none _ _ _ (.new 2) run
  have sends : finish.bleTargetReady ⟨1⟩ = true := (ready _ active).2
  rw [unready] at sends
  cases sends

end HidShift
