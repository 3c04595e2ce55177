import HidShift.Bridge.InputSound

namespace HidShift

open Lib InPlace

variable {actions : Nat}

section

variable {invariant : BridgeState → Prop}

theorem keeps_pushAction (action : BridgeAction) :
    Keeps (fun work : BridgeWork actions => invariant work.bridge)
      (pushAction action) := by
  apply keeps_get_bind
  intro work holds
  cases work.out.push? action with
  | some out => exact holds
  | none => exact holds

theorem keeps_pushActions (list : List BridgeAction) :
    Keeps (fun work : BridgeWork actions => invariant work.bridge)
      (pushActions list) := by
  induction list with
  | nil => exact keeps_pure ()
  | cons head tail ih =>
      exact keeps_bind (keeps_pushAction head) fun _ => ih

theorem keeps_pushFrom (emit : BridgeState → List BridgeAction) :
    Keeps (fun work : BridgeWork actions => invariant work.bridge)
      (pushFrom emit) := by
  apply keeps_get_bind
  intro work holds
  exact keeps_pushActions (emit work.bridge) work holds

theorem keeps_pushStatus :
    Keeps (fun work : BridgeWork actions => invariant work.bridge)
      pushStatus :=
  keeps_pushFrom _

theorem keeps_modifyBridge
    (kept : ∀ bridge, invariant bridge → invariant (update bridge)) :
    Keeps (fun work : BridgeWork actions => invariant work.bridge)
      (modifyBridge update) :=
  keeps_modify fun work holds => kept work.bridge holds

theorem keeps_hostTable {α : Type}
    {operation : BleHostStateMachine →
      Except HostStateError (BleHostStateMachine × α)}
    (kept : ∀ bridge hosts value, invariant bridge →
      operation bridge.hosts = .ok (hosts, value) →
      invariant { bridge with hosts := hosts }) :
    Keeps (fun work : BridgeWork actions => invariant work.bridge)
      (updateHosts operation) := by
  apply keeps_get_bind
  intro work holds
  dsimp only
  cases stored : operation work.bridge.hosts with
  | error error => exact holds
  | ok result => exact kept work.bridge result.1 result.2 holds stored

end

/-- The invariant of `InputSound`, on the state the handlers work on. -/
def WorkSound (work : BridgeWork actions) : Prop := InputSound work.bridge

section

theorem keeps_sound_modify
    (input : ∀ bridge, (update bridge).input = bridge.input)
    (inputDevices : ∀ bridge,
      (update bridge).inputDevices = bridge.inputDevices) :
    Keeps WorkSound (@modifyBridge actions update) := by
  apply keeps_modifyBridge
  intro bridge sound
  exact sound.of_same (input bridge) (inputDevices bridge)

theorem keeps_updateHosts {α : Type}
    (operation : BleHostStateMachine →
      Except HostStateError (BleHostStateMachine × α)) :
    Keeps WorkSound (updateHosts operation : BridgeM actions α) := by
  apply keeps_hostTable
  intro bridge hosts value sound stored
  exact InputSound.of_same sound rfl rfl

theorem keeps_refreshAvailability (build : Build) :
    Keeps WorkSound (@refreshAvailability actions build) := by
  cases build with
  | single => exact keeps_pure ()
  | dual => exact keeps_sound_modify (fun _ => rfl) (fun _ => rfl)

theorem keeps_capture : Keeps WorkSound (@capture actions) := by
  apply keeps_get_bind
  intro work sound
  rw [captureSuppression_eq]
  exact InputSound.of_same sound rfl rfl

theorem handleStandardInputFrame_error
    (failed : (handleStandardInputFrame build frame).run work =
      .error error after) : after = work := by
  rcases error_of_lift_bind failed with same | ⟨prepared, -, rest⟩
  · exact same
  · rcases error_of_lift_bind rest with same | ⟨next, -, stored⟩
    · exact same
    · cases stored

theorem handleInputFrame_error
    (failed : (handleInputFrame build frame).run work = .error error after) :
    after = work := by
  cases frame with
  | standard frame => exact handleStandardInputFrame_error failed
  | vendor => cases failed

section

variable (build : Build)

theorem keeps_handleInputFrame (frame : InputFrame) :
    Keeps WorkSound (@handleInputFrame actions build frame) := by
  intro work sound
  cases finished : (handleInputFrame build frame).run work with
  | ok _ after =>
      rw [outcome_of_ok finished]
      obtain ⟨_, step, -⟩ := handleInputFrame_step finished
      exact step.inputSound sound
  | error error after =>
      rw [outcome_of_error finished, handleInputFrame_error finished]
      exact sound

theorem keeps_transitionBleTarget (target : HostId)
    (releasePrevious : Option NotifyReason) :
    Keeps WorkSound
      (transitionBleTarget target releasePrevious : BridgeM actions Bool) := by
  refine keeps_bind keeps_get fun work => keeps_ite ?_ ?_
  · exact keeps_pure false
  · refine keeps_bind (keeps_pushActions _) fun _ => ?_
    refine keeps_bind keeps_capture fun _ => ?_
    refine keeps_bind (keeps_updateHosts _) fun _ => ?_
    refine keeps_bind (keeps_pushAction _) fun _ => ?_
    refine keeps_bind (keeps_pushFrom _) fun _ => ?_
    exact keeps_bind (keeps_pushAction _) fun _ => keeps_pure true

theorem keeps_selectTarget (target : OutputTarget) :
    Keeps WorkSound (selectTarget target : BridgeM actions UInt32) := by
  refine keeps_bind keeps_get fun work => keeps_bind (keeps_lift _ _) ?_
  rintro ⟨outputTarget, operationId⟩
  refine keeps_bind (keeps_sound_modify ?_ ?_) fun _ => keeps_pure _
  · exact fun _ => rfl
  · exact fun _ => rfl

theorem keeps_activateTarget (operationId : UInt32) (target : OutputTarget) :
    Keeps WorkSound (@activateTarget actions operationId target) := by
  cases target with
  | wired =>
      refine keeps_bind (keeps_sound_modify (fun _ => rfl) fun _ => rfl)
        fun _ => keeps_bind (keeps_pushAction _) fun _ => ?_
      exact keeps_bind (keeps_sound_modify (fun _ => rfl) fun _ => rfl)
        fun _ => keeps_pushFrom _
  | ble hostId =>
      refine keeps_bind (keeps_updateHosts _) fun _ => ?_
      refine keeps_bind (keeps_pushAction _) fun _ => ?_
      refine keeps_bind (keeps_pushAction _) fun _ => ?_
      exact keeps_bind (keeps_pushFrom _) fun _ =>
        keeps_refreshAvailability .dual

theorem keeps_transitionOutputTarget (target : OutputTarget)
    (releasePrevious : Option NotifyReason) :
    Keeps WorkSound
      (@transitionOutputTarget actions target releasePrevious) := by
  refine keeps_bind (keeps_lift _ _) fun _ =>
    keeps_bind keeps_get fun work => keeps_ite keeps_pushStatus ?_
  refine keeps_bind (keeps_pushActions _) fun _ => ?_
  refine keeps_bind keeps_capture fun _ => ?_
  refine keeps_bind (keeps_selectTarget _) fun _ => ?_
  refine keeps_bind (keeps_activateTarget _ _) fun _ => ?_
  exact keeps_bind (keeps_pushAction _) fun _ => keeps_pushStatus

theorem keeps_switchTarget (target : HostId) :
    Keeps WorkSound (@switchTarget actions build target) := by
  cases build with
  | dual => exact keeps_transitionOutputTarget _ _
  | single =>
      exact keeps_bind (keeps_transitionBleTarget _ _) fun _ =>
        keeps_pushStatus

theorem keeps_wiredAvailabilityChanged
    (availability : OutputTargetAvailability) :
    Keeps WorkSound (@wiredAvailabilityChanged actions availability) := by
  refine keeps_bind (keeps_sound_modify (fun _ => rfl) fun _ => rfl)
    fun _ => keeps_bind keeps_get fun work => ?_
  refine keeps_bind (keeps_when ?_) fun _ => keeps_pushStatus
  exact keeps_bind (keeps_sound_modify (fun _ => rfl) fun _ => rfl)
    fun _ => keeps_pushFrom _

theorem keeps_fallBack (shouldFallback : Bool) (hostId : HostId) :
    Keeps WorkSound (@fallBack actions build shouldFallback hostId) := by
  refine keeps_bind keeps_get fun work => ?_
  dsimp only
  split
  · exact keeps_bind (keeps_transitionBleTarget _ _) fun _ =>
      keeps_pushStatus
  · exact keeps_transitionOutputTarget _ _
  · exact keeps_pushStatus

section

variable (hostId : HostId)

theorem keeps_hostDisconnected :
    Keeps WorkSound (@hostDisconnected actions build hostId) := by
  refine keeps_bind keeps_get fun work => ?_
  refine keeps_bind (keeps_sound_modify (fun _ => rfl) fun _ => rfl) fun _ => ?_
  exact keeps_bind (keeps_refreshAvailability build) fun _ =>
    keeps_fallBack _ _ _

theorem keeps_withdrawPairing :
    Keeps WorkSound (@withdrawPairing actions hostId) := by
  refine keeps_bind keeps_get fun work => keeps_when ?_
  exact keeps_bind (keeps_sound_modify (fun _ => rfl) fun _ => rfl)
    fun _ => keeps_pushAction _

theorem keeps_enterPairingMode :
    Keeps WorkSound (@enterPairingMode actions hostId) := by
  refine keeps_bind keeps_get fun work => ?_
  refine keeps_bind (keeps_sound_modify (fun _ => rfl) fun _ => rfl)
    fun _ => keeps_bind (keeps_pushActions _) fun _ => ?_
  exact keeps_bind (keeps_pushAction _) fun _ => keeps_pushStatus

theorem keeps_persist (persist : Bool) :
    Keeps WorkSound (InPlace.when (persist = true)
      (pushAction .persistProfiles) : BridgeM actions Unit) :=
  keeps_when (keeps_pushAction _)

theorem keeps_hostSecurityChanged
    (encrypted bonded : Bool) (bond : Option StoredBond) :
    Keeps WorkSound
      (@hostSecurityChanged actions build hostId encrypted bonded bond) := by
  refine keeps_bind (keeps_updateHosts _) fun persist => ?_
  refine keeps_bind (keeps_persist persist) fun _ => ?_
  refine keeps_bind (keeps_when (keeps_withdrawPairing _)) fun _ => ?_
  exact keeps_bind (keeps_refreshAvailability build) fun _ =>
    keeps_pushStatus

theorem keeps_cccdChanged (report : ReportKind) (enabled : Bool) :
    Keeps WorkSound (@cccdChanged actions build hostId report enabled) := by
  refine keeps_bind (keeps_updateHosts _) fun persist => ?_
  refine keeps_bind (keeps_persist persist) fun _ => ?_
  exact keeps_bind (keeps_refreshAvailability build) fun _ =>
    keeps_pushStatus

theorem keeps_clearHost :
    Keeps WorkSound (@clearHost actions build hostId) := by
  refine keeps_bind keeps_get fun work => ?_
  refine keeps_bind (keeps_when (keeps_pushActions _)) fun _ => ?_
  refine keeps_bind (keeps_withdrawPairing _) fun _ => ?_
  refine keeps_bind (keeps_sound_modify (fun _ => rfl) fun _ => rfl)
    fun _ => keeps_when ?_
  refine keeps_bind (keeps_pushActions _) fun _ => ?_
  exact keeps_bind (keeps_when (keeps_pushFrom _)) fun _ => keeps_pushStatus

end

theorem keeps_emitDetachUpdates {invariant : BridgeState → Prop}
    (kept : ∀ bridge suppression, invariant bridge →
      invariant { bridge with suppression })
    (hostId : HostId) (previousInput : PhysicalInputState)
    (reason : NotifyReason) :
    Keeps (fun work : BridgeWork actions => invariant work.bridge)
      (emitDetachUpdates hostId previousInput reason) := by
  apply keeps_get_bind
  intro work holds
  cases pruned : work.bridge.pruneKeyboard with
  | error error => exact holds
  | ok bridge =>
      obtain ⟨suppression, rfl, -⟩ := pruneKeyboard_spec pruned
      have rest : Keeps
          (fun work : BridgeWork actions => invariant work.bridge) (do
            pushFrom (·.detachKeyboard hostId previousInput reason)
            modifyBridge .pruneMouseButtons
            pushFrom (·.detachMouse hostId previousInput reason)
            modifyBridge .pruneConsumerUsage
            pushFrom (·.detachConsumer hostId previousInput reason)) := by
        refine keeps_bind (keeps_pushFrom _) fun _ => ?_
        refine keeps_bind (keeps_modifyBridge fun _ => kept _ _) fun _ => ?_
        refine keeps_bind (keeps_pushFrom _) fun _ => ?_
        exact keeps_bind (keeps_modifyBridge fun _ => kept _ _)
          fun _ => keeps_pushFrom _
      exact rest _ (kept _ _ holds)

theorem outcome_modifyBridge_bind {α : Type}
    (update : BridgeState → BridgeState) (second : Unit → BridgeM actions α)
    (work : BridgeWork actions) :
    (modifyBridge update >>= second).outcome work =
      (second ()).outcome { work with bridge := update work.bridge } := rfl

theorem adoptAggregate_sound {work : BridgeWork actions}
    (exact : work.bridge.inputDevices.Exact) :
    WorkSound ((adoptAggregate previousInput).outcome work) := by
  have adopted : WorkSound ({ work with bridge := { work.bridge with
      input := work.bridge.inputDevices.aggregate } } :
        BridgeWork actions) :=
    ⟨exact, fun _ => Iff.rfl, rfl, rfl, rfl, exact.nodup_keys⟩
  simp only [adoptAggregate]
  rw [outcome_modifyBridge_bind]
  refine keeps_bind keeps_get (fun work => ?_) _ adopted
  cases work.bridge.hosts.activeTarget with
  | some hostId =>
      exact keeps_emitDetachUpdates
        (fun _ _ sound => InputSound.of_same sound rfl rfl) _ _ _
  | none => exact keeps_pure ()

theorem removeUsbHidInterface_inputDevices (bridge : BridgeState)
    (interfaceId : InterfaceId) :
    (bridge.removeUsbHidInterface interfaceId).inputDevices =
      bridge.inputDevices := by
  simp only [BridgeState.removeUsbHidInterface]
  split <;> rfl

theorem keeps_usbDeviceRemoved (interfaceId : InterfaceId) :
    Keeps WorkSound (@usbDeviceRemoved actions interfaceId) := by
  apply keeps_get_bind
  intro work sound
  dsimp only
  rw [outcome_modifyBridge_bind, outcome_modifyBridge_bind]
  refine outcome_bind (adoptAggregate_sound ?_) fun _ => keeps_pushStatus
  dsimp only
  rw [removeUsbHidInterface_inputDevices]
  exact (InputSound.exact sound).removeInterface interfaceId |>.1

theorem keeps_resetInputDevice (deviceId : DeviceId) :
    Keeps WorkSound (@resetInputDevice actions deviceId) := by
  apply keeps_get_bind
  intro work sound
  have exact := ((InputSound.exact sound).removeDevice deviceId).1
  dsimp only
  rw [outcome_modifyBridge_bind]
  cases removed : (work.bridge.inputDevices.removeDevice deviceId).2 with
  | true =>
      simp only [InPlace.when, if_true]
      exact adoptAggregate_sound exact
  | false =>
      simp only [InPlace.when, Bool.false_eq_true, if_false]
      exact InputSound.of_same sound rfl
        (removeDevice_false (Prod.ext rfl removed))

theorem keeps_handleEventInPlace (event : BridgeEvent build) :
    Keeps WorkSound (@handleEventInPlace actions build event) := by
  cases event with
  | inputFrame frame => exact keeps_handleInputFrame build frame
  | usbDeviceRemoved interfaceId => exact keeps_usbDeviceRemoved interfaceId
  | resetInputDevice deviceId => exact keeps_resetInputDevice deviceId
  | usbHidInterfaceConnected interfaceId deviceId keyboardLedSink =>
      apply keeps_get_bind
      intro work sound
      cases upserted : work.bridge.upsertUsbHidInterface
          ⟨interfaceId, deviceId, keyboardLedSink⟩ with
      | error error => exact sound
      | ok bridge =>
          obtain ⟨interfaces, rfl⟩ := upsertUsbHidInterface_spec upserted
          exact keeps_pushFrom _ _ (InputSound.of_same sound rfl rfl)
  | hostConnected hostId =>
      refine keeps_bind (keeps_updateHosts _) fun _ => ?_
      exact keeps_bind (keeps_refreshAvailability build) fun _ =>
        keeps_pushStatus
  | hostDisconnected hostId => exact keeps_hostDisconnected build hostId
  | hostSecurityChanged hostId encrypted bonded bond =>
      exact keeps_hostSecurityChanged build hostId encrypted bonded bond
  | cccdChanged hostId report enabled =>
      exact keeps_cccdChanged build hostId report enabled
  | hostKeyboardLedChanged hostId leds =>
      refine keeps_bind (keeps_updateHosts _) fun _ => ?_
      exact keeps_bind keeps_get fun _ => keeps_when (keeps_pushFrom _)
  | setHostName hostId name =>
      refine keeps_bind (keeps_updateHosts _) fun persist => ?_
      exact keeps_bind (keeps_persist persist) fun _ => keeps_pushStatus
  | enterPairingMode hostId => exact keeps_enterPairingMode hostId
  | pairingModeExpired hostId =>
      refine keeps_bind keeps_get fun _ => keeps_when ?_
      exact keeps_bind (keeps_withdrawPairing hostId) fun _ =>
        keeps_pushStatus
  | clearHost hostId => exact keeps_clearHost build hostId
  | switchTarget target => exact keeps_switchTarget build target
  | selectOutputTarget target => exact keeps_transitionOutputTarget _ _
  | wiredAvailabilityChanged availability =>
      exact keeps_wiredAvailabilityChanged availability
  | wiredKeyboardLedChanged leds =>
      refine keeps_bind (keeps_sound_modify (fun _ => rfl) fun _ => rfl)
        fun _ => ?_
      exact keeps_bind keeps_get fun _ => keeps_when (keeps_pushFrom _)

end

end

/-- A call of `handle_event_in_place`: the caller chooses the capacity of the
action vector and may pass one that already holds actions. -/
structure InPlaceCall (build : Build) where
  capacity : Nat
  out : BoundedVec BridgeAction capacity
  event : BridgeEvent build

def InPlaceCall.run {build : Build} (call : InPlaceCall build)
    (bridge : BridgeState) :
    EStateM.Result BridgeError (BridgeWork call.capacity) Unit :=
  (handleEventInPlace build call.event).run ⟨bridge, call.out⟩

/-- The bridge a call leaves, finished or failed, and its error. -/
def BridgeState.performInPlace {build : Build} (bridge : BridgeState)
    (call : InPlaceCall build) : BridgeState × Option BridgeError :=
  match call.run bridge with
  | .ok _ work => (work.bridge, none)
  | .error error work => (work.bridge, some error)

abbrev InPlaceTransition (build : Build) :=
  Transition BridgeState (InPlaceCall build) (Option BridgeError)

abbrev InPlaceRun (build : Build) (hosts : Nat) :=
  Run (fun (bridge : BridgeState) (call : InPlaceCall build) failure next =>
    bridge.performInPlace call = (next, failure)) (.new hosts)

theorem performInPlace_inputSound {build : Build} {bridge next : BridgeState}
    {call : InPlaceCall build} {failure : Option BridgeError}
    (performed : bridge.performInPlace call = (next, failure))
    (sound : InputSound bridge) : InputSound next := by
  have kept : WorkSound ((handleEventInPlace build call.event).outcome
      ⟨bridge, call.out⟩) :=
    keeps_handleEventInPlace build call.event ⟨bridge, call.out⟩ sound
  unfold BridgeState.performInPlace at performed
  split at performed
  · rename_i finished
    rw [outcome_of_ok finished] at kept
    cases performed
    exact kept
  · rename_i failed
    rw [outcome_of_error failed] at kept
    cases performed
    exact kept

/-- The input as a modifier set, a key set, a button set and a usage. -/
structure InputIsAggregate (bridge : BridgeState) : Prop where
  modifiers : bridge.input.keyboard.modifiers =
    bridge.inputDevices.aggregate.keyboard.modifiers
  keys : ∀ key, key ∈ bridge.input.keyboard.keys ↔
    key ∈ bridge.inputDevices.aggregate.keyboard.keys
  buttons : bridge.input.mouse.buttons =
    bridge.inputDevices.aggregate.mouse.buttons
  consumer : bridge.input.consumer.active =
    bridge.inputDevices.aggregate.consumer.active

/-- In every state a run in place reaches, also through failing events, the
input is the aggregate; and a failing input frame leaves the bridge and the
action vector exactly as they were. -/
theorem input_is_aggregate {build : Build} {hosts : Nat}
    {history : List (InPlaceTransition build)} {finish : BridgeState}
    (run : InPlaceRun build hosts history finish) :
    InputIsAggregate finish ∧
      ∀ (call : InPlaceCall build) (frame : InputFrame) (error : BridgeError)
        (after : BridgeWork call.capacity), call.event = .inputFrame frame →
        call.run finish = .error error after →
          after.bridge = finish ∧ after.out = call.out := by
  have sound : InputSound finish := run.invariant InputSound
    (inputSound_new hosts) fun _ _ performed kept =>
      performInPlace_inputSound performed kept
  refine ⟨⟨sound.modifiers, sound.keys, congrArg _ sound.mouse,
    congrArg _ sound.consumer⟩, ?_⟩
  rintro ⟨capacity, out, event⟩ frame error after rfl failed
  obtain rfl := handleInputFrame_error failed
  exact ⟨rfl, rfl⟩

namespace Scenario

def inPlace (calls : List (BridgeEvent .single)) :
    List (InPlaceCall .single) :=
  calls.map fun event => ⟨16, .empty, event⟩

def keyFrame (interface key : UInt8) : InputFrame :=
  .standard ⟨⟨interface⟩, ⟨interface⟩, some ⟨0, ⟨[⟨key⟩],
    KeyVec.single_fits key⟩, KeyVec.single_nodup key⟩, none, none⟩

/-- Two keyboards hold a key each; the removal of the first finds no room for
its report and fails half way. -/
def removalFails : List (InPlaceCall .single) :=
  inPlace [.hostConnected ⟨1⟩, .hostSecurityChanged ⟨1⟩ true false none,
    .cccdChanged ⟨1⟩ .keyboard true, .switchTarget ⟨1⟩,
    .inputFrame (keyFrame 1 4), .inputFrame (keyFrame 2 5)] ++
  [⟨0, .empty, .usbDeviceRemoved ⟨1⟩⟩]

end Scenario

/-- After the failed removal only the second key is held.  A press that finds
the vector full fails and leaves both the bridge and the vector alone. -/
theorem input_is_aggregate_removalFails :
    let trace := Run.trace BridgeState.performInPlace (.new 2)
      Scenario.removalFails
    let finish := Run.final BridgeState.performInPlace (.new 2)
      Scenario.removalFails
    let press : InPlaceCall .single := ⟨1, ⟨[.persistProfiles], by decide⟩,
      .inputFrame (Scenario.keyFrame 3 6)⟩
    trace.getLast?.map (·.output) = some (some .actionCapacity) ∧
      finish.input.keyboard.keys.toList = [⟨5⟩] ∧ InputIsAggregate finish ∧
        ∃ after, press.run finish = .error .actionCapacity after ∧
          after.bridge = finish ∧ after.out = press.out := by
  intro trace finish press
  have run : InPlaceRun .single 2 trace finish :=
    Run.of_trace BridgeState.performInPlace _ _
  obtain ⟨aggregate, unchanged⟩ := input_is_aggregate run
  have refused : (finish.performInPlace press).2 = some .actionCapacity := by
    decide +kernel
  refine ⟨by decide +kernel, by decide +kernel, aggregate, ?_⟩
  unfold BridgeState.performInPlace at refused
  split at refused
  · cases refused
  · rename_i error after failed
    cases refused
    exact ⟨after, failed, unchanged press _ _ after rfl failed⟩

end HidShift
