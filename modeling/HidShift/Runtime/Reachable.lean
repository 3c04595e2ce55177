import HidShift.Runtime.Closed

namespace HidShift

open Lib InPlace

variable {capacity : Nat}

def BridgeEvent.IsFrame {build : Build} : BridgeEvent build → Prop
  | .inputFrame _ => True
  | _ => False

def RuntimeInput.BringsFrame {build : Build} : RuntimeInput build → Prop
  | .bridgeEvent event => event.IsFrame
  | .usbEndpointIn _ _ (some _) => True
  | _ => False

/-- An invariant of the bridge that the runtime keeps from outside and the
events of the bridge keep from inside; of the frames only where `frames`
says so. -/
structure BridgeClosed (build : Build) (frames : Prop)
    (invariant : BridgeState → Prop) : Prop where
  event : ∀ (actions : Nat) (event : BridgeEvent build),
    (event.IsFrame → frames) →
    Keeps (fun work : BridgeWork actions => invariant work.bridge)
      (handleEventInPlace build event)
  held : ∀ bridge, invariant bridge →
    invariant bridge.holdWiredPresentationTransition
  begun : ∀ bridge next operationId, invariant bridge →
    bridge.beginWiredPresentationTransition = .ok (next, operationId) →
    invariant next
  linked : ∀ bridge bleHost, invariant bridge →
    (∀ host, bleHost = some host →
      validManagementHost bridge.hosts.hosts.length host = true) →
    invariant { bridge with wiredBleHost := bleHost }
  named : ∀ bridge hostId name hosts changed, invariant bridge →
    bridge.hosts.setDiscoveredName hostId name = .ok (hosts, changed) →
    invariant { bridge with hosts := hosts }
  restored : ∀ bridge storage restored, invariant bridge →
    bridge.restoreStorageState build storage = .ok restored →
    invariant restored
  partly : ∀ (bridge : BridgeState) storage, invariant bridge →
    invariant { bridge with hosts := bridge.hosts.partlyRestored storage }

abbrev OnRuntime (invariant : BridgeState → Prop)
    (work : RuntimeWork capacity) : Prop :=
  invariant work.runtime.bridge

section

variable {build : Build} {frames : Prop} {invariant : BridgeState → Prop}

theorem onRuntime_quiet
    (same : ∀ runtime, (update runtime).bridge = runtime.bridge) :
    Keeps (OnRuntime invariant) (@modifyRuntime capacity update) := by
  refine keeps_modify fun work holds => ?_
  show invariant (update work.runtime).bridge
  rw [same]
  exact holds

theorem onRuntime_push (command : RuntimeCommand) :
    Keeps (OnRuntime invariant) (@pushCommand capacity command) := by
  apply keeps_get_bind
  intro work holds
  cases work.commands.push? command <;> exact holds

theorem onRuntime_snapshot (priority : StoragePersistPriority) :
    Keeps (OnRuntime invariant)
      (@pushStorageSnapshot capacity build priority) :=
  keeps_snapshot (onRuntime_quiet fun _ => rfl) fun _ => onRuntime_push _

theorem observeBridgeEvent_bridge (runtime : BridgeRuntime)
    (event : BridgeEvent build) :
    (runtime.observeBridgeEvent event).bridge = runtime.bridge := by
  have history : (runtime.observeHistory event).bridge = runtime.bridge := by
    cases event <;> rfl
  have pairing : ∀ runtime : BridgeRuntime,
      (runtime.observePairing event).bridge = runtime.bridge := by
    intro runtime
    unfold BridgeRuntime.observePairing
    split <;> first | rfl | (split <;> rfl)
  exact (pairing _).trans history

theorem onRuntime_dispatchOne (held : ∀ bridge, invariant bridge →
      invariant bridge.holdWiredPresentationTransition)
    (priority : Option StoragePersistPriority) (action : BridgeAction) :
    Keeps (OnRuntime invariant)
      (@dispatchBridgeAction capacity build priority action) :=
  PassesOn.keeps ⟨fun _ _ => onRuntime_push _, onRuntime_snapshot,
    fun _ _ _ _ _ => onRuntime_quiet fun _ => rfl,
    fun _ => keeps_modify fun _ holds => held _ holds⟩ priority

theorem holdWiredPresentationTransition_hosts (bridge : BridgeState) :
    bridge.holdWiredPresentationTransition.hosts = bridge.hosts := by
  unfold BridgeState.holdWiredPresentationTransition
  split <;> rfl

theorem dispatch_hosts (hosts : BleHostStateMachine)
    (priority : Option StoragePersistPriority) (list : List BridgeAction) :
    Keeps (OnRuntime fun bridge => bridge.hosts = hosts)
      (@dispatchBridgeActions capacity build priority list) := by
  apply keeps_dispatch
  intro action member
  apply onRuntime_dispatchOne
  intro bridge same
  exact (holdWiredPresentationTransition_hosts bridge).trans same

variable (closed : BridgeClosed build frames invariant)

include closed

theorem BridgeClosed.call (actions : Nat) {event : BridgeEvent build}
    (allowed : event.IsFrame → frames) :
    Keeps (OnRuntime invariant) (callBridge build actions event :
      RuntimeM capacity (List BridgeAction)) := by
  apply keeps_get_bind
  intro work holds
  have left := closed.event actions event allowed
    ⟨work.runtime.bridge, .empty⟩ holds
  cases done : (handleEventInPlace build event).run
      ⟨work.runtime.bridge, (.empty : BoundedVec BridgeAction actions)⟩ with
  | ok value after =>
      rw [outcome_of_ok done] at left
      exact left
  | error error after =>
      rw [outcome_of_error done] at left
      exact left

theorem BridgeClosed.append (actions : Nat) {event : BridgeEvent build}
    (allowed : event.IsFrame → frames) :
    Keeps (OnRuntime invariant)
      (@handleBridgeEventAppend capacity build actions event) := by
  refine keeps_bind (onRuntime_quiet fun _ => ?_) fun _ =>
    keeps_bind (closed.call actions allowed) fun _ =>
      keeps_dispatch fun _ _ => onRuntime_dispatchOne closed.held _ _
  exact observeBridgeEvent_bridge _ event

theorem BridgeClosed.works (actions : Nat) :
    WorkClosed build actions
      (OnRuntime invariant : RuntimeWork capacity → Prop) where
  push command _ := onRuntime_push command
  clear := fun _ holds => holds
  quiet work next quiet holds := by
    show invariant next.bridge
    rw [quiet.bridge]
    exact holds
  event event plain := by
    apply closed.append
    cases event with
    | inputFrame frame => exact plain.elim
    | _ => exact False.elim
  presentation := by
    apply keeps_readRuntime
    intro work holds
    cases begun : work.runtime.bridge.beginWiredPresentationTransition with
    | error error => exact holds
    | ok result => exact closed.begun _ _ _ holds begun
  linked work bleHost holds valid := closed.linked _ bleHost holds valid
  named work hostId name hosts changed holds found :=
    closed.named _ hostId name hosts changed holds found
  restored storage := by
    apply keeps_readRuntime
    intro work holds
    dsimp only
    cases restored : work.runtime.bridge.restoreStorageState build storage with
    | error error => exact closed.partly _ storage holds
    | ok bridge => exact closed.restored _ storage bridge holds restored

theorem BridgeClosed.handle (actions : Nat) {event : BridgeEvent build}
    (allowed : event.IsFrame → frames) :
    Keeps (OnRuntime invariant)
      (@handleBridgeEvent capacity build actions event) :=
  keeps_bind (closed.works actions).clear fun _ =>
    closed.append actions allowed

theorem BridgeClosed.eventInput (actions : Nat) {event : BridgeEvent build}
    (allowed : event.IsFrame → frames) :
    Keeps (OnRuntime invariant)
      (@handleBridgeEventInput capacity build actions event) := by
  cases event with
  | inputFrame frame =>
      exact (closed.works actions).frameInput frame fun _ =>
        closed.append actions allowed
  | wiredAvailabilityChanged availability =>
      refine (closed.works actions).otherInput (fun _ => nofun) fun pending =>
        closed.append actions ?_
      cases availability <;> exact False.elim
  | _ =>
      refine (closed.works actions).otherInput (fun _ => nofun) fun pending =>
        closed.append actions ?_
      exact False.elim

omit closed in
theorem BridgeClosed.deviceState
    (closed : BridgeClosed .dual frames invariant) (actions : Nat)
    (state : UsbState) :
    Keeps (OnRuntime invariant) (@deviceUsbState capacity actions state) := by
  have reported : ∀ availability, Keeps (OnRuntime invariant)
      (@handleBridgeEventAppend capacity .dual actions
        (.wiredAvailabilityChanged availability)) :=
    fun _ => closed.append actions False.elim
  refine keeps_bind (closed.works actions).clear fun _ => keeps_ite ?_ ?_
  · exact keeps_bind (onRuntime_quiet fun _ => rfl) fun _ => reported _
  refine keeps_readRuntime_bind fun _ => keeps_ite ?_ ?_
  · exact keeps_bind (onRuntime_quiet fun _ => rfl) fun _ => reported _
  refine keeps_readRuntime_bind fun _ => keeps_bind
    (onRuntime_quiet fun _ => rfl) fun _ => keeps_bind (reported _) fun _ => ?_
  exact keeps_readRuntime_bind fun _ => onRuntime_push _

theorem BridgeClosed.core (actions events : Nat) {input : RuntimeInput build}
    (allowed : input.BringsFrame → frames) :
    Keeps (OnRuntime invariant)
      (@handleInputCoreInPlace capacity build actions events
      input) := by
  have plainly : input.Plain → Keeps (OnRuntime invariant)
      (@handleInputCoreInPlace capacity build actions events input) :=
    (closed.works actions).core events
  cases input with
  | bridgeEvent event => exact closed.eventInput actions allowed
  | deviceCommandRequested command =>
      exact keeps_bind (closed.works actions).clear fun _ => onRuntime_push _
  | usbEndpointIn deviceId report standard =>
      cases standard with
      | none =>
          refine keeps_bind (closed.works actions).clear fun _ =>
            keeps_readRuntime_bind fun _ => ?_
          exact keeps_ite (onRuntime_push _) (keeps_pure ())
      | some frame =>
          refine (closed.works actions).endpointIn deviceId report
            (some frame) ?_ ?_
          · exact fun work holds _ => onRuntime_push _ work holds
          · exact fun _ => closed.append actions allowed
  | deviceUsbState state => exact closed.deviceState actions state
  | _ => exact plainly trivial

theorem BridgeClosed.input (actions events : Nat) {input : RuntimeInput build}
    (allowed : input.BringsFrame → frames) :
    Keeps (OnRuntime invariant)
      (@handleInputInPlace capacity build actions events
      input) :=
  keeps_bind (closed.core actions events allowed) fun _ =>
    (closed.works actions).power

end

section

variable {capacities : RuntimeCapacities} {build : Build}
  {invariant : BridgeState → Prop}

abbrev OnRealtime (invariant : BridgeState → Prop)
    (work : RealtimeWork capacities) : Prop :=
  invariant work.runtime.bridge

theorem onRealtime_transform (frame : InputFrame) :
    Keeps (OnRealtime invariant)
      (realtimeTransform frame : RealtimeM capacities InputFrame) := by
  apply keeps_get_bind
  intro work holds
  show invariant (work.runtime.transformInputFrame frame).1.bridge
  rw [(transformInputFrame_quiet work.runtime frame).bridge]
  exact holds

theorem keeps_route (invariant : BridgeRuntime → Prop) (action : BridgeAction) :
    Keeps (fun work : RealtimeWork capacities => invariant work.runtime)
      (routeRealtime build action) := by
  have ble : ∀ command, Keeps
      (fun work : RealtimeWork capacities => invariant work.runtime)
      (pushRealtimeBle command) := by
    intro command
    apply keeps_get_bind
    intro work holds
    cases work.ble.push? command <;> exact holds
  have device : ∀ command, Keeps
      (fun work : RealtimeWork capacities => invariant work.runtime)
      (pushRealtimeDevice command) := by
    intro command
    apply keeps_get_bind
    intro work holds
    cases work.device.push? command <;> exact holds
  cases action with
  | notify target report reason =>
      cases target with
      | ble hostId => exact ble _
      | wired =>
          cases build with
          | single => exact keeps_throw _
          | dual => exact device _
  | _ => exact keeps_throw _

theorem keeps_routeAll (invariant : BridgeRuntime → Prop)
    (list : List BridgeAction) :
    Keeps (fun work : RealtimeWork capacities => invariant work.runtime)
      (routeRealtimeAll build list) := by
  induction list with
  | nil => exact keeps_pure ()
  | cons head tail ih =>
      exact keeps_bind (keeps_route invariant head) fun _ => ih

theorem onRealtime_routeAll (list : List BridgeAction) :
    Keeps (OnRealtime invariant)
      (routeRealtimeAll build list : RealtimeM capacities Unit) :=
  keeps_routeAll (fun runtime => invariant runtime.bridge) list

section

variable {frame : InputFrame} {work : RealtimeWork capacities}
  {after : BridgeWork realtimeActionCapacity}

theorem realtimeBridge_ok
    (done : (handleEventInPlace build (.inputFrame frame)).run
      ⟨work.runtime.bridge, .empty⟩ = .ok value after) :
    (realtimeBridge build frame).run work = .ok after.out.toList { work with
      runtime := { work.runtime with bridge := after.bridge } } := by
  simp only [realtimeBridge, EStateM.run_bind, EStateM.run_get, done,
    EStateM.run_set, EStateM.run_pure]

theorem realtimeBridge_error
    (failed : (handleEventInPlace build (.inputFrame frame)).run
      ⟨work.runtime.bridge, .empty⟩ = .error error after) :
    (realtimeBridge build frame).run work = .error (.bridge error) { work with
      runtime := { work.runtime with bridge := after.bridge } } := by
  simp only [realtimeBridge, EStateM.run_bind, EStateM.run_get, failed,
    EStateM.run_set]
  rfl

end

theorem keeps_realtimeBridge {invariant : BridgeRuntime → Prop}
    {frame : InputFrame}
    (kept : ∀ runtime, invariant runtime → invariant { runtime with
      bridge := (outcome (handleEventInPlace build (.inputFrame frame))
        ⟨runtime.bridge, (.empty : BoundedVec BridgeAction
          realtimeActionCapacity)⟩).bridge }) :
    Keeps (fun work : RealtimeWork capacities => invariant work.runtime)
      (realtimeBridge build frame) := by
  intro work holds
  have left := kept work.runtime holds
  cases done : (handleEventInPlace build (.inputFrame frame)).run
      ⟨work.runtime.bridge,
        (.empty : BoundedVec BridgeAction realtimeActionCapacity)⟩ with
  | ok value after =>
      rw [outcome_of_ok done] at left
      rw [outcome_of_ok (realtimeBridge_ok done)]
      exact left
  | error error after =>
      rw [outcome_of_error done] at left
      rw [outcome_of_error (realtimeBridge_error done)]
      exact left

variable (closed : BridgeClosed build True invariant)

include closed

theorem BridgeClosed.realtimeBridge (frame : InputFrame) :
    Keeps (OnRealtime invariant) (realtimeBridge build frame :
      RealtimeM capacities (List BridgeAction)) := by
  have kept : ∀ runtime : BridgeRuntime, invariant runtime.bridge →
      invariant (outcome (handleEventInPlace build (.inputFrame frame))
        ⟨runtime.bridge, (.empty : BoundedVec BridgeAction
          realtimeActionCapacity)⟩).bridge := by
    intro runtime holds
    exact closed.event realtimeActionCapacity (.inputFrame frame)
      (fun _ => trivial) ⟨runtime.bridge, .empty⟩ holds
  exact @keeps_realtimeBridge _ _ (fun runtime => invariant runtime.bridge) _
    kept

theorem BridgeClosed.realtime (frame : InputFrame) :
    Keeps (OnRealtime invariant) (handleRealtimeInputFrameInPlace build frame :
      RealtimeM capacities Unit) := by
  cases build with
  | single =>
      refine keeps_bind (onRealtime_transform frame) fun _ =>
        keeps_bind keeps_get fun _ => keeps_bind (keeps_lift _ _) fun _ => ?_
      exact keeps_bind (closed.realtimeBridge _) fun _ => onRealtime_routeAll _
  | dual =>
      refine keeps_bind (onRealtime_transform frame) fun _ =>
        keeps_bind keeps_get fun _ => keeps_ite ?_ ?_
      · exact keeps_modify fun _ holds => holds
      · refine keeps_bind keeps_get fun _ =>
          keeps_bind (keeps_lift _ _) fun _ =>
            keeps_bind (closed.realtimeBridge _) fun _ =>
              keeps_bind keeps_get fun _ => ?_
        exact keeps_bind (keeps_lift _ _) fun _ => onRealtime_routeAll _

end

/-- One call into a runtime, finished or failed.  The calls that work on
copies end in one of the states of those that work in place. -/
inductive RuntimeStep (build : Build) (runtime : BridgeRuntime) :
    BridgeRuntime → Prop
  | input {capacity : Nat} (actions events : Nat)
      (commands : BoundedVec RuntimeCommand capacity)
      (input : RuntimeInput build) :
      RuntimeStep build runtime ((handleInputInPlace build actions events
        input).outcome ⟨runtime, commands, []⟩).runtime
  | core {capacity : Nat} (actions events : Nat)
      (commands : BoundedVec RuntimeCommand capacity)
      (input : RuntimeInput build) :
      RuntimeStep build runtime ((handleInputCoreInPlace build actions events
        input).outcome ⟨runtime, commands, []⟩).runtime
  | event {capacity : Nat} (actions : Nat)
      (commands : BoundedVec RuntimeCommand capacity)
      (event : BridgeEvent build) :
      RuntimeStep build runtime ((handleBridgeEvent build actions
        event).outcome ⟨runtime, commands, []⟩).runtime
  | realtime {capacities : RuntimeCapacities}
      (work : RealtimeWork capacities) (started : work.runtime = runtime)
      (frame : InputFrame) :
      RuntimeStep build runtime
        ((handleRealtimeInputFrameInPlace build frame).outcome work).runtime
  | linkLost (hostId : HostId) : RuntimeStep build runtime { runtime with
      bridge := runtime.bridge.markHostDisconnectedForQuiesce hostId }
  | quiesce {bridge : BridgeState}
      (captured : runtime.bridge.captureSuppression = .ok bridge) :
      RuntimeStep build runtime { runtime with bridge := bridge }
  | metrics (metrics : RuntimeTransportMetrics) :
      RuntimeStep build runtime { runtime with
        counters := runtime.counters.observe metrics }

def RuntimeReachable (build : Build) (runtime : BridgeRuntime) : Prop :=
  ∃ hosts usbInterfaces storageGeneration, Relation.ReflTransGen
    (RuntimeStep build)
    (BridgeRuntime.new hosts usbInterfaces storageGeneration) runtime

theorem RuntimeReachable.invariant (reachable : RuntimeReachable build runtime)
    {invariant : BridgeRuntime → Prop}
    (initially : ∀ hosts usbInterfaces storageGeneration,
      invariant (.new hosts usbInterfaces storageGeneration))
    (kept : ∀ runtime next, RuntimeStep build runtime next →
      invariant runtime → invariant next) : invariant runtime := by
  obtain ⟨hosts, usbInterfaces, storageGeneration, steps⟩ := reachable
  induction steps with
  | refl => exact initially hosts usbInterfaces storageGeneration
  | tail _ step ih => exact kept _ _ step ih

structure RuntimeCall (build : Build) where
  capacity : Nat
  actions : Nat
  events : Nat
  input : RuntimeInput build

/-- A failing call changes nothing and asks for nothing. -/
def BridgeRuntime.perform {build : Build} (runtime : BridgeRuntime)
    (call : RuntimeCall build) : BridgeRuntime × List RuntimeCommand :=
  match runtime.handleInput build call.actions call.events call.capacity
      call.input with
  | .ok work => (work.runtime, work.commands.toList)
  | .error _ => (runtime, [])

def RuntimePerforms (build : Build) (runtime : BridgeRuntime)
    (call : RuntimeCall build) (commands : List RuntimeCommand)
    (next : BridgeRuntime) : Prop :=
  runtime.perform call = (next, commands)

abbrev RuntimeRun (build : Build) := Run (RuntimePerforms build)

theorem handleInput_ok
    (handled : runtime.handleInput build actions events capacity input =
      .ok work) :
    (handleInputInPlace build actions events input).run
      ⟨runtime, .empty, []⟩ = .ok () work := by
  unfold BridgeRuntime.handleInput at handled
  split at handled
  · cases handled
    assumption
  · cases handled

theorem runtimePerforms_cases
    (performed : RuntimePerforms build runtime call commands next) :
    (next = runtime ∧ commands = []) ∨
      ∃ work : RuntimeWork call.capacity,
        next = work.runtime ∧ commands = work.commands.toList ∧
          (handleInputInPlace build call.actions call.events call.input).run
            ⟨runtime, .empty, []⟩ = .ok () work := by
  unfold RuntimePerforms BridgeRuntime.perform at performed
  cases handled : runtime.handleInput build call.actions call.events
      call.capacity call.input with
  | error error =>
      simp only [handled, Prod.mk.injEq] at performed
      exact .inl ⟨performed.1.symm, performed.2.symm⟩
  | ok work =>
      simp only [handled, Prod.mk.injEq] at performed
      exact .inr ⟨work, performed.1.symm, performed.2.symm,
        handleInput_ok handled⟩

theorem RuntimeReachable.perform (reachable : RuntimeReachable build runtime)
    (performed : RuntimePerforms build runtime call commands next) :
    RuntimeReachable build next := by
  rcases runtimePerforms_cases performed with ⟨rfl, -⟩ | ⟨work, rfl, -, finished⟩
  · exact reachable
  · obtain ⟨hosts, usbInterfaces, storageGeneration, steps⟩ := reachable
    have step : RuntimeStep build runtime _ :=
      .input call.actions call.events (.empty : BoundedVec _ call.capacity)
        call.input
    rw [outcome_of_ok finished] at step
    exact ⟨hosts, usbInterfaces, storageGeneration, steps.tail step⟩

theorem BridgeClosed.step (closed : BridgeClosed build True invariant)
    (quiesced : ∀ bridge hostId, invariant bridge →
      invariant (bridge.markHostDisconnectedForQuiesce hostId))
    (captured : ∀ bridge next, invariant bridge →
      bridge.captureSuppression = .ok next → invariant next)
    (step : RuntimeStep build runtime next) (holds : invariant runtime.bridge) :
    invariant next.bridge := by
  cases step with
  | input actions events commands input =>
      exact closed.input actions events (fun _ => trivial) _ holds
  | core actions events commands input =>
      exact closed.core actions events (fun _ => trivial) _ holds
  | event actions commands event =>
      exact closed.handle actions (fun _ => trivial) _ holds
  | realtime work started frame =>
      subst started
      exact closed.realtime frame work holds
  | linkLost hostId => exact quiesced _ hostId holds
  | quiesce reached => exact captured _ _ holds reached
  | metrics metrics => exact holds

section

variable {bridge : BridgeState}

theorem HostId.valid_of_validManagementHost
    (valid : validManagementHost hosts hostId = true) : hostId.Valid := by
  simp only [validManagementHost, Bool.and_eq_true, bne_iff_ne,
    decide_eq_true_eq] at valid
  obtain ⟨⟨positive, -⟩, small⟩ := valid
  exact HostId.valid_of_range positive small

theorem HostId.valid_of_slot (slot : HostSlot) : HostId.Valid ⟨slot.get⟩ := by
  unfold HostId.Valid HostId.validated HostSlot.tryFrom
  rw [dif_pos slot.inRange]
  exact ⟨_, rfl⟩

theorem TableSound.restoreHost {stored : StoredHostProfile}
    (sound : TableSound machine)
    (restored : machine.restoreHost stored = .ok next) : TableSound next := by
  obtain ⟨⟨index, host⟩, upserted, rest⟩ := bind_eq_ok.mp restored
  cases rest
  apply sound.store upserted
  exact (BleHostStateMachine.upsertHost_spec upserted).1

theorem TableSound.restoreUntilRefused (sound : TableSound machine) :
    TableSound (machine.restoreUntilRefused list) := by
  induction list generalizing machine with
  | nil => exact sound
  | cons head tail ih =>
      unfold BleHostStateMachine.restoreUntilRefused
      split
      · rename_i next restored
        exact ih (sound.restoreHost restored)
      · exact sound

theorem restore_eq_untilRefused {list : List StoredHostProfile}
    {machine : BleHostStateMachine}
    (restored : list.foldlM BleHostStateMachine.restoreHost machine =
      .ok next) : next = machine.restoreUntilRefused list := by
  induction list generalizing machine with
  | nil =>
      cases restored
      rfl
  | cons head tail ih =>
      rw [List.foldlM_cons] at restored
      obtain ⟨middle, reached, rest⟩ := bind_eq_ok.mp restored
      rw [BleHostStateMachine.restoreUntilRefused, reached]
      exact ih rest

theorem tableSound_partlyRestored (machine : BleHostStateMachine)
    (storage : StorageState) : TableSound (machine.partlyRestored storage) := by
  apply TableSound.restoreUntilRefused
  exact tableSound_empty _ _

theorem HostsSound.restored {restored : BridgeState} (sound : HostsSound bridge)
    (success : bridge.restoreStorageState build storage = .ok restored) :
    HostsSound restored := by
  unfold BridgeState.restoreStorageState at success
  cases loaded : bridge.hosts.restore storage with
  | error error => simp only [loaded, reduceCtorEq] at success
  | ok hosts =>
      have table : TableSound hosts := by
        rw [restore_eq_untilRefused loaded]
        exact tableSound_partlyRestored bridge.hosts storage
      simp only [loaded] at success
      cases build with
      | single =>
          cases success
          exact sound.of_same table rfl rfl
      | dual =>
          cases success
          refine ⟨?_, fun hostId linked => ?_, nofun⟩
          · simp only [BridgeState.restoreTarget]
            split
            · exact table.of_hosts rfl
            · exact table
          · simp only [BridgeState.restoreTarget, Option.map_eq_some_iff]
              at linked
            obtain ⟨slot, -, rfl⟩ := linked
            exact HostId.valid_of_slot slot

theorem hostsSound_closed (build : Build) :
    BridgeClosed build True HostsSound where
  event actions event _ := by
    intro work sound
    exact (handleEventInPlace_moves event work).onBridge sound
      fun _ _ updated holds => updated.hostsSound holds
  held bridge sound := by
    unfold BridgeState.holdWiredPresentationTransition
    split
    · exact sound.setAvailability _ _
    · exact sound
  begun bridge next operationId sound begun := by
    unfold BridgeState.beginWiredPresentationTransition at begun
    rw [captureSuppression_eq] at begun
    cases begun
    exact ⟨sound.table, sound.linked, nofun⟩
  linked bridge bleHost sound valid :=
    ⟨sound.table, fun hostId linked =>
      HostId.valid_of_validManagementHost (valid hostId linked), sound.active⟩
  named bridge hostId name hosts changed sound found := by
    obtain ⟨⟨index, host⟩, upserted, rest⟩ := bind_eq_ok.mp found
    cases rest
    refine sound.withHosts (sound.table.store upserted ?_)
    exact (BleHostStateMachine.upsertHost_spec upserted).1
  restored bridge storage restored sound success := sound.restored success
  partly bridge storage sound :=
    sound.withHosts (tableSound_partlyRestored bridge.hosts storage)

theorem RuntimeReachable.hostsSound
    (reachable : RuntimeReachable build runtime) :
    HostsSound runtime.bridge := by
  apply reachable.invariant
  · intro hosts usbInterfaces storageGeneration
    exact ⟨tableSound_empty _ _, nofun, nofun⟩
  · intro runtime next step
    apply (hostsSound_closed build).step _ _ step
    · exact fun bridge hostId sound =>
        sound.withHosts sound.table.onDisconnected
    · intro bridge next sound captured
      rw [captureSuppression_eq] at captured
      cases captured
      exact sound.of_same sound.table rfl rfl

end

namespace RuntimeScenario

variable {build : Build}

def call (input : RuntimeInput build) : RuntimeCall build :=
  ⟨runtimeCommandCapacity, runtimeBridgeActionCapacity,
    runtimeBleEventCapacity, input⟩

def final (inputs : List (RuntimeInput build)) : BridgeRuntime :=
  Run.final BridgeRuntime.perform
    (.new storedHostsMax runtimeUsbInterfacesMax 0) (inputs.map call)

theorem reachable (inputs : List (RuntimeInput build)) :
    RuntimeReachable build (final inputs) := by
  have start : RuntimeReachable build
      (.new storedHostsMax runtimeUsbInterfacesMax 0) :=
    ⟨_, _, _, .refl⟩
  refine (Run.of_trace BridgeRuntime.perform _ (inputs.map call)).invariant
    (RuntimeReachable build) start ?_
  exact fun taken _ performed reached => reached.perform performed

theorem handled {runtime : BridgeRuntime}
    (ok : (runtime.handleInput build runtimeBridgeActionCapacity
      runtimeBleEventCapacity runtimeCommandCapacity input).isOk = true) :
    ∃ work, runtime.handleInput build runtimeBridgeActionCapacity
        runtimeBleEventCapacity runtimeCommandCapacity input = .ok work ∧
      runtime.perform (call input) = (work.runtime, work.commands.toList) := by
  cases done : runtime.handleInput build runtimeBridgeActionCapacity
      runtimeBleEventCapacity runtimeCommandCapacity input with
  | error error =>
      rw [done] at ok
      cases ok
  | ok work =>
      refine ⟨work, rfl, ?_⟩
      simp only [BridgeRuntime.perform, call, done]

def connect (hostId : HostId) : List (RuntimeInput build) :=
  [.bridgeEvent (.hostConnected hostId),
    .bridgeEvent (.hostSecurityChanged hostId true true none),
    .bridgeEvent (.cccdChanged hostId .keyboard true),
    .bridgeEvent (.cccdChanged hostId .mouse true),
    .bridgeEvent (.cccdChanged hostId .consumer true)]

def keyboardFrame (modifiers : ModifierState) (key : UInt8) : InputFrame :=
  .standard ⟨⟨1⟩, ⟨1⟩, some ⟨modifiers, ⟨[⟨key⟩],
    KeyVec.single_fits key⟩, KeyVec.single_nodup key⟩, none, none⟩

/-- Hosts 1 and 2 are connected and host 1 is active; left Ctrl with Escape on
the keyboard switches the target. -/
def shortcutSet : List (RuntimeInput .single) :=
  [.bridgeEvent (.switchTarget ⟨1⟩)] ++ connect ⟨1⟩ ++ connect ⟨2⟩ ++
    [.usbHidInterfaceConnected ⟨1⟩ ⟨1⟩ none,
      .usbDeviceMetadataUpdated ⟨1⟩ ⟨1, 1, 1⟩ .empty 0,
      .managementRequest .debugSerial ⟨1, .setSetting .targetSwitchShortcut
        (.input ⟨1, by decide⟩) 0x0129⟩ 5]

def chord : InputFrame := keyboardFrame 1 0x29

end RuntimeScenario

end HidShift
