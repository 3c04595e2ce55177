import HidShift.Runtime.Reachable

namespace HidShift

open Lib InPlace

variable {capacity : Nat} {build : Build} {hostId : HostId}

def StorageState.Holds (storage : StorageState) (hostId : HostId) : Prop :=
  (∃ host ∈ storage.hosts.toList, host.hostId = hostId) ∨
    storage.lastActiveHost = some hostId

def RuntimeCommand.Revives (hostId : HostId) : RuntimeCommand → Prop
  | .bleCommand (.activateInput activated) => activated = hostId
  | .persistStorage storage _ => storage.Holds hostId
  | _ => False

def Unscheduled (hostId : HostId) (runtime : BridgeRuntime) : Prop :=
  ∀ pending, runtime.pendingTargetSwitch = some pending →
    pending.target ≠ hostId

structure Absent (hostId : HostId) (before : Option HostId)
    (bridge : BridgeState) : Prop where
  entry : bridge.hosts.host hostId = none
  active : bridge.hosts.activeTarget = some hostId → before = some hostId

section

variable {before : Option HostId} {bridge next : BridgeState}

theorem Absent.of_hosts (absent : Absent hostId before bridge)
    (hosts : next.hosts = bridge.hosts) : Absent hostId before next := by
  refine ⟨?_, ?_⟩
  · rw [hosts]
    exact absent.entry
  · rw [hosts]
    exact absent.active

theorem Absent.untouched (absent : Absent hostId before bridge)
    (unnamed : ¬ event.Names hostId) (touches : Touches event bridge touched) :
    hostId ≠ touched := by
  rintro rfl
  rcases touches with named | ⟨host, present⟩
  · exact unnamed named
  · rw [absent.entry] at present
    cases present

theorem BridgeUpdate.absent (updated : BridgeUpdate event bridge next)
    (unnamed : ¬ event.Names hostId) (absent : Absent hostId before bridge) :
    Absent hostId before next := by
  cases updated with
  | scratch same => exact absent.of_hosts same.hosts
  | frame carried preparation same => exact absent.of_hosts same.hosts
  | removal removed => exact absent.of_hosts rfl
  | store touched upserted keyed =>
      have differs := absent.untouched unnamed touched
      refine ⟨?_, absent.active⟩
      have replaced := (BleHostStateMachine.upsertHost_spec upserted).2.2
      exact ((replaced _ keyed hostId).trans (if_neg differs)).trans
        absent.entry
  | activate touched activated =>
      have differs := absent.untouched unnamed touched
      refine ⟨?_, fun active => ?_⟩
      · obtain ⟨host, stored⟩ :=
          BleHostStateMachine.setActiveTarget_host activated
        exact ((stored hostId).trans (if_neg differs)).trans absent.entry
      · rw [(BleHostStateMachine.setActiveTarget_spec activated).1] at active
        exact absurd (Option.some.inj active).symm differs
  | disconnect named =>
      refine ⟨?_, ?_⟩
      · exact BleHostStateMachine.onDisconnected_absent absent.entry
      · rw [BleHostStateMachine.onDisconnected_activeTarget]
        exact absent.active
  | forget named =>
      refine ⟨?_, fun active => ?_⟩
      · exact BleHostStateMachine.clearHost_keeps_absent absent.entry
      · rcases BleHostStateMachine.clearHost_activeTarget with same | gone
        · rw [BridgeState.forgetHost, same] at active
          exact absent.active active
        · rw [BridgeState.forgetHost, gone.1] at active
          cases active
  | deactivate =>
      refine ⟨absent.entry, fun active => ?_⟩
      cases active
  | refresh => exact absent.of_hosts rfl
  | select selected => exact absent.of_hosts rfl
  | wired reported => exact absent.of_hosts rfl

end

structure Forgotten (hostId : HostId) (before : Option HostId)
    (allowed : RuntimeCommand → Prop) (work : RuntimeWork capacity) :
    Prop where
  bridge : Absent hostId before work.runtime.bridge
  unscheduled : Unscheduled hostId work.runtime
  commands : ∀ command ∈ work.commands.toList, allowed command

section

variable {before : Option HostId} {allowed : RuntimeCommand → Prop}

theorem forgotten_update
    (hosts : ∀ runtime, (update runtime).bridge.hosts = runtime.bridge.hosts)
    (pending : ∀ runtime, (update runtime).pendingTargetSwitch =
      runtime.pendingTargetSwitch ∨
        (update runtime).pendingTargetSwitch = none) :
    Keeps (Forgotten hostId before allowed)
      (@modifyRuntime capacity update) := by
  refine keeps_modify fun work forgotten => ⟨?_, ?_, forgotten.commands⟩
  · exact forgotten.bridge.of_hosts (hosts work.runtime)
  · intro switch scheduled
    rcases pending work.runtime with same | gone
    · rw [same] at scheduled
      exact forgotten.unscheduled switch scheduled
    · rw [gone] at scheduled
      cases scheduled

theorem forgotten_push (ok : allowed command) :
    Keeps (Forgotten hostId before allowed)
      (@pushCommand capacity command) := by
  apply keeps_get_bind
  intro work forgotten
  cases pushed : work.commands.push? command with
  | none => exact forgotten
  | some commands =>
      refine ⟨forgotten.bridge, forgotten.unscheduled, ?_⟩
      intro listed member
      change listed ∈ commands.toList at member
      rw [BoundedVec.push?_eq_some.mp pushed, List.mem_append] at member
      rcases member with old | new
      · exact forgotten.commands listed old
      · cases List.mem_singleton.mp new
        exact ok

theorem storageState_absent {runtime : BridgeRuntime} {storage : StorageState}
    (absent : runtime.bridge.hosts.host hostId = none)
    (stored : runtime.storageState build = .ok storage) :
    ¬ storage.Holds hostId := by
  obtain ⟨state, bridgeState, rest⟩ := bind_eq_ok.mp stored
  cases rest
  obtain ⟨hostsState, hosts, rest⟩ := bind_eq_ok.mp bridgeState
  have same : state.hosts = hostsState.hosts ∧
      state.lastActiveHost = hostsState.lastActiveHost := by
    cases build with
    | single =>
        cases rest
        exact ⟨rfl, rfl⟩
    | dual =>
        obtain ⟨outputTarget, -, rest⟩ := bind_eq_ok.mp rest
        obtain ⟨wiredBleHost, -, rest⟩ := bind_eq_ok.mp rest
        cases rest
        exact ⟨rfl, rfl⟩
  unfold BleHostStateMachine.storageState at hosts
  split at hosts
  · cases hosts
  · rename_i table extended
    cases hosts
    have unlisted : ∀ host ∈ table.toList, host.hostId ≠ hostId := by
      intro host member keyed
      rw [BoundedVec.extend?_eq_some.mp extended] at member
      obtain ⟨entry, present, rfl⟩ := List.mem_map.mp member
      exact SlotTable.lookup_eq_none.mp absent entry present keyed
    rintro (⟨host, member, keyed⟩ | active)
    · have listed : host ∈ state.hosts.toList := member
      rw [same.1] at listed
      exact unlisted host listed keyed
    · have filtered : state.lastActiveHost = some hostId := active
      rw [same.2] at filtered
      obtain ⟨-, present⟩ := Option.filter_eq_some_iff.mp filtered
      obtain ⟨host, member, keyed⟩ := List.any_eq_true.mp present
      exact unlisted host member (of_decide_eq_true keyed)

theorem observeBridgeEvent_pending (runtime : BridgeRuntime)
    (event : BridgeEvent build) :
    (runtime.observeBridgeEvent event).pendingTargetSwitch =
      runtime.pendingTargetSwitch := by
  have history : (runtime.observeHistory event).pendingTargetSwitch =
      runtime.pendingTargetSwitch := by
    cases event <;> rfl
  have pairing : ∀ runtime : BridgeRuntime,
      (runtime.observePairing event).pendingTargetSwitch =
        runtime.pendingTargetSwitch := by
    intro runtime
    unfold BridgeRuntime.observePairing
    split <;> first | rfl | (split <;> rfl)
  exact (pairing _).trans history

theorem forgotten_observe (event : BridgeEvent build) :
    Keeps (Forgotten hostId before allowed)
      (@modifyRuntime capacity (·.observeBridgeEvent event)) := by
  apply forgotten_update
  · exact fun runtime =>
      congrArg BridgeState.hosts (observeBridgeEvent_bridge runtime event)
  · exact fun runtime => .inl (observeBridgeEvent_pending runtime event)

/-- The moves of an event that is not about the host emit no activation of
it: an activated host has an entry. -/
theorem Absent.moves (absent : Absent hostId before start)
    (unnamed : ¬ event.Names hostId)
    (moves : BridgeMoves event ⟨start, .empty⟩ after) :
    Absent hostId before after.bridge ∧
      ∀ action ∈ after.out.toList, action ≠ .activateInput hostId := by
  induction moves with
  | refl => exact ⟨absent, nofun⟩
  | tail _ move ih =>
      obtain ⟨holds, unlisted⟩ := ih
      cases move with
      | update updated => exact ⟨updated.absent unnamed holds, unlisted⟩
      | push emits pushed =>
          refine ⟨holds, fun action member same => ?_⟩
          change action ∈ BoundedVec.toList _ at member
          rw [BoundedVec.push?_eq_some.mp pushed, List.mem_append] at member
          rcases member with old | new
          · exact unlisted action old same
          · cases List.mem_singleton.mp new
            subst same
            obtain ⟨host, present⟩ := emits
            rw [holds.entry] at present
            cases present

variable (harmless : ∀ command : RuntimeCommand,
  ¬ command.Revives hostId → allowed command)

include harmless

theorem forgotten_snapshot (priority : StoragePersistPriority) :
    Keeps (Forgotten hostId before allowed)
      (@pushStorageSnapshot capacity build priority) := by
  apply keeps_readRuntime_bind
  intro runtime
  apply keeps_ite
  · refine keeps_bind (forgotten_update (fun _ => rfl) fun _ => .inl rfl)
      fun _ => keeps_readRuntime ?_
    intro work forgotten
    cases stored : work.runtime.storageState build with
    | error error => exact forgotten
    | ok storage =>
        refine forgotten_push (harmless _ ?_) work forgotten
        exact storageState_absent forgotten.bridge.entry stored
  · exact keeps_throw _

theorem forgotten_dispatch (priority : Option StoragePersistPriority)
    (ok : ∀ activated,
      action = .activateInput activated →
        allowed (.bleCommand (.activateInput activated))) :
    Keeps (Forgotten hostId before allowed)
      (@dispatchBridgeAction capacity build priority action) := by
  refine PassesOn.keeps ⟨fun command passes => forgotten_push ?_,
    forgotten_snapshot harmless,
    fun _ _ _ _ _ => forgotten_update (fun _ => rfl) fun _ => .inl rfl,
    fun _ => forgotten_update (fun runtime =>
      holdWiredPresentationTransition_hosts _) fun _ => .inl rfl⟩ priority
  cases command with
  | bleCommand command =>
      cases command with
      | activateInput activated => exact ok activated passes
      | _ => exact harmless _ id
  | persistStorage state priority => cases passes
  | _ => exact harmless _ id

theorem forgotten_append (unnamed : ¬ event.Names hostId) :
    Keeps (Forgotten hostId before allowed)
      (@handleBridgeEventAppend capacity build actions event) := by
  apply keeps_append
  · exact fun work forgotten => forgotten_observe event work forgotten
  · intro work after emitted forgotten moves
    obtain ⟨bridge, unlisted⟩ := forgotten.bridge.moves unnamed moves
    refine ⟨⟨bridge, forgotten.unscheduled, forgotten.commands⟩, ?_⟩
    intro action member
    apply forgotten_dispatch harmless
    rintro activated rfl
    refine harmless _ fun same => unlisted _ member ?_
    rw [show activated = hostId from same]

theorem forgotten_tickSwitch (nowMs : UInt64) :
    Keeps (Forgotten hostId before allowed)
      (@tickTargetSwitch capacity build actions nowMs) := by
  apply keeps_readRuntime
  intro work forgotten
  cases scheduled : work.runtime.pendingTargetSwitch with
  | none => exact forgotten
  | some pending =>
      have differs := forgotten.unscheduled pending scheduled
      refine keeps_when (keeps_bind ?_ fun _ => ?_) work forgotten
      · exact forgotten_update (fun _ => rfl) fun _ => .inr rfl
      · exact forgotten_append harmless differs

theorem forgotten_tickPairing (nowMs : UInt64) :
    Keeps (Forgotten hostId before allowed)
      (@tickPairingMode capacity build actions nowMs) := by
  refine keeps_readRuntime_bind fun runtime => ?_
  cases runtime.pairingMode with
  | none => exact keeps_pure ()
  | some pairing =>
      refine keeps_when (keeps_bind ?_ fun _ => ?_)
      · exact forgotten_update (fun _ => rfl) fun _ => .inl rfl
      · exact forgotten_append harmless id

theorem forgotten_power :
    Keeps (Forgotten hostId before allowed)
      (@reconcileUsbHostPower capacity build) := by
  refine keeps_readRuntime_bind fun runtime => ?_
  dsimp only
  refine keeps_bind (forgotten_update (fun _ => rfl) fun _ => .inl rfl)
    fun _ => ?_
  split
  · exact forgotten_push (harmless _ id)
  · exact keeps_pure ()

theorem forgotten_tick (nowMs : UInt64) :
    Keeps (Forgotten hostId before allowed)
      (@handleInputInPlace capacity build actions
      events (.tick nowMs)) := by
  have observed : Keeps (Forgotten hostId before allowed)
      (@modifyRuntime capacity (·.observeTick nowMs)) :=
    forgotten_update (fun _ => rfl) fun _ => .inl rfl
  have emptied : Keeps (Forgotten hostId before allowed)
      (@clearCommands capacity) :=
    keeps_modify fun work forgotten =>
      ⟨forgotten.bridge, forgotten.unscheduled, fun _ impossible =>
        absurd impossible List.not_mem_nil⟩
  have ticked : Keeps (Forgotten hostId before allowed)
      (@tick capacity build actions nowMs) :=
    keeps_bind observed fun _ => keeps_bind emptied fun _ =>
      keeps_bind (forgotten_tickSwitch harmless nowMs) fun _ =>
        forgotten_tickPairing harmless nowMs
  exact keeps_bind ticked fun _ => forgotten_power harmless

end

section

variable {actions events : Nat}

theorem clearHost_leads (build : Build) (hostId : HostId) :
    Leads (OnBridge HostsSound) (@clearHost actions build hostId)
      (OnBridge (Absent hostId (some hostId))) := by
  have withdrawn : Keeps (OnBridge HostsSound)
      (@withdrawPairing actions hostId) := by
    refine keeps_bind keeps_get fun _ => keeps_when ?_
    refine keeps_bind (keeps_modifyBridge fun _ sound => ?_) fun _ =>
      keeps_pushAction _
    exact sound.of_same sound.table rfl rfl
  refine leads_bind (leads_of_keeps keeps_get) fun work =>
    leads_bind (leads_of_keeps (keeps_when (keeps_pushActions _))) fun _ =>
      leads_bind (leads_of_keeps withdrawn) fun _ =>
        leads_bind (leads_modifyBridge fun bridge sound => ?_) fun _ =>
          leads_of_keeps (keeps_when ?_)
  · exact ⟨clearHost_absent sound.table, fun _ => rfl⟩
  · exact keeps_bind (keeps_pushActions _) fun _ =>
      keeps_bind (keeps_when (keeps_pushFrom _)) fun _ => keeps_pushStatus

def Clearable (hostId : HostId) (work : RuntimeWork capacity) : Prop :=
  HostsSound work.runtime.bridge ∧ Unscheduled hostId work.runtime

abbrev Cleared (hostId : HostId) : RuntimeWork capacity → Prop :=
  Forgotten hostId (some hostId) fun _ => True

theorem cleared_append :
    Leads (Clearable hostId) (@handleBridgeEventAppend capacity build actions
      (.clearHost hostId)) (Cleared hostId) := by
  have observed : Keeps (Clearable hostId)
      (@modifyRuntime capacity (·.observeBridgeEvent
        (.clearHost hostId : BridgeEvent build))) := by
    refine keeps_modify fun work start => ⟨?_, ?_⟩
    · have sound := start.1
      rw [← observeBridgeEvent_bridge work.runtime
        (.clearHost hostId : BridgeEvent build)] at sound
      exact sound
    · intro pending scheduled
      apply start.2 pending
      rw [← observeBridgeEvent_pending work.runtime
        (.clearHost hostId : BridgeEvent build)]
      exact scheduled
  have called : Leads (Clearable hostId) (callBridge build actions
      (.clearHost hostId) : RuntimeM capacity (List BridgeAction))
      (Cleared hostId) := by
    intro work value after start finished
    cases done : (handleEventInPlace build (.clearHost hostId)).run
        ⟨work.runtime.bridge, (.empty : BoundedVec BridgeAction actions)⟩ with
    | error error left =>
        rw [Succeeds, callBridge_error done] at finished
        cases finished
    | ok result left =>
        rw [Succeeds, callBridge_ok done] at finished
        cases finished
        have absent := clearHost_leads build hostId
          ⟨work.runtime.bridge, .empty⟩ result left start.1 done
        exact ⟨absent, start.2, fun _ _ => trivial⟩
  refine leads_bind (leads_of_keeps observed) fun _ =>
    leads_bind called fun emitted => leads_of_keeps (keeps_dispatch ?_)
  exact fun action _ => forgotten_dispatch (fun _ _ => trivial) _
    fun _ _ => trivial

theorem cleared_handle :
    Leads (Clearable hostId) (@handleBridgeEvent capacity build actions
      (.clearHost hostId)) (Cleared hostId) :=
  leads_bind (leads_of_keeps fun _ start => start) fun _ => cleared_append

inductive Clears (runtime : BridgeRuntime) (hostId : HostId) :
    RuntimeInput build → Prop
  | event : Clears runtime hostId (.bridgeEvent (.clearHost hostId))
  | button {intent : ButtonIntent} {nowMs : UInt64}
      (configured : runtime.configuredAction intent = 3)
      (active : runtime.bridge.hosts.activeTarget = some hostId) :
      Clears runtime hostId (.buttonIntent intent nowMs)
  | forget {destination : ManagementDestination}
      {request : ManagementRequest build} {nowMs : UInt64}
      (command : request.command = .forgetHost hostId) :
      Clears runtime hostId (.managementRequest destination request nowMs)

/-- The command answers a management request with a refusal. -/
def RuntimeCommand.refuses : RuntimeCommand → Bool
  | .managementResponse _ response => response.result ≠ .ok
  | _ => false

def Granted (commands : List RuntimeCommand) : Prop :=
  ∀ command ∈ commands, command.refuses = false

def ClearedIfGranted (hostId : HostId) (work : RuntimeWork capacity) : Prop :=
  Granted work.commands.toList → Cleared hostId work

theorem cleared_eventInput :
    Leads (Clearable hostId) (@handleBridgeEventInput capacity build actions
      (.clearHost hostId)) (Cleared hostId) := by
  have handled : Leads (Clearable hostId) (do
      handleBridgeEvent build actions (.clearHost hostId)
      InPlace.when (false = true) do
        handleShortcutTargetSwitch build actions (← readRuntime).nowMs :
          RuntimeM capacity Unit) (Cleared hostId) := by
    refine leads_bind cleared_handle fun _ => leads_when nofun ?_
    exact fun _ _ cleared => cleared
  exact fun work value after start finished =>
    handled work value after start finished

theorem cleared_button (configured : runtime.configuredAction intent = 3)
    (active : runtime.bridge.hosts.activeTarget = some hostId)
    (nowMs : UInt64) :
    Leads (fun work : RuntimeWork capacity => work.runtime = runtime ∧
      Clearable hostId work) (handleButtonIntent build actions intent nowMs)
      (Cleared hostId) := by
  have unpaired : Keeps (Clearable hostId)
    (@modifyRuntime capacity fun runtime =>
      { runtime with pairingMode := none }) :=
    keeps_modify fun _ start => start
  have cleared : Leads (Clearable hostId) (do
      InPlace.when ((← readRuntime).pairingFor hostId)
        (modifyRuntime fun runtime => { runtime with pairingMode := none })
      handleBridgeEvent build actions (.clearHost hostId) :
        RuntimeM capacity Unit) (Cleared hostId) :=
    leads_bind (leads_of_keeps fun _ start => start) fun _ =>
      leads_bind (leads_of_keeps (keeps_when unpaired)) fun _ => cleared_handle
  apply leads_readRuntime
  rintro work ⟨rfl, start⟩
  rw [configured]
  show Leads _ (clearActiveHostIntent build actions) _
  apply leads_readRuntime
  rintro _ rfl
  rw [active]
  apply leads_weaken cleared
  rintro _ rfl
  exact start

theorem cleared_push (command : RuntimeCommand) :
    Keeps (ClearedIfGranted hostId) (@pushCommand capacity command) := by
  apply keeps_get_bind
  intro work start
  cases pushed : work.commands.push? command with
  | none => exact start
  | some commands =>
      intro granted
      have cleared := start fun listed member => by
        refine granted listed ?_
        show _ ∈ commands.toList
        rw [BoundedVec.push?_eq_some.mp pushed]
        exact List.mem_append_left _ member
      exact ⟨cleared.bridge, cleared.unscheduled, fun _ _ => trivial⟩

theorem cleared_power :
    Keeps (ClearedIfGranted hostId)
      (@reconcileUsbHostPower capacity build) := by
  refine keeps_readRuntime_bind fun runtime => ?_
  dsimp only
  refine keeps_bind (keeps_modify fun work start granted => ?_) fun _ => ?_
  · obtain ⟨bridge, unscheduled, commands⟩ := start granted
    exact ⟨bridge, unscheduled, commands⟩
  · split
    · exact cleared_push _
    · exact keeps_pure ()

theorem cleared_execute (start : Clearable hostId before)
    (executed : Succeeds (executeManagementCommand build actions nowMs
      (.forgetHost hostId)) before result after) (ok : result = .ok) :
    Cleared hostId after := by
  subst ok
  simp only [executeManagementCommand, succeeds_bind, succeeds_readRuntime,
    succeeds_ite, succeeds_pure, reduceCtorEq, false_and, and_false,
    false_or] at executed
  obtain ⟨_, _, ⟨rfl, rfl⟩, -, executed⟩ := executed
  change Succeeds (withKnownHost hostId (do
    handleBridgeEventAppend build actions (.clearHost hostId)
    return .ok)) _ _ _ at executed
  simp only [withKnownHost, succeeds_bind, succeeds_readRuntime,
    succeeds_ite, succeeds_pure, reduceCtorEq, false_and, and_false,
    false_or] at executed
  obtain ⟨_, _, ⟨rfl, rfl⟩, -, -, done, middle, handled, -, rfl⟩ := executed
  exact cleared_append before done middle start handled

theorem cleared_management (command : request.command = .forgetHost hostId) :
    Leads (Clearable hostId) (@handleManagementRequest capacity build actions
      destination request nowMs)
      (ClearedIfGranted hostId) := by
  intro work value after start finished granted
  simp only [handleManagementRequest, clearCommands, succeeds_bind,
    succeeds_modify, succeeds_readRuntime, succeeds_pushCommand, command]
    at finished
  obtain ⟨_, _, rfl, result, middle, executed, _, _, ⟨rfl, rfl⟩, runtime, -,
    commands⟩ := finished
  have emptied : Clearable hostId
      ({ work with commands := .empty } : RuntimeWork capacity) := start
  have answered : result = .ok := by
    have accepted := granted (.managementResponse destination _) (by
      rw [commands]
      exact List.mem_append_right _ (List.mem_singleton.mpr rfl))
    simpa [RuntimeCommand.refuses] using accepted
  have cleared := cleared_execute emptied executed answered
  refine ⟨?_, ?_, fun _ _ => trivial⟩
  · rw [runtime]
    exact cleared.bridge
  · rw [runtime]
    exact cleared.unscheduled

theorem cleared_input (sound : HostsSound runtime.bridge)
    (unscheduled : Unscheduled hostId runtime)
    (clears : Clears runtime hostId input)
    (handled : runtime.handleInput build actions events capacity input =
      .ok work) (granted : Granted work.commands.toList) :
    Cleared hostId work := by
  have start : Clearable hostId
      (⟨runtime, .empty, []⟩ : RuntimeWork capacity) := ⟨sound, unscheduled⟩
  have core : ∀ done middle, Succeeds (handleInputCoreInPlace build actions
      events input) (⟨runtime, .empty, []⟩ : RuntimeWork capacity) done
      middle → ClearedIfGranted hostId middle := by
    intro done middle finished
    cases clears with
    | event =>
        exact fun _ => cleared_eventInput _ done middle start finished
    | button configured active =>
        exact fun _ => cleared_button configured active _ _ done middle
          ⟨rfl, start⟩ finished
    | forget command =>
        exact cleared_management command _ done middle start finished
  obtain ⟨done, middle, finished, power⟩ :=
    succeeds_bind.mp (handleInput_ok handled)
  exact leads_of_keeps cleared_power middle () work (core done middle finished)
    power granted

end

theorem tick_performed {call : RuntimeCall build}
    (performed : RuntimePerforms build runtime call commands next)
    (ticked : call.input = .tick nowMs)
    (absent : Absent hostId before runtime.bridge)
    (unscheduled : Unscheduled hostId runtime) :
    Absent hostId before next.bridge ∧ Unscheduled hostId next ∧
      ∀ command ∈ commands, ¬ command.Revives hostId := by
  rcases runtimePerforms_cases performed with
    ⟨rfl, rfl⟩ | ⟨work, rfl, rfl, finished⟩
  · exact ⟨absent, unscheduled, fun _ impossible =>
      absurd impossible List.not_mem_nil⟩
  · rw [ticked] at finished
    have start : Forgotten hostId before (fun command =>
        ¬ command.Revives hostId)
        (⟨runtime, .empty, []⟩ : RuntimeWork call.capacity) :=
      ⟨absent, unscheduled, fun _ impossible =>
        absurd impossible List.not_mem_nil⟩
    obtain ⟨left, idle, harmless⟩ := leads_of_keeps
      (forgotten_tick (fun _ ok => ok) nowMs) _ () work start finished
    exact ⟨left, idle, harmless⟩

/-- A host cleared while no switch to it was pending stays cleared as long as
only the clock runs: it gets no entry, does not become active, and no command
activates or stores it. -/
theorem forgotten_host_stays_forgotten {actions events : Nat}
    {runtime finish : BridgeRuntime} {input : RuntimeInput build}
    {work : RuntimeWork capacity}
    {history : List (Transition BridgeRuntime (RuntimeCall build)
      (List RuntimeCommand))}
    (reachable : RuntimeReachable build runtime)
    (clears : Clears runtime hostId input)
    (handled : runtime.handleInput build actions events capacity input =
      .ok work) (granted : Granted work.commands.toList)
    (unscheduled : Unscheduled hostId runtime)
    (run : RuntimeRun build work.runtime history finish)
    (ticks : ∀ taken ∈ history, ∃ nowMs, taken.event.input = .tick nowMs) :
    finish.bridge.hosts.host hostId = none ∧
      (finish.bridge.hosts.activeTarget = some hostId →
        work.runtime.bridge.hosts.activeTarget = some hostId) ∧
      ∀ taken ∈ history, ∀ command ∈ taken.output,
        ¬ command.Revives hostId := by
  have cleared := cleared_input reachable.hostsSound unscheduled clears handled
    granted
  have start : Absent hostId work.runtime.bridge.hosts.activeTarget
      work.runtime.bridge := ⟨cleared.bridge.entry, id⟩
  suffices along : ∀ before start history finish,
      Absent hostId before start.bridge → Unscheduled hostId start →
      RuntimeRun build start history finish →
      (∀ taken ∈ history, ∃ nowMs, taken.event.input = .tick nowMs) →
      Absent hostId before finish.bridge ∧
        ∀ taken ∈ history, ∀ command ∈ taken.output, ¬ command.Revives hostId by
    obtain ⟨left, harmless⟩ :=
      along _ _ _ _ start cleared.unscheduled run ticks
    exact ⟨left.entry, left.active, harmless⟩
  intro before start history finish absent idle run ticks
  induction run with
  | nil => exact ⟨absent, fun _ impossible =>
      absurd impossible List.not_mem_nil⟩
  | cons performed rest ih =>
      obtain ⟨nowMs, ticked⟩ := ticks _ List.mem_cons_self
      obtain ⟨left, unscheduled, harmless⟩ :=
        tick_performed performed ticked absent idle
      obtain ⟨ended, later⟩ := ih left unscheduled fun taken member =>
        ticks taken (List.mem_cons_of_mem _ member)
      refine ⟨ended, fun taken member => ?_⟩
      rcases List.mem_cons.mp member with rfl | tail
      · exact harmless
      · exact later taken tail

namespace RuntimeScenario

def connected : List (RuntimeInput .single) := connect ⟨2⟩

def delayed : List (RuntimeInput .single) :=
  [.bridgeEvent (.hostConnected ⟨2⟩),
    .managementRequest .debugSerial ⟨1, .selectHost ⟨2⟩⟩ 5]

def clearing : RuntimeInput .single := .bridgeEvent (.clearHost ⟨2⟩)

def late : RuntimeInput .single := .tick 100

end RuntimeScenario

open RuntimeScenario in
theorem connected_host_stays_forgotten :
    ∃ work, (final connected).handleInput .single 16 2 17 clearing = .ok work ∧
      (Run.final BridgeRuntime.perform work.runtime
        [call late]).bridge.hosts.host ⟨2⟩ = none := by
  obtain ⟨work, handled, performed⟩ := handled
    (by decide +kernel : ((final connected).handleInput .single
      runtimeBridgeActionCapacity runtimeBleEventCapacity
      runtimeCommandCapacity clearing).isOk = true)
  have granted : Granted ((final connected).perform (call clearing)).2 := by
    unfold Granted
    decide +kernel
  rw [performed] at granted
  have unscheduled : Unscheduled ⟨2⟩ (final connected) := by
    have none : (final connected).pendingTargetSwitch = none := by
      decide +kernel
    intro pending scheduled
    rw [none] at scheduled
    cases scheduled
  refine ⟨work, handled, ?_⟩
  refine (forgotten_host_stays_forgotten (reachable connected) .event handled
    granted unscheduled (Run.of_trace _ _ [call late]) ?_).1
  intro taken member
  have event := Run.event_mem_of_mem_trace _ member
  rw [List.mem_singleton.mp event]
  exact ⟨100, rfl⟩

open RuntimeScenario in
/-- The delayed switch outlives the host it is for: the next tick puts the
cleared host back into the table and activates it. -/
theorem delayed_switch_revives_host :
    RuntimeReachable .single (final delayed) ∧
      Clears (final delayed) ⟨2⟩ clearing ∧
      ((final delayed).handleInput .single 16 2 17 clearing).isOk ∧
      Granted ((final delayed).perform (call clearing)).2 ∧
      ((final delayed).perform (call clearing)).1 =
        final (delayed ++ [clearing]) ∧
      (final (delayed ++ [clearing])).bridge.hosts.host ⟨2⟩ = none ∧
      ((final (delayed ++ [clearing, late])).bridge.hosts.host ⟨2⟩).isSome ∧
      (final (delayed ++ [clearing, late])).bridge.hosts.activeTarget =
        some ⟨2⟩ ∧
      .bleCommand (.activateInput ⟨2⟩) ∈
        ((final (delayed ++ [clearing])).perform (call late)).2 := by
  refine ⟨reachable _, .event, ?_, ?_, ?_, ?_, ?_, ?_, ?_⟩
  · decide +kernel
  · unfold Granted
    decide +kernel
  · decide +kernel
  · decide +kernel
  · decide +kernel
  · decide +kernel
  · decide +kernel

end HidShift
