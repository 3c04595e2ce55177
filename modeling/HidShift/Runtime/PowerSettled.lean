import HidShift.Runtime.Shortcut

namespace HidShift

open Lib InPlace

variable {capacity actions : Nat}

theorem UsbHostPowerPolicy.update_again (policy : UsbHostPowerPolicy)
    (nowMs : UInt64) (usbDevicePresent computerConnected : Bool) :
    (policy.update nowMs usbDevicePresent computerConnected).1.update nowMs
        usbDevicePresent computerConnected =
      ((policy.update nowMs usbDevicePresent computerConnected).1, none) := by
  obtain ⟨state, deadline⟩ := policy
  unfold update
  by_cases running : (!usbDevicePresent || computerConnected) = true
  · cases state <;> simp [running]
  · cases state with
    | suspended => simp [running]
    | running =>
        generalize waiting : deadline.getD
          (saturatingAddMs nowMs usbHostSuspendDelayMs) = due
        by_cases early : nowMs < due <;> simp [running, early]

namespace BridgeRuntime

def powerUpdate (runtime : BridgeRuntime) :
    UsbHostPowerPolicy × Option UsbHostBusState :=
  runtime.usbHostPower.update runtime.nowMs runtime.usbDevicePresent
    (runtime.bridge.hasConnectedComputer .single)

def Settled (runtime : BridgeRuntime) : Prop :=
  runtime.powerUpdate = (runtime.usbHostPower, none)

structure SamePower (runtime next : BridgeRuntime) : Prop where
  policy : next.usbHostPower = runtime.usbHostPower
  clock : next.nowMs = runtime.nowMs
  devices : next.usbInterfaces = runtime.usbInterfaces
  connected : next.bridge.hasConnectedComputer .single =
    runtime.bridge.hasConnectedComputer .single

theorem SamePower.powerUpdate (same : SamePower runtime next) :
    next.powerUpdate = runtime.powerUpdate := by
  unfold BridgeRuntime.powerUpdate usbDevicePresent
  rw [same.policy, same.clock, same.devices, same.connected]

theorem Settled.of_same {runtime next : BridgeRuntime}
    (settled : runtime.Settled) (same : SamePower runtime next) :
    next.Settled := by
  unfold Settled
  rw [same.powerUpdate, same.policy]
  exact settled

theorem settled_new (hosts usbInterfaces : Nat) (storageGeneration : UInt32) :
    (BridgeRuntime.new hosts usbInterfaces storageGeneration).Settled := by
  have absent : (BridgeRuntime.new hosts usbInterfaces
      storageGeneration).usbDevicePresent = false := by
    simp [usbDevicePresent, BridgeRuntime.new]
  unfold Settled powerUpdate
  rw [absent]
  rfl

def decided (runtime : BridgeRuntime) : BridgeRuntime :=
  { runtime with usbHostPower := runtime.powerUpdate.1 }

def powerCommands (runtime : BridgeRuntime) : List RuntimeCommand :=
  runtime.powerUpdate.2.toList.map .setUsbHostBusState

theorem settled_decided (runtime : BridgeRuntime) : runtime.decided.Settled :=
  UsbHostPowerPolicy.update_again _ _ _ _

theorem transformInputFrame_samePower (runtime : BridgeRuntime)
    (frame : InputFrame) :
    SamePower runtime (runtime.transformInputFrame frame).1 := by
  unfold transformInputFrame
  split
  · exact ⟨rfl, rfl, rfl, rfl⟩
  · split <;> exact ⟨rfl, rfl, rfl, rfl⟩

end BridgeRuntime

theorem BleHostStateMachine.storeHost_links {machine : BleHostStateMachine}
    {host : HostRuntimeState}
    (upserted : machine.upsertHost hostId = .ok (index, host)) :
    (machine.storeHost index host).hosts.reduceOption.any (·.connected) =
      machine.hosts.reduceOption.any (·.connected) := by
  unfold upsertHost at upserted
  cases valid : hostId.validated with
  | error error => simp [valid] at upserted
  | ok slot =>
      simp only [valid] at upserted
      cases found : machine.hostIndex hostId with
      | some position =>
          obtain ⟨before, entry, after, split, rfl, -, -⟩ :=
            SlotTable.split_of_slotIndex? found
          simp [found, split] at upserted
          obtain ⟨rfl, rfl⟩ := upserted
          simp only [storeHost]
          rw [split, SlotTable.set_at_split]
      | none =>
          cases free : SlotTable.freeIndex? machine.hosts with
          | none => simp [found, free] at upserted
          | some position =>
              obtain ⟨before, after, split, rfl⟩ :=
                SlotTable.split_of_freeIndex? free
              simp only [found, free, Except.ok.injEq, Prod.mk.injEq]
                at upserted
              obtain ⟨rfl, rfl⟩ := upserted
              simp only [storeHost]
              rw [split, SlotTable.set_at_split,
                SlotTable.reduceOption_split, SlotTable.reduceOption_split]
              simp [HostRuntimeState.fresh]

def Links (connected : Bool) (bridge : BridgeState) : Prop :=
  bridge.hasConnectedComputer .single = connected

section

variable {connected : Bool}

abbrev WorkLinks (connected : Bool) (work : BridgeWork actions) : Prop :=
  Links connected work.bridge

theorem links_of_hosts (holds : Links connected bridge)
    (same : next.hosts = bridge.hosts) : Links connected next := by
  unfold Links BridgeState.hasConnectedComputer at *
  rw [same]
  exact holds

theorem links_setActiveTarget {bridge : BridgeState}
    (holds : Links connected bridge)
    (set : bridge.hosts.setActiveTarget target = .ok hosts) :
    Links connected { bridge with hosts := hosts } := by
  obtain ⟨⟨index, host⟩, upserted, rest⟩ := bind_eq_ok.mp set
  cases rest
  unfold Links BridgeState.hasConnectedComputer at *
  have links := BleHostStateMachine.storeHost_links upserted
  simp only [BleHostStateMachine.storeHost] at links ⊢
  rw [links]
  exact holds

theorem links_handleInputFrame (frame : InputFrame) :
    Keeps (WorkLinks connected) (@handleInputFrame actions .single frame) := by
  intro work holds
  cases finished : (handleInputFrame .single frame).run work with
  | ok _ after =>
      rw [outcome_of_ok finished]
      exact links_of_hosts holds (handleInputFrame_reported finished).1
  | error error after =>
      rw [outcome_of_error finished, handleInputFrame_error finished]
      exact holds

theorem links_switchTarget (target : HostId) :
    Keeps (WorkLinks connected) (@switchTarget actions .single target) := by
  refine keeps_bind (keeps_get_bind fun work holds => ?_) fun _ =>
    keeps_pushStatus
  apply keeps_ite (keeps_pure false) ?_ work holds
  refine keeps_bind (keeps_pushActions _) fun _ => keeps_bind ?_ fun _ =>
    keeps_bind ?_ fun _ => keeps_bind (keeps_pushAction _) fun _ =>
      keeps_bind (keeps_pushFrom _) fun _ =>
        keeps_bind (keeps_pushAction _) fun _ => keeps_pure true
  · apply keeps_get_bind
    intro work holds
    rw [captureSuppression_eq]
    exact links_of_hosts holds rfl
  · apply keeps_hostTable
    intro bridge hosts value holds stored
    obtain ⟨machine, set, same⟩ := map_eq_ok.mp stored
    cases same
    exact links_setActiveTarget holds set

end

namespace BridgeRuntime

theorem SamePower.trans (first : SamePower runtime middle)
    (second : SamePower middle next) : SamePower runtime next :=
  ⟨second.policy.trans first.policy, second.clock.trans first.clock,
    second.devices.trans first.devices,
    second.connected.trans first.connected⟩

theorem observeBridgeEvent_samePower (runtime : BridgeRuntime)
    (event : BridgeEvent .single) :
    SamePower runtime (runtime.observeBridgeEvent event) := by
  have history : SamePower runtime (runtime.observeHistory event) := by
    cases event <;> exact ⟨rfl, rfl, rfl, rfl⟩
  refine history.trans ?_
  unfold observeBridgeEvent observePairing
  split
  · split <;> exact ⟨rfl, rfl, rfl, rfl⟩
  · split <;> exact ⟨rfl, rfl, rfl, rfl⟩
  · split <;> exact ⟨rfl, rfl, rfl, rfl⟩
  · split <;> exact ⟨rfl, rfl, rfl, rfl⟩
  · exact ⟨rfl, rfl, rfl, rfl⟩

end BridgeRuntime

abbrev WorkSettled (work : RuntimeWork capacity) : Prop :=
  work.runtime.Settled

theorem settled_modify
    (same : ∀ runtime : BridgeRuntime, runtime.SamePower (update runtime)) :
    Keeps WorkSettled (@modifyRuntime capacity update) :=
  keeps_modify fun work settled => settled.of_same (same work.runtime)

theorem settled_push (command : RuntimeCommand) :
    Keeps WorkSettled (@pushCommand capacity command) := by
  apply keeps_get_bind
  intro work settled
  cases work.commands.push? command <;> exact settled

theorem settled_snapshot (priority : StoragePersistPriority) :
    Keeps WorkSettled (@pushStorageSnapshot capacity .single priority) :=
  keeps_snapshot (settled_modify fun _ => ⟨rfl, rfl, rfl, rfl⟩) fun _ =>
    settled_push _

theorem settled_dispatchOne (priority : Option StoragePersistPriority)
    (action : BridgeAction) :
    Keeps WorkSettled
      (@dispatchBridgeAction capacity .single priority action) :=
  PassesOn.keeps ⟨fun _ _ => settled_push _, settled_snapshot,
    fun _ _ _ _ _ => settled_modify fun _ => ⟨rfl, rfl, rfl, rfl⟩,
    fun _ => settled_modify fun runtime => ⟨rfl, rfl, rfl, links_of_hosts rfl
      (holdWiredPresentationTransition_hosts runtime.bridge)⟩⟩ priority

theorem settled_append (links : ∀ connected, Keeps (WorkLinks connected)
      (@handleEventInPlace actions .single event)) :
    Keeps WorkSettled
      (@handleBridgeEventAppend capacity .single actions event) := by
  refine keeps_bind (settled_modify fun runtime =>
    runtime.observeBridgeEvent_samePower event) fun _ =>
      keeps_bind ?_ fun _ => keeps_dispatch fun _ _ => settled_dispatchOne _ _
  apply keeps_get_bind
  intro work settled
  have left := links _ ⟨work.runtime.bridge, .empty⟩ rfl
  cases done : (handleEventInPlace .single event).run
      ⟨work.runtime.bridge, (.empty : BoundedVec BridgeAction actions)⟩ with
  | ok value after =>
      rw [outcome_of_ok done] at left
      exact settled.of_same ⟨rfl, rfl, rfl, left⟩
  | error error after =>
      rw [outcome_of_error done] at left
      exact settled.of_same ⟨rfl, rfl, rfl, left⟩

theorem settled_shortcut (nowMs : UInt64) :
    Keeps WorkSettled
      (@handleShortcutTargetSwitch capacity .single actions nowMs) := by
  refine keeps_readRuntime_bind fun runtime => ?_
  dsimp only
  split
  · contradiction
  · refine keeps_bind (keeps_modify fun _ settled => settled) fun _ =>
      keeps_readRuntime_bind fun _ => keeps_ite ?_ ?_
    · exact keeps_bind (settled_modify fun _ => ⟨rfl, rfl, rfl, rfl⟩)
        fun _ => settled_append fun _ => links_switchTarget _
    · exact settled_modify fun _ => ⟨rfl, rfl, rfl, rfl⟩
  · exact keeps_pure ()

theorem settled_power :
    Keeps WorkSettled (@reconcileUsbHostPower capacity .single) := by
  apply keeps_readRuntime
  intro work settled
  have decided : work.runtime.usbHostPower.update work.runtime.nowMs
      work.runtime.usbDevicePresent
      (work.runtime.bridge.hasConnectedComputer .single) =
        (work.runtime.usbHostPower, none) := settled
  rw [decided]
  exact settled

theorem settled_frameInput (frame : InputFrame) :
    Keeps WorkSettled (@handleBridgeEventInput capacity .single actions
      (.inputFrame frame)) := by
  intro work settled
  have stored : WorkSettled ((@modifyRuntime capacity fun _ =>
      (work.runtime.transformInputFrame frame).1).outcome work) :=
    settled.of_same (work.runtime.transformInputFrame_samePower frame)
  have handled : Keeps WorkSettled (@handleBridgeEvent capacity .single actions
      (.inputFrame (work.runtime.transformInputFrame frame).2.1)) :=
    keeps_bind (keeps_modify fun _ settled => settled) fun _ =>
      settled_append fun _ => links_handleInputFrame _
  have switched : Keeps WorkSettled
      (do InPlace.when (work.runtime.transformInputFrame frame).2.2 do
        handleShortcutTargetSwitch .single actions (← readRuntime).nowMs :
          RuntimeM capacity Unit) :=
    keeps_when (keeps_readRuntime_bind fun _ => settled_shortcut _)
  have ended := outcome_bind stored fun _ => keeps_readRuntime_bind fun _ =>
    keeps_bind handled fun _ => switched
  exact ended

theorem settled_frame (events : Nat) (frame : InputFrame) :
    Keeps WorkSettled (@handleInputInPlace capacity .single actions events
      (.bridgeEvent (.inputFrame frame))) :=
  keeps_bind (settled_frameInput frame) fun _ => settled_power

theorem RuntimeWork.same {left right : RuntimeWork capacity}
    (runtime : left.runtime = right.runtime)
    (emitted : left.emitted = right.emitted)
    (commands : left.commands.toList = right.commands.toList) :
    left = right := by
  obtain ⟨_, first, _⟩ := left
  obtain ⟨_, second, _⟩ := right
  obtain rfl : first = second := BoundedVec.ext commands
  cases runtime
  cases emitted
  rfl

theorem succeeds_power {before after : RuntimeWork capacity} :
    Succeeds (reconcileUsbHostPower .single) before done after ↔
      after.runtime = before.runtime.decided ∧
        after.emitted = before.emitted ∧
          after.commands.toList =
            before.commands.toList ++ before.runtime.powerCommands := by
  unfold BridgeRuntime.decided BridgeRuntime.powerCommands
  simp only [reconcileUsbHostPower, modifyRuntime, succeeds_bind,
    succeeds_readRuntime, succeeds_modify]
  cases decided : before.runtime.powerUpdate with
  | mk policy changed =>
      unfold BridgeRuntime.powerUpdate at decided
      constructor
      · rintro ⟨_, _, ⟨rfl, rfl⟩, finished⟩
        rw [decided] at finished
        cases changed with
        | none =>
            simp only [succeeds_pure] at finished
            obtain ⟨_, _, rfl, -, rfl⟩ := finished
            exact ⟨rfl, rfl, (List.append_nil _).symm⟩
        | some state =>
            simp only [succeeds_pushCommand] at finished
            obtain ⟨_, _, rfl, runtime, emitted, commands⟩ := finished
            exact ⟨runtime, emitted, commands⟩
      · rintro ⟨runtime, emitted, commands⟩
        refine ⟨_, _, ⟨rfl, rfl⟩, ?_⟩
        rw [decided]
        cases changed with
        | none =>
            simp only [succeeds_pure]
            refine ⟨⟨⟩, _, rfl, trivial, ?_⟩
            exact RuntimeWork.same runtime.symm emitted.symm
              (commands.trans (List.append_nil _)).symm
        | some state =>
            simp only [succeeds_pushCommand]
            exact ⟨⟨⟩, _, rfl, runtime, emitted, commands⟩

theorem settled_handled (events : Nat) (input : RuntimeInput .single) :
    Leads (fun _ => True)
      (@handleInputInPlace capacity .single actions events input)
      WorkSettled := by
  refine leads_bind (leads_of_keeps fun _ _ => trivial) fun _ => ?_
  intro before done after _ finished
  obtain ⟨runtime, -, -⟩ := succeeds_power.mp finished
  rw [WorkSettled, runtime]
  exact before.runtime.settled_decided

theorem settled_realtime {capacities : RuntimeCapacities} (frame : InputFrame) :
    Keeps (fun work : RealtimeWork capacities => work.runtime.Settled)
      (handleRealtimeInputFrameInPlace .single frame) := by
  refine keeps_bind ?_ fun frame => keeps_bind keeps_get fun _ =>
    keeps_bind (keeps_lift _ _) fun _ => keeps_bind ?_ fun _ =>
      keeps_routeAll BridgeRuntime.Settled _
  · apply keeps_get_bind
    intro work settled
    exact settled.of_same (work.runtime.transformInputFrame_samePower _)
  · apply keeps_realtimeBridge
    intro runtime settled
    exact settled.of_same
      ⟨rfl, rfl, rfl, links_handleInputFrame frame ⟨runtime.bridge, _⟩ rfl⟩

end HidShift
