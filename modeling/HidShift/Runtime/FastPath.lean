import HidShift.Bridge.FrameRoom
import HidShift.Runtime.PowerSettled

namespace HidShift

open Lib InPlace

inductive BleReports : List BridgeAction → List BleTaskCommand → Prop
  | nil : BleReports [] []
  | cons (hostId : HostId) (report : StandardHidReport) (reason : NotifyReason)
      {list : List BridgeAction} {commands : List BleTaskCommand}
      (rest : BleReports list commands) :
      BleReports (.notify (.ble hostId) report reason :: list)
        (.notify hostId report reason :: commands)

namespace BleReports

variable {list : List BridgeAction} {commands : List BleTaskCommand}

theorem length_eq (reports : BleReports list commands) :
    commands.length = list.length := by
  induction reports with
  | nil => rfl
  | cons _ _ _ _ ih => exact congrArg Nat.succ ih

theorem append {more : List BridgeAction}
    {moreCommands : List BleTaskCommand} (reports : BleReports list commands)
    (rest : BleReports more moreCommands) :
    BleReports (list ++ more) (commands ++ moreCommands) := by
  induction reports with
  | nil => exact rest
  | cons hostId report reason _ ih => exact .cons hostId report reason ih

end BleReports

section

variable {bridge : BridgeState} {aggregate : PhysicalInputState}

theorem readyActiveTarget_ble
    (ready : bridge.readyActiveTarget .single kind = some target) :
    ∃ hostId, target = .ble hostId := by
  unfold BridgeState.readyActiveTarget at ready
  dsimp only at ready
  split at ready
  · cases ready
  · rename_i hostId _
    split at ready
    · exact ⟨hostId, (Option.some.inj ready).symm⟩
    · cases ready

theorem FrameApplied.bleReports
    (applied : FrameApplied .single bridge aggregate frame input suppression
      out) : ∃ commands, BleReports out commands := by
  apply applied.ofParts
  · rintro first second ⟨_, early⟩ ⟨_, late⟩
    exact ⟨_, early.append late⟩
  · intro kind carried part reported
    cases reported with
    | none => exact ⟨[], .nil⟩
    | one ready =>
        obtain ⟨hostId, rfl⟩ := readyActiveTarget_ble ready
        exact ⟨_, .cons hostId _ _ .nil⟩

theorem handleInputFrame_bleReports
    (finished : Succeeds (handleInputFrame .single frame) ⟨bridge, .empty⟩
      done after) :
    after.bridge.hosts = bridge.hosts ∧
      ∃ commands, BleReports after.out.toList commands := by
  cases frame with
  | vendor =>
      simp only [handleInputFrame, modifyBridge, succeeds_modify] at finished
      subst finished
      exact ⟨rfl, [], .nil⟩
  | standard frame =>
      simp only [handleInputFrame, handleStandardInputFrame, succeeds_bind,
        succeeds_get, succeeds_lift, succeeds_set] at finished
      obtain ⟨_, _, ⟨rfl, rfl⟩, prepared, _, ⟨-, rfl⟩, next, _,
        ⟨framed, rfl⟩, rfl⟩ := finished
      obtain ⟨list, applied, out⟩ := frameInput_spec framed
      refine ⟨rfl, ?_⟩
      rw [out]
      exact applied.bleReports

end

section

variable {list : List BridgeAction} {commands : List BleTaskCommand}

theorem routeRealtimeAll_run (reports : BleReports list commands)
    (work : RealtimeWork capacities)
    (room : work.ble.toList.length + commands.length ≤
      capacities.bleCommandQueue) :
    ∃ ble, ble.toList = work.ble.toList ++ commands ∧
      (routeRealtimeAll .single list).run work =
        .ok () { work with ble := ble } := by
  induction reports generalizing work with
  | nil => exact ⟨work.ble, (List.append_nil _).symm, rfl⟩
  | @cons hostId report reason list commands rest ih =>
      rw [List.length_cons] at room
      obtain ⟨next, pushed, now⟩ := BoundedVec.push?_room
        (BleTaskCommand.notify hostId report reason)
        (show work.ble.toList.length < capacities.bleCommandQueue by omega)
      have sent : Succeeds (pushRealtimeBle (.notify hostId report reason))
          work () { work with ble := next } := by
        simp only [pushRealtimeBle, succeeds_bind, succeeds_get]
        refine ⟨work, work, ⟨rfl, rfl⟩, ?_⟩
        simp only [pushed, succeeds_set]
      obtain ⟨ble, all, finished⟩ := ih { work with ble := next } (by
        rw [now, List.length_append, List.length_singleton]
        omega)
      refine ⟨ble, ?_, (run_bind_ok sent _).trans finished⟩
      rw [all, now, List.append_assoc]
      rfl

theorem pushCommand_run (command : RuntimeCommand)
    (room : work.commands.toList.length < capacity) :
    ∃ next, next.toList = work.commands.toList ++ [command] ∧
      (@pushCommand capacity command).run work =
        .ok () { work with commands := next } := by
  obtain ⟨next, -, now⟩ := BoundedVec.push?_room command room
  have pushed : Succeeds (pushCommand command) work ()
      { work with commands := next } :=
    succeeds_pushCommand.mpr ⟨rfl, rfl, now⟩
  exact ⟨next, now, pushed⟩

theorem dispatchBridgeActions_run (reports : BleReports list commands)
    (work : RuntimeWork capacity)
    (room : work.commands.toList.length + commands.length ≤ capacity) :
    ∃ next, next.toList = work.commands.toList ++ commands.map .bleCommand ∧
      (dispatchBridgeActions .single priority list).run work =
        .ok () { work with commands := next } := by
  induction reports generalizing work with
  | nil => exact ⟨work.commands, (List.append_nil _).symm, rfl⟩
  | @cons hostId report reason list commands rest ih =>
      rw [List.length_cons] at room
      obtain ⟨next, now, pushed⟩ := pushCommand_run
        (.bleCommand (.notify hostId report reason))
        (show work.commands.toList.length < capacity by omega)
      obtain ⟨final, all, finished⟩ := ih { work with commands := next } (by
        rw [now, List.length_append, List.length_singleton]
        omega)
      refine ⟨final, ?_, (run_bind_ok pushed _).trans finished⟩
      rw [all, now, List.append_assoc]
      rfl

namespace RuntimeCommandQueues

variable {capacities : RuntimeCapacities}

theorem dispatchAll_run (queues : RuntimeCommandQueues capacities)
    (room : queues.ble.toList.length + commands.length ≤
      capacities.bleCommandQueue) (rest : List RuntimeCommand) :
    ∃ ble, ble.toList = queues.ble.toList ++ commands ∧
      (dispatchAll .single (commands.map .bleCommand ++ rest)).run queues =
        (dispatchAll .single rest).run { queues with ble := ble } := by
  induction commands generalizing queues with
  | nil => exact ⟨queues.ble, (List.append_nil _).symm, rfl⟩
  | cons head tail ih =>
      rw [List.length_cons] at room
      obtain ⟨next, pushed, now⟩ := BoundedVec.push?_room head
        (show queues.ble.toList.length < capacities.bleCommandQueue by omega)
      have sent : Succeeds (pushBle head) queues ()
          { queues with ble := next } := by
        simp only [pushBle, succeeds_bind, succeeds_get]
        refine ⟨queues, queues, ⟨rfl, rfl⟩, ?_⟩
        simp only [pushed, succeeds_set]
      obtain ⟨ble, all, finished⟩ := ih { queues with ble := next } (by
        rw [now, List.length_append, List.length_singleton]
        omega)
      refine ⟨ble, ?_, (run_bind_ok sent _).trans finished⟩
      rw [all, now, List.append_assoc]
      rfl

end RuntimeCommandQueues

end

section

variable {runtime : BridgeRuntime} {frame : InputFrame}

theorem InputFrame.maximumReports_le (frame : InputFrame) :
    frame.maximumReports ≤ 3 := by
  unfold maximumReports
  split
  · rename_i frame
    have keyboard := frame.keyboard.isSome.toNat_le
    have mouse := frame.mouse.isSome.toNat_le
    have consumer := frame.consumer.isSome.toNat_le
    omega
  · exact Nat.zero_le 3

def FrameDone (room : Nat) (runtime : BridgeRuntime) (frame : InputFrame)
    (after : BridgeWork room) : Prop :=
  Succeeds (handleInputFrame .single (runtime.transformInputFrame frame).2.1)
    ⟨(runtime.transformInputFrame frame).1.bridge, .empty⟩ () after

def FrameFails (room : Nat) (runtime : BridgeRuntime) (frame : InputFrame)
    (error : BridgeError) (after : BridgeWork room) : Prop :=
  (handleInputFrame .single (runtime.transformInputFrame frame).2.1).run
    ⟨(runtime.transformInputFrame frame).1.bridge, .empty⟩ = .error error after

def BridgeRuntime.afterFrame (runtime : BridgeRuntime) (frame : InputFrame)
    (bridge : BridgeState) : BridgeRuntime :=
  { (runtime.transformInputFrame frame).1 with bridge := bridge }

section

variable {work : RealtimeWork defaultRuntimeCapacities}

theorem realtime_start (clear : work.ble = .empty) :
    (handleRealtimeInputFrameInPlace .single frame).run work = (do
      let actions ← realtimeBridge .single
        (work.runtime.transformInputFrame frame).2.1
      routeRealtimeAll .single actions : RealtimeM _ Unit).run
        { work with runtime := (work.runtime.transformInputFrame frame).1 } := by
  have transformed : (realtimeTransform frame).run work =
      .ok (work.runtime.transformInputFrame frame).2.1
        { work with runtime := (work.runtime.transformInputFrame frame).1 } :=
    rfl
  show (handleRealtimeInputFrameSingle frame).run work = _
  rw [handleRealtimeInputFrameSingle, run_bind_ok transformed]
  generalize (work.runtime.transformInputFrame frame).2.1 = output
  have reads : (get : RealtimeM defaultRuntimeCapacities _).run
      { work with runtime := (work.runtime.transformInputFrame frame).1 } =
        .ok _ { work with
          runtime := (work.runtime.transformInputFrame frame).1 } := rfl
  rw [run_bind_ok reads]
  have room : output.maximumReports ≤
      defaultRuntimeCapacities.bleCommandQueue - work.ble.toList.length := by
    rw [clear]
    exact Nat.le_trans output.maximumReports_le (by decide)
  dsimp only
  rw [require_pos room]
  rfl

theorem realtime_ok {after : BridgeWork realtimeActionCapacity}
    {commands : List BleTaskCommand} (clear : work.ble = .empty)
    (done : FrameDone realtimeActionCapacity work.runtime frame after)
    (reports : BleReports after.out.toList commands) :
    ∃ ble, ble.toList = commands ∧
      (handleRealtimeInputFrameInPlace .single frame).run work =
        .ok () { work with
          runtime := work.runtime.afterFrame frame after.bridge
          ble := ble } := by
  have called : (realtimeBridge .single
      (work.runtime.transformInputFrame frame).2.1).run
        { work with runtime := (work.runtime.transformInputFrame frame).1 } =
      .ok after.out.toList { work with
        runtime := work.runtime.afterFrame frame after.bridge } :=
    realtimeBridge_ok done
  have few : commands.length ≤ 3 := by
    rw [reports.length_eq]
    exact after.out.length_le
  obtain ⟨ble, sent, routed⟩ := routeRealtimeAll_run reports
    { work with runtime := work.runtime.afterFrame frame after.bridge } (by
      rw [clear]
      exact Nat.le_trans (Nat.add_le_add_left few _) (by decide))
  refine ⟨ble, ?_, ?_⟩
  · rw [sent, clear]
    rfl
  · rw [realtime_start clear, run_bind_ok called, routed]

theorem realtime_error {error : BridgeError}
    {after : BridgeWork realtimeActionCapacity} (clear : work.ble = .empty)
    (failed : FrameFails realtimeActionCapacity work.runtime frame error
      after) :
    ∃ left, (handleRealtimeInputFrameInPlace .single frame).run work =
      .error (.bridge error) left := by
  have called : (realtimeBridge .single
      (work.runtime.transformInputFrame frame).2.1).run
        { work with runtime := (work.runtime.transformInputFrame frame).1 } =
      .error (.bridge error) { work with
        runtime := work.runtime.afterFrame frame after.bridge } :=
    realtimeBridge_error failed
  rw [realtime_start clear]
  exact ⟨_, run_bind_error called _⟩

end

section

variable {capacity actions events : Nat}

theorem input_start (quiet : (runtime.transformInputFrame frame).2.2 = false)
    (started : work.runtime = runtime) :
    (@handleBridgeEventInput capacity .single actions
        (.inputFrame frame)).run work = (do
        let emitted ← callBridge .single actions
          (.inputFrame (runtime.transformInputFrame frame).2.1)
        dispatchBridgeActions .single none emitted :
          RuntimeM capacity Unit).run { work with
            runtime := (runtime.transformInputFrame frame).1
            commands := .empty } := by
  subst started
  have transformed : (transformEvent .single (.inputFrame frame) :
      RuntimeM capacity _).run work =
        .ok (.inputFrame (work.runtime.transformInputFrame frame).2.1,
          (work.runtime.transformInputFrame frame).2.2)
          { work with
            runtime := (work.runtime.transformInputFrame frame).1 } := rfl
  rw [handleBridgeEventInput, run_bind_ok transformed]
  dsimp only
  rw [quiet]
  have whole := @bind_pure_unit (RuntimeM capacity) _ _
    (handleBridgeEvent .single actions
      (.inputFrame (work.runtime.transformInputFrame frame).2.1))
  exact congrFun whole { work with
    runtime := (work.runtime.transformInputFrame frame).1 }

theorem powerCommands_length (runtime : BridgeRuntime) :
    runtime.powerCommands.length ≤ 1 := by
  unfold BridgeRuntime.powerCommands
  cases runtime.powerUpdate.2 <;> simp

theorem plain_ok {after : BridgeWork actions} {commands : List BleTaskCommand}
    (quiet : (runtime.transformInputFrame frame).2.2 = false)
    (done : FrameDone actions runtime frame after)
    (reports : BleReports after.out.toList commands)
    (room : commands.length + 1 ≤ capacity) :
    ∃ work : RuntimeWork capacity,
      (handleInputInPlace .single actions events
        (.bridgeEvent (.inputFrame frame))).run ⟨runtime, .empty, []⟩ =
          .ok () work ∧
        work.runtime = (runtime.afterFrame frame after.bridge).decided ∧
          work.commands.toList = commands.map .bleCommand ++
            (runtime.afterFrame frame after.bridge).powerCommands := by
  have called : (callBridge .single actions
      (.inputFrame (runtime.transformInputFrame frame).2.1)).run
        (⟨(runtime.transformInputFrame frame).1, .empty, []⟩ :
          RuntimeWork capacity) =
      .ok after.out.toList ⟨runtime.afterFrame frame after.bridge, .empty,
        after.out.toList⟩ := callBridge_ok done
  obtain ⟨sent, all, dispatched⟩ := dispatchBridgeActions_run reports
    (⟨runtime.afterFrame frame after.bridge, .empty, after.out.toList⟩ :
      RuntimeWork capacity) (by
      rw [BoundedVec.toList_empty, List.length_nil]
      omega)
  have handled : (handleBridgeEventInput .single actions
      (.inputFrame frame)).run (⟨runtime, .empty, []⟩ :
        RuntimeWork capacity) = .ok () ⟨runtime.afterFrame frame after.bridge,
          sent, after.out.toList⟩ := by
    rw [input_start quiet rfl]
    exact (run_bind_ok called _).trans dispatched
  rw [BoundedVec.toList_empty, List.nil_append] at all
  have few := powerCommands_length (runtime.afterFrame frame after.bridge)
  have decided : Succeeds (reconcileUsbHostPower .single)
      (⟨runtime.afterFrame frame after.bridge, sent, after.out.toList⟩ :
        RuntimeWork capacity) ()
      ⟨(runtime.afterFrame frame after.bridge).decided,
        ⟨sent.toList ++ (runtime.afterFrame frame after.bridge).powerCommands,
          by
            rw [all, List.length_append, List.length_map]
            omega⟩, after.out.toList⟩ :=
    succeeds_power.mpr ⟨rfl, rfl, rfl⟩
  refine ⟨_, (run_bind_ok handled _).trans decided, rfl, ?_⟩
  exact congrArg (· ++ _) all

theorem plain_error {error : BridgeError} {after : BridgeWork actions}
    (quiet : (runtime.transformInputFrame frame).2.2 = false)
    (failed : FrameFails actions runtime frame error after) :
    ∃ work : RuntimeWork capacity,
      (handleInputInPlace .single actions events
        (.bridgeEvent (.inputFrame frame))).run ⟨runtime, .empty, []⟩ =
          .error (.bridge error) work := by
  have called : (callBridge .single actions
      (.inputFrame (runtime.transformInputFrame frame).2.1)).run
        (⟨(runtime.transformInputFrame frame).1, .empty, []⟩ :
          RuntimeWork capacity) =
      .error (.bridge error) ⟨runtime.afterFrame frame after.bridge, .empty,
        []⟩ := callBridge_error failed
  have handled : (handleBridgeEventInput .single actions
      (.inputFrame frame)).run (⟨runtime, .empty, []⟩ :
        RuntimeWork capacity) = .error (.bridge error)
          ⟨runtime.afterFrame frame after.bridge, .empty, []⟩ := by
    rw [input_start quiet rfl]
    exact run_bind_error called _
  exact ⟨_, run_bind_error handled _⟩

end

end

namespace RuntimeCommandQueues

theorem validateCapacity_ok (few : commands.length ≤ runtimeCommandCapacity) :
    validateCapacity .single defaultRuntimeCapacities commands = .ok () := by
  have each : ∀ lane, laneCount .single commands lane ≤
      runtimeCommandCapacity :=
    fun lane => Nat.le_trans List.countP_le_length few
  refine bind_eq_ok.mpr ⟨(), require_pos (each .ble) _, ?_⟩
  refine bind_eq_ok.mpr ⟨(), require_pos (each .device) _, ?_⟩
  refine bind_eq_ok.mpr ⟨(), require_pos (each .usb) _, ?_⟩
  refine bind_eq_ok.mpr ⟨(), require_pos (each .storage) _, ?_⟩
  refine bind_eq_ok.mpr ⟨(), require_pos (each .status) _, ?_⟩
  exact require_pos (each .effects) _

theorem dispatchFrom_start (commands : List RuntimeCommand)
    (before other : RuntimeCommandQueues capacities) :
    (dispatchFrom .single commands).finish before =
      (dispatchFrom .single commands).finish other := by
  unfold dispatchFrom finish
  cases validateCapacity .single capacities commands with
  | error error => rfl
  | ok done => rfl

theorem dispatchFrom_run (few : commands.length ≤ 3) (runtime : BridgeRuntime)
    (queues : RuntimeCommandQueues defaultRuntimeCapacities) :
    ∃ ble usbHost, ble.toList = commands ∧
      (runtime.powerUpdate.2 = none → usbHost = .empty) ∧
      (dispatchFrom .single
        (commands.map .bleCommand ++ runtime.powerCommands)).run queues =
          .ok () { (new : RuntimeCommandQueues _) with
            ble := ble, usbHost := usbHost } := by
  obtain ⟨ble, all, sent⟩ := dispatchAll_run
    (new : RuntimeCommandQueues defaultRuntimeCapacities)
    (Nat.le_trans (Nat.add_le_add_left few _) (by decide))
    runtime.powerCommands
  have short : (commands.map RuntimeCommand.bleCommand ++
      runtime.powerCommands).length ≤ runtimeCommandCapacity := by
    have one := powerCommands_length runtime
    rw [List.length_append, List.length_map]
    exact Nat.le_trans (Nat.add_le_add few one) (by decide)
  have started : (dispatchFrom .single
      (commands.map .bleCommand ++ runtime.powerCommands)).run queues =
        (dispatchAll .single (commands.map .bleCommand ++
          runtime.powerCommands)).run new := by
    unfold dispatchFrom
    rw [validateCapacity_ok short]
    rfl
  rw [started, sent]
  unfold BridgeRuntime.powerCommands
  cases runtime.powerUpdate.2 with
  | none => exact ⟨ble, .empty, all, fun _ => rfl, rfl⟩
  | some state =>
      exact ⟨ble, ⟨[.setBusState state], Nat.le_add_left 1 16⟩, all, nofun, rfl⟩

end RuntimeCommandQueues

namespace RuntimeOwner

variable {owner : RuntimeOwner defaultRuntimeCapacities} {frame : InputFrame}

abbrev frameMessage (frame : InputFrame) : RuntimeInputMessage .single :=
  .bridgeEvent (.inputFrame frame)

/-- The owners differ at most in the power of the bus and its queue. -/
structure AgreeButPower (fast plain : RuntimeOwner defaultRuntimeCapacities) :
    Prop where
  runtime : { fast.runtime with usbHostPower := plain.runtime.usbHostPower } =
    plain.runtime
  queues : { fast.queues with usbHost := plain.queues.usbHost } = plain.queues

/-- The owners agree, after a decided power in every respect but the command
list, which is not handed out. -/
structure FrameAgrees (decided : Bool)
    (fast plain : RuntimeOwner defaultRuntimeCapacities) : Prop where
  butPower : AgreeButPower fast plain
  decided : decided = true →
    fast.runtime = plain.runtime ∧ fast.queues = plain.queues

theorem FrameAgrees.of_eq {decided : Bool}
    (runtime : fast.runtime = plain.runtime)
    (queues : fast.queues = plain.queues) : FrameAgrees decided fast plain := by
  refine ⟨⟨?_, ?_⟩, fun _ => ⟨runtime, queues⟩⟩
  · rw [runtime]
  · rw [queues]

theorem processMessage_eq (message : RuntimeInputMessage .single) :
    processMessage .single owner message =
      (handleAndDispatch .single message).finish
        (fromRuntime owner.runtime) := by
  unfold processMessage finish
  cases (handleAndDispatch .single message).run
    (fromRuntime owner.runtime) <;> rfl

section

variable {message : RuntimeInputMessage .single}
  {after : RuntimeWork defaultRuntimeCapacities.commands}

theorem handleAndDispatch_ok
    (done : (handleInputInPlace .single defaultRuntimeCapacities.bridgeActions
      defaultRuntimeCapacities.bleEvents message).run
        ⟨owner.runtime, owner.commands, []⟩ = .ok () after) :
    (handleAndDispatch .single message).finish owner =
      (((RuntimeCommandQueues.dispatchFrom .single
        after.commands.toList).finish owner.queues).mapError .dispatch).map
          fun queues => ⟨after.runtime, after.commands, queues⟩ := by
  unfold handleAndDispatch runRuntime runQueues finish
  simp only [EStateM.run_bind, EStateM.run_get, done, EStateM.run_set]
  cases (RuntimeCommandQueues.dispatchFrom .single
    after.commands.toList).run owner.queues <;> rfl

theorem handleAndDispatch_error {error : RuntimeError}
    (failed : (handleInputInPlace .single
      defaultRuntimeCapacities.bridgeActions
      defaultRuntimeCapacities.bleEvents message).run
        ⟨owner.runtime, owner.commands, []⟩ = .error error after) :
    (handleAndDispatch .single message).finish owner =
      .error (.runtime error) := by
  unfold handleAndDispatch runRuntime finish
  simp only [EStateM.run_bind, EStateM.run_get, failed, EStateM.run_set]
  rfl

theorem handleAndDispatch_start (message : RuntimeInputMessage .single)
    (runtime : BridgeRuntime)
    (queues other : RuntimeCommandQueues defaultRuntimeCapacities) :
    (handleAndDispatch .single message).finish ⟨runtime, .empty, queues⟩ =
      (handleAndDispatch .single message).finish ⟨runtime, .empty, other⟩ := by
  cases done : (handleInputInPlace .single
      defaultRuntimeCapacities.bridgeActions
      defaultRuntimeCapacities.bleEvents message).run
        (⟨runtime, .empty, []⟩ :
          RuntimeWork defaultRuntimeCapacities.commands) with
  | error error after =>
      rw [handleAndDispatch_error done, handleAndDispatch_error done]
  | ok _ after =>
      rw [handleAndDispatch_ok done, handleAndDispatch_ok done,
        RuntimeCommandQueues.dispatchFrom_start _ queues other]

end

theorem triggered_agrees
    (triggers : owner.runtime.inputFrameWouldTriggerShortcut frame = true) :
    (processMessageInPlace .single (frameMessage frame)).finish owner =
      processMessage .single owner (frameMessage frame) := by
  have route : (processMessageInPlace .single (frameMessage frame)).finish
      owner = (handleAndDispatch .single (frameMessage frame)).finish
        ⟨owner.runtime, .empty, owner.queues⟩ := by
    unfold processMessageInPlace processRealtimeFrameInPlace finish
    simp only [EStateM.run_bind, EStateM.run_get, EStateM.run_modify,
      triggers, if_true]
  rw [route, processMessage_eq]
  exact handleAndDispatch_start _ _ _ _

section

variable (quiet : owner.runtime.inputFrameWouldTriggerShortcut frame = false)

include quiet

theorem realtime_route_ok {after : RealtimeWork defaultRuntimeCapacities}
    (done : (handleRealtimeInputFrameInPlace .single frame).run
      ⟨owner.runtime, .empty, .empty⟩ = .ok () after) :
    (processMessageInPlace .single (frameMessage frame)).finish owner =
      .ok ⟨after.runtime, .empty, { (.new : RuntimeCommandQueues _) with
        ble := after.ble, device := after.device }⟩ := by
  unfold processMessageInPlace processRealtimeFrameInPlace runQueues
    RuntimeCommandQueues.clear RuntimeCommandQueues.new runRealtime finish
  simp only [EStateM.run_bind, EStateM.run_get, EStateM.run_modify,
    EStateM.run_set, quiet, Bool.false_eq_true, if_false, done]

theorem realtime_route_error {after : RealtimeWork defaultRuntimeCapacities}
    (failed : (handleRealtimeInputFrameInPlace .single frame).run
      ⟨owner.runtime, .empty, .empty⟩ = .error error after) :
    (processMessageInPlace .single (frameMessage frame)).finish owner =
      .error (.runtime error) := by
  unfold processMessageInPlace processRealtimeFrameInPlace runQueues
    RuntimeCommandQueues.clear RuntimeCommandQueues.new runRealtime finish
  simp only [EStateM.run_bind, EStateM.run_get, EStateM.run_modify,
    EStateM.run_set, quiet, Bool.false_eq_true, if_false, failed]
  rfl

theorem realtime_fails_together
    {error : BridgeError} {few : BridgeWork realtimeActionCapacity}
    {many : BridgeWork defaultRuntimeCapacities.bridgeActions}
    {related : RuntimeOwner defaultRuntimeCapacities →
      RuntimeOwner defaultRuntimeCapacities → Prop}
    (fast : FrameFails _ owner.runtime frame error few)
    (plain : FrameFails _ owner.runtime frame error many) :
    Agree related
      ((processMessageInPlace .single (frameMessage frame)).finish owner)
      (processMessage .single owner (frameMessage frame)) := by
  have untriggered : (owner.runtime.transformInputFrame frame).2.2 =
      false := (owner.runtime.transformInputFrame_triggered frame).trans quiet
  obtain ⟨left, realtime⟩ := @realtime_error frame
    ⟨owner.runtime, .empty, .empty⟩ error few rfl fast
  obtain ⟨work, handled⟩ := @plain_error owner.runtime frame
    defaultRuntimeCapacities.commands _ defaultRuntimeCapacities.bleEvents
    error many untriggered plain
  rw [realtime_route_error quiet realtime, processMessage_eq,
    @handleAndDispatch_error (fromRuntime owner.runtime) _ _ _ handled]
  exact .error _

theorem realtime_finishes_together (decided : Bool)
    (settled : decided = true → owner.runtime.Settled)
    {few : BridgeWork realtimeActionCapacity}
    {many : BridgeWork defaultRuntimeCapacities.bridgeActions}
    (fast : FrameDone _ owner.runtime frame few)
    (plain : FrameDone _ owner.runtime frame many)
    (same : SameWork few many) :
    Agree (FrameAgrees decided)
      ((processMessageInPlace .single (frameMessage frame)).finish owner)
      (processMessage .single owner (frameMessage frame)) := by
  have untriggered : (owner.runtime.transformInputFrame frame).2.2 =
      false := (owner.runtime.transformInputFrame_triggered frame).trans quiet
  obtain ⟨hosts, commands, reports⟩ := handleInputFrame_bleReports fast
  have few3 : commands.length ≤ 3 := by
    rw [reports.length_eq]
    exact same.bounded
  obtain ⟨ble, sent, realtime⟩ := @realtime_ok frame
    ⟨owner.runtime, .empty, .empty⟩ few commands rfl fast reports
  rw [same.out] at reports
  obtain ⟨work, handled, runtime, all⟩ := @plain_ok owner.runtime frame
    defaultRuntimeCapacities.commands _ defaultRuntimeCapacities.bleEvents
    many commands untriggered plain reports
    (Nat.le_trans (Nat.add_le_add_right few3 1) (by decide))
  obtain ⟨plainBle, usbHost, plainSent, idle, dispatched⟩ :=
    RuntimeCommandQueues.dispatchFrom_run few3
      (owner.runtime.afterFrame frame many.bridge) .new
  rw [← all] at dispatched
  have bridges : owner.runtime.afterFrame frame few.bridge =
      owner.runtime.afterFrame frame many.bridge := by rw [same.bridge]
  have queues : ble = plainBle := BoundedVec.ext (sent.trans plainSent.symm)
  rw [realtime_route_ok quiet realtime, processMessage_eq,
    @handleAndDispatch_ok (fromRuntime owner.runtime) _ _ handled]
  change Agree _ _ ((Except.mapError _
    (InPlace.finish _ RuntimeCommandQueues.new)).map _)
  rw [finish_of_ok dispatched]
  refine .ok ⟨⟨?_, ?_⟩, fun power => ?_⟩
  · simp only [runtime, bridges]
    rfl
  · simp only [queues]
    rfl
  · have nothing : (owner.runtime.afterFrame frame many.bridge).Settled := by
      rw [← bridges]
      apply (settled power).of_same
      refine (owner.runtime.transformInputFrame_samePower frame).trans ?_
      exact ⟨rfl, rfl, rfl, links_of_hosts rfl hosts⟩
    have undecided := congrArg Prod.fst nothing
    have unchanged : (owner.runtime.afterFrame frame many.bridge).decided =
        owner.runtime.afterFrame frame many.bridge := by
      unfold BridgeRuntime.decided
      rw [undecided]
    constructor
    · rw [runtime, unchanged, ← bridges]
    · simp only [queues, idle (congrArg Prod.snd nothing)]
      rfl

theorem realtime_agrees (decided : Bool)
    (settled : decided = true → owner.runtime.Settled) :
    Agree (FrameAgrees decided)
      ((processMessageInPlace .single (frameMessage frame)).finish owner)
      (processMessage .single owner (frameMessage frame)) := by
  have rooms := @handleInputFrame_agrees realtimeActionCapacity
    defaultRuntimeCapacities.bridgeActions .single
    (owner.runtime.transformInputFrame frame).1.bridge
    (owner.runtime.transformInputFrame frame).2.1 (by decide) (by decide)
  cases fast : (handleInputFrame .single
      (owner.runtime.transformInputFrame frame).2.1).run
        (⟨(owner.runtime.transformInputFrame frame).1.bridge, .empty⟩ :
          BridgeWork realtimeActionCapacity) with
  | error error few =>
      rw [finish_of_error fast] at rooms
      generalize wide : InPlace.finish _ _ = result at rooms
      cases rooms
      obtain ⟨many, plain⟩ := finish_eq_error.mp wide
      exact realtime_fails_together quiet fast plain
  | ok _ few =>
      rw [finish_of_ok fast] at rooms
      generalize wide : InPlace.finish _ _ = result at rooms
      obtain @⟨_, many, same⟩ := rooms
      obtain ⟨_, plain⟩ := finish_eq_ok.mp wide
      exact realtime_finishes_together quiet decided settled fast plain same

end

/-- The owners the firmware reaches.  The flag says that the power of the bus
was decided after everything it depends on: a link that is cut for a quiesce
and a message that fails on the owner itself leave it open. -/
inductive OwnerReached :
    Bool → RuntimeOwner defaultRuntimeCapacities → Prop
  | new (storageGeneration : UInt32) :
      OwnerReached true (.new defaultRuntimeCapacities storageGeneration)
  | processed {decided : Bool} {owner next} (reached : OwnerReached decided owner)
      (message : RuntimeInputMessage .single)
      (handled : processMessage .single owner message = .ok next) :
      OwnerReached true next
  | inPlace {decided : Bool} {owner next} (reached : OwnerReached decided owner)
      (message : RuntimeInputMessage .single) (other : ¬ message.BringsFrame)
      (handled : (processMessageInPlace .single message).run owner =
        .ok () next) : OwnerReached true next
  | failed {decided : Bool} {owner next error}
      (reached : OwnerReached decided owner)
      (message : RuntimeInputMessage .single)
      (stopped : (processMessageInPlace .single message).run owner =
        .error error next) : OwnerReached false next
  | frame {decided : Bool} {owner} (reached : OwnerReached decided owner)
      (frame : InputFrame) : OwnerReached decided
        ((processMessageInPlace .single (frameMessage frame)).outcome owner)
  | rolledBack {decided : Bool} {checkpoint}
      (reached : OwnerReached decided checkpoint) :
      OwnerReached decided (rollbackRuntime checkpoint.runtime)
  | linkLost {decided : Bool} {owner} (reached : OwnerReached decided owner)
      (hostId : HostId) :
      OwnerReached false (owner.markHostDisconnectedForQuiesce hostId)
  | quiesced {decided : Bool} {owner} (reached : OwnerReached decided owner) :
      OwnerReached decided owner.prepareForQuiesce
  | metrics {decided : Bool} {owner} (reached : OwnerReached decided owner)
      (metrics : RuntimeTransportMetrics) :
      OwnerReached decided (owner.observeTransportMetrics metrics)

section

abbrev Decided (owner : RuntimeOwner defaultRuntimeCapacities) : Prop :=
  owner.runtime.Settled

theorem keeps_runQueues
    (program : RuntimeCommandQueues.M defaultRuntimeCapacities Unit) :
    Keeps Decided (runQueues program) := by
  apply keeps_get_bind
  intro owner settled
  cases program.run owner.queues <;> exact settled

theorem keeps_runRuntime (kept : Keeps WorkSettled program) :
    Keeps Decided (runRuntime program) := by
  apply keeps_get_bind
  intro owner settled
  have left := kept ⟨owner.runtime, owner.commands, []⟩ settled
  cases done : program.run ⟨owner.runtime, owner.commands, []⟩ with
  | ok _ after =>
      rw [outcome_of_ok done] at left
      exact left
  | error error after =>
      rw [outcome_of_error done] at left
      exact left

theorem keeps_frame (frame : InputFrame) :
    Keeps Decided (processMessageInPlace .single (frameMessage frame)) := by
  refine keeps_bind (keeps_modify fun _ settled => settled) fun _ => ?_
  refine keeps_bind keeps_get fun _ => keeps_ite ?_ ?_
  · refine keeps_bind (keeps_runRuntime (settled_frame _ frame)) fun _ => ?_
    exact keeps_bind keeps_get fun _ => keeps_runQueues _
  · refine keeps_bind (keeps_runQueues _) fun _ => keeps_get_bind ?_
    intro owner settled
    have left := @settled_realtime defaultRuntimeCapacities frame
      ⟨owner.runtime, owner.queues.ble, owner.queues.device⟩ settled
    cases done : (handleRealtimeInputFrameInPlace .single frame).run
        (⟨owner.runtime, owner.queues.ble, owner.queues.device⟩ :
          RealtimeWork defaultRuntimeCapacities) with
    | ok _ after =>
        rw [outcome_of_ok done] at left
        exact left
    | error error after =>
        rw [outcome_of_error done] at left
        exact left

theorem leads_handleAndDispatch (message : RuntimeInputMessage .single) :
    Leads (fun _ => True) (handleAndDispatch .single message) Decided := by
  have decides : Leads (fun _ => True) (runRuntime (handleInputInPlace .single
      defaultRuntimeCapacities.bridgeActions
      defaultRuntimeCapacities.bleEvents message)) Decided := by
    intro before done after _ finished
    simp only [runRuntime, succeeds_bind, succeeds_get] at finished
    obtain ⟨_, _, ⟨rfl, rfl⟩, finished⟩ := finished
    cases handled : (handleInputInPlace .single
        defaultRuntimeCapacities.bridgeActions
        defaultRuntimeCapacities.bleEvents message).run
          ⟨before.runtime, before.commands, []⟩ with
    | error error left =>
        rw [handled] at finished
        simp at finished
    | ok _ left =>
        rw [handled] at finished
        obtain rfl := succeeds_set.mp finished
        exact settled_handled _ message _ _ left trivial handled
  refine leads_bind decides fun _ => ?_
  exact leads_of_keeps (keeps_bind keeps_get fun _ => keeps_runQueues _)

theorem leads_other (other : ¬ message.BringsFrame) :
    Leads (fun _ => True) (processMessageInPlace .single message) Decided := by
  have plainly : Leads (fun _ => True) (do
      modify fun owner => { owner with commands := .empty }
      handleAndDispatch .single message) Decided :=
    leads_bind (leads_of_keeps fun _ _ => trivial) fun _ =>
      leads_handleAndDispatch message
  cases message with
  | bridgeEvent event =>
      cases event with
      | inputFrame frame => exact absurd trivial other
      | _ => exact plainly
  | _ => exact plainly

theorem OwnerReached.settled (reached : OwnerReached decided owner) :
    decided = true → owner.runtime.Settled := by
  induction reached with
  | new storageGeneration =>
      exact fun _ => BridgeRuntime.settled_new _ _ storageGeneration
  | processed _ message handled =>
      intro _
      rw [processMessage_eq] at handled
      obtain ⟨_, finished⟩ := finish_eq_ok.mp handled
      exact leads_handleAndDispatch message _ _ _ trivial finished
  | inPlace _ message other handled =>
      exact fun _ => leads_other other _ _ _ trivial handled
  | failed => nofun
  | frame _ frame ih =>
      exact fun decided => keeps_frame frame _ (ih decided)
  | rolledBack _ ih => exact ih
  | linkLost => nofun
  | quiesced _ ih =>
      intro decided
      refine (ih decided).of_same ⟨rfl, rfl, rfl, links_of_hosts rfl ?_⟩
      rw [prepareForQuiesce, captureSuppression_eq]
      rfl
  | metrics _ _ ih =>
      exact fun decided => (ih decided).of_same ⟨rfl, rfl, rfl, rfl⟩

end

/-- The realtime path of a frame gives what the plain path gives, the power of
the bus apart, and that too once it was decided. -/
theorem fast_path_agrees {decided : Bool} (reached : OwnerReached decided owner)
    (frame : InputFrame) :
    owner.runtime.inputFrameWouldTriggerShortcut frame =
        (owner.runtime.transformInputFrame frame).2.2 ∧
      Agree (FrameAgrees decided)
        ((processMessageInPlace .single (.bridgeEvent
          (.inputFrame frame))).finish owner)
        (processMessage .single owner (.bridgeEvent (.inputFrame frame))) := by
  refine ⟨(owner.runtime.transformInputFrame_triggered frame).symm, ?_⟩
  cases triggers : owner.runtime.inputFrameWouldTriggerShortcut frame with
  | true =>
      rw [triggered_agrees triggers]
      exact Agree.refl (fun _ => .of_eq rfl rfl) _
  | false => exact realtime_agrees triggers decided reached.settled

def after (messages : List (RuntimeInputMessage .single)) :
    RuntimeOwner defaultRuntimeCapacities :=
  messages.foldl (fun (owner : RuntimeOwner defaultRuntimeCapacities)
    message => (processMessage .single owner message).toOption.getD owner)
      (.new _ 0)

theorem reached_after (messages : List (RuntimeInputMessage .single)) :
    OwnerReached true (after messages) := by
  have start : OwnerReached true (.new defaultRuntimeCapacities 0) := .new 0
  unfold after
  generalize RuntimeOwner.new defaultRuntimeCapacities 0 = owner at start
  induction messages generalizing owner with
  | nil => exact start
  | cons message rest ih =>
      rw [List.foldl_cons]
      apply ih
      cases handled : processMessage .single owner message with
      | ok next => exact .processed start message handled
      | error error => exact start

def connected : RuntimeOwner defaultRuntimeCapacities :=
  after [.usbHidInterfaceConnected ⟨1⟩ ⟨1⟩ none,
    .bridgeEvent (.hostConnected ⟨1⟩)]

open RuntimeScenario in
theorem fast_path_agrees_key :
    connected.runtime.inputFrameWouldTriggerShortcut (keyboardFrame 0 4) =
        false ∧
      Agree (FrameAgrees true)
        ((processMessageInPlace .single (.bridgeEvent
          (.inputFrame (keyboardFrame 0 4)))).finish connected)
        (processMessage .single connected
          (.bridgeEvent (.inputFrame (keyboardFrame 0 4)))) := by
  obtain ⟨-, agree⟩ := fast_path_agrees (reached_after
    [.usbHidInterfaceConnected ⟨1⟩ ⟨1⟩ none,
      .bridgeEvent (.hostConnected ⟨1⟩)]) (keyboardFrame 0 4)
  exact ⟨by decide +kernel, agree⟩

open RuntimeScenario in
/-- After a quiesce cut the last link, the plain path starts the delay of the
bus suspension at the next frame; the realtime path leaves it to the tick. -/
theorem quiesce_leaves_power_open :
    ∃ (owner fast plain : RuntimeOwner defaultRuntimeCapacities)
      (frame : InputFrame), OwnerReached false owner ∧
        (processMessageInPlace .single
          (.bridgeEvent (.inputFrame frame))).finish owner = .ok fast ∧
        processMessage .single owner (.bridgeEvent (.inputFrame frame)) =
          .ok plain ∧ fast.runtime ≠ plain.runtime := by
  have reached : OwnerReached false
      (connected.markHostDisconnectedForQuiesce ⟨1⟩) :=
    .linkLost (reached_after _) ⟨1⟩
  generalize cut : connected.markHostDisconnectedForQuiesce ⟨1⟩ = owner
    at reached
  have seen : (((processMessageInPlace .single (frameMessage
      (keyboardFrame 0 4))).finish owner).toOption.map
        (·.runtime.usbHostPower.suspendDeadlineMs),
      (processMessage .single owner (frameMessage
        (keyboardFrame 0 4))).toOption.map
        (·.runtime.usbHostPower.suspendDeadlineMs)) =
      (some none, some (some 3000)) := by
    rw [← cut]
    decide +kernel
  obtain ⟨fastSeen, plainSeen⟩ := Prod.mk.inj seen
  cases fast : (processMessageInPlace .single (frameMessage
      (keyboardFrame 0 4))).finish owner with
  | error error =>
      rw [fast] at fastSeen
      cases fastSeen
  | ok fastOwner =>
      cases plain : processMessage .single owner (frameMessage
          (keyboardFrame 0 4)) with
      | error error =>
          rw [plain] at plainSeen
          cases plainSeen
      | ok plainOwner =>
          rw [fast] at fastSeen
          rw [plain] at plainSeen
          refine ⟨owner, fastOwner, plainOwner, _, reached, fast, plain, ?_⟩
          intro same
          have noDeadline : fastOwner.runtime.usbHostPower.suspendDeadlineMs =
            none := Option.some.inj fastSeen
          have deadline : plainOwner.runtime.usbHostPower.suspendDeadlineMs =
            some 3000 := Option.some.inj plainSeen
          rw [same, deadline] at noDeadline
          cases noDeadline

end RuntimeOwner

end HidShift
