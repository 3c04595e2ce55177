import HidShift.Bridge.HostTable
import HidShift.Runtime.Owner

namespace HidShift

open Lib InPlace

variable {capacity : Nat}

/-- The runtime changed beside its bridge; a presented mirror stays or goes. -/
structure Quiet (runtime next : BridgeRuntime) : Prop where
  bridge : next.bridge = runtime.bridge
  mirror : next.activeMirrorTarget = runtime.activeMirrorTarget ∨
    next.activeMirrorTarget = none

def BridgeEvent.Plain {build : Build} : BridgeEvent build → Prop
  | .inputFrame _ | .wiredAvailabilityChanged _ => False
  | _ => True

/-- Inputs that bring neither input, nor the state of the wired computer, nor
a command that passes through. -/
def RuntimeInput.Plain {build : Build} : RuntimeInput build → Prop
  | .bridgeEvent event => event.Plain
  | .deviceCommandRequested _ | .usbEndpointIn .. | .deviceUsbState _ => False
  | _ => True

def RuntimeCommand.CarriesInput : RuntimeCommand → Prop
  | .deviceCommand (.standardReport _ _) => True
  | .deviceCommand (.rawEndpointIn _) => True
  | _ => False

structure WorkClosed (build : Build) (actions : Nat)
    (invariant : RuntimeWork capacity → Prop) : Prop where
  push : ∀ command : RuntimeCommand, ¬ command.CarriesInput →
    Keeps invariant (pushCommand command)
  clear : Keeps invariant clearCommands
  quiet : ∀ work next, Quiet work.runtime next → invariant work →
    invariant { work with runtime := next }
  event : ∀ event : BridgeEvent build, event.Plain →
    Keeps invariant (handleBridgeEventAppend build actions event)
  presentation : Keeps invariant beginWiredPresentationTransition
  linked : ∀ work bleHost, invariant work →
    (∀ host, bleHost = some host →
      validManagementHost work.runtime.bridge.hosts.hosts.length host = true) →
    invariant { work with runtime := { work.runtime with
      bridge := { work.runtime.bridge with wiredBleHost := bleHost } } }
  named : ∀ work hostId name hosts changed, invariant work →
    work.runtime.bridge.hosts.setDiscoveredName hostId name =
      .ok (hosts, changed) →
    invariant { work with runtime := { work.runtime with
      bridge := { work.runtime.bridge with hosts := hosts } } }
  restored : ∀ storage, Keeps invariant (restoreBridge build storage)

section

variable {invariant : RuntimeWork capacity → Prop} {α : Type}

variable {second : BridgeRuntime → RuntimeM capacity α}

theorem keeps_readRuntime_bind
    (kept : ∀ runtime, Keeps invariant (second runtime)) :
    Keeps invariant (readRuntime >>= second) :=
  keeps_bind (fun _ holds => holds) kept

theorem keeps_readRuntime
    (kept : ∀ work, invariant work → invariant ((second work.runtime).outcome
      work)) :
    Keeps invariant (readRuntime >>= second) :=
  kept

@[simp] theorem succeeds_readRuntime :
    Succeeds readRuntime before runtime after ↔
      before.runtime = runtime ∧ before = after := by
  show EStateM.Result.ok before.runtime before = .ok runtime after ↔ _
  rw [EStateM.Result.ok.injEq]

theorem succeeds_pushCommand :
    Succeeds (pushCommand command) before done after ↔
      after.runtime = before.runtime ∧ after.emitted = before.emitted ∧
        after.commands.toList = before.commands.toList ++ [command] := by
  simp only [pushCommand, succeeds_bind, succeeds_get]
  constructor
  · rintro ⟨_, _, ⟨rfl, rfl⟩, finished⟩
    cases pushed : before.commands.push? command with
    | none => simp [pushed] at finished
    | some commands =>
        simp only [pushed, succeeds_set] at finished
        subst finished
        exact ⟨rfl, rfl, BoundedVec.push?_eq_some.mp pushed⟩
  · rintro ⟨runtime, emitted, commands⟩
    refine ⟨before, before, ⟨rfl, rfl⟩, ?_⟩
    rw [BoundedVec.push?_eq_some.mpr commands]
    simp only [succeeds_set]
    cases after
    simp_all

theorem leads_readRuntime
    (read : ∀ work, pre work → Leads (· = work) (second work.runtime) post) :
    Leads pre (readRuntime >>= second) post :=
  fun before result after holds finished =>
    read before holds before result after rfl finished

theorem keeps_dispatch (each : ∀ action ∈ list, Keeps invariant
      (dispatchBridgeAction build priority action)) :
    Keeps invariant (dispatchBridgeActions build priority list) := by
  induction list with
  | nil => exact keeps_pure ()
  | cons head tail ih =>
      refine keeps_bind (each head List.mem_cons_self) fun _ => ih ?_
      exact fun action member => each action (List.mem_cons_of_mem _ member)

/-- Commands an action may be passed on as, stored snapshots aside. -/
def RuntimeCommand.Passes (action : BridgeAction) : RuntimeCommand → Prop
  | .bleCommand (.activateInput hostId) => action = .activateInput hostId
  | .managementResponse .. | .persistStorage .. => False
  | _ => True

/-- What an invariant has to bear so that passing an action on keeps it. -/
structure PassesOn (build : Build) (action : BridgeAction)
    (invariant : RuntimeWork capacity → Prop) : Prop where
  push : ∀ command : RuntimeCommand, command.Passes action →
    Keeps invariant (pushCommand command)
  snapshot : ∀ priority, Keeps invariant (pushStorageSnapshot build priority)
  beside : ∀ (pending : BridgeRuntime → Bool)
    (target mirror : BridgeRuntime → Option MirrorCandidateId)
    (sequence : BridgeRuntime → UInt64)
    (pairing : BridgeRuntime → Option PairingModeState),
    Keeps invariant (modifyRuntime fun runtime => { runtime with
      presentationTransitionPending := pending runtime
      transitionMirrorTarget := target runtime
      activeMirrorTarget := mirror runtime
      statusSequence := sequence runtime
      pairingMode := pairing runtime })
  held : ∀ target, Keeps invariant (modifyRuntime fun runtime =>
    { runtime with
      presentationTransitionPending := true
      transitionMirrorTarget := target
      bridge := runtime.bridge.holdWiredPresentationTransition })

theorem PassesOn.keeps (passes : PassesOn build action invariant)
    (priority : Option StoragePersistPriority) :
    Keeps invariant (dispatchBridgeAction build priority action) := by
  cases action with
  | notify target report reason =>
      cases target with
      | ble hostId => exact passes.push _ trivial
      | wired =>
          cases build with
          | single => exact keeps_throw _
          | dual =>
              exact keeps_readRuntime_bind fun _ =>
                keeps_ite (keeps_pure ()) (passes.push _ trivial)
  | usbSetKeyboardLeds interfaceId deviceId leds =>
      refine keeps_readRuntime_bind fun runtime => ?_
      dsimp only
      split
      · exact keeps_throw _
      · exact keeps_bind (keeps_lift _ _) fun _ => passes.push _ trivial
  | activateInput hostId => exact passes.push _ rfl
  | activateWired operationId =>
      exact keeps_readRuntime_bind fun runtime =>
        keeps_bind (passes.held _) fun _ => passes.push _ trivial
  | ensureFallback operationId =>
      exact keeps_bind (passes.beside (fun _ => true) (fun _ => none)
        (fun _ => none) (·.statusSequence) (·.pairingMode)) fun _ =>
          passes.push _ trivial
  | persistProfiles => exact passes.snapshot _
  | statusChanged status =>
      have still := passes.beside (·.presentationTransitionPending)
        (·.transitionMirrorTarget) (·.activeMirrorTarget)
      refine keeps_bind (keeps_when (still (·.statusSequence) fun _ => none))
        fun _ => keeps_bind ?_ fun _ => passes.push _ trivial
      exact keeps_bind (still (·.statusSequence + 1) (·.pairingMode))
        fun _ => keeps_readRuntime_bind fun _ => keeps_pure _
  | _ => exact passes.push _ trivial

theorem keeps_snapshot {priority : StoragePersistPriority}
    (counted : Keeps invariant (modifyRuntime fun runtime =>
      { runtime with storageGeneration := runtime.storageGeneration + 1 }))
    (push : ∀ state,
      Keeps invariant (pushCommand (.persistStorage state priority))) :
    Keeps invariant (pushStorageSnapshot build priority) := by
  refine keeps_readRuntime_bind fun _ => keeps_ite ?_ (keeps_throw _)
  exact keeps_bind counted fun _ => keeps_readRuntime_bind fun _ =>
    keeps_bind (keeps_lift _ _) fun _ => push _

section

variable {build : Build} {actions : Nat} {event : BridgeEvent build}
  {work : RuntimeWork capacity} {after : BridgeWork actions}

theorem callBridge_ok {value : Unit}
    (done : (handleEventInPlace build event).run
      ⟨work.runtime.bridge, .empty⟩ = .ok value after) :
    (callBridge build actions event).run work = .ok after.out.toList
      { work with
        runtime := { work.runtime with bridge := after.bridge }
        emitted := work.emitted ++ after.out.toList } := by
  simp only [callBridge, EStateM.run_bind, EStateM.run_get, done,
    EStateM.run_set, EStateM.run_pure]

theorem callBridge_error (failed : (handleEventInPlace build event).run
      ⟨work.runtime.bridge, .empty⟩ = .error error after) :
    (callBridge build actions event).run work = .error (.bridge error)
      { work with
        runtime := { work.runtime with bridge := after.bridge } } := by
  simp only [callBridge, EStateM.run_bind, EStateM.run_get, failed,
    EStateM.run_set]
  rfl

theorem callBridge_logs {after : RuntimeWork capacity}
    (called : Succeeds (callBridge build actions event) work list after) :
    (∃ left : BridgeWork actions, (handleEventInPlace build event).run
        ⟨work.runtime.bridge, .empty⟩ = .ok () left ∧
      list = left.out.toList ∧
      after.runtime = { work.runtime with bridge := left.bridge }) ∧
      after.emitted = work.emitted ++ list ∧
      after.commands = work.commands := by
  cases done : (handleEventInPlace build event).run
      ⟨work.runtime.bridge, (.empty : BoundedVec BridgeAction actions)⟩ with
  | error error left =>
      rw [Succeeds, callBridge_error done] at called
      cases called
  | ok result left =>
      rw [Succeeds, callBridge_ok done] at called
      cases called
      exact ⟨⟨left, rfl, rfl, rfl⟩, rfl, rfl⟩

theorem keeps_append (observed : ∀ work, invariant work → invariant { work with
      runtime := work.runtime.observeBridgeEvent event })
    (moved : ∀ work (after : BridgeWork actions) emitted, invariant work →
      BridgeMoves event ⟨work.runtime.bridge, .empty⟩ after →
      invariant { work with
        runtime := { work.runtime with bridge := after.bridge }
        emitted := emitted } ∧
      ∀ action ∈ after.out.toList, Keeps invariant (dispatchBridgeAction
        build (storagePersistPriorityForEvent event) action)) :
    Keeps invariant (handleBridgeEventAppend build actions event) := by
  refine keeps_bind (keeps_modify observed) fun _ => ?_
  intro work holds
  have moves := handleEventInPlace_moves event
    (⟨work.runtime.bridge, .empty⟩ : BridgeWork actions)
  cases done : (handleEventInPlace build event).run
      ⟨work.runtime.bridge, (.empty : BoundedVec BridgeAction actions)⟩ with
  | ok value after =>
      rw [outcome_of_ok done] at moves
      rw [outcome_bind_ok (callBridge_ok done)]
      obtain ⟨left, each⟩ := moved work after _ holds moves
      exact keeps_dispatch each _ left
  | error error after =>
      rw [outcome_of_error done] at moves
      rw [outcome_bind_error (callBridge_error done)]
      exact (moved work after work.emitted holds moves).1

end

end

/-- What the management commands are made of keeps the invariant, if it
finishes, and under the condition also if it fails. -/
structure CommandsKept (build : Build) (actions : Nat) (failed : Prop)
    (invariant : RuntimeWork capacity → Prop) : Prop where
  quiet : ∀ work next, Quiet work.runtime next → invariant work →
    invariant { work with runtime := next }
  event : ∀ event : BridgeEvent build, event.Plain →
    event ≠ .enterPairingMode ⟨0⟩ →
    KeepsIf failed invariant (handleBridgeEventAppend build actions event)
  snapshot : ∀ priority,
    KeepsIf failed invariant (pushStorageSnapshot build priority)
  logLevel : ∀ level, KeepsIf failed invariant
    (pushCommand (.applyEffect (.setLogLevel level)))
  presentation : build = .dual → ∀ target,
    KeepsIf failed invariant (beginPresentationTransition target)
  linked : build = .dual → ∀ bleHost, KeepsIf failed invariant
    (executeDualCommand actions (.setWiredHostLink bleHost))

section

variable {build : Build} {actions : Nat} {failed : Prop}
  {invariant : RuntimeWork capacity → Prop}

theorem keepsIf_read {α : Type} {second : BridgeRuntime → RuntimeM capacity α}
    (kept : ∀ runtime, KeepsIf failed invariant (second runtime)) :
    KeepsIf failed invariant (readRuntime >>= second) :=
  keepsIf_bind (keepsIf_of_keeps fun _ holds => holds) kept

theorem keepsIf_readRuntime {α : Type}
    {second : BridgeRuntime → RuntimeM capacity α}
    (kept : ∀ work, invariant work →
      KeepsAt failed invariant (second work.runtime) work) :
    KeepsIf failed invariant (readRuntime >>= second) :=
  kept

theorem keepsIf_knownHost (hostId : HostId)
    {program : RuntimeM capacity ManagementResult}
    (kept : KeepsIf failed invariant program) :
    KeepsIf failed invariant (withKnownHost hostId program) :=
  keepsIf_read fun _ =>
    keepsIf_ite (keepsIf_pure _) (keepsIf_ite (keepsIf_pure _) kept)

theorem setSetting_quiet {runtime next : BridgeRuntime} {id : SettingId}
    {target : SettingTarget} {value : Int32}
    (changed : runtime.setSetting id target value = some next) :
    Quiet runtime next := by
  unfold BridgeRuntime.setSetting at changed
  split at changed
  · cases changed
  · split at changed
    · obtain ⟨settings, -, rfl⟩ := Option.map_eq_some_iff.mp changed
      exact ⟨rfl, .inl rfl⟩
    · obtain ⟨settings, -, rfl⟩ := Option.map_eq_some_iff.mp changed
      exact ⟨rfl, .inl rfl⟩

namespace CommandsKept

variable (kept : CommandsKept build actions failed invariant)

include kept

theorem modify {update : BridgeRuntime → BridgeRuntime}
    (quiet : ∀ runtime, Quiet runtime (update runtime)) :
    KeepsIf failed invariant (modifyRuntime update) :=
  keepsIf_of_keeps (keeps_modify fun work holds =>
    kept.quiet work (update work.runtime) (quiet work.runtime) holds)

theorem requestSwitch (target : HostId) (nowMs : UInt64) :
    KeepsIf failed invariant
      (requestTargetSwitchAppend build actions target nowMs) := by
  apply keepsIf_read
  intro runtime
  apply keepsIf_ite
  · refine keepsIf_bind (kept.modify fun _ => ⟨rfl, .inl rfl⟩) fun _ => ?_
    exact kept.event _ trivial (fun same => nomatch same)
  · exact kept.modify fun _ => ⟨rfl, .inl rfl⟩

theorem events {list : List (BridgeEvent build)}
    (plain : ∀ event ∈ list, event.Plain ∧ event ≠ .enterPairingMode ⟨0⟩) :
    KeepsIf failed invariant (handleBridgeEventsAppend build actions list) := by
  induction list with
  | nil => exact keepsIf_pure ()
  | cons head tail ih =>
      obtain ⟨⟨inner, other⟩, rest⟩ := List.forall_mem_cons.mp plain
      exact keepsIf_bind (kept.event head inner other) fun _ => ih rest

theorem resetProfile (profileId : InputProfileId) :
    KeepsIf failed invariant (resetProfileInputs build actions profileId) := by
  refine keepsIf_bind (kept.modify fun _ => ⟨rfl, .inl rfl⟩) fun _ =>
    keepsIf_read fun runtime => kept.events ?_
  intro event member
  obtain ⟨deviceId, -, rfl⟩ := List.mem_map.mp member
  exact ⟨trivial, fun same => nomatch same⟩

theorem startPairing (hostId : HostId) (nowMs : UInt64) :
    KeepsIf failed invariant (startPairing build actions hostId nowMs) := by
  apply keepsIf_read
  intro runtime
  by_cases valid : validManagementHost runtime.bridge.hosts.hosts.length
      hostId = true
  · have other : (.enterPairingMode hostId : BridgeEvent build) ≠
        .enterPairingMode ⟨0⟩ := by
      intro same
      obtain rfl := BridgeEvent.enterPairingMode.inj same
      simp [validManagementHost] at valid
    refine keepsIf_ite (keepsIf_pure _) (keepsIf_ite (keepsIf_pure _) ?_)
    exact keepsIf_bind (kept.modify fun _ => ⟨rfl, .inl rfl⟩) fun _ =>
      keepsIf_bind (kept.event _ trivial other) fun _ => keepsIf_pure _
  · dsimp only
    rw [if_pos (by simpa using valid)]
    exact keepsIf_pure _

theorem setHostName (hostId : HostId) (name : ManagementHostName) :
    KeepsIf failed invariant
      (setHostNameCommand build actions hostId name) := by
  apply keepsIf_knownHost
  cases FixedName.fromAscii name.asBytes with
  | none => exact keepsIf_pure _
  | some name =>
      exact keepsIf_bind (kept.event _ trivial fun same => nomatch same)
        fun _ => keepsIf_pure _

theorem cancelPairing :
    KeepsIf failed invariant (cancelPairing build actions) := by
  apply keepsIf_read
  intro runtime
  cases runtime.pairingMode with
  | none => exact keepsIf_pure _
  | some pairing =>
      refine keepsIf_bind (kept.modify fun _ => ⟨rfl, .inl rfl⟩) fun _ => ?_
      exact keepsIf_bind (kept.event _ trivial fun same => nomatch same)
        fun _ => keepsIf_pure _

theorem setSetting (setting : SettingId) (target : SettingTarget)
    (value : Int32) :
    KeepsIf failed invariant
      (setSettingCommand build actions setting target value) := by
  have finish : ∀ (condition : Prop) [Decidable condition],
      KeepsIf failed invariant (do
        pushStorageSnapshot build .critical
        InPlace.when condition (pushCommand
          (.applyEffect (.setLogLevel value.toUInt32.toUInt8)))
        return ManagementResult.ok :
          RuntimeM capacity ManagementResult) := by
    intro condition _
    refine keepsIf_bind (kept.snapshot _) fun _ => ?_
    exact keepsIf_bind (keepsIf_when (kept.logLevel _)) fun _ =>
      keepsIf_pure _
  apply keepsIf_readRuntime
  intro work holds
  dsimp only
  cases found : work.runtime.setSetting setting target value with
  | none => exact keepsIf_pure _ work holds
  | some next =>
      refine keepsAt_bind ?_ fun _ => ?_
      · exact keepsAt_modify
          (kept.quiet work next (setSetting_quiet found) holds)
      split
      · exact keepsIf_bind (kept.resetProfile _) fun _ => finish _
      · exact finish _

theorem mirrorTarget (dual : build = .dual)
    (mirrorTarget : Option MirrorStableId)
    (target : BridgeRuntime → Option MirrorCandidateId) :
    KeepsIf failed invariant (do
      modifyRuntime fun runtime =>
        { runtime with mirrorTarget := mirrorTarget }
      pushStorageSnapshot build .critical
      let runtime ← readRuntime
      InPlace.when (runtime.bridge.outputTarget.selected = .wired)
        (beginPresentationTransition (target runtime))
      return .ok : RuntimeM capacity ManagementResult) := by
  refine keepsIf_bind (kept.modify fun _ => ⟨rfl, .inl rfl⟩) fun _ =>
    keepsIf_bind (kept.snapshot _) fun _ => keepsIf_read fun runtime => ?_
  exact keepsIf_bind (keepsIf_when (kept.presentation dual _)) fun _ =>
    keepsIf_pure _

omit kept in
theorem executeDual (kept : CommandsKept .dual actions failed invariant)
    (command : ManagementCommand .dual) :
    KeepsIf failed invariant (executeDualCommand actions command) := by
  cases command with
  | selectOutputTarget target =>
      refine keepsIf_read fun runtime => ?_
      dsimp only
      split
      · refine keepsIf_bind (kept.modify fun _ => ⟨rfl, .inl rfl⟩) fun _ => ?_
        exact keepsIf_bind (kept.event (.selectOutputTarget target) trivial
          fun same => nomatch same) fun _ => keepsIf_pure _
      · exact keepsIf_pure _
  | getMirrorCandidate candidate =>
      exact keepsIf_read fun _ => keepsIf_ite (keepsIf_pure _) (keepsIf_pure _)
  | setMirrorTarget candidate =>
      apply keepsIf_read
      intro runtime
      cases runtime.mirrorStableId candidate with
      | none => exact keepsIf_pure _
      | some stableId => exact kept.mirrorTarget rfl _ _
  | clearMirrorTarget => exact kept.mirrorTarget rfl none fun _ => none
  | setWiredHostLink bleHost => exact kept.linked rfl bleHost
  | _ => exact keepsIf_pure _

theorem execute (nowMs : UInt64) (command : ManagementCommand build) :
    KeepsIf failed invariant (executeCommand build actions nowMs command) := by
  cases command with
  | selectHost hostId =>
      refine keepsIf_knownHost hostId (keepsIf_bind ?_ fun _ => keepsIf_pure _)
      exact kept.requestSwitch hostId nowMs
  | startPairing hostId => exact kept.startPairing hostId nowMs
  | forgetHost hostId =>
      exact keepsIf_knownHost hostId
        (keepsIf_bind (kept.event _ trivial fun same => nomatch same)
          fun _ => keepsIf_pure _)
  | getHostInfo hostId => exact keepsIf_knownHost hostId (keepsIf_pure _)
  | setHostName hostId name => exact kept.setHostName hostId name
  | cancelPairing => exact kept.cancelPairing
  | getUsbDevice index nameOffset =>
      exact keepsIf_read fun _ => keepsIf_ite (keepsIf_pure _) (keepsIf_pure _)
  | getHostTiming hostId =>
      exact keepsIf_read fun _ => keepsIf_ite (keepsIf_pure _) (keepsIf_pure _)
  | getSetting setting target =>
      exact keepsIf_read fun _ => keepsIf_ite (keepsIf_pure _) (keepsIf_pure _)
  | setSetting setting target value =>
      exact kept.setSetting setting target value
  | selectOutputTarget target =>
      exact executeDual kept (.selectOutputTarget target)
  | getOutputTargetStatus => exact executeDual kept .getOutputTargetStatus
  | getMirrorCandidate candidate =>
      exact executeDual kept (.getMirrorCandidate candidate)
  | setMirrorTarget candidate =>
      exact executeDual kept (.setMirrorTarget candidate)
  | clearMirrorTarget => exact executeDual kept .clearMirrorTarget
  | setWiredHostLink bleHost => exact kept.linked rfl bleHost
  | _ => cases build <;> exact keepsIf_pure _

theorem management (nowMs : UInt64) (command : ManagementCommand build) :
    KeepsIf failed invariant
      (executeManagementCommand build actions nowMs command) :=
  keepsIf_read fun _ =>
    keepsIf_ite (keepsIf_pure _) (kept.execute nowMs command)

end CommandsKept

end

section

variable {build : Build} {actions : Nat}
  {invariant : RuntimeWork capacity → Prop}
  (closed : WorkClosed build actions invariant)

include closed

theorem WorkClosed.modify {update : BridgeRuntime → BridgeRuntime}
    (quiet : ∀ runtime, Quiet runtime (update runtime)) :
    Keeps invariant (modifyRuntime update) :=
  keeps_modify fun work holds =>
    closed.quiet work (update work.runtime) (quiet work.runtime) holds

theorem WorkClosed.handle {event : BridgeEvent build} (plain : event.Plain) :
    Keeps invariant (handleBridgeEvent build actions event) :=
  keeps_bind closed.clear fun _ => closed.event event plain

theorem WorkClosed.events {list : List (BridgeEvent build)}
    (plain : ∀ event ∈ list, event.Plain) :
    Keeps invariant (handleBridgeEventsAppend build actions list) := by
  induction list with
  | nil => exact keeps_pure ()
  | cons head tail ih =>
      refine keeps_bind (closed.event head (plain head List.mem_cons_self))
        fun _ => ih ?_
      exact fun event member => plain event (List.mem_cons_of_mem _ member)

theorem WorkClosed.beginPresentation (target : Option MirrorCandidateId) :
    Keeps invariant (beginPresentationTransition target) := by
  refine keeps_bind closed.presentation fun operationId => ?_
  refine keeps_bind (closed.modify fun _ => ⟨rfl, .inl rfl⟩) fun _ => ?_
  refine keeps_bind (closed.push _ id) fun _ => ?_
  cases target with
  | none => exact closed.push _ id
  | some candidate =>
      apply keeps_readRuntime_bind
      intro runtime
      cases runtime.mirrorProfileHash candidate with
      | none => exact keeps_throw _
      | some profileHash => exact closed.push _ id

theorem WorkClosed.reconcileWired :
    Keeps invariant reconcileWiredPresentation :=
  keeps_readRuntime_bind fun _ => keeps_when (closed.beginPresentation _)

theorem WorkClosed.snapshot (priority : StoragePersistPriority) :
    Keeps invariant (pushStorageSnapshot build priority) := by
  apply keeps_readRuntime_bind
  intro runtime
  apply keeps_ite
  · refine keeps_bind (closed.modify fun _ => ⟨rfl, .inl rfl⟩) fun _ =>
      keeps_readRuntime_bind fun _ => ?_
    exact keeps_bind (keeps_lift _ _) fun _ => closed.push _ id
  · exact keeps_throw _

theorem WorkClosed.wiredHostLink (bleHost : Option HostId)
    (dual : build = .dual) :
    Keeps invariant
      (executeDualCommand actions (.setWiredHostLink bleHost)) := by
  subst dual
  apply keeps_readRuntime
  intro work holds
  dsimp only
  split
  · exact holds
  · rename_i present
    have valid : ∀ host, bleHost = some host → validManagementHost
        work.runtime.bridge.hosts.hosts.length host = true := by
      rintro host rfl
      simp only [Option.any_some, Bool.or_eq_true, not_or, Bool.not_eq_true',
        Bool.not_eq_false] at present
      exact present.1
    unfold InPlace.when
    split
    · apply outcome_bind
      · refine outcome_bind (closed.linked work bleHost holds valid) fun _ => ?_
        exact closed.snapshot _
      · exact fun _ => keeps_pure _
    · exact holds

theorem WorkClosed.commands :
    CommandsKept build actions True invariant where
  quiet := closed.quiet
  event event plain _ := keepsIf_of_keeps (closed.event event plain)
  snapshot priority := keepsIf_of_keeps (closed.snapshot priority)
  logLevel _ := keepsIf_of_keeps (closed.push _ id)
  presentation _ target := keepsIf_of_keeps (closed.beginPresentation target)
  linked dual bleHost :=
    keepsIf_of_keeps (closed.wiredHostLink bleHost dual)

theorem WorkClosed.requestSwitch (target : HostId) (nowMs : UInt64) :
    Keeps invariant (requestTargetSwitchAppend build actions target nowMs) :=
  (closed.commands.requestSwitch target nowMs).keeps

theorem WorkClosed.management (destination : ManagementDestination)
    (request : ManagementRequest build) (nowMs : UInt64) :
    Keeps invariant
      (handleManagementRequest build actions destination request nowMs) := by
  refine keeps_bind closed.clear fun _ => keeps_bind ?_ fun _ => ?_
  · exact (closed.commands.management nowMs request.command).keeps
  · exact keeps_readRuntime_bind fun _ => closed.push _ id

section

variable (nowMs : UInt64)

theorem WorkClosed.pairing :
    Keeps invariant (enterPairingIntent build actions nowMs) := by
  apply keeps_readRuntime_bind
  intro runtime
  cases runtime.bridge.hosts.pairingCandidate with
  | none => exact closed.clear
  | some hostId =>
      exact keeps_bind (closed.modify fun _ => ⟨rfl, .inl rfl⟩) fun _ =>
        closed.handle trivial

theorem WorkClosed.clearActive :
    Keeps invariant (clearActiveHostIntent build actions) := by
  apply keeps_readRuntime_bind
  intro runtime
  cases runtime.bridge.hosts.activeTarget with
  | none => exact closed.clear
  | some hostId =>
      refine keeps_readRuntime_bind fun _ => keeps_bind (keeps_when ?_) fun _ =>
        closed.handle trivial
      exact closed.modify fun _ => ⟨rfl, .inl rfl⟩

theorem WorkClosed.tickSwitch :
    Keeps invariant (tickTargetSwitch build actions nowMs) := by
  apply keeps_readRuntime_bind
  intro runtime
  cases runtime.pendingTargetSwitch with
  | none => exact keeps_pure _
  | some pending =>
      refine keeps_when (keeps_bind ?_ fun _ => closed.event _ trivial)
      exact closed.modify fun _ => ⟨rfl, .inl rfl⟩

theorem WorkClosed.tickPairing :
    Keeps invariant (tickPairingMode build actions nowMs) := by
  apply keeps_readRuntime_bind
  intro runtime
  cases runtime.pairingMode with
  | none => exact keeps_pure _
  | some pairing =>
      refine keeps_when (keeps_bind ?_ fun _ => closed.event _ trivial)
      exact closed.modify fun _ => ⟨rfl, .inl rfl⟩

theorem WorkClosed.tick : Keeps invariant (tick build actions nowMs) := by
  refine keeps_bind (closed.modify fun _ => ⟨rfl, .inl rfl⟩) fun _ =>
    keeps_bind closed.clear fun _ => ?_
  exact keeps_bind (closed.tickSwitch nowMs) fun _ => closed.tickPairing nowMs

omit closed in
theorem WorkClosed.selectTarget
    (closed : WorkClosed .dual actions invariant) (target : OutputTarget) :
    Keeps invariant (selectTargetAppend actions target) :=
  keeps_bind (closed.modify fun _ => ⟨rfl, .inl rfl⟩) fun _ =>
    closed.event _ trivial

omit closed in
theorem WorkClosed.requestSingleSwitch
    (closed : WorkClosed .single actions invariant) (target : HostId)
    (nowMs : UInt64) :
    Keeps invariant (requestTargetSwitch actions target nowMs) :=
  keeps_bind closed.clear fun _ => closed.requestSwitch target nowMs

theorem WorkClosed.shortcut :
    Keeps invariant (handleShortcutTargetSwitch build actions nowMs) := by
  apply keeps_readRuntime_bind
  intro runtime
  dsimp only
  split
  · exact closed.selectTarget _
  · exact closed.requestSingleSwitch _ nowMs
  · exact keeps_pure _

theorem WorkClosed.nextTarget :
    Keeps invariant (nextTargetIntent build actions nowMs) := by
  apply keeps_readRuntime_bind
  intro runtime
  dsimp only
  split
  · exact keeps_bind closed.clear fun _ => closed.selectTarget _
  · exact closed.requestSingleSwitch _ nowMs
  · exact closed.clear

end

theorem WorkClosed.button (intent : ButtonIntent) (nowMs : UInt64) :
    Keeps invariant (handleButtonIntent build actions intent nowMs) := by
  apply keeps_readRuntime_bind
  intro runtime
  split
  · exact closed.nextTarget nowMs
  · exact closed.pairing nowMs
  · exact closed.clearActive
  · exact closed.clear

omit closed in
theorem transformInputFrame_quiet (runtime : BridgeRuntime)
    (frame : InputFrame) :
    Quiet runtime (runtime.transformInputFrame frame).1 := by
  unfold BridgeRuntime.transformInputFrame
  split
  · exact ⟨rfl, .inl rfl⟩
  · split <;> exact ⟨rfl, .inl rfl⟩

theorem WorkClosed.gated (event : BridgeEvent build) (triggered : Bool)
    (allowed : ∀ pending, Keeps invariant (handleBridgeEventAppend build actions
      (gateWiredReady pending event))) :
    Keeps invariant (do
      handleBridgeEvent build actions
        (gateWiredReady (← readRuntime).presentationTransitionPending event)
      InPlace.when triggered do
        handleShortcutTargetSwitch build actions (← readRuntime).nowMs) := by
  refine keeps_readRuntime_bind fun _ => keeps_bind ?_ fun _ => ?_
  · exact keeps_bind closed.clear fun _ => allowed _
  · exact keeps_when (keeps_readRuntime_bind fun _ => closed.shortcut _)

theorem WorkClosed.frameInput (frame : InputFrame)
    (allowed : ∀ frame, Keeps invariant
      (handleBridgeEventAppend build actions (.inputFrame frame))) :
    Keeps invariant
      (handleBridgeEventInput build actions (.inputFrame frame)) := by
  intro work holds
  have stored : invariant ((@modifyRuntime capacity fun _ =>
      (work.runtime.transformInputFrame frame).1).outcome work) :=
    closed.quiet work _ (transformInputFrame_quiet _ frame) holds
  have ended := outcome_bind stored fun _ => closed.gated
    (.inputFrame (work.runtime.transformInputFrame frame).2.1)
    (work.runtime.transformInputFrame frame).2.2 fun _ => allowed _
  exact ended

theorem WorkClosed.otherInput {event : BridgeEvent build}
    (other : ∀ frame, event ≠ .inputFrame frame)
    (allowed : ∀ pending, Keeps invariant (handleBridgeEventAppend build actions
      (gateWiredReady pending event))) :
    Keeps invariant (handleBridgeEventInput build actions event) := by
  cases event with
  | inputFrame frame => exact absurd rfl (other frame)
  | _ => exact closed.gated _ false allowed

omit closed in
theorem cccdEvent_plain {report : ReportKind}
    (converted : cccdEvent hostId report data = .ok list) :
    ∀ event ∈ list, event.Plain := by
  obtain ⟨enabled, -, rfl⟩ := map_eq_ok.mp converted
  intro event member
  cases List.mem_singleton.mp member
  exact trivial

omit closed in
theorem keyboardLedEvent_plain
    (converted : keyboardLedEvent hostId bytes = .ok list) :
    ∀ event ∈ list, event.Plain := by
  obtain ⟨leds, -, rfl⟩ := map_eq_ok.mp converted
  intro event member
  cases List.mem_singleton.mp member
  exact trivial

omit closed in
theorem bridgeEvents_plain (converted : bridgeEvents hostId event = .ok list) :
    ∀ event ∈ list, event.Plain := by
  cases event with
  | connected => cases converted; simp [BridgeEvent.Plain]
  | disconnected => cases converted; simp [BridgeEvent.Plain]
  | securityChanged encrypted bonded bond =>
      cases converted
      simp [BridgeEvent.Plain]
  | gattWrite encrypted hidAttribute data =>
      cases encrypted with
      | false => cases converted
      | true =>
          cases hidAttribute with
          | keyboardOutputReport =>
              obtain ⟨payload, -, rest⟩ := bind_eq_ok.mp converted
              exact keyboardLedEvent_plain rest
          | bootKeyboardOutputReport =>
              exact keyboardLedEvent_plain converted
          | unknown => cases converted; simp
          | _ => exact cccdEvent_plain converted

theorem WorkClosed.bleHost (events : Nat) (hostId : HostId)
    (event : BleHostAdapterEvent) :
    Keeps invariant (handleBleHostEvent build actions events hostId event) := by
  refine keeps_bind closed.clear fun _ => ?_
  cases converted : (bridgeEventsFromBleHostEvent events hostId event :
      Except BleHostAdapterError (List (BridgeEvent build))) with
  | error error => exact keeps_throw _
  | ok list =>
      obtain ⟨original, produced, rest⟩ := bind_eq_ok.mp converted
      have plain := bridgeEvents_plain produced
      split at rest
      · cases rest
        exact closed.events plain
      · cases rest

theorem WorkClosed.reconcile :
    Keeps invariant (reconcilePresentation build) := by
  cases build with
  | single => exact keeps_pure ()
  | dual => exact closed.reconcileWired

omit closed in
theorem upsertUsbHidInterface_quiet
    (stored : runtime.upsertUsbHidInterface interface = .ok next) :
    Quiet runtime next := by
  unfold BridgeRuntime.upsertUsbHidInterface at stored
  split at stored
  · cases stored
    exact ⟨rfl, .inl rfl⟩
  · cases stored

omit closed in
theorem dropUsbHidInterface_quiet (runtime : BridgeRuntime)
    (interfaceId : InterfaceId) :
    Quiet runtime (runtime.dropUsbHidInterface interfaceId) := by
  unfold BridgeRuntime.dropUsbHidInterface
  split <;> exact ⟨rfl, .inl rfl⟩

theorem WorkClosed.register (interfaceId : InterfaceId) (deviceId : DeviceId)
    (ledOutput : Option KeyboardLedOutputReport) :
    Keeps invariant (registerUsbHidInterface build actions interfaceId
      deviceId ledOutput) := by
  apply keeps_readRuntime
  intro work holds
  dsimp only
  cases stored : work.runtime.upsertUsbHidInterface
      (BridgeRuntime.freshInterface interfaceId deviceId ledOutput) with
  | error error => exact holds
  | ok next =>
      have updated : invariant (
        (@modifyRuntime capacity fun _ => next).outcome work) :=
        closed.quiet work next (upsertUsbHidInterface_quiet stored) holds
      have record : Keeps invariant (InPlace.when
          ((work.runtime.interfacesOf deviceId).isEmpty) (modifyRuntime
            (·.recordHistory 3 deviceId.val 0 0 0)) :
              RuntimeM capacity Unit) :=
        keeps_when (closed.modify fun _ => ⟨rfl, .inl rfl⟩)
      have connected : Keeps invariant (handleBridgeEvent build actions
          (.usbHidInterfaceConnected interfaceId deviceId ledOutput.isSome)) :=
        closed.handle trivial
      have present : Keeps invariant (InPlace.when
          ((work.runtime.interfacesOf deviceId).isEmpty)
          (reconcilePresentation build)) := keeps_when closed.reconcile
      have ended := outcome_bind updated fun _ => keeps_bind
        (keeps_tryCatch connected fun error =>
          keeps_bind record fun _ => keeps_throw error)
        fun _ => keeps_bind record fun _ => present
      exact ended

theorem WorkClosed.disconnectProfile (profileId : InputProfileId) :
    Keeps invariant (disconnectProfile build profileId) := by
  refine keeps_readRuntime_bind fun _ => keeps_when ?_
  refine keeps_bind (closed.modify fun _ => ⟨rfl, .inl rfl⟩) fun _ => ?_
  exact keeps_readRuntime_bind fun _ => keeps_when (closed.snapshot _)

theorem WorkClosed.finishRemoval (removed : UsbHidInterfaceRuntimeState) :
    Keeps invariant (finishDeviceRemoval build removed) := by
  have rest : Keeps invariant (do
      modifyRuntime (·.recordHistory 4 removed.deviceId.val 0 0 0)
      forgetSource build removed.deviceId
      reconcilePresentation build : RuntimeM capacity Unit) := by
    refine keeps_bind (closed.modify fun _ => ⟨rfl, .inl rfl⟩) fun _ =>
      keeps_bind ?_ fun _ => closed.reconcile
    cases build with
    | single => exact keeps_pure ()
    | dual =>
        unfold forgetSource
        exact closed.modify fun _ => ⟨rfl, .inl rfl⟩
  refine keeps_readRuntime_bind fun _ => keeps_when ?_
  cases removed.inputProfileId with
  | none => exact rest
  | some profileId =>
      exact keeps_bind (closed.disconnectProfile profileId) fun _ => rest

theorem WorkClosed.unregister (interfaceId : InterfaceId) :
    Keeps invariant (unregisterUsbDevice build actions interfaceId) := by
  refine keeps_readRuntime_bind fun runtime => keeps_bind
    (closed.modify fun _ => dropUsbHidInterface_quiet _ _) fun _ =>
      keeps_bind (closed.handle trivial) fun _ => ?_
  cases runtime.usbHidInterface interfaceId with
  | none => exact keeps_pure ()
  | some removed => exact closed.finishRemoval removed

theorem WorkClosed.metadata (deviceId : DeviceId) (identity : InputIdentity)
    (name : FixedName) (flags : UInt8) :
    Keeps invariant (usbDeviceMetadataUpdated build deviceId identity name
      flags) := by
  refine keeps_bind closed.clear fun _ => keeps_readRuntime_bind fun _ =>
    keeps_bind (closed.modify fun _ => ⟨rfl, .inl rfl⟩) fun _ =>
      keeps_bind (keeps_lift _ _) fun _ => ?_
  refine keeps_bind (closed.modify fun _ => ⟨rfl, .inl rfl⟩) fun _ => ?_
  exact keeps_readRuntime_bind fun _ => keeps_when (closed.snapshot _)

theorem WorkClosed.restore (storage : StorageState) :
    Keeps invariant (restoreStorageState build storage) := by
  refine keeps_bind closed.clear fun _ =>
    keeps_bind (closed.restored _) fun _ => keeps_bind ?_ fun _ =>
      closed.push _ id
  apply closed.modify
  intro runtime
  cases build <;> exact ⟨rfl, .inl rfl⟩

theorem WorkClosed.hostName (hostId : HostId) (name : FixedName) :
    Keeps invariant (hostNameDiscovered hostId name) := by
  refine keeps_bind closed.clear fun _ => keeps_readRuntime ?_
  intro work holds
  dsimp only
  cases found : work.runtime.bridge.hosts.setDiscoveredName hostId name with
  | error error => exact holds
  | ok result => exact closed.named work hostId name _ _ holds found

theorem WorkClosed.answer (control : ¬ command.CarriesInput) :
    Keeps invariant (answerWith command) :=
  keeps_bind closed.clear fun _ => closed.push command control

theorem WorkClosed.quietly (quiet : ∀ runtime, Quiet runtime (update runtime)) :
    Keeps invariant (updateQuietly update) :=
  keeps_bind closed.clear fun _ => closed.modify quiet

omit closed in
theorem applyDiagnosticsEvent_quiet (runtime : BridgeRuntime)
    (event : RuntimeDiagnosticsEvent) :
    Quiet runtime (runtime.applyDiagnosticsEvent event) := by
  cases event with
  | bleDisconnected hostId reason =>
      simp only [BridgeRuntime.applyDiagnosticsEvent,
        BridgeRuntime.recordDisconnectReason]
      split <;> exact ⟨rfl, .inl rfl⟩
  | bleNotifyTimedOut criticalRelease =>
      cases criticalRelease <;> exact ⟨rfl, .inl rfl⟩
  | flashWrite success => cases success <;> exact ⟨rfl, .inl rfl⟩
  | _ => exact ⟨rfl, .inl rfl⟩

theorem WorkClosed.power : Keeps invariant (reconcileUsbHostPower build) := by
  refine keeps_readRuntime_bind fun runtime => ?_
  dsimp only
  refine keeps_bind (closed.modify fun _ => ⟨rfl, .inl rfl⟩) fun _ => ?_
  split
  · exact closed.push _ id
  · exact keeps_pure ()

end

section

variable {actions : Nat} {invariant : RuntimeWork capacity → Prop}
  (closed : WorkClosed .dual actions invariant)

include closed

theorem WorkClosed.presentRegistered (candidate : MirrorCandidateId)
    (selectedCandidateReplaced : Bool) :
    Keeps invariant
      (presentRegistered candidate selectedCandidateReplaced) := by
  refine keeps_bind ?_ fun _ => keeps_readRuntime_bind fun _ =>
    keeps_when (closed.beginPresentation none)
  exact keeps_readRuntime_bind fun _ =>
    keeps_when (closed.beginPresentation (some candidate))

theorem WorkClosed.profileResult (result : ProfileResult) :
    Keeps invariant (deviceProfileResult result) := by
  refine keeps_bind closed.clear fun _ =>
    keeps_bind (closed.modify fun _ => ⟨rfl, .inl rfl⟩) fun _ =>
      keeps_readRuntime_bind fun runtime => keeps_when ?_
  refine keeps_bind (closed.modify fun _ => ⟨rfl, .inl rfl⟩) fun _ => ?_
  split
  · exact keeps_bind (closed.modify fun _ => ⟨rfl, .inl rfl⟩) fun _ =>
      closed.presentRegistered _ _
  · exact keeps_pure ()

theorem WorkClosed.endpointOut (report : RawEndpointReport) :
    Keeps invariant (mirrorEndpointOut report) := by
  refine keeps_bind closed.clear fun _ =>
    keeps_bind (closed.modify fun _ => ⟨rfl, .inl rfl⟩) fun _ =>
      keeps_readRuntime_bind fun runtime => ?_
  cases runtime.activePhysicalMirrorSource with
  | none => exact keeps_pure ()
  | some deviceId => exact closed.push _ id

theorem WorkClosed.controlRequest (request : MirrorControlRequest) :
    Keeps invariant (mirrorControlRequest request) := by
  refine keeps_bind closed.clear fun _ =>
    keeps_bind (closed.modify fun _ => ⟨rfl, .inl rfl⟩) fun _ =>
      keeps_readRuntime_bind fun runtime => ?_
  cases runtime.activePhysicalMirrorSource with
  | none => exact keeps_pure ()
  | some deviceId => exact closed.push _ id

theorem WorkClosed.candidate (candidate : MirrorCandidateId)
    (stableId : MirrorStableId) (profileHash : Option UInt32)
    (synthetic : Bool) (sourceDevice : Option DeviceId) :
    Keeps invariant (mirrorCandidateRegistered candidate stableId profileHash
      synthetic sourceDevice) := by
  refine keeps_bind closed.clear fun _ => ?_
  cases profileHash with
  | none =>
      refine keeps_readRuntime_bind fun _ =>
        keeps_bind (closed.modify fun _ => ⟨rfl, .inl rfl⟩) fun _ => ?_
      exact keeps_when (closed.beginPresentation none)
  | some profileHash =>
      refine keeps_readRuntime_bind fun runtime => keeps_ite ?_
        (closed.modify fun _ => ⟨rfl, .inl rfl⟩)
      cases runtime.mirrorCandidates.register
          ⟨candidate, stableId, profileHash, synthetic, sourceDevice⟩ with
      | none => exact keeps_pure ()
      | some mirrorCandidates =>
          exact keeps_bind (closed.modify fun _ => ⟨rfl, .inl rfl⟩) fun _ =>
            closed.presentRegistered _ _

theorem WorkClosed.sourceDisconnected (deviceId : DeviceId) :
    Keeps invariant (mirrorSourceDisconnected deviceId) :=
  keeps_bind closed.clear fun _ =>
    keeps_bind (closed.modify fun _ => ⟨rfl, .inl rfl⟩) fun _ =>
      closed.reconcileWired

theorem WorkClosed.endpointIn (deviceId : DeviceId)
    (report : RawEndpointReport) (standard : Option InputFrame)
    (raw : ∀ work, invariant work →
      work.runtime.activePhysicalMirrorSource = some deviceId →
      invariant ((@pushCommand capacity
        (.deviceCommand (.rawEndpointIn report))).outcome work))
    (allowed : ∀ frame, Keeps invariant
      (handleBridgeEventAppend .dual actions (.inputFrame frame))) :
    Keeps invariant (usbEndpointIn actions deviceId report standard) := by
  refine keeps_bind closed.clear fun _ => keeps_readRuntime ?_
  intro work holds
  split
  · exact raw work holds ‹_›
  · cases standard with
    | none => exact holds
    | some frame => exact closed.frameInput frame allowed work holds

end

variable {build : Build} {actions : Nat}
  {invariant : RuntimeWork capacity → Prop}
  (closed : WorkClosed build actions invariant)

include closed

omit closed in
theorem gateWiredReady_plain (plain : event.Plain) (pending : Bool) :
    gateWiredReady pending event = event := by
  cases event with
  | wiredAvailabilityChanged availability => exact plain.elim
  | _ => rfl

theorem WorkClosed.core (events : Nat) (plain : input.Plain) :
    Keeps invariant (handleInputCoreInPlace build actions events input) := by
  cases input with
  | bridgeEvent event =>
      apply closed.otherInput
      · rintro frame rfl
        exact plain
      · intro pending
        rw [gateWiredReady_plain plain]
        exact closed.event event plain
  | buttonIntent intent nowMs => exact closed.button intent nowMs
  | managementRequest destination request nowMs =>
      exact closed.management destination request nowMs
  | tick nowMs => exact closed.tick nowMs
  | bleHostEvent hostId event => exact closed.bleHost events hostId event
  | usbHidInterfaceConnected interfaceId deviceId ledOutput =>
      exact closed.register interfaceId deviceId ledOutput
  | usbHidInterfaceDisconnected interfaceId =>
      exact closed.unregister interfaceId
  | usbDeviceMetadataUpdated deviceId identity name flags =>
      exact closed.metadata deviceId identity name flags
  | hostNameDiscovered hostId name => exact closed.hostName hostId name
  | diagnosticsEvent event =>
      exact closed.quietly fun _ => applyDiagnosticsEvent_quiet _ event
  | storageHealthChanged health =>
      exact closed.quietly fun _ => ⟨rfl, .inl rfl⟩
  | deviceCommandRequested command => exact plain.elim
  | deviceProfileResult result => exact closed.profileResult result
  | mirrorEndpointOut report => exact closed.endpointOut report
  | usbEndpointIn deviceId report standard => exact plain.elim
  | mirrorControlRequest request => exact closed.controlRequest request
  | mirrorControlCompleted response => exact closed.answer id
  | deviceUsbState state => exact plain.elim
  | mirrorCandidateRegistered candidate stableId profileHash synthetic
      sourceDevice =>
      exact closed.candidate candidate stableId profileHash synthetic
        sourceDevice
  | mirrorSourceDisconnected deviceId =>
      exact closed.sourceDisconnected deviceId
  | restoreStorage storage => exact closed.restore storage

end HidShift
