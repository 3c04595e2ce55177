import HidShift.Runtime.Shortcut

namespace HidShift

open Lib InPlace

variable {capacity : Nat} {build : Build}

def Matches (action : BridgeAction) (command : RuntimeCommand) : Prop :=
  match action with
  | .notify (.ble hostId) report reason =>
      command = .bleCommand (.notify hostId report reason)
  | .notify .wired report reason =>
      command = .deviceCommand (.standardReport report reason)
  | .usbSetKeyboardLeds interfaceId deviceId leds =>
      ∃ (output : KeyboardLedOutputReport) (bytes : KeyboardLedOutputBytes),
        output.build leds = .ok bytes ∧
          command = .usbKeyboardLedWrite interfaceId deviceId bytes
  | .allowPairing hostId => command = .bleCommand (.allowPairing hostId)
  | .rejectPairing hostId => command = .bleCommand (.rejectPairing hostId)
  | .clearBond hostId bond => command = .bleCommand (.clearBond hostId bond)
  | .activateInput hostId => command = .bleCommand (.activateInput hostId)
  | .activateWired operationId => ∃ profileHash,
      command = .deviceCommand (activatePresentation operationId profileHash)
  | .ensureFallback operationId =>
      command = .deviceCommand (.activateFallback operationId)
  | .persistProfiles => ∃ state priority,
      command = .persistStorage state priority
  | .statusChanged status => ∃ snapshot, command = .statusChanged snapshot ∧
      snapshot.bridgeStatus = status

def RuntimeCommand.Own : RuntimeCommand → Prop
  | .managementResponse .. | .applyEffect _ | .setUsbHostBusState _
  | .persistStorage .. => True
  | _ => False

/-- The commands hold one command for each action, in the order of the
actions, and own commands of the runtime between them. -/
inductive Dispatched : List BridgeAction → List RuntimeCommand → Prop
  | nil : Dispatched [] []
  | action {emitted : List BridgeAction} {commands : List RuntimeCommand}
      {action : BridgeAction} {command : RuntimeCommand}
      (before : Dispatched emitted commands)
      (matched : Matches action command) :
      Dispatched (emitted ++ [action]) (commands ++ [command])
  | own {emitted : List BridgeAction} {commands : List RuntimeCommand}
      {command : RuntimeCommand} (before : Dispatched emitted commands)
      (own : command.Own) : Dispatched emitted (commands ++ [command])

def RuntimeCommand.isPower : RuntimeCommand → Bool
  | .setUsbHostBusState _ => true
  | _ => false

theorem Matches.not_power (matched : Matches action command) :
    command.isPower = false := by
  cases action with
  | notify target report reason =>
      cases target <;> (cases matched; rfl)
  | usbSetKeyboardLeds interfaceId deviceId leds =>
      obtain ⟨_, _, _, rfl⟩ := matched
      rfl
  | activateWired operationId =>
      obtain ⟨_, rfl⟩ := matched
      rfl
  | persistProfiles =>
      obtain ⟨_, _, rfl⟩ := matched
      rfl
  | statusChanged status =>
      obtain ⟨_, rfl, _⟩ := matched
      rfl
  | _ => cases matched; rfl

theorem Dispatched.length_le (dispatched : Dispatched emitted commands) :
    emitted.length ≤ commands.countP (!·.isPower) := by
  induction dispatched with
  | nil => exact Nat.le_refl 0
  | action before matched ih =>
      rw [List.length_append, List.countP_append, List.countP_singleton,
        matched.not_power]
      exact Nat.succ_le_succ ih
  | own before own ih =>
      rw [List.countP_append]
      omega

def Fresh (work : RuntimeWork capacity) : Prop := work.emitted = []

def AllDispatched (work : RuntimeWork capacity) : Prop :=
  Dispatched work.emitted work.commands.toList

section

theorem fresh_start (runtime : BridgeRuntime)
    (commands : BoundedVec RuntimeCommand capacity) :
    Fresh ⟨runtime, commands, []⟩ := rfl

theorem fresh_clear : Leads Fresh (@clearCommands capacity) AllDispatched := by
  apply leads_modify
  intro work fresh
  show Dispatched work.emitted []
  rw [show work.emitted = [] from fresh]
  exact .nil

theorem fresh_modify (update : BridgeRuntime → BridgeRuntime) :
    Leads Fresh (@modifyRuntime capacity update) Fresh :=
  leads_modify fun _ fresh => fresh

theorem order_modify (update : BridgeRuntime → BridgeRuntime) :
    Leads AllDispatched (@modifyRuntime capacity update) AllDispatched :=
  leads_modify fun _ order => order

theorem order_push (own : command.Own) :
    Leads AllDispatched (@pushCommand capacity command) AllDispatched := by
  intro before done after order pushed
  obtain ⟨-, emitted, commands⟩ := succeeds_pushCommand.mp pushed
  rw [AllDispatched, emitted, commands]
  exact order.own own

variable {α : Type} {pre post : RuntimeWork capacity → Prop}

theorem leads_read (read : ∀ runtime, Leads pre (second runtime) post) :
    Leads pre (readRuntime >>= second) post :=
  leads_readRuntime fun work holds => leads_weaken (read work.runtime)
    fun _ same => same ▸ holds

end

section

variable {log list : List BridgeAction} {commands : List RuntimeCommand}

/-- The first actions of a list are dispatched behind the commands that were
there. -/
def Partly (log : List BridgeAction) (commands : List RuntimeCommand)
    (list : List BridgeAction) (work : RuntimeWork capacity) : Prop :=
  work.emitted = log ∧ ∃ pushed, List.Forall₂ Matches list pushed ∧
    work.commands.toList = commands ++ pushed

theorem partly_push (matched : Matches action command) :
    Leads (Partly log commands list) (@pushCommand capacity command)
      (Partly log commands (list ++ [action])) := by
  rintro before done after ⟨logged, pushed, order, had⟩ finished
  obtain ⟨-, same, now⟩ := succeeds_pushCommand.mp finished
  refine ⟨same.trans logged, pushed ++ [command], ?_, ?_⟩
  · exact List.rel_append order (.cons matched .nil)
  · rw [now, had, List.append_assoc]

theorem partly_modify (update : BridgeRuntime → BridgeRuntime) :
    Leads (Partly log commands list)
      (@modifyRuntime capacity update) (Partly log commands list) :=
  leads_modify fun _ partly => partly

theorem partly_snapshot (priority : StoragePersistPriority) :
    Leads (Partly log commands list)
      (@pushStorageSnapshot capacity .single priority)
      (Partly log commands (list ++ [.persistProfiles])) := by
  refine leads_read fun _ => leads_ite ?_ leads_throw
  refine leads_bind (partly_modify _) fun _ => leads_read fun _ =>
    leads_bind (leads_lift _ _) fun state => ?_
  exact partly_push ⟨state, priority, rfl⟩

theorem partly_one (priority : Option StoragePersistPriority)
    (action : BridgeAction) :
    Leads (Partly log commands list)
      (@dispatchBridgeAction capacity .single priority action)
      (Partly log commands (list ++ [action])) := by
  cases action with
  | notify target report reason =>
      cases target with
      | ble hostId => exact partly_push rfl
      | wired => exact leads_throw
  | usbSetKeyboardLeds interfaceId deviceId leds =>
      refine leads_read fun runtime => ?_
      dsimp only
      split
      · exact leads_throw
      · rename_i output _
        cases built : output.build leds with
        | error error => exact leads_throw
        | ok bytes => exact partly_push ⟨output, bytes, built, rfl⟩
  | activateWired operationId =>
      refine leads_read fun runtime =>
        leads_bind (partly_modify _) fun _ => partly_push ⟨_, rfl⟩
  | ensureFallback operationId =>
      exact leads_bind (partly_modify _) fun _ => partly_push rfl
  | persistProfiles => exact partly_snapshot _
  | statusChanged status =>
      refine leads_bind (leads_whenever (partly_modify _)) fun _ => ?_
      intro before done after partly finished
      obtain ⟨snapshot, middle, taken, pushed⟩ := succeeds_bind.mp finished
      simp only [nextStatusSnapshot, modifyRuntime, succeeds_bind,
        succeeds_modify, succeeds_readRuntime, succeeds_pure] at taken
      obtain ⟨_, _, rfl, _, _, ⟨rfl, rfl⟩, rfl, rfl⟩ := taken
      have matched : ∀ runtime : BridgeRuntime, Matches (.statusChanged status)
          (.statusChanged (runtime.statusSnapshot status)) :=
        fun _ => ⟨_, rfl, rfl⟩
      refine partly_push (matched _) _ done after ?_ pushed
      exact partly
  | _ => exact partly_push rfl

theorem partly_dispatch (priority : Option StoragePersistPriority)
    (rest : List BridgeAction) :
    Leads (Partly log commands list)
      (@dispatchBridgeActions capacity .single priority
      rest) (Partly log commands (list ++ rest)) := by
  induction rest generalizing list with
  | nil =>
      rw [List.append_nil]
      exact leads_pure fun _ partly => partly
  | cons head tail ih =>
      rw [← List.singleton_append, ← List.append_assoc]
      exact leads_bind (partly_one priority head) fun _ => ih

theorem dispatch_matches
    (finished : Succeeds (dispatchBridgeActions .single priority list) before
      done after) :
    after.emitted = before.emitted ∧ ∃ pushed,
      List.Forall₂ Matches list pushed ∧
        after.commands.toList = before.commands.toList ++ pushed :=
  partly_dispatch priority list before done after
    ⟨rfl, [], .nil, (List.append_nil _).symm⟩ finished

theorem Dispatched.append {emitted : List BridgeAction}
    {pushed : List RuntimeCommand} (dispatched : Dispatched emitted commands)
    (matched : List.Forall₂ Matches list pushed) :
    Dispatched (emitted ++ list) (commands ++ pushed) := by
  induction matched generalizing emitted commands with
  | nil =>
      rw [List.append_nil, List.append_nil]
      exact dispatched
  | cons head _ ih =>
      rw [List.append_cons emitted, List.append_cons commands]
      exact ih (dispatched.action head)

theorem append_matches
    (finished : Succeeds (handleBridgeEventAppend .single actions event)
      before done after) :
    ∃ list pushed, List.Forall₂ Matches list pushed ∧
      after.emitted = before.emitted ++ list ∧
        after.commands.toList = before.commands.toList ++ pushed := by
  simp only [handleBridgeEventAppend, modifyRuntime, succeeds_bind,
    succeeds_modify] at finished
  obtain ⟨_, _, rfl, list, middle, called, dispatched⟩ := finished
  obtain ⟨-, logged, same⟩ := callBridge_logs called
  obtain ⟨emitted, pushed, matched, commands⟩ := dispatch_matches dispatched
  refine ⟨list, pushed, matched, emitted.trans logged, ?_⟩
  rw [commands, same]

theorem order_append (event : BridgeEvent .single) :
    Leads AllDispatched
      (@handleBridgeEventAppend capacity .single actions event)
      AllDispatched := by
  intro before done after order finished
  obtain ⟨list, pushed, matched, emitted, commands⟩ := append_matches finished
  rw [AllDispatched, emitted, commands]
  exact Dispatched.append order matched

theorem order_events (list : List (BridgeEvent .single)) :
    Leads AllDispatched
      (@handleBridgeEventsAppend capacity .single actions list)
      AllDispatched := by
  induction list with
  | nil => exact leads_pure fun _ order => order
  | cons head tail ih =>
      exact leads_bind (order_append head) fun _ => ih

theorem fresh_handle (event : BridgeEvent .single) :
    Leads Fresh
      (@handleBridgeEvent capacity .single actions event) AllDispatched :=
  leads_bind fresh_clear fun _ => order_append event

end

section

variable {actions : Nat}

theorem order_snapshot (priority : StoragePersistPriority) :
    Leads AllDispatched (@pushStorageSnapshot capacity .single priority)
      AllDispatched := by
  refine leads_read fun _ => leads_ite ?_ leads_throw
  refine leads_bind (order_modify _) fun _ => leads_read fun _ =>
    leads_bind (leads_lift _ _) fun state => ?_
  exact order_push trivial

theorem order_commands :
    CommandsKept .single actions False (@AllDispatched capacity) where
  quiet _ _ _ order := order
  event event _ _ := keepsIf_of_leads (order_append event)
  snapshot priority := keepsIf_of_leads (order_snapshot priority)
  logLevel _ := keepsIf_of_leads (order_push trivial)
  presentation dual := nomatch dual
  linked dual := nomatch dual

theorem fresh_requestSwitch (target : HostId) (nowMs : UInt64) :
    Leads Fresh
      (@requestTargetSwitch capacity actions target nowMs) AllDispatched :=
  leads_bind fresh_clear fun _ => (order_commands.requestSwitch target
    nowMs).leads

theorem fresh_nextTarget (nowMs : UInt64) :
    Leads Fresh
      (@nextTargetIntent capacity .single actions nowMs) AllDispatched := by
  refine leads_read fun runtime => ?_
  dsimp only
  split
  · contradiction
  · exact fresh_requestSwitch _ nowMs
  · exact fresh_clear

theorem fresh_button (intent : ButtonIntent) (nowMs : UInt64) :
    Leads Fresh (@handleButtonIntent capacity .single actions intent nowMs)
      AllDispatched := by
  refine leads_read fun runtime => ?_
  split
  · exact fresh_nextTarget nowMs
  · refine leads_read fun runtime => ?_
    cases runtime.bridge.hosts.pairingCandidate with
    | none => exact fresh_clear
    | some hostId =>
        exact leads_bind (fresh_modify _) fun _ => fresh_handle _
  · refine leads_read fun runtime => ?_
    cases runtime.bridge.hosts.activeTarget with
    | none => exact fresh_clear
    | some hostId =>
        refine leads_read fun _ =>
          leads_bind (leads_whenever (fresh_modify _)) fun _ => ?_
        exact fresh_handle _
  · exact fresh_clear

theorem order_tickSwitch (nowMs : UInt64) :
    Leads AllDispatched
      (@tickTargetSwitch capacity .single actions nowMs) AllDispatched := by
  refine leads_read fun runtime => ?_
  cases runtime.pendingTargetSwitch with
  | none => exact leads_pure fun _ order => order
  | some pending =>
      exact leads_whenever (leads_bind (order_modify _) fun _ =>
        order_append _)

theorem order_tickPairing (nowMs : UInt64) :
    Leads AllDispatched
      (@tickPairingMode capacity .single actions nowMs) AllDispatched := by
  refine leads_read fun runtime => ?_
  cases runtime.pairingMode with
  | none => exact leads_pure fun _ order => order
  | some pairing =>
      exact leads_whenever (leads_bind (order_modify _) fun _ =>
        order_append _)

theorem fresh_tick (nowMs : UInt64) :
    Leads Fresh (@tick capacity .single actions nowMs)
      AllDispatched :=
  leads_bind (fresh_modify _) fun _ => leads_bind fresh_clear fun _ =>
    leads_bind (order_tickSwitch nowMs) fun _ => order_tickPairing nowMs

theorem fresh_bleHost (events : Nat) (hostId : HostId)
    (event : BleHostAdapterEvent) :
    Leads Fresh
      (@handleBleHostEvent capacity .single actions events hostId event)
      AllDispatched :=
  leads_bind fresh_clear fun _ => leads_bind (leads_lift _ _) fun list =>
    order_events list

theorem fresh_register (interfaceId : InterfaceId) (deviceId : DeviceId)
    (ledOutput : Option KeyboardLedOutputReport) :
    Leads Fresh
      (@registerUsbHidInterface capacity .single actions interfaceId deviceId
      ledOutput) AllDispatched := by
  refine leads_read fun runtime => leads_bind (leads_lift _ _) fun next =>
    leads_bind (fresh_modify _) fun _ =>
      leads_bind (leads_tryCatch (fresh_handle _) fun error => ?_) fun _ => ?_
  · exact leads_bind (leads_of_keeps fun _ _ => trivial) fun _ => leads_throw
  · refine leads_bind (leads_whenever (order_modify _)) fun _ => ?_
    exact leads_whenever (leads_pure fun _ order => order)

theorem order_finishRemoval (removed : UsbHidInterfaceRuntimeState) :
    Leads AllDispatched
      (@finishDeviceRemoval capacity .single removed) AllDispatched := by
  have rest : Leads AllDispatched (do
      modifyRuntime (·.recordHistory 4 removed.deviceId.val 0 0 0)
      forgetSource .single removed.deviceId
      reconcilePresentation .single : RuntimeM capacity Unit)
      AllDispatched :=
    leads_bind (order_modify _) fun _ =>
      leads_bind (leads_pure fun _ order => order) fun _ =>
        leads_pure fun _ order => order
  refine leads_read fun _ => leads_whenever ?_
  cases removed.inputProfileId with
  | none => exact rest
  | some profileId =>
      have disconnected : Leads AllDispatched
        (@disconnectProfile capacity .single
          profileId) AllDispatched := by
        refine leads_read fun _ => leads_whenever ?_
        exact leads_bind (order_modify _) fun _ => leads_read fun _ =>
          leads_whenever (order_snapshot _)
      exact leads_bind disconnected fun _ => rest

theorem fresh_unregister (interfaceId : InterfaceId) :
    Leads Fresh (@unregisterUsbDevice capacity .single actions interfaceId)
      AllDispatched := by
  refine leads_read fun runtime => leads_bind (fresh_modify _) fun _ =>
    leads_bind (fresh_handle _) fun _ => ?_
  cases runtime.usbHidInterface interfaceId with
  | none => exact leads_pure fun _ order => order
  | some removed => exact order_finishRemoval removed

theorem fresh_metadata (deviceId : DeviceId) (identity : InputIdentity)
    (name : FixedName) (flags : UInt8) :
    Leads Fresh
      (@usbDeviceMetadataUpdated capacity .single deviceId identity name
      flags) AllDispatched := by
  refine leads_bind fresh_clear fun _ => leads_read fun runtime =>
    leads_bind (order_modify _) fun _ =>
      leads_bind (leads_lift _ _) fun profileId => ?_
  exact leads_bind (order_modify _) fun _ => leads_read fun _ =>
    leads_whenever (order_snapshot _)

theorem fresh_management (destination : ManagementDestination)
    (request : ManagementRequest .single) (nowMs : UInt64) :
    Leads Fresh
      (@handleManagementRequest capacity .single actions destination request
      nowMs) AllDispatched := by
  refine leads_bind fresh_clear fun _ => leads_bind
    (order_commands.management nowMs request.command).leads fun result => ?_
  exact leads_read fun _ => order_push trivial

theorem fresh_restore (storage : StorageState) :
    Leads Fresh
      (@restoreStorageState capacity .single storage) AllDispatched := by
  have restored : ∀ storage, Leads AllDispatched
    (@restoreBridge capacity .single
      storage) AllDispatched := by
    refine fun storage => leads_read fun runtime => ?_
    dsimp only
    split
    · exact order_modify _
    · exact leads_bind (order_modify _) fun _ => leads_throw
  exact leads_bind fresh_clear fun _ => leads_bind (restored _) fun _ =>
    leads_bind (order_modify _) fun _ => order_push trivial

theorem fresh_hostName (hostId : HostId) (name : FixedName) :
    Leads Fresh (@hostNameDiscovered capacity hostId name)
      AllDispatched :=
  leads_bind fresh_clear fun _ => leads_read fun _ =>
    leads_bind (leads_lift _ _) fun _ => order_modify _

theorem fresh_quietly (update : BridgeRuntime → BridgeRuntime) :
    Leads Fresh (@updateQuietly capacity update)
      AllDispatched :=
  leads_bind fresh_clear fun _ => order_modify _

theorem order_power :
    Leads AllDispatched
      (@reconcileUsbHostPower capacity .single) AllDispatched := by
  refine leads_read fun runtime => ?_
  dsimp only
  refine leads_bind (order_modify _) fun _ => ?_
  split
  · exact order_push trivial
  · exact leads_pure fun _ order => order

end

variable {actions : Nat}

def Short (lost : Nat) (work : RuntimeWork capacity) : Prop :=
  work.commands.toList.countP (!·.isPower) + lost = work.emitted.length

variable {runtime : BridgeRuntime} {frame : InputFrame} {lost : Nat}

theorem Short.not_dispatched (short : Short lost work) (some : 0 < lost) :
    ¬ AllDispatched work := by
  intro order
  have bound := Dispatched.length_le order
  simp only [Short] at short
  omega

theorem countP_matches (matched : List.Forall₂ Matches list pushed) :
    pushed.countP (!·.isPower) = list.length := by
  induction matched with
  | nil => rfl
  | cons head _ ih =>
      rw [List.countP_cons, head.not_power, ih]
      rfl

theorem short_append (event : BridgeEvent .single) :
    Leads (Short lost) (@handleBridgeEventAppend capacity .single actions event)
      (Short lost) := by
  intro before done after short finished
  obtain ⟨list, pushed, matched, emitted, commands⟩ := append_matches finished
  simp only [Short] at short
  rw [Short, emitted, commands, List.countP_append, List.length_append,
    countP_matches matched]
  omega

theorem short_modify (update : BridgeRuntime → BridgeRuntime) :
    Leads (Short lost) (@modifyRuntime capacity update) (Short lost) :=
  leads_modify fun _ short => short

theorem short_requestSwitch (lost : Nat) (target : HostId) (nowMs : UInt64) :
    Leads (fun work => work.emitted.length = lost)
      (@requestTargetSwitch capacity actions target nowMs)
      (Short lost) := by
  have cleared : Leads (fun work => work.emitted.length = lost)
      (@clearCommands capacity) (Short lost) := by
    apply leads_modify
    rintro work rfl
    exact Nat.zero_add _
  refine leads_bind cleared fun _ => leads_read fun _ =>
    leads_ite ?_ (short_modify _)
  exact leads_bind (short_modify _) fun _ => short_append _

theorem short_power :
    Leads (Short lost)
      (@reconcileUsbHostPower capacity .single) (Short lost) := by
  refine leads_read fun runtime => ?_
  dsimp only
  refine leads_bind (short_modify _) fun _ => ?_
  split
  · intro before done after short pushed
    obtain ⟨-, emitted, commands⟩ := succeeds_pushCommand.mp pushed
    rw [Short, emitted, commands, List.countP_append]
    exact short
  · exact leads_pure fun _ short => short

/-- The reports of a frame are lost: it completes the shortcut, there is a
host to switch to, and the active host takes a part of the frame. -/
structure LosesReports (runtime : BridgeRuntime) (frame : InputFrame) :
    Prop where
  triggers : runtime.inputFrameWouldTriggerShortcut frame = true
  switches : runtime.bridge.hosts.nextConnectedTarget.isSome = true
  reported : runtime.bridge.Reports .single frame

theorem frame_handled (fresh : Fresh before)
    (finished : Succeeds (handleBridgeEvent .single actions (.inputFrame
      frame)) before done after) :
    after.runtime.bridge.hosts = before.runtime.bridge.hosts ∧
      (after.emitted ≠ [] ↔ before.runtime.bridge.Reports .single frame) := by
  simp only [handleBridgeEvent, clearCommands, handleBridgeEventAppend,
    modifyRuntime, succeeds_bind, succeeds_modify] at finished
  obtain ⟨_, _, rfl, _, _, rfl, list, middle, called, dispatched⟩ := finished
  obtain ⟨⟨left, ran, rfl, runtime⟩, logged, -⟩ := callBridge_logs called
  obtain ⟨hosts, list, out, reported⟩ := handleInputFrame_reported ran
  obtain ⟨same, -⟩ := dispatch_matches dispatched
  have kept := leads_of_keeps (dispatch_hosts middle.runtime.bridge.hosts _ _)
    middle done after rfl dispatched
  refine ⟨?_, ?_⟩
  · have reached : middle.runtime.bridge = left.bridge := by
      rw [runtime]
    exact (kept.trans (congrArg BridgeState.hosts reached)).trans hosts
  · rw [same, logged, out, show before.emitted = [] from fresh]
    exact reported

theorem Reports.transformed :
    (runtime.transformInputFrame frame).1.bridge.Reports .single
        (runtime.transformInputFrame frame).2.1 ↔
      runtime.bridge.Reports .single frame := by
  unfold BridgeState.Reports
  rw [(transformInputFrame_quiet runtime frame).bridge]
  simp only [runtime.transformInputFrame_carries frame]

theorem frameInput_stages
    (finished : Succeeds (handleBridgeEventInput .single actions (.inputFrame
      frame)) ⟨runtime, .empty, []⟩ done after) :
    ∃ middle : RuntimeWork capacity,
      Succeeds (handleBridgeEvent .single actions
        (.inputFrame (runtime.transformInputFrame frame).2.1))
        ⟨(runtime.transformInputFrame frame).1, .empty, []⟩ () middle ∧
      (runtime.inputFrameWouldTriggerShortcut frame = true ∧
          Succeeds (handleShortcutTargetSwitch .single actions
            middle.runtime.nowMs) middle done after ∨
        runtime.inputFrameWouldTriggerShortcut frame = false ∧
          middle = after) := by
  have staged : Succeeds (do
      handleBridgeEvent .single actions
        (.inputFrame (runtime.transformInputFrame frame).2.1)
      InPlace.when ((runtime.transformInputFrame frame).2.2 = true) do
        handleShortcutTargetSwitch .single actions (← readRuntime).nowMs :
          RuntimeM capacity Unit)
      ⟨(runtime.transformInputFrame frame).1, .empty, []⟩ done after :=
    finished
  rw [runtime.transformInputFrame_triggered frame] at staged
  simp only [succeeds_bind, succeeds_when, succeeds_readRuntime] at staged
  obtain ⟨_, middle, handled, switched⟩ := staged
  refine ⟨middle, handled, ?_⟩
  rcases switched with ⟨triggers, _, _, ⟨rfl, rfl⟩, switched⟩ | ⟨quiet, same⟩
  · exact .inl ⟨triggers, switched⟩
  · exact .inr ⟨by simpa using quiet, same⟩

theorem shortcutSwitch_cases
    (finished : Succeeds (handleShortcutTargetSwitch .single actions nowMs)
      before done after) :
    (∃ target, before.runtime.bridge.hosts.nextConnectedTarget = some target ∧
        Succeeds (requestTargetSwitch actions target nowMs) before done after) ∨
      before.runtime.bridge.hosts.nextConnectedTarget = none ∧
        before = after := by
  simp only [handleShortcutTargetSwitch, succeeds_bind, succeeds_readRuntime]
    at finished
  obtain ⟨_, _, ⟨rfl, rfl⟩, finished⟩ := finished
  cases found : before.runtime.bridge.hosts.nextConnectedTarget with
  | none =>
      rw [found] at finished
      exact .inr ⟨rfl, (succeeds_pure.mp finished).2⟩
  | some target =>
      rw [found] at finished
      exact .inl ⟨target, rfl, finished⟩

theorem frameInput_order
    (finished : Succeeds (handleBridgeEventInput .single actions (.inputFrame
      frame)) ⟨runtime, .empty, []⟩ done after) :
    (¬ LosesReports runtime frame ∧ AllDispatched after) ∨
      (LosesReports runtime frame ∧ ∃ lost, 0 < lost ∧ Short lost after) := by
  obtain ⟨middle, framed, switched⟩ := frameInput_stages finished
  have order : AllDispatched middle :=
    fresh_handle _ _ () middle (fresh_start _ _) framed
  obtain ⟨hosts, reported⟩ := frame_handled (fresh_start _ _) framed
  have sameHosts : middle.runtime.bridge.hosts = runtime.bridge.hosts := by
    rw [hosts]
    exact congrArg BridgeState.hosts
      (transformInputFrame_quiet runtime frame).bridge
  rw [Reports.transformed] at reported
  rcases switched with ⟨triggers, switched⟩ | ⟨quiet, rfl⟩
  · rcases shortcutSwitch_cases switched with
      ⟨target, found, requested⟩ | ⟨missing, rfl⟩
    · by_cases emitted : middle.emitted = []
      · refine .inl ⟨fun loses => reported.mpr loses.reported emitted, ?_⟩
        exact fresh_requestSwitch target _ _ done after emitted requested
      · refine .inr ⟨⟨triggers, ?_, reported.mp emitted⟩, middle.emitted.length,
          List.length_pos_of_ne_nil emitted, ?_⟩
        · rw [← sameHosts, found]
          rfl
        · exact short_requestSwitch _ target _ _ done after rfl requested
    · refine .inl ⟨fun loses => ?_, order⟩
      have switches := loses.switches
      rw [← sameHosts, missing] at switches
      cases switches
  · refine .inl ⟨fun loses => ?_, order⟩
    rw [loses.triggers] at quiet
    cases quiet

theorem fresh_core (events : Nat)
    (other : ∀ frame, input ≠ .bridgeEvent (.inputFrame frame)) :
    Leads Fresh (@handleInputCoreInPlace capacity .single actions events input)
      AllDispatched := by
  cases input with
  | bridgeEvent event =>
      have handled : Leads Fresh (do
          handleBridgeEvent .single actions event
          InPlace.when (false = true) do
            handleShortcutTargetSwitch .single actions
              (← readRuntime).nowMs : RuntimeM capacity Unit)
          AllDispatched :=
        leads_bind (fresh_handle event) fun _ =>
          leads_when nofun fun _ _ order => order
      cases event with
      | inputFrame frame => exact absurd rfl (other frame)
      | _ => exact fun before done after start finished =>
          handled before done after start finished
  | buttonIntent intent nowMs => exact fresh_button intent nowMs
  | managementRequest destination request nowMs =>
      exact fresh_management destination request nowMs
  | tick nowMs => exact fresh_tick nowMs
  | bleHostEvent hostId event => exact fresh_bleHost events hostId event
  | usbHidInterfaceConnected interfaceId deviceId ledOutput =>
      exact fresh_register interfaceId deviceId ledOutput
  | usbHidInterfaceDisconnected interfaceId =>
      exact fresh_unregister interfaceId
  | usbDeviceMetadataUpdated deviceId identity name flags =>
      exact fresh_metadata deviceId identity name flags
  | hostNameDiscovered hostId name => exact fresh_hostName hostId name
  | diagnosticsEvent event => exact fresh_quietly _
  | storageHealthChanged health => exact fresh_quietly _
  | restoreStorage storage => exact fresh_restore storage

/-- Every action of the bridge becomes one command, in order, unless the input
is a reported frame that completes the shortcut for a host to switch to. -/
theorem actions_dispatched_in_order {events : Nat} {runtime : BridgeRuntime}
    {input : RuntimeInput .single} {work : RuntimeWork capacity}
    (handled : runtime.handleInput .single actions events capacity input =
      .ok work) :
    Dispatched work.emitted work.commands.toList ↔
      ∀ frame, input = .bridgeEvent (.inputFrame frame) →
        ¬ LosesReports runtime frame := by
  obtain ⟨done, middle, core, power⟩ :=
    succeeds_bind.mp (handleInput_ok handled)
  by_cases framed : ∃ frame, input = .bridgeEvent (.inputFrame frame)
  · obtain ⟨frame, rfl⟩ := framed
    rcases frameInput_order core with ⟨kept, order⟩ | ⟨loses, lost, some, short⟩
    · refine ⟨fun _ other same => ?_, fun _ => ?_⟩
      · cases same
        exact kept
      · exact order_power middle () work order power
    · refine ⟨fun order => ?_, fun kept => absurd loses (kept frame rfl)⟩
      have ended := short_power middle () work short power
      exact absurd order (ended.not_dispatched some)
  · refine ⟨fun _ frame same => absurd ⟨frame, same⟩ framed, fun _ => ?_⟩
    have order := fresh_core events (fun frame same => framed ⟨frame, same⟩)
      _ done middle (fresh_start _ _) core
    exact order_power middle () work order power

open RuntimeScenario in
theorem single_key_dispatched :
    ∃ work : RuntimeWork 17, (final shortcutSet).handleInput .single 16 2 17
        (.bridgeEvent (.inputFrame (keyboardFrame 0 4))) = .ok work ∧
      Dispatched work.emitted work.commands.toList := by
  obtain ⟨work, handled, -⟩ := handled
    (by decide +kernel : ((final shortcutSet).handleInput .single
      runtimeBridgeActionCapacity runtimeBleEventCapacity
      runtimeCommandCapacity
      (.bridgeEvent (.inputFrame (keyboardFrame 0 4)))).isOk = true)
  refine ⟨work, handled, (actions_dispatched_in_order handled).mpr ?_⟩
  intro frame same loses
  cases same
  have quiet : (final shortcutSet).inputFrameWouldTriggerShortcut
      (keyboardFrame 0 4) = false := by decide +kernel
  have triggers := loses.triggers
  rw [quiet] at triggers
  cases triggers

open RuntimeScenario in
/-- The frame that completes the shortcut is reported to the active host, and
the delayed switch drops the report from the command list. -/
theorem shortcut_drops_report :
    RuntimeReachable .single (final shortcutSet) ∧
      ∃ work : RuntimeWork 17, (final shortcutSet).handleInput .single 16 2 17
          (.bridgeEvent (.inputFrame chord)) = .ok work ∧
        work.emitted.length = 1 ∧ work.commands.toList = [] ∧
          ¬ Dispatched work.emitted work.commands.toList := by
  refine ⟨reachable _, ?_⟩
  have seen : ((final shortcutSet).handleInput .single 16 2 17
      (.bridgeEvent (.inputFrame chord))).toOption.map
        (fun work => (work.emitted.length, work.commands.toList)) =
      some (1, []) := by decide +kernel
  cases ran : (final shortcutSet).handleInput .single 16 2 17
      (.bridgeEvent (.inputFrame chord)) with
  | error error =>
      rw [ran] at seen
      cases seen
  | ok work =>
      rw [ran] at seen
      obtain ⟨emitted, commands⟩ := Prod.mk.inj (Option.some.inj seen)
      refine ⟨work, rfl, emitted, commands, fun dispatched => ?_⟩
      have bound := dispatched.length_le
      rw [emitted, commands] at bound
      cases bound

end HidShift
