import Mathlib.Logic.Relation
import HidShift.Bridge.NextTarget
import HidShift.Lib.Triple

/-! The smallest things an event does to the bridge.  However an event ends,
what it did is a sequence of these moves, so an invariant of the moves is an
invariant of every event. -/

namespace HidShift

open Lib InPlace

variable {actions : Nat} {build : Build}

def BridgeEvent.Names : BridgeEvent build → HostId → Prop
  | .hostConnected named, hostId | .hostSecurityChanged named _ _ _, hostId
  | .cccdChanged named _ _, hostId | .hostKeyboardLedChanged named _, hostId
  | .setHostName named _, hostId | .switchTarget named, hostId =>
      named = hostId
  | .selectOutputTarget target, hostId => target = .ble hostId
  | _, _ => False

def BridgeEvent.Reports : BridgeEvent build → OutputTargetAvailability → Prop
  | .wiredAvailabilityChanged reported, availability =>
      reported = availability
  | _, _ => False

/-- A host that an event may write an entry for: one it is about, or one that
is in the table already. -/
def Touches (event : BridgeEvent build) (bridge : BridgeState)
    (hostId : HostId) : Prop :=
  event.Names hostId ∨ ∃ host, bridge.hosts.host hostId = some host

structure SameTables (bridge next : BridgeState) : Prop where
  inputDevices : next.inputDevices = bridge.inputDevices
  hosts : next.hosts = bridge.hosts
  outputTarget : next.outputTarget = bridge.outputTarget
  wiredAvailability : next.wiredAvailability = bridge.wiredAvailability
  wiredBleHost : next.wiredBleHost = bridge.wiredBleHost

inductive BridgeUpdate (event : BridgeEvent build) (bridge : BridgeState) :
    BridgeState → Prop
  | scratch {next : BridgeState} (same : SameTables bridge next) :
      BridgeUpdate event bridge next
  | frame {frame : StandardInputFrame} {prepared : PreparedInputFrame}
      {next : BridgeState} (carried : event = .inputFrame (.standard frame))
      (preparation : bridge.inputDevices.prepareFrame frame = .ok prepared)
      (same : SameTables { bridge with
        inputDevices := bridge.inputDevices.commitFrame prepared } next) :
      BridgeUpdate event bridge next
  | removal {inputDevices : InputAggregator}
      (removed : Removal bridge.inputDevices event inputDevices) :
      BridgeUpdate event bridge { bridge with inputDevices := inputDevices }
  | store {hostId : HostId} {index : Nat} {host stored : HostRuntimeState}
      (touched : Touches event bridge hostId)
      (upserted : bridge.hosts.upsertHost hostId = .ok (index, host))
      (keyed : stored.hostId = hostId) :
      BridgeUpdate event bridge { bridge with
        hosts := bridge.hosts.storeHost index stored }
  | activate {hostId : HostId} {hosts : BleHostStateMachine}
      (touched : Touches event bridge hostId)
      (activated : bridge.hosts.setActiveTarget hostId = .ok hosts) :
      BridgeUpdate event bridge { bridge with hosts := hosts }
  | disconnect {hostId : HostId} (named : event = .hostDisconnected hostId) :
      BridgeUpdate event bridge { bridge with
        hosts := bridge.hosts.onDisconnected hostId }
  | forget {hostId : HostId} (named : event = .clearHost hostId) :
      BridgeUpdate event bridge (bridge.forgetHost build hostId)
  | deactivate : BridgeUpdate event bridge { bridge with
      hosts := bridge.hosts.clearActiveTarget }
  | refresh : BridgeUpdate event bridge
      bridge.refreshSelectedTargetAvailability
  | select {target : OutputTarget} {outputTarget : OutputTargetState}
      {operationId : UInt32}
      (selected : bridge.outputTarget.select target =
        .ok (outputTarget, operationId)) :
      BridgeUpdate event bridge { bridge with outputTarget := outputTarget }
  | wired {availability : OutputTargetAvailability}
      (reported : event.Reports availability) :
      BridgeUpdate event bridge { bridge with
        wiredAvailability := availability
        outputTarget := if bridge.outputTarget.selected = .wired then
            bridge.outputTarget.setAvailability availability
          else
            bridge.outputTarget }

def Emits (bridge : BridgeState) : BridgeAction → Prop
  | .notify .wired _ _ => bridge.outputTarget.active = some .wired ∨
      bridge.outputTarget.selected = .wired ∧
        bridge.wiredAvailability = .ready
  | .activateInput hostId => ∃ host, bridge.hosts.host hostId = some host
  | _ => True

inductive BridgeMove (event : BridgeEvent build) (work : BridgeWork actions) :
    BridgeWork actions → Prop
  | push {action : BridgeAction} {out : BoundedVec BridgeAction actions}
      (emits : Emits work.bridge action)
      (pushed : work.out.push? action = some out) :
      BridgeMove event work { work with out := out }
  | update {bridge : BridgeState}
      (updated : BridgeUpdate event work.bridge bridge) :
      BridgeMove event work { work with bridge := bridge }

abbrev BridgeMoves (event : BridgeEvent build) (before : BridgeWork actions) :
    BridgeWork actions → Prop :=
  Relation.ReflTransGen (BridgeMove event) before

theorem BridgeMoves.onBridge {event : BridgeEvent build}
    {before after : BridgeWork actions} (moves : BridgeMoves event before after)
    {invariant : BridgeState → Prop} (initially : invariant before.bridge)
    (kept : ∀ bridge next, BridgeUpdate event bridge next →
      invariant bridge → invariant next) : invariant after.bridge := by
  induction moves with
  | refl => exact initially
  | tail _ move ih =>
      cases move with
      | push emits pushed => exact ih
      | update updated => exact kept _ _ updated ih

/-- Wherever the program starts from, it moves; what it then knows of the
bridge goes from one condition to the other. -/
def Moves {α : Type} (event : BridgeEvent build) (pre : BridgeState → Prop)
    (program : BridgeM actions α) (post : α → BridgeState → Prop) : Prop :=
  ∀ start, Triple (fun work => BridgeMoves event start work ∧ pre work.bridge)
    program (fun value work => BridgeMoves event start work ∧
      post value work.bridge) (BridgeMoves event start)

section

variable {event : BridgeEvent build} {pre : BridgeState → Prop} {α β : Type}

theorem moves_pure (holds : ∀ bridge, pre bridge → post value bridge) :
    Moves event pre (pure value : BridgeM actions α) post :=
  fun _ => triple_pure fun work reached =>
    ⟨reached.1, holds work.bridge reached.2⟩

variable {post : β → BridgeState → Prop}

theorem moves_bind (firstMoves : Moves event pre first middle)
    (secondMoves : ∀ value, Moves event (middle value) (second value) post) :
    Moves event pre (first >>= second) post :=
  fun start => triple_bind (firstMoves start) fun value =>
    secondMoves value start

theorem moves_get_bind {second : BridgeWork actions → BridgeM actions β}
    (read : ∀ work, pre work.bridge → Moves event (· = work.bridge) (second
      work) post) :
    Moves event pre (get >>= second) post := by
  intro start
  apply triple_get_bind
  rintro work ⟨reached, holds⟩
  apply triple_weaken (read work holds start)
  · rintro _ rfl
    exact ⟨reached, rfl⟩
  · exact fun _ _ ended => ended
  · exact fun _ stopped => stopped

theorem moves_lift_bind {ε : Type} {convert : ε → BridgeError}
    {result : Except ε α} {second : α → BridgeM actions β}
    (finished : ∀ value, result = .ok value → Moves event pre (second value)
      post) :
    Moves event pre (InPlace.lift convert result >>= second) post := by
  intro start
  apply triple_lift_bind
  · exact fun value done => finished value done start
  · exact fun _ _ _ reached => reached.1

theorem moves_ite [Decidable condition]
    (taken : condition → Moves event pre positive post)
    (skipped : ¬ condition → Moves event pre negative post) :
    Moves event pre (if condition then positive else negative) post := by
  split
  · exact taken ‹_›
  · exact skipped ‹_›

theorem moves_when {condition : Prop} [Decidable condition]
    {program : BridgeM actions Unit} {post : Unit → BridgeState → Prop}
    (taken : condition → Moves event pre program post)
    (skipped : ¬ condition → ∀ bridge, pre bridge → post () bridge) :
    Moves event pre (InPlace.when condition program) post :=
  moves_ite taken fun otherwise => moves_pure (skipped otherwise)

theorem moves_weaken (moves : Moves event pre program post)
    (before : ∀ bridge, pre' bridge → pre bridge)
    (after : ∀ value bridge, post value bridge → post' value bridge) :
    Moves event pre' program post' := by
  intro start
  apply triple_weaken (moves start)
  · exact fun work reached => ⟨reached.1, before work.bridge reached.2⟩
  · exact fun value work reached => ⟨reached.1, after value _ reached.2⟩
  · exact fun _ stopped => stopped

theorem moves_modifyBridge {update : BridgeState → BridgeState}
    {post : Unit → BridgeState → Prop}
    (updated : ∀ bridge, pre bridge → BridgeUpdate event bridge (update bridge))
    (holds : ∀ bridge, pre bridge → post () (update bridge)) :
    Moves event pre (@modifyBridge actions update) post := by
  intro start
  apply triple_modify
  rintro work ⟨reached, known⟩
  exact ⟨reached.tail (.update (updated work.bridge known)),
    holds work.bridge known⟩

theorem moves_pushAction (emits : ∀ bridge, pre bridge → Emits bridge action) :
    Moves event pre (@pushAction actions action) fun _ => pre := by
  intro start
  apply triple_get_bind
  rintro work ⟨reached, known⟩
  cases pushed : work.out.push? action with
  | none =>
      apply triple_throw
      rintro _ rfl
      exact reached
  | some out =>
      have stored : BridgeMoves event start { work with out := out } :=
        reached.tail (.push (emits work.bridge known) pushed)
      intro before same
      cases same
      exact stops_of_ok rfl ⟨stored, known⟩

theorem moves_pushActions
    (emits : ∀ bridge, pre bridge → ∀ action ∈ list, Emits bridge action) :
    Moves event pre (@pushActions actions list) fun _ => pre := by
  induction list with
  | nil => exact moves_pure fun _ known => known
  | cons head tail ih =>
      refine moves_bind (moves_pushAction fun bridge known => ?_) fun _ => ih ?_
      · exact emits bridge known head List.mem_cons_self
      · intro bridge known action member
        exact emits bridge known action (List.mem_cons_of_mem _ member)

theorem moves_pushFrom {emit : BridgeState → List BridgeAction}
    (emits : ∀ bridge, pre bridge → ∀ action ∈ emit bridge,
      Emits bridge action) :
    Moves event pre (@pushFrom actions emit) fun _ => pre := by
  apply moves_get_bind
  intro work known
  have pushed : Moves event (· = work.bridge)
      (@pushActions actions (emit work.bridge))
      fun _ bridge => bridge = work.bridge := by
    apply moves_pushActions
    rintro _ rfl
    exact emits work.bridge known
  apply moves_weaken pushed
  · exact fun _ same => same
  · rintro _ _ rfl
    exact known

theorem moves_pushStatus :
    Moves event pre (@pushStatus actions) fun _ => pre := by
  apply moves_pushFrom
  intro bridge known action member
  cases List.mem_singleton.mp member
  exact trivial

end

section

variable {bridge : BridgeState}

theorem emits_ready (ready : bridge.readyActiveTarget build kind = some target)
    (report : StandardHidReport) (reason : NotifyReason) :
    Emits bridge (.notify target report reason) := by
  cases target with
  | ble hostId => exact trivial
  | wired =>
      refine .inl ?_
      unfold BridgeState.readyActiveTarget at ready
      split at ready
      · split at ready
        · cases ready
        · assumption
        · split at ready <;> cases ready
      · split at ready
        · cases ready
        · split at ready <;> cases ready

theorem FrameApplied.emits
    (applied : FrameApplied build bridge aggregate frame input suppression
      out) : ∀ action ∈ out, Emits bridge action := by
  apply applied.ofParts
  · intro first second early late
    exact List.forall_mem_append.mpr ⟨early, late⟩
  · intro kind carried part reported action member
    cases reported with
    | none => cases member
    | one ready =>
        cases List.mem_singleton.mp member
        exact emits_ready ready _ _

variable {reason : NotifyReason}

theorem emits_notifyIf {report : StandardHidReport} :
    ∀ action ∈ BridgeState.notifyIf condition (.ble hostId) report reason,
      Emits bridge action := by
  intro action member
  unfold BridgeState.notifyIf at member
  split at member
  · cases List.mem_singleton.mp member
    exact trivial
  · cases member

theorem emits_releaseReports :
    ∀ action ∈ bridge.releaseReports hostId reason, Emits bridge action := by
  intro action member
  rcases List.mem_append.mp member with keyboard | later
  · exact emits_notifyIf action keyboard
  · rcases List.mem_append.mp later with mouse | consumer
    · exact emits_notifyIf action mouse
    · exact emits_notifyIf action consumer

theorem emits_neutralReports
    (usable : bridge.outputTarget.active = some .wired ∨
      bridge.outputTarget.selected = .wired ∧ bridge.wiredAvailability = .ready) :
    ∀ action ∈ BridgeState.neutralReports .wired reason,
      Emits bridge action := by
  intro action member
  simp only [BridgeState.neutralReports, List.mem_cons, List.not_mem_nil,
    or_false] at member
  rcases member with rfl | rfl | rfl <;> exact usable

theorem emits_releaseActive
    (usable : active = some .wired → bridge.outputTarget.active = some .wired) :
    ∀ action ∈ bridge.releaseActive active releasePrevious,
      Emits bridge action := by
  intro action member
  unfold BridgeState.releaseActive at member
  split at member
  · rename_i target reason
    cases target with
    | ble hostId => exact emits_releaseReports action member
    | wired => exact emits_neutralReports (.inl (usable rfl)) action member
  · cases member

theorem emits_usbKeyboardLeds :
    ∀ action ∈ bridge.usbKeyboardLeds leds, Emits bridge action := by
  intro action member
  obtain ⟨sink, -, rfl⟩ := List.mem_map.mp member
  exact trivial

theorem emits_activeHostLeds :
    ∀ action ∈ bridge.activeHostLeds build, Emits bridge action := by
  intro action member
  unfold BridgeState.activeHostLeds at member
  split at member
  · exact emits_usbKeyboardLeds action member
  · split at member
    · cases member
    · exact emits_usbKeyboardLeds action member

theorem emits_wiredReset
    (usable : availability = .ready → bridge.outputTarget.selected = .wired ∧
      bridge.wiredAvailability = .ready) :
    ∀ action ∈ bridge.wiredReset availability, Emits bridge action := by
  intro action member
  unfold BridgeState.wiredReset at member
  split at member
  · rename_i ready
    rcases List.mem_append.mp member with neutral | leds
    · exact emits_neutralReports (.inr (usable ready)) action neutral
    · exact emits_usbKeyboardLeds action leds
  · cases member

end

abbrev MovesFreely {α : Type} (event : BridgeEvent build)
    (program : BridgeM actions α) : Prop :=
  Moves event (fun _ => True) program fun _ _ => True

section

variable {event : BridgeEvent build} {pre : BridgeState → Prop}

theorem moves_updateBridge (updated : ∀ bridge, pre bridge →
      BridgeUpdate event bridge (update bridge)) :
    Moves event pre (@modifyBridge actions update) fun _ _ => True :=
  moves_modifyBridge updated fun _ _ => trivial

theorem moves_scratch (same : ∀ bridge, SameTables bridge (update bridge)) :
    MovesFreely event (@modifyBridge actions update) :=
  moves_updateBridge fun bridge _ => .scratch (same bridge)

theorem BridgeState.captured_sameTables (bridge : BridgeState) :
    SameTables bridge bridge.captured :=
  ⟨rfl, rfl, rfl, rfl, rfl⟩

theorem moves_capture {post : Unit → BridgeState → Prop}
    (holds : ∀ bridge, pre bridge → post () bridge.captured) :
    Moves event pre (@capture actions) post := by
  apply moves_get_bind
  intro work known
  rw [captureSuppression_eq]
  apply moves_lift_bind
  intro captured done
  cases done
  apply moves_modifyBridge
  · rintro _ rfl
    exact .scratch work.bridge.captured_sameTables
  · rintro _ rfl
    exact holds work.bridge known

theorem moves_refreshAvailability :
    MovesFreely event (@refreshAvailability actions build) := by
  cases build with
  | single => exact moves_pure fun _ _ => trivial
  | dual => exact moves_updateBridge fun _ _ => .refresh

def StoresHost {α : Type} (hostId : HostId)
    (operation : BleHostStateMachine →
      Except HostStateError (BleHostStateMachine × α)) : Prop :=
  ∀ machine hosts value, operation machine = .ok (hosts, value) →
    ∃ index host stored, machine.upsertHost hostId = .ok (index, host) ∧
      hosts = machine.storeHost index stored ∧ stored.hostId = hostId

theorem moves_storeHost {α : Type} {hostId : HostId}
    {operation : BleHostStateMachine →
      Except HostStateError (BleHostStateMachine × α)}
    (stores : StoresHost hostId operation) (named : event.Names hostId) :
    MovesFreely event (updateHosts operation : BridgeM actions α) := by
  apply moves_get_bind
  intro work _
  apply moves_lift_bind
  rintro ⟨hosts, value⟩ done
  obtain ⟨index, host, stored, upserted, rfl, keyed⟩ :=
    stores work.bridge.hosts hosts value done
  have moved : Moves event (· = work.bridge)
      (@modifyBridge actions fun bridge => { bridge with
        hosts := work.bridge.hosts.storeHost index stored }) fun _ _ => True := by
    apply moves_updateBridge
    rintro _ rfl
    exact .store (.inl named) upserted keyed
  exact moves_bind moved fun _ => moves_pure fun _ _ => trivial

theorem moves_of_extend {work : BridgeWork actions}
    {out : BoundedVec BridgeAction actions}
    (emits : ∀ action ∈ list, Emits work.bridge action)
    (lists : out.toList = work.out.toList ++ list) :
    BridgeMoves event work { work with out := out } := by
  induction list generalizing work with
  | nil =>
      have same : out = work.out :=
        BoundedVec.ext (lists.trans (List.append_nil _))
      rw [same]
  | cons head tail ih =>
      have room : (work.out.toList ++ [head]).length ≤ actions := by
        have bound := out.length_le
        rw [lists, List.length_append, List.length_cons] at bound
        rw [List.length_append, List.length_singleton]
        omega
      have pushed : work.out.push? head =
          some ⟨work.out.toList ++ [head], room⟩ :=
        BoundedVec.push?_eq_some.mpr rfl
      have rest : BridgeMoves event
          { work with out := ⟨work.out.toList ++ [head], room⟩ }
          { work with out := out } := by
        apply ih
        · exact fun action member =>
            emits action (List.mem_cons_of_mem _ member)
        · rw [lists, List.append_assoc]
          rfl
      exact .head (.push (emits head List.mem_cons_self) pushed) rest

theorem moves_handleInputFrame (frame : InputFrame) :
    MovesFreely (.inputFrame frame : BridgeEvent build)
      (@handleInputFrame actions build frame) := by
  cases frame with
  | vendor =>
      unfold handleInputFrame
      exact moves_scratch fun _ => ⟨rfl, rfl, rfl, rfl, rfl⟩
  | standard frame =>
      rintro start work ⟨reached, -⟩
      refine ⟨fun _ after finished => ⟨?_, trivial⟩, fun _ after failed => ?_⟩
      · change Succeeds (handleStandardInputFrame build frame) _ _ _ at finished
        simp only [handleStandardInputFrame, succeeds_bind, succeeds_get,
          succeeds_lift, succeeds_set] at finished
        obtain ⟨_, _, ⟨rfl, rfl⟩, prepared, _, ⟨preparation, rfl⟩, next, _,
          ⟨framed, rfl⟩, rfl⟩ := finished
        obtain ⟨list, applied, out⟩ := frameInput_spec framed
        have pushed : BridgeMoves
            (.inputFrame (.standard frame) : BridgeEvent build) work
            { work with out := next.out } := moves_of_extend applied.emits out
        exact (reached.trans pushed).tail (.update
          (.frame rfl preparation ⟨rfl, rfl, rfl, rfl, rfl⟩))
      · rw [handleInputFrame_error failed]
        exact reached

theorem moves_setActiveTarget {target : HostId} :
    Moves event (Touches event · target)
      (updateHosts fun hosts => (·, ()) <$> hosts.setActiveTarget target :
        BridgeM actions Unit)
      fun _ bridge => ∃ host, bridge.hosts.host target = some host := by
  apply moves_get_bind
  intro work touched
  apply moves_lift_bind
  rintro ⟨hosts, _⟩ done
  obtain ⟨_, activated, same⟩ := map_eq_ok.mp done
  cases same
  have moved : Moves event (· = work.bridge)
      (@modifyBridge actions fun bridge => { bridge with hosts := hosts })
      fun _ bridge => ∃ host, bridge.hosts.host target = some host := by
    obtain ⟨host, stored⟩ :=
      BleHostStateMachine.setActiveTarget_host activated
    apply moves_modifyBridge
    · rintro _ rfl
      exact .activate touched activated
    · rintro _ rfl
      exact ⟨host, (stored target).trans (if_pos rfl)⟩
  exact moves_bind moved fun _ => moves_pure fun _ known => known

theorem moves_transitionBleTarget (target : HostId)
    (releasePrevious : Option NotifyReason) :
    Moves event (Touches event · target)
      (transitionBleTarget target releasePrevious : BridgeM actions Bool)
      fun _ _ => True := by
  apply moves_get_bind
  intro work touched
  apply moves_ite
  · exact fun _ => moves_pure fun _ _ => trivial
  · intro _
    refine moves_bind (moves_pushActions ?_) fun _ => ?_
    · rintro _ rfl
      apply emits_releaseActive
      intro impossible
      cases active : work.bridge.hosts.activeTarget <;>
        simp [active] at impossible
    refine moves_bind (moves_capture ?_) fun _ =>
      moves_bind moves_setActiveTarget fun _ => ?_
    · rintro _ rfl
      exact touched
    refine moves_bind (moves_pushAction fun _ active => active) fun _ => ?_
    refine moves_bind (moves_pushFrom fun _ _ => emits_activeHostLeds) fun _ =>
      moves_bind (moves_pushAction fun _ _ => trivial) fun _ => ?_
    exact moves_pure fun _ _ => trivial

def TargetTouched (event : BridgeEvent build) (target : OutputTarget)
    (bridge : BridgeState) : Prop :=
  ∀ hostId, target = .ble hostId → Touches event bridge hostId

theorem moves_selectTarget (target : OutputTarget) :
    Moves event (TargetTouched event target)
      (selectTarget target : BridgeM actions UInt32)
      fun _ bridge => bridge.outputTarget.selected = target ∧
        TargetTouched event target bridge := by
  apply moves_get_bind
  intro work touched
  apply moves_lift_bind
  rintro ⟨outputTarget, operationId⟩ selected
  have moved : Moves event (· = work.bridge)
      (@modifyBridge actions fun bridge =>
        { bridge with outputTarget := outputTarget })
      fun _ bridge => bridge.outputTarget.selected = target ∧
        TargetTouched event target bridge := by
    apply moves_modifyBridge
    · rintro _ rfl
      exact .select selected
    · rintro _ rfl
      exact ⟨OutputTargetState.select_eq_ok selected, touched⟩
  exact moves_bind moved fun _ => moves_pure fun _ known => known

theorem moves_activateTarget (operationId : UInt32) (target : OutputTarget) :
    Moves event (fun bridge => bridge.outputTarget.selected = target ∧
        TargetTouched event target bridge)
      (@activateTarget actions operationId target)
      fun _ _ => True := by
  cases target with
  | wired =>
      have deactivated : Moves event
          (fun bridge => bridge.outputTarget.selected = .wired ∧
            TargetTouched event .wired bridge)
          (@modifyBridge actions fun bridge => { bridge with
            hosts := bridge.hosts.clearActiveTarget })
          fun _ bridge => bridge.outputTarget.selected = .wired :=
        moves_modifyBridge (fun _ _ => .deactivate) fun _ known => known.1
      have refreshed : Moves event
          (fun bridge => bridge.outputTarget.selected = .wired)
          (@modifyBridge actions fun bridge => { bridge with
            outputTarget := bridge.outputTarget.setAvailability
              bridge.wiredAvailability })
          fun _ bridge => bridge.outputTarget.selected = .wired := by
        refine moves_modifyBridge (fun bridge selected => ?_) fun _ known => known
        have updated : BridgeUpdate event bridge
            bridge.refreshSelectedTargetAvailability := .refresh
        rw [BridgeState.refreshSelectedTargetAvailability,
          BridgeState.selectedTargetAvailability, selected] at updated
        exact updated
      refine moves_bind deactivated fun _ =>
        moves_bind (moves_pushAction fun _ _ => trivial) fun _ =>
          moves_bind refreshed fun _ => ?_
      refine moves_weaken (moves_pushFrom fun bridge selected => ?_)
        (fun _ known => known) fun _ _ _ => trivial
      exact emits_wiredReset fun ready => ⟨selected, ready⟩
  | ble hostId =>
      have start : ∀ bridge : BridgeState,
          bridge.outputTarget.selected = .ble hostId ∧
            TargetTouched event (.ble hostId) bridge →
          Touches event bridge hostId :=
        fun _ known => known.2 hostId rfl
      refine moves_bind (moves_weaken moves_setActiveTarget start
        fun _ _ known => known) fun _ => ?_
      refine moves_bind (moves_pushAction fun _ _ => trivial) fun _ =>
        moves_bind (moves_pushAction fun _ active => active) fun _ => ?_
      refine moves_bind (moves_pushFrom fun _ _ => emits_activeHostLeds)
        fun _ => ?_
      exact moves_updateBridge fun _ _ => .refresh

theorem moves_transitionOutputTarget (target : OutputTarget)
    (releasePrevious : Option NotifyReason) :
    Moves event (TargetTouched event target)
      (@transitionOutputTarget actions target releasePrevious)
      fun _ _ => True := by
  refine moves_lift_bind fun _ _ => moves_get_bind fun work touched => ?_
  apply moves_ite
  · exact fun _ => moves_weaken moves_pushStatus (fun _ known => known)
      fun _ _ _ => trivial
  · intro _
    refine moves_bind (moves_pushActions ?_) fun _ => ?_
    · rintro _ rfl
      exact emits_releaseActive fun same => same
    refine moves_bind (moves_capture ?_) fun _ =>
      moves_bind (moves_selectTarget target) fun operationId => ?_
    · rintro _ rfl
      exact touched
    refine moves_bind (moves_activateTarget operationId target) fun _ =>
      moves_bind (moves_pushAction fun _ _ => trivial) fun _ => moves_pushStatus

theorem moves_switchTarget (target : HostId) :
    MovesFreely (.switchTarget target : BridgeEvent build)
      (@switchTarget actions build target) := by
  have named : ∀ bridge, Touches (.switchTarget target : BridgeEvent build)
      bridge target := fun _ => .inl rfl
  cases build with
  | dual =>
      refine moves_weaken (moves_transitionOutputTarget _ _)
        (fun bridge _ hostId same => ?_) fun _ _ _ => trivial
      cases same
      exact named bridge
  | single =>
      refine moves_bind (moves_weaken (moves_transitionBleTarget _ _)
        (fun bridge _ => named bridge) fun _ _ known => known) fun _ => ?_
      exact moves_pushStatus

theorem moves_wiredAvailabilityChanged
    (availability : OutputTargetAvailability) :
    MovesFreely (.wiredAvailabilityChanged availability)
      (@wiredAvailabilityChanged actions availability) := by
  intro start
  apply triple_of_state
  rintro work ⟨reached, -⟩
  have moved : BridgeMoves (.wiredAvailabilityChanged availability) start
      { work with bridge := { work.bridge with
        wiredAvailability := availability
        outputTarget := if work.bridge.outputTarget.selected = .wired then
            work.bridge.outputTarget.setAvailability availability
          else
            work.bridge.outputTarget } } :=
    reached.tail (.update (.wired rfl))
  have stored : Triple (· = work)
      (@modifyBridge actions fun bridge =>
        { bridge with wiredAvailability := availability })
      (fun _ state => state = { work with bridge := { work.bridge with
        wiredAvailability := availability } })
      (BridgeMoves (.wiredAvailabilityChanged availability) start) := by
    apply triple_modify
    rintro _ rfl
    rfl
  refine triple_bind stored fun _ => triple_get_bind ?_
  rintro _ rfl
  have status : MovesFreely (.wiredAvailabilityChanged availability)
      (@pushStatus actions) := moves_pushStatus
  refine triple_bind ?_ fun _ => status start
  apply triple_when
  · intro selected
    rw [if_pos selected] at moved
    have updated : Triple (· = { work with bridge := { work.bridge with
          wiredAvailability := availability } })
        (@modifyBridge actions fun bridge => { bridge with
          outputTarget := bridge.outputTarget.setAvailability availability })
        (fun _ state => BridgeMoves (.wiredAvailabilityChanged availability)
            start state ∧ state.bridge.outputTarget.selected = .wired ∧
              state.bridge.wiredAvailability = availability)
        (BridgeMoves (.wiredAvailabilityChanged availability) start) := by
      apply triple_modify
      rintro _ rfl
      exact ⟨moved, selected, rfl⟩
    have reset : Moves (.wiredAvailabilityChanged availability)
        (fun bridge => bridge.outputTarget.selected = .wired ∧
          bridge.wiredAvailability = availability)
        (@pushFrom actions (·.wiredReset availability))
        fun _ bridge => bridge.outputTarget.selected = .wired ∧
          bridge.wiredAvailability = availability :=
      moves_pushFrom fun bridge known => emits_wiredReset fun ready =>
        ⟨known.1, known.2.trans ready⟩
    refine triple_bind updated fun _ => triple_weaken (reset start) ?_ ?_ ?_
    · exact fun _ known => known
    · exact fun _ _ ended => ⟨ended.1, trivial⟩
    · exact fun _ stopped => stopped
  · rintro otherwise _ rfl
    rw [if_neg otherwise] at moved
    exact ⟨moved, trivial⟩

theorem moves_fallBack (shouldFallback : Bool) (hostId : HostId) :
    MovesFreely event (@fallBack actions build shouldFallback hostId) := by
  apply moves_get_bind
  intro work _
  have status : Moves event (· = work.bridge)
      (@pushStatus actions) fun _ _ => True :=
    moves_weaken moves_pushStatus (fun _ _ => trivial) fun _ _ known => known
  dsimp only
  cases shouldFallback with
  | false => cases build <;> exact status
  | true =>
      cases build with
      | single =>
          cases found : work.bridge.hosts.nextReadyTargetAfter (some hostId)
              .keyboard with
          | none => exact status
          | some target =>
              have touched : ∀ bridge, bridge = work.bridge →
                  Touches event bridge target := by
                rintro _ rfl
                exact .inr
                  (BleHostStateMachine.nextReadyTargetAfter_present found)
              exact moves_bind (moves_weaken
                (moves_transitionBleTarget target none) touched
                fun _ _ known => known) fun _ => moves_pushStatus
      | dual =>
          cases found : work.bridge.nextReadyOutputTarget with
          | none => exact status
          | some target =>
              refine moves_weaken (moves_transitionOutputTarget target none) ?_
                fun _ _ known => known
              rintro _ rfl host rfl
              have ready : work.bridge.canSend host .keyboard = true :=
                nextReadyOutputTarget_ready found
              obtain ⟨entry, stored, -⟩ := (Option.any_eq_true _ _).mp ready
              exact .inr ⟨entry, stored⟩

section

variable (hostId : HostId)

theorem moves_hostDisconnected :
    MovesFreely (.hostDisconnected hostId : BridgeEvent build)
      (@hostDisconnected actions build hostId) := by
  apply moves_get_bind
  intro work _
  have disconnected : MovesFreely (.hostDisconnected hostId : BridgeEvent build)
      (@modifyBridge actions fun bridge =>
        { bridge with hosts := bridge.hosts.onDisconnected hostId }) :=
    moves_updateBridge fun _ _ => .disconnect rfl
  refine moves_bind (moves_weaken disconnected (fun _ _ => trivial)
    fun _ _ known => known) fun _ => ?_
  exact moves_bind moves_refreshAvailability fun _ => moves_fallBack _ _

theorem moves_withdrawPairing :
    MovesFreely event (@withdrawPairing actions hostId) := by
  apply moves_get_bind
  intro work _
  apply moves_weaken _ (fun _ _ => trivial) fun _ _ known => known
  refine moves_when (fun _ => ?_) fun _ _ known => known
  refine moves_bind (moves_scratch fun _ => ⟨rfl, rfl, rfl, rfl, rfl⟩) fun _ =>
    moves_pushAction fun _ _ => trivial

theorem moves_enterPairingMode :
    MovesFreely event (@enterPairingMode actions hostId) := by
  apply moves_get_bind
  intro work _
  apply moves_weaken _ (fun _ _ => trivial) fun _ _ known => known
  refine moves_bind (moves_scratch fun _ => ⟨rfl, rfl, rfl, rfl, rfl⟩) fun _ =>
    moves_bind (moves_pushActions fun _ _ action member => ?_) fun _ =>
      moves_bind (moves_pushAction fun _ _ => trivial) fun _ => moves_pushStatus
  obtain ⟨rejected, -, rfl⟩ := List.mem_map.mp member
  exact trivial

theorem moves_expirePairingMode :
    MovesFreely event (@expirePairingMode actions hostId) := by
  apply moves_get_bind
  intro work _
  apply moves_weaken _ (fun _ _ => trivial) fun _ _ known => known
  refine moves_when (fun _ => ?_) fun _ _ known => known
  exact moves_bind (moves_withdrawPairing hostId) fun _ => moves_pushStatus

theorem moves_persist (persist : Bool) :
    MovesFreely event (InPlace.when persist (pushAction .persistProfiles) :
      BridgeM actions Unit) :=
  moves_when (fun _ => moves_pushAction fun _ _ => trivial) fun _ _ known =>
    known

theorem moves_clearHost :
    MovesFreely (.clearHost hostId : BridgeEvent build)
      (@clearHost actions build hostId) := by
  apply moves_get_bind
  intro work _
  have forgotten : MovesFreely (.clearHost hostId : BridgeEvent build)
      (@modifyBridge actions (·.forgetHost build hostId)) :=
    moves_updateBridge fun _ _ => .forget rfl
  apply moves_bind
  · refine moves_when (fun _ => moves_pushActions ?_) fun _ _ known => known
    rintro _ rfl
    exact emits_releaseReports
  intro _
  refine moves_bind (moves_weaken (moves_withdrawPairing hostId)
    (fun _ _ => trivial) fun _ _ known => known) fun _ =>
      moves_bind forgotten fun _ => ?_
  refine moves_when (fun _ => ?_) fun _ _ known => known
  refine moves_bind (moves_pushActions fun _ _ action member => ?_) fun _ => ?_
  · simp only [List.mem_cons, List.not_mem_nil, or_false] at member
    rcases member with rfl | rfl <;> exact trivial
  refine moves_bind (moves_when (fun _ => moves_pushFrom fun _ _ =>
    emits_usbKeyboardLeds) fun _ _ known => known) fun _ => moves_pushStatus

theorem moves_emitDetachUpdates
    (previousInput : PhysicalInputState) (reason : NotifyReason) :
    MovesFreely event
      (@emitDetachUpdates actions hostId previousInput reason) := by
  apply moves_get_bind
  intro work _
  apply moves_lift_bind
  intro bridge pruned
  obtain ⟨suppression, rfl, -⟩ := pruneKeyboard_spec pruned
  apply moves_bind
  · apply moves_updateBridge
    rintro _ rfl
    exact .scratch ⟨rfl, rfl, rfl, rfl, rfl⟩
  intro _
  refine moves_bind (moves_pushFrom fun _ _ => emits_notifyIf) fun _ => ?_
  refine moves_bind (moves_scratch fun _ => ⟨rfl, rfl, rfl, rfl, rfl⟩)
    fun _ => moves_bind (moves_pushFrom fun _ _ => emits_notifyIf) fun _ => ?_
  refine moves_bind (moves_scratch fun _ => ⟨rfl, rfl, rfl, rfl, rfl⟩)
    fun _ => moves_pushFrom fun _ _ => emits_notifyIf

end

theorem moves_adoptAggregate (previousInput : PhysicalInputState) :
    MovesFreely event (@adoptAggregate actions previousInput) := by
  refine moves_bind (moves_scratch fun _ => ⟨rfl, rfl, rfl, rfl, rfl⟩)
    fun _ => moves_get_bind fun work _ => ?_
  apply moves_weaken _ (fun _ _ => trivial) fun _ _ known => known
  cases work.bridge.hosts.activeTarget with
  | some hostId => exact moves_emitDetachUpdates _ _ _
  | none => exact moves_pure fun _ known => known

theorem moves_usbDeviceRemoved (interfaceId : InterfaceId) :
    MovesFreely (.usbDeviceRemoved interfaceId : BridgeEvent build)
      (@usbDeviceRemoved actions interfaceId) := by
  apply moves_get_bind
  intro work _
  apply moves_weaken _ (fun _ _ => trivial) fun _ _ known => known
  apply moves_bind
  · apply moves_scratch
    intro bridge
    obtain ⟨interfaces, removed⟩ :=
      removeUsbHidInterface_spec bridge interfaceId
    rw [removed]
    exact ⟨rfl, rfl, rfl, rfl, rfl⟩
  intro _
  refine moves_bind (moves_updateBridge fun _ _ =>
    .removal (.interface interfaceId)) fun _ => ?_
  exact moves_bind (moves_adoptAggregate _) fun _ => moves_pushStatus

theorem moves_resetInputDevice (deviceId : DeviceId) :
    MovesFreely (.resetInputDevice deviceId : BridgeEvent build)
      (@resetInputDevice actions deviceId) := by
  apply moves_get_bind
  intro work _
  have removed : Moves (.resetInputDevice deviceId : BridgeEvent build)
      (· = work.bridge)
      (@modifyBridge actions fun bridge => { bridge with
        inputDevices := (work.bridge.inputDevices.removeDevice deviceId).1 })
      fun _ _ => True := by
    apply moves_updateBridge
    rintro _ rfl
    exact .removal (.device deviceId)
  refine moves_bind removed fun _ => ?_
  exact moves_when (fun _ => moves_adoptAggregate _) fun _ _ known => known

section

variable (hostId : HostId)

theorem storesHost_onConnected :
    StoresHost hostId fun hosts => (·, ()) <$> hosts.onConnected hostId := by
  intro machine hosts value done
  obtain ⟨_, connected, same⟩ := map_eq_ok.mp done
  cases same
  obtain ⟨⟨index, host⟩, upserted, rest⟩ := bind_eq_ok.mp connected
  cases rest
  exact ⟨index, host, _, upserted, rfl,
    (BleHostStateMachine.upsertHost_spec upserted).1⟩

theorem storesHost_onKeyboardLedChanged (leds : KeyboardLedState) :
    StoresHost hostId fun hosts =>
      (·, ()) <$> hosts.onKeyboardLedChanged hostId leds := by
  intro machine hosts value done
  obtain ⟨_, changed, same⟩ := map_eq_ok.mp done
  cases same
  obtain ⟨⟨index, host⟩, upserted, rest⟩ := bind_eq_ok.mp changed
  cases rest
  exact ⟨index, host, _, upserted, rfl,
    (BleHostStateMachine.upsertHost_spec upserted).1⟩

theorem storesHost_onSecurityChanged
    (encrypted bonded : Bool) (bond : Option StoredBond) :
    StoresHost hostId (·.onSecurityChanged hostId encrypted bonded bond) := by
  intro machine hosts value done
  obtain ⟨⟨index, host⟩, upserted, rest⟩ := bind_eq_ok.mp done
  cases rest
  exact ⟨index, host, _, upserted, rfl,
    (BleHostStateMachine.upsertHost_spec upserted).1⟩

theorem storesHost_onCccdChanged (report : ReportKind) (enabled : Bool) :
    StoresHost hostId (·.onCccdChanged hostId report enabled) := by
  intro machine hosts value done
  obtain ⟨⟨index, host⟩, upserted, rest⟩ := bind_eq_ok.mp done
  cases rest
  exact ⟨index, host, _, upserted, rfl,
    (BleHostStateMachine.upsertHost_spec upserted).1⟩

theorem storesHost_setName (name : FixedName) :
    StoresHost hostId (·.setName hostId name) := by
  intro machine hosts value done
  obtain ⟨⟨index, host⟩, upserted, rest⟩ := bind_eq_ok.mp done
  cases rest
  exact ⟨index, host, _, upserted, rfl,
    (BleHostStateMachine.upsertHost_spec upserted).1⟩

end

theorem moves_usbHidInterfaceConnected
    (registration : UsbHidInterfaceRegistration) :
    MovesFreely event (do
      let bridge ← InPlace.lift id
        ((← get).bridge.upsertUsbHidInterface registration)
      modifyBridge fun _ => bridge
      pushFrom (·.activeHostLeds build) : BridgeM actions Unit) := by
  apply moves_get_bind
  intro work _
  apply moves_lift_bind
  intro bridge upserted
  obtain ⟨interfaces, rfl⟩ := upsertUsbHidInterface_spec upserted
  apply moves_bind
  · apply moves_updateBridge
    rintro _ rfl
    exact .scratch ⟨rfl, rfl, rfl, rfl, rfl⟩
  · exact fun _ => moves_pushFrom fun _ _ => emits_activeHostLeds

theorem moves_showLeds {condition : BridgeWork actions → Prop}
    [∀ work, Decidable (condition work)] (leds : KeyboardLedState) :
    MovesFreely event (do
      let work ← get
      InPlace.when (condition work) (pushFrom (·.usbKeyboardLeds leds)) :
        BridgeM actions Unit) := by
  apply moves_get_bind
  intro work _
  apply moves_weaken _ (fun _ _ => trivial) fun _ _ known => known
  exact moves_when (fun _ => moves_pushFrom fun _ _ => emits_usbKeyboardLeds)
    fun _ _ known => known

theorem moves_handleEventInPlace (event : BridgeEvent build) :
    MovesFreely event (@handleEventInPlace actions build event) := by
  cases event with
  | inputFrame frame => exact moves_handleInputFrame frame
  | usbDeviceRemoved interfaceId => exact moves_usbDeviceRemoved interfaceId
  | resetInputDevice deviceId => exact moves_resetInputDevice deviceId
  | usbHidInterfaceConnected interfaceId deviceId keyboardLedSink =>
      exact moves_usbHidInterfaceConnected _
  | hostConnected hostId =>
      refine moves_bind (moves_storeHost (storesHost_onConnected hostId) rfl)
        fun _ => ?_
      exact moves_bind moves_refreshAvailability fun _ => moves_pushStatus
  | hostDisconnected hostId => exact moves_hostDisconnected hostId
  | hostSecurityChanged hostId encrypted bonded bond =>
      refine moves_bind (moves_storeHost
        (storesHost_onSecurityChanged hostId encrypted bonded bond) rfl)
        fun persist => moves_bind (moves_persist persist) fun _ => ?_
      refine moves_bind (moves_when (fun _ => moves_withdrawPairing hostId)
        fun _ _ known => known) fun _ => ?_
      exact moves_bind moves_refreshAvailability fun _ => moves_pushStatus
  | cccdChanged hostId report enabled =>
      refine moves_bind (moves_storeHost
        (storesHost_onCccdChanged hostId report enabled) rfl)
        fun persist => moves_bind (moves_persist persist) fun _ => ?_
      exact moves_bind moves_refreshAvailability fun _ => moves_pushStatus
  | hostKeyboardLedChanged hostId leds =>
      exact moves_bind (moves_storeHost
        (storesHost_onKeyboardLedChanged hostId leds) rfl) fun _ =>
          moves_showLeds leds
  | setHostName hostId name =>
      refine moves_bind (moves_storeHost (storesHost_setName hostId name) rfl)
        fun persist => ?_
      exact moves_bind (moves_persist persist) fun _ => moves_pushStatus
  | enterPairingMode hostId => exact moves_enterPairingMode hostId
  | pairingModeExpired hostId => exact moves_expirePairingMode hostId
  | clearHost hostId => exact moves_clearHost hostId
  | switchTarget target => exact moves_switchTarget target
  | selectOutputTarget target =>
      refine moves_weaken (moves_transitionOutputTarget target _)
        (fun bridge _ hostId same => .inl same) fun _ _ known => known
  | wiredAvailabilityChanged availability =>
      exact moves_wiredAvailabilityChanged availability
  | wiredKeyboardLedChanged leds =>
      exact moves_bind (moves_scratch fun _ => ⟨rfl, rfl, rfl, rfl, rfl⟩)
        fun _ => moves_showLeds leds

end

theorem handleEventInPlace_moves (event : BridgeEvent build)
    (work : BridgeWork actions) :
    BridgeMoves event work ((handleEventInPlace build event).outcome work) := by
  have moves := moves_handleEventInPlace event work work ⟨.refl, trivial⟩
  cases done : (handleEventInPlace build event).run work with
  | ok value after =>
      rw [outcome_of_ok done]
      exact (moves.finished value after done).1
  | error error after =>
      rw [outcome_of_error done]
      exact moves.stopped error after done

end HidShift
