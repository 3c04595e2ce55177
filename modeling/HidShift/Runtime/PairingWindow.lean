import HidShift.Runtime.FastPath
import HidShift.Runtime.Pairing

namespace HidShift

open Lib InPlace

variable {capacity : Nat} {build : Build}

def Space (count : Nat) (work : RuntimeWork capacity) : Prop :=
  work.commands.toList.length + count ≤ capacity

abbrev Finishing {α : Type} (before : Nat) (program : RuntimeM capacity α)
    (after : Nat) : Prop :=
  Triple (Space before) program (fun _ => Space after) fun _ => False

section

variable {count actions : Nat} {α : Type}

theorem finishing_push (command : RuntimeCommand) :
    Finishing (count + 1) (@pushCommand capacity command)
      count := by
  intro work space
  unfold Space at space
  obtain ⟨next, now, ran⟩ := pushCommand_run command
    (show work.commands.toList.length < capacity by omega)
  refine stops_of_ok ran ?_
  show next.toList.length + count ≤ capacity
  rw [now, List.length_append, List.length_singleton]
  omega

theorem finishing_modify (update : BridgeRuntime → BridgeRuntime) :
    Finishing count (@modifyRuntime capacity update) count :=
  triple_modify fun _ space => space

theorem finishing_pure (value : α) :
    Finishing count (pure value : RuntimeM capacity α) count :=
  triple_pure fun _ space => space

theorem finishing_fewer (finishing : Finishing less program after)
    (enough : less ≤ count) :
    Finishing count program after :=
  triple_weaken finishing
    (fun _ space => Nat.le_trans (Nat.add_le_add_left enough _) space)
    (fun _ _ space => space) fun _ impossible => impossible

theorem finishing_read
    (read : ∀ runtime, Finishing count (second runtime) after) :
    Finishing count (readRuntime >>= second) after := by
  intro before holds
  obtain ⟨finished, stopped⟩ := read before.runtime before holds
  exact ⟨finished, stopped⟩

theorem finishing_status (status : BridgeStatus) :
    Finishing (count + 1) (@dispatchStatus capacity status)
      count := by
  have withdrawn : Finishing (count + 1) (InPlace.when
      (status.pairableHost = none) (modifyRuntime fun runtime =>
        { runtime with pairingMode := none }) : RuntimeM capacity Unit)
      (count + 1) :=
    triple_when (fun _ => finishing_modify _) fun _ _ space => space
  refine triple_bind withdrawn fun _ => triple_bind ?_ fun _ =>
    finishing_push _
  exact triple_bind (finishing_modify _) fun _ =>
    finishing_read fun _ => finishing_pure _

theorem expirePairingMode_runs (bridge : BridgeState) (hostId : HostId)
    (room : 2 ≤ actions) :
    ∃ left : BridgeWork actions,
      (handleEventInPlace build (.pairingModeExpired hostId)).run
        ⟨bridge, .empty⟩ = .ok () left ∧
      (left.out.toList = [] ∨ ∃ status,
        left.out.toList = [.rejectPairing hostId, .statusChanged status]) := by
  by_cases paired : bridge.pairableHost = some hostId
  · obtain ⟨first, -, one⟩ := BoundedVec.push?_room (.rejectPairing hostId)
      (show (BoundedVec.empty : BoundedVec BridgeAction actions).toList.length <
        actions from Nat.lt_of_lt_of_le Nat.zero_lt_two room)
    obtain ⟨second, -, two⟩ := BoundedVec.push?_room (.statusChanged
      { bridge with pairableHost := none }.status)
      (show first.toList.length < actions by
        rw [one]
        exact room)
    refine ⟨⟨{ bridge with pairableHost := none }, second⟩, ?_,
      .inr ⟨{ bridge with pairableHost := none }.status, ?_⟩⟩
    · show Succeeds (expirePairingMode hostId) ⟨bridge, .empty⟩ () _
      have withdrawn : Succeeds (withdrawPairing hostId)
          (⟨bridge, .empty⟩ : BridgeWork actions) ()
          ⟨{ bridge with pairableHost := none }, first⟩ := by
        simp only [withdrawPairing, succeeds_bind, succeeds_get, succeeds_when]
        refine ⟨_, _, ⟨rfl, rfl⟩, .inl ⟨paired, (),
          ⟨{ bridge with pairableHost := none }, .empty⟩, rfl, ?_⟩⟩
        exact succeeds_pushAction.mpr ⟨rfl, one⟩
      have told : Succeeds pushStatus
          (⟨{ bridge with pairableHost := none }, first⟩ : BridgeWork actions)
          () ⟨{ bridge with pairableHost := none }, second⟩ := by
        simp only [pushStatus, pushFrom, pushActions, succeeds_bind,
          succeeds_get]
        refine ⟨_, _, ⟨rfl, rfl⟩, (),
          ⟨{ bridge with pairableHost := none }, second⟩, ?_, rfl⟩
        exact succeeds_pushAction.mpr ⟨rfl, two⟩
      simp only [expirePairingMode, succeeds_bind, succeeds_get, succeeds_when]
      exact ⟨_, _, ⟨rfl, rfl⟩, .inl ⟨paired, (), _, withdrawn, told⟩⟩
    · rw [two, one]
      rfl
  · refine ⟨⟨bridge, .empty⟩, ?_, .inl rfl⟩
    show Succeeds (expirePairingMode hostId) _ () _
    simp only [expirePairingMode, succeeds_bind, succeeds_get, succeeds_when]
    exact ⟨_, _, ⟨rfl, rfl⟩, .inr ⟨paired, rfl⟩⟩

theorem finishing_expire (hostId : HostId) (room : 2 ≤ actions) :
    Finishing (count + 2) (@handleBridgeEventAppend capacity build actions
      (.pairingModeExpired hostId)) count := by
  refine triple_bind (finishing_modify _) fun _ => ?_
  intro work space
  obtain ⟨left, ran, listed⟩ := @expirePairingMode_runs build actions
    work.runtime.bridge hostId room
  have called := @callBridge_ok capacity build actions _ work left () ran
  have dispatched : ∀ list, list = left.out.toList →
      Finishing (count + 2)
        (@dispatchBridgeActions capacity build
          (storagePersistPriorityForEvent
            (.pairingModeExpired hostId : BridgeEvent build)) list) count := by
    rintro _ rfl
    rcases listed with none | ⟨status, both⟩
    · rw [none]
      exact finishing_fewer (finishing_pure ()) (Nat.le_add_right count 2)
    · rw [both]
      exact triple_bind (finishing_push _) fun _ =>
        triple_bind (finishing_status status) fun _ => finishing_pure ()
  have emitted : Triple (· = work)
      (callBridge build actions (.pairingModeExpired hostId))
      (fun list after => list = left.out.toList ∧ Space (count + 2) after)
      fun _ => False := by
    rintro _ rfl
    exact stops_of_ok called ⟨rfl, space⟩
  refine triple_bind emitted (fun list => ?_) work rfl
  rintro after ⟨same, room⟩
  exact dispatched list same after room

theorem finishing_power : Finishing (count + 1)
    (@reconcileUsbHostPower capacity build) count := by
  refine finishing_read fun runtime => ?_
  dsimp only
  refine triple_bind (finishing_modify _) fun _ => ?_
  split
  · exact finishing_push _
  · exact finishing_fewer (finishing_pure ()) (Nat.le_succ count)

end

def BridgeRuntime.SwitchDue (runtime : BridgeRuntime) (nowMs : UInt64) : Prop :=
  ∃ pending, runtime.pendingTargetSwitch = some pending ∧
    pending.deadlineMs ≤ nowMs

def RuntimeCall.Roomy (call : RuntimeCall build) : Prop :=
  2 ≤ call.actions ∧ 3 ≤ call.capacity

theorem tick_handled {call : RuntimeCall build} (roomy : call.Roomy)
    (ticks : call.input = .tick nowMs) (early : ¬ runtime.SwitchDue nowMs) :
    call.Handled runtime := by
  obtain ⟨actions, commands⟩ := roomy
  have ticked : Triple (· = (⟨runtime, .empty, []⟩ : RuntimeWork call.capacity))
      (modifyRuntime (·.observeTick nowMs))
      (fun _ work => ¬ work.runtime.SwitchDue nowMs) fun _ => False := by
    apply triple_modify
    rintro _ rfl
    exact early
  have cleared : Triple (fun work : RuntimeWork call.capacity =>
      ¬ work.runtime.SwitchDue nowMs) clearCommands
      (fun _ work => ¬ work.runtime.SwitchDue nowMs ∧ Space 3 work)
      fun _ => False :=
    triple_modify fun work still =>
      ⟨still, (Nat.zero_add 3).symm ▸ commands⟩
  have switched : Triple (fun work : RuntimeWork call.capacity =>
      ¬ work.runtime.SwitchDue nowMs ∧ Space 3 work)
      (tickTargetSwitch build call.actions nowMs) (fun _ => Space 3)
      fun _ => False := by
    rintro work ⟨still, space⟩
    have nothing : Succeeds (tickTargetSwitch build call.actions nowMs) work ()
        work := by
      simp only [tickTargetSwitch, succeeds_bind, succeeds_readRuntime]
      refine ⟨_, _, ⟨rfl, rfl⟩, ?_⟩
      cases scheduled : work.runtime.pendingTargetSwitch with
      | none => exact rfl
      | some pending =>
          simp only [succeeds_when]
          exact .inr ⟨fun due => still ⟨pending, scheduled, due⟩, trivial⟩
    exact stops_of_ok nothing space
  have expired : Finishing 3 (tickPairingMode build call.actions nowMs :
      RuntimeM call.capacity Unit) 1 := by
    refine finishing_read fun current => ?_
    cases current.pairingMode with
    | none => exact finishing_fewer (finishing_pure ()) (Nat.le_add_left 1 2)
    | some pairing =>
        refine triple_when (fun _ => triple_bind (finishing_modify _)
          fun _ => finishing_expire pairing.hostId actions) fun _ work space =>
            ?_
        exact Nat.le_trans (Nat.add_le_add_left (Nat.le_add_left 1 2) _) space
  have whole := triple_bind (triple_bind ticked fun _ => triple_bind cleared
    fun _ => triple_bind switched fun _ => expired) fun _ =>
      @finishing_power call.capacity build 0
  obtain ⟨value, after, done, -⟩ := whole.finishes rfl
  unfold RuntimeCall.Handled BridgeRuntime.handleInput
  rw [ticks]
  have ran : (handleInputInPlace build call.actions call.events
      (.tick nowMs)).run (⟨runtime, .empty, []⟩ : RuntimeWork call.capacity) =
        .ok value after := done
  rw [ran]
  rfl

inductive Enters (runtime : BridgeRuntime) (hostId : HostId) :
    RuntimeInput build → Prop
  | button {intent : ButtonIntent} {nowMs : UInt64}
      (action : (runtime.configuredAction intent).toNat = 2)
      (candidate : runtime.bridge.hosts.pairingCandidate = some hostId) :
      Enters runtime hostId (.buttonIntent intent nowMs)
  | management {destination : ManagementDestination}
      {request : ManagementRequest build} {nowMs : UInt64}
      (command : request.command = .startPairing hostId)
      (writable : runtime.storageHealth.allowsPersistentMutation = true)
      (valid : validManagementHost runtime.bridge.hosts.hosts.length hostId =
        true)
      (unbonded : (runtime.bridge.hosts.host hostId).any
        BleHostStateMachine.hasBond = false) :
      Enters runtime hostId (.managementRequest destination request nowMs)
  | event (other : runtime.pairingMode.map (·.hostId) ≠ some hostId) :
      Enters runtime hostId (.bridgeEvent (.enterPairingMode hostId))

/-- The input may end the window of the host, or a new one begins: the host
is bonded, cleared, cancelled or replaced. -/
inductive Ends (runtime : BridgeRuntime) (hostId : HostId) :
    RuntimeInput build → Prop
  | replaced {other : HostId} {input : RuntimeInput build}
      (enters : Enters runtime other input) : Ends runtime hostId input
  | bonded {encrypted : Bool} {bond : Option StoredBond} :
      Ends runtime hostId
        (.bridgeEvent (.hostSecurityChanged hostId encrypted true bond))
  | bondedLink {encrypted : Bool} {bond : Option StoredBond} :
      Ends runtime hostId
        (.bleHostEvent hostId (.securityChanged encrypted true bond))
  | cleared : Ends runtime hostId (.bridgeEvent (.clearHost hostId))
  | clearedActive {intent : ButtonIntent} {nowMs : UInt64}
      (action : (runtime.configuredAction intent).toNat = 3)
      (active : runtime.bridge.hosts.activeTarget = some hostId) :
      Ends runtime hostId (.buttonIntent intent nowMs)
  | forgotten {destination : ManagementDestination}
      {request : ManagementRequest build} {nowMs : UInt64}
      (command : request.command = .forgetHost hostId) :
      Ends runtime hostId (.managementRequest destination request nowMs)
  | cancelled {destination : ManagementDestination}
      {request : ManagementRequest build} {nowMs : UInt64}
      (command : request.command = .cancelPairing) :
      Ends runtime hostId (.managementRequest destination request nowMs)
  | withdrawn :
      Ends runtime hostId (.bridgeEvent (.pairingModeExpired hostId))
  | restored {storage : StorageState} :
      Ends runtime hostId (.restoreStorage storage)

/-- The window of an entry at this time ends a timeout later.  A raw event
takes over the deadline of the window that is open, or the timeout itself. -/
def Timely (runtime : BridgeRuntime) (nowMs : UInt64) :
    RuntimeInput build → Prop
  | .bridgeEvent _ =>
      ((runtime.pairingMode.map (·.deadlineMs)).getD
        pairingModeTimeoutMs).toNat = nowMs.toNat + pairingModeTimeoutMs.toNat
  | _ => nowMs.toNat + pairingModeTimeoutMs.toNat < UInt64.size

def RuntimeInput.nowMs? : RuntimeInput build → Option UInt64
  | .buttonIntent _ nowMs | .managementRequest _ _ nowMs | .tick nowMs =>
      some nowMs
  | _ => none

section

variable {runtime : BridgeRuntime} {hostId : HostId}

theorem saturatingAddMs_toNat
    (fits : nowMs.toNat + delayMs.toNat < UInt64.size) :
    (saturatingAddMs nowMs delayMs).toNat = nowMs.toNat + delayMs.toNat := by
  have largest : (UInt64.ofNat (UInt64.size - 1)).toNat = UInt64.size - 1 :=
    rfl
  have limit : (UInt64.ofNat (UInt64.size - 1) - delayMs).toNat =
      UInt64.size - 1 - delayMs.toNat := by
    rw [UInt64.toNat_sub_of_le _ _ (UInt64.le_iff_toNat_le.mpr (by
      rw [largest]
      omega)), largest]
  unfold saturatingAddMs
  rw [if_pos (UInt64.le_iff_toNat_le.mpr (by
    rw [limit]
    omega)), UInt64.toNat_add, Nat.mod_eq_of_lt fits]

theorem entered_pairing {input : RuntimeInput build} {nowMs : UInt64}
    (enters : Enters runtime hostId input)
    (stamped : ∀ stamp, input.nowMs? = some stamp → stamp = nowMs)
    (timely : Timely runtime nowMs input) :
    ∃ deadlineMs, (runtime.booksAfter input).pairing =
        some ⟨hostId, deadlineMs⟩ ∧
      deadlineMs.toNat = nowMs.toNat + pairingModeTimeoutMs.toNat := by
  cases enters with
  | button action candidate =>
      obtain rfl := stamped _ rfl
      refine ⟨_, ?_, saturatingAddMs_toNat timely⟩
      show (runtime.buttonBooks build _ _).pairing = _
      unfold BridgeRuntime.buttonBooks
      rw [action, candidate]
      rfl
  | management command writable valid unbonded =>
      obtain rfl := stamped _ rfl
      refine ⟨_, ?_, saturatingAddMs_toNat timely⟩
      show (runtime.managementBooks _ _).pairing = _
      unfold BridgeRuntime.managementBooks
      rw [command, writable]
      show (runtime.executeBooks _ (.startPairing hostId :
        ManagementCommand build)).pairing = _
      unfold BridgeRuntime.executeBooks
      dsimp only
      rw [valid, unbonded]
      rfl
  | event other =>
      refine ⟨_, ?_, timely⟩
      show BridgeEvent.pairingAfter runtime.pairingMode
        (.enterPairingMode hostId : BridgeEvent build) = _
      unfold BridgeEvent.pairingAfter
      exact if_neg other

section

variable (paired : ∀ pairing, runtime.pairingMode = some pairing →
  pairing.hostId = hostId)

include paired

theorem pairing_other (different : other ≠ hostId) :
    (if runtime.pairingMode.map (·.hostId) = some other then none
      else runtime.pairingMode) = runtime.pairingMode := by
  refine if_neg fun same => different ?_
  obtain ⟨pairing, is, rfl⟩ := Option.map_eq_some_iff.mp same
  exact paired pairing is

theorem pairingAfter_unended {event : BridgeEvent build}
    (unended : ¬ Ends runtime hostId (.bridgeEvent event)) :
    BridgeEvent.pairingAfter runtime.pairingMode event =
      runtime.pairingMode := by
  cases event with
  | enterPairingMode other =>
      by_cases same : runtime.pairingMode.map (·.hostId) = some other
      · exact if_pos same
      · exact absurd (.replaced (.event same)) unended
  | pairingModeExpired other =>
      exact pairing_other paired fun same => unended (same ▸ .withdrawn)
  | clearHost other =>
      exact pairing_other paired fun same => unended (same ▸ .cleared)
  | hostSecurityChanged other encrypted bonded bond =>
      cases bonded with
      | true => exact pairing_other paired fun same => unended (same ▸ .bonded)
      | false => rfl
  | _ => rfl

theorem buttonBooks_unended (unended : ¬ Ends runtime hostId
      (.buttonIntent intent nowMs : RuntimeInput build)) :
    (runtime.buttonBooks build intent nowMs).pairing =
      runtime.pairingMode := by
  unfold BridgeRuntime.buttonBooks
  rcases action : (runtime.configuredAction intent).toNat with
    _ | _ | _ | _ | _
  · rfl
  · rfl
  · cases candidate : runtime.bridge.hosts.pairingCandidate with
    | none => rfl
    | some other => exact absurd (.replaced (.button action candidate)) unended
  · cases active : runtime.bridge.hosts.activeTarget with
    | none => rfl
    | some other =>
        exact pairing_other paired fun same =>
          unended (.clearedActive action (same ▸ active))
  · rfl

theorem managementBooks_unended {request : ManagementRequest build}
    (unended : ¬ Ends runtime hostId
      (.managementRequest destination request nowMs)) :
    (runtime.managementBooks nowMs request.command).pairing =
      runtime.pairingMode := by
  unfold BridgeRuntime.managementBooks
  cases command : request.command with
  | startPairing other =>
      cases writable : runtime.storageHealth.allowsPersistentMutation with
      | false => rfl
      | true =>
          show (runtime.executeBooks nowMs (.startPairing other :
            ManagementCommand build)).pairing = _
          unfold BridgeRuntime.executeBooks
          dsimp only
          split
          · rfl
          · split
            · rfl
            · rename_i invalid bonded
              have valid : validManagementHost
                  runtime.bridge.hosts.hosts.length other = true := by
                simpa using invalid
              exact absurd (.replaced (.management command writable valid
                (Bool.eq_false_iff.mpr bonded))) unended
  | forgetHost other =>
      split
      · rfl
      · unfold BridgeRuntime.executeBooks
        dsimp only
        split
        · rfl
        · split
          · rfl
          · exact pairing_other paired fun same =>
              unended (.forgotten (same ▸ command))
  | cancelPairing => exact absurd (.cancelled command) unended
  | _ => split <;> rfl

theorem pairing_unended {input : RuntimeInput build}
    (unended : ¬ Ends runtime hostId input) :
    (∃ nowMs, input = .tick nowMs) ∨
      (runtime.booksAfter input).pairing = runtime.pairingMode := by
  cases input with
  | tick nowMs => exact .inl ⟨nowMs, rfl⟩
  | bridgeEvent event => exact .inr (pairingAfter_unended paired unended)
  | bleHostEvent other event =>
      refine .inr ?_
      cases event with
      | securityChanged encrypted bonded bond =>
          cases bonded with
          | true =>
              exact pairing_other paired fun same =>
                unended (same ▸ .bondedLink)
          | false => rfl
      | _ => rfl
  | buttonIntent intent nowMs => exact .inr (buttonBooks_unended paired unended)
  | managementRequest destination request nowMs =>
      exact .inr (managementBooks_unended paired unended)
  | usbHidInterfaceConnected interfaceId deviceId ledOutput =>
      exact .inr (samePairing_plugIn _).1
  | usbHidInterfaceDisconnected interfaceId =>
      exact .inr (samePairing_unplug interfaceId).1
  | usbDeviceMetadataUpdated deviceId identity name flags =>
      exact .inr (samePairing_described deviceId identity name flags).1
  | deviceProfileResult result =>
      exact .inr (onlyMirrors_profileResult result).samePairing.1
  | mirrorCandidateRegistered candidate stableId profileHash synthetic
      sourceDevice =>
      cases profileHash with
      | none => exact .inr rfl
      | some profileHash =>
          exact .inr (onlyMirrors_registerCandidate _).samePairing.1
  | restoreStorage storage => exact absurd .restored unended
  | _ => exact .inr rfl

end

theorem expire_pairing {books : RuntimeBooks} {pairing : PairingModeState}
    {nowMs : UInt64} (paired : books.pairing = some pairing) :
    (books.expire nowMs).pairing =
      if pairing.deadlineMs ≤ nowMs then none else some pairing := by
  unfold RuntimeBooks.expire
  rw [paired]
  dsimp only
  split
  · rfl
  · exact paired

theorem expire_closed {books : RuntimeBooks} (closed : books.pairing = none) :
    (books.expire nowMs).pairing = none := by
  unfold RuntimeBooks.expire
  rw [closed]
  exact closed

variable {next : BridgeRuntime} {call : RuntimeCall build}
  {commands : List RuntimeCommand} {deadlineMs : UInt64}

theorem performed_unended (agrees : runtime.books.Agrees)
    (performed : RuntimePerforms build runtime call commands next)
    (paired : ∀ pairing, runtime.pairingMode = some pairing →
      pairing = ⟨hostId, deadlineMs⟩)
    (unended : ¬ Ends runtime hostId call.input) :
    next.pairingMode = runtime.pairingMode ∨
      ∃ nowMs, call.input = .tick nowMs ∧ deadlineMs ≤ nowMs ∧
        next.pairingMode = none := by
  rcases performed_books agrees performed with
    ⟨-, rfl, -⟩ | ⟨-, turned, -⟩
  · exact .inl rfl
  · have pairing : next.pairingMode = (runtime.booksAfter call.input).pairing :=
      congrArg RuntimeBooks.pairing turned
    rcases pairing_unended (fun pairing is => paired pairing is ▸ rfl)
      unended with ⟨nowMs, ticks⟩ | same
    · have ticked : (runtime.booksAfter call.input).pairing =
          (({ runtime.books with nowMs := nowMs } :
            RuntimeBooks).expire nowMs).pairing := by
        rw [ticks]
        rfl
      cases window : runtime.pairingMode with
      | none =>
          left
          rw [pairing, ticked]
          exact expire_closed window
      | some pairingMode =>
          obtain rfl := paired pairingMode window
          have expired := @expire_pairing
            { runtime.books with nowMs := nowMs } _ nowMs window
          by_cases due : deadlineMs ≤ nowMs
          · refine .inr ⟨nowMs, ticks, due, ?_⟩
            rw [pairing, ticked, expired]
            exact if_pos due
          · refine .inl ?_
            rw [pairing, ticked, expired]
            exact if_neg due
    · exact .inl (pairing.trans same)

theorem performed_late (agrees : runtime.books.Agrees)
    (performed : RuntimePerforms build runtime call commands next)
    (handled : call.Handled runtime) (ticks : call.input = .tick nowMs)
    (paired : ∀ pairing, runtime.pairingMode = some pairing →
      pairing = ⟨hostId, deadlineMs⟩) (late : deadlineMs ≤ nowMs) :
    next.pairingMode = none := by
  rcases performed_books agrees performed with
    ⟨refused, -⟩ | ⟨-, turned, -⟩
  · exact absurd handled refused
  · have pairing : next.pairingMode = (({ runtime.books with nowMs := nowMs } :
        RuntimeBooks).expire nowMs).pairing := by
      rw [ticks] at turned
      exact congrArg RuntimeBooks.pairing turned
    rw [pairing]
    cases window : runtime.pairingMode with
    | none => exact expire_closed window
    | some pairingMode =>
        obtain rfl := paired pairingMode window
        rw [@expire_pairing { runtime.books with nowMs := nowMs } _ nowMs
          window]
        exact if_pos late

end

structure TimedCall (build : Build) where
  nowMs : UInt64
  call : RuntimeCall build

def TimedPerforms (build : Build) (runtime : BridgeRuntime)
    (timed : TimedCall build) (commands : List RuntimeCommand)
    (next : BridgeRuntime) : Prop :=
  (∀ stamp, timed.call.input.nowMs? = some stamp → stamp = timed.nowMs) ∧
    RuntimePerforms build runtime timed.call commands next

abbrev TimedRun (build : Build) := Run (TimedPerforms build)

abbrev TimedStep (build : Build) :=
  Transition BridgeRuntime (TimedCall build) (List RuntimeCommand)

namespace TimedStep

def input (taken : TimedStep build) : RuntimeInput build :=
  taken.event.call.input

def Spares (taken : TimedStep build) (hostId : HostId) : Prop :=
  ¬ Ends taken.before hostId taken.input

end TimedStep

def Chronological (history : List (TimedStep build)) : Prop :=
  history.Pairwise fun first second =>
    first.event.nowMs ≤ second.event.nowMs

section

variable {start finish : BridgeRuntime} {hostId : HostId}
  {deadlineMs : UInt64} {history : List (TimedStep build)}

section

variable (run : TimedRun build start history finish)
    (agrees : start.books.Agrees)

include run agrees

theorem timed_agrees : finish.books.Agrees :=
  run.invariant (·.books.Agrees) agrees fun _ _ performed agrees =>
    performed_agrees agrees performed.2

theorem window_or_closed (spared : ∀ taken ∈ history, taken.Spares hostId)
    (paired : ∀ pairing, start.pairingMode = some pairing →
      pairing = ⟨hostId, deadlineMs⟩) :
    ∀ pairing, finish.pairingMode = some pairing →
      pairing = ⟨hostId, deadlineMs⟩ := by
  induction run with
  | nil => exact paired
  | cons performed rest ih =>
      refine ih (performed_agrees agrees performed.2)
        (fun taken member => spared taken (List.mem_cons_of_mem _ member)) ?_
      rcases performed_unended agrees performed.2 paired
        (spared _ List.mem_cons_self) with same | ⟨-, -, -, closed⟩
      · rw [same]
        exact paired
      · rw [closed]
        exact fun _ impossible => nomatch impossible

theorem window_open (spared : ∀ taken ∈ history, taken.Spares hostId)
    (early : ∀ taken ∈ history, taken.event.nowMs < deadlineMs)
    (paired : start.pairingMode = some ⟨hostId, deadlineMs⟩) :
    finish.pairingMode = some ⟨hostId, deadlineMs⟩ := by
  induction run with
  | nil => exact paired
  | @cons start next finish event output history performed rest ih =>
      refine ih (performed_agrees agrees performed.2)
        (fun taken member => spared taken (List.mem_cons_of_mem _ member))
        (fun taken member => early taken (List.mem_cons_of_mem _ member)) ?_
      have window : ∀ pairing, start.pairingMode = some pairing →
          pairing = ⟨hostId, deadlineMs⟩ := fun pairing is =>
        Option.some.inj (is.symm.trans paired)
      rcases performed_unended agrees performed.2 window
        (spared _ List.mem_cons_self) with same | ⟨nowMs, ticks, late, -⟩
      · exact same.trans paired
      · obtain rfl := performed.1 nowMs (by rw [ticks]; rfl)
        exact absurd late (UInt64.not_le.mpr (early _ List.mem_cons_self))

end

/-- A window that is entered timely stays open for the whole timeout and is
closed by the Tick after it, when that Tick is not refused. -/
theorem pairing_window {hosts usbInterfaces : Nat} {storageGeneration : UInt32}
    {earlier between later : List (TimedStep build)}
    {entry tick : TimedStep build} {nowMs : UInt64}
    (run : TimedRun build (.new hosts usbInterfaces storageGeneration)
      (earlier ++ entry :: (between ++ tick :: later)) finish)
    (ordered : Chronological (earlier ++ entry :: (between ++ tick :: later)))
    (enters : Enters entry.before hostId entry.input)
    (handled : entry.event.call.Handled entry.before)
    (timely : Timely entry.before entry.event.nowMs entry.input)
    (spared : ∀ taken ∈ between, taken.Spares hostId)
    (ticks : tick.input = .tick nowMs) :
    (nowMs.toNat < entry.event.nowMs.toNat + pairingModeTimeoutMs.toNat →
      tick.after.pairingMode.map (·.hostId) = some hostId) ∧
    (entry.event.nowMs.toNat + pairingModeTimeoutMs.toNat ≤ nowMs.toNat →
      tick.event.call.Handled tick.before ∨
        tick.event.call.Roomy ∧ ¬ tick.before.SwitchDue nowMs →
      tick.after.pairingMode = none) := by
  obtain ⟨reached, entered, rest⟩ := run.split_at
  obtain ⟨waited, ticked, -⟩ := rest.split_at
  have agrees : entry.before.books.Agrees := timed_agrees reached rfl
  obtain ⟨deadlineMs, opened, length⟩ :=
    entered_pairing enters entered.1 timely
  have window : entry.after.pairingMode = some ⟨hostId, deadlineMs⟩ := by
    rcases performed_books agrees entered.2 with
      ⟨refused, -⟩ | ⟨-, turned, -⟩
    · exact absurd handled refused
    · exact (congrArg RuntimeBooks.pairing turned).trans opened
  have agreed : entry.after.books.Agrees := performed_agrees agrees entered.2
  have unended : tick.Spares hostId := by
    unfold TimedStep.Spares
    rw [ticks]
    intro ends
    cases ends with
    | replaced enters => cases enters
  have present : nowMs = tick.event.nowMs := ticked.1 nowMs (by
    rw [show tick.event.call.input = .tick nowMs from ticks]
    rfl)
  constructor
  · intro early
    have whole : TimedRun build entry.after (between ++ [tick]) tick.after :=
      Run.append_iff.mpr ⟨tick.before, waited, .cons ticked (.nil _)⟩
    have before : ∀ taken ∈ between ++ [tick],
        taken.event.nowMs < deadlineMs := by
      intro taken member
      have upTo : taken.event.nowMs ≤ tick.event.nowMs := by
        rcases List.mem_append.mp member with inside | last
        · have rest := (List.pairwise_append.mp ordered).2.1
          have inner := (List.pairwise_cons.mp rest).2
          exact (List.pairwise_append.mp inner).2.2 taken inside tick
            List.mem_cons_self
        · rw [List.mem_singleton.mp last]
          exact UInt64.le_refl _
      rw [← present] at upTo
      rw [UInt64.lt_iff_toNat_lt, length]
      exact Nat.lt_of_le_of_lt (UInt64.le_iff_toNat_le.mp upTo) early
    rw [window_open whole agreed (fun taken member => ?_) before window]
    · rfl
    · rcases List.mem_append.mp member with inside | last
      · exact spared taken inside
      · exact List.mem_singleton.mp last ▸ unended
  · intro late accepted
    have kept := window_or_closed waited agreed spared fun pairing is =>
      Option.some.inj (is.symm.trans window)
    have accepted : tick.event.call.Handled tick.before := by
      rcases accepted with handled | ⟨roomy, idle⟩
      · exact handled
      · exact tick_handled roomy ticks idle
    refine performed_late (timed_agrees waited agreed) ticked.2 accepted ticks
      kept ?_
    rw [UInt64.le_iff_toNat_le, length]
    exact late

end

namespace RuntimeScenario

def timed (nowMs : UInt64) (runtime : BridgeRuntime)
    (input : RuntimeInput build) : TimedStep build :=
  ⟨runtime, ⟨nowMs, call input⟩, (runtime.perform (call input)).2,
    (runtime.perform (call input)).1⟩

def pressed : TimedStep .single :=
  timed 5 (.new storedHostsMax runtimeUsbInterfacesMax 0)
    (.buttonIntent .enterPairingMode 5)

def closing : TimedStep .single := timed 60005 pressed.after (.tick 60005)

def uptime : TimedStep .single :=
  timed 100000 (.new storedHostsMax runtimeUsbInterfacesMax 0) (.tick 100000)

def rawEntry : TimedStep .single :=
  timed 100000 uptime.after (.bridgeEvent (.enterPairingMode ⟨1⟩))

def nextTick : TimedStep .single := timed 100001 rawEntry.after (.tick 100001)

end RuntimeScenario

open RuntimeScenario in
theorem button_window_closes : closing.after.pairingMode = none := by
  have run : TimedRun .single _ ([] ++ pressed :: ([] ++ closing :: []))
      closing.after :=
    .cons ⟨fun _ is => (Option.some.inj is).symm, rfl⟩
      (.cons ⟨fun _ is => (Option.some.inj is).symm, rfl⟩ (.nil _))
  have enters : Enters pressed.before ⟨1⟩ pressed.input :=
    .button (by decide +kernel) (by decide +kernel)
  have handled : pressed.event.call.Handled pressed.before := by
    unfold RuntimeCall.Handled
    decide +kernel
  have accepted : closing.event.call.Handled closing.before := by
    unfold RuntimeCall.Handled
    decide +kernel
  have ordered : Chronological ([] ++ pressed :: ([] ++ closing :: [])) := by
    simp [Chronological, pressed, closing, timed]
  exact (pairing_window run ordered enters handled
    (show (5 : UInt64).toNat + pairingModeTimeoutMs.toNat < UInt64.size by
      decide) (fun _ impossible => absurd impossible List.not_mem_nil)
        rfl).2 (show (5 : UInt64).toNat + pairingModeTimeoutMs.toNat ≤
          (60005 : UInt64).toNat by decide) (.inl accepted)

open RuntimeScenario in
/-- A raw entry after 100 s of uptime finds no deadline to take over and gets
60 s of uptime as its own: the tick a millisecond later closes the window. -/
theorem raw_entry_closes_early :
    TimedRun .single (.new storedHostsMax runtimeUsbInterfacesMax 0)
      [uptime, rawEntry, nextTick] nextTick.after ∧
    Chronological [uptime, rawEntry, nextTick] ∧
    Enters rawEntry.before ⟨1⟩ rawEntry.input ∧
    rawEntry.before.pairingMode = none ∧
    rawEntry.event.call.Handled rawEntry.before ∧
    nextTick.input = .tick 100001 ∧
    (100001 : UInt64).toNat <
      rawEntry.event.nowMs.toNat + pairingModeTimeoutMs.toNat ∧
    nextTick.after.pairingMode = none := by
  refine ⟨?_, ?_, ?_, ?_, ?_, rfl, ?_, ?_⟩
  · exact .cons ⟨fun _ is => (Option.some.inj is).symm, rfl⟩
      (.cons ⟨fun _ impossible => (nomatch impossible), rfl⟩
        (.cons ⟨fun _ is => (Option.some.inj is).symm, rfl⟩ (.nil _)))
  · simp [Chronological, uptime, rawEntry, nextTick, timed]
  · refine .event ?_
    decide +kernel
  · decide +kernel
  · unfold RuntimeCall.Handled
    decide +kernel
  · show (100001 : UInt64).toNat <
      (100000 : UInt64).toNat + pairingModeTimeoutMs.toNat
    decide
  · decide +kernel

end HidShift
