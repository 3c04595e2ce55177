import HidShift.Bridge.PairableHost
import HidShift.Management.ResponseRoundTrip
import HidShift.Runtime.Reachable

namespace HidShift

open Lib InPlace

/-- The targets are in the range of the protocol, and no host is the one that
stands for none. -/
structure BridgeState.NamesHosts (bridge : BridgeState) : Prop where
  selected : ManagementOutputTarget.Accepted bridge.outputTarget.selected
  presented : ∀ target, bridge.outputTarget.active = some target →
    ManagementOutputTarget.Accepted target
  active : bridge.hosts.activeTarget ≠ some ⟨0⟩
  pairable : bridge.pairableHost ≠ some ⟨0⟩

section

variable {build : Build} {actions : Nat}

structure BridgeState.NamesTargets (bridge : BridgeState) : Prop where
  selected : ManagementOutputTarget.Accepted bridge.outputTarget.selected
  presented : ∀ target, bridge.outputTarget.active = some target →
    ManagementOutputTarget.Accepted target
  active : bridge.hosts.activeTarget ≠ some ⟨0⟩

theorem BridgeState.NamesHosts.targets {bridge : BridgeState}
    (named : bridge.NamesHosts) : bridge.NamesTargets :=
  ⟨named.selected, named.presented, named.active⟩

theorem OutputTarget.accepted_of_validate {target : OutputTarget}
    (validated : target.validate = .ok valid) :
    ManagementOutputTarget.Accepted valid := by
  cases target with
  | wired =>
      cases validated
      trivial
  | ble host =>
      rw [OutputTarget.validate] at validated
      by_cases inRange : 1 ≤ host.val ∧ host.val.toNat ≤ hostSlotCount
      · rw [if_pos inRange] at validated
        cases validated
        exact ⟨inRange.1, UInt8.le_iff_toNat_le.mpr inRange.2⟩
      · rw [if_neg inRange] at validated
        cases validated

theorem BridgeState.NamesTargets.withAvailability {bridge : BridgeState}
    (named : bridge.NamesTargets)
    (availability wiredAvailability : OutputTargetAvailability) :
    BridgeState.NamesTargets { bridge with
      wiredAvailability := wiredAvailability
      outputTarget := bridge.outputTarget.setAvailability availability } where
  selected := named.selected
  presented target active := by
    rw [(setAvailability_active active).1]
    exact named.selected
  active := named.active

theorem HostId.valid_ne_zero {hostId : HostId} (valid : hostId.Valid) :
    some hostId ≠ some ⟨0⟩ := by
  rintro same
  cases same
  obtain ⟨slot, validated⟩ := valid
  cases validated

theorem BridgeUpdate.namesTargets {bridge next : BridgeState}
    (updated : BridgeUpdate event bridge next) (named : bridge.NamesTargets) :
    next.NamesTargets := by
  have ofSame : ∀ {next : BridgeState},
      next.outputTarget = bridge.outputTarget →
      next.hosts.activeTarget = bridge.hosts.activeTarget ∨
        next.hosts.activeTarget ≠ some ⟨0⟩ → next.NamesTargets := by
    intro next target active
    refine ⟨target ▸ named.selected, target ▸ named.presented, ?_⟩
    rcases active with same | other
    · rw [same]
      exact named.active
    · exact other
  cases updated with
  | scratch same => exact ofSame same.outputTarget (.inl (same.hosts ▸ rfl))
  | frame carried preparation same =>
      exact ofSame same.outputTarget (.inl (same.hosts ▸ rfl))
  | removal removed => exact ofSame rfl (.inl rfl)
  | store touched upserted keyed => exact ofSame rfl (.inl rfl)
  | activate touched activated =>
      obtain ⟨⟨index, host⟩, upserted, rest⟩ := bind_eq_ok.mp activated
      cases rest
      exact ofSame rfl (.inr (HostId.valid_ne_zero
        (BleHostStateMachine.upsertHost_slot upserted).1))
  | disconnect name =>
      exact ofSame rfl (.inl BleHostStateMachine.onDisconnected_activeTarget)
  | forget name =>
      refine ofSame rfl ?_
      rcases BleHostStateMachine.clearHost_activeTarget with same | ⟨none, -⟩
      · exact .inl same
      · exact .inr fun named => nomatch none.symm.trans named
  | deactivate => exact ofSame rfl (.inr fun named => nomatch named)
  | refresh => exact named.withAvailability _ _
  | select selected =>
      obtain ⟨valid, validated, rest⟩ := bind_eq_ok.mp selected
      cases rest
      exact ⟨OutputTarget.accepted_of_validate validated,
        (fun _ impossible => by cases impossible), named.active⟩
  | wired reported =>
      by_cases selected : bridge.outputTarget.selected = .wired
      · simp only [if_pos selected]
        exact named.withAvailability _ _
      · simp only [if_neg selected]
        exact ofSame rfl (.inl rfl)

theorem handleEventInPlace_namesHosts (other : event ≠ .enterPairingMode ⟨0⟩)
    {bridge : BridgeState} (named : bridge.NamesHosts)
    {after : BridgeWork actions}
    (done : (handleEventInPlace build event).run ⟨bridge, .empty⟩ =
      .ok value after) : after.bridge.NamesHosts := by
  have moves := handleEventInPlace_moves event
    (⟨bridge, .empty⟩ : BridgeWork actions)
  rw [outcome_of_ok done] at moves
  obtain ⟨selected, presented, active⟩ := moves.onBridge named.targets
    fun _ _ updated holds => updated.namesTargets holds
  refine ⟨selected, presented, active, ?_⟩
  have start : Paired (fun _ => False) bridge.pairableHost
      bridge.pairableHost (⟨bridge, .empty⟩ : BridgeWork actions) :=
    ⟨rfl, fun _ member => absurd member List.not_mem_nil, .same⟩
  have paired := handleEventInPlace_paired event bridge.pairableHost _ _ _
    start done
  rw [paired.pairable]
  have unpaired : ∀ hostId, (if bridge.pairableHost = some hostId then none
      else bridge.pairableHost) ≠ some ⟨0⟩ := by
    intro hostId
    split
    · exact fun impossible => by cases impossible
    · exact named.pairable
  cases event with
  | enterPairingMode hostId =>
      exact fun same => other (congrArg _ (Option.some.inj same))
  | pairingModeExpired hostId => exact unpaired hostId
  | clearHost hostId => exact unpaired hostId
  | hostSecurityChanged hostId encrypted bonded bond =>
      cases bonded with
      | true => exact unpaired hostId
      | false => exact named.pairable
  | _ => exact named.pairable

end

def RuntimeCommand.answer? : RuntimeCommand → Option ManagementResponse
  | .managementResponse _ response => some response
  | _ => none

/-- Nothing is answered yet, and the hosts are named if that matters. -/
structure Asking (naming : Prop) {capacity : Nat}
    (work : RuntimeWork capacity) : Prop where
  named : naming → work.runtime.bridge.NamesHosts
  unanswered : ∀ command ∈ work.commands.toList, command.answer? = none

section

variable {capacity : Nat} {build : Build} {actions : Nat} {naming : Prop}

theorem asking_quiet
    (same : ∀ runtime, (update runtime).bridge = runtime.bridge) :
    Keeps (Asking naming) (@modifyRuntime capacity update) := by
  refine keeps_modify fun work asking =>
    ⟨fun naming => ?_, asking.unanswered⟩
  show BridgeState.NamesHosts (update work.runtime).bridge
  rw [same]
  exact asking.named naming

theorem asking_push {command : RuntimeCommand} (asks : command.answer? = none) :
    Keeps (Asking naming) (@pushCommand capacity command) := by
  apply keeps_get_bind
  intro work asking
  cases pushed : work.commands.push? command with
  | none => exact asking
  | some commands =>
      refine ⟨asking.named, ?_⟩
      intro listed member
      change listed ∈ commands.toList at member
      rw [BoundedVec.push?_eq_some.mp pushed] at member
      rcases List.mem_append.mp member with old | new
      · exact asking.unanswered listed old
      · rw [List.mem_singleton.mp new]
        exact asks

theorem asking_snapshot (priority : StoragePersistPriority) :
    Keeps (Asking naming) (@pushStorageSnapshot capacity build priority) :=
  keeps_snapshot (asking_quiet fun _ => rfl) fun _ => asking_push rfl

theorem BridgeState.NamesHosts.held {bridge : BridgeState}
    (named : bridge.NamesHosts) :
    bridge.holdWiredPresentationTransition.NamesHosts := by
  unfold BridgeState.holdWiredPresentationTransition
  split
  · obtain ⟨selected, presented, active⟩ :=
      named.targets.withAvailability .connectedNotReady .connectedNotReady
    exact ⟨selected, presented, active, named.pairable⟩
  · exact named

theorem asking_dispatchOne (priority : Option StoragePersistPriority)
    (action : BridgeAction) :
    Keeps (Asking naming)
      (@dispatchBridgeAction capacity build priority action) := by
  refine PassesOn.keeps ⟨fun command passes => asking_push ?_, asking_snapshot,
    fun _ _ _ _ _ => asking_quiet fun _ => rfl, fun _ => ?_⟩ priority
  · cases command with
    | managementResponse _ _ => cases passes
    | _ => rfl
  · exact keeps_modify fun work asking =>
      ⟨fun naming => (asking.named naming).held, asking.unanswered⟩

theorem asking_append (other : event ≠ .enterPairingMode ⟨0⟩) :
    Leads (Asking naming)
      (@handleBridgeEventAppend capacity build actions event)
      (Asking naming) := by
  refine leads_bind (leads_of_keeps (asking_quiet fun _ =>
    observeBridgeEvent_bridge _ event)) fun _ => leads_bind ?_ fun _ =>
      leads_of_keeps (keeps_dispatch fun _ _ => asking_dispatchOne _ _)
  intro work emitted after asking called
  obtain ⟨⟨left, done, -, runtime⟩, -, commands⟩ := callBridge_logs called
  refine ⟨fun naming => ?_, commands ▸ asking.unanswered⟩
  rw [runtime]
  exact handleEventInPlace_namesHosts other (asking.named naming) done

end

section

variable {capacity : Nat} {build : Build} {actions : Nat} {naming : Prop}

abbrev StaysAsking (naming : Prop) {α : Type}
    (program : RuntimeM capacity α) : Prop :=
  Leads (Asking naming) program (Asking naming)

theorem asking_read {α : Type} {second : BridgeRuntime → RuntimeM capacity α}
    (kept : ∀ runtime, StaysAsking naming (second runtime)) :
    StaysAsking naming (readRuntime >>= second) :=
  leads_bind (leads_of_keeps fun _ asking => asking) kept

theorem asking_pure {α : Type} (value : α) :
    StaysAsking naming (pure value : RuntimeM capacity α) :=
  leads_of_keeps (keeps_pure value)

theorem asking_update {update : BridgeRuntime → BridgeRuntime}
    (same : ∀ runtime, (update runtime).bridge = runtime.bridge) :
    StaysAsking naming (@modifyRuntime capacity update) :=
  leads_of_keeps (asking_quiet same)

theorem asking_beginWired :
    StaysAsking naming (beginWiredPresentationTransition :
      RuntimeM capacity UInt32) := by
  apply leads_readRuntime
  intro work asking
  refine leads_lift_bind fun begun done => ?_
  obtain ⟨next, operationId⟩ := begun
  rw [BridgeState.beginWiredPresentationTransition, captureSuppression_eq]
    at done
  cases done
  refine leads_bind (leads_modify fun state same => ?_) fun _ => asking_pure _
  rw [same]
  refine ⟨fun naming => ?_, asking.unanswered⟩
  obtain ⟨selected, _, active, pairable⟩ := asking.named naming
  exact ⟨selected, (fun _ impossible => by cases impossible), active, pairable⟩

theorem asking_beginPresentation (target : Option MirrorCandidateId) :
    StaysAsking naming (@beginPresentationTransition capacity target) := by
  refine leads_bind asking_beginWired fun operationId =>
    leads_bind (asking_update fun _ => rfl) fun _ =>
      leads_bind (leads_of_keeps (asking_push rfl)) fun _ => ?_
  cases target with
  | none => exact leads_of_keeps (asking_push rfl)
  | some candidate =>
      apply asking_read
      intro runtime
      cases runtime.mirrorProfileHash candidate with
      | none => exact leads_throw
      | some profileHash => exact leads_of_keeps (asking_push rfl)

theorem asking_linked (bleHost : Option HostId) :
    StaysAsking naming (executeDualCommand actions (.setWiredHostLink bleHost) :
      RuntimeM capacity ManagementResult) := by
  refine asking_read fun runtime => ?_
  dsimp only
  split
  · exact asking_pure _
  refine leads_bind (leads_whenever (leads_bind (leads_modify
    fun work asking => ?_) fun _ => leads_of_keeps (asking_snapshot _)))
      fun _ => asking_pure _
  refine ⟨fun naming => ?_, asking.unanswered⟩
  obtain ⟨selected, presented, active, pairable⟩ := asking.named naming
  exact ⟨selected, presented, active, pairable⟩

theorem asking_commands :
    CommandsKept build actions False (@Asking naming capacity) where
  quiet work next quiet asking := by
    refine ⟨fun naming => ?_, asking.unanswered⟩
    show BridgeState.NamesHosts next.bridge
    rw [quiet.bridge]
    exact asking.named naming
  event event _ other := keepsIf_of_leads (asking_append other)
  snapshot priority := keepsIf_of_keeps (asking_snapshot priority)
  logLevel _ := keepsIf_of_keeps (asking_push rfl)
  presentation _ target := keepsIf_of_leads (asking_beginPresentation target)
  linked _ bleHost := keepsIf_of_leads (asking_linked bleHost)

end

/-- The answer, if it is `Ok`, says nothing of the active host or of the one
that pairs. -/
def ManagementCommand.asksOwn {build : Build} :
    ManagementCommand build → Bool
  | .getHostInfo _ | .setHostName _ _ | .getHostTiming _ | .getSetting _ _
  | .setSetting _ _ _ => true
  | _ => false

namespace BridgeRuntime

variable {runtime : BridgeRuntime} {build : Build}

theorem status_accepted (named : runtime.bridge.NamesHosts) :
    (ManagementResponsePayload.status runtime.managementStatus).Accepted
      build := by
  refine ⟨named.active, named.pairable, ?_⟩
  rw [UInt8.le_iff_toNat_le]
  show (UInt8.ofNat (min runtime.bridge.hosts.hosts.length 4)).toNat ≤ 4
  rw [UInt8.toNat_ofNat']
  exact Nat.le_trans (Nat.mod_le _ _) (Nat.min_le_right _ _)

theorem answer_ok
    (accepted : ∀ found, payload = some found → found.Accepted build) :
    (runtime.answer .ok payload).Accepted build := by
  rw [answer, if_pos rfl]
  cases payload with
  | none => trivial
  | some found => exact accepted found rfl

theorem answer_refused (named : runtime.bridge.NamesHosts)
    (refused : result ≠ .ok) (payload : Option ManagementResponsePayload) :
    (runtime.answer result payload).Accepted build := by
  rw [answer, if_neg refused]
  exact status_accepted named

theorem answer_accepted (named : result ≠ .ok → runtime.bridge.NamesHosts)
    (accepted : ∀ found, payload = some found → found.Accepted build) :
    (runtime.answer result payload).Accepted build := by
  by_cases ok : result = .ok
  · rw [ok]
    exact answer_ok accepted
  · exact answer_refused (named ok) ok payload

variable {found : ManagementResponsePayload}

theorem hostInfo_accepted (described :
      (runtime.managementHostInfo hostId).map .hostInfo = some found) :
    found.Accepted build := by
  obtain ⟨info, informed, rfl⟩ := Option.map_eq_some_iff.mp described
  obtain ⟨host, -, rfl⟩ := Option.map_eq_some_iff.mp informed
  show _ = 1 ∨ _ = 2
  dsimp only
  split
  · exact .inl rfl
  · exact .inr rfl

theorem readyBleMask_small {ready : Nat → Bool} {indices : List Nat}
    (few : ∀ index ∈ indices, index < 4) {mask : BitVec 8}
    (small : mask &&& 0x0f = mask) :
    indices.foldl (fun (mask : BitVec 8) index =>
        if ready index then mask ||| (1#8 <<< index) else mask) mask &&&
      0x0f = indices.foldl (fun (mask : BitVec 8) index =>
        if ready index then mask ||| (1#8 <<< index) else mask) mask := by
  induction indices generalizing mask with
  | nil => exact small
  | cons index rest ih =>
      have others := fun other member => few other
        (List.mem_cons_of_mem index member)
      have inside := few index List.mem_cons_self
      have bit : (1#8 <<< index) &&& 0x0f = 1#8 <<< index := by
        clear ih others few
        interval_cases index <;> decide
      rw [List.foldl_cons]
      apply ih others
      split
      · rw [BitVec.and_or_distrib_right, small, bit]
      · exact small

theorem outputTargetStatus_accepted (named : runtime.bridge.NamesHosts) :
    (ManagementResponsePayload.outputTargetStatus
      runtime.managementOutputTargetStatus).Accepted .dual := by
  refine ⟨rfl, named.selected, named.presented, ?_⟩
  refine readyBleMask_small (fun index member => ?_) (by decide)
  exact Nat.lt_of_lt_of_le (List.mem_range.mp member) (Nat.min_le_right _ _)

def describedBy (runtime : BridgeRuntime) (index : UInt8) :
    Option UsbHidInterfaceRuntimeState :=
  (runtime.usbDevices[index.toNat]?.bind fun deviceId =>
    (runtime.interfacesOf deviceId).head?).filter (·.inputProfileId.isSome)

structure HostsReadable (runtime : BridgeRuntime) : Prop where
  selected : ManagementOutputTarget.Accepted
    runtime.bridge.outputTarget.selected
  active : runtime.bridge.hosts.activeTarget ≠ some ⟨0⟩
  pairable : runtime.bridge.pairableHost ≠ some ⟨0⟩

theorem HostsReadable.namesHosts (readable : runtime.HostsReadable)
    (reachable : RuntimeReachable build runtime) :
    runtime.bridge.NamesHosts where
  selected := readable.selected
  presented target active := by
    rw [reachable.hostsSound.active target active]
    exact readable.selected
  active := readable.active
  pairable := readable.pairable

def DeviceReadable (runtime : BridgeRuntime) (index nameOffset : UInt8) :
    Prop :=
  match runtime.describedBy index with
  | some interface => nameOffset.toNat ≤ interface.name.asBytes.length
  | none => runtime.HostsReadable

def CandidateReadable (runtime : BridgeRuntime)
    (candidate : MirrorCandidateId) : Prop :=
  match runtime.mirrorCandidates.get candidate with
  | some metadata => metadata.sourceDevice ≠ some ⟨0xff⟩
  | none => runtime.HostsReadable

def knowsHost (runtime : BridgeRuntime) (hostId : HostId) : Bool :=
  validManagementHost runtime.bridge.hosts.hosts.length hostId &&
    (runtime.bridge.hosts.host hostId).isSome

/-- Which requests are answered with a host, its times or a setting. -/
def answersAlone (runtime : BridgeRuntime) : ManagementCommand build → Bool
  | .getHostInfo hostId => runtime.knowsHost hostId
  | .getHostTiming hostId =>
      validManagementHost runtime.bridge.hosts.hosts.length hostId
  | .getSetting id target => (runtime.settingValue id target).isSome
  | .setHostName hostId name =>
      runtime.storageHealth.allowsPersistentMutation &&
        runtime.knowsHost hostId && (FixedName.fromAscii name.asBytes).isSome
  | .setSetting id target value =>
      runtime.storageHealth.allowsPersistentMutation &&
        (runtime.setSetting id target value).isSome
  | _ => false

theorem asksOwn_of_answersAlone {command : ManagementCommand build}
    (alone : runtime.answersAlone command = true) :
    command.asksOwn = true := by
  cases command with
  | getHostInfo | setHostName | getHostTiming | getSetting | setSetting => rfl
  | _ => cases alone

/-- Which requests the clients can read the answer to.  One that says nothing
about its question has the status of the hosts. -/
def Readable (runtime : BridgeRuntime) (destination : ManagementDestination) :
    ManagementCommand build → Prop
  | .getDiagnostics | .getHistory _ | .getSchema => True
  | .getClientSession => destination ≠ .ble ⟨0⟩
  | .getUsbDevice index nameOffset => runtime.DeviceReadable index nameOffset
  | .getMirrorCandidate candidate => runtime.CandidateReadable candidate
  | command => runtime.answersAlone command = true ∨ runtime.HostsReadable

theorem usbDevice_described
    (found : runtime.managementUsbDevice index nameOffset = some device) :
    ∃ interface, runtime.describedBy index = some interface ∧
      device.nameOffset = nameOffset ∧
      device.nameLen.toNat = min interface.name.asBytes.length 255 ∧
      device.nameChunk.toList.length =
        min 4 (interface.name.asBytes.length - nameOffset.toNat) := by
  obtain ⟨deviceId, listed, found⟩ := Option.bind_eq_some_iff.mp found
  obtain ⟨selected, first, found⟩ := Option.bind_eq_some_iff.mp found
  obtain ⟨inputProfileId, profiled, found⟩ := Option.bind_eq_some_iff.mp found
  cases found
  refine ⟨selected, ?_, rfl, ?_, ?_⟩
  · rw [describedBy, listed, Option.bind_some, first, Option.filter_some,
      profiled]
    rfl
  · show (UInt8.ofNat (min selected.name.asBytes.length 255)).toNat = _
    apply UInt8.toNat_ofNat_of_lt'
    rw [UInt8.size]
    omega
  · show ((selected.name.asBytes.drop nameOffset.toNat).take 4).length = _
    rw [List.length_take, List.length_drop]

theorem usbDevice_of_described (nameOffset : UInt8)
    (described : runtime.describedBy index = some interface) :
    (runtime.managementUsbDevice index nameOffset).isSome = true := by
  obtain ⟨found, profiled⟩ := Option.filter_eq_some_iff.mp described
  obtain ⟨deviceId, listed, first⟩ := Option.bind_eq_some_iff.mp found
  obtain ⟨inputProfileId, profile⟩ := Option.isSome_iff_exists.mp profiled
  rw [managementUsbDevice, listed]
  simp only [Option.bind_eq_bind, Option.bind_some, first, profile]
  rfl

theorem usbDevice_readable
    (described : runtime.describedBy index = some interface)
    (inside : nameOffset.toNat ≤ interface.name.asBytes.length)
    (answered : (runtime.managementUsbDevice index nameOffset).map .usbDevice =
      some found) : found.Accepted build := by
  obtain ⟨device, listed, rfl⟩ := Option.map_eq_some_iff.mp answered
  obtain ⟨same, known, offset, length, chunk⟩ := usbDevice_described listed
  obtain rfl := Option.some.inj (described.symm.trans known)
  show min 255 (device.nameOffset.toNat + device.nameChunk.toList.length) ≤
    device.nameLen.toNat
  rw [offset, length, chunk]
  omega

theorem mirrorCandidate_readable
    (listed : runtime.mirrorCandidates.get candidate = some metadata)
    (named : metadata.sourceDevice ≠ some ⟨0xff⟩)
    (answered : (runtime.managementMirrorCandidate candidate).map
      .mirrorCandidate = some found) : found.Accepted .dual := by
  rw [managementMirrorCandidate, listed] at answered
  cases answered
  refine ⟨rfl, ?_⟩
  intro last
  obtain ⟨device, source, value⟩ := Option.map_eq_some_iff.mp last
  apply named
  rw [source, ← value]

end BridgeRuntime

section

variable {capacity : Nat} {build : Build} {actions events : Nat}
  {nowMs : UInt64} {before after : RuntimeWork capacity}
  {result : ManagementResult}

def ManagementCommand.isQuery {build : Build} :
    ManagementCommand build → Bool
  | .getDiagnostics | .getHistory _ | .getSchema | .getClientSession
  | .getUsbDevice _ _ | .getMirrorCandidate _ => true
  | _ => false

theorem unchanged_of_query (query : command.isQuery = true)
    (executed : Succeeds (executeManagementCommand build actions nowMs command)
      before result after) : after = before := by
  have kept : Keeps (· = before)
      (executeCommand build actions nowMs command) := by
    cases command with
    | getUsbDevice index nameOffset =>
        exact keeps_readRuntime_bind fun _ =>
          keeps_ite (keeps_pure _) (keeps_pure _)
    | getMirrorCandidate candidate =>
        exact keeps_readRuntime_bind fun _ =>
          keeps_ite (keeps_pure _) (keeps_pure _)
    | getDiagnostics => cases build <;> exact keeps_pure _
    | getHistory index => cases build <;> exact keeps_pure _
    | getSchema => cases build <;> exact keeps_pure _
    | getClientSession => cases build <;> exact keeps_pure _
    | _ => cases query
  exact leads_of_keeps (keeps_readRuntime_bind fun _ =>
    keeps_ite (keeps_pure _) kept) before result after rfl executed

theorem executed_of_allowed
    (allowed : (managementCommandRequiresStorage command &&
      !before.runtime.storageHealth.allowsPersistentMutation) = false)
    (executed : Succeeds (executeManagementCommand build actions nowMs command)
      before result after) :
    Succeeds (executeCommand build actions nowMs command) before result
      after := by
  simp only [executeManagementCommand, succeeds_bind, succeeds_readRuntime,
    succeeds_ite] at executed
  obtain ⟨_, _, ⟨rfl, rfl⟩, executed⟩ := executed
  rcases executed with ⟨refused, -⟩ | ⟨-, executed⟩
  · rw [allowed] at refused
    cases refused
  · exact executed

theorem executed_of_known
    {program : RuntimeM capacity ManagementResult}
    (known : before.runtime.knowsHost hostId = true)
    (executed : Succeeds (withKnownHost hostId program) before result
      after) : Succeeds program before result after := by
  obtain ⟨valid, listed⟩ := Bool.and_eq_true_iff.mp known
  simp only [withKnownHost, succeeds_bind, succeeds_readRuntime,
    succeeds_ite] at executed
  obtain ⟨_, _, ⟨rfl, rfl⟩, executed⟩ := executed
  rcases executed with ⟨invalid, -⟩ | ⟨-, ⟨missing, -⟩ | ⟨-, executed⟩⟩
  · rw [valid] at invalid
    cases invalid
  · rw [Option.isNone_iff_eq_none.mp missing] at listed
    cases listed
  · exact executed

theorem ok_of_answersAlone (alone : before.runtime.answersAlone command = true)
    (executed : Succeeds (executeManagementCommand build actions nowMs command)
      before result after) : result = .ok := by
  cases command with
  | getHostInfo hostId =>
      have done := executed_of_known alone (executed_of_allowed rfl executed)
      exact (succeeds_pure.mp done).1.symm
  | getHostTiming hostId =>
      have done := executed_of_allowed rfl executed
      simp only [executeCommand, succeeds_bind, succeeds_readRuntime,
        succeeds_ite, succeeds_pure] at done
      obtain ⟨_, _, ⟨rfl, rfl⟩, done⟩ := done
      rcases done with ⟨-, rfl, -⟩ | ⟨invalid, -⟩
      · rfl
      · exact absurd alone invalid
  | getSetting id target =>
      have done := executed_of_allowed rfl executed
      simp only [executeCommand, succeeds_bind, succeeds_readRuntime,
        succeeds_ite, succeeds_pure] at done
      obtain ⟨_, _, ⟨rfl, rfl⟩, done⟩ := done
      rcases done with ⟨-, rfl, -⟩ | ⟨unknown, -⟩
      · rfl
      · exact absurd alone unknown
  | setHostName hostId name =>
      simp only [BridgeRuntime.answersAlone, Bool.and_eq_true] at alone
      obtain ⟨⟨allowed, known⟩, ascii⟩ := alone
      obtain ⟨fixed, spelled⟩ := Option.isSome_iff_exists.mp ascii
      have done := executed_of_known known
        (executed_of_allowed (by simp [allowed]) executed)
      simp only [spelled, succeeds_bind, succeeds_pure] at done
      obtain ⟨_, _, -, rfl, -⟩ := done
      rfl
  | setSetting id target value =>
      simp only [BridgeRuntime.answersAlone, Bool.and_eq_true] at alone
      obtain ⟨allowed, valued⟩ := alone
      obtain ⟨next, set⟩ := Option.isSome_iff_exists.mp valued
      have done : Succeeds (setSettingCommand build actions id target value)
        before result after := executed_of_allowed (by simp [allowed]) executed
      simp only [setSettingCommand, succeeds_bind, succeeds_readRuntime] at done
      obtain ⟨_, _, ⟨rfl, rfl⟩, done⟩ := done
      simp only [set, succeeds_bind] at done
      obtain ⟨_, _, -, done⟩ := done
      split at done
      all_goals
        simp only [succeeds_bind, succeeds_pure] at done
        grind
  | _ => cases alone

theorem found_of_question {found : BridgeRuntime → Bool}
    (asked : Succeeds (do
      if found (← readRuntime) then return ManagementResult.ok
      else return .notFound : RuntimeM capacity ManagementResult) before result
        after) : result = .ok ↔ found before.runtime = true := by
  simp only [succeeds_bind, succeeds_readRuntime, succeeds_ite,
    succeeds_pure] at asked
  obtain ⟨_, _, ⟨rfl, rfl⟩, asked⟩ := asked
  rcases asked with ⟨present, rfl, -⟩ | ⟨missing, rfl, -⟩
  · exact ⟨fun _ => present, fun _ => rfl⟩
  · exact ⟨(fun impossible => by cases impossible),
      fun present => absurd present missing⟩

theorem found_of_usbDevice
    (executed : Succeeds (executeManagementCommand build actions nowMs
      (.getUsbDevice index nameOffset)) before result after) :
    result = .ok ↔
      (before.runtime.managementUsbDevice index 0).isSome = true :=
  @found_of_question _ _ _ _
    (fun runtime => (runtime.managementUsbDevice index 0).isSome)
    (executed_of_allowed rfl executed)

theorem found_of_mirrorCandidate
    (executed : Succeeds (executeManagementCommand .dual actions nowMs
      (.getMirrorCandidate candidate)) before result after) :
    result = .ok ↔
      (before.runtime.mirrorCandidates.get candidate).isSome = true :=
  @found_of_question _ _ _ _
    (fun runtime => (runtime.mirrorCandidates.get candidate).isSome)
    (executed_of_allowed rfl executed)

theorem listed_before_power
    (other : ∀ state, listed ≠ .setUsbHostBusState state)
    (power : Succeeds (reconcileUsbHostPower build) before done after)
    (member : listed ∈ after.commands.toList) :
    listed ∈ before.commands.toList := by
  have kept : Keeps (fun work : RuntimeWork capacity =>
      listed ∈ work.commands.toList → listed ∈ before.commands.toList)
      (reconcileUsbHostPower build) := by
    refine keeps_readRuntime_bind fun runtime => ?_
    dsimp only
    refine keeps_bind (keeps_modify fun _ old => old) fun _ => ?_
    split
    · rename_i state changed
      apply keeps_get_bind
      intro work old
      cases pushed : work.commands.push? (.setUsbHostBusState state) with
      | none => exact old
      | some commands =>
          intro new
          change listed ∈ commands.toList at new
          rw [BoundedVec.push?_eq_some.mp pushed] at new
          rcases List.mem_append.mp new with inside | last
          · exact old inside
          · exact absurd (List.mem_singleton.mp last) (other state)
    · exact keeps_pure ()
  exact leads_of_keeps kept before done after id power member

theorem answered_request
    (handled : runtime.handleInput build actions events capacity
      (.managementRequest destination request nowMs) = .ok work)
    (answered : response ∈
      work.commands.toList.filterMap RuntimeCommand.answer?) :
    ∃ result middle, Succeeds (executeManagementCommand build actions nowMs
        request.command) (⟨runtime, .empty, []⟩ : RuntimeWork capacity) result
        middle ∧
      ((∀ command ∈ middle.commands.toList, command.answer? = none) →
        response = ⟨request.requestId, result,
          middle.runtime.managementResponsePayload destination request.command
            result⟩) := by
  obtain ⟨command, member, carried⟩ := List.mem_filterMap.mp answered
  obtain ⟨_, managed, core, power⟩ := succeeds_bind.mp (handleInput_ok handled)
  have asked : Succeeds (handleManagementRequest build actions destination
      request nowMs) (⟨runtime, .empty, []⟩ : RuntimeWork capacity) () managed :=
    core
  simp only [handleManagementRequest, clearCommands, succeeds_bind,
    succeeds_modify, succeeds_readRuntime, succeeds_pushCommand] at asked
  obtain ⟨_, _, rfl, result, middle, executed, _, _, ⟨rfl, rfl⟩, -, -, pushed⟩ :=
    asked
  refine ⟨result, middle, executed, fun unanswered => ?_⟩
  have other : ∀ state, command ≠ .setUsbHostBusState state := by
    intro state same
    rw [same] at carried
    cases carried
  have listed := listed_before_power other power member
  rw [pushed] at listed
  rcases List.mem_append.mp listed with old | new
  · rw [unanswered command old] at carried
    cases carried
  · rw [List.mem_singleton.mp new] at carried
    exact (Option.some.inj carried).symm

end

section

variable {capacity : Nat} {build : Build} {actions events : Nat}
  {nowMs : UInt64} {runtime : BridgeRuntime} {work : RuntimeWork capacity}
  {destination : ManagementDestination} {request : ManagementRequest build}

theorem payload_accepted {command : ManagementCommand build}
    (named : ¬ (result = .ok ∧ command.asksOwn = true) →
      runtime.bridge.NamesHosts) (other : command.isQuery = false) :
    (runtime.managementResponsePayload destination command result).Accepted
      build := by
  have refused : result ≠ .ok → runtime.bridge.NamesHosts :=
    fun failed => named fun own => failed own.1
  have shared (status : command.asksOwn = false) : runtime.bridge.NamesHosts :=
    named fun own => Bool.noConfusion (status.symm.trans own.2)
  cases command with
  | getHostInfo hostId =>
      exact BridgeRuntime.answer_accepted refused fun found described =>
        BridgeRuntime.hostInfo_accepted described
  | setHostName hostId name =>
      exact BridgeRuntime.answer_accepted refused fun found described =>
        BridgeRuntime.hostInfo_accepted described
  | getHostTiming hostId =>
      refine BridgeRuntime.answer_accepted refused fun found timed => ?_
      cases timed
      trivial
  | getSetting setting target =>
      refine BridgeRuntime.answer_accepted refused fun found valued => ?_
      cases valued
      trivial
  | setSetting setting target value =>
      refine BridgeRuntime.answer_accepted refused fun found valued => ?_
      cases valued
      trivial
  | selectOutputTarget target =>
      exact BridgeRuntime.outputTargetStatus_accepted (shared rfl)
  | getOutputTargetStatus =>
      exact BridgeRuntime.outputTargetStatus_accepted (shared rfl)
  | setMirrorTarget candidate =>
      exact BridgeRuntime.outputTargetStatus_accepted (shared rfl)
  | clearMirrorTarget =>
      exact BridgeRuntime.outputTargetStatus_accepted (shared rfl)
  | setWiredHostLink bleHost =>
      exact BridgeRuntime.outputTargetStatus_accepted (shared rfl)
  | getStatus => exact BridgeRuntime.status_accepted (shared rfl)
  | selectHost hostId => exact BridgeRuntime.status_accepted (shared rfl)
  | startPairing hostId => exact BridgeRuntime.status_accepted (shared rfl)
  | forgetHost hostId => exact BridgeRuntime.status_accepted (shared rfl)
  | cancelPairing => exact BridgeRuntime.status_accepted (shared rfl)
  | _ => cases other

theorem query_accepted (reachable : RuntimeReachable build runtime)
    (readable : runtime.Readable destination command)
    (query : command.isQuery = true) (start : before.runtime = runtime)
    (executed : Succeeds (executeManagementCommand build actions nowMs command)
      before result after) :
    (runtime.managementResponsePayload destination command result).Accepted
      build := by
  subst start
  cases command with
  | getDiagnostics => trivial
  | getHistory index =>
      show ManagementResponsePayload.Accepted build (Option.getD _ _)
      cases before.runtime.history.toList.reverse[index.toNat]? <;> trivial
  | getSchema => trivial
  | getClientSession =>
      cases destination with
      | wiredHid => exact fun same => nomatch same
      | debugSerial => exact fun same => nomatch same
      | ble hostId =>
          intro same
          exact readable (congrArg _ (Option.some.inj same))
  | getUsbDevice index nameOffset =>
      have found := found_of_usbDevice executed
      change before.runtime.DeviceReadable index nameOffset at readable
      unfold BridgeRuntime.DeviceReadable at readable
      cases described : before.runtime.describedBy index with
      | some interface =>
          rw [described] at readable
          rw [found.mpr (BridgeRuntime.usbDevice_of_described 0 described)]
          exact BridgeRuntime.answer_ok fun _ answered =>
            BridgeRuntime.usbDevice_readable described readable answered
      | none =>
          rw [described] at readable
          refine BridgeRuntime.answer_refused (readable.namesHosts reachable)
            (fun ok => ?_) _
          obtain ⟨device, listed⟩ :=
            Option.isSome_iff_exists.mp (found.mp ok)
          obtain ⟨interface, known, -⟩ :=
            BridgeRuntime.usbDevice_described listed
          cases described.symm.trans known
  | getMirrorCandidate candidate =>
      have found := found_of_mirrorCandidate executed
      change before.runtime.CandidateReadable candidate at readable
      unfold BridgeRuntime.CandidateReadable at readable
      cases listed : before.runtime.mirrorCandidates.get candidate with
      | some metadata =>
          rw [listed] at readable found
          rw [found.mpr rfl]
          exact BridgeRuntime.answer_ok fun _ answered =>
            BridgeRuntime.mirrorCandidate_readable listed readable answered
      | none =>
          rw [listed] at readable found
          exact BridgeRuntime.answer_refused (readable.namesHosts reachable)
            (fun ok => Bool.noConfusion (found.mp ok)) _
  | _ => cases query

theorem readable_of_command (readable : runtime.Readable destination command)
    (other : command.isQuery = false) :
    runtime.answersAlone command = true ∨ runtime.HostsReadable := by
  cases command with
  | getDiagnostics => cases other
  | getHistory index => cases other
  | getSchema => cases other
  | getClientSession => cases other
  | getUsbDevice index nameOffset => cases other
  | getMirrorCandidate candidate => cases other
  | _ => exact readable

/-- Whatever a client asks in a reachable state, it can read the answer, if
the hosts, the place in the name and the source of the candidate it is about
are in the range of the protocol.  A place behind the end of the name of a
device makes the answer unreadable. -/
theorem management_answers_readable (reachable : RuntimeReachable build runtime)
    (handled : runtime.handleInput build actions events capacity
      (.managementRequest destination request nowMs) = .ok work)
    {response : ManagementResponse}
    (answered : response ∈
      work.commands.toList.filterMap RuntimeCommand.answer?) :
    (runtime.Readable destination request.command →
      ManagementResponse.decodeOf build response.encode = .ok response) ∧
    ∀ index nameOffset interface,
      request.command = .getUsbDevice index nameOffset →
      runtime.describedBy index = some interface →
      interface.name.asBytes.length < nameOffset.toNat →
        ManagementResponse.decodeOf build response.encode =
          .error .invalidArgument := by
  obtain ⟨result, middle, executed, answers⟩ := answered_request handled answered
  constructor
  · intro readable
    cases query : request.command.isQuery with
    | true =>
        obtain rfl := unchanged_of_query query executed
        rw [answers fun _ member => absurd member List.not_mem_nil]
        exact ManagementResponse.decodeOf_accepted
          (query_accepted reachable readable query rfl executed)
    | false =>
        have asks (naming : Prop) (named : naming → runtime.bridge.NamesHosts) :
            Asking naming middle :=
          (asking_commands.management nowMs request.command).leads _ _ _
            ⟨named, fun _ member => absurd member List.not_mem_nil⟩ executed
        rw [answers (asks False False.elim).unanswered]
        apply ManagementResponse.decodeOf_accepted
        refine payload_accepted (fun unowned => ?_) query
        rcases readable_of_command readable query with alone | readable
        · exact absurd ⟨ok_of_answersAlone alone executed,
            BridgeRuntime.asksOwn_of_answersAlone alone⟩ unowned
        · exact (asks True fun _ =>
            readable.namesHosts reachable).named trivial
  · intro index nameOffset interface asked described behind
    rw [asked] at executed answers
    obtain rfl := unchanged_of_query rfl executed
    rw [answers fun _ member => absurd member List.not_mem_nil,
      (found_of_usbDevice executed).mpr
        (BridgeRuntime.usbDevice_of_described 0 described)]
    obtain ⟨device, listed⟩ := Option.isSome_iff_exists.mp
      (BridgeRuntime.usbDevice_of_described nameOffset described)
    obtain ⟨same, known, offset, length, chunk⟩ :=
      BridgeRuntime.usbDevice_described listed
    obtain rfl := Option.some.inj (described.symm.trans known)
    have payload : runtime.managementResponsePayload destination
        (.getUsbDevice index nameOffset : ManagementCommand build) .ok =
        .usbDevice device := by
      show (((runtime.managementUsbDevice index nameOffset).map
        ManagementResponsePayload.usbDevice).getD .none) = _
      rw [listed]
      rfl
    rw [payload]
    apply ManagementResponse.decodeOf_refused
    have small : nameOffset.toNat < 256 := nameOffset.toNat_lt
    rw [offset, length, chunk]
    omega

end

def namedKeyboard : List (RuntimeInput .dual) :=
  [.usbHidInterfaceConnected ⟨1⟩ ⟨1⟩ none,
    .usbDeviceMetadataUpdated ⟨1⟩ ⟨1, 1, 1⟩
      ((FixedName.fromAscii [0x4b, 0x65, 0x79, 0x73]).getD .empty) 2]

def nameRequest (nameOffset : UInt8) : List UInt8 :=
  padTo managementRequestLen
    [managementProtocolVersion, 7, 0x08, 2, 0, nameOffset]

def nameQuestion (nameOffset : UInt8) : RuntimeInput .dual :=
  .managementRequest .wiredHid ⟨7, .getUsbDevice 0 nameOffset⟩ 5

/-- The name ends at four, and the answer about five is dropped. -/
theorem name_offset_unreadable :
    ¬ ∀ (runtime : BridgeRuntime) (destination : ManagementDestination)
      (bytes : List UInt8) (request : ManagementRequest .dual)
      (nowMs : UInt64) (actions events capacity : Nat)
      (work : RuntimeWork capacity) (response : ManagementResponse),
      RuntimeReachable .dual runtime →
      ManagementRequest.decode .dual bytes = .ok request →
      runtime.handleInput .dual actions events capacity
        (.managementRequest destination request nowMs) = .ok work →
      response ∈ work.commands.toList.filterMap RuntimeCommand.answer? →
      ManagementResponse.decode response.encode = .ok response := by
  intro all
  obtain ⟨work, handled, performed⟩ := RuntimeScenario.handled
    (by decide +kernel : ((RuntimeScenario.final namedKeyboard).handleInput
      .dual runtimeBridgeActionCapacity runtimeBleEventCapacity
      runtimeCommandCapacity (nameQuestion 5)).isOk = true)
  have dropped : (((RuntimeScenario.final namedKeyboard).perform
      (RuntimeScenario.call (nameQuestion 5))).2.filterMap
        RuntimeCommand.answer?).any (fun response =>
          !(ManagementResponse.decode response.encode).isOk) = true := by
    decide +kernel
  rw [performed] at dropped
  obtain ⟨response, answered, unreadable⟩ := List.any_eq_true.mp dropped
  have read := all _ .wiredHid (nameRequest 5) _ 5 _ _ _ work response
    (RuntimeScenario.reachable namedKeyboard) rfl handled answered
  rw [read] at unreadable
  cases unreadable

theorem management_answers_readable_named :
    ∃ response ∈ ((RuntimeScenario.final namedKeyboard).perform
        (RuntimeScenario.call (nameQuestion 0))).2.filterMap
          RuntimeCommand.answer?,
      ManagementResponse.decodeOf .dual response.encode = .ok response := by
  obtain ⟨work, handled, performed⟩ := RuntimeScenario.handled
    (by decide +kernel : ((RuntimeScenario.final namedKeyboard).handleInput
      .dual runtimeBridgeActionCapacity runtimeBleEventCapacity
      runtimeCommandCapacity (nameQuestion 0)).isOk = true)
  have present : (((RuntimeScenario.final namedKeyboard).perform
      (RuntimeScenario.call (nameQuestion 0))).2.filterMap
        RuntimeCommand.answer?).any (fun _ => true) = true := by
    decide +kernel
  have described : ((RuntimeScenario.final namedKeyboard).describedBy
      0).isSome = true := by
    decide +kernel
  obtain ⟨interface, known⟩ := Option.isSome_iff_exists.mp described
  have readable : (RuntimeScenario.final namedKeyboard).DeviceReadable 0 0 := by
    unfold BridgeRuntime.DeviceReadable
    rw [known]
    exact Nat.zero_le _
  rw [performed] at present ⊢
  obtain ⟨response, answered, -⟩ := List.any_eq_true.mp present
  exact ⟨response, answered, (management_answers_readable
    (RuntimeScenario.reachable namedKeyboard) handled answered).1 readable⟩

end HidShift
