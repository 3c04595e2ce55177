import HidShift.Bridge.Snapshot
import HidShift.Runtime.Reachable
import HidShift.Runtime.StoredImage
import HidShift.Storage.Persist

namespace HidShift

open Lib InPlace

section

variable {machine next : BleHostStateMachine} {hostId : HostId}

@[simp] theorem BleHostStateMachine.storeHost_slots (index : Nat)
    (host : HostRuntimeState) :
    (machine.storeHost index host).hosts.length = machine.hosts.length :=
  List.length_set

theorem BleHostStateMachine.setActiveTarget_slots
    (activated : machine.setActiveTarget hostId = .ok next) :
    next.hosts.length = machine.hosts.length := by
  obtain ⟨_, _, rest⟩ := bind_eq_ok.mp activated
  cases rest
  exact BleHostStateMachine.storeHost_slots _ _

theorem BleHostStateMachine.onDisconnected_slots :
    (machine.onDisconnected hostId).hosts.length = machine.hosts.length := by
  unfold BleHostStateMachine.onDisconnected
  split
  · exact BleHostStateMachine.storeHost_slots _ _
  · rfl

theorem BleHostStateMachine.clearHost_slots :
    (machine.clearHost hostId).1.hosts.length = machine.hosts.length := by
  unfold BleHostStateMachine.clearHost
  split
  · rfl
  · exact List.length_set

theorem BleHostStateMachine.restoreUntilRefused_slots :
    (machine.restoreUntilRefused list).hosts.length =
      machine.hosts.length := by
  induction list generalizing machine with
  | nil => rfl
  | cons head tail ih =>
      unfold BleHostStateMachine.restoreUntilRefused
      split
      · rename_i next restored
        obtain ⟨_, _, rest⟩ := bind_eq_ok.mp restored
        cases rest
        rw [ih]
        exact BleHostStateMachine.storeHost_slots _ _
      · rfl

theorem BleHostStateMachine.partlyRestored_slots :
    (machine.partlyRestored storage).hosts.length =
      machine.hosts.length := by
  unfold BleHostStateMachine.partlyRestored
  rw [BleHostStateMachine.restoreUntilRefused_slots]
  exact List.length_replicate

theorem BridgeUpdate.slots {bridge next : BridgeState}
    (updated : BridgeUpdate event bridge next) :
    next.hosts.hosts.length = bridge.hosts.hosts.length := by
  cases updated with
  | scratch same => rw [same.hosts]
  | frame carried preparation same => rw [same.hosts]
  | removal removed => rfl
  | store touched upserted keyed =>
      exact BleHostStateMachine.storeHost_slots _ _
  | activate touched activated =>
      exact BleHostStateMachine.setActiveTarget_slots activated
  | disconnect named => exact BleHostStateMachine.onDisconnected_slots
  | forget named => exact BleHostStateMachine.clearHost_slots
  | deactivate => rfl
  | refresh => rfl
  | select selected => rfl
  | wired reported => rfl

theorem BridgeState.restoreStorageState_slots {bridge restored : BridgeState}
    (success : bridge.restoreStorageState build storage = .ok restored) :
    restored.hosts.hosts.length = bridge.hosts.hosts.length := by
  unfold BridgeState.restoreStorageState at success
  cases loaded : bridge.hosts.restore storage with
  | error error => simp only [loaded, reduceCtorEq] at success
  | ok hosts =>
      have same : hosts.hosts.length = bridge.hosts.hosts.length := by
        rw [restore_eq_untilRefused loaded]
        exact BleHostStateMachine.partlyRestored_slots
      simp only [loaded] at success
      cases build with
      | single =>
          cases success
          exact same
      | dual =>
          cases success
          unfold BridgeState.restoreTarget
          split
          · exact same
          · exact same

theorem hostSlots_closed (build : Build) (slots : Nat) :
    BridgeClosed build True fun bridge =>
      bridge.hosts.hosts.length = slots where
  event actions event _ := by
    intro work same
    exact (handleEventInPlace_moves event work).onBridge same
      fun _ _ updated holds => updated.slots.trans holds
  held bridge same := by
    rw [holdWiredPresentationTransition_hosts]
    exact same
  begun bridge next operationId same begun := by
    unfold BridgeState.beginWiredPresentationTransition at begun
    rw [captureSuppression_eq] at begun
    cases begun
    exact same
  linked bridge bleHost same valid := same
  named bridge hostId name hosts changed same found := by
    obtain ⟨_, _, rest⟩ := bind_eq_ok.mp found
    cases rest
    exact (BleHostStateMachine.storeHost_slots _ _).trans same
  restored bridge storage restored same success :=
    (BridgeState.restoreStorageState_slots success).trans same
  partly bridge storage same :=
    BleHostStateMachine.partlyRestored_slots.trans same

theorem hostSlots_kept (reachable : Relation.ReflTransGen (RuntimeStep build)
      (.new hosts usbInterfaces generation) runtime) :
    runtime.bridge.hosts.hosts.length = hosts := by
  induction reachable with
  | refl => exact List.length_replicate
  | tail _ step ih =>
      apply (hostSlots_closed build hosts).step _ _ step ih
      · exact fun bridge hostId same =>
          BleHostStateMachine.onDisconnected_slots.trans same
      · intro bridge next same captured
        rw [captureSuppression_eq] at captured
        cases captured
        exact same

end

variable {capacity : Nat}

theorem pushCommand_first (command : RuntimeCommand) (runtime : BridgeRuntime)
    (emitted : List BridgeAction) :
    Succeeds (pushCommand command : RuntimeM (capacity + 1) Unit)
      ⟨runtime, .empty, emitted⟩ ()
      ⟨runtime, ⟨[command], Nat.succ_le_succ (Nat.zero_le _)⟩, emitted⟩ := by
  have pushed : (BoundedVec.empty :
      BoundedVec RuntimeCommand (capacity + 1)).push? command =
        some ⟨[command], Nat.succ_le_succ (Nat.zero_le _)⟩ :=
    BoundedVec.push?_eq_some.mpr rfl
  unfold pushCommand
  rw [succeeds_bind]
  refine ⟨_, _, succeeds_get.mpr ⟨rfl, rfl⟩, ?_⟩
  simp only [pushed, succeeds_set]

theorem restoreBridge_ok {work : RuntimeWork capacity}
    (success : work.runtime.bridge.restoreStorageState build storage = .ok
      restored) :
    Succeeds (restoreBridge build storage) work ()
      { work with runtime := { work.runtime with bridge := restored } } := by
  have read : Succeeds (readRuntime : RuntimeM capacity BridgeRuntime) work
      work.runtime work := rfl
  unfold restoreBridge
  rw [succeeds_bind]
  refine ⟨_, _, read, ?_⟩
  simp only [success]
  rfl

def BridgeRuntime.restored (build : Build) (runtime : BridgeRuntime)
    (storage : StorageState) (bridge : BridgeState) : BridgeRuntime :=
  { BridgeRuntime.restoreMirrorTarget build
      { runtime with bridge := bridge } storage with
    storageGeneration := storage.generation
    globalSettings := storage.globalSettings
    inputProfiles := storage.inputProfiles
    pairingMode := none }

theorem restoreStorageState_ok {build : Build} {storage : StorageState}
    {work : RuntimeWork (capacity + 1)} {bridge : BridgeState}
    (success : work.runtime.bridge.restoreStorageState build { storage with
      lastActiveHost := storage.bootHost } = .ok bridge) :
    ∃ commands, (restoreStorageState build storage).run work =
      .ok () ⟨work.runtime.restored build storage bridge, commands,
        work.emitted⟩ := by
  refine ⟨⟨[.applyEffect (.setLogLevel storage.globalSettings.logLevel)],
    Nat.succ_le_succ (Nat.zero_le _)⟩, ?_⟩
  show Succeeds (restoreStorageState build storage) work () _
  unfold restoreStorageState
  rw [succeeds_bind]
  refine ⟨(), { work with commands := .empty }, rfl, ?_⟩
  rw [succeeds_bind]
  refine ⟨(), _, restoreBridge_ok success, ?_⟩
  rw [succeeds_bind]
  exact ⟨(), _, rfl, pushCommand_first _ _ _⟩

section

variable {runtime : BridgeRuntime}

def HostsSound.stored (sound : HostsSound runtime.bridge) : StorageState :=
  { sound.table.stored runtime.storageGeneration with
    globalSettings := runtime.globalSettings
    inputProfiles := runtime.inputProfiles }

section

variable (sound : HostsSound runtime.bridge)

theorem HostsSound.storageState :
    runtime.storageState .single = .ok sound.stored := by
  rw [BridgeRuntime.storageState, BridgeState.storageState,
    sound.table.storageState]
  rfl

theorem HostsSound.stored_valid : sound.stored.validate = .ok () := by
  have hosts : StorageState.validateHosts sound.stored.hosts.toList [] =
      .ok () := sound.table.validateHosts
  have active : sound.stored.validateActiveHost = .ok () := by
    unfold StorageState.validateActiveHost
    split
    · rfl
    · rename_i activeHost remembered
      obtain ⟨-, known⟩ := Option.filter_eq_some_iff.mp remembered
      rw [if_pos]
      exact (sound.table.stored_known activeHost).trans known
  rw [StorageState.validate, hosts, ok_bind, active]

theorem HostsSound.stored_bootHost
    (noBootTarget : runtime.globalSettings.bootTarget = 0)
    (restoreLast : runtime.globalSettings.restoreLastTarget = true) :
    sound.stored.bootHost = runtime.bridge.hosts.activeTarget.filter
      fun active => (runtime.bridge.hosts.host active).isSome := by
  have noBoot : ¬ sound.stored.globalSettings.bootTarget ≠ 0 :=
    not_not.mpr noBootTarget
  have restores : sound.stored.globalSettings.restoreLastTarget = true :=
    restoreLast
  rw [StorageState.bootHost, if_neg noBoot, if_pos restores]
  rfl

def BridgeRuntime.bootedHosts (runtime : BridgeRuntime) (slots : Nat)
    (activeTarget : Option HostId) : BleHostStateMachine where
  activeTarget := activeTarget
  hosts := frontFilled slots
    (runtime.bridge.hosts.hosts.reduceOption.map HostRuntimeState.durable)

theorem bootedHosts_host (slots : Nat) (activeTarget : Option HostId)
    (hostId : HostId) :
    (runtime.bootedHosts slots activeTarget).host hostId =
      (runtime.bridge.hosts.host hostId).map HostRuntimeState.durable := by
  rw [BridgeRuntime.bootedHosts, BleHostStateMachine.host_frontFilled,
    List.find?_map, BleHostStateMachine.host, SlotTable.lookup_eq_find?]
  rfl

theorem HostsSound.bootedHosts (sound : HostsSound runtime.bridge)
    (slots : Nat) (activeTarget : Option HostId) :
    TableSound (runtime.bootedHosts slots activeTarget) := by
  have occupied : (runtime.bootedHosts slots
      activeTarget).hosts.reduceOption =
        runtime.bridge.hosts.hosts.reduceOption.map
          HostRuntimeState.durable := FrontFilled.reduceOption
  constructor
  · have ids : (runtime.bridge.hosts.hosts.reduceOption.map
        HostRuntimeState.durable).map HostRuntimeState.hostId =
          runtime.bridge.hosts.hosts.reduceOption.map
            HostRuntimeState.hostId := List.map_map
    rw [SlotTable.Distinct, occupied, ids]
    exact sound.table.distinct
  · intro host member
    rw [occupied] at member
    obtain ⟨entry, stored, rfl⟩ := List.mem_map.mp member
    exact sound.table.valid entry stored

theorem HostsSound.booted {fresh : BridgeState}
    (slots : fresh.hosts.hosts.length = runtime.bridge.hosts.hosts.length) :
    fresh.restoreStorageState .single
      { sound.stored with lastActiveHost := sound.stored.bootHost } =
        .ok { fresh with
          hosts := runtime.bootedHosts fresh.hosts.hosts.length
            sound.stored.bootHost
          pairableHost := none } := by
  have loaded : fresh.hosts.restore
      { sound.stored with lastActiveHost := sound.stored.bootHost } =
        .ok (runtime.bootedHosts fresh.hosts.hosts.length
          sound.stored.bootHost) :=
    sound.table.restored slots.ge sound.stored.bootHost
  unfold BridgeState.restoreStorageState
  rw [loaded]

end

theorem HostsSound.stored_again (sound : HostsSound runtime.bridge)
    {restored : BridgeRuntime} (again : HostsSound restored.bridge)
    (hosts : restored.bridge.hosts = runtime.bootedHosts slots activeTarget)
    (generation : restored.storageGeneration = runtime.storageGeneration)
    (globalSettings : restored.globalSettings = runtime.globalSettings)
    (inputProfiles : restored.inputProfiles = runtime.inputProfiles) :
    { again.stored with lastActiveHost := sound.stored.lastActiveHost } =
      sound.stored := by
  have same : again.table.storedHosts = sound.table.storedHosts := by
    apply BoundedVec.ext
    have occupied : restored.bridge.hosts.hosts.reduceOption =
        runtime.bridge.hosts.hosts.reduceOption.map
          HostRuntimeState.durable := by
      rw [hosts]
      exact FrontFilled.reduceOption
    show restored.bridge.hosts.hosts.reduceOption.map _ = _
    rw [occupied]
    exact List.map_map
  unfold HostsSound.stored TableSound.stored
  rw [same, generation, globalSettings, inputProfiles]

end

/-- A runtime has the configuration of another one, without its
connections. -/
structure BridgeRuntime.Resumes (restored original : BridgeRuntime) :
    Prop where
  hosts : ∀ hostId, restored.bridge.hosts.host hostId =
    (original.bridge.hosts.host hostId).map HostRuntimeState.durable
  globalSettings : restored.globalSettings = original.globalSettings
  inputProfiles : restored.inputProfiles = original.inputProfiles
  activeTarget : original.globalSettings.bootTarget = 0 →
    original.globalSettings.restoreLastTarget = true →
      restored.bridge.hosts.activeTarget =
        original.bridge.hosts.activeTarget.filter fun active =>
          (original.bridge.hosts.host active).isSome

/-- A reachable runtime can be stored, and a new one that takes the stored
state back resumes it; an active target without an entry in the table is the
one thing that is not kept. -/
theorem snapshot_resumes {hosts usbInterfaces : Nat} {generation : UInt32}
    {runtime : BridgeRuntime}
    (reachable : Relation.ReflTransGen (RuntimeStep .single)
      (.new hosts usbInterfaces generation) runtime)
    (freshInterfaces : Nat) (freshGeneration : UInt32) {capacity : Nat}
    (commands : BoundedVec RuntimeCommand (capacity + 1)) :
    ∃ state image, runtime.storageState .single = .ok state ∧
      state.validate = .ok () ∧
      encodeStorageImage .single state = .ok image ∧
      ∃ work again,
        (restoreStorageState .single state).run
          ⟨.new hosts freshInterfaces freshGeneration, commands, []⟩ =
            .ok () work ∧
        work.runtime.Resumes runtime ∧
        work.runtime.storageState .single = .ok again ∧
        { again with lastActiveHost := state.lastActiveHost } = state := by
  have sound : HostsSound runtime.bridge :=
    RuntimeReachable.hostsSound ⟨_, _, _, reachable⟩
  let fresh : BridgeRuntime := .new hosts freshInterfaces freshGeneration
  have started : RuntimeReachable .single fresh := ⟨_, _, _, .refl⟩
  have slots : fresh.bridge.hosts.hosts.length =
      runtime.bridge.hosts.hosts.length :=
    List.length_replicate.trans (hostSlots_kept reachable).symm
  have restored := @restoreStorageState_ok capacity .single sound.stored
    ⟨fresh, commands, []⟩ _ (sound.booted slots)
  obtain ⟨pushed, ran⟩ := restored
  have again : HostsSound ({ fresh.bridge with
      hosts := runtime.bootedHosts fresh.bridge.hosts.hosts.length
        sound.stored.bootHost
      pairableHost := none } : BridgeState) :=
    started.hostsSound.of_same (sound.bootedHosts _ _) rfl rfl
  refine ⟨_, _, sound.storageState, sound.stored_valid,
    encodeStorageImage_valid .single sound.stored_valid, _, _, ran, ?_,
    HostsSound.storageState again, ?_⟩
  · constructor
    · exact bootedHosts_host _ _
    · rfl
    · rfl
    · exact sound.stored_bootHost
  · exact sound.stored_again again rfl rfl rfl rfl

/-! A stored state whose last active host has no entry, as the firmware makes
one for its first boot, gives an active target that is not stored. -/

namespace RuntimeScenario

def newRuntime : BridgeRuntime :=
  .new storedHostsMax runtimeUsbInterfacesMax 0

def firstBoot : RuntimeInput .single :=
  .restoreStorage { StorageState.new 0 with lastActiveHost := some ⟨1⟩ }

def booted : BridgeRuntime :=
  ((handleInputInPlace .single runtimeBridgeActionCapacity
    runtimeBleEventCapacity (.restoreStorage configured)).outcome
      (⟨newRuntime, .empty, []⟩ : RuntimeWork runtimeCommandCapacity)).runtime

theorem booted_reachable : Relation.ReflTransGen (RuntimeStep .single)
    newRuntime booted :=
  .single (.input runtimeBridgeActionCapacity runtimeBleEventCapacity
    (.empty : BoundedVec _ runtimeCommandCapacity) (.restoreStorage configured))

def bootedState : StorageState := { configured with presentation := .default }

theorem booted_stored : booted.storageState .single = .ok bootedState := by
  decide +kernel

end RuntimeScenario

section

open RuntimeScenario

theorem snapshot_resumes_booted :
    ∃ state image, booted.storageState .single = .ok state ∧
      state.validate = .ok () ∧
      encodeStorageImage .single state = .ok image ∧
      ∃ work again,
        (restoreStorageState .single state).run
          ⟨newRuntime, (.empty : BoundedVec RuntimeCommand 1), []⟩ =
            .ok () work ∧
        work.runtime.Resumes booted ∧
        work.runtime.storageState .single = .ok again ∧
        { again with lastActiveHost := state.lastActiveHost } = state :=
  snapshot_resumes booted_reachable runtimeUsbInterfacesMax 0 .empty

/-- The restored target differs though the settings ask for it. -/
theorem missing_target_dropped :
    ∃ work state, newRuntime.handleInput .single runtimeBridgeActionCapacity
        runtimeBleEventCapacity runtimeCommandCapacity firstBoot = .ok work ∧
      work.runtime.globalSettings.bootTarget = 0 ∧
      work.runtime.globalSettings.restoreLastTarget = true ∧
      work.runtime.bridge.hosts.activeTarget = some ⟨1⟩ ∧
      work.runtime.storageState .single = .ok state ∧
      ∃ restored : RuntimeWork runtimeCommandCapacity,
        (restoreStorageState .single state).run ⟨newRuntime, .empty, []⟩ =
          .ok () restored ∧
        restored.runtime.bridge.hosts.activeTarget = none :=
  ⟨_, _, rfl, rfl, rfl, rfl, rfl, _, rfl, rfl⟩

end

open StorageSlotBackend
open NorFlashStorageBackend (StorageWriteResult)
open InMemoryStorageBackend (holding persist_ok newestSlot_holding)

/-- A runtime after a reboot: nothing is connected, and a profile keeps its
settings but no movement in progress. -/
structure BridgeRuntime.RebootOf (rebooted original : BridgeRuntime) : Prop where
  hosts : ∀ hostId, rebooted.bridge.hosts.host hostId =
    (original.bridge.hosts.host hostId).map HostRuntimeState.durable
  globalSettings : rebooted.globalSettings = original.globalSettings
  inputProfiles : rebooted.inputProfiles = original.inputProfiles.durable
  generation : rebooted.storageGeneration = original.storageGeneration
  activeTarget : original.globalSettings.bootTarget = 0 →
    original.globalSettings.restoreLastTarget = true →
      rebooted.bridge.hosts.activeTarget =
        original.bridge.hosts.activeTarget.filter fun active =>
          (original.bridge.hosts.host active).isSome

/-- A successful write of the state of a reachable runtime is what the next
boot restores, unless the write loses a tie. -/
theorem power_cycle_restores {β ω : Type} [StorageSlotBackend β ω]
    {hosts usbInterfaces : Nat} {generation : UInt32}
    {runtime : BridgeRuntime}
    (reachable : Relation.ReflTransGen (RuntimeStep .single)
      (.new hosts usbInterfaces generation) runtime)
    {backend after : β} {outcome : ω} {state : StorageState}
    {result : StorageWriteResult}
    (stored : runtime.storageState .single = .ok state)
    (current : Current .single backend state)
    (persisted : persistStorageState .single backend outcome state =
      (.ok result, after))
    (settled : ¬ LosesTie .single backend state)
    (freshInterfaces : Nat) (freshGeneration : UInt32) {capacity : Nat}
    (commands : BoundedVec RuntimeCommand (capacity + 1)) :
    ∃ loaded work, restoreLatestStorageState .single after = some loaded ∧
      (restoreStorageState .single loaded).run
        ⟨.new hosts freshInterfaces freshGeneration, commands, []⟩ =
          .ok () work ∧ work.runtime.RebootOf runtime := by
  have sound : HostsSound runtime.bridge :=
    RuntimeReachable.hostsSound ⟨_, _, _, reachable⟩
  rw [sound.storageState] at stored
  cases stored
  let fresh : BridgeRuntime := .new hosts freshInterfaces freshGeneration
  have slots : fresh.bridge.hosts.hosts.length =
      runtime.bridge.hosts.hosts.length :=
    List.length_replicate.trans (hostSlots_kept reachable).symm
  obtain ⟨pushed, ran⟩ := @restoreStorageState_ok capacity .single
    (sound.stored.durable .single) ⟨fresh, commands, []⟩ _ (sound.booted slots)
  exact ⟨_, _, restores_of_no_tie current persisted settled, ran,
    bootedHosts_host _ _, rfl, rfl, rfl, sound.stored_bootHost⟩

open RuntimeScenario in
theorem power_cycle_restores_booted :
    ∃ after loaded work,
      restoreLatestStorageState .single
        (after : InMemoryStorageBackend) = some loaded ∧
      (restoreStorageState .single loaded).run
        ⟨newRuntime, (.empty : BoundedVec RuntimeCommand 1), []⟩ =
          .ok () work ∧ work.runtime.RebootOf booted ∧
      work.runtime.bridge.hosts.activeTarget = some ⟨2⟩ := by
  have sound : bootedState.Sound :=
    ⟨rfl, configured_sound.globalSettings, configured_sound.inputSettings,
      configured_sound.distinct⟩
  have read : decodeStorageImage .single (imageOf .single bootedState) =
      .ok (bootedState.durable .single) := by
    rw [sound.decoded, StorageState.durable,
      InputProfileRegistry.durable_eq sound.inputSettings]
    rfl
  have older := newestSlot_holding (decodeStorageImage_new .single 1)
  have persisted := @persist_ok .single (holding .single (.new 1)) bootedState
    rfl read
  have settled : ¬ LosesTie .single (holding .single (.new 1)) bootedState := by
    rintro ⟨newest, selected, -, tie, -⟩
    cases older.symm.trans selected
    cases tie
  have current : Current .single (holding .single (.new 1)) bootedState := by
    intro newest selected
    cases older.symm.trans selected
    decide
  obtain ⟨loaded, work, restored, ran, reboot⟩ := power_cycle_restores
    booted_reachable booted_stored current persisted settled
      runtimeUsbInterfacesMax 0 (.empty : BoundedVec RuntimeCommand 1)
  refine ⟨_, loaded, work, restored, ran, reboot, ?_⟩
  rw [reboot.activeTarget]
  all_goals decide +kernel

end HidShift
