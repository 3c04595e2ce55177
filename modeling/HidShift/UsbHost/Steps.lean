import HidShift.UsbHost.Sessions

namespace HidShift

open Lib

namespace UsbHostTask

variable {build : Build} {task : UsbHostTask}

theorem sound_boot : boot.Sound :=
  ⟨⟨UsbTopologyManager.sound_new,
    fun _ member => (List.not_mem_nil member).elim,
    fun _ member => (List.not_mem_nil member).elim⟩, rfl, rfl⟩

theorem Sound.waiting {next : UsbHostTask}
    (tables : SlotsRegistered next.topology next.activeSlots)
    (nothing : next.topology.devices = [])
    (length : next.activeSlots.length = maxActiveUsbInterfaces) :
    Sound { next with phase := .waiting } :=
  ⟨tables, nothing, length⟩

theorem endSession_moved (sound : task.Sound) {root : DeviceId}
    (isRoot : task.phase.root = some root) (connection : Nat) :
    (task.endSession build root).task.Sound ∧
      Moved task (task.endSession build root) (fun _ => True) none
        connection := by
  obtain ⟨gone, disconnected, removed, sent⟩ :=
    removeDeviceAndNotify_spec build sound.tables root
  have nothing := removed.all_gone sound.tree isRoot
  have moved := removed.moved build sound.tables (fun _ => True)
    (fun slot member => iff_of_true
      (removed.gone_of_unlisted sound.tables nothing slot member) trivial)
    .waiting connection
  rw [← sent] at moved
  exact ⟨.waiting (removed.tables sound.tables) nothing
    (removed.slots.length.trans sound.length), moved⟩

theorem handleHubDeviceRemoved_moved (sound : task.Sound) {root : DeviceId}
    {ports : List (Option DeviceId)} (phase : task.phase = .hub root ports)
    (port : UInt8) (connection : Nat) :
    (task.handleHubDeviceRemoved build root ports port).task.Sound ∧
      Moved task (task.handleHubDeviceRemoved build root ports port)
        (fun slot => ports[port.toNat]?.join = some slot.session.deviceId)
        none connection := by
  have tree := sound.tree
  rw [phase] at tree
  simp only [handleHubDeviceRemoved]
  cases found : ports[port.toNat]?.join with
  | none =>
      simp only [reduceCtorEq]
      exact ⟨sound, .nothing task connection [] (.nothing fun _ => id)⟩
  | some child =>
      have listed : some child ∈ ports := by
        rw [Option.join_eq_some_iff] at found
        exact List.mem_of_getElem? found
      have isChild := tree.2.2.2 child listed
      obtain ⟨gone, disconnected, removed, sent⟩ :=
        removeDeviceAndNotify_spec build sound.tables child
      have moved := removed.moved build sound.tables
        (fun slot => some child = some slot.session.deviceId)
        (fun slot member => ?_)
        (.hub root (ports.set port.toNat none)) connection
      · rw [← sent] at moved
        refine ⟨⟨removed.tables sound.tables,
          removed.tree_left tree isChild fun other member => ?_,
          removed.slots.length.trans sound.length⟩, moved⟩
        rcases List.mem_or_eq_of_mem_set member with old | none
        · exact old
        · cases none
      · obtain ⟨entry, known, same⟩ :=
          List.mem_map.mp (sound.tables.device_known member)
        rw [← same, Option.some.injEq]
        constructor
        · intro wasGone
          exact (removed.only_child tree isChild entry known wasGone).symm
        · rintro rfl
          exact removed.device

/-- The number of a device that is connected, and those of the sessions that
it gets. -/
def attachedNumbers (build : Build) (connection : Nat) (slots : ActiveSlots)
    (device : EnumeratedDevice)
    (connected : DeviceId × DefaultUsbTopologyManager) :
    DeviceId × List InterfaceId :=
  (connected.1, ((attachHidInterfacesForDevice build device connected.1
    connection connected.2 slots).1.activeSlots.reduceOption.filter
      fun slot => slot.session.deviceId = connected.1).map
        ActiveUsbInterfaceSlot.interfaceId)

theorem attachDevice_moved {deviceId : DeviceId}
    (tables : SlotsRegistered task.topology task.activeSlots)
    (length : task.activeSlots.length = maxActiveUsbInterfaces)
    (fresh : ∀ entry ∈ task.topology.interfaces, entry.deviceId ≠ deviceId)
    {device : EnumeratedDevice} (keeps : device.KeepsInterfaces)
    {attached : UsbHostPhase} (connection : Nat)
    (attachedTree : ∀ topology : DefaultUsbTopologyManager,
      topology.devices = task.topology.devices →
      (∀ entry ∈ topology.interfaces,
        entry ∈ task.topology.interfaces ∨ entry.deviceId = deviceId) →
      PhaseTree topology attached)
    (failedTree : ∀ middle next gone disconnected,
      DeviceRemoved middle next deviceId gone disconnected →
      middle.topology.devices = task.topology.devices →
      (∀ entry ∈ middle.topology.interfaces,
        entry ∈ task.topology.interfaces ∨ entry.deviceId = deviceId) →
      PhaseTree next.topology task.phase ∧
        ∀ entry ∈ middle.topology.devices, gone entry.deviceId →
          entry.deviceId = deviceId) :
    (task.attachDevice build device deviceId connection attached).task.Sound ∧
      Moved task (task.attachDevice build device deviceId connection attached)
        (fun _ => False) (some (attachedNumbers build connection
          task.activeSlots device (deviceId, task.topology))) connection := by
  have done := @AttachedTo.forDevice build task.topology task.activeSlots
    device deviceId connection tables fresh keeps
  have announced := @attachHidInterfacesForDevice_announced build device
    deviceId connection task.topology task.activeSlots
  have interfaces : ∀ entry ∈ (attachHidInterfacesForDevice build device
        deviceId connection task.topology
        task.activeSlots).1.topology.interfaces,
      entry ∈ task.topology.interfaces ∨ entry.deviceId = deviceId :=
    fun entry listed => (done.interfaces entry listed).imp_right And.left
  -- The device is new, so it is not the device of an earlier session.
  have apart : ∀ slot ∈ task.activeSlots.reduceOption,
      slot.session.deviceId ≠ deviceId := by
    intro slot member
    obtain ⟨entry, listed, _, owner⟩ := tables.registered slot member
    rw [← owner]
    exact fresh entry listed
  simp only [attachDevice]
  cases outcome : (attachHidInterfacesForDevice build device deviceId
      connection task.topology task.activeSlots).2 with
  | true =>
      simp only [↓reduceIte]
      refine ⟨⟨done.tables, attachedTree _ done.devices interfaces,
        done.length.trans length⟩, ?_, ?_, rfl, announced, ?_⟩
      · intro slot member
        refine (done.sessions slot member).imp (fun old => ⟨old, id⟩) ?_
        rintro ⟨rfl, current⟩
        exact ⟨⟨_, rfl, List.mem_map_of_mem (List.mem_filter.mpr
          ⟨member, decide_eq_true rfl⟩)⟩, current⟩
      · exact fun slot member _ => ⟨done.sessionsKept slot member,
          done.lookup slot.key (apart slot member)⟩
      · exact fun reader member => ⟨_, by rw [done.readers reader member]; rfl⟩
  | false =>
      simp only [Bool.false_eq_true, ↓reduceIte]
      obtain ⟨gone, disconnected, removed, sent⟩ :=
        removeDeviceAndNotify_spec build
          (show SlotsRegistered { task with
              topology := (attachHidInterfacesForDevice build device deviceId
                connection task.topology task.activeSlots).1.topology
              activeSlots := (attachHidInterfacesForDevice build device
                deviceId connection task.topology
                task.activeSlots).1.activeSlots }.topology _ from
            done.tables) deviceId
      obtain ⟨tree, only⟩ :=
        failedTree _ _ gone disconnected removed done.devices interfaces
      rw [sent]
      have stays : ∀ slot ∈ task.activeSlots.reduceOption,
          ¬ gone slot.session.deviceId := by
        intro slot member wasGone
        obtain ⟨entry, known, same⟩ :=
          List.mem_map.mp (tables.device_known member)
        rw [← done.devices] at known
        rw [← same] at wasGone
        exact apart slot member (same.symm.trans (only entry known wasGone))
      refine ⟨⟨removed.tables done.tables, ?_,
        (removed.slots.length.trans done.length).trans length⟩, ?_, ?_,
        removed.queue, announced.append (removed.announced done.tables), ?_⟩
      · rw [removed.phase]
        exact tree
      · intro slot member
        obtain ⟨middle, _⟩ := (removed.slots.kept slot).mp member
        refine (done.sessions slot middle).imp (fun old => ⟨old, id⟩) ?_
        rintro ⟨rfl, current⟩
        exact ⟨⟨_, rfl, List.mem_map_of_mem (List.mem_filter.mpr
          ⟨middle, decide_eq_true rfl⟩)⟩, current⟩
      · intro slot member _
        have middle := done.sessionsKept slot member
        refine ⟨(removed.slots.kept slot).mpr ⟨middle, stays slot member⟩, ?_⟩
        exact (removed.slots.lookup slot middle (stays slot member)).trans
          (done.lookup slot.key (apart slot member))
      · exact fun reader member => ⟨_, by rw [done.readers reader member]; rfl⟩

/-- The numbers that an event gives to a device and to its sessions. -/
def attachedIds (build : Build) (connection : Nat) (task : UsbHostTask) :
    UsbHostEvent → Option (DeviceId × List InterfaceId)
  | .rootConnected (.hid device) =>
      match task.phase with
      | .waiting =>
          (task.topology.connectDevice device.usbAddress .direct).toOption.map
            (attachedNumbers build connection
              (task.activeSlots.map fun _ => none) device)
      | _ => none
  | .childEnumerated port device =>
      match task.phase with
      | .hub root _ =>
          if maxHubPorts ≤ port.toNat then none
          else (task.topology.connectDevice device.usbAddress
            (.downstream root port)).toOption.map
              (attachedNumbers build connection task.activeSlots device)
      | _ => none
  | _ => none

theorem fresh_of_connected (sound : task.Sound)
    {topology : DefaultUsbTopologyManager}
    (connected : task.topology.connectDevice usbAddress route =
      .ok (deviceId, topology)) :
    SlotsRegistered topology task.activeSlots ∧
      (∀ entry ∈ topology.interfaces, entry.deviceId ≠ deviceId) ∧
      topology.devices =
        task.topology.devices ++ [⟨deviceId, usbAddress, route⟩] ∧
      topology.interfaces = task.topology.interfaces ∧
      deviceId ∉ task.topology.deviceIds := by
  obtain ⟨fresh, rfl⟩ := UsbTopologyManager.connectDevice_ok connected
  refine ⟨⟨UsbTopologyManager.sound_connectDevice sound.tables.sound
    connected, sound.tables.registered, sound.tables.own⟩, ?_, rfl, rfl,
    fresh⟩
  rintro entry listed rfl
  exact fresh (sound.tables.sound.known entry listed)

theorem handleHubDeviceEnumerated_moved (sound : task.Sound)
    (phase : task.phase = .hub root ports) (port : UInt8)
    (keeps : device.KeepsInterfaces) (connection : Nat) :
    (task.handleHubDeviceEnumerated build connection root ports port
        device).task.Sound ∧
      Moved task (task.handleHubDeviceEnumerated build connection root ports
          port device) (fun _ => False)
        (task.attachedIds build connection (.childEnumerated port device))
        connection := by
  have tree := sound.tree
  rw [phase] at tree
  have number : task.attachedIds build connection
      (.childEnumerated port device) = if maxHubPorts ≤ port.toNat then none
        else (task.topology.connectDevice device.usbAddress
          (.downstream root port)).toOption.map
            (attachedNumbers build connection task.activeSlots device) := by
    simp only [attachedIds, phase]
  rw [number]
  simp only [handleHubDeviceEnumerated]
  split
  · exact ⟨sound, .nothing task connection [] (.nothing fun _ => id)⟩
  · cases connected : task.topology.connectDevice device.usbAddress
        (.downstream root port) with
    | error error =>
        exact ⟨sound, .nothing task connection [] (.nothing fun _ => id)⟩
    | ok result =>
        obtain ⟨deviceId, topology⟩ := result
        obtain ⟨tables, fresh, devices, interfaces, unlisted⟩ :=
          fresh_of_connected sound connected
        have isChild : deviceId ≠ root := by
          rintro rfl
          exact unlisted tree.1
        have extended (other : DefaultUsbTopologyManager)
            (sameDevices : other.devices = topology.devices)
            (others : ∀ entry ∈ other.interfaces,
              entry ∈ topology.interfaces ∨ entry.deviceId = deviceId)
            (ports' : List (Option DeviceId))
            (children : ∀ child, some child ∈ ports' →
              some child ∈ ports ∨ child = deviceId) :
            PhaseTree other (.hub root ports') := by
          refine ⟨?_, ?_, ?_, fun child member => ?_⟩
          · rw [UsbTopologyManager.deviceIds, sameDevices, devices,
              List.map_append]
            exact List.mem_append_left _ tree.1
          · intro entry listed
            rw [sameDevices, devices] at listed
            rcases List.mem_append.mp listed with old | new
            · exact tree.2.1 entry old
            · rw [List.mem_singleton.mp new]
              exact .inr ⟨isChild, port, rfl⟩
          · intro entry listed
            rcases others entry listed with old | rfl
            · exact tree.2.2.1 entry (interfaces ▸ old)
            · exact isChild
          · rcases children child member with old | rfl
            · exact tree.2.2.2 child old
            · exact isChild
        obtain ⟨soundAfter, moved⟩ := @attachDevice_moved build
          { task with topology } deviceId tables sound.length fresh device
          keeps (.hub root (ports.set port.toNat (some deviceId))) connection
          (fun other same others => extended other same others _
            fun child member =>
              (List.mem_or_eq_of_mem_set member).imp_right Option.some.inj)
          (fun middle next gone disconnected removed same others => by
            have whole := extended _ same others ports fun _ => .inl
            simp only [phase]
            exact ⟨removed.tree_left whole isChild fun _ => id,
              removed.only_child whole isChild⟩)
        exact ⟨soundAfter, moved.sessions, moved.kept, moved.queue,
          moved.announced, moved.readers⟩

theorem Sound.no_interfaces (sound : task.Sound)
    (waiting : task.phase = .waiting) :
    task.topology.devices = [] ∧ task.topology.interfaces = [] ∧
      task.activeSlots.reduceOption = [] := by
  have tree := sound.tree
  rw [waiting] at tree
  have none : task.topology.deviceIds = [] := by
    rw [UsbTopologyManager.deviceIds, tree]
    rfl
  refine ⟨tree, ?_, ?_⟩
  · apply List.eq_nil_iff_forall_not_mem.mpr
    intro entry listed
    have known := sound.tables.sound.known entry listed
    rw [← UsbTopologyManager.deviceIds, none] at known
    cases known
  · apply List.eq_nil_iff_forall_not_mem.mpr
    intro slot member
    have known := sound.tables.device_known member
    rw [← UsbTopologyManager.deviceIds, none] at known
    cases known

/-- The task of a session that starts, once `topology` has its root. -/
def cleared (task : UsbHostTask) (topology : DefaultUsbTopologyManager) :
    UsbHostTask :=
  { task with topology, activeSlots := task.activeSlots.map fun _ => none }

section

variable {topology : DefaultUsbTopologyManager} {deviceId : DeviceId}
  {usbAddress : UInt8} {connection : Nat}

theorem cleared_tables (task : UsbHostTask) (sound : topology.Sound) :
    SlotsRegistered topology (task.cleared topology).activeSlots := by
  refine ⟨sound, fun slot member => ?_, fun slot member => ?_⟩ <;>
    (rw [cleared, reduceOption_clear] at member; cases member)

theorem Sound.cleared_length (sound : task.Sound) :
    (task.cleared topology).activeSlots.length = maxActiveUsbInterfaces :=
  (List.length_map _).trans sound.length

theorem quiet_announced (slots : ActiveSlots) :
    Announced slots slots ([] : List (RuntimeInput build)) :=
  .nothing fun _ => id

section

variable (sound : task.Sound) (waiting : task.phase = .waiting)

include sound waiting

theorem cleared_moved
    (topologySound : topology.Sound) (empty : topology.devices = [])
    (sent : List (RuntimeInput build))
    (announced : ∀ slots, Announced slots slots sent) :
    (task.cleared topology).Sound ∧ Moved task
      ⟨task.cleared topology, sent, []⟩ (fun _ => False) none connection := by
  obtain ⟨_, _, none⟩ := sound.no_interfaces waiting
  refine ⟨⟨cleared_tables task topologySound, ?_, sound.cleared_length⟩,
    .of_cleared topology none (.nothing _ connection sent (announced _))⟩
  simp only [cleared, waiting]
  exact empty

theorem startSession_hid (keeps : device.KeepsInterfaces)
    (connected : task.topology.connectDevice device.usbAddress .direct =
      .ok (deviceId, topology)) :
    ((task.cleared topology).attachDevice build device deviceId connection
        (.device deviceId)).task.Sound ∧
      Moved task ((task.cleared topology).attachDevice build device deviceId
          connection (.device deviceId)) (fun _ => False)
        (some (attachedNumbers build connection
          (task.cleared topology).activeSlots device (deviceId, topology)))
        connection := by
  obtain ⟨devices, _, none⟩ := sound.no_interfaces waiting
  obtain ⟨tables, fresh, grown, _⟩ := fresh_of_connected sound connected
  have only (other : DefaultUsbTopologyManager)
      (sameDevices : other.devices = topology.devices) :
      PhaseTree other (.device deviceId) := by
    rw [grown, devices] at sameDevices
    simp [PhaseTree, UsbTopologyManager.deviceIds, sameDevices]
  obtain ⟨soundAfter, moved⟩ := @attachDevice_moved build
    (task.cleared topology) deviceId (cleared_tables task tables.sound)
    sound.cleared_length fresh device keeps (.device deviceId) connection
    (fun other sameDevices _ => only other sameDevices)
    (fun middle next gone disconnected removed sameDevices _ => by
      have whole := only _ sameDevices
      simp only [cleared, waiting]
      exact ⟨removed.all_gone whole rfl, fun entry listed _ =>
        whole.2 entry listed⟩)
  exact ⟨soundAfter, .of_cleared topology none moved⟩

theorem startSession_hub
    (connected : task.topology.connectDevice usbAddress .direct =
      .ok (deviceId, topology)) :
    Sound { task.cleared topology with
        phase := .hub deviceId (List.replicate maxHubPorts none) } ∧
      Moved task (⟨{ task.cleared topology with
          phase := .hub deviceId (List.replicate maxHubPorts none) }, [],
        []⟩ : UsbHostStep build) (fun _ => False) none connection := by
  obtain ⟨devices, interfaces, none⟩ := sound.no_interfaces waiting
  obtain ⟨tables, fresh, grown, others, _⟩ :=
    fresh_of_connected sound connected
  rw [devices, List.nil_append] at grown
  refine ⟨⟨cleared_tables task tables.sound, ⟨?_, ?_, ?_, ?_⟩,
    @Sound.cleared_length task topology sound⟩, .of_cleared topology none
      ⟨?_, ?_, rfl, quiet_announced _, ?_⟩⟩
  · simp [UsbTopologyManager.deviceIds, cleared, grown]
  · simp [cleared, grown]
  · simp [cleared, others, interfaces]
  · simp [maxHubPorts]
  · exact fun _ member => .inl ⟨member, id⟩
  · exact fun _ member _ => ⟨member, rfl⟩
  · exact fun _ member => (List.not_mem_nil member).elim

theorem removeDevice_connected
    (connected : task.topology.connectDevice usbAddress .direct =
      .ok (deviceId, topology)) :
    ∃ removal left, topology.removeDevice deviceId = .ok (removal, left) ∧
      left.Sound ∧ left.devices = [] := by
  obtain ⟨devices, _⟩ := sound.no_interfaces waiting
  obtain ⟨tables, _, grown, _⟩ := fresh_of_connected sound connected
  rw [devices, List.nil_append] at grown
  cases removed : topology.removeDevice deviceId with
  | ok result =>
      obtain ⟨removal, left⟩ := result
      obtain ⟨removing, complete⟩ :=
        UsbTopologyManager.removeDevice_ok tables.sound removed
      refine ⟨removal, left, rfl, removing.sound, ?_⟩
      apply List.eq_nil_iff_forall_not_mem.mpr
      intro entry listed
      have known := ((removing.devices entry).mp listed).1
      have hangs := complete entry listed
      rw [grown, List.mem_singleton] at known
      simp [known, UsbTopologyManager.hangsFrom] at hangs
  | error error =>
      simp only [UsbTopologyManager.removeDevice] at removed
      rw [require_pos (UsbTopologyManager.device_isSome.mpr
        (by simp [grown]))] at removed
      cases removed

theorem startSession_moved {root : RootDevice}
    (keeps : ∀ device, root = .hid device → device.KeepsInterfaces)
    (connection : Nat) :
    (task.startSession build connection root).task.Sound ∧
      Moved task (task.startSession build connection root) (fun _ => False)
        (task.attachedIds build connection (.rootConnected root))
        connection := by
  have unchanged (sent : List (RuntimeInput build))
      (announced : ∀ slots, Announced slots slots sent) :=
    @cleared_moved build task task.topology connection sound waiting
      sound.tables.sound (sound.no_interfaces waiting).1 sent announced
  cases root with
  | failed =>
      exact unchanged [.diagnosticsEvent .usbError] fun _ => .report rfl
        fun _ => rfl
  | hid device =>
      have numbers : task.attachedIds build connection
          (.rootConnected (.hid device)) =
            (task.topology.connectDevice device.usbAddress .direct).toOption.map
              (attachedNumbers build connection
                (task.activeSlots.map fun _ => none) device) := by
        simp only [attachedIds, waiting]
      rw [numbers]
      simp only [startSession]
      cases connected : task.topology.connectDevice device.usbAddress
          .direct with
      | error error => exact unchanged [] quiet_announced
      | ok result =>
          exact startSession_hid sound waiting (keeps device rfl) connected
  | hub usbAddress registered =>
      simp only [startSession, attachedIds]
      cases connected : task.topology.connectDevice usbAddress .direct with
      | error error => exact unchanged [] quiet_announced
      | ok result =>
          cases registered with
          | true => exact startSession_hub sound waiting connected
          | false =>
              obtain ⟨removal, left, removed, leftSound, empty⟩ :=
                removeDevice_connected sound waiting connected
              simp only [Bool.false_eq_true, ↓reduceIte, removed]
              exact cleared_moved sound waiting leftSound empty []
                quiet_announced

end

end

theorem failedInterface_moved (build : Build)
    (removed : InterfaceRemoved task next interfaceId disconnected)
    (connection : Nat) :
    Moved task (⟨next, .diagnosticsEvent .usbError ::
        disconnectedMessages disconnected, []⟩ : UsbHostStep build)
      (fun slot => slot.interfaceId = interfaceId) none connection where
  sessions slot member := .inl ((removed.slots.kept slot).mp member)
  kept slot member stays :=
    ⟨(removed.slots.kept slot).mpr ⟨member, stays⟩,
      removed.slots.lookup slot member stays⟩
  queue := removed.queue
  announced := by
    have reported : Announced task.activeSlots task.activeSlots
        [(RuntimeInput.diagnosticsEvent .usbError : RuntimeInput build)] :=
      .report rfl fun _ => rfl
    apply reported.append (removed.slots.announced _)
    rintro slot _ other _ same rfl
    exact same.symm
  readers _ member := (List.not_mem_nil member).elim

theorem failedDevice_moved (sound : middle.Sound)
    (isChild : ∀ root ports, middle.phase = .hub root ports → deviceId ≠ root)
    (isRoot : ∀ root, middle.phase = .device root → deviceId = root)
    (busy : middle.phase ≠ .waiting)
    (idle : ∀ slot ∈ middle.activeSlots.reduceOption,
      slot.session.deviceId ≠ deviceId) (sent : List (RuntimeInput build))
    (connection : Nat)
    (earlier : Moved task ⟨middle, sent, []⟩ gone none connection) :
    (middle.afterReaderEvent build sent (some deviceId)).task.Sound ∧
      Moved task (middle.afterReaderEvent build sent (some deviceId)) gone
        none connection := by
  obtain ⟨goneDevices, disconnected, removed, notified⟩ :=
    removeDeviceAndNotify_spec build sound.tables deviceId
  have tree := sound.tree
  have tables := removed.tables sound.tables
  have length := removed.slots.length.trans sound.length
  simp only [afterReaderEvent]
  have spared (none : ∀ slot ∈ middle.activeSlots.reduceOption,
      ¬ goneDevices slot.session.deviceId) (phase : UsbHostPhase) :
      Moved task ⟨{ (middle.removeDeviceAndNotify build deviceId).1 with
          phase }, sent ++
        (middle.removeDeviceAndNotify build deviceId).2, []⟩ gone
        Option.none connection := by
    rw [notified]
    exact earlier.then (removed.moved build sound.tables (fun _ => False)
      (fun slot member => iff_of_false (none slot member) id) phase
      connection)
  cases phase : middle.phase with
  | waiting => exact absurd phase busy
  | device root =>
      obtain rfl := isRoot root phase
      rw [phase] at tree
      refine ⟨⟨tables, removed.all_gone tree rfl, length⟩,
        spared (fun slot member _ => ?_) _⟩
      obtain ⟨entry, known, same⟩ :=
        List.mem_map.mp (sound.tables.device_known member)
      exact idle slot member (same.symm.trans (tree.2 entry known))
  | hub root ports =>
      have differs := isChild root ports phase
      rw [phase] at tree
      refine ⟨⟨tables, removed.tree_left tree differs fun child listed => ?_,
        length⟩, spared (fun slot member wasGone => ?_) _⟩
      · obtain ⟨earlier, member, same⟩ := List.mem_map.mp listed
        split at same
        · cases same
        · rwa [← same]
      · obtain ⟨entry, known, same⟩ :=
          List.mem_map.mp (sound.tables.device_known member)
        rw [← same] at wasGone
        exact idle slot member (same.symm.trans
          (removed.only_child tree differs entry known wasGone))

variable {event : UsbReaderEvent}

theorem handleUsbReaderEvent_none (unknown : task.slotOf event = none)
    (answers : List QueueAnswer) (direct : Bool) :
    task.handleUsbReaderEvent build event answers direct =
      some (task, [], none) := by
  simp only [handleUsbReaderEvent, unknown]
  cases SlotTable.slotIndex? ActiveUsbInterfaceSlot.key task.activeSlots
    event.key <;> rfl

theorem slotIndex_of_slotOf (found : task.slotOf event = some slot) :
    ∃ index, SlotTable.slotIndex? ActiveUsbInterfaceSlot.key task.activeSlots
      event.key = some index :=
  SlotTable.lookup_isSome_iff.mp ⟨slot, found⟩

theorem key_of_slotOf (found : task.slotOf event = some slot) :
    slot.key = event.key :=
  SlotTable.key_of_lookup found

theorem fatal_moved (sound : task.Sound) (busy : task.phase ≠ .waiting)
    (ran : task.handleUsbReaderEvent build (.fatal deviceId interfaceId)
      answers direct = some (next, sent, failed)) (connection : Nat) :
    (next.afterReaderEvent build sent failed).task.Sound ∧
      Moved task (next.afterReaderEvent build sent failed)
        (fun slot => slot.key = (interfaceId, deviceId)) none connection := by
  cases found : task.slotOf (.fatal deviceId interfaceId) with
  | none =>
      rw [handleUsbReaderEvent_none found] at ran
      cases ran
      refine ⟨sound, (Moved.nothing task connection []
        (.nothing fun _ => id)).congr fun slot member => ?_⟩
      exact iff_of_false id (SlotTable.lookup_eq_none.mp found slot member)
  | some slot =>
      obtain ⟨index, located⟩ := slotIndex_of_slotOf found
      simp only [handleUsbReaderEvent, found, located, Option.some.injEq,
        Prod.mk.injEq] at ran
      have keyed := key_of_slotOf found
      have member := SlotTable.mem_of_lookup found
      obtain ⟨disconnected, removed, notified⟩ :=
        removeInterfaceAndNotify_spec build sound.tables.sound interfaceId
      rw [notified] at ran
      obtain ⟨rfl, rfl, whether⟩ := ran
      have middle : Sound (task.removeInterfaceAndNotify build
          interfaceId).1 := by
        refine ⟨removed.tables sound.tables, ?_,
          removed.slots.length.trans sound.length⟩
        rw [removed.phase]
        exact removed.tree sound.tree
      have earlier : Moved task
          ⟨(task.removeInterfaceAndNotify build interfaceId).1,
            .diagnosticsEvent .usbError ::
              (disconnectedMessages disconnected : List (RuntimeInput build)),
            []⟩ (fun slot => slot.key = (interfaceId, deviceId)) none
          connection := by
        apply (failedInterface_moved build removed connection).congr
        intro other otherMember
        constructor
        · intro same
          have sameKey := (Prod.mk.inj keyed).1
          have sameDevice := sound.tables.same_device otherMember member
            (same.trans sameKey.symm)
          exact Prod.ext same (sameDevice.trans (Prod.mk.inj keyed).2)
        · exact fun same => (Prod.mk.inj same).1
      split at whether
      · subst whether
        exact ⟨middle, earlier⟩
      · rename_i idle
        subst whether
        simp only [Bool.not_eq_true, List.any_eq_false,
          decide_eq_true_eq] at idle
        have device : slot.session.deviceId = deviceId :=
          (Prod.mk.inj keyed).2
        refine failedDevice_moved middle (fun root ports phase => ?_)
          (fun root phase => ?_) (by rwa [removed.phase]) idle _ connection
          earlier
        · have tree := sound.tree
          rw [← removed.phase, phase] at tree
          obtain ⟨entry, listed, _, owner⟩ :=
            sound.tables.registered slot member
          rw [← device, ← owner]
          exact tree.2.2.1 entry listed
        · have tree := sound.tree
          rw [← removed.phase, phase] at tree
          obtain ⟨entry, known, same⟩ :=
            List.mem_map.mp (sound.tables.device_known member)
          rw [← device, ← same]
          exact tree.2 entry known

def Detaches (task : UsbHostTask) :
    UsbHostEvent → ActiveUsbInterfaceSlot → Prop
  | .rootConnected _, _ | .rootDisconnected, _ => task.phase ≠ .waiting
  | .hubFailed, _ => True
  | .childRemoved port, slot =>
      match task.phase with
      | .hub _ ports =>
          ports[port.toNat]?.join = some slot.session.deviceId
      | _ => False
  | .reader (.fatal deviceId interfaceId) _ _, slot =>
      slot.key = (interfaceId, deviceId)
  | _, _ => False

end UsbHostTask

namespace UsbHostEvent

def KeepsInterfaces : UsbHostEvent → Prop
  | .rootConnected (.hid device) | .childEnumerated _ device =>
      device.KeepsInterfaces
  | _ => True

def IsReport : UsbHostEvent → Prop
  | .reader (.report ..) _ _ => True
  | _ => False

end UsbHostEvent

namespace UsbHostTask

variable {build : Build} {task : UsbHostTask} {connection : Nat}
  {event : UsbHostEvent} {result : UsbHostStep build}

theorem step_reader {event : UsbReaderEvent} {answers : List QueueAnswer}
    {direct : Bool}
    (ran : task.step build connection (.reader event answers direct) =
      some result) :
    task.phase ≠ .waiting ∧ ∃ next sent failed,
      task.handleUsbReaderEvent build event answers direct =
          some (next, sent, failed) ∧
        next.afterReaderEvent build sent failed = result := by
  have busy : task.phase ≠ .waiting := by
    intro waiting
    simp [step, waiting] at ran
  have handles : ((task.handleUsbReaderEvent build event answers
      direct).bind fun handled => some (handled.1.afterReaderEvent build
        handled.2.1 handled.2.2)) = some result := by
    cases phase : task.phase with
    | waiting => exact absurd phase busy
    | device root | hub root ports =>
        simp only [step, phase] at ran
        exact ran
  obtain ⟨⟨next, sent, failed⟩, handled, same⟩ :=
    Option.bind_eq_some_iff.mp handles
  exact ⟨busy, next, sent, failed, handled, Option.some.inj same⟩

theorem step_moved (sound : task.Sound) (keeps : event.KeepsInterfaces)
    (quiet : ¬ event.IsReport)
    (ran : task.step build connection event = some result) :
    result.task.Sound ∧
      Moved task result (task.Detaches event)
        (task.attachedIds build connection event) connection := by
  have ended {root : DeviceId} (isRoot : task.phase.root = some root)
      (ran : task.endSession build root = result)
      (everything : ∀ slot, task.Detaches event slot)
      (nothing : task.attachedIds build connection event = none) :
      result.task.Sound ∧ Moved task result (task.Detaches event)
        (task.attachedIds build connection event) connection := by
    subst ran
    obtain ⟨soundAfter, moved⟩ :=
      @endSession_moved build task sound root isRoot connection
    rw [nothing]
    exact ⟨soundAfter, moved.congr fun slot _ =>
      iff_of_true trivial (everything slot)⟩
  cases event with
  | rootConnected device =>
      cases phase : task.phase with
      | waiting =>
          simp only [step, phase, Option.some.injEq] at ran
          subst ran
          obtain ⟨soundAfter, moved⟩ := @startSession_moved build task sound
            phase device (fun _ same => by subst same; exact keeps) connection
          exact ⟨soundAfter, moved.congr fun slot _ =>
            iff_of_false id fun gone => gone phase⟩
      | device root | hub root ports =>
          simp only [step, phase, Option.some.injEq] at ran
          refine ended (by rw [phase]; rfl) ran (fun slot => ?_) ?_
          · simp [Detaches, phase]
          · cases device <;> simp [attachedIds, phase]
  | rootDisconnected =>
      cases phase : task.phase with
      | waiting =>
          simp only [step, phase, Option.some.injEq] at ran
          subst ran
          exact ⟨sound, (Moved.nothing task connection []
            (.nothing fun _ => id)).congr fun slot _ =>
              iff_of_false id fun gone => gone phase⟩
      | device root | hub root ports =>
          simp only [step, phase, Option.some.injEq] at ran
          refine ended (by rw [phase]; rfl) ran (fun slot => ?_) rfl
          simp [Detaches, phase]
  | childEnumerated port device =>
      cases phase : task.phase with
      | waiting | device root => simp [step, phase] at ran
      | hub root ports =>
          simp only [step, phase, Option.some.injEq] at ran
          subst ran
          exact handleHubDeviceEnumerated_moved sound phase port keeps
            connection
  | childRemoved port =>
      cases phase : task.phase with
      | waiting | device root => simp [step, phase] at ran
      | hub root ports =>
          simp only [step, phase, Option.some.injEq] at ran
          subst ran
          obtain ⟨soundAfter, moved⟩ := @handleHubDeviceRemoved_moved build
            task sound root ports phase port connection
          exact ⟨soundAfter, moved.congr fun slot _ => by
            simp [Detaches, phase]⟩
  | hubFailed =>
      cases phase : task.phase with
      | waiting | device root => simp [step, phase] at ran
      | hub root ports =>
          simp only [step, phase, Option.some.injEq] at ran
          exact ended (by rw [phase]; rfl) ran (fun _ => trivial) rfl
  | reader event answers direct =>
      cases event with
      | report deviceId interfaceId data => exact absurd trivial quiet
      | fatal deviceId interfaceId =>
          obtain ⟨busy, next, sent, failed, handled, rfl⟩ := step_reader ran
          exact fatal_moved sound busy handled connection

end UsbHostTask

namespace ActiveUsbInterfaceSlot

variable {slot next : ActiveUsbInterfaceSlot} {report : List UInt8}

def SameSession (slot next : ActiveUsbInterfaceSlot) : Prop :=
  next.interfaceId = slot.interfaceId ∧ next.session = slot.session

theorem SameSession.key (same : slot.SameSession next) :
    next.key = slot.key := by
  simp only [ActiveUsbInterfaceSlot.key, same.1, same.2]

theorem decodeReport_session {standard : Option StandardInputFrame}
    {movementOnly : Bool}
    (decoded : slot.decodeReport report =
      some (next, standard, movementOnly)) : slot.SameSession next := by
  simp only [decodeReport] at decoded
  cases ran : (Checked.result (slot.session.captureInputReport report) >>=
      slot.session.inputMessage).run with
  | none => simp [ran] at decoded
  | some outcome =>
      cases outcome with
      | error error =>
          simp only [ran, Option.some.injEq, Prod.mk.injEq] at decoded
          rw [← decoded.1]
          exact ⟨rfl, rfl⟩
      | ok frame =>
          simp only [ran, Option.some.injEq, Prod.mk.injEq] at decoded
          rw [← decoded.1]
          exact ⟨rfl, rfl⟩

theorem handleReport_session
    (handled : slot.handleReport build report = some (next, decoded)) :
    slot.SameSession next := by
  cases build with
  | single =>
      obtain ⟨⟨other, standard, movementOnly⟩, ran, same⟩ :=
        Option.bind_eq_some_iff.mp handled
      cases same
      exact decodeReport_session ran
  | dual =>
      simp only [handleReport] at handled
      cases raw : RawEndpointReport.new slot.nextRawIn.interruptInEp
          slot.nextRawIn.rawInSequence report with
      | error error =>
          simp only [raw, Option.some.injEq, Prod.mk.injEq] at handled
          rw [← handled.1]
          exact ⟨rfl, rfl⟩
      | ok raw' =>
          rw [raw] at handled
          obtain ⟨⟨other, standard, movementOnly⟩, ran, same⟩ :=
            Option.bind_eq_some_iff.mp handled
          cases same
          exact @decodeReport_session slot.nextRawIn _ _ _ _ ran

end ActiveUsbInterfaceSlot

namespace UsbHostTask

variable {build : Build} {task : UsbHostTask} {connection : Nat}
  {result : UsbHostStep build}

theorem step_report (ran : task.step build connection
      (.reader (.report deviceId interfaceId data) answers direct) =
        some result) :
    task.slotOf (.report deviceId interfaceId data) = none ∧
        result = ⟨task, [], []⟩ ∨
      ∃ slot index next decoded,
        task.slotOf (.report deviceId interfaceId data) = some slot ∧
        SlotTable.slotIndex? ActiveUsbInterfaceSlot.key task.activeSlots
          slot.key = some index ∧
        slot.handleReport build data = some (next, decoded) ∧
        result = ⟨{ task with
            activeSlots := task.activeSlots.set index (some next)
            movementQueue := (decoded.elim (task.movementQueue, [])
              fun input => forwardUsbInput build task.movementQueue
                next.session.deviceId input answers direct).1 },
          (decoded.elim (task.movementQueue, [])
            fun input => forwardUsbInput build task.movementQueue
              next.session.deviceId input answers direct).2, []⟩ := by
  obtain ⟨_, task', sent, failed, handled, rfl⟩ := step_reader ran
  cases found : task.slotOf (.report deviceId interfaceId data) with
  | none =>
      rw [handleUsbReaderEvent_none found] at handled
      cases handled
      exact .inl ⟨rfl, rfl⟩
  | some slot =>
      obtain ⟨index, located⟩ := slotIndex_of_slotOf found
      simp only [handleUsbReaderEvent, found, located] at handled
      obtain ⟨⟨reported, messages⟩, handles, same⟩ :=
        Option.bind_eq_some_iff.mp handled
      cases same
      obtain ⟨⟨next, decoded⟩, decodes, same⟩ :=
        Option.bind_eq_some_iff.mp handles
      refine .inr ⟨slot, index, next, decoded, rfl, ?_, decodes, ?_⟩
      · rw [key_of_slotOf found]
        exact located
      · cases decoded with
        | none =>
            cases same
            rfl
        | some input =>
            cases same
            rfl

theorem Sound.replace (sound : task.Sound)
    (located : SlotTable.slotIndex? ActiveUsbInterfaceSlot.key
      task.activeSlots slot.key = some index)
    (member : slot ∈ task.activeSlots.reduceOption)
    (same : slot.SameSession next) (movementQueue : UsbMovementCoalescer) :
    Sound { task with
      activeSlots := task.activeSlots.set index (some next), movementQueue } where
  tables := ⟨sound.tables.sound, fun other otherMember => by
    rcases SlotTable.mem_replace located otherMember with rfl | old
    · obtain ⟨entry, listed, interface, device⟩ :=
        sound.tables.registered slot member
      rw [same.1, same.2]
      exact ⟨entry, listed, interface, device⟩
    · exact sound.tables.registered other old, fun other otherMember => by
    rcases SlotTable.mem_replace located otherMember with rfl | old
    · rw [same.1, same.2]
      exact sound.tables.own slot member
    · exact sound.tables.own other old⟩
  tree := sound.tree
  length := (List.length_set ..).trans sound.length

end UsbHostTask

end HidShift
