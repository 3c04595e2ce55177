import HidShift.Lib.SlotTable
import HidShift.UsbHid.TopologyTidy

namespace HidShift

open Lib

namespace UsbTopologySlots

variable {deviceCapacity interfaceCapacity : Nat}

structure Shows (slots : UsbTopologySlots deviceCapacity interfaceCapacity)
    (topology : UsbTopologyManager deviceCapacity interfaceCapacity) :
    Prop where
  devices : slots.devices.Filled deviceCapacity topology.devices
  interfaces : slots.interfaces.Filled interfaceCapacity topology.interfaces

structure ShowsRemoved
    (slots : UsbTopologySlots deviceCapacity interfaceCapacity)
    (removal : UsbTopologyRemoval) : Prop where
  devices : slots.devices.Filled deviceCapacity removal.devices
  interfaces : slots.interfaces.Filled interfaceCapacity removal.interfaces

variable {slots gone : UsbTopologySlots deviceCapacity interfaceCapacity}
  {topology next : UsbTopologyManager deviceCapacity interfaceCapacity}
  {removal : UsbTopologyRemoval}

theorem Shows.listed (shows : slots.Shows topology) :
    slots.listed = topology := by
  rw [UsbTopologySlots.listed, shows.devices.entries_eq,
    shows.interfaces.entries_eq]

theorem ShowsRemoved.removed (shows : gone.ShowsRemoved removal) :
    gone.removed = removal := by
  rw [UsbTopologySlots.removed, shows.devices.entries_eq,
    shows.interfaces.entries_eq]

theorem shows_new : (new : UsbTopologySlots deviceCapacity
    interfaceCapacity).Shows .new :=
  ⟨CountedSlots.filled_empty _, CountedSlots.filled_empty _⟩

theorem showsRemoved_new : (new : UsbTopologySlots deviceCapacity
    interfaceCapacity).ShowsRemoved ⟨[], []⟩ :=
  ⟨CountedSlots.filled_empty _, CountedSlots.filled_empty _⟩

/-- The arrays fail like the tables, and then nothing changed, or they reach
what the tables reach. -/
inductive Follows {α β : Type}
    (slots : UsbTopologySlots deviceCapacity interfaceCapacity)
    (same : α → β → Prop) :
    Except UsbTopologyError
      (α × UsbTopologyManager deviceCapacity interfaceCapacity) →
    Option (Except UsbTopologyError β ×
      UsbTopologySlots deviceCapacity interfaceCapacity) → Prop
  | failed (error : UsbTopologyError) :
      Follows slots same (.error error) (some (.error error, slots))
  | done {answer : α} {shown : β}
      {after : UsbTopologyManager deviceCapacity interfaceCapacity}
      {slotsAfter : UsbTopologySlots deviceCapacity interfaceCapacity}
      (agree : same answer shown) (shows : slotsAfter.Shows after) :
      Follows slots same (.ok (answer, after)) (some (.ok shown, slotsAfter))

section

variable (shows : slots.Shows topology)

include shows

theorem connectDevice_follows
    (tidy : topology.Tidy) (usbAddress : UInt8) (route : UsbDeviceRoute) :
    slots.Follows Eq (topology.connectDevice usbAddress route)
      (slots.connectDevice usbAddress route) := by
  simp only [connectDevice, shows.listed, UsbTopologyManager.connectDevice]
  cases topology.validateRoute route with
  | error error => exact .failed error
  | ok valid =>
      simp only [ok_bind]
      cases require (∀ entry ∈ topology.devices, entry.route ≠ route)
          UsbTopologyError.occupiedRoute with
      | error error => exact .failed error
      | ok free =>
          simp only [ok_bind]
          cases allocated : topology.allocDeviceId with
          | error error => exact .failed error
          | ok deviceId =>
              obtain ⟨devices, pushed, filled⟩ := shows.devices.push
                (tidy.device_room allocated) ⟨deviceId, usbAddress, route⟩
              simp only [ok_bind, pushed]
              exact .done rfl ⟨filled, shows.interfaces⟩

theorem registerInterface_follows
    (tidy : topology.Tidy) (deviceId : DeviceId) (interfaceNumber : UInt8) :
    slots.Follows Eq (topology.registerInterface deviceId interfaceNumber)
      (slots.registerInterface deviceId interfaceNumber) := by
  simp only [registerInterface, shows.listed,
    UsbTopologyManager.registerInterface]
  cases attached : topology.device deviceId with
  | none => exact .failed .unknownDevice
  | some entry =>
      rw [if_neg (by simp), require_pos (by simp), ok_bind]
      cases topology.interfaces.find? fun entry =>
          entry.deviceId = deviceId ∧
            entry.interfaceNumber = interfaceNumber with
      | some entry => exact .done rfl shows
      | none =>
          dsimp only
          cases allocated : topology.allocInterfaceId with
          | error error => exact .failed error
          | ok interfaceId =>
              obtain ⟨interfaces, pushed, filled⟩ := shows.interfaces.push
                (tidy.interface_room allocated)
                ⟨interfaceId, deviceId, interfaceNumber⟩
              simp only [ok_bind, pushed]
              exact .done rfl ⟨shows.devices, filled⟩

theorem removeInterface_follows (interfaceId : InterfaceId) :
    slots.Follows Eq (topology.removeInterface interfaceId)
      (slots.removeInterface interfaceId) := by
  simp only [removeInterface, UsbTopologyManager.removeInterface]
  rw [shows.interfaces.slots, FrontFilled.find]
  cases found : topology.interfaces.findIdx? fun entry =>
      entry.interfaceId = interfaceId with
  | none =>
      have none : topology.interfaces.find? (fun entry =>
          entry.interfaceId = interfaceId) = none := by
        apply List.find?_eq_none.mpr
        simpa using List.findIdx?_eq_none_iff.mp found
      rw [none]
      exact .failed .unknownInterface
  | some index =>
      obtain ⟨before, entry, after, split, rfl, passes, earlier⟩ :=
        SlotTable.split_of_findIdx? found
      have search : topology.interfaces.find? (fun entry =>
          entry.interfaceId = interfaceId) = some entry := by
        apply List.find?_eq_some_iff_append.mpr
        refine ⟨passes, before, after, split, fun other member => ?_⟩
        simpa using earlier other member
      have filled := shows.interfaces
      rw [split] at filled
      obtain ⟨interfaces, taken, closed⟩ := filled.takeOut
      have here := @FrontFilled.slot_join _ interfaceCapacity
        topology.interfaces before.length
      rw [split, CountedSlots.getElem?_here] at here
      rw [search, split, SwapRemove.removeFirst_split earlier passes]
      dsimp only
      rw [here]
      simp only [taken]
      exact .done rfl ⟨shows.devices, closed⟩

theorem removeOne_follows
    (showsGone : gone.ShowsRemoved removal) (deviceId : DeviceId)
    (deviceRoom : removal.devices.length < deviceCapacity)
    (interfaceRoom : removal.interfaces.length +
      topology.interfaces.length ≤ interfaceCapacity) :
    ∃ swept sweptGone last lastGone,
      slots.removeInterfacesForDevice deviceId gone =
        some (swept, sweptGone) ∧
      swept.removeDeviceEntry deviceId sweptGone = some (last, lastGone) ∧
      last.Shows (topology.removeOne deviceId removal).1 ∧
      lastGone.ShowsRemoved (topology.removeOne deviceId removal).2 := by
  have interfaces : slots.interfaces.Filled interfaceCapacity
      ([] ++ topology.interfaces) := shows.interfaces
  have devices : slots.devices.Filled deviceCapacity
      ([] ++ topology.devices) := shows.devices
  have interfaceTurns :
      topology.interfaces.length < slots.interfaces.count + 1 := by
    rw [shows.interfaces.count]
    exact Nat.lt_succ_self _
  have deviceTurns : topology.devices.length < slots.devices.count + 1 := by
    rw [shows.devices.count]
    exact Nat.lt_succ_self _
  obtain ⟨keptInterfaces, goneInterfaces, swept, kept, moved⟩ :=
    interfaces.sweep (fun entry => entry.deviceId = deviceId)
      showsGone.interfaces (Nat.le_trans (Nat.add_le_add_left
        (List.length_filter_le _ _) _) interfaceRoom) interfaceTurns
  obtain ⟨keptDevices, goneDevices, walked, left, reported⟩ :=
    devices.moveFirst (fun entry => entry.deviceId = deviceId)
      showsGone.devices deviceRoom deviceTurns
  rw [List.length_nil] at swept walked
  refine ⟨_, _, _, _, by rw [removeInterfacesForDevice, swept]; rfl,
    by rw [removeDeviceEntry, walked]; rfl, ⟨left, kept⟩,
    ⟨reported, moved⟩⟩

end

theorem removeWhile_follows
    {whole : UsbTopologyManager deviceCapacity interfaceCapacity}
    (root : DeviceId) (shows : slots.Shows topology)
    (showsGone : gone.ShowsRemoved removal)
    (together : whole.Together topology removal)
    (deviceFits : whole.devices.length ≤ deviceCapacity)
    (interfaceFits : whole.interfaces.length ≤ interfaceCapacity)
    (enough : topology.devices.length ≤ turns) :
    ∃ last lastGone,
      removeWhile root (turns + 1) slots gone = some (last, lastGone) ∧
      last.Shows (UsbTopologyManager.removeTree root turns topology removal).1 ∧
      lastGone.ShowsRemoved
        (UsbTopologyManager.removeTree root turns topology removal).2 := by
  induction turns generalizing slots gone topology removal with
  | zero =>
      have empty := List.eq_nil_of_length_eq_zero (Nat.le_zero.mp enough)
      have idle : topology.nextRemovableDevice root removal = none := by
        rw [UsbTopologyManager.nextRemovableDevice, empty]
        rfl
      refine ⟨slots, gone, ?_, shows, showsGone⟩
      rw [removeWhile, shows.listed, showsGone.removed, idle]
  | succ turns ih =>
      rw [removeWhile, shows.listed, showsGone.removed,
        UsbTopologyManager.removeTree]
      cases found : topology.nextRemovableDevice root removal with
      | none => exact ⟨slots, gone, rfl, shows, showsGone⟩
      | some deviceId =>
          have attached :=
            UsbTopologyManager.nextRemovableDevice_attached found
          obtain ⟨entry, here⟩ := Option.isSome_iff_exists.mp attached
          have present := List.length_pos_of_mem
            (List.mem_of_find?_eq_some here)
          have devices := together.devices.length_eq
          have interfaces := together.interfaces.length_eq
          rw [List.length_append] at devices interfaces
          obtain ⟨swept, sweptGone, last, lastGone, sweeping, moving,
            showsNext, showsGoneNext⟩ := removeOne_follows shows showsGone
              deviceId (by omega) (by omega)
          have shorter : (topology.removeOne deviceId
              removal).1.devices.length ≤ turns := by
            have rest := (UsbTopologyManager.find_and_rest here).length_eq
            rw [List.length_cons] at rest
            change (SwapRemove.removeFirst _ topology.devices).length ≤ turns
            omega
          obtain ⟨final, finalGone, looped, showsFinal, showsGoneFinal⟩ :=
            ih showsNext showsGoneNext
              (UsbTopologyManager.together_removeOne together attached)
              shorter
          refine ⟨final, finalGone, ?_, showsFinal, showsGoneFinal⟩
          simp only [sweeping, Option.bind_eq_bind, Option.bind_some, moving]
          exact looped

theorem removeDevice_follows (shows : slots.Shows topology) (root : DeviceId) :
    slots.Follows (fun removal gone => gone.ShowsRemoved removal)
      (topology.removeDevice root) (slots.removeDevice root) := by
  simp only [removeDevice, shows.listed, UsbTopologyManager.removeDevice]
  cases attached : topology.device root with
  | none => exact .failed .unknownDevice
  | some entry =>
      rw [if_neg (by simp), require_pos (by simp), ok_bind, shows.devices.count]
      obtain ⟨last, lastGone, looped, showsLast, showsGone⟩ :=
        removeWhile_follows root shows showsRemoved_new
          (⟨.refl _, .refl _⟩ : topology.Together topology ⟨[], []⟩)
          shows.devices.fits shows.interfaces.fits (Nat.le_refl _)
      simp only [looped, Option.bind_eq_bind, Option.bind_some]
      exact .done showsGone showsLast

/-- The entries fill the first slots; numbers and routes are distinct and in
range, hubs are attached directly, and interfaces belong to devices. -/
structure InOrder (slots : UsbTopologySlots deviceCapacity
    interfaceCapacity) : Prop where
  devices : slots.devices.Filled deviceCapacity slots.devices.entries
  interfaces :
    slots.interfaces.Filled interfaceCapacity slots.interfaces.entries
  deviceIds :
    (slots.devices.entries.map UsbDeviceTopologyEntry.deviceId).Nodup
  deviceRange : ∀ entry ∈ slots.devices.entries,
    1 ≤ entry.deviceId.val.toNat ∧ entry.deviceId.val.toNat ≤ deviceCapacity
  interfaceIds : (slots.interfaces.entries.map
    UsbInterfaceTopologyEntry.interfaceId).Nodup
  interfaceRange : ∀ entry ∈ slots.interfaces.entries,
    1 ≤ entry.interfaceId.val.toNat ∧
      entry.interfaceId.val.toNat ≤ interfaceCapacity
  routes : (slots.devices.entries.map UsbDeviceTopologyEntry.route).Nodup
  hubs : ∀ entry ∈ slots.devices.entries, ∀ hubDeviceId port,
    entry.route = .downstream hubDeviceId port →
      ∃ hub ∈ slots.devices.entries, hub.deviceId = hubDeviceId ∧
        hub.route = .direct
  owned : ∀ entry ∈ slots.interfaces.entries,
    ∃ device ∈ slots.devices.entries, device.deviceId = entry.deviceId

theorem Shows.inOrder (shows : slots.Shows topology) (tidy : topology.Tidy)
    (smallDevices : deviceCapacity ≤ 255)
    (smallInterfaces : interfaceCapacity ≤ 255) : slots.InOrder := by
  have devices := shows.devices.entries_eq
  have interfaces := shows.interfaces.entries_eq
  constructor <;> simp only [devices, interfaces]
  · exact shows.devices
  · exact shows.interfaces
  · exact tidy.devices
  · intro entry member
    exact (UsbTopologyManager.mem_candidates smallDevices).mp
      (tidy.deviceRange entry member)
  · exact tidy.toSound.interfaces
  · intro entry member
    exact (UsbTopologyManager.mem_candidates smallInterfaces).mp
      (tidy.interfaceRange entry member)
  · exact tidy.routes
  · exact tidy.hubs
  · intro entry member
    exact List.mem_map.mp (tidy.known entry member)

/-- The removal reports the device, those attached to it and the interfaces of
all of them, each once; the other entries stay. -/
structure Removes
    (slots next gone : UsbTopologySlots deviceCapacity interfaceCapacity)
    (root : DeviceId) : Prop where
  devices : gone.devices.entries.Perm
    (slots.devices.entries.filter (UsbTopologyManager.belongsTo root))
  interfaces : gone.interfaces.entries.Perm
    (slots.interfaces.entries.filter
      (UsbTopologyManager.interfaceBelongsTo slots.devices.entries root))
  keptDevices : next.devices.entries.Perm
    (slots.devices.entries.filter fun entry =>
      !UsbTopologyManager.belongsTo root entry)
  keptInterfaces : next.interfaces.entries.Perm
    (slots.interfaces.entries.filter fun entry =>
      !UsbTopologyManager.interfaceBelongsTo slots.devices.entries root entry)

/-- A call that fails changes nothing; otherwise the arrays go on showing
tables that are in order. -/
structure Answered (slots : UsbTopologySlots deviceCapacity interfaceCapacity)
    (call : UsbTopologyCall)
    (answer : Except UsbTopologyError
      (UsbTopologyAnswer deviceCapacity interfaceCapacity))
    (next : UsbTopologySlots deviceCapacity interfaceCapacity) : Prop where
  shows : ∃ topology : UsbTopologyManager deviceCapacity interfaceCapacity,
    next.Shows topology ∧ topology.Tidy
  failed : ∀ error, answer = .error error → next = slots
  removes : ∀ root, call = .removeDevice root →
    if root ∈ slots.devices.entries.map UsbDeviceTopologyEntry.deviceId then
      ∃ gone, answer = .ok (.removedDevice gone) ∧
        slots.Removes next gone root
    else
      answer = .error .unknownDevice

theorem Follows.answered {same : α → β → Prop}
    (follows : Follows slots same reached taken) (shows : slots.Shows topology)
    (tidy : topology.Tidy)
    (kept : ∀ answer next, reached = .ok (answer, next) → next.Tidy)
    (tell : β → UsbTopologyAnswer deviceCapacity interfaceCapacity)
    (other : ∀ root, call ≠ .removeDevice root) :
    ∃ answer next, taken.map (fun done => (done.1.map tell, done.2)) =
        some (answer, next) ∧ slots.Answered call answer next := by
  cases follows with
  | failed error =>
      exact ⟨.error error, slots, rfl, ⟨topology, shows, tidy⟩, fun _ _ => rfl,
        fun root same => (other root same).elim⟩
  | @done _ shown after slotsAfter agree showsAfter =>
      exact ⟨.ok (tell shown), slotsAfter, rfl,
        ⟨after, showsAfter, kept _ _ rfl⟩, fun _ same => (by cases same),
        fun root same => (other root same).elim⟩

theorem perform_removeDevice (shows : slots.Shows topology)
    (tidy : topology.Tidy) (root : DeviceId) :
    ∃ answer next, slots.perform (.removeDevice root) = some (answer, next) ∧
      slots.Answered (.removeDevice root) answer next := by
  have follows := removeDevice_follows shows root
  have devices := shows.devices.entries_eq
  have interfaces := shows.interfaces.entries_eq
  generalize removed : topology.removeDevice root = reached at follows
  generalize result : slots.removeDevice root = taken at follows
  cases follows with
  | failed error =>
      refine ⟨.error error, slots, by rw [perform, result]; rfl,
        ⟨topology, shows, tidy⟩, fun _ _ => rfl, ?_⟩
      intro other same
      cases same
      rw [devices]
      simp only [UsbTopologyManager.removeDevice] at removed
      by_cases attached : (topology.device root).isSome
      · rw [require_pos attached] at removed
        cases removed
      · rw [if_neg (by rwa [← UsbTopologyManager.device_isSome])]
        rw [require, if_neg attached] at removed
        cases removed
        rfl
  | @done removal gone after slotsAfter agree showsAfter =>
      have tidyAfter := UsbTopologyManager.tidy_removeDevice tidy removed
      obtain ⟨exactly, _⟩ :=
        UsbTopologyManager.removed_of_removeDevice tidy removed
      refine ⟨.ok (.removedDevice gone), slotsAfter,
        by rw [perform, result]; rfl, ⟨after, showsAfter, tidyAfter⟩,
        fun _ same => (by cases same), ?_⟩
      intro other same
      cases same
      have attached : (topology.device root).isSome := by
        simp only [UsbTopologyManager.removeDevice, bind_eq_ok,
          require_eq_ok] at removed
        obtain ⟨_, attached, _⟩ := removed
        exact attached
      rw [devices, if_pos (UsbTopologyManager.device_isSome.mp attached)]
      refine ⟨gone, rfl, ?_, ?_, ?_, ?_⟩
      · rw [agree.devices.entries_eq, devices]
        exact exactly.devices
      · rw [agree.interfaces.entries_eq, devices, interfaces]
        exact exactly.interfaces
      · rw [showsAfter.devices.entries_eq, devices]
        exact exactly.keptDevices
      · rw [showsAfter.interfaces.entries_eq, devices, interfaces]
        exact exactly.keptInterfaces

theorem perform_answered (shows : slots.Shows topology)
    (tidy : topology.Tidy) (call : UsbTopologyCall) :
    ∃ answer next, slots.perform call = some (answer, next) ∧
      slots.Answered call answer next := by
  cases call with
  | connectDevice usbAddress route =>
      exact (connectDevice_follows shows tidy usbAddress route).answered shows
        tidy (fun _ _ connected =>
          (UsbTopologyManager.tidy_connectDevice tidy connected).1)
        _ fun _ same => by cases same
  | registerInterface deviceId interfaceNumber =>
      exact (registerInterface_follows shows tidy deviceId
        interfaceNumber).answered shows tidy (fun _ _ registered =>
          UsbTopologyManager.tidy_registerInterface tidy registered)
        _ fun _ same => by cases same
  | removeDevice root => exact perform_removeDevice shows tidy root
  | removeInterface interfaceId =>
      exact (removeInterface_follows shows interfaceId).answered shows tidy
        (fun _ _ removed => UsbTopologyManager.tidy_removeInterface tidy removed)
        _ fun _ same => by cases same

theorem after_shows (calls : List UsbTopologyCall) :
    ∃ slots : UsbTopologySlots deviceCapacity interfaceCapacity,
      after calls = some slots ∧
      ∃ topology : UsbTopologyManager deviceCapacity interfaceCapacity,
        slots.Shows topology ∧ topology.Tidy := by
  suffices reach : ∀ (start : UsbTopologySlots deviceCapacity
      interfaceCapacity) topology, start.Shows topology → topology.Tidy →
      ∃ slots, calls.foldlM (fun slots call =>
          (slots.perform call).map Prod.snd) start = some slots ∧
        ∃ topology : UsbTopologyManager deviceCapacity interfaceCapacity,
          slots.Shows topology ∧ topology.Tidy from
    reach new .new shows_new UsbTopologyManager.tidy_new
  induction calls with
  | nil =>
      intro start topology shows tidy
      exact ⟨start, rfl, topology, shows, tidy⟩
  | cons call rest step =>
      intro start topology shows tidy
      obtain ⟨answer, next, performed, answered⟩ :=
        perform_answered shows tidy call
      obtain ⟨reached, showsNext, tidyNext⟩ := answered.shows
      obtain ⟨slots, ran, last⟩ := step next reached showsNext tidyNext
      refine ⟨slots, ?_, last⟩
      rw [List.foldlM_cons, performed]
      exact ran

end UsbTopologySlots

/-- After any calls the arrays are in order.  The next call stays inside them
and ends; if it fails nothing has changed, and removing a device removes and
reports exactly what belongs to it. -/
theorem usbTopology_exact {deviceCapacity interfaceCapacity : Nat}
    (smallDevices : deviceCapacity ≤ 255)
    (smallInterfaces : interfaceCapacity ≤ 255)
    (calls : List UsbTopologyCall) :
    ∃ slots : UsbTopologySlots deviceCapacity interfaceCapacity,
      UsbTopologySlots.after calls = some slots ∧ slots.InOrder ∧
      ∀ call, ∃ answer next, slots.perform call = some (answer, next) ∧
        (∀ error, answer = .error error → next = slots) ∧
        ∀ root, call = .removeDevice root →
          if root ∈ slots.devices.entries.map
              UsbDeviceTopologyEntry.deviceId then
            ∃ gone, answer = .ok (.removedDevice gone) ∧
              slots.Removes next gone root
          else
            answer = .error .unknownDevice := by
  obtain ⟨slots, ran, topology, shows, tidy⟩ :=
    @UsbTopologySlots.after_shows deviceCapacity interfaceCapacity calls
  refine ⟨slots, ran, shows.inOrder tidy smallDevices smallInterfaces, ?_⟩
  intro call
  obtain ⟨answer, next, performed, answered⟩ :=
    UsbTopologySlots.perform_answered shows tidy call
  exact ⟨answer, next, performed, answered.failed, answered.removes⟩

/-- A hub with a keyboard behind it, in the tables of the firmware. -/
theorem usbTopology_hub :
    ∃ slots : UsbTopologySlots 4 8,
      UsbTopologySlots.after [.connectDevice 3 .direct,
        .connectDevice 4 (.downstream ⟨1⟩ 2), .registerInterface ⟨2⟩ 0] =
          some slots ∧ slots.InOrder := by
  obtain ⟨slots, ran, inOrder, _⟩ := @usbTopology_exact 4 8 (by decide)
    (by decide) [.connectDevice 3 .direct,
      .connectDevice 4 (.downstream ⟨1⟩ 2), .registerInterface ⟨2⟩ 0]
  exact ⟨slots, ran, inOrder⟩

end HidShift
