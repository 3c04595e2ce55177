import HidShift.UsbHost.Task

namespace HidShift

open Lib

structure SlotsRegistered (topology : DefaultUsbTopologyManager)
    (slots : ActiveSlots) : Prop where
  sound : topology.Sound
  registered : ∀ slot ∈ slots.reduceOption, ∃ entry ∈ topology.interfaces,
    entry.interfaceId = slot.interfaceId ∧
      entry.deviceId = slot.session.deviceId
  own : ∀ slot ∈ slots.reduceOption, slot.session.interfaceId = slot.interfaceId

namespace SlotsRegistered

variable {topology : DefaultUsbTopologyManager} {slots : ActiveSlots}

section

variable (tables : SlotsRegistered topology slots)
    (member : slot ∈ slots.reduceOption)

include tables member

theorem entry_device (listed : entry ∈ topology.interfaces)
    (same : entry.interfaceId = slot.interfaceId) :
    entry.deviceId = slot.session.deviceId := by
  obtain ⟨own, ownListed, ownInterface, ownDevice⟩ :=
    tables.registered slot member
  rw [List.inj_on_of_nodup_map tables.sound.interfaces listed ownListed
    (same.trans ownInterface.symm)]
  exact ownDevice

theorem same_device (otherMember : other ∈ slots.reduceOption)
    (same : slot.interfaceId = other.interfaceId) :
    slot.session.deviceId = other.session.deviceId := by
  obtain ⟨own, ownListed, ownInterface, ownDevice⟩ :=
    tables.registered slot member
  rw [← ownDevice]
  exact tables.entry_device otherMember ownListed (ownInterface.trans same)

theorem device_known :
    slot.session.deviceId ∈
      topology.devices.map UsbDeviceTopologyEntry.deviceId := by
  obtain ⟨own, ownListed, _, ownDevice⟩ := tables.registered slot member
  rw [← ownDevice]
  exact tables.sound.known own ownListed

end

end SlotsRegistered

/-- The sessions that are gone left the slots, and their interfaces are those
to report. -/
structure Detached (before : ActiveSlots)
    (gone : ActiveUsbInterfaceSlot → Prop) (after : ActiveSlots)
    (disconnected : List InterfaceId) : Prop where
  kept : ∀ slot, slot ∈ after.reduceOption ↔
    slot ∈ before.reduceOption ∧ ¬ gone slot
  disconnected : ∀ interfaceId, interfaceId ∈ disconnected ↔
    ∃ slot ∈ before.reduceOption, gone slot ∧
      slot.interfaceId = interfaceId
  length : after.length = before.length
  lookup : ∀ slot ∈ before.reduceOption, ¬ gone slot →
    SlotTable.lookup ActiveUsbInterfaceSlot.key after slot.key =
      SlotTable.lookup ActiveUsbInterfaceSlot.key before slot.key

theorem mem_pushUnique {more : List InterfaceId} :
    interfaceId ∈ more.foldl pushUniqueInterfaceId interfaces ↔
      interfaceId ∈ interfaces ∨ interfaceId ∈ more := by
  induction more generalizing interfaces with
  | nil => simp
  | cons head rest ih =>
      rw [List.foldl_cons, ih, List.mem_cons, pushUniqueInterfaceId]
      split
      · rename_i present
        constructor
        · exact Or.imp_right .inr
        · rintro (earlier | rfl | later)
          · exact .inl earlier
          · exact .inl present
          · exact .inr later
      · rw [List.mem_append, List.mem_singleton, or_assoc]

namespace Detached

variable {before after : ActiveSlots}
  {gone : ActiveUsbInterfaceSlot → Prop} {disconnected : List InterfaceId}

theorem none (slots : ActiveSlots) : Detached slots (fun _ => False) slots [] :=
  ⟨by simp, by simp, rfl, fun _ _ _ => rfl⟩

def Keyed (detaches : ActiveUsbInterfaceSlot → Bool) : Prop :=
  ∀ slot other, slot.key = other.key → detaches slot = detaches other

section

variable (earlier : Detached before gone after disconnected)

include earlier

theorem detach (keyed : Keyed detaches) :
    Detached before (fun slot => gone slot ∨ detaches slot = true)
      (detachActiveSlots detaches (after, disconnected)).1
      (detachActiveSlots detaches (after, disconnected)).2 := by
  have left (slot : ActiveUsbInterfaceSlot) :
      slot ∈ (after.map fun slot =>
          slot.filter fun slot => !detaches slot).reduceOption ↔
        slot ∈ before.reduceOption ∧
          ¬ (gone slot ∨ detaches slot = true) := by
    rw [SlotTable.reduceOption_map_filter, List.mem_filter, earlier.kept,
      not_or, and_assoc, Bool.not_eq_true', Bool.not_eq_true]
  refine ⟨left, ?_, ?_, ?_⟩
  · intro interfaceId
    simp only [detachActiveSlots]
    rw [mem_pushUnique, earlier.disconnected]
    simp only [List.mem_map, List.mem_filter, earlier.kept]
    constructor
    · rintro (⟨slot, member, wasGone, same⟩ | ⟨slot, ⟨⟨member, _⟩, now⟩, same⟩)
      · exact ⟨slot, member, .inl wasGone, same⟩
      · exact ⟨slot, member, .inr now, same⟩
    · rintro ⟨slot, member, wasGone | now, same⟩
      · exact .inl ⟨slot, member, wasGone, same⟩
      · by_cases wasGone : gone slot
        · exact .inl ⟨slot, member, wasGone, same⟩
        · exact .inr ⟨slot, ⟨⟨member, wasGone⟩, now⟩, same⟩
  · rw [← earlier.length]
    exact List.length_map _
  · intro slot member stays
    simp only [not_or, Bool.not_eq_true] at stays
    rw [← earlier.lookup slot member stays.1]
    apply SlotTable.lookup_filter
    intro other same
    rw [keyed other slot same, stays.2]
    rfl

theorem congr (same : ∀ slot ∈ before.reduceOption, gone slot ↔ gone' slot) :
    Detached before gone' after disconnected where
  kept slot := by
    rw [earlier.kept]
    exact and_congr_right fun member => not_congr (same slot member)
  disconnected interfaceId := by
    rw [earlier.disconnected]
    refine exists_congr fun slot => and_congr_right fun member => ?_
    rw [same slot member]
  length := earlier.length
  lookup slot member stays :=
    earlier.lookup slot member fun wasGone =>
      stays ((same slot member).mp wasGone)

theorem byInterface (interfaceId : InterfaceId) :
    Detached before (fun slot => gone slot ∨ slot.interfaceId = interfaceId)
      (detachActiveSlotByInterface interfaceId (after, disconnected)).1
      (detachActiveSlotByInterface interfaceId (after, disconnected)).2 := by
  have keyed : Keyed fun slot => slot.interfaceId = interfaceId := by
    intro slot other same
    simp only [(Prod.mk.inj same).1]
  apply (earlier.detach keyed).congr
  simp

theorem forDevice (deviceId : DeviceId) :
    Detached before (fun slot => gone slot ∨ slot.session.deviceId = deviceId)
      (detachActiveSlotsForDevice deviceId (after, disconnected)).1
      (detachActiveSlotsForDevice deviceId (after, disconnected)).2 := by
  have keyed : Keyed fun slot => slot.session.deviceId = deviceId := by
    intro slot other same
    simp only [(Prod.mk.inj same).2]
  apply (earlier.detach keyed).congr
  simp

theorem byInterfaces (entries : List UsbInterfaceTopologyEntry) :
    Detached before (fun slot => gone slot ∨
        ∃ entry ∈ entries, entry.interfaceId = slot.interfaceId)
      (entries.foldl (fun slots entry =>
        detachActiveSlotByInterface entry.interfaceId slots)
        (after, disconnected)).1
      (entries.foldl (fun slots entry =>
        detachActiveSlotByInterface entry.interfaceId slots)
        (after, disconnected)).2 := by
  induction entries generalizing gone after disconnected with
  | nil =>
      apply earlier.congr
      simp
  | cons entry rest ih =>
      apply (ih (earlier.byInterface entry.interfaceId)).congr
      simp [or_assoc, eq_comm]

end

end Detached

/-- What the removal of a device does.  The devices that are gone are the
device and what hangs from devices that are gone. -/
structure DeviceRemoved (task next : UsbHostTask) (deviceId : DeviceId)
    (gone : DeviceId → Prop) (disconnected : List InterfaceId) : Prop where
  slots : Detached task.activeSlots
    (fun slot => gone slot.session.deviceId) next.activeSlots disconnected
  device : gone deviceId
  devices : ∀ entry, entry ∈ next.topology.devices ↔
    entry ∈ task.topology.devices ∧ ¬ gone entry.deviceId
  interfaces : ∀ entry, entry ∈ next.topology.interfaces ↔
    entry ∈ task.topology.interfaces ∧ ¬ gone entry.deviceId
  hangs : ∀ entry ∈ task.topology.devices, gone entry.deviceId →
    entry.deviceId = deviceId ∨
      ∃ hub port, entry.route = .downstream hub port ∧ gone hub
  complete : deviceId ∈ task.topology.devices.map
      UsbDeviceTopologyEntry.deviceId →
    ∀ entry ∈ next.topology.devices, ∀ hub port,
      entry.route = .downstream hub port → ¬ gone hub
  sound : next.topology.Sound
  queue : next.movementQueue = task.movementQueue
  phase : next.phase = task.phase

namespace UsbHostTask

theorem removeDeviceAndNotify_known
    (tables : SlotsRegistered task.topology task.activeSlots)
    {topology : DefaultUsbTopologyManager}
    (removed : task.topology.removeDevice deviceId = .ok (removal, topology)) :
    ∃ disconnected,
      DeviceRemoved task (task.removeDeviceAndNotify build deviceId).1
          deviceId (· ∈ removal.deviceIds) disconnected ∧
        (task.removeDeviceAndNotify build deviceId).2 =
          sourceDisconnected build deviceId ++
            disconnectedMessages disconnected := by
  obtain ⟨removing, complete⟩ :=
    UsbTopologyManager.removeDevice_ok tables.sound removed
  have device : deviceId ∈ removal.deviceIds := by
    simp only [UsbTopologyManager.removeDevice, bind_eq_ok,
      require_eq_ok] at removed
    obtain ⟨_, known, _⟩ := removed
    obtain ⟨entry, listed, rfl⟩ := List.mem_map.mp
      (UsbTopologyManager.device_isSome.mp known)
    by_cases stays : entry.deviceId ∈ removal.deviceIds
    · exact stays
    · have hangs := complete entry
        ((removing.devices entry).mpr ⟨listed, stays⟩)
      simp [UsbTopologyManager.hangsFrom] at hangs
  have slots := ((Detached.none task.activeSlots).byInterfaces
    removal.interfaces).forDevice deviceId
  simp only [removeDeviceAndNotify, removed]
  refine ⟨_, ⟨slots.congr ?_, device, removing.devices, removing.interfaces,
    ?_, ?_, removing.sound, rfl, rfl⟩, rfl⟩
  · intro slot member
    constructor
    · rintro ((none | ⟨entry, listed, same⟩) | rfl)
      · exact none.elim
      · have here := (removing.removed entry).mp listed
        rw [← tables.entry_device member here.1 same]
        exact here.2
      · exact device
    · intro gone
      obtain ⟨entry, listed, same, owner⟩ := tables.registered slot member
      refine .inl (.inr ⟨entry, ?_, same⟩)
      exact (removing.removed entry).mpr ⟨listed, owner ▸ gone⟩
  · intro entry listed gone
    have hangs := removing.hangs entry listed gone
    simp only [UsbTopologyManager.hangsFrom, Bool.or_eq_true,
      decide_eq_true_eq] at hangs
    refine hangs.imp_right fun hangs => ?_
    cases route : entry.route with
    | direct => simp [route] at hangs
    | downstream hub port =>
        refine ⟨hub, port, rfl, ?_⟩
        simp only [route, Bool.or_eq_true, decide_eq_true_eq,
          List.any_eq_true] at hangs
        rcases hangs with rfl | ⟨other, listed, rfl⟩
        · exact device
        · exact List.mem_map_of_mem listed
  · intro _ entry listed hub port route gone
    have hangs := complete entry listed
    simp only [UsbTopologyManager.hangsFrom, route, Bool.or_eq_false_iff,
      List.any_eq_false] at hangs
    obtain ⟨other, otherListed, rfl⟩ := List.mem_map.mp gone
    exact hangs.2.2 other otherListed (by simp)

theorem removeDeviceAndNotify_unknown
    (tables : SlotsRegistered task.topology task.activeSlots)
    (removed : task.topology.removeDevice deviceId = .error error) :
    ∃ disconnected,
      DeviceRemoved task (task.removeDeviceAndNotify build deviceId).1
          deviceId (· = deviceId) disconnected ∧
        (task.removeDeviceAndNotify build deviceId).2 =
          sourceDisconnected build deviceId ++
            disconnectedMessages disconnected := by
  have unknown : deviceId ∉ task.topology.devices.map
      UsbDeviceTopologyEntry.deviceId := by
    intro known
    rw [← UsbTopologyManager.device_isSome] at known
    simp only [UsbTopologyManager.removeDevice, require_pos known] at removed
    cases removed
  have stays {other : DeviceId} (known : other ∈
      task.topology.devices.map UsbDeviceTopologyEntry.deviceId) :
      other ≠ deviceId := by
    rintro rfl
    exact unknown known
  have slots := (Detached.none task.activeSlots).forDevice deviceId
  simp only [removeDeviceAndNotify, removed]
  refine ⟨_, ⟨slots.congr (by simp), rfl, ?_, ?_, ?_, ?_, tables.sound, rfl,
    rfl⟩, rfl⟩
  · exact fun entry => ⟨fun listed => ⟨listed,
      stays (List.mem_map_of_mem listed)⟩, And.left⟩
  · exact fun entry => ⟨fun listed => ⟨listed,
      stays (tables.sound.known entry listed)⟩, And.left⟩
  · exact fun entry listed gone =>
      (stays (List.mem_map_of_mem listed) gone).elim
  · exact fun known => (unknown known).elim

theorem removeDeviceAndNotify_spec (build : Build)
    (tables : SlotsRegistered task.topology task.activeSlots)
    (deviceId : DeviceId) :
    ∃ gone disconnected,
      DeviceRemoved task (task.removeDeviceAndNotify build deviceId).1
          deviceId gone disconnected ∧
        (task.removeDeviceAndNotify build deviceId).2 =
          sourceDisconnected build deviceId ++
            disconnectedMessages disconnected := by
  cases removed : task.topology.removeDevice deviceId with
  | ok result => exact ⟨_, removeDeviceAndNotify_known tables removed⟩
  | error error => exact ⟨_, removeDeviceAndNotify_unknown tables removed⟩

end UsbHostTask

/-- Taking away slots and, with them, the entries of the same kind leaves the
two tables in step. -/
theorem SlotsRegistered.detached {topology next : DefaultUsbTopologyManager}
    {slots left : ActiveSlots} {goes : ActiveUsbInterfaceSlot → Prop}
    {leaves : UsbInterfaceTopologyEntry → Prop}
    (tables : SlotsRegistered topology slots)
    (detached : Detached slots goes left disconnected)
    (sound : next.Sound)
    (entries : ∀ entry, entry ∈ next.interfaces ↔
      entry ∈ topology.interfaces ∧ ¬ leaves entry)
    (along : ∀ slot entry, entry.interfaceId = slot.interfaceId →
      entry.deviceId = slot.session.deviceId → leaves entry → goes slot) :
    SlotsRegistered next left := by
  refine ⟨sound, fun slot member => ?_, fun slot member =>
    tables.own slot ((detached.kept slot).mp member).1⟩
  obtain ⟨earlier, stays⟩ := (detached.kept slot).mp member
  obtain ⟨entry, listed, same, owner⟩ := tables.registered slot earlier
  exact ⟨entry, (entries entry).mpr ⟨listed, fun gone =>
    stays (along slot entry same owner gone)⟩, same, owner⟩

theorem DeviceRemoved.tables
    (removed : DeviceRemoved task next deviceId gone disconnected)
    (tables : SlotsRegistered task.topology task.activeSlots) :
    SlotsRegistered next.topology next.activeSlots :=
  tables.detached removed.slots removed.sound removed.interfaces
    fun _ _ _ owner => owner ▸ id

structure InterfaceRemoved (task next : UsbHostTask)
    (interfaceId : InterfaceId) (disconnected : List InterfaceId) :
    Prop where
  slots : Detached task.activeSlots
    (fun slot => slot.interfaceId = interfaceId) next.activeSlots disconnected
  devices : next.topology.devices = task.topology.devices
  interfaces : ∀ entry, entry ∈ next.topology.interfaces ↔
    entry ∈ task.topology.interfaces ∧ entry.interfaceId ≠ interfaceId
  sound : next.topology.Sound
  queue : next.movementQueue = task.movementQueue
  phase : next.phase = task.phase

theorem UsbHostTask.removeInterfaceAndNotify_spec (build : Build)
    (sound : task.topology.Sound) (interfaceId : InterfaceId) :
    ∃ disconnected,
      InterfaceRemoved task
          (task.removeInterfaceAndNotify build interfaceId).1 interfaceId
          disconnected ∧
        (task.removeInterfaceAndNotify build interfaceId).2 =
          disconnectedMessages disconnected := by
  have slots := (Detached.none task.activeSlots).byInterface interfaceId
  cases removed : task.topology.removeInterface interfaceId with
  | ok result =>
      obtain ⟨devices, sound, interfaces⟩ :=
        UsbTopologyManager.removeInterface_ok sound removed
      simp only [removeInterfaceAndNotify, removed]
      exact ⟨_, ⟨slots.congr (by simp), devices, interfaces, sound, rfl, rfl⟩,
        rfl⟩
  | error error =>
      simp only [removeInterfaceAndNotify, removed]
      refine ⟨_, ⟨slots.congr (by simp), rfl, fun entry => ?_, sound, rfl,
        rfl⟩, rfl⟩
      refine ⟨fun listed => ⟨listed, ?_⟩, And.left⟩
      simp only [UsbTopologyManager.removeInterface] at removed
      cases found : task.topology.interfaces.find? fun entry =>
          entry.interfaceId = interfaceId with
      | some stored => simp [found] at removed
      | none => simpa using List.find?_eq_none.mp found entry listed

theorem InterfaceRemoved.tables
    (removed : InterfaceRemoved task next interfaceId disconnected)
    (tables : SlotsRegistered task.topology task.activeSlots) :
    SlotsRegistered next.topology next.activeSlots :=
  tables.detached removed.slots removed.sound removed.interfaces
    fun _ _ same _ => same ▸ id

end HidShift
