import HidShift.Ids
import HidShift.Lib.CountedSlots
import HidShift.Lib.InPlace

/-! The attached USB devices and their interfaces (`usb_hid/topology.rs`). -/

namespace HidShift

open Lib

inductive UsbDeviceRoute
  | direct
  | downstream (hubDeviceId : DeviceId) (port : UInt8)
deriving DecidableEq, Repr

structure UsbDeviceTopologyEntry where
  deviceId : DeviceId
  usbAddress : UInt8
  route : UsbDeviceRoute
deriving DecidableEq

structure UsbInterfaceTopologyEntry where
  interfaceId : InterfaceId
  deviceId : DeviceId
  interfaceNumber : UInt8
deriving Repr

inductive UsbTopologyError
  | deviceCapacity
  | interfaceCapacity
  | unknownDevice
  | unknownInterface
  | occupiedRoute
  | hubParentMissing
  | hubDepthExceeded
deriving Repr

structure UsbTopologyRemoval where
  devices : List UsbDeviceTopologyEntry
  interfaces : List UsbInterfaceTopologyEntry

def UsbTopologyRemoval.deviceIds (removal : UsbTopologyRemoval) :
    List DeviceId :=
  removal.devices.map UsbDeviceTopologyEntry.deviceId

structure UsbTopologyManager (deviceCapacity interfaceCapacity : Nat) where
  devices : List UsbDeviceTopologyEntry
  interfaces : List UsbInterfaceTopologyEntry

abbrev DefaultUsbTopologyManager := UsbTopologyManager 4 8

namespace UsbTopologyManager

variable {deviceCapacity interfaceCapacity : Nat}

def new : UsbTopologyManager deviceCapacity interfaceCapacity := ⟨[], []⟩

variable (topology : UsbTopologyManager deviceCapacity interfaceCapacity)

def device (deviceId : DeviceId) : Option UsbDeviceTopologyEntry :=
  topology.devices.find? fun entry => entry.deviceId = deviceId

def validateRoute : UsbDeviceRoute → Except UsbTopologyError Unit
  | .direct => .ok ()
  | .downstream hubDeviceId _ =>
      match topology.device hubDeviceId with
      | none => .error .hubParentMissing
      | some parent =>
          match parent.route with
          | .direct => .ok ()
          | .downstream _ _ => .error .hubDepthExceeded

def candidates (capacity : Nat) : List UInt8 :=
  (List.range capacity).map fun value => UInt8.ofNat (value + 1)

def allocDeviceId : Except UsbTopologyError DeviceId :=
  match ((candidates deviceCapacity).map DeviceId.mk).find? fun candidate =>
    (topology.device candidate).isNone with
  | some deviceId => .ok deviceId
  | none => .error .deviceCapacity

def allocInterfaceId : Except UsbTopologyError InterfaceId :=
  match ((candidates interfaceCapacity).map InterfaceId.mk).find?
    fun candidate => !topology.interfaces.any fun entry =>
      entry.interfaceId = candidate with
  | some interfaceId => .ok interfaceId
  | none => .error .interfaceCapacity

def connectDevice (usbAddress : UInt8) (route : UsbDeviceRoute) :
    Except UsbTopologyError
      (DeviceId × UsbTopologyManager deviceCapacity interfaceCapacity) := do
  topology.validateRoute route
  require (∀ entry ∈ topology.devices, entry.route ≠ route) .occupiedRoute
  let deviceId ← topology.allocDeviceId
  return (deviceId, { topology with
    devices := topology.devices ++ [⟨deviceId, usbAddress, route⟩] })

def registerInterface (deviceId : DeviceId) (interfaceNumber : UInt8) :
    Except UsbTopologyError
      (InterfaceId × UsbTopologyManager deviceCapacity interfaceCapacity) :=
    do
  require (topology.device deviceId).isSome .unknownDevice
  match topology.interfaces.find? fun entry =>
    entry.deviceId = deviceId ∧ entry.interfaceNumber = interfaceNumber with
  | some entry => return (entry.interfaceId, topology)
  | none =>
      let interfaceId ← topology.allocInterfaceId
      return (interfaceId, { topology with
        interfaces := topology.interfaces ++
          [⟨interfaceId, deviceId, interfaceNumber⟩] })

/-- The device is the root, or hangs from it or from what was removed
already. -/
def hangsFrom (rootDeviceId : DeviceId) (removal : UsbTopologyRemoval)
    (entry : UsbDeviceTopologyEntry) : Bool :=
  entry.deviceId = rootDeviceId ||
    match entry.route with
    | .direct => false
    | .downstream hubDeviceId _ =>
        hubDeviceId = rootDeviceId ||
          removal.devices.any fun removed => removed.deviceId = hubDeviceId

def nextRemovableDevice (rootDeviceId : DeviceId)
    (removal : UsbTopologyRemoval) : Option DeviceId :=
  (topology.devices.find? (hangsFrom rootDeviceId removal)).map
    UsbDeviceTopologyEntry.deviceId

def removeOne (deviceId : DeviceId) (removal : UsbTopologyRemoval) :
    UsbTopologyManager deviceCapacity interfaceCapacity ×
      UsbTopologyRemoval :=
  let (interfaces, removed) := SwapRemove.sweep
    (fun entry => entry.deviceId = deviceId) topology.interfaces.length
    topology.interfaces
  ({ devices := SwapRemove.removeFirst
        (fun entry => entry.deviceId = deviceId) topology.devices,
      interfaces },
    { devices := removal.devices ++ (topology.device deviceId).toList,
      interfaces := removal.interfaces ++ removed })

/-- Every turn takes a device, so the devices bound the turns. -/
def removeTree (rootDeviceId : DeviceId) : (turns : Nat) →
    UsbTopologyManager deviceCapacity interfaceCapacity →
    UsbTopologyRemoval →
    UsbTopologyManager deviceCapacity interfaceCapacity × UsbTopologyRemoval
  | 0, topology, removal => (topology, removal)
  | turns + 1, topology, removal =>
      match topology.nextRemovableDevice rootDeviceId removal with
      | none => (topology, removal)
      | some deviceId =>
          let (topology, removal) := topology.removeOne deviceId removal
          removeTree rootDeviceId turns topology removal

def removeDevice (deviceId : DeviceId) :
    Except UsbTopologyError
      (UsbTopologyRemoval ×
        UsbTopologyManager deviceCapacity interfaceCapacity) := do
  require (topology.device deviceId).isSome .unknownDevice
  let (topology, removal) :=
    removeTree deviceId topology.devices.length topology ⟨[], []⟩
  return (removal, topology)

def removeInterface (interfaceId : InterfaceId) :
    Except UsbTopologyError
      (UsbInterfaceTopologyEntry ×
        UsbTopologyManager deviceCapacity interfaceCapacity) :=
  match topology.interfaces.find? fun entry =>
    entry.interfaceId = interfaceId with
  | some entry => .ok (entry, { topology with
      interfaces := SwapRemove.removeFirst
        (fun entry => entry.interfaceId = interfaceId) topology.interfaces })
  | none => .error .unknownInterface

structure Sound (topology : UsbTopologyManager deviceCapacity
    interfaceCapacity) : Prop where
  devices : (topology.devices.map UsbDeviceTopologyEntry.deviceId).Nodup
  interfaces :
    (topology.interfaces.map UsbInterfaceTopologyEntry.interfaceId).Nodup
  known : ∀ entry ∈ topology.interfaces,
    entry.deviceId ∈ topology.devices.map UsbDeviceTopologyEntry.deviceId

theorem sound_new : (new : UsbTopologyManager deviceCapacity
    interfaceCapacity).Sound :=
  ⟨.nil, .nil, fun _ member => (List.not_mem_nil member).elim⟩

variable {topology next : UsbTopologyManager deviceCapacity
  interfaceCapacity}

variable {deviceId : DeviceId}

theorem device_isSome :
    (topology.device deviceId).isSome ↔
      deviceId ∈ topology.devices.map UsbDeviceTopologyEntry.deviceId := by
  simp [device]

theorem device_eq_some (sound : topology.Sound) :
    topology.device deviceId = some entry ↔
      entry ∈ topology.devices ∧ entry.deviceId = deviceId := by
  constructor
  · intro found
    exact ⟨List.mem_of_find?_eq_some found,
      by simpa using List.find?_some found⟩
  · rintro ⟨member, rfl⟩
    obtain ⟨other, found⟩ := Option.isSome_iff_exists.mp
      (device_isSome.mpr (List.mem_map_of_mem member))
    have same : other.deviceId = entry.deviceId := by
      simpa using List.find?_some found
    rw [found, List.inj_on_of_nodup_map sound.devices
      (List.mem_of_find?_eq_some found) member same]

theorem connectDevice_ok (connected : topology.connectDevice usbAddress
      route = .ok (deviceId, next)) :
    deviceId ∉ topology.devices.map UsbDeviceTopologyEntry.deviceId ∧
      next = { topology with
        devices := topology.devices ++ [⟨deviceId, usbAddress, route⟩] } := by
  simp only [connectDevice, bind_eq_ok, require_eq_ok] at connected
  obtain ⟨_, _, _, _, allocated, fresh, rfl, rfl⟩ := connected
  refine ⟨?_, rfl⟩
  rw [← device_isSome]
  simp only [allocDeviceId] at fresh
  cases found : ((candidates deviceCapacity).map DeviceId.mk).find?
      fun candidate => (topology.device candidate).isNone with
  | none =>
      rw [found] at fresh
      cases fresh
  | some candidate =>
      rw [found] at fresh
      cases fresh
      have free := List.find?_some found
      simpa using free

theorem sound_connectDevice (sound : topology.Sound)
    (connected :
      topology.connectDevice usbAddress route = .ok (deviceId, next)) :
    next.Sound := by
  obtain ⟨fresh, rfl⟩ := connectDevice_ok connected
  refine ⟨?_, sound.interfaces, fun entry member => ?_⟩
  · rw [List.map_append]
    exact sound.devices.append (List.nodup_singleton _)
      (List.disjoint_singleton.mpr fresh)
  · rw [List.map_append]
    exact List.mem_append_left _ (sound.known entry member)

structure Registered (topology next : UsbTopologyManager deviceCapacity
    interfaceCapacity) (entry : UsbInterfaceTopologyEntry) : Prop where
  devices : next.devices = topology.devices
  member : entry ∈ next.interfaces
  kept : ∀ other ∈ topology.interfaces, other ∈ next.interfaces
  others : ∀ other ∈ next.interfaces,
    other ∈ topology.interfaces ∨ other = entry
  sound : next.Sound

theorem registerInterface_ok (sound : topology.Sound)
    (registered : topology.registerInterface deviceId interfaceNumber =
      .ok (interfaceId, next)) :
    Registered topology next ⟨interfaceId, deviceId, interfaceNumber⟩ := by
  simp only [registerInterface, bind_eq_ok, require_eq_ok] at registered
  obtain ⟨_, attached, registered⟩ := registered
  cases found : topology.interfaces.find? fun entry =>
      entry.deviceId = deviceId ∧ entry.interfaceNumber = interfaceNumber with
  | some entry =>
      rw [found] at registered
      cases registered
      have same := List.find?_some found
      simp only [decide_eq_true_eq] at same
      obtain ⟨rfl, rfl⟩ := same
      exact ⟨rfl, List.mem_of_find?_eq_some found, fun _ member => member,
        fun _ member => .inl member, sound⟩
  | none =>
      rw [found] at registered
      simp only [bind_eq_ok] at registered
      obtain ⟨allocated, fresh, same⟩ := registered
      cases same
      have free : interfaceId ∉ topology.interfaces.map
          UsbInterfaceTopologyEntry.interfaceId := by
        simp only [allocInterfaceId] at fresh
        cases found : ((candidates interfaceCapacity).map InterfaceId.mk).find?
            fun candidate => !topology.interfaces.any fun entry =>
              entry.interfaceId = candidate with
        | none =>
            rw [found] at fresh
            cases fresh
        | some candidate =>
            rw [found] at fresh
            cases fresh
            have free := List.find?_some found
            simpa using free
      refine ⟨rfl, List.mem_append_right _ List.mem_cons_self,
        fun other member => List.mem_append_left _ member, ?_, ?_⟩
      · intro other member
        rcases List.mem_append.mp member with earlier | new
        · exact .inl earlier
        · exact .inr (List.mem_singleton.mp new)
      · refine ⟨sound.devices, ?_, fun entry member => ?_⟩
        · rw [List.map_append]
          exact sound.interfaces.append (List.nodup_singleton _)
            (List.disjoint_singleton.mpr free)
        · rcases List.mem_append.mp member with earlier | new
          · exact sound.known entry earlier
          · rw [List.mem_singleton.mp new]
            exact device_isSome.mp attached

theorem removeInterface_ok (sound : topology.Sound)
    (removed : topology.removeInterface interfaceId = .ok (entry, next)) :
    next.devices = topology.devices ∧ next.Sound ∧
      ∀ other, other ∈ next.interfaces ↔
        other ∈ topology.interfaces ∧ other.interfaceId ≠ interfaceId := by
  simp only [removeInterface] at removed
  cases found : topology.interfaces.find? fun entry =>
      entry.interfaceId = interfaceId with
  | none =>
      rw [found] at removed
      cases removed
  | some stored =>
      rw [found] at removed
      cases removed
      have others := fun other => @SwapRemove.mem_removeFirst _ _
        UsbInterfaceTopologyEntry.interfaceId _ topology.interfaces
        interfaceId other sound.interfaces
      refine ⟨rfl, ⟨sound.devices,
        SwapRemove.distinct_removeFirst sound.interfaces, ?_⟩, others⟩
      intro other member
      exact sound.known other ((others other).mp member).1

variable {root : DeviceId} {removal : UsbTopologyRemoval}

structure Removing (topology next : UsbTopologyManager deviceCapacity
    interfaceCapacity) (root : DeviceId) (removal : UsbTopologyRemoval) :
    Prop where
  sound : next.Sound
  devices : ∀ entry, entry ∈ next.devices ↔
    entry ∈ topology.devices ∧ entry.deviceId ∉ removal.deviceIds
  interfaces : ∀ entry, entry ∈ next.interfaces ↔
    entry ∈ topology.interfaces ∧ entry.deviceId ∉ removal.deviceIds
  removed : ∀ entry, entry ∈ removal.interfaces ↔
    entry ∈ topology.interfaces ∧ entry.deviceId ∈ removal.deviceIds
  hangs : ∀ entry ∈ topology.devices, entry.deviceId ∈ removal.deviceIds →
    hangsFrom root removal entry = true

theorem hangsFrom_mono (interfaces : List UsbInterfaceTopologyEntry)
    (hangs : hangsFrom root removal entry = true) :
    hangsFrom root ⟨removal.devices ++ [removed], interfaces⟩ entry =
      true := by
  simp only [hangsFrom, Bool.or_eq_true] at hangs ⊢
  refine hangs.imp_right fun hangs => ?_
  cases route : entry.route with
  | direct => simp [route] at hangs
  | downstream hub port =>
      simp only [route, Bool.or_eq_true, List.any_append] at hangs ⊢
      exact hangs.imp_right .inl

theorem removing_removeOne (sound : topology.Sound)
    (earlier : topology.Removing next root removal)
    (found : next.nextRemovableDevice root removal = some deviceId) :
    topology.Removing (next.removeOne deviceId removal).1 root
        (next.removeOne deviceId removal).2 ∧
      (next.removeOne deviceId removal).1.devices.length <
        next.devices.length := by
  obtain ⟨entry, search, rfl⟩ := Option.map_eq_some_iff.mp found
  have member := List.mem_of_find?_eq_some search
  have stored : next.device entry.deviceId = some entry :=
    (device_eq_some earlier.sound).mpr ⟨member, rfl⟩
  have devices := fun other => @SwapRemove.mem_removeFirst _ _
    UsbDeviceTopologyEntry.deviceId _ next.devices entry.deviceId other
    earlier.sound.devices
  have swept (other : UsbInterfaceTopologyEntry) :
      other ∈ (next.removeOne entry.deviceId removal).1.interfaces ↔
        other ∈ next.interfaces ∧ other.deviceId ≠ entry.deviceId := by
    simp only [removeOne]
    rw [SwapRemove.mem_sweep_kept, decide_eq_false_iff_not]
  have gone (deviceId : DeviceId) :
      deviceId ∈ (next.removeOne entry.deviceId removal).2.deviceIds ↔
        deviceId ∈ removal.deviceIds ∨ deviceId = entry.deviceId := by
    simp [removeOne, UsbTopologyRemoval.deviceIds, stored]
  refine ⟨⟨⟨?_, ?_, ?_⟩, ?_, ?_, ?_, ?_⟩, ?_⟩
  · exact SwapRemove.distinct_removeFirst earlier.sound.devices
  · exact SwapRemove.distinct_sweep earlier.sound.interfaces
  · intro other kept
    obtain ⟨kept, differs⟩ := (swept other).mp kept
    obtain ⟨device, deviceMember, same⟩ :=
      List.mem_map.mp (earlier.sound.known other kept)
    rw [← same] at differs ⊢
    exact List.mem_map_of_mem ((devices device).mpr ⟨deviceMember, differs⟩)
  · intro other
    rw [gone, not_or, ← and_assoc, ← earlier.devices]
    exact devices other
  · intro other
    rw [gone, not_or, ← and_assoc, ← earlier.interfaces]
    exact swept other
  · intro other
    have moved : other ∈ (next.removeOne entry.deviceId removal).2.interfaces ↔
        other ∈ removal.interfaces ∨
          other ∈ next.interfaces ∧ other.deviceId = entry.deviceId := by
      simp only [removeOne, List.mem_append]
      rw [SwapRemove.mem_sweep_removed, decide_eq_true_eq]
    rw [moved, gone, earlier.removed, earlier.interfaces]
    constructor
    · rintro (⟨listed, removed⟩ | ⟨⟨listed, _⟩, here⟩)
      · exact ⟨listed, .inl removed⟩
      · exact ⟨listed, .inr here⟩
    · rintro ⟨listed, removed | here⟩
      · exact .inl ⟨listed, removed⟩
      · by_cases removed : other.deviceId ∈ removal.deviceIds
        · exact .inl ⟨listed, removed⟩
        · exact .inr ⟨⟨listed, removed⟩, here⟩
  · intro other listed removed
    have hangs : hangsFrom root removal other = true := by
      rcases (gone _).mp removed with removed | here
      · exact earlier.hangs other listed removed
      · rw [List.inj_on_of_nodup_map sound.devices listed
          ((earlier.devices entry).mp member).1 here]
        exact List.find?_some search
    simp only [removeOne, stored, Option.toList_some]
    exact hangsFrom_mono _ hangs
  · simp only [removeOne]
    rw [(SwapRemove.removeFirst_perm _ _).length_eq,
      List.length_eraseP_of_mem member (by simp)]
    have := List.length_pos_of_mem member
    omega

theorem removing_removeTree (sound : topology.Sound)
    (earlier : topology.Removing next root removal)
    (enough : next.devices.length ≤ turns) :
    topology.Removing (removeTree root turns next removal).1 root
        (removeTree root turns next removal).2 ∧
      ∀ entry ∈ (removeTree root turns next removal).1.devices,
        hangsFrom root (removeTree root turns next removal).2 entry =
          false := by
  induction turns generalizing next removal with
  | zero =>
      refine ⟨earlier, fun entry member => ?_⟩
      have none := List.eq_nil_of_length_eq_zero (Nat.le_zero.mp enough)
      simp only [removeTree, none] at member
      cases member
  | succ turns ih =>
      simp only [removeTree]
      cases found : next.nextRemovableDevice root removal with
      | none =>
          refine ⟨earlier, fun entry member => ?_⟩
          have done := List.find?_eq_none.mp
            (Option.map_eq_none_iff.mp found) entry member
          simpa using done
      | some deviceId =>
          obtain ⟨one, shorter⟩ := removing_removeOne sound earlier found
          exact ih one (by omega)

theorem removeDevice_ok (sound : topology.Sound)
    (removed : topology.removeDevice root = .ok (removal, next)) :
    topology.Removing next root removal ∧
      (∀ entry ∈ next.devices, hangsFrom root removal entry = false) := by
  simp only [removeDevice, bind_eq_ok, require_eq_ok] at removed
  obtain ⟨_, attached, same⟩ := removed
  cases same
  apply removing_removeTree sound _ (Nat.le_refl _)
  exact ⟨sound, by simp [UsbTopologyRemoval.deviceIds],
    by simp [UsbTopologyRemoval.deviceIds],
    by simp [UsbTopologyRemoval.deviceIds],
    by simp [UsbTopologyRemoval.deviceIds]⟩

end UsbTopologyManager

structure UsbTopologySlots (deviceCapacity interfaceCapacity : Nat) where
  devices : CountedSlots UsbDeviceTopologyEntry
  interfaces : CountedSlots UsbInterfaceTopologyEntry

namespace UsbTopologySlots

variable {deviceCapacity interfaceCapacity : Nat}

def new : UsbTopologySlots deviceCapacity interfaceCapacity :=
  ⟨.empty deviceCapacity, .empty interfaceCapacity⟩

variable (slots : UsbTopologySlots deviceCapacity interfaceCapacity)

/-- What the iterators `devices` and `interfaces` give. -/
def listed : UsbTopologyManager deviceCapacity interfaceCapacity :=
  ⟨slots.devices.entries, slots.interfaces.entries⟩

def removed : UsbTopologyRemoval :=
  ⟨slots.devices.entries, slots.interfaces.entries⟩

def connectDevice (usbAddress : UInt8) (route : UsbDeviceRoute) :
    Option (Except UsbTopologyError DeviceId ×
      UsbTopologySlots deviceCapacity interfaceCapacity) :=
  let chosen := do
    slots.listed.validateRoute route
    require (∀ entry ∈ slots.listed.devices, entry.route ≠ route)
      UsbTopologyError.occupiedRoute
    slots.listed.allocDeviceId
  match chosen with
  | .error error => some (.error error, slots)
  | .ok deviceId => do
      let devices ← slots.devices.push ⟨deviceId, usbAddress, route⟩
      return (.ok deviceId, { slots with devices })

def registerInterface (deviceId : DeviceId) (interfaceNumber : UInt8) :
    Option (Except UsbTopologyError InterfaceId ×
      UsbTopologySlots deviceCapacity interfaceCapacity) :=
  if (slots.listed.device deviceId).isNone then
    some (.error .unknownDevice, slots)
  else
    match slots.listed.interfaces.find? fun entry =>
      entry.deviceId = deviceId ∧ entry.interfaceNumber = interfaceNumber with
    | some entry => some (.ok entry.interfaceId, slots)
    | none =>
        match slots.listed.allocInterfaceId with
        | .error error => some (.error error, slots)
        | .ok interfaceId => do
            let interfaces ← slots.interfaces.push
              ⟨interfaceId, deviceId, interfaceNumber⟩
            return (.ok interfaceId, { slots with interfaces })

def removeInterfacesForDevice (deviceId : DeviceId)
    (removal : UsbTopologySlots deviceCapacity interfaceCapacity) :
    Option (UsbTopologySlots deviceCapacity interfaceCapacity ×
      UsbTopologySlots deviceCapacity interfaceCapacity) := do
  let (interfaces, gone) ← CountedSlots.sweep
    (fun entry => entry.deviceId = deviceId) (slots.interfaces.count + 1)
    slots.interfaces 0 removal.interfaces
  return ({ slots with interfaces }, { removal with interfaces := gone })

def removeDeviceEntry (deviceId : DeviceId)
    (removal : UsbTopologySlots deviceCapacity interfaceCapacity) :
    Option (UsbTopologySlots deviceCapacity interfaceCapacity ×
      UsbTopologySlots deviceCapacity interfaceCapacity) := do
  let (devices, gone) ← CountedSlots.moveFirst
    (fun entry => entry.deviceId = deviceId) (slots.devices.count + 1)
    slots.devices 0 removal.devices
  return ({ slots with devices }, { removal with devices := gone })

/-- The loop of `remove_device`. -/
def removeWhile (rootDeviceId : DeviceId) : (turns : Nat) →
    UsbTopologySlots deviceCapacity interfaceCapacity →
    UsbTopologySlots deviceCapacity interfaceCapacity →
    Option (UsbTopologySlots deviceCapacity interfaceCapacity ×
      UsbTopologySlots deviceCapacity interfaceCapacity)
  | 0, _, _ => none
  | turns + 1, slots, removal =>
      match slots.listed.nextRemovableDevice rootDeviceId removal.removed with
      | none => some (slots, removal)
      | some deviceId => do
          let (slots, removal) ←
            slots.removeInterfacesForDevice deviceId removal
          let (slots, removal) ← slots.removeDeviceEntry deviceId removal
          removeWhile rootDeviceId turns slots removal

def removeDevice (deviceId : DeviceId) :
    Option (Except UsbTopologyError
        (UsbTopologySlots deviceCapacity interfaceCapacity) ×
      UsbTopologySlots deviceCapacity interfaceCapacity) :=
  if (slots.listed.device deviceId).isNone then
    some (.error .unknownDevice, slots)
  else do
    let (slots, removal) ←
      removeWhile deviceId (slots.devices.count + 1) slots new
    return (.ok removal, slots)

def removeInterface (interfaceId : InterfaceId) :
    Option (Except UsbTopologyError UsbInterfaceTopologyEntry ×
      UsbTopologySlots deviceCapacity interfaceCapacity) :=
  match slots.interfaces.slots.findIdx? fun slot =>
    slot.any fun entry => entry.interfaceId = interfaceId with
  | none => some (.error .unknownInterface, slots)
  | some index =>
      match slots.interfaces.slots[index]?.join with
      | none => some (.error .unknownInterface, slots)
      | some entry => do
          let interfaces ← slots.interfaces.takeOut index
          return (.ok entry, { slots with interfaces })

end UsbTopologySlots

inductive UsbTopologyCall
  | connectDevice (usbAddress : UInt8) (route : UsbDeviceRoute)
  | registerInterface (deviceId : DeviceId) (interfaceNumber : UInt8)
  | removeDevice (deviceId : DeviceId)
  | removeInterface (interfaceId : InterfaceId)
deriving DecidableEq

inductive UsbTopologyAnswer (deviceCapacity interfaceCapacity : Nat)
  | connected (deviceId : DeviceId)
  | registered (interfaceId : InterfaceId)
  | removedDevice (removal : UsbTopologySlots deviceCapacity interfaceCapacity)
  | removedInterface (entry : UsbInterfaceTopologyEntry)

namespace UsbTopologySlots

variable {deviceCapacity interfaceCapacity : Nat}

def perform (slots : UsbTopologySlots deviceCapacity interfaceCapacity) :
    UsbTopologyCall →
    Option (Except UsbTopologyError
        (UsbTopologyAnswer deviceCapacity interfaceCapacity) ×
      UsbTopologySlots deviceCapacity interfaceCapacity)
  | .connectDevice usbAddress route =>
      (slots.connectDevice usbAddress route).map fun done =>
        (done.1.map .connected, done.2)
  | .registerInterface deviceId interfaceNumber =>
      (slots.registerInterface deviceId interfaceNumber).map fun done =>
        (done.1.map .registered, done.2)
  | .removeDevice deviceId =>
      (slots.removeDevice deviceId).map fun done =>
        (done.1.map .removedDevice, done.2)
  | .removeInterface interfaceId =>
      (slots.removeInterface interfaceId).map fun done =>
        (done.1.map .removedInterface, done.2)

/-- The tables after some calls, unless one left an array. -/
def after (calls : List UsbTopologyCall) :
    Option (UsbTopologySlots deviceCapacity interfaceCapacity) :=
  calls.foldlM (fun slots call => (slots.perform call).map Prod.snd) new

end UsbTopologySlots

end HidShift
