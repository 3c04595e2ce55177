import HidShift.UsbHid.Topology

namespace HidShift

open Lib

namespace UsbTopologyManager

variable {deviceCapacity interfaceCapacity : Nat}

theorem length_candidates (capacity : Nat) :
    (candidates capacity).length = capacity := by
  rw [candidates, List.length_map, List.length_range]

theorem mem_candidates (small : capacity ≤ 255) :
    value ∈ candidates capacity ↔
      1 ≤ value.toNat ∧ value.toNat ≤ capacity := by
  rw [candidates, List.mem_map]
  constructor
  · rintro ⟨number, inRange, rfl⟩
    rw [List.mem_range] at inRange
    rw [UInt8.toNat_ofNat_of_lt' (by change number + 1 < 256; omega)]
    omega
  · rintro ⟨positive, bounded⟩
    refine ⟨value.toNat - 1, List.mem_range.mpr (by omega), ?_⟩
    rw [Nat.sub_add_cancel positive, UInt8.ofNat_toNat]

theorem length_lt_of_free {β ι : Type} {entries : List β} {identify : β → ι}
    {number : ι → UInt8} {free : ι} (injective : Function.Injective number)
    (distinct : (entries.map identify).Nodup)
    (inRange : ∀ entry ∈ entries, number (identify entry) ∈ candidates capacity)
    (candidate : number free ∈ candidates capacity)
    (fresh : free ∉ entries.map identify) : entries.length < capacity := by
  have apart : ((free :: entries.map identify).map number).Nodup :=
    (List.nodup_cons.mpr ⟨fresh, distinct⟩).map injective
  have fits := (List.subperm_of_subset apart (fun value member => by
    obtain ⟨named, listed, rfl⟩ := List.mem_map.mp member
    rcases List.mem_cons.mp listed with rfl | old
    · exact candidate
    · obtain ⟨entry, stored, rfl⟩ := List.mem_map.mp old
      exact inRange entry stored)).length_le
  rwa [length_candidates, List.length_map, List.length_cons,
    List.length_map] at fits

/-- Numbers and routes are distinct and in range, and every hub is attached
directly. -/
structure Tidy (topology : UsbTopologyManager deviceCapacity
    interfaceCapacity) : Prop extends Sound topology where
  deviceRange : ∀ entry ∈ topology.devices,
    entry.deviceId.val ∈ candidates deviceCapacity
  interfaceRange : ∀ entry ∈ topology.interfaces,
    entry.interfaceId.val ∈ candidates interfaceCapacity
  routes : (topology.devices.map UsbDeviceTopologyEntry.route).Nodup
  hubs : ∀ entry ∈ topology.devices, ∀ hubDeviceId port,
    entry.route = .downstream hubDeviceId port →
      ∃ hub ∈ topology.devices, hub.deviceId = hubDeviceId ∧
        hub.route = .direct

theorem tidy_new : (new : UsbTopologyManager deviceCapacity
    interfaceCapacity).Tidy where
  toSound := sound_new
  deviceRange _ member := (List.not_mem_nil member).elim
  interfaceRange _ member := (List.not_mem_nil member).elim
  routes := .nil
  hubs _ member := (List.not_mem_nil member).elim

variable {topology next : UsbTopologyManager deviceCapacity
  interfaceCapacity}

variable {deviceId : DeviceId} {interfaceId : InterfaceId}

theorem allocDeviceId_ok (allocated : topology.allocDeviceId = .ok deviceId) :
    deviceId.val ∈ candidates deviceCapacity ∧
      deviceId ∉ topology.devices.map UsbDeviceTopologyEntry.deviceId := by
  rw [allocDeviceId] at allocated
  split at allocated
  · rename_i found
    cases allocated
    obtain ⟨value, member, rfl⟩ :=
      List.mem_map.mp (List.mem_of_find?_eq_some found)
    have free := List.find?_some found
    rw [← device_isSome]
    exact ⟨member, by simpa using free⟩
  · cases allocated

theorem allocInterfaceId_ok
    (allocated : topology.allocInterfaceId = .ok interfaceId) :
    interfaceId.val ∈ candidates interfaceCapacity ∧
      interfaceId ∉
        topology.interfaces.map UsbInterfaceTopologyEntry.interfaceId := by
  rw [allocInterfaceId] at allocated
  split at allocated
  · rename_i found
    cases allocated
    obtain ⟨value, member, rfl⟩ :=
      List.mem_map.mp (List.mem_of_find?_eq_some found)
    have free := List.find?_some found
    exact ⟨member, by simpa using free⟩
  · cases allocated

theorem Tidy.device_room (tidy : topology.Tidy)
    (allocated : topology.allocDeviceId = .ok deviceId) :
    topology.devices.length < deviceCapacity := by
  obtain ⟨candidate, fresh⟩ := allocDeviceId_ok allocated
  exact length_lt_of_free
    (fun left right => (DeviceId.mk.injEq left.val right.val).mpr)
    tidy.devices tidy.deviceRange candidate fresh

theorem Tidy.interface_room (tidy : topology.Tidy)
    (allocated : topology.allocInterfaceId = .ok interfaceId) :
    topology.interfaces.length < interfaceCapacity := by
  obtain ⟨candidate, fresh⟩ := allocInterfaceId_ok allocated
  exact length_lt_of_free
    (fun left right => (InterfaceId.mk.injEq left.val right.val).mpr)
    tidy.interfaces tidy.interfaceRange candidate fresh

theorem validateRoute_ok
    (valid : topology.validateRoute (.downstream hubDeviceId port) = .ok ()) :
    ∃ hub ∈ topology.devices, hub.deviceId = hubDeviceId ∧
      hub.route = .direct := by
  simp only [validateRoute] at valid
  cases found : topology.device hubDeviceId with
  | none =>
      rw [found] at valid
      cases valid
  | some hub =>
      rw [found] at valid
      cases direct : hub.route with
      | downstream _ _ =>
          simp only [direct] at valid
          cases valid
      | direct =>
          exact ⟨hub, List.mem_of_find?_eq_some found,
            by simpa using List.find?_some found, direct⟩

theorem tidy_connectDevice (tidy : topology.Tidy)
    (connected :
      topology.connectDevice usbAddress route = .ok (deviceId, next)) :
    next.Tidy ∧ topology.devices.length < deviceCapacity := by
  have sound := sound_connectDevice tidy.toSound connected
  simp only [connectDevice, bind_eq_ok, require_eq_ok] at connected
  obtain ⟨_, valid, _, free, allocated, fresh, same⟩ := connected
  cases same
  refine ⟨⟨sound, ?_, tidy.interfaceRange, ?_, ?_⟩, tidy.device_room fresh⟩
  · intro entry member
    rcases List.mem_append.mp member with old | latest
    · exact tidy.deviceRange entry old
    · rw [List.mem_singleton.mp latest]
      exact (allocDeviceId_ok fresh).1
  · rw [List.map_append]
    refine tidy.routes.append (List.nodup_singleton _)
      (List.disjoint_singleton.mpr fun member => ?_)
    obtain ⟨entry, listed, same⟩ := List.mem_map.mp member
    exact free entry listed same
  · intro entry member hubDeviceId port hangs
    have hub : ∃ hub ∈ topology.devices, hub.deviceId = hubDeviceId ∧
        hub.route = .direct := by
      rcases List.mem_append.mp member with old | latest
      · exact tidy.hubs entry old hubDeviceId port hangs
      · rw [List.mem_singleton.mp latest] at hangs
        change route = _ at hangs
        rw [hangs] at valid
        exact validateRoute_ok valid
    obtain ⟨hub, listed, own⟩ := hub
    exact ⟨hub, List.mem_append_left _ listed, own⟩

theorem tidy_registerInterface (tidy : topology.Tidy)
    (registered : topology.registerInterface deviceId interfaceNumber = .ok
      (interfaceId, next)) : next.Tidy := by
  have registers := registerInterface_ok tidy.toSound registered
  refine ⟨registers.sound, ?_, ?_, ?_, ?_⟩
  · rw [registers.devices]
    exact tidy.deviceRange
  · simp only [registerInterface, bind_eq_ok, require_eq_ok] at registered
    obtain ⟨_, attached, registered⟩ := registered
    intro entry member
    rcases registers.others entry member with old | rfl
    · exact tidy.interfaceRange entry old
    · split at registered
      · rename_i entry found
        cases registered
        exact tidy.interfaceRange entry (List.mem_of_find?_eq_some found)
      · simp only [bind_eq_ok] at registered
        obtain ⟨allocated, fresh, same⟩ := registered
        cases same
        exact (allocInterfaceId_ok fresh).1
  · rw [registers.devices]
    exact tidy.routes
  · rw [registers.devices]
    exact tidy.hubs

theorem tidy_removeInterface (tidy : topology.Tidy)
    (removed : topology.removeInterface interfaceId = .ok (entry, next)) :
    next.Tidy := by
  obtain ⟨devices, sound, interfaces⟩ :=
    removeInterface_ok tidy.toSound removed
  refine ⟨sound, ?_, ?_, ?_, ?_⟩
  · rw [devices]
    exact tidy.deviceRange
  · intro other member
    exact tidy.interfaceRange other ((interfaces other).mp member).1
  · rw [devices]
    exact tidy.routes
  · rw [devices]
    exact tidy.hubs

variable {root : DeviceId} {removal : UsbTopologyRemoval}

theorem find_and_rest {α : Type} {test : α → Bool} {entries : List α}
    {found : α} (search : entries.find? test = some found) :
    entries.Perm (found :: SwapRemove.removeFirst test entries) := by
  have rest := SwapRemove.removeFirst_perm test entries
  obtain ⟨passes, before, after, split, earlier⟩ :=
    List.find?_eq_some_iff_append.mp search
  have erased : entries.eraseP test = before ++ after := by
    rw [split, List.eraseP_append_right _ fun entry member => by
      simpa using earlier entry member, List.eraseP_cons_of_pos passes]
  rw [erased] at rest
  rw [split] at rest ⊢
  exact List.perm_middle.trans (rest.symm.cons found)

theorem sweep_and_rest {α : Type} (test : α → Bool) (entries : List α) :
    entries.Perm ((SwapRemove.sweep test entries.length entries).2 ++
      (SwapRemove.sweep test entries.length entries).1) := by
  obtain ⟨kept, gone⟩ := SwapRemove.sweep_perm test (Nat.le_refl _)
  exact ((gone.append kept).trans (List.filter_append_perm test entries)).symm

structure Together (topology next : UsbTopologyManager deviceCapacity
    interfaceCapacity) (removal : UsbTopologyRemoval) : Prop where
  devices : topology.devices.Perm (removal.devices ++ next.devices)
  interfaces :
    topology.interfaces.Perm (removal.interfaces ++ next.interfaces)

theorem together_removeOne (together : topology.Together next removal)
    (attached : (next.device deviceId).isSome) :
    topology.Together (next.removeOne deviceId removal).1
      (next.removeOne deviceId removal).2 := by
  obtain ⟨entry, found⟩ := Option.isSome_iff_exists.mp attached
  refine ⟨?_, ?_⟩
  · change topology.devices.Perm ((removal.devices ++
      (next.device deviceId).toList) ++ SwapRemove.removeFirst _ _)
    rw [found, Option.toList_some, List.append_assoc]
    exact together.devices.trans
      ((find_and_rest found).append_left removal.devices)
  · change topology.interfaces.Perm ((removal.interfaces ++ _) ++ _)
    rw [List.append_assoc]
    exact together.interfaces.trans
      ((sweep_and_rest _ next.interfaces).append_left removal.interfaces)

theorem nextRemovableDevice_attached
    (found : next.nextRemovableDevice root removal = some deviceId) :
    (next.device deviceId).isSome := by
  obtain ⟨entry, search, rfl⟩ := Option.map_eq_some_iff.mp found
  exact device_isSome.mpr
    (List.mem_map_of_mem (List.mem_of_find?_eq_some search))

theorem together_removeTree (together : topology.Together next removal) :
    topology.Together (removeTree root turns next removal).1
      (removeTree root turns next removal).2 := by
  induction turns generalizing next removal with
  | zero => exact together
  | succ turns ih =>
      simp only [removeTree]
      cases found : next.nextRemovableDevice root removal with
      | none => exact together
      | some deviceId =>
          exact ih (together_removeOne together
            (nextRemovableDevice_attached found))

def belongsTo (root : DeviceId) (entry : UsbDeviceTopologyEntry) : Bool :=
  entry.deviceId = root ||
    match entry.route with
    | .direct => false
    | .downstream hubDeviceId _ => hubDeviceId = root

def interfaceBelongsTo (devices : List UsbDeviceTopologyEntry)
    (root : DeviceId) (entry : UsbInterfaceTopologyEntry) : Bool :=
  devices.any fun device =>
    device.deviceId = entry.deviceId && belongsTo root device

/-- The removal is exactly what belongs to a device, the table what is
left. -/
structure Removed (topology next : UsbTopologyManager deviceCapacity
    interfaceCapacity) (root : DeviceId) (removal : UsbTopologyRemoval) :
    Prop where
  devices : removal.devices.Perm (topology.devices.filter (belongsTo root))
  interfaces : removal.interfaces.Perm (topology.interfaces.filter
    (interfaceBelongsTo topology.devices root))
  keptDevices : next.devices.Perm
    (topology.devices.filter fun entry => !belongsTo root entry)
  keptInterfaces : next.interfaces.Perm (topology.interfaces.filter
    fun entry => !interfaceBelongsTo topology.devices root entry)

theorem perm_filter_of_mem {α : Type} {whole gone kept : List α}
    {test : α → Bool} (distinct : whole.Nodup)
    (together : whole.Perm (gone ++ kept))
    (stays : ∀ entry ∈ whole, entry ∈ kept ↔ test entry = false) :
    gone.Perm (whole.filter test) ∧
      kept.Perm (whole.filter fun entry => !test entry) := by
  have apart := (together.nodup_iff.mp distinct)
  obtain ⟨goneDistinct, keptDistinct, disjoint⟩ := List.nodup_append'.mp apart
  constructor
  · apply (List.perm_ext_iff_of_nodup goneDistinct (distinct.filter _)).mpr
    intro entry
    rw [List.mem_filter]
    constructor
    · intro member
      have listed := together.mem_iff.mpr (List.mem_append_left kept member)
      refine ⟨listed, ?_⟩
      by_contra fails
      exact disjoint member
        ((stays entry listed).mpr (Bool.eq_false_iff.mpr fails))
    · rintro ⟨listed, passes⟩
      rcases List.mem_append.mp (together.mem_iff.mp listed) with went | here
      · exact went
      · rw [(stays entry listed).mp here] at passes
        cases passes
  · apply (List.perm_ext_iff_of_nodup keptDistinct (distinct.filter _)).mpr
    intro entry
    rw [List.mem_filter, Bool.not_eq_true']
    constructor
    · intro member
      have listed := together.mem_iff.mpr (List.mem_append_right gone member)
      exact ⟨listed, (stays entry listed).mp member⟩
    · rintro ⟨listed, fails⟩
      exact (stays entry listed).mpr fails

theorem removed_iff_belongsTo (tidy : topology.Tidy)
    (removing : topology.Removing next root removal)
    (done : ∀ entry ∈ next.devices, hangsFrom root removal entry = false)
    (listed : entry ∈ topology.devices) :
    entry.deviceId ∈ removal.deviceIds ↔ belongsTo root entry = true := by
  constructor
  · intro gone
    have hangs := removing.hangs entry listed gone
    simp only [hangsFrom, belongsTo, Bool.or_eq_true] at hangs ⊢
    refine hangs.imp_right fun hangs => ?_
    cases route : entry.route with
    | direct => simp [route] at hangs
    | downstream hubDeviceId port =>
        simp only [route, Bool.or_eq_true, decide_eq_true_eq] at hangs ⊢
        rcases hangs with here | further
        · exact here
        · obtain ⟨hub, hubListed, own, direct⟩ :=
            tidy.hubs entry listed hubDeviceId port route
          have hubGone : hub.deviceId ∈ removal.deviceIds := by
            obtain ⟨removed, member, same⟩ := List.any_eq_true.mp further
            rw [own, ← of_decide_eq_true same]
            exact List.mem_map_of_mem member
          have hubHangs := removing.hangs hub hubListed hubGone
          simp only [hangsFrom, direct, Bool.or_false,
            decide_eq_true_eq] at hubHangs
          rw [← own, hubHangs]
  · intro belongs
    by_contra stays
    have kept := (removing.devices entry).mpr ⟨listed, stays⟩
    have fails := done entry kept
    simp only [hangsFrom, belongsTo, Bool.or_eq_true, Bool.or_eq_false_iff]
      at fails belongs
    rcases belongs with here | attached
    · rw [here] at fails
      cases fails.1
    · cases route : entry.route with
      | direct => simp [route] at attached
      | downstream hubDeviceId port =>
          simp only [route, Bool.or_eq_false_iff] at attached fails
          rw [attached] at fails
          cases fails.2.1

theorem removed_of_removeDevice (tidy : topology.Tidy)
    (removed : topology.removeDevice root = .ok (removal, next)) :
    topology.Removed next root removal ∧ topology.Together next removal := by
  obtain ⟨removing, done⟩ := removeDevice_ok tidy.toSound removed
  have together : topology.Together next removal := by
    simp only [removeDevice, bind_eq_ok, require_eq_ok] at removed
    obtain ⟨_, attached, same⟩ := removed
    cases same
    exact together_removeTree ⟨.refl _, .refl _⟩
  have devices := perm_filter_of_mem (List.Nodup.of_map _ tidy.devices)
    together.devices fun entry listed => by
      rw [removing.devices entry, and_iff_right listed,
        removed_iff_belongsTo tidy removing done listed,
        Bool.not_eq_true]
  have interfaces := perm_filter_of_mem (List.Nodup.of_map _ tidy.interfaces)
    together.interfaces fun entry listed => by
      obtain ⟨device, deviceListed, own⟩ :=
        List.mem_map.mp (tidy.known entry listed)
      have belongs : interfaceBelongsTo topology.devices root entry = true ↔
          belongsTo root device = true := by
        rw [interfaceBelongsTo, List.any_eq_true]
        constructor
        · rintro ⟨other, otherListed, found⟩
          rw [Bool.and_eq_true, decide_eq_true_eq] at found
          rw [List.inj_on_of_nodup_map tidy.devices deviceListed otherListed
            (own.trans found.1.symm)]
          exact found.2
        · intro belongs
          exact ⟨device, deviceListed, by simp [own, belongs]⟩
      rw [removing.interfaces entry, and_iff_right listed, ← own,
        removed_iff_belongsTo tidy removing done deviceListed, ← belongs,
        Bool.not_eq_true]
  exact ⟨⟨devices.1, interfaces.1, devices.2, interfaces.2⟩, together⟩

theorem tidy_removeDevice (tidy : topology.Tidy)
    (removed : topology.removeDevice root = .ok (removal, next)) :
    next.Tidy := by
  obtain ⟨removing, done⟩ := removeDevice_ok tidy.toSound removed
  obtain ⟨exact, together⟩ := removed_of_removeDevice tidy removed
  refine ⟨removing.sound, ?_, ?_, ?_, ?_⟩
  · intro entry member
    exact tidy.deviceRange entry ((removing.devices entry).mp member).1
  · intro entry member
    exact tidy.interfaceRange entry ((removing.interfaces entry).mp member).1
  · have routes := (together.devices.map
      UsbDeviceTopologyEntry.route).nodup_iff.mp tidy.routes
    rw [List.map_append] at routes
    exact (List.nodup_append'.mp routes).2.1
  · intro entry member hubDeviceId port hangs
    have listed := ((removing.devices entry).mp member).1
    obtain ⟨hub, hubListed, own, direct⟩ :=
      tidy.hubs entry listed hubDeviceId port hangs
    refine ⟨hub, (removing.devices hub).mpr ⟨hubListed, ?_⟩, own, direct⟩
    intro hubGone
    have stays := done entry member
    obtain ⟨gone, goneMember, same⟩ := List.mem_map.mp hubGone
    have found : removal.devices.any fun gone =>
        gone.deviceId = hubDeviceId := by
      apply List.any_eq_true.mpr
      exact ⟨gone, goneMember, decide_eq_true (same.trans own)⟩
    simp only [hangsFrom, hangs, found, Bool.or_true] at stays
    cases stays

end UsbTopologyManager

end HidShift
