import HidShift.UsbHost.Detach

namespace HidShift

open Lib

namespace HidInterfaceProbe

def IsReady (probe : HidInterfaceProbe) : Prop :=
  ∃ descriptor ledOutput flags,
    probe.outcome = .ready descriptor ledOutput flags

end HidInterfaceProbe

/-- No reader fails for want of a channel on an interface number that has a
session already: the failure takes the interface out of the topology. -/
def EnumeratedDevice.KeepsInterfaces (device : EnumeratedDevice) : Prop :=
  ∀ probes, device.interfaces = some probes →
    probes.Pairwise fun earlier later => later.outcome = .noPipe →
      earlier.interfaceNumber = later.interfaceNumber → ¬ earlier.IsReady

/-- What attaching has done since the device got its number.  `registered`
says which interface numbers of the device may be in the topology. -/
structure AttachedTo {build : Build} (topology : DefaultUsbTopologyManager)
    (slots : ActiveSlots) (deviceId : DeviceId) (connection : Nat)
    (registered : UInt8 → Prop) (attaching : Attaching build) : Prop where
  tables : SlotsRegistered attaching.topology attaching.activeSlots
  devices : attaching.topology.devices = topology.devices
  interfaces : ∀ entry ∈ attaching.topology.interfaces,
    entry ∈ topology.interfaces ∨
      entry.deviceId = deviceId ∧ registered entry.interfaceNumber
  sessions : ∀ slot ∈ attaching.activeSlots.reduceOption,
    slot ∈ slots.reduceOption ∨
      slot.session.deviceId = deviceId ∧
        slot.session.connection = connection
  sessionsKept : ∀ slot ∈ slots.reduceOption,
    slot ∈ attaching.activeSlots.reduceOption
  lookup : ∀ wanted : InterfaceId × DeviceId, wanted.2 ≠ deviceId →
    SlotTable.lookup ActiveUsbInterfaceSlot.key attaching.activeSlots wanted =
      SlotTable.lookup ActiveUsbInterfaceSlot.key slots wanted
  length : attaching.activeSlots.length = slots.length
  readers : ∀ reader ∈ attaching.readers, reader.1 = deviceId

namespace AttachedTo

variable {build : Build} {topology : DefaultUsbTopologyManager}
  {slots : ActiveSlots} {device : EnumeratedDevice} {deviceId : DeviceId}
  {connection : Nat} {registered registered' : UInt8 → Prop}
  {attaching : Attaching build}

theorem start (tables : SlotsRegistered topology slots) :
    AttachedTo topology slots deviceId connection (fun _ => False)
      (⟨topology, slots, [], []⟩ : Attaching build) :=
  ⟨tables, rfl, fun _ listed => .inl listed, fun _ member => .inl member,
    fun _ member => member, fun _ _ => rfl, rfl,
    fun _ member => (List.not_mem_nil member).elim⟩

section

variable
    (earlier : AttachedTo topology slots deviceId connection registered attaching)

include earlier

theorem mono (more : ∀ number, registered number → registered' number) :
    AttachedTo topology slots deviceId connection registered' attaching :=
  { earlier with
    interfaces := fun entry listed =>
      (earlier.interfaces entry listed).imp_right (And.imp_right (more _)) }

theorem register (result : attaching.topology.Registered next
      ⟨interfaceId, deviceId, number⟩) :
    AttachedTo topology slots deviceId connection
      (fun other => registered other ∨ other = number)
      { attaching with topology := next } where
  tables := ⟨result.sound, fun slot member => by
    obtain ⟨entry, listed, same⟩ := earlier.tables.registered slot member
    exact ⟨entry, result.kept entry listed, same⟩, earlier.tables.own⟩
  devices := result.devices.trans earlier.devices
  interfaces := by
    intro entry listed
    rcases result.others entry listed with old | rfl
    · exact (earlier.interfaces entry old).imp_right (And.imp_right .inl)
    · exact .inr ⟨rfl, .inr rfl⟩
  sessions := earlier.sessions
  sessionsKept := earlier.sessionsKept
  lookup := earlier.lookup
  length := earlier.length
  readers := earlier.readers

theorem unregister
    (fresh : ∀ entry ∈ topology.interfaces, entry.deviceId ≠ deviceId)
    (unused : ¬ registered number)
    (result : attaching.topology.Registered next
      ⟨interfaceId, deviceId, number⟩)
    (undone : next.removeInterface interfaceId = .ok (removed, last)) :
    AttachedTo topology slots deviceId connection registered
      { attaching with topology := last } := by
  obtain ⟨devices, sound, interfaces⟩ :=
    UsbTopologyManager.removeInterface_ok result.sound undone
  have differs : ∀ entry ∈ attaching.topology.interfaces,
      entry.interfaceId ≠ interfaceId := by
    intro entry listed same
    have own : entry = ⟨interfaceId, deviceId, number⟩ :=
      List.inj_on_of_nodup_map result.sound.interfaces
        (result.kept entry listed) result.member same
    rcases earlier.interfaces entry listed with old | ⟨_, used⟩
    · exact fresh entry old (by rw [own])
    · exact unused (by rwa [own] at used)
  have left : ∀ entry ∈ attaching.topology.interfaces,
      entry ∈ last.interfaces := fun entry listed =>
    (interfaces entry).mpr ⟨result.kept entry listed, differs entry listed⟩
  refine { earlier with
    tables := ⟨sound, fun slot member => ?_, earlier.tables.own⟩
    devices := (devices.trans result.devices).trans earlier.devices
    interfaces := fun entry listed => ?_ }
  · obtain ⟨entry, listed, same⟩ := earlier.tables.registered slot member
    exact ⟨entry, left entry listed, same⟩
  · obtain ⟨listed, other⟩ := (interfaces entry).mp listed
    rcases result.others entry listed with old | rfl
    · exact earlier.interfaces entry old
    · exact absurd rfl other

theorem fill (owner : slot.session.deviceId = deviceId)
    (current : slot.session.connection = connection)
    (own : slot.session.interfaceId = slot.interfaceId)
    (known : ∃ entry ∈ attaching.topology.interfaces,
      entry.interfaceId = slot.interfaceId ∧ entry.deviceId = deviceId)
    (free : SlotTable.freeIndex? attaching.activeSlots = some index)
    (sent : List (RuntimeInput build)) :
    AttachedTo topology slots deviceId connection registered
      { topology := attaching.topology
        activeSlots := attaching.activeSlots.set index (some slot)
        sent := sent
        readers := attaching.readers ++ [(deviceId, slot.interfaceId)] } := by
  refine { earlier with
    tables := ⟨earlier.tables.sound, fun other member => ?_,
      fun other member => ?_⟩
    sessions := fun other member => ?_
    sessionsKept := fun other member =>
      (SlotTable.mem_fill free).mpr (.inr (earlier.sessionsKept other member))
    lookup := fun wanted differs => ?_
    length := (List.length_set ..).trans earlier.length
    readers := fun reader member => ?_ }
  · rcases (SlotTable.mem_fill free).mp member with rfl | old
    · rw [owner]
      exact known
    · exact earlier.tables.registered other old
  · rcases (SlotTable.mem_fill free).mp member with rfl | old
    · exact own
    · exact earlier.tables.own other old
  · rcases (SlotTable.mem_fill free).mp member with rfl | old
    · exact .inr ⟨owner, current⟩
    · exact earlier.sessions other old
  · rw [← earlier.lookup wanted differs]
    apply SlotTable.lookup_fill free
    rintro rfl
    exact differs owner
  · rcases List.mem_append.mp member with old | new
    · exact earlier.readers reader old
    · rw [List.mem_singleton.mp new]

theorem step (fresh : ∀ entry ∈ topology.interfaces, entry.deviceId ≠ deviceId)
    (unused : probe.outcome = .noPipe → ¬ registered probe.interfaceNumber) :
    (∀ next, attachHidInterface device deviceId connection attaching probe =
        .ok next →
      AttachedTo topology slots deviceId connection
        (fun number => registered number ∨
          number = probe.interfaceNumber ∧ probe.IsReady) next) ∧
    (∀ next, attachHidInterface device deviceId connection attaching probe =
        .error next →
      AttachedTo topology slots deviceId connection (fun _ => True) next) := by
  simp only [attachHidInterface]
  cases free : SlotTable.freeIndex? attaching.activeSlots with
  | none =>
      refine ⟨fun next same => ?_, fun next same => (by cases same)⟩
      cases same
      exact earlier.mono fun _ => .inl
  | some index =>
      simp only
      cases registers : attaching.topology.registerInterface deviceId
          probe.interfaceNumber with
      | error error =>
          refine ⟨fun next same => (by cases same), fun next same => ?_⟩
          cases same
          exact earlier.mono fun _ _ => trivial
      | ok result =>
          obtain ⟨interfaceId, extended⟩ := result
          have result := UsbTopologyManager.registerInterface_ok
            earlier.tables.sound registers
          simp only
          cases outcome : probe.outcome with
          | failed =>
              refine ⟨fun next same => (by cases same), fun next same => ?_⟩
              cases same
              exact (earlier.register result).mono fun _ _ => trivial
          | noPipe =>
              simp only
              cases undone : extended.removeInterface interfaceId with
              | ok removed =>
                  refine ⟨fun next same => ?_, fun next same => (by cases same)⟩
                  cases same
                  exact (earlier.unregister fresh (unused outcome) result
                    undone).mono fun _ => .inl
              | error error =>
                  simp only [UsbTopologyManager.removeInterface] at undone
                  cases found : extended.interfaces.find? fun entry =>
                      entry.interfaceId = interfaceId with
                  | some stored => simp [found] at undone
                  | none =>
                      have absent := List.find?_eq_none.mp found _
                        result.member
                      simp at absent
          | ready descriptor ledOutput flags =>
              refine ⟨fun next same => ?_, fun next same => (by cases same)⟩
              cases same
              apply ((earlier.register result).mono fun number =>
                Or.imp_right fun same =>
                  ⟨same, descriptor, ledOutput, flags, outcome⟩).fill
              · rfl
              · rfl
              · rfl
              · exact ⟨_, result.member, rfl, rfl⟩
              · exact free

end

theorem forDevice (tables : SlotsRegistered topology slots)
    (fresh : ∀ entry ∈ topology.interfaces, entry.deviceId ≠ deviceId)
    (keeps : device.KeepsInterfaces) :
    AttachedTo topology slots deviceId connection (fun _ => True)
      (attachHidInterfacesForDevice build device deviceId connection topology
        slots).1 := by
  have begun := (@start build topology slots deviceId connection tables).mono
    (fun _ none => none.elim : ∀ number, False → True)
  simp only [attachHidInterfacesForDevice]
  cases probes : device.interfaces.getD [] with
  | nil => exact begun
  | cons first rest =>
      simp only
      have listed : device.interfaces = some (first :: rest) := by
        cases found : device.interfaces with
        | none => simp [found] at probes
        | some probes' => rw [← probes, found]; rfl
      have ordered := keeps _ listed
      have turn := @foldlM_keeps _ _ _
        (@attachHidInterface build device deviceId connection)
        (fun before attaching => AttachedTo topology slots deviceId connection
          (fun number => ∃ probe ∈ before,
            probe.interfaceNumber = number ∧ probe.IsReady) attaching)
        (AttachedTo topology slots deviceId connection fun _ => True)
        (first :: rest) ⟨topology, slots, [], []⟩
        ((start tables).mono fun _ none => none.elim) ?_
      · obtain ⟨finishes, fails⟩ := turn
        cases ran : (first :: rest).foldlM
            (attachHidInterface device deviceId connection)
            (⟨topology, slots, [], []⟩ : Attaching build) with
        | error attaching =>
            exact { fails attaching ran with
              readers := fun _ member => (List.not_mem_nil member).elim }
        | ok attaching =>
            have done := (finishes attaching ran).mono fun _ _ => trivial
            exact { done with
              readers := fun reader member =>
                done.readers reader (List.mem_of_mem_take member) }
      · intro before probe after attaching split earlier
        rw [split] at ordered
        have apart := (List.pairwise_append.mp ordered).2.2
        have unused : probe.outcome = .noPipe →
            ¬ ∃ earlier ∈ before,
              earlier.interfaceNumber = probe.interfaceNumber ∧
                earlier.IsReady := by
          rintro noPipe ⟨other, member, same, ready⟩
          exact apart other member probe List.mem_cons_self noPipe same ready
        obtain ⟨finishes, fails⟩ := earlier.step fresh unused
        refine ⟨fun next ran => (finishes next ran).mono ?_, fails⟩
        rintro number (⟨other, member, same⟩ | ⟨rfl, ready⟩)
        · exact ⟨other, List.mem_append_left _ member, same⟩
        · exact ⟨probe, List.mem_append_right _ List.mem_cons_self, rfl, ready⟩

end AttachedTo

end HidShift
