import HidShift.Bridge.HostTable
import HidShift.Lib.FrontFilled

namespace HidShift

open Lib

def StoredHostProfile.restored (stored : StoredHostProfile) :
    HostRuntimeState :=
  { HostRuntimeState.fresh stored.hostId with
    bonded := stored.bonded
    storedReportReady := ⟨stored.keyboardCccdEnabled, stored.mouseCccdEnabled,
      stored.consumerCccdEnabled, stored.keyboardOutputCccdEnabled⟩
    name := stored.name
    bond := stored.bond }

/-- An entry without its connection. -/
def HostRuntimeState.durable (host : HostRuntimeState) : HostRuntimeState :=
  { host with
    connected := false
    encrypted := false
    sessionReportReady := .default
    keyboardLeds := none
    discoveredName := .empty }

theorem HostId.Valid.range {hostId : HostId} (valid : hostId.Valid) :
    hostId.val ≠ 0 ∧ ¬ storedHostsMax ≤ hostId.val.toNat - 1 := by
  obtain ⟨slot, validated⟩ := valid
  have named := HostId.mem_slots validated
  simp only [List.mem_cons, List.not_mem_nil, or_false] at named
  rcases named with rfl | rfl | rfl | rfl <;> decide

theorem validateHosts_sound {hosts : List StoredHostProfile}
    (valid : ∀ host ∈ hosts, host.hostId.Valid)
    (distinct : (hosts.map StoredHostProfile.hostId).Nodup)
    (unseen : ∀ host ∈ hosts, host.hostId.val ∉ seen) :
    StorageState.validateHosts hosts seen = .ok () := by
  induction hosts generalizing seen with
  | nil => rfl
  | cons host rest ih =>
      obtain ⟨positive, small⟩ := (valid host List.mem_cons_self).range
      rw [List.map_cons, List.nodup_cons] at distinct
      rw [StorageState.validateHosts, if_neg positive, if_neg small,
        if_neg (unseen host List.mem_cons_self)]
      apply ih
      · intro other member
        exact valid other (List.mem_cons_of_mem _ member)
      · exact distinct.2
      · intro other member known
        rcases List.mem_cons.mp known with same | earlier
        · apply distinct.1
          have sameId : other.hostId = host.hostId := congrArg HostId.mk same
          rw [← sameId]
          exact List.mem_map_of_mem member
        · exact unseen other (List.mem_cons_of_mem _ member) earlier

namespace BleHostStateMachine

variable {capacity : Nat} {activeTarget : Option HostId}
  {hosts : List HostRuntimeState}

theorem upsertHost_frontFilled (valid : hostId.Valid)
    (absent : ∀ host ∈ hosts, host.hostId ≠ hostId)
    (room : hosts.length < capacity) :
    (⟨activeTarget, frontFilled capacity hosts⟩ :
      BleHostStateMachine).upsertHost hostId =
        .ok (hosts.length, .fresh hostId) := by
  obtain ⟨slot, validated⟩ := valid
  have missing : SlotTable.slotIndex? HostRuntimeState.hostId
      (frontFilled capacity hosts) hostId = none := by
    rw [SlotTable.slotIndex?, FrontFilled.find, List.findIdx?_eq_none_iff]
    intro host member
    exact decide_eq_false (absent host member)
  have free : SlotTable.freeIndex? (frontFilled capacity hosts) =
      some hosts.length := FrontFilled.first_free room
  unfold upsertHost
  simp only [validated, hostIndex, missing, free]

theorem restoreHost_frontFilled (valid : stored.hostId.Valid)
    (absent : ∀ host ∈ hosts, host.hostId ≠ stored.hostId)
    (room : hosts.length < capacity) :
    (⟨activeTarget, frontFilled capacity hosts⟩ :
      BleHostStateMachine).restoreHost stored =
        .ok ⟨activeTarget,
          frontFilled capacity (hosts ++ [stored.restored])⟩ := by
  have stored : (⟨activeTarget, frontFilled capacity hosts⟩ :
      BleHostStateMachine).storeHost hosts.length stored.restored =
        ⟨activeTarget, frontFilled capacity (hosts ++ [stored.restored])⟩ := by
    rw [← FrontFilled.fill_slot room]
    rfl
  rw [restoreHost, upsertHost_frontFilled valid absent room, ok_bind]
  exact congrArg Except.ok stored

theorem restoreHosts_frontFilled {stored : List StoredHostProfile}
    (valid : ∀ host ∈ stored, host.hostId.Valid)
    (distinct : (hosts.map HostRuntimeState.hostId ++
      stored.map StoredHostProfile.hostId).Nodup)
    (room : hosts.length + stored.length ≤ capacity) :
    stored.foldlM restoreHost ⟨activeTarget, frontFilled capacity hosts⟩ =
      .ok ⟨activeTarget, frontFilled capacity
        (hosts ++ stored.map StoredHostProfile.restored)⟩ := by
  induction stored generalizing hosts with
  | nil =>
      rw [List.map_nil, List.append_nil]
      rfl
  | cons first rest ih =>
      rw [List.map_cons] at distinct
      rw [List.length_cons] at room
      have absent : ∀ host ∈ hosts, host.hostId ≠ first.hostId := by
        intro host member
        exact (List.nodup_append.mp distinct).2.2 _
          (List.mem_map_of_mem member) _ List.mem_cons_self
      rw [List.foldlM_cons, restoreHost_frontFilled
        (valid first List.mem_cons_self) absent (by omega), ok_bind, ih]
      · rw [List.append_assoc, List.map_cons, List.singleton_append]
      · intro host member
        exact valid host (List.mem_cons_of_mem _ member)
      · rw [List.map_append, List.append_assoc]
        exact distinct
      · rw [List.length_append, List.length_singleton]
        omega

theorem host_frontFilled (hostId : HostId) :
    (⟨activeTarget, frontFilled capacity hosts⟩ :
      BleHostStateMachine).host hostId =
        hosts.find? fun host => host.hostId = hostId := by
  rw [BleHostStateMachine.host, SlotTable.lookup_eq_find?,
    FrontFilled.reduceOption]

end BleHostStateMachine

namespace TableSound

variable {machine : BleHostStateMachine}

def storedHosts (sound : TableSound machine) :
    BoundedVec StoredHostProfile storedHostsMax :=
  ⟨machine.hosts.reduceOption.map BleHostStateMachine.storedHost,
    (List.length_map _).trans_le sound.occupied⟩

def stored (sound : TableSound machine) (generation : UInt32) :
    StorageState :=
  { StorageState.new generation with
    hosts := sound.storedHosts
    lastActiveHost := machine.activeTarget.filter fun active =>
      (machine.host active).isSome }

section

variable (sound : TableSound machine)

theorem stored_known (hostId : HostId) :
    (sound.storedHosts.toList.any fun host => host.hostId = hostId) =
      (machine.host hostId).isSome := by
  rw [BleHostStateMachine.host, SlotTable.lookup_eq_find?, List.isSome_find?]
  exact List.any_map

theorem storageState (generation : UInt32) :
    machine.storageState generation = .ok (sound.stored generation) := by
  have extended : (BoundedVec.empty :
      BoundedVec StoredHostProfile storedHostsMax).extend?
        (machine.hosts.reduceOption.map BleHostStateMachine.storedHost) =
          some sound.storedHosts :=
    BoundedVec.extend?_eq_some.mpr rfl
  have known : (fun active : HostId => sound.storedHosts.toList.any
      fun host => host.hostId = active) =
        fun active => (machine.host active).isSome := by
    funext active
    exact sound.stored_known active
  unfold BleHostStateMachine.storageState
  rw [extended]
  simp only [known]
  rfl

theorem storedHosts_valid :
    ∀ host ∈ sound.storedHosts.toList, host.hostId.Valid := by
  intro stored member
  obtain ⟨host, entry, rfl⟩ := List.mem_map.mp member
  exact sound.valid host entry

theorem storedHosts_distinct :
    (sound.storedHosts.toList.map StoredHostProfile.hostId).Nodup := by
  have ids : sound.storedHosts.toList.map StoredHostProfile.hostId =
      machine.hosts.reduceOption.map HostRuntimeState.hostId := List.map_map
  rw [ids]
  exact sound.distinct

theorem validateHosts :
    StorageState.validateHosts sound.storedHosts.toList [] = .ok () := by
  apply validateHosts_sound sound.storedHosts_valid
    sound.storedHosts_distinct
  exact fun _ _ impossible => absurd impossible List.not_mem_nil

theorem restored
    (room : machine.hosts.length ≤ capacity) (activeTarget : Option HostId) :
    sound.storedHosts.toList.foldlM BleHostStateMachine.restoreHost
      ⟨activeTarget, List.replicate capacity none⟩ =
        .ok ⟨activeTarget, frontFilled capacity
          (machine.hosts.reduceOption.map HostRuntimeState.durable)⟩ := by
  have fits : sound.storedHosts.toList.length ≤ capacity := by
    rw [storedHosts, List.length_map]
    exact (List.reduceOption_length_le _).trans room
  have distinct : (([] : List HostRuntimeState).map HostRuntimeState.hostId ++
      sound.storedHosts.toList.map StoredHostProfile.hostId).Nodup :=
    sound.storedHosts_distinct
  have back : sound.storedHosts.toList.map StoredHostProfile.restored =
      machine.hosts.reduceOption.map HostRuntimeState.durable := List.map_map
  rw [← FrontFilled.nil,
    BleHostStateMachine.restoreHosts_frontFilled sound.storedHosts_valid
      distinct ((Nat.zero_add _).le.trans fits), List.nil_append, back]

end

end TableSound

end HidShift
