import Mathlib.Tactic.IntervalCases
import HidShift.Bridge.Moves

namespace HidShift

open Lib

def HostId.Valid (hostId : HostId) : Prop :=
  ∃ slot, hostId.validated = .ok slot

theorem HostId.valid_of_range {hostId : HostId} (positive : hostId.val ≠ 0)
    (small : hostId.val.toNat ≤ storedHostsMax) : hostId.Valid := by
  have low : 1 ≤ hostId.val := by
    rw [UInt8.le_iff_toNat_le]
    have nonzero : hostId.val.toNat ≠ 0 := fun zero =>
      positive (UInt8.toNat_inj.mp zero)
    show 1 ≤ hostId.val.toNat
    omega
  have high : hostId.val ≤ 4 := UInt8.le_iff_toNat_le.mpr small
  unfold HostId.Valid HostId.validated HostSlot.tryFrom
  rw [dif_pos ⟨low, high⟩]
  exact ⟨_, rfl⟩

theorem HostId.mem_slots (validated : hostId.validated = .ok slot) :
    hostId ∈ ([⟨1⟩, ⟨2⟩, ⟨3⟩, ⟨4⟩] : List HostId) := by
  unfold HostId.validated HostSlot.tryFrom at validated
  split at validated
  · rename_i inRange
    have low : 1 ≤ hostId.val.toNat := UInt8.le_iff_toNat_le.mp inRange.1
    have high : hostId.val.toNat ≤ 4 := UInt8.le_iff_toNat_le.mp inRange.2
    have named : hostId = ⟨UInt8.ofNat hostId.val.toNat⟩ := by
      rw [UInt8.ofNat_toNat]
    rw [named]
    generalize hostId.val.toNat = number at low high
    interval_cases number <;> simp
  · cases validated

theorem HostId.length_le_slots {hostIds : List HostId}
    (distinct : hostIds.Nodup) (valid : ∀ hostId ∈ hostIds, hostId.Valid) :
    hostIds.length ≤ storedHostsMax := by
  have numbers : ∀ hostId ∈ hostIds,
      hostId ∈ ([⟨1⟩, ⟨2⟩, ⟨3⟩, ⟨4⟩] : List HostId) := by
    intro hostId member
    obtain ⟨slot, validated⟩ := valid hostId member
    exact HostId.mem_slots validated
  exact (List.subperm_of_subset distinct numbers).length_le

structure TableSound (machine : BleHostStateMachine) : Prop where
  distinct : SlotTable.Distinct HostRuntimeState.hostId machine.hosts
  valid : ∀ host ∈ machine.hosts.reduceOption, host.hostId.Valid

namespace BleHostStateMachine

variable {machine next : BleHostStateMachine} {hostId : HostId}

theorem upsertHost_slot {host : HostRuntimeState}
    (upserted : machine.upsertHost hostId = .ok (index, host)) :
    hostId.Valid ∧ ∃ before old after,
      machine.hosts = before ++ old :: after ∧ before.length = index ∧
        machine.host hostId = old := by
  unfold upsertHost at upserted
  cases valid : hostId.validated with
  | error error => simp [valid] at upserted
  | ok slot =>
      refine ⟨⟨slot, valid⟩, ?_⟩
      simp only [valid] at upserted
      cases found : machine.hostIndex hostId with
      | some position =>
          obtain ⟨before, entry, after, split, length, keyed, -⟩ :=
            SlotTable.split_of_slotIndex? found
          obtain ⟨stored, looked⟩ :=
            SlotTable.lookup_isSome_iff.mpr ⟨position, found⟩
          have slot : machine.hosts[position]?.join = some stored := by
            simpa [SlotTable.lookup, show SlotTable.slotIndex?
              HostRuntimeState.hostId machine.hosts hostId = some position
              from found] using looked
          simp only [found, slot, Except.ok.injEq, Prod.mk.injEq] at upserted
          obtain ⟨rfl, rfl⟩ := upserted
          refine ⟨before, some entry, after, split, length, looked.trans ?_⟩
          rw [split, ← length] at slot
          simpa using slot.symm
      | none =>
          cases free : SlotTable.freeIndex? machine.hosts with
          | none => simp [found, free] at upserted
          | some position =>
              simp only [found, free, Except.ok.injEq, Prod.mk.injEq]
                at upserted
              obtain ⟨rfl, -⟩ := upserted
              obtain ⟨before, after, split, length⟩ :=
                SlotTable.split_of_freeIndex? free
              refine ⟨before, none, after, split, length, ?_⟩
              exact SlotTable.lookup_eq_none.mpr
                (SlotTable.not_mem_of_slotIndex?_none found)

end BleHostStateMachine

section

variable {machine next : BleHostStateMachine} {hostId : HostId}

theorem tableSound_empty (activeTarget : Option HostId) (hosts : Nat) :
    TableSound ⟨activeTarget, List.replicate hosts none⟩ := by
  have nobody : (List.replicate hosts
      (none : Option HostRuntimeState)).reduceOption = [] := by
    induction hosts with
    | zero => rfl
    | succ hosts ih => exact ih
  refine ⟨?_, ?_⟩
  · simp only [SlotTable.Distinct, nobody]
    exact List.nodup_nil
  · simp only [nobody]
    exact fun _ impossible => absurd impossible List.not_mem_nil

theorem TableSound.of_hosts (sound : TableSound machine)
    (hosts : next.hosts = machine.hosts) : TableSound next := by
  refine ⟨?_, ?_⟩
  · rw [hosts]
    exact sound.distinct
  · rw [hosts]
    exact sound.valid

theorem TableSound.fill {stored : HostRuntimeState} (sound : TableSound machine)
    (split : machine.hosts = before ++ old :: after)
    (current : machine.host stored.hostId = old) (valid : stored.hostId.Valid) :
    TableSound { machine with hosts := before ++ some stored :: after } := by
  have distinct := sound.distinct
  have looked : SlotTable.lookup HostRuntimeState.hostId machine.hosts
      stored.hostId = old := current
  rw [split] at distinct looked
  refine ⟨distinct.fill looked, fun host member => ?_⟩
  rw [SlotTable.reduceOption_split] at member
  have old : ∀ host ∈ before.reduceOption ++ after.reduceOption,
      host.hostId.Valid := by
    intro host member
    apply sound.valid
    rw [split, SlotTable.reduceOption_split]
    rcases List.mem_append.mp member with left | right
    · exact List.mem_append_left _ left
    · exact List.mem_append_right _ (List.mem_append_right _ right)
  rcases List.mem_append.mp member with left | new
  · exact old host (List.mem_append_left _ left)
  · rcases List.mem_append.mp new with same | right
    · cases List.mem_singleton.mp same
      exact valid
    · exact old host (List.mem_append_right _ right)

theorem TableSound.store {stored : HostRuntimeState}
    (sound : TableSound machine)
    (upserted : machine.upsertHost hostId = .ok (index, host))
    (keyed : stored.hostId = hostId) :
    TableSound (machine.storeHost index stored) := by
  obtain ⟨valid, before, old, after, split, rfl, current⟩ :=
    BleHostStateMachine.upsertHost_slot upserted
  subst keyed
  have filled := sound.fill split current valid
  rw [BleHostStateMachine.storeHost, split, SlotTable.set_at_split]
  exact filled

section

variable (sound : TableSound machine)

include sound

theorem TableSound.setActiveTarget
    (activated : machine.setActiveTarget hostId = .ok next) :
    TableSound next := by
  obtain ⟨⟨index, host⟩, upserted, rest⟩ := bind_eq_ok.mp activated
  cases rest
  exact (sound.store upserted
    (BleHostStateMachine.upsertHost_spec upserted).1).of_hosts rfl

theorem TableSound.onDisconnected :
    TableSound (machine.onDisconnected hostId) := by
  unfold BleHostStateMachine.onDisconnected
  split
  · rename_i index host found stored
    obtain ⟨before, entry, after, split, rfl, keyed, -⟩ :=
      SlotTable.split_of_slotIndex? found
    have looked : SlotTable.lookup HostRuntimeState.hostId machine.hosts
        hostId = some host := stored
    obtain rfl := SlotTable.key_of_lookup looked
    have current : some entry = some host := by
      rw [← looked, SlotTable.lookup, show SlotTable.slotIndex?
        HostRuntimeState.hostId machine.hosts host.hostId = some before.length
        from found, split]
      simp
    cases current
    have filled : ∀ changed : HostRuntimeState,
        changed.hostId = host.hostId → TableSound
          (machine.storeHost before.length changed) := by
      intro changed same
      rw [BleHostStateMachine.storeHost, split, SlotTable.set_at_split]
      apply sound.fill split
      · rw [same]
        exact looked
      · rw [same]
        exact sound.valid host (SlotTable.mem_of_lookup looked)
    exact filled _ rfl
  · exact sound

theorem TableSound.clearHost : TableSound (machine.clearHost hostId).1 := by
  unfold BleHostStateMachine.clearHost
  split
  · exact sound
  · rename_i index found
    obtain ⟨before, entry, after, split, rfl, -, -⟩ :=
      SlotTable.split_of_slotIndex? found
    have fewer : (machine.hosts.set before.length none).reduceOption.Sublist
        machine.hosts.reduceOption := by
      rw [split, SlotTable.set_at_split, SlotTable.reduceOption_split,
        SlotTable.reduceOption_split]
      exact (List.Sublist.refl _).append (List.sublist_append_right _ _)
    refine ⟨?_, fun host member => sound.valid host (fewer.subset member)⟩
    exact sound.distinct.sublist (fewer.map _)

theorem clearHost_absent : (machine.clearHost hostId).1.host hostId = none := by
  unfold BleHostStateMachine.clearHost
  split
  · rename_i missing
    exact SlotTable.lookup_eq_none.mpr
      (SlotTable.not_mem_of_slotIndex?_none missing)
  · rename_i index found
    obtain ⟨before, entry, after, split, rfl, rfl, -⟩ :=
      SlotTable.split_of_slotIndex? found
    apply SlotTable.lookup_eq_none.mpr
    intro other member same
    have distinct := sound.distinct
    simp only [split, SlotTable.set_at_split] at member
    rw [SlotTable.Distinct, split, SlotTable.reduceOption_split,
      Option.toList_some, List.singleton_append, List.map_append,
      List.map_cons, List.nodup_middle, ← List.map_append] at distinct
    rw [SlotTable.reduceOption_split, Option.toList_none, List.nil_append]
      at member
    exact (List.nodup_cons.mp distinct).1
      (List.mem_map.mpr ⟨other, member, same⟩)

theorem TableSound.occupied :
    machine.hosts.reduceOption.length ≤ storedHostsMax := by
  rw [← List.length_map HostRuntimeState.hostId]
  refine HostId.length_le_slots sound.distinct fun hostId member => ?_
  obtain ⟨host, stored, rfl⟩ := List.mem_map.mp member
  exact sound.valid host stored

end

end

structure HostsSound (bridge : BridgeState) : Prop where
  table : TableSound bridge.hosts
  linked : ∀ hostId, bridge.wiredBleHost = some hostId → hostId.Valid
  active : ∀ target, bridge.outputTarget.active = some target →
    target = bridge.outputTarget.selected

variable {bridge next : BridgeState}

section

variable (sound : HostsSound bridge)

include sound

theorem HostsSound.of_same (hosts : TableSound next.hosts)
    (wiredBleHost : next.wiredBleHost = bridge.wiredBleHost)
    (outputTarget : next.outputTarget = bridge.outputTarget) :
    HostsSound next := by
  refine ⟨hosts, ?_, ?_⟩
  · rw [wiredBleHost]
    exact sound.linked
  · rw [outputTarget]
    exact sound.active

theorem HostsSound.withHosts
    (table : TableSound hosts) : HostsSound { bridge with hosts := hosts } :=
  sound.of_same table rfl rfl

theorem HostsSound.setAvailability
    (availability wiredAvailability : OutputTargetAvailability) :
    HostsSound { bridge with
      wiredAvailability := wiredAvailability
      outputTarget := bridge.outputTarget.setAvailability availability } := by
  refine ⟨sound.table, sound.linked, fun target active => ?_⟩
  exact (setAvailability_active active).1

theorem HostsSound.forgetHost (hostId : HostId) :
    HostsSound (bridge.forgetHost build hostId) := by
  refine ⟨sound.table.clearHost, fun host linked => ?_, sound.active⟩
  simp only [BridgeState.forgetHost] at linked
  split at linked
  · cases linked
  · exact sound.linked host linked

end

theorem OutputTargetState.select_inactive {state next : OutputTargetState}
    (success : state.select target = .ok (next, operationId)) :
    next.active = none := by
  obtain ⟨valid, validated, rest⟩ := bind_eq_ok.mp success
  cases rest
  rfl

theorem BridgeUpdate.hostsSound (updated : BridgeUpdate event bridge next)
    (sound : HostsSound bridge) : HostsSound next := by
  cases updated with
  | scratch same =>
      exact sound.of_same (same.hosts ▸ sound.table) same.wiredBleHost
        same.outputTarget
  | frame carried preparation same =>
      exact sound.of_same (same.hosts ▸ sound.table) same.wiredBleHost
        same.outputTarget
  | removal removed => exact sound.of_same sound.table rfl rfl
  | store touched upserted keyed =>
      exact sound.withHosts (sound.table.store upserted keyed)
  | activate touched activated =>
      exact sound.withHosts (sound.table.setActiveTarget activated)
  | disconnect named => exact sound.withHosts sound.table.onDisconnected
  | forget named => exact sound.forgetHost _
  | deactivate => exact sound.withHosts (sound.table.of_hosts rfl)
  | refresh => exact sound.setAvailability _ _
  | select selected =>
      refine ⟨sound.table, sound.linked, fun target active => ?_⟩
      rw [OutputTargetState.select_inactive selected] at active
      cases active
  | wired reported =>
      by_cases selected : bridge.outputTarget.selected = .wired
      · simp only [if_pos selected]
        exact sound.setAvailability _ _
      · simp only [if_neg selected]
        exact sound.of_same sound.table rfl rfl

end HidShift
