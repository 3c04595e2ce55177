import HidShift.Bridge.TargetConsistency

namespace HidShift

open Lib

namespace BleHostStateMachine

theorem nextTargetAfterLoop_mem
    (found : nextTargetAfterLoop current isCandidate entries first returnNext =
      some target) :
    first = some target ∨ ∃ host ∈ entries, host.hostId = target := by
  induction entries generalizing first returnNext with
  | nil => exact .inl found
  | cons head tail ih =>
      unfold nextTargetAfterLoop at found
      have later : ∀ {first' : Option HostId},
          (first' = some target ∨ ∃ host ∈ tail, host.hostId = target) →
          (first' = some target → first = some target ∨ head.hostId = target) →
          first = some target ∨
            ∃ host ∈ head :: tail, host.hostId = target := by
        rintro first' (same | ⟨host, member, keyed⟩) started
        · rcases started same with same | keyed
          · exact .inl same
          · exact .inr ⟨head, List.mem_cons_self, keyed⟩
        · exact .inr ⟨host, List.mem_cons_of_mem _ member, keyed⟩
      split at found
      · split at found
        · exact .inr ⟨head, List.mem_cons_self, Option.some.inj found⟩
        · refine later (ih found) fun same => ?_
          cases first with
          | none => exact .inr (Option.some.inj same)
          | some hostId => exact .inl same
      · exact later (ih found) .inl

theorem nextReadyTargetAfter_present {machine : BleHostStateMachine}
    {report : ReportKind}
    (found : machine.nextReadyTargetAfter current report = some target) :
    ∃ host, machine.host target = some host := by
  apply Option.ne_none_iff_exists'.mp
  intro absent
  rcases nextTargetAfterLoop_mem found with impossible | ⟨host, member, keyed⟩
  · cases impossible
  · exact SlotTable.lookup_eq_none.mp absent host member keyed

end BleHostStateMachine

theorem getLsbD_mask (ready : Nat → Bool) (index : Nat) (small : count ≤ 8) :
    ((List.range count).foldl (fun (mask : BitVec 8) position =>
      if ready position then mask ||| (1#8 <<< position) else mask) 0).getLsbD
        index = true ↔ index < count ∧ ready index = true := by
  induction count with
  | zero => simp
  | succ count ih =>
      rw [List.range_succ, List.foldl_append, List.foldl_cons, List.foldl_nil]
      have before := ih (by omega)
      split
      · rename_i set
        rw [BitVec.getLsbD_or, Bool.or_eq_true, before]
        have bit : (1#8 <<< count).getLsbD index = true ↔ index = count := by
          simp only [BitVec.getLsbD_shiftLeft, BitVec.getLsbD_one]
          simp
          omega
        rw [bit]
        constructor
        · rintro (⟨below, holds⟩ | rfl)
          · exact ⟨by omega, holds⟩
          · exact ⟨by omega, set⟩
        · rintro ⟨below, holds⟩
          by_cases same : index = count
          · exact .inr same
          · exact .inl ⟨by omega, holds⟩
      · rename_i clear
        rw [before]
        constructor
        · rintro ⟨below, holds⟩
          exact ⟨by omega, holds⟩
        · rintro ⟨below, holds⟩
          refine ⟨?_, holds⟩
          by_contra above
          obtain rfl : index = count := by omega
          exact clear holds

theorem bleHostReady_spec {bridge : BridgeState}
    (ready : bleHostReady ((List.range
      (min bridge.hosts.hosts.length hostSlotCount)).foldl
        (fun (mask : BitVec 8) index =>
          if bridge.bleTargetReady ⟨(index + 1).toUInt8⟩ then
            mask ||| (1#8 <<< index)
          else
            mask) 0) host = true) :
    bridge.bleTargetReady host = true := by
  simp only [bleHostReady, Bool.and_eq_true, decide_eq_true_eq] at ready
  obtain ⟨⟨positive, -⟩, bit⟩ := ready
  rw [getLsbD_mask (fun index => bridge.bleTargetReady ⟨(index + 1).toUInt8⟩)
    (host.val.toNat - 1) (by simp only [hostSlotCount]; omega)] at bit
  have counted : 1 ≤ host.val.toNat := UInt8.le_iff_toNat_le.mp positive
  have same : (host.val.toNat - 1 + 1).toUInt8 = host.val := by
    rw [Nat.sub_add_cancel counted]
    exact UInt8.ofNat_toNat
  have named := bit.2
  simp only [same] at named
  exact named

theorem computerAt_spec
    (found : computerAt wiredReady readyBleMask wiredBleHost index =
      some target) :
    (target = .wired ∧ wiredReady = true) ∨
      ∃ host, target = .ble host ∧ bleHostReady readyBleMask host = true := by
  unfold computerAt at found
  split at found
  · split at found
    · rename_i ready
      cases found
      exact .inl ⟨rfl, ready⟩
    · split at found
      · split at found
        · rename_i ready
          cases found
          exact .inr ⟨_, rfl, ready⟩
        · cases found
      · cases found
  · dsimp only at found
    split at found
    · rename_i ready
      cases found
      exact .inr ⟨_, rfl, ready.2⟩
    · cases found

theorem nextReadyOutputTarget_ready {bridge : BridgeState}
    (found : bridge.nextReadyOutputTarget = some target) :
    bridge.TargetReady target := by
  obtain ⟨offset, -, reached⟩ := List.exists_of_findSome?_eq_some found
  rcases computerAt_spec reached with ⟨rfl, ready⟩ | ⟨host, rfl, ready⟩
  · show bridge.wiredAvailability = .ready
    exact of_decide_eq_true ready
  · exact bleHostReady_spec ready
end HidShift
