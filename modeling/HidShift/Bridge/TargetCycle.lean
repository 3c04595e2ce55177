import HidShift.Bridge.HostOperations
import HidShift.Lib.CyclicWalk

namespace HidShift

open Lib InPlace CyclicWalk

namespace BleHostStateMachine

def connectedHosts (machine : BleHostStateMachine) : List HostId :=
  (machine.hosts.reduceOption.filter (·.connected)).map (·.hostId)

/-- Makes the next connected host the active target, if there is one. -/
def advance (machine : BleHostStateMachine) : BleHostStateMachine :=
  match machine.nextConnectedTarget with
  | none => machine
  | some target => (HostOperation.setActiveTarget target).perform.outcome machine

/-- The targets of the first so many rounds of `advance`. -/
def visitedTargets (machine : BleHostStateMachine) : Nat → List HostId
  | 0 => []
  | count + 1 =>
      match machine.nextConnectedTarget with
      | none => []
      | some target => target :: machine.advance.visitedTargets count

section

variable {isCandidate : HostRuntimeState → Bool}

def candidates (isCandidate : HostRuntimeState → Bool)
    (hosts : List HostRuntimeState) : List HostId :=
  (hosts.filter isCandidate).map (·.hostId)

theorem nextTargetAfterLoop_returning (current first : Option HostId)
    (hosts : List HostRuntimeState) :
    nextTargetAfterLoop current isCandidate hosts first true =
      (candidates isCandidate hosts).head?.or first := by
  induction hosts with
  | nil => rfl
  | cons head tail ih =>
      unfold nextTargetAfterLoop candidates
      by_cases candidate : isCandidate head = true
      · rw [if_pos candidate, if_pos rfl, List.filter_cons_of_pos candidate]
        rfl
      · rw [if_neg candidate, List.filter_cons_of_neg candidate]
        exact ih

theorem nextTargetAfterLoop_searching (current : HostId)
    (first : Option HostId) (hosts : List HostRuntimeState) :
    nextTargetAfterLoop (some current) isCandidate hosts first false =
      (((candidates isCandidate hosts).dropWhile
        (· ≠ current)).tail.head?).or
          (first.or (candidates isCandidate hosts).head?) := by
  induction hosts generalizing first with
  | nil => cases first <;> rfl
  | cons head tail ih =>
      unfold nextTargetAfterLoop candidates
      by_cases candidate : isCandidate head = true
      · rw [if_pos candidate, if_neg Bool.false_ne_true,
          List.filter_cons_of_pos candidate, List.map_cons]
        by_cases same : head.hostId = current
        · rw [same, decide_eq_true rfl, nextTargetAfterLoop_returning,
            List.dropWhile_cons_of_neg (by simp)]
          rfl
        · have other : ¬ some head.hostId = some current :=
            fun equal => same (Option.some.inj equal)
          have passed : (head.hostId :: candidates isCandidate tail).dropWhile
              (· ≠ current) =
                (candidates isCandidate tail).dropWhile (· ≠ current) :=
            List.dropWhile_cons_of_pos (decide_eq_true same)
          rw [decide_eq_false other, ih, Option.or_assoc]
          show _ = (((head.hostId :: candidates isCandidate tail).dropWhile
            (· ≠ current)).tail.head?).or _
          rw [passed]
          rfl
      · rw [if_neg candidate, List.filter_cons_of_neg candidate]
        exact ih first

end

variable {machine : BleHostStateMachine}

theorem nextConnectedTarget_eq (machine : BleHostStateMachine) :
    machine.nextConnectedTarget =
      successor machine.connectedHosts machine.activeTarget := by
  unfold nextConnectedTarget
  cases machine.activeTarget with
  | none =>
      rw [Option.isNone_none, nextTargetAfterLoop_returning, Option.or_none]
      rfl
  | some current =>
      rw [Option.isNone_some, nextTargetAfterLoop_searching, Option.none_or]
      rfl

theorem connectedHosts_distinct (sound : HostTableSound machine) :
    machine.connectedHosts.Nodup :=
  sound.table.distinct.sublist (List.filter_sublist.map _)

theorem advance_eq (sound : EntriesSound machine)
    (next : machine.nextConnectedTarget = some target) :
    machine.advance = { machine with activeTarget := some target } := by
  have present : ∃ host, machine.host target = some host := by
    apply Option.ne_none_iff_exists'.mp
    intro absent
    rcases nextTargetAfterLoop_mem next with impossible | ⟨host, member, keyed⟩
    · cases impossible
    · exact SlotTable.lookup_eq_none.mp absent host member keyed
  obtain ⟨host, stored⟩ := present
  obtain ⟨index, found⟩ := SlotTable.lookup_isSome_iff.mp ⟨host, stored⟩
  obtain ⟨upserted, slotted⟩ := upsertHost_known sound.table found stored
  have same : machine.storeHost index host = machine := by
    obtain ⟨bound, equal⟩ := List.getElem?_eq_some_iff.mp slotted
    rw [storeHost, ← equal, List.set_getElem_self]
  have activated : (HostOperation.setActiveTarget target).result machine =
      .ok { machine with activeTarget := some target } := by
    rw [HostOperation.result, setActiveTarget, upserted, ok_bind]
    simp only [same]
    rfl
  have ran := (HostOperation.setActiveTarget target).perform_run sound.slots
  rw [activated] at ran
  rw [advance, next]
  exact outcome_of_ok ran

theorem visitedTargets_eq (entries : EntriesSound machine) (count : Nat) :
    machine.visitedTargets count =
      visits machine.connectedHosts count machine.activeTarget := by
  induction count generalizing machine with
  | zero => rfl
  | succ count ih =>
      rw [visitedTargets, visits]
      cases next : machine.nextConnectedTarget with
      | none => rw [← nextConnectedTarget_eq, next]
      | some target =>
          rw [← nextConnectedTarget_eq, next]
          dsimp only
          rw [advance_eq entries next, ih (entries.of_hosts (by rfl))]
          rfl

end BleHostStateMachine

/-- The rules of the host table hold after every sequence of operations.  From
any target on, each round of `advance` steps through the connected hosts visits
every one of them once. -/
theorem host_table_rules (operations : List HostOperation) :
    let machine := BleHostStateMachine.afterAll (.new storedHostsMax) operations
    HostTableSound machine ∧
      (∀ hostId kind, machine.canSend hostId kind = true →
        ∃ host, machine.host hostId = some host ∧ host.connected = true ∧
          host.encrypted = true ∧ host.storedReportReady.get kind = true) ∧
      (∀ (operation : HostOperation) error next,
        operation.perform.run machine = .error error next → next = machine) ∧
      ∀ (start : Option HostId) (before : Nat),
        ((({ machine with activeTarget := start } :
          BleHostStateMachine).visitedTargets
            (before + machine.connectedHosts.length)).drop before).Perm
              machine.connectedHosts := by
  intro machine
  have sound : HostTableSound machine := hostTableSound_new.afterAll operations
  refine ⟨sound, fun _ _ sends => sound.canSend sends,
    fun operation error next failed => operation.perform_failed sound failed,
    fun start before => ?_⟩
  have entries : EntriesSound { machine with activeTarget := start } :=
    sound.toEntriesSound.of_hosts rfl
  rw [BleHostStateMachine.visitedTargets_eq entries]
  exact visits_round (BleHostStateMachine.connectedHosts_distinct sound)
    before start

end HidShift
