import HidShift.Lib.SlotTable
import HidShift.Reports
import HidShift.Storage.State

/-! The table of BLE hosts (`bridge/host_state.rs`). -/

namespace HidShift

open Lib

structure ReportReady where
  keyboard : Bool
  mouse : Bool
  consumer : Bool
  keyboardOutput : Bool
deriving DecidableEq

namespace ReportReady

def default : ReportReady := ⟨false, false, false, false⟩

def get (ready : ReportReady) : ReportKind → Bool
  | .keyboard => ready.keyboard
  | .mouse => ready.mouse
  | .consumer => ready.consumer
  | .keyboardOutput => ready.keyboardOutput

def set (ready : ReportReady) (kind : ReportKind) (enabled : Bool) :
    ReportReady :=
  match kind with
  | .keyboard => { ready with keyboard := enabled }
  | .mouse => { ready with mouse := enabled }
  | .consumer => { ready with consumer := enabled }
  | .keyboardOutput => { ready with keyboardOutput := enabled }

end ReportReady

structure HostRuntimeState where
  hostId : HostId
  connected : Bool
  encrypted : Bool
  bonded : Bool
  storedReportReady : ReportReady
  sessionReportReady : ReportReady
  keyboardLeds : Option KeyboardLedState
  name : FixedName
  discoveredName : FixedName
  bond : Option StoredBond
deriving DecidableEq

namespace HostRuntimeState

def fresh (hostId : HostId) : HostRuntimeState :=
  ⟨hostId, false, false, false, .default, .default, none, .empty, .empty,
    none⟩

def canSend (host : HostRuntimeState) (kind : ReportKind) : Bool :=
  host.connected && host.encrypted && host.sessionReportReady.get kind

end HostRuntimeState

inductive HostStateError
  | invalidHostId
  | hostCapacity
deriving DecidableEq, Repr

structure BleHostStateMachine where
  activeTarget : Option HostId
  hosts : List (Option HostRuntimeState)
deriving DecidableEq

namespace BleHostStateMachine

def new (hosts : Nat) : BleHostStateMachine :=
  ⟨none, List.replicate hosts none⟩

def hostIndex (machine : BleHostStateMachine) (hostId : HostId) :
    Option Nat :=
  SlotTable.slotIndex? HostRuntimeState.hostId machine.hosts hostId

def host (machine : BleHostStateMachine) (hostId : HostId) :
    Option HostRuntimeState :=
  SlotTable.lookup HostRuntimeState.hostId machine.hosts hostId

def canSend (machine : BleHostStateMachine) (hostId : HostId)
    (kind : ReportKind) : Bool :=
  (machine.host hostId).any fun host => host.canSend kind

/-- Finds the entry of a host or reserves the first free slot for a fresh one;
the caller stores the entry it makes of it. -/
def upsertHost (machine : BleHostStateMachine) (hostId : HostId) :
    Except HostStateError (Nat × HostRuntimeState) :=
  match hostId.validated with
  | .error _ => .error .invalidHostId
  | .ok _ =>
      match machine.hostIndex hostId with
      | some index =>
          match machine.hosts[index]?.join with
          | some host => .ok (index, host)
          | none => .error .hostCapacity
      | none =>
          match SlotTable.freeIndex? machine.hosts with
          | some index => .ok (index, .fresh hostId)
          | none => .error .hostCapacity

def storeHost (machine : BleHostStateMachine) (index : Nat)
    (host : HostRuntimeState) : BleHostStateMachine :=
  { machine with hosts := machine.hosts.set index (some host) }

def setActiveTarget (machine : BleHostStateMachine) (hostId : HostId) :
    Except HostStateError BleHostStateMachine := do
  let (index, host) ← machine.upsertHost hostId
  return { machine.storeHost index host with activeTarget := some hostId }

def clearActiveTarget (machine : BleHostStateMachine) :
    BleHostStateMachine :=
  { machine with activeTarget := none }

def onConnected (machine : BleHostStateMachine) (hostId : HostId) :
    Except HostStateError BleHostStateMachine := do
  let (index, host) ← machine.upsertHost hostId
  return machine.storeHost index { host with
    connected := true
    encrypted := false
    sessionReportReady := .default }

def onDisconnected (machine : BleHostStateMachine) (hostId : HostId) :
    BleHostStateMachine :=
  match machine.hostIndex hostId, machine.host hostId with
  | some index, some host =>
      machine.storeHost index { host with
        connected := false
        encrypted := false
        sessionReportReady := .default }
  | _, _ => machine

def sessionAfterSecurity (host : HostRuntimeState) : ReportReady :=
  if host.connected && host.encrypted && host.bonded then
    host.storedReportReady
  else if !host.encrypted then
    .default
  else
    host.sessionReportReady

def onSecurityChanged (machine : BleHostStateMachine) (hostId : HostId)
    (encrypted bonded : Bool) (bond : Option StoredBond) :
    Except HostStateError (BleHostStateMachine × Bool) := do
  let (index, host) ← machine.upsertHost hostId
  let storedBonded := bonded || host.bond.isSome
  let persist := host.bonded != storedBonded ||
    (bond.isSome && host.bond != bond)
  let secured := { host with
    encrypted := encrypted
    bonded := storedBonded
    bond := bond.or host.bond }
  return (machine.storeHost index { secured with
    sessionReportReady := sessionAfterSecurity secured }, persist)

def onCccdChanged (machine : BleHostStateMachine) (hostId : HostId)
    (report : ReportKind) (enabled : Bool) :
    Except HostStateError (BleHostStateMachine × Bool) := do
  let (index, host) ← machine.upsertHost hostId
  let persist := host.storedReportReady.get report != enabled
  return (machine.storeHost index { host with
    storedReportReady := host.storedReportReady.set report enabled
    sessionReportReady := host.sessionReportReady.set report enabled },
    persist)

def onKeyboardLedChanged (machine : BleHostStateMachine) (hostId : HostId)
    (leds : KeyboardLedState) : Except HostStateError BleHostStateMachine := do
  let (index, host) ← machine.upsertHost hostId
  return machine.storeHost index { host with keyboardLeds := some leds }

def setName (machine : BleHostStateMachine) (hostId : HostId)
    (name : FixedName) : Except HostStateError (BleHostStateMachine × Bool) :=
  do
  let (index, host) ← machine.upsertHost hostId
  return (machine.storeHost index { host with name := name }, host.name != name)

def clearHost (machine : BleHostStateMachine) (hostId : HostId) :
    BleHostStateMachine × Bool :=
  match machine.hostIndex hostId with
  | none => (machine, false)
  | some index =>
      (⟨if machine.activeTarget = some hostId then none
          else machine.activeTarget, machine.hosts.set index none⟩, true)

/-- The loop of `next_target_after` over the occupied slots. -/
def nextTargetAfterLoop (current : Option HostId)
    (isCandidate : HostRuntimeState → Bool) :
    List HostRuntimeState → (first : Option HostId) → (returnNext : Bool) →
      Option HostId
  | [], first, _ => first
  | host :: rest, first, returnNext =>
      if isCandidate host then
        if returnNext then
          some host.hostId
        else
          nextTargetAfterLoop current isCandidate rest
            (first.or (some host.hostId)) (some host.hostId = current)
      else
        nextTargetAfterLoop current isCandidate rest first returnNext

def nextReadyTargetAfter (machine : BleHostStateMachine)
    (current : Option HostId) (report : ReportKind) : Option HostId :=
  nextTargetAfterLoop current (·.canSend report) machine.hosts.reduceOption
    none current.isNone

theorem upsertHost_spec {machine : BleHostStateMachine}
    {host : HostRuntimeState}
    (upserted : machine.upsertHost hostId = .ok (index, host)) :
    host.hostId = hostId ∧ host = (machine.host hostId).getD (.fresh hostId) ∧
      ∀ stored : HostRuntimeState, stored.hostId = hostId → ∀ other,
        (machine.storeHost index stored).host other =
          if other = hostId then some stored else machine.host other := by
  unfold upsertHost at upserted
  cases valid : hostId.validated with
  | error error => simp [valid] at upserted
  | ok slot =>
      simp only [valid] at upserted
      cases found : machine.hostIndex hostId with
      | some position =>
          obtain ⟨entry, looked⟩ :=
            SlotTable.lookup_isSome_iff.mpr ⟨position, found⟩
          have stored : machine.hosts[position]?.join = some entry := by
            simpa [SlotTable.lookup, show SlotTable.slotIndex?
              HostRuntimeState.hostId machine.hosts hostId = some position
              from found] using looked
          simp only [found, stored, Except.ok.injEq, Prod.mk.injEq] at upserted
          obtain ⟨rfl, rfl⟩ := upserted
          refine ⟨SlotTable.key_of_lookup looked, ?_, ?_⟩
          · rw [host, looked]
            rfl
          · rintro stored rfl other
            exact SlotTable.lookup_replace found other
      | none =>
          cases free : SlotTable.freeIndex? machine.hosts with
          | none => simp [found, free] at upserted
          | some position =>
              simp only [found, free, Except.ok.injEq, Prod.mk.injEq]
                at upserted
              obtain ⟨rfl, rfl⟩ := upserted
              refine ⟨rfl, ?_, ?_⟩
              · have absent : machine.host hostId = none := by
                  simp [host, SlotTable.lookup, show SlotTable.slotIndex?
                    HostRuntimeState.hostId machine.hosts hostId = none
                    from found]
                rw [absent]
                rfl
              · rintro stored rfl other
                exact SlotTable.lookup_insert found free other

variable {machine next : BleHostStateMachine} {hostId : HostId}

/-- Storing an entry that sends what the old one did changes nothing for
anyone.  A host that enters the table cannot send anything yet. -/
theorem storeHost_canSend {machine : BleHostStateMachine}
    {host stored : HostRuntimeState}
    (upserted : machine.upsertHost hostId = .ok (index, host))
    (keyed : stored.hostId = host.hostId)
    (same : ∀ kind, stored.canSend kind = host.canSend kind) (other : HostId)
    (kind : ReportKind) :
    (machine.storeHost index stored).canSend other kind =
      machine.canSend other kind := by
  obtain ⟨hostKeyed, current, replaced⟩ := upsertHost_spec upserted
  simp only [canSend]
  rw [replaced stored (keyed.trans hostKeyed) other]
  split
  · rename_i found
    subst found
    rw [Option.any_some, same, current]
    cases machine.host other <;> rfl
  · rfl

theorem setActiveTarget_spec
    (success : machine.setActiveTarget hostId = .ok next) :
    next.activeTarget = some hostId ∧
      ∀ other kind, next.canSend other kind = machine.canSend other kind := by
  obtain ⟨⟨index, host⟩, upserted, rest⟩ := bind_eq_ok.mp success
  cases rest
  exact ⟨rfl, storeHost_canSend upserted rfl fun _ => rfl⟩

theorem setActiveTarget_host
    (success : machine.setActiveTarget hostId = .ok next) :
    ∃ host, ∀ other, next.host other =
      if other = hostId then some host else machine.host other := by
  obtain ⟨⟨index, host⟩, upserted, rest⟩ := bind_eq_ok.mp success
  cases rest
  obtain ⟨keyed, -, replaced⟩ := upsertHost_spec upserted
  exact ⟨host, replaced host keyed⟩

theorem onKeyboardLedChanged_canSend
    (success : machine.onKeyboardLedChanged hostId leds = .ok next)
    (other : HostId) (kind : ReportKind) :
    next.canSend other kind = machine.canSend other kind := by
  obtain ⟨⟨index, host⟩, upserted, rest⟩ := bind_eq_ok.mp success
  cases rest
  apply storeHost_canSend upserted
  · rfl
  · exact fun _ => rfl

theorem setName_canSend
    (success : machine.setName hostId name = .ok (next, persist))
    (other : HostId) (kind : ReportKind) :
    next.canSend other kind = machine.canSend other kind := by
  obtain ⟨⟨index, host⟩, upserted, rest⟩ := bind_eq_ok.mp success
  cases rest
  apply storeHost_canSend upserted
  · rfl
  · exact fun _ => rfl

theorem clearHost_of_absent (absent : machine.host hostId = none) :
    machine.clearHost hostId = (machine, false) := by
  unfold clearHost
  cases found : machine.hostIndex hostId with
  | none => rfl
  | some index =>
      obtain ⟨entry, looked⟩ :=
        SlotTable.lookup_isSome_iff.mpr ⟨index, found⟩
      rw [host, looked] at absent
      cases absent

theorem clearHost_keeps_absent (absent : machine.host other = none) :
    (machine.clearHost hostId).1.host other = none := by
  unfold clearHost
  cases found : machine.hostIndex hostId with
  | none => exact absent
  | some index =>
      have differs : other ≠ hostId := by
        rintro rfl
        obtain ⟨entry, looked⟩ :=
          SlotTable.lookup_isSome_iff.mpr ⟨index, found⟩
        rw [host, looked] at absent
        cases absent
      exact (SlotTable.lookup_remove found differs).trans absent

theorem onDisconnected_absent (absent : machine.host other = none) :
    (machine.onDisconnected hostId).host other = none := by
  unfold onDisconnected
  split
  · rename_i index entry found stored
    obtain rfl := SlotTable.key_of_lookup stored
    have differs : other ≠ entry.hostId := by
      rintro rfl
      rw [stored] at absent
      cases absent
    have replaced : ∀ changed : HostRuntimeState,
        changed.hostId = entry.hostId →
          (machine.storeHost index changed).host other = none := by
      intro changed same
      rw [← same] at found differs
      have looked := SlotTable.lookup_replace found other
      rw [if_neg differs] at looked
      exact looked.trans absent
    exact replaced _ rfl
  · exact absent

theorem clearHost_canSend (differs : other ≠ hostId) (kind : ReportKind) :
    (machine.clearHost hostId).1.canSend other kind =
      machine.canSend other kind := by
  unfold clearHost
  cases found : machine.hostIndex hostId with
  | none => rfl
  | some index =>
      simp only [canSend, host]
      rw [SlotTable.lookup_remove found differs]

theorem onDisconnected_canSend (machine : BleHostStateMachine)
    (hostId : HostId) (kind : ReportKind) :
    (machine.onDisconnected hostId).canSend hostId kind = false := by
  simp only [onDisconnected]
  cases found : machine.hostIndex hostId with
  | none =>
      have absent : machine.host hostId = none := by
        simp [host, SlotTable.lookup, show SlotTable.slotIndex?
          HostRuntimeState.hostId machine.hosts hostId = none from found]
      simp [absent, canSend]
  | some index =>
      obtain ⟨entry, looked⟩ :=
        SlotTable.lookup_isSome_iff.mpr ⟨index, found⟩
      have stored : machine.host hostId = some entry := looked
      obtain rfl := SlotTable.key_of_lookup looked
      have replaced : ∀ host : HostRuntimeState, host.hostId = entry.hostId →
          (machine.storeHost index host).host entry.hostId = some host := by
        intro host same
        rw [← same] at found ⊢
        exact (SlotTable.lookup_replace found _).trans (if_pos rfl)
      simp only [stored, canSend]
      rw [replaced] <;> rfl

variable {machine next : BleHostStateMachine} {hostId : HostId}

theorem onDisconnected_activeTarget :
    (machine.onDisconnected hostId).activeTarget = machine.activeTarget := by
  simp only [onDisconnected]
  split <;> rfl

theorem onConnected_activeTarget
    (success : machine.onConnected hostId = .ok next) :
    next.activeTarget = machine.activeTarget := by
  obtain ⟨_, _, rest⟩ := bind_eq_ok.mp success
  cases rest
  rfl

theorem onSecurityChanged_activeTarget
    (success : machine.onSecurityChanged hostId encrypted bonded bond =
      .ok (next, persist)) : next.activeTarget = machine.activeTarget := by
  obtain ⟨_, _, rest⟩ := bind_eq_ok.mp success
  cases rest
  rfl

theorem onCccdChanged_activeTarget {report : ReportKind}
    (success : machine.onCccdChanged hostId report enabled =
      .ok (next, persist)) : next.activeTarget = machine.activeTarget := by
  obtain ⟨_, _, rest⟩ := bind_eq_ok.mp success
  cases rest
  rfl

theorem onKeyboardLedChanged_activeTarget
    (success : machine.onKeyboardLedChanged hostId leds = .ok next) :
    next.activeTarget = machine.activeTarget := by
  obtain ⟨_, _, rest⟩ := bind_eq_ok.mp success
  cases rest
  rfl

theorem setName_activeTarget
    (success : machine.setName hostId name = .ok (next, persist)) :
    next.activeTarget = machine.activeTarget := by
  obtain ⟨_, _, rest⟩ := bind_eq_ok.mp success
  cases rest
  rfl

theorem clearHost_activeTarget :
    (machine.clearHost hostId).1.activeTarget = machine.activeTarget ∨
      (machine.clearHost hostId).1.activeTarget = none ∧
        machine.activeTarget = some hostId := by
  simp only [clearHost]
  split
  · exact .inl rfl
  · by_cases active : machine.activeTarget = some hostId
    · exact .inr ⟨if_pos active, active⟩
    · exact .inl (if_neg active)

end BleHostStateMachine

end HidShift
