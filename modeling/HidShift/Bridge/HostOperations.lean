import HidShift.Lib.Agreement
import HidShift.Runtime.Reachable
import HidShift.Storage.ImageLayout

/-! The operations on the host table as they run on the table itself
(`bridge/host_state.rs`), and what every sequence of them keeps. -/

namespace HidShift

open Lib InPlace

namespace BleHostStateMachine

abbrev HostM := InPlace HostStateError BleHostStateMachine

/-- `upsert_host` on the table itself: a fresh entry is written before the
reference to it is read back. -/
def upsertInPlace (hostId : HostId) : HostM Nat := do
  let _ ← InPlace.lift (fun _ => .invalidHostId) hostId.validated
  let machine ← get
  match machine.hostIndex hostId with
  | some index => return index
  | none =>
      match SlotTable.freeIndex? machine.hosts with
      | none => throw .hostCapacity
      | some index =>
          set (machine.storeHost index (.fresh hostId))
          return index

/-- Changes the entry of a host through the reference `upsert_host` gives. -/
def onEntry (hostId : HostId)
    (change : HostRuntimeState → HostRuntimeState) : HostM Unit := do
  let index ← upsertInPlace hostId
  let machine ← get
  match machine.hosts[index]?.join with
  | none => throw .hostCapacity
  | some host => set (machine.storeHost index (change host))

/-- The loop of `restore`. -/
def restoreEntries : List StoredHostProfile → HostM Unit
  | [] => pure ()
  | stored :: rest => do
      onEntry stored.hostId fun host => { host with
        bonded := stored.bonded
        connected := false
        encrypted := false
        storedReportReady := ⟨stored.keyboardCccdEnabled,
          stored.mouseCccdEnabled, stored.consumerCccdEnabled,
          stored.keyboardOutputCccdEnabled⟩
        sessionReportReady := .default
        keyboardLeds := none
        name := stored.name
        discoveredName := .empty
        bond := stored.bond }
      restoreEntries rest

end BleHostStateMachine

/-- One call of an operation of the table; a stored state is one that passed
its check. -/
inductive HostOperation
  | onConnected (hostId : HostId)
  | onDisconnected (hostId : HostId)
  | onSecurityChanged (hostId : HostId) (encrypted bonded : Bool)
      (bond : Option StoredBond)
  | onCccdChanged (hostId : HostId) (report : ReportKind) (enabled : Bool)
  | onKeyboardLedChanged (hostId : HostId) (leds : KeyboardLedState)
  | setName (hostId : HostId) (name : FixedName)
  | setDiscoveredName (hostId : HostId) (name : FixedName)
  | clearHost (hostId : HostId)
  | setActiveTarget (hostId : HostId)
  | clearActiveTarget
  | restore (storage : StorageState) (validated : storage.validate = .ok ())

namespace HostOperation

open BleHostStateMachine

def perform : HostOperation → HostM Unit
  | .onConnected hostId => onEntry hostId fun host => { host with
      connected := true
      encrypted := false
      sessionReportReady := .default }
  | .onDisconnected hostId => modify (·.onDisconnected hostId)
  | .onSecurityChanged hostId encrypted bonded bond =>
      onEntry hostId fun host =>
        let secured := { host with
          encrypted := encrypted
          bonded := bonded || host.bond.isSome
          bond := bond.or host.bond }
        { secured with sessionReportReady := sessionAfterSecurity secured }
  | .onCccdChanged hostId report enabled => onEntry hostId fun host =>
      { host with
        storedReportReady := host.storedReportReady.set report enabled
        sessionReportReady := host.sessionReportReady.set report enabled }
  | .onKeyboardLedChanged hostId leds => onEntry hostId fun host =>
      { host with keyboardLeds := some leds }
  | .setName hostId name => onEntry hostId fun host =>
      { host with name := name }
  | .setDiscoveredName hostId name => onEntry hostId fun host =>
      { host with discoveredName := name }
  | .clearHost hostId => modify fun machine => (machine.clearHost hostId).1
  | .setActiveTarget hostId => do
      onEntry hostId id
      modify fun machine => { machine with activeTarget := some hostId }
  | .clearActiveTarget => modify (·.clearActiveTarget)
  | .restore storage _ => do
      modify fun machine =>
        ⟨storage.lastActiveHost, List.replicate machine.hosts.length none⟩
      restoreEntries storage.hosts.toList

def result (operation : HostOperation) (machine : BleHostStateMachine) :
    Except HostStateError BleHostStateMachine :=
  match operation with
  | .onConnected hostId => machine.onConnected hostId
  | .onDisconnected hostId => .ok (machine.onDisconnected hostId)
  | .onSecurityChanged hostId encrypted bonded bond =>
      Prod.fst <$> machine.onSecurityChanged hostId encrypted bonded bond
  | .onCccdChanged hostId report enabled =>
      Prod.fst <$> machine.onCccdChanged hostId report enabled
  | .onKeyboardLedChanged hostId leds =>
      machine.onKeyboardLedChanged hostId leds
  | .setName hostId name => Prod.fst <$> machine.setName hostId name
  | .setDiscoveredName hostId name =>
      Prod.fst <$> machine.setDiscoveredName hostId name
  | .clearHost hostId => .ok (machine.clearHost hostId).1
  | .setActiveTarget hostId => machine.setActiveTarget hostId
  | .clearActiveTarget => .ok machine.clearActiveTarget
  | .restore storage _ => machine.restore storage

end HostOperation

namespace BleHostStateMachine

variable {machine next : BleHostStateMachine} {hostId : HostId}

def settled (machine : BleHostStateMachine) :
    Except HostStateError BleHostStateMachine →
      EStateM.Result HostStateError BleHostStateMachine Unit
  | .ok next => .ok () next
  | .error error => .error error machine

theorem onEntry_run (machine : BleHostStateMachine) (hostId : HostId)
    (change : HostRuntimeState → HostRuntimeState) :
    (onEntry hostId change).run machine =
      settled machine (machine.upsertHost hostId >>= fun entry =>
        .ok (machine.storeHost entry.1 (change entry.2))) := by
  cases valid : hostId.validated with
  | error error =>
      have refused : machine.upsertHost hostId = .error .invalidHostId := by
        simp [upsertHost, valid]
      rw [refused]
      simp [onEntry, upsertInPlace, lift, valid]
      rfl
  | ok slot =>
      cases found : machine.hostIndex hostId with
      | some index =>
          cases stored : machine.hosts[index]?.join with
          | none =>
              have refused : machine.upsertHost hostId =
                  .error .hostCapacity := by
                simp [upsertHost, valid, found, stored]
              rw [refused]
              simp [onEntry, upsertInPlace, lift, valid, found, stored]
              rfl
          | some host =>
              have entry : machine.upsertHost hostId = .ok (index, host) := by
                simp [upsertHost, valid, found, stored]
              rw [entry, ok_bind]
              simp [onEntry, upsertInPlace, lift, valid, found, stored, settled]
      | none =>
          cases free : SlotTable.freeIndex? machine.hosts with
          | none =>
              have refused : machine.upsertHost hostId =
                  .error .hostCapacity := by
                simp [upsertHost, valid, found, free]
              rw [refused]
              simp [onEntry, upsertInPlace, lift, valid, found, free]
              rfl
          | some index =>
              have entry : machine.upsertHost hostId =
                  .ok (index, .fresh hostId) := by
                simp [upsertHost, valid, found, free]
              obtain ⟨before, after, split, rfl⟩ :=
                SlotTable.split_of_freeIndex? free
              have written : (machine.storeHost before.length
                  (.fresh hostId)).hosts[before.length]?.join =
                    some (.fresh hostId) := by
                rw [storeHost, split, SlotTable.set_at_split]
                simp
              have again : (machine.storeHost before.length
                  (.fresh hostId)).storeHost before.length
                    (change (.fresh hostId)) =
                  machine.storeHost before.length (change (.fresh hostId)) := by
                simp [storeHost]
              rw [entry, ok_bind]
              simp [onEntry, upsertInPlace, lift, valid, found, free, settled,
                written, again]

theorem settled_eq_error (failed : settled machine result = .error error next) :
    next = machine := by
  cases result with
  | ok after => cases failed
  | error refused =>
      cases failed
      rfl

theorem restoreEntries_run
    (restored : list.foldlM restoreHost machine = .ok next) :
    (restoreEntries list).run machine = .ok () next := by
  induction list generalizing machine with
  | nil =>
      cases restored
      rfl
  | cons stored rest ih =>
      rw [List.foldlM_cons] at restored
      obtain ⟨middle, one, others⟩ := bind_eq_ok.mp restored
      obtain ⟨⟨index, host⟩, upserted, written⟩ := bind_eq_ok.mp one
      cases written
      refine (run_bind_ok (show _ = EStateM.Result.ok () _ from ?_) _).trans
        (ih others)
      rw [onEntry_run, upserted]
      rfl

theorem length_of_full {slots : List (Option HostRuntimeState)}
    (full : SlotTable.freeIndex? slots = none) :
    slots.reduceOption.length = slots.length := by
  have taken := List.findIdx?_eq_none_iff.mp full
  clear full
  induction slots with
  | nil => rfl
  | cons head tail ih =>
      cases head with
      | none => exact absurd (taken none List.mem_cons_self) (by decide)
      | some host =>
          rw [List.reduceOption_cons_of_some, List.length_cons,
            List.length_cons,
            ih fun entry member => taken entry (List.mem_cons_of_mem _ member)]

theorem upsertHost_total (sound : TableSound machine)
    (slots : machine.hosts.length = storedHostsMax) (valid : hostId.Valid) :
    ∃ entry, machine.upsertHost hostId = .ok entry := by
  obtain ⟨slot, validated⟩ := valid
  unfold upsertHost
  rw [validated]
  cases found : machine.hostIndex hostId with
  | some index =>
      obtain ⟨before, entry, after, split, rfl, -, -⟩ :=
        SlotTable.split_of_slotIndex? found
      simp [split]
  | none =>
      cases free : SlotTable.freeIndex? machine.hosts with
      | some index => simp
      | none =>
          -- All four slots taken, and none by this number.
          have absent : hostId ∉ machine.hosts.reduceOption.map
              HostRuntimeState.hostId := by
            intro member
            obtain ⟨host, stored, same⟩ := List.mem_map.mp member
            exact SlotTable.not_mem_of_slotIndex?_none found host stored same
          have bound := HostId.length_le_slots
            (List.nodup_cons.mpr ⟨absent, sound.distinct⟩)
            fun other member => by
              rcases List.mem_cons.mp member with rfl | member
              · exact ⟨slot, validated⟩
              · obtain ⟨host, stored, rfl⟩ := List.mem_map.mp member
                exact sound.valid host stored
          rw [List.length_cons, List.length_map, length_of_full free, slots]
            at bound
          exact absurd bound (by decide)

theorem upsertHost_known (sound : TableSound machine) {host : HostRuntimeState}
    (found : machine.hostIndex hostId = some index)
    (stored : machine.host hostId = some host) :
    machine.upsertHost hostId = .ok (index, host) ∧
      machine.hosts[index]? = some (some host) := by
  have valid : hostId.Valid := by
    obtain rfl := SlotTable.key_of_lookup stored
    exact sound.valid host (SlotTable.mem_of_lookup stored)
  obtain ⟨slot, validated⟩ := valid
  have slotted : machine.hosts[index]?.join = some host := by
    simpa [BleHostStateMachine.host, SlotTable.lookup,
      show SlotTable.slotIndex? HostRuntimeState.hostId machine.hosts hostId =
        some index from found] using stored
  refine ⟨?_, Option.join_eq_some_iff.mp slotted⟩
  simp [upsertHost, validated, found, slotted]

end BleHostStateMachine

/-- The session flags of an entry are among the stored ones. -/
def HostRuntimeState.SessionStored (host : HostRuntimeState) : Prop :=
  ∀ kind, host.sessionReportReady.get kind = true →
    host.storedReportReady.get kind = true

structure EntriesSound (machine : BleHostStateMachine) : Prop where
  table : TableSound machine
  slots : machine.hosts.length = storedHostsMax
  session : ∀ host ∈ machine.hosts.reduceOption, host.SessionStored

structure HostTableSound (machine : BleHostStateMachine) : Prop
    extends EntriesSound machine where
  target : ∀ hostId, machine.activeTarget = some hostId →
    ∃ host, machine.host hostId = some host

namespace HostRuntimeState

theorem sessionStored_fresh (hostId : HostId) :
    (fresh hostId).SessionStored := by
  intro kind ready
  cases kind <;> cases ready

variable {host : HostRuntimeState}

theorem sessionStored_default (cleared : host.sessionReportReady = .default) :
    host.SessionStored := by
  intro kind ready
  rw [cleared] at ready
  cases kind <;> cases ready

theorem sessionStored_security (session : host.SessionStored) :
    ({ host with
      sessionReportReady := BleHostStateMachine.sessionAfterSecurity host } :
        HostRuntimeState).SessionStored := by
  intro kind ready
  unfold BleHostStateMachine.sessionAfterSecurity at ready
  dsimp only at ready
  split at ready
  · exact ready
  · split at ready
    · cases kind <;> cases ready
    · exact session kind ready

theorem sessionStored_cccd (session : host.SessionStored) (report : ReportKind)
    (enabled : Bool) :
    ({ host with
      storedReportReady := host.storedReportReady.set report enabled
      sessionReportReady := host.sessionReportReady.set report enabled } :
        HostRuntimeState).SessionStored := by
  intro kind ready
  have before := session kind
  cases report <;> cases kind <;>
    simp only [ReportReady.set, ReportReady.get] at ready before ⊢ <;>
    first | exact ready | exact before ready

end HostRuntimeState

section

variable {machine next : BleHostStateMachine} {hostId : HostId}

theorem EntriesSound.current (sound : EntriesSound machine) (hostId : HostId) :
    ((machine.host hostId).getD (.fresh hostId)).SessionStored := by
  cases stored : machine.host hostId with
  | none => exact HostRuntimeState.sessionStored_fresh hostId
  | some host => exact sound.session host (SlotTable.mem_of_lookup stored)

variable {host stored : HostRuntimeState}

theorem EntriesSound.store (sound : EntriesSound machine)
    (upserted : machine.upsertHost hostId = .ok (index, host))
    (keyed : stored.hostId = host.hostId)
    (session : host.SessionStored → stored.SessionStored) :
    EntriesSound (machine.storeHost index stored) := by
  obtain ⟨named, current, -⟩ :=
    BleHostStateMachine.upsertHost_spec upserted
  refine ⟨sound.table.store upserted (keyed.trans named), ?_, ?_⟩
  · rw [BleHostStateMachine.storeHost, List.length_set]
    exact sound.slots
  · intro other member
    rw [List.reduceOption_mem_iff] at member
    rcases List.mem_or_eq_of_mem_set member with old | new
    · exact sound.session other (List.reduceOption_mem_iff.mpr old)
    · cases new
      apply session
      rw [current]
      exact sound.current hostId

theorem EntriesSound.of_hosts (sound : EntriesSound machine)
    (hosts : next.hosts = machine.hosts) : EntriesSound next := by
  refine ⟨sound.table.of_hosts hosts, ?_, ?_⟩
  · rw [hosts]
    exact sound.slots
  · rw [hosts]
    exact sound.session

theorem entriesSound_empty (activeTarget : Option HostId) :
    EntriesSound ⟨activeTarget, List.replicate storedHostsMax none⟩ := by
  refine ⟨tableSound_empty activeTarget storedHostsMax, rfl, ?_⟩
  intro host member
  exact absurd member List.not_mem_nil

theorem storeHost_present
    (upserted : machine.upsertHost hostId = .ok (index, host))
    (keyed : stored.hostId = host.hostId)
    (present : other = hostId ∨ ∃ entry, machine.host other = some entry) :
    ∃ entry, (machine.storeHost index stored).host other = some entry := by
  obtain ⟨named, -, replaced⟩ :=
    BleHostStateMachine.upsertHost_spec upserted
  rw [replaced stored (keyed.trans named) other]
  split
  · exact ⟨stored, rfl⟩
  · rename_i differs
    exact present.resolve_left differs

section

variable (sound : HostTableSound machine)

include sound

theorem HostTableSound.store
    (upserted : machine.upsertHost hostId = .ok (index, host))
    (keyed : stored.hostId = host.hostId)
    (session : host.SessionStored → stored.SessionStored) :
    HostTableSound (machine.storeHost index stored) := by
  refine ⟨sound.toEntriesSound.store upserted keyed session, ?_⟩
  intro other active
  exact storeHost_present upserted keyed (.inr (sound.target other active))

theorem HostTableSound.setActiveTarget
    (activated : machine.setActiveTarget hostId = .ok next) :
    HostTableSound next := by
  obtain ⟨⟨index, host⟩, upserted, rest⟩ := bind_eq_ok.mp activated
  cases rest
  refine ⟨(sound.toEntriesSound.store upserted rfl id).of_hosts rfl, ?_⟩
  rintro other active
  cases active
  exact storeHost_present upserted rfl (.inl rfl)

theorem HostTableSound.clearActiveTarget :
    HostTableSound machine.clearActiveTarget :=
  ⟨sound.toEntriesSound.of_hosts rfl, nofun⟩

theorem HostTableSound.onDisconnected
    (hostId : HostId) : HostTableSound (machine.onDisconnected hostId) := by
  unfold BleHostStateMachine.onDisconnected
  split
  · rename_i index host found stored
    have upserted := (BleHostStateMachine.upsertHost_known sound.table found
      stored).1
    exact sound.store upserted rfl
      fun _ => HostRuntimeState.sessionStored_default rfl
  · exact sound

theorem HostTableSound.clearHost
    (hostId : HostId) : HostTableSound (machine.clearHost hostId).1 := by
  have table := @TableSound.clearHost machine hostId sound.table
  unfold BleHostStateMachine.clearHost at table ⊢
  cases found : machine.hostIndex hostId with
  | none => exact sound
  | some index =>
      rw [found] at table
      refine ⟨⟨table, ?_, ?_⟩, ?_⟩
      · rw [List.length_set]
        exact sound.slots
      · intro host member
        rw [List.reduceOption_mem_iff] at member
        rcases List.mem_or_eq_of_mem_set member with old | impossible
        · exact sound.session host (List.reduceOption_mem_iff.mpr old)
        · cases impossible
      · intro other active
        by_cases cleared : machine.activeTarget = some hostId
        · rw [if_pos cleared] at active
          cases active
        · rw [if_neg cleared] at active
          obtain ⟨host, stored⟩ := sound.target other active
          refine ⟨host, (SlotTable.lookup_remove found ?_).trans stored⟩
          rintro rfl
          exact cleared active

end

theorem EntriesSound.restoreHost {stored : StoredHostProfile}
    (sound : EntriesSound machine)
    (restored : machine.restoreHost stored = .ok next) :
    EntriesSound next ∧ next.activeTarget = machine.activeTarget ∧
      ∀ other, (other = stored.hostId ∨
        ∃ entry, machine.host other = some entry) →
          ∃ entry, next.host other = some entry := by
  obtain ⟨⟨index, host⟩, upserted, rest⟩ := bind_eq_ok.mp restored
  cases rest
  refine ⟨sound.store upserted rfl
    fun _ => HostRuntimeState.sessionStored_default rfl, rfl, ?_⟩
  exact fun other present => storeHost_present upserted (by rfl) present

theorem restoreHosts_sound {list : List StoredHostProfile}
    (sound : EntriesSound machine)
    (valid : ∀ stored ∈ list, stored.hostId.Valid) :
    ∃ next, list.foldlM BleHostStateMachine.restoreHost machine = .ok next ∧
      EntriesSound next ∧ next.activeTarget = machine.activeTarget ∧
      ∀ other, (other ∈ list.map StoredHostProfile.hostId ∨
        ∃ entry, machine.host other = some entry) →
          ∃ entry, next.host other = some entry := by
  induction list generalizing machine with
  | nil =>
      refine ⟨machine, rfl, sound, rfl, fun other present => ?_⟩
      exact present.resolve_left List.not_mem_nil
  | cons stored rest ih =>
      obtain ⟨⟨index, host⟩, upserted⟩ := BleHostStateMachine.upsertHost_total
        sound.table sound.slots (valid stored List.mem_cons_self)
      obtain ⟨middle, one⟩ : ∃ middle,
          machine.restoreHost stored = .ok middle := by
        unfold BleHostStateMachine.restoreHost
        rw [upserted]
        exact ⟨_, rfl⟩
      obtain ⟨soundMiddle, sameTarget, kept⟩ := sound.restoreHost one
      obtain ⟨next, others, soundNext, target, all⟩ := ih soundMiddle
        fun other member => valid other (List.mem_cons_of_mem _ member)
      refine ⟨next, ?_, soundNext, target.trans sameTarget, ?_⟩
      · rw [List.foldlM_cons, one]
        exact others
      · intro other present
        rw [List.map_cons, List.mem_cons, or_assoc, or_left_comm] at present
        rcases present with later | now
        · exact all other (.inl later)
        · exact all other (.inr (kept other now))

theorem restore_sound {storage : StorageState}
    (slots : machine.hosts.length = storedHostsMax)
    (validated : storage.validate = .ok ()) :
    ∃ next, machine.restore storage = .ok next ∧ HostTableSound next := by
  obtain ⟨_, hosts, known⟩ := bind_eq_ok.mp validated
  have valid : ∀ stored ∈ storage.hosts.toList, stored.hostId.Valid := by
    intro stored member
    obtain ⟨positive, small⟩ := validateHosts_ids hosts stored member
    exact HostId.valid_of_range positive small
  obtain ⟨next, restored, sound, target, present⟩ :=
    restoreHosts_sound (entriesSound_empty storage.lastActiveHost) valid
  refine ⟨next, ?_, sound, ?_⟩
  · unfold BleHostStateMachine.restore
    rw [slots]
    exact restored
  · intro hostId active
    rw [target] at active
    apply present hostId
    left
    unfold StorageState.validateActiveHost at known
    rw [show storage.lastActiveHost = some hostId from active] at known
    dsimp only at known
    split at known
    · rename_i stored
      obtain ⟨host, member, same⟩ := List.any_eq_true.mp stored
      exact List.mem_map.mpr ⟨host, member, of_decide_eq_true same⟩
    · cases known

namespace HostOperation

open BleHostStateMachine

theorem perform_run (slots : machine.hosts.length = storedHostsMax)
    (operation : HostOperation) :
    operation.perform.run machine =
      settled machine (operation.result machine) := by
  cases operation with
  | onConnected hostId => exact onEntry_run machine hostId _
  | onDisconnected hostId => rfl
  | onSecurityChanged hostId encrypted bonded bond =>
      rw [perform, onEntry_run, result, BleHostStateMachine.onSecurityChanged]
      cases machine.upsertHost hostId <;> rfl
  | onCccdChanged hostId report enabled =>
      rw [perform, onEntry_run, result, BleHostStateMachine.onCccdChanged]
      cases machine.upsertHost hostId <;> rfl
  | onKeyboardLedChanged hostId leds => exact onEntry_run machine hostId _
  | setName hostId name =>
      rw [perform, onEntry_run, result, BleHostStateMachine.setName]
      cases machine.upsertHost hostId <;> rfl
  | setDiscoveredName hostId name =>
      rw [perform, onEntry_run, result, BleHostStateMachine.setDiscoveredName]
      cases machine.upsertHost hostId <;> rfl
  | clearHost hostId => rfl
  | setActiveTarget hostId =>
      have entered := onEntry_run machine hostId id
      rw [perform, result, BleHostStateMachine.setActiveTarget]
      cases upserted : machine.upsertHost hostId with
      | error error =>
          rw [upserted] at entered
          exact run_bind_error entered _
      | ok entry =>
          rw [upserted] at entered
          exact run_bind_ok entered _
  | clearActiveTarget => rfl
  | restore storage validated =>
      obtain ⟨next, restored, -⟩ := restore_sound slots validated
      rw [result, restored]
      exact restoreEntries_run restored

theorem result_sound {operation : HostOperation}
    (sound : HostTableSound machine)
    (performed : operation.result machine = .ok next) :
    HostTableSound next := by
  cases operation with
  | onConnected hostId =>
      obtain ⟨⟨index, host⟩, upserted, rest⟩ := bind_eq_ok.mp performed
      cases rest
      exact sound.store upserted rfl
        fun _ => HostRuntimeState.sessionStored_default rfl
  | onDisconnected hostId =>
      cases performed
      exact sound.onDisconnected hostId
  | onSecurityChanged hostId encrypted bonded bond =>
      obtain ⟨⟨after, persist⟩, secured, rfl⟩ := map_eq_ok.mp performed
      obtain ⟨⟨index, host⟩, upserted, rest⟩ := bind_eq_ok.mp secured
      cases rest
      exact sound.store upserted rfl
        fun session => HostRuntimeState.sessionStored_security session
  | onCccdChanged hostId report enabled =>
      obtain ⟨⟨after, persist⟩, changed, rfl⟩ := map_eq_ok.mp performed
      obtain ⟨⟨index, host⟩, upserted, rest⟩ := bind_eq_ok.mp changed
      cases rest
      exact sound.store upserted rfl
        fun session => HostRuntimeState.sessionStored_cccd session _ _
  | onKeyboardLedChanged hostId leds =>
      obtain ⟨⟨index, host⟩, upserted, rest⟩ := bind_eq_ok.mp performed
      cases rest
      exact sound.store upserted rfl id
  | setName hostId name =>
      obtain ⟨⟨after, persist⟩, named, rfl⟩ := map_eq_ok.mp performed
      obtain ⟨⟨index, host⟩, upserted, rest⟩ := bind_eq_ok.mp named
      cases rest
      exact sound.store upserted rfl id
  | setDiscoveredName hostId name =>
      obtain ⟨⟨after, persist⟩, named, rfl⟩ := map_eq_ok.mp performed
      obtain ⟨⟨index, host⟩, upserted, rest⟩ := bind_eq_ok.mp named
      cases rest
      exact sound.store upserted rfl id
  | clearHost hostId =>
      cases performed
      exact sound.clearHost hostId
  | setActiveTarget hostId => exact sound.setActiveTarget performed
  | clearActiveTarget =>
      cases performed
      exact sound.clearActiveTarget
  | restore storage validated =>
      obtain ⟨after, restored, soundAfter⟩ :=
        @restore_sound machine storage sound.slots validated
      cases restored.symm.trans performed
      exact soundAfter

theorem perform_sound (sound : HostTableSound machine)
    (operation : HostOperation) :
    HostTableSound (operation.perform.outcome machine) := by
  have ran := operation.perform_run sound.slots
  cases performed : operation.result machine with
  | ok after =>
      rw [performed] at ran
      rw [outcome_of_ok ran]
      exact operation.result_sound sound performed
  | error error =>
      rw [performed] at ran
      rw [outcome_of_error ran]
      exact sound

theorem perform_failed (sound : HostTableSound machine)
    (operation : HostOperation)
    (failed : operation.perform.run machine = .error error next) :
    next = machine :=
  settled_eq_error ((operation.perform_run sound.slots).symm.trans failed)

end HostOperation

end

/-- The table after a sequence of operations, whether they succeed or not. -/
def BleHostStateMachine.afterAll (machine : BleHostStateMachine)
    (operations : List HostOperation) : BleHostStateMachine :=
  operations.foldl (fun table operation => operation.perform.outcome table)
    machine

theorem HostTableSound.afterAll (sound : HostTableSound machine)
    (operations : List HostOperation) :
    HostTableSound (machine.afterAll operations) := by
  induction operations generalizing machine with
  | nil => exact sound
  | cons operation rest ih => exact ih (operation.perform_sound sound)

theorem hostTableSound_new : HostTableSound (.new storedHostsMax) :=
  ⟨entriesSound_empty none, nofun⟩

theorem HostTableSound.canSend (sound : HostTableSound machine)
    (sends : machine.canSend hostId kind = true) :
    ∃ host, machine.host hostId = some host ∧ host.connected = true ∧
      host.encrypted = true ∧ host.storedReportReady.get kind = true := by
  obtain ⟨host, stored, ready⟩ := Option.any_eq_true _ _ |>.mp sends
  simp only [HostRuntimeState.canSend, Bool.and_eq_true] at ready
  obtain ⟨⟨connected, encrypted⟩, session⟩ := ready
  exact ⟨host, stored, connected, encrypted,
    sound.session host (SlotTable.mem_of_lookup stored) kind session⟩

end HidShift
