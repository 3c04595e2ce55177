import HidShift.UsbHost.Attach

namespace HidShift

open Lib

section

variable {build : Build}

def closes (closed : InterfaceId → Bool) :
    RuntimeInput build → InterfaceId → Bool
  | .usbHidInterfaceConnected connected _ _, interfaceId =>
      if interfaceId = connected then false else closed interfaceId
  | .usbHidInterfaceDisconnected disconnected, interfaceId =>
      if interfaceId = disconnected then true else closed interfaceId
  | _, interfaceId => closed interfaceId

def closedAfter (closed : InterfaceId → Bool)
    (messages : List (RuntimeInput build)) : InterfaceId → Bool :=
  messages.foldl closes closed

def inputOf : RuntimeInput build → Option StandardInputFrame
  | .bridgeEvent (.inputFrame (.standard frame)) => some frame
  | _ => none

theorem closedAfter_append (closed : InterfaceId → Bool)
    (first second : List (RuntimeInput build)) :
    closedAfter closed (first ++ second) =
      closedAfter (closedAfter closed first) second :=
  List.foldl_append

theorem closedAfter_disconnected (closed : InterfaceId → Bool)
    (disconnected : List InterfaceId) (interfaceId : InterfaceId) :
    closedAfter closed
        (disconnectedMessages disconnected : List (RuntimeInput build))
        interfaceId = true ↔
      closed interfaceId = true ∨ interfaceId ∈ disconnected := by
  induction disconnected generalizing closed with
  | nil => simp [closedAfter, disconnectedMessages]
  | cons head rest ih =>
      have first := ih (closes closed
        (.usbHidInterfaceDisconnected head : RuntimeInput build))
      rw [disconnectedMessages, List.map_cons, closedAfter, List.foldl_cons]
      refine first.trans ?_
      simp only [closes, List.mem_cons]
      by_cases here : interfaceId = head
      · simp [here]
      · simp [here]

/-- The messages bring no input, and after them the runtime takes every
session that is there for connected. -/
structure Announced (before after : ActiveSlots)
    (sent : List (RuntimeInput build)) : Prop where
  quiet : ∀ message ∈ sent, inputOf message = none
  connected : ∀ closed : InterfaceId → Bool,
    (∀ slot ∈ before.reduceOption, closed slot.interfaceId = false) →
      ∀ slot ∈ after.reduceOption,
        closedAfter closed sent slot.interfaceId = false

theorem Announced.nothing
    (fewer : ∀ slot ∈ after.reduceOption, slot ∈ before.reduceOption) :
    Announced before after ([] : List (RuntimeInput build)) :=
  ⟨fun _ member => (List.not_mem_nil member).elim,
    fun _ connected slot member => connected slot (fewer slot member)⟩

theorem Announced.append {before middle after : ActiveSlots}
    {first second : List (RuntimeInput build)}
    (earlier : Announced before middle first)
    (later : Announced middle after second) :
    Announced before after (first ++ second) where
  quiet message member := by
    rcases List.mem_append.mp member with old | new
    · exact earlier.quiet message old
    · exact later.quiet message new
  connected closed connected slot member := by
    rw [closedAfter_append]
    exact later.connected _ (earlier.connected closed connected) slot member

theorem Announced.report {slots : ActiveSlots} {message : RuntimeInput build}
    (quiet : inputOf message = none)
    (neutral : ∀ closed : InterfaceId → Bool, closes closed message = closed) :
    Announced slots slots [message] where
  quiet other member := by rw [List.mem_singleton.mp member, quiet]
  connected closed connected := by
    rw [closedAfter, List.foldl_cons, neutral]
    exact connected

theorem Detached.announced {disconnected : List InterfaceId}
    (detached : Detached before gone after disconnected)
    (together : ∀ slot ∈ before.reduceOption, ∀ other ∈ before.reduceOption,
      slot.interfaceId = other.interfaceId → gone slot → gone other) :
    Announced before after
      (disconnectedMessages disconnected : List (RuntimeInput build)) where
  quiet message member := by
    obtain ⟨interfaceId, _, rfl⟩ := List.mem_map.mp member
    rfl
  connected closed connected slot member := by
    obtain ⟨earlier, stays⟩ := (detached.kept slot).mp member
    rw [← Bool.not_eq_true, closedAfter_disconnected, not_or]
    refine ⟨by simp [connected slot earlier], ?_⟩
    rw [detached.disconnected]
    rintro ⟨other, otherMember, wasGone, same⟩
    exact stays (together other otherMember slot earlier same wasGone)

theorem sourceDisconnected_announced (deviceId : DeviceId)
    (slots : ActiveSlots) :
    Announced slots slots (sourceDisconnected build deviceId) := by
  cases build with
  | single => exact .nothing fun _ member => member
  | dual => exact .report rfl fun _ => rfl

theorem attachHidInterface_announced
    (earlier : Announced slots attaching.activeSlots attaching.sent) :
    (∀ next, attachHidInterface device deviceId connection attaching probe =
        .ok next → Announced slots next.activeSlots next.sent) ∧
    (∀ next, attachHidInterface device deviceId connection attaching probe =
        .error next → Announced slots next.activeSlots next.sent) := by
  simp only [attachHidInterface]
  cases free : SlotTable.freeIndex? attaching.activeSlots with
  | none =>
      refine ⟨fun next same => ?_, fun next same => (by cases same)⟩
      cases same
      exact earlier
  | some index =>
      simp only
      cases registers : attaching.topology.registerInterface deviceId
          probe.interfaceNumber with
      | error error =>
          refine ⟨fun next same => (by cases same), fun next same => ?_⟩
          cases same
          exact earlier
      | ok result =>
          obtain ⟨interfaceId, extended⟩ := result
          simp only
          cases outcome : probe.outcome with
          | failed =>
              refine ⟨fun next same => (by cases same), fun next same => ?_⟩
              cases same
              exact earlier
          | noPipe =>
              simp only
              cases undone : extended.removeInterface interfaceId <;>
                refine ⟨fun next same => ?_,
                  fun next same => (by cases same)⟩ <;>
                cases same <;> exact earlier
          | ready descriptor ledOutput flags =>
              refine ⟨fun next same => ?_, fun next same => (by cases same)⟩
              cases same
              refine earlier.append ⟨?_, ?_⟩
              · simp [inputOf]
              · intro closed connected slot member
                simp only [closedAfter, List.foldl_cons, List.foldl_nil, closes]
                rcases (SlotTable.mem_fill free).mp member with rfl | old
                · exact if_pos rfl
                · split
                  · rfl
                  · exact connected slot old

theorem attachHidInterfacesForDevice_announced (device : EnumeratedDevice)
    (deviceId : DeviceId) (connection : Nat)
    (topology : DefaultUsbTopologyManager) (slots : ActiveSlots) :
    Announced slots
      (attachHidInterfacesForDevice build device deviceId connection topology
        slots).1.activeSlots
      (attachHidInterfacesForDevice build device deviceId connection topology
        slots).1.sent := by
  have begun : Announced slots slots ([] : List (RuntimeInput build)) :=
    .nothing fun _ member => member
  simp only [attachHidInterfacesForDevice]
  cases device.interfaces.getD [] with
  | nil => exact begun
  | cons first rest =>
      simp only
      obtain ⟨finishes, fails⟩ := @foldlM_keeps _ _ _
        (@attachHidInterface build device deviceId connection)
        (fun _ attaching =>
          Announced slots attaching.activeSlots attaching.sent)
        (fun attaching => Announced slots attaching.activeSlots attaching.sent)
        (first :: rest) ⟨topology, slots, [], []⟩ begun
        fun _ _ _ _ _ earlier => attachHidInterface_announced earlier
      cases ran : (first :: rest).foldlM
          (attachHidInterface device deviceId connection)
          (⟨topology, slots, [], []⟩ : Attaching build) with
      | error attaching => exact fails attaching ran
      | ok attaching => exact finishes attaching ran

end

namespace UsbTopologyManager

def deviceIds (topology : DefaultUsbTopologyManager) : List DeviceId :=
  topology.devices.map UsbDeviceTopologyEntry.deviceId

end UsbTopologyManager

/-- The devices are those of the session: a root, and behind a hub what hangs
from it.  A hub has no session of its own. -/
def PhaseTree (topology : DefaultUsbTopologyManager) : UsbHostPhase → Prop
  | .waiting => topology.devices = []
  | .device root => root ∈ topology.deviceIds ∧
      ∀ entry ∈ topology.devices, entry.deviceId = root
  | .hub root ports => root ∈ topology.deviceIds ∧
      (∀ entry ∈ topology.devices,
        entry.deviceId = root ∧ entry.route = .direct ∨
          entry.deviceId ≠ root ∧ ∃ port, entry.route = .downstream root port) ∧
      (∀ entry ∈ topology.interfaces, entry.deviceId ≠ root) ∧
      ∀ child, some child ∈ ports → child ≠ root

namespace UsbHostPhase

def root : UsbHostPhase → Option DeviceId
  | .waiting => none
  | .device root => some root
  | .hub root _ => some root

end UsbHostPhase

structure UsbHostTask.Sound (task : UsbHostTask) : Prop where
  tables : SlotsRegistered task.topology task.activeSlots
  tree : PhaseTree task.topology task.phase
  length : task.activeSlots.length = maxActiveUsbInterfaces

namespace DeviceRemoved

variable {task next : UsbHostTask} {deviceId : DeviceId}
  {gone : DeviceId → Prop} {disconnected : List InterfaceId}
  {phase : UsbHostPhase}

section

variable (removed : DeviceRemoved task next deviceId gone disconnected)

include removed

theorem all_gone (tree : PhaseTree task.topology phase)
    (isRoot : phase.root = some deviceId) : next.topology.devices = [] := by
  apply List.eq_nil_iff_forall_not_mem.mpr
  intro entry left
  obtain ⟨listed, stays⟩ := (removed.devices entry).mp left
  cases phase with
  | waiting => cases isRoot
  | device root =>
      cases isRoot
      rw [tree.2 entry listed] at stays
      exact stays removed.device
  | hub root ports =>
      cases isRoot
      rcases tree.2.1 entry listed with ⟨here, _⟩ | ⟨_, port, route⟩
      · rw [here] at stays
        exact stays removed.device
      · exact removed.complete tree.1 entry left _ _ route removed.device

theorem only_child (tree : PhaseTree task.topology (.hub root ports))
    (isChild : deviceId ≠ root) :
    ∀ entry ∈ task.topology.devices, gone entry.deviceId →
      entry.deviceId = deviceId := by
  obtain ⟨known, shape, _⟩ := tree
  have rootStays : ¬ gone root := by
    intro gone
    obtain ⟨entry, listed, rfl⟩ := List.mem_map.mp known
    rcases removed.hangs entry listed gone with here | ⟨hub, port, route, _⟩
    · exact isChild here.symm
    · rcases shape entry listed with ⟨_, direct⟩ | ⟨other, _⟩
      · rw [direct] at route
        cases route
      · exact other rfl
  intro entry listed wasGone
  rcases removed.hangs entry listed wasGone with here | ⟨hub, port, route, up⟩
  · exact here
  · rcases shape entry listed with ⟨here, _⟩ | ⟨_, port', behind⟩
    · rw [here] at wasGone
      exact (rootStays wasGone).elim
    · rw [behind] at route
      cases route
      exact (rootStays up).elim

theorem tree_left (tree : PhaseTree task.topology (.hub root ports))
    (isChild : deviceId ≠ root)
    (fewer : ∀ child, some child ∈ ports' → some child ∈ ports) :
    PhaseTree next.topology (.hub root ports') := by
  have only := removed.only_child tree isChild
  obtain ⟨known, shape, interfaces, children⟩ := tree
  refine ⟨?_, ?_, ?_, fun child member => children child (fewer child member)⟩
  · obtain ⟨entry, listed, rfl⟩ := List.mem_map.mp known
    refine List.mem_map_of_mem ((removed.devices entry).mpr ⟨listed, ?_⟩)
    exact fun wasGone => isChild (only entry listed wasGone).symm
  · exact fun entry left => shape entry ((removed.devices entry).mp left).1
  · exact fun entry left =>
      interfaces entry ((removed.interfaces entry).mp left).1

end

end DeviceRemoved

theorem InterfaceRemoved.tree
    (removed : InterfaceRemoved task next interfaceId disconnected)
    {phase : UsbHostPhase} (tree : PhaseTree task.topology phase) :
    PhaseTree next.topology phase := by
  cases phase with
  | waiting => exact removed.devices.trans tree
  | device root =>
      simp only [PhaseTree, UsbTopologyManager.deviceIds] at tree ⊢
      rw [removed.devices]
      exact tree
  | hub root ports =>
      simp only [PhaseTree, UsbTopologyManager.deviceIds] at tree ⊢
      rw [removed.devices]
      exact ⟨tree.1, tree.2.1, fun entry listed =>
        tree.2.2.1 entry ((removed.interfaces entry).mp listed).1, tree.2.2.2⟩

/-- The sessions that are gone went, those of the fresh device came, and the
runtime was told. -/
structure Moved {build : Build} (task : UsbHostTask)
    (step : UsbHostStep build) (gone : ActiveUsbInterfaceSlot → Prop)
    (fresh : Option (DeviceId × List InterfaceId)) (connection : Nat) :
    Prop where
  sessions : ∀ slot ∈ step.task.activeSlots.reduceOption,
    slot ∈ task.activeSlots.reduceOption ∧ ¬ gone slot ∨
      (∃ ids, fresh = some (slot.session.deviceId, ids) ∧
        slot.interfaceId ∈ ids) ∧ slot.session.connection = connection
  kept : ∀ slot ∈ task.activeSlots.reduceOption, ¬ gone slot →
    slot ∈ step.task.activeSlots.reduceOption ∧
      SlotTable.lookup ActiveUsbInterfaceSlot.key step.task.activeSlots
          slot.key =
        SlotTable.lookup ActiveUsbInterfaceSlot.key task.activeSlots slot.key
  queue : step.task.movementQueue = task.movementQueue
  announced : Announced task.activeSlots step.task.activeSlots step.sent
  readers : ∀ reader ∈ step.readers, ∃ ids, fresh = some (reader.1, ids)

theorem Moved.nothing (task : UsbHostTask) (connection : Nat)
    (sent : List (RuntimeInput build))
    (announced : Announced task.activeSlots task.activeSlots sent) :
    Moved task ⟨task, sent, []⟩ (fun _ => False) none connection :=
  ⟨fun _ member => .inl ⟨member, id⟩, fun _ member _ => ⟨member, rfl⟩, rfl,
    announced, fun _ member => (List.not_mem_nil member).elim⟩

theorem Moved.congr (moved : Moved task step gone fresh connection)
    (same : ∀ slot ∈ task.activeSlots.reduceOption, gone slot ↔ gone' slot) :
    Moved task step gone' fresh connection where
  sessions slot member :=
    (moved.sessions slot member).imp_left fun ⟨old, stays⟩ =>
      ⟨old, fun wasGone => stays ((same slot old).mpr wasGone)⟩
  kept slot member stays := moved.kept slot member fun wasGone =>
    stays ((same slot member).mp wasGone)
  queue := moved.queue
  announced := moved.announced
  readers := moved.readers

theorem Moved.then
    (earlier : Moved task ⟨middle, first, []⟩ gone none connection)
    (later : Moved middle ⟨next, second, []⟩ (fun _ => False) none connection) :
    Moved task ⟨next, first ++ second, []⟩ gone none connection where
  sessions slot member := by
    rcases later.sessions slot member with ⟨old, _⟩ | ⟨new, _⟩
    · exact earlier.sessions slot old
    · obtain ⟨_, new, _⟩ := new
      cases new
  kept slot member stays := by
    obtain ⟨here, same⟩ := earlier.kept slot member stays
    obtain ⟨still, same'⟩ := later.kept slot here id
    exact ⟨still, same'.trans same⟩
  queue := later.queue.trans earlier.queue
  announced := earlier.announced.append later.announced
  readers _ member := (List.not_mem_nil member).elim

theorem reduceOption_clear (slots : ActiveSlots) :
    (slots.map fun _ => (none : Option ActiveUsbInterfaceSlot)).reduceOption =
      [] := by
  induction slots with
  | nil => rfl
  | cons slot rest ih => exact ih

theorem Moved.of_cleared (topology : DefaultUsbTopologyManager)
    (none : task.activeSlots.reduceOption = [])
    (moved : Moved { task with
      topology, activeSlots := task.activeSlots.map fun _ => Option.none }
      step gone fresh connection) :
    Moved task step gone fresh connection where
  sessions slot member := by
    rcases moved.sessions slot member with ⟨old, _⟩ | new
    · simp only at old
      rw [reduceOption_clear] at old
      cases old
    · exact .inr new
  kept slot member := by
    rw [none] at member
    cases member
  queue := moved.queue
  announced := ⟨moved.announced.quiet, fun closed _ =>
    moved.announced.connected closed fun slot member => by
      simp only at member
      rw [reduceOption_clear] at member
      cases member⟩
  readers := moved.readers

namespace DeviceRemoved

variable {build : Build} {task next : UsbHostTask} {deviceId : DeviceId}
  {gone : DeviceId → Prop} {disconnected : List InterfaceId}

theorem announced (removed : DeviceRemoved task next deviceId gone disconnected)
    (tables : SlotsRegistered task.topology task.activeSlots) :
    Announced task.activeSlots next.activeSlots
      (sourceDisconnected build deviceId ++
        disconnectedMessages disconnected) := by
  apply (sourceDisconnected_announced deviceId task.activeSlots).append
  apply removed.slots.announced
  intro slot member other otherMember same wasGone
  rwa [← tables.same_device member otherMember same]

theorem moved (build : Build)
    (removed : DeviceRemoved task next deviceId gone disconnected)
    (tables : SlotsRegistered task.topology task.activeSlots)
    (gone' : ActiveUsbInterfaceSlot → Prop)
    (same : ∀ slot ∈ task.activeSlots.reduceOption,
      gone slot.session.deviceId ↔ gone' slot)
    (phase : UsbHostPhase) (connection : Nat) :
    Moved task ⟨{ next with phase }, sourceDisconnected build deviceId ++
      disconnectedMessages disconnected, []⟩ gone' none connection where
  sessions slot member := by
    obtain ⟨earlier, stays⟩ := (removed.slots.kept slot).mp member
    exact .inl ⟨earlier, fun wasGone =>
      stays ((same slot earlier).mpr wasGone)⟩
  kept slot member stays := by
    have stays' : ¬ gone slot.session.deviceId := fun wasGone =>
      stays ((same slot member).mp wasGone)
    exact ⟨(removed.slots.kept slot).mpr ⟨member, stays'⟩,
      removed.slots.lookup slot member stays'⟩
  queue := removed.queue
  announced := removed.announced tables
  readers _ member := (List.not_mem_nil member).elim

theorem gone_of_unlisted
    (removed : DeviceRemoved task next deviceId gone disconnected)
    (tables : SlotsRegistered task.topology task.activeSlots)
    (nothing : next.topology.devices = []) :
    ∀ slot ∈ task.activeSlots.reduceOption, gone slot.session.deviceId := by
  intro slot member
  obtain ⟨entry, listed, same⟩ :=
    List.mem_map.mp (tables.device_known member)
  by_cases stays : gone entry.deviceId
  · rwa [← same]
  · have left := (removed.devices entry).mpr ⟨listed, stays⟩
    rw [nothing] at left
    cases left

end DeviceRemoved

end HidShift
