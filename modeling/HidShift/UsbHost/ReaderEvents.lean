import HidShift.Lib.Run
import HidShift.UsbHost.Steps

namespace HidShift

open Lib

def usbReaderQueueCapacity : Nat := 32

/-- The `pool_size` of `usb_interface_reader_task`. -/
def usbReaderPoolSize : Nat := 5

inductive UsbRead
  | report (data : List UInt8)
  | failed

/-- A reader that is `sending` waits for room in the queue. -/
structure UsbReader where
  deviceId : DeviceId
  interfaceId : InterfaceId
  connection : Nat
  sending : Option UsbRead

namespace UsbReader

def event (reader : UsbReader) : UsbRead → UsbReaderEvent
  | .report data => .report reader.deviceId reader.interfaceId data
  | .failed => .fatal reader.deviceId reader.interfaceId

def key (reader : UsbReader) : InterfaceId × DeviceId :=
  (reader.interfaceId, reader.deviceId)

theorem event_key (reader : UsbReader) (read : UsbRead) :
    (reader.event read).key = reader.key := by
  cases read <;> rfl

end UsbReader

/-- `connection` is that of the reader, and not part of the event. -/
structure QueuedReaderEvent where
  event : UsbReaderEvent
  connection : Nat

structure UsbReaderSystem where
  task : UsbHostTask
  queue : List QueuedReaderEvent
  readers : List UsbReader
  connections : Nat

inductive UsbSystemEvent
  | read (reader : Nat) (read : UsbRead)
  | send (reader : Nat)
  | receive (answers : List QueueAnswer) (direct : Bool)
  | host (event : UsbHostEvent)

/-- The readers that a device finds room for are those the pool has left. -/
def UsbHostEvent.withReaders (free : Nat) : UsbHostEvent → UsbHostEvent
  | .rootConnected (.hid device) =>
      .rootConnected (.hid { device with freeReaders := free })
  | .childEnumerated port device =>
      .childEnumerated port { device with freeReaders := free }
  | event => event

def UsbHostEvent.IsReader : UsbHostEvent → Bool
  | .reader .. => true
  | _ => false

namespace UsbReaderSystem

def boot : UsbReaderSystem := ⟨.boot, [], [], 0⟩

/-- The reader blocks until the event is in the queue, and ends with a failed
read. -/
def send (system : UsbReaderSystem) (index : Nat) :
    Option UsbReaderSystem := do
  let reader ← system.readers[index]?
  let read ← reader.sending
  if system.queue.length < usbReaderQueueCapacity then
    some { system with
      queue := system.queue ++ [⟨reader.event read, reader.connection⟩]
      readers := match read with
        | .report _ =>
            system.readers.set index { reader with sending := none }
        | .failed => system.readers.eraseIdx index }
  else
    none

def read (system : UsbReaderSystem) (index : Nat) (read : UsbRead) :
    Option UsbReaderSystem := do
  let reader ← system.readers[index]?
  if reader.sending.isNone then
    some { system with
      readers := system.readers.set index { reader with
        sending := some read } }
  else
    none

def receive (build : Build) (system : UsbReaderSystem)
    (answers : List QueueAnswer) (direct : Bool) :
    Option (UsbReaderSystem × List (RuntimeInput build)) :=
  match system.queue with
  | [] => none
  | next :: rest => do
      let result ← system.task.step build system.connections
        (.reader next.event answers direct)
      return ({ system with task := result.task, queue := rest }, result.sent)

def hostEvent (system : UsbReaderSystem) (event : UsbHostEvent) :
    UsbHostEvent :=
  event.withReaders (usbReaderPoolSize - system.readers.length)

def host (build : Build) (system : UsbReaderSystem) (event : UsbHostEvent) :
    Option (UsbReaderSystem × List (RuntimeInput build)) :=
  if event.IsReader then
    none
  else do
    let result ← system.task.step build system.connections
      (system.hostEvent event)
    return ({ system with
      task := result.task
      readers := system.readers ++ result.readers.map fun started =>
        ⟨started.1, started.2, system.connections, none⟩
      connections := system.connections + 1 }, result.sent)

/-- `none` where the event cannot happen. -/
def advance (build : Build) (system : UsbReaderSystem) :
    UsbSystemEvent → Option (UsbReaderSystem × List (RuntimeInput build))
  | .read index read => (system.read index read).map fun next => (next, [])
  | .send index => (system.send index).map fun next => (next, [])
  | .receive answers direct => system.receive build answers direct
  | .host event => system.host build event

end UsbReaderSystem

abbrev UsbReaderRun (build : Build) :=
  Run fun (system : UsbReaderSystem) (event : UsbSystemEvent)
      (sent : List (RuntimeInput build)) next =>
    system.advance build event = some (next, sent)

namespace UsbReaderSystem

/-- The numbers of an event on its way or of a reader that may send more, each
with the connection it belongs to. -/
def inFlight (system : UsbReaderSystem) :
    List ((InterfaceId × DeviceId) × Nat) :=
  (system.queue.map fun queued => (queued.event.key, queued.connection)) ++
    system.readers.map fun reader => (reader.key, reader.connection)

/-- The event that is received next is decoded by a session of its own
connection, and the sessions of other connections stay as they are. -/
structure StaysWithConnection (build : Build) (system : UsbReaderSystem)
    (next : QueuedReaderEvent) : Prop where
  decoded : ∀ slot, system.task.slotOf next.event = some slot →
    slot.session.connection = next.connection
  kept : ∀ answers direct result,
    system.task.step build system.connections
        (.reader next.event answers direct) = some result →
      ∀ slot ∈ system.task.activeSlots.reduceOption,
        slot.session.connection ≠ next.connection →
          slot ∈ result.task.activeSlots.reduceOption

/-- Nothing in flight has the number that a device gets now and the number of
a session that it gets. -/
def NumbersUnused (build : Build) (system : UsbReaderSystem)
    (event : UsbHostEvent) : Prop :=
  ∀ attached ∈ system.task.attachedIds build system.connections
      (system.hostEvent event),
    ∀ flight ∈ system.inFlight, flight.1.2 = attached.1 →
      flight.1.1 ∉ attached.2

instance (build : Build) (system : UsbReaderSystem) (event : UsbHostEvent) :
    Decidable (system.NumbersUnused build event) :=
  inferInstanceAs (Decidable (∀ attached ∈ system.task.attachedIds build
      system.connections (system.hostEvent event),
    ∀ flight ∈ system.inFlight, flight.1.2 = attached.1 →
      flight.1.1 ∉ attached.2))

def NoStragglers (build : Build) (system : UsbReaderSystem) :
    UsbSystemEvent → Prop
  | .host event => event.KeepsInterfaces ∧ system.NumbersUnused build event
  | _ => True

structure Sound (system : UsbReaderSystem) : Prop where
  task : system.task.Sound
  owners : ∀ flight ∈ system.inFlight,
    ∀ slot ∈ system.task.activeSlots.reduceOption,
      slot.key = flight.1 → slot.session.connection = flight.2

end UsbReaderSystem

namespace UsbHostTask

variable {build : Build} {task : UsbHostTask} {connection : Nat}
  {result : UsbHostStep build}

theorem attachedIds_fresh {event : UsbHostEvent} (sound : task.Sound)
    (attached : task.attachedIds build connection event =
      some (deviceId, ids)) :
    ∀ slot ∈ task.activeSlots.reduceOption,
      slot.session.deviceId ≠ deviceId := by
  have unlisted {usbAddress : UInt8} {route : UsbDeviceRoute}
      {slots : ActiveSlots} {device : EnumeratedDevice}
      (numbers : (task.topology.connectDevice usbAddress route).toOption.map
        (attachedNumbers build connection slots device) =
          some (deviceId, ids)) :
      deviceId ∉ task.topology.deviceIds := by
    obtain ⟨⟨fresh, topology⟩, ok, same⟩ := Option.map_eq_some_iff.mp numbers
    obtain rfl : fresh = deviceId := congrArg Prod.fst same
    cases answer : task.topology.connectDevice usbAddress route with
    | error error => simp [answer, Except.toOption] at ok
    | ok result =>
        simp only [answer, Except.toOption, Option.some.injEq] at ok
        subst ok
        exact (fresh_of_connected sound answer).2.2.2.2
  have absent : deviceId ∉ task.topology.deviceIds := by
    cases event with
    | rootConnected device =>
        cases device with
        | hid device =>
            simp only [attachedIds] at attached
            split at attached
            · exact unlisted attached
            · cases attached
        | _ => simp [attachedIds] at attached
    | childEnumerated port device =>
        simp only [attachedIds] at attached
        split at attached
        · split at attached
          · cases attached
          · exact unlisted attached
        · cases attached
    | _ => simp [attachedIds] at attached
  rintro slot member rfl
  exact absent (sound.tables.device_known member)

end UsbHostTask

namespace UsbReaderSystem

variable {build : Build} {system : UsbReaderSystem}

variable {next : QueuedReaderEvent}

theorem mem_inFlight_of_queued (queued : next ∈ system.queue) :
    (next.event.key, next.connection) ∈ system.inFlight :=
  List.mem_append_left _ (List.mem_map_of_mem
    (f := fun queued => (queued.event.key, queued.connection)) queued)

theorem Sound.decoded (sound : system.Sound) (queued : next ∈ system.queue)
    (found : system.task.slotOf next.event = some slot) :
    slot.session.connection = next.connection :=
  sound.owners _ (mem_inFlight_of_queued queued) slot
    (SlotTable.mem_of_lookup found) (UsbHostTask.key_of_slotOf found)

structure Received (task : UsbHostTask) (key : InterfaceId × DeviceId)
    (result : UsbHostTask) : Prop where
  sound : result.Sound
  earlier : ∀ slot ∈ result.activeSlots.reduceOption,
    ∃ before ∈ task.activeSlots.reduceOption, before.SameSession slot
  kept : ∀ slot ∈ task.activeSlots.reduceOption, slot.key ≠ key →
    slot ∈ result.activeSlots.reduceOption

theorem received {task : UsbHostTask} (sound : task.Sound)
    (ran : task.step build connection (.reader event answers direct) =
      some result) :
    Received task event.key result.task := by
  cases event with
  | fatal deviceId interfaceId =>
      obtain ⟨soundAfter, moved⟩ := @UsbHostTask.step_moved build task
        connection (.reader (.fatal deviceId interfaceId) answers direct)
        result sound trivial id ran
      refine ⟨soundAfter, fun slot member => ?_, fun slot member differs =>
        (moved.kept slot member differs).1⟩
      rcases moved.sessions slot member with ⟨old, _⟩ | ⟨⟨_, new, _⟩, _⟩
      · exact ⟨slot, old, rfl, rfl⟩
      · cases new
  | report deviceId interfaceId data =>
      rcases UsbHostTask.step_report ran with ⟨_, rfl⟩ |
        ⟨slot, index, next, decoded, found, located, handled, rfl⟩
      · exact ⟨sound, fun slot member => ⟨slot, member, rfl, rfl⟩,
          fun _ member _ => member⟩
      · have same := ActiveUsbInterfaceSlot.handleReport_session handled
        have member := SlotTable.mem_of_lookup found
        refine ⟨sound.replace located member same _, fun other here => ?_,
          fun other old differs => ?_⟩
        · rcases SlotTable.mem_replace located here with rfl | old
          · exact ⟨slot, member, same⟩
          · exact ⟨other, old, rfl, rfl⟩
        · apply SlotTable.mem_replace_of_ne located old
          rwa [UsbHostTask.key_of_slotOf found]

theorem Sound.staysWithConnection (sound : system.Sound)
    (queue : system.queue = next :: rest) :
    StaysWithConnection build system next := by
  have queued : next ∈ system.queue := by
    rw [queue]
    exact List.mem_cons_self
  refine ⟨fun slot => sound.decoded queued, ?_⟩
  intro answers direct result ran slot member foreign
  apply (received sound.task ran).kept slot member
  intro here
  exact foreign (sound.owners _ (mem_inFlight_of_queued queued) slot member
    here)

theorem Sound.fewer {next : UsbReaderSystem} (sound : system.Sound)
    (task : next.task.Sound)
    (sessions : ∀ slot ∈ next.task.activeSlots.reduceOption,
      ∃ before ∈ system.task.activeSlots.reduceOption, before.SameSession slot)
    (flights : ∀ flight ∈ next.inFlight, flight ∈ system.inFlight) :
    next.Sound := by
  refine ⟨task, fun flight member slot here keyed => ?_⟩
  obtain ⟨before, old, same⟩ := sessions slot here
  rw [same.2]
  exact sound.owners flight (flights flight member) before old
    (same.key.symm.trans keyed)

section

variable (sound : system.Sound) {next : UsbReaderSystem}

include sound

theorem Sound.read
    (ran : system.read index outcome = some next) : next.Sound := by
  obtain ⟨reader, listed, guarded⟩ := Option.bind_eq_some_iff.mp ran
  split at guarded
  · cases guarded
    refine sound.fewer sound.task (fun slot here => ⟨slot, here, rfl, rfl⟩) ?_
    intro flight member
    rcases List.mem_append.mp member with queued | alive
    · exact List.mem_append_left _ queued
    · obtain ⟨other, position, rfl⟩ := List.mem_map.mp alive
      refine List.mem_append_right _ ?_
      rcases List.mem_or_eq_of_mem_set position with old | rfl
      · exact List.mem_map_of_mem old
      · exact List.mem_map.mpr ⟨reader, List.mem_of_getElem? listed, rfl⟩
  · cases guarded

theorem Sound.send (ran : system.send index = some next) : next.Sound := by
  obtain ⟨reader, listed, reads⟩ := Option.bind_eq_some_iff.mp ran
  obtain ⟨outcome, sending, guarded⟩ := Option.bind_eq_some_iff.mp reads
  have alive : (reader.key, reader.connection) ∈ system.inFlight :=
    List.mem_append_right _ (List.mem_map.mpr
      ⟨reader, List.mem_of_getElem? listed, rfl⟩)
  split at guarded
  · cases guarded
    refine sound.fewer sound.task (fun slot here => ⟨slot, here, rfl, rfl⟩) ?_
    intro flight member
    simp only [inFlight, List.map_append, List.map_cons, List.map_nil,
      List.mem_append, List.mem_singleton] at member
    rcases member with (queued | rfl) | others
    · exact List.mem_append_left _ queued
    · rw [reader.event_key]
      exact alive
    · obtain ⟨other, here, rfl⟩ := List.mem_map.mp others
      cases outcome with
      | report data =>
          rcases List.mem_or_eq_of_mem_set here with old | rfl
          · exact List.mem_append_right _ (List.mem_map_of_mem old)
          · exact alive
      | failed =>
          exact List.mem_append_right _ (List.mem_map_of_mem
            ((List.eraseIdx_sublist _ _).subset here))
  · cases guarded

theorem Sound.receive
    (ran : system.receive build answers direct = some (next, sent)) :
    next.Sound := by
  simp only [UsbReaderSystem.receive] at ran
  cases queue : system.queue with
  | nil => simp [queue] at ran
  | cons first rest =>
      rw [queue] at ran
      obtain ⟨result, stepped, same⟩ := Option.bind_eq_some_iff.mp ran
      cases same
      have received := received sound.task stepped
      refine sound.fewer received.sound received.earlier fun flight member => ?_
      rcases List.mem_append.mp member with queued | alive
      · refine List.mem_append_left _ ?_
        rw [queue]
        exact List.mem_cons_of_mem _ queued
      · exact List.mem_append_right _ alive

end

end UsbReaderSystem

namespace UsbHostEvent

variable {free : Nat} {event : UsbHostEvent}

theorem keepsInterfaces_withReaders :
    (event.withReaders free).KeepsInterfaces ↔ event.KeepsInterfaces := by
  cases event with
  | rootConnected device => cases device <;> rfl
  | _ => rfl

theorem not_isReport_withReaders (host : event.IsReader = false) :
    ¬ (event.withReaders free).IsReport := by
  cases event with
  | rootConnected device => cases device <;> exact id
  | reader event answers direct => cases host
  | _ => exact id

end UsbHostEvent

namespace UsbReaderSystem

variable {build : Build} {system : UsbReaderSystem}

theorem Sound.host (sound : system.Sound)
    (apart : system.NoStragglers build (.host event))
    (ran : system.host build event = some (next, sent)) : next.Sound := by
  simp only [UsbReaderSystem.host] at ran
  split at ran
  · cases ran
  · rename_i isHost
    rw [Bool.not_eq_true] at isHost
    obtain ⟨result, stepped, same⟩ := Option.bind_eq_some_iff.mp ran
    cases same
    obtain ⟨soundAfter, moved⟩ := UsbHostTask.step_moved sound.task
      (UsbHostEvent.keepsInterfaces_withReaders.mpr apart.1)
      (UsbHostEvent.not_isReport_withReaders isHost) stepped
    refine ⟨soundAfter, fun flight member slot here keyed => ?_⟩
    have old (known : flight ∈ system.inFlight) :
        slot.session.connection = flight.2 := by
      rcases moved.sessions slot here with ⟨before, _⟩ |
        ⟨⟨ids, attached, given⟩, _⟩
      · exact sound.owners flight known slot before keyed
      · have unused := apart.2 _ attached flight known
        rw [← keyed] at unused
        exact absurd given (unused rfl)
    simp only [inFlight, List.map_append, List.map_map,
      List.mem_append] at member
    rcases member with queued | earlier | started
    · exact old (List.mem_append_left _ queued)
    · exact old (List.mem_append_right _ earlier)
    · obtain ⟨reader, new, rfl⟩ := List.mem_map.mp started
      obtain ⟨ids, attached⟩ := moved.readers reader new
      have device : slot.session.deviceId = reader.1 :=
        (Prod.mk.inj keyed).2
      rcases moved.sessions slot here with ⟨before, _⟩ | ⟨_, current⟩
      · exact absurd device
          (UsbHostTask.attachedIds_fresh sound.task attached slot before)
      · exact current

theorem sound_boot : boot.Sound where
  task := UsbHostTask.sound_boot
  owners _ member := (List.not_mem_nil member).elim

theorem Sound.advance (sound : system.Sound)
    (apart : system.NoStragglers build event)
    (ran : system.advance build event = some (next, sent)) : next.Sound := by
  cases event with
  | read index outcome =>
      obtain ⟨middle, reads, same⟩ := Option.map_eq_some_iff.mp ran
      cases same
      exact sound.read reads
  | send index =>
      obtain ⟨middle, sends, same⟩ := Option.map_eq_some_iff.mp ran
      cases same
      exact sound.send sends
  | receive answers direct => exact sound.receive ran
  | host event => exact sound.host apart ran

theorem sound_run (run : UsbReaderRun build boot history finish)
    (apart : ∀ taken ∈ history, taken.before.NoStragglers build taken.event) :
    finish.Sound :=
  run.invariant Sound sound_boot fun taken member stepped sound =>
    sound.advance (apart taken member) stepped

def singleInterface : EnumeratedDevice where
  usbAddress := 1
  identity := ⟨1, 1, 1⟩
  name := .empty
  interfaces := some [⟨0, 0x81, .ready (.new false) none 0⟩]
  freeReaders := 0

/-- The device is unplugged, its reader fails, the next device is plugged
in. -/
def lateFailure : List UsbSystemEvent :=
  [.host (.rootConnected (.hid singleInterface)), .host .rootDisconnected,
    .read 0 .failed, .send 0,
    .host (.rootConnected (.hid singleInterface))]

def confuses (system : UsbReaderSystem) : Bool :=
  system.queue.head?.any fun next =>
    (system.task.step .single system.connections
        (.reader next.event [] false)).any fun result =>
      system.task.activeSlots.reduceOption.any fun slot =>
        slot.session.connection ≠ next.connection &&
          slot ∉ result.task.activeSlots.reduceOption

theorem not_stays_of_confuses (confuses : system.confuses = true) :
    ∃ next rest, system.queue = next :: rest ∧
      ¬ StaysWithConnection .single system next := by
  simp only [UsbReaderSystem.confuses, Option.any_eq_true, List.any_eq_true,
    Bool.and_eq_true, decide_eq_true_eq] at confuses
  obtain ⟨next, first, result, stepped, slot, member, foreign, gone⟩ :=
    confuses
  obtain ⟨rest, queue⟩ := List.head?_eq_some_iff.mp first
  refine ⟨next, rest, queue, fun stays => gone ?_⟩
  exact stays.kept [] false result stepped slot member foreign

theorem late_failure_removes_the_next_device :
    ∃ history finish next rest,
      UsbReaderRun .single boot history finish ∧
        finish.queue = next :: rest ∧
          ¬ StaysWithConnection .single finish next := by
  have reached : ((Run.attempt (advance .single) boot lateFailure).any
      fun reached => reached.1.confuses) = true := by
    decide +kernel
  obtain ⟨⟨finish, outputs⟩, found, confused⟩ :=
    (Option.any_eq_true _ _).mp reached
  obtain ⟨history, run, _⟩ := Run.of_attempt _ found
  obtain ⟨next, rest, queue, mistaken⟩ := not_stays_of_confuses confused
  exact ⟨history, finish, next, rest, run, queue, mistaken⟩

/-- In every run in which no session gets the numbers of a reader that is still
there, or of an event still on its way, each event stays with its
connection. -/
theorem reader_events_stay_with_their_connection
    {history : List (Transition UsbReaderSystem UsbSystemEvent
      (List (RuntimeInput build)))} {finish : UsbReaderSystem}
    (run : UsbReaderRun build boot history finish)
    (apart : ∀ taken ∈ history, taken.before.NoStragglers build taken.event) :
    ∀ next rest, finish.queue = next :: rest →
      StaysWithConnection build finish next :=
  fun _ _ queue => (sound_run run apart).staysWithConnection queue

theorem singleInterface_keeps (usbAddress : UInt8) :
    EnumeratedDevice.KeepsInterfaces { singleInterface with usbAddress } := by
  simp [EnumeratedDevice.KeepsInterfaces, singleInterface]

/-- One of two devices behind a hub is unplugged and its failed read received,
then the next device gets its numbers, with a report of the other on its
way. -/
def replugged : List UsbSystemEvent :=
  [.host (.rootConnected (.hub 2 true)),
    .host (.childEnumerated 0 singleInterface),
    .host (.childEnumerated 1 { singleInterface with usbAddress := 3 }),
    .host (.childRemoved 0), .read 0 .failed, .read 1 (.report [0]), .send 0,
    .send 0, .receive [] false,
    .host (.childEnumerated 0 singleInterface), .read 1 (.report [0]),
    .send 1]

def numbersUnused (system : UsbReaderSystem) : UsbSystemEvent → Bool
  | .host event => system.NumbersUnused .single event
  | _ => true

theorem reader_events_stay_of_replugged :
    ∃ history finish, UsbReaderRun .single boot history finish ∧
      finish.queue.map QueuedReaderEvent.event =
        [.report ⟨3⟩ ⟨2⟩ [0], .report ⟨2⟩ ⟨1⟩ [0]] ∧
        ∀ next rest, finish.queue = next :: rest →
          StaysWithConnection .single finish next := by
  have reached : ((Run.attempt (Run.checked (advance .single) numbersUnused)
      boot replugged).any fun reached =>
        reached.1.queue.map QueuedReaderEvent.event =
          [.report ⟨3⟩ ⟨2⟩ [0], .report ⟨2⟩ ⟨1⟩ [0]]) = true := by
    decide +kernel
  obtain ⟨⟨finish, outputs⟩, found, queued⟩ :=
    (Option.any_eq_true _ _).mp reached
  obtain ⟨history, run, events, _, checked⟩ :=
    Run.of_attempt_checked _ _ found
  refine ⟨history, finish, run, of_decide_eq_true queued,
    reader_events_stay_with_their_connection run fun taken member => ?_⟩
  have listed := List.mem_map_of_mem (f := Transition.event) member
  have unused := checked taken member
  rw [events] at listed
  cases happened : taken.event with
  | host event =>
      rw [happened] at listed unused
      refine ⟨?_, of_decide_eq_true unused⟩
      simp only [replugged, List.mem_cons, UsbSystemEvent.host.injEq,
        reduceCtorEq, List.not_mem_nil, or_false, false_or] at listed
      rcases listed with rfl | rfl | rfl | rfl | rfl
      · trivial
      · exact singleInterface_keeps 1
      · exact singleInterface_keeps 3
      · trivial
      · exact singleInterface_keeps 1
  | _ => trivial

end UsbReaderSystem

end HidShift
