import HidShift.Lib.Run
import HidShift.UsbHost.Movement
import HidShift.UsbHost.Steps

namespace HidShift

open Lib
open Lib.Checked (run_bind_ok run_mapError_ok)

namespace UsbHidInterfaceRuntimeSession

variable {session : UsbHidInterfaceRuntimeSession}

theorem inputMessage_ids {report : UsbHidInputReport}
    (decoded : (session.inputMessage report).run = some (.ok frame)) :
    frame.deviceId = session.deviceId ∧
      frame.interfaceId = session.interfaceId := by
  simp only [inputMessage] at decoded
  split at decoded
  · cases decoded
  · split at decoded
    · cases decoded
    · have decodes := run_mapError_ok.mp decoded
      simp only [decodeStandardInputFrame] at decodes
      obtain ⟨_, _, decodes⟩ := run_bind_ok decodes
      obtain ⟨events, _, decodes⟩ := run_bind_ok decodes
      obtain ⟨plain, built, decodes⟩ := run_bind_ok decodes
      have builds := run_mapError_ok.mp built
      have same : plain.withDomains _ = frame :=
        Except.ok.inj (Option.some.inj decodes)
      rw [← same]
      have made := Option.some.inj builds
      obtain ⟨parts, _, made⟩ := bind_eq_ok.mp made
      rw [← Except.ok.inj made]
      exact ⟨rfl, rfl⟩

end UsbHidInterfaceRuntimeSession

namespace ActiveUsbInterfaceSlot

variable {slot next : ActiveUsbInterfaceSlot} {report : List UInt8}

theorem decodeReport_frame (decoded : slot.decodeReport report =
      some (next, some frame, movementOnly)) :
    frame.deviceId = slot.session.deviceId ∧
      frame.interfaceId = slot.session.interfaceId ∧
      (movementOnly, next.lastMouseButtons) =
        movementOnlyFrame frame slot.lastMouseButtons := by
  simp only [decodeReport] at decoded
  cases ran : (Checked.result (slot.session.captureInputReport report) >>=
      slot.session.inputMessage).run with
  | none => simp [ran] at decoded
  | some outcome =>
      cases outcome with
      | error error => simp [ran] at decoded
      | ok frame' =>
          simp only [ran, Option.some.injEq, Prod.mk.injEq] at decoded
          obtain ⟨rfl, rfl, rfl⟩ := decoded
          obtain ⟨report', _, decodes⟩ := run_bind_ok ran
          obtain ⟨device, interface⟩ :=
            UsbHidInterfaceRuntimeSession.inputMessage_ids decodes
          exact ⟨device, interface, rfl⟩

theorem decodeReport_rejected
    (decoded : slot.decodeReport report = some (next, none, movementOnly)) :
    next = slot := by
  simp only [decodeReport] at decoded
  cases ran : (Checked.result (slot.session.captureInputReport report) >>=
      slot.session.inputMessage).run with
  | none => simp [ran] at decoded
  | some outcome =>
      cases outcome with
      | error error =>
          simp only [ran, Option.some.injEq, Prod.mk.injEq] at decoded
          exact decoded.1.symm
      | ok frame' => simp [ran] at decoded

theorem decodeReport_movesOnly
    (decoded : slot.decodeReport report = some (next, some frame, true)) :
    ∃ mouse, UsbMovementCoalescer.MovesOnly frame mouse ∧
      mouse.buttons = slot.lastMouseButtons ∧
      next.lastMouseButtons = slot.lastMouseButtons := by
  obtain ⟨_, _, both⟩ := decodeReport_frame decoded
  simp only [movementOnlyFrame] at both
  cases carried : frame.mouse with
  | none => simp [carried] at both
  | some mouse =>
      simp only [carried, Prod.mk.injEq] at both
      obtain ⟨only, buttons⟩ := both
      have parts := only.symm
      simp only [Bool.and_eq_true, Option.isNone_iff_eq_none,
        decide_eq_true_eq] at parts
      obtain ⟨⟨⟨keyboard, consumer⟩, held⟩, moves⟩ := parts
      exact ⟨mouse, ⟨carried, keyboard, consumer, moves⟩, held,
        buttons.trans held⟩

end ActiveUsbInterfaceSlot

section

variable {build : Build}

/-- After an interface is reported gone, no input of it follows before it is
connected again. -/
def NoLateInput (messages : List (RuntimeInput build)) : Prop :=
  ∀ earlier between later interfaceId frame,
    messages = earlier ++ .usbHidInterfaceDisconnected interfaceId ::
        (between ++ frameMessage frame :: later) →
      frame.interfaceId = interfaceId →
        ∃ deviceId ledOutput,
          .usbHidInterfaceConnected interfaceId deviceId ledOutput ∈ between

def HearsOpen : (InterfaceId → Bool) → List (RuntimeInput build) → Prop
  | _, [] => True
  | closed, message :: rest =>
      (∀ frame, inputOf message = some frame →
        closed frame.interfaceId = false) ∧
      HearsOpen (closes closed message) rest

theorem hearsOpen_append :
    HearsOpen closed (first ++ second) ↔
      HearsOpen closed first ∧
        HearsOpen (closedAfter closed first) second := by
  induction first generalizing closed with
  | nil => exact (iff_of_eq (true_and _)).symm
  | cons message rest ih =>
      rw [List.cons_append, HearsOpen, HearsOpen, ih, and_assoc]
      rfl

theorem hearsOpen_quiet (quiet : ∀ message ∈ messages, inputOf message = none) :
    HearsOpen closed messages := by
  induction messages generalizing closed with
  | nil => trivial
  | cons message rest ih =>
      refine ⟨fun frame input => ?_, ih fun other member =>
        quiet other (List.mem_cons_of_mem _ member)⟩
      rw [quiet message List.mem_cons_self] at input
      cases input

theorem closedAfter_frames (closed : InterfaceId → Bool)
    (frames : List StandardInputFrame) :
    closedAfter closed (frames.map frameMessage : List (RuntimeInput build)) =
      closed := by
  induction frames with
  | nil => rfl
  | cons frame rest ih => exact ih

theorem hearsOpen_frames {frames : List StandardInputFrame}
    (isOpen : ∀ frame ∈ frames, closed frame.interfaceId = false) :
    HearsOpen closed (frames.map frameMessage : List (RuntimeInput build)) := by
  induction frames with
  | nil => trivial
  | cons frame rest ih =>
      refine ⟨fun other input => ?_, ih fun other member =>
        isOpen other (List.mem_cons_of_mem _ member)⟩
      cases input
      exact isOpen frame List.mem_cons_self

theorem connected_of_open {closed : InterfaceId → Bool}
    {messages : List (RuntimeInput build)} {interfaceId : InterfaceId}
    (before : closed interfaceId = true)
    (after : closedAfter closed messages interfaceId = false) :
    ∃ deviceId ledOutput,
      .usbHidInterfaceConnected interfaceId deviceId ledOutput ∈ messages := by
  induction messages generalizing closed with
  | nil => exact absurd (before.symm.trans after) (by decide)
  | cons message rest ih =>
      by_cases still : closes closed message interfaceId = true
      · obtain ⟨deviceId, ledOutput, member⟩ := ih still after
        exact ⟨deviceId, ledOutput, List.mem_cons_of_mem _ member⟩
      · cases message with
        | usbHidInterfaceConnected connected deviceId ledOutput =>
            simp only [closes] at still
            split at still
            · rename_i same
              rw [same]
              exact ⟨deviceId, ledOutput, List.mem_cons_self⟩
            · exact absurd before still
        | usbHidInterfaceDisconnected disconnected =>
            simp only [closes] at still
            split at still
            · exact absurd rfl still
            · exact absurd before still
        | _ => exact absurd before still

theorem HearsOpen.noLateInput {closed : InterfaceId → Bool}
    {messages : List (RuntimeInput build)}
    (hears : HearsOpen closed messages) : NoLateInput messages := by
  rintro earlier between later interfaceId frame rfl same
  rw [hearsOpen_append, HearsOpen, hearsOpen_append] at hears
  obtain ⟨_, _, _, input, _⟩ := hears
  refine connected_of_open ?_ (same ▸ input frame rfl)
  simp [closes]

theorem inputOf_eq_some (input : inputOf message = some frame) :
    message = frameMessage frame := by
  unfold inputOf at input
  split at input
  · cases input
    rfl
  · cases input

/-- The messages start with an interface that goes and then an input of it. -/
def startsLate : List (RuntimeInput build) → Bool
  | .usbHidInterfaceDisconnected interfaceId :: message :: _ =>
      (inputOf message).any fun frame => frame.interfaceId = interfaceId
  | _ => false

theorem not_noLateInput {messages : List (RuntimeInput build)}
    (late : startsLate (messages.drop place) = true) :
    ¬ NoLateInput messages := by
  intro never
  have split := (List.take_append_drop place messages).symm
  generalize messages.drop place = rest at late split
  unfold startsLate at late
  split at late
  · rename_i interfaceId message later
    obtain ⟨frame, input, same⟩ := (Option.any_eq_true _ _).mp late
    obtain rfl := inputOf_eq_some input
    obtain ⟨_, _, member⟩ := never _ [] later interfaceId frame split
      (of_decide_eq_true same)
    cases member
  · cases late

end

def SingleStep (task : UsbHostTask) (event : UsbHostEvent)
    (sent : List (RuntimeInput .single)) (next : UsbHostTask) : Prop :=
  ∃ connection readers,
    task.step .single connection event = some ⟨next, sent, readers⟩

abbrev UsbHostRun := Run SingleStep

namespace UsbHostTask

/-- The frame that an event brings, and whether it only moves the mouse. -/
def acceptedFrame (task : UsbHostTask) :
    UsbHostEvent → Option (StandardInputFrame × Bool)
  | .reader (.report deviceId interfaceId data) _ _ => do
      let slot ← task.slotOf (.report deviceId interfaceId data)
      let (_, standard, movementOnly) ← slot.decodeReport data
      return (← standard, movementOnly)
  | _ => none

def acceptedFrames (task : UsbHostTask) (event : UsbHostEvent) :
    List StandardInputFrame :=
  ((task.acceptedFrame event).map Prod.fst).toList

/-- What is accepted adds to what waits, what is sent leaves it; the sums have
32 bits. -/
def settle (waiting : InterfaceId → MouseAxis → Int)
    (taken : Transition UsbHostTask UsbHostEvent
      (List (RuntimeInput .single))) (interfaceId : InterfaceId)
    (axis : MouseAxis) : Int :=
  clampI32 (waiting interfaceId axis +
    movedBy (taken.before.acceptedFrames taken.event) interfaceId axis -
      movedBy (taken.output.filterMap inputOf) interfaceId axis)

/-- No movement waits for a session that the event takes away. -/
def LeavesNoMovement (task : UsbHostTask) (event : UsbHostEvent) : Prop :=
  event.KeepsInterfaces ∧
    ∀ slot ∈ task.activeSlots.reduceOption, task.Detaches event slot →
      ∀ entry ∈ task.movementQueue.waiting,
        (entry.interfaceId, entry.deviceId) ≠ slot.key

def MovementOwned (task : UsbHostTask) : Prop :=
  ∀ entry ∈ task.movementQueue.waiting, ∃ slot,
    SlotTable.lookup ActiveUsbInterfaceSlot.key task.activeSlots
        (entry.interfaceId, entry.deviceId) = some slot ∧
      slot.lastMouseButtons = entry.buttons

structure MovementSound (task : UsbHostTask) : Prop where
  tables : task.Sound
  orderly : task.movementQueue.Orderly
  room : task.movementQueue.pending.length = maxActiveUsbInterfaces
  owned : task.MovementOwned

variable {task : UsbHostTask}

section

variable (sound : task.MovementSound)

include sound

theorem MovementSound.covers :
    UsbMovementCoalescer.Covers
      (task.activeSlots.reduceOption.map ActiveUsbInterfaceSlot.interfaceId)
      task.movementQueue where
  waiting entry member := by
    obtain ⟨slot, found, _⟩ := sound.owned entry member
    have keyed := SlotTable.key_of_lookup found
    rw [← (Prod.mk.inj keyed).1]
    exact List.mem_map_of_mem (SlotTable.mem_of_lookup found)
  room := by
    rw [List.length_map, sound.room, ← sound.tables.length]
    exact List.reduceOption_length_le _

theorem MovementSound.same_source (found : task.slotOf event = some slot)
    (waits : entry ∈ task.movementQueue.waiting)
    (interface : entry.interfaceId = slot.interfaceId) :
    entry.deviceId = slot.session.deviceId ∧
      entry.buttons = slot.lastMouseButtons := by
  obtain ⟨other, stored, buttons⟩ := sound.owned entry waits
  have keyed := SlotTable.key_of_lookup stored
  obtain ⟨sameInterface, sameDevice⟩ := Prod.mk.inj keyed
  have device := sound.tables.tables.same_device
    (SlotTable.mem_of_lookup stored) (SlotTable.mem_of_lookup found)
    (sameInterface.trans interface)
  have key : (entry.interfaceId, entry.deviceId) = event.key := by
    rw [← key_of_slotOf found, interface, ← sameDevice, device]
    rfl
  rw [key] at stored
  have same : other = slot := Option.some.inj (stored.symm.trans found)
  rw [← sameDevice, ← buttons, same]
  exact ⟨rfl, rfl⟩

theorem MovementSound.joins (found : task.slotOf event = some slot)
    (decoded : slot.decodeReport data = some (next, some frame, true)) :
    ∃ known mouse, task.movementQueue.Joins known frame mouse := by
  obtain ⟨mouse, only, buttons, _⟩ :=
    ActiveUsbInterfaceSlot.decodeReport_movesOnly decoded
  obtain ⟨device, interface, _⟩ :=
    ActiveUsbInterfaceSlot.decodeReport_frame decoded
  have member := SlotTable.mem_of_lookup found
  rw [sound.tables.tables.own slot member] at interface
  refine ⟨_, mouse, only, sound.covers, ?_, fun entry waits same => ?_⟩
  · rw [interface]
    exact List.mem_map_of_mem member
  · rw [device, buttons]
    exact sound.same_source found waits (same.trans interface)

theorem MovementSound.accepted_joins
    (accepted : task.acceptedFrame event = some (frame, true)) :
    ∃ known mouse, task.movementQueue.Joins known frame mouse := by
  cases event with
  | reader event answers direct =>
      cases event with
      | fatal => cases accepted
      | report deviceId interfaceId data =>
          obtain ⟨slot, found, decodes⟩ := Option.bind_eq_some_iff.mp accepted
          obtain ⟨⟨next, standard, movementOnly⟩, decoded, both⟩ :=
            Option.bind_eq_some_iff.mp decodes
          obtain ⟨frame', rfl, same⟩ := Option.bind_eq_some_iff.mp both
          cases same
          exact sound.joins found decoded
  | _ => cases accepted

end

structure Settles (task : UsbHostTask) (event : UsbHostEvent)
    (sent : List (RuntimeInput .single)) (next : UsbHostTask) : Prop where
  sound : next.MovementSound
  hears : ∀ closed : InterfaceId → Bool,
    (∀ slot ∈ task.activeSlots.reduceOption, closed slot.interfaceId = false) →
    HearsOpen closed sent ∧
      ∀ slot ∈ next.activeSlots.reduceOption,
        closedAfter closed sent slot.interfaceId = false
  settled : ∀ interfaceId axis, next.movementQueue.held interfaceId axis =
    clampI32 (task.movementQueue.held interfaceId axis +
      movedBy (task.acceptedFrames event) interfaceId axis -
        movedBy (sent.filterMap inputOf) interfaceId axis)

theorem acceptedFrame_quiet (quiet : ¬ event.IsReport) :
    task.acceptedFrame event = none := by
  cases event with
  | reader event answers direct =>
      cases event with
      | report => exact absurd trivial quiet
      | fatal => rfl
  | _ => rfl

variable {finish : UsbHostTask} {event : UsbHostEvent}

theorem settled_of_quiet (sound : task.MovementSound)
    {sent : List (RuntimeInput .single)}
    (accepted : task.acceptedFrame event = none)
    (silent : ∀ message ∈ sent, inputOf message = none)
    (interfaceId : InterfaceId) (axis : MouseAxis) :
    task.movementQueue.held interfaceId axis =
      clampI32 (task.movementQueue.held interfaceId axis +
        movedBy (task.acceptedFrames event) interfaceId axis -
          movedBy (sent.filterMap inputOf) interfaceId axis) := by
  have fits :=
    UsbMovementCoalescer.held_fits sound.orderly interfaceId axis
  rw [acceptedFrames, accepted, List.filterMap_eq_nil_iff.mpr silent]
  simp only [Option.map_none, Option.toList_none, movedBy, KeyedSum.nil]
  rw [clampI32_of_fits (by omega)]
  omega

theorem settles_quiet (sound : task.MovementSound)
    (leaves : task.LeavesNoMovement event) (quiet : ¬ event.IsReport)
    {result : UsbHostStep .single}
    (ran : task.step .single connection event = some result) :
    task.Settles event result.sent result.task := by
  obtain ⟨tables, moved⟩ := step_moved sound.tables leaves.1 quiet ran
  refine ⟨⟨tables, ?_, ?_, fun entry waits => ?_⟩, fun closed isOpen => ?_,
    fun interfaceId axis => ?_⟩
  · rw [moved.queue]
    exact sound.orderly
  · rw [moved.queue]
    exact sound.room
  · rw [moved.queue] at waits
    obtain ⟨slot, found, buttons⟩ := sound.owned entry waits
    have keyed := SlotTable.key_of_lookup found
    have member := SlotTable.mem_of_lookup found
    obtain ⟨_, same⟩ := moved.kept slot member fun gone =>
      leaves.2 slot member gone entry waits keyed.symm
    rw [keyed] at same
    exact ⟨slot, same.trans found, buttons⟩
  · exact ⟨hearsOpen_quiet moved.announced.quiet,
      moved.announced.connected closed isOpen⟩
  · rw [moved.queue]
    exact settled_of_quiet sound (acceptedFrame_quiet quiet)
      moved.announced.quiet interfaceId axis

theorem filterMap_frameMessage (frames : List StandardInputFrame) :
    (frames.map frameMessage : List (RuntimeInput .single)).filterMap
      inputOf = frames := by
  rw [List.filterMap_map]
  exact List.filterMap_some

theorem settles_frame (sound : task.MovementSound)
    {slot : ActiveUsbInterfaceSlot}
    (found : task.slotOf (.report deviceId interfaceId' data) = some slot)
    (located : SlotTable.slotIndex? ActiveUsbInterfaceSlot.key
      task.activeSlots slot.key = some index)
    (decoded : slot.decodeReport data = some (next, some frame, movementOnly))
    (answers : List QueueAnswer) (direct : Bool) :
    task.Settles (.reader (.report deviceId interfaceId' data) answers direct)
      ((task.movementQueue.forward frame movementOnly answers direct).2.map
        frameMessage)
      { task with
        activeSlots := task.activeSlots.set index (some next)
        movementQueue := (task.movementQueue.forward frame movementOnly
          answers direct).1 } := by
  have member := SlotTable.mem_of_lookup found
  have same := ActiveUsbInterfaceSlot.decodeReport_session decoded
  obtain ⟨device, interface, buttons⟩ :=
    ActiveUsbInterfaceSlot.decodeReport_frame decoded
  rw [sound.tables.tables.own slot member] at interface
  have forwards := @UsbMovementCoalescer.forwards task.movementQueue
    sound.orderly frame movementOnly (fun only => by
      subst only
      exact sound.joins found decoded) answers direct
  have stored (wanted : InterfaceId × DeviceId) :
      SlotTable.lookup ActiveUsbInterfaceSlot.key
          (task.activeSlots.set index (some next)) wanted =
        if wanted = slot.key then some next
        else SlotTable.lookup ActiveUsbInterfaceSlot.key task.activeSlots
          wanted := by
    rw [← same.key]
    apply SlotTable.lookup_replace
    rw [same.key]
    exact located
  refine ⟨⟨sound.tables.replace located member same _, forwards.orderly,
    forwards.length.trans sound.room, fun entry waits => ?_⟩,
    fun closed isOpen => ⟨?_, fun other here => ?_⟩,
    fun interfaceId axis => ?_⟩
  · obtain ⟨rfl, source⟩ := forwards.sources entry waits
    obtain ⟨mouse, only, held, kept⟩ :=
      ActiveUsbInterfaceSlot.decodeReport_movesOnly decoded
    simp only [stored]
    rcases source with ⟨old, waited, source⟩ | ⟨mouse', carried, source⟩
    · simp only [PendingMovement.source, Prod.mk.injEq] at source
      obtain ⟨sameInterface, sameDevice, sameButtons⟩ := source
      obtain ⟨other, lookup, buttons⟩ := sound.owned old waited
      rw [← sameInterface, ← sameDevice, ← sameButtons]
      by_cases here : (old.interfaceId, old.deviceId) = slot.key
      · rw [here, key_of_slotOf found] at lookup
        have same : other = slot := Option.some.inj (lookup.symm.trans found)
        exact ⟨next, if_pos here, by rw [kept, ← same, buttons]⟩
      · exact ⟨other, (if_neg here).trans lookup, buttons⟩
    · simp only [PendingMovement.source, Prod.mk.injEq] at source
      have same : mouse' = mouse :=
        Option.some.inj (carried.symm.trans only.carried)
      refine ⟨next, if_pos ?_, ?_⟩
      · rw [source.1, source.2.1, interface, device]
        rfl
      · rw [source.2.2, same, held, kept]
  · apply hearsOpen_frames
    intro other sent
    rcases forwards.frames other sent with rfl | ⟨old, waited, interface'⟩
    · rw [interface]
      exact isOpen slot member
    · obtain ⟨owner, lookup, _⟩ := sound.owned old waited
      have keyed := SlotTable.key_of_lookup lookup
      rw [← interface', ← (Prod.mk.inj keyed).1]
      exact isOpen owner (SlotTable.mem_of_lookup lookup)
  · rw [closedAfter_frames]
    rcases SlotTable.mem_replace located here with rfl | old
    · rw [same.1]
      exact isOpen slot member
    · exact isOpen other old
  · have accepted : task.acceptedFrames (.reader (.report deviceId
        interfaceId' data) answers direct) = [frame] := by
      simp [acceptedFrames, acceptedFrame, found, decoded]
    rw [accepted, filterMap_frameMessage]
    exact forwards.balance interfaceId axis

theorem settles_report (sound : task.MovementSound)
    {result : UsbHostStep .single}
    (ran : task.step .single connection
      (.reader (.report deviceId interfaceId data) answers direct) =
        some result) :
    task.Settles (.reader (.report deviceId interfaceId data) answers direct)
      result.sent result.task := by
  rcases step_report ran with ⟨unknown, rfl⟩ |
    ⟨slot, index, next, decoded, found, located, handled, rfl⟩
  · refine ⟨sound, fun closed isOpen => ⟨trivial, isOpen⟩,
      settled_of_quiet sound ?_ fun _ member =>
        (List.not_mem_nil member).elim⟩
    simp [acceptedFrame, unknown]
  · obtain ⟨⟨other, standard, movementOnly⟩, decodes, same⟩ :=
      Option.bind_eq_some_iff.mp handled
    cases same
    cases standard with
    | some frame =>
        exact settles_frame sound found located decodes answers direct
    | none =>
        obtain rfl := ActiveUsbInterfaceSlot.decodeReport_rejected decodes
        have member := SlotTable.mem_of_lookup found
        have stored := SlotTable.lookup_replace located
        refine ⟨⟨sound.tables.replace located member ⟨rfl, rfl⟩ _,
          sound.orderly, sound.room, fun entry waits => ?_⟩,
          fun closed isOpen => ⟨trivial, fun slot here => ?_⟩,
          settled_of_quiet sound ?_ fun _ member =>
            (List.not_mem_nil member).elim⟩
        · obtain ⟨owner, lookup, buttons⟩ := sound.owned entry waits
          refine ⟨owner, ?_, buttons⟩
          refine (stored _).trans ?_
          split
          · rename_i here
            rw [here, key_of_slotOf found] at lookup
            exact found.symm.trans lookup
          · exact lookup
        · rcases SlotTable.mem_replace located here with rfl | old
          · exact isOpen _ member
          · exact isOpen slot old
        · simp [acceptedFrame, found, decodes]

theorem settles (sound : task.MovementSound)
    (leaves : task.LeavesNoMovement event)
    (taken : SingleStep task event sent next) :
    task.Settles event sent next := by
  obtain ⟨connection, readers, ran⟩ := taken
  by_cases report : event.IsReport
  · cases event with
    | reader event answers direct =>
        cases event with
        | report deviceId interfaceId data => exact settles_report sound ran
        | fatal => exact report.elim
    | _ => exact report.elim
  · exact settles_quiet sound leaves report ran

theorem boot_waiting : boot.movementQueue.waiting = [] := rfl

theorem movementSound_boot : boot.MovementSound where
  tables := sound_boot
  orderly := by
    refine ⟨fun entry listed _ axis => ?_, .nil, fun entry waits => ?_⟩
    · rw [List.eq_of_mem_replicate listed]
      cases axis <;> rfl
    · rw [boot_waiting] at waits
      cases waits
  room := rfl
  owned entry waits := by
    rw [boot_waiting] at waits
    cases waits

structure RunSettled (history : List (Transition UsbHostTask UsbHostEvent
      (List (RuntimeInput .single)))) (task : UsbHostTask) : Prop where
  sound : task.MovementSound
  hears : HearsOpen (fun _ => true) (history.flatMap Transition.output)
  connected : ∀ slot ∈ task.activeSlots.reduceOption,
    closedAfter (fun _ => true) (history.flatMap Transition.output)
      slot.interfaceId = false
  settled : ∀ interfaceId axis, task.movementQueue.held interfaceId axis =
    history.foldl settle (fun _ _ => 0) interfaceId axis

theorem runSettled (run : UsbHostRun boot history finish)
    (leaves : ∀ taken ∈ history, taken.before.LeavesNoMovement taken.event) :
    RunSettled history finish := by
  refine run.invariant_history RunSettled
    ⟨movementSound_boot, trivial, fun _ member =>
      (List.not_mem_nil member).elim, fun _ _ => rfl⟩ ?_
  intro earlier taken later split stepped before
  have settles := settles before.sound
    (leaves taken (by rw [split]; simp)) stepped
  obtain ⟨hears, connected⟩ := settles.hears _ before.connected
  have messages : (earlier ++ [taken]).flatMap Transition.output =
      earlier.flatMap Transition.output ++ taken.output := by
    simp
  refine ⟨settles.sound, ?_, ?_, fun interfaceId axis => ?_⟩
  · rw [messages]
    exact hearsOpen_append.mpr ⟨before.hears, hears⟩
  · rw [messages, closedAfter_append]
    exact connected
  · rw [settles.settled, List.foldl_append, before.settled]
    rfl

def advanceSingle (task : UsbHostTask) (event : UsbHostEvent) :
    Option (UsbHostTask × List (RuntimeInput .single)) :=
  (task.step .single 0 event).map fun result => (result.task, result.sent)

theorem singleStep_of_advance
    (advanced : task.advanceSingle event = some (next, sent)) :
    SingleStep task event sent next := by
  obtain ⟨result, ran, same⟩ := Option.map_eq_some_iff.mp advanced
  cases same
  exact ⟨0, result.readers, ran⟩

theorem run_of_attempt
    (reached : Run.attempt advanceSingle boot events = some (finish, outputs)) :
    ∃ history, UsbHostRun boot history finish ∧
      history.map Transition.event = events ∧
        history.flatMap Transition.output = outputs.flatten := by
  obtain ⟨history, run, same, rfl⟩ := Run.of_attempt _ reached
  exact ⟨history, run.mono fun _ _ _ _ => singleStep_of_advance, same,
    List.flatMap_def ..⟩

def mouseAxis : HidReportDescriptor maxReportFields :=
  ⟨⟨[⟨0, usagePageGenericDesktop, usageX, usageX, 0, 8, 1,
    fieldFlagVariable, -127, 127⟩], by decide⟩, false⟩

def plainMouse : EnumeratedDevice where
  usbAddress := 2
  identity := ⟨1, 1, 1⟩
  name := .empty
  interfaces := some [⟨0, 0x81, .ready mouseAxis none 0⟩]
  freeReaders := 5

def movementLeft : List UsbHostEvent :=
  .rootConnected (.hub 1 true) :: .childEnumerated 0 plainMouse ::
    .childEnumerated 1 plainMouse ::
    .reader (.report ⟨2⟩ ⟨1⟩ [5]) [.full] false ::
    .childRemoved 0 ::
    [.reader (.report ⟨3⟩ ⟨2⟩ [0]) [.accepted] true]

theorem input_after_disconnect :
    ∃ history finish, UsbHostRun boot history finish ∧
      ¬ NoLateInput (history.flatMap Transition.output) := by
  have reached : ((Run.attempt advanceSingle boot movementLeft).any
      fun reached => startsLate (reached.2.flatten.drop 4)) = true := by
    decide +kernel
  obtain ⟨⟨finish, outputs⟩, found, late⟩ :=
    (Option.any_eq_true _ _).mp reached
  obtain ⟨history, run, _, messages⟩ := run_of_attempt found
  refine ⟨history, finish, run, ?_⟩
  rw [messages]
  exact not_noLateInput late

/-- In every run in which no movement waits for a session when it is taken
away, no input of an interface follows its disconnection, what waits is what
was accepted less what was sent and belongs to the sessions that are there,
and whatever only moves the mouse finds its place. -/
theorem no_late_input {history : List (Transition UsbHostTask UsbHostEvent
      (List (RuntimeInput .single)))} {finish : UsbHostTask}
    (run : UsbHostRun boot history finish)
    (leaves : ∀ taken ∈ history, taken.before.LeavesNoMovement taken.event) :
    NoLateInput (history.flatMap Transition.output) ∧
      (∀ interfaceId axis, finish.movementQueue.held interfaceId axis =
        history.foldl settle (fun _ _ => 0) interfaceId axis) ∧
      finish.MovementOwned ∧
      ∀ event frame answers,
        finish.acceptedFrame event = some (frame, true) →
          ∃ next, (finish.movementQueue.sendWaiting answers).1.push frame =
            .ok next := by
  have settled := runSettled run leaves
  refine ⟨settled.hears.noLateInput, settled.settled, settled.sound.owned, ?_⟩
  intro event frame answers accepted
  obtain ⟨known, mouse, joins⟩ := settled.sound.accepted_joins accepted
  have sends := UsbMovementCoalescer.sends_sendWaiting answers
    settled.sound.orderly
  exact (joins.sends sends).push_isOk sends.orderly

/-- The other of two mice is unplugged while movement of the first waits. -/
def movementStays : List UsbHostEvent :=
  [.rootConnected (.hub 1 true), .childEnumerated 0 plainMouse,
    .childEnumerated 1 plainMouse,
    .reader (.report ⟨2⟩ ⟨1⟩ [5]) [.full] false, .childRemoved 1,
    .reader (.report ⟨2⟩ ⟨1⟩ [3]) [.full] false]

/-- A check on the events of `movementStays`. -/
def waitsElsewhere (task : UsbHostTask) : UsbHostEvent → Bool
  | .rootConnected _ => task.phase = .waiting
  | .childRemoved port =>
      match task.phase with
      | .hub _ ports => task.movementQueue.waiting.all fun entry =>
          ports[port.toNat]?.join ≠ some entry.deviceId
      | _ => true
  | .childEnumerated _ _ | .reader (.report _ _ _) _ _ => true
  | _ => false

theorem leaves_of_waitsElsewhere (keeps : event.KeepsInterfaces)
    (elsewhere : task.waitsElsewhere event = true) :
    task.LeavesNoMovement event := by
  refine ⟨keeps, fun slot _ gone entry waits same => ?_⟩
  have device : entry.deviceId = slot.session.deviceId :=
    congrArg Prod.snd same
  cases event with
  | rootConnected root => exact gone (of_decide_eq_true elsewhere)
  | childRemoved port =>
      cases phase : task.phase with
      | hub root ports =>
          simp only [waitsElsewhere, phase] at elsewhere
          simp only [Detaches, phase] at gone
          rw [← device] at gone
          exact of_decide_eq_true (List.all_eq_true.mp elsewhere entry waits)
            gone
      | _ => simp [Detaches, phase] at gone
  | childEnumerated => exact gone
  | reader event => cases event with
      | report => exact gone
      | fatal => cases elsewhere
  | _ => cases elsewhere

theorem plainMouse_keeps : plainMouse.KeepsInterfaces := by
  simp [EnumeratedDevice.KeepsInterfaces, plainMouse]

theorem no_late_input_of_movementStays :
    ∃ history finish, UsbHostRun boot history finish ∧
      finish.movementQueue.held ⟨1⟩ .x = 8 ∧
      finish.activeSlots.reduceOption.map ActiveUsbInterfaceSlot.key =
        [(⟨1⟩, ⟨2⟩)] ∧
      NoLateInput (history.flatMap Transition.output) ∧
      (∀ interfaceId axis, finish.movementQueue.held interfaceId axis =
        history.foldl settle (fun _ _ => 0) interfaceId axis) ∧
      finish.MovementOwned ∧
      ∀ event frame answers,
        finish.acceptedFrame event = some (frame, true) →
          ∃ next, (finish.movementQueue.sendWaiting answers).1.push frame =
            .ok next := by
  have reached : ((Run.attempt (Run.checked advanceSingle waitsElsewhere) boot
      movementStays).any fun reached =>
        reached.1.movementQueue.held ⟨1⟩ .x = 8 ∧
          reached.1.activeSlots.reduceOption.map ActiveUsbInterfaceSlot.key =
            [(⟨1⟩, ⟨2⟩)]) = true := by
    decide +kernel
  obtain ⟨⟨finish, outputs⟩, found, shown⟩ :=
    (Option.any_eq_true _ _).mp reached
  obtain ⟨waits, gone⟩ := of_decide_eq_true shown
  obtain ⟨history, taken, events, _, checked⟩ :=
    Run.of_attempt_checked _ _ found
  have run : UsbHostRun boot history finish :=
    taken.mono fun _ _ _ _ => singleStep_of_advance
  refine ⟨history, finish, run, waits, gone,
    no_late_input run fun taken member => ?_⟩
  refine leaves_of_waitsElsewhere ?_ (checked taken member)
  have listed := List.mem_map_of_mem (f := Transition.event) member
  rw [events] at listed
  simp only [movementStays, List.mem_cons, List.not_mem_nil, or_false] at listed
  rcases listed with here | here | here | here | here | here <;> rw [here]
  · trivial
  · exact plainMouse_keeps
  · exact plainMouse_keeps
  all_goals trivial

end UsbHostTask

end HidShift
