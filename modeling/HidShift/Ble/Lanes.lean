import HidShift.Ble.MouseAccumulator
import HidShift.Lib.Run

/-! The two lanes from the runtime to the BLE task: the channel sink of the
runtime fills them (`main.rs`) and the BLE task empties them
(`ble_hid_task.rs`).  A send that has to wait for room on the control lane is
cut into its single sends, so that the BLE task may run between them. -/

namespace HidShift

def bleHostsMax : Nat := 4

namespace BleInputGate

variable {hosts : Nat}

/-- `apply_command` also changes who may pair; the lanes do not depend on
it. -/
def applyCommand (gate : BleInputGate hosts) :
    BleTaskCommand → BleInputGate hosts
  | .notify hostId _ .targetSwitchRelease
  | .notify hostId _ .safetyRelease => gate.block hostId
  | .notify _ _ _ | .managementResponse _ | .managementEvent _ => gate
  | .activateInput hostId => gate.activate hostId
  | .allowPairing _ | .rejectPairing _ | .clearBond _ _ => gate

def shouldDrop (gate : BleInputGate hosts) : BleTaskCommand → Bool
  | .notify hostId _ .input => gate.shouldDropInput hostId
  | _ => false

end BleInputGate

/-- A command on its way, with the position of the emitted command it carries.
For merged movement this is the last report merged.  No decision depends on
the position. -/
structure Stamped where
  position : Nat
  command : BleTaskCommand

structure LaneCapacity where
  control : Nat
  notify : Nat

/-- `RUNTIME_COMMAND_CAPACITY` of the firmware. -/
def LaneCapacity.runtime : LaneCapacity := ⟨17, 17⟩

structure BleLanes where
  control : List Stamped
  notify : List Stamped
  /-- What the send under way has yet to put on the control lane. -/
  outbox : List Stamped
  mouse : MouseReportAccumulator bleHostsMax
  /-- Position of the last report merged into the movement of a host. -/
  merged : HostId → Nat
  gate : BleInputGate bleHostsMax
  emitted : List BleTaskCommand
  transmitted : List Stamped

inductive LaneEvent
  /-- The runtime hands the next command to `send_ble_with_policy`. -/
  | emit (command : BleTaskCommand)
  /-- The next send on the control lane finds room. -/
  | send
  /-- The runtime flushes the accumulator around a batch of commands. -/
  | flush
  /-- The BLE task receives and handles one command. -/
  | receive

def trySend (capacity : Nat) (lane : List Stamped) (command : Stamped) :
    Option (List Stamped) :=
  if lane.length < capacity then some (lane ++ [command]) else none

namespace BleLanes

def start : BleLanes where
  control := []
  notify := []
  outbox := []
  mouse := .new
  merged := fun _ => 0
  gate := .new
  emitted := []
  transmitted := []

/-- Movement reports under the stamp of the last report merged into them. -/
def movement (lanes : BleLanes) (hostId : HostId) (report : MouseReport) :
    Stamped :=
  ⟨lanes.merged hostId, .notify hostId (.mouse report) .input⟩

def flushHosts (capacity : Nat) : List HostId → BleLanes → BleLanes
  | [], lanes => lanes
  | hostId :: rest, lanes =>
      if capacity ≤ lanes.notify.length then
        lanes
      else
        match lanes.mouse.takeNext hostId with
        | none => flushHosts capacity rest lanes
        | some (report, mouse) =>
            match trySend capacity lanes.notify
              (lanes.movement hostId report) with
            | some notify =>
                flushHosts capacity rest { lanes with mouse, notify }
            | none =>
                { lanes with
                  mouse := (mouse.push hostId report).getD mouse }

def flushMouseAccumulator (capacity : LaneCapacity) (lanes : BleLanes) :
    BleLanes :=
  flushHosts capacity.notify [⟨1⟩, ⟨2⟩, ⟨3⟩, ⟨4⟩] lanes

/-- `flush_mouse_accumulator_ordered` and the `set_buttons` after it.  Only
the producer looks at the accumulator, so it does not matter that its loop
waits for room between two reports. -/
def flushMouseAccumulatorOrdered (lanes : BleLanes) (hostId : HostId)
    (report : MouseReport) : BleLanes :=
  let (reports, mouse) := lanes.mouse.drain hostId
  { lanes with
    mouse := mouse.setButtons hostId report.buttons
    outbox := lanes.outbox ++ reports.map (lanes.movement hostId) }

/-- No critical command goes to the notify lane. -/
def sendOnLane (capacity : LaneCapacity) (lanes : BleLanes)
    (stamped : Stamped) : BleLanes :=
  match stamped.command.lane, stamped.command.commandClass with
  | .control, .critical =>
      { lanes with outbox := lanes.outbox ++ [stamped] }
  | .control, _ =>
      { lanes with
        control := (trySend capacity.control lanes.control stamped).getD
          lanes.control }
  | .notify, _ =>
      { lanes with
        notify := (trySend capacity.notify lanes.notify stamped).getD
          lanes.notify }

def sendBleWithPolicy (capacity : LaneCapacity) (lanes : BleLanes)
    (stamped : Stamped) : BleLanes :=
  match stamped.command with
  | .notify hostId (.mouse report) .input =>
      match lanes.mouse.push hostId report with
      | some mouse =>
          flushMouseAccumulator capacity
            { lanes with
              mouse
              merged :=
                Function.update lanes.merged hostId stamped.position }
      | none =>
          let lanes := lanes.flushMouseAccumulatorOrdered hostId report
          { lanes with outbox := lanes.outbox ++ [stamped] }
  | .notify hostId (.mouse report) _ =>
      (lanes.flushMouseAccumulatorOrdered hostId report).sendOnLane capacity
        stamped
  | _ => lanes.sendOnLane capacity stamped

/-- The runtime emits nothing while a send waits. -/
def emit (capacity : LaneCapacity) (lanes : BleLanes)
    (command : BleTaskCommand) : BleLanes :=
  if lanes.outbox = [] then
    { lanes with emitted := lanes.emitted ++ [command] }.sendBleWithPolicy
      capacity ⟨lanes.emitted.length, command⟩
  else
    lanes

def send (capacity : LaneCapacity) (lanes : BleLanes) : BleLanes :=
  match lanes.outbox with
  | [] => lanes
  | stamped :: outbox =>
      match trySend capacity.control lanes.control stamped with
      | some control => { lanes with control, outbox }
      | none => lanes

def flush (capacity : LaneCapacity) (lanes : BleLanes) : BleLanes :=
  if lanes.outbox = [] then lanes.flushMouseAccumulator capacity else lanes

def handle (lanes : BleLanes) (stamped : Stamped) : BleLanes :=
  let gate := lanes.gate.applyCommand stamped.command
  { lanes with
    gate
    transmitted :=
      if gate.shouldDrop stamped.command then
        lanes.transmitted
      else
        lanes.transmitted ++ [stamped] }

/-- `receive_ble_command` looks at the control lane first. -/
def receive (lanes : BleLanes) : BleLanes :=
  match lanes.control, lanes.notify with
  | stamped :: control, _ => { lanes with control }.handle stamped
  | [], stamped :: notify => { lanes with notify }.handle stamped
  | [], [] => lanes

def step (capacity : LaneCapacity) (lanes : BleLanes) :
    LaneEvent → BleLanes
  | .emit command => lanes.emit capacity command
  | .send => lanes.send capacity
  | .flush => lanes.flush capacity
  | .receive => lanes.receive

end BleLanes

/-- Movement is not kept: it may be merged with other movement. -/
inductive ShownInput
  | keyboard (report : Keyboard6KroReport)
  | mouse (buttons : MouseButtons)
  | consumer (report : ConsumerReport)
deriving DecidableEq

def StandardHidReport.shown : StandardHidReport → ShownInput
  | .keyboard report => .keyboard report
  | .mouse report => .mouse (.fromBitsTruncate report.buttons)
  | .consumer report => .consumer report

namespace BleTaskCommand

/-- The report and reason of a notification of one kind to one host. -/
def noticeTo (hostId : HostId) (kind : ReportKind) :
    BleTaskCommand → Option (BleHidReport × NotifyReason)
  | .notify target report reason =>
      if target = hostId ∧ report.kind = kind then
        some (report, reason)
      else
        none
  | _ => none

end BleTaskCommand

/-- Positions and contents of the reports of one kind to one host. -/
def marks (hostId : HostId) (kind : ReportKind) (commands : List Stamped) :
    List (Nat × ShownInput) :=
  commands.filterMap fun stamped =>
    (stamped.command.noticeTo hostId kind).map fun notice =>
      (stamped.position, notice.1.shown)

def lastNotice (hostId : HostId) (kind : ReportKind)
    (emitted : List BleTaskCommand) : Option (BleHidReport × NotifyReason) :=
  (emitted.filterMap (·.noticeTo hostId kind)).getLast?

/-- One report may leave after another: movement taken in parts keeps the
position of the last report merged into it. -/
def Follows (kind : ReportKind) (first second : Nat × ShownInput) : Prop :=
  first.1 ≤ second.1 ∧ (kind ≠ .mouse → first.1 ≠ second.1)

def Traced (emitted : List BleTaskCommand) (hostId : HostId)
    (kind : ReportKind) (mark : Nat × ShownInput) : Prop :=
  ∃ report reason, emitted[mark.1]? = some (.notify hostId report reason) ∧
    report.kind = kind ∧ report.shown = mark.2

/-- Each report shows what the command at its position said, and the positions
never go back. -/
structure InOrder (emitted : List BleTaskCommand) (hostId : HostId)
    (kind : ReportKind) (line : List (Nat × ShownInput)) : Prop where
  follows : line.Pairwise (Follows kind)
  traced : ∀ mark ∈ line, Traced emitted hostId kind mark

namespace BleLanes

/-- Nothing is on its way any more. -/
structure Idle (lanes : BleLanes) : Prop where
  control : lanes.control = []
  notify : lanes.notify = []
  outbox : lanes.outbox = []
  mouse : ∀ hostId, lanes.mouse.isPending hostId = false

/-- Nothing is overtaken, only input may be missing once the lanes are idle,
and then an active host shows what was emitted to it last. -/
structure Delivered (lanes : BleLanes) : Prop where
  inOrder : ∀ hostId kind,
    InOrder lanes.emitted hostId kind (marks hostId kind lanes.transmitted)
  complete : lanes.Idle → ∀ position hostId report reason,
    lanes.emitted[position]? = some (.notify hostId report reason) →
      reason ≠ .input →
        ⟨position, .notify hostId report reason⟩ ∈ lanes.transmitted
  current : lanes.Idle → ∀ hostId,
    lanes.gate.shouldDropInput hostId = false → ∀ kind,
      (marks hostId kind lanes.transmitted).getLast?.map Prod.snd =
        (lastNotice hostId kind lanes.emitted).map (·.1.shown)

end BleLanes

end HidShift
