import HidShift.Interchip.DeliveryQueue
import HidShift.Interchip.DeviceLink
import HidShift.Interchip.HostRecords
import HidShift.Interchip.Pacing

/-! The main board's end of the link: the loop of `mirror_spi_task.rs`. -/

namespace HidShift

open Lib

structure HostLink where
  sessionId : UInt32
  sender : ReliableSender
  receiver : ReliableReceiver
  reportSequence : UInt16
  helloConfirmed : Bool
  usbState : Option UsbState
  lastValidCellMs : Option UInt64
  lastHeartbeatMs : UInt64
  reportedAvailability : Option OutputTargetAvailability
  pending : ProcessedRecords
  controlRequestAssembler : ControlRequestAssembler
  delivery : ReliableDeliveryQueue WireCommand
  expandingControlResponse : Option (MirrorControlResponse × Nat)
  pendingDeviceCommand : Option DeviceTaskCommand
  commandQueue : List DeviceTaskCommand
  recovery : SpiLinkRecovery
  readyHandshake : SpiReadyHandshake
  inputBudget : FixedIntervalBudget

inductive LinkAction
  | reported (message : HostMessage)
  | sessionReset
  | helloQueued
  | commandQueued (command : WireCommand) (fromRetry : Bool)
  | acknowledged (count : Nat)
  | received (cell : SpiCell) (disposition : ReceiveDisposition)
      (state : RecordState)

namespace HostLink

def new (sessionId : UInt32) (nowMs nowUs : UInt64) : HostLink where
  sessionId := nonzeroSession sessionId
  sender := ReliableSender.new (nonzeroSession sessionId)
  receiver := ReliableReceiver.new
  reportSequence := 1
  helloConfirmed := false
  usbState := none
  lastValidCellMs := none
  lastHeartbeatMs := 0
  reportedAvailability := none
  pending := .empty
  controlRequestAssembler := .new
  delivery := .new
  expandingControlResponse := none
  pendingDeviceCommand := none
  commandQueue := []
  recovery := .new nowMs linkLossTimeoutMs deviceResetQuietPeriodMs
  readyHandshake := .new spiReadyDeassertionTimeoutMs
  inputBudget := .new nowUs deviceUsbInputIntervalUs deviceUsbInputMaxBurst

structure Turn where
  link : HostLink
  actions : List LinkAction

namespace Turn

def update (turn : Turn) (change : HostLink → HostLink) : Turn :=
  { turn with link := change turn.link }

def act (turn : Turn) (action : LinkAction) : Turn :=
  { turn with actions := turn.actions ++ [action] }

end Turn

def availability (link : HostLink) (nowMs : UInt64) :
    OutputTargetAvailability :=
  let lost :=
    match link.lastValidCellMs with
    | none => true
    | some last =>
        decide (linkLossTimeoutMs ≤ ReliableSender.saturatingSub nowMs last)
  if lost || !link.helloConfirmed then .unavailable
  else
    match link.usbState with
    | none => .connectedNotReady
    | some state =>
        if state.healthy && state.attached && state.configured then .ready
        else if !state.healthy then .unavailable
        else .connectedNotReady

def Turn.report (turn : Turn) (room : ReportRoom) (nowMs : UInt64) : Turn :=
  let available := reportAvailability room.availability
    (turn.link.availability nowMs) turn.link.reportedAvailability
  let waiting := reportPending room nowMs turn.link.pending
  { link :=
      { turn.link with
        reportedAvailability := available.2
        pending := waiting.2 }
    actions := turn.actions ++
      (available.1 ++ waiting.1).map LinkAction.reported }

def resetOutboundSession (link : HostLink) : HostLink :=
  let sessionId := nonzeroSession (link.sessionId + 1)
  { link with
    sessionId
    sender := link.sender.resetSession sessionId
    delivery := link.delivery.retryAfterSessionReset
    controlRequestAssembler := link.controlRequestAssembler.reset }

def Turn.resetOutboundSession (turn : Turn) : Turn :=
  (turn.update HostLink.resetOutboundSession).act .sessionReset

def forgetHello (link : HostLink) : HostLink :=
  { link with helloConfirmed := false, usbState := none }

def Turn.enterQuiet (turn : Turn) : Turn :=
  let turn := turn.update fun link =>
    { link.forgetHello with lastValidCellMs := none }
  turn.resetOutboundSession.update fun link =>
    { link with receiver := ReliableReceiver.new }

def Turn.queueHello (turn : Turn) (nowMs : UInt64) :
    Option SpiCell × Turn :=
  match HidShift.queueHello turn.link.sender nowMs with
  | none => (none, turn)
  | some (cell, sender) =>
      (some cell,
        (turn.update fun link => { link with sender }).act .helloQueued)

/-- `pending_device_command.take().or_else(try_receive)`. -/
def takeDeviceCommand (link : HostLink) :
    Option DeviceTaskCommand × HostLink :=
  match link.pendingDeviceCommand with
  | some command => (some command, { link with pendingDeviceCommand := none })
  | none =>
      (link.commandQueue.head?,
        { link with commandQueue := link.commandQueue.tail })

/-- A batch of input reports that grows from the command queue. -/
structure Batching where
  batch : InputReportBatch
  reportSequence : UInt16
  inputBudget : FixedIntervalBudget
  pendingDeviceCommand : Option DeviceTaskCommand
  commandQueue : List DeviceTaskCommand

/-- The batch is closed, by a command that has to wait or because none is
left. -/
def Batching.closed (batch : InputReportBatch) (reportSequence : UInt16)
    (inputBudget : FixedIntervalBudget) (waiting : Option DeviceTaskCommand)
    (commandQueue : List DeviceTaskCommand) : Batching :=
  ⟨batch, reportSequence, inputBudget, waiting, commandQueue⟩

def fillBatch (nowUs : UInt64) (batch : InputReportBatch)
    (reportSequence : UInt16) (inputBudget : FixedIntervalBudget) :
    List DeviceTaskCommand → Batching
  | [] => .closed batch reportSequence inputBudget none []
  | command :: rest =>
      match inputReport command reportSequence with
      | none =>
          .closed batch reportSequence inputBudget (some command) rest
      | some report =>
          let (taken, inputBudget) := inputBudget.tryTake nowUs
          if ¬ taken then
            .closed batch reportSequence inputBudget (some command) rest
          else
            match batch.tryPush report with
            | .error _ =>
                .closed batch reportSequence inputBudget (some command) rest
            | .ok batch =>
                fillBatch nowUs batch
                  (advanceReportSequence command reportSequence) inputBudget
                  rest

def takeBatch (link : HostLink) (first : DeviceTaskCommand)
    (firstReport : InputReport) (nowUs : UInt64) : WireCommand × HostLink :=
  let filled := fillBatch nowUs (.new firstReport)
    (advanceReportSequence first link.reportSequence) link.inputBudget
    link.commandQueue
  (.inputReportBatch filled.batch,
    { link with
      reportSequence := filled.reportSequence
      inputBudget := filled.inputBudget
      pendingDeviceCommand := filled.pendingDeviceCommand
      commandQueue := filled.commandQueue })

/-- `is_input_command(first) && !input_budget.try_take(now_us)`. -/
def withholdsInput (link : HostLink) (first : DeviceTaskCommand)
    (nowUs : UInt64) : Bool × HostLink :=
  if isInputCommand first then
    let (taken, inputBudget) := link.inputBudget.tryTake nowUs
    (!taken, { link with inputBudget })
  else (false, link)

def startCommand (link : HostLink) (first : DeviceTaskCommand)
    (nowUs : UInt64) : Option WireCommand × HostLink :=
  match first with
  | .controlResponse response =>
      (some (.controlResponseFragment response 0),
        { link with expandingControlResponse := some (response, 0) })
  | first =>
      let (withheld, link) := link.withholdsInput first nowUs
      if withheld then (none, { link with pendingDeviceCommand := some first })
      else
        match inputReport first link.reportSequence with
        | none => (some (.command first), link)
        | some firstReport =>
            let (command, link) := link.takeBatch first firstReport nowUs
            (some command, link)

def freshCommand (link : HostLink) (nowUs : UInt64) :
    Option WireCommand × HostLink :=
  match link.expandingControlResponse with
  | some (response, offset) =>
      (some (.controlResponseFragment response offset), link)
  | none =>
      match link.takeDeviceCommand with
      | (none, link) => (none, link)
      | (some first, link) => link.startCommand first nowUs

def nextCommand (link : HostLink) (nowUs : UInt64) :
    Option WireCommand × Bool × HostLink :=
  match link.delivery.nextRetry with
  | (some command, delivery) => (some command, true, { link with delivery })
  | (none, _) =>
      let (command, link) := link.freshCommand nowUs
      (command, false, link)

/-- The rest of a response follows, unless it is only sent once more. -/
def continueResponse (link : HostLink) (fromRetry : Bool) :
    Option ControlProgress → HostLink
  | none => link
  | some progress =>
      if fromRetry then link
      else
        { link with
          expandingControlResponse :=
            if progress.last then none
            else some (progress.response, progress.nextOffset) }

def recordQueued (link : HostLink) (command : WireCommand) : HostLink :=
  match link.delivery.recordQueued command with
  | .ok delivery => { link with delivery }
  | .error _ => link

def Turn.queueCommand (turn : Turn) (command : WireCommand)
    (fromRetry : Bool) (nowMs : UInt64) : Option SpiCell × Turn :=
  match queueWireCommand turn.link.sender command nowMs with
  | none => (none, turn)
  | some (cell, progress, sender) =>
      let queued := turn.update fun link =>
        (({ link with sender } : HostLink).continueResponse fromRetry
          progress).recordQueued command
      (some cell, queued.act (.commandQueued command fromRetry))

def Turn.queueNextCommand (turn : Turn) (nowMs nowUs : UInt64) :
    Option SpiCell × Turn :=
  let (command, fromRetry, link) := turn.link.nextCommand nowUs
  let turn := { turn with link }
  match command with
  | some command => turn.queueCommand command fromRetry nowMs
  | none =>
      if ReliableSender.saturatingSub nowMs link.lastHeartbeatMs <
          heartbeatIntervalMs then
        (none, turn)
      else
        (turn.update fun link =>
          { link with lastHeartbeatMs := nowMs }).queueCommand .heartbeat
            false nowMs

def acknowledgeDevice (link : HostLink) : HostLink :=
  { link with
    sender := link.sender.setCumulativeAck link.receiver.cumulativeAck }

def Turn.selectCell (turn : Turn) (nowMs nowUs : UInt64) :
    Option SpiCell × Turn :=
  let turn := turn.update acknowledgeDevice
  let (action, sender) := turn.link.sender.pollRetransmit nowMs
    retransmitTimeoutMs maxRetransmitAttempts
  let turn := turn.update fun link => { link with sender }
  match action with
  | .send cell => (some cell, turn)
  | .linkResetRequired =>
      (turn.update forgetHello).resetOutboundSession.queueHello nowMs
  | .idle =>
      if ¬ turn.link.helloConfirmed ∧ turn.link.sender.pendingLen = 0 then
        turn.queueHello nowMs
      else if turn.link.helloConfirmed ∧
          turn.link.sender.pendingLen < spiTxWindow then
        turn.queueNextCommand nowMs nowUs
      else (none, turn)

def idleCell (link : HostLink) : SpiCell :=
  let cell := SpiCell.empty link.sessionId
  { cell with
    header := { cell.header with cumulativeAck := link.receiver.cumulativeAck } }

def recordState (link : HostLink) : RecordState :=
  ⟨link.helloConfirmed, link.usbState, link.controlRequestAssembler⟩

def withRecordState (link : HostLink) (state : RecordState) : HostLink :=
  { link with
    helloConfirmed := state.helloConfirmed
    usbState := state.usbState
    controlRequestAssembler := state.controlRequestAssembler }

def processAccepted (link : HostLink) (cell : SpiCell) : HostLink :=
  let (state, processed) := processRecords link.recordState cell
  match processed with
  | none => link.withRecordState state
  | some processed =>
      { link.withRecordState state with
        pending := link.pending.keep processed }

def Turn.acknowledged (turn : Turn) (cumulativeAck : UInt16) : Turn :=
  let (count, sender) := turn.link.sender.acknowledge cumulativeAck
  (turn.update fun link =>
    { link with
      sender
      delivery := link.delivery.acknowledge count }).act (.acknowledged count)

def Turn.process (turn : Turn) (cell : SpiCell)
    (disposition : ReceiveDisposition) : Turn :=
  let turn := turn.act (.received cell disposition turn.link.recordState)
  match disposition with
  | .accepted _ _ => turn.update fun link => link.processAccepted cell
  | _ => turn

def Turn.settle (turn : Turn) (remoteSessionChanged : Bool) : Turn :=
  if ¬ remoteSessionChanged ∧ ¬ turn.link.helloConfirmed ∧
      turn.link.delivery.hasInflight then
    turn.resetOutboundSession
  else turn

def Turn.receiveCell (turn : Turn) (cell : SpiCell) (nowMs : UInt64) : Turn :=
  let (disposition, receiver) := turn.link.receiver.receive cell
  let turn := turn.update fun link =>
    { link with
      lastValidCellMs := some nowMs
      recovery := link.recovery.observeValidCell nowMs
      receiver }
  let changed := disposition.remoteSessionChanged
  let turn :=
    if changed then (turn.update forgetHello).resetOutboundSession
    else turn.acknowledged cell.header.cumulativeAck
  (turn.process cell disposition).settle changed

/-- What a turn finds: the time, the room in the runtime queue and the READY
line. -/
structure HostInput where
  nowMs : UInt64
  nowUs : UInt64
  room : ReportRoom
  readyHigh : Bool
  readyDeasserted : Bool

/-- The turn with a cell on its way, unless it cannot be encoded. -/
def Turn.startTransfer (turn : Turn) (input : HostInput) : Turn × Bool :=
  let (selected, turn) := turn.selectCell input.nowMs input.nowUs
  match (selected.getD turn.link.idleCell).encode with
  | .error _ => (turn, false)
  | .ok _ =>
      (turn.update fun link =>
        { link with
          readyHandshake :=
            link.readyHandshake.markTransferStarted input.nowMs }, true)

def Turn.poll (turn : Turn) (input : HostInput) : Turn × Bool :=
  let (action, readyHandshake) := turn.link.readyHandshake.observe
    input.readyHigh input.readyDeasserted input.nowMs
  let turn := turn.update fun link => { link with readyHandshake }
  match action with
  | .wait => (turn, false)
  | .transfer | .recoverTransfer => turn.startTransfer input

def prepare (link : HostLink) (input : HostInput) : Turn × Bool :=
  let turn := Turn.report ⟨link, []⟩ input.room input.nowMs
  let (action, recovery) := turn.link.recovery.advance input.nowMs
  let turn := turn.update fun link => { link with recovery }
  match action with
  | .enterQuiet => (turn.enterQuiet, false)
  | .stayQuiet => (turn, false)
  | .resumePolling | .poll => turn.poll input

/-- What a transfer brings: a cell, something else, or nothing when it
fails. -/
abbrev Received := Option (Except SpiCellError SpiCell)

def Turn.finish (turn : Turn) (nowMs : UInt64) : Received → Turn
  | none =>
      turn.update fun link =>
        { link with readyHandshake := link.readyHandshake.cancelTransfer }
  | some (.error _) => turn
  | some (.ok cell) => turn.receiveCell cell nowMs

def iterate (link : HostLink) (input : HostInput) (received : Received) :
    Turn :=
  let (turn, transfers) := link.prepare input
  if transfers then turn.finish input.nowMs received else turn

inductive Event
  | command (command : DeviceTaskCommand)
  | turn (input : HostInput) (wire : Option (Vector UInt8 spiCellLen))

def perform (link : HostLink) : Event → Turn
  | .command command =>
      ⟨{ link with commandQueue := link.commandQueue ++ [command] }, []⟩
  | .turn input wire => link.iterate input (wire.map SpiCell.decode)

def Step (before : HostLink) (event : Event) (actions : List LinkAction)
    (after : HostLink) : Prop := before.perform event = ⟨after, actions⟩

end HostLink

end HidShift
