import HidShift.Interchip.HostCommand
import HidShift.Runtime.State

/-! The records of an accepted cell, and the reports to the runtime that wait
for room in its queue (`mirror_spi_task.rs`). -/

namespace HidShift

open Lib

/-- One value of each kind of record a cell may bring to the runtime.  It is
both what one cell contained and what still waits. -/
structure ProcessedRecords where
  wiredLeds : Option KeyboardLedState
  profileResult : Option ProfileResult
  rawEndpointOut : Option RawEndpointReport
  controlRequest : Option MirrorControlRequest
  managementRequest : Option (ManagementRequest .dual)
  usbState : Option UsbState

def ProcessedRecords.empty : ProcessedRecords where
  wiredLeds := none
  profileResult := none
  rawEndpointOut := none
  controlRequest := none
  managementRequest := none
  usbState := none

/-- What `process_records` works on. -/
structure RecordState where
  helloConfirmed : Bool
  usbState : Option UsbState
  controlRequestAssembler : ControlRequestAssembler

/-- The link state after a record, and what was found up to it unless it was
refused. -/
abbrev Processing := RecordState × Option ProcessedRecords

def isCompatibleDeviceHello (hello : Hello) : Bool :=
  hello.role = .device && hello.protocolVersion = spiProtocolVersion

def processHello (state : RecordState) (processed : ProcessedRecords)
    (data : List UInt8) : Processing :=
  match Hello.decode data with
  | .error _ => (state, none)
  | .ok hello =>
      if isCompatibleDeviceHello hello then
        ({ state with helloConfirmed := false, usbState := none },
          some processed)
      else (state, none)

def processHelloAck (state : RecordState) (processed : ProcessedRecords)
    (data : List UInt8) : Processing :=
  match Hello.decode data with
  | .error _ => (state, none)
  | .ok hello =>
      let helloConfirmed := isCompatibleDeviceHello hello &&
        hello.capabilities &&& requiredDeviceCapabilities =
          requiredDeviceCapabilities
      ({ state with
          helloConfirmed
          usbState := if helloConfirmed then state.usbState else none },
        some processed)

def processUsbState (state : RecordState) (processed : ProcessedRecords)
    (data : List UInt8) : Processing :=
  match UsbState.decode data with
  | .error _ => (state, none)
  | .ok usbState =>
      ({ state with usbState := some usbState },
        some { processed with usbState := some usbState })

def processLinkReset (state : RecordState) (processed : ProcessedRecords) :
    Processing :=
  ({ helloConfirmed := false
     usbState := none
     controlRequestAssembler := state.controlRequestAssembler.reset },
    some processed)

def KeyboardLedState.fromBitsTruncate (bits : UInt8) : KeyboardLedState :=
  bits.toBitVec &&& 0b111

def ledsOfOutput (report : StandardOutputReport) :
    Option KeyboardLedState :=
  if report.kind ≠ 1 then none
  else
    match report.data.toList with
    | [bits] => some (.fromBitsTruncate bits)
    | _ => none

def processControlRequest (state : RecordState)
    (processed : ProcessedRecords) (data : List UInt8) : Processing :=
  match ControlRequestFragment.decode data with
  | .error _ => (state, none)
  | .ok fragment =>
      let (pushed, controlRequestAssembler) :=
        state.controlRequestAssembler.push fragment
      ({ state with controlRequestAssembler },
        match pushed with
        | .error _ => none
        | .ok controlRequest => some { processed with controlRequest })

/-- A decoder's value is kept, or the record is refused. -/
def processDecoded {ε α : Type} (state : RecordState)
    (decoded : Except ε α) (keep : α → ProcessedRecords) : Processing :=
  match decoded with
  | .error _ => (state, none)
  | .ok value => (state, some (keep value))

def processStandardOutput (state : RecordState)
    (processed : ProcessedRecords) (data : List UInt8) : Processing :=
  match StandardOutputReport.decode data with
  | .error _ => (state, none)
  | .ok report =>
      match ledsOfOutput report with
      | none => (state, none)
      | some leds => (state, some { processed with wiredLeds := some leds })

def processRecord (state : RecordState) (processed : ProcessedRecords)
    (record : Record) : Processing :=
  if record.recordType = recordHello then
    processHello state processed record.data
  else if record.recordType = recordHelloAck then
    processHelloAck state processed record.data
  else if record.recordType = recordUsbState then
    processUsbState state processed record.data
  else if record.recordType = recordLinkReset then
    processLinkReset state processed
  else if record.recordType = recordStandardOutputReport then
    processStandardOutput state processed record.data
  else if record.recordType = recordProfileResult then
    processDecoded state (ProfileResult.decode record.data) fun result =>
      { processed with profileResult := some result }
  else if record.recordType = recordRawEndpointOut then
    processDecoded state (RawEndpointReport.decode record.data) fun report =>
      { processed with rawEndpointOut := some report }
  else if record.recordType = recordControlRequest then
    processControlRequest state processed record.data
  else if record.recordType = recordManagementRequest then
    processDecoded state (ManagementRequest.decode .dual record.data)
      fun request => { processed with managementRequest := some request }
  else (state, some processed)

/-- The loop of `process_records`, which ends at the first refusal. -/
def processItems : RecordState → ProcessedRecords →
    List (Except RecordCodecError Record) → Processing
  | state, processed, [] => (state, some processed)
  | state, _, .error _ :: _ => (state, none)
  | state, processed, .ok record :: rest =>
      match processRecord state processed record with
      | (state, none) => (state, none)
      | (state, some processed) => processItems state processed rest

def processRecords (state : RecordState) (cell : SpiCell) : Processing :=
  let (items, ended) := (RecordIter.ofCell cell).items
  match processItems state .empty items with
  | (state, none) => (state, none)
  | (state, some processed) =>
      (state, if ended.finish.isOk then some processed else none)

namespace ProcessedRecords

def replace {α : Type} (pending : Option α) : Option α → Option α
  | none => pending
  | some value => some value

def keep (pending processed : ProcessedRecords) : ProcessedRecords where
  wiredLeds := replace pending.wiredLeds processed.wiredLeds
  profileResult := replace pending.profileResult processed.profileResult
  rawEndpointOut := replace pending.rawEndpointOut processed.rawEndpointOut
  controlRequest := replace pending.controlRequest processed.controlRequest
  managementRequest :=
    replace pending.managementRequest processed.managementRequest
  usbState := replace pending.usbState processed.usbState

end ProcessedRecords

abbrev HostMessage := RuntimeInput .dual

/-- Whether the runtime queue has room for each of the reports of a turn. -/
structure ReportRoom where
  availability : Bool
  wiredLeds : Bool
  profileResult : Bool
  rawEndpointOut : Bool
  controlRequest : Bool
  managementRequest : Bool
  deviceUsbState : Bool

def report {α : Type} (room : Bool) (message : α → HostMessage) :
    Option α → List HostMessage × Option α
  | none => ([], none)
  | some value => if room then ([message value], none) else ([], some value)

def wiredLedsMessage (leds : KeyboardLedState) : HostMessage :=
  .bridgeEvent (.wiredKeyboardLedChanged leds)

def availabilityMessage (availability : OutputTargetAvailability) :
    HostMessage :=
  .bridgeEvent (.wiredAvailabilityChanged availability)

def reportAvailability (room : Bool) (desired : OutputTargetAvailability)
    (reported : Option OutputTargetAvailability) :
    List HostMessage × Option OutputTargetAvailability :=
  if reported = some desired then ([], reported)
  else if room then ([availabilityMessage desired], some desired)
  else ([], reported)

def managementMessage (nowMs : UInt64) (request : ManagementRequest .dual) :
    HostMessage := .managementRequest .wiredHid request nowMs

def reportPending (room : ReportRoom) (nowMs : UInt64)
    (pending : ProcessedRecords) : List HostMessage × ProcessedRecords :=
  let leds := report room.wiredLeds wiredLedsMessage pending.wiredLeds
  let result :=
    report room.profileResult .deviceProfileResult pending.profileResult
  let raw :=
    report room.rawEndpointOut .mirrorEndpointOut pending.rawEndpointOut
  let control :=
    report room.controlRequest .mirrorControlRequest pending.controlRequest
  let management :=
    report room.managementRequest (managementMessage nowMs)
      pending.managementRequest
  let usb := report room.deviceUsbState .deviceUsbState pending.usbState
  (leds.1 ++ result.1 ++ raw.1 ++ control.1 ++ management.1 ++ usb.1,
    { wiredLeds := leds.2
      profileResult := result.2
      rawEndpointOut := raw.2
      controlRequest := control.2
      managementRequest := management.2
      usbState := usb.2 })

end HidShift
