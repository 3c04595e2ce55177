import HidShift.Mirror
import HidShift.Mirror.Image

/-! The check of a mirror image before it reaches the USB stack
(`mirror/validator.rs`, `mirror/plan.rs`). -/

namespace HidShift

open Lib Lib.Checked

def mirrorHidInterfacesMax : Nat := 4

def mirrorEndpointsMax : Nat := 8

structure EndpointPlan where
  interfaceNumber : UInt8
  address : UInt8
  maxPacketSize : UInt16
  interval : UInt8

structure HidInterfacePlan where
  interfaceNumber : UInt8
  subclass : UInt8
  protocol : UInt8
  hidDescriptor : List UInt8
  reportDescriptor : List UInt8

structure UsbDevicePlan where
  deviceDescriptor : Vector UInt8 18
  configurationDescriptor : List UInt8
  bosDescriptor : List UInt8
  strings : RecordTable
  hidReports : RecordTable
  interfaces : BoundedVec HidInterfacePlan mirrorHidInterfacesMax
  endpoints : BoundedVec EndpointPlan mirrorEndpointsMax

inductive MirrorRejectReason
  | none
  | malformedImage
  | invalidDescriptorLength
  | multipleConfigurations
  | nonHidInterface
  | unsupportedAlternateSetting
  | unsupportedEndpointType
  | packetTooLarge
  | duplicateEndpointAddress
  | endpointResourceExhausted
  | missingReportDescriptor
  | imageTooLarge
  | unsupportedUsbVersion
  | remoteWakeUnsupported
  | storageFailure
deriving Repr

namespace MirrorRejectReason

def toByte : MirrorRejectReason → UInt8
  | .none => 0
  | .malformedImage => 1
  | .invalidDescriptorLength => 2
  | .multipleConfigurations => 3
  | .nonHidInterface => 4
  | .unsupportedAlternateSetting => 5
  | .unsupportedEndpointType => 6
  | .packetTooLarge => 7
  | .duplicateEndpointAddress => 8
  | .endpointResourceExhausted => 9
  | .missingReportDescriptor => 10
  | .imageTooLarge => 11
  | .unsupportedUsbVersion => 12
  | .remoteWakeUnsupported => 13
  | .storageFailure => 14

def mapParseError : MirrorImageParseError → MirrorRejectReason
  | .imageTooLarge => .imageTooLarge
  | .invalidHeaderLength | .invalidRecordLength => .invalidDescriptorLength
  | _ => .malformedImage

end MirrorRejectReason

abbrev MirrorCheck (α : Type) := Checked MirrorRejectReason α

/-- `push` into a vector with a fixed capacity. -/
def pushPlan {α : Type} {capacity : Nat} (items : BoundedVec α capacity)
    (item : α) : Except MirrorRejectReason (BoundedVec α capacity) :=
  match items.push? item with
  | some longer => .ok longer
  | none => .error .endpointResourceExhausted

def descriptorLength (bytes : List UInt8) (offset : Nat) : MirrorCheck Nat :=
  if bytes.length < offset + 2 then throw .invalidDescriptorLength
  else do
    let first ← indexed bytes offset
    let length := first.toNat
    if length < 2 ∨ bytes.length < offset + length then
      throw .invalidDescriptorLength
    else return length

/-- The loop takes at most `fuel` turns; it would go on for ever when they are
used up. -/
def walkDescriptors (bytes : List UInt8) : Nat → Nat → MirrorCheck Unit
  | 0, offset => if offset < bytes.length then endless else pure ()
  | fuel + 1, offset =>
      if offset < bytes.length then do
        let length ← descriptorLength bytes offset
        walkDescriptors bytes fuel (offset + length)
      else pure ()

def forDescriptors {σ : Type} (visit : σ → List UInt8 → MirrorCheck σ)
    (bytes : List UInt8) : Nat → Nat → σ → MirrorCheck σ
  | 0, offset, state => if offset < bytes.length then endless else pure state
  | fuel + 1, offset, state =>
      if offset < bytes.length then do
        let length ← descriptorLength bytes offset
        let descriptor ← sliced bytes offset (offset + length)
        let state ← visit state descriptor
        forDescriptors visit bytes fuel (offset + length) state
      else pure state

def validateBos (descriptor : List UInt8) : MirrorCheck Unit :=
  if descriptor = [] then pure ()
  else if descriptor.length < 5 then throw .invalidDescriptorLength
  else do
    let length ← indexed descriptor 0
    let kind ← indexed descriptor 1
    let total ← field 2 descriptor 2
    if length ≠ 5 ∨ kind ≠ 0x0f ∨
        (readU16 total).toNat ≠ descriptor.length then
      throw .invalidDescriptorLength
    else walkDescriptors descriptor descriptor.length 0

def validateString (records : List StringRecord) (record : StringRecord) :
    MirrorCheck Unit :=
  if record.descriptor.length < 2 ∨ record.descriptor.length % 2 ≠ 0 then
    throw .invalidDescriptorLength
  else do
    let length ← indexed record.descriptor 0
    let kind ← indexed record.descriptor 1
    if length.toNat ≠ record.descriptor.length ∨ kind ≠ 0x03 then
      throw .invalidDescriptorLength
    else if (records.filter fun other => other.index = record.index ∧
        other.langId = record.langId).length ≠ 1 then
      throw .malformedImage
    else pure ()

def validateStrings (image : MirrorImage) : MirrorCheck Unit :=
  image.strings.foldlM (fun _ record => validateString image.strings record) ()

abbrev ReportTable := BoundedVec (UInt8 × List UInt8) mirrorHidInterfacesMax

def collectReport (reports : ReportTable) (report : HidReportRecord) :
    Except MirrorRejectReason ReportTable :=
  if report.descriptor = [] then .error .missingReportDescriptor
  else if reports.toList.any fun entry =>
      entry.1 = report.interfaceNumber then
    .error .malformedImage
  else pushPlan reports (report.interfaceNumber, report.descriptor)

def collectReports (image : MirrorImage) :
    Except MirrorRejectReason ReportTable :=
  image.hidReports.foldlM collectReport BoundedVec.empty

structure ParsedInterface where
  number : UInt8
  subclass : UInt8
  protocol : UInt8
  expectedEndpoints : UInt8
  actualEndpoints : Nat
  hidDescriptor : Option (List UInt8)

abbrev InterfaceTable := BoundedVec HidInterfacePlan mirrorHidInterfacesMax

def finishParsed (interfaces : InterfaceTable) (reports : ReportTable)
    (current : ParsedInterface) : MirrorCheck InterfaceTable :=
  if current.expectedEndpoints.toNat ≠ current.actualEndpoints then
    throw .invalidDescriptorLength
  else
    match reports.toList.find? fun entry => entry.1 = current.number with
    | none => throw .missingReportDescriptor
    | some (_, report) =>
        match current.hidDescriptor with
        | none => throw .invalidDescriptorLength
        | some hidDescriptor => do
            let low ← indexed hidDescriptor 7
            let high ← indexed hidDescriptor 8
            if readU16 [low, high] ≠ UInt16.ofNat report.length then
              throw .invalidDescriptorLength
            else
              result (pushPlan interfaces
                { interfaceNumber := current.number
                  subclass := current.subclass
                  protocol := current.protocol
                  hidDescriptor
                  reportDescriptor := report })

def finishInterface (interfaces : InterfaceTable) (reports : ReportTable) :
    Option ParsedInterface → MirrorCheck InterfaceTable
  | none => pure interfaces
  | some current => finishParsed interfaces reports current

/-- What the walk through the configuration has found so far. -/
structure ConfigurationWalk where
  interfaces : InterfaceTable
  endpoints : BoundedVec EndpointPlan mirrorEndpointsMax
  endpointAddresses : BoundedVec UInt8 mirrorEndpointsMax
  currentInterface : Option ParsedInterface

namespace ConfigurationWalk

def new : ConfigurationWalk where
  interfaces := BoundedVec.empty
  endpoints := BoundedVec.empty
  endpointAddresses := BoundedVec.empty
  currentInterface := none

variable (reports : ReportTable) (walk : ConfigurationWalk)
  (descriptor : List UInt8)

/-- A descriptor of type `0x04`. -/
def visitInterface : MirrorCheck ConfigurationWalk := do
  let interfaces ←
    finishInterface walk.interfaces reports walk.currentInterface
  if descriptor.length < 9 then throw .invalidDescriptorLength
  else do
    let number ← indexed descriptor 2
    let alternateSetting ← indexed descriptor 3
    let expectedEndpoints ← indexed descriptor 4
    let interfaceClass ← indexed descriptor 5
    let subclass ← indexed descriptor 6
    let protocol ← indexed descriptor 7
    if alternateSetting ≠ 0 then throw .unsupportedAlternateSetting
    else if interfaceClass ≠ 0x03 then throw .nonHidInterface
    else if interfaces.toList.any fun plan =>
        plan.interfaceNumber = number then
      throw .malformedImage
    else
      return { walk with
        interfaces
        currentInterface := some
          { number, subclass, protocol, expectedEndpoints
            actualEndpoints := 0
            hidDescriptor := none } }

/-- The length that the class descriptor entries from `offset` on declare for
the report; the last entry of type `0x22` counts. -/
def declaredReport (descriptor : List UInt8) :
    Nat → Nat → Option UInt16 → MirrorCheck (Option UInt16)
  | 0, _, declared => pure declared
  | count + 1, offset, declared =>
      if descriptor.length < offset + 3 then throw .invalidDescriptorLength
      else do
        let kind ← indexed descriptor offset
        let low ← indexed descriptor (offset + 1)
        let high ← indexed descriptor (offset + 2)
        declaredReport descriptor count (offset + 3)
          (if kind = 0x22 then some (readU16 [low, high]) else declared)

/-- A descriptor of type `0x21`. -/
def visitHid : MirrorCheck ConfigurationWalk :=
  match walk.currentInterface with
  | none => throw .malformedImage
  | some current =>
      if descriptor.length < 9 then throw .invalidDescriptorLength
      else do
        let count ← indexed descriptor 5
        if count = 0 then throw .invalidDescriptorLength
        else do
          let declared ← declaredReport descriptor count.toNat 6 none
          if declared = none ∨ current.hidDescriptor ≠ none then
            throw .invalidDescriptorLength
          else
            return { walk with
              currentInterface := some
                { current with hidDescriptor := some descriptor } }

/-- A descriptor of type `0x05`. -/
def visitEndpoint : MirrorCheck ConfigurationWalk :=
  match walk.currentInterface with
  | none => throw .malformedImage
  | some current =>
      if descriptor.length < 7 then throw .invalidDescriptorLength
      else do
        let address ← indexed descriptor 2
        let attributes ← indexed descriptor 3
        let low ← indexed descriptor 4
        let high ← indexed descriptor 5
        let interval ← indexed descriptor 6
        let maxPacketSize := readU16 [low, high]
        if attributes &&& 0x03 ≠ 0x03 then throw .unsupportedEndpointType
        else if address &&& 0x0f = 0 ∨ address &&& 0x70 ≠ 0 then
          throw .malformedImage
        else if address ∈ walk.endpointAddresses then
          throw .duplicateEndpointAddress
        else if maxPacketSize = 0 ∨ 64 < maxPacketSize then
          throw .packetTooLarge
        else if interval = 0 then throw .invalidDescriptorLength
        else if 4 ≤ (walk.endpoints.toList.filter fun endpoint =>
            endpoint.address &&& 0x80 = address &&& 0x80).length then
          throw .endpointResourceExhausted
        else do
          let endpointAddresses ←
            result (pushPlan walk.endpointAddresses address)
          let endpoints ← result (pushPlan walk.endpoints
            { interfaceNumber := current.number
              address, maxPacketSize, interval })
          return { walk with
            endpoints
            endpointAddresses
            currentInterface := some { current with
              actualEndpoints := current.actualEndpoints + 1 } }

def visit : MirrorCheck ConfigurationWalk := do
  let kind ← indexed descriptor 1
  if kind = 0x02 then throw .multipleConfigurations
  else if kind = 0x04 then walk.visitInterface reports descriptor
  else if kind = 0x21 then walk.visitHid descriptor
  else if kind = 0x05 then walk.visitEndpoint descriptor
  else pure walk

end ConfigurationWalk

/-- The end of `validate_configuration`, behind the walk. -/
def planOf (image : MirrorImage) (reports : ReportTable)
    (walk : ConfigurationWalk) : MirrorCheck UsbDevicePlan := do
  let interfaces ←
    finishInterface walk.interfaces reports walk.currentInterface
  let count ← indexed image.configurationDescriptor 4
  if interfaces.toList.length ≠ count.toNat ∨ interfaces.toList = [] then
    throw .invalidDescriptorLength
  else if reports.toList.length ≠ interfaces.toList.length then
    throw .missingReportDescriptor
  else
    return { deviceDescriptor := readArray 18 image.deviceDescriptor
             configurationDescriptor := image.configurationDescriptor
             bosDescriptor := image.bosDescriptor
             strings :=
               { remaining := image.stringRecords
                 count := image.header.stringCount }
             hidReports :=
               { remaining := image.hidReportRecords
                 count := image.header.hidReportCount }
             interfaces
             endpoints := walk.endpoints }

def validateConfiguration (image : MirrorImage) (reports : ReportTable) :
    MirrorCheck UsbDevicePlan :=
  let config := image.configurationDescriptor
  if config.length < 9 then throw .invalidDescriptorLength
  else do
    let length ← indexed config 0
    let kind ← indexed config 1
    let total ← field 2 config 2
    let value ← indexed config 5
    let attributes ← indexed config 7
    if length ≠ 9 ∨ kind ≠ 0x02 then throw .invalidDescriptorLength
    else if (readU16 total).toNat ≠ config.length then
      throw .invalidDescriptorLength
    else if value = 0 ∨ attributes &&& 0x9f ≠ 0x80 then throw .malformedImage
    else do
      let walk ← forDescriptors (ConfigurationWalk.visit reports) config
        config.length 9 ConfigurationWalk.new
      planOf image reports walk

/-- The device descriptor is a `[u8; 18]` once its length is right. -/
def validateDevice (device : List UInt8) : Except MirrorRejectReason Unit :=
  let usbVersion := readU16 [byteAt device 2, byteAt device 3]
  if device.length ≠ 18 then .error .invalidDescriptorLength
  else if byteAt device 0 ≠ 18 ∨ byteAt device 1 ≠ 0x01 then
    .error .invalidDescriptorLength
  else if byteAt device 17 ≠ 1 then .error .multipleConfigurations
  else if usbVersion < 0x0100 ∨ 0x0210 < usbVersion then
    .error .unsupportedUsbVersion
  else if byteAt device 7 ≠ 8 ∧ byteAt device 7 ≠ 16 ∧
      byteAt device 7 ≠ 32 ∧ byteAt device 7 ≠ 64 then
    .error .packetTooLarge
  else .ok ()

def validateParsedImage (image : MirrorImage) :
    MirrorCheck UsbDevicePlan := do
  result (validateDevice image.deviceDescriptor)
  validateBos image.bosDescriptor
  validateStrings image
  let reports ← result (collectReports image)
  validateConfiguration image reports

def validateMirrorImage (bytes : List UInt8) : MirrorCheck UsbDevicePlan := do
  let image ← mapError MirrorRejectReason.mapParseError (parseMirrorImage bytes)
  validateParsedImage image

end HidShift
