import HidShift.Input.State
import HidShift.Lib.CheckedWord

/-! Input reports of USB devices (`usb_hid/report.rs`).  The fields come from
the descriptor of the device and are not checked, so every access and every
sum the target computes in 32 bits may stop the program. -/

namespace HidShift

open Lib
open Lib.Checked (below difference indexed stored sliced result)

def usagePageGenericDesktop : UInt16 := 0x01
def usagePageKeyboard : UInt16 := 0x07
def usagePageButton : UInt16 := 0x09
def usagePageConsumer : UInt16 := 0x0c

def usageX : UInt16 := 0x30
def usageY : UInt16 := 0x31
def usageWheel : UInt16 := 0x38
def usageAcPan : UInt16 := 0x0238

def fieldFlagConstant : UInt8 := 0x01
def fieldFlagVariable : UInt8 := 0x02

/-- The values of `usize` on the target. -/
def usizeCount : Nat := 4294967296

inductive HidReportError
  | reportIdMissing
  | tooManyFields
  | tooManyEvents
  | outputBufferTooSmall
  | motionFieldMissing
deriving DecidableEq, Repr

structure ReportField where
  reportId : UInt8
  usagePage : UInt16
  usageMin : UInt16
  usageMax : UInt16
  bitOffset : UInt32
  bitSize : UInt8
  count : UInt16
  flags : UInt8
  logicalMin : Int32
  logicalMax : Int32
deriving DecidableEq

abbrev HidChecked := Checked HidReportError

/-- The bits of a report from a position on, the first one lowest. -/
def readBits (payload : List UInt8) (start : Nat) : Nat → HidChecked UInt32
  | 0 => pure 0
  | count + 1 => do
      let value ← readBits payload start count
      let source ← below usizeCount (start + count)
      let byte ← indexed payload (source / 8)
      let bit := (byte >>> (source % 8).toUInt8) &&& 1
      return value ||| (bit.toUInt32 <<< count.toUInt32)

def writeBits (raw : UInt32) (start : Nat) :
    Nat → List UInt8 → HidChecked (List UInt8)
  | 0, payload => pure payload
  | count + 1, payload => do
      let payload ← writeBits raw start count payload
      let destination ← below usizeCount (start + count)
      let byte ← indexed payload (destination / 8)
      let mask : UInt8 := 1 <<< (destination % 8).toUInt8
      stored payload (destination / 8)
        (if raw &&& (1 <<< count.toUInt32) ≠ 0 then byte ||| mask
          else byte &&& ~~~mask)

def fieldBits (value : Int32) (bitSize : UInt8) : UInt32 :=
  if value < 0 then
    let wrapped := value.toInt64 + ((1 : Int64) <<< bitSize.toUInt64.toInt64)
    let mask : UInt32 :=
      if bitSize = 32 then 0xffffffff else (1 <<< bitSize.toUInt32) - 1
    wrapped.toUInt64.toUInt32 &&& mask
  else
    value.toUInt32

namespace ReportField

variable (field : ReportField)

def isConstant : Bool := field.flags &&& fieldFlagConstant ≠ 0

def isVariable : Bool := field.flags &&& fieldFlagVariable ≠ 0

def usageAt (index : Nat) : Option UInt16 :=
  if field.count.toNat ≤ index then
    none
  else
    let usage := field.usageMin.toNat + index.toUInt16.toNat
    if usage < 65536 ∧ usage ≤ field.usageMax.toNat then
      some usage.toUInt16
    else
      none

def indexOfUsage (usage : UInt16) : Option Nat :=
  if usage < field.usageMin ∨ field.usageMax < usage then
    none
  else
    let index := (usage - field.usageMin).toNat
    if index < field.count.toNat then some index else none

/-- The bits of one value of the field: where they start, if the field has
that value and the payload goes that far. -/
def position (payload : List UInt8) (index : Nat) : HidChecked (Option Nat) :=
  if field.bitSize = 0 ∨ 32 < field.bitSize ∨ field.count.toNat ≤ index then
    pure none
  else do
    let offset ← below usizeCount (index * field.bitSize.toNat)
    let start ← below usizeCount (field.bitOffset.toNat + offset)
    -- `checked_add`
    if start + field.bitSize.toNat < usizeCount then do
      let bits ← below usizeCount (payload.length * 8)
      if start + field.bitSize.toNat ≤ bits then return some start
        else return none
    else
      pure none

def extractU32 (payload : List UInt8) (index : Nat) :
    HidChecked (Option UInt32) := do
  match ← field.position payload index with
  | none => return none
  | some start =>
      let value ← readBits payload start field.bitSize.toNat
      return some value

def extractBool (payload : List UInt8) (index : Nat) :
    HidChecked (Option Bool) := do
  let raw ← field.extractU32 payload index
  return raw.map (· ≠ 0)

def extractI32 (payload : List UInt8) (index : Nat) :
    HidChecked (Option Int32) := do
  match ← field.extractU32 payload index with
  | none => return none
  | some raw =>
      if field.logicalMin < 0 ∧ field.bitSize < 32 then do
        let sign ← difference field.bitSize.toNat 1
        let size ← below 32 field.bitSize.toNat
        if raw &&& (1 <<< sign.toUInt32) ≠ 0 then
          return some (raw ||| ~~~((1 <<< size.toUInt32) - 1)).toInt32
        else
          return some raw.toInt32
      else
        return some raw.toInt32

/-- `clamp`, which wants its bounds in order. -/
def clamped (value : Int32) : HidChecked Int32 :=
  ExceptT.lift
    (if field.logicalMin ≤ field.logicalMax then
      some (if value < field.logicalMin then field.logicalMin
        else if field.logicalMax < value then field.logicalMax
        else value)
    else
      none)

/-- The payload after the write, and whether anything was written. -/
def writeI32 (payload : List UInt8) (index : Nat) (value : Int32) :
    HidChecked (List UInt8 × Bool) := do
  match ← field.position payload index with
  | none => return (payload, false)
  | some start =>
      let value ← field.clamped value
      let payload ← writeBits (fieldBits value field.bitSize) start
        field.bitSize.toNat payload
      return (payload, true)

end ReportField

structure HidReportDomains where
  keyboard : Bool
  mouse : Bool
  consumer : Bool
deriving DecidableEq

def HidReportDomains.empty : HidReportDomains := ⟨false, false, false⟩

structure HidReportDescriptor (capacity : Nat) where
  fields : BoundedVec ReportField capacity
  hasReportIds : Bool
deriving DecidableEq

namespace HidReportDescriptor

variable {capacity : Nat}

def new (hasReportIds : Bool) : HidReportDescriptor capacity :=
  ⟨.empty, hasReportIds⟩

def push (descriptor : HidReportDescriptor capacity) (field : ReportField) :
    Except HidReportError (HidReportDescriptor capacity) :=
  match descriptor.fields.push? field with
  | some fields => .ok { descriptor with fields := fields }
  | none => .error .tooManyFields

/-- `to_core_descriptor`: the fields of the parser, copied as they are. -/
def ofFields (hasReportIds : Bool) (fields : List ReportField) :
    Except HidReportError (HidReportDescriptor capacity) :=
  fields.foldlM push (new hasReportIds)

variable (descriptor : HidReportDescriptor capacity)

def matchingPayload (report : List UInt8) :
    Except HidReportError (UInt8 × List UInt8) :=
  if descriptor.hasReportIds then
    match report with
    | [] => .error .reportIdMissing
    | reportId :: payload => .ok (reportId, payload)
  else
    .ok (0, report)

def addDomain (domains : HidReportDomains) (field : ReportField) :
    HidReportDomains :=
  if field.usagePage = usagePageKeyboard then
    { domains with keyboard := true }
  else if field.usagePage = usagePageButton then
    { domains with mouse := true }
  else if field.usagePage = usagePageGenericDesktop then
    if (field.indexOfUsage usageX).isSome ∨
        (field.indexOfUsage usageY).isSome ∨
        (field.indexOfUsage usageWheel).isSome then
      { domains with mouse := true }
    else
      domains
  else if field.usagePage = usagePageConsumer then
    let pan := field.usageMin = usageAcPan ∧ field.usageMax = usageAcPan
    { domains with
      mouse := domains.mouse ∨ (field.isVariable ∧ pan ∧ field.count = 1)
      consumer := domains.consumer ∨
        (¬ pan ∨ 1 < field.count ∨ ¬ field.isVariable) }
  else
    domains

def reportDomains (reportId : UInt8) : HidReportDomains :=
  (descriptor.fields.toList.filter fun field =>
    field.reportId = reportId ∧ !field.isConstant).foldl addDomain .empty

/-- The first variable field of a page with a usage, and where the usage
stands in it. -/
def fieldOf (reportId : UInt8) (usagePage usage : UInt16) :
    Option (ReportField × Nat) :=
  descriptor.fields.toList.findSome? fun field =>
    if field.reportId ≠ reportId ∨ field.isConstant ∨ !field.isVariable ∨
        field.usagePage ≠ usagePage then
      none
    else
      (field.indexOfUsage usage).map fun index => (field, index)

def extractI32 (payload : List UInt8) (reportId : UInt8)
    (usagePage usage : UInt16) : HidChecked (Option Int32) :=
  match descriptor.fieldOf reportId usagePage usage with
  | none => pure none
  | some (field, index) => field.extractI32 payload index

def extractBool (payload : List UInt8) (reportId : UInt8)
    (usagePage usage : UInt16) : HidChecked (Option Bool) :=
  match descriptor.fieldOf reportId usagePage usage with
  | none => pure none
  | some (field, index) => field.extractBool payload index

/-- The relative axes of a mouse, in the order they are written. -/
def motionAxes (movement : MouseMovement) : List (UInt16 × UInt16 × Int32) :=
  [(usagePageGenericDesktop, usageX, movement.x.toInt32),
    (usagePageGenericDesktop, usageY, movement.y.toInt32),
    (usagePageGenericDesktop, usageWheel, movement.wheel.toInt32),
    (usagePageConsumer, usageAcPan, movement.pan.toInt32)]

def rewriteAxis (reportId : UInt8) (progress : List UInt8 × Bool)
    (axis : UInt16 × UInt16 × Int32) : HidChecked (List UInt8 × Bool) :=
  match descriptor.fieldOf reportId axis.1 axis.2.1 with
  | none => pure progress
  | some (field, index) => do
      let (payload, wrote) ← field.writeI32 progress.1 index axis.2.2
      return (payload, progress.2 || wrote)

def rewriteRelativeMotion (report : List UInt8) (movement : MouseMovement)
    (out : List UInt8) : HidChecked (Nat × List UInt8) := do
  if out.length < report.length then
    throw .outputBufferTooSmall
  else do
    let (reportId, _) ← result (descriptor.matchingPayload report)
    let out := report ++ out.drop report.length
    let payloadOffset := descriptor.hasReportIds.toNat
    let payload ← sliced out payloadOffset report.length
    let (payload, wrote) ←
      (motionAxes movement).foldlM (descriptor.rewriteAxis reportId)
        (payload, false)
    if wrote then
      return (report.length,
        out.take payloadOffset ++ payload ++ out.drop report.length)
    else
      throw .motionFieldMissing

end HidReportDescriptor

inductive MouseButton
  | left
  | right
  | middle
  | back
  | forward
deriving Repr

inductive HidReportEvent
  | keyboardUsageDown (usage : UInt8)
  | mouseButtonDown (button : MouseButton)
  | mouseX (x : Int32)
  | mouseY (y : Int32)
  | mouseWheel (wheel : Int32)
  | mousePan (pan : Int32)
  | consumerUsageDown (usage : UInt16)

abbrev HidReportEvents (capacity : Nat) := BoundedVec HidReportEvent capacity

variable {fieldCapacity capacity : Nat}

def pushEvent (events : HidReportEvents capacity) (event : HidReportEvent) :
    HidChecked (HidReportEvents capacity) :=
  match events.push? event with
  | some events => pure events
  | none => throw .tooManyEvents

def pushSome (events : HidReportEvents capacity)
    (event : Option HidReportEvent) : HidChecked (HidReportEvents capacity) :=
  match event with
  | none => pure events
  | some event => pushEvent events event

def keyAt (field : ReportField) (index : Nat) (down : Option Bool) :
    Option HidReportEvent :=
  if down = some true then
    (field.usageAt index).bind fun usage =>
      if usage ≤ 255 then some (.keyboardUsageDown usage.toUInt8) else none
  else
    none

def keyNamed (usage : Option UInt32) : Option HidReportEvent :=
  usage.bind fun usage =>
    if 4 ≤ usage ∧ usage ≤ 255 then some (.keyboardUsageDown usage.toUInt8)
    else none

def consumerAt (field : ReportField) (index : Nat) (down : Option Bool) :
    Option HidReportEvent :=
  if down = some true then
    (field.usageAt index).bind fun usage =>
      if usage ≠ usageAcPan then some (.consumerUsageDown usage) else none
  else
    none

def consumerNamed (usage : Option UInt32) : Option HidReportEvent :=
  usage.bind fun usage =>
    if usage ≠ 0 ∧ usage ≤ 65535 then
      some (.consumerUsageDown usage.toUInt16)
    else
      none

/-- Reads every value of a field and pushes what it reports. -/
def decodeValues {α : Type} (extract : Nat → HidChecked α)
    (event : Nat → α → Option HidReportEvent) (count : Nat)
    (events : HidReportEvents capacity) :
    HidChecked (HidReportEvents capacity) :=
  (List.range count).foldlM (fun events index => do
    let value ← extract index
    pushSome events (event index value)) events

def decodeKeyboardField (payload : List UInt8)
    (events : HidReportEvents capacity) (field : ReportField) :
    HidChecked (HidReportEvents capacity) :=
  if field.isVariable ∧ field.bitSize = 1 then
    decodeValues (field.extractBool payload) (keyAt field) field.count.toNat
      events
  else if !field.isVariable then
    decodeValues (field.extractU32 payload) (fun _ => keyNamed)
      field.count.toNat events
  else
    pure events

def decodeConsumerField (payload : List UInt8)
    (events : HidReportEvents capacity) (field : ReportField) :
    HidChecked (HidReportEvents capacity) :=
  if field.isVariable then
    decodeValues (field.extractBool payload) (consumerAt field)
      field.count.toNat events
  else
    decodeValues (field.extractU32 payload) (fun _ => consumerNamed)
      field.count.toNat events

variable (descriptor : HidReportDescriptor fieldCapacity) (reportId : UInt8)
  (payload : List UInt8)

/-- The fields of one report and one page that are no padding. -/
def HidReportDescriptor.fieldsOf (usagePage : UInt16) : List ReportField :=
  descriptor.fields.toList.filter fun field =>
    field.reportId = reportId ∧ !field.isConstant ∧
      field.usagePage = usagePage

def decodeKeyboard (events : HidReportEvents capacity) :
    HidChecked (HidReportEvents capacity) :=
  (descriptor.fieldsOf reportId usagePageKeyboard).foldlM
    (decodeKeyboardField payload) events

/-- One axis of the mouse; no event when it did not move. -/
def decodeAxis (usagePage usage : UInt16) (event : Int32 → HidReportEvent)
    (events : HidReportEvents capacity) :
    HidChecked (HidReportEvents capacity) := do
  let value ← descriptor.extractI32 payload reportId usagePage usage
  pushSome events ((value.filter (· ≠ 0)).map event)

def mouseButtonUsages : List (UInt16 × MouseButton) :=
  [(1, .left), (2, .right), (3, .middle), (4, .back), (5, .forward)]

def decodeButton (events : HidReportEvents capacity)
    (button : UInt16 × MouseButton) :
    HidChecked (HidReportEvents capacity) := do
  let down ← descriptor.extractBool payload reportId usagePageButton button.1
  pushSome events
    (if down = some true then some (.mouseButtonDown button.2) else none)

def decodeMouse (events : HidReportEvents capacity) :
    HidChecked (HidReportEvents capacity) := do
  let events ← decodeAxis descriptor reportId payload usagePageGenericDesktop
    usageX .mouseX events
  let events ← decodeAxis descriptor reportId payload usagePageGenericDesktop
    usageY .mouseY events
  let events ← decodeAxis descriptor reportId payload usagePageGenericDesktop
    usageWheel .mouseWheel events
  let events ← decodeAxis descriptor reportId payload usagePageConsumer
    usageAcPan .mousePan events
  mouseButtonUsages.foldlM (decodeButton descriptor reportId payload) events

def decodeConsumer (events : HidReportEvents capacity) :
    HidChecked (HidReportEvents capacity) :=
  (descriptor.fieldsOf reportId usagePageConsumer).foldlM
    (decodeConsumerField payload) events

/-- The events of a report; what `events` held before is dropped. -/
def decodeReport (capacity : Nat) (report : List UInt8) :
    HidChecked (HidReportEvents capacity) := do
  let (reportId, payload) ← result (descriptor.matchingPayload report)
  let events ← decodeKeyboard descriptor reportId payload
    (.empty : HidReportEvents capacity)
  let events ← decodeMouse descriptor reportId payload events
  decodeConsumer descriptor reportId payload events

end HidShift
