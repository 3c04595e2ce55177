import HidShift.UsbHid
import HidShift.UsbHid.Report

/-! The parser of LED output reports (`usb_hid/output.rs`).  The descriptor
comes from the device and is not checked.  The sums of the parser are those of
the released build, which has no overflow checks. -/

namespace HidShift

open Lib
open Lib.Checked (endless indexed result sliced stored)

def usagePageLed : UInt16 := 0x08

def ledUsageNumLock : UInt16 := 0x01
def ledUsageCapsLock : UInt16 := 0x02
def ledUsageScrollLock : UInt16 := 0x03

def maxOutputReports : Nat := 16
def maxLocalUsages : Nat := 16
def maxGlobalStackDepth : Nat := 4

/-- `saturating_add` and `saturating_mul` -/
def saturated (value : Nat) : Nat := min value (usizeCount - 1)

def BitPos.fromBitOffset (bitOffset : Nat) : BitPos :=
  ⟨bitOffset / 8, (bitOffset % 8).toUInt8⟩

abbrev LedChecked := Checked KeyboardLedOutputError

section

variable {α : Type} {size : Nat}

/-- `values[index]` -/
def elementAt (values : Vector α size) (index : Nat) : LedChecked α :=
  ExceptT.lift values.toList[index]?

/-- `values[index] = value` -/
def replaced (values : Vector α size) (index : Nat) (value : α) :
    LedChecked (Vector α size) :=
  ExceptT.lift
    (if index < size then some (values.setIfInBounds index value) else none)

/-- `values[..count]` -/
def firstOf (values : Vector α size) (count : Nat) : LedChecked (List α) :=
  ExceptT.lift (if count ≤ size then some (values.toList.take count) else none)

end

structure GlobalState where
  usagePage : UInt16
  reportSize : UInt8
  reportCount : UInt16
  reportId : UInt8

def GlobalState.empty : GlobalState := ⟨0, 0, 0, 0⟩

structure LocalState where
  usages : Vector UInt16 maxLocalUsages
  usageCount : Nat
  usageMin : UInt16
  usageMax : UInt16
  hasUsageRange : Bool

namespace LocalState

def empty : LocalState := ⟨Vector.replicate maxLocalUsages 0, 0, 0, 0, false⟩

def usageAt (locals : LocalState) (index : Nat) : LedChecked (Option UInt16) :=
  if locals.hasUsageRange then
    let usage := locals.usageMin.toNat + index.toUInt16.toNat
    if usage < 65536 ∧ usage ≤ locals.usageMax.toNat then
      return some usage.toUInt16
    else
      return none
  else if index < locals.usageCount then do
    let usage ← elementAt locals.usages index
    return some usage
  else
    return none

end LocalState

structure OutputReportState where
  reportId : UInt8
  bitLen : Nat
  numLockBit : Option BitPos
  capsLockBit : Option BitPos
  scrollLockBit : Option BitPos

namespace OutputReportState

def empty : OutputReportState := ⟨0, 0, none, none, none⟩

def hasKeyboardLeds (report : OutputReportState) : Bool :=
  report.numLockBit.isSome || report.capsLockBit.isSome ||
    report.scrollLockBit.isSome

def setUsage (report : OutputReportState) (usage : UInt16) (bit : BitPos) :
    OutputReportState :=
  if usage = ledUsageNumLock then { report with numLockBit := some bit }
  else if usage = ledUsageCapsLock then
    { report with capsLockBit := some bit }
  else if usage = ledUsageScrollLock then
    { report with scrollLockBit := some bit }
  else report

end OutputReportState

structure OutputReportParser where
  globals : GlobalState
  locals : LocalState
  globalStack : Vector GlobalState maxGlobalStackDepth
  globalStackLen : Nat
  reports : Vector OutputReportState maxOutputReports
  reportCount : Nat
  hasReportIds : Bool
  collectionDepth : Nat
  keyboardApplicationDepth : Option Nat

/-- What the parser gives: a report that nothing has checked yet. -/
structure ParsedLedOutput where
  reportId : Option UInt8
  byteLen : Nat
  numLockBit : Option BitPos
  capsLockBit : Option BitPos
  scrollLockBit : Option BitPos
deriving DecidableEq

namespace OutputReportParser

def new : OutputReportParser where
  globals := .empty
  locals := .empty
  globalStack := Vector.replicate maxGlobalStackDepth .empty
  globalStackLen := 0
  reports := Vector.replicate maxOutputReports .empty
  reportCount := 0
  hasReportIds := false
  collectionDepth := 0
  keyboardApplicationDepth := none

/-- The report of an id, which is a new one if there is room for it. -/
def reportIndex (parser : OutputReportParser) (reportId : UInt8) :
    LedChecked (Option Nat × OutputReportParser) := do
  let reports ← firstOf parser.reports parser.reportCount
  match reports.findIdx? fun report => report.reportId = reportId with
  | some index => return (some index, parser)
  | none =>
      if parser.reportCount = maxOutputReports then
        return (none, parser)
      else
        let index := parser.reportCount
        let report ← elementAt parser.reports index
        let reports ← replaced parser.reports index
          { report with reportId := reportId }
        return (some index, { parser with
          reports := reports
          reportCount := parser.reportCount + 1 })

/-- One round of the loop over the values of an output item. -/
def placeUsage (locals : LocalState) (bitOffset : Nat)
    (report : OutputReportState) (index : Nat) :
    LedChecked OutputReportState := do
  match ← locals.usageAt index with
  | none => return report
  | some usage =>
      -- The sum wraps in the released build.
      return report.setUsage usage
        (.fromBitOffset ((bitOffset + index) % usizeCount))

def parseOutput (parser : OutputReportParser) (flags : UInt8) :
    LedChecked OutputReportParser := do
  let reportSize := parser.globals.reportSize.toNat
  let reportCount := parser.globals.reportCount.toNat
  match ← parser.reportIndex parser.globals.reportId with
  | (none, parser) => return { parser with locals := .empty }
  | (some reportIndex, parser) =>
      let report ← elementAt parser.reports reportIndex
      let bitOffset := report.bitLen
      let report := { report with
        bitLen := saturated (bitOffset + saturated (reportSize * reportCount)) }
      let isConstant := flags &&& 0x01 ≠ 0
      let isVariable := flags &&& 0x02 ≠ 0
      let report ←
        if ¬ isConstant ∧ isVariable ∧ reportSize = 1 ∧
            parser.globals.usagePage = usagePageLed ∧
              parser.keyboardApplicationDepth.isSome then
          (List.range reportCount).foldlM
            (placeUsage parser.locals bitOffset) report
        else
          pure report
      let reports ← replaced parser.reports reportIndex report
      return { parser with reports := reports, locals := .empty }

def beginCollection (parser : OutputReportParser) (collectionType : UInt8) :
    LedChecked OutputReportParser := do
  let depth := saturated (parser.collectionDepth + 1)
  if collectionType = 0x01 then
    let usage ← parser.locals.usageAt 0
    return { parser with
      collectionDepth := depth
      keyboardApplicationDepth :=
        if parser.globals.usagePage = 0x01 ∧
            (usage = some 0x06 ∨ usage = some 0x07) then
          some depth
        else
          parser.keyboardApplicationDepth
      locals := .empty }
  else
    return { parser with collectionDepth := depth, locals := .empty }

def endCollection (parser : OutputReportParser) : OutputReportParser :=
  { parser with
    keyboardApplicationDepth :=
      if parser.keyboardApplicationDepth = some parser.collectionDepth then
        none
      else
        parser.keyboardApplicationDepth
    collectionDepth := parser.collectionDepth - 1
    locals := .empty }

def pushGlobals (parser : OutputReportParser) :
    LedChecked OutputReportParser :=
  if parser.globalStackLen < maxGlobalStackDepth then do
    let globalStack ← replaced parser.globalStack parser.globalStackLen
      parser.globals
    return { parser with
      globalStack := globalStack
      globalStackLen := parser.globalStackLen + 1 }
  else
    return parser

def popGlobals (parser : OutputReportParser) :
    LedChecked OutputReportParser :=
  if 0 < parser.globalStackLen then do
    let globals ← elementAt parser.globalStack (parser.globalStackLen - 1)
    return { parser with
      globals := globals
      globalStackLen := parser.globalStackLen - 1 }
  else
    return parser

def addUsage (parser : OutputReportParser) (usage : UInt16) :
    LedChecked OutputReportParser :=
  if parser.locals.usageCount < maxLocalUsages then do
    let usages ← replaced parser.locals.usages parser.locals.usageCount usage
    return { parser with locals := { parser.locals with
      usages := usages
      usageCount := parser.locals.usageCount + 1 } }
  else
    return parser

def parseItem (parser : OutputReportParser) (itemType tag : UInt8)
    (data : UInt32) : LedChecked OutputReportParser :=
  if itemType = 1 then
    if tag = 0 then
      return { parser with globals := { parser.globals with
        usagePage := data.toUInt16 } }
    else if tag = 7 then
      return { parser with globals := { parser.globals with
        reportSize := data.toUInt8 } }
    else if tag = 8 then
      return { parser with
        globals := { parser.globals with reportId := data.toUInt8 }
        hasReportIds := true }
    else if tag = 9 then
      return { parser with globals := { parser.globals with
        reportCount := data.toUInt16 } }
    else if tag = 10 then parser.pushGlobals
    else if tag = 11 then parser.popGlobals
    else return parser
  else if itemType = 2 then
    if tag = 0 then parser.addUsage data.toUInt16
    else if tag = 1 then
      return { parser with locals := { parser.locals with
        usageMin := data.toUInt16, hasUsageRange := true } }
    else if tag = 2 then
      return { parser with locals := { parser.locals with
        usageMax := data.toUInt16, hasUsageRange := true } }
    else return parser
  else if itemType = 0 then
    if tag = 9 then parser.parseOutput data.toUInt8
    else if tag = 10 then parser.beginCollection data.toUInt8
    else if tag = 12 then return parser.endCollection
    else if tag = 8 ∨ tag = 11 then
      return { parser with locals := .empty }
    else return parser
  else return parser

def itemData (bytes : List UInt8) : UInt32 :=
  bytes.zipIdx.foldl
    (fun data byte => data ||| (byte.1.toUInt32 <<< (byte.2 * 8).toUInt32)) 0

/-- The item at an offset: where the next one starts, and its type, tag and
data unless it is a long one.  A descriptor that ends inside an item has no
more. -/
def nextItem (descriptor : List UInt8) (offset : Nat) :
    LedChecked (Option (Nat × Option (UInt8 × UInt8 × UInt32))) := do
  let itemPrefix ← indexed descriptor offset
  let offset := offset + 1
  if itemPrefix = 0xfe then
    if descriptor.length < offset + 2 then
      return none
    else do
      let length ← indexed descriptor offset
      let next := offset + 2 + length.toNat
      -- `checked_add`
      if usizeCount ≤ next ∨ descriptor.length < next then return none
      else return some (next, none)
  else
    let size := if itemPrefix &&& 0x03 = 3 then 4
      else (itemPrefix &&& 0x03).toNat
    if descriptor.length < offset + size then
      return none
    else do
      let bytes ← sliced descriptor offset (offset + size)
      return some (offset + size, some ((itemPrefix >>> 2) &&& 0x03,
        itemPrefix >>> 4, itemData bytes))

def parseNext (parser : OutputReportParser)
    (item : Option (UInt8 × UInt8 × UInt32)) : LedChecked OutputReportParser :=
  match item with
  | none => return parser
  | some (itemType, tag, data) => parser.parseItem itemType tag data

def parseFrom (descriptor : List UInt8) :
    Nat → Nat → OutputReportParser → LedChecked OutputReportParser
  | 0, offset, parser =>
      if offset < descriptor.length then endless else pure parser
  | fuel + 1, offset, parser =>
      if offset < descriptor.length then do
        match ← nextItem descriptor offset with
        | none => return parser
        | some (next, item) =>
            let parser ← parser.parseNext item
            parseFrom descriptor fuel next parser
      else
        pure parser

def parse (parser : OutputReportParser) (descriptor : List UInt8) :
    LedChecked OutputReportParser :=
  parseFrom descriptor descriptor.length 0 parser

def keyboardLedReport (parser : OutputReportParser) :
    LedChecked ParsedLedOutput := do
  let reports ← firstOf parser.reports parser.reportCount
  match reports.find? OutputReportState.hasKeyboardLeds with
  | none => throw .missingLedUsages
  | some report =>
      let payloadLen := (report.bitLen + 7) / 8
      let byteLen := payloadLen + parser.hasReportIds.toNat
      if maxKeyboardLedOutputReportLen < byteLen then
        throw .reportTooLong
      else
        return {
          reportId := if parser.hasReportIds then some report.reportId
            else none
          byteLen := byteLen
          numLockBit := report.numLockBit
          capsLockBit := report.capsLockBit
          scrollLockBit := report.scrollLockBit }

end OutputReportParser

namespace ParsedLedOutput

def fromReportDescriptor (descriptor : List UInt8) :
    LedChecked ParsedLedOutput := do
  let parser ← OutputReportParser.new.parse descriptor
  parser.keyboardLedReport

def setLedBit (bytes : List UInt8) (dataOffset : Nat)
    (bitPos : Option BitPos) (enabled : Bool) : LedChecked (List UInt8) :=
  match bitPos with
  | none => pure bytes
  | some position => do
      let byteIndex := dataOffset + position.byteIndex
      let byte ← indexed bytes byteIndex
      let mask : UInt8 := 1 <<< position.bitIndex
      stored bytes byteIndex (if enabled then byte ||| mask
        else byte &&& ~~~mask)

/-- `build`, and the slice of the bytes that are sent. -/
def build (report : ParsedLedOutput) (leds : KeyboardLedState) :
    LedChecked (List UInt8) :=
  if maxKeyboardLedOutputReportLen < report.byteLen then
    throw .reportTooLong
  else do
    let bytes : List UInt8 := List.replicate maxKeyboardLedOutputReportLen 0
    let (bytes, dataOffset) ← match report.reportId with
      | some reportId => do
          let bytes ← stored bytes 0 reportId
          pure (bytes, 1)
      | none => pure (bytes, 0)
    let bytes ← setLedBit bytes dataOffset report.numLockBit (leds.getLsbD 0)
    let bytes ← setLedBit bytes dataOffset report.capsLockBit (leds.getLsbD 1)
    let bytes ← setLedBit bytes dataOffset report.scrollLockBit (leds.getLsbD 2)
    sliced bytes 0 report.byteLen

end ParsedLedOutput

end HidShift
