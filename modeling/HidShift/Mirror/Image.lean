import HidShift.Lib.PrefixCode
import HidShift.Mirror.ProfileStore
import HidShift.UsbHid.Report

/-! The image of a mirrored device (`mirror/image.rs`, `mirror/parser.rs`): a
header with a checksum, three descriptors, and two tables of records. -/

namespace HidShift

open Lib Lib.Checked

/-- The letters `HSMI`. -/
def hsmiMagic : Vector UInt8 4 := readArray 4 [0x48, 0x53, 0x4d, 0x49]

def hsmiVersion : UInt16 := 1

def hsmiHeaderLen : Nat := 32

def stringRecordHeaderLen : Nat := 5

def hidReportRecordHeaderLen : Nat := 3

structure MirrorImageHeader where
  magic : Vector UInt8 4
  version : UInt16
  headerLength : UInt16
  totalLength : UInt32
  imageCrc32 : UInt32
  flags : UInt32
  deviceLength : UInt16
  configurationLength : UInt16
  bosLength : UInt16
  stringCount : UInt8
  hidReportCount : UInt8
  reserved : Vector UInt8 4

namespace MirrorImageHeader

/-- An error stands for `None`. -/
def decode (bytes : List UInt8) : Checked Unit MirrorImageHeader :=
  if bytes.length < hsmiHeaderLen then throw ()
  else do
    let magic ← field 4 bytes 0
    let version ← field 2 bytes 4
    let headerLength ← field 2 bytes 6
    let totalLength ← field 4 bytes 8
    let imageCrc32 ← field 4 bytes 12
    let flags ← field 4 bytes 16
    let deviceLength ← field 2 bytes 20
    let configurationLength ← field 2 bytes 22
    let bosLength ← field 2 bytes 24
    let stringCount ← indexed bytes 26
    let hidReportCount ← indexed bytes 27
    let reserved ← field 4 bytes 28
    return { magic := readArray 4 magic
             version := readU16 version
             headerLength := readU16 headerLength
             totalLength := readU32 totalLength
             imageCrc32 := readU32 imageCrc32
             flags := readU32 flags
             deviceLength := readU16 deviceLength
             configurationLength := readU16 configurationLength
             bosLength := readU16 bosLength
             stringCount
             hidReportCount
             reserved := readArray 4 reserved }

def encode (header : MirrorImageHeader) : List UInt8 :=
  header.magic.toList ++ (writeU16 header.version ++
    (writeU16 header.headerLength ++ (writeU32 header.totalLength ++
      (writeU32 header.imageCrc32 ++ (writeU32 header.flags ++
        (writeU16 header.deviceLength ++
          (writeU16 header.configurationLength ++
            (writeU16 header.bosLength ++
              (header.stringCount :: header.hidReportCount ::
                header.reserved.toList)))))))))

end MirrorImageHeader

structure StringRecord where
  index : UInt8
  langId : UInt16
  descriptor : List UInt8

structure HidReportRecord where
  interfaceNumber : UInt8
  descriptor : List UInt8

structure RecordTable where
  remaining : List UInt8
  count : UInt8

namespace RecordTable

variable {α : Type}

/-- The length of the descriptor stands at `lengthAt` in the header of a
record. -/
def next (headerLength lengthAt : Nat)
    (record : List UInt8 → List UInt8 → α) (table : RecordTable) :
    Option α × RecordTable :=
  if table.count = 0 ∨ table.remaining.length < headerLength then
    (none, table)
  else
    let length := (readU16 (slice table.remaining lengthAt 2)).toNat
    let stop := headerLength + length
    if table.remaining.length < stop then (none, { table with count := 0 })
    else
      (some (record table.remaining
          (slice table.remaining headerLength length)),
        { remaining := table.remaining.drop stop
          count := table.count - 1 })

/-- The items of an iterator up to its first `None`. -/
def collect (next : RecordTable → Option α × RecordTable) :
    Nat → RecordTable → List α
  | 0, _ => []
  | fuel + 1, table =>
      match (next table).1 with
      | none => []
      | some item => item :: collect next fuel (next table).2

end RecordTable

def StringRecords.next : RecordTable → Option StringRecord × RecordTable :=
  RecordTable.next stringRecordHeaderLen 3 fun bytes descriptor =>
    { index := byteAt bytes 0
      langId := readU16 (slice bytes 1 2)
      descriptor }

def HidReportRecords.next :
    RecordTable → Option HidReportRecord × RecordTable :=
  RecordTable.next hidReportRecordHeaderLen 1 fun bytes descriptor =>
    { interfaceNumber := byteAt bytes 0
      descriptor }

structure MirrorImage where
  header : MirrorImageHeader
  deviceDescriptor : List UInt8
  configurationDescriptor : List UInt8
  bosDescriptor : List UInt8
  stringRecords : List UInt8
  hidReportRecords : List UInt8

namespace MirrorImage

variable (image : MirrorImage)

/-- Every item takes one off the count, so there are at most so many. -/
def strings : List StringRecord :=
  RecordTable.collect StringRecords.next image.header.stringCount.toNat
    { remaining := image.stringRecords, count := image.header.stringCount }

def hidReports : List HidReportRecord :=
  RecordTable.collect HidReportRecords.next image.header.hidReportCount.toNat
    { remaining := image.hidReportRecords
      count := image.header.hidReportCount }

end MirrorImage

structure MirrorImageSource where
  flags : UInt32
  deviceDescriptor : List UInt8
  configurationDescriptor : List UInt8
  bosDescriptor : List UInt8
  strings : List StringRecord
  hidReports : List HidReportRecord

inductive MirrorImageEncodeError
  | tooLarge
  | outputTooSmall
  | lengthOverflow
  | tooManyRecords
deriving DecidableEq

def mirrorImageCrc32 (bytes : List UInt8) : UInt32 :=
  ~~~ (bytes.mapIdx fun index byte =>
    if 12 ≤ index ∧ index < 16 then 0 else byte).foldl crcByte 0xffffffff

/-- `checked_add` -/
def addedLength (left right : Nat) : Except MirrorImageEncodeError Nat :=
  if left + right < usizeCount then .ok (left + right)
  else .error .lengthOverflow

def recordsLength (headerLength : Nat) (descriptors : List (List UInt8)) :
    Except MirrorImageEncodeError Nat :=
  descriptors.foldlM (fun total descriptor => do
    addedLength (← addedLength total headerLength) descriptor.length) 0

def lengthU16 (length : Nat) : Except MirrorImageEncodeError UInt16 :=
  if length < 65536 then .ok (UInt16.ofNat length) else .error .lengthOverflow

def countU8 (count : Nat) : Except MirrorImageEncodeError UInt8 :=
  if count < 256 then .ok (UInt8.ofNat count) else .error .tooManyRecords

namespace MirrorImageSource

variable (source : MirrorImageSource)

/-- What `serialize_mirror_image` checks before it writes. -/
def header (room : Nat) : Except MirrorImageEncodeError MirrorImageHeader :=
  do
  let stringsLength ← recordsLength stringRecordHeaderLen
    (source.strings.map StringRecord.descriptor)
  let reportsLength ← recordsLength hidReportRecordHeaderLen
    (source.hidReports.map HidReportRecord.descriptor)
  let total ← addedLength hsmiHeaderLen source.deviceDescriptor.length
  let total ← addedLength total source.configurationDescriptor.length
  let total ← addedLength total source.bosDescriptor.length
  let total ← addedLength total stringsLength
  let total ← addedLength total reportsLength
  if hsmiMaxSize < total then .error .tooLarge
  else if room < total then .error .outputTooSmall
  else do
    let deviceLength ← lengthU16 source.deviceDescriptor.length
    let configurationLength ← lengthU16 source.configurationDescriptor.length
    let bosLength ← lengthU16 source.bosDescriptor.length
    let stringCount ← countU8 source.strings.length
    let hidReportCount ← countU8 source.hidReports.length
    return { magic := hsmiMagic
             version := hsmiVersion
             headerLength := UInt16.ofNat hsmiHeaderLen
             totalLength := UInt32.ofNat total
             imageCrc32 := 0
             flags := source.flags
             deviceLength
             configurationLength
             bosLength
             stringCount
             hidReportCount
             reserved := Vector.replicate 4 0 }

end MirrorImageSource

structure ImageCursor where
  offset : Nat
  out : List UInt8

abbrev ImageWriter (α : Type) := Checked MirrorImageEncodeError α

namespace ImageCursor

def copy (cursor : ImageCursor) (bytes : List UInt8) :
    ImageWriter ImageCursor := do
  let stop := cursor.offset + bytes.length
  return { offset := stop, out := ← placed cursor.out cursor.offset stop bytes }

def placeString (cursor : ImageCursor) (record : StringRecord) :
    ImageWriter ImageCursor := do
  let offset := cursor.offset
  let out ← stored cursor.out offset record.index
  let out ← placed out (offset + 1) (offset + 3) (writeU16 record.langId)
  let length ← result (lengthU16 record.descriptor.length)
  let out ← placed out (offset + 3) (offset + 5) (writeU16 length)
  copy { offset := offset + stringRecordHeaderLen, out } record.descriptor

def placeHidReport (cursor : ImageCursor) (record : HidReportRecord) :
    ImageWriter ImageCursor := do
  let offset := cursor.offset
  let out ← stored cursor.out offset record.interfaceNumber
  let length ← result (lengthU16 record.descriptor.length)
  let out ← placed out (offset + 1) (offset + 3) (writeU16 length)
  copy { offset := offset + hidReportRecordHeaderLen, out } record.descriptor

end ImageCursor

/-- The length of the image, and what becomes of the output buffer. -/
def serializeMirrorImage (source : MirrorImageSource) (out : List UInt8) :
    ImageWriter (Nat × List UInt8) := do
  let header ← result (source.header out.length)
  let total := header.totalLength.toNat
  let out ← placed out 0 total (List.replicate total 0)
  let out ← placed out 0 hsmiHeaderLen header.encode
  let cursor ← [source.deviceDescriptor, source.configurationDescriptor,
    source.bosDescriptor].foldlM ImageCursor.copy
      { offset := hsmiHeaderLen, out }
  let cursor ← source.strings.foldlM ImageCursor.placeString cursor
  let cursor ← source.hidReports.foldlM ImageCursor.placeHidReport cursor
  let image ← sliced cursor.out 0 total
  let out ← placed cursor.out 12 16 (writeU32 (mirrorImageCrc32 image))
  return (total, out)

inductive MirrorImageParseError
  | imageTooLarge
  | truncated
  | invalidMagic
  | unsupportedVersion
  | invalidHeaderLength
  | invalidTotalLength
  | invalidReservedBytes
  | invalidRecordLength
  | crcMismatch
  | trailingBytes
deriving Repr

abbrev ImageReader (α : Type) := Checked MirrorImageParseError α

/-- What `take` returns, and where it leaves the offset. -/
structure TakenBytes where
  value : List UInt8
  offset : Nat

def takeBytes (bytes : List UInt8) (offset length : Nat) :
    Except MirrorImageParseError TakenBytes :=
  let stop := offset + length
  if usizeCount ≤ stop then .error .invalidRecordLength
  else if stop ≤ bytes.length then
    .ok { value := slice bytes offset length, offset := stop }
  else .error .truncated

/-- Goes past `count` records; the length of a descriptor stands at `lengthAt`
in the header of its record. -/
def skipRecords (bytes : List UInt8) (headerLength lengthAt : Nat) :
    Nat → Nat → ImageReader Nat
  | 0, offset => pure offset
  | count + 1, offset => do
      let recordHeader ← result (takeBytes bytes offset headerLength)
      let low ← indexed recordHeader.value lengthAt
      let high ← indexed recordHeader.value (lengthAt + 1)
      let descriptor ← result (takeBytes bytes recordHeader.offset
        (readU16 [low, high]).toNat)
      skipRecords bytes headerLength lengthAt count descriptor.offset

/-- The checks of the header.  `usize::try_from` of the total length cannot
fail. -/
def MirrorImageHeader.check (header : MirrorImageHeader)
    (bytes : List UInt8) : Except MirrorImageParseError Unit :=
  let totalLength := header.totalLength.toNat
  if header.magic ≠ hsmiMagic then .error .invalidMagic
  else if header.version ≠ hsmiVersion then .error .unsupportedVersion
  else if header.headerLength.toNat ≠ hsmiHeaderLen then
    .error .invalidHeaderLength
  else if ¬ (hsmiHeaderLen ≤ totalLength ∧ totalLength ≤ hsmiMaxSize) then
    .error .invalidTotalLength
  else if bytes.length < totalLength then .error .truncated
  else if totalLength < bytes.length then .error .trailingBytes
  else if header.reserved ≠ Vector.replicate 4 0 then
    .error .invalidReservedBytes
  else if mirrorImageCrc32 bytes ≠ header.imageCrc32 then .error .crcMismatch
  else .ok ()

def parseBody (header : MirrorImageHeader) (bytes : List UInt8) :
    ImageReader MirrorImage := do
  let device ← result (takeBytes bytes hsmiHeaderLen header.deviceLength.toNat)
  let configuration ← result
    (takeBytes bytes device.offset header.configurationLength.toNat)
  let bos ← result (takeBytes bytes configuration.offset header.bosLength.toNat)
  let stringStop ← skipRecords bytes stringRecordHeaderLen 3
    header.stringCount.toNat bos.offset
  let stringRecords ← sliced bytes bos.offset stringStop
  let reportStop ← skipRecords bytes hidReportRecordHeaderLen 1
    header.hidReportCount.toNat stringStop
  let hidReportRecords ← sliced bytes stringStop reportStop
  if reportStop ≠ header.totalLength.toNat then throw .trailingBytes
  else
    return { header
             deviceDescriptor := device.value
             configurationDescriptor := configuration.value
             bosDescriptor := bos.value
             stringRecords
             hidReportRecords }

def parseMirrorImage (bytes : List UInt8) : ImageReader MirrorImage :=
  if hsmiMaxSize < bytes.length then throw .imageTooLarge
  else do
    let header ← mapError (fun _ => .truncated) (MirrorImageHeader.decode bytes)
    result (header.check bytes)
    parseBody header bytes

end HidShift
